set_option autoImplicit false

/-! # Patterns

A pattern is a regular expression whose choices are ordered: of the ways to match a text from its
start, the first one counts. A repetition would rather go on than stop, or the other way round if
it is lazy. `Pattern.holds` tells whether the way that counts reaches the end of the text.

All ways are followed at once, character by character: a list of patterns for the rest of the
text, the preferred ones first. A way that ends makes those after it pointless.
-/

namespace LanguageBridge

/-- A class of characters. -/
inductive CharClass where
  | none
  | range (first last : Char)
  | either (a b : CharClass)
  | both (a b : CharClass)
  | butNot (a b : CharClass)
  | oneOf (a b : CharClass)
  | other (a : CharClass)
  /-- The class with the other case of its ASCII letters. -/
  | anyCase (a : CharClass)
deriving DecidableEq, Repr

namespace CharClass

/-- The other case of an ASCII letter. -/
def swapCase (c : Char) : Char := if c.isUpper then c.toLower else c.toUpper

/-- Whether a character belongs to a class. -/
def contains : CharClass → Char → Bool
  | none, _ => false
  | range first last, c => first ≤ c && c ≤ last
  | either a b, c => a.contains c || b.contains c
  | both a b, c => a.contains c && b.contains c
  | butNot a b, c => a.contains c && !b.contains c
  | oneOf a b, c => a.contains c != b.contains c
  | other a, c => !a.contains c
  | anyCase a, c => a.contains c || a.contains (swapCase c)

/-- The class of a single character. -/
def only (c : Char) : CharClass := range c c

/-- The class of some ranges. -/
def ofRanges (ranges : List (Char × Char)) : CharClass :=
  ranges.foldr (fun r a => either (range r.1 r.2) a) none

/-- The characters of words. -/
def word : CharClass := ofRanges [('a', 'z'), ('A', 'Z'), ('0', '9'), ('_', '_')]

end CharClass

/-- A place between two characters. -/
inductive Place where
  | textStart
  | textEnd
  | lineStart
  | lineEnd
  /-- The start of a line where a carriage return ends lines, too. -/
  | rowStart
  | rowEnd
  | wordEdge
  | noWordEdge
  | wordStart
  | wordEnd
deriving DecidableEq, Repr

/-- Whether a place is between a character and the next one. -/
def Place.isAt (prev next : Option Char) : Place → Bool
  | textStart => prev.isNone
  | textEnd => next.isNone
  | lineStart => prev.all (· == '\n')
  | lineEnd => next.all (· == '\n')
  | rowStart => prev.all (· == '\n') || (prev == some '\r' && next != some '\n')
  | rowEnd => next.all (· == '\r') || (next == some '\n' && prev != some '\r')
  | wordEdge => prev.any CharClass.word.contains != next.any CharClass.word.contains
  | noWordEdge => prev.any CharClass.word.contains == next.any CharClass.word.contains
  | wordStart => !prev.any CharClass.word.contains && next.any CharClass.word.contains
  | wordEnd => prev.any CharClass.word.contains && !next.any CharClass.word.contains

/-- A regular expression. -/
inductive Pattern where
  | empty
  | char (a : CharClass)
  | place (p : Place)
  | seq (a b : Pattern)
  | alt (a b : Pattern)
  /-- Once more, or not; a lazy one would rather not. -/
  | option (a : Pattern) (lazy : Bool)
  /-- Any number of times more. -/
  | again (a : Pattern) (lazy : Bool)
  /-- At least once. -/
  | plus (a : Pattern) (lazy : Bool)
deriving DecidableEq, Repr

namespace Pattern

/-- How a way of matching begins: it ends here, or it goes over a character. -/
inductive Ahead where
  | done
  | take (a : CharClass) (rest : Pattern)

/-- A pattern before another one. -/
def before : Pattern → Pattern → Pattern
  | empty, b => b
  | a, b => seq a b

/-- Some ways and the one that stops, in the order of preference. -/
def orStop (lazy : Bool) (ways : List Ahead) : List Ahead :=
  if lazy then .done :: ways else ways ++ [.done]

/-- How the ways of a pattern begin between two characters, the preferred ones first. A
repetition does not go around without a character. -/
def ahead (prev next : Option Char) : Pattern → List Ahead
  | empty => [.done]
  | char a => [.take a .empty]
  | place p => if p.isAt prev next then [.done] else []
  | seq a b => (ahead prev next a).flatMap fun
    | .done => ahead prev next b
    | .take c rest => [.take c (rest.before b)]
  | alt a b => ahead prev next a ++ ahead prev next b
  | option a lazy => orStop lazy (ahead prev next a)
  | again a lazy => orStop lazy <| (ahead prev next a).filterMap fun
    | .done => none
    | .take c rest => some (.take c (rest.before (again a lazy)))
  | plus a lazy => (ahead prev next a).map fun
    | .done => .done
    | .take c rest => .take c (rest.before (again a lazy))

/-- Whether a pattern can match without a character. -/
def canBeEmpty : Pattern → Bool
  | empty => true
  | char _ => false
  | place _ => true
  | seq a b => a.canBeEmpty && b.canBeEmpty
  | alt a b => a.canBeEmpty || b.canBeEmpty
  | option _ _ => true
  | again _ _ => true
  | plus a _ => a.canBeEmpty

/-- Any number of times. An empty round has its place among the choices of the first round. -/
def star (a : Pattern) (lazy : Bool) : Pattern :=
  if a.canBeEmpty then option (plus a lazy) lazy else again a lazy

/-- The ways that are preferred to the first one that ends. -/
def unfinished (ways : List Ahead) : List (CharClass × Pattern) :=
  match ways with
  | [] => []
  | .done :: _ => []
  | .take a rest :: others => (a, rest) :: unfinished others

/-- Whether one of the ways through the rest of a text that counts reaches its end. -/
def reaches (ways : List Pattern) (prev : Option Char) : List Char → Bool
  | [] => (ways.flatMap (ahead prev none)).any fun
    | .done => true
    | .take _ _ => false
  | c :: rest =>
    let taken := unfinished (ways.flatMap (ahead prev (some c)))
    reaches ((taken.filter (·.1.contains c)).map (·.2)).eraseDups (some c) rest

/-- Whether the way of matching that counts goes over the whole text. -/
def holds (p : Pattern) (text : String) : Bool := reaches [p] none text.toList

end Pattern
end LanguageBridge
