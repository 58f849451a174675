import LanguageBridge.Pattern.Basic
import LanguageBridge.Text.Bytes

set_option autoImplicit false

/-! # The written form of patterns

`Pattern.parse?` reads a regular expression with the usual operators, groups, classes and flags.
Classes are those of ASCII: where a pattern stands for all characters, which is so unless the flag
`u` is off, those that depend on a table of all characters are refused. A pattern without that
flag must not match parts of characters, so it has no dot and no class beyond ASCII. Numbers of
repetitions are refused as well.
-/

namespace LanguageBridge.Pattern

/-- The flags of a part of a pattern. -/
structure Mode where
  ignoresCase : Bool
  byLine : Bool
  dotIsAll : Bool
  swapsLazy : Bool
  unicode : Bool
  spaced : Bool
  /-- A carriage return ends lines, too. -/
  byRow : Bool
deriving DecidableEq, Repr

/-- The flags at the start of a pattern. -/
def Mode.usual : Mode := ⟨false, false, false, false, true, false, false⟩

/-- Sets a flag. -/
def Mode.set? (m : Mode) (on : Bool) : Char → Option Mode
  | 'i' => some { m with ignoresCase := on }
  | 'm' => some { m with byLine := on }
  | 's' => some { m with dotIsAll := on }
  | 'U' => some { m with swapsLazy := on }
  | 'u' => some { m with unicode := on }
  | 'x' => some { m with spaced := on }
  | 'R' => some { m with byRow := on }
  | _ => none

/-- Drops blanks and comments where the flags allow them. -/
def skipSpace (m : Mode) : Bool → List Char → List Char
  | _, [] => []
  | comment, c :: rest =>
    if !m.spaced then c :: rest
    else if comment then skipSpace m (c ≠ '\n') rest
    else if c = '#' then skipSpace m true rest
    else if c = ' ' ∨ ('\t' ≤ c ∧ c ≤ '\r') ∨ c = '\u0085' ∨ c = '\u200e' ∨ c = '\u200f' ∨
        c = '\u2028' ∨ c = '\u2029' then skipSpace m false rest
    else c :: rest

/-! ## Single characters and classes -/

/-- What stands after a backslash. -/
inductive Escaped where
  | literal (c : Char)
  | ofClass (a : CharClass)
  | ofPlace (p : Place)

/-- Whether a member of a class is whole where the flag `u` is off. -/
def Escaped.isAllowed (m : Mode) : Escaped → Bool
  | .literal c => m.unicode || c.toNat < 0x80
  | _ => true

/-- The character that a fixed number of hexadecimal digits denote. -/
def hexChar? (count : Nat) (s : List Char) : Option (Char × List Char) := do
  let digits := s.take count
  if digits.length < count then none
  let n ← digits.foldlM (fun n c => do return n * 16 + (← Text.hexValue? c)) 0
  if n.isValidChar then some (Char.ofNat n, s.drop count) else none

/-- Whether a character other than a letter or digit can stand after a backslash for itself. -/
def canBeEscaped (c : Char) : Bool := c.toNat < 0x80 && !c.isAlphanum

/-- A class whose members depend on the flag `u`. -/
def tableClass? (m : Mode) (a : CharClass) : Option Escaped :=
  if m.unicode || a.contains '\u0080' then none else some (.ofClass a)

/-- A place whose meaning depends on the flag `u`. -/
def tablePlace? (m : Mode) (p : Place) : Option Escaped :=
  if m.unicode then none else some (.ofPlace p)

/-- The blanks of ASCII. -/
def blanks : CharClass := .ofRanges [('\t', '\r'), (' ', ' ')]

/-- Reads what stands after a backslash. -/
def escaped? (m : Mode) (s : List Char) : Option (Escaped × List Char) :=
  let literal (r : Char × List Char) := (Escaped.literal r.1, r.2)
  match s with
  | [] => none
  | 'x' :: rest => ((hexChar? 2 rest).map literal).filter fun r => r.1.isAllowed m
  | 'u' :: rest => (hexChar? 4 rest).map literal
  | 'U' :: rest => (hexChar? 8 rest).map literal
  | 'd' :: rest => (tableClass? m (.range '0' '9')).map (·, rest)
  | 'D' :: rest => (tableClass? m (.other (.range '0' '9'))).map (·, rest)
  | 's' :: rest => (tableClass? m blanks).map (·, rest)
  | 'S' :: rest => (tableClass? m (.other blanks)).map (·, rest)
  | 'w' :: rest => (tableClass? m .word).map (·, rest)
  | 'W' :: rest => (tableClass? m (.other .word)).map (·, rest)
  | 'b' :: rest => (tablePlace? m .wordEdge).map (·, rest)
  | 'B' :: rest => (tablePlace? m .noWordEdge).map (·, rest)
  | '<' :: rest => (tablePlace? m .wordStart).map (·, rest)
  | '>' :: rest => (tablePlace? m .wordEnd).map (·, rest)
  | 'A' :: rest => some (.ofPlace .textStart, rest)
  | 'z' :: rest => some (.ofPlace .textEnd, rest)
  | 'a' :: rest => some (.literal '\x07', rest)
  | 'f' :: rest => some (.literal '\x0c', rest)
  | 't' :: rest => some (.literal '\t', rest)
  | 'n' :: rest => some (.literal '\n', rest)
  | 'r' :: rest => some (.literal '\r', rest)
  | 'v' :: rest => some (.literal '\x0b', rest)
  | c :: rest => if canBeEscaped c then some (.literal c, rest) else none

/-- The class with a name between `[:` and `:]`. -/
def namedClass? (name : List Char) : Option CharClass :=
  match String.ofList name with
  | "alnum" => some (.ofRanges [('0', '9'), ('A', 'Z'), ('a', 'z')])
  | "alpha" => some (.ofRanges [('A', 'Z'), ('a', 'z')])
  | "ascii" => some (.range '\x00' '\x7f')
  | "blank" => some (.ofRanges [('\t', '\t'), (' ', ' ')])
  | "cntrl" => some (.ofRanges [('\x00', '\x1f'), ('\x7f', '\x7f')])
  | "digit" => some (.range '0' '9')
  | "graph" => some (.range '!' '~')
  | "lower" => some (.range 'a' 'z')
  | "print" => some (.range ' ' '~')
  | "punct" => some (.ofRanges [('!', '/'), (':', '@'), ('[', '\x60'), ('\x7b', '~')])
  | "space" => some blanks
  | "upper" => some (.range 'A' 'Z')
  | "word" => some .word
  | "xdigit" => some (.ofRanges [('0', '9'), ('A', 'F'), ('a', 'f')])
  | _ => none

/-- Reads the name of a class from after its bracket on. -/
def named? (s : List Char) : Option (CharClass × List Char) :=
  match s with
  | ':' :: rest =>
    let negated := rest.head? = some '^'
    let rest := if negated then rest.tail else rest
    let name := rest.takeWhile (· ≠ ':')
    match rest.drop name.length with
    | ':' :: ']' :: rest =>
      (namedClass? name).map fun a => (if negated then .other a else a, rest)
    | _ => none
  | _ => none

/-- Reads a single member of a class. -/
def member? (m : Mode) (s : List Char) : Option (Escaped × List Char) :=
  match s with
  | [] => none
  | '\\' :: rest => (escaped? m rest).filter fun r => r.1.isAllowed m
  | c :: rest => if (Escaped.literal c).isAllowed m then some (.literal c, rest) else none

/-- Reads a member of a class or a range of them. -/
def members? (m : Mode) (s : List Char) : Option (CharClass × List Char) := do
  let (first, rest) ← member? m s
  let single := match first with
    | .literal c => some (CharClass.only c, rest)
    | .ofClass a => some (a, rest)
    | .ofPlace _ => none
  match skipSpace m false rest with
  | '-' :: after =>
    match skipSpace m false after with
    | ']' :: _ => single
    | '-' :: _ => single
    | after =>
      match first, ← member? m after with
      | .literal a, (.literal b, rest) => if a ≤ b then some (.range a b, rest) else none
      | _, _ => none
  | _ => single

/-- What combines two parts of a class. -/
def operator? : List Char → Option ((CharClass → CharClass → CharClass) × List Char)
  | '&' :: '&' :: rest => some (.both, rest)
  | '-' :: '-' :: rest => some (.butNot, rest)
  | '~' :: '~' :: rest => some (.oneOf, rest)
  | _ => none

/-- A class as the flags want it. -/
def closed? (m : Mode) (negated : Bool) (a : CharClass) : Option CharClass :=
  let a := if m.ignoresCase then .anyCase a else a
  let a := if negated then .other a else a
  if m.unicode then (if m.ignoresCase then none else some a)
  else if a.contains '\u0080' then none
  else some a

/-- Reads the dashes or the bracket that stand for themselves at the start of a class. -/
def leading (s : List Char) : CharClass × List Char :=
  match s with
  | ']' :: rest => (.only ']', rest)
  | '-' :: rest => (.only '-', rest.dropWhile (· == '-'))
  | _ => (.none, s)

/-- Reads a class from after its bracket on. -/
def class? (m : Mode) : Nat → List Char → Option (CharClass × List Char)
  | 0, _ => none
  | fuel + 1, s =>
    let s := skipSpace m false s
    let negated := s.head? = some '^'
    let (a, rest) := leading (skipSpace m false (if negated then s.tail else s))
    (items fuel id a rest).bind fun r => (closed? m negated r.1).map (·, r.2)
where
  /-- Reads the members of a class; `combine` has what stands before an operator. -/
  items : Nat → (CharClass → CharClass) → CharClass → List Char →
      Option (CharClass × List Char)
    | 0, _, _, _ => none
    | fuel + 1, combine, a, s =>
      match skipSpace m false s with
      | [] => none
      | ']' :: rest => some (combine a, rest)
      | '[' :: rest =>
        match named? rest with
        | some (b, rest) => items fuel combine (.either a b) rest
        | none => (class? m fuel rest).bind fun r => items fuel combine (.either a r.1) r.2
      | s =>
        match operator? s with
        | some (operator, rest) => items fuel (operator (combine a)) .none rest
        | none => (members? m s).bind fun r => items fuel combine (.either a r.1) r.2

/-- The pattern of a character that stands for itself. -/
def literal? (m : Mode) (c : Char) : Option Pattern :=
  if !m.ignoresCase then some (.char (.only c))
  else if m.unicode then none
  else some (.char (.anyCase (.only c)))

/-- The pattern of what stands after a backslash. -/
def ofEscaped? (m : Mode) : Escaped → Option Pattern
  | .literal c => literal? m c
  | .ofClass a => some (.char a)
  | .ofPlace p => some (.place p)

/-- The pattern of a character that has a meaning of its own outside of classes. -/
def special? (m : Mode) : Char → Option Pattern
  | '.' =>
    if !m.unicode then none
    else
      let row := if m.byRow then CharClass.only '\r' else .none
      some (.char (.other (if m.dotIsAll then .none else .either row (.only '\n'))))
  | '^' =>
    some (.place (if !m.byLine then .textStart else if m.byRow then .rowStart else .lineStart))
  | '$' => some (.place (if !m.byLine then .textEnd else if m.byRow then .rowEnd else .lineEnd))
  | c => literal? m c

/-! ## Groups -/

/-- Reads flags up to the colon or bracket after them; `on` tells whether they are set. -/
def flags? (m : Mode) (on : Bool) (seen : List Char) :
    List Char → Option (Mode × List Char × Char × List Char)
  | [] => none
  | c :: rest =>
    if c = ':' ∨ c = ')' then
      if seen.head? = some '-' then none else some (m, seen, c, rest)
    else if seen.contains c then none
    else if c = '-' then flags? m false (c :: seen) rest
    else (m.set? on c).bind fun m => flags? m on (c :: seen) rest

/-- Whether a character can stand in the name of a group. -/
def isNameChar (isFirst : Bool) (c : Char) : Bool :=
  c.isAlpha || c = '_' || (!isFirst && (c.isDigit || c = '.' || c = '[' || c = ']'))

/-- Reads the name of a group. -/
def groupName? (s : List Char) : Option (List Char × List Char) :=
  let name := s.takeWhile (· ≠ '>')
  match name, s.drop name.length with
  | first :: more, _ :: rest =>
    if isNameChar true first ∧ more.all (isNameChar false) then some (name, rest) else none
  | _, _ => none

/-- How a group begins. -/
inductive Opening where
  | group (m : Mode)
  | named (name : List Char)
  | flags (m : Mode)

/-- Reads the beginning of a group after its bracket. -/
def opening? (m : Mode) (s : List Char) : Option (Opening × List Char) :=
  match skipSpace m false s with
  | '?' :: 'P' :: '<' :: rest => (groupName? rest).map fun r => (.named r.1, r.2)
  | '?' :: '<' :: rest => (groupName? rest).map fun r => (.named r.1, r.2)
  | '?' :: rest =>
    match flags? m true [] rest with
    | some (m, _, ':', rest) => some (.group m, rest)
    | some (m, seen, _, rest) => if seen.isEmpty then none else some (.flags m, rest)
    | none => none
  | rest => some (.group m, rest)

/-- The state of a reading: the flags, the names of the groups so far, and what is left. -/
structure Reading where
  mode : Mode
  names : List (List Char)
  left : List Char

/-- A repetition of the last part of a sequence. -/
def repeated (c : Char) (lazy : Bool) (p : Pattern) : Pattern :=
  match c with
  | '*' => p.star lazy
  | '+' => .plus p lazy
  | _ => .option p lazy

mutual

/-- Reads alternatives up to the end of their group. -/
def alternatives? : Nat → Reading → Option (Pattern × Reading)
  | 0, _ => none
  | fuel + 1, r => do
    let (first, r) ← sequence? fuel .empty none r
    match r.left with
    | '|' :: rest =>
      let (others, r) ← alternatives? fuel { r with left := rest }
      return (.alt first others, r)
    | _ => return (first, r)

/-- Reads a sequence, given what stands before its last part, and that part. -/
def sequence? : Nat → Pattern → Option Pattern → Reading → Option (Pattern × Reading)
  | 0, _, _, _ => none
  | fuel + 1, front, last, r =>
    let all := match last with
      | some p => front.before p
      | none => front
    let part (p : Pattern) (r : Reading) := sequence? fuel all (some p) r
    let s := skipSpace r.mode false r.left
    let here := { r with left := s }
    match s with
    | [] => some (all, here)
    | '|' :: _ => some (all, here)
    | ')' :: _ => some (all, here)
    | '\x7b' :: _ => none
    | '(' :: rest => do
      match ← opening? r.mode rest with
      | (.flags mode, rest) => sequence? fuel all none { r with mode, left := rest }
      | (.group mode, rest) =>
        let (p, r) ← group? fuel { r with mode, left := rest }
        part p { r with mode := here.mode }
      | (.named name, rest) =>
        if r.names.contains name then none
        let (p, r) ← group? fuel { r with names := name :: r.names, left := rest }
        part p { r with mode := here.mode }
    | '[' :: rest => (class? r.mode (rest.length + 1) rest).bind fun found =>
      part (.char found.1) { r with left := found.2 }
    | '\\' :: rest => do
      let (e, rest) ← escaped? r.mode rest
      part (← ofEscaped? r.mode e) { r with left := rest }
    | c :: rest =>
      if c = '*' ∨ c = '+' ∨ c = '?' then
        let lazy := rest.head? = some '?'
        let rest := if lazy then rest.tail else rest
        last.bind fun p => sequence? fuel front
          (some (repeated c (lazy != r.mode.swapsLazy) p)) { r with left := rest }
      else (special? r.mode c).bind fun p => part p { r with left := rest }

/-- Reads what a group holds, and its closing bracket. -/
def group? : Nat → Reading → Option (Pattern × Reading)
  | 0, _ => none
  | fuel + 1, r => do
    let (p, r) ← alternatives? fuel r
    match r.left with
    | ')' :: rest => return (p, { r with left := rest })
    | _ => none

end

/-- The pattern that a text spells. -/
def parse? (text : String) : Option Pattern := do
  let s := text.toList
  let (p, r) ← alternatives? (4 * s.length + 4) ⟨.usual, [], s⟩
  if r.left.isEmpty then some p else none

end LanguageBridge.Pattern
