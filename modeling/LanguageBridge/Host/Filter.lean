import LanguageBridge.Log
import LanguageBridge.Pattern.Parser
import LanguageBridge.Text.Alphanumeric
import LanguageBridge.Text.Lowercase

set_option autoImplicit false

/-! # Log filters

A filter says up to which level events are logged. It is a list of directives. A directive may
name a target, from which events come, and a level; and it may be narrowed to a span, or to
events and spans with a field, or to spans whose field has a certain value. Of the directives
that are not narrowed to a span or a value, the one with the longest target that an event's target
begins with decides; among those a directive with a field comes first. Of several directives for
the same the last one counts, and an event for which no directive speaks is not logged. An event
inside a span is also logged if a narrowed directive lets it through.
-/

namespace LanguageBridge.Host

/-- A field that a directive is narrowed to, perhaps with a value. -/
structure FieldCheck where
  name : String
  value : Option String
deriving DecidableEq, Repr

/-- A directive: events of targets that begin with a text are logged up to a rank of severity,
where zero stands for none. -/
structure Directive where
  target : Option String
  /-- The name of the span that it is narrowed to. -/
  span : Option String
  /-- The field that it is narrowed to. -/
  field : Option FieldCheck
  rank : Nat
deriving DecidableEq, Repr

/-- A filter. -/
abbrev Filter := List Directive

/-- Why a text is no filter: it does not say what it means, or a directive ends inside of a
character. -/
inductive FilterFault where
  | unreadable
  | insideCharacter
deriving DecidableEq, Repr

/-! ## Levels and values -/

/-- The rank that lets everything through. -/
def fullRank : Nat := 5

/-- The rank that digits name, perhaps after a plus sign. -/
def rankOfDigits? (s : List Char) : Option Nat :=
  let digits := if s.head? = some '+' then s.tail else s
  if digits.isEmpty || !digits.all Char.isDigit then none
  else
    let n := digits.foldl (fun n c => n * 10 + (c.toNat - '0'.toNat)) 0
    if n ≤ fullRank then some n else none

/-- The rank that a word or a number names. -/
def rankOf? (s : List Char) : Option Nat :=
  match String.ofList (s.map Char.toLower) with
  | "off" => some 0
  | "error" => some 1
  | "warn" => some 2
  | "info" => some 3
  | "debug" => some 4
  | "trace" => some 5
  | _ => rankOfDigits? s

/-- Whether characters are digits, perhaps with a point among them. -/
def isDecimal (s : List Char) : Bool :=
  s.any Char.isDigit && (s.filter (!·.isDigit) == [] || s.filter (!·.isDigit) == ['.'])

/-- Whether characters are a sign, or nothing, before characters of a kind. -/
def isSigned (p : List Char → Bool) (s : List Char) : Bool :=
  p (if s.head? = some '+' ∨ s.head? = some '-' then s.tail else s)

/-- Whether a text is a number or a truth value, which no text of a field is equal to. -/
def isPlainValue (s : List Char) : Bool :=
  let isNumber (s : List Char) : Bool :=
    let mantissa := s.takeWhile fun c => c ≠ 'e' && c ≠ 'E'
    match s.drop mantissa.length with
    | [] => isDecimal mantissa
    | _ :: exponent =>
      isDecimal mantissa && isSigned (fun d => !d.isEmpty && d.all Char.isDigit) exponent
  let isWord (s : List Char) : Bool :=
    ["nan", "inf", "infinity"].contains (String.ofList (s.map Char.toLower))
  ["true", "false"].contains (String.ofList s) || isSigned (fun s => isNumber s || isWord s) s

/-! ## Reading directives -/

/-- A directive as it is written. Its places are counted from its first character that is no
blank, but its parts are cut from its beginning, so that blanks before it shift the parts. -/
structure Piece where
  bytes : Bytes
  /-- The number of bytes of the blanks before the directive. -/
  indent : Nat
deriving DecidableEq, Repr

namespace Piece

/-- Whether a place is not inside of a character. -/
def isEdge (p : Piece) (place : Nat) : Bool :=
  match p.bytes[place]? with
  | some b => b < 0x80 || 0xC0 ≤ b
  | none => place = p.bytes.length

/-- The part between two places. -/
def part (p : Piece) (first last : Nat) : Except FilterFault (List Char) :=
  if p.isEdge first && p.isEdge last then
    match Text.decode? ((p.bytes.drop first).take (last - first)) with
    | some s => .ok s.toList
    | none => .error .insideCharacter
  else .error .insideCharacter

/-- The part from a place on. -/
def partFrom (p : Piece) (first : Nat) : Except FilterFault (List Char) :=
  p.part first p.bytes.length

end Piece

/-- The number of bytes of characters. -/
def byteCount (s : List Char) : Nat := (s.flatMap String.utf8EncodeChar).length

namespace Directive

/-- Whether a character can be the first one of a directive without a span. -/
def canStart (c : Char) : Bool :=
  Text.alphanumeric.contains c || c == '-' || c == ':' || c == '_'

/-- A fault where there is nothing. -/
def orFault {α : Type} : Option α → Except FilterFault α
  | some a => .ok a
  | none => .error .unreadable

/-- Reads the level of a directive at a place, given the rest of the directive from an `=` on.
Without a level everything passes. -/
def readRank (p : Piece) (place : Nat) : List Char → Except FilterFault Nat
  | [] => .ok fullRank
  | '=' :: _ => do
    match ← p.partFrom (place + 1) with
    | [] => .ok fullRank
    | level => orFault (rankOf? level)
  | _ => .error .unreadable

/-- Reads a field, and the value after an `=` if there is one. -/
def readField (s : List Char) : Except FilterFault FieldCheck :=
  let name := s.takeWhile (· ≠ '=')
  match s, s.drop name.length with
  | [], _ => .error .unreadable
  | _, [] => .ok ⟨String.ofList name, none⟩
  | _, _ :: rest =>
    let value := rest.takeWhile (· ≠ '=')
    let text := String.ofList value
    if isPlainValue value || (Pattern.parse? text).isSome then .ok ⟨String.ofList name, some text⟩
    else .error .unreadable

/-- Reads a directive from the inside of its brackets on, at a place. -/
def readSpan (p : Piece) (target : Option String) (place : Nat) (s : List Char) :
    Except FilterFault Directive := do
  let name := s.takeWhile fun c => c ≠ ']' && c ≠ '\x7b'
  let nameEnd := place + byteCount name
  match s.drop name.length with
  | [] => .error .unreadable
  | ']' :: rest =>
    let span := String.ofList (← p.part place nameEnd)
    return ⟨target, some span, none, ← readRank p (nameEnd + 1) rest⟩
  | _ :: inside =>
    let span ← p.part place nameEnd
    let field := inside.takeWhile (· ≠ '\x7d')
    let fieldEnd := nameEnd + 1 + byteCount field
    match inside.drop field.length with
    | [] => .error .unreadable
    | _ :: after =>
      let check ← readField (← p.part (nameEnd + 1) fieldEnd)
      match after with
      | ']' :: rest =>
        let span := if span.isEmpty then none else some (String.ofList span)
        return ⟨target, span, some check, ← readRank p (fieldEnd + 2) rest⟩
      | _ => .error .unreadable

/-- Reads a directive. A word that names no level is a target, and all of it passes. -/
def read (text : List Char) : Except FilterFault Directive := do
  let front := text.takeWhile Text.blank.contains
  let s := ((text.drop front.length).reverse.dropWhile Text.blank.contains).reverse
  let p : Piece := ⟨text.flatMap String.utf8EncodeChar, byteCount front⟩
  match s with
  | [] => .error .unreadable
  | '[' :: rest => readSpan p none 1 rest
  | c :: _ =>
    if !canStart c then .error .unreadable
    let name := s.takeWhile fun c => c ≠ '=' && c ≠ '['
    let nameEnd := byteCount name
    match s.drop name.length with
    | [] =>
      match rankOf? (← p.partFrom 0) with
      | some rank => return ⟨none, none, none, rank⟩
      | none => return ⟨some (String.ofList text), none, none, fullRank⟩
    | '[' :: rest => do
      let target := String.ofList (← p.part 0 nameEnd)
      readSpan p (some target) (nameEnd + 1) rest
    | level => do
      let target := String.ofList (← p.part 0 nameEnd)
      return ⟨some target, none, none, ← readRank p nameEnd level⟩

/-! ## What a directive speaks about -/

/-- Whether a directive is narrowed to what happens inside of spans. -/
def isNarrowed (d : Directive) : Bool := d.span.isSome || d.field.isSome

/-- Whether a directive speaks about events wherever they stand. -/
def isOpen (d : Directive) : Bool := d.span.isNone && d.field.all (·.value.isNone)

/-- How long the target of a directive is; none is shorter than an empty one. -/
def reach (d : Directive) : Nat :=
  match d.target with
  | some target => byteCount target.toList + 1
  | none => 0

/-- Whether a directive is more specific than another one: by its target, or else by a field. Of
two fields the later one in alphabetical order counts. -/
def outranks (a b : Directive) : Bool :=
  b.reach < a.reach ||
    (a.reach == b.reach &&
      match a.field, b.field with
      | some f, some g => decide (g.name < f.name)
      | some _, none => true
      | none, _ => false)

/-- Whether two directives differ at most in their levels. -/
def replaces (a b : Directive) : Bool :=
  a.target == b.target && a.span == b.span && a.field == b.field

/-- Whether a directive speaks about a target. -/
def concerns (d : Directive) (target : String) : Bool :=
  match d.target with
  | some t => t.toList.isPrefixOf target.toList
  | none => true

end Directive

/-- A span, in which events can stand, with the values of its fields. -/
structure Span where
  name : String
  target : String
  fields : List (String × String)

/-- Whether a field has the value that it is checked for. -/
def FieldCheck.holds (check : FieldCheck) (field : String × String) : Bool :=
  check.name == field.1 &&
    match check.value with
    | none => true
    | some text => !isPlainValue text.toList && (Pattern.parse? text).any (·.holds field.2)

namespace Filter

/-- The pieces of a text between commas. -/
def pieces : List Char → List (List Char)
  | [] => [[]]
  | c :: rest =>
    if c = ',' then [] :: pieces rest
    else
      match pieces rest with
      | [] => [[c]]
      | piece :: more => (c :: piece) :: more

/-- Reads a filter; without a directive it lets nothing through. -/
def read (s : String) : Except FilterFault Filter :=
  ((pieces s.toList).filter (!·.isEmpty)).mapM Directive.read

/-- The filter for a level: the events of the program and of its protocol library. -/
def ofLevel (level : LogLevel) : Filter :=
  [⟨some "ruby_ti_bridge", none, none, level.rank⟩, ⟨some "async_lsp", none, none, level.rank⟩]

/-- The directive that decides about a target: the most specific one, and of equals the last.
`has` tells which fields there are. -/
def deciding? (f : Filter) (target : String) (has : String → Bool) : Option Directive :=
  let speaking := f.filter fun d =>
    d.isOpen && d.concerns target && d.field.all fun check => has check.name
  speaking.foldl (fun best d =>
    match best with
    | some b => if b.outranks d then some b else some d
    | none => some d) none

/-- Whether a target is logged at a level. -/
def allows (f : Filter) (target : String) (level : LogLevel) (has : String → Bool) : Bool :=
  match f.deciding? target has with
  | some d => level.rank ≤ d.rank
  | none => false

/-- The directives that no later one replaces. -/
def lasting : Filter → Filter
  | [] => []
  | d :: rest => if rest.any d.replaces then lasting rest else d :: lasting rest

/-- The directives that are narrowed to spans such as a given one. -/
def narrowedTo (f : Filter) (s : Span) : List Directive :=
  f.lasting.filter fun d =>
    d.isNarrowed && d.concerns s.target && d.span.all (· == s.name) &&
      d.field.all fun check => s.fields.any (·.1 == check.name)

/-- Whether events are logged as standing in a span. -/
def showsSpan (f : Filter) (s : Span) : Bool :=
  !(f.narrowedTo s).isEmpty || f.allows s.target .info (fun _ => true)

/-- Whether an event is logged, which may stand in a span. -/
def passes (f : Filter) (event : LogEvent) (span : Option Span) : Bool :=
  let has (field : String) := field == "message" || event.fields.any fun f => f.1 == field
  f.allows event.target event.level has
    || span.any fun s => (f.narrowedTo s).any fun d =>
      event.level.rank ≤ d.rank && d.field.all fun check => s.fields.any check.holds

end Filter

/-- The name of the variable with the filter. -/
def filterVariable : String := "RUST_LOG"

/-- The filter of a host: the one in the environment, or the one for the level if there is none or
it cannot be read. Reading a directive that ends inside of a character ends the host. -/
def filterFor? (setting : Option String) (level : LogLevel) : Option Filter :=
  match setting.map Filter.read with
  | some (.ok f) => some f
  | some (.error .insideCharacter) => none
  | _ => some (Filter.ofLevel level)

/-- The level that a word names, or the word in lower case. -/
def levelOf (word : String) : Except String LogLevel :=
  match Text.lowercase word with
  | "trace" => .ok .trace
  | "debug" => .ok .debug
  | "info" => .ok .info
  | "warn" => .ok .warn
  | "error" => .ok .error
  | other => .error other

end LanguageBridge.Host
