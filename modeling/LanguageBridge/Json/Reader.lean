import LanguageBridge.Json.Value
import LanguageBridge.Text.Bytes

set_option autoImplicit false

/-! # Reading JSON

A reader takes the characters that are left and gives a value with the characters after it, or
the place where it stopped and what was wrong there. `Json.ofText` reads a whole text: one
value, blanks around it and nothing else. Arrays and objects nest at most `maxDepth` deep.

Assumed of the library that reads JSON is that it takes the JSON grammar and nothing more, that of
several members with one key the last counts, that an integer beyond 64 bits becomes a
floating-point number, and that it refuses what nests deeper than `maxDepth`.

A place is given by the characters that were left, and by how many bytes beyond them the reader
had already looked at; `Stop.line` and `Stop.column` turn it into the position that is shown to
a user, with columns counted in bytes.
-/

namespace LanguageBridge

/-- What can be wrong with a JSON text. -/
inductive JsonProblem where
  | endInValue
  | endInList
  | endInObject
  | endInString
  | expectedColon
  | expectedListCommaOrEnd
  | expectedObjectCommaOrEnd
  | expectedWord
  | expectedValue
  | keyNotString
  | trailingComma
  | trailingCharacters
  | invalidNumber
  | numberOutOfRange
  | invalidEscape
  | controlCharacter
  | loneSurrogate
  | unfinishedPair
  | tooDeep
deriving DecidableEq, Repr

/-- The wording of a problem. -/
def JsonProblem.message : JsonProblem → String
  | endInValue => "EOF while parsing a value"
  | endInList => "EOF while parsing a list"
  | endInObject => "EOF while parsing an object"
  | endInString => "EOF while parsing a string"
  | expectedColon => "expected `:`"
  | expectedListCommaOrEnd => "expected `,` or `]`"
  | expectedObjectCommaOrEnd => "expected `,` or `\x7d`"
  | expectedWord => "expected ident"
  | expectedValue => "expected value"
  | keyNotString => "key must be a string"
  | trailingComma => "trailing comma"
  | trailingCharacters => "trailing characters"
  | invalidNumber => "invalid number"
  | numberOutOfRange => "number out of range"
  | invalidEscape => "invalid escape"
  | controlCharacter => "control character (\\u0000-\\u001F) found while parsing a string"
  | loneSurrogate => "lone leading surrogate in hex escape"
  | unfinishedPair => "unexpected end of hex escape"
  | tooDeep => "recursion limit exceeded"

namespace Json

/-- Where reading stopped, and why: `rest` is what was left, of which the first `ahead` bytes
had been looked at. -/
structure Stop where
  problem : JsonProblem
  rest : List Char
  ahead : Nat

/-- Stops before the next character, having looked at its first byte. -/
def Stop.peeked {α : Type} (problem : JsonProblem) (rest : List Char) : Except Stop α :=
  .error ⟨problem, rest, 1⟩

/-- Stops where the remaining characters begin. -/
def Stop.here {α : Type} (problem : JsonProblem) (rest : List Char) : Except Stop α :=
  .error ⟨problem, rest, 0⟩

/-! ## Blanks and words -/

/-- The blanks between the parts of a JSON text. -/
def isBlank (c : Char) : Bool := c = ' ' || c = '\n' || c = '\t' || c = '\r'

/-- The characters after leading blanks. -/
def skipBlanks (s : List Char) : List Char := s.dropWhile isBlank

/-- Reads the rest of one of the words `null`, `true` and `false`. -/
def readWord (value : Json) : List Char → List Char → Except Stop (Json × List Char)
  | [], s => .ok (value, s)
  | _ :: _, [] => Stop.here .endInValue []
  | w :: ws, c :: rest =>
    if c = w then readWord value ws rest else .error ⟨.expectedWord, c :: rest, 1⟩

/-! ## Strings -/

/-- The number written by four hexadecimal digits. -/
def hexUnit? (a b c d : Char) : Option Nat := do
  let a ← Text.hexValue? a
  let b ← Text.hexValue? b
  let c ← Text.hexValue? c
  let d ← Text.hexValue? d
  return ((a * 16 + b) * 16 + c) * 16 + d

/-- The length of a text in bytes. -/
def byteSize (s : List Char) : Nat := s.foldr (fun c size => c.utf8Size + size) 0

/-- Reads the four hexadecimal digits of an escape. -/
def readHexUnit (s : List Char) : Except Stop (Nat × List Char) :=
  if byteSize (s.take 4) < 4 then Stop.here .endInString []
  else
    match s with
    | a :: b :: c :: d :: rest =>
      match hexUnit? a b c d with
      | some n => .ok (n, rest)
      | none => .error ⟨.invalidEscape, s, 4⟩
    | _ => .error ⟨.invalidEscape, s, 4⟩

/-- Whether a number is the first half of a surrogate pair. -/
def isHighSurrogate (n : Nat) : Bool := 0xD800 ≤ n && n ≤ 0xDBFF

/-- Whether a number is the second half of a surrogate pair. -/
def isLowSurrogate (n : Nat) : Bool := 0xDC00 ≤ n && n ≤ 0xDFFF

/-- The character of a surrogate pair. -/
def joinPair (high low : Nat) : Char :=
  Char.ofNat ((high - 0xD800) * 0x400 + (low - 0xDC00) + 0x10000)

/-- Reads the second half of a surrogate pair. -/
def readPair (high : Nat) (s : List Char) : Except Stop (Char × List Char) :=
  match s with
  | [] => Stop.here .endInString []
  | '\\' :: rest =>
    match rest with
    | [] => Stop.here .endInString []
    | 'u' :: digits => do
      let (low, after) ← readHexUnit digits
      if isLowSurrogate low then return (joinPair high low, after)
      Stop.here .loneSurrogate after
    | _ => .error ⟨.unfinishedPair, rest, 1⟩
  | _ => .error ⟨.unfinishedPair, s, 1⟩

/-- Reads what follows the backslash and the `u` of an escape. -/
def readUnicodeEscape (s : List Char) : Except Stop (Char × List Char) := do
  let (n, rest) ← readHexUnit s
  if isLowSurrogate n then Stop.here .loneSurrogate rest
  else if isHighSurrogate n then readPair n rest
  else return (Char.ofNat n, rest)

/-- The character that a one-letter escape stands for. -/
def shortEscape? : Char → Option Char
  | '"' => some '"'
  | '\\' => some '\\'
  | '/' => some '/'
  | 'b' => some '\x08'
  | 'f' => some '\x0c'
  | 'n' => some '\n'
  | 'r' => some '\r'
  | 't' => some '\t'
  | _ => none

/-- Reads what follows a backslash. -/
def readEscape (s : List Char) : Except Stop (Char × List Char) :=
  match s with
  | [] => Stop.here .endInString []
  | c :: rest =>
    match shortEscape? c with
    | some e => .ok (e, rest)
    | none => if c = 'u' then readUnicodeEscape rest else .error ⟨.invalidEscape, s, 1⟩

/-- Reads the characters of a string up to its closing quote. The first argument bounds the
number of characters. -/
def readChars : Nat → List Char → Except Stop (List Char × List Char)
  | 0, s => Stop.here .endInString s
  | _ + 1, [] => Stop.here .endInString []
  | n + 1, c :: rest =>
    if c = '"' then .ok ([], rest)
    else if c = '\\' then do
      let (e, after) ← readEscape rest
      let (cs, after) ← readChars n after
      return (e :: cs, after)
    else if c < ' ' then .error ⟨.controlCharacter, c :: rest, 1⟩
    else do
      let (cs, after) ← readChars n rest
      return (c :: cs, after)

/-- Reads a string after its opening quote. A string has fewer characters than the text. -/
def readString (s : List Char) : Except Stop (String × List Char) := do
  let (cs, rest) ← readChars (s.length + 1) s
  return (String.ofList cs, rest)

/-! ## Numbers

A number is read with an unsigned significand of 64 bits. Digits that do not fit any more only
shift the decimal exponent. -/

/-- The value of a decimal digit. -/
def digit? (c : Char) : Option Nat :=
  if '0' ≤ c ∧ c ≤ '9' then some (c.toNat - 48) else none

/-- Whether the characters start with a decimal digit. -/
def startsWithDigit : List Char → Bool
  | c :: _ => (digit? c).isSome
  | [] => false

/-- Adds decimal digits to a significand as long as it stays below `limit`; gives the
significand, the number of digits taken and the rest. -/
def takeDigits (limit : Nat) (significand : Nat) : List Char → Nat × Nat × List Char
  | [] => (significand, 0, [])
  | c :: rest =>
    match digit? c with
    | some d =>
      if significand * 10 + d < limit then
        let (n, count, after) := takeDigits limit (significand * 10 + d) rest
        (n, count + 1, after)
      else (significand, 0, c :: rest)
    | none => (significand, 0, c :: rest)

/-- Skips decimal digits and counts them. -/
def skipDigits : List Char → Nat × List Char
  | [] => (0, [])
  | c :: rest =>
    if (digit? c).isSome then
      let (count, after) := skipDigits rest
      (count + 1, after)
    else (0, c :: rest)

/-- A power of ten as a floating-point number. -/
def powerOfTen (n : Nat) : Float := Float.ofScientific 1 false n

/-- Scales a floating-point number by a power of ten, in steps of at most 308; `none` if it
gets too large. The first argument bounds the number of steps. -/
def scale : Nat → Float → Int → Option Float
  | 0, x, _ => some x
  | steps + 1, x, exponent =>
    if exponent.natAbs ≤ 308 then
      if exponent ≥ 0 then
        let y := x * powerOfTen exponent.natAbs
        if y.isInf then none else some y
      else some (x / powerOfTen exponent.natAbs)
    else if x == 0.0 then some x
    else if exponent ≥ 0 then none
    else scale steps (x / powerOfTen 308) (exponent + 308)

/-- The floating-point number of a significand and a decimal exponent. -/
def floatOf (positive : Bool) (significand : Nat) (exponent : Int) (rest : List Char) :
    Except Stop (Json × List Char) :=
  match scale (exponent.natAbs / 308 + 1) (Float.ofNat significand) exponent with
  | some x => .ok (number (.float (if positive then x else -x)), rest)
  | none => Stop.here .numberOutOfRange rest

/-- The largest exponent that a number may be written with. -/
def exponentLimit : Nat := Nat.pow 2 31

/-- Keeps a decimal exponent within the signed range of 32 bits. -/
def clampExponent (e : Int) : Int := max (-2147483648) (min e 2147483647)

/-- Reads the exponent after its letter. -/
def readExponent (positive : Bool) (significand : Nat) (start : Int) (s : List Char) :
    Except Stop (Json × List Char) :=
  let (positiveExponent, s) := match s with
    | '+' :: rest => (true, rest)
    | '-' :: rest => (false, rest)
    | s => (true, s)
  match s with
  | [] => Stop.here .endInValue []
  | c :: rest =>
    match digit? c with
    | none => .error ⟨.invalidNumber, c :: rest, 1⟩
    | some d =>
      let (e, _, after) := takeDigits exponentLimit d rest
      if startsWithDigit after then
        if significand ≠ 0 ∧ positiveExponent then .error ⟨.numberOutOfRange, after, 1⟩
        else .ok (number (.float (if positive then 0.0 else -0.0)), (skipDigits after).2)
      else
        let e : Int := if positiveExponent then e else -(e : Int)
        floatOf positive significand (clampExponent (start + e)) after

/-- Reads the end of a floating-point number: its exponent, if it has one. -/
def readFloatEnd (positive : Bool) (significand : Nat) (exponent : Int) (s : List Char) :
    Except Stop (Json × List Char) :=
  match s with
  | c :: rest =>
    if c = 'e' ∨ c = 'E' then readExponent positive significand exponent rest
    else floatOf positive significand exponent s
  | [] => floatOf positive significand exponent []

/-- The bound of the significand. -/
def significandLimit : Nat := Nat.pow 2 64

/-- Reads the places after the decimal point. -/
def readPlaces (positive : Bool) (significand : Nat) (exponent : Int) (s : List Char) :
    Except Stop (Json × List Char) :=
  let (n, count, after) := takeDigits significandLimit significand s
  if startsWithDigit after then
    readFloatEnd positive n (exponent - count) (skipDigits after).2
  else if count = 0 then
    Stop.peeked (if after.isEmpty then .endInValue else .invalidNumber) after
  else readFloatEnd positive n (exponent - count) after

/-- Reads what follows the integer part: places, an exponent, or nothing. -/
def readNumberEnd (positive : Bool) (significand : Nat) (s : List Char) :
    Except Stop (Json × List Char) :=
  match s with
  | '.' :: rest => readPlaces positive significand 0 rest
  | 'e' :: rest => readExponent positive significand 0 rest
  | 'E' :: rest => readExponent positive significand 0 rest
  | s =>
    if positive then .ok (number (.int significand), s)
    else if significand = 0 ∨ significand > Nat.pow 2 63 then
      .ok (number (.float (-(Float.ofNat significand))), s)
    else .ok (number (.int (-(significand : Int))), s)

/-- Reads a number from its first digit. -/
def readNumber (positive : Bool) (s : List Char) : Except Stop (Json × List Char) :=
  match s with
  | [] => Stop.here .endInValue []
  | '0' :: rest =>
    if startsWithDigit rest then Stop.peeked .invalidNumber rest
    else readNumberEnd positive 0 rest
  | c :: rest =>
    match digit? c with
    | none => .error ⟨.invalidNumber, s, 1⟩
    | some d =>
      let (n, _, after) := takeDigits significandLimit d rest
      if startsWithDigit after then
        let (count, after) := skipDigits after
        match after with
        | '.' :: places => readPlaces positive n count places
        | after => readFloatEnd positive n count after
      else readNumberEnd positive n after

/-- A reader of values: it gives a value and the characters after it. -/
abbrev ItemReader := List Char → Except Stop (Json × List Char)

/-! ## Arrays and objects

The readers of arrays and objects take the reader of what they hold. Their first argument
bounds the number of items: no text holds more items than characters. -/

/-- Reads the items of an array; `s` starts with the first item. -/
def readItems (item : ItemReader) : Nat → List Char → Except Stop (List Json × List Char)
  | 0, s => Stop.here .endInList s
  | n + 1, s => do
    let (value, rest) ← item s
    match skipBlanks rest with
    | [] => Stop.peeked .endInList []
    | ']' :: after => return ([value], after)
    | ',' :: after =>
      match skipBlanks after with
      | [] => Stop.peeked .endInValue []
      | ']' :: more => Stop.peeked .trailingComma (']' :: more)
      | next =>
        let (values, after) ← readItems item n next
        return (value :: values, after)
    | other => Stop.peeked .expectedListCommaOrEnd other

/-- Reads an array after its opening bracket. -/
def readArray (item : ItemReader) (s : List Char) : Except Stop (Json × List Char) :=
  match skipBlanks s with
  | [] => Stop.peeked .endInList []
  | ']' :: rest => .ok (array [], rest)
  | s => do
    let (values, rest) ← readItems item s.length s
    return (array values, rest)

/-- Reads a key from its opening quote, the colon and a value. -/
def readMember (item : ItemReader) (s : List Char) : Except Stop ((String × Json) × List Char) :=
  match s with
  | '"' :: rest => do
    let (key, rest) ← readString rest
    match skipBlanks rest with
    | [] => Stop.peeked .endInObject []
    | ':' :: rest =>
      let (value, rest) ← item rest
      return ((key, value), rest)
    | other => Stop.peeked .expectedColon other
  | s => Stop.peeked .keyNotString s

/-- Reads the members of an object; `s` starts with the first key. -/
def readMembers (item : ItemReader) :
    Nat → List Char → Except Stop (List (String × Json) × List Char)
  | 0, s => Stop.here .endInObject s
  | n + 1, s => do
    let (m, rest) ← readMember item s
    match skipBlanks rest with
    | [] => Stop.peeked .endInObject []
    | '\x7d' :: after => return ([m], after)
    | ',' :: after =>
      match skipBlanks after with
      | [] => Stop.peeked .endInValue []
      | '\x7d' :: more => Stop.peeked .trailingComma ('\x7d' :: more)
      | next =>
        let (ms, after) ← readMembers item n next
        return (m :: ms, after)
    | other => Stop.peeked .expectedObjectCommaOrEnd other

/-- Reads an object after its opening brace; `collect` makes it of its members as they are
written. -/
def readObject (collect : Members → Json) (item : ItemReader) (s : List Char) :
    Except Stop (Json × List Char) :=
  match skipBlanks s with
  | [] => Stop.peeked .endInObject []
  | '\x7d' :: rest => .ok (object [], rest)
  | s => do
    let (ms, rest) ← readMembers item s.length s
    return (collect ms, rest)

/-! ## Values -/

/-- Reads a value with the given reader for what arrays and objects hold; without one, arrays
and objects are too deep. -/
def readWith (collect : Members → Json) (inner : Option ItemReader) (s : List Char) :
    Except Stop (Json × List Char) :=
  let s := skipBlanks s
  match s with
  | [] => Stop.peeked .endInValue []
  | 'n' :: rest => readWord null ['u', 'l', 'l'] rest
  | 't' :: rest => readWord (bool true) ['r', 'u', 'e'] rest
  | 'f' :: rest => readWord (bool false) ['a', 'l', 's', 'e'] rest
  | '-' :: rest => readNumber false rest
  | '"' :: rest => do
    let (text, rest) ← readString rest
    return (string text, rest)
  | '[' :: rest =>
    match inner with
    | some item => readArray item rest
    | none => Stop.peeked .tooDeep s
  | '\x7b' :: rest =>
    match inner with
    | some item => readObject collect item rest
    | none => Stop.peeked .tooDeep s
  | c :: _ => if (digit? c).isSome then readNumber true s else Stop.peeked .expectedValue s

/-- Reads a value in which arrays and objects nest at most `depth` deep. -/
def readValue (collect : Members → Json) : Nat → ItemReader
  | 0 => readWith collect none
  | depth + 1 => readWith collect (some (readValue collect depth))

/-- How deep arrays and objects may nest. -/
def maxDepth : Nat := 127

/-- Reads a whole text: one value with blanks around it. -/
def readWhole (collect : Members → Json) (s : List Char) : Except Stop Json := do
  let (value, rest) ← readValue collect maxDepth s
  match skipBlanks rest with
  | [] => return value
  | other => Stop.peeked .trailingCharacters other

/-- Reads the value of a text. -/
def ofChars (s : List Char) : Except Stop Json := readWhole ofMembers s

/-- Reads a text as it is written: objects keep all of their members in order, also several with
one key. -/
def writtenOfChars (s : List Char) : Except Stop Json := readWhole object s

/-! ## Positions -/

/-- The number of bytes of a text before the place where reading stopped. -/
def Stop.offset (stop : Stop) (s : List Char) : Nat :=
  min (byteSize s) (byteSize s - byteSize stop.rest + stop.ahead)

/-- The lines that end before the byte `offset`, and the bytes between the last of them and
`offset`. -/
def position : Nat → List Char → Nat × Nat
  | offset, s => go offset s 0 0
where
  /-- Counts from the line and the column reached so far. -/
  go (left : Nat) : List Char → Nat → Nat → Nat × Nat
    | [], line, column => (line, column + left)
    | c :: rest, line, column =>
      if left < c.utf8Size then (line, column + left)
      else if c = '\n' then go (left - 1) rest (line + 1) 0
      else go (left - c.utf8Size) rest line (column + c.utf8Size)

/-- The message for the place where reading `s` stopped. -/
def Stop.message (stop : Stop) (s : List Char) : String :=
  let (line, column) := position (stop.offset s) s
  stop.problem.message ++ " at line " ++ toString (line + 1) ++ " column " ++ toString column

/-- The value of a JSON text, or the message that tells why it has none. -/
def ofText (text : String) : Except String Json :=
  match ofChars text.toList with
  | .ok value => .ok value
  | .error stop => .error (stop.message text.toList)

end Json
end LanguageBridge
