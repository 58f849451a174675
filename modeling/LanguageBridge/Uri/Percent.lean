import LanguageBridge.Text.Bytes

set_option autoImplicit false

/-! # Percent encoding

In a URI a byte is written either as the character with its number or as `%` and two hexadecimal
digits. `Percent.encode` writes bytes, given which of them stay plain; `Percent.decode` reads
them back, and leaves a `%` that no two digits follow as it is.
-/

namespace LanguageBridge.Percent

/-- The digit for a value below sixteen, with upper-case letters. -/
def upperDigit (n : Nat) : Char :=
  if n < 10 then Char.ofNat (48 + n) else Char.ofNat (55 + n)

/-- The escape for a byte. -/
def escape (b : UInt8) : List Char :=
  ['%', upperDigit (b.toNat / 16), upperDigit (b.toNat % 16)]

/-- Bytes in written form; `plain` tells which ones stand for themselves. -/
def encode (plain : UInt8 → Bool) (bytes : Bytes) : List Char :=
  bytes.flatMap fun b => if plain b then [Char.ofNat b.toNat] else escape b

/-- A text in written form. -/
def encodeText (plain : UInt8 → Bool) (text : List Char) : List Char :=
  encode plain (text.flatMap String.utf8EncodeChar)

/-- What has been read of an escape: nothing, the `%`, or the `%` and a digit. -/
inductive Begun where
  | nothing
  | percent
  | digit (c : Char) (value : Nat)

/-- The bytes of a written form. -/
def decodeFrom : Begun → List Char → Bytes
  | .nothing, [] => []
  | .percent, [] => String.utf8EncodeChar '%'
  | .digit d _, [] => String.utf8EncodeChar '%' ++ String.utf8EncodeChar d
  | .nothing, c :: rest => start c rest
  | .percent, c :: rest =>
    match Text.hexValue? c with
    | some v => decodeFrom (.digit c v) rest
    | none => String.utf8EncodeChar '%' ++ start c rest
  | .digit d high, c :: rest =>
    match Text.hexValue? c with
    | some low => UInt8.ofNat (high * 16 + low) :: decodeFrom .nothing rest
    | none => String.utf8EncodeChar '%' ++ String.utf8EncodeChar d ++ start c rest
where
  /-- Reads a character outside of an escape. -/
  start (c : Char) (rest : List Char) : Bytes :=
    if c = '%' then decodeFrom .percent rest
    else String.utf8EncodeChar c ++ decodeFrom .nothing rest

/-- The bytes of a written form. -/
def decode (text : List Char) : Bytes := decodeFrom .nothing text

/-! ## What stays plain -/

/-- Whether a byte is one of some ASCII characters. -/
def isAmong (chars : List Char) (b : UInt8) : Bool := chars.any fun c => c.toNat = b.toNat

/-- Printable ASCII, the space included. -/
def isPrintable (b : UInt8) : Bool := 0x20 ≤ b && b ≤ 0x7E

/-- Plain in a fragment. -/
def plainInFragment (b : UInt8) : Bool :=
  isPrintable b && !isAmong [' ', '"', '<', '>', '`'] b

/-- Plain in a path. -/
def plainInPath (b : UInt8) : Bool :=
  plainInFragment b && !isAmong ['#', '?', '\x7b', '\x7d'] b

/-- Plain in a component of a file path. -/
def plainInComponent (b : UInt8) : Bool :=
  plainInPath b && !isAmong ['/', '%', '\\'] b

/-- Plain in the name and password of a user. -/
def plainInUser (b : UInt8) : Bool :=
  plainInPath b && !isAmong ['/', ':', ';', '=', '@', '[', '\\', ']', '^', '|'] b

/-- Plain in a query. -/
def plainInQuery (special : Bool) (b : UInt8) : Bool :=
  isPrintable b && !isAmong [' ', '"', '#', '<', '>'] b && !(special && isAmong ['\''] b)

end LanguageBridge.Percent
