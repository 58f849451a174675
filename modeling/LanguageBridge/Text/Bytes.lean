set_option autoImplicit false

/-! # Text as bytes

Paths, globs and protocol frames are sequences of bytes; texts are sequences of characters.
This file goes back and forth between the two in UTF-8: `utf8Bytes` writes a text as bytes,
`Scan.pieces` reads bytes as characters and marks what is not well-formed, `decode?` accepts
well-formed input only and `decodeLossy` puts one replacement character for every damaged
piece.

The reader is one pass with the state `Scan`: what a started character still needs. A byte
that cannot continue the started character ends it as damaged and is looked at again as a
first byte, so a damaged piece is as long as it could have become a character and no longer.
-/

namespace LanguageBridge

/-- A sequence of bytes, such as a path or the contents of a file. -/
abbrev Bytes := List UInt8

namespace Text

/-- The UTF-8 form of a text. -/
def utf8Bytes (s : String) : Bytes := s.toList.flatMap String.utf8EncodeChar

/-- The replacement character, shown where bytes are not a character. -/
def replacement : Char := '\uFFFD'

/-! ## Reading -/

/-- A started character: the bits read so far, how many bytes are still missing, and the
bounds for the next one. -/
structure Scan where
  bits : Nat
  missing : Nat
  low : UInt8
  high : UInt8

namespace Scan

/-- What a byte at the start of a character announces: a complete character, a started one, or
nothing. The bounds of the second byte exclude overlong forms, surrogates and everything above
U+10FFFF. -/
def first (b : UInt8) : Option (Sum Char Scan) :=
  if b < 0x80 then some (.inl (Char.ofNat b.toNat))
  else if b < 0xC2 then none
  else if b < 0xE0 then some (.inr ⟨b.toNat - 0xC0, 1, 0x80, 0xBF⟩)
  else if b < 0xF0 then
    let low : UInt8 := if b = 0xE0 then 0xA0 else 0x80
    let high : UInt8 := if b = 0xED then 0x9F else 0xBF
    some (.inr ⟨b.toNat - 0xE0, 2, low, high⟩)
  else if b < 0xF5 then
    let low : UInt8 := if b = 0xF0 then 0x90 else 0x80
    let high : UInt8 := if b = 0xF4 then 0x8F else 0xBF
    some (.inr ⟨b.toNat - 0xF0, 3, low, high⟩)
  else none

/-- Whether `b` can be the next byte of the started character. -/
def accepts (p : Scan) (b : UInt8) : Bool := p.low ≤ b && b ≤ p.high

/-- The started character after one more byte: complete, or still waiting. -/
def push (p : Scan) (b : UInt8) : Sum Char Scan :=
  let bits := p.bits * 64 + (b.toNat - 0x80)
  if p.missing ≤ 1 then .inl (Char.ofNat bits) else .inr ⟨bits, p.missing - 1, 0x80, 0xBF⟩

/-- The characters of a byte sequence, `none` for each damaged piece. -/
def pieces : Option Scan → Bytes → List (Option Char)
  | none, [] => []
  | some _, [] => [none]
  | none, b :: rest => start b rest
  | some p, b :: rest =>
    if p.accepts b then
      match p.push b with
      | .inl c => some c :: pieces none rest
      | .inr q => pieces (some q) rest
    else none :: start b rest
where
  /-- Reads `b` as the first byte of a character. -/
  start (b : UInt8) (rest : Bytes) : List (Option Char) :=
    match first b with
    | some (.inl c) => some c :: pieces none rest
    | some (.inr q) => pieces (some q) rest
    | none => none :: pieces none rest

end Scan

/-- The text that a byte sequence spells, if it is well-formed UTF-8. -/
def decode? (bs : Bytes) : Option String :=
  ((Scan.pieces none bs).mapM id).map String.ofList

/-- The text that a byte sequence spells, with `replacement` for each damaged piece. -/
def decodeLossy (bs : Bytes) : String :=
  String.ofList ((Scan.pieces none bs).map (·.getD replacement))

/-! ## Hexadecimal digits -/

/-- The digit for a value below sixteen, with lower-case letters. -/
def hexDigit (n : Nat) : Char :=
  if n < 10 then Char.ofNat (48 + n) else Char.ofNat (87 + n)

/-- The value of a hexadecimal digit of either case. -/
def hexValue? (c : Char) : Option Nat :=
  if '0' ≤ c ∧ c ≤ '9' then some (c.toNat - 48)
  else if 'a' ≤ c ∧ c ≤ 'f' then some (c.toNat - 87)
  else if 'A' ≤ c ∧ c ≤ 'F' then some (c.toNat - 55)
  else none

end Text
end LanguageBridge
