import LanguageBridge.Text.Bytes
import LanguageBridge.Text.Cut

set_option autoImplicit false

/-! # Sets of characters

A property of characters is a set of code points. Such a set is small when it is written as
ranges, and `CharSet.ofText` reads it from a text with one word for each range: `AD` is a single
code point and `300-36F` a range with both ends, in hexadecimal digits. `CharSet.contains` tells
which characters have the property.
-/

namespace LanguageBridge.Text

/-- The number that hexadecimal digits denote. -/
def codePoint (digits : List Char) : Nat :=
  digits.foldl (fun n c => n * 16 + (hexValue? c).getD 0) 0

/-- A range of code points, with both ends. -/
structure CodeRange where
  first : Nat
  last : Nat
deriving DecidableEq, Repr

/-- Whether a character lies in a range. -/
def CodeRange.contains (r : CodeRange) (c : Char) : Bool :=
  r.first ≤ c.toNat && c.toNat ≤ r.last

/-- The range that a word names. -/
def CodeRange.ofWord (word : List Char) : CodeRange :=
  match cutAt '-' word with
  | (first, []) => ⟨codePoint first, codePoint first⟩
  | (first, last) => ⟨codePoint first, codePoint last⟩

/-! ## Sets -/

/-- A set of characters as ranges. -/
structure CharSet where
  ranges : List CodeRange
deriving DecidableEq, Repr

namespace CharSet

/-- The set that a text lists. -/
def ofText (text : String) : CharSet := ⟨(words text).map CodeRange.ofWord⟩

/-- Whether a character belongs to a set. -/
def contains (s : CharSet) (c : Char) : Bool := s.ranges.any (·.contains c)

end CharSet
end LanguageBridge.Text
