set_option autoImplicit false

/-! # Labels in the letters of ASCII

Punycode writes a label of a domain name with letters, digits and hyphens of ASCII. First come the
characters of the label that are ASCII, and a hyphen if there are any. Then a row of numbers tells
the other characters in increasing order: each number is the distance from one place in the label
to the next, where all places for one character come before those for the following character.

A number is written in digits below 36, the lowest first. How large a digit may be as the last one
depends on its position and on a bias, which follows the size of the numbers before. `encode`
writes a label, and `decode?` reads it back.
-/

namespace LanguageBridge.Uri.Punycode

/-- Whether a character is ASCII. -/
def isBasic (c : Char) : Bool := c.toNat < 0x80

/-! ## Digits and the bias -/

/-- The digit for a value below 36. -/
def digit (n : Nat) : Char :=
  if n < 26 then Char.ofNat (97 + n) else Char.ofNat (22 + n)

/-- The value of a digit. -/
def digitValue? (c : Char) : Option Nat :=
  if c.isDigit then some (c.toNat - 22)
  else if c.isLower then some (c.toNat - 97)
  else none

/-- A digit below the threshold of its position is the last one of its number. -/
def threshold (bias position : Nat) : Nat :=
  if position ≤ bias then 1 else if position ≥ bias + 26 then 26 else position - bias

/-- The bias after a number, which has been brought to the size of the numbers to come. -/
def biasFor (size : Nat) : Nat :=
  if size > 455 then 36 + biasFor (size / 35) else 36 * size / (size + 38)
termination_by size

/-- The bias after a number, given how many characters there are then; the first number counts
little. -/
def adapt (number count : Nat) (isFirst : Bool) : Nat :=
  let size := if isFirst then number / 700 else number / 2
  biasFor (size + size / count)

/-- The code point of the first character that is not ASCII. -/
def firstCode : Nat := 128

/-- The bias of the first number. -/
def firstBias : Nat := 72

/-! ## Writing -/

theorem threshold_pos (bias position : Nat) : 0 < threshold bias position := by
  unfold threshold
  split
  · omega
  · split <;> omega

/-- The digits of a number from a position on. -/
def writeNumber (bias position number : Nat) : List Char :=
  let t := threshold bias position
  if number < t then [digit number]
  else
    digit (t + (number - t) % (36 - t))
      :: writeNumber bias (position + 36) ((number - t) / (36 - t))
termination_by number
decreasing_by
  have := threshold_pos bias position
  exact Nat.lt_of_le_of_lt (Nat.div_le_self _ _) (by omega)

/-- A label that is written in part: how many characters are written, and how many places have been
passed since the last one. -/
structure Written where
  digits : List Char
  passed : Nat
  bias : Nat
  count : Nat

/-- Passes a character of a label while the places of the character with a code point are told. -/
def Written.pass (basic code : Nat) (w : Written) (c : Char) : Written :=
  if c.toNat < code then { w with passed := w.passed + 1 }
  else if c.toNat = code then
    { digits := w.digits ++ writeNumber w.bias 36 w.passed
      passed := 0
      bias := adapt w.passed (w.count + 1) (w.count = basic)
      count := w.count + 1 }
  else w

/-- Tells the places of the characters with some code points; `next` is the first code point whose
places are not passed yet. -/
def tell (label : List Char) (basic next : Nat) (w : Written) : List Nat → List Char
  | [] => w.digits
  | code :: codes =>
    let w := { w with passed := w.passed + (code - next) * (w.count + 1) }
    let w := label.foldl (Written.pass basic code) w
    tell label basic (code + 1) { w with passed := w.passed + 1 } codes

/-- The written form of a label. -/
def encode (label : List Char) : List Char :=
  let basic := label.filter isBasic
  let codes := ((label.filter fun c => !isBasic c).map Char.toNat).eraseDups.mergeSort
  let lead := if basic.isEmpty then [] else basic ++ ['-']
  lead ++ tell label basic.length firstCode ⟨[], 0, firstBias, basic.length⟩ codes

/-! ## Reading -/

/-- A number if it is small enough to be the place of a character. -/
def bounded? (n : Nat) : Option Nat := if n < 4294967296 then some n else none

/-- Reads digits from a position on, where a digit has the given weight, and adds their value to a
sum. The characters after the number stay. -/
def readNumber? (bias : Nat) (position weight sum : Nat) : List Char → Option (Nat × List Char)
  | [] => none
  | c :: rest => do
    let value ← digitValue? c
    let sum ← bounded? (sum + value * weight)
    let t := threshold bias position
    if value < t then return (sum, rest)
    let weight ← bounded? (weight * (36 - t))
    readNumber? bias (position + 36) weight sum rest

theorem length_lt_of_readNumber? {bias : Nat} {text rest : List Char}
    {position weight sum total : Nat}
    (h : readNumber? bias position weight sum text = some (total, rest)) :
    rest.length < text.length := by
  induction text generalizing position weight sum with
  | nil => simp [readNumber?] at h
  | cons c text ih =>
    simp only [readNumber?, Option.bind_eq_bind, Option.bind_eq_some_iff] at h
    obtain ⟨value, -, s, -, h⟩ := h
    split at h
    · simp at h
      simp [h.2]
    · simp only [Option.bind_eq_some_iff] at h
      obtain ⟨w, -, h⟩ := h
      have := ih h
      simp only [List.length_cons]
      omega

/-- Puts the characters that a row of digits tells into a label. `place` is the place after the
character that was put in last, whose code point is `code`. -/
def readFrom (label : List Char) (place code bias : Nat) (text : List Char) :
    Option (List Char) :=
  if text.isEmpty then some label
  else
    match _h : readNumber? bias 36 1 place text with
    | none => none
    | some (total, rest) =>
      let count := label.length + 1
      let code := code + total / count
      let here := total % count
      if code.isValidChar then
        readFrom (label.take here ++ Char.ofNat code :: label.drop here) (here + 1) code
          (adapt (total - place) count (place = 0)) rest
      else none
termination_by text.length
decreasing_by exact length_lt_of_readNumber? _h

/-- The label with a written form. The last hyphen ends the characters that are ASCII, if there are
any. -/
def decode? (text : List Char) : Option (List Char) :=
  let digits := (text.reverse.takeWhile (· ≠ '-')).reverse
  let basic := text.take (text.length - digits.length - 1)
  if basic.isEmpty then readFrom [] 0 firstCode firstBias text
  else readFrom basic 0 firstCode firstBias digits

end LanguageBridge.Uri.Punycode
