import LanguageBridge.Uri.Domain.Direction
import LanguageBridge.Uri.Domain.Joiner
import LanguageBridge.Uri.Domain.Mapping
import LanguageBridge.Uri.Domain.Punycode

set_option autoImplicit false

/-! # Names of domains

A domain name is a row of labels with dots between them, in any script. In a URI it is written
with ASCII alone. `ascii?` brings a name into its one spelling and writes each label; a label with
other characters is written in Punycode after `xn--`. A label that comes in this form has to be the
one that would be written for the label it stands for.
-/

namespace LanguageBridge.Uri.Domain

open Text

/-- A label as it is read and as it is written. -/
structure Label where
  shown : List Char
  written : List Char

namespace Label

/-- What the written form of a label that is not ASCII begins with. -/
def mark : List Char := ['x', 'n', '-', '-']

/-- The length of the longest label that can be written, where it is not ASCII. -/
def mostShown : Nat := 1000

/-- The length of the longest form in Punycode that can be read. -/
def mostWritten : Nat := 2000

/-- Whether characters of ASCII and others may be a label. -/
def isSound (label : List Char) : Bool :=
  label.length ≤ mostShown && joinersFit label
    && (match label with
      | [] => true
      | c :: _ => !isMark c)

/-- The label that a form in Punycode stands for. It has a character beyond ASCII, and it is in
its one spelling. -/
def decoded? (digits : List Char) : Option (List Char) := do
  if digits.length > mostWritten then none
  let label ← Punycode.decode? digits
  if label.all Punycode.isBasic || mapped? label ≠ some label || !isSound label then none
  return label

/-- The label that a text in its one spelling is. -/
def ofText? (text : List Char) : Option Label :=
  let isBasic := text.all Punycode.isBasic
  if mark.isPrefixOf text then
    if isBasic then (decoded? (text.drop mark.length)).map fun shown => ⟨shown, text⟩ else none
  else if isBasic then some ⟨text, text⟩
  else if isSound text then some ⟨text, mark ++ Punycode.encode text⟩
  else none

end Label

/-- Characters of ASCII that no name may hold. -/
def isReserved (c : Char) : Bool :=
  c.toNat ≤ 0x20 || c.toNat = 0x7F
    || ['#', '%', '/', ':', '<', '>', '?', '@', '[', '\\', ']', '^', '|'].contains c

/-- The form of a name with ASCII alone, unless it is no name. -/
def ascii? (name : List Char) : Option (List Char) := do
  let name ← mapped? name
  if name.any isReserved then none
  let labels ← (splitAt '.' name).mapM Label.ofText?
  if !directionsFit (labels.map Label.shown) then none
  return List.intercalate ['.'] (labels.map Label.written)

end LanguageBridge.Uri.Domain
