import LanguageBridge.Text.Bytes
import LanguageBridge.Text.Printable

set_option autoImplicit false

/-! # Quoted text

The inspection form of values: a text stands between double quotes, with a backslash before
quotes and backslashes, short escapes for the usual control characters, and every other
character that is not shown as itself written as its number in hexadecimal, `\u` followed by
the digits in braces. A list stands between brackets and an optional value is `Some(…)` or
`None`.
-/

namespace LanguageBridge.Text

/-- The number of a character in lower-case hexadecimal, without leading zeros. -/
def hexNumber (c : Char) : List Char := Nat.toDigits 16 c.toNat

/-- The form of one character inside a quoted text. -/
def quoteChar (c : Char) : List Char :=
  match c with
  | '\x00' => ['\\', '0']
  | '\t' => ['\\', 't']
  | '\r' => ['\\', 'r']
  | '\n' => ['\\', 'n']
  | '\\' => ['\\', '\\']
  | '"' => ['\\', '"']
  | c => if isShown c then [c] else ['\\', 'u', '\x7b'] ++ hexNumber c ++ ['\x7d']

/-- The quoted form of a text. -/
def quoted (s : String) : String :=
  String.ofList ('"' :: s.toList.flatMap quoteChar ++ ['"'])

/-- The inspection form of a list, given that of its items. -/
def bracketed (items : List String) : String := "[" ++ ", ".intercalate items ++ "]"

/-- The inspection form of an optional text. -/
def quotedOption : Option String → String
  | none => "None"
  | some s => "Some(" ++ quoted s ++ ")"

end LanguageBridge.Text
