import LanguageBridge.Json.Value
import LanguageBridge.Json.Decimal
import LanguageBridge.Text.Bytes

set_option autoImplicit false

/-! # Writing JSON

The compact form of a JSON value: no blanks, members in their order, and every character of a
string as it is except quotes, backslashes and control characters. `Json.render` is the text
of a value. This is assumed of the library that writes JSON; that what it writes can be read back
is proved (`LanguageBridge.Proofs.Json.Strings`, `LanguageBridge.Proofs.Json.Objects`).
-/

namespace LanguageBridge.Json

/-- The form of a character inside a string. -/
def escapeChar (c : Char) : List Char :=
  match c with
  | '"' => ['\\', '"']
  | '\\' => ['\\', '\\']
  | '\x08' => ['\\', 'b']
  | '\x0c' => ['\\', 'f']
  | '\n' => ['\\', 'n']
  | '\r' => ['\\', 'r']
  | '\t' => ['\\', 't']
  | c =>
    if c < ' ' then
      ['\\', 'u', '0', '0', Text.hexDigit (c.toNat / 16), Text.hexDigit (c.toNat % 16)]
    else [c]

/-- A string with its quotes. -/
def writeString (s : String) : List Char := '"' :: s.toList.flatMap escapeChar ++ ['"']

/-- A number. -/
def writeNumber : Number → List Char
  | .int i => (toString i).toList
  | .float x => (Decimal.text x).toList

mutual

/-- The characters of a value. -/
def write : Json → List Char
  | null => ['n', 'u', 'l', 'l']
  | bool true => ['t', 'r', 'u', 'e']
  | bool false => ['f', 'a', 'l', 's', 'e']
  | number n => writeNumber n
  | string s => writeString s
  | array items => '[' :: writeItems items
  | object members => '\x7b' :: writeMembers members

/-- The items of an array and its closing bracket. -/
def writeItems : List Json → List Char
  | [] => [']']
  | [item] => write item ++ [']']
  | item :: rest => write item ++ ',' :: writeItems rest

/-- The members of an object and its closing brace. -/
def writeMembers : List (String × Json) → List Char
  | [] => ['\x7d']
  | [(key, value)] => writeString key ++ ':' :: (write value ++ ['\x7d'])
  | (key, value) :: rest => writeString key ++ ':' :: (write value ++ ',' :: writeMembers rest)

end

/-- The text of a value. -/
def render (value : Json) : String := String.ofList (write value)

end LanguageBridge.Json
