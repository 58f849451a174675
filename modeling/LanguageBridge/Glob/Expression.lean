import LanguageBridge.Glob.Match

set_option autoImplicit false

/-! # The expression of a glob

A glob can be written as a regular expression over bytes, which matches the same paths. A report
about a glob for which no matcher can be built shows this expression.
-/

namespace LanguageBridge.Glob

/-- The characters that stand for themselves only after a backslash. -/
def escapedInExpression : List Char :=
  ['\\', '.', '+', '*', '?', '(', ')', '|', '[', ']', '\x7b', '\x7d', '^', '$', '#', '&', '-', '~']

/-- The expression of one byte. -/
def byteExpression (b : UInt8) : List Char :=
  let c := Char.ofNat b.toNat
  if b.toNat < 0x80 then
    if escapedInExpression.contains c then ['\\', c] else [c]
  else ['\\', 'x', Text.hexDigit (b.toNat / 16), Text.hexDigit (b.toNat % 16)]

/-- The expression of one character: those of its bytes. -/
def charExpression (c : Char) : List Char := (String.utf8EncodeChar c).flatMap byteExpression

/-- The expression of a range inside a class. -/
def rangeExpression (range : Char × Char) : List Char :=
  if range.1 = range.2 then charExpression range.1
  else charExpression range.1 ++ '-' :: charExpression range.2

mutual

/-- The expression of a token. -/
def tokenExpression : GlobToken → List Char
  | .literal c => charExpression c
  | .anyByte => ['.']
  | .anyBytes => ['.', '*']
  | .anyAbove => "(?:/?|.*/)".toList
  | .anyBelow => "/.*".toList
  | .anyBetween => "(?:/|/.*/)".toList
  | .byteClass negated ranges =>
    '[' :: (if negated then ['^'] else []) ++ ranges.flatMap rangeExpression ++ [']']
  | .oneOf branches =>
    match branchExpressions branches with
    | [] => []
    | parts => "(?:".toList ++ ['|'].intercalate parts ++ [')']

/-- The expressions of the tokens of a glob, one after the other. -/
def tokenExpressions : List GlobToken → List Char
  | [] => []
  | t :: rest => tokenExpression t ++ tokenExpressions rest

/-- The expressions of alternatives, empty ones left out. -/
def branchExpressions : List (List GlobToken) → List (List Char)
  | [] => []
  | g :: rest =>
    match tokenExpressions g with
    | [] => branchExpressions rest
    | part => part :: branchExpressions rest

end

/-- The expression of a whole glob. A glob that is `**` alone matches everything. -/
def expression (tokens : Glob) : String :=
  let inside := match tokens with
    | [.anyAbove] => ['.', '*']
    | _ => tokenExpressions tokens
  String.ofList ("(?-u)^".toList ++ inside ++ ['$'])

end LanguageBridge.Glob
