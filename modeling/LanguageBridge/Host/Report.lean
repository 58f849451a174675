set_option autoImplicit false

/-! # Reports

The report of an error that ends the host: the error, and under it what caused it, the nearest
first. Several causes are numbered, and further lines of a cause are indented.
-/

namespace LanguageBridge.Host

/-- The lines of a text. -/
def lines : List Char → List (List Char)
  | [] => [[]]
  | c :: rest =>
    if c = '\n' then [] :: lines rest
    else
      match lines rest with
      | [] => [[c]]
      | line :: more => (c :: line) :: more

/-- A text with something before its first line and before each other one. -/
def indented (first other text : String) : String :=
  first ++ ("\n" ++ other).intercalate ((lines text.toList).map String.ofList)

/-- A number at the right of five columns. -/
def numbered (n : Nat) : String :=
  let digits := toString n
  String.ofList (List.replicate (5 - digits.length) ' ') ++ digits ++ ": "

/-- The causes of an error, each from a new line on. -/
def causeLines : List String → List String
  | [cause] => [indented "    " "    " cause]
  | causes => causes.mapIdx fun n cause => indented (numbered n) "       " cause

/-- The report of an error with its causes. -/
def report (error : String) (causes : List String) : String :=
  let under := if causes.isEmpty then ""
    else "\n\nCaused by:" ++ String.join ((causeLines causes).map ("\n" ++ ·))
  "Error: " ++ error ++ under ++ "\n"

end LanguageBridge.Host
