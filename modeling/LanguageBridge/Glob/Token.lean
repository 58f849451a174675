set_option autoImplicit false

/-! # The parts of a glob

A glob is a list of tokens. Besides characters, wildcards and classes there are the three forms
of `**` as a whole path component, and groups of alternatives, which hold globs again.
`GlobProblem` lists what can be wrong with the text of a glob.
-/

namespace LanguageBridge

/-- One part of a glob. -/
inductive GlobToken where
  /-- A character that stands for itself. -/
  | literal (c : Char)
  /-- `?`: any one byte. -/
  | anyByte
  /-- `*`: any bytes. -/
  | anyBytes
  /-- `**` at the start, with the separator after it: any directories, or none. -/
  | anyAbove
  /-- `**` at the end, with the separator before it: anything below. -/
  | anyBelow
  /-- `**` between two separators: any directories in between, or none. -/
  | anyBetween
  /-- `[…]`: one byte inside, or for a negated class outside, the ranges. -/
  | byteClass (negated : Bool) (ranges : List (Char × Char))
  /-- `{…,…}`: one of several globs. -/
  | oneOf (branches : List (List GlobToken))

/-- A glob as the list of its parts. -/
abbrev Glob := List GlobToken

/-- What can be wrong with the text of a glob. -/
inductive GlobProblem where
  | unclosedClass
  | invalidRange (first last : Char)
  | unopenedGroup
  | unclosedGroup
  | danglingEscape
deriving DecidableEq, Repr

/-- The wording of a problem. -/
def GlobProblem.message : GlobProblem → String
  | unclosedClass => "unclosed character class; missing ']'"
  | invalidRange first last =>
    "invalid range; '" ++ first.toString ++ "' > '" ++ last.toString ++ "'"
  | unopenedGroup =>
    "unopened alternate group; missing '\x7b' (maybe escape '\x7d' with '[\x7d]'?)"
  | unclosedGroup =>
    "unclosed alternate group; missing '\x7d' (maybe escape '\x7b' with '[\x7b]'?)"
  | danglingEscape => "dangling '\\'"

end LanguageBridge
