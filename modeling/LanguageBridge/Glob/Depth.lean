import LanguageBridge.Glob.Match

set_option autoImplicit false

/-! # Depth of a glob

Depth counts what a matcher has to keep open at once: sequences of more than one item, groups,
choices between more than one alternative, repetitions and classes. A matcher is built for globs
of at most `Glob.maxDepth`.
-/

namespace LanguageBridge.Glob

/-- The depth of a sequence, from the number of its items and the largest depth in it. -/
def sequenceDepth (items inside : Nat) : Nat := if items > 1 then inside + 1 else inside

mutual

/-- How many items of a sequence a token gives. -/
def itemCount : GlobToken → Nat
  | .literal c => c.utf8Size
  | .anyBelow => 2
  | .oneOf branches => if allVoid branches then 0 else 1
  | _ => 1

/-- How deep the inside of a token is. -/
def tokenDepth : GlobToken → Nat
  | .literal _ => 0
  | .anyByte => 0
  | .anyBytes => 1
  | .anyBelow => 1
  | .anyAbove => 4
  | .anyBetween => 4
  | .byteClass _ ranges => if (ranges.flatMap byteRanges).length > 1 then 2 else 1
  | .oneOf branches =>
    let (alternatives, inside) := branchesDepth branches
    if alternatives > 1 then inside + 2 else inside + 1

/-- The number of items in a glob and the largest depth in it. -/
def globDepth : List GlobToken → Nat × Nat
  | [] => (0, 0)
  | t :: rest =>
    let (items, inside) := globDepth rest
    (itemCount t + items, max (tokenDepth t) inside)

/-- The number of alternatives and the largest depth of one. -/
def branchesDepth : List (List GlobToken) → Nat × Nat
  | [] => (0, 0)
  | g :: rest =>
    let (alternatives, inside) := branchesDepth rest
    if isVoidGlob g then (alternatives, inside)
    else
      let (items, depth) := globDepth g
      (alternatives + 1, max (sequenceDepth items depth) inside)

end

/-- How deep a whole glob is. -/
def depth (tokens : Glob) : Nat := (globDepth tokens).2 + 1

/-- How deep a glob may be. -/
def maxDepth : Nat := 250

end LanguageBridge.Glob
