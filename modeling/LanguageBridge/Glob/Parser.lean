import LanguageBridge.Glob.Token

set_option autoImplicit false

/-! # Groups a glob

The text of a glob is read character by character. The reader (`Reader`) keeps the tokens of the
branch that it is in, the branches of the same group before it, the groups around it
(`Groups`), and what the characters just read have begun (`Begun`): a `*`, a `**`, a class or an
escape. `Glob.ofText` gives the tokens of a whole text, or the first problem.

`**` is a path component of its own if separators, the ends of the glob or the ends of a branch
stand around it; otherwise it is two `*` in a row.
-/

namespace LanguageBridge.Glob

/-- A class that is being read: its ranges with the latest first, whether anything was read
since it was opened, and whether the last range still waits for its end. -/
structure ClassSoFar where
  negated : Bool
  ranges : List (Char × Char)
  fresh : Bool
  inRange : Bool

/-- A group that is being read: its finished branches and the tokens of the current one, the
latest first in both. -/
structure Branches where
  finished : List Glob
  current : Glob

/-- The innermost group that is being read, and the groups around it. The outermost one is the
glob itself, which has one branch only. -/
structure Groups where
  inner : Branches
  outer : List Branches

namespace Groups

/-- Adds a token to the current branch. -/
def push (g : Groups) (t : GlobToken) : Groups :=
  { g with inner.current := t :: g.inner.current }

/-- Adds two `*`. -/
def pushTwoStars (g : Groups) : Groups := (g.push .anyBytes).push .anyBytes

/-- Opens a group. -/
def openGroup (g : Groups) : Groups := ⟨⟨[], []⟩, g.inner :: g.outer⟩

/-- Whether a group is open. -/
def inGroup (g : Groups) : Bool := !g.outer.isEmpty

/-- Whether the current branch is empty. -/
def atStart (g : Groups) : Bool := g.inner.current.isEmpty

/-- Starts the next branch of the innermost group. -/
def nextBranch (g : Groups) : Groups :=
  { g with inner := ⟨g.inner.current.reverse :: g.inner.finished, []⟩ }

/-- Closes the innermost group. -/
def closeGroup (g : Groups) : Except GlobProblem Groups :=
  match g.outer with
  | [] => .error .unopenedGroup
  | around :: outer =>
    let branches := (g.inner.current.reverse :: g.inner.finished).reverse
    .ok ⟨{ around with current := .oneOf branches :: around.current }, outer⟩

/-- Puts `**` as a component in the place of the separator before it. A `**` before that
separator already covers it. -/
def pushComponent (g : Groups) (t : GlobToken) : Groups :=
  match g.inner.current with
  | .anyAbove :: _ => g
  | .anyBelow :: _ => g
  | _ :: before => { g with inner.current := t :: before }
  | [] => g.push t

/-- The tokens of the whole glob, if no group is open. -/
def finish (g : Groups) : Except GlobProblem Glob :=
  if g.inGroup then .error .unclosedGroup else .ok g.inner.current.reverse

end Groups

/-! ## Classes -/

/-- Ends the last range of a class with `c`. -/
def ClassSoFar.endRange (k : ClassSoFar) (c : Char) : Except GlobProblem ClassSoFar :=
  match k.ranges with
  | (first, _) :: before =>
    if c < first then .error (.invalidRange first c)
    else .ok { k with ranges := (first, c) :: before, fresh := false, inRange := false }
  | [] => .ok { k with ranges := [(c, c)], fresh := false, inRange := false }

/-- Adds a character to a class. -/
def ClassSoFar.add (k : ClassSoFar) (c : Char) : Except GlobProblem ClassSoFar :=
  if k.inRange then k.endRange c
  else if c = '-' ∧ ¬ k.fresh then .ok { k with inRange := true }
  else .ok { k with ranges := (c, c) :: k.ranges, fresh := false }

/-- The token of a finished class. A `-` that waits for an end stands for itself. -/
def ClassSoFar.token (k : ClassSoFar) : GlobToken :=
  let ranges := if k.inRange then ('-', '-') :: k.ranges else k.ranges
  .byteClass k.negated ranges.reverse

/-! ## One character at a time -/

/-- What the characters just read have begun. -/
inductive Begun where
  /-- Nothing. -/
  | nothing
  /-- One `*`. -/
  | star
  /-- Two `*`. -/
  | twoStars
  /-- A class of which only the opening bracket was read. -/
  | bracket
  /-- A class. -/
  | ofClass (k : ClassSoFar)
  /-- An escape. -/
  | backslash

/-- What has been read of a glob. `before` is the character before what has been begun. -/
structure Reader where
  begun : Begun
  groups : Groups
  before : Option Char

namespace Reader

/-- Nothing read yet. -/
def start : Reader := ⟨.nothing, ⟨⟨[], []⟩, []⟩, none⟩

/-- The state after a character that ends with these groups and begins nothing. -/
def settled (groups : Groups) (c : Char) : Reader := ⟨.nothing, groups, some c⟩

/-- Reads a character when nothing has been begun. -/
def plain (groups : Groups) (before : Option Char) (c : Char) : Except GlobProblem Reader :=
  if c = '?' then .ok (settled (groups.push .anyByte) c)
  else if c = '*' then .ok ⟨.star, groups, before⟩
  else if c = '[' then .ok ⟨.bracket, groups, before⟩
  else if c = '\x7b' then .ok (settled groups.openGroup c)
  else if c = '\x7d' then groups.closeGroup.map fun around => settled around c
  else if c = ',' then
    .ok (settled (if groups.inGroup then groups.nextBranch else groups.push (.literal c)) c)
  else if c = '\\' then .ok ⟨.backslash, groups, before⟩
  else .ok (settled (groups.push (.literal c)) c)

/-- Whether `**` after the character `before` may be a component that does not start the
branch: a separator stands before it, or what looks like the start of a branch. -/
def opensComponent (groups : Groups) (before : Option Char) : Bool :=
  before == some '/' || (groups.inGroup && (before == some ',' || before == some '\x7b'))

/-- Reads a character after `**`, which stood after `before`. -/
def afterTwoStars (groups : Groups) (before : Option Char) (c : Char) :
    Except GlobProblem Reader :=
  let endsBranch := groups.inGroup && (c = ',' || c = '\x7d')
  if c = '/' ∧ groups.atStart then .ok (settled (groups.push .anyAbove) c)
  else if c = '/' ∧ opensComponent groups before then
    .ok (settled (groups.pushComponent .anyBetween) c)
  else if endsBranch ∧ ¬ groups.atStart ∧ opensComponent groups before then
    plain (groups.pushComponent .anyBelow) (some '*') c
  else plain groups.pushTwoStars (some '*') c

/-- Reads a character of a class. -/
def inClass (groups : Groups) (k : ClassSoFar) (c : Char) : Except GlobProblem Reader :=
  if c = ']' ∧ ¬ k.fresh then .ok (settled (groups.push k.token) c)
  else (k.add c).map fun k => ⟨.ofClass k, groups, some c⟩

/-- Reads one character. -/
def step (r : Reader) (c : Char) : Except GlobProblem Reader :=
  match r.begun with
  | .nothing => plain r.groups r.before c
  | .star =>
    if c = '*' then .ok { r with begun := .twoStars }
    else plain (r.groups.push .anyBytes) (some '*') c
  | .twoStars => afterTwoStars r.groups r.before c
  | .bracket =>
    if c = '!' ∨ c = '^' then .ok { r with begun := .ofClass ⟨true, [], true, false⟩ }
    else inClass r.groups ⟨false, [], true, false⟩ c
  | .ofClass k => inClass r.groups k c
  | .backslash => .ok (settled (r.groups.push (.literal c)) c)

/-- The tokens when the text ends here. -/
def finish (r : Reader) : Except GlobProblem Glob :=
  match r.begun with
  | .nothing => r.groups.finish
  | .star => (r.groups.push .anyBytes).finish
  | .twoStars =>
    if r.groups.atStart then (r.groups.push .anyAbove).finish
    else if opensComponent r.groups r.before then (r.groups.pushComponent .anyBelow).finish
    else r.groups.pushTwoStars.finish
  | .bracket => .error .unclosedClass
  | .ofClass _ => .error .unclosedClass
  | .backslash => .error .danglingEscape

end Reader

/-- The glob that a text denotes. -/
def ofText (text : String) : Except GlobProblem Glob := do
  let r ← text.toList.foldlM Reader.step Reader.start
  r.finish

end LanguageBridge.Glob
