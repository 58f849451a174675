import LanguageBridge.Text.Bytes

set_option autoImplicit false

/-! # Paths

A path is a sequence of bytes. Its components are the names between separators; empty ones and
`.` do not count, except for a `.` at the very start of a relative path, and `..` is kept. Two
paths are the same path if their components are.
-/

namespace LanguageBridge

/-- A path. -/
abbrev Path := Bytes

/-- A component of a path. -/
inductive PathComponent where
  /-- The separator at the start of an absolute path. -/
  | root
  /-- `.` at the start of a relative path. -/
  | here
  /-- `..`. -/
  | up
  /-- Any other name. -/
  | name (bytes : Bytes)
deriving DecidableEq, Repr

namespace Path

/-- The separator of components. -/
def separator : UInt8 := 0x2F

/-- The dot. -/
def dot : UInt8 := 0x2E

/-- The pieces of a path between separators. -/
def pieces : Bytes → List Bytes
  | [] => [[]]
  | b :: rest =>
    if b = separator then [] :: pieces rest
    else
      match pieces rest with
      | [] => [[b]]
      | piece :: more => (b :: piece) :: more

/-- Whether a path is absolute. -/
def isAbsolute (p : Path) : Bool := p.head? == some separator

/-- The component that a piece inside a path stands for. -/
def component? (piece : Bytes) : Option PathComponent :=
  if piece = [] ∨ piece = [dot] then none
  else if piece = [dot, dot] then some .up
  else some (.name piece)

/-- The components of a path. -/
def components (p : Path) : List PathComponent :=
  let names := (pieces p).filterMap component?
  if isAbsolute p then .root :: names
  else if (pieces p).head? = some [dot] then .here :: names
  else names

/-- Whether two paths are the same path. -/
def same (p q : Path) : Bool := components p == components q

/-- The last component of a path, if it is a name. -/
def fileName? (p : Path) : Option Bytes :=
  match (components p).getLast? with
  | some (.name bytes) => some bytes
  | _ => none

/-- The extension of a path: what follows the last dot of its last component, unless that dot
comes first. -/
def extension? (p : Path) : Option Bytes := do
  let name ← fileName? p
  let back := name.reverse
  let after := back.takeWhile (· ≠ dot)
  match back.drop after.length with
  | _ :: before => if before.isEmpty then none else some after.reverse
  | [] => none

/-- The text of a path, with the replacement character where it is not text. -/
def display (p : Path) : String := Text.decodeLossy p

/-- A path below another one; an absolute path stays as it is. -/
def join (base p : Path) : Path :=
  if isAbsolute p then p
  else if base.getLast? = some separator ∨ base = [] then base ++ p
  else base ++ separator :: p

/-- The path that a text spells. -/
def ofText (s : String) : Path := Text.utf8Bytes s

end Path
end LanguageBridge
