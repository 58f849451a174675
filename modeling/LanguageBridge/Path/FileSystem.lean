import LanguageBridge.Path.Basic

set_option autoImplicit false

/-! # File systems

A file system is a tree of directories, files and symbolic links with a current directory.
`FileSystem.locate` follows a path to what it names and gives its canonical path, which has no
links in it; `FileSystem.readText` reads a file as text. `IoFailure` lists the ways in which
this, or starting a program, goes wrong.

Links are followed one after the other, at most `maxLinks` of them. A path is followed piece by
piece, and every piece, also an empty one at the end, needs a directory before it.
-/

namespace LanguageBridge

/-- Why the file system or the system refuses an operation. -/
inductive IoFailure where
  | notFound
  | permissionDenied
  | notADirectory
  | isADirectory
  | nameTooLong
  | tooManyLinks
  | nulInPath
  | nulInData
  | notText
deriving DecidableEq, Repr

/-- The wording of a failure. -/
def IoFailure.message : IoFailure → String
  | notFound => "No such file or directory (os error 2)"
  | permissionDenied => "Permission denied (os error 13)"
  | notADirectory => "Not a directory (os error 20)"
  | isADirectory => "Is a directory (os error 21)"
  | nameTooLong => "File name too long (os error 36)"
  | tooManyLinks => "Too many levels of symbolic links (os error 40)"
  | nulInPath => "file name contained an unexpected NUL byte"
  | nulInData => "nul byte found in provided data"
  | notText => "stream did not contain valid UTF-8"

/-- What a name in a directory stands for. -/
inductive FileNode where
  /-- A file with its contents; only some files can be run. -/
  | file (contents : Bytes) (executable : Bool)
  /-- A directory. -/
  | directory (entries : List (Bytes × FileNode))
  /-- A symbolic link. -/
  | link (target : Path)

/-- The entries of a directory. -/
abbrev Entries := List (Bytes × FileNode)

/-- A tree of files and the current directory. -/
structure FileSystem where
  root : Entries
  current : Path

namespace FileSystem

/-- The node under a name. -/
def entry? (name : Bytes) : Entries → Option FileNode
  | [] => none
  | (n, node) :: rest => if n = name then some node else entry? name rest

/-- The entries with a node put under a name. -/
def setEntry (name : Bytes) (node : FileNode) : Entries → Entries
  | [] => [(name, node)]
  | (n, old) :: rest => if n = name then (n, node) :: rest else (n, old) :: setEntry name node rest

/-- The node that names lead to from a directory, without following links. -/
def nodeAt (entries : Entries) : List Bytes → Option FileNode
  | [] => some (.directory entries)
  | name :: rest =>
    match entry? name entries with
    | some (.directory inside) => nodeAt inside rest
    | some node => if rest.isEmpty then some node else none
    | none => none

/-- The entries with a node put where names lead to; missing directories are made. -/
def putAt (node : FileNode) : List Bytes → Entries → Entries
  | [], entries => entries
  | [name], entries => setEntry name node entries
  | name :: rest, entries =>
    let inside := match entry? name entries with
      | some (.directory inside) => inside
      | _ => []
    setEntry name (.directory (putAt node rest inside)) entries

/-! ## Following a path -/

/-- The longest name a directory can hold, in bytes. -/
def maxName : Nat := 255

/-- A path must be shorter than this many bytes. -/
def maxPath : Nat := 4096

/-- How many links may be followed. -/
def maxLinks : Nat := 40

/-- The names of a canonical path. -/
abbrev Place := List Bytes

/-- Follows pieces from a place. `follow` continues after a link, from a place along pieces;
without it there were too many links. Places are kept with the last name first. -/
def walk (root : Entries) (follow : Option (Place → List Bytes → Except IoFailure Place)) :
    Place → List Bytes → Except IoFailure Place
  | at_, [] => .ok at_
  | at_, piece :: rest =>
    match nodeAt root at_.reverse with
    | some (.directory entries) =>
      if piece = [] ∨ piece = [Path.dot] then walk root follow at_ rest
      else if piece = [Path.dot, Path.dot] then walk root follow at_.tail rest
      else if piece.length > maxName then .error .nameTooLong
      else
        match entry? piece entries with
        | none => .error .notFound
        | some (.link target) =>
          match follow with
          | none => .error .tooManyLinks
          | some follow =>
            let start := if Path.isAbsolute target then [] else at_
            follow start (Path.pieces target ++ rest)
        | some _ => walk root follow (piece :: at_) rest
    | some _ => .error .notADirectory
    | none => .error .notFound

/-- Follows pieces from a place through at most the given number of links. -/
def walkLinks (root : Entries) : Nat → Place → List Bytes → Except IoFailure Place
  | 0 => walk root none
  | links + 1 => walk root (some (walkLinks root links))

/-- The path with the given names. -/
def pathOf (names : Place) : Path :=
  if names.isEmpty then [Path.separator] else names.flatMap (Path.separator :: ·)

/-- The names of the place that a path leads to. -/
def locate (fs : FileSystem) (p : Path) : Except IoFailure Place :=
  if p.contains 0 then .error .nulInPath
  else if p.isEmpty then .error .notFound
  else if p.length ≥ maxPath then .error .nameTooLong
  else
    let start := if Path.isAbsolute p then [] else Path.pieces fs.current
    (walkLinks fs.root maxLinks [] (start ++ Path.pieces p)).map List.reverse

/-- The canonical form of a path: absolute, without links, `.` and `..`. -/
def canonical (fs : FileSystem) (p : Path) : Except IoFailure Path := (fs.locate p).map pathOf

/-- What a path names. -/
def node (fs : FileSystem) (p : Path) : Except IoFailure FileNode :=
  match fs.locate p with
  | .error e => .error e
  | .ok names =>
    match nodeAt fs.root names with
    | some node => .ok node
    | none => .error .notFound

/-- The contents of a file as text. -/
def readText (fs : FileSystem) (p : Path) : Except IoFailure String :=
  match fs.node p with
  | .error e => .error e
  | .ok (.file contents _) =>
    match Text.decode? contents with
    | some text => .ok text
    | none => .error .notText
  | .ok _ => .error .isADirectory

/-! ## Building a tree -/

/-- The place that pieces lead to; directories that are missing on the way are to be made. -/
def placeFor (fs : FileSystem) : Place → List Bytes → Place
  | at_, [] => at_
  | at_, piece :: rest =>
    match walkLinks fs.root maxLinks [] (at_ ++ [piece]) with
    | .ok there => placeFor fs there.reverse rest
    | .error _ => placeFor fs (at_ ++ [piece]) rest

/-- Puts a node at a path below the current directory. Missing directories are made, and links
on the way are followed. -/
def put (fs : FileSystem) (p : Path) (node : FileNode) : FileSystem :=
  let names (q : Path) := (Path.pieces q).filter fun piece => piece ≠ [] ∧ piece ≠ [Path.dot]
  let all := if Path.isAbsolute p then names p else names fs.current ++ names p
  let above := placeFor fs [] all.dropLast
  let place := above ++ all.drop (all.length - 1)
  { fs with root := putAt node place fs.root }

/-- A file system that holds only its current directory. -/
def withCurrent (current : Path) : FileSystem :=
  put ⟨[], current⟩ current (.directory [])

end FileSystem
end LanguageBridge
