import LanguageBridge.Uri.Percent
import LanguageBridge.Path.Basic

set_option autoImplicit false

/-! # URIs

A URI names a document. Its parts are kept in their written form, so that two URIs are equal
exactly when their texts are. `Uri.ofFilePath?` names a file by its absolute path, and
`Uri.toFilePath?` gives the path back: component by component, whatever bytes it holds.

Assumed of the library that makes URIs is what it documents for files: only absolute paths have a
URI; components are written one after the other, with percent codes for all bytes outside ASCII
and for those that a component of a path must not hold plainly (`Percent.plainInComponent`); and
the way back decodes the path, whatever the scheme is, for an empty or local host.
-/

namespace LanguageBridge

/-- What stands between `//` and the path. -/
structure Authority where
  /-- The name of a user and perhaps a password, in written form. -/
  user : Option (String × Option String)
  /-- The host, or nothing. -/
  host : String
  /-- The port, if it is not the usual one of the scheme. -/
  port : Option Nat
deriving DecidableEq, Repr

/-- A URI. -/
structure Uri where
  scheme : String
  authority : Option Authority
  path : String
  query : Option String
  fragment : Option String
deriving DecidableEq, Repr

namespace Uri

/-- The authority of a file on this machine. -/
def noHost : Authority := ⟨none, "", none⟩

/-- The text of an authority. -/
def authorityText (a : Authority) : String :=
  let user := match a.user with
    | none => ""
    | some (name, none) => name ++ "@"
    | some (name, some password) => name ++ ":" ++ password ++ "@"
  let port := match a.port with
    | none => ""
    | some n => ":" ++ toString n
  user ++ a.host ++ port

/-- The text of a URI. Without an authority a path cannot begin with two separators, so `/.` is
put before it. -/
def text (uri : Uri) : String :=
  let authority := match uri.authority with
    | some a => "//" ++ authorityText a
    | none => if uri.path.toList.take 2 = ['/', '/'] then "/." else ""
  let query := match uri.query with
    | some q => "?" ++ q
    | none => ""
  let fragment := match uri.fragment with
    | some f => "#" ++ f
    | none => ""
  uri.scheme ++ ":" ++ authority ++ uri.path ++ query ++ fragment

/-! ## Files -/

/-- The bytes of a component in a path. -/
def componentBytes : PathComponent → Bytes
  | .root => []
  | .here => [Path.dot]
  | .up => [Path.dot, Path.dot]
  | .name bytes => bytes

/-- The path of the URI of a file. -/
def filePathText (components : List PathComponent) : List Char :=
  if components.isEmpty then ['/']
  else
    components.flatMap fun c => '/' :: Percent.encode Percent.plainInComponent (componentBytes c)

/-- The URI of the file at an absolute path. -/
def ofFilePath? (p : Path) : Option Uri :=
  match Path.components p with
  | .root :: rest => some ⟨"file", some noHost, String.ofList (filePathText rest), none, none⟩
  | _ => none

/-- Whether a path ends in a letter and `:` or `|`. -/
def endsInDrive (p : Bytes) : Bool :=
  match p.reverse with
  | mark :: letter :: _ :: _ =>
    (mark == 0x3A || mark == 0x7C) &&
      ((0x41 ≤ letter && letter ≤ 0x5A) || (0x61 ≤ letter && letter ≤ 0x7A))
  | _ => false

/-- The file that a URI names, whatever its scheme is: the URI needs a path from the root and no
host but `localhost`. A separator follows what looks like the name of a drive. -/
def toFilePath? (uri : Uri) : Option Path :=
  let local_ := match uri.authority with
    | none => true
    | some a => a.host = "" || a.host = "localhost"
  match local_, uri.path.toList with
  | true, '/' :: rest =>
    let bytes := Percent.decode ('/' :: rest)
    some (if endsInDrive bytes then bytes ++ [Path.separator] else bytes)
  | _, _ => none

end Uri
end LanguageBridge
