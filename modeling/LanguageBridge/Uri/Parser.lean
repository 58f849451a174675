import LanguageBridge.Uri.Basic
import LanguageBridge.Uri.Host

set_option autoImplicit false

/-! # Reading a URI

`Uri.parse?` reads an absolute URI as browsers do. Blanks around the text and tabs and line ends
in it are dropped, the scheme is put into lower case, characters that may not stand in a part
are percent-encoded, and `.` and `..` are resolved. In the schemes of the web and of files,
which are called special, a backslash separates like a slash and the path is never empty.

Tabs and line ends are dropped part by part, because one of them after the name of a drive
separates it from what follows.
-/

namespace LanguageBridge.Uri

/-! ## Tabs and line ends -/

/-- Whether a character is a tab or ends a line. -/
def isBreak (c : Char) : Bool := c = '\t' || c = '\n' || c = '\r'

/-- A text without tabs and line ends. -/
def joined (s : List Char) : List Char := s.filter (!isBreak ·)

/-- The first character that is no tab and ends no line, and what follows it. -/
def next? : List Char → Option (Char × List Char)
  | [] => none
  | c :: rest => if isBreak c then next? rest else some (c, rest)

/-- Drops a character that comes next. -/
def dropNext? (p : Char → Bool) (s : List Char) : Option (List Char) :=
  match next? s with
  | some (c, rest) => if p c then some rest else none
  | none => none

/-! ## Schemes -/

/-- Whether a scheme has a host and a path of its own rules. -/
def isSpecial (scheme : String) : Bool :=
  ["http", "https", "ws", "wss", "ftp", "file"].contains scheme

/-- The usual port of a scheme. -/
def usualPort? (scheme : String) : Option Nat :=
  match scheme with
  | "http" => some 80
  | "ws" => some 80
  | "https" => some 443
  | "wss" => some 443
  | "ftp" => some 21
  | _ => none

/-- Whether a character may stand in a scheme after its first letter. -/
def isSchemeChar (c : Char) : Bool := c.isAlphanum || c = '+' || c = '-' || c = '.'

/-- Cuts a text after its scheme and the colon. -/
def cutScheme? (s : List Char) : Option (String × List Char) :=
  let front := s.takeWhile fun c => isSchemeChar c || isBreak c
  match joined front, s.drop front.length with
  | c :: scheme, ':' :: rest =>
    if c.isAlpha then some (String.ofList ((c :: scheme).map Char.toLower), rest) else none
  | _, _ => none

/-- Whether a character separates the parts of a path. -/
def isSlash (special : Bool) (c : Char) : Bool := c = '/' || (special && c = '\\')

/-- Whether a character ends the path. -/
def endsPath (c : Char) : Bool := c = '?' || c = '#'

/-! ## Paths -/

/-- Whether a segment is a letter and `:` or `|`, as the name of a drive. -/
def isDrive (segment : List Char) : Bool :=
  match segment with
  | [letter, mark] => letter.isAlpha && (mark = ':' || mark = '|')
  | _ => false

/-- Whether a segment begins with the name of a drive: it is one, or a backslash follows. -/
def beginsWithDrive (segment : List Char) : Bool :=
  isDrive segment || (isDrive (segment.take 2) && (segment.drop 2).head? = some '\\')

/-- The spellings of `.`. -/
def isDot (segment : List Char) : Bool :=
  [".", "%2e"].contains (String.ofList (segment.map Char.toLower))

/-- The spellings of `..`. -/
def isDotDot (segment : List Char) : Bool :=
  ["..", "%2e%2e", "%2e.", ".%2e"].contains (String.ofList (segment.map Char.toLower))

/-- The path that is left when the last segment of one that ends in a slash is taken away, where
paths are written from their end. The name of a drive stays. -/
def withoutLast (back : List Char) : List Char :=
  let last := (back.drop 1).takeWhile (· ≠ '/')
  let before := back.drop (1 + last.length)
  if before.isEmpty || beginsWithDrive last.reverse then back else before

/-- A path that is being read: what is written of it, from its end, which is a slash unless there
is nothing; and whether the host has to go because the path names a drive. -/
structure PathSoFar where
  back : List Char
  dropsHost : Bool

/-- Writes characters after a path. -/
def PathSoFar.write (p : PathSoFar) (s : List Char) : PathSoFar :=
  { p with back := s.reverse ++ p.back }

/-- The name of a drive, and what follows it, where a tab or the end of a line stands between
them. -/
def splitDrive? (raw : List Char) : Option (List Char × List Char) := do
  let (letter, rest) ← next? raw
  match ← next? rest with
  | (':', c :: rest) =>
    if letter.isAlpha && isBreak c && !(joined rest).isEmpty then
      return ([letter, ':'], joined rest)
    else none
  | _ => none

/-- Adds a segment; `more` tells whether a separator follows it. -/
def addSegment (file : Bool) (p : PathSoFar) (raw : List Char) (more : Bool) : PathSoFar :=
  let slash := if more then ['/'] else []
  let encoded (s : List Char) := Percent.encodeText Percent.plainInPath s
  let first := file && p.back = ['/']
  match if first then splitDrive? raw else none with
  | some (drive, rest) => p.write (drive ++ '/' :: encoded rest ++ slash)
  | none =>
    let segment := encoded (joined raw)
    if isDotDot segment then { p with back := withoutLast p.back }
    else if isDot segment then p
    else if first && isDrive segment then
      { p.write (segment.take 1 ++ ':' :: slash) with dropsHost := true }
    else p.write (segment ++ slash)

/-- Cuts a path into its segments; the flag tells whether a separator follows. -/
def cutSegments (special : Bool) : List Char → List (List Char × Bool)
  | [] => [([], false)]
  | c :: rest =>
    if isSlash special c then ([], true) :: cutSegments special rest
    else
      match cutSegments special rest with
      | [] => [([c], false)]
      | (segment, more) :: others => (c :: segment, more) :: others

/-- The written form of a path, after some of it that is written, and whether the host has to
go. -/
def readPath (special file : Bool) (start raw : List Char) : List Char × Bool :=
  let p := (cutSegments special raw).foldl (fun p s => addSegment file p s.1 s.2)
    ⟨start.reverse, false⟩
  let written := p.back.reverse
  (if file then '/' :: written.dropWhile (· = '/') else written, p.dropsHost)

/-- The path of a special scheme after a host. -/
def readPathAfterHost (file : Bool) (raw : List Char) : List Char × Bool :=
  readPath true file ['/'] ((dropNext? (isSlash true) raw).getD raw)

/-- The path, query and fragment of the rest of a URI. The path is as it was. -/
def cutTail (special : Bool) (s : List Char) :
    List Char × Option String × Option String :=
  let path := s.takeWhile fun c => !endsPath c
  let written (plain : UInt8 → Bool) (text : List Char) :=
    String.ofList (Percent.encodeText plain (joined text))
  match s.drop path.length with
  | '?' :: rest =>
    let query := rest.takeWhile (· ≠ '#')
    let fragment := match rest.drop query.length with
      | _ :: f => some (written Percent.plainInFragment f)
      | [] => none
    (path, some (written (Percent.plainInQuery special) query), fragment)
  | _ :: f => (path, none, some (written Percent.plainInFragment f))
  | [] => (path, none, none)

/-! ## Authorities -/

/-- Cuts characters at the last `@`. -/
def cutUser (s : List Char) : Option (List Char × List Char) :=
  let back := s.reverse
  let after := back.takeWhile (· ≠ '@')
  match back.drop after.length with
  | _ :: before => some (before.reverse, after.reverse)
  | [] => none

/-- The written forms of a user's name and password; nothing if both are empty. -/
def readUser (s : List Char) : Option (String × Option String) :=
  let written (text : List Char) := String.ofList (Percent.encodeText Percent.plainInUser text)
  let name := s.takeWhile (· ≠ ':')
  match s.drop name.length with
  | _ :: password =>
    if password.isEmpty then (if name.isEmpty then none else some (written name, none))
    else some (written name, some (written password))
  | [] => if name.isEmpty then none else some (written name, none)

/-- Cuts host and port at the first colon outside of brackets. -/
def cutPort : Bool → List Char → List Char × Option (List Char)
  | _, [] => ([], none)
  | inside, c :: rest =>
    if c = ':' ∧ ¬ inside then ([], some rest)
    else
      let inside := if c = '[' then true else if c = ']' then false else inside
      let (host, port) := cutPort inside rest
      (c :: host, port)

/-- The number of a port, if it is one; an empty one is the usual port. -/
def readPort? (scheme : String) (digits : List Char) : Option (Option Nat) :=
  let n := digits.foldl (fun n c => n * 10 + (c.toNat - 48)) 0
  if n > 65535 then none
  else if digits.isEmpty ∨ usualPort? scheme = some n then some none
  else some (some n)

/-- The authority that a text denotes, and what of the text belongs to the path: a port ends at a
backslash. `atEnd` tells whether the URI ends with the text; only then a lone `@` is no
mistake. -/
def readAuthority? (scheme : String) (s : List Char) (atEnd : Bool) :
    Option (Authority × List Char) := do
  let special := isSpecial scheme
  let cut := cutUser s
  let place := (cut.map (·.2)).getD s
  if cut.any (·.1.isEmpty) ∧ place.isEmpty ∧ ¬ atEnd then none
  let user := cut.bind fun c => readUser c.1
  let (host, port) := cutPort false place
  if host.isEmpty ∧ (special ∨ port.isSome ∨ user.isSome) then none
  let host ← if special then Host.parse? host else Host.parseRaw? host
  let digits := (port.getD []).takeWhile Char.isDigit
  let rest := (port.getD []).drop digits.length
  if rest.head?.any (· ≠ '\\') then none
  return (⟨user, host, ← readPort? scheme digits⟩, rest)

/-! ## Whole URIs -/

/-- Reads what follows the `//` of a URI that is no file. -/
def readWithAuthority? (scheme : String) (s : List Char) : Option Uri := do
  let special := isSpecial scheme
  let place := s.takeWhile fun c => !(isSlash special c || endsPath c)
  let after := s.drop place.length
  let (authority, rest) ← readAuthority? scheme (joined place) after.isEmpty
  let (raw, query, fragment) := cutTail special (rest ++ after)
  let path :=
    if special then (readPathAfterHost false raw).1
    else
      match next? raw with
      | none => []
      | some ('/', _) => (readPath false false [] raw).1
      | some _ => (readPath false false ['/'] raw).1
  return ⟨scheme, some authority, String.ofList path, query, fragment⟩

/-- Reads what follows the colon of the URI of a file. A host before the name of a drive is
dropped. -/
def readFile? (s : List Char) : Option Uri := do
  let build (host : String) (start : List Char) (raw : List Char) : Uri :=
    let (raw, query, fragment) := cutTail true raw
    let (path, dropsHost) :=
      if host.isEmpty then readPath true true start raw else readPathAfterHost true raw
    let host := if dropsHost then "" else host
    ⟨"file", some ⟨none, host, none⟩, String.ofList path, query, fragment⟩
  match dropNext? (isSlash true) s with
  | none => return build "" ['/'] s
  | some rest =>
    match dropNext? (isSlash true) rest with
    | none => return build "" [] s
    | some rest =>
      let place := rest.takeWhile fun c => !(isSlash true c || endsPath c)
      let name := joined place
      if isDrive name ∨ name.isEmpty then return build "" ['/'] rest
      else
        let host ← Host.parse? name
        let host := if host = "localhost" then "" else host
        return build host ['/'] (rest.drop place.length)

/-- Reads what follows the colon of a URI that is neither of the web nor of a file. -/
def readOther? (scheme : String) (s : List Char) : Option Uri :=
  let slash := dropNext? (· = '/')
  match (slash s).bind slash with
  | some rest => readWithAuthority? scheme rest
  | none =>
    let (raw, query, fragment) := cutTail false s
    let path := match slash raw with
      | some rest => (readPath false false ['/'] rest).1
      | none => Percent.encodeText Percent.isPrintable (joined raw)
    some ⟨scheme, none, String.ofList path, query, fragment⟩

/-- Drops control characters and spaces around a text. -/
def trimmed (text : String) : List Char :=
  let outer (c : Char) : Bool := c ≤ ' '
  ((text.toList.dropWhile outer).reverse.dropWhile outer).reverse

/-- The URI that a text denotes, if it is one. -/
def parse? (text : String) : Option Uri := do
  let (scheme, rest) ← cutScheme? (trimmed text)
  if scheme = "file" then readFile? rest
  else if isSpecial scheme then
    readWithAuthority? scheme (rest.dropWhile fun c => isSlash true c || isBreak c)
  else readOther? scheme rest

end LanguageBridge.Uri
