import LanguageBridge.Event
import LanguageBridge.Error
import LanguageBridge.Language

set_option autoImplicit false

/-! # Documents on disk

How paths become URIs, and files become documents. A document is named by its canonical path, so
that one file has one URI; a changed file may be gone, so it is named by the path as it is.
-/

namespace LanguageBridge

/-- The language identifier of files of other languages. -/
def plainText : String := "plaintext"

/-- The language of a file, by its extension. -/
def languageForPath? (path : Path) : Option Language :=
  ((Path.extension? path).bind Text.decode?).bind Language.ofExtension?

/-- The URI of the file at a path, which has to exist. -/
def pathToUri (fs : FileSystem) (path : Path) : Except Error Uri :=
  let absolute := if Path.isAbsolute path then path else Path.join fs.current path
  match fs.canonical absolute with
  | .error failure =>
    .error (.invalidPath
      ("failed to canonicalize '" ++ Path.display path ++ "': " ++ failure.message))
  | .ok canonical =>
    match Uri.ofFilePath? canonical with
    | some uri => .ok uri
    | none => .error (.invalidPath (Path.display canonical))

/-- Reads a file as a document that was just opened. -/
def loadDocument (fs : FileSystem) (path : Path) : Except Error Document :=
  match pathToUri fs path with
  | .error e => .error e
  | .ok uri =>
    match fs.readText path with
    | .error failure => .error (.io failure)
    | .ok text =>
      let language := ((languageForPath? path).map Language.id).getD plainText
      .ok ⟨uri, language, 0, text⟩

/-- The change of the file at a path, which has to be absolute. -/
def fileChange (path : Path) (kind : Int) : Except Error FileChange :=
  match Uri.ofFilePath? path with
  | some uri => .ok ⟨uri, kind⟩
  | none => .error (.invalidPath ("not an absolute path: " ++ Path.display path))

end LanguageBridge
