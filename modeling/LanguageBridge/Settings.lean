import LanguageBridge.Error
import LanguageBridge.Json.Reader

set_option autoImplicit false

/-! # Settings

Editor settings are read through one question, `SettingsSource.getString`: the text stored under
a key. A JSON settings object answers it for flat keys (`"a.b": …`) and for keys nested under
their sections (`"a": {"b": …}`); a flat key hides a nested one, also when its value is not a
text. A plain table of texts answers it too.
-/

namespace LanguageBridge

/-- Something that holds texts under keys. -/
class SettingsSource (α : Type) where
  /-- The text stored under a key. -/
  getString : α → String → Option String

/-! ## Tables -/

/-- A table of texts; of two entries with one key the first counts. -/
structure TextTable where
  entries : List (String × String)

namespace TextTable

/-- The table without entries. -/
def empty : TextTable := ⟨[]⟩

/-- Stores a text under a key. -/
def insert (table : TextTable) (key value : String) : TextTable :=
  ⟨(key, value) :: table.entries⟩

instance : SettingsSource TextTable where
  getString table key := table.entries.lookup key

end TextTable

/-! ## JSON settings -/

/-- Settings that were read from JSON. -/
structure Settings where
  values : Json.Members

namespace Settings

/-- Settings that hold nothing. -/
def empty : Settings := ⟨[]⟩

/-- How a kind of JSON value is called in messages. -/
def kindName : Json → String
  | .null => "null"
  | .bool _ => "a boolean"
  | .number _ => "a number"
  | .string _ => "a string"
  | .array _ => "an array"
  | .object _ => "an object"

/-- Reads settings from a text, or says what is wrong with it. -/
def parse (text : String) : Except String Settings :=
  match Json.ofText text with
  | .error message => .error ("invalid settings JSON: " ++ message)
  | .ok (.object values) => .ok ⟨values⟩
  | .ok other => .error ("settings root must be an object, found " ++ kindName other)

/-- The settings in a text. -/
def ofText (text : String) : Except Error Settings := (parse text).mapError .config

/-- The settings in a file. Messages about its text begin with the path. -/
def load (fs : FileSystem) (path : Path) : Except Error Settings :=
  match fs.readText path with
  | .error failure => .error (.io failure)
  | .ok text =>
    (parse text).mapError fun reason => .config (Path.display path ++ ": " ++ reason)

/-- Stores a value under a flat key. -/
def set (settings : Settings) (key : String) (value : Json) : Settings :=
  ⟨Json.insertMember key value settings.values⟩

/-- Cuts a key at its first dot. -/
def cutSection : List Char → Option (List Char × List Char)
  | [] => none
  | c :: rest =>
    if c = '.' then some ([], rest)
    else (cutSection rest).map fun parts => (c :: parts.1, parts.2)

/-- The parts of a key between dots. -/
def segments : List Char → List (List Char)
  | [] => [[]]
  | c :: rest =>
    if c = '.' then [] :: segments rest
    else
      match segments rest with
      | [] => [[c]]
      | part :: more => (c :: part) :: more

/-- The value that member names lead to from a value, through objects. -/
def follow (value : Json) : List String → Option Json
  | [] => some value
  | name :: rest =>
    match value.member? name with
    | some inside => follow inside rest
    | none => none

/-- The value stored under a key: under the flat key if there is one, and otherwise nested under
the sections that the key names. -/
def lookup (settings : Settings) (key : String) : Option Json :=
  match Json.lookup key settings.values with
  | some value => some value
  | none =>
    match cutSection key.toList with
    | none => none
    | some (section_, rest) =>
      match Json.lookup (String.ofList section_) settings.values with
      | none => none
      | some value => follow value ((segments rest).map String.ofList)

instance : SettingsSource Settings where
  getString settings key := (settings.lookup key).bind Json.asString?

/-- Whether two settings hold the same values. -/
def same (a b : Settings) : Bool := Json.sameMembers a.values b.values

end Settings
end LanguageBridge
