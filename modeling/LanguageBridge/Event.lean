import LanguageBridge.Uri.Basic
import LanguageBridge.Json.Value

set_option autoImplicit false

/-! # Editor events

What an editor tells a server: documents that were opened, changed, saved or closed, and files
that changed on disk. Each event has a notification of the protocol, with its method and its
parameters.
-/

namespace LanguageBridge

/-- An open document with its text. -/
structure Document where
  uri : Uri
  language : String
  version : Int
  text : String
deriving DecidableEq, Repr

/-- A change of a file on disk; the protocol numbers the kinds of changes. -/
structure FileChange where
  uri : Uri
  kind : Int
deriving DecidableEq, Repr

/-- An event of an editor. -/
inductive EditorEvent where
  | opened (document : Document)
  | changed (uri : Uri) (version : Int) (text : String)
  | saved (uri : Uri) (text : Option String)
  | closed (uri : Uri)
  | filesChanged (changes : List FileChange)
deriving DecidableEq, Repr

namespace EditorEvent

/-- The document that an event is about, if it is about one. -/
def documentUri? : EditorEvent → Option Uri
  | opened document => some document.uri
  | changed uri _ _ => some uri
  | saved uri _ => some uri
  | closed uri => some uri
  | filesChanged _ => none

/-- The method of the notification. -/
def method : EditorEvent → String
  | opened _ => "textDocument/didOpen"
  | changed _ _ _ => "textDocument/didChange"
  | saved _ _ => "textDocument/didSave"
  | closed _ => "textDocument/didClose"
  | filesChanged _ => "workspace/didChangeWatchedFiles"

/-- The parameters of the notification. A change carries the whole text. -/
def params : EditorEvent → Json
  | opened document =>
    Json.ofMembers [("textDocument", Json.ofMembers
      [("uri", .string document.uri.text), ("languageId", .string document.language),
        ("version", .ofInt document.version), ("text", .string document.text)])]
  | changed uri version text =>
    Json.ofMembers
      [("textDocument", Json.ofMembers [("uri", .string uri.text), ("version", .ofInt version)]),
        ("contentChanges", .array [Json.ofMembers [("text", .string text)]])]
  | saved uri text =>
    let document := ("textDocument", Json.ofMembers [("uri", .string uri.text)])
    match text with
    | some text => Json.ofMembers [document, ("text", .string text)]
    | none => Json.ofMembers [document]
  | closed uri => Json.ofMembers [("textDocument", Json.ofMembers [("uri", .string uri.text)])]
  | filesChanged changes =>
    Json.ofMembers [("changes", .array (changes.map fun change =>
      Json.ofMembers [("uri", .string change.uri.text), ("type", .ofInt change.kind)]))]

end EditorEvent
end LanguageBridge
