import LanguageBridge.Event

set_option autoImplicit false

/-! # What the client says

A conversation with a server is opened by a request with the workspace and the client's
capabilities, and by a notification once the answer is there. After that come editor events, and
at the end a request to shut down and a notification to exit.
-/

namespace LanguageBridge

/-- A message of the client. -/
inductive ClientMessage where
  /-- Opens the conversation about the workspace at a canonical path. -/
  | opening (workspace : Path)
  /-- Says that the answer to the opening has arrived. -/
  | opened
  /-- Tells an editor event. -/
  | event (event : EditorEvent)
  /-- Asks the server to shut down. -/
  | shutdown
  /-- Tells the server to exit. -/
  | exit
deriving DecidableEq

namespace ClientMessage

/-- The method of the message. -/
def method : ClientMessage → String
  | opening _ => "initialize"
  | opened => "initialized"
  | event e => e.method
  | shutdown => "shutdown"
  | exit => "exit"

/-- Whether the server has to answer. -/
def isRequest : ClientMessage → Bool
  | opening _ => true
  | shutdown => true
  | _ => false

/-! ## The opening -/

/-- The name of the client in the protocol. -/
def clientProgram : String := "ruby-ti-bridge"

/-- The version of the client. -/
def clientVersion : String := "0.1.0"

/-- A capability that cannot be registered while running, with further members. -/
def fixed (members : List (String × Json)) : Json :=
  .ofMembers (("dynamicRegistration", .bool false) :: members)

/-- What the client can do with documents: whole documents are kept in step, with saves, and
the client asks for completion, hovers, definitions, code lenses, code actions and
diagnostics. -/
def documentCapabilities : Json :=
  .ofMembers
    [("synchronization", fixed
        [("willSave", .bool false), ("willSaveWaitUntil", .bool false), ("didSave", .bool true)]),
      ("completion", fixed
        [("completionItem", .ofMembers [("snippetSupport", .bool false)])]),
      ("hover", fixed [("contentFormat", .ofStrings ["markdown", "plaintext"])]),
      ("definition", fixed [("linkSupport", .bool false)]),
      ("codeLens", fixed []),
      ("codeAction", fixed []),
      ("publishDiagnostics", .ofMembers [])]

/-- What the client can do. -/
def capabilities : Json :=
  .ofMembers
    [("workspace", .ofMembers
        [("didChangeWatchedFiles", fixed []), ("workspaceFolders", .bool true)]),
      ("textDocument", documentCapabilities),
      ("window", .ofMembers [("workDoneProgress", .bool true)])]

/-- The name of a workspace: its last component, if that is text. -/
def workspaceName (workspace : Path) : String :=
  ((Path.fileName? workspace).bind Text.decode?).getD "workspace"

/-- The parameters of the opening. -/
def openingParams (processId : Nat) (workspace : Path) : Json :=
  let uri := Json.ofOption ((Uri.ofFilePath? workspace).map Uri.text)
  .ofMembers
    [("processId", .ofNat processId),
      ("rootUri", uri),
      ("capabilities", capabilities),
      ("trace", .string "off"),
      ("workspaceFolders", .array
        [.ofMembers [("uri", uri), ("name", .string (workspaceName workspace))]]),
      ("clientInfo", .ofMembers
        [("name", .string clientProgram), ("version", .string clientVersion)])]

/-- The parameters of a message, given the number of the client's process. -/
def params (processId : Nat) : ClientMessage → Json
  | opening workspace => openingParams processId workspace
  | opened => .ofMembers []
  | event e => e.params
  | shutdown => .null
  | exit => .null

end ClientMessage
end LanguageBridge
