import LanguageBridge.Failure
import LanguageBridge.Log
import LanguageBridge.Json.Writer

set_option autoImplicit false

/-! # Status messages and diagnostic records

The bridge tells its user how a start goes in short messages, and keeps a structured record of
a failed one. Where both go is up to the host; `Status.logged` is the host that writes them to
the log.
-/

namespace LanguageBridge

/-- The name in front of messages. -/
def clientName : String := "Ruby-TI LSP"

/-- How serious a message is. -/
inductive Severity where
  | info
  | error
deriving DecidableEq, Repr

/-- The word for a severity. -/
def Severity.word : Severity → String
  | info => "info"
  | error => "error"

/-- A message for the user. -/
structure StatusMessage where
  severity : Severity
  text : String
deriving DecidableEq, Repr

namespace StatusMessage

/-- A message about progress. -/
def info (text : String) : StatusMessage := ⟨.info, text⟩

/-- A message about a failure. -/
def error (text : String) : StatusMessage := ⟨.error, text⟩

/-- The message as it is shown. -/
def shown (message : StatusMessage) : String := clientName ++ ": " ++ message.text

end StatusMessage

/-- The record of a failed start. -/
structure DiagnosticRecord where
  client : String
  command : String
  kind : FailureKind
  reason : String
deriving DecidableEq, Repr

namespace DiagnosticRecord

/-- The record of a failed start of a command. -/
def startFailure (command : String) (failure : ConnectionFailure) : DiagnosticRecord :=
  ⟨clientName, command, failure.kind, failure.message⟩

/-- The record as a JSON object. -/
def toJson (record : DiagnosticRecord) : Json :=
  .object [("client", .string record.client), ("command", .string record.command),
    ("kind", .string record.kind.word), ("reason", .string record.reason)]

end DiagnosticRecord

/-- What the bridge tells its user. -/
inductive Status where
  | message (message : StatusMessage)
  | record (record : DiagnosticRecord)
deriving DecidableEq, Repr

/-- The log event of a host that writes its status to the log. -/
def Status.logged : Status → LogEvent
  | message m =>
    let level := match m.severity with
      | .info => LogLevel.info
      | .error => LogLevel.error
    ⟨level, "ruby_ti_bridge::bridge::status", m.shown, []⟩
  | record r =>
    ⟨.error, "ruby_ti_bridge::diagnostic", clientName ++ " error",
      [("record", .string r.toJson.render)]⟩

end LanguageBridge
