import LanguageBridge.Log
import LanguageBridge.Protocol.Shape

set_option autoImplicit false

/-! # What a server says of its own accord

A server sends notifications and requests of its own. `Notice.ofParams` reads the parameters of a
notification that the client listens to, and `Protocol.requestShape?` gives the shape of the
parameters of a request that it answers.
-/

namespace LanguageBridge

namespace Protocol

open Shape

/-- A number or a text. -/
def numberOrText : Shape := oneOf "NumberOrString" [int32, text]

/-! ## Notifications -/

/-- A message with its type. -/
def messageParams (name : String) : Shape :=
  record name [required "type" int32, required "message" text]

/-- A place in a document. -/
def position : Shape := record "Position" [required "line" nat32, required "character" nat32]

/-- A range of a document. -/
def range : Shape := record "Range" [required "start" position, required "end" position]

/-- A diagnostic. -/
def diagnostic : Shape :=
  record "Diagnostic"
    [required "range" range, field? "severity" int32, field? "code" numberOrText,
      field? "codeDescription" (record "CodeDescription" [required "href" uri]),
      field? "source" text, required "message" text,
      field? "relatedInformation" (list (record "DiagnosticRelatedInformation"
        [required "location" (record "Location" [required "uri" uri, required "range" range]),
          required "message" text])),
      field? "tags" (list int32), field? "data" any]

/-- The diagnostics of a document. -/
def diagnosticsParams : Shape :=
  record "PublishDiagnosticsParams"
    [required "uri" uri, required "diagnostics" (list diagnostic), field? "version" int32]

/-- Progress of some work. -/
def progressParams : Shape :=
  let details := [field? "cancellable" flag, field? "message" text, field? "percentage" nat32]
  record "ProgressParams"
    [required "token" numberOrText,
      required "value" (oneOf "ProgressParamsValue"
        [tagged "WorkDoneProgress" "kind"
          [("begin", required "title" text :: details), ("report", details),
            ("end", [field? "message" text])]])]

/-- Anything that a server counts. -/
def telemetryParams : Shape := oneOf "OneOf" [mapping, list any]

/-! ## Requests -/

/-- The parameters of a request that the client answers, by its method. -/
def requestShape? (method : String) : Option Shape :=
  if method = "window/workDoneProgress/create" then
    some (record "WorkDoneProgressCreateParams" [required "token" numberOrText])
  else if method = "client/registerCapability" then
    some (record "RegistrationParams"
      [required "registrations" (list (record "Registration"
        [required "id" text, required "method" text, field? "registerOptions" any]))])
  else none

end Protocol

/-- What a notification of a server tells the client. -/
inductive Notice where
  /-- A message for the log; the protocol numbers the types of messages. -/
  | message (type : Int) (text : String)
  /-- The number of diagnostics of a document. -/
  | diagnostics (uri : Uri) (count : Nat)
  /-- Something that the client does not use. -/
  | unused
deriving DecidableEq

namespace Notice

/-- The message in the parameters of a notification, which may be written as an array. -/
def messageOf (params : Json) : Notice :=
  match params with
  | .array [type, text] => .message (type.asInt?.getD 0) (text.asString?.getD "")
  | params =>
    .message (((params.member? "type").bind Json.asInt?).getD 0)
      (((params.member? "message").bind Json.asString?).getD "")

/-- The diagnostics in the parameters of a notification. -/
def diagnosticsOf (params : Json) : Notice :=
  let (uri, items) := match params with
    | .array (uri :: items :: _) => (some uri, some items)
    | params => (params.member? "uri", params.member? "diagnostics")
  match (uri.bind Json.asString?).bind Uri.parse? with
  | some uri => .diagnostics uri ((items.bind Json.asArray?).getD []).length
  | none => .unused

/-- What a notification tells the client, or nothing if the client does not listen to the method
or the parameters do not fit. A method that begins with `$/` may be ignored. -/
def ofParams? (method : String) (params : Json) : Option Notice :=
  let read (shape : Shape) (notice : Notice) : Option Notice :=
    if shape.fits params then some notice else none
  if method = "window/logMessage" then
    read (Protocol.messageParams "LogMessageParams") (messageOf params)
  else if method = "window/showMessage" then
    read (Protocol.messageParams "ShowMessageParams") (messageOf params)
  else if method = "textDocument/publishDiagnostics" then
    read Protocol.diagnosticsParams (diagnosticsOf params)
  else if method = "$/progress" then read Protocol.progressParams .unused
  else if method = "telemetry/event" then read Protocol.telemetryParams .unused
  else if ['$', '/'].isPrefixOf method.toList then some .unused
  else none

/-- The log event for a notice of a server. -/
def logged? (server : String) : Notice → Option LogEvent
  | message type text =>
    let level := match type with
      | 1 => LogLevel.error
      | 2 => LogLevel.warn
      | 3 => LogLevel.info
      | _ => LogLevel.debug
    some ⟨level, "ruby_ti_bridge::lsp::client", text, [("server", .string server)]⟩
  | diagnostics uri count =>
    some ⟨.debug, "ruby_ti_bridge::lsp::client", "diagnostics published",
      [("server", .string server), ("uri", .string uri.text), ("count", .ofNat count)]⟩
  | unused => none

end Notice
end LanguageBridge
