import LanguageBridge.Bridge.Effect
import LanguageBridge.Document
import LanguageBridge.Host.Arguments
import LanguageBridge.Host.LogLine
import LanguageBridge.Host.Report
import LanguageBridge.Settings

set_option autoImplicit false

/-! # What the host does

The host runs one session without an editor. `Plan.make` works out from the command line, the
environment and the files which server to launch, for which scope and in which workspace, or ends
with a report. The rest of this file is what the host logs on its way.
-/

namespace LanguageBridge.Host

/-! ## Endings -/

/-- How the host ended. -/
structure Ending where
  code : Nat
  /-- The report of an error, or the first line of a complaint about the command line. -/
  report : String
  /-- What was written for the caller. -/
  stdout : String
deriving DecidableEq, Repr

/-- The ending with a report of what is wrong. -/
def Ending.ofReport (report : String) : Ending := ⟨1, report, ""⟩

/-- The ending of a host that broke off. -/
def Ending.brokenOff : Ending := ⟨101, "", ""⟩

/-- The ending of a command line that does not run a session. -/
def Ending.ofRefusal : Refusal → Ending
  | .help => ⟨0, "", helpText⟩
  | .version => ⟨0, "", versionText⟩
  | .usage e => ⟨2, firstLine e.message, ""⟩

/-! ## Plans -/

/-- A session that the host is to run. -/
structure Plan where
  /-- The canonical path of the workspace. -/
  workspace : Path
  launch : Launch
  scope : Scope
  documents : List Path
  filter : Filter
  logJson : Bool

/-- The settings of a command line: those of the file, if one is named, with the server's path from
the command line. -/
def settingsFor (fs : FileSystem) (a : Arguments) : Except Error Settings :=
  let loaded := match a.settings with
    | some path => Settings.load fs path
    | none => .ok Settings.empty
  loaded.map fun settings =>
    match a.serverPath with
    | some path => settings.set serverPathKey (.string path)
    | none => settings

/-- The scope of a command line. -/
def scopeFor (a : Arguments) : Scope := if a.json then Scope.rubyAndJson else Scope.ruby

/-- The settings file of a command line as reports name it. -/
def settingsName (a : Arguments) : String :=
  match a.settings with
  | some path => Path.display path
  | none => ""

/-- Works out the session that a command line asks for, or how the host ends without one. -/
def Plan.make (fs : FileSystem) (env : Environment) (a : Arguments) : Except Ending Plan :=
  match levelOf a.logLevel with
  | .error word => .error (.ofReport (report ("invalid log level: " ++ word) []))
  | .ok level =>
    let setting := (env.get? (Text.utf8Bytes filterVariable)).bind Text.decode?
    match filterFor? setting level, fs.canonical a.workspace with
    | none, _ => .error .brokenOff
    | some _, .error failure =>
      let place := Path.display a.workspace
      .error <| .ofReport <|
        report ("failed to canonicalize workspace path: " ++ place) [failure.message]
    | some filter, .ok workspace =>
      match settingsFor fs a with
      | .error e =>
        .error <| .ofReport <|
          report ("failed to load settings from " ++ settingsName a) (e.message :: e.causes)
      | .ok settings =>
        .ok ⟨workspace, Launch.ofSettings settings env, scopeFor a, a.documents, filter,
          a.logJson⟩

/-! ## Log events -/

/-- A log event of the host. -/
def logged (level : LogLevel) (message : String) (fields : List (String × Json)) : LogEvent :=
  ⟨level, "ruby_ti_bridge", message, fields⟩

/-- The log field with the path of a document. -/
def pathField (path : Path) : String × Json := ("path", .string (Path.display path))

/-- A document cannot be read. -/
def skippedLogged (path : Path) (e : Error) : LogEvent :=
  logged .warn "skipping document" [pathField path, ("error", .string e.message)]

/-- A document was forwarded, or was not because of a delivery that says why. -/
def deliveryLogged (path : Path) : Delivery → LogEvent
  | .sent => logged .info "opened document" [pathField path]
  | delivery =>
    logged .warn "document not forwarded" [pathField path, ("delivery", .string delivery.name)]

/-- A document could not be delivered. -/
def failedLogged (path : Path) (e : BridgeError) : LogEvent :=
  logged .warn "failed to open document" [pathField path, ("error", .string e.message)]

/-- The server is ready and the documents were opened. -/
def runningLogged (workspace : Path) : LogEvent :=
  logged .info "server running, press Ctrl-C to stop"
    [("workspace", .string (Path.display workspace))]

/-- The session ended well. -/
def endedLogged : LogEvent := logged .info "session ended" []

/-! ## Reports -/

/-- The report of a stop that failed. -/
def stopReport (e : BridgeError) : String :=
  report "failed to stop server" (Error.bridge e).causes

/-- The report of a server that did not start. -/
def startReport (reason : String) : String := report ("server failed to start: " ++ reason) []

end LanguageBridge.Host
