import LanguageBridge.Bridge.Inspect
import LanguageBridge.Duration
import LanguageBridge.ExitStatus
import LanguageBridge.Failure
import LanguageBridge.Log
import LanguageBridge.Path.FileSystem
import LanguageBridge.Protocol.Call
import LanguageBridge.Protocol.ClientMessage

set_option autoImplicit false

/-! # Connections

A connection starts one server process, talks to it and stops it. It can be used once. Callers
ask for starts, stops and notifications; each of these is an attempt that goes on in steps, may
have to wait between them, and may be given up by its caller while it waits. The attempts share
the phase of the connection, the slot with the process of a running server, and a request to
give up the start.

A process belongs to the attempt that works with it: the start until it puts the process into the
slot, then the slot, and then the stop that takes it out.
-/

namespace LanguageBridge

/-- How a connection talks to servers. -/
structure ConnectionConfig where
  /-- The workspace that a server works in. -/
  workspaceRoot : Path
  /-- How long the answer to the opening may take. -/
  initTimeout : Duration
  /-- How long the answer to a shutdown may take, and the exit after it. -/
  shutdownTimeout : Duration
deriving DecidableEq, Repr

/-- The usual configuration: the current directory, and half a minute for a start. -/
def ConnectionConfig.usual : ConnectionConfig :=
  ⟨Path.ofText ".", Duration.seconds 30, Duration.seconds 5⟩

/-- How long a server that dropped the channel is given to exit. -/
def exitGrace : Duration := Duration.millis 500

/-- The phase of a connection. -/
inductive ConnectionPhase where
  | idle
  | starting
  | running
  /-- Stopped, or failed to start. -/
  | closed
  /-- Stopped before any start. -/
  | cancelled
deriving DecidableEq, Repr

/-- The word for a phase. -/
def ConnectionPhase.word : ConnectionPhase → String
  | idle => "Idle"
  | starting => "Starting"
  | running => "Running"
  | closed => "Closed"
  | cancelled => "Cancelled"

/-- What became of a process. -/
inductive ProcessFate where
  | alive
  /-- Its end was seen. -/
  | reaped
  | killed
  /-- Its owner let go of it, which ends it too. -/
  | dropped
deriving DecidableEq, Repr

/-- How far a start has come. -/
inductive StartStage where
  /-- It has not begun. -/
  | created
  /-- It waits for the answer to the opening. -/
  | opening (process : Nat)
  /-- The channel failed, and it waits for the process to exit. -/
  | bereaved (process : Nat) (failure : ChannelFailure)
  /-- The server is there, and it waits for the slot. -/
  | linking (process : Nat)
  /-- It ended, perhaps with a failure. -/
  | ended (failure : Option ConnectionFailure)
  /-- It was given up. -/
  | dropped
deriving DecidableEq, Repr

/-- How far a stop has come. -/
inductive StopStage where
  /-- It has not begun. -/
  | created
  /-- It waits for the start to end. -/
  | waiting
  /-- It saw a running server, and it waits for the slot. -/
  | unlinking
  /-- It waits for the answer to the shutdown. -/
  | closing (process : Nat)
  /-- It waits for the process to exit. -/
  | reaping (process : Nat) (failure : Option ConnectionFailure)
  /-- It ended, perhaps with a failure. -/
  | ended (failure : Option ConnectionFailure)
  /-- It was given up. -/
  | dropped
deriving DecidableEq, Repr

/-- A stop, and the phases that it found so far. -/
structure StopAttempt where
  stage : StopStage
  found : List ConnectionPhase
deriving DecidableEq, Repr

/-- How far a notification has come. -/
inductive NotifyStage where
  /-- It waits for the slot. -/
  | created (event : EditorEvent)
  /-- It ended, perhaps with a failure. -/
  | ended (failure : Option ConnectionFailure)
  /-- It was given up. -/
  | dropped
deriving DecidableEq, Repr

/-- A connection. -/
structure Connection where
  launch : Launch
  scope : Scope
  config : ConnectionConfig
  phase : ConnectionPhase
  /-- The process of the running server. -/
  slot : Option Nat
  /-- Whether the start was asked to give up and has not seen it yet. -/
  abortAsked : Bool
  /-- What became of the processes so far, by their numbers. -/
  processes : List ProcessFate
  starts : List StartStage
  stops : List StopAttempt
  notifies : List NotifyStage

/-- What a connection does. -/
inductive ConnectionEffect where
  /-- Makes a phase known to the attempts. -/
  | publish (phase : ConnectionPhase)
  /-- Starts a process. -/
  | spawn (process : Nat)
  /-- Tries to send a message to a process. -/
  | send (process : Nat) (message : ClientMessage)
  /-- Kills a process. -/
  | kill (process : Nat)
  /-- Lets go of a process, which ends it. -/
  | letGo (process : Nat)
  /-- Logs something. -/
  | log (event : LogEvent)

namespace Connection

/-- A connection that was not used. -/
def fresh (launch : Launch) (scope : Scope) (config : ConnectionConfig) : Connection :=
  ⟨launch, scope, config, .idle, none, false, [], [], [], []⟩

/-- Whether the server is there and was not stopped. -/
def isRunning (c : Connection) : Bool := c.phase == .running

/-- The inspection form of a connection. -/
def inspect (c : Connection) : String :=
  "LspConnection \x7b command: " ++ Text.quoted c.launch.command ++ ", phase: " ++ c.phase.word
    ++ ", .. \x7d"

/-- How a start ended, if it has. -/
def startResult? (c : Connection) (i : Nat) : Option (Option ConnectionFailure) :=
  match c.starts[i]? with
  | some (.ended failure) => some failure
  | _ => none

/-- How a stop ended, if it has. -/
def stopResult? (c : Connection) (i : Nat) : Option (Option ConnectionFailure) :=
  match c.stops[i]? with
  | some ⟨.ended failure, _⟩ => some failure
  | _ => none

/-- How a notification ended, if it has. -/
def notifyResult? (c : Connection) (i : Nat) : Option (Option ConnectionFailure) :=
  match c.notifies[i]? with
  | some (.ended failure) => some failure
  | _ => none

/-! ## Parts of steps -/

/-- A log event of a connection. -/
def logged (level : LogLevel) (message : String) (fields : List (String × Json)) :
    ConnectionEffect :=
  .log ⟨level, "ruby_ti_bridge::lsp::client", message, fields⟩

/-- The log field with the command. -/
def commandField (c : Connection) : String × Json := ("command", .string c.launch.command)

/-- Moves a start to a stage. -/
def setStart (c : Connection) (i : Nat) (stage : StartStage) : Connection :=
  { c with starts := c.starts.set i stage }

/-- Moves a stop to a stage. -/
def setStop (c : Connection) (i : Nat) (stage : StopStage) : Connection :=
  { c with stops := c.stops.modify i fun s => { s with stage } }

/-- Moves a notification to a stage. -/
def setNotify (c : Connection) (i : Nat) (stage : NotifyStage) : Connection :=
  { c with notifies := c.notifies.set i stage }

/-- Decides the fate of a process. -/
def setFate (c : Connection) (process : Nat) (fate : ProcessFate) : Connection :=
  { c with processes := c.processes.set process fate }

end Connection
end LanguageBridge
