import LanguageBridge.Connection.Basic

set_option autoImplicit false

/-! # Starting a server

The first start takes an idle connection to its starting phase; any other start is refused. It
finds the workspace, runs the command there and opens the conversation. Then it waits for one of
four things: the answer, the end of its patience, the end of the channel, or a stop that asks it
to give up. Once the server has answered it puts the process into the slot.

However it ends, and also if its caller gives it up, the connection leaves its starting phase.
-/

namespace LanguageBridge

/-- How launching a process went. -/
inductive Launching where
  /-- The workspace cannot be found. -/
  | noWorkspace (failure : IoFailure)
  /-- The command cannot be run. -/
  | noProcess (failure : IoFailure)
  /-- The process runs in the workspace at a canonical path. -/
  | spawned (workspace : Path)
deriving DecidableEq, Repr

namespace Connection

/-- Ends the start of a connection with a failure. -/
def failStart (c : Connection) (i : Nat) (failure : ConnectionFailure) :
    Connection × List ConnectionEffect :=
  (({ c with phase := .closed }).setStart i (.ended (some failure)),
    [logged .debug "language server failed to start"
      [c.commandField, ("error", .string failure.message)], .publish .closed])

/-- Ends the start of a connection with a failure, and lets go of its process. -/
def abandonStart (c : Connection) (i process : Nat) (failure : ConnectionFailure) :
    Connection × List ConnectionEffect :=
  let (c, effects) := (c.setFate process .dropped).failStart i failure
  (c, .letGo process :: effects)

/-- The log event at the beginning of a start. -/
def startLogged (c : Connection) : ConnectionEffect :=
  logged .info "starting language server"
    ([c.commandField, ("args", .string (inspectTexts c.launch.arguments))] ++ scopeFields c.scope)

/-- The failure of a workspace that cannot be found. -/
def workspaceFailure (c : Connection) (failure : IoFailure) : ConnectionFailure :=
  .launch ("failed to canonicalize workspace root '" ++ Path.display c.config.workspaceRoot
    ++ "': " ++ failure.message)

/-- The failure of a command that cannot be run. -/
def spawnFailure (c : Connection) (failure : IoFailure) : ConnectionFailure :=
  .launch ("failed to spawn '" ++ c.launch.command ++ "': " ++ failure.message)

/-- A start begins. `launching` is how its process starts, if it gets that far. -/
def beginStart (c : Connection) (i : Nat) (launching : Launching) :
    Connection × List ConnectionEffect :=
  match c.starts[i]? with
  | some .created =>
    match c.phase with
    | .idle =>
      let c := { c with phase := .starting }
      match launching with
      | .noWorkspace failure =>
        let (c', effects) := c.failStart i (c.workspaceFailure failure)
        (c', .publish .starting :: c.startLogged :: effects)
      | .noProcess failure =>
        let (c', effects) := c.failStart i (c.spawnFailure failure)
        (c', .publish .starting :: c.startLogged :: effects)
      | .spawned workspace =>
        let process := c.processes.length
        (({ c with processes := c.processes ++ [ProcessFate.alive] }).setStart i (.opening process),
          [.publish .starting, c.startLogged, .spawn process, .send process (.opening workspace)])
    | .cancelled => (c.setStart i (.ended (some .stopped)), [])
    | .starting | .running | .closed => (c.setStart i (.ended (some .reused)), [])
  | _ => (c, [])

/-- The log events of a server that is there. -/
def acceptedLogged (c : Connection) (info : ServerInfo) : List ConnectionEffect :=
  [logged .info "language server initialized"
      [c.commandField, ("server_name", .string (Text.quotedOption info.name)),
        ("server_version", .string (Text.quotedOption info.version))],
    logged .debug "server capabilities" []]

/-- The opening of a start ended. `taken` tells whether the channel takes the message that
follows a good answer. -/
def openingEnded (c : Connection) (i : Nat) (outcome : OpeningOutcome) (taken : Bool) :
    Connection × List ConnectionEffect :=
  match c.starts[i]? with
  | some (.opening process) =>
    match outcome with
    | .accepted info =>
      let sent := ConnectionEffect.send process .opened
      if taken then (c.setStart i (.linking process), sent :: c.acceptedLogged info)
      else
        let (c', effects) := c.abandonStart i process
          (.transport ("initialized notification failed: " ++ ChannelFailure.closed.message))
        (c', sent :: effects)
    | .refused reason =>
      c.abandonStart i process (.handshake ("initialize request rejected: " ++ reason))
    | .failed failure => (c.setStart i (.bereaved process failure), [])
    | .overdue =>
      c.abandonStart i process
        (.handshake ("no initialize response within " ++ c.config.initTimeout.text))
  | _ => (c, [])

/-- A process that lost its channel exited, or did not in the time that it was given. -/
def graceEnded (c : Connection) (i : Nat) (status : Option ExitStatus) :
    Connection × List ConnectionEffect :=
  match c.starts[i]? with
  | some (.bereaved process failure) =>
    match status with
    | some status =>
      (c.setFate process .reaped).failStart i
        (.handshake ("server exited before completing the handshake (" ++ status.text ++ ")"))
    | none =>
      c.abandonStart i process
        (.transport ("connection lost during handshake: " ++ failure.message))
  | _ => (c, [])

/-- The process of a start that can still be asked to give up. -/
def StartStage.pending? : StartStage → Option Nat
  | .opening process => some process
  | .bereaved process _ => some process
  | _ => none

/-- A start sees that it was asked to give up. -/
def abortSeen (c : Connection) (i : Nat) : Connection × List ConnectionEffect :=
  match (c.starts[i]?).bind StartStage.pending?, c.abortAsked with
  | some process, true => ({ c with abortAsked := false }).abandonStart i process .stopped
  | _, _ => (c, [])

/-- A start puts the process into the slot. -/
def link (c : Connection) (i : Nat) : Connection × List ConnectionEffect :=
  match c.starts[i]? with
  | some (.linking process) =>
    (({ c with slot := some process, phase := .running }).setStart i (.ended none),
      [.publish .running])
  | _ => (c, [])

/-- The process of a start that has one. -/
def StartStage.process? : StartStage → Option Nat
  | .opening process => some process
  | .bereaved process _ => some process
  | .linking process => some process
  | _ => none

/-- The caller of a start gives it up. -/
def dropStart (c : Connection) (i : Nat) : Connection × List ConnectionEffect :=
  match c.starts[i]? with
  | none => (c, [])
  | some (.ended _) => (c, [])
  | some .dropped => (c, [])
  | some stage =>
    match StartStage.process? stage with
    | none => (c.setStart i .dropped, [])
    | some process =>
      let c := (c.setFate process .dropped).setStart i .dropped
      if c.phase = .starting then
        ({ c with phase := .closed },
          [.letGo process, logged .debug "start attempt dropped during handshake" [],
            .publish .closed])
      else (c, [.letGo process])

end Connection
end LanguageBridge
