import LanguageBridge.Host.Plan
import LanguageBridge.Rehearsal.Bridged

set_option autoImplicit false

/-! # Rehearsing the host

The host in a rehearsed world: it activates a bridge, waits for the start, opens the documents it
was asked for, waits to be interrupted and deactivates the bridge. It is interrupted as soon as
everything is quiet.
-/

namespace LanguageBridge.Rehearsal

open Host (Plan Ending Arguments)

/-- How a host ended, and the world that it leaves behind. -/
structure HostRun where
  ending : Ending
  interrupted : Bool
  /-- What was logged and passed the filter. -/
  entries : List Host.LogEntry
  records : List Json

namespace World

/-- A world whose host logs what its user is told. -/
def hosted (plan : Plan) (files : FileSystem) (programs : Path → Launch → Option Program)
    (processId : Nat) : World :=
  let config := { ConnectionConfig.usual with workspaceRoot := plan.workspace }
  { bridged config files programs processId with logsStatus := true }

/-- Opens a document that was asked for. -/
def openRequested (w : World) (path : Path) : World :=
  match loadDocument w.files path with
  | .error e => w.log none (Host.skippedLogged path e)
  | .ok document =>
    match w.forward (.opened document) with
    | (w, .forwarded (.done delivery)) => w.log none (Host.deliveryLogged path delivery)
    | (w, .forwarded (.refused e)) => w.log none (Host.failedLogged path e)
    | (w, _) => w

/-- Opens the documents and waits to be interrupted. -/
def attend (w : World) (plan : Plan) : World :=
  let w := plan.documents.foldl openRequested w
  (w.log none (Host.runningLogged plan.workspace)).settle

/-- Deactivates the bridge and waits for the stop. -/
def finish (w : World) : World × Except BridgeError Unit :=
  let (w, _) := w.give .deactivate
  match w.awaitTeardown 0 with
  | (w, .ended result) => (w, result)
  | (w, .nothing) => (w, .ok ())

/-- Runs a session. -/
def runPlan (w : World) (plan : Plan) : World × Ending × Bool :=
  let (w, _) := w.activate plan.launch plan.scope
  let w := w.awaitStart
  let outcome := w.assembly.bridge.state
  let ready := outcome == .ready
  let w := if ready then w.attend plan else w
  match w.finish, outcome with
  | (w, .error e), _ => (w, .ofReport (Host.stopReport e), ready)
  | (w, .ok _), .failed reason => (w, .ofReport (Host.startReport reason), ready)
  | (w, .ok _), _ => (w.log none Host.endedLogged, ⟨0, "", ""⟩, ready)

end World

/-- Runs a host with a command line in an environment. -/
def runHost (arguments : List String) (env : Environment) (files : FileSystem)
    (programs : Path → Launch → Option Program) (processId : Nat) : HostRun × Option Plan :=
  match Arguments.read arguments with
  | .error refusal => (⟨Ending.ofRefusal refusal, false, [], []⟩, none)
  | .ok a =>
    match Plan.make files env a with
    | .error ending => (⟨ending, false, [], []⟩, none)
    | .ok plan =>
      let (w, ending, interrupted) := (World.hosted plan files programs processId).runPlan plan
      let entries := (w.logs.map fun l => Host.LogEntry.mk l.1 l.2).filter fun entry =>
        entry.passes plan.filter
      (⟨ending, interrupted, entries, w.records⟩, some plan)

end LanguageBridge.Rehearsal
