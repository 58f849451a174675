import LanguageBridge.Document
import LanguageBridge.Rehearsal.World

set_option autoImplicit false

/-! # Rehearsing a bridge

A world whose assembly is driven through its bridge, as an editor would: it is activated and
deactivated, waits for starts and stops, and forwards events.
-/

namespace LanguageBridge.Rehearsal.World

/-- A world with a bridge that was never activated. -/
def bridged (config : ConnectionConfig) (files : FileSystem)
    (programs : Path → Launch → Option Program) (processId : Nat) : World :=
  quiet (Assembly.idle config) files programs processId

/-- Activates the bridge. -/
def activate (w : World) (launch : Launch) (scope : Scope) : World × BridgeReply :=
  w.give (.activate launch scope true)

/-- Waits until the bridge is not starting. -/
def awaitStart (w : World) : World :=
  w.runTo none fun w => w.assembly.bridge.state != .starting

/-- Forwards an event. -/
def forward (w : World) (event : EditorEvent) : World × BridgeReply :=
  let taken := match w.assembly.handed? event with
    | some (connection, _) => w.takes connection
    | none => false
  w.give (.forward event (some taken))

/-- Whether a reply is an error of a forward. -/
def isForwardError : BridgeReply → Bool
  | .forwarded (.refused _) => true
  | _ => false

/-- Forwards an event again and again until that fails. -/
def forwardUntilFailure (event : EditorEvent) : Nat → World → World × BridgeReply
  | 0, w => (w, .none)
  | fuel + 1, w =>
    let (w, reply) := w.forward event
    if isForwardError reply || fuel = 0 then (w, reply)
    else forwardUntilFailure event fuel (w.round none none)

/-- What waiting for a teardown gives. -/
inductive Awaited where
  /-- There is no such teardown, or not any more. -/
  | nothing
  | ended (result : Except BridgeError Unit)

/-- Whether a teardown has nothing to wait for any more. -/
def teardownEnded (teardown : Nat) (w : World) : Bool :=
  match (w.assembly.bridge.poll teardown).2 with
  | .pending => false
  | _ => true

/-- Waits for a teardown, which is used up by that. -/
def awaitTeardown (w : World) (teardown : Nat) : World × Awaited :=
  let w := w.runTo none (teardownEnded teardown)
  let (w, reply) := w.give (.poll teardown)
  let (w, _) := w.give (.dropTeardown teardown)
  match reply with
  | .polled (.ready result) _ => (w, .ended result)
  | _ => (w, .nothing)

/-- Reads a file and forwards it as an opened document. The reading lets other tasks run. -/
def openDocument (w : World) (path : Path) : World × Except Error BridgeReply :=
  match pathToUri w.files path with
  | .error e => (w, .error e)
  | .ok _ =>
    let w := w.breathe
    match loadDocument w.files path with
    | .error e => (w, .error e)
    | .ok document =>
      let (w, reply) := w.forward (.opened document)
      (w, .ok reply)

end LanguageBridge.Rehearsal.World
