import LanguageBridge.Bridge.Run
import LanguageBridge.Connection.Run

set_option autoImplicit false

/-! # A bridge with its connections

An assembly is a bridge together with the connections that it created. The bridge asks each
connection for one start and at most one stop, and hands it events; the attempts of the
connections go on by themselves, in any order, and the bridge sees their ends when it looks.
-/

namespace LanguageBridge

/-- A bridge with its connections, which are numbered as the bridge numbers them. -/
structure Assembly where
  bridge : Bridge
  connections : List Connection
  config : ConnectionConfig

/-- What an assembly does. -/
inductive AssemblyEffect where
  | bridge (effect : BridgeEffect)
  | connection (connection : Nat) (effect : ConnectionEffect)

/-- What can happen to an assembly. -/
inductive AssemblyInput where
  /-- The caller activates the bridge. -/
  | activate (launch : Launch) (scope : Scope) (announced : Bool)
  /-- The caller deactivates the bridge. -/
  | deactivate
  /-- The caller forwards an event. `taken` tells whether the channel takes it if it gets that
  far; without it the caller gives up before. -/
  | forward (event : EditorEvent) (taken : Option Bool)
  /-- The holder of a teardown polls it. -/
  | poll (teardown : Nat)
  /-- The holder of a teardown lets go of it. -/
  | dropTeardown (teardown : Nat)
  /-- An attempt of a connection goes on. -/
  | progress (connection : Nat) (input : ConnectionInput)
  /-- The bridge looks whether the start of a connection has ended. -/
  | startSeen (connection : Nat) (sink : SinkReaction)
  /-- The bridge looks whether the stop of a connection has ended. -/
  | stopSeen (connection : Nat)

/-- Whether an input lets an attempt go on that was made before. -/
def ConnectionInput.isProgress : ConnectionInput → Bool
  | .beginStart _ _ => true
  | .openingEnded _ _ _ => true
  | .graceEnded _ _ => true
  | .abortSeen _ => true
  | .link _ => true
  | .look _ => true
  | .unlink _ => true
  | .shutdownEnded _ _ _ => true
  | .exitEnded _ _ => true
  | _ => false

namespace Assembly

/-- An assembly whose bridge was never activated. -/
def idle (config : ConnectionConfig) : Assembly := ⟨.idle, [], config⟩

/-- Gives an input to a connection. -/
def onConnection (a : Assembly) (connection : Nat) (input : ConnectionInput) :
    Assembly × List AssemblyEffect :=
  match a.connections[connection]? with
  | none => (a, [])
  | some c =>
    let (c, effects) := c.step input
    ({ a with connections := a.connections.set connection c },
      effects.map (.connection connection))

/-- Carries out what the bridge asks of its connections. -/
def play (a : Assembly) : BridgeEffect → Assembly
  | .create _ launch scope =>
    { a with connections := a.connections ++ [Connection.fresh launch scope a.config] }
  | .start connection => (a.onConnection connection .start).1
  | .stop connection => (a.onConnection connection .stop).1
  | _ => a

/-- Gives an input to the bridge. -/
def onBridge (a : Assembly) (input : BridgeInput) :
    Assembly × BridgeReply × List AssemblyEffect :=
  let (bridge, reply, effects) := a.bridge.step input
  (effects.foldl play { a with bridge }, reply, effects.map .bridge)

/-! ## Forwarding -/

/-- The connection that an event would be handed to, and what of the event. -/
def handed? (a : Assembly) (event : EditorEvent) : Option (Nat × EditorEvent) :=
  match a.bridge.state, a.bridge.session with
  | .ready, some s =>
    match s.narrow event with
    | .ok kept => some (s.connection, kept)
    | .error _ => none
  | _, _ => none

/-- Hands an event to a connection. -/
def handOver (a : Assembly) (connection : Nat) (event : EditorEvent) (taken : Option Bool) :
    Assembly × NotifyOutcome × List AssemblyEffect :=
  let i := match a.connections[connection]? with
    | some c => c.notifies.length
    | none => 0
  let (a, _) := a.onConnection connection (.notify event)
  match taken with
  | none =>
    let (a, effects) := a.onConnection connection (.dropNotify i)
    (a, .lost, effects)
  | some taken =>
    let (a, effects) := a.onConnection connection (.deliver i taken)
    let outcome := match (a.connections[connection]?).bind fun c => c.notifyResult? i with
      | some none => NotifyOutcome.delivered
      | some (some failure) => .failed failure
      | none => .lost
    (a, outcome, effects)

/-- Forwards an event. -/
def forward (a : Assembly) (event : EditorEvent) (taken : Option Bool) :
    Assembly × BridgeReply × List AssemblyEffect :=
  match a.handed? event with
  | none => a.onBridge (.forward event .delivered)
  | some (connection, kept) =>
    let (a, outcome, effects) := a.handOver connection kept taken
    let (a, reply, others) := a.onBridge (.forward event outcome)
    (a, reply, effects ++ others)

/-! ## The ends of starts and stops -/

/-- How an attempt of a connection ended, for the bridge. -/
def outcomeOf : Option ConnectionFailure → Outcome
  | none => .ok
  | some failure => .failed failure

/-- The bridge looks whether the start of a connection has ended. -/
def startSeen (a : Assembly) (connection : Nat) (sink : SinkReaction) :
    Assembly × BridgeReply × List AssemblyEffect :=
  match (a.connections[connection]?).bind fun c => c.startResult? 0 with
  | some result => a.onBridge (.startEnded connection (outcomeOf result) sink)
  | none => (a, .none, [])

/-- The bridge looks whether the stop of a connection has ended. -/
def stopSeen (a : Assembly) (connection : Nat) :
    Assembly × BridgeReply × List AssemblyEffect :=
  match (a.connections[connection]?).bind fun c => c.stopResult? 0 with
  | some result => a.onBridge (.stopEnded connection (outcomeOf result))
  | none => (a, .none, [])

/-! ## Runs -/

/-- One step of an assembly. -/
def step (a : Assembly) : AssemblyInput → Assembly × BridgeReply × List AssemblyEffect
  | .activate launch scope announced => a.onBridge (.activate launch scope announced)
  | .deactivate => a.onBridge .deactivate
  | .forward event taken => a.forward event taken
  | .poll teardown => a.onBridge (.poll teardown)
  | .dropTeardown teardown => a.onBridge (.dropTeardown teardown)
  | .progress connection input =>
    if input.isProgress then
      let (a, effects) := a.onConnection connection input
      (a, .none, effects)
    else (a, .none, [])
  | .startSeen connection sink => a.startSeen connection sink
  | .stopSeen connection => a.stopSeen connection

/-- A run of an assembly: where it ends, the replies and the effects, step by step. -/
def run (a : Assembly) :
    List AssemblyInput → Assembly × List (BridgeReply × List AssemblyEffect)
  | [] => (a, [])
  | input :: rest =>
    let (a', reply, effects) := a.step input
    let (last, others) := run a' rest
    (last, (reply, effects) :: others)

end Assembly
end LanguageBridge
