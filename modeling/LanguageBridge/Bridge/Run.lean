import LanguageBridge.Bridge.Basic

set_option autoImplicit false

/-! # Runs of a bridge

A bridge is driven by its caller and by what happens to its connections. `BridgeInput` lists all
of that, `Bridge.step` is one step of a bridge, and `Bridge.run` a whole run with everything the
bridge does on the way.
-/

namespace LanguageBridge

/-- What can happen to a bridge. -/
inductive BridgeInput where
  /-- The caller activates it; the flag tells whether the announcement is taken. -/
  | activate (launch : Launch) (scope : Scope) (announced : Bool)
  /-- The caller deactivates it. -/
  | deactivate
  /-- The caller forwards an event, with the outcome if it is handed over. -/
  | forward (event : EditorEvent) (outcome : NotifyOutcome)
  /-- The start of a connection ended. -/
  | startEnded (connection : Nat) (outcome : Outcome) (sink : SinkReaction)
  /-- The stop of a connection ended. -/
  | stopEnded (connection : Nat) (outcome : Outcome)
  /-- The holder of a teardown polls it. -/
  | poll (teardown : Nat)
  /-- The holder of a teardown lets go of it. -/
  | dropTeardown (teardown : Nat)

/-- What a step gives its caller. -/
inductive BridgeReply where
  | none
  | activated (result : Bridge.Activated)
  | deactivated (teardown : Nat) (complete : Bool)
  | forwarded (result : Bridge.Forwarded)
  | polled (result : Bridge.Polled) (complete : Bool)

namespace Bridge

/-- One step of a bridge. -/
def step (b : Bridge) : BridgeInput → Bridge × BridgeReply × List BridgeEffect
  | .activate launch scope announced =>
    let (b', result, effects) := b.activate launch scope announced
    (b', .activated result, effects)
  | .deactivate =>
    let (b', effects) := b.deactivate
    let teardown := b.teardowns.length
    (b', .deactivated teardown (b'.isComplete teardown), effects)
  | .forward event outcome =>
    let (b', result, effects) := b.forward event outcome
    (b', .forwarded result, effects)
  | .startEnded connection outcome sink =>
    let (b', effects) := b.startEnded connection outcome sink
    (b', .none, effects)
  | .stopEnded connection outcome =>
    let (b', effects) := b.stopEnded connection outcome
    (b', .none, effects)
  | .poll teardown =>
    let (b', result) := b.poll teardown
    (b', .polled result (b'.isComplete teardown), [])
  | .dropTeardown teardown => (b.dropTeardown teardown, .none, [])

/-- A run of a bridge: where it ends, the replies and the effects, step by step. -/
def run (b : Bridge) : List BridgeInput → Bridge × List (BridgeReply × List BridgeEffect)
  | [] => (b, [])
  | input :: rest =>
    let (b', reply, effects) := b.step input
    let (last, others) := run b' rest
    (last, (reply, effects) :: others)

/-- The state after a run from a bridge that was never activated. -/
def after (inputs : List BridgeInput) : Bridge := (idle.run inputs).1

/-- Everything that a bridge does in a run. -/
def effects (inputs : List BridgeInput) : List BridgeEffect :=
  (idle.run inputs).2.flatMap (·.2)

end Bridge
end LanguageBridge
