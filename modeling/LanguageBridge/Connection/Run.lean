import LanguageBridge.Connection.Notify
import LanguageBridge.Connection.Start
import LanguageBridge.Connection.Stop

set_option autoImplicit false

/-! # Runs of a connection

A connection is driven by its callers, who make attempts and give them up, and by the world, which
lets the attempts go on. `ConnectionInput` lists all of that, `Connection.step` is one step, and
`Connection.run` a whole run with everything the connection does on the way. An input that does
not fit the stage of its attempt changes nothing.
-/

namespace LanguageBridge

/-- What can happen to a connection. Attempts of each kind are numbered from zero. -/
inductive ConnectionInput where
  /-- A caller asks for a start. -/
  | start
  /-- A caller asks for a stop. -/
  | stop
  /-- A caller asks for an event to be delivered. -/
  | notify (event : EditorEvent)
  /-- A start begins. -/
  | beginStart (i : Nat) (launching : Launching)
  /-- The opening of a start ended. -/
  | openingEnded (i : Nat) (outcome : OpeningOutcome) (taken : Bool)
  /-- The time in which a process without a channel may exit ended. -/
  | graceEnded (i : Nat) (status : Option ExitStatus)
  /-- A start sees that it was asked to give up. -/
  | abortSeen (i : Nat)
  /-- A start gets at the slot. -/
  | link (i : Nat)
  /-- The caller of a start gives it up. -/
  | dropStart (i : Nat)
  /-- A stop looks at the phase. -/
  | look (i : Nat)
  /-- A stop gets at the slot. -/
  | unlink (i : Nat)
  /-- The shutdown of a stop ended. -/
  | shutdownEnded (i : Nat) (outcome : ShutdownOutcome) (taken : Bool)
  /-- A stop ended to wait for the exit of its process. -/
  | exitEnded (i : Nat) (outcome : ExitOutcome)
  /-- The caller of a stop gives it up. -/
  | dropStop (i : Nat)
  /-- A notification gets at the slot. -/
  | deliver (i : Nat) (taken : Bool)
  /-- The caller of a notification gives it up. -/
  | dropNotify (i : Nat)

namespace Connection

/-- One step of a connection. -/
def step (c : Connection) : ConnectionInput → Connection × List ConnectionEffect
  | .start => ({ c with starts := c.starts ++ [StartStage.created] }, [])
  | .stop => ({ c with stops := c.stops ++ [StopAttempt.mk .created []] }, [])
  | .notify event => ({ c with notifies := c.notifies ++ [NotifyStage.created event] }, [])
  | .beginStart i launching => c.beginStart i launching
  | .openingEnded i outcome taken => c.openingEnded i outcome taken
  | .graceEnded i status => c.graceEnded i status
  | .abortSeen i => c.abortSeen i
  | .link i => c.link i
  | .dropStart i => c.dropStart i
  | .look i => c.look i
  | .unlink i => c.unlink i
  | .shutdownEnded i outcome taken => c.shutdownEnded i outcome taken
  | .exitEnded i outcome => c.exitEnded i outcome
  | .dropStop i => c.dropStop i
  | .deliver i taken => c.deliver i taken
  | .dropNotify i => c.dropNotify i

/-- A run of a connection: where it ends, and what the connection does, step by step. -/
def run (c : Connection) : List ConnectionInput → Connection × List (List ConnectionEffect)
  | [] => (c, [])
  | input :: rest =>
    let (c', effects) := c.step input
    let (last, others) := run c' rest
    (last, effects :: others)

/-- Everything that a connection does in a run. -/
def effects (c : Connection) (inputs : List ConnectionInput) : List ConnectionEffect :=
  (c.run inputs).2.flatten

/-- The messages that a connection tries to send in a run. -/
def sent (c : Connection) (inputs : List ConnectionInput) : List ClientMessage :=
  (c.effects inputs).filterMap fun e =>
    match e with
    | .send _ message => some message
    | _ => none

end Connection
end LanguageBridge
