import LanguageBridge.Bridge.State
import LanguageBridge.Event
import LanguageBridge.Launch
import LanguageBridge.Scope
import LanguageBridge.Status

set_option autoImplicit false

/-! # What a bridge does and is told

A bridge acts on the world by effects, in order: it tells its user something, publishes its
state, and creates, starts, stops and uses connections. The world answers with outcomes: how a
start, a stop or a notification of a connection ended, and whether the user's side took a
message.
-/

namespace LanguageBridge

/-- What a bridge does. Connections are numbered in the order of their creation. -/
inductive BridgeEffect where
  /-- Tells the user something. -/
  | status (status : Status)
  /-- Makes a state known to observers. -/
  | publish (state : BridgeState)
  /-- Creates a connection. -/
  | create (connection : Nat) (launch : Launch) (scope : Scope)
  /-- Starts a connection. -/
  | start (connection : Nat)
  /-- Stops a connection. -/
  | stop (connection : Nat)
  /-- Hands an event to a connection. -/
  | notify (connection : Nat) (event : EditorEvent)
  /-- Lets go of a connection. -/
  | release (connection : Nat)
  /-- Logs something. -/
  | log (event : LogEvent)

/-- How a start or a stop of a connection ended. -/
inductive Outcome where
  | ok
  | failed (failure : ConnectionFailure)
  /-- The task broke off with a message. -/
  | panicked (message : String)
deriving DecidableEq, Repr

/-- How handing an event to a connection ended. -/
inductive NotifyOutcome where
  | delivered
  | failed (failure : ConnectionFailure)
  /-- The attempt broke off, or was given up, before it ended. -/
  | lost
deriving DecidableEq, Repr

/-- How the user's side takes what it is told: whether it takes the next message, and the next
record. It breaks off where it does not. -/
structure SinkReaction where
  takesMessage : Bool
  takesRecord : Bool
deriving DecidableEq, Repr

/-- A user's side that takes everything. -/
def SinkReaction.willing : SinkReaction := ⟨true, true⟩

/-- What became of an event that was to be forwarded. -/
inductive Delivery where
  /-- The connection took it. -/
  | sent
  /-- It is about a document or file outside the scope. -/
  | outOfScope
  /-- It opens a document that is open already. -/
  | alreadyOpen
  /-- The server is not ready. -/
  | notReady
deriving DecidableEq, Repr

/-- The name of a delivery in logs. -/
def Delivery.name : Delivery → String
  | sent => "Sent"
  | outOfScope => "OutOfScope"
  | alreadyOpen => "AlreadyOpen"
  | notReady => "NotReady"

end LanguageBridge
