import LanguageBridge.Connection.Basic

set_option autoImplicit false

/-! # Notifying a server

A notification hands an editor event to the process in the slot. It fails if the slot is empty or
the channel to the process is closed.
-/

namespace LanguageBridge.Connection

/-- The failure of an event that the channel does not take. -/
def deliveryFailure (event : EditorEvent) : ConnectionFailure :=
  .transport (event.method ++ " notification failed: " ++ ChannelFailure.closed.message)

/-- A notification finds the slot. `taken` tells whether the channel takes the event. -/
def deliver (c : Connection) (i : Nat) (taken : Bool) : Connection × List ConnectionEffect :=
  match c.notifies[i]? with
  | some (.created event) =>
    match c.slot with
    | none => (c.setNotify i (.ended (some .notRunning)), [])
    | some process =>
      let failure := if taken then none else some (deliveryFailure event)
      (c.setNotify i (.ended failure), [.send process (.event event)])
  | _ => (c, [])

/-- The caller of a notification gives it up. -/
def dropNotify (c : Connection) (i : Nat) : Connection × List ConnectionEffect :=
  match c.notifies[i]? with
  | some (.created _) => (c.setNotify i .dropped, [])
  | _ => (c, [])

end LanguageBridge.Connection
