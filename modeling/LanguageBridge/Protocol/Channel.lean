import LanguageBridge.Protocol.Call
import LanguageBridge.Protocol.ClientMessage
import LanguageBridge.Protocol.Frame
import LanguageBridge.Protocol.Notice

set_option autoImplicit false

/-! # The client's end of a channel

The client numbers its requests from zero and remembers which of them wait for a response. It
answers requests of the server, listens to its notifications and ignores responses to requests
that it did not make. A broken frame, the end of the server's output, or a notification that
means nothing to the client closes the channel, and with it every call that still waits.
-/

namespace LanguageBridge

/-- A request of the client. -/
structure Call where
  method : String
  /-- How the call ended, if it has. -/
  outcome : Option CallOutcome

/-- The client's end of a channel. -/
structure Channel where
  isOpen : Bool
  /-- The requests so far, by their numbers. -/
  calls : List Call
  /-- The bytes that have arrived and are no whole message yet. -/
  arrived : Bytes

/-- What the client does about a message of the server. -/
inductive ChannelEffect where
  /-- It sends a response. -/
  | respond (message : Message)
  /-- It logs something about a notification with the given method. -/
  | log (method : String) (event : LogEvent)

namespace Channel

/-- A channel that was not used. -/
def fresh : Channel := ⟨true, [], []⟩

/-! ## Sending -/

/-- Sends a message, unless the channel is closed. -/
def send? (c : Channel) (processId : Nat) (message : ClientMessage) :
    Option (Channel × Message) :=
  if !c.isOpen then none
  else
    let params := message.params processId
    if message.isRequest then
      some ({ c with calls := c.calls ++ [⟨message.method, none⟩] },
        .request (.number c.calls.length) message.method params)
    else some (c, .notification message.method params)

/-- How the call of a method ended, if it has. A call that was never made counts as lost. -/
def outcome? (c : Channel) (method : String) : Option CallOutcome :=
  match c.calls.find? fun call => call.method = method with
  | some call => call.outcome
  | none => some .lost

/-! ## Receiving -/

/-- Closes the channel; the calls that wait are lost. -/
def close (c : Channel) : Channel :=
  let calls := c.calls.map fun call =>
    match call.outcome with
    | none => { call with outcome := some .lost }
    | some _ => call
  { c with isOpen := false, calls, arrived := [] }

/-- The code of a refusal because of parameters that do not fit. -/
def invalidParams : Int := -32602

/-- The code of a refusal because of a method that is not known. -/
def methodNotFound : Int := -32601

/-- The response to a request of the server. -/
def answer (id : RequestId) (method : String) (params : Json) : Message :=
  let refusal (code : Int) (message : String) : Message :=
    .response id .null (some ⟨code, message, none⟩)
  match Protocol.requestShape? method with
  | none => refusal methodNotFound ("No such method " ++ method)
  | some shape =>
    match shape params with
    | .ok _ => .response id .null none
    | .error complaint => refusal invalidParams ("Failed to deserialize parameters: " ++ complaint)

/-- Ends the call with the given number, if it waits. -/
def settle (c : Channel) (id : RequestId) (outcome : CallOutcome) : Channel :=
  match id with
  | .text _ => c
  | .number n =>
    if n < 0 then c
    else
      match c.calls[n.toNat]? with
      | some ⟨method, none⟩ => { c with calls := c.calls.set n.toNat ⟨method, some outcome⟩ }
      | _ => c

/-- Takes a message of the server with the given name. -/
def take (c : Channel) (server : String) : Message → Channel × List ChannelEffect
  | .request id method params => (c, [.respond (answer id method params)])
  | .response id result none => (c.settle id (.result result), [])
  | .response id _ (some error) => (c.settle id (.refused error), [])
  | .notification method params =>
    match Notice.ofParams? method params with
    | none => (c.close, [])
    | some notice => (c, (notice.logged? server).toList.map (.log method))

/-- Takes the next message from what has arrived, if there is one. -/
def advance? (c : Channel) (server : String) : Option (Channel × List ChannelEffect) :=
  if !c.isOpen then none
  else
    match Frame.next c.arrived with
    | .incomplete => none
    | .broken => some (c.close, [])
    | .message message rest => some (take { c with arrived := rest } server message)

end Channel
end LanguageBridge
