import LanguageBridge.Protocol.Capability
import LanguageBridge.Protocol.Message

set_option autoImplicit false

/-! # Calls

A call is a request of the client that waits for its response. This file says how calls end: with
a result, with a refusal, or without an answer because the channel is gone. `OpeningOutcome` and
`ShutdownOutcome` are what that means for the two requests that the client sends; a result that
does not have the shape it should have counts as a failure of the channel.
-/

namespace LanguageBridge

/-- Why the channel to a server gave no answer. -/
inductive ChannelFailure where
  /-- It is closed. -/
  | closed
  /-- The answer does not have the shape it should have. -/
  | malformed (complaint : String)
deriving DecidableEq, Repr

/-- The wording of a failure. -/
def ChannelFailure.message : ChannelFailure → String
  | closed => "service stopped"
  | malformed complaint => "deserialization failed: " ++ complaint

/-- How a call ended. -/
inductive CallOutcome where
  | result (value : Json)
  | refused (error : ResponseError)
  | lost

/-- How the request that opens a conversation ended. -/
inductive OpeningOutcome where
  /-- The server is there. -/
  | accepted (info : ServerInfo)
  /-- The server refused. -/
  | refused (reason : String)
  /-- The channel gave no answer. -/
  | failed (failure : ChannelFailure)
  /-- There was no answer in time. -/
  | overdue
deriving DecidableEq, Repr

/-- What the end of a call means for the opening. -/
def OpeningOutcome.ofCall : CallOutcome → OpeningOutcome
  | .result value =>
    match Protocol.openingResult value with
    | .ok _ => .accepted (ServerInfo.ofResult value)
    | .error complaint => .failed (.malformed complaint)
  | .refused error => .refused error.text
  | .lost => .failed .closed

/-- How the request to shut down ended. -/
inductive ShutdownOutcome where
  | done
  | refused (reason : String)
  | failed (failure : ChannelFailure)
  | overdue
deriving DecidableEq, Repr

/-- What the end of a call means for the shutdown. -/
def ShutdownOutcome.ofCall : CallOutcome → ShutdownOutcome
  | .result value =>
    match Shape.nothing value with
    | .ok _ => .done
    | .error complaint => .failed (.malformed complaint)
  | .refused error => .refused error.text
  | .lost => .failed .closed

end LanguageBridge
