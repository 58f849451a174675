set_option autoImplicit false

/-! # The state of a bridge

What an observer sees of a bridge: whether it holds a server, and how the start of that server
went.
-/

namespace LanguageBridge

/-- The observable state of a bridge. -/
inductive BridgeState where
  /-- No server is held. -/
  | idle
  /-- The start of the server is under way. -/
  | starting
  /-- The server is ready. -/
  | ready
  /-- The start failed for the given reason. -/
  | failed (reason : String)
deriving DecidableEq, Repr

namespace BridgeState

/-- The word for a state. -/
def word : BridgeState → String
  | idle => "idle"
  | starting => "starting"
  | ready => "ready"
  | failed _ => "failed"

end BridgeState
end LanguageBridge
