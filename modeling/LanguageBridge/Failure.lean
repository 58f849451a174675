set_option autoImplicit false

/-! # Failures of a connection

What can go wrong between the bridge and a server, and the coarse kind of each failure. The
first three carry the reason that is shown to the user as it is.
-/

namespace LanguageBridge

/-- The kind of a failure. -/
inductive FailureKind where
  /-- The process could not be started. -/
  | launch
  /-- The process started but never completed the handshake. -/
  | handshake
  /-- The channel to the process was lost. -/
  | transport
  /-- A stop was requested first. -/
  | cancelled
  /-- The connection was used in a way it does not allow. -/
  | misuse
deriving DecidableEq, Repr

/-- The word for a kind. -/
def FailureKind.word : FailureKind → String
  | launch => "launch"
  | handshake => "handshake"
  | transport => "transport"
  | cancelled => "cancelled"
  | misuse => "misuse"

/-- A failure of a connection. -/
inductive ConnectionFailure where
  /-- The process could not be started. -/
  | launch (reason : String)
  /-- The process started but did not complete the handshake. -/
  | handshake (reason : String)
  /-- The channel to the process was lost. -/
  | transport (reason : String)
  /-- A stop was requested before the server became ready. -/
  | stopped
  /-- The connection had been started already. -/
  | reused
  /-- An event was given to a connection that is not running. -/
  | notRunning
deriving DecidableEq, Repr

namespace ConnectionFailure

/-- The text of a failure. -/
def message : ConnectionFailure → String
  | launch reason => reason
  | handshake reason => reason
  | transport reason => reason
  | stopped => "connection was stopped before the server became ready"
  | reused => "connection handle cannot be started twice"
  | notRunning => "connection is not running"

/-- The kind of a failure. -/
def kind : ConnectionFailure → FailureKind
  | launch _ => .launch
  | handshake _ => .handshake
  | transport _ => .transport
  | stopped => .cancelled
  | reused => .misuse
  | notRunning => .misuse

end ConnectionFailure
end LanguageBridge
