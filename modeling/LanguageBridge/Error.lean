import LanguageBridge.Failure
import LanguageBridge.Bridge.State
import LanguageBridge.Glob.Union
import LanguageBridge.Path.FileSystem

set_option autoImplicit false

/-! # Errors

The errors that a caller of the library sees. `BridgeError` holds those of the bridge itself;
`Error` puts them together with failures of a connection, of the configuration, of paths and of
the file system. `Error.causes` is the chain of what lies behind an error, the nearest first.
-/

namespace LanguageBridge

/-- An error of the bridge. -/
inductive BridgeError where
  /-- The bridge already holds a server. -/
  | alreadyActive (state : BridgeState)
  /-- The watch globs of the scope do not compile. -/
  | invalidGlob (refusal : GlobRefusal)
  /-- The stop of the server failed. -/
  | stop (failure : ConnectionFailure)
  /-- An event could not be delivered. -/
  | forward (failure : ConnectionFailure)
  /-- The task that stops the server ended without a result. -/
  | teardown (reason : String)
deriving DecidableEq, Repr

namespace BridgeError

/-- The text of an error. -/
def message : BridgeError → String
  | alreadyActive state => "server bridge is already active (state: " ++ state.word ++ ")"
  | invalidGlob refusal => "invalid watch glob '" ++ refusal.pattern ++ "': " ++ refusal.message
  | stop failure => "failed to stop server: " ++ failure.message
  | forward failure => "failed to forward event: " ++ failure.message
  | teardown reason => "teardown task failed: " ++ reason

/-- The failure of a connection behind an error. -/
def failure? : BridgeError → Option ConnectionFailure
  | stop failure => some failure
  | forward failure => some failure
  | _ => none

end BridgeError

/-- An error of the library. -/
inductive Error where
  | bridge (error : BridgeError)
  | connection (failure : ConnectionFailure)
  | config (reason : String)
  | invalidPath (reason : String)
  | io (failure : IoFailure)
deriving DecidableEq, Repr

namespace Error

/-- The text of an error. -/
def message : Error → String
  | bridge error => "bridge error: " ++ error.message
  | connection failure => "connection error: " ++ failure.message
  | config reason => "configuration error: " ++ reason
  | invalidPath reason => "invalid document path: " ++ reason
  | io failure => "IO error: " ++ failure.message

/-- The texts of what lies behind an error, the nearest first. -/
def causes : Error → List String
  | bridge error => error.message :: (error.failure?.map ConnectionFailure.message).toList
  | connection failure => [failure.message]
  | io failure => [failure.message]
  | config _ => []
  | invalidPath _ => []

end Error
end LanguageBridge
