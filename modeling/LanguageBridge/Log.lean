import LanguageBridge.Json.Value

set_option autoImplicit false

/-! # Log events

A log event has a level, a target that says where it comes from, a message and named fields.
-/

namespace LanguageBridge

/-- The level of a log event, the most severe first. -/
inductive LogLevel where
  | error
  | warn
  | info
  | debug
  | trace
deriving DecidableEq, Repr

namespace LogLevel

/-- The word for a level. -/
def word : LogLevel → String
  | error => "ERROR"
  | warn => "WARN"
  | info => "INFO"
  | debug => "DEBUG"
  | trace => "TRACE"

/-- The place of a level in the order of severity. -/
def rank : LogLevel → Nat
  | error => 1
  | warn => 2
  | info => 3
  | debug => 4
  | trace => 5

end LogLevel

/-- A log event. -/
structure LogEvent where
  level : LogLevel
  target : String
  message : String
  fields : List (String × Json)

end LanguageBridge
