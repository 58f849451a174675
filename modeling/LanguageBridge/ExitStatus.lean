set_option autoImplicit false

/-! # How a process ended

A process exits with a code or is ended by a signal. The text of a signal gives its number and,
for the usual ones, its name.
-/

namespace LanguageBridge

/-- How a process ended. -/
inductive ExitStatus where
  | code (n : Int)
  | signal (n : Nat)
deriving DecidableEq, Repr

namespace ExitStatus

/-- The names of signals, from the first on. -/
def signalNames : List String :=
  ["SIGHUP", "SIGINT", "SIGQUIT", "SIGILL", "SIGTRAP", "SIGABRT", "SIGBUS", "SIGFPE", "SIGKILL",
    "SIGUSR1", "SIGSEGV", "SIGUSR2", "SIGPIPE", "SIGALRM", "SIGTERM", "SIGSTKFLT", "SIGCHLD",
    "SIGCONT", "SIGSTOP", "SIGTSTP", "SIGTTIN", "SIGTTOU", "SIGURG", "SIGXCPU", "SIGXFSZ",
    "SIGVTALRM", "SIGPROF", "SIGWINCH", "SIGIO", "SIGPWR", "SIGSYS"]

/-- The name of a signal, if it has one. -/
def signalName? : Nat → Option String
  | 0 => none
  | n + 1 => signalNames[n]?

/-- The text of a status, such as `exit status: 3` or `signal: 9 (SIGKILL)`. -/
def text : ExitStatus → String
  | code n => "exit status: " ++ toString n
  | signal n =>
    match signalName? n with
    | some name => "signal: " ++ toString n ++ " (" ++ name ++ ")"
    | none => "signal: " ++ toString n

end ExitStatus
end LanguageBridge
