import LanguageBridge.Settings

set_option autoImplicit false

/-! # How a server is launched

A launch names the command to run, its arguments and its environment. The command comes from the
settings, or is the usual one if they do not name any. The environment is taken when the launch
is made.
-/

namespace LanguageBridge

/-- The settings key of the server's path. -/
def serverPathKey : String := "rubyTiLsp.serverPath"

/-- The command that is used when no path is configured. -/
def defaultCommand : String := "ti-lsp"

/-- The command that the settings ask for. An empty text counts as none. -/
def resolveCommand {α : Type} [SettingsSource α] (settings : α) : String :=
  match SettingsSource.getString settings serverPathKey with
  | some path => if path.isEmpty then defaultCommand else path
  | none => defaultCommand

/-! ## Environments -/

/-- Whether one byte sequence comes before another. -/
def Bytes.before : Bytes → Bytes → Bool
  | [], [] => false
  | [], _ :: _ => true
  | _ :: _, [] => false
  | a :: as, b :: bs => a < b || (a == b && Bytes.before as bs)

/-- Variables with their values, in the order of the bytes of their names. -/
abbrev Environment := List (Bytes × Bytes)

namespace Environment

/-- The byte `=`, which ends the name of a variable. -/
def nameEnd : UInt8 := 0x3D

/-- Sets a variable. -/
def set (name value : Bytes) : Environment → Environment
  | [] => [(name, value)]
  | (n, v) :: rest =>
    if n = name then (name, value) :: rest
    else if Bytes.before name n then (name, value) :: (n, v) :: rest
    else (n, v) :: set name value rest

/-- Removes a variable. -/
def unset (name : Bytes) (env : Environment) : Environment := env.filter fun v => v.1 ≠ name

/-- The environment with the given variables; of several with one name the last counts. -/
def ofPairs (pairs : List (Bytes × Bytes)) : Environment :=
  pairs.foldl (fun env v => set v.1 v.2 env) []

/-! ### As a process sees it

A process gets each variable as one text, the name and the value with `=` between them, and the
name ends at the first `=` that is not its first character. -/

/-- The texts that a process gets. -/
def texts (env : Environment) : List Bytes := env.map fun v => v.1 ++ nameEnd :: v.2

/-- The variable that a text stands for, if any. -/
def ofText? (text : Bytes) : Option (Bytes × Bytes) :=
  match text with
  | [] => none
  | first :: rest =>
    let name := rest.takeWhile (· ≠ nameEnd)
    match rest.drop name.length with
    | [] => none
    | _ :: value => some (first :: name, value)

/-- The environment that a process reads from its texts. -/
def received (env : Environment) : Environment := ofPairs (env.texts.filterMap ofText?)

/-- The value of a variable: what follows the name in the first text that begins with it. -/
def get? (name : Bytes) (env : Environment) : Option Bytes :=
  env.texts.findSome? fun text =>
    if (name ++ [nameEnd]).isPrefixOf text then some (text.drop (name.length + 1)) else none

end Environment

/-! ## Launches -/

/-- The process to launch. -/
structure Launch where
  command : String
  arguments : List String
  environment : Environment
deriving DecidableEq

namespace Launch

/-- A command without arguments, in the given environment. -/
def ofCommand (command : String) (environment : Environment) : Launch :=
  ⟨command, [], environment⟩

/-- The launch that the settings ask for. -/
def ofSettings {α : Type} [SettingsSource α] (settings : α) (environment : Environment) : Launch :=
  ofCommand (resolveCommand settings) environment

/-- The launch with other arguments. -/
def withArguments (launch : Launch) (arguments : List String) : Launch :=
  { launch with arguments }

/-- The launch with another environment. -/
def withEnvironment (launch : Launch) (pairs : List (Bytes × Bytes)) : Launch :=
  { launch with environment := Environment.ofPairs pairs }

end Launch
end LanguageBridge
