import LanguageBridge.Path.Basic

set_option autoImplicit false

/-! # The command line

The host takes options only. `Arguments.read` reads a command line into `Arguments`, or finds that
it asks for help or the version, or what is wrong with it.

An option that takes a value may have it attached, or be followed by it. What follows is a value
unless it looks like an option itself. A value that is not attached is looked at when the next
known option comes, or at the end of the line; so the complaint about an unknown argument comes
before the one about a value that is still open.
-/

namespace LanguageBridge.Host

/-- The options of the host. -/
inductive Flag where
  | workspace
  | settings
  | serverPath
  | json
  | document
  | logLevel
  | logJson
  | help
  | version
deriving DecidableEq, Repr

namespace Flag

/-- The long name of an option. -/
def long : Flag → String
  | workspace => "workspace"
  | settings => "settings"
  | serverPath => "server-path"
  | json => "json"
  | document => "open"
  | logLevel => "log-level"
  | logJson => "log-json"
  | help => "help"
  | version => "version"

/-- The name of the value of an option that takes one. -/
def value? : Flag → Option String
  | workspace => some "WORKSPACE"
  | settings => some "SETTINGS"
  | serverPath => some "SERVER_PATH"
  | document => some "OPEN"
  | logLevel => some "LOG_LEVEL"
  | _ => none

/-- Whether an option takes a value. -/
def takesValue (f : Flag) : Bool := f.value?.isSome

/-- Whether the value of an option is a path, which cannot be empty. -/
def takesPath : Flag → Bool
  | workspace => true
  | settings => true
  | document => true
  | _ => false

/-- Whether an option may be given more than once. -/
def repeats (f : Flag) : Bool := f == document

/-- The option as complaints show it. -/
def shown (f : Flag) : String :=
  "--" ++ f.long ++
    match f.value? with
    | some value => " <" ++ value ++ ">"
    | none => ""

/-- All options. -/
def all : List Flag :=
  [workspace, settings, serverPath, json, document, logLevel, logJson, help, version]

/-- The option with a long name. -/
def ofLong? (name : String) : Option Flag := all.find? fun f => f.long = name

/-- The option with a short name. -/
def ofShort? : Char → Option Flag
  | 'w' => some workspace
  | 's' => some settings
  | 'h' => some help
  | 'V' => some version
  | _ => none

end Flag

/-- What is wrong with a command line. -/
inductive UsageError where
  | valueMissing (flag : Flag)
  | repeated (flag : Flag)
  | unknown (argument : String)
  | valueUnneeded (flag : Flag) (value : String)
deriving DecidableEq, Repr

/-- The wording of a complaint. -/
def UsageError.message : UsageError → String
  | valueMissing f => "error: a value is required for '" ++ f.shown ++ "' but none was supplied"
  | repeated f => "error: the argument '" ++ f.shown ++ "' cannot be used multiple times"
  | unknown argument => "error: unexpected argument '" ++ argument ++ "' found"
  | valueUnneeded f value =>
    "error: unexpected value '" ++ value ++ "' for '" ++ f.shown
      ++ "' found; no more were expected"

/-- Why a command line does not run the host. -/
inductive Refusal where
  | help
  | version
  | usage (error : UsageError)
deriving DecidableEq, Repr

/-! ## Reading -/

/-- What was read of a command line: the options with their values, and the option whose value is
still open, with the value if it came already. -/
structure Reading where
  given : List (Flag × String)
  pending : Option (Flag × Option String)
deriving DecidableEq, Repr

namespace Reading

/-- Nothing was read. -/
def empty : Reading := ⟨[], none⟩

/-- Takes an option with its value. -/
def record (r : Reading) (f : Flag) (value : String) : Except Refusal Reading :=
  if f = .help then .error .help
  else if f = .version then .error .version
  else if !f.repeats && r.given.any (fun g => g.1 == f) then .error (.usage (.repeated f))
  else if f.takesPath && value.isEmpty then .error (.usage (.valueMissing f))
  else .ok { r with given := r.given ++ [(f, value)] }

/-- Takes the option whose value is open. -/
def resolve (r : Reading) : Except Refusal Reading :=
  match r.pending with
  | none => .ok r
  | some (f, none) => .error (.usage (.valueMissing f))
  | some (f, some value) => record { r with pending := none } f value

/-- Takes an option with an attached value, or one without a value. -/
def take (r : Reading) (f : Flag) (value : String) : Except Refusal Reading :=
  r.resolve.bind fun r => r.record f value

/-- Takes an option whose value is to follow. -/
def expect (r : Reading) (f : Flag) : Except Refusal Reading :=
  r.resolve.bind fun r => .ok { r with pending := some (f, none) }

/-- The parts of a text before and after the first `=`. -/
def splitEquals (s : List Char) : List Char × Option (List Char) :=
  let name := s.takeWhile (· ≠ '=')
  match s.drop name.length with
  | _ :: value => (name, some value)
  | [] => (name, none)

/-- Reads a long option, given without the dashes. -/
def long (r : Reading) (s : List Char) : Except Refusal Reading :=
  let (name, value) := splitEquals s
  match Flag.ofLong? (String.ofList name), value with
  | none, _ => .error (.usage (.unknown ("--" ++ String.ofList name)))
  | some f, some value =>
    if f.takesValue then r.take f (String.ofList value)
    else .error (.usage (.valueUnneeded f (String.ofList value)))
  | some f, none => if f.takesValue then r.expect f else r.take f ""

/-- Reads short options that stand behind one dash. -/
def short : Reading → List Char → Except Refusal Reading
  | r, [] => .ok r
  | r, c :: rest =>
    match Flag.ofShort? c with
    | none => .error (.usage (.unknown ("-" ++ String.ofList [c])))
    | some f =>
      if f.takesValue then
        match rest with
        | [] => r.expect f
        | '=' :: value => r.take f (String.ofList value)
        | value => r.take f (String.ofList value)
      else (r.take f "").bind fun r => short r rest

/-- Reads an argument that does not look like an option. -/
def plain (r : Reading) (argument : String) : Except Refusal Reading :=
  match r.pending with
  | some (f, none) => .ok { r with pending := some (f, some argument) }
  | _ => .error (.usage (.unknown argument))

/-- Reads a command line to its end. After `--` nothing can be an option. -/
def all : Reading → List String → Except Refusal Reading
  | r, [] => r.resolve
  | r, argument :: rest =>
    match argument.toList with
    | ['-', '-'] =>
      match rest with
      | [] => r.resolve
      | value :: _ => .error (.usage (.unknown value))
    | '-' :: '-' :: name => (r.long name).bind fun r => all r rest
    | '-' :: c :: more => (r.short (c :: more)).bind fun r => all r rest
    | _ => (r.plain argument).bind fun r => all r rest

/-- The value of an option. -/
def value? (r : Reading) (f : Flag) : Option String := r.given.lookup f

/-- The values of an option, in order. -/
def values (r : Reading) (f : Flag) : List String :=
  (r.given.filter fun g => g.1 == f).map (·.2)

end Reading

/-! ## Arguments -/

/-- What a command line asks for. -/
structure Arguments where
  workspace : Path
  settings : Option Path
  serverPath : Option String
  json : Bool
  /-- The documents to open, as they were given. -/
  requested : List Path
  logLevel : String
  logJson : Bool
deriving DecidableEq, Repr

namespace Arguments

/-- The arguments in a reading, with the usual values where nothing is given. -/
def ofReading (r : Reading) : Arguments where
  workspace := Path.ofText ((r.value? .workspace).getD ".")
  settings := (r.value? .settings).map Path.ofText
  serverPath := r.value? .serverPath
  json := (r.value? .json).isSome
  requested := (r.values .document).map Path.ofText
  logLevel := (r.value? .logLevel).getD "info"
  logJson := (r.value? .logJson).isSome

/-- Reads a command line. -/
def read (arguments : List String) : Except Refusal Arguments :=
  (Reading.empty.all arguments).map ofReading

/-- The requested documents in order, without repetitions. -/
def documents (a : Arguments) : List Path := a.requested.eraseDupsBy Path.same

end Arguments

/-! ## Help -/

/-- The text about the version. -/
def versionText : String := "ruby-ti-bridge 0.1.0\n"

/-- The text about the options. -/
def helpText : String :=
  "Client-side bridge that launches the Ruby-TI language server and manages its connection "
    ++ "lifecycle\n\nUsage: ruby-ti-bridge [OPTIONS]\n\nOptions:\n"
    ++ "  -w, --workspace <WORKSPACE>      Workspace root directory [default: .]\n"
    ++ "  -s, --settings <SETTINGS>        JSON settings file (VS Code style)\n"
    ++ "      --server-path <SERVER_PATH>  Server executable; overrides the settings file\n"
    ++ "      --json                       Also hand JSON type definition files to the server\n"
    ++ "      --open <OPEN>                Documents to open once the server is ready. "
    ++ "Repeated paths are opened once; unreadable or out-of-scope files are skipped with a "
    ++ "warning\n"
    ++ "      --log-level <LOG_LEVEL>      Log level: trace, debug, info, warn, error "
    ++ "[default: info]\n"
    ++ "      --log-json                   Emit logs as JSON lines\n"
    ++ "  -h, --help                       Print help\n"
    ++ "  -V, --version                    Print version\n"

end LanguageBridge.Host
