import LanguageBridge.Launch
import LanguageBridge.Path.FileSystem

set_option autoImplicit false

/-! # Finding the program of a command

A command with a separator in it is a path; any other command is searched for in the directories
of the environment's `PATH`, or the usual ones without it. The search goes past what is not there
and past files that cannot be run; at its end the latter decide the failure.
-/

namespace LanguageBridge.FileSystem

/-- The directories that are searched without a `PATH`. -/
def usualSearchPath : Bytes := Text.utf8Bytes "/bin:/usr/bin"

/-- The name of the variable with the directories to search. -/
def searchVariable : String := "PATH"

/-- The pieces of a search path between colons. -/
def searchPieces : Bytes → List Bytes
  | [] => [[]]
  | b :: rest =>
    if b = 0x3A then [] :: searchPieces rest
    else
      match searchPieces rest with
      | [] => [[b]]
      | piece :: more => (b :: piece) :: more

/-- The canonical path of a file that can be run. -/
def executable (fs : FileSystem) (p : Path) : Except IoFailure Path :=
  match fs.node p with
  | .error e => .error e
  | .ok (.file _ true) => fs.canonical p
  | .ok _ => .error .permissionDenied

/-- Searches directories for a program. `denied` tells whether one was found that cannot be
run, and `last` is how the search went last. -/
def search (fs : FileSystem) (name : Bytes) :
    List Bytes → Bool → IoFailure → Except IoFailure Path
  | [], denied, last => .error (if denied then .permissionDenied else last)
  | directory :: rest, denied, last =>
    let p := if directory = [] then name else directory ++ Path.separator :: name
    match fs.executable p with
    | .ok found => .ok found
    | .error .notFound => search fs name rest denied .notFound
    | .error .notADirectory => search fs name rest denied .notADirectory
    | .error .permissionDenied => search fs name rest true last
    | .error other => .error other

/-- The program of a command in an environment. -/
def program (fs : FileSystem) (command : Bytes) (env : Environment) : Except IoFailure Path :=
  if command = [] then .error .notFound
  else if command.contains Path.separator then fs.executable command
  else
    let directories := (env.get? (Text.utf8Bytes searchVariable)).getD usualSearchPath
    fs.search command (searchPieces directories) false .notFound

/-- Whether a launch holds a byte that no command line can hold. -/
def holdsNul (launch : Launch) : Bool :=
  (Text.utf8Bytes launch.command).contains 0
    || launch.arguments.any (fun a => (Text.utf8Bytes a).contains 0)
    || launch.environment.any (fun v => v.1.contains 0 || v.2.contains 0)

/-- The program that a launch runs in a directory. -/
def launched (fs : FileSystem) (launch : Launch) (directory : Path) : Except IoFailure Path :=
  if holdsNul launch then .error .nulInData
  else
    match fs.node directory with
    | .error e => .error e
    | .ok (.directory _) =>
      program { fs with current := directory } (Text.utf8Bytes launch.command) launch.environment
    | .ok _ => .error .notADirectory

end LanguageBridge.FileSystem
