import LanguageBridge.Rehearsal.Hosted

set_option autoImplicit false

/-! # The command line

The host is run with the files that its arguments name, and with the variables of the environment
that it looks at. No file counts as a program here, so a session ends when its server is to be
launched.
-/

namespace LanguageBridge.Host

/-- What a path names: a file with its contents, or else a directory without its entries. -/
def nodeOf (name : String) : IO FileNode := do
  try return .file (← IO.FS.readBinFile name).toList false
  catch _ => return .directory []

/-- Copies what a path names into a tree of files, if it names anything. -/
def copyInto (fs : FileSystem) (name : String) : IO FileSystem := do
  try
    let place := Path.ofText (← IO.FS.realPath name).toString
    let fs ← match fs.node place with
      | .ok _ => pure fs
      | .error _ => pure (fs.put place (← nodeOf name))
    match fs.canonical (Path.ofText name) with
    | .ok _ => return fs
    | .error _ => return fs.put (Path.ofText name) (.link place)
  catch _ => return fs

/-- The names of the files and directories that a command line names. -/
def namedBy (a : Arguments) : List String :=
  (a.workspace :: a.settings.toList ++ a.documents).filterMap Text.decode?

/-- The files that a command line names, below the directory that it is given in. -/
def filesFor (arguments : List String) : IO FileSystem := do
  let fs := FileSystem.withCurrent (Path.ofText (← IO.FS.realPath ".").toString)
  match Arguments.read arguments with
  | .error _ => return fs
  | .ok a => (namedBy a).foldlM copyInto fs

/-- The variables that a host looks at. -/
def environmentOfHost : IO Environment := do
  let pairs ← [FileSystem.searchVariable, filterVariable].filterMapM fun name => do
    return (← IO.getEnv name).map fun value => (Text.utf8Bytes name, Text.utf8Bytes value)
  return Environment.ofPairs pairs

/-- Writes what a host logged. -/
def writeEntries (entries : List LogEntry) (plan : Plan) : IO Unit :=
  entries.forM fun entry =>
    IO.eprintln (if plan.logJson then (entry.toJson plan.filter).render else entry.line plan.filter)

end LanguageBridge.Host

/-- Runs the host. -/
def main (arguments : List String) : IO UInt32 := do
  let files ← LanguageBridge.Host.filesFor arguments
  let env ← LanguageBridge.Host.environmentOfHost
  let (run, plan) := LanguageBridge.Rehearsal.runHost arguments env files (fun _ _ => none) 0
  IO.print run.ending.stdout
  plan.forM (LanguageBridge.Host.writeEntries run.entries)
  IO.eprint run.ending.report
  if run.ending.code = 2 then IO.eprintln ""
  return run.ending.code.toUInt32
