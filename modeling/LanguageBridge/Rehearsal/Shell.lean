import LanguageBridge.Rehearsal.Server

set_option autoImplicit false

/-! # Rehearsal programs

The programs that a machine has besides language servers: those that end at once, those that wait
or write something first, one that copies its input, and a shell that runs a row of such
commands. A command that is not known ends with the status 127.
-/

namespace LanguageBridge.Rehearsal

namespace Shell

/-- The pieces of a text between characters that satisfy `p`, empty ones left out. -/
def pieces (p : Char → Bool) : List Char → List (List Char)
  | [] => []
  | c :: rest =>
    let more := pieces p rest
    if p c then more
    else
      match rest, more with
      | next :: _, piece :: others => if p next then [c] :: more else (c :: piece) :: others
      | _, _ => [c] :: more

/-- A word with the value of a variable in its place, if it names one. -/
def expanded (env : Environment) (word : List Char) : String :=
  match word with
  | '$' :: '$' :: _ => String.ofList word
  | '$' :: name =>
    ((env.get? (Text.utf8Bytes (String.ofList name))).map Text.decodeLossy).getD ""
  | _ => String.ofList word

/-- The words of a command; those that come to nothing are left out. -/
def words (env : Environment) (command : List Char) : List String :=
  ((pieces (· == ' ') command).map (expanded env)).filter (· ≠ "")

/-- The signal that a word such as `-9` or `-TERM` names. -/
def signal? (word : String) : Option Nat :=
  let name := String.ofList (word.toList.dropWhile (· == '-'))
  match name.toNat? with
  | some n => some n
  | none =>
    (ExitStatus.signalNames.findIdx? fun s => s == name || s == "SIG" ++ name).map (· + 1)

/-- The time that a word such as `3` or `0.25` names, in seconds. -/
def time (word : String) : Duration :=
  match pieces (· == '.') word.toList with
  | [whole] => Duration.seconds ((String.ofList whole).toNat?.getD 0)
  | [whole, fraction] =>
    let digits := (fraction ++ List.replicate 9 '0').take 9
    let part := (String.ofList digits).toNat?.getD 0
    ⟨(Duration.seconds ((String.ofList whole).toNat?.getD 0)).nanos + part⟩
  | _ => ⟨0⟩

/-- What a command does, and the status that it ends with, after one that ended with `status`. -/
def command (status : Int) : List String → List Action × Int
  | [] => ([], status)
  | ["exit"] => ([.exit status], status)
  | "exit" :: code :: _ => ([.exit (code.toNat?.getD 2)], 2)
  | "kill" :: signal :: "$$" :: _ =>
    match signal? signal with
    | some n => ([.kill n], 0)
    | none => ([], 2)
  | "sleep" :: word :: _ => ([.hang (time word)], 0)
  | "echo" :: text => ([.raw (" ".intercalate text ++ "\n")], 0)
  | "exec" :: inner =>
    let (actions, status) := command status inner
    (actions ++ [.exit status], status)
  | "true" :: _ => ([], 0)
  | "false" :: _ => ([], 1)
  | _ => ([], 127)

/-- What a row of commands does. -/
def commands (status : Int) : List (List String) → List Action
  | [] => [.exit status]
  | line :: rest =>
    let (actions, status) := command status line
    actions ++ commands status rest

/-- What a script does. -/
def script (env : Environment) (text : String) : List Action :=
  commands 0 ((pieces (fun c => c == ';' || c == '\n') text.toList).map (words env))

end Shell

/-- A program that does something when it starts, without reading its input. -/
def Program.deaf (actions : List Action) : Program :=
  ⟨fun cue => if cue = .start then actions else [], false⟩

/-- A program that copies its input to its output. -/
def Program.copying : Program :=
  ⟨fun cue => match cue with
    | .message _ => [.echo]
    | _ => [], false⟩

/-- The program with a name, given how it is launched. -/
def Program.named? (name : String) (launch : Launch) : Option Program :=
  match name, launch.arguments with
  | "cat", [] => some .copying
  | "sh", ["-c", "cat"] => some .copying
  | "sh", ["-c", "exec cat"] => some .copying
  | "sh", "-c" :: text :: _ => some (.deaf (Shell.script launch.environment.received text))
  | "true", arguments => some (.deaf (Shell.commands 0 ["true" :: arguments]))
  | "false", arguments => some (.deaf (Shell.commands 0 ["false" :: arguments]))
  | "sleep", arguments => some (.deaf (Shell.commands 0 ["sleep" :: arguments]))
  | "echo", arguments => some (.deaf (Shell.commands 0 ["echo" :: arguments]))
  | _, _ => none

end LanguageBridge.Rehearsal
