import LanguageBridge.Duration
import LanguageBridge.ExitStatus
import LanguageBridge.Launch
import LanguageBridge.Protocol.Frame

set_option autoImplicit false

/-! # Rehearsal servers

A rehearsed server reads messages and acts on them by a script. For each cue, which is the start
of the process, the method of a message, a response, or the end of the input, the script lists
what the server does. The server acts step by step and takes a little time for each step; it keeps
a record of how it was started and of the messages that it read.
-/

namespace LanguageBridge.Rehearsal

/-- What a server does. -/
inductive Action where
  /-- Answers the message that is at hand. -/
  | reply (result : Json)
  /-- Refuses the request that is at hand. -/
  | refuse (error : Json)
  /-- Sends a message. -/
  | send (message : Json)
  /-- Sends the message at hand back. -/
  | echo
  /-- Writes a text without a frame. -/
  | raw (text : String)
  /-- Exits with a code. -/
  | exit (code : Int)
  /-- Sends itself a signal. -/
  | kill (signal : Nat)
  /-- Closes its output. -/
  | close
  /-- Does nothing for some time. -/
  | hang (time : Duration)

/-- What makes a server act. -/
inductive Cue where
  | start
  | message (method : Option String)
  | inputEnded
deriving DecidableEq

/-- A program: what it does on each cue, and whether it keeps a record. -/
structure Program where
  script : Cue → List Action
  records : Bool

/-- A server process. -/
structure Server where
  program : Program
  /-- What it records when it starts. -/
  birth : Json
  started : Bool
  /-- The messages that it has not read. -/
  inbox : List Json
  inputEnded : Bool
  /-- Whether it saw the end of its input. -/
  sawEnd : Bool
  /-- What it has yet to do, with the message at hand. -/
  agenda : List (Action × Json)
  /-- The instant at which it acts next. -/
  wakes : Nat
  /-- What it wrote and nobody read. -/
  output : Bytes
  outputOpen : Bool
  status : Option ExitStatus

namespace Server

/-- How long a process takes to start. -/
def startupTime : Duration := Duration.millis 20

/-- How long a server takes for one step. -/
def stepTime : Duration := ⟨100000⟩

/-- A process that was just started. -/
def spawned (program : Program) (birth : Json) (now : Nat) : Server :=
  ⟨program, birth, false, [], false, false, [], now + startupTime.nanos, [], true, none⟩

/-- Whether the process runs. -/
def isAlive (s : Server) : Bool := s.status.isNone

/-- Whether the process has anything to do. -/
def isBusy (s : Server) : Bool :=
  s.isAlive && (!s.started || !s.agenda.isEmpty || !s.inbox.isEmpty || (s.inputEnded && !s.sawEnd))

/-- Ends the process. -/
def ended (s : Server) (status : ExitStatus) : Server :=
  if s.isAlive then { s with status := some status, outputOpen := false, agenda := [], inbox := [] }
  else s

/-- The signals that end no process by themselves: the ignored ones, and those that stop it. -/
def harmlessSignals : List Nat := [0, 13, 17, 18, 19, 20, 21, 22, 23, 28]

/-- Puts a message into the inbox. -/
def receive (s : Server) (message : Json) (now : Nat) : Server :=
  let wakes := if s.isBusy then s.wakes else max s.wakes (now + stepTime.nanos)
  { s with inbox := s.inbox ++ [message], wakes }

/-- Ends the input. -/
def endInput (s : Server) (now : Nat) : Server :=
  let wakes := if s.isBusy then s.wakes else max s.wakes (now + stepTime.nanos)
  { s with inputEnded := true, wakes }

/-- Writes bytes, unless the output is closed. -/
def write (s : Server) (bytes : Bytes) : Server :=
  if s.outputOpen then { s with output := s.output ++ bytes } else s

/-- A response to the message at hand. -/
def response (message : Json) (member : String × Json) : Json :=
  .ofMembers [("jsonrpc", .string protocolVersion), ("id", (message.member? "id").getD .null),
    member]

/-- Does one action. -/
def perform (s : Server) (now : Nat) (message : Json) : Action → Server
  | .reply result => s.write (Frame.ofMessage (response message ("result", result)))
  | .refuse error => s.write (Frame.ofMessage (response message ("error", error)))
  | .send other => s.write (Frame.ofMessage other)
  | .echo => s.write (Frame.ofMessage message)
  | .raw text => s.write (Text.utf8Bytes text)
  | .exit code => s.ended (.code (code % 256))
  | .kill signal => if harmlessSignals.contains signal then s else s.ended (.signal signal)
  | .close => { s with outputOpen := false }
  | .hang time => { s with wakes := now + time.nanos }

/-- Puts what the script says on a cue on the agenda. -/
def plan (s : Server) (cue : Cue) (message : Json) : Server :=
  { s with agenda := (s.program.script cue).map fun action => (action, message) }

/-- An entry of the record, if the program keeps one. -/
def noted (s : Server) (entry : Json) : Option Json :=
  if s.program.records then some entry else none

/-- One step of a process that has something to do, and what it records. -/
def act (s : Server) (now : Nat) : Server × Option Json :=
  let s := { s with wakes := now + stepTime.nanos }
  if !s.started then ({ s with started := true }.plan .start .null, s.noted s.birth)
  else
    match s.agenda, s.inbox with
    | (action, message) :: rest, _ => (perform { s with agenda := rest } now message action, none)
    | [], message :: rest =>
      let method := (message.member? "method").bind Json.asString?
      (plan { s with inbox := rest } (.message method) message, s.noted message)
    | [], [] =>
      let actions := s.program.script .inputEnded ++ [.exit 0]
      ({ s with sawEnd := true, agenda := actions.map fun action => (action, .null) }, none)

end Server

/-! ## Programs -/

/-- What a server does on a cue that its script says nothing about. -/
def usual : Cue → List Action
  | .message (some "initialize") => [.reply (.ofMembers [("capabilities", .ofMembers [])])]
  | .message (some "shutdown") => [.reply .null]
  | .message (some "exit") => [.exit 0]
  | _ => []

/-- A language server that follows a script. -/
def Program.scripted (script : Cue → Option (List Action)) : Program :=
  ⟨fun cue => (script cue).getD (usual cue), true⟩

end LanguageBridge.Rehearsal
