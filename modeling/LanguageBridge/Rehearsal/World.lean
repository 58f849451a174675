import LanguageBridge.Assembly
import LanguageBridge.Path.Command
import LanguageBridge.Protocol.Channel
import LanguageBridge.Rehearsal.Server

set_option autoImplicit false

/-! # A rehearsed world

A world holds an assembly, the server processes of its connections, and a clock. The attempts of
connections run as tasks: a task goes on as far as it can and then waits, for an answer, for the
exit of a process, or until its patience ends. Servers take time for what they do. The clock
moves on when nothing else can happen, to the next instant at which something does.
-/

namespace LanguageBridge.Rehearsal

/-- The kinds of attempts that run as tasks. -/
inductive Attempt where
  | start
  | stop
deriving DecidableEq

/-- A task: an attempt of a connection. -/
structure Task where
  connection : Nat
  attempt : Attempt
  index : Nat
deriving DecidableEq

/-- A task in the background. It may have a name, and it may have been told to break off. -/
structure Background where
  task : Task
  name : Option String
  broken : Bool

/-- The two ends of the channel of a connection. -/
structure Site where
  channel : Channel
  server : Server

/-- A world. -/
structure World where
  assembly : Assembly
  files : FileSystem
  /-- The program at a canonical path. -/
  programs : Path → Launch → Option Program
  /-- The number of the client's process. -/
  processId : Nat
  clock : Nat
  /-- The sites of connections that started a process. -/
  sites : List (Nat × Site)
  background : List Background
  /-- The instants at which the patience of tasks ends. -/
  timers : List (Task × Nat)
  /-- What servers recorded. -/
  records : List Json
  /-- What was logged, with the method of the notification that it is about. -/
  logs : List (Option String × LogEvent)
  /-- Whether what the user is told goes to the log. -/
  logsStatus : Bool
  /-- What else the user was told since the last look. -/
  told : List Status
  /-- How often anything happened. -/
  moves : Nat

namespace World

/-- A world in which nothing has happened. -/
def quiet (assembly : Assembly) (files : FileSystem)
    (programs : Path → Launch → Option Program) (processId : Nat) : World :=
  ⟨assembly, files, programs, processId, 0, [], [], [], [], [], false, [], 0⟩

/-- The connection with a number. -/
def connection? (w : World) (connection : Nat) : Option Connection :=
  w.assembly.connections[connection]?

/-- The site of a connection. -/
def site? (w : World) (connection : Nat) : Option Site := w.sites.lookup connection

/-- Changes the site of a connection. -/
def updateSite (w : World) (connection : Nat) (change : Site → Site) : World :=
  { w with sites := w.sites.map fun s => if s.1 = connection then (s.1, change s.2) else s }

/-- Whether the channel of a connection takes messages. -/
def takes (w : World) (connection : Nat) : Bool :=
  match w.site? connection with
  | some s => s.channel.isOpen
  | none => false

/-- Logs something. -/
def log (w : World) (method : Option String) (event : LogEvent) : World :=
  { w with logs := w.logs ++ [(method, event)] }

/-! ## Playing effects -/

/-- What a server records when it starts. -/
def birth (launch : Launch) (directory : Path) : Json :=
  let env := launch.environment.received.map fun v =>
    (Text.decodeLossy v.1, Json.string (Text.decodeLossy v.2))
  .ofMembers [("spawned", .ofMembers
    [("args", .ofStrings launch.arguments), ("env", .ofMembers env),
      ("cwd", .string (Path.display directory))])]

/-- How the process of a connection starts. -/
def launching (w : World) (c : Connection) : Launching :=
  match w.files.canonical c.config.workspaceRoot with
  | .error e => .noWorkspace e
  | .ok directory =>
    match w.files.launched c.launch directory with
    | .error e => .noProcess e
    | .ok _ => .spawned directory

/-- A program that does nothing. -/
def idleProgram : Program := ⟨fun _ => [], false⟩

/-- The program that a connection runs in a directory. -/
def programOf (w : World) (c : Connection) (directory : Path) : Program :=
  match w.files.launched c.launch directory with
  | .ok path => (w.programs path c.launch).getD idleProgram
  | .error _ => idleProgram

/-- Starts the process of a connection. -/
def spawn (w : World) (connection : Nat) : World :=
  match w.connection? connection with
  | none => w
  | some c =>
    match w.launching c with
    | .spawned directory =>
      let server := Server.spawned (w.programOf c directory) (birth c.launch directory) w.clock
      { w with sites := (connection, ⟨Channel.fresh, server⟩) :: w.sites }
    | _ => w

/-- Sends a message on the channel of a connection, if it takes it. -/
def send (w : World) (connection : Nat) (message : ClientMessage) : World :=
  w.updateSite connection fun s =>
    match s.channel.send? w.processId message with
    | none => s
    | some (channel, sent) => ⟨channel, s.server.receive sent.toJson w.clock⟩

/-- Plays an effect of a connection. -/
def playConnection (w : World) (connection : Nat) : ConnectionEffect → World
  | .publish _ => w
  | .spawn _ => w.spawn connection
  | .send _ message => w.send connection message
  | .kill _ => w.updateSite connection fun s => { s with server := s.server.ended (.signal 9) }
  | .letGo _ => w.updateSite connection fun s => { s with server := s.server.ended (.signal 9) }
  | .log event => w.log none event

/-- Plays an effect of the bridge. Starts and stops of connections become tasks. -/
def playBridge (w : World) : BridgeEffect → World
  | .status status =>
    if w.logsStatus then w.log none status.logged else { w with told := w.told ++ [status] }
  | .start connection =>
    { w with background := w.background ++ [⟨⟨connection, .start, 0⟩, none, false⟩] }
  | .stop connection =>
    { w with background := w.background ++ [⟨⟨connection, .stop, 0⟩, none, false⟩] }
  | .log event => w.log none event
  | _ => w

/-- Plays an effect. -/
def play (w : World) : AssemblyEffect → World
  | .bridge effect => w.playBridge effect
  | .connection connection effect => w.playConnection connection effect

/-- Takes over an assembly that did something. -/
def become (w : World) (assembly : Assembly) (effects : List AssemblyEffect) : World :=
  effects.foldl play { w with assembly, moves := w.moves + 1 }

/-- Gives the assembly an input. -/
def give (w : World) (input : AssemblyInput) : World × BridgeReply :=
  let (assembly, reply, effects) := w.assembly.step input
  (w.become assembly effects, reply)

/-- Gives a connection an input. -/
def giveConnection (w : World) (connection : Nat) (input : ConnectionInput) : World :=
  let (assembly, effects) := w.assembly.onConnection connection input
  w.become assembly effects

/-! ## Tasks -/

/-- Whether the patience of a task has ended. -/
def isOverdue (w : World) (t : Task) : Bool :=
  match w.timers.lookup t with
  | some instant => instant ≤ w.clock
  | none => false

/-- Sets how long a task waits from now on; without a limit it waits for good. -/
def arm (w : World) (t : Task) (patience : Option Duration) : World :=
  let others := w.timers.filter fun timer => timer.1 ≠ t
  match patience with
  | some d => { w with timers := (t, w.clock + d.nanos) :: others }
  | none => { w with timers := others }

/-- How long a start waits in a stage. -/
def startPatience (c : Connection) : Option StartStage → Option Duration
  | some (.opening _) => some c.config.initTimeout
  | some (.bereaved _ _) => some exitGrace
  | _ => none

/-- How long a stop waits in a stage. -/
def stopPatience (c : Connection) : Option StopStage → Option Duration
  | some (.closing _) => some c.config.shutdownTimeout
  | some (.reaping _ _) => some c.config.shutdownTimeout
  | _ => none

/-- How long a task waits now. -/
def patience (c : Connection) (t : Task) : Option Duration :=
  match t.attempt with
  | .start => startPatience c c.starts[t.index]?
  | .stop => stopPatience c ((c.stops[t.index]?).map StopAttempt.stage)

/-- How the call of a method on a connection ended, if it has. -/
def call? (w : World) (connection : Nat) (message : ClientMessage) : Option CallOutcome :=
  (w.site? connection).bind fun s => s.channel.outcome? message.method

/-- How the process of a connection ended, if it has. -/
def exit? (w : World) (connection : Nat) : Option ExitStatus :=
  (w.site? connection).bind fun s => s.server.status

/-- What happens next to a start, if anything does. -/
def nextStart? (w : World) (t : Task) (c : Connection) : Option ConnectionInput :=
  let i := t.index
  let aborted := if c.abortAsked then some (ConnectionInput.abortSeen i) else none
  match c.starts[i]? with
  | some .created => some (.beginStart i (w.launching c))
  | some (.opening _) =>
    match w.call? t.connection (.opening []), aborted with
    | some outcome, _ => some (.openingEnded i (.ofCall outcome) (w.takes t.connection))
    | none, some input => some input
    | none, none => if w.isOverdue t then some (.openingEnded i .overdue false) else none
  | some (.bereaved _ _) =>
    match w.exit? t.connection, aborted with
    | some status, _ => some (.graceEnded i (some status))
    | none, some input => some input
    | none, none => if w.isOverdue t then some (.graceEnded i none) else none
  | some (.linking _) => some (.link i)
  | _ => none

/-- What happens next to a stop, if anything does. -/
def nextStop? (w : World) (t : Task) (c : Connection) : Option ConnectionInput :=
  let i := t.index
  match (c.stops[i]?).map StopAttempt.stage with
  | some .created => some (.look i)
  | some .waiting => if c.phase = .starting then none else some (.look i)
  | some .unlinking => some (.unlink i)
  | some (.closing _) =>
    match w.call? t.connection .shutdown with
    | some outcome => some (.shutdownEnded i (.ofCall outcome) (w.takes t.connection))
    | none =>
      if w.isOverdue t then some (.shutdownEnded i .overdue (w.takes t.connection)) else none
  | some (.reaping _ _) =>
    match w.exit? t.connection with
    | some status => some (.exitEnded i (.exited status))
    | none => if w.isOverdue t then some (.exitEnded i (.overdue none)) else none
  | _ => none

/-- What happens next to a task, if anything does. -/
def next? (w : World) (t : Task) : Option ConnectionInput :=
  (w.connection? t.connection).bind fun c =>
    match t.attempt with
    | .start => w.nextStart? t c
    | .stop => w.nextStop? t c

/-- How a task ended, if it has: perhaps with a failure. -/
def result? (w : World) (t : Task) : Option (Option ConnectionFailure) :=
  (w.connection? t.connection).bind fun c =>
    match t.attempt with
    | .start => c.startResult? t.index
    | .stop => c.stopResult? t.index

/-- Lets a task go on as far as it can, in at most the given number of steps. -/
def goOn (t : Task) : Nat → World → World
  | 0, w => w
  | fuel + 1, w =>
    match w.next? t with
    | none => w
    | some input =>
      let w := w.giveConnection t.connection input
      let limit := (w.connection? t.connection).bind fun c => patience c t
      goOn t fuel (w.arm t limit)

/-- More steps than any task has. -/
def taskSteps : Nat := 8

/-- The bridge looks at a task that has ended. -/
def observe (w : World) (t : Task) : World :=
  match w.result? t with
  | none => w
  | some _ =>
    let input := match t.attempt with
      | .start => AssemblyInput.startSeen t.connection .willing
      | .stop => .stopSeen t.connection
    let watched := match t.attempt with
      | .start => w.assembly.bridge.watchers.any fun v => v.connection == t.connection
      | .stop =>
        w.assembly.bridge.stops.any fun s => s.connection == t.connection && s.outcome.isNone
    if watched then (w.give input).1 else w

/-- Lets a task go on. -/
def poll (w : World) (t : Task) : World := (goOn t taskSteps w).observe t

/-- Breaks off a task. -/
def breakOff (w : World) (t : Task) : World :=
  match w.result? t with
  | some _ => w
  | none =>
    let input := match t.attempt with
      | .start => ConnectionInput.dropStart t.index
      | .stop => .dropStop t.index
    (w.giveConnection t.connection input).arm t none

/-- Whether a task was broken off. -/
def isDropped (w : World) (t : Task) : Bool :=
  match w.connection? t.connection with
  | none => false
  | some c =>
    match t.attempt with
    | .start => c.starts[t.index]? = some .dropped
    | .stop => (c.stops[t.index]?).map StopAttempt.stage = some .dropped

/-- Lets a task in the background go on, or breaks it off. -/
def pollBackground (w : World) (b : Background) : World :=
  if !b.broken then w.poll b.task
  else if w.isDropped b.task then w
  else w.breakOff b.task

/-- Lets the tasks go on: first the one that is waited for, and those in the background if it
has not ended. -/
def pollAll (w : World) (main : Option Task) : World :=
  match main with
  | none => w.background.foldl pollBackground w
  | some t =>
    let w := w.poll t
    if (w.result? t).isSome then w else w.background.foldl pollBackground w

/-! ## Servers -/

/-- Plays what a client does about a message of its server. -/
def playChannel (connection : Nat) (w : World) : ChannelEffect → World
  | .respond message =>
    w.updateSite connection fun s => { s with server := s.server.receive message.toJson w.clock }
  | .log method event => w.log (some method) event

/-- The client reads what its server wrote. At the end of the output, and where a message closes
the channel, the server's input ends too. -/
def read (w : World) (connection : Nat) (site : Site) : World :=
  let command := match w.connection? connection with
    | some c => c.launch.command
    | none => ""
  let channel := { site.channel with arrived := site.channel.arrived ++ site.server.output }
  let server := { site.server with output := [] }
  let fetched := !site.server.output.isEmpty
  let set (w : World) (channel : Channel) (server : Server) : World :=
    w.updateSite connection fun _ => ⟨channel, server⟩
  if !site.channel.isOpen then w
  else
    match channel.advance? command with
    | some (channel, effects) =>
      let server := if channel.isOpen then server else server.endInput w.clock
      let w := set { w with moves := w.moves + 1 } channel server
      effects.foldl (playChannel connection) w
    | none =>
      if server.outputOpen then
        if fetched then set w channel server else w
      else set { w with moves := w.moves + 1 } channel.close (server.endInput w.clock)

/-- Every client reads what its server wrote. -/
def readAll (w : World) : World := w.sites.foldr (fun s w =>
  match w.site? s.1 with
  | some site => w.read s.1 site
  | none => w) w

/-- Every server that has something to do and is not asleep does one step. -/
def actAll (w : World) : World := w.sites.foldr (fun s w =>
  match w.site? s.1 with
  | none => w
  | some site =>
    if site.server.isBusy && site.server.wakes ≤ w.clock then
      let (server, entry) := site.server.act w.clock
      let w := w.updateSite s.1 fun site => { site with server }
      { w with records := w.records ++ entry.toList, moves := w.moves + 1 }
    else w) w

/-! ## Time -/

/-- The instants at which something happens by itself. -/
def instants (w : World) : List Nat :=
  let waking := w.sites.filterMap fun s =>
    if s.2.server.isBusy then some s.2.server.wakes else none
  (w.timers.map (·.2) ++ waking).filter fun instant => w.clock < instant

/-- Moves the clock to the next instant at which something happens, if there is one before the
given instant. -/
def skip (w : World) (before : Option Nat) : World :=
  match w.instants.min? with
  | none => w
  | some instant =>
    match before with
    | some limit => if instant < limit then { w with clock := instant, moves := w.moves + 1 } else w
    | none => { w with clock := instant, moves := w.moves + 1 }

/-- The first of some ways to go on that leads anywhere. -/
def firstMove (w : World) : List (World → World) → World
  | [] => w
  | way :: ways =>
    let w' := way w
    if w'.moves = w.moves then firstMove w' ways else w'

/-- One round: the tasks go on; else the clients read; else the servers act; else time passes. -/
def round (w : World) (main : Option Task) (before : Option Nat) : World :=
  w.firstMove [fun w => w.pollAll main, readAll, actAll, fun w => w.skip before]

/-- More rounds than a rehearsal needs. -/
def roundLimit : Nat := 100000

/-- Runs rounds until something is the case, or until nothing happens any more. -/
def runUntil (main : Option Task) (before : Option Nat) (finished : World → Bool) :
    Nat → World → World
  | 0, w => w
  | fuel + 1, w =>
    if finished w then w
    else
      let w' := w.round main before
      if w'.moves = w.moves then w' else runUntil main before finished fuel w'

/-- Runs until something is the case. -/
def runTo (w : World) (main : Option Task) (finished : World → Bool) : World :=
  runUntil main none finished roundLimit w

/-- Runs until a task has ended. -/
def await (w : World) (t : Task) : World := w.runTo (some t) fun w => (w.result? t).isSome

/-- How long a world is watched until it counts as quiet. -/
def quietTime : Duration := Duration.seconds 1

/-- Runs until nothing happens for the time being. -/
def settle (w : World) : World :=
  runUntil none (some (w.clock + quietTime.nanos)) (fun _ => false) roundLimit w

/-- Runs the tasks in the background as far as they get without any time passing. -/
def breathe (w : World) : World :=
  runUntil none (some w.clock) (fun _ => false) roundLimit w

end World
end LanguageBridge.Rehearsal
