import LanguageBridge.Bridge.Run

set_option autoImplicit false

/-! # A bridge over scripted connections

A rehearsal of a bridge: its connections follow a script that says how each start, stop and
notification ends. An end can also be left open, to be decided by a later step. Background tasks,
which are the watchers of starts and the stops, wait in a queue and run when the rehearsal
settles, in the order in which they were spawned or woken. A task whose connection has not
decided yet is parked until it does.
-/

namespace LanguageBridge.Rehearsal.Scripted

/-- When a start or stop ends: at once with an outcome, or when a step says so. -/
inductive Ending where
  | now (outcome : Outcome)
  | manual
deriving DecidableEq

/-- The script of a connection. Notifications beyond the list are delivered. -/
structure Plan where
  start : Ending
  stop : Ending
  notify : List NotifyOutcome

/-- The script of a connection about which nothing was said. -/
def Plan.willing : Plan := ⟨.now .ok, .now .ok, []⟩

/-- The two things a connection does in the background. -/
inductive Phase where
  | start
  | stop
deriving DecidableEq

/-- A background task: it waits for the start or the stop of a connection. -/
structure Task where
  phase : Phase
  connection : Nat
deriving DecidableEq

/-- A call of a connection, in the order in which they are made. -/
inductive Call where
  | create (connection : Nat) (launch : Launch) (scope : Scope)
  | start (connection : Nat)
  | stop (connection : Nat)
  | notify (connection : Nat) (event : EditorEvent)
  | dropped (connection : Nat)

/-- What was seen since the last report. -/
structure Seen where
  messages : List StatusMessage
  records : List DiagnosticRecord
  calls : List Call
  logs : List LogEvent

/-- A rehearsal of a bridge. -/
structure Play where
  bridge : Bridge
  plans : List Plan
  /-- The number of the message on which the user's side breaks off. -/
  breaksOn : Option Nat
  /-- How many messages the user's side was given. -/
  offered : Nat
  queue : List Task
  parked : List Task
  /-- Starts and stops that a step has yet to decide. -/
  undecided : List Task
  /-- What steps decided. -/
  decided : List (Task × Outcome)
  /-- The connections of the notifications so far. -/
  notified : List Nat
  /-- Whether a state was published since the subscriber last looked. -/
  unseen : Bool
  seen : Seen

namespace Play

/-- A rehearsal with the given scripts. -/
def ofPlans (plans : List Plan) (breaksOn : Option Nat) : Play :=
  ⟨.idle, plans, breaksOn, 0, [], [], [], [], [], false, ⟨[], [], [], []⟩⟩

/-- The script of a connection. -/
def plan (r : Play) (connection : Nat) : Plan := r.plans.getD connection .willing

/-- How a task ends by its script. -/
def ending (r : Play) (t : Task) : Ending :=
  match t.phase with
  | .start => (r.plan t.connection).start
  | .stop => (r.plan t.connection).stop

/-- Adds a call to what was seen. -/
def call (r : Play) (c : Call) : Play :=
  { r with seen.calls := r.seen.calls ++ [c] }

/-- Spawns the task for a start or stop. -/
def spawn (r : Play) (t : Task) : Play :=
  let undecided := if r.ending t = .manual then r.undecided ++ [t] else r.undecided
  { r with queue := r.queue ++ [t], undecided }

/-- Plays an effect of the bridge. -/
def play (r : Play) : BridgeEffect → Play
  | .status (.message m) => { r with seen.messages := r.seen.messages ++ [m] }
  | .status (.record d) => { r with seen.records := r.seen.records ++ [d] }
  | .publish _ => { r with unseen := true }
  | .create connection launch scope => r.call (.create connection launch scope)
  | .start connection => (r.call (.start connection)).spawn ⟨.start, connection⟩
  | .stop connection => (r.call (.stop connection)).spawn ⟨.stop, connection⟩
  | .notify connection event =>
    { r.call (.notify connection event) with notified := r.notified ++ [connection] }
  | .release connection => r.call (.dropped connection)
  | .log event => { r with seen.logs := r.seen.logs ++ [event] }

/-- Gives the bridge an input and plays what it does. -/
def give (r : Play) (input : BridgeInput) : Play × BridgeReply :=
  let (bridge, reply, effects) := r.bridge.step input
  (effects.foldl play { r with bridge }, reply)

/-- Whether the user's side takes the next message. -/
def takesNext (r : Play) : Bool := r.breaksOn != some (r.offered + 1)

/-! ## Background tasks -/

/-- How the start or stop that a task waits for ended, if it has. -/
def outcome? (r : Play) (t : Task) : Option Outcome :=
  match r.ending t with
  | .now outcome => some outcome
  | .manual => r.decided.lookup t

/-- Whether the end of a start is told to the user. -/
def isTold (r : Play) (connection : Nat) (outcome : Outcome) : Bool :=
  match outcome with
  | .panicked _ => false
  | _ => r.bridge.watchers.any fun w => w.connection == connection && r.bridge.isCurrent w

/-- Runs a task until it ends or is parked. -/
def runTask (r : Play) (t : Task) : Play :=
  match r.outcome? t with
  | none => { r with parked := r.parked ++ [t] }
  | some outcome =>
    match t.phase with
    | .start =>
      let sink : SinkReaction := ⟨r.takesNext, true⟩
      let offered := if r.isTold t.connection outcome then r.offered + 1 else r.offered
      { (r.give (.startEnded t.connection outcome sink)).1 with offered }
    | .stop => (r.give (.stopEnded t.connection outcome)).1

/-- Runs all tasks in the queue. -/
def settle (r : Play) : Play := r.queue.foldl runTask { r with queue := [] }

/-! ## Steps -/

/-- Activates the bridge. -/
def activate (r : Play) (launch : Launch) (scope : Scope) : Play × BridgeReply :=
  let (r', reply) := r.give (.activate launch scope r.takesNext)
  match reply with
  | .activated (.refused _) => (r', reply)
  | _ => ({ r' with offered := r'.offered + 1 }, reply)

/-- Forwards an event; the script of the held connection says how that ends. -/
def forward (r : Play) (event : EditorEvent) : Play × BridgeReply :=
  let outcome := match r.bridge.session with
    | none => .delivered
    | some s => (r.plan s.connection).notify.getD (r.notified.count s.connection) .delivered
  r.give (.forward event outcome)

/-- Decides how an open start or stop ends; tells whether it was open. -/
def decide_ (r : Play) (t : Task) (outcome : Outcome) : Play × Bool :=
  if r.undecided.contains t then
    let woken := r.parked.contains t
    ({ r with
        undecided := r.undecided.filter fun u => u != t
        decided := r.decided ++ [(t, outcome)]
        parked := r.parked.filter fun u => u != t
        queue := if woken then r.queue ++ [t] else r.queue }, true)
  else (r, false)

/-- Looks at the published state as a subscriber: whether one is new, and marks it seen. -/
def watch (r : Play) : Play × Bool := ({ r with unseen := false }, r.unseen)

/-- Takes what was seen since the last time, logs excepted. -/
def takeSeen (r : Play) : Play × Seen :=
  ({ r with seen := ⟨[], [], [], r.seen.logs⟩ }, r.seen)

end Play
end LanguageBridge.Rehearsal.Scripted
