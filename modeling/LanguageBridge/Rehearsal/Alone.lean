import LanguageBridge.Rehearsal.World

set_option autoImplicit false

/-! # Rehearsing a connection by itself

A world with one connection, which a caller starts, stops and notifies: it waits for an attempt,
or sends it into the background under a name and joins it later.
-/

namespace LanguageBridge.Rehearsal.World

/-- The only connection. -/
def only : Nat := 0

/-- A world with one connection that was not used. -/
def alone (connection : Connection) (files : FileSystem)
    (programs : Path → Launch → Option Program) (processId : Nat) : World :=
  let assembly := Assembly.idle connection.config
  quiet { assembly with connections := [connection] } files programs processId

/-- The next attempt of a kind. -/
def nextTask (w : World) (attempt : Attempt) : Task :=
  let index := match w.connection? only, attempt with
    | some c, .start => c.starts.length
    | some c, .stop => c.stops.length
    | none, _ => 0
  ⟨only, attempt, index⟩

/-- Asks for an attempt. -/
def ask (w : World) (attempt : Attempt) : World × Task :=
  let input := match attempt with
    | .start => ConnectionInput.start
    | .stop => .stop
  (w.giveConnection only input, w.nextTask attempt)

/-- Asks for an attempt and waits for its end. -/
def attemptNow (w : World) (attempt : Attempt) : World × Option ConnectionFailure :=
  let (w, task) := w.ask attempt
  let w := w.await task
  (w, (w.result? task).getD none)

/-- Asks for an attempt and gives it up before it begins. -/
def giveUp (w : World) (attempt : Attempt) : World :=
  let (w, task) := w.ask attempt
  w.breakOff task

/-- Asks for an attempt that goes on in the background. -/
def attemptLater (w : World) (attempt : Attempt) (name : String) : World :=
  let (w, task) := w.ask attempt
  let others := w.background.map fun b =>
    if b.name = some name then { b with name := none } else b
  { w with background := others ++ [⟨task, some name, false⟩] }

/-- The task in the background under a name. -/
def named? (w : World) (name : String) : Option Background :=
  w.background.find? fun b => b.name = some name

/-- What waiting for a task in the background gives. -/
inductive Joined where
  /-- There is no such task, or not any more. -/
  | nothing
  /-- It was broken off. -/
  | brokenOff
  | ended (failure : Option ConnectionFailure)

/-- Waits for a task in the background. -/
def join (w : World) (name : String) : World × Joined :=
  match w.named? name with
  | none => (w, .nothing)
  | some b =>
    let w := w.runTo none fun w => (w.result? b.task).isSome || w.isDropped b.task
    let w := { w with background := w.background.filter fun b => b.name ≠ some name }
    match w.result? b.task with
    | some failure => (w, .ended failure)
    | none => (w, .brokenOff)

/-- Tells a task in the background to break off. -/
def interrupt (w : World) (name : String) : World :=
  { w with background := w.background.map fun b =>
      if b.name = some name then { b with broken := true } else b }

/-- Notifies the server of an event. -/
def notify (w : World) (event : EditorEvent) : World × Option ConnectionFailure :=
  match w.connection? only with
  | none => (w, none)
  | some c =>
    let i := c.notifies.length
    let w := w.giveConnection only (.notify event)
    let w := w.giveConnection only (.deliver i (w.takes only))
    (w, ((w.connection? only).bind fun c => c.notifyResult? i).getD none)

/-- Notifies the server of an event again and again until that fails. -/
def notifyUntilFailure (event : EditorEvent) : Nat → World → World × Option ConnectionFailure
  | 0, w => (w, none)
  | fuel + 1, w =>
    match w.notify event with
    | (w, some failure) => (w, some failure)
    | (w, none) => notifyUntilFailure event fuel (w.round none none)

/-- The time between two looks at the records. -/
def lookingTime : Duration := Duration.millis 2

/-- Waits until servers have recorded so many entries. The records are looked at only from time to
time, so that what follows soon on the last of them has happened as well. -/
def awaitRecords (w : World) (count : Nat) : World :=
  let w := w.runTo none fun w => count ≤ w.records.length
  runUntil none (some (w.clock + lookingTime.nanos)) (fun _ => false) roundLimit w

end LanguageBridge.Rehearsal.World
