import LanguageBridge.Connection.Basic

set_option autoImplicit false

/-! # Stopping a server

A stop looks at the phase. An idle connection is cancelled, and a closed or cancelled one needs
nothing. While a start is under way the stop asks it to give up and looks again when it has
ended. From a running connection the stop takes the process out of the slot, asks the server to
shut down, tells it to exit and waits for the process to end; a process that does not end is
killed. Of several stops one finds the process, and the others have nothing to do.
-/

namespace LanguageBridge

/-- How waiting for the exit of a process ended. -/
inductive ExitOutcome where
  /-- The process exited. -/
  | exited (status : ExitStatus)
  /-- The process cannot be waited for. -/
  | unknown (reason : String)
  /-- It did not exit in time. Killing it can be refused, for a reason. -/
  | overdue (refusal : Option String)
deriving DecidableEq, Repr

namespace Connection

/-- Notes the phase that a stop found, and moves it to a stage. -/
def note (c : Connection) (i : Nat) (stage : StopStage) : Connection :=
  { c with stops := c.stops.modify i fun s => ⟨stage, s.found ++ [c.phase]⟩ }

/-- A stop looks at the phase: at its beginning, and whenever a start that it waits for has
ended. To look and to cancel an idle connection are one step: the stop waits for nothing between
the two. A cancellation that came too late would change nothing and make the stop look again, which
is this step after the one that came between. -/
def look (c : Connection) (i : Nat) : Connection × List ConnectionEffect :=
  let seen : Connection × List ConnectionEffect :=
    match c.phase with
    | .idle => ({ c.note i (.ended none) with phase := .cancelled }, [.publish .cancelled])
    | .starting =>
      ({ c.note i .waiting with abortAsked := true },
        [logged .debug "stop requested while starting, aborting handshake" []])
    | .running => (c.note i .unlinking, [])
    | .closed | .cancelled => (c.note i (.ended none), [])
  match (c.stops[i]?).map StopAttempt.stage with
  | some .created => seen
  | some .waiting => if c.phase = .starting then (c, []) else seen
  | _ => (c, [])

/-- A stop takes the process out of the slot and asks it to shut down. -/
def unlink (c : Connection) (i : Nat) : Connection × List ConnectionEffect :=
  match (c.stops[i]?).map StopAttempt.stage with
  | some .unlinking =>
    match c.slot with
    | some process =>
      (({ c with slot := none, phase := .closed }).setStop i (.closing process),
        [.publish .closed, logged .info "shutting down language server" [],
          .send process .shutdown])
    | none => (({ c with phase := .closed }).setStop i (.ended none), [.publish .closed])
  | _ => (c, [])

/-- The failure of a shutdown. -/
def shutdownFailure? (c : Connection) : ShutdownOutcome → Option ConnectionFailure
  | .done => none
  | .refused reason => some (.transport ("shutdown request failed: " ++ reason))
  | .failed failure => some (.transport ("shutdown request failed: " ++ failure.message))
  | .overdue =>
    some (.transport ("no shutdown response within " ++ c.config.shutdownTimeout.text))

/-- The shutdown of a stop ended; the stop tells the server to exit. `taken` tells whether the
channel takes that message. -/
def shutdownEnded (c : Connection) (i : Nat) (outcome : ShutdownOutcome) (taken : Bool) :
    Connection × List ConnectionEffect :=
  match (c.stops[i]?).map StopAttempt.stage with
  | some (.closing process) =>
    let complaint :=
      if taken then []
      else
        [logged .debug "exit notification not delivered"
          [("error", .string ChannelFailure.closed.message)]]
    (c.setStop i (.reaping process (c.shutdownFailure? outcome)),
      .send process .exit :: complaint)
  | _ => (c, [])

/-- The process of a stop exited, or it is ended: it is killed if it did not exit in time, and let
go of if it cannot be waited for or killed. -/
def exitEnded (c : Connection) (i : Nat) (outcome : ExitOutcome) :
    Connection × List ConnectionEffect :=
  match (c.stops[i]?).map StopAttempt.stage with
  | some (.reaping process failure) =>
    let overdue := logged .warn "language server still running after shutdown, killing it" []
    match outcome with
    | .exited status =>
      ((c.setFate process .reaped).setStop i (.ended failure),
        [logged .debug "language server exited" [("status", .string status.text)]])
    | .unknown reason =>
      ((c.setFate process .dropped).setStop i (.ended failure),
        [logged .warn "failed to wait for language server" [("error", .string reason)],
          .letGo process])
    | .overdue none =>
      ((c.setFate process .killed).setStop i (.ended failure), [overdue, .kill process])
    | .overdue (some refusal) =>
      ((c.setFate process .dropped).setStop i (.ended failure),
        [overdue, logged .warn "failed to kill language server" [("error", .string refusal)],
          .letGo process])
  | _ => (c, [])

/-- The process of a stop that has one. -/
def StopStage.process? : StopStage → Option Nat
  | .closing process => some process
  | .reaping process _ => some process
  | _ => none

/-- The caller of a stop gives it up. -/
def dropStop (c : Connection) (i : Nat) : Connection × List ConnectionEffect :=
  match (c.stops[i]?).map StopAttempt.stage with
  | none => (c, [])
  | some (.ended _) => (c, [])
  | some .dropped => (c, [])
  | some stage =>
    match StopStage.process? stage with
    | none => (c.setStop i .dropped, [])
    | some process => ((c.setFate process .dropped).setStop i .dropped, [.letGo process])

end Connection
end LanguageBridge
