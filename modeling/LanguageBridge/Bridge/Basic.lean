import LanguageBridge.Bridge.Inspect
import LanguageBridge.Bridge.Session

set_option autoImplicit false

/-! # The bridge

A bridge holds at most one server for an editor. `Bridge.activate` announces and starts it,
`Bridge.deactivate` stops it, and `Bridge.forward` hands it events in between.

A start goes on in the background. Each activation leaves a watcher behind, and when the start
ends `Bridge.startEnded` tells the user and publishes the new state, but only if the
activation is still the one that is held and still starting; the outcome of an older start is
ignored. A stop goes on in the background too: `Bridge.stopEnded` keeps its outcome, and
`Bridge.poll` hands it to whoever holds the teardown.
-/

namespace LanguageBridge

/-- The watcher of the start of one activation. -/
structure Watcher where
  connection : Nat
  /-- The activation that it belongs to, by the number that `Bridge.epoch` had then. -/
  epoch : Nat
  command : String
deriving DecidableEq, Repr

/-- A stop that goes on, or has ended. -/
structure Stop where
  connection : Nat
  command : String
  outcome : Option Outcome
deriving DecidableEq, Repr

/-- What a caller holds after a deactivation. -/
inductive Teardown where
  /-- There is nothing to wait for, or not any more. -/
  | complete
  /-- The stop of a connection goes on. -/
  | waiting (connection : Nat)
  /-- The caller let go of it. -/
  | dropped
deriving DecidableEq, Repr

/-- A bridge. -/
structure Bridge where
  state : BridgeState
  /-- The number of activations. Kept in 64 bits it would begin anew after `2 ^ 64` of them; it is
  assumed that no run has that many. -/
  epoch : Nat
  session : Option Session
  /-- The number of connections created. -/
  created : Nat
  watchers : List Watcher
  stops : List Stop
  teardowns : List Teardown
  /-- Whether a task broke off while it held the gate around transitions. A broken gate is handed
  out like a sound one, since it guards no data of its own. So no transition looks at this; it only
  keeps what happened. -/
  gateBroken : Bool

namespace Bridge

/-- A bridge that was never activated. -/
def idle : Bridge := ⟨.idle, 0, none, 0, [], [], [], false⟩

/-- Whether a server is held. -/
def isActive (b : Bridge) : Bool := b.session.isSome

/-- The launch of the held server. -/
def launch? (b : Bridge) : Option Launch := b.session.map Session.launch

/-- The scope of the held server. -/
def scope? (b : Bridge) : Option Scope := b.session.map Session.scope

/-- A log event of the bridge. -/
def logged (level : LogLevel) (message : String) (fields : List (String × Json)) : BridgeEffect :=
  .log ⟨level, "ruby_ti_bridge::bridge::server", message, fields⟩

/-! ## The inspection form -/

/-- The inspection form of a state. -/
def inspectState : BridgeState → String
  | .idle => "Idle"
  | .starting => "Starting"
  | .ready => "Ready"
  | .failed reason => "Failed(" ++ Text.quoted reason ++ ")"

/-- The inspection form of a bridge. -/
def inspect (b : Bridge) : String :=
  let launch := match b.launch? with
    | none => "None"
    | some l => "Some(LaunchDescriptor \x7b command: " ++ Text.quoted l.command
        ++ ", arguments: " ++ inspectTexts l.arguments
        ++ ", environment: " ++ inspectEnvironment l.environment ++ " \x7d)"
  let scope := match b.scope? with
    | none => "None"
    | some s => "Some(ScopeDescriptor \x7b selectors: " ++ inspectSelectors s.selectors
        ++ ", watch_globs: " ++ inspectTexts s.watchGlobs ++ " \x7d)"
  "ServerBridge \x7b state: " ++ inspectState b.state ++ ", launch: " ++ launch
    ++ ", scope: " ++ scope ++ ", .. \x7d"

/-! ## Activation -/

/-- How an activation ended for its caller. -/
inductive Activated where
  | ok
  | refused (error : BridgeError)
  /-- The user's side broke off on the announcement. -/
  | broken
deriving DecidableEq

/-- The announcement of a start. -/
def announcement (launch : Launch) : StatusMessage :=
  .info ("Starting server at " ++ launch.command)

/-- The bridge with a new session, whose start is under way. -/
def engage (b : Bridge) (launch : Launch) (scope : Scope) (watch : GlobUnion) : Bridge :=
  { b with
    state := .starting
    epoch := b.epoch + 1
    session := some ⟨b.created, launch, scope, watch, []⟩
    created := b.created + 1
    watchers := b.watchers ++ [⟨b.created, b.epoch + 1, launch.command⟩] }

/-- What a bridge does to take up a session. -/
def engaging (b : Bridge) (launch : Launch) (scope : Scope) : List BridgeEffect :=
  [.status (.message (announcement launch)),
    logged .info "activating server bridge"
      (("command", .string launch.command) :: scopeFields scope),
    .create b.created launch scope, .publish .starting, .start b.created]

/-- Announces, creates and starts a server. `announced` tells whether the user's side takes the
announcement. -/
def activate (b : Bridge) (launch : Launch) (scope : Scope) (announced : Bool) :
    Bridge × Activated × List BridgeEffect :=
  match b.session with
  | some _ => (b, .refused (.alreadyActive b.state), [])
  | none =>
    match scope.watcher with
    | .error refusal => (b, .refused (.invalidGlob refusal), [])
    | .ok watch =>
      if !announced then (b, .broken, [])
      else (b.engage launch scope watch, .ok, b.engaging launch scope)

/-! ## The end of a start -/

/-- Whether a watcher watches the start that the bridge waits for. -/
def isCurrent (b : Bridge) (w : Watcher) : Bool := b.epoch == w.epoch && b.state == .starting

/-- The message after a successful start. -/
def successMessage : StatusMessage := .info "Server started successfully"

/-- The message after a failed start. -/
def failureMessage (failure : ConnectionFailure) : StatusMessage :=
  .error ("Failed to start server: " ++ failure.message)

/-- Tells the user about the outcome of the current start and publishes the new state. Where the
user's side breaks off, nothing is published. -/
def announceStart (b : Bridge) (w : Watcher) (failure : Option ConnectionFailure)
    (sink : SinkReaction) : Bridge × List BridgeEffect :=
  match failure with
  | none =>
    if sink.takesMessage then
      ({ b with state := .ready }, [.status (.message successMessage), .publish .ready])
    else ({ b with gateBroken := true }, [])
  | some f =>
    let message := BridgeEffect.status (.message (failureMessage f))
    if !sink.takesMessage then ({ b with gateBroken := true }, [])
    else if !sink.takesRecord then ({ b with gateBroken := true }, [message])
    else
      let record := BridgeEffect.status (.record (.startFailure w.command f))
      let state := BridgeState.failed f.message
      ({ b with state }, [message, record, .publish state])

/-- The bridge without the watcher of a connection. -/
def unwatch (b : Bridge) (connection : Nat) : Bridge :=
  { b with watchers := b.watchers.filter fun w => w.connection != connection }

/-- The outcome of a watched start is told if the bridge still waits for it, and ignored
otherwise. -/
def settle (b : Bridge) (w : Watcher) (failure : Option ConnectionFailure)
    (sink : SinkReaction) : Bridge × List BridgeEffect :=
  if b.isCurrent w then b.announceStart w failure sink
  else
    (b, [logged .debug "ignoring start outcome of a deactivated session"
      [("command", .string w.command), ("ok", .bool failure.isNone)]])

/-- The start of a connection has ended. A start that broke off is never heard of again. -/
def startEnded (b : Bridge) (connection : Nat) (outcome : Outcome) (sink : SinkReaction) :
    Bridge × List BridgeEffect :=
  match b.watchers.find? fun w => w.connection == connection with
  | none => (b, [])
  | some w =>
    match outcome with
    | .ok => (b.unwatch connection).settle w none sink
    | .failed f => (b.unwatch connection).settle w (some f) sink
    | .panicked _ => (b.unwatch connection, [])

/-! ## Deactivation -/

/-- Stops the held server, if there is one. The new teardown is the last in the list. -/
def deactivate (b : Bridge) : Bridge × List BridgeEffect :=
  match b.session with
  | none =>
    ({ b with teardowns := b.teardowns ++ [.complete] },
      [logged .debug "deactivate called without an active connection" []])
  | some s =>
    ({ b with
        state := .idle
        session := none
        stops := b.stops ++ [⟨s.connection, s.launch.command, none⟩]
        teardowns := b.teardowns ++ [.waiting s.connection] },
      [logged .info "deactivating server bridge"
        [("command", .string s.launch.command), ("state", .string b.state.word)],
        .publish .idle, .stop s.connection])

/-- The stop of a connection has ended; the bridge lets go of the connection. -/
def stopEnded (b : Bridge) (connection : Nat) (outcome : Outcome) : Bridge × List BridgeEffect :=
  match b.stops.find? fun s => s.connection == connection && s.outcome.isNone with
  | none => (b, [])
  | some s =>
    let stops := b.stops.map fun t =>
      if t.connection == connection then { t with outcome := some outcome } else t
    let command := ("command", Json.string s.command)
    let logs := match outcome with
      | .ok => [logged .debug "server stopped" [command]]
      | .failed f =>
        [logged .warn "server stop reported a failure" [command, ("error", .string f.message)]]
      | .panicked _ => []
    ({ b with stops }, logs ++ [.release connection])

/-! ## Teardowns -/

/-- The result of a stop for whoever waits for it. -/
def stopResult : Outcome → Except BridgeError Unit
  | .ok => .ok ()
  | .failed f => .error (.stop f)
  | .panicked message => .error (.teardown ("task N panicked with message " ++ Text.quoted message))

/-- What polling a teardown gives. -/
inductive Polled where
  /-- There is no such teardown, or its holder let go of it. -/
  | nothing
  | pending
  | ready (result : Except BridgeError Unit)

/-- Polls a teardown; one that is complete stays so. -/
def poll (b : Bridge) (teardown : Nat) : Bridge × Polled :=
  match b.teardowns[teardown]? with
  | none => (b, .nothing)
  | some .dropped => (b, .nothing)
  | some .complete => (b, .ready (.ok ()))
  | some (.waiting connection) =>
    match b.stops.findSome? fun s => if s.connection == connection then s.outcome else none with
    | none => (b, .pending)
    | some outcome =>
      ({ b with teardowns := b.teardowns.set teardown .complete }, .ready (stopResult outcome))

/-- Whether a teardown has nothing to wait for. -/
def isComplete (b : Bridge) (teardown : Nat) : Bool := b.teardowns[teardown]? == some .complete

/-- Lets go of a teardown. -/
def dropTeardown (b : Bridge) (teardown : Nat) : Bridge :=
  { b with teardowns := b.teardowns.set teardown .dropped }

/-! ## Events -/

/-- How forwarding an event ended for its caller. -/
inductive Forwarded where
  | done (delivery : Delivery)
  | refused (error : BridgeError)
  /-- The attempt broke off, or was given up. -/
  | broken
deriving DecidableEq

/-- What becomes of the bridge and of an event that was handed over. -/
def handedOver (b : Bridge) (s : Session) (kept : EditorEvent) : NotifyOutcome → Bridge × Forwarded
  | .delivered => ({ b with session := some (s.track kept) }, .done .sent)
  | .failed f => (b, .refused (.forward f))
  | .lost => (b, .broken)

/-- Forwards an event to a ready server. `outcome` is what the connection makes of it, if it is
handed over. -/
def forward (b : Bridge) (event : EditorEvent) (outcome : NotifyOutcome) :
    Bridge × Forwarded × List BridgeEffect :=
  match b.state, b.session with
  | .ready, some s =>
    match s.narrow event with
    | .error delivery => (b, .done delivery, [])
    | .ok kept =>
      let (b', result) := b.handedOver s kept outcome
      (b', result, [.notify s.connection kept])
  | _, _ => (b, .done .notReady, [])

end Bridge
end LanguageBridge
