import LanguageBridge.Proofs.Bridge.Calls
import LanguageBridge.Proofs.Bridge.Publication

set_option autoImplicit false

/-! # What fails changes nothing

An activation that is refused, or whose announcement the user's side does not take, leaves the
bridge and everything it did so far alone (`activate_result`, `activate_failed`), and so does an
event that is not delivered (`forward_failed`).

Where the user's side breaks off on the outcome of a start, the bridge is `Stuck` with the session:
it goes on starting, and nothing that happens to it before a deactivation publishes, tells or calls
anything (`Stuck.step`). The deactivation then stops the connection as it stops any other, and that
is its only stop (`stopped_once`).
-/

namespace LanguageBridge

/-- Whether the user's side breaks off while it is told the outcome of a start. -/
def SinkReaction.breaksOn (sink : SinkReaction) : Outcome → Bool
  | .ok => !sink.takesMessage
  | .failed _ => !(sink.takesMessage && sink.takesRecord)
  | .panicked _ => false

namespace Bridge

variable {b : Bridge} {s : Session}

/-! ## Activations that fail -/

/-- An activation is refused because a session is held, or because the globs do not compile, or
it breaks off on the announcement, in this order. -/
theorem activate_result (b : Bridge) (launch : Launch) (scope : Scope) (announced : Bool) :
    let result := (b.activate launch scope announced).2.1
    (∀ state, result = .refused (.alreadyActive state) ↔ b.session ≠ none ∧ state = b.state) ∧
      (∀ refusal, result = .refused (.invalidGlob refusal) ↔
        b.session = none ∧ scope.watcher = .error refusal) ∧
      (result = .broken ↔
        b.session = none ∧ (∃ watch, scope.watcher = .ok watch) ∧ announced = false) := by
  unfold activate
  cases hs : b.session with
  | some held => simp [eq_comm]
  | none =>
      cases hw : scope.watcher with
      | error refusal => simp
      | ok watch => cases announced <;> simp

/-- An activation that fails leaves the run as it was. -/
theorem activate_failed {inputs : List BridgeInput} {launch : Launch} {scope : Scope}
    {announced : Bool} (h : ((after inputs).activate launch scope announced).2.1 ≠ .ok) :
    after (inputs ++ [.activate launch scope announced]) = after inputs ∧
      effects (inputs ++ [.activate launch scope announced]) = effects inputs := by
  have hstep : ((after inputs).activate launch scope announced).1 = after inputs ∧
      ((after inputs).activate launch scope announced).2.2 = [] := by
    rcases (after inputs).activate_cases launch scope announced with
      ⟨result, -, heq⟩ | ⟨-, -, watch, -, heq⟩
    · exact ⟨congrArg Prod.fst heq, congrArg (·.2.2) heq⟩
    · rw [heq] at h
      exact absurd rfl h
  constructor
  · rw [after_append]
    exact hstep.1
  · calc effects (inputs ++ [.activate launch scope announced])
        = effects inputs
            ++ (((after inputs).activate launch scope announced).2.2 ++ []) := effects_append ..
      _ = effects inputs := by rw [hstep.2, List.append_nil, List.append_nil]

/-! ## Events that are not delivered -/

/-- An event that was not sent, or was given up on the way, leaves the bridge as it was. -/
theorem forward_failed {event : EditorEvent} {outcome : NotifyOutcome}
    (h : (b.forward event outcome).2.1 ≠ .done .sent ∨ outcome = .lost) :
    (b.forward event outcome).1 = b := by
  rcases b.forward_cases event outcome with ⟨_, -, heq⟩ | ⟨s, kept, -, -, -, heq⟩
  · rw [heq]
  · rw [heq] at h ⊢
    cases outcome with
    | delivered =>
        rcases h with hsent | hlost
        · exact absurd rfl hsent
        · cases hlost
    | failed f => rfl
    | lost => rfl

/-! ## A user who breaks off on an outcome -/

/-- A bridge goes on starting a session, though nobody watches the start any more. -/
structure Stuck (b : Bridge) (s : Session) : Prop where
  sound : b.Sound
  starting : b.state = .starting
  held : b.session = some s
  unwatched : b.awaited = none

/-- A user who breaks off keeps the bridge from publishing the outcome. -/
theorem announceStart_broken {w : Watcher} {failure : Option ConnectionFailure}
    {sink : SinkReaction} (h : sink.breaksOn (failure.elim .ok .failed) = true) :
    (b.announceStart w failure sink).1 = { b with gateBroken := true } ∧
      published (b.announceStart w failure sink).2 = [] := by
  cases failure with
  | none =>
      have hmessage : sink.takesMessage = false := by simpa [SinkReaction.breaksOn] using h
      simp [announceStart, hmessage, published]
  | some f =>
      cases hmessage : sink.takesMessage with
      | false => simp [announceStart, hmessage, published]
      | true =>
          have hrecord : sink.takesRecord = false := by
            simpa [SinkReaction.breaksOn, hmessage] using h
          simp [announceStart, hmessage, hrecord, published]

/-- A user who breaks off on the awaited outcome leaves the bridge stuck, and no outcome is
published. -/
theorem stuck_startEnded (h : b.Sound) (hs : b.session = some s) {w : Watcher}
    (hw : b.awaited = some w) {outcome : Outcome} {sink : SinkReaction}
    (hbreaks : sink.breaksOn outcome = true) :
    (b.startEnded w.connection outcome sink).1.Stuck s ∧
      published (b.startEnded w.connection outcome sink).2 = [] := by
  have hsound := h.startEnded w.connection outcome sink
  have hstarting := (awaited_some hw).1
  obtain ⟨hcases, hunwatched⟩ := startEnded_awaited h hw outcome sink
  rcases hcases with ⟨failure, rfl, hstep⟩ | ⟨⟨message, rfl⟩, -⟩
  · obtain ⟨hsame, hsilent⟩ := announceStart_broken (b := b.unwatch w.connection) (w := w) hbreaks
    rw [hstep] at hsound hunwatched ⊢
    rw [hsame] at hsound hunwatched ⊢
    exact ⟨⟨hsound, hstarting, hs, hunwatched⟩, hsilent⟩
  · cases hbreaks

/-- Effects of which observers, the user and the connections notice nothing. -/
structure Unnoticed (effects : List BridgeEffect) : Prop where
  published : published effects = []
  told : told effects = []
  calls : calls effects = []

theorem Unnoticed.nil : Unnoticed [] := ⟨rfl, rfl, rfl⟩

theorem Unnoticed.append {effects others : List BridgeEffect} (h : Unnoticed effects)
    (h' : Unnoticed others) : Unnoticed (effects ++ others) where
  published := by rw [published_append, h.published, h'.published, List.append_nil]
  told := by rw [told_append, h.told, h'.told, List.append_nil]
  calls := by rw [Bridge.calls, List.filter_append, ← Bridge.calls, ← Bridge.calls, h.calls,
    h'.calls, List.append_nil]

/-- The logging is noticed by nobody. -/
theorem Quiet.unnoticed {effects : List BridgeEffect} (h : Quiet effects) : Unnoticed effects where
  published := h.published
  told := h.told
  calls := by
    rw [Bridge.calls, List.filter_eq_nil_iff]
    intro e he
    obtain ⟨event, rfl⟩ := h e he
    exact Bool.false_ne_true

/-- The end of a stop is noticed by nobody. -/
theorem unnoticed_stopEnded (b : Bridge) (connection : Nat) (outcome : Outcome) :
    Unnoticed (b.stopEnded connection outcome).2 where
  published := by
    unfold stopEnded
    split
    · rfl
    · cases outcome <;> rfl
  told := (b.told_stopEnded connection outcome).1
  calls := b.calls_stopEnded connection outcome

/-- A stuck bridge stays stuck until it is deactivated, and nobody notices anything. -/
theorem Stuck.step (h : b.Stuck s) {input : BridgeInput} (hinput : input ≠ .deactivate) :
    (b.step input).1.Stuck s ∧ Unnoticed (b.step input).2.2 := by
  have hsound := h.sound.step input
  cases input with
  | deactivate => exact absurd rfl hinput
  | activate launch scope announced =>
      -- A session is held, so the activation is refused.
      have hact : activation? (.activate launch scope announced,
          (b.step (.activate launch scope announced)).2.1) = none := by
        cases hact : activation? (.activate launch scope announced,
            (b.step (.activate launch scope announced)).2.1) with
        | none => rfl
        | some taken =>
            have hnone := (step_of_activation hact).1
            rw [h.held] at hnone
            cases hnone
      obtain ⟨hb, he⟩ := step_of_no_activation hact
      rw [hb, he]
      exact ⟨h, .nil⟩
  | forward event outcome =>
      have hrefused : b.forward event outcome = (b, .done .notReady, []) := by
        rw [forward, h.starting]
      show (b.forward event outcome).1.Stuck s ∧ Unnoticed (b.forward event outcome).2.2
      rw [hrefused]
      exact ⟨h, .nil⟩
  | startEnded connection outcome sink =>
      -- Nothing is awaited, so the outcome is that of an older start.
      have hother : ∀ w, b.awaited = some w → w.connection ≠ connection := by
        intro w hw
        rw [h.unwatched] at hw
        cases hw
      obtain ⟨⟨watchers, heq⟩, hquiet, hkept⟩ :=
        startEnded_other h.sound connection hother outcome sink
      have hunwatched := hkept.trans h.unwatched
      rw [Bridge.step] at hsound ⊢
      dsimp only at hsound ⊢
      rw [heq] at hsound hunwatched ⊢
      exact ⟨⟨hsound, h.starting, h.held, hunwatched⟩, hquiet.unnoticed⟩
  | stopEnded connection outcome =>
      obtain ⟨stops, heq⟩ := b.stopEnded_fst connection outcome
      refine ⟨?_, b.unnoticed_stopEnded connection outcome⟩
      show (b.stopEnded connection outcome).1.Stuck s
      rw [heq]
      exact ⟨⟨h.sound.epoch_eq, h.sound.idle_iff, h.sound.newest, h.sound.watchers⟩,
        h.starting, h.held, h.unwatched⟩
  | poll teardown =>
      obtain ⟨teardowns, heq⟩ := b.poll_fst teardown
      refine ⟨?_, .nil⟩
      show (b.poll teardown).1.Stuck s
      rw [heq]
      exact ⟨⟨h.sound.epoch_eq, h.sound.idle_iff, h.sound.newest, h.sound.watchers⟩,
        h.starting, h.held, h.unwatched⟩
  | dropTeardown teardown => exact ⟨⟨hsound, h.starting, h.held, h.unwatched⟩, .nil⟩

theorem Stuck.run (h : b.Stuck s) {inputs : List BridgeInput} (hinputs : .deactivate ∉ inputs) :
    (b.run inputs).1.Stuck s ∧ Unnoticed (b.does inputs) := by
  induction inputs generalizing b with
  | nil => exact ⟨h, .nil⟩
  | cons input rest ih =>
      have hinput : input ≠ .deactivate := fun heq => hinputs (heq ▸ List.mem_cons_self)
      obtain ⟨hstuck, hstep⟩ := h.step hinput
      obtain ⟨hlast, hrest⟩ := ih hstuck fun hmem => hinputs (List.mem_cons_of_mem _ hmem)
      rw [run_cons, does_cons]
      exact ⟨hlast, hstep.append hrest⟩

/-! ## The stop of a session -/

/-- Deactivating a session publishes the idle state and stops the connection. -/
theorem deactivate_held (hs : b.session = some s) :
    b.deactivate.1.state = .idle ∧ published b.deactivate.2 = [.idle] ∧
      calls b.deactivate.2 = [.stop s.connection] := by
  rw [deactivate, hs]
  exact ⟨rfl, rfl, rfl⟩

/-- In every run in which a session is deactivated, its connection is stopped once, and after that
it is not called any more. -/
theorem stopped_once {inputs : List BridgeInput} (hs : (after inputs).session = some s)
    (rest : List BridgeInput) :
    ∃ (launch : Launch) (scope : Scope) (events : List EditorEvent),
      callsTo s.connection (effects (inputs ++ .deactivate :: rest))
        = .create s.connection launch scope :: .start s.connection
            :: events.map (.notify s.connection) ++ [.stop s.connection] := by
  have hleft : after (inputs ++ [.deactivate]) = (after inputs).deactivate.1 :=
    after_append inputs [.deactivate]
  have hattended := Attended.after (inputs ++ [.deactivate])
  rw [hleft] at hattended
  -- The connection was created before the deactivation, and by then all connections are stopped.
  have hborn : s.connection < (after inputs).deactivate.1.created := by
    have hnew := (Sound.after inputs).newest s hs
    rw [deactivate, hs]
    show s.connection < (after inputs).created
    omega
  have hnone : held (idle.history (inputs ++ [.deactivate])) = none :=
    hattended.holds.session_none_iff.mp (after inputs).deactivate_session
  have hended : s.connection ∈ deactivated (idle.history (inputs ++ [.deactivate])) := by
    rw [hattended.ended_eq, hnone]
    exact List.mem_range.mpr hborn
  have hcount : s.connection < (activations (idle.history (inputs ++ [.deactivate]))).length := by
    rw [hattended.count]
    exact hborn
  obtain ⟨⟨launch, scope⟩, hact⟩ :
      ∃ taken, (activations (idle.history (inputs ++ [.deactivate])))[s.connection]? = some taken :=
    ⟨_, List.getElem?_eq_getElem hcount⟩
  have hparts : effects (inputs ++ .deactivate :: rest)
      = effects (inputs ++ [.deactivate]) ++ (after inputs).deactivate.1.does rest := by
    calc effects (inputs ++ .deactivate :: rest)
        = effects ((inputs ++ [.deactivate]) ++ rest) := by rw [List.append_assoc]; rfl
      _ = effects (inputs ++ [.deactivate]) ++ (after inputs).deactivate.1.does rest := by
          rw [effects_append, hleft]
  obtain ⟨events, hrow⟩ := (hattended.run rest).rows s.connection
  refine ⟨launch, scope, events, ?_⟩
  rw [hparts, hrow, row, List.getElem?_append_left hcount, hact]
  simp only [if_pos (List.mem_append_left _ hended)]

/-! ## Failures at all points -/

/-- The watcher that a bridge waits for watches the session that is held. -/
theorem awaited_session (h : b.Sound) {w : Watcher} (hw : b.awaited = some w) :
    ∃ s, b.session = some s ∧ s.connection = w.connection := by
  obtain ⟨hstarting, hnew, -⟩ := awaited_some hw
  cases hs : b.session with
  | none =>
      have hidle := h.idle_iff.mpr hs
      rw [hstarting] at hidle
      cases hidle
  | some s =>
      have := h.newest s hs
      exact ⟨s, rfl, by omega⟩

/-- **What fails changes nothing.** After every run, and for all settings and scopes:

An activation is refused as already active exactly if a session is held, and then it names the
state of the bridge; otherwise it is refused for a glob exactly if the globs do not compile; and
otherwise it breaks off exactly if the user's side does not take the announcement. An activation
that does not succeed leaves the bridge as it was and everything that it did.

An event that is not sent, for whatever reason, and one that is given up on the way leave the
bridge as it was.

Where the user's side breaks off on the outcome of the start that the bridge waits for, the session
is held on, as it was, and neither then nor later is an outcome published. The next deactivation
publishes the idle state and stops the connection, and this is the only stop of the connection
however the run goes on. -/
theorem failures_atomic (inputs : List BridgeInput) :
    let b := after inputs
    (∀ (α : Type) [SettingsSource α] (settings : α) (env : Environment) (scope : Scope)
        (announced : Bool),
      let launch := Launch.ofSettings settings env
      let result := (b.activate launch scope announced).2.1
      (∀ state, result = .refused (.alreadyActive state) ↔ b.session ≠ none ∧ state = b.state) ∧
        (∀ refusal, result = .refused (.invalidGlob refusal) ↔
          b.session = none ∧ scope.watcher = .error refusal) ∧
        (result = .broken ↔
          b.session = none ∧ (∃ watch, scope.watcher = .ok watch) ∧ announced = false) ∧
        (result ≠ .ok →
          after (inputs ++ [.activate launch scope announced]) = b ∧
            effects (inputs ++ [.activate launch scope announced]) = effects inputs)) ∧
    (∀ event outcome, (b.forward event outcome).2.1 ≠ .done .sent ∨ outcome = .lost →
      after (inputs ++ [.forward event outcome]) = b) ∧
    ∀ w outcome sink, b.awaited = some w → sink.breaksOn outcome = true →
      ∃ s, b.session = some s ∧ s.connection = w.connection ∧
        ∀ later, .deactivate ∉ later →
          let stuck := inputs ++ .startEnded w.connection outcome sink :: later
          (after stuck).session = some s ∧ (after stuck).state = .starting ∧
            published (effects stuck) = published (effects inputs) ∧
            (after (stuck ++ [.deactivate])).session = none ∧
            (after (stuck ++ [.deactivate])).state = .idle ∧
            published (effects (stuck ++ [.deactivate])) = published (effects inputs) ++ [.idle] ∧
            ∀ rest, ∃ (launch : Launch) (scope : Scope) (events : List EditorEvent),
              callsTo s.connection (effects (stuck ++ .deactivate :: rest))
                = .create s.connection launch scope :: .start s.connection
                    :: events.map (.notify s.connection) ++ [.stop s.connection] := by
  intro b
  have hsound : b.Sound := Sound.after inputs
  refine ⟨?_, ?_, ?_⟩
  · intro α _ settings env scope announced launch result
    obtain ⟨hactive, hglob, hbroken⟩ := b.activate_result launch scope announced
    exact ⟨hactive, hglob, hbroken, activate_failed⟩
  · intro event outcome hfailed
    rw [after_append]
    exact forward_failed hfailed
  · intro w outcome sink hw hbreaks
    obtain ⟨s, hs, hconn⟩ := awaited_session hsound hw
    refine ⟨s, hs, hconn, ?_⟩
    intro later hlater stuck
    obtain ⟨hbroken, hsilent⟩ := stuck_startEnded hsound hs hw hbreaks
    obtain ⟨hstuck, hunnoticed⟩ := hbroken.run hlater
    have hafter : after stuck = ((b.startEnded w.connection outcome sink).1.run later).1 :=
      after_append inputs _
    have hpublished : published (effects stuck) = published (effects inputs) := by
      calc published (effects stuck)
          = published (effects inputs ++ ((b.startEnded w.connection outcome sink).2
              ++ (b.startEnded w.connection outcome sink).1.does later)) := by
            rw [effects_append]
            rfl
        _ = published (effects inputs) := by
            rw [published_append, published_append, hsilent, hunnoticed.published,
              List.append_nil, List.append_nil]
    rw [← hafter] at hstuck
    obtain ⟨hidle, hpublishes, -⟩ := deactivate_held hstuck.held
    have hleft : after (stuck ++ [.deactivate]) = (after stuck).deactivate.1 :=
      after_append stuck [.deactivate]
    refine ⟨hstuck.held, hstuck.starting, hpublished, ?_, ?_, ?_, stopped_once hstuck.held⟩
    · rw [hleft]
      exact (after stuck).deactivate_session
    · rw [hleft]
      exact hidle
    · calc published (effects (stuck ++ [.deactivate]))
          = published (effects stuck ++ ((after stuck).deactivate.2 ++ [])) := by
            rw [effects_append]
            rfl
        _ = published (effects inputs) ++ [.idle] := by
            rw [published_append, hpublished, List.append_nil, hpublishes]

/-- A run in which a server was announced and is starting. -/
def underWay : List BridgeInput := [.activate ⟨"ti-lsp", [], []⟩ ⟨[], []⟩ true]

/-- The user takes the message about a failed start and breaks off on the record: the bridge goes
on starting, and the deactivation takes it back to idle. -/
theorem broken_on_record :
    SinkReaction.breaksOn ⟨true, false⟩ (.failed (.launch "gone")) = true ∧
      published (effects (underWay ++
        [.startEnded 0 (.failed (.launch "gone")) ⟨true, false⟩, .deactivate]))
        = [.starting, .idle] := by
  have hw : (after underWay).awaited = some ⟨0, 1, "ti-lsp"⟩ := rfl
  obtain ⟨s, -, -, hlater⟩ := (failures_atomic underWay).2.2 ⟨0, 1, "ti-lsp"⟩
    (.failed (.launch "gone")) ⟨true, false⟩ hw rfl
  exact ⟨rfl, (hlater [] nofun).2.2.2.2.2.1⟩

end Bridge
end LanguageBridge
