import LanguageBridge.Proofs.Bridge.Announcement

set_option autoImplicit false

/-! # Where a bridge stands

What a bridge holds can be told from its history alone. `Bridge.held` is the activation that was
not deactivated, with the outcome of its own start once one has arrived; the outcomes of other
starts do not count. `Bridge.Holds` says that a bridge holds it: session, state and the start that
is waited for are all functions of it, unless the user's side broke off on the outcome. Every step
keeps this up (`Holds.step`).
-/

namespace LanguageBridge

namespace Bridge

/-! ## The held activation -/

/-- An activation that is held, with the outcome of its start once one has arrived. -/
structure Activation where
  connection : Nat
  launch : Launch
  outcome : Option Outcome

/-- An activation hears how the start of a connection ended. It listens to its own start, and to
that once. -/
def Activation.hear (a : Activation) (connection : Nat) (outcome : Outcome) : Activation :=
  if a.connection = connection ∧ a.outcome = none then { a with outcome := some outcome } else a

/-- What is held after one more entry of a history, if `n` connections were created before. -/
def heldNext (n : Nat) (held : Option Activation) (entry : BridgeInput × BridgeReply) :
    Option Activation :=
  match activation? entry, entry.1 with
  | some (launch, _), _ => some ⟨n, launch, none⟩
  | none, .deactivate => none
  | none, .startEnded connection outcome _ => held.map fun a => a.hear connection outcome
  | none, _ => held

/-- What is held after a history that begins with `n` connections and `held`. -/
def heldFrom (n : Nat) (held : Option Activation) : History → Option Activation
  | [] => held
  | entry :: rest =>
    heldFrom (n + (activation? entry).toList.length) (heldNext n held entry) rest

/-- What a new bridge holds after a history. -/
def held (h : History) : Option Activation := heldFrom 0 none h

/-- The state that the outcome of a start leads to. -/
def stateAfter : Option Outcome → BridgeState
  | some .ok => .ready
  | some (.failed f) => .failed f.message
  | _ => .starting

/-- The state that an activation leads to. -/
def standing : Option Activation → BridgeState
  | none => .idle
  | some a => stateAfter a.outcome

theorem stateAfter_eq_ready_iff {outcome : Option Outcome} :
    stateAfter outcome = .ready ↔ outcome = some .ok := by
  cases outcome with
  | none => simp [stateAfter]
  | some outcome => cases outcome <;> simp [stateAfter]

theorem stateAfter_eq_failed_iff {outcome : Option Outcome} {reason : String} :
    stateAfter outcome = .failed reason ↔ ∃ f, outcome = some (.failed f) ∧ f.message = reason := by
  cases outcome with
  | none => simp [stateAfter]
  | some outcome => cases outcome <;> simp [stateAfter]

theorem standing_eq_ready_iff {held : Option Activation} :
    standing held = .ready ↔ ∃ a, held = some a ∧ a.outcome = some .ok := by
  cases held with
  | none => simp [standing]
  | some a => simp [standing, stateAfter_eq_ready_iff]

theorem standing_eq_failed_iff {held : Option Activation} {reason : String} :
    standing held = .failed reason ↔
      ∃ a f, held = some a ∧ a.outcome = some (.failed f) ∧ f.message = reason := by
  cases held with
  | none => simp [standing]
  | some a => simp [standing, stateAfter_eq_failed_iff]

/-! ## Holding -/

/-- A bridge holds an activation. Where the user's side broke off on the outcome, the bridge goes
on starting. -/
structure Holds (b : Bridge) (held : Option Activation) : Prop where
  sound : b.Sound
  session : b.session.map (fun s => (s.connection, s.launch))
    = held.map fun a => (a.connection, a.launch)
  state : b.state = standing held ∨
    b.gateBroken = true ∧ b.state = .starting ∧ held ≠ none
  awaited : b.awaited.map (fun w => (w.connection, w.command))
    = (held.filter fun a => a.outcome.isNone).map fun a => (a.connection, a.launch.command)

theorem Holds.idle : Holds idle none := ⟨Sound.idle, rfl, Or.inl rfl, rfl⟩

variable {b b' : Bridge} {held : Option Activation}

theorem Holds.session_none_iff (h : b.Holds held) : b.session = none ↔ held = none := by
  have hsession := h.session
  cases hs : b.session <;> cases hh : held <;> simp_all

/-- The session and the activation that a bridge holds are about the same connection. -/
theorem Holds.session_some (h : b.Holds held) {s : Session} (hs : b.session = some s) :
    ∃ a, held = some a ∧ a.connection = s.connection ∧ a.launch = s.launch := by
  have hsession := h.session
  rw [hs] at hsession
  obtain ⟨a, ha, heq⟩ := Option.map_eq_some_iff.mp hsession.symm
  obtain ⟨hconn, hlaunch⟩ := Prod.mk.inj heq
  exact ⟨a, ha, hconn, hlaunch⟩

theorem Holds.awaited_some (h : b.Holds held) {w : Watcher} (hw : b.awaited = some w) :
    ∃ a, held = some a ∧ a.outcome = none ∧ a.connection = w.connection ∧
      a.launch.command = w.command := by
  have hawaited := h.awaited
  rw [hw] at hawaited
  obtain ⟨a, ha, heq⟩ := Option.map_eq_some_iff.mp hawaited.symm
  obtain ⟨hheld, hnone⟩ := Option.filter_eq_some_iff.mp ha
  obtain ⟨hconn, hcommand⟩ := Prod.mk.inj heq
  exact ⟨a, hheld, Option.isNone_iff_eq_none.mp hnone, hconn, hcommand⟩

/-- The start of the activation that a ready bridge holds has succeeded. -/
theorem Holds.ready (h : b.Holds held) (hb : b.state = .ready) :
    ∃ a, held = some a ∧ a.outcome = some .ok := by
  rcases h.state with hstate | ⟨-, hstate, -⟩
  · exact standing_eq_ready_iff.mp (hstate.symm.trans hb)
  · rw [hb] at hstate
    cases hstate

/-- A step keeps what is held where it leaves alone all that this is read off. -/
theorem Holds.keep (h : b.Holds held) (hsound : b'.Sound)
    (hsession : b'.session.map (fun s => (s.connection, s.launch))
      = b.session.map fun s => (s.connection, s.launch))
    (hstate : b'.state = b.state) (hbroken : b'.gateBroken = b.gateBroken)
    (hawaited : b'.awaited = b.awaited) : b'.Holds held where
  sound := hsound
  session := hsession.trans h.session
  state := by
    rw [hstate, hbroken]
    exact h.state
  awaited := by
    rw [hawaited]
    exact h.awaited

/-! ## Steps -/

theorem Holds.engage (h : b.Holds held) (launch : Launch) (scope : Scope) (watch : GlobUnion) :
    (b.engage launch scope watch).Holds (some ⟨b.created, launch, none⟩) where
  sound := h.sound.engage launch scope watch
  session := rfl
  state := Or.inl rfl
  awaited := by
    rw [awaited_engage h.sound]
    rfl

theorem Holds.deactivate (h : b.Holds held) : b.deactivate.1.Holds none := by
  have hawaited := (told_deactivate h.sound).2
  have hsound := h.sound.deactivate
  refine ⟨hsound, ?_, ?_, ?_⟩
  · rw [deactivate_session]
    rfl
  · exact Or.inl (hsound.idle_iff.mpr b.deactivate_session)
  · rw [hawaited]
    rfl

/-- The outcome of the awaited start leads to a new state, unless the user's side breaks off. -/
theorem state_startEnded_awaited (h : b.Sound) {w : Watcher} (hw : b.awaited = some w)
    (outcome : Outcome) (sink : SinkReaction) :
    (b.startEnded w.connection outcome sink).1.state = stateAfter (some outcome) ∨
      (b.startEnded w.connection outcome sink).1.gateBroken = true ∧
        (b.startEnded w.connection outcome sink).1.state = .starting := by
  have hstate : b.state = .starting := (Bridge.awaited_some hw).1
  rcases (startEnded_awaited h hw outcome sink).1 with
    ⟨failure, rfl, hstep⟩ | ⟨⟨message, rfl⟩, hstep⟩
  · rw [hstep]
    cases failure with
    | none =>
        by_cases hm : sink.takesMessage = true
        · exact Or.inl (by simp [announceStart, hm, stateAfter])
        · exact Or.inr (by simp [announceStart, hm, unwatch, hstate])
    | some f =>
        by_cases hm : sink.takesMessage = true
        · by_cases hr : sink.takesRecord = true
          · exact Or.inl (by simp [announceStart, hm, hr, stateAfter])
          · exact Or.inr (by simp [announceStart, hm, hr, unwatch, hstate])
        · exact Or.inr (by simp [announceStart, hm, unwatch, hstate])
  · rw [hstep]
    exact Or.inl hstate

theorem Holds.startEnded (h : b.Holds held) (connection : Nat) (outcome : Outcome)
    (sink : SinkReaction) :
    (b.startEnded connection outcome sink).1.Holds
      (held.map fun a => a.hear connection outcome) := by
  have hsound := h.sound.startEnded connection outcome sink
  rcases startEnded_cases h.sound connection outcome sink with
    ⟨w, hw, rfl⟩ | ⟨hother, ⟨watchers, heq⟩, -, hawaited⟩
  case inl =>
    obtain ⟨a, rfl, hnone, hconn, hcommand⟩ := h.awaited_some hw
    have hear : a.hear w.connection outcome = { a with outcome := some outcome } :=
      if_pos ⟨hconn, hnone⟩
    obtain ⟨state, broken, watchers, heq⟩ := b.startEnded_fst w.connection outcome sink
    refine ⟨hsound, ?_, ?_, ?_⟩
    · rw [heq, Option.map_some, hear]
      exact h.session
    · rw [Option.map_some, hear]
      rcases state_startEnded_awaited h.sound hw outcome sink with hstate | ⟨hbroken, hstate⟩
      · exact Or.inl hstate
      · exact Or.inr ⟨hbroken, hstate, nofun⟩
    · rw [(startEnded_awaited h.sound hw outcome sink).2, Option.map_some, hear]
      rfl
  case inr =>
    -- The held activation waits for nothing, or for the start of another connection.
    have hdeaf : held.map (fun a => a.hear connection outcome) = held := by
      cases held with
      | none => rfl
      | some a =>
          refine congrArg some (if_neg ?_)
          rintro ⟨hconn, hnone⟩
          have ha := h.awaited
          simp only [Option.filter_some, hnone, Option.isNone_none, if_true, Option.map_some] at ha
          obtain ⟨w, hw, heq⟩ := Option.map_eq_some_iff.mp ha
          exact hother w hw ((Prod.mk.inj heq).1.trans hconn)
    rw [hdeaf]
    refine h.keep hsound ?_ ?_ ?_ hawaited
    all_goals rw [heq]

theorem Holds.forward (h : b.Holds held) (event : EditorEvent) (outcome : NotifyOutcome) :
    (b.forward event outcome).1.Holds held := by
  have hsound := h.sound.forward event outcome
  rcases b.forward_fst event outcome with heq | ⟨s, kept, hs, heq⟩
  · rw [heq]
    exact h
  · obtain ⟨documents, htrack⟩ := track_eq s kept
    rw [heq] at hsound ⊢
    refine h.keep hsound ?_ rfl rfl rfl
    rw [hs, htrack]
    rfl

theorem Holds.stopEnded (h : b.Holds held) (connection : Nat) (outcome : Outcome) :
    (b.stopEnded connection outcome).1.Holds held := by
  obtain ⟨stops, heq⟩ := b.stopEnded_fst connection outcome
  have hsound := h.sound.stopEnded connection outcome
  rw [heq] at hsound ⊢
  exact h.keep hsound rfl rfl rfl rfl

theorem Holds.poll (h : b.Holds held) (teardown : Nat) : (b.poll teardown).1.Holds held := by
  obtain ⟨teardowns, heq⟩ := b.poll_fst teardown
  have hsound := h.sound.poll teardown
  rw [heq] at hsound ⊢
  exact h.keep hsound rfl rfl rfl rfl

theorem Holds.step (h : b.Holds held) (input : BridgeInput) :
    (b.step input).1.Holds (heldNext b.created held (input, (b.step input).2.1)) := by
  cases hact : activation? (input, (b.step input).2.1) with
  | some taken =>
      obtain ⟨launch, scope⟩ := taken
      obtain ⟨-, watch, -, hb, -⟩ := step_of_activation hact
      rw [heldNext, hact, hb]
      exact h.engage launch scope watch
  | none =>
      rw [heldNext, hact]
      cases input with
      | activate launch scope announced =>
          rw [(step_of_no_activation hact).1]
          exact h
      | deactivate => exact h.deactivate
      | forward event outcome => exact h.forward event outcome
      | startEnded connection outcome sink => exact h.startEnded connection outcome sink
      | stopEnded connection outcome => exact h.stopEnded connection outcome
      | poll teardown => exact h.poll teardown
      | dropTeardown teardown =>
          exact h.keep (h.sound.step (.dropTeardown teardown)) rfl rfl rfl rfl

theorem Holds.run (h : b.Holds held) (inputs : List BridgeInput) :
    (b.run inputs).1.Holds (heldFrom b.created held (b.history inputs)) := by
  induction inputs generalizing b held with
  | nil => exact h
  | cons input rest ih =>
      rw [run_cons, history_cons, heldFrom, ← created_step]
      exact ih (h.step input)

theorem Holds.after (inputs : List BridgeInput) :
    (after inputs).Holds (Bridge.held (Bridge.idle.history inputs)) := Holds.idle.run inputs

end Bridge
end LanguageBridge
