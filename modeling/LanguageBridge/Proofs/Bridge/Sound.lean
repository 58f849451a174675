import LanguageBridge.Proofs.Bridge.History

set_option autoImplicit false

/-! # What is true of a bridge at all times

`Bridge.Sound` ties the separately kept parts of a bridge together. A server is held exactly when
the state is not idle, and it is the newest connection. The epoch counts the connections, so a
watcher belongs to the epoch in which its connection was created, and it is current exactly when
its connection is the newest one and the bridge is starting (`Sound.isCurrent_iff`).

Every step keeps a bridge sound (`Sound.step`), and so every run does (`Sound.run`).
-/

namespace LanguageBridge.Bridge

/-- The parts of a bridge fit together. -/
structure Sound (b : Bridge) : Prop where
  epoch_eq : b.epoch = b.created
  idle_iff : b.state = .idle ↔ b.session = none
  newest : ∀ s, b.session = some s → s.connection + 1 = b.created
  watchers : ∀ w ∈ b.watchers, w.epoch = w.connection + 1 ∧ w.connection < b.created

theorem Sound.idle : Sound idle where
  epoch_eq := rfl
  idle_iff := ⟨fun _ => rfl, fun _ => rfl⟩
  newest := by
    intro s hs
    cases hs
  watchers := by
    intro w hw
    cases hw

/-- A watcher is current if it watches the newest connection of a bridge that is starting. -/
theorem Sound.isCurrent_iff {b : Bridge} (h : b.Sound) {w : Watcher} (hw : w ∈ b.watchers) :
    b.isCurrent w = true ↔ b.state = .starting ∧ w.connection + 1 = b.created := by
  have hepoch := (h.watchers w hw).1
  rw [isCurrent, Bool.and_eq_true, beq_iff_eq, beq_iff_eq, h.epoch_eq, hepoch]
  constructor
  · rintro ⟨hnew, hstate⟩
    exact ⟨hstate, hnew.symm⟩
  · rintro ⟨hstate, hnew⟩
    exact ⟨hnew.symm, hstate⟩

/-! ## Activation -/

/-- An activation that fails leaves the bridge as it was and does nothing. -/
theorem activate_cases (b : Bridge) (launch : Launch) (scope : Scope) (announced : Bool) :
    (∃ result, result ≠ .ok ∧ b.activate launch scope announced = (b, result, [])) ∨
      (b.session = none ∧ announced = true ∧ ∃ watch,
        scope.watcher = .ok watch ∧
        b.activate launch scope announced
          = (b.engage launch scope watch, .ok, b.engaging launch scope)) := by
  unfold activate
  cases hs : b.session with
  | some s => exact Or.inl ⟨_, by simp, rfl⟩
  | none =>
      cases hw : scope.watcher with
      | error refusal => exact Or.inl ⟨_, by simp, rfl⟩
      | ok watch =>
          cases announced with
          | false => exact Or.inl ⟨.broken, by simp, rfl⟩
          | true => exact Or.inr ⟨rfl, rfl, watch, rfl, rfl⟩

/-- An activation that succeeds takes up a session, and none was held before. -/
theorem step_of_activation {b : Bridge} {input : BridgeInput} {launch : Launch} {scope : Scope}
    (h : activation? (input, (b.step input).2.1) = some (launch, scope)) :
    b.session = none ∧ ∃ watch, scope.watcher = .ok watch ∧
      (b.step input).1 = b.engage launch scope watch ∧
      (b.step input).2.2 = b.engaging launch scope := by
  cases input with
  | activate launch' scope' announced =>
      rcases b.activate_cases launch' scope' announced with
        ⟨result, hresult, heq⟩ | ⟨hnone, -, watch, hwatch, heq⟩
      · simp only [step, heq] at h
        cases result with
        | ok => exact absurd rfl hresult
        | refused error => cases h
        | broken => cases h
      · simp only [step, heq] at h ⊢
        cases h
        exact ⟨hnone, watch, hwatch, rfl, rfl⟩
  | _ => cases h

/-- An activation that does not succeed changes nothing and does nothing. -/
theorem step_of_no_activation {b : Bridge} {launch : Launch} {scope : Scope} {announced : Bool}
    (h : activation? (.activate launch scope announced,
      (b.step (.activate launch scope announced)).2.1) = none) :
    (b.step (.activate launch scope announced)).1 = b ∧
      (b.step (.activate launch scope announced)).2.2 = [] := by
  rcases b.activate_cases launch scope announced with
    ⟨result, -, heq⟩ | ⟨-, -, watch, -, heq⟩
  · exact ⟨congrArg Prod.fst heq, congrArg (·.2.2) heq⟩
  · simp only [step, heq] at h
    cases h

theorem Sound.engage {b : Bridge} (h : b.Sound) (launch : Launch) (scope : Scope)
    (watch : GlobUnion) : (b.engage launch scope watch).Sound where
  epoch_eq := by
    show b.epoch + 1 = b.created + 1
    rw [h.epoch_eq]
  idle_iff := by simp [Bridge.engage]
  newest := by
    intro s hs
    cases hs
    rfl
  watchers := by
    intro w hw
    rcases List.mem_append.mp hw with hw | hw
    · have hold := h.watchers w hw
      exact ⟨hold.1, Nat.lt_succ_of_lt hold.2⟩
    · rw [List.mem_singleton] at hw
      subst hw
      exact ⟨by rw [h.epoch_eq], Nat.lt_succ_self _⟩

/-! ## The end of a start -/

/-- Announcing an outcome moves the state, and it can break the gate; nothing else changes. -/
theorem announceStart_fst (b : Bridge) (w : Watcher) (failure : Option ConnectionFailure)
    (sink : SinkReaction) :
    ∃ state broken, (state = .idle → b.state = .idle) ∧
      (b.announceStart w failure sink).1 = { b with state, gateBroken := broken } := by
  cases failure with
  | none =>
      by_cases hm : sink.takesMessage = true
      · exact ⟨.ready, b.gateBroken, nofun, by simp [announceStart, hm]⟩
      · exact ⟨b.state, true, id, by simp [announceStart, hm]⟩
  | some f =>
      by_cases hm : sink.takesMessage = true
      · by_cases hr : sink.takesRecord = true
        · exact ⟨.failed f.message, b.gateBroken, nofun, by simp [announceStart, hm, hr]⟩
        · exact ⟨b.state, true, id, by simp [announceStart, hm, hr]⟩
      · exact ⟨b.state, true, id, by simp [announceStart, hm]⟩

theorem Sound.unwatch {b : Bridge} (h : b.Sound) (connection : Nat) :
    (b.unwatch connection).Sound where
  epoch_eq := h.epoch_eq
  idle_iff := h.idle_iff
  newest := h.newest
  watchers := fun w hw => h.watchers w (List.mem_filter.mp hw).1

theorem Sound.settle {b : Bridge} (h : b.Sound) (w : Watcher)
    (failure : Option ConnectionFailure) (sink : SinkReaction) :
    (b.settle w failure sink).1.Sound := by
  unfold Bridge.settle
  split
  case isFalse => exact h
  case isTrue hcurrent =>
    obtain ⟨state, broken, hstate, heq⟩ := b.announceStart_fst w failure sink
    -- A current watcher shows that the bridge is starting, so a session is held before and after.
    have hstarting : b.state = .starting := by
      rw [isCurrent, Bool.and_eq_true] at hcurrent
      exact beq_iff_eq.mp hcurrent.2
    have hsession : b.session ≠ none := by
      intro hnone
      have hidle := h.idle_iff.mpr hnone
      rw [hstarting] at hidle
      cases hidle
    have hnotIdle : state ≠ .idle := by
      intro hidle
      have := hstate hidle
      rw [hstarting] at this
      cases this
    rw [heq]
    exact ⟨h.epoch_eq, ⟨fun hidle => absurd hidle hnotIdle, fun hnone => absurd hnone hsession⟩,
      h.newest, h.watchers⟩

theorem Sound.startEnded {b : Bridge} (h : b.Sound) (connection : Nat) (outcome : Outcome)
    (sink : SinkReaction) : (b.startEnded connection outcome sink).1.Sound := by
  unfold Bridge.startEnded
  split
  · exact h
  · cases outcome with
    | ok => exact (h.unwatch connection).settle _ none sink
    | failed f => exact (h.unwatch connection).settle _ (some f) sink
    | panicked message => exact h.unwatch connection

/-- The end of a start changes neither the session nor the number of connections. -/
theorem startEnded_fst (b : Bridge) (connection : Nat) (outcome : Outcome) (sink : SinkReaction) :
    ∃ state broken watchers, (b.startEnded connection outcome sink).1
      = { b with state, gateBroken := broken, watchers } := by
  have hsettle : ∀ (w : Watcher) (failure : Option ConnectionFailure),
      ∃ state broken watchers, ((b.unwatch connection).settle w failure sink).1
        = { b with state, gateBroken := broken, watchers } := by
    intro w failure
    unfold Bridge.settle
    split
    · obtain ⟨state, broken, -, heq⟩ := (b.unwatch connection).announceStart_fst w failure sink
      exact ⟨state, broken, _, heq⟩
    · exact ⟨_, _, _, rfl⟩
  unfold Bridge.startEnded
  split
  · exact ⟨_, _, _, rfl⟩
  · cases outcome with
    | ok => exact hsettle _ none
    | failed f => exact hsettle _ (some f)
    | panicked message => exact ⟨_, _, _, rfl⟩

/-! ## The other steps -/

/-- No server is held after a deactivation. -/
theorem deactivate_session (b : Bridge) : b.deactivate.1.session = none := by
  unfold Bridge.deactivate
  split
  case h_1 hnone => exact hnone
  case h_2 => rfl

theorem Sound.deactivate {b : Bridge} (h : b.Sound) : b.deactivate.1.Sound := by
  unfold Bridge.deactivate
  split
  · exact ⟨h.epoch_eq, h.idle_iff, h.newest, h.watchers⟩
  · exact ⟨h.epoch_eq, by simp, by simp, h.watchers⟩

/-- An event that a session took leaves its connection, its launch and its scope. -/
theorem track_eq (s : Session) (event : EditorEvent) :
    ∃ documents, s.track event = { s with openDocuments := documents } := by
  cases event <;> exact ⟨_, rfl⟩

/-- A session never refuses an event as sent. -/
theorem narrow_error {s : Session} {event : EditorEvent} {delivery : Delivery}
    (h : s.narrow event = .error delivery) : delivery ≠ .sent := by
  unfold Session.narrow at h
  split at h
  · split at h
    · cases h
      exact nofun
    · cases h
  · split at h
    · cases h
      exact nofun
    · split at h
      · cases h
        exact nofun
      · cases h
  · split at h
    · split at h
      · cases h
      · cases h
        exact nofun
    · cases h
      exact nofun

/-- An event is handed over by a ready bridge, narrowed by the session; otherwise nothing
happens. -/
theorem forward_cases (b : Bridge) (event : EditorEvent) (outcome : NotifyOutcome) :
    (∃ delivery, delivery ≠ .sent ∧ b.forward event outcome = (b, .done delivery, [])) ∨
      ∃ s kept, b.state = .ready ∧ b.session = some s ∧ s.narrow event = .ok kept ∧
        b.forward event outcome = ((b.handedOver s kept outcome).1,
          (b.handedOver s kept outcome).2, [.notify s.connection kept]) := by
  unfold forward
  split
  case h_2 => exact Or.inl ⟨.notReady, nofun, rfl⟩
  case h_1 s hstate hs =>
    cases hn : s.narrow event with
    | error delivery => exact Or.inl ⟨delivery, narrow_error hn, rfl⟩
    | ok kept => exact Or.inr ⟨s, kept, hstate, hs, hn, rfl⟩

/-- Handing an event over changes at most the open documents of the session. -/
theorem handedOver_fst (b : Bridge) (s : Session) (kept : EditorEvent) (outcome : NotifyOutcome) :
    (b.handedOver s kept outcome).1 = b ∨
      (outcome = .delivered ∧
        (b.handedOver s kept outcome).1 = { b with session := some (s.track kept) }) := by
  cases outcome with
  | delivered => exact Or.inr ⟨rfl, rfl⟩
  | failed f => exact Or.inl rfl
  | lost => exact Or.inl rfl

theorem forward_fst (b : Bridge) (event : EditorEvent) (outcome : NotifyOutcome) :
    (b.forward event outcome).1 = b ∨
      ∃ s kept, b.session = some s ∧
        (b.forward event outcome).1 = { b with session := some (s.track kept) } := by
  rcases b.forward_cases event outcome with ⟨_, _, heq⟩ | ⟨s, kept, -, hs, -, heq⟩
  · exact Or.inl (by rw [heq])
  · rcases b.handedOver_fst s kept outcome with h | ⟨-, h⟩
    · exact Or.inl (by rw [heq, h])
    · exact Or.inr ⟨s, kept, hs, by rw [heq, h]⟩

theorem Sound.forward {b : Bridge} (h : b.Sound) (event : EditorEvent) (outcome : NotifyOutcome) :
    (b.forward event outcome).1.Sound := by
  rcases b.forward_fst event outcome with heq | ⟨s, kept, hs, heq⟩
  · rw [heq]
    exact h
  · obtain ⟨documents, htrack⟩ := track_eq s kept
    rw [heq, htrack]
    refine ⟨h.epoch_eq, ?_, ?_, h.watchers⟩
    · have hstate := h.idle_iff
      rw [hs] at hstate
      exact ⟨fun hidle => absurd (hstate.mp hidle) (by simp), nofun⟩
    · intro t ht
      cases ht
      exact h.newest s hs

/-- The end of a stop changes only the stops. -/
theorem stopEnded_fst (b : Bridge) (connection : Nat) (outcome : Outcome) :
    ∃ stops, (b.stopEnded connection outcome).1 = { b with stops } := by
  unfold Bridge.stopEnded
  split <;> exact ⟨_, rfl⟩

theorem Sound.stopEnded {b : Bridge} (h : b.Sound) (connection : Nat) (outcome : Outcome) :
    (b.stopEnded connection outcome).1.Sound := by
  obtain ⟨stops, heq⟩ := b.stopEnded_fst connection outcome
  rw [heq]
  exact ⟨h.epoch_eq, h.idle_iff, h.newest, h.watchers⟩

/-- Polling a teardown changes only the teardowns. -/
theorem poll_fst (b : Bridge) (teardown : Nat) :
    ∃ teardowns, (b.poll teardown).1 = { b with teardowns } := by
  unfold Bridge.poll
  split
  · exact ⟨_, rfl⟩
  · exact ⟨_, rfl⟩
  · exact ⟨_, rfl⟩
  · split <;> exact ⟨_, rfl⟩

theorem Sound.poll {b : Bridge} (h : b.Sound) (teardown : Nat) : (b.poll teardown).1.Sound := by
  obtain ⟨teardowns, heq⟩ := b.poll_fst teardown
  rw [heq]
  exact ⟨h.epoch_eq, h.idle_iff, h.newest, h.watchers⟩

/-! ## The number of connections -/

/-- Only an activation that succeeds creates a connection. -/
theorem created_step (b : Bridge) (input : BridgeInput) :
    (b.step input).1.created
      = b.created + (activation? (input, (b.step input).2.1)).toList.length := by
  cases hact : activation? (input, (b.step input).2.1) with
  | some taken =>
      obtain ⟨launch, scope⟩ := taken
      obtain ⟨-, watch, -, hb, -⟩ := step_of_activation hact
      rw [hb]
      rfl
  | none =>
      cases input with
      | activate launch scope announced => rw [(step_of_no_activation hact).1]; rfl
      | deactivate =>
          show b.deactivate.1.created = b.created
          unfold deactivate
          split <;> rfl
      | forward event outcome =>
          show (b.forward event outcome).1.created = b.created
          rcases b.forward_fst event outcome with heq | ⟨s, kept, -, heq⟩
          · rw [heq]
          · rw [heq]
      | startEnded connection outcome sink =>
          obtain ⟨state, broken, watchers, heq⟩ := b.startEnded_fst connection outcome sink
          show (b.startEnded connection outcome sink).1.created = b.created
          rw [heq]
      | stopEnded connection outcome =>
          obtain ⟨stops, heq⟩ := b.stopEnded_fst connection outcome
          show (b.stopEnded connection outcome).1.created = b.created
          rw [heq]
      | poll teardown =>
          obtain ⟨teardowns, heq⟩ := b.poll_fst teardown
          show (b.poll teardown).1.created = b.created
          rw [heq]
      | dropTeardown teardown => rfl

/-- The connections of a bridge are those of the activations that succeeded. -/
theorem created_run (b : Bridge) (inputs : List BridgeInput) :
    (b.run inputs).1.created = b.created + (activations (b.history inputs)).length := by
  induction inputs generalizing b with
  | nil => rfl
  | cons input rest ih =>
      rw [run_cons, ih, created_step, history_cons, activations, activations, List.filterMap_cons]
      cases activation? (input, (b.step input).2.1) with
      | none => rfl
      | some taken => simp only [Option.toList_some, List.length_cons, List.length_nil]; omega

/-! ## Runs -/

theorem Sound.step {b : Bridge} (h : b.Sound) (input : BridgeInput) : (b.step input).1.Sound := by
  cases input with
  | activate launch scope announced =>
      show (b.activate launch scope announced).1.Sound
      rcases b.activate_cases launch scope announced with ⟨_, _, heq⟩ | ⟨_, _, watch, _, heq⟩
      · rw [heq]
        exact h
      · rw [heq]
        exact h.engage launch scope watch
  | deactivate => exact h.deactivate
  | forward event outcome => exact h.forward event outcome
  | startEnded connection outcome sink => exact h.startEnded connection outcome sink
  | stopEnded connection outcome => exact h.stopEnded connection outcome
  | poll teardown => exact h.poll teardown
  | dropTeardown teardown => exact ⟨h.epoch_eq, h.idle_iff, h.newest, h.watchers⟩

theorem Sound.run {b : Bridge} (h : b.Sound) (inputs : List BridgeInput) :
    (b.run inputs).1.Sound := by
  induction inputs generalizing b with
  | nil => exact h
  | cons input rest ih => exact ih (h.step input)

theorem Sound.after (inputs : List BridgeInput) : (after inputs).Sound := Sound.idle.run inputs

end LanguageBridge.Bridge
