import LanguageBridge.Proofs.Bridge.Standing

set_option autoImplicit false

/-! # What a bridge publishes

Observers of a bridge see the states that it publishes. They are a walk along six moves that ends
in the state of the bridge (`publishes_run`), and the outcome of a start is told to the user before
it is published (`publish_outcome`). `state_of_history` puts this together with what is held: the
state of a bridge is the outcome of the start of its own activation, whatever became of the starts
from before.
-/

namespace LanguageBridge

/-- The moves between the states of a bridge. -/
inductive BridgeState.Move : BridgeState → BridgeState → Prop where
  | start : Move .idle .starting
  | succeed : Move .starting .ready
  | fail (reason : String) : Move .starting (.failed reason)
  | giveUp : Move .starting .idle
  | close : Move .ready .idle
  | clear (reason : String) : Move (.failed reason) .idle

/-- The states lead from one state to another, each by a move. -/
inductive BridgeState.Walk : BridgeState → List BridgeState → BridgeState → Prop where
  | here (p : BridgeState) : Walk p [] p
  | move {p q r : BridgeState} {rest : List BridgeState} (h : Move p q) (tail : Walk q rest r) :
    Walk p (q :: rest) r

theorem BridgeState.Walk.append {p q r : BridgeState} {before after : List BridgeState}
    (h : Walk p before q) (h' : Walk q after r) : Walk p (before ++ after) r := by
  induction h with
  | here p => exact h'
  | move hmove tail ih => exact .move hmove (ih h')

namespace Bridge

variable {b : Bridge}

/-! ## The published states -/

/-- The states that effects publish, in order. -/
def published (effects : List BridgeEffect) : List BridgeState :=
  effects.filterMap fun
    | .publish state => some state
    | _ => none

theorem Quiet.published {effects : List BridgeEffect} (h : Quiet effects) :
    Bridge.published effects = [] :=
  h.filterMap fun _ => rfl

theorem published_append (effects others : List BridgeEffect) :
    published (effects ++ others) = published effects ++ published others :=
  List.filterMap_append

theorem publishes_announceStart (w : Watcher) (failure : Option ConnectionFailure)
    (sink : SinkReaction) (h : b.state = .starting) :
    BridgeState.Walk .starting (published (b.announceStart w failure sink).2)
      (b.announceStart w failure sink).1.state := by
  -- Where the user's side breaks off, nothing is published and the bridge goes on starting.
  have hbroken : ∀ effects, published effects = [] →
      BridgeState.Walk .starting (published effects) b.state := by
    intro effects hnone
    rw [hnone, h]
    exact .here _
  cases failure with
  | none =>
      by_cases hm : sink.takesMessage = true
      · simp only [announceStart, hm, if_true]
        exact .move .succeed (.here _)
      · simp only [announceStart, hm]
        exact hbroken [] rfl
  | some f =>
      by_cases hm : sink.takesMessage = true
      · by_cases hr : sink.takesRecord = true
        · simp only [announceStart, hm, hr, Bool.not_true, Bool.false_eq_true, if_false]
          exact .move (.fail _) (.here _)
        · simp only [announceStart, hm, hr, Bool.not_true, Bool.not_false, Bool.false_eq_true,
            if_false, if_true]
          exact hbroken _ rfl
      · simp only [announceStart, hm, Bool.not_false, if_true]
        exact hbroken [] rfl

theorem publishes_startEnded (h : b.Sound) (connection : Nat) (outcome : Outcome)
    (sink : SinkReaction) :
    BridgeState.Walk b.state (published (b.startEnded connection outcome sink).2)
      (b.startEnded connection outcome sink).1.state := by
  rcases startEnded_cases h connection outcome sink with
    ⟨w, hw, rfl⟩ | ⟨-, ⟨watchers, heq⟩, hquiet, -⟩
  case inl =>
    have hstate : b.state = .starting := (Bridge.awaited_some hw).1
    rcases (startEnded_awaited h hw outcome sink).1 with ⟨failure, -, hstep⟩ | ⟨-, hstep⟩
    · rw [hstep, hstate]
      exact publishes_announceStart w failure sink hstate
    · rw [hstep]
      exact .here _
  case inr =>
    rw [hquiet.published, heq]
    exact .here _

theorem publishes_deactivate (h : b.Sound) :
    BridgeState.Walk b.state (published b.deactivate.2) b.deactivate.1.state := by
  unfold deactivate
  cases hs : b.session with
  | none => exact .here _
  | some s =>
      cases hstate : b.state with
      | idle =>
          rw [h.idle_iff.mp hstate] at hs
          cases hs
      | starting => exact .move .giveUp (.here _)
      | ready => exact .move .close (.here _)
      | failed reason => exact .move (.clear reason) (.here _)

/-- A step publishes a walk from the state before to the state after. -/
theorem publishes_step (h : b.Sound) (input : BridgeInput) :
    BridgeState.Walk b.state (published (b.step input).2.2) (b.step input).1.state := by
  cases hact : activation? (input, (b.step input).2.1) with
  | some taken =>
      obtain ⟨launch, scope⟩ := taken
      obtain ⟨hnone, watch, -, hb, he⟩ := step_of_activation hact
      rw [hb, he, h.idle_iff.mpr hnone]
      exact .move .start (.here _)
  | none =>
      cases input with
      | activate launch scope announced =>
          obtain ⟨hb, he⟩ := step_of_no_activation hact
          rw [hb, he]
          exact .here _
      | deactivate => exact publishes_deactivate h
      | forward event outcome =>
          show BridgeState.Walk b.state (published (b.forward event outcome).2.2)
            (b.forward event outcome).1.state
          rcases b.forward_cases event outcome with ⟨_, -, heq⟩ | ⟨s, kept, -, -, -, heq⟩
          · rw [heq]
            exact .here _
          · rw [heq]
            rcases b.handedOver_fst s kept outcome with hsame | ⟨-, hsame⟩
            · rw [hsame]
              exact .here _
            · rw [hsame]
              exact .here _
      | startEnded connection outcome sink => exact publishes_startEnded h connection outcome sink
      | stopEnded connection outcome =>
          show BridgeState.Walk b.state (published (b.stopEnded connection outcome).2)
            (b.stopEnded connection outcome).1.state
          unfold stopEnded
          split
          · exact .here _
          · cases outcome <;> exact .here _
      | poll teardown =>
          obtain ⟨teardowns, heq⟩ := b.poll_fst teardown
          show BridgeState.Walk b.state [] (b.poll teardown).1.state
          rw [heq]
          exact .here _
      | dropTeardown teardown => exact .here _

theorem publishes_run (h : b.Sound) (inputs : List BridgeInput) :
    BridgeState.Walk b.state (published (b.does inputs)) (b.run inputs).1.state := by
  induction inputs generalizing b with
  | nil => exact .here _
  | cons input rest ih =>
      rw [does_cons, published_append, run_cons]
      exact (publishes_step h input).append (ih (h.step input))

/-! ## Told before published -/

/-- What was told so far ends with the announcement of the start that is awaited. -/
def Announced (b : Bridge) (t : List Status) : Prop :=
  ∀ w, b.awaited = some w → ∃ earlier, t = earlier ++ block w.command none

theorem Announced.step {t : List Status} (h : b.Sound) (ht : b.Announced t) {input : BridgeInput}
    (hw : input.Willing) : (b.step input).1.Announced (t ++ told (b.step input).2.2) := by
  -- Where nothing is told, the same start is awaited as before, or none.
  have hsame : ∀ {b' : Bridge} {effects : List BridgeEffect}, told effects = [] →
      (b'.awaited = b.awaited ∨ b'.awaited = none) → b'.Announced (t ++ told effects) := by
    intro b' effects htold hkept w hw'
    rw [htold, List.append_nil]
    rcases hkept with hkept | hnone
    · exact ht w (hkept.symm.trans hw')
    · rw [hnone] at hw'
      cases hw'
  cases hact : activation? (input, (b.step input).2.1) with
  | some taken =>
      obtain ⟨launch, scope⟩ := taken
      obtain ⟨-, watch, -, hb, he⟩ := step_of_activation hact
      intro w hw'
      rw [hb, awaited_engage h] at hw'
      cases hw'
      rw [he]
      exact ⟨t, rfl⟩
  | none =>
      cases input with
      | activate launch scope announced =>
          obtain ⟨hb, he⟩ := step_of_no_activation hact
          rw [hb, he]
          exact hsame rfl (Or.inl rfl)
      | deactivate =>
          obtain ⟨htold, hnone⟩ := told_deactivate h
          exact hsame htold (Or.inr hnone)
      | forward event outcome =>
          obtain ⟨htold, hkept⟩ := b.told_forward event outcome
          exact hsame htold (Or.inl hkept)
      | startEnded connection outcome sink =>
          rcases startEnded_cases h connection outcome sink with
            ⟨w, hw', rfl⟩ | ⟨-, -, hquiet, hkept⟩
          case inl =>
            intro v hv
            rw [show (b.step (.startEnded w.connection outcome sink)).1.awaited = none from
              (startEnded_awaited h hw' outcome sink).2] at hv
            cases hv
          case inr => exact hsame hquiet.told (Or.inl hkept)
      | stopEnded connection outcome =>
          obtain ⟨htold, hkept⟩ := b.told_stopEnded connection outcome
          exact hsame htold (Or.inl hkept)
      | poll teardown => exact hsame rfl (Or.inl (b.awaited_poll teardown))
      | dropTeardown teardown => exact hsame rfl (Or.inl rfl)

theorem Announced.run {t : List Status} (h : b.Sound) (ht : b.Announced t)
    {inputs : List BridgeInput} (hw : ∀ input ∈ inputs, input.Willing) :
    (b.run inputs).1.Announced (t ++ told (b.does inputs)) := by
  induction inputs generalizing b t with
  | nil =>
      show b.Announced (t ++ [])
      rw [List.append_nil]
      exact ht
  | cons input rest ih =>
      rw [run_cons, does_cons, told_append, ← List.append_assoc]
      exact ih (h.step input) (ht.step h (hw input List.mem_cons_self))
        fun i hi => hw i (List.mem_cons_of_mem _ hi)

/-- A user who takes everything is told the outcome of a start, and then it is published. -/
theorem announceStart_willing (w : Watcher) (failure : Option ConnectionFailure) :
    (b.announceStart w failure .willing).2
      = (report w.command (failure.elim .ok .failed)).map .status
        ++ [.publish (stateAfter (some (failure.elim .ok .failed)))] := by
  cases failure <;> rfl

/-- What is told before the one state that is published. -/
theorem told_before_publish {statuses : List Status} {last state : BridgeState}
    {before later : List BridgeEffect}
    (h : statuses.map .status ++ [.publish last] = before ++ .publish state :: later) :
    told before = statuses ∧ last = state := by
  induction statuses generalizing before with
  | nil =>
      cases before with
      | nil =>
          cases h
          exact ⟨rfl, rfl⟩
      | cons e rest =>
          have hlength := congrArg List.length h
          simp at hlength
  | cons status rest ih =>
      cases before with
      | nil => cases h
      | cons e more =>
          obtain ⟨rfl, hrest⟩ := List.cons.inj h
          obtain ⟨htold, hlast⟩ := ih hrest
          exact ⟨congrArg (status :: ·) htold, hlast⟩

/-- A bridge that publishes an outcome has told the user about it just before. -/
theorem publish_outcome (h : b.Sound) {input : BridgeInput} (hw : input.Willing)
    {before later : List BridgeEffect} {state : BridgeState}
    (hsplit : (b.step input).2.2 = before ++ .publish state :: later)
    (hstate : state ≠ .idle ∧ state ≠ .starting) :
    ∃ w outcome, b.awaited = some w ∧ stateAfter (some outcome) = state ∧
      told before = report w.command outcome := by
  have hmem : state ∈ published (b.step input).2.2 := by
    rw [hsplit, published_append]
    exact List.mem_append_right _ List.mem_cons_self
  cases hact : activation? (input, (b.step input).2.1) with
  | some taken =>
      obtain ⟨launch, scope⟩ := taken
      obtain ⟨-, watch, -, -, he⟩ := step_of_activation hact
      rw [he] at hmem
      exact absurd (List.mem_singleton.mp hmem) hstate.2
  | none =>
      cases input with
      | activate launch scope announced =>
          rw [(step_of_no_activation hact).2] at hmem
          cases hmem
      | deactivate =>
          have hidle : ∀ s ∈ published b.deactivate.2, s = .idle := by
            unfold deactivate
            split
            · exact nofun
            · exact fun s hs => List.mem_singleton.mp hs
          exact absurd (hidle state hmem) hstate.1
      | forward event outcome =>
          have hnone : published (b.forward event outcome).2.2 = [] := by
            rcases b.forward_cases event outcome with ⟨_, -, heq⟩ | ⟨s, kept, -, -, -, heq⟩
            all_goals
              rw [heq]
              rfl
          rw [step, hnone] at hmem
          cases hmem
      | startEnded connection outcome sink =>
          have hsink : sink = .willing := hw
          subst hsink
          rw [step] at hsplit hmem
          rcases startEnded_cases h connection outcome .willing with
            ⟨w, hw', rfl⟩ | ⟨-, -, hquiet, -⟩
          case inl =>
            refine ⟨w, outcome, hw', ?_⟩
            rcases (startEnded_awaited h hw' outcome .willing).1 with
              ⟨failure, rfl, hstep⟩ | ⟨-, hstep⟩
            · rw [hstep, announceStart_willing] at hsplit
              obtain ⟨htold, hlast⟩ := told_before_publish hsplit
              exact ⟨hlast, htold⟩
            · rw [hstep] at hmem
              cases hmem
          case inr =>
            rw [hquiet.published] at hmem
            cases hmem
      | stopEnded connection outcome =>
          have hnone : published (b.stopEnded connection outcome).2 = [] := by
            unfold stopEnded
            split
            · rfl
            · cases outcome <;> rfl
          rw [step, hnone] at hmem
          cases hmem
      | poll teardown => cases hmem
      | dropTeardown teardown => cases hmem

/-! ## The state of a bridge -/

/-- The gate breaks only where the user's side breaks off. -/
theorem gateBroken_step (b : Bridge) {input : BridgeInput} (hw : input.Willing) :
    (b.step input).1.gateBroken = b.gateBroken := by
  cases input with
  | activate launch scope announced =>
      show (b.activate launch scope announced).1.gateBroken = b.gateBroken
      rcases b.activate_cases launch scope announced with ⟨_, -, heq⟩ | ⟨-, -, watch, -, heq⟩
      · rw [heq]
      · rw [heq]
        rfl
  | deactivate =>
      show b.deactivate.1.gateBroken = b.gateBroken
      unfold deactivate
      split <;> rfl
  | forward event outcome =>
      show (b.forward event outcome).1.gateBroken = b.gateBroken
      rcases b.forward_fst event outcome with heq | ⟨s, kept, -, heq⟩
      · rw [heq]
      · rw [heq]
  | startEnded connection outcome sink =>
      have hsink : sink = .willing := hw
      subst hsink
      show (b.startEnded connection outcome .willing).1.gateBroken = b.gateBroken
      have hsettle : ∀ w failure, ((b.unwatch connection).settle w failure .willing).1.gateBroken
          = b.gateBroken := by
        intro w failure
        unfold settle
        split
        · cases failure <;> rfl
        · rfl
      unfold startEnded
      split
      · rfl
      · cases outcome with
        | ok => exact hsettle _ none
        | failed f => exact hsettle _ (some f)
        | panicked message => rfl
  | stopEnded connection outcome =>
      obtain ⟨stops, heq⟩ := b.stopEnded_fst connection outcome
      show (b.stopEnded connection outcome).1.gateBroken = b.gateBroken
      rw [heq]
  | poll teardown =>
      obtain ⟨teardowns, heq⟩ := b.poll_fst teardown
      show (b.poll teardown).1.gateBroken = b.gateBroken
      rw [heq]
  | dropTeardown teardown => rfl

theorem gateBroken_run (b : Bridge) {inputs : List BridgeInput}
    (hw : ∀ input ∈ inputs, input.Willing) : (b.run inputs).1.gateBroken = b.gateBroken := by
  induction inputs generalizing b with
  | nil => rfl
  | cons input rest ih =>
      rw [run_cons, ih _ fun i hi => hw i (List.mem_cons_of_mem _ hi)]
      exact b.gateBroken_step (hw input List.mem_cons_self)

/-- With a user who takes everything, the state is that of the held activation. -/
theorem state_eq_standing {inputs : List BridgeInput} (hw : ∀ input ∈ inputs, input.Willing) :
    (after inputs).state = standing (held (idle.history inputs)) := by
  rcases (Holds.after inputs).state with hstate | ⟨hbroken, -⟩
  · exact hstate
  · have hwhole := idle.gateBroken_run hw
    rw [← after, hbroken] at hwhole
    cases hwhole

/-- **The state of a bridge is the outcome of its own start.** In a run whose user takes
everything, a session is held exactly while the state is not idle, and it is that of the activation
that was not deactivated. The state is ready exactly if the start of this activation has
succeeded, and failed for a reason exactly if it has failed with that reason; the outcomes of other
starts do not count. The published states are a walk from idle to the state of the bridge. And
whenever the success or the failure of a start is published, the user has been told the whole block
of the activation: the announcement, and then the outcome. -/
theorem state_of_history (inputs : List BridgeInput) (hw : ∀ input ∈ inputs, input.Willing) :
    let b := after inputs
    let held := held (idle.history inputs)
    (b.session.map (fun s => (s.connection, s.launch))
        = held.map fun a => (a.connection, a.launch)) ∧
      (b.session ≠ none ↔ b.state ≠ .idle) ∧
      (b.state = .ready ↔ ∃ a, held = some a ∧ a.outcome = some .ok) ∧
      (∀ reason, b.state = .failed reason ↔
        ∃ a f, held = some a ∧ a.outcome = some (.failed f) ∧ f.message = reason) ∧
      BridgeState.Walk .idle (published (effects inputs)) b.state ∧
      ∀ pre input post before state later, inputs = pre ++ input :: post →
        ((after pre).step input).2.2 = before ++ .publish state :: later →
        state ≠ .idle → state ≠ .starting →
          ∃ a outcome earlier, Bridge.held (idle.history pre) = some a ∧
            stateAfter (some outcome) = state ∧
            told (effects pre ++ before) = earlier ++ block a.launch.command (some outcome) := by
  intro b held
  have hholds : b.Holds held := Holds.after inputs
  have hstate : b.state = standing held := state_eq_standing hw
  refine ⟨hholds.session, not_congr hholds.sound.idle_iff.symm, ?_, ?_,
    publishes_run Sound.idle inputs, ?_⟩
  · rw [hstate]
    exact standing_eq_ready_iff
  · intro reason
    rw [hstate]
    exact standing_eq_failed_iff
  · rintro pre input post before state later rfl hsplit hidle hstarting
    have hpre : ∀ i ∈ pre, i.Willing := fun i hi => hw i (List.mem_append_left _ hi)
    have hinput : input.Willing := hw input (by simp)
    obtain ⟨w, outcome, hw', hafter, htold⟩ :=
      publish_outcome (Sound.after pre) hinput hsplit ⟨hidle, hstarting⟩
    obtain ⟨a, ha, -, -, hcommand⟩ := (Holds.after pre).awaited_some hw'
    have hannounced : (after pre).Announced ([] ++ told (idle.does pre)) :=
      Announced.run Sound.idle nofun hpre
    obtain ⟨earlier, hearlier⟩ := hannounced w hw'
    refine ⟨a, outcome, earlier, ha, hafter, ?_⟩
    rw [told_append, htold, hcommand]
    show told (idle.does pre) ++ _ = _
    rw [List.nil_append] at hearlier
    rw [hearlier, List.append_assoc]
    rfl

/-- A run in which the first start is given up, the second one fails, and the success of the first
arrives in between. -/
def relieved : List BridgeInput :=
  [.activate ⟨"ti-lsp", [], []⟩ ⟨[], []⟩ true, .deactivate,
    .activate ⟨"ti", [], []⟩ ⟨[], []⟩ true, .startEnded 0 .ok .willing,
    .startEnded 1 (.failed (.handshake "mute")) .willing]

/-- The bridge has failed as its second start has. -/
theorem state_relieved :
    (∀ input ∈ relieved, input.Willing) ∧ (after relieved).state = .failed "mute" := by
  have hw : ∀ input ∈ relieved, input.Willing := by
    simp [relieved, BridgeInput.Willing]
  have hheld : held (idle.history relieved)
      = some ⟨1, ⟨"ti", [], []⟩, some (.failed (.handshake "mute"))⟩ := rfl
  exact ⟨hw, ((state_of_history relieved hw).2.2.2.1 "mute").mpr ⟨_, _, hheld, rfl, rfl⟩⟩

end Bridge
end LanguageBridge
