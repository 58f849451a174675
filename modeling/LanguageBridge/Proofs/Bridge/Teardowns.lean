import LanguageBridge.Proofs.Bridge.Calls

set_option autoImplicit false

/-! # Teardowns

A deactivation gives its caller a teardown. If a connection was held, its stop goes on in the
background, and `Pledged` says what the teardown stands for: the outcome of that stop, once it has
arrived, until the holder has collected it. The stops and teardowns of several sessions do not get
mixed up, since a connection is stopped once (`Stopped.other`). Letting go of a teardown changes
nothing but what its own holder sees (`Parted.step`).

`call_discipline` puts this together with the calls that connections get.
-/

namespace LanguageBridge

/-- How the stop of a connection ended, if an input tells. -/
def BridgeInput.stopOutcome? (connection : Nat) : BridgeInput → Option Outcome
  | .stopEnded other outcome => if other = connection then some outcome else none
  | _ => none

/-- Whether an input makes or uses a teardown. -/
def BridgeInput.ofTeardowns : BridgeInput → Prop
  | .deactivate => True
  | .poll _ => True
  | .dropTeardown _ => True
  | _ => False

namespace Bridge

variable {b b' : Bridge} {input : BridgeInput}

/-- How the stop of a connection ended, among inputs that begin with the stop. -/
def stopOutcome (connection : Nat) (inputs : List BridgeInput) : Option Outcome :=
  inputs.findSome? (BridgeInput.stopOutcome? connection)

/-- The result that the holder of a teardown gets for the outcome of a stop. -/
inductive Resolves : Outcome → Except BridgeError Unit → Prop where
  | ok : Resolves .ok (.ok ())
  | failed (f : ConnectionFailure) : Resolves (.failed f) (.error (.stop f))
  | panicked (message reason : String) : Resolves (.panicked message) (.error (.teardown reason))

theorem resolves_stopResult (outcome : Outcome) : Resolves outcome (stopResult outcome) := by
  cases outcome with
  | ok => exact .ok
  | failed f => exact .failed f
  | panicked message => exact .panicked message _

/-- An entry of a history in which the holder of a teardown collects its result. -/
def collects (teardown : Nat) : BridgeInput × BridgeReply → Bool
  | (.poll other, .polled (.ready _) _) => other == teardown
  | _ => false

/-- Whether the holder of a teardown has collected its result. -/
def collected (teardown : Nat) (h : History) : Bool := h.any (collects teardown)

/-! ## The stops -/

/-- The end of a stop is kept for its connection, once. -/
theorem stopEnded_cases (b : Bridge) (connection : Nat) (outcome : Outcome) :
    (b.stopEnded connection outcome).1 = b ∧
        (∀ s ∈ b.stops, s.connection = connection → s.outcome ≠ none) ∨
      (∃ s ∈ b.stops, s.connection = connection ∧ s.outcome = none) ∧
        (b.stopEnded connection outcome).1 = { b with stops := b.stops.map fun s =>
          if s.connection == connection then { s with outcome := some outcome } else s } := by
  unfold stopEnded
  split
  case h_1 hfind =>
    refine Or.inl ⟨rfl, fun s hs hconn hnone => ?_⟩
    have hfalse := List.find?_eq_none.mp hfind s hs
    simp [hconn, hnone] at hfalse
  case h_2 s hfind =>
    have htrue := List.find?_some hfind
    simp only [Bool.and_eq_true, beq_iff_eq, Option.isNone_iff_eq_none] at htrue
    exact Or.inr ⟨⟨s, List.mem_of_find?_eq_some hfind, htrue⟩, rfl⟩

/-- Only a deactivation and the end of a stop change the stops. -/
theorem stops_step (b : Bridge) (hleave : input ≠ .deactivate)
    (hended : ∀ connection outcome, input ≠ .stopEnded connection outcome) :
    (b.step input).1.stops = b.stops := by
  cases input with
  | deactivate => exact absurd rfl hleave
  | stopEnded connection outcome => exact absurd rfl (hended connection outcome)
  | activate launch scope announced =>
      show (b.activate launch scope announced).1.stops = b.stops
      rcases b.activate_cases launch scope announced with ⟨_, -, heq⟩ | ⟨-, -, watch, -, heq⟩
      · rw [heq]
      · rw [heq]
        rfl
  | forward event outcome =>
      show (b.forward event outcome).1.stops = b.stops
      rcases b.forward_fst event outcome with heq | ⟨s, kept, -, heq⟩
      · rw [heq]
      · rw [heq]
  | startEnded connection outcome sink =>
      obtain ⟨state, broken, watchers, heq⟩ := b.startEnded_fst connection outcome sink
      show (b.startEnded connection outcome sink).1.stops = b.stops
      rw [heq]
  | poll teardown =>
      obtain ⟨teardowns, heq⟩ := b.poll_fst teardown
      show (b.poll teardown).1.stops = b.stops
      rw [heq]
  | dropTeardown teardown => rfl

/-- The connections that were stopped are all but the one that is held, in their order. -/
def Stopped (b : Bridge) : Prop :=
  b.stops.map (·.connection) = List.range (b.created - b.session.toList.length)

theorem Stopped.idle : Bridge.idle.Stopped := rfl

theorem Stopped.step (h : b.Stopped) (hb : b.Sound) (input : BridgeInput) :
    (b.step input).1.Stopped := by
  cases hact : activation? (input, (b.step input).2.1) with
  | some taken =>
      obtain ⟨launch, scope⟩ := taken
      obtain ⟨hnone, watch, -, hstep, -⟩ := step_of_activation hact
      rw [Stopped, hnone] at h
      rw [hstep]
      exact h
  | none =>
      cases input with
      | activate launch scope announced =>
          rw [(step_of_no_activation hact).1]
          exact h
      | deactivate =>
          show b.deactivate.1.Stopped
          unfold deactivate
          cases hs : b.session with
          | none =>
              rw [Stopped, hs] at h
              exact h
          | some s =>
              have hnew := hb.newest s hs
              rw [Stopped, hs, ← hnew] at h
              show (b.stops ++ _).map _ = List.range b.created
              rw [List.map_append, h, ← hnew]
              exact List.range_succ.symm
      | forward event outcome =>
          show (b.forward event outcome).1.Stopped
          rcases b.forward_fst event outcome with heq | ⟨s, kept, hs, heq⟩
          · rw [heq]
            exact h
          · rw [Stopped, hs] at h
            rw [heq]
            exact h
      | startEnded connection outcome sink =>
          obtain ⟨state, broken, watchers, heq⟩ := b.startEnded_fst connection outcome sink
          show (b.startEnded connection outcome sink).1.Stopped
          rw [heq]
          exact h
      | stopEnded connection outcome =>
          show (b.stopEnded connection outcome).1.Stopped
          rcases b.stopEnded_cases connection outcome with ⟨heq, -⟩ | ⟨-, heq⟩
          · rw [heq]
            exact h
          · rw [heq, Stopped, List.map_map]
            refine Eq.trans (List.map_congr_left fun s _ => ?_) h
            simp only [Function.comp_apply]
            split <;> rfl
      | poll teardown =>
          obtain ⟨teardowns, heq⟩ := b.poll_fst teardown
          show (b.poll teardown).1.Stopped
          rw [heq]
          exact h
      | dropTeardown teardown => exact h

theorem Stopped.run (h : b.Stopped) (hb : b.Sound) (inputs : List BridgeInput) :
    (b.run inputs).1.Stopped := by
  induction inputs generalizing b with
  | nil => exact h
  | cons input rest ih => exact ih (h.step hb input) (hb.step input)

/-- A connection is stopped once. -/
theorem Stopped.other (h : b.Stopped) (hb : b.Sound) {s : Session} (hs : b.session = some s)
    {t : Stop} (ht : t ∈ b.stops) : t.connection ≠ s.connection := by
  have hmem : t.connection ∈ b.stops.map (·.connection) := List.mem_map_of_mem ht
  have hnew := hb.newest s hs
  rw [h, hs, List.mem_range, Option.toList_some, List.length_singleton] at hmem
  omega

/-! ## What does not mind the teardowns -/

theorem announceStart_apart (b : Bridge) (w : Watcher) (failure : Option ConnectionFailure)
    (sink : SinkReaction) (teardowns : List Teardown) :
    (b.announceStart w failure sink).1.teardowns = b.teardowns ∧
      Bridge.announceStart { b with teardowns } w failure sink
        = ({ (b.announceStart w failure sink).1 with teardowns },
            (b.announceStart w failure sink).2) := by
  cases failure with
  | none => by_cases hm : sink.takesMessage = true <;> simp [announceStart, hm]
  | some f =>
      by_cases hm : sink.takesMessage = true <;> by_cases hr : sink.takesRecord = true <;>
        simp [announceStart, hm, hr]

theorem settle_apart (b : Bridge) (w : Watcher) (failure : Option ConnectionFailure)
    (sink : SinkReaction) (teardowns : List Teardown) :
    (b.settle w failure sink).1.teardowns = b.teardowns ∧
      Bridge.settle { b with teardowns } w failure sink
        = ({ (b.settle w failure sink).1 with teardowns }, (b.settle w failure sink).2) := by
  by_cases hcurrent : b.isCurrent w = true
  · have hcurrent' : Bridge.isCurrent { b with teardowns } w = true := hcurrent
    rw [settle, settle, if_pos hcurrent, if_pos hcurrent']
    exact b.announceStart_apart w failure sink teardowns
  · have hcurrent' : ¬ Bridge.isCurrent { b with teardowns } w = true := hcurrent
    rw [settle, settle, if_neg hcurrent, if_neg hcurrent']
    exact ⟨rfl, rfl⟩

theorem startEnded_apart (b : Bridge) (connection : Nat) (outcome : Outcome) (sink : SinkReaction)
    (teardowns : List Teardown) :
    (b.startEnded connection outcome sink).1.teardowns = b.teardowns ∧
      Bridge.startEnded { b with teardowns } connection outcome sink
        = ({ (b.startEnded connection outcome sink).1 with teardowns },
            (b.startEnded connection outcome sink).2) := by
  simp only [startEnded]
  cases b.watchers.find? fun w => w.connection == connection with
  | none => exact ⟨rfl, rfl⟩
  | some w =>
      cases outcome with
      | ok => exact (b.unwatch connection).settle_apart w none sink teardowns
      | failed f => exact (b.unwatch connection).settle_apart w (some f) sink teardowns
      | panicked message => exact ⟨rfl, rfl⟩

/-- An input that is not about teardowns leaves them alone, and they do not matter to it. -/
theorem step_apart (b : Bridge) (h : ¬ input.ofTeardowns) (teardowns : List Teardown) :
    (b.step input).1.teardowns = b.teardowns ∧
      Bridge.step { b with teardowns } input
        = ({ (b.step input).1 with teardowns }, (b.step input).2) := by
  cases input with
  | activate launch scope announced =>
      obtain ⟨state, epoch, session, created, watchers, stops, old, broken⟩ := b
      cases session with
      | some s => exact ⟨rfl, rfl⟩
      | none =>
          simp only [step, activate]
          cases scope.watcher with
          | error refusal => exact ⟨rfl, rfl⟩
          | ok watch => cases announced <;> exact ⟨rfl, rfl⟩
  | forward event outcome =>
      simp only [step, forward]
      split
      · split
        · exact ⟨rfl, rfl⟩
        · cases outcome <;> exact ⟨rfl, rfl⟩
      · exact ⟨rfl, rfl⟩
  | startEnded connection outcome sink =>
      obtain ⟨hold, hnew⟩ := b.startEnded_apart connection outcome sink teardowns
      exact ⟨hold, congrArg (fun p => (p.1, BridgeReply.none, p.2)) hnew⟩
  | stopEnded connection outcome =>
      simp only [step, stopEnded]
      split <;> exact ⟨rfl, rfl⟩
  | deactivate => exact absurd trivial h
  | poll teardown => exact absurd trivial h
  | dropTeardown teardown => exact absurd trivial h

/-- A teardown stays as it is until its holder uses it. -/
theorem teardown_step {t : Nat} {x : Teardown} (h : b.teardowns[t]? = some x)
    (hpoll : input ≠ .poll t) (hdrop : input ≠ .dropTeardown t) :
    (b.step input).1.teardowns[t]? = some x := by
  have hborn : t < b.teardowns.length := (List.getElem?_eq_some_iff.mp h).1
  cases input with
  | deactivate =>
      show b.deactivate.1.teardowns[t]? = some x
      unfold deactivate
      split
      all_goals
        show (b.teardowns ++ _)[t]? = some x
        rw [List.getElem?_append_left hborn, h]
  | poll u =>
      have hne : u ≠ t := fun heq => hpoll (congrArg _ heq)
      show (b.poll u).1.teardowns[t]? = some x
      unfold poll
      split
      case h_4 =>
        split
        · exact h
        · exact (List.getElem?_set_ne hne).trans h
      all_goals exact h
  | dropTeardown u =>
      have hne : u ≠ t := fun heq => hdrop (congrArg _ heq)
      exact (List.getElem?_set_ne hne).trans h
  | activate launch scope announced =>
      rw [(b.step_apart (by exact id) []).1]
      exact h
  | forward event outcome =>
      rw [(b.step_apart (by exact id) []).1]
      exact h
  | startEnded connection outcome sink =>
      rw [(b.step_apart (by exact id) []).1]
      exact h
  | stopEnded connection outcome =>
      rw [(b.step_apart (by exact id) []).1]
      exact h

/-! ## The outcome that a teardown stands for -/

/-- A teardown stands for the stop of a connection. `outcome` is how that stop ended, if it has,
and `spent` tells whether the holder has collected it. -/
structure Pledged (b : Bridge) (t connection : Nat) (outcome : Option Outcome) (spent : Bool) :
    Prop where
  stopped : ∃ s ∈ b.stops, s.connection = connection
  outcome_eq : ∀ s ∈ b.stops, s.connection = connection → s.outcome = outcome
  teardown : b.teardowns[t]? = some (if spent then .complete else .waiting connection)
  spent_ended : spent = true → outcome ≠ none

variable {t connection : Nat} {outcome : Option Outcome} {spent : Bool}

/-- A deactivation of a held connection gives a teardown that stands for its stop. -/
theorem pledged_deactivate (hstopped : b.Stopped) (hb : b.Sound) {s : Session}
    (hs : b.session = some s) :
    b.deactivate.1.Pledged b.teardowns.length s.connection none false := by
  have hstep : b.deactivate.1 = { b with
      state := .idle
      session := none
      stops := b.stops ++ [⟨s.connection, s.launch.command, none⟩]
      teardowns := b.teardowns ++ [.waiting s.connection] } := by
    rw [deactivate, hs]
  rw [hstep]
  refine ⟨⟨_, List.mem_append_right _ (List.mem_singleton_self _), rfl⟩, ?_, ?_, nofun⟩
  · intro stop hstop hconn
    rcases List.mem_append.mp hstop with hold | hnew
    · exact absurd hconn (hstopped.other hb hs hold)
    · rw [List.mem_singleton.mp hnew]
  · exact List.getElem?_concat_length

/-- Polling looks up the outcome of the stop. -/
theorem Pledged.lookup (h : b.Pledged t connection outcome spent) :
    (b.stops.findSome? fun s => if s.connection == connection then s.outcome else none)
      = outcome := by
  cases hfind : b.stops.findSome? fun s =>
      if s.connection == connection then s.outcome else none with
  | none =>
      obtain ⟨s, hs, hconn⟩ := h.stopped
      have hnone := List.findSome?_eq_none_iff.mp hfind s hs
      rw [← h.outcome_eq s hs hconn]
      simpa [hconn] using hnone.symm
  | some found =>
      obtain ⟨s, hs, hsome⟩ := List.exists_of_findSome?_eq_some hfind
      by_cases hconn : s.connection = connection
      · rw [← h.outcome_eq s hs hconn]
        simpa [hconn] using hsome.symm
      · simp [hconn] at hsome

/-- Once the result was collected, there is nothing to wait for. -/
theorem Pledged.poll_spent (h : b.Pledged t connection outcome true) :
    b.poll t = (b, .ready (.ok ())) := by
  have hteardown : b.teardowns[t]? = some .complete := h.teardown
  rw [Bridge.poll, hteardown]

/-- The stop goes on. -/
theorem Pledged.poll_pending (h : b.Pledged t connection none false) :
    b.poll t = (b, .pending) := by
  have hteardown : b.teardowns[t]? = some (.waiting connection) := h.teardown
  rw [Bridge.poll, hteardown]
  simp only [h.lookup]

/-- The stop has ended, and its result is collected. -/
theorem Pledged.poll_ready {o : Outcome} (h : b.Pledged t connection (some o) false) :
    b.poll t
      = ({ b with teardowns := b.teardowns.set t .complete }, .ready (stopResult o)) := by
  have hteardown : b.teardowns[t]? = some (.waiting connection) := h.teardown
  rw [Bridge.poll, hteardown]
  simp only [h.lookup]

theorem Pledged.keep (h : b.Pledged t connection outcome spent) (hstops : b'.stops = b.stops)
    (hteardown : b'.teardowns[t]? = b.teardowns[t]?) : b'.Pledged t connection outcome spent where
  stopped := by
    rw [hstops]
    exact h.stopped
  outcome_eq := by
    rw [hstops]
    exact h.outcome_eq
  teardown := hteardown.trans h.teardown
  spent_ended := h.spent_ended

theorem Pledged.deactivate (h : b.Pledged t connection outcome spent) (hstopped : b.Stopped)
    (hb : b.Sound) : b.deactivate.1.Pledged t connection outcome spent := by
  have hteardown : b.deactivate.1.teardowns[t]? = b.teardowns[t]? :=
    (show (b.step .deactivate).1.teardowns[t]? = _ from
      teardown_step h.teardown nofun nofun).trans h.teardown.symm
  obtain ⟨old, hold, hconn⟩ := h.stopped
  unfold Bridge.deactivate at hteardown ⊢
  cases hs : b.session with
  | none =>
      rw [hs] at hteardown
      exact h.keep rfl hteardown
  | some s =>
      rw [hs] at hteardown
      refine ⟨⟨old, List.mem_append_left _ hold, hconn⟩, ?_, hteardown.trans h.teardown,
        h.spent_ended⟩
      intro stop hstop hsame
      rcases List.mem_append.mp hstop with hmem | hnew
      · exact h.outcome_eq stop hmem hsame
      · -- The new stop is of the connection that was held, and this one was not.
        rw [List.mem_singleton.mp hnew] at hsame
        exact absurd (hconn.trans hsame.symm) (hstopped.other hb hs hold)

theorem Pledged.stopEnded (h : b.Pledged t connection outcome spent) (other : Nat)
    (ended : Outcome) :
    (b.stopEnded other ended).1.Pledged t connection
      (outcome.or (if other = connection then some ended else none)) spent := by
  obtain ⟨s, hs, hconn⟩ := h.stopped
  have hsame := h.outcome_eq s hs hconn
  rcases b.stopEnded_cases other ended with ⟨heq, hkept⟩ | ⟨⟨u, hu, huconn, hunone⟩, heq⟩
  · rw [heq]
    by_cases hother : other = connection
    · -- The stop has ended before.
      obtain ⟨o, rfl⟩ : ∃ o, outcome = some o := by
        rw [← hsame]
        exact Option.ne_none_iff_exists'.mp (hkept s hs (hconn.trans hother.symm))
      exact h
    · rw [if_neg hother, Option.or_none]
      exact h
  · rw [heq]
    by_cases hother : other = connection
    · subst hother
      obtain rfl : outcome = none := (h.outcome_eq u hu huconn).symm.trans hunone
      rw [if_pos rfl, Option.none_or]
      refine ⟨⟨_, List.mem_map_of_mem hs, by simp [hconn]⟩, ?_, h.teardown, nofun⟩
      intro stop hstop hstopconn
      obtain ⟨old, -, rfl⟩ := List.mem_map.mp hstop
      by_cases hold : old.connection = other
      · simp [hold]
      · simp [hold] at hstopconn
    · rw [if_neg hother, Option.or_none]
      refine ⟨⟨s, List.mem_map.mpr ⟨s, hs, ?_⟩, hconn⟩, ?_, h.teardown, h.spent_ended⟩
      · simp [hconn, Ne.symm hother]
      · intro stop hstop hstopconn
        obtain ⟨old, hmem, rfl⟩ := List.mem_map.mp hstop
        by_cases hold : old.connection = other
        · simp [hold] at hstopconn
          exact absurd hstopconn hother
        · simp only [beq_iff_eq, hold, if_false] at hstopconn ⊢
          exact h.outcome_eq old hmem hstopconn

/-- One step keeps the pledge: the first outcome of the stop counts, and so does the first time
that the holder collects it. -/
theorem Pledged.step (h : b.Pledged t connection outcome spent) (hstopped : b.Stopped)
    (hb : b.Sound) (hdrop : input ≠ .dropTeardown t) :
    (b.step input).1.Pledged t connection (outcome.or (input.stopOutcome? connection))
      (spent || collects t (input, (b.step input).2.1)) := by
  by_cases hpoll : input = .poll t
  case pos =>
    subst hpoll
    show (b.poll t).1.Pledged t connection (outcome.or none)
      (spent || collects t (.poll t, .polled (b.poll t).2 _))
    rw [Option.or_none]
    cases spent with
    | true =>
        rw [h.poll_spent]
        exact h
    | false =>
        cases outcome with
        | none =>
            rw [h.poll_pending]
            exact h
        | some o =>
            have hborn : t < b.teardowns.length := (List.getElem?_eq_some_iff.mp h.teardown).1
            rw [h.poll_ready]
            refine ⟨h.stopped, h.outcome_eq, ?_, fun _ => nofun⟩
            simp [collects, hborn]
  case neg =>
    have hteardown : (b.step input).1.teardowns[t]? = b.teardowns[t]? :=
      (teardown_step h.teardown hpoll hdrop).trans h.teardown.symm
    have hcollects : collects t (input, (b.step input).2.1) = false := by
      cases input with
      | poll u =>
          have hne : u ≠ t := fun heq => hpoll (congrArg _ heq)
          show collects t (.poll u, .polled (b.poll u).2 _) = false
          cases (b.poll u).2 <;> simp [collects, hne]
      | _ => rfl
    rw [hcollects, Bool.or_false]
    cases input with
    | stopEnded other ended => exact h.stopEnded other ended
    | deactivate =>
        rw [show BridgeInput.stopOutcome? connection .deactivate = none from rfl, Option.or_none]
        exact h.deactivate hstopped hb
    | _ =>
        show (b.step _).1.Pledged t connection (outcome.or none) spent
        rw [Option.or_none]
        exact h.keep (b.stops_step nofun nofun) hteardown

/-- Along a run, the first outcome of the stop counts, and so does the first time that the holder
collects it. -/
theorem Pledged.run (h : b.Pledged t connection outcome spent) (hstopped : b.Stopped)
    (hb : b.Sound) {inputs : List BridgeInput} (hdrop : .dropTeardown t ∉ inputs) :
    (b.run inputs).1.Pledged t connection (outcome.or (stopOutcome connection inputs))
      (spent || collected t (b.history inputs)) := by
  induction inputs generalizing b outcome spent with
  | nil =>
      show b.Pledged t connection (outcome.or none) (spent || false)
      rw [Option.or_none, Bool.or_false]
      exact h
  | cons input rest ih =>
      have hne : input ≠ .dropTeardown t := fun heq => hdrop (heq ▸ List.mem_cons_self)
      have hrest := ih (h.step hstopped hb hne) (hstopped.step hb input) (hb.step input)
        fun hmem => hdrop (List.mem_cons_of_mem _ hmem)
      have houtcome : stopOutcome connection (input :: rest)
          = (input.stopOutcome? connection).or (stopOutcome connection rest) := by
        rw [stopOutcome, List.findSome?_cons]
        cases input.stopOutcome? connection <;> rfl
      rw [run_cons, history_cons, collected, List.any_cons, houtcome, ← Option.or_assoc,
        ← Bool.or_assoc]
      exact hrest

/-- A teardown that has nothing to wait for stays so. -/
theorem complete_run (h : b.teardowns[t]? = some .complete) {inputs : List BridgeInput}
    (hdrop : .dropTeardown t ∉ inputs) : (b.run inputs).1.teardowns[t]? = some .complete := by
  induction inputs generalizing b with
  | nil => exact h
  | cons input rest ih =>
      have hne : input ≠ .dropTeardown t := fun heq => hdrop (heq ▸ List.mem_cons_self)
      have hstep : (b.step input).1.teardowns[t]? = some .complete := by
        by_cases hpoll : input = .poll t
        · subst hpoll
          show (b.poll t).1.teardowns[t]? = some .complete
          rw [poll, h]
          exact h
        · exact teardown_step h hpoll hne
      exact ih hstep fun hmem => hdrop (List.mem_cons_of_mem _ hmem)

/-- Polling a teardown that has nothing to wait for. -/
theorem poll_complete (h : b.teardowns[t]? = some .complete) :
    (b.step (.poll t)).2.1 = .polled (.ready (.ok ())) true := by
  have hpoll : b.poll t = (b, .ready (.ok ())) := by rw [poll, h]
  show BridgeReply.polled (b.poll t).2 ((b.poll t).1.isComplete t) = _
  rw [hpoll, isComplete, h]
  rfl

/-! ## Letting go of a teardown -/

/-- Two bridges differ in one teardown at most. -/
structure Parted (t : Nat) (b b' : Bridge) : Prop where
  same : { b with teardowns := b'.teardowns } = b'
  length : b.teardowns.length = b'.teardowns.length
  other : ∀ u, u ≠ t → b.teardowns[u]? = b'.teardowns[u]?

theorem Parted.symm (h : Parted t b b') : Parted t b' b where
  same := by rw [← h.same]
  length := h.length.symm
  other := fun u hu => (h.other u hu).symm

theorem Parted.trans {c : Bridge} (h : Parted t b b') (h' : Parted t b' c) : Parted t b c where
  same := by rw [← h'.same, ← h.same]
  length := h.length.trans h'.length
  other := fun u hu => (h.other u hu).trans (h'.other u hu)

theorem Parted.set (b : Bridge) (t : Nat) (x : Teardown) :
    Parted t b { b with teardowns := b.teardowns.set t x } where
  same := rfl
  length := (List.length_set ..).symm
  other := fun _ hu => (List.getElem?_set_ne (Ne.symm hu)).symm

/-- Changing a teardown in both bridges. -/
theorem Parted.both (h : Parted t b b') (u : Nat) (x : Teardown) :
    Parted t { b with teardowns := b.teardowns.set u x }
      { b' with teardowns := b'.teardowns.set u x } where
  same := by rw [← h.same]
  length := by rw [List.length_set, List.length_set, h.length]
  other := by
    intro v hv
    show (b.teardowns.set u x)[v]? = (b'.teardowns.set u x)[v]?
    rw [List.getElem?_set, List.getElem?_set, h.length, h.other v hv]

theorem Parted.poll_self (b : Bridge) (t : Nat) : Parted t b (b.poll t).1 := by
  have hself : Parted t b b := ⟨rfl, rfl, fun _ _ => rfl⟩
  unfold Bridge.poll
  split
  case h_4 =>
    split
    · exact hself
    · exact Parted.set b t .complete
  all_goals exact hself

theorem Parted.poll_other (h : Parted t b b') {u : Nat} (hu : u ≠ t) :
    Parted t (b.poll u).1 (b'.poll u).1 ∧ (b'.poll u).2 = (b.poll u).2 := by
  have hteardown := h.other u hu
  obtain ⟨ts, rfl⟩ : ∃ ts, b' = { b with teardowns := ts } := ⟨_, h.same.symm⟩
  simp only [Bridge.poll, ← hteardown]
  cases b.teardowns[u]? with
  | none => exact ⟨h, rfl⟩
  | some x =>
      cases x with
      | complete => exact ⟨h, rfl⟩
      | dropped => exact ⟨h, rfl⟩
      | waiting connection =>
          simp only
          cases b.stops.findSome? fun s =>
              if s.connection == connection then s.outcome else none with
          | none => exact ⟨h, rfl⟩
          | some outcome => exact ⟨h.both u .complete, rfl⟩

theorem Parted.deactivate (h : Parted t b b') :
    Parted t b.deactivate.1 b'.deactivate.1 ∧ b'.deactivate.2 = b.deactivate.2 ∧
      b'.deactivate.1.isComplete b.teardowns.length
        = b.deactivate.1.isComplete b.teardowns.length := by
  -- The new teardown has the same place in both bridges.
  have happend : ∀ (x : Teardown) u, u ≠ t →
      (b.teardowns ++ [x])[u]? = (b'.teardowns ++ [x])[u]? := by
    intro x u hu
    rw [List.getElem?_append, List.getElem?_append, h.length, h.other u hu]
  have hlength : ∀ x : Teardown, (b.teardowns ++ [x]).length = (b'.teardowns ++ [x]).length := by
    intro x
    rw [List.length_append, List.length_append, h.length]
  have hplace : ∀ x : Teardown, (b'.teardowns ++ [x])[b.teardowns.length]?
      = (b.teardowns ++ [x])[b.teardowns.length]? := by
    intro x
    rw [List.getElem?_concat_length, h.length, List.getElem?_concat_length]
  obtain ⟨ts, rfl⟩ : ∃ ts, b' = { b with teardowns := ts } := ⟨_, h.same.symm⟩
  unfold Bridge.deactivate
  cases b.session with
  | none =>
      simp only
      refine ⟨⟨rfl, hlength _, happend _⟩, trivial, ?_⟩
      rw [isComplete, isComplete]
      exact congrArg (· == _) (hplace _)
  | some s =>
      simp only
      refine ⟨⟨rfl, hlength _, happend _⟩, trivial, ?_⟩
      rw [isComplete, isComplete]
      exact congrArg (· == _) (hplace _)

/-- Bridges that differ in one teardown do the same, and only the holder of that teardown can tell
them apart. -/
theorem Parted.step (h : Parted t b b') (input : BridgeInput) :
    Parted t (b.step input).1 (b'.step input).1 ∧ (b'.step input).2.2 = (b.step input).2.2 ∧
      (input ≠ .poll t → (b'.step input).2.1 = (b.step input).2.1) := by
  by_cases hinput : input.ofTeardowns
  case pos =>
    cases input with
    | deactivate =>
        obtain ⟨hparted, heffects, hcomplete⟩ := h.deactivate
        refine ⟨hparted, heffects, fun _ => ?_⟩
        show BridgeReply.deactivated b'.teardowns.length
            (b'.deactivate.1.isComplete b'.teardowns.length)
          = .deactivated b.teardowns.length (b.deactivate.1.isComplete b.teardowns.length)
        rw [← h.length, hcomplete]
    | poll u =>
        by_cases hu : u = t
        · subst hu
          refine ⟨?_, rfl, fun hne => absurd rfl hne⟩
          exact (Parted.poll_self b u).symm.trans (h.trans (Parted.poll_self b' u))
        · obtain ⟨hparted, hresult⟩ := h.poll_other hu
          refine ⟨hparted, rfl, fun _ => ?_⟩
          have hcomplete : (b'.poll u).1.isComplete u = (b.poll u).1.isComplete u := by
            rw [isComplete, isComplete, hparted.other u hu]
          show BridgeReply.polled (b'.poll u).2 ((b'.poll u).1.isComplete u)
            = .polled (b.poll u).2 ((b.poll u).1.isComplete u)
          rw [hresult, hcomplete]
    | dropTeardown u => exact ⟨h.both u .dropped, rfl, fun _ => rfl⟩
    | activate launch scope announced => exact hinput.elim
    | forward event outcome => exact hinput.elim
    | startEnded connection outcome sink => exact hinput.elim
    | stopEnded connection outcome => exact hinput.elim
  case neg =>
    obtain ⟨hold, hnew⟩ := b.step_apart hinput b'.teardowns
    rw [h.same] at hnew
    rw [hnew]
    refine ⟨⟨rfl, ?_, ?_⟩, rfl, fun _ => rfl⟩
    · rw [hold]
      exact h.length
    · rw [hold]
      exact h.other

theorem Parted.run (h : Parted t b b') (inputs : List BridgeInput) :
    Parted t (b.run inputs).1 (b'.run inputs).1 ∧ b'.does inputs = b.does inputs := by
  induction inputs generalizing b b' with
  | nil => exact ⟨h, rfl⟩
  | cons input rest ih =>
      obtain ⟨hstep, heffects, -⟩ := h.step input
      obtain ⟨hrest, hdoes⟩ := ih hstep
      refine ⟨hrest, ?_⟩
      rw [does_cons, does_cons, heffects, hdoes]

/-! ## The discipline of calls and teardowns -/

/-- What a poll of a teardown answers, if `outcome` is how the stop ended and `spent` tells whether
the result was collected before. -/
inductive Answers : Option Outcome → Bool → BridgeReply → Prop where
  | pending : Answers none false (.polled .pending false)
  | result (outcome : Outcome) (result : Except BridgeError Unit) (h : Resolves outcome result) :
    Answers (some outcome) false (.polled (.ready result) true)
  | again (outcome : Outcome) : Answers (some outcome) true (.polled (.ready (.ok ())) true)

theorem Pledged.answers (h : b.Pledged t connection outcome spent) :
    Answers outcome spent (b.step (.poll t)).2.1 := by
  have hteardown := h.teardown
  show Answers outcome spent (.polled (b.poll t).2 ((b.poll t).1.isComplete t))
  cases outcome with
  | none =>
      cases spent with
      | false =>
          rw [h.poll_pending, isComplete, hteardown]
          exact .pending
      | true => exact absurd rfl (h.spent_ended rfl)
  | some o =>
      cases spent with
      | false =>
          have hborn : t < b.teardowns.length := (List.getElem?_eq_some_iff.mp hteardown).1
          rw [h.poll_ready, isComplete, List.getElem?_set_self hborn]
          exact .result o _ (resolves_stopResult o)
      | true =>
          rw [h.poll_spent, isComplete, hteardown]
          exact .again o

/-- The teardown of a deactivation that held a connection. -/
theorem teardown_held {held : Option Activation} (hb : b.Holds held) (hstopped : b.Stopped)
    {a : Activation} (ha : held = some a) :
    b.deactivate.1.isComplete b.teardowns.length = false ∧
      ∀ later, .dropTeardown b.teardowns.length ∉ later →
        Answers (stopOutcome a.connection later)
          (collected b.teardowns.length (b.deactivate.1.history later))
          ((b.deactivate.1.run later).1.step (.poll b.teardowns.length)).2.1 := by
  obtain ⟨s, hs⟩ : ∃ s, b.session = some s := by
    rw [← Option.ne_none_iff_exists', ne_eq, hb.session_none_iff, ha]
    exact nofun
  obtain ⟨a', ha', hconn, -⟩ := hb.session_some hs
  obtain rfl : a = a' := Option.some.inj (ha.symm.trans ha')
  have hpledged := pledged_deactivate hstopped hb.sound hs
  refine ⟨?_, fun later hdrop => ?_⟩
  · rw [isComplete, hpledged.teardown]
    rfl
  · have hstopped' := hstopped.step hb.sound .deactivate
    have hrun := hpledged.run hstopped' hb.sound.deactivate hdrop
    rw [Option.none_or, Bool.false_or, ← hconn] at hrun
    exact hrun.answers

/-- A deactivation without a session, and its teardown. -/
theorem teardown_none (hs : b.session = none) :
    b.deactivate.1.isComplete b.teardowns.length = true ∧
      calls b.deactivate.2 = [] ∧ told b.deactivate.2 = [] ∧
      ∀ later, .dropTeardown b.teardowns.length ∉ later →
        ((b.deactivate.1.run later).1.step (.poll b.teardowns.length)).2.1
          = .polled (.ready (.ok ())) true := by
  have hstep : b.deactivate = ({ b with teardowns := b.teardowns ++ [.complete] },
      [logged .debug "deactivate called without an active connection" []]) := by
    rw [deactivate, hs]
  have hcomplete : b.deactivate.1.teardowns[b.teardowns.length]? = some .complete := by
    rw [hstep]
    exact List.getElem?_concat_length
  refine ⟨?_, ?_, ?_, fun later hdrop => poll_complete (complete_run hcomplete hdrop)⟩
  · rw [isComplete, hcomplete]
    rfl
  · rw [hstep]
    rfl
  · rw [hstep]
    rfl

/-- Letting go of a teardown is not noticed by anybody else. -/
theorem drop_unnoticed (inputs : List BridgeInput) (t : Nat) (later : List BridgeInput) :
    effects (inputs ++ .dropTeardown t :: later) = effects (inputs ++ later) ∧
      (after (inputs ++ .dropTeardown t :: later)).stops = (after (inputs ++ later)).stops ∧
      ∀ input, input ≠ .poll t →
        ((after (inputs ++ .dropTeardown t :: later)).step input).2.1
          = ((after (inputs ++ later)).step input).2.1 := by
  obtain ⟨hparted, hdoes⟩ := (Parted.set (after inputs) t .dropped).run later
  have hwith : after (inputs ++ .dropTeardown t :: later)
      = (((after inputs).dropTeardown t).run later).1 :=
    run_append idle inputs (.dropTeardown t :: later)
  have hwithout : after (inputs ++ later) = ((after inputs).run later).1 :=
    run_append idle inputs later
  refine ⟨?_, ?_, ?_⟩
  · have hdo : idle.does (inputs ++ .dropTeardown t :: later)
        = idle.does inputs ++ ((after inputs).dropTeardown t).does later :=
      does_append idle inputs (.dropTeardown t :: later)
    show idle.does (inputs ++ .dropTeardown t :: later) = idle.does (inputs ++ later)
    rw [hdo, does_append]
    exact congrArg _ hdoes
  · rw [hwith, hwithout]
    exact (congrArg Bridge.stops hparted.same).symm
  · intro input hinput
    rw [hwith, hwithout]
    exact (hparted.step input).2.2 hinput

/-- **Every connection is started once, and stopped once when it is given up.** In a run, a
connection is created and started by its activation, gets events, and is stopped exactly if its
activation was deactivated. Events come only after its own start has succeeded, and at any moment
at most one connection was created and not stopped.

The teardown of a deactivation that held a connection is pending as long as the stop of that
connection goes on, the first ready poll gives the outcome of that stop, and from then on there is
nothing to wait for. A deactivation without a session calls no connection and tells nothing, and
its teardown has nothing to wait for at once. Letting go of a teardown changes neither what the
bridge does nor what it keeps of the stops, nor what anybody else sees. -/
theorem call_discipline (inputs : List BridgeInput) :
    let b := after inputs
    let h := idle.history inputs
    (∀ k, ∃ events, callsTo k (effects inputs) = row k (activations h) events (deactivated h)) ∧
    (∀ before, before <+: effects inputs → ∀ k k', Live k before → Live k' before → k = k') ∧
    (∀ input k event, .notify k event ∈ (b.step input).2.2 →
      ∃ a, held h = some a ∧ a.connection = k ∧ a.outcome = some .ok) ∧
    (∀ t complete, (b.step .deactivate).2.1 = .deactivated t complete →
      let left := (b.step .deactivate).1
      (∀ a, held h = some a → complete = false ∧ ∀ later, .dropTeardown t ∉ later →
        Answers (stopOutcome a.connection later) (collected t (left.history later))
          ((left.run later).1.step (.poll t)).2.1) ∧
      (held h = none → complete = true ∧
        calls (b.step .deactivate).2.2 = [] ∧ told (b.step .deactivate).2.2 = [] ∧
        ∀ later, .dropTeardown t ∉ later →
          ((left.run later).1.step (.poll t)).2.1 = .polled (.ready (.ok ())) true)) ∧
    ∀ t later,
      effects (inputs ++ .dropTeardown t :: later) = effects (inputs ++ later) ∧
      (after (inputs ++ .dropTeardown t :: later)).stops = (after (inputs ++ later)).stops ∧
      ∀ input, input ≠ .poll t →
        ((after (inputs ++ .dropTeardown t :: later)).step input).2.1
          = ((after (inputs ++ later)).step input).2.1 := by
  intro b h
  have hholds : b.Holds (held h) := Holds.after inputs
  have hstopped : b.Stopped := Stopped.idle.run Sound.idle inputs
  refine ⟨(Attended.after inputs).rows, fun before hbefore k k' => live_unique hbefore,
    fun input k event => notify_held hholds, ?_, drop_unnoticed inputs⟩
  intro t complete hreply
  cases hreply
  exact ⟨fun a ha => teardown_held hholds hstopped ha,
    fun hnone => teardown_none (hholds.session_none_iff.mpr hnone)⟩

end Bridge
end LanguageBridge
