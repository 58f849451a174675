import LanguageBridge.Proofs.Connection.Handshake

set_option autoImplicit false

/-! # A connection is used once

However many starts, stops and notifications are made of a connection, its phase goes one way, one
start enters the handshake, and the others are refused. `Connection.entered` reads off a run which
starts entered: those that published the starting phase.

That the phase goes one way comes from the life of the connection (`Lives.walk`), and what a start
returns that entered, from its handshake (`shows_run`). What is left is to see that only a start
that entered can succeed (`inHand_step`).
-/

namespace LanguageBridge.Connection

variable {c : Connection} {i : Nat}

/-! ## Entering -/

/-- The start that enters in a step. -/
def entered? (c : Connection) : ConnectionInput → Option Nat
  | .beginStart i launching =>
    if .starting ∈ published (c.beginStart i launching).2 then some i else none
  | _ => none

/-- The starts that enter in a run, in order. -/
def entered (c : Connection) : List ConnectionInput → List Nat
  | [] => []
  | input :: rest => (c.entered? input).toList ++ (c.step input).1.entered rest

/-- A start enters if it begins while the connection is idle. -/
theorem entered?_beginStart (hi : c.starts[i]? = some .created) (launching : Launching) :
    c.entered? (.beginStart i launching) = some i ↔ c.phase = .idle := by
  rw [entered?, beginStart, hi]
  cases hphase : c.phase with
  | idle => cases launching <;> simp [published]
  | _ => simp [published]

/-- A start that begins in any other phase is refused. -/
theorem beginStart_refused (hi : c.starts[i]? = some .created) (hphase : c.phase ≠ .idle)
    (launching : Launching) :
    (c.step (.beginStart i launching)).1.starts
      = c.starts.set i
          (.ended (some (if c.phase = .cancelled then .stopped else .reused))) := by
  rw [step, beginStart, hi]
  cases hp : c.phase with
  | idle => exact absurd hp hphase
  | _ => rfl

theorem entered_le (c : Connection) (inputs : List ConnectionInput) :
    (c.entered inputs).length ≤ (published (c.effects inputs)).count .starting := by
  induction inputs generalizing c with
  | nil => exact Nat.le_refl 0
  | cons input rest ih =>
      have hstep : (c.entered? input).toList.length
          ≤ (published (c.step input).2).count .starting := by
        unfold entered?
        split
        · split
          case isTrue hmem => exact List.one_le_count_iff.mpr hmem
          case isFalse => exact Nat.zero_le _
        · exact Nat.zero_le _
      rw [entered, effects_cons, published_append, List.length_append, List.count_append]
      exact Nat.add_le_add hstep (ih _)

/-- A list with one member at most has no other than the one that is known. -/
theorem eq_singleton_of_mem {α : Type} {a : α} {as : List α} (hmem : a ∈ as)
    (hone : as.length ≤ 1) : as = [a] := by
  obtain ⟨b, rfl⟩ := List.length_eq_one_iff.mp (Nat.le_antisymm hone (List.length_pos_of_mem hmem))
  rw [List.mem_singleton.mp hmem]

/-! ## Only a start that entered succeeds -/

/-- Whether a start has its process, or was successful. -/
def StartStage.inHand : StartStage → Bool
  | .opening _ => true
  | .bereaved _ _ => true
  | .linking _ => true
  | .ended none => true
  | _ => false

/-- A start has its process, or it was successful. -/
def InHand (c : Connection) (i : Nat) : Prop :=
  ∃ stage, c.starts[i]? = some stage ∧ StartStage.inHand stage = true

/-- A start that has not begun takes its process by entering. -/
theorem inHand_created {input : ConnectionInput} (hinput : input.start? = some i)
    (hi : c.starts[i]? = some .created) (h : (c.step input).1.InHand i) :
    c.entered? input = some i := by
  obtain ⟨new, hnew, hhand⟩ := h
  have hlt := (List.getElem?_eq_some_iff.mp hi).1
  -- Where the start stays as it is, it has no process.
  have hskip : (c.step input).1.starts = c.starts → c.entered? input = some i := by
    intro heq
    rw [heq, hi] at hnew
    cases hnew
    cases hhand
  cases input <;> cases hinput
  case beginStart launching =>
    by_cases hidle : c.phase = .idle
    · exact (entered?_beginStart hi launching).mpr hidle
    · rw [beginStart_refused hi hidle launching, List.getElem?_set_self hlt] at hnew
      cases hnew
      cases hhand
  case openingEnded outcome taken => exact hskip (by simp [step, openingEnded, hi])
  case graceEnded status => exact hskip (by simp [step, graceEnded, hi])
  case abortSeen => exact hskip (by simp [step, abortSeen, hi, StartStage.pending?])
  case link => exact hskip (by simp [step, link, hi])
  case dropStart =>
    have hdrop : (c.step (.dropStart i)).1.starts = c.starts.set i .dropped := by
      simp [step, dropStart, hi, StartStage.process?, setStart]
    rw [hdrop, List.getElem?_set_self hlt] at hnew
    cases hnew
    cases hhand

theorem inHand_step {input : ConnectionInput} (h : (c.step input).1.InHand i) :
    c.entered? input = some i ∨ c.InHand i := by
  cases hi : c.starts[i]? with
  | none =>
      -- A start that was just asked for has not begun.
      obtain ⟨new, hnew, hhand⟩ := h
      have hcreated := start_step_new hi hnew
      subst hcreated
      cases hhand
  | some old =>
      by_cases hinput : input.start? = some i
      · cases old with
        | created => exact Or.inl (inHand_created hinput hi h)
        | opening process => exact Or.inr ⟨_, hi, rfl⟩
        | bereaved process failure => exact Or.inr ⟨_, hi, rfl⟩
        | linking process => exact Or.inr ⟨_, hi, rfl⟩
        | ended failure =>
            rw [step_over hinput hi (Or.inr ⟨failure, rfl⟩)] at h
            exact Or.inr h
        | dropped =>
            rw [step_over hinput hi (Or.inl rfl)] at h
            exact Or.inr h
      · obtain ⟨new, hnew, hhand⟩ := h
        rw [start_step hinput hi] at hnew
        cases hnew
        exact Or.inr ⟨old, hi, hhand⟩

/-- A start that succeeds in a run entered in it, or it had its process before. -/
theorem inHand_run {inputs : List ConnectionInput} (h : (c.run inputs).1.InHand i) :
    i ∈ c.entered inputs ∨ c.InHand i := by
  induction inputs generalizing c with
  | nil => exact Or.inr h
  | cons input rest ih =>
      rcases ih h with hrest | hhand
      · exact Or.inl (List.mem_append_right _ hrest)
      · rcases inHand_step hhand with hentered | hhand
        · refine Or.inl (List.mem_append_left _ ?_)
          rw [hentered]
          exact List.mem_singleton.mpr rfl
        · exact Or.inr hhand

/-! ## What a start returns -/

/-- A start that begins while the connection is not idle returns at once, and for good. -/
theorem startResult?_refused (hi : c.starts[i]? = some .created) (hphase : c.phase ≠ .idle)
    (launching : Launching) (post : List ConnectionInput) :
    (c.run (.beginStart i launching :: post)).1.startResult? i
      = some (some (if c.phase = .cancelled then .stopped else .reused)) := by
  rw [run_cons]
  refine startResult?_run (startResult?_eq_some.mpr ?_) post
  rw [beginStart_refused hi hphase launching]
  exact List.getElem?_set_self (List.getElem?_eq_some_iff.mp hi).1

/-- A start that entered returns what its handshake gives, or that it was stopped, and then a stop
looked at the phase before. -/
theorem startResult?_entered {l : Life} (hlives : c.Lives l) (hi : c.starts[i]? = some .created)
    {launching : Launching} (hentered : c.entered? (.beginStart i launching) = some i)
    {post : List ConnectionInput} {result : Option ConnectionFailure}
    (hresult : (c.run (.beginStart i launching :: post)).1.startResult? i = some result) :
    (result = some .stopped ∧ (c.step (.beginStart i launching)).1.StopLooks i post) ∨
      (result ≠ some .stopped ∧
        post.foldl (Handshake.next c.config i) (Handshake.launched c.launch c.config launching)
          = .ended result) := by
  have hidle : c.phase = .idle := (entered?_beginStart hi launching).mp hentered
  have hunused : l = .unused := Life.of_phase_idle (hlives.phase_eq.symm.trans hidle)
  -- No start was asked to give up before the first one entered.
  have hunasked : (c.step (.beginStart i launching)).1.abortAsked ≠ true := by
    intro hasked
    rcases abortAsked_step hasked with hasked | ⟨j, hlook, -⟩
    · rw [hlives.calm hunused] at hasked
      cases hasked
    · cases hlook
  have hbegun : (c.step (.beginStart i launching)).1.Shows i
      (Handshake.launched c.launch c.config launching)
      ((c.step (.beginStart i launching)).1.StopLooks i post) :=
    shows_beginStart hidle hi launching
  obtain ⟨stage, hstage, hshows⟩ := shows_run hbegun (fun _ hasked => absurd hasked hunasked) id
  rw [run_cons, startResult?_eq_some] at hresult
  rw [hresult] at hstage
  cases hstage
  rw [(c.launch_step _).2] at hshows
  rcases hshows with hended | hstopped
  · refine Or.inr ⟨?_, hended⟩
    rintro rfl
    exact Handshake.foldl_ne_stopped (Handshake.launched_ne_stopped c.launch c.config launching)
      c.config i post hended
  · exact Or.inl hstopped

/-! ## Single use -/

section

variable (launch : Launch) (scope : Scope) (config : ConnectionConfig)

theorem entered_fresh (inputs : List ConnectionInput) :
    ((fresh launch scope config).entered inputs).length ≤ 1 := by
  have hwalk := (Lives.fresh launch scope config).walk inputs
  exact Nat.le_trans (entered_le _ inputs) hwalk.starting_count

theorem spawned_fresh (inputs : List ConnectionInput) :
    (spawned ((fresh launch scope config).effects inputs)).length ≤ 1 := by
  have hlives := Lives.fresh launch scope config
  obtain ⟨n, htrace, -⟩ := hlives.run inputs
  have hle := htrace.spawned_le
  rw [spawned_deeds, published_deeds] at hle
  exact Nat.le_trans hle (hlives.walk inputs).starting_count

/-- Of all starts, one succeeds at most. -/
theorem success_unique {inputs : List ConnectionInput} {i j : Nat}
    (hi : ((fresh launch scope config).run inputs).1.startResult? i = some none)
    (hj : ((fresh launch scope config).run inputs).1.startResult? j = some none) : i = j := by
  have hentered : ∀ k, ((fresh launch scope config).run inputs).1.startResult? k = some none →
      k ∈ (fresh launch scope config).entered inputs := by
    intro k hk
    rcases inHand_run ⟨_, startResult?_eq_some.mp hk, rfl⟩ with hmem | ⟨_, hnone, -⟩
    · exact hmem
    · cases hnone
  have hone := entered_fresh launch scope config inputs
  have hlist := (eq_singleton_of_mem (hentered i hi) hone).symm.trans
    (eq_singleton_of_mem (hentered j hj) hone)
  exact (List.cons.inj hlist).1

/-- **A connection is used once.** In every run of a connection, its phase moves from idle along
the five moves and never leaves the closed or the cancelled phase. One start enters at most, one
process is spawned at most, and one start succeeds at most. A start that begins after another one
entered is told that the connection was used, and one that begins after the connection was
cancelled, that it was stopped. The start that entered returns what its handshake gives, unless a
stop looked at the phase for the first time before it returned; then it may return instead that it
was stopped. -/
theorem single_use (inputs : List ConnectionInput) :
    let c := fresh launch scope config
    ConnectionPhase.Walk .idle (published (c.effects inputs)) (c.run inputs).1.phase ∧
      (c.entered inputs).length ≤ 1 ∧ (spawned (c.effects inputs)).length ≤ 1 ∧
      (∀ i j, (c.run inputs).1.startResult? i = some none →
        (c.run inputs).1.startResult? j = some none → i = j) ∧
      (∀ pre post, inputs = pre ++ post →
        (c.run pre).1.phase = .closed ∨ (c.run pre).1.phase = .cancelled →
          (c.run inputs).1.phase = (c.run pre).1.phase) ∧
      ∀ pre i launching post, inputs = pre ++ .beginStart i launching :: post →
        (c.run pre).1.starts[i]? = some .created →
          (c.entered pre ≠ [] → (c.run inputs).1.startResult? i = some (some .reused)) ∧
          (.cancelled ∈ published (c.effects pre) →
            (c.run inputs).1.startResult? i = some (some .stopped)) ∧
          ((c.run pre).1.entered? (.beginStart i launching) = some i →
            ∀ result, (c.run inputs).1.startResult? i = some result →
              (result = some .stopped ∧
                ((c.run pre).1.step (.beginStart i launching)).1.StopLooks i post) ∨
              (result ≠ some .stopped ∧
                post.foldl (Handshake.next config i) (Handshake.launched launch config launching)
                  = .ended result)) := by
  intro c
  have hlives : c.Lives .unused := Lives.fresh launch scope config
  refine ⟨hlives.walk inputs, entered_fresh launch scope config inputs,
    spawned_fresh launch scope config inputs,
    fun i j => success_unique launch scope config, ?_, ?_⟩
  · rintro pre post rfl hphase
    obtain ⟨m, -, hm⟩ := hlives.run pre
    have hwalk := hm.walk post
    rw [run_append]
    rcases hphase with hclosed | hcancelled
    · rw [hclosed] at hwalk ⊢
      exact hwalk.of_closed.1
    · rw [hcancelled] at hwalk ⊢
      exact hwalk.of_cancelled.1
  · rintro pre i launching post rfl hi
    have hwalk := hlives.walk pre
    rw [run_append]
    refine ⟨?_, ?_, ?_⟩
    · intro hentered
      have hmem : .starting ∈ published (c.effects pre) := by
        refine List.count_pos_iff.mp (Nat.lt_of_lt_of_le ?_ (entered_le c pre))
        exact List.length_pos_iff.mpr hentered
      -- The starting phase was published, and the walk does not lead back from there.
      obtain ⟨hidle, hcancelled⟩ := hwalk.of_starting_mem hmem
      rw [startResult?_refused hi hidle, if_neg hcancelled]
    · intro hmem
      have hcancelled := hwalk.of_cancelled_mem hmem
      rw [startResult?_refused hi (by rw [hcancelled]; exact nofun), if_pos hcancelled]
    · intro hentered result hresult
      obtain ⟨m, -, hm⟩ := hlives.run pre
      have hreturn := startResult?_entered hm hi hentered hresult
      rw [(c.launch_run pre).1, (c.launch_run pre).2] at hreturn
      exact hreturn

end

end LanguageBridge.Connection
