import LanguageBridge.Proofs.Connection.Custody

set_option autoImplicit false

/-! # One start among many

A step of a connection moves at most the one start that its input is about (`start_step`). A start
that has ended never changes again (`startResult?_step`), and the request to give up a start comes
from a stop that looks at the phase for the first time (`abortAsked_step`). The launch and the
configuration never change at all.
-/

namespace LanguageBridge

/-- The start that an input is about. -/
def ConnectionInput.start? : ConnectionInput → Option Nat
  | .beginStart i _ => some i
  | .openingEnded i _ _ => some i
  | .graceEnded i _ => some i
  | .abortSeen i => some i
  | .link i => some i
  | .dropStart i => some i
  | _ => none

namespace Connection

variable {c : Connection}

/-! ## Where the starts are -/

/-- What a step leaves alone, however it ends: all starts but the one that it is about, and
everything that a connection is made with. -/
structure Apart (c : Connection) (i : Nat) (c' : Connection) : Prop where
  starts : c'.starts = c.starts ∨ ∃ stage, c'.starts = c.starts.set i stage
  launch : c'.launch = c.launch
  config : c'.config = c.config
  abortAsked : c'.abortAsked = true → c.abortAsked = true

theorem Apart.refl (c : Connection) (i : Nat) : Apart c i c := ⟨Or.inl rfl, rfl, rfl, id⟩

theorem apart_beginStart (c : Connection) (i : Nat) (launching : Launching) :
    Apart c i (c.beginStart i launching).1 := by
  unfold beginStart
  split
  · split
    · cases launching <;> exact ⟨Or.inr ⟨_, rfl⟩, rfl, rfl, id⟩
    · exact ⟨Or.inr ⟨_, rfl⟩, rfl, rfl, id⟩
    · exact ⟨Or.inr ⟨_, rfl⟩, rfl, rfl, id⟩
    · exact ⟨Or.inr ⟨_, rfl⟩, rfl, rfl, id⟩
    · exact ⟨Or.inr ⟨_, rfl⟩, rfl, rfl, id⟩
  · exact .refl c i

theorem apart_openingEnded (c : Connection) (i : Nat) (outcome : OpeningOutcome) (taken : Bool) :
    Apart c i (c.openingEnded i outcome taken).1 := by
  unfold openingEnded
  split
  · cases outcome with
    | accepted info => cases taken <;> exact ⟨Or.inr ⟨_, rfl⟩, rfl, rfl, id⟩
    | _ => exact ⟨Or.inr ⟨_, rfl⟩, rfl, rfl, id⟩
  · exact .refl c i

theorem apart_graceEnded (c : Connection) (i : Nat) (status : Option ExitStatus) :
    Apart c i (c.graceEnded i status).1 := by
  unfold graceEnded
  split
  · cases status <;> exact ⟨Or.inr ⟨_, rfl⟩, rfl, rfl, id⟩
  · exact .refl c i

theorem apart_abortSeen (c : Connection) (i : Nat) : Apart c i (c.abortSeen i).1 := by
  unfold abortSeen
  split
  · exact ⟨Or.inr ⟨_, rfl⟩, rfl, rfl, nofun⟩
  · exact .refl c i

theorem apart_link (c : Connection) (i : Nat) : Apart c i (c.link i).1 := by
  unfold link
  split
  · exact ⟨Or.inr ⟨_, rfl⟩, rfl, rfl, id⟩
  · exact .refl c i

theorem apart_dropStart (c : Connection) (i : Nat) : Apart c i (c.dropStart i).1 := by
  unfold dropStart
  split
  · exact .refl c i
  · exact .refl c i
  · exact .refl c i
  · split
    · exact ⟨Or.inr ⟨_, rfl⟩, rfl, rfl, id⟩
    · dsimp only
      split <;> exact ⟨Or.inr ⟨_, rfl⟩, rfl, rfl, id⟩

/-- A step that is about a start. -/
theorem apart_step (c : Connection) {input : ConnectionInput} {i : Nat}
    (h : input.start? = some i) : Apart c i (c.step input).1 := by
  cases input <;> cases h
  case beginStart launching => exact c.apart_beginStart i launching
  case openingEnded outcome taken => exact c.apart_openingEnded i outcome taken
  case graceEnded status => exact c.apart_graceEnded i status
  case abortSeen => exact c.apart_abortSeen i
  case link => exact c.apart_link i
  case dropStart => exact c.apart_dropStart i

/-- The phase is looked at for the first time by a stop. -/
def FirstLook (c : Connection) (input : ConnectionInput) : Prop :=
  ∃ j, input = .look j ∧ (c.stops[j]?).map StopAttempt.stage = some .created

/-- What a step leaves alone that is not about a start that there is. -/
structure Aside (c : Connection) (input : ConnectionInput) (c' : Connection) : Prop where
  starts : c'.starts = c.starts ∨ c'.starts = c.starts ++ [.created]
  launch : c'.launch = c.launch
  config : c'.config = c.config
  abortAsked : c'.abortAsked = true → c.abortAsked = true ∨ c.FirstLook input

theorem aside_look (c : Connection) (j : Nat) : Aside c (.look j) (c.look j).1 := by
  rcases c.look_cases j with heq | ⟨old, hj, -, ⟨-, heq⟩ | ⟨-, rfl, heq⟩ | ⟨-, heq⟩ | ⟨-, heq⟩⟩
  · rw [heq]
    exact ⟨Or.inl rfl, rfl, rfl, Or.inl⟩
  · rw [heq]
    exact ⟨Or.inl rfl, rfl, rfl, Or.inl⟩
  · rw [heq]
    exact ⟨Or.inl rfl, rfl, rfl, fun _ => Or.inr ⟨j, rfl, hj⟩⟩
  · rw [heq]
    exact ⟨Or.inl rfl, rfl, rfl, Or.inl⟩
  · rw [heq]
    exact ⟨Or.inl rfl, rfl, rfl, Or.inl⟩

/-- A step that is about no start, or asks for a new one. -/
theorem aside_step (c : Connection) {input : ConnectionInput} (h : input.start? = none) :
    Aside c input (c.step input).1 := by
  cases input <;> cases h
  case start => exact ⟨Or.inr rfl, rfl, rfl, Or.inl⟩
  case stop => exact ⟨Or.inl rfl, rfl, rfl, Or.inl⟩
  case notify event => exact ⟨Or.inl rfl, rfl, rfl, Or.inl⟩
  case look j => exact c.aside_look j
  case unlink j =>
    rw [step, unlink]
    split
    · split <;> exact ⟨Or.inl rfl, rfl, rfl, Or.inl⟩
    · exact ⟨Or.inl rfl, rfl, rfl, Or.inl⟩
  case shutdownEnded j outcome taken =>
    rw [step, shutdownEnded]
    split <;> exact ⟨Or.inl rfl, rfl, rfl, Or.inl⟩
  case exitEnded j outcome =>
    rw [step, exitEnded]
    split
    · dsimp only
      split <;> exact ⟨Or.inl rfl, rfl, rfl, Or.inl⟩
    · exact ⟨Or.inl rfl, rfl, rfl, Or.inl⟩
  case dropStop j =>
    rw [step, dropStop]
    split
    · exact ⟨Or.inl rfl, rfl, rfl, Or.inl⟩
    · exact ⟨Or.inl rfl, rfl, rfl, Or.inl⟩
    · exact ⟨Or.inl rfl, rfl, rfl, Or.inl⟩
    · split <;> exact ⟨Or.inl rfl, rfl, rfl, Or.inl⟩
  case deliver i taken =>
    rw [step, deliver]
    split
    · split <;> exact ⟨Or.inl rfl, rfl, rfl, Or.inl⟩
    · exact ⟨Or.inl rfl, rfl, rfl, Or.inl⟩
  case dropNotify i =>
    rw [step, dropNotify]
    split <;> exact ⟨Or.inl rfl, rfl, rfl, Or.inl⟩

/-- The launch and the configuration stay what they are. -/
theorem launch_step (c : Connection) (input : ConnectionInput) :
    (c.step input).1.launch = c.launch ∧ (c.step input).1.config = c.config := by
  cases h : input.start? with
  | none => exact ⟨(c.aside_step h).launch, (c.aside_step h).config⟩
  | some i => exact ⟨(c.apart_step h).launch, (c.apart_step h).config⟩

theorem launch_run (c : Connection) (inputs : List ConnectionInput) :
    (c.run inputs).1.launch = c.launch ∧ (c.run inputs).1.config = c.config := by
  induction inputs generalizing c with
  | nil => exact ⟨rfl, rfl⟩
  | cons input rest ih =>
      rw [run_cons, (ih _).1, (ih _).2]
      exact c.launch_step input

/-! ## One start -/

/-- A step that is about something else leaves a start where it is. -/
theorem start_step {input : ConnectionInput} {i : Nat} {stage : StartStage}
    (h : input.start? ≠ some i) (hi : c.starts[i]? = some stage) :
    (c.step input).1.starts[i]? = some stage := by
  cases hk : input.start? with
  | none =>
      rcases (c.aside_step hk).starts with heq | heq
      · rw [heq]
        exact hi
      · have hlt := (List.getElem?_eq_some_iff.mp hi).1
        rw [heq, List.getElem?_append_left hlt]
        exact hi
  | some k =>
      have hne : k ≠ i := by
        rintro rfl
        exact h hk
      rcases (c.apart_step hk).starts with heq | ⟨new, heq⟩
      · rw [heq]
        exact hi
      · rw [heq, List.getElem?_set_ne hne]
        exact hi

/-- A new start has not begun. -/
theorem start_step_new {input : ConnectionInput} {i : Nat} (hi : c.starts[i]? = none)
    {stage : StartStage} (h : (c.step input).1.starts[i]? = some stage) : stage = .created := by
  have hge := List.getElem?_eq_none_iff.mp hi
  cases hk : input.start? with
  | none =>
      rcases (c.aside_step hk).starts with heq | heq
      · rw [heq, hi] at h
        cases h
      · rw [heq, List.getElem?_append_right hge, List.getElem?_singleton] at h
        split at h <;> cases h
        rfl
  | some k =>
      rcases (c.apart_step hk).starts with heq | ⟨new, heq⟩
      · rw [heq, hi] at h
        cases h
      · rw [heq, List.getElem?_set] at h
        split at h
        case isTrue hki =>
          subst hki
          rw [if_neg (Nat.not_lt.mpr hge)] at h
          cases h
        case isFalse =>
          rw [hi] at h
          cases h

/-! ## The end of a start -/

/-- Nothing happens any more to a start that has ended or was given up. -/
theorem step_over {input : ConnectionInput} {i : Nat} {stage : StartStage}
    (h : input.start? = some i) (hi : c.starts[i]? = some stage)
    (hstage : stage = .dropped ∨ ∃ failure, stage = .ended failure) : c.step input = (c, []) := by
  cases input <;> cases h
  case beginStart launching =>
    rcases hstage with rfl | ⟨failure, rfl⟩ <;> simp [step, beginStart, hi]
  case openingEnded outcome taken =>
    rcases hstage with rfl | ⟨failure, rfl⟩ <;> simp [step, openingEnded, hi]
  case graceEnded status =>
    rcases hstage with rfl | ⟨failure, rfl⟩ <;> simp [step, graceEnded, hi]
  case abortSeen =>
    rcases hstage with rfl | ⟨failure, rfl⟩ <;> simp [step, abortSeen, hi, StartStage.pending?]
  case link =>
    rcases hstage with rfl | ⟨failure, rfl⟩ <;> simp [step, link, hi]
  case dropStart =>
    rcases hstage with rfl | ⟨failure, rfl⟩ <;> simp [step, dropStart, hi]

theorem startResult?_eq_some {i : Nat} {result : Option ConnectionFailure} :
    c.startResult? i = some result ↔ c.starts[i]? = some (.ended result) := by
  unfold startResult?
  cases c.starts[i]? with
  | none => simp
  | some stage => cases stage <;> simp

/-- The result of a start never changes. -/
theorem startResult?_step {i : Nat} {result : Option ConnectionFailure}
    (h : c.startResult? i = some result) (input : ConnectionInput) :
    (c.step input).1.startResult? i = some result := by
  rw [startResult?_eq_some] at h ⊢
  by_cases hinput : input.start? = some i
  · rw [step_over hinput h (Or.inr ⟨result, rfl⟩)]
    exact h
  · exact start_step hinput h

theorem startResult?_run {i : Nat} {result : Option ConnectionFailure}
    (h : c.startResult? i = some result) (inputs : List ConnectionInput) :
    (c.run inputs).1.startResult? i = some result := by
  induction inputs generalizing c with
  | nil => exact h
  | cons input rest ih => exact ih (startResult?_step h input)

/-! ## The request to give up -/

/-- Only a stop that looks at the phase for the first time asks a start to give up. -/
theorem abortAsked_step {input : ConnectionInput} (h : (c.step input).1.abortAsked = true) :
    c.abortAsked = true ∨ c.FirstLook input := by
  cases hk : input.start? with
  | none => exact (c.aside_step hk).abortAsked h
  | some k => exact Or.inl ((c.apart_step hk).abortAsked h)

end Connection
end LanguageBridge
