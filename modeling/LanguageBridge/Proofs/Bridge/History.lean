import LanguageBridge.Bridge.Run

set_option autoImplicit false

/-! # Histories of a bridge

A run of a bridge can be looked at from two sides. `Bridge.does` is everything that the bridge
does, and `Bridge.history` is what its callers see: the inputs, each with the reply. The
activations that succeeded are read off the history; the `n`-th of them is the one that created
the connection number `n`. Both sides split where the run is split.
-/

namespace LanguageBridge.Bridge

/-- The inputs of a run, each with the reply. -/
abbrev History := List (BridgeInput × BridgeReply)

/-- Everything that a bridge does in a run. -/
def does (b : Bridge) (inputs : List BridgeInput) : List BridgeEffect :=
  (b.run inputs).2.flatMap (·.2)

/-- What the callers of a bridge see of a run. -/
def history (b : Bridge) (inputs : List BridgeInput) : History :=
  inputs.zip ((b.run inputs).2.map (·.1))

/-- The launch and the scope of an activation, if it succeeded. -/
def activation? : BridgeInput × BridgeReply → Option (Launch × Scope)
  | (.activate launch scope _, .activated .ok) => some (launch, scope)
  | _ => none

/-- The activations that succeeded, in order. -/
def activations (h : History) : List (Launch × Scope) := h.filterMap activation?

/-! ## Runs step by step -/

theorem run_cons (b : Bridge) (input : BridgeInput) (rest : List BridgeInput) :
    (b.run (input :: rest)).1 = ((b.step input).1.run rest).1 := rfl

theorem does_cons (b : Bridge) (input : BridgeInput) (rest : List BridgeInput) :
    b.does (input :: rest) = (b.step input).2.2 ++ (b.step input).1.does rest := rfl

theorem history_cons (b : Bridge) (input : BridgeInput) (rest : List BridgeInput) :
    b.history (input :: rest) = (input, (b.step input).2.1) :: (b.step input).1.history rest := rfl

/-- A history is about the inputs of its run. -/
theorem history_inputs (b : Bridge) (inputs : List BridgeInput) :
    (b.history inputs).map (·.1) = inputs := by
  induction inputs generalizing b with
  | nil => rfl
  | cons input rest ih => rw [history_cons, List.map_cons, ih]

/-! ## Runs in two parts -/

theorem run_append (b : Bridge) (pre post : List BridgeInput) :
    (b.run (pre ++ post)).1 = ((b.run pre).1.run post).1 := by
  induction pre generalizing b with
  | nil => rfl
  | cons input rest ih => rw [List.cons_append, run_cons, run_cons, ih]

theorem does_append (b : Bridge) (pre post : List BridgeInput) :
    b.does (pre ++ post) = b.does pre ++ (b.run pre).1.does post := by
  induction pre generalizing b with
  | nil => rfl
  | cons input rest ih =>
      rw [List.cons_append, does_cons, does_cons, ih, run_cons, List.append_assoc]

/-- A run of a new bridge goes on where its first part ended. -/
theorem after_append (pre post : List BridgeInput) :
    after (pre ++ post) = ((after pre).run post).1 := run_append idle pre post

theorem effects_append (pre post : List BridgeInput) :
    effects (pre ++ post) = effects pre ++ (after pre).does post := does_append idle pre post

/-- A part of two lists from the front ends in the first one, or it goes on in the second. -/
theorem prefix_append_cases {α : Type} {part first second : List α} (h : part <+: first ++ second) :
    part <+: first ∨ ∃ later, part = first ++ later ∧ later <+: second := by
  rcases List.prefix_or_prefix_of_prefix h (List.prefix_append first second) with hpart | hfirst
  · exact Or.inl hpart
  · obtain ⟨later, rfl⟩ := hfirst
    exact Or.inr ⟨later, rfl, (List.prefix_append_right_inj first).mp h⟩

/-- What a bridge has done at some moment of a run: everything, or a part of what one of its steps
does after what the steps before did. -/
theorem prefix_does {b : Bridge} {inputs : List BridgeInput} {before : List BridgeEffect}
    (h : before <+: b.does inputs) :
    before = b.does inputs ∨ ∃ pre input post part, inputs = pre ++ input :: post ∧
      part <+: ((b.run pre).1.step input).2.2 ∧ before = b.does pre ++ part := by
  induction inputs generalizing b before with
  | nil => exact Or.inl (List.prefix_nil.mp h)
  | cons input rest ih =>
      rw [does_cons] at h
      rcases prefix_append_cases h with hpart | ⟨later, rfl, hlater⟩
      · exact Or.inr ⟨[], input, rest, before, rfl, hpart, rfl⟩
      · rcases ih hlater with rfl | ⟨pre, next, post, part, rfl, hpart, rfl⟩
        · exact Or.inl rfl
        · exact Or.inr ⟨input :: pre, next, post, part, rfl, hpart, by
            rw [does_cons, List.append_assoc]⟩

end LanguageBridge.Bridge
