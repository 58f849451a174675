set_option autoImplicit false

/-! # First occurrences

`Firsts` says of two lists that one holds the first occurrences in the other: every member that is
like none before it, in order, and nothing else. It follows the given list from its start, and
compares a member with everything that was given before, kept or not.

Erasing repetitions compares a member only with what was kept. Where likeness is reflexive and
transitive that is the same (`firsts_eraseDupsBy`): whatever was given before is like something
that was kept.
-/

namespace LanguageBridge

variable {α : Type} {r : α → α → Bool} {given kept : List α}

/-- The second list holds the first occurrences in the first one, where `r` tells whether a member
is like another. -/
inductive Firsts (r : α → α → Bool) : List α → List α → Prop where
  | nil : Firsts r [] []
  /-- A member that is like none before it is kept. -/
  | new {given kept : List α} {a : α} (before : Firsts r given kept)
      (h : ∀ b ∈ given, r a b = false) : Firsts r (given ++ [a]) (kept ++ [a])
  /-- A member that is like one before it is not. -/
  | again {given kept : List α} {a : α} (before : Firsts r given kept)
      (h : ∃ b ∈ given, r a b = true) : Firsts r (given ++ [a]) kept

namespace Firsts

theorem sublist (h : Firsts r given kept) : kept.Sublist given := by
  induction h with
  | nil => exact .slnil
  | new before hnew ih => exact ih.append (.refl _)
  | again before hold ih => exact ih.trans (List.sublist_append_left _ _)

/-- No first occurrence is like an earlier one. -/
theorem distinct (h : Firsts r given kept) : kept.Pairwise fun b a => r a b = false := by
  induction h with
  | nil => exact .nil
  | new before hnew ih =>
      refine List.pairwise_append.mpr ⟨ih, List.pairwise_singleton _ _, ?_⟩
      intro b hb a ha
      rw [List.mem_singleton.mp ha]
      exact hnew b (before.sublist.subset hb)
  | again before hold ih => exact ih

/-- Everything that is given is like a first occurrence. -/
theorem covers (hrefl : ∀ a, r a a = true)
    (htrans : ∀ a b c, r a b = true → r b c = true → r a c = true) (h : Firsts r given kept) :
    ∀ a ∈ given, ∃ b ∈ kept, r a b = true := by
  induction h with
  | nil => exact nofun
  | new before hnew ih =>
      intro a ha
      rcases List.mem_append.mp ha with ha | ha
      · obtain ⟨b, hb, hab⟩ := ih a ha
        exact ⟨b, List.mem_append_left _ hb, hab⟩
      · exact ⟨a, List.mem_append_right _ ha, hrefl a⟩
  | again before hold ih =>
      intro a ha
      rcases List.mem_append.mp ha with ha | ha
      · exact ih a ha
      · obtain ⟨c, hc, hac⟩ := hold
        obtain ⟨b, hb, hcb⟩ := ih c hc
        rw [List.mem_singleton.mp ha]
        exact ⟨b, hb, htrans _ c b hac hcb⟩

end Firsts

/-! ## Erasing repetitions -/

/-- What is kept so far stands for all that was given, so the search through it is enough. -/
theorem firsts_loop (hrefl : ∀ a, r a a = true)
    (htrans : ∀ a b c, r a b = true → r b c = true → r a c = true) (rest back : List α)
    (h : Firsts r given back.reverse) :
    Firsts r (given ++ rest) (List.eraseDupsBy.loop r rest back) := by
  induction rest generalizing given back with
  | nil =>
      rw [List.append_nil]
      exact h
  | cons a rest ih =>
      rw [List.eraseDupsBy.loop, ← List.singleton_append, ← List.append_assoc]
      split
      case h_1 hany =>
        obtain ⟨b, hb, hab⟩ := List.any_eq_true.mp hany
        exact ih _ (h.again ⟨b, h.sublist.subset (List.mem_reverse.mpr hb), hab⟩)
      case h_2 hany =>
        have hnone : ∀ b ∈ given, r a b = false := by
          intro b hb
          obtain ⟨c, hc, hbc⟩ := h.covers hrefl htrans b hb
          refine Bool.eq_false_iff.mpr fun hab => ?_
          exact List.any_eq_false.mp hany c (List.mem_reverse.mp hc) (htrans a b c hab hbc)
        refine ih _ ?_
        rw [List.reverse_cons]
        exact h.new hnone

/-- **Erasing repetitions keeps the first occurrences.** -/
theorem firsts_eraseDupsBy (hrefl : ∀ a, r a a = true)
    (htrans : ∀ a b c, r a b = true → r b c = true → r a c = true) (given : List α) :
    Firsts r given (given.eraseDupsBy r) :=
  firsts_loop hrefl htrans given [] .nil

/-- Where nothing is like anything before it, nothing is erased. -/
theorem eraseDupsBy_of_distinct (h : kept.Pairwise fun b a => r a b = false) :
    kept.eraseDupsBy r = kept := by
  induction h with
  | nil => rfl
  | cons hhead _ ih =>
      rw [List.eraseDupsBy_cons, List.filter_eq_self.mpr fun b hb => by simp [hhead b hb], ih]

theorem firsts_eraseDups [BEq α] [LawfulBEq α] (given : List α) :
    Firsts (· == ·) given given.eraseDups :=
  firsts_eraseDupsBy (fun _ => BEq.rfl) (fun _ _ _ => PartialEquivBEq.trans) given

end LanguageBridge
