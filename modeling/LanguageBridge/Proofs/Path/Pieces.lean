import LanguageBridge.Path.Basic

set_option autoImplicit false

/-! # Pieces of a path

A path is cut at its separators (`Path.pieces`), and put together again by separators between the
pieces. The two undo each other: `intercalate_pieces` for every path, and `pieces_intercalate` for
every list of pieces that has at least one and no separator in any.
-/

namespace LanguageBridge.Path

theorem pieces_ne_nil (p : Bytes) : pieces p ≠ [] := by
  cases p with
  | nil => exact List.cons_ne_nil _ _
  | cons b rest =>
      rw [pieces]
      split
      · exact List.cons_ne_nil _ _
      · split <;> exact List.cons_ne_nil _ _

theorem pieces_separator (rest : Bytes) : pieces (separator :: rest) = [] :: pieces rest := by
  rw [pieces, if_pos rfl]

/-- A byte that is no separator belongs to the first piece. -/
theorem pieces_cons {b : UInt8} (h : b ≠ separator) (rest : Bytes) :
    ∃ piece more, pieces rest = piece :: more ∧ pieces (b :: rest) = (b :: piece) :: more := by
  obtain ⟨piece, more, hrest⟩ := List.exists_cons_of_ne_nil (pieces_ne_nil rest)
  exact ⟨piece, more, hrest, by rw [pieces, if_neg h, hrest]⟩

theorem separator_notMem_of_mem_pieces {p piece : Bytes} (h : piece ∈ pieces p) :
    separator ∉ piece := by
  induction p generalizing piece with
  | nil =>
      rw [List.mem_singleton.mp h]
      exact List.not_mem_nil
  | cons b rest ih =>
      by_cases hb : b = separator
      · subst hb
        rw [pieces_separator] at h
        rcases List.mem_cons.mp h with rfl | h
        · exact List.not_mem_nil
        · exact ih h
      · obtain ⟨first, more, hrest, hcons⟩ := pieces_cons hb rest
        rw [hcons] at h
        rw [hrest] at ih
        rcases List.mem_cons.mp h with rfl | h
        · rw [List.mem_cons, not_or]
          exact ⟨Ne.symm hb, ih List.mem_cons_self⟩
        · exact ih (List.mem_cons_of_mem _ h)

theorem pieces_of_notMem {piece : Bytes} (h : separator ∉ piece) : pieces piece = [piece] := by
  induction piece with
  | nil => rfl
  | cons b rest ih =>
      rw [List.mem_cons, not_or] at h
      rw [pieces, if_neg (Ne.symm h.1), ih h.2]

theorem pieces_append (p rest : Bytes) :
    pieces (p ++ separator :: rest) = pieces p ++ pieces rest := by
  induction p with
  | nil => exact pieces_separator rest
  | cons b p ih =>
      by_cases hb : b = separator
      · subst hb
        rw [List.cons_append, pieces_separator, pieces_separator, ih, List.cons_append]
      · obtain ⟨piece, more, hp, hcons⟩ := pieces_cons hb p
        rw [hcons, List.cons_append, pieces, if_neg hb, ih, hp]
        rfl

/-- **Cutting and putting together.** A path is its pieces with separators between them. -/
theorem intercalate_pieces (p : Bytes) : [separator].intercalate (pieces p) = p := by
  induction p with
  | nil => rfl
  | cons b rest ih =>
      by_cases hb : b = separator
      · subst hb
        obtain ⟨piece, more, hrest⟩ := List.exists_cons_of_ne_nil (pieces_ne_nil rest)
        rw [pieces_separator, hrest, List.intercalate_cons_cons, ← hrest, ih]
        rfl
      · obtain ⟨piece, more, hrest, hcons⟩ := pieces_cons hb rest
        rw [hrest] at ih
        rw [hcons, ← ih]
        cases more with
        | nil => simp only [List.intercalate_singleton]
        | cons next more => simp only [List.intercalate_cons_cons, List.cons_append]

/-- **Putting together and cutting.** -/
theorem pieces_intercalate {names : List Bytes} (hne : names ≠ [])
    (h : ∀ name ∈ names, separator ∉ name) : pieces ([separator].intercalate names) = names := by
  induction names with
  | nil => exact absurd rfl hne
  | cons name more ih =>
      obtain ⟨hname, hmore⟩ := List.forall_mem_cons.mp h
      cases more with
      | nil => rw [List.intercalate_singleton, pieces_of_notMem hname]
      | cons next more =>
          rw [List.intercalate_cons_cons, List.append_assoc, List.singleton_append, pieces_append,
            pieces_of_notMem hname, ih (List.cons_ne_nil _ _) hmore, List.singleton_append]

/-- What is put together ends with the last piece. -/
theorem suffix_intercalate {names : List Bytes} {name : Bytes} (h : names.getLast? = some name) :
    name <:+ [separator].intercalate names := by
  induction names with
  | nil => cases h
  | cons first more ih =>
      cases more with
      | nil =>
          rw [List.getLast?_singleton, Option.some.injEq] at h
          rw [List.intercalate_singleton]
          exact h ▸ List.suffix_refl first
      | cons next more =>
          rw [List.getLast?_cons_cons] at h
          rw [List.intercalate_cons_cons]
          exact (ih h).trans (List.suffix_append _ _)

theorem suffix_of_getLast?_pieces {p piece : Bytes} (h : (pieces p).getLast? = some piece) :
    piece <:+ p := by
  rw [← intercalate_pieces p]
  exact suffix_intercalate h

/-- An end without separators of a path is an end of what follows a separator. -/
theorem suffix_separator_iff {s stem tail : Bytes} (h : separator ∉ s) :
    s <:+ stem ++ separator :: tail ↔ s <:+ tail := by
  have htail : tail <:+ separator :: tail := List.suffix_cons _ _
  have hwhole : separator :: tail <:+ stem ++ separator :: tail := List.suffix_append _ _
  constructor
  · intro hs
    by_cases hlen : s.length ≤ tail.length
    · exact List.suffix_of_suffix_length_le hs (htail.trans hwhole) hlen
    · have hlonger : (separator :: tail).length ≤ s.length := Nat.lt_of_not_le hlen
      exact absurd ((List.suffix_of_suffix_length_le hwhole hs hlonger).mem List.mem_cons_self) h
  · intro hs
    exact hs.trans (htail.trans hwhole)

end LanguageBridge.Path
