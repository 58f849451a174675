import LanguageBridge.Glob.Union

set_option autoImplicit false

/-! # What globs compile to

Reading globs stops at the first one that is wrong, the depth of those that look at an extension is
checked before that of the others, and a refusal tells of a place among the globs. Whether there is
a refusal at all does not depend on any order: globs compile exactly if each of them, taken alone,
is compilable (`compiles_iff`). The same holds for matching (`isMatch_iff_of_compile`).
-/

namespace LanguageBridge.GlobUnion

variable {texts : List String} {globs : List Glob} {union : GlobUnion}

/-- No matcher that a glob needs is too deep. -/
def Shallow (glob : Glob) : Prop :=
  tooDeep .extensionFirst glob = false ∧ tooDeep .general glob = false

theorem readAll_eq_ok_iff :
    readAll texts = .ok globs ↔ texts.map Glob.ofText = globs.map .ok := by
  induction texts generalizing globs with
  | nil =>
      rw [readAll, List.map_nil, Except.ok.injEq, eq_comm, eq_comm (a := []), List.map_eq_nil_iff]
  | cons text rest ih =>
      rw [readAll, List.map_cons]
      cases hread : Glob.ofText text with
      | error problem => cases globs <;> simp
      | ok glob =>
          cases hrest : readAll rest with
          | error refusal =>
              -- The rest is read to no globs, so in particular not to those that are left.
              have hnone : ∀ more : List Glob, rest.map Glob.ofText ≠ more.map .ok := by
                intro more hmore
                rw [← ih, hrest] at hmore
                cases hmore
              cases globs with
              | nil => simp
              | cons g more => simp [hnone more]
          | ok read =>
              cases globs with
              | nil => simp
              | cons g more => simp [← ih, hrest]

/-- Both checks of the depth pass exactly if each glob passes them. -/
theorem depthProblem?_eq_none_iff : depthProblem? globs = none ↔ ∀ g ∈ globs, Shallow g := by
  have hgeneral : (globs.filter fun g => Glob.shape g = .general).findIdx? (tooDeep .general) = none
      ↔ ∀ g ∈ globs, tooDeep .general g = false := by
    rw [List.findIdx?_eq_none_iff]
    constructor
    · intro h g hg
      by_cases hshape : Glob.shape g = .general
      · exact h g (List.mem_filter.mpr ⟨hg, decide_eq_true hshape⟩)
      · rw [tooDeep, decide_eq_false hshape, Bool.false_and]
    · intro h g hg
      exact h g (List.mem_filter.mp hg).1
  unfold depthProblem?
  cases hfirst : globs.find? (tooDeep .extensionFirst) with
  | some deep =>
      have hdeep := List.find?_some hfirst
      refine ⟨nofun, fun h => ?_⟩
      rw [(h deep (List.mem_of_find?_eq_some hfirst)).1] at hdeep
      cases hdeep
  | none =>
      have hnone := List.find?_eq_none.mp hfirst
      rw [Option.map_eq_none_iff, hgeneral]
      exact forall₂_congr fun g hg => ⟨fun h => ⟨Bool.eq_false_iff.mpr (hnone g hg), h⟩, And.right⟩

theorem compile_eq_ok_iff :
    compile texts = .ok union ↔
      texts.map Glob.ofText = union.globs.map .ok ∧ ∀ g ∈ union.globs, Shallow g := by
  rw [← readAll_eq_ok_iff, ← depthProblem?_eq_none_iff]
  cases hread : readAll texts with
  | error refusal =>
      rw [compile, hread]
      exact ⟨nofun, fun h => nomatch h.1⟩
  | ok globs =>
      cases hdepth : depthProblem? globs with
      | some problem =>
          simp only [compile, hread, hdepth, reduceCtorEq, Except.ok.injEq, false_iff, not_and]
          rintro rfl hnone
          rw [hdepth] at hnone
          cases hnone
      | none =>
          simp only [compile, hread, hdepth, Except.ok.injEq]
          constructor
          · rintro rfl
            exact ⟨rfl, hdepth⟩
          · rintro ⟨rfl, -⟩
            rfl

/-! ## By members -/

/-- The globs of a union are what its texts denote. -/
theorem mem_globs_iff (h : compile texts = .ok union) {glob : Glob} :
    glob ∈ union.globs ↔ ∃ text ∈ texts, Glob.ofText text = .ok glob := by
  rw [← List.mem_map, (compile_eq_ok_iff.mp h).1]
  simp only [List.mem_map, Except.ok.injEq, exists_eq_right]

/-- **Globs compile exactly if each of them does.** -/
theorem compiles_iff :
    (∃ union, compile texts = .ok union) ↔
      ∀ text ∈ texts, ∃ glob, Glob.ofText text = .ok glob ∧ Shallow glob := by
  constructor
  · rintro ⟨union, h⟩ text htext
    obtain ⟨hread, hshallow⟩ := compile_eq_ok_iff.mp h
    have hmem : Glob.ofText text ∈ union.globs.map Except.ok :=
      hread ▸ List.mem_map_of_mem htext
    obtain ⟨glob, hglob, htext⟩ := List.mem_map.mp hmem
    exact ⟨glob, htext.symm, hshallow glob hglob⟩
  · intro h
    induction texts with
    | nil => exact ⟨⟨[]⟩, rfl⟩
    | cons text rest ih =>
        obtain ⟨⟨glob, hread, hshallow⟩, hrest⟩ := List.forall_mem_cons.mp h
        obtain ⟨union, hunion⟩ := ih hrest
        obtain ⟨hmore, hall⟩ := compile_eq_ok_iff.mp hunion
        refine ⟨⟨glob :: union.globs⟩, compile_eq_ok_iff.mpr ⟨?_, ?_⟩⟩
        · rw [List.map_cons, List.map_cons, hread, hmore]
        · exact List.forall_mem_cons.mpr ⟨hshallow, hall⟩

/-- Whether a union with one glob matches a path. -/
def settles (path : Bytes) (glob : Glob) : Bool := isMatch ⟨[glob]⟩ path

/-- **A union matches what one of its globs matches.** -/
theorem isMatch_iff_of_compile (h : compile texts = .ok union) (path : Bytes) :
    union.isMatch path = true ↔
      ∃ text ∈ texts, ∃ glob, Glob.ofText text = .ok glob ∧ settles path glob = true := by
  have hany : union.isMatch path = true ↔ ∃ glob ∈ union.globs, settles path glob = true := by
    simp only [settles, isMatch, List.any_eq_true, List.mem_singleton, exists_eq_left]
  rw [hany]
  constructor
  · rintro ⟨glob, hglob, hpath⟩
    obtain ⟨text, htext, hread⟩ := (mem_globs_iff h).mp hglob
    exact ⟨text, htext, glob, hread, hpath⟩
  · rintro ⟨text, htext, glob, hread, hpath⟩
    exact ⟨glob, (mem_globs_iff h).mpr ⟨text, htext, hread⟩, hpath⟩

end LanguageBridge.GlobUnion
