import LanguageBridge.Proofs.Glob.Compilation
import LanguageBridge.Proofs.Scope.Languages
import LanguageBridge.Proofs.Sequence.Firsts

set_option autoImplicit false

/-! # Scopes as sets

A scope is given by lists, and means sets. Lists with the same members give scopes that select the
same documents, have a watcher or have none, and watch the same paths (`Scope.sets_of_members`).
What is kept of the lists is the first occurrence of each member.
-/

namespace LanguageBridge.Scope

variable {selectors selectors' : List Selector} {globs globs' : List String}

/-- A scope selects what one of the given selectors does. -/
theorem selects_ofLists (selectors : List Selector) (globs : List String)
    (scheme language : String) :
    (ofLists selectors globs).selects scheme language = true ↔ ⟨scheme, language⟩ ∈ selectors := by
  simp only [selects, ofLists, List.any_eq_true, List.mem_eraseDups, Bool.and_eq_true, beq_iff_eq]
  constructor
  · rintro ⟨selector, hmem, rfl, rfl⟩
    exact hmem
  · intro hmem
    exact ⟨_, hmem, rfl, rfl⟩

/-- Scopes whose globs have the same members have watchers together. -/
theorem watcher_congr (hglobs : ∀ glob, glob ∈ globs ↔ glob ∈ globs') :
    (∃ union, (ofLists selectors globs).watcher = .ok union) ↔
      ∃ union, (ofLists selectors' globs').watcher = .ok union := by
  simp only [watcher, ofLists, GlobUnion.compiles_iff, List.mem_eraseDups, hglobs]

/-- The watchers of such scopes watch the same paths. -/
theorem isMatch_congr (hglobs : ∀ glob, glob ∈ globs ↔ glob ∈ globs') {union union' : GlobUnion}
    (h : (ofLists selectors globs).watcher = .ok union)
    (h' : (ofLists selectors' globs').watcher = .ok union') (path : Path) :
    union.isMatch path = union'.isMatch path := by
  rw [Bool.eq_iff_iff, GlobUnion.isMatch_iff_of_compile h, GlobUnion.isMatch_iff_of_compile h']
  simp only [ofLists, List.mem_eraseDups, hglobs]

theorem eraseDups_eraseDups {α : Type} [BEq α] [LawfulBEq α] (given : List α) :
    given.eraseDups.eraseDups = given.eraseDups :=
  eraseDupsBy_of_distinct (firsts_eraseDups given).distinct

/-- **Scopes behave as sets.** Two scopes whose selectors have the same members, and whose globs
have the same members, select the same documents; if one has a watcher the other one has, and both
watch the same paths. A scope keeps the first occurrence of each selector and of each glob, in the
order in which they were given, and what it keeps gives the same scope again. -/
theorem sets_of_members :
    (∀ (selectors selectors' : List Selector) (globs globs' : List String),
      (∀ selector, selector ∈ selectors ↔ selector ∈ selectors') →
      (∀ glob, glob ∈ globs ↔ glob ∈ globs') →
        (∀ scheme language, (ofLists selectors globs).selects scheme language
          = (ofLists selectors' globs').selects scheme language) ∧
        ((∃ union, (ofLists selectors globs).watcher = .ok union) ↔
          ∃ union, (ofLists selectors' globs').watcher = .ok union) ∧
        ∀ union union', (ofLists selectors globs).watcher = .ok union →
          (ofLists selectors' globs').watcher = .ok union' →
            ∀ path, union.isMatch path = union'.isMatch path) ∧
    ∀ (selectors : List Selector) (globs : List String),
      Firsts (· == ·) selectors (ofLists selectors globs).selectors ∧
        Firsts (· == ·) globs (ofLists selectors globs).watchGlobs ∧
        ofLists (ofLists selectors globs).selectors (ofLists selectors globs).watchGlobs
          = ofLists selectors globs := by
  constructor
  · intro selectors selectors' globs globs' hselectors hglobs
    refine ⟨fun scheme language => ?_, watcher_congr hglobs, fun union union' h h' path =>
      isMatch_congr hglobs h h' path⟩
    rw [Bool.eq_iff_iff, selects_ofLists, selects_ofLists, hselectors]
  · intro selectors globs
    refine ⟨firsts_eraseDups selectors, firsts_eraseDups globs, ?_⟩
    simp only [ofLists, eraseDups_eraseDups]

/-- The selectors and the globs of two languages, one of them given twice, make a scope that watches
what the scope with each given once, in the other order, watches. -/
theorem sets_repeated :
    let ruby : Selector := ⟨"file", "ruby"⟩
    let json : Selector := ⟨"file", "json"⟩
    let scope := ofLists [ruby, json, ruby] ["**/*.rb", "**/*.json", "**/*.rb"]
    let scope' := ofLists [json, ruby] ["**/*.json", "**/*.rb"]
    (∀ selector, selector ∈ [ruby, json, ruby] ↔ selector ∈ [json, ruby]) ∧
      (∀ glob, glob ∈ ["**/*.rb", "**/*.json", "**/*.rb"]
        ↔ glob ∈ ["**/*.json", "**/*.rb"]) ∧
      scope.watchGlobs = ["**/*.rb", "**/*.json"] ∧
      (∀ scheme language, scope.selects scheme language = scope'.selects scheme language) ∧
      ∃ union union', scope.watcher = .ok union ∧ scope'.watcher = .ok union' ∧
        ∀ path, union.isMatch path = union'.isMatch path := by
  intro ruby json scope scope'
  have hsame : ∀ {α : Type} (a b x : α), x ∈ [a, b, a] ↔ x ∈ [b, a] := by
    intro α a b x
    simp only [List.mem_cons, List.not_mem_nil, or_false]
    exact ⟨fun h => h.elim Or.inr id, Or.inr⟩
  obtain ⟨hselects, hwatchers, hmatch⟩ :=
    sets_of_members.1 _ _ _ _ (hsame ruby json) (hsame "**/*.rb" "**/*.json")
  have hkept : scope.watchGlobs = ["**/*.rb", "**/*.json"] := by decide
  have hwatcher : ∃ union, scope.watcher = .ok union := by
    obtain ⟨union, hcompile, -⟩ :=
      GlobUnion.compile_separate (@Language.isExtension_of_mem [.ruby, .json])
    refine ⟨union, ?_⟩
    rw [watcher, hkept]
    exact hcompile
  obtain ⟨union', h'⟩ := hwatchers.mp hwatcher
  obtain ⟨union, h⟩ := hwatcher
  exact ⟨hsame _ _, hsame _ _, hkept, hselects, union, union', h, h', hmatch union union' h h'⟩

end LanguageBridge.Scope
