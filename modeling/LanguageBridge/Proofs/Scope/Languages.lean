import LanguageBridge.Proofs.Glob.Extensions
import LanguageBridge.Scope

set_option autoImplicit false

/-! # The scope of some languages

`Scope.forLanguages` writes selectors and globs separately. They say the same: a language is
selected exactly when the files with its extension are watched (`Scope.selected_iff_watched`).
-/

namespace LanguageBridge

/-- A path has the extension of one of some languages. -/
def HasExtensionOf (languages : List Language) (path : Bytes) : Prop :=
  ∃ language ∈ languages, Glob.EndsIn path language.extension

theorem hasExtensionOf_iff (languages : List Language) (path : Bytes) :
    HasExtensionOf languages path ↔
      ∃ text ∈ languages.map Language.extension, Glob.EndsIn path text := by
  constructor
  · rintro ⟨language, hlanguage, hpath⟩
    exact ⟨_, List.mem_map_of_mem hlanguage, hpath⟩
  · rintro ⟨_, htext, hpath⟩
    obtain ⟨language, hlanguage, rfl⟩ := List.mem_map.mp htext
    exact ⟨language, hlanguage, hpath⟩

theorem Language.isExtension (language : Language) : Glob.IsExtension language.extension := by
  cases language <;> exact ⟨by decide, by simp [extension, Glob.special], by decide⟩

theorem Language.isExtension_of_mem {languages : List Language} :
    ∀ text ∈ languages.map Language.extension, Glob.IsExtension text := by
  intro text htext
  obtain ⟨language, -, rfl⟩ := List.mem_map.mp htext
  exact language.isExtension

theorem Language.id_inj {l l' : Language} : l.id = l'.id ↔ l = l' := by
  cases l <;> cases l' <;> decide

/-- A path that is nothing but a dot and an extension has the extension of one language. -/
theorem Language.eq_of_endsIn {l l' : Language}
    (h : Glob.EndsIn (Path.dot :: Text.utf8Bytes l.extension) l'.extension) : l' = l := by
  cases l <;> cases l' <;> first | rfl | exact absurd h (by decide)

namespace Scope

/-! ## Globs -/

theorem length_globsFor_le (languages : List Language) : (globsFor languages).length ≤ 1 := by
  unfold globsFor
  split <;> simp

theorem eraseDups_globsFor (languages : List Language) :
    (globsFor languages).eraseDups = globsFor languages := by
  unfold globsFor
  split <;> simp [List.eraseDups_cons]

theorem compile_globsFor (languages : List Language) :
    ∃ union, GlobUnion.compile (globsFor languages) = .ok union ∧
      ∀ path, union.isMatch path = true ↔ HasExtensionOf languages path := by
  simp only [hasExtensionOf_iff]
  match languages with
  | [] =>
      refine ⟨⟨[]⟩, rfl, fun path => ?_⟩
      simp [GlobUnion.isMatch]
  | [language] => exact GlobUnion.compile_separate (@Language.isExtension_of_mem [language])
  | first :: second :: more =>
      exact GlobUnion.compile_together (List.cons_ne_nil _ _) Language.isExtension_of_mem

/-- The watcher for some languages watches the paths with their extensions. -/
theorem watcher_forLanguages (languages : List Language) :
    ∃ union, (forLanguages languages).watcher = .ok union ∧
      ∀ path, union.isMatch path = true ↔ HasExtensionOf languages path := by
  obtain ⟨union, hcompile, hmatch⟩ := compile_globsFor languages.eraseDups
  rw [← eraseDups_globsFor] at hcompile
  refine ⟨union, hcompile, fun path => (hmatch path).trans ?_⟩
  simp only [HasExtensionOf, List.mem_eraseDups]

/-! ## Selectors -/

theorem selects_forLanguages (languages : List Language) (scheme id : String) :
    (forLanguages languages).selects scheme id = true ↔
      scheme = fileScheme ∧ ∃ language ∈ languages, id = language.id := by
  simp only [selects, forLanguages, ofLists, List.any_eq_true, List.mem_eraseDups, List.mem_map,
    Bool.and_eq_true, beq_iff_eq]
  constructor
  · rintro ⟨_, ⟨language, hlanguage, rfl⟩, rfl, rfl⟩
    exact ⟨rfl, language, hlanguage, rfl⟩
  · rintro ⟨rfl, language, hlanguage, rfl⟩
    exact ⟨_, ⟨language, hlanguage, rfl⟩, rfl, rfl⟩

/-! ## Together -/

/-- **Selected is watched.** The globs for some languages can be compiled, and what comes out
watches the paths that end in a dot and the extension of one of them. The selectors select the
documents on disk in one of these languages. So a language is selected exactly when all paths with
its extension are watched. There is one glob at most, and it matches what a glob for each language
would match. -/
theorem selected_iff_watched (languages : List Language) :
    ∃ union, (forLanguages languages).watcher = .ok union ∧
      (∀ path, union.isMatch path = true ↔
        ∃ language ∈ languages, Glob.EndsIn path language.extension) ∧
      (∀ scheme id, (forLanguages languages).selects scheme id = true ↔
        scheme = "file" ∧ ∃ language ∈ languages, id = language.id) ∧
      (∀ language : Language, (forLanguages languages).selects "file" language.id = true ↔
        ∀ path, Glob.EndsIn path language.extension → union.isMatch path = true) ∧
      (forLanguages languages).watchGlobs.length ≤ 1 ∧
      ∃ separate, GlobUnion.compile (languages.map fun language => "**/*." ++ language.extension)
          = .ok separate ∧
        ∀ path, union.isMatch path = separate.isMatch path := by
  obtain ⟨union, hwatcher, hmatch⟩ := watcher_forLanguages languages
  refine ⟨union, hwatcher, hmatch, selects_forLanguages languages, fun language => ?_, ?_, ?_⟩
  case refine_1 =>
    rw [selects_forLanguages]
    constructor
    · rintro ⟨-, selected, hselected, hid⟩ path hpath
      rw [Language.id_inj.mp hid] at hpath
      exact (hmatch path).mpr ⟨selected, hselected, hpath⟩
    · intro hwatched
      -- The path that is nothing but the dot and the extension is watched for its language only.
      obtain ⟨watched, hmem, hends⟩ := (hmatch _).mp (hwatched _ (List.suffix_refl _))
      exact ⟨rfl, watched, hmem, by rw [Language.eq_of_endsIn hends]⟩
  case refine_2 =>
    show (globsFor languages.eraseDups).eraseDups.length ≤ 1
    rw [eraseDups_globsFor]
    exact length_globsFor_le _
  case refine_3 =>
    obtain ⟨separate, hcompile, hseparate⟩ :=
      GlobUnion.compile_separate (@Language.isExtension_of_mem languages)
    rw [List.map_map] at hcompile
    refine ⟨separate, hcompile, fun path => Bool.eq_iff_iff.mpr ?_⟩
    rw [hmatch, hseparate, hasExtensionOf_iff]

end Scope
end LanguageBridge
