import LanguageBridge.Proofs.Scope.Languages
import LanguageBridge.Proofs.Uri.FilePath

set_option autoImplicit false

/-! # Extensions of files

Two parts of the program tell the extension of a file: the globs, by the path that the URI of the
file gives back, and `languageForPath?`, by the last dot in the name of the file. Both are measured
by the last component of the path (`NameHasExtensionOf`). The globs agree with it
(`watched_iff_name`), and so does `languageForPath?` where it finds a language
(`nameHasExtensionOf_of_languageForPath?`). It does not find all: a file named `.rb` has no
extension for it.
-/

namespace LanguageBridge

/-- The last component of a path ends in a dot and the extension of one of some languages. -/
def NameHasExtensionOf (languages : List Language) (p : Path) : Prop :=
  ∃ c ∈ (Path.components p).getLast?, HasExtensionOf languages (Uri.componentBytes c)

instance (languages : List Language) (path : Bytes) :
    Decidable (HasExtensionOf languages path) :=
  inferInstanceAs (Decidable (∃ language ∈ languages, Glob.EndsIn path language.extension))

instance (languages : List Language) (p : Path) : Decidable (NameHasExtensionOf languages p) :=
  inferInstanceAs (Decidable (∃ c ∈ (Path.components p).getLast?,
    HasExtensionOf languages (Uri.componentBytes c)))

variable {languages : List Language} {l : Language} {p stem tail : Bytes}

/-! ## Ends of paths -/

theorem Language.separator_notMem (l : Language) :
    Path.separator ∉ Path.dot :: Text.utf8Bytes l.extension := by
  cases l <;> decide

/-- What has an extension does not end in what follows the letter of a drive. -/
theorem Path.not_namesDrive_of_endsIn (h : Glob.EndsIn p l.extension) : ¬ NamesDrive p := by
  rintro ⟨-, letter, mark, hdrive, -, hmark⟩
  have hlast : [mark] <:+ p := (List.suffix_cons letter [mark]).trans hdrive
  have hsuffix : [mark] <:+ dot :: Text.utf8Bytes l.extension :=
    List.suffix_of_suffix_length_le hlast h (Nat.succ_le_succ (Nat.zero_le _))
  rcases hmark with rfl | rfl <;> cases l <;> exact absurd hsuffix (by decide)

/-- Only what follows the last separator counts. -/
theorem hasExtensionOf_separator_iff :
    HasExtensionOf languages (stem ++ Path.separator :: tail) ↔ HasExtensionOf languages tail := by
  simp only [HasExtensionOf, Glob.EndsIn, Path.suffix_separator_iff (Language.separator_notMem _)]

theorem not_hasExtensionOf_nil : ¬ HasExtensionOf languages [] := by
  rintro ⟨language, -, h⟩
  cases List.eq_nil_of_suffix_nil h

/-! ## The path that a URI gives back -/

theorem Path.spelled_of_getLast? {ns : List PathComponent} {c : PathComponent}
    (h : ns.getLast? = some c) :
    ∃ stem, spelled ns = stem ++ separator :: Uri.componentBytes c := by
  obtain ⟨before, rfl⟩ := List.getLast?_eq_some_iff.mp h
  cases hns : before ++ [c] with
  | nil => simp at hns
  | cons first more =>
      rw [spelled_cons, ← hns, List.flatMap_append, List.flatMap_singleton]
      exact ⟨_, rfl⟩

/-- The path that is spelled has the extension of its last name. -/
theorem hasExtensionOf_spelled_iff (ns : List PathComponent) :
    HasExtensionOf languages (Path.spelled ns) ↔
      ∃ c ∈ ns.getLast?, HasExtensionOf languages (Uri.componentBytes c) := by
  cases hlast : ns.getLast? with
  | none =>
      rw [List.getLast?_eq_none_iff.mp hlast]
      have hroot := @hasExtensionOf_separator_iff languages [] []
      exact iff_of_false (fun h => not_hasExtensionOf_nil (hroot.mp h)) (by simp)
  | some c =>
      obtain ⟨stem, hstem⟩ := Path.spelled_of_getLast? hlast
      rw [hstem, hasExtensionOf_separator_iff]
      simp

/-- **The URI tells the extension.** The path that the URI of a file gives back has the extension of
one of some languages exactly if the last component of the path of the file does. -/
theorem watched_iff_name (hp : Path.isAbsolute p = true) :
    ∃ back, (Uri.ofNames (Path.names p)).toFilePath? = some back ∧
      (HasExtensionOf languages back ↔ NameHasExtensionOf languages p) := by
  refine ⟨_, Uri.toFilePath?_ofNames _, ?_⟩
  have hspelled : HasExtensionOf languages (Path.spelled (Path.names p)) ↔
      NameHasExtensionOf languages p := by
    rw [hasExtensionOf_spelled_iff, NameHasExtensionOf, Path.components_of_isAbsolute hp]
    cases Path.names p with
    | nil => simp [Uri.componentBytes, not_hasExtensionOf_nil]
    | cons first more => rw [List.getLast?_cons_cons]
  split
  case isTrue hdrive =>
    rw [hasExtensionOf_separator_iff, ← hspelled]
    refine iff_of_false not_hasExtensionOf_nil ?_
    rintro ⟨language, -, h⟩
    exact Path.not_namesDrive_of_endsIn h hdrive
  case isFalse => exact hspelled

/-! ## The language of a path -/

theorem Path.getLast?_of_fileName? {name : Bytes} (h : fileName? p = some name) :
    (components p).getLast? = some (.name name) := by
  unfold fileName? at h
  split at h
  case h_1 bytes hlast =>
    rw [hlast, Option.some.inj h]
  case h_2 => cases h

/-- An extension follows a dot in the name. -/
theorem Path.suffix_of_extension? {ext : Bytes} (h : extension? p = some ext) :
    ∃ name, fileName? p = some name ∧ dot :: ext <:+ name := by
  obtain ⟨name, hname, h⟩ := Option.bind_eq_some_iff.mp h
  refine ⟨name, hname, ?_⟩
  have hparts := List.takeWhile_append_dropWhile (p := (· ≠ dot)) (l := name.reverse)
  have hrest : name.reverse.drop (name.reverse.takeWhile (· ≠ dot)).length
      = name.reverse.dropWhile (· ≠ dot) := by
    conv => lhs; arg 2; rw [← hparts]
    exact List.drop_left
  have hstop := List.head?_dropWhile_not (· ≠ dot) name.reverse
  dsimp only at h
  rw [hrest] at h
  split at h
  case h_1 b before hdrop =>
    rw [hdrop] at hparts hstop
    have hb : b = dot := by simpa using hstop
    have hext : (name.reverse.takeWhile (· ≠ dot)).reverse = ext := by
      split at h
      · cases h
      · exact Option.some.inj h
    have hname : name = before.reverse ++ dot :: ext := by
      rw [← List.reverse_reverse name, ← hparts, ← hext, hb]
      simp
    rw [hname]
    exact List.suffix_append _ _
  case h_2 => cases h

/-- **A file with a language has its extension.** -/
theorem nameHasExtensionOf_of_languageForPath? (h : languageForPath? p = some l)
    (hl : l ∈ languages) : NameHasExtensionOf languages p := by
  obtain ⟨text, htext, hlanguage⟩ := Option.bind_eq_some_iff.mp h
  obtain ⟨ext, hext, hdecode⟩ := Option.bind_eq_some_iff.mp htext
  obtain ⟨name, hname, hsuffix⟩ := Path.suffix_of_extension? hext
  have hspells : l.extension = text := by simpa using List.find?_some hlanguage
  rw [Text.eq_utf8Bytes_of_decode? hdecode, ← hspells] at hsuffix
  exact ⟨_, Path.getLast?_of_fileName? hname, l, hl, hsuffix⟩

/-- The converse fails for hidden files without a further dot. -/
example : languageForPath? (Path.ofText "/lib/.rb") = none ∧
    NameHasExtensionOf [.ruby] (Path.ofText "/lib/.rb") := by decide

end LanguageBridge
