import LanguageBridge.Document
import LanguageBridge.Proofs.Path.Pieces
import LanguageBridge.Proofs.Uri.Percent
import Mathlib.Data.List.Basic

set_option autoImplicit false

/-! # File paths as URIs and back

A URI of a file holds the components of its path, so the path that it gives back is the one that is
spelled with single separators, without `.` and without a separator at its end (`Path.spelled`). A
separator is added where this looks like the name of a drive (`Path.NamesDrive`). Either way the
path that comes back has the components of the path that went in, so two paths have one URI exactly
when they have the same components (`fileChange_roundtrip`).
-/

namespace LanguageBridge

namespace Path

/-- The path from the root with these components. -/
def spelled (names : List PathComponent) : Path :=
  separator :: [separator].intercalate (names.map Uri.componentBytes)

/-- A path of more than two bytes that ends in an ASCII letter and `:` or `|`. -/
def NamesDrive (p : Path) : Prop :=
  2 < p.length ∧ ∃ letter mark, [letter, mark] <:+ p ∧
    (0x41 ≤ letter ∧ letter ≤ 0x5A ∨ 0x61 ≤ letter ∧ letter ≤ 0x7A) ∧ (mark = 0x3A ∨ mark = 0x7C)

/-! ## Components -/

/-- A component that its bytes stand for, wherever they stand between separators. -/
def IsOrdinary (c : PathComponent) : Prop :=
  component? (Uri.componentBytes c) = some c ∧ separator ∉ Uri.componentBytes c

theorem componentBytes_of_component? {piece : Bytes} {c : PathComponent}
    (h : component? piece = some c) : Uri.componentBytes c = piece := by
  rw [component?] at h
  split at h
  · cases h
  · split at h
    case isTrue hup =>
      cases h
      exact hup.symm
    case isFalse =>
      cases h
      rfl

/-- The names in a path, whether it begins with a separator or not. -/
def names (p : Path) : List PathComponent := (pieces p).filterMap component?

theorem isOrdinary_of_mem_names {p : Path} {c : PathComponent} (h : c ∈ names p) :
    IsOrdinary c := by
  obtain ⟨piece, hpiece, hc⟩ := List.mem_filterMap.mp h
  rw [IsOrdinary, componentBytes_of_component? hc]
  exact ⟨hc, separator_notMem_of_mem_pieces hpiece⟩

theorem components_of_isAbsolute {p : Path} (h : isAbsolute p = true) :
    components p = .root :: names p := by
  rw [components, if_pos h, names]

/-- A path that is not absolute has no root. -/
theorem head?_components_of_isAbsolute {p : Path} (h : isAbsolute p = false) :
    (components p).head? ≠ some .root := by
  have hnames : (names p).head? ≠ some .root := by
    intro hroot
    have hmem := List.mem_of_head? hroot
    exact absurd (isOrdinary_of_mem_names hmem).1 (by decide)
  rw [components, if_neg (Bool.eq_false_iff.mp h)]
  split
  · exact fun hroot => PathComponent.noConfusion (Option.some.inj hroot)
  · exact hnames

/-! ## Spelling -/

theorem spelled_cons (c : PathComponent) (more : List PathComponent) :
    spelled (c :: more) = (c :: more).flatMap fun c => separator :: Uri.componentBytes c := by
  induction more generalizing c with
  | nil => simp [spelled]
  | cons next more ih =>
      have hnext := ih next
      rw [spelled] at hnext ⊢
      rw [List.flatMap_cons, ← hnext, List.map_cons, List.map_cons, List.intercalate_cons_cons]
      simp

theorem names_spelled {ns : List PathComponent} (h : ∀ c ∈ ns, IsOrdinary c) :
    names (spelled ns) = ns := by
  by_cases hns : ns = []
  · subst hns
    rfl
  have hpieces : pieces ([separator].intercalate (ns.map Uri.componentBytes))
      = ns.map Uri.componentBytes := by
    refine pieces_intercalate (fun hnil => hns (List.map_eq_nil_iff.mp hnil)) fun name hname => ?_
    obtain ⟨c, hc, rfl⟩ := List.mem_map.mp hname
    exact (h c hc).2
  rw [names, spelled, pieces_separator, List.filterMap_cons_none rfl, hpieces, List.filterMap_map]
  calc ns.filterMap (component? ∘ Uri.componentBytes)
      = ns.filterMap some := List.filterMap_congr fun c hc => (h c hc).1
    _ = ns := List.filterMap_some

/-- A separator at the end adds no name. -/
theorem names_append_separator (p : Path) : names (p ++ [separator]) = names p := by
  rw [names, pieces_append, List.filterMap_append]
  exact List.append_nil _

end Path

namespace Uri

/-! ## There and back -/

/-- The reader of URIs finds the names of drives. -/
theorem endsInDrive_iff (p : Bytes) : endsInDrive p = true ↔ Path.NamesDrive p := by
  constructor
  · intro h
    rw [endsInDrive] at h
    split at h
    case h_1 mark letter b before hp =>
      have hsplit : p = (b :: before).reverse ++ [letter, mark] := by
        rw [← List.reverse_reverse p, hp]
        simp
      simp only [Bool.and_eq_true, Bool.or_eq_true, beq_iff_eq, decide_eq_true_eq] at h
      refine ⟨?_, letter, mark, ?_, h.2, h.1⟩
      · rw [hsplit]
        simp
      · rw [hsplit]
        exact List.suffix_append _ _
    case h_2 => cases h
  · rintro ⟨hlen, letter, mark, ⟨stem, rfl⟩, hletter, hmark⟩
    have hne : stem ≠ [] := fun hnil => absurd hlen (by rw [hnil]; exact Nat.lt_irrefl 2)
    obtain ⟨b, before, hstem⟩ := List.exists_cons_of_ne_nil (mt List.reverse_eq_nil_iff.mp hne)
    have hreverse : (stem ++ [letter, mark]).reverse = mark :: letter :: b :: before := by
      rw [List.reverse_append, hstem]
      rfl
    simp only [endsInDrive, hreverse, Bool.and_eq_true, Bool.or_eq_true, beq_iff_eq,
      decide_eq_true_eq]
    exact ⟨hmark, hletter⟩

end Uri

instance (p : Path) : Decidable (Path.NamesDrive p) := decidable_of_iff _ (Uri.endsInDrive_iff p)

namespace Uri

theorem decode_slash (rest : List Char) :
    Percent.decode ('/' :: rest) = Path.separator :: Percent.decode rest :=
  @Percent.decode_plain '/'.toNat (by decide) (by decide) rest

/-- The path of a URI of a file is read as the path that is spelled. -/
theorem decode_filePathText {ns : List PathComponent} :
    Percent.decode (filePathText ns) = Path.spelled ns := by
  have hnames : ∀ more : List PathComponent, Percent.decode (more.flatMap fun c =>
      '/' :: Percent.encode Percent.plainInComponent (componentBytes c))
      = more.flatMap fun c => Path.separator :: componentBytes c := by
    intro more
    induction more with
    | nil => exact Percent.decode_nil
    | cons c more ih =>
        rw [List.flatMap_cons, List.flatMap_cons, ← ih, List.cons_append, List.cons_append,
          ← Percent.decode_encode_append Percent.isSafe_plainInComponent]
        exact decode_slash _
  cases ns with
  | nil => exact (decode_slash []).trans (by rw [Percent.decode_nil]; rfl)
  | cons c more =>
      rw [Path.spelled_cons, ← hnames]
      rfl

theorem filePathText_eq_cons (ns : List PathComponent) : ∃ rest, filePathText ns = '/' :: rest := by
  cases ns with
  | nil => exact ⟨[], rfl⟩
  | cons c more => exact ⟨_, rfl⟩

theorem toNat_lt_of_mem_filePathText {ns : List PathComponent} {c : Char}
    (h : c ∈ filePathText ns) : c.toNat < 0x80 := by
  rw [filePathText] at h
  split at h
  · rw [List.mem_singleton.mp h]
    decide
  · obtain ⟨name, -, h⟩ := List.mem_flatMap.mp h
    rcases List.mem_cons.mp h with rfl | h
    · decide
    · exact Percent.toNat_lt_of_mem_encode Percent.isSafe_plainInComponent h

/-- The URI of the file whose path has these names. -/
def ofNames (ns : List PathComponent) : Uri :=
  ⟨"file", some noHost, String.ofList (filePathText ns), none, none⟩

theorem ofFilePath?_of_isAbsolute {p : Path} (h : Path.isAbsolute p = true) :
    ofFilePath? p = some (ofNames (Path.names p)) := by
  rw [ofFilePath?, Path.components_of_isAbsolute h]
  rfl

theorem ofFilePath?_eq_none {p : Path} (h : Path.isAbsolute p = false) : ofFilePath? p = none := by
  have hroot := Path.head?_components_of_isAbsolute h
  unfold ofFilePath?
  split
  case h_1 rest heq =>
    rw [heq] at hroot
    exact absurd rfl hroot
  case h_2 => rfl

theorem toFilePath?_ofNames (ns : List PathComponent) :
    (ofNames ns).toFilePath? = some (if Path.NamesDrive (Path.spelled ns)
      then Path.spelled ns ++ [Path.separator] else Path.spelled ns) := by
  obtain ⟨rest, hrest⟩ := filePathText_eq_cons ns
  have hdecode := @decode_filePathText ns
  simp only [toFilePath?, ofNames, noHost, String.toList_ofList, ← endsInDrive_iff, ← hdecode]
  rw [hrest]
  rfl

theorem text_ofNames (ns : List PathComponent) :
    (ofNames ns).text = "file://" ++ String.ofList (filePathText ns) := by
  simp [text, ofNames, noHost, authorityText]

theorem toNat_lt_of_mem_text {ns : List PathComponent} {c : Char}
    (h : c ∈ (ofNames ns).text.toList) : c.toNat < 0x80 := by
  rw [text_ofNames, String.toList_append] at h
  rcases List.mem_append.mp h with h | h
  · have hall : ∀ c ∈ "file://".toList, c.toNat < 0x80 := by simp
    exact hall c h
  · rw [String.toList_ofList] at h
    exact toNat_lt_of_mem_filePathText h

/-- The URI of a file gives back a path with the components of the path of the file. -/
theorem components_of_toFilePath? {ns : List PathComponent} (h : ∀ c ∈ ns, Path.IsOrdinary c) :
    ∃ back, (ofNames ns).toFilePath? = some back ∧ Path.components back = .root :: ns := by
  refine ⟨_, toFilePath?_ofNames ns, ?_⟩
  split
  · have habsolute : Path.isAbsolute (Path.spelled ns ++ [Path.separator]) = true := rfl
    rw [Path.components_of_isAbsolute habsolute, Path.names_append_separator, Path.names_spelled h]
  · have habsolute : Path.isAbsolute (Path.spelled ns) = true := rfl
    rw [Path.components_of_isAbsolute habsolute, Path.names_spelled h]

theorem ofNames_inj {ms ns : List PathComponent} (hm : ∀ c ∈ ms, Path.IsOrdinary c)
    (hn : ∀ c ∈ ns, Path.IsOrdinary c) : ofNames ms = ofNames ns ↔ ms = ns := by
  constructor
  · intro h
    obtain ⟨back, hback, hms⟩ := components_of_toFilePath? hm
    obtain ⟨other, hother, hns⟩ := components_of_toFilePath? hn
    rw [h, hother] at hback
    obtain rfl := Option.some.inj hback
    exact (List.cons.inj (hms.symm.trans hns)).2
  · exact congrArg ofNames

theorem text_ofNames_inj {ms ns : List PathComponent} :
    (ofNames ms).text = (ofNames ns).text ↔ ofNames ms = ofNames ns := by
  rw [text_ofNames, text_ofNames]
  simp [ofNames]

end Uri

/-! ## Changes of files -/

theorem fileChange_of_isAbsolute {p : Path} (h : Path.isAbsolute p = true) (kind : Int) :
    fileChange p kind = .ok ⟨Uri.ofNames (Path.names p), kind⟩ := by
  rw [fileChange, Uri.ofFilePath?_of_isAbsolute h]

theorem fileChange_of_not_isAbsolute {p : Path} (h : Path.isAbsolute p = false) (kind : Int) :
    fileChange p kind = .error (.invalidPath ("not an absolute path: " ++ Path.display p)) := by
  rw [fileChange, Uri.ofFilePath?_eq_none h]

/-- **There and back.** The change of a file is refused exactly for a path that is not absolute. For
an absolute path, the URI of the change gives back the path that is spelled with the same
components, with a separator after what looks like the name of a drive. The URI is ASCII, and two
absolute paths have the same URI, and URIs with the same text, exactly when they have the same
components. -/
theorem fileChange_roundtrip (p : Path) (kind : Int) :
    ((∃ message, fileChange p kind = .error (.invalidPath message)) ↔ Path.isAbsolute p = false) ∧
    (Path.isAbsolute p = true → ∃ ns uri,
      Path.components p = .root :: ns ∧ fileChange p kind = .ok ⟨uri, kind⟩ ∧
      uri.toFilePath? = some (if Path.NamesDrive (Path.spelled ns)
        then Path.spelled ns ++ [Path.separator] else Path.spelled ns) ∧
      (∀ c ∈ uri.text.toList, c.toNat < 0x80) ∧
      ∀ q, Path.isAbsolute q = true → ∃ other, fileChange q kind = .ok ⟨other, kind⟩ ∧
        (uri = other ↔ Path.components p = Path.components q) ∧
        (uri.text = other.text ↔ Path.components p = Path.components q)) := by
  refine ⟨⟨?_, fun h => ⟨_, fileChange_of_not_isAbsolute h kind⟩⟩, fun hp => ?_⟩
  case refine_1 =>
    rintro ⟨message, herror⟩
    cases hp : Path.isAbsolute p with
    | false => rfl
    | true =>
        rw [fileChange_of_isAbsolute hp] at herror
        cases herror
  case refine_2 =>
    have hordinary : ∀ p, ∀ c ∈ Path.names p, Path.IsOrdinary c :=
      fun p c hc => Path.isOrdinary_of_mem_names hc
    refine ⟨Path.names p, Uri.ofNames (Path.names p), Path.components_of_isAbsolute hp,
      fileChange_of_isAbsolute hp kind, Uri.toFilePath?_ofNames _,
      fun c hc => Uri.toNat_lt_of_mem_text hc, fun q hq => ?_⟩
    refine ⟨Uri.ofNames (Path.names q), fileChange_of_isAbsolute hq kind, ?_⟩
    rw [Uri.text_ofNames_inj, Uri.ofNames_inj (hordinary p) (hordinary q),
      Path.components_of_isAbsolute hp, Path.components_of_isAbsolute hq, List.cons_inj_right]
    exact ⟨Iff.rfl, Iff.rfl⟩

end LanguageBridge
