import LanguageBridge.Proofs.Glob.Compilation
import LanguageBridge.Proofs.Glob.Meaning
import LanguageBridge.Proofs.Path.Pieces

set_option autoImplicit false

/-! # Globs for extensions

Two forms of globs watch files by their extensions: `**/*.x` for one extension and `**/*.{x,y}` for
several. An extension here is a text without characters that mean something in globs and without
dots (`IsExtension`). The reader turns both forms into any name in any directory, a dot, and the
extension or a group of them (`ofText_one`, `ofText_several`). Such a glob matches exactly the paths
that end in a dot and one of its extensions: `GlobUnion.compile_separate` says so of a glob for each
extension, and `GlobUnion.compile_together` of one glob for all of them.
-/

namespace LanguageBridge
namespace Glob

/-- The characters that mean something in a glob. -/
def special : List Char := ['?', '*', '[', '\x7b', '\x7d', ',', '\\']

/-- A text that can stand as an extension in a glob. -/
structure IsExtension (text : String) : Prop where
  nonempty : Text.utf8Bytes text ≠ []
  plain : ∀ c ∈ text.toList, c ∉ special
  noDot : Path.dot ∉ Text.utf8Bytes text

/-- The tokens of a text that stands for itself. -/
def textTokens (text : String) : Glob := text.toList.map .literal

/-- Any name in any directory, with a dot and what follows. -/
def anyNameWith (rest : Glob) : Glob := .anyAbove :: .anyBytes :: .literal '.' :: rest

/-! ## Reading -/

/-- A character that means nothing is added as it is. -/
theorem step_plain (groups : Groups) (before : Option Char) {c : Char} (h : c ∉ special) :
    Reader.step ⟨.nothing, groups, before⟩ c
      = .ok ⟨.nothing, groups.push (.literal c), some c⟩ := by
  simp only [special, List.mem_cons, List.not_mem_nil, or_false, not_or] at h
  obtain ⟨h1, h2, h3, h4, h5, h6, h7⟩ := h
  simp only [Reader.step, Reader.plain, h1, h2, h3, h4, h5, h6, h7, if_false]
  rfl

/-- So is a text of such characters. -/
theorem foldlM_plain (groups : Groups) (before : Option Char) (cs : List Char)
    (h : ∀ c ∈ cs, c ∉ special) :
    ∃ last, cs.foldlM Reader.step ⟨.nothing, groups, before⟩
      = .ok ⟨.nothing, { groups with
          inner.current := (cs.map .literal).reverse ++ groups.inner.current }, last⟩ := by
  induction cs generalizing groups before with
  | nil => exact ⟨before, rfl⟩
  | cons c rest ih =>
      obtain ⟨hc, hrest⟩ := List.forall_mem_cons.mp h
      obtain ⟨last, hlast⟩ := ih (groups.push (.literal c)) (some c) hrest
      refine ⟨last, ?_⟩
      rw [List.foldlM_cons, step_plain groups before hc]
      refine hlast.trans ?_
      rw [List.map_cons, List.reverse_cons, List.append_assoc]
      rfl

/-- The alternatives of a group, up to its end, become the group. -/
theorem foldlM_alternatives (around : Branches) (outer : List Branches) (before : Option Char)
    (finished : List Glob) (text : String) (more : List String)
    (h : ∀ t ∈ text :: more, ∀ c ∈ t.toList, c ∉ special) :
    ((",".intercalate (text :: more)).toList ++ ['\x7d']).foldlM Reader.step
        ⟨.nothing, ⟨⟨finished, []⟩, around :: outer⟩, before⟩
      = .ok ⟨.nothing, ⟨{ around with
          current := .oneOf (finished.reverse ++ (text :: more).map textTokens) :: around.current },
          outer⟩, some '\x7d'⟩ := by
  induction more generalizing text finished before with
  | nil =>
      obtain ⟨last, hlast⟩ := foldlM_plain ⟨⟨finished, []⟩, around :: outer⟩ before text.toList
        (h text List.mem_cons_self)
      rw [String.intercalate_singleton, List.foldlM_append, hlast]
      simp [bind, Except.bind, Reader.step, Reader.plain, Groups.closeGroup, Except.map,
        Reader.settled, textTokens, pure, Except.pure]
  | cons next more ih =>
      obtain ⟨htext, hmore⟩ := List.forall_mem_cons.mp h
      obtain ⟨last, hlast⟩ :=
        foldlM_plain ⟨⟨finished, []⟩, around :: outer⟩ before text.toList htext
      have hrest := ih (some ',') (textTokens text :: finished) next hmore
      rw [String.intercalate_cons_cons, String.toList_append, String.toList_append,
        List.append_assoc, List.append_assoc, List.foldlM_append, hlast]
      -- The comma ends the alternative, and the rest is read with it among the finished ones.
      have hcomma : Reader.step ⟨.nothing, ⟨⟨finished,
          (text.toList.map GlobToken.literal).reverse ++ []⟩, around :: outer⟩, last⟩ ','
          = .ok ⟨.nothing, ⟨⟨textTokens text :: finished, []⟩, around :: outer⟩, some ','⟩ := by
        simp [Reader.step, Reader.plain, Groups.inGroup, Groups.nextBranch, Reader.settled,
          textTokens]
      show List.foldlM Reader.step ⟨.nothing, ⟨⟨finished, _⟩, around :: outer⟩, last⟩
        (',' :: ((",".intercalate (next :: more)).toList ++ ['\x7d'])) = _
      rw [List.foldlM_cons, hcomma]
      refine hrest.trans ?_
      simp

/-- The texts of globs for extensions begin with any name in any directory, and a dot. -/
theorem foldlM_anyName : ("**/*.".toList).foldlM Reader.step Reader.start
    = .ok ⟨.nothing, ⟨⟨[], [.literal '.', .anyBytes, .anyAbove]⟩, []⟩, some '.'⟩ := by
  rfl

theorem ofText_one {text : String} (h : IsExtension text) :
    ofText ("**/*." ++ text) = .ok (anyNameWith (textTokens text)) := by
  obtain ⟨last, hlast⟩ := foldlM_plain ⟨⟨[], [.literal '.', .anyBytes, .anyAbove]⟩, []⟩ (some '.')
    text.toList h.plain
  have hread : ("**/*." ++ text).toList.foldlM Reader.step Reader.start
      = .ok ⟨.nothing, ⟨⟨[], (text.toList.map GlobToken.literal).reverse
          ++ [.literal '.', .anyBytes, .anyAbove]⟩, []⟩, last⟩ := by
    rw [String.toList_append, List.foldlM_append, foldlM_anyName]
    exact hlast
  rw [ofText, hread]
  simp [bind, Except.bind, Reader.finish, Groups.finish, Groups.inGroup, anyNameWith, textTokens]

theorem ofText_several {texts : List String} (hne : texts ≠ []) (h : ∀ t ∈ texts, IsExtension t) :
    ofText ("**/*.\x7b" ++ ",".intercalate texts ++ "\x7d")
      = .ok (anyNameWith [.oneOf (texts.map textTokens)]) := by
  obtain ⟨text, more, rfl⟩ := List.exists_cons_of_ne_nil hne
  have hread : ("**/*.\x7b" ++ ",".intercalate (text :: more) ++ "\x7d").toList.foldlM
        Reader.step Reader.start
      = .ok ⟨.nothing, ⟨⟨[], [.oneOf ((text :: more).map textTokens), .literal '.', .anyBytes,
          .anyAbove]⟩, []⟩, some '\x7d'⟩ := by
    have hopen : ("**/*.\x7b".toList).foldlM Reader.step Reader.start
        = .ok ⟨.nothing, ⟨⟨[], []⟩, [⟨[], [.literal '.', .anyBytes, .anyAbove]⟩]⟩,
            some '\x7b'⟩ := rfl
    rw [String.toList_append, String.toList_append, List.append_assoc, List.foldlM_append, hopen]
    exact foldlM_alternatives _ [] _ [] text more fun t ht => (h t ht).plain
  rw [ofText, hread]
  rfl

/-! ## Matching -/

/-- A path ends in a dot and an extension. -/
def EndsIn (path : Bytes) (text : String) : Prop := Path.dot :: Text.utf8Bytes text <:+ path

instance (path : Bytes) (text : String) : Decidable (EndsIn path text) :=
  inferInstanceAs (Decidable (_ <:+ _))

theorem readsAll_anyNameWith (rest : Glob) (path : Bytes) :
    ReadsAll (anyNameWith rest) path ↔
      ∃ stem s, path = stem ++ Path.dot :: s ∧ ReadsAll rest s := by
  constructor
  · rintro ⟨above, _, rfl, -, name, _, rfl, -, _, s, rfl, hdot, hs⟩
    rw [show _ = [Path.dot] from hdot]
    exact ⟨above ++ name, s, by simp, hs⟩
  · rintro ⟨stem, s, rfl, hs⟩
    exact ⟨[], _, rfl, Or.inl rfl, stem, _, rfl, trivial, [Path.dot], s, rfl, rfl, hs⟩

theorem readsAll_textTokens (text : String) (s : Bytes) :
    ReadsAll (textTokens text) s ↔ s = Text.utf8Bytes text :=
  readsAll_text text.toList s

/-- A text with characters in it is not void. -/
theorem isVoidGlob_textTokens {text : String} (h : IsExtension text) :
    isVoidGlob (textTokens text) = false := by
  have hne : text.toList ≠ [] := fun hnil => h.nonempty (by rw [Text.utf8Bytes, hnil]; rfl)
  obtain ⟨c, cs, hcs⟩ := List.exists_cons_of_ne_nil hne
  rw [textTokens, hcs]
  rfl

theorem readsAll_oneOf {texts : List String} (hne : texts ≠ []) (h : ∀ t ∈ texts, IsExtension t)
    (s : Bytes) :
    ReadsAll [.oneOf (texts.map textTokens)] s ↔ ∃ t ∈ texts, s = Text.utf8Bytes t := by
  have hvoid : allVoid (texts.map textTokens) = false := by
    obtain ⟨text, more, rfl⟩ := List.exists_cons_of_ne_nil hne
    rw [List.map_cons, allVoid, isVoidGlob_textTokens (h text List.mem_cons_self)]
    rfl
  have hone : Reads (.oneOf (texts.map textTokens)) s ↔ ∃ t ∈ texts, s = Text.utf8Bytes t := by
    rw [Reads, hvoid, if_neg Bool.false_ne_true, readsOne_iff]
    constructor
    · rintro ⟨_, hg, -, hs⟩
      obtain ⟨t, ht, rfl⟩ := List.mem_map.mp hg
      exact ⟨t, ht, (readsAll_textTokens t s).mp hs⟩
    · rintro ⟨t, ht, rfl⟩
      exact ⟨_, List.mem_map_of_mem ht, isVoidGlob_textTokens (h t ht),
        (readsAll_textTokens t _).mpr rfl⟩
  rw [← hone]
  constructor
  · rintro ⟨a, _, rfl, ha, rfl⟩
    rw [List.append_nil]
    exact ha
  · intro hs
    exact ⟨s, [], (List.append_nil s).symm, hs, rfl⟩

/-- A path that ends in a dot and an extension does not end in `..`. -/
theorem endsUp_of_endsIn {path : Bytes} {text : String} (htext : IsExtension text)
    (h : EndsIn path text) : endsUp path = false := by
  refine Bool.eq_false_iff.mpr fun hup => ?_
  have hdots : [Path.dot] <:+ path :=
    (List.suffix_append [Path.dot] [Path.dot]).trans
      (Path.suffix_of_getLast?_pieces (eq_of_beq hup))
  have hbytes : Text.utf8Bytes text <:+ path := (List.suffix_cons _ _).trans h
  -- Both are ends of the path, so the dot would be the last byte of the extension.
  have hlast : [Path.dot] <:+ Text.utf8Bytes text :=
    List.suffix_of_suffix_length_le hdots hbytes (List.length_pos_iff.mpr htext.nonempty)
  exact htext.noDot (hlast.subset List.mem_cons_self)

/-! ## Depth -/

theorem globDepth_textTokens (text : String) : (globDepth (textTokens text)).2 = 0 := by
  rw [textTokens]
  induction text.toList with
  | nil => rfl
  | cons c cs ih =>
      rw [List.map_cons, globDepth]
      exact Nat.max_eq_zero_iff.mpr ⟨rfl, ih⟩

/-- A text as an alternative is a sequence at most. -/
theorem branchesDepth_le (texts : List String) : (branchesDepth (texts.map textTokens)).2 ≤ 1 := by
  induction texts with
  | nil => exact Nat.zero_le 1
  | cons text more ih =>
      have hsequence : sequenceDepth (globDepth (textTokens text)).1 0 ≤ 1 := by
        rw [sequenceDepth]
        split <;> omega
      rw [← globDepth_textTokens text] at hsequence
      simp only [List.map_cons, branchesDepth]
      split
      · exact ih
      · exact Nat.max_le.mpr ⟨hsequence, ih⟩

theorem globDepth_oneOf_le (texts : List String) :
    (globDepth [.oneOf (texts.map textTokens)]).2 ≤ 3 := by
  have hinside := branchesDepth_le texts
  simp only [globDepth, tokenDepth]
  split <;> omega

/-- The directories of any name are deeper than all that is said of the name. -/
theorem depth_anyNameWith {rest : Glob} (h : (globDepth rest).2 ≤ 4) :
    depth (anyNameWith rest) = 5 := by
  simp only [depth, anyNameWith, globDepth, tokenDepth]
  omega

end Glob

/-! ## Unions -/

namespace GlobUnion

open Glob

variable {α : Type}

/-- Globs that are read one by one, and are not too deep, make a union. -/
theorem compile_map (text : α → String) (glob : α → Glob) (items : List α)
    (hread : ∀ item ∈ items, ofText (text item) = .ok (glob item))
    (hdepth : ∀ item ∈ items, depth (glob item) ≤ maxDepth) :
    compile (items.map text) = .ok ⟨items.map glob⟩ := by
  refine compile_eq_ok_iff.mpr ⟨?_, fun g hg => ?_⟩
  · rw [List.map_map, List.map_map]
    exact List.map_congr_left hread
  · obtain ⟨item, hitem, rfl⟩ := List.mem_map.mp hg
    simp [Shallow, tooDeep, Nat.not_lt.mpr (hdepth item hitem)]

/-- Globs for names, each with some extensions, match the paths that end in a dot and one of these
extensions. -/
theorem compile_names (text : α → String) (rest : α → Glob) (extensions : α → List String)
    (items : List α) (hread : ∀ item ∈ items, ofText (text item) = .ok (anyNameWith (rest item)))
    (hdepth : ∀ item ∈ items, (globDepth (rest item)).2 ≤ 4)
    (hrest : ∀ item ∈ items, ∀ s, ReadsAll (rest item) s ↔
      ∃ t ∈ extensions item, s = Text.utf8Bytes t)
    (hext : ∀ item ∈ items, ∀ t ∈ extensions item, IsExtension t) :
    ∃ union, compile (items.map text) = .ok union ∧
      ∀ path, union.isMatch path = true ↔
        ∃ item ∈ items, ∃ t ∈ extensions item, EndsIn path t := by
  have hshallow : ∀ item ∈ items, depth (anyNameWith (rest item)) ≤ maxDepth := by
    intro item hitem
    rw [depth_anyNameWith (hdepth item hitem)]
    decide
  have hmatch : ∀ item ∈ items, ∀ path, Glob.isMatch (anyNameWith (rest item)) path = true ↔
      ∃ t ∈ extensions item, EndsIn path t := by
    intro item hitem path
    have hreads : Glob.isMatch (anyNameWith (rest item)) path = true ↔
        ReadsAll (anyNameWith (rest item)) path := by
      rw [isMatch_iff, anyNameWith]
      simp
    rw [hreads, readsAll_anyNameWith]
    constructor
    · rintro ⟨stem, s, rfl, hs⟩
      obtain ⟨t, ht, rfl⟩ := (hrest item hitem s).mp hs
      exact ⟨t, ht, List.suffix_append stem _⟩
    · rintro ⟨t, ht, stem, rfl⟩
      exact ⟨stem, _, rfl, (hrest item hitem _).mpr ⟨t, ht, rfl⟩⟩
  refine ⟨_, compile_map text (fun item => anyNameWith (rest item)) items hread hshallow,
    fun path => ?_⟩
  rw [isMatch, List.any_map, List.any_eq_true]
  constructor
  · rintro ⟨item, hitem, h⟩
    exact ⟨item, hitem, (hmatch item hitem path).mp (Bool.and_eq_true_iff.mp h).1⟩
  · rintro ⟨item, hitem, t, ht, hpath⟩
    refine ⟨item, hitem, Bool.and_eq_true_iff.mpr
      ⟨(hmatch item hitem path).mpr ⟨t, ht, hpath⟩, ?_⟩⟩
    rw [endsUp_of_endsIn (hext item hitem t ht) hpath, Bool.and_false]
    rfl

/-- **One glob for each extension** matches the paths that end in one of the extensions. -/
theorem compile_separate {texts : List String} (h : ∀ t ∈ texts, IsExtension t) :
    ∃ union, compile (texts.map ("**/*." ++ ·)) = .ok union ∧
      ∀ path, union.isMatch path = true ↔ ∃ t ∈ texts, EndsIn path t := by
  obtain ⟨union, hcompile, hmatch⟩ := compile_names ("**/*." ++ ·) textTokens (fun t => [t]) texts
    (fun t ht => ofText_one (h t ht))
    (fun t _ => by rw [globDepth_textTokens]; exact Nat.zero_le 4)
    (fun t _ s => by rw [readsAll_textTokens]; simp)
    (fun t ht _ htext => List.mem_singleton.mp htext ▸ h t ht)
  refine ⟨union, hcompile, fun path => (hmatch path).trans ?_⟩
  simp only [List.mem_singleton, exists_eq_left]

/-- **One glob for several extensions** matches the same paths. -/
theorem compile_together {texts : List String} (hne : texts ≠ [])
    (h : ∀ t ∈ texts, IsExtension t) :
    ∃ union, compile ["**/*.\x7b" ++ ",".intercalate texts ++ "\x7d"] = .ok union ∧
      ∀ path, union.isMatch path = true ↔ ∃ t ∈ texts, EndsIn path t := by
  obtain ⟨union, hcompile, hmatch⟩ := compile_names
    (fun _ : Unit => "**/*.\x7b" ++ ",".intercalate texts ++ "\x7d")
    (fun _ => [.oneOf (texts.map textTokens)]) (fun _ => texts) [()]
    (fun _ _ => ofText_several hne h)
    (fun _ _ => Nat.le_succ_of_le (globDepth_oneOf_le texts))
    (fun _ _ s => readsAll_oneOf hne h s) (fun _ _ => h)
  refine ⟨union, hcompile, fun path => (hmatch path).trans ?_⟩
  simp

end GlobUnion
end LanguageBridge
