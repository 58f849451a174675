import LanguageBridge.Proofs.Bridge.Documents
import LanguageBridge.Proofs.Scope.Names

set_option autoImplicit false

/-! # Changes of files

A ready bridge hands changes of files to its server if they are watched. What a session watches is
what its scope says (`Watching`), in every state of every run. So a bridge with the scope of some
languages reports the changes of the files whose names have their extensions, and no others
(`files_reported`).
-/

namespace LanguageBridge

/-! ## Sessions -/

/-- A session with the scope of some languages watches the files whose names have their
extensions. -/
theorem Session.watches_iff {s : Session} {languages : List Language} {p : Path}
    (hscope : s.scope = Scope.forLanguages languages) (hwatch : s.scope.watcher = .ok s.watch)
    (hp : Path.isAbsolute p = true) (kind : Int) :
    s.watches ⟨Uri.ofNames (Path.names p), kind⟩ = true ↔ NameHasExtensionOf languages p := by
  obtain ⟨union, hunion, hmatch⟩ := Scope.watcher_forLanguages languages
  have hsame : s.watch = union := by
    rw [hscope, hunion] at hwatch
    exact (Except.ok.inj hwatch).symm
  obtain ⟨back, hback, hiff⟩ := @watched_iff_name languages p hp
  simp only [Session.watches, hback, hsame]
  exact (hmatch back).trans hiff

namespace Bridge

/-! ## Runs -/

/-- What a session watches is what its scope says. -/
def Watching (b : Bridge) : Prop := ∀ s, b.session = some s → s.scope.watcher = .ok s.watch

variable {b : Bridge}

theorem Watching.step (h : b.Watching) (input : BridgeInput) : (b.step input).1.Watching := by
  intro s hs
  cases hact : activation? (input, (b.step input).2.1) with
  | some taken =>
      obtain ⟨-, watch, hwatch, hb, -⟩ := step_of_activation hact
      rw [hb] at hs
      cases hs
      exact hwatch
  | none =>
      by_cases hforward : ∃ event outcome, input = .forward event outcome
      case pos =>
        obtain ⟨event, outcome, rfl⟩ := hforward
        rcases b.forward_fst event outcome with heq | ⟨t, kept, ht, heq⟩
        · exact h s (heq ▸ hs)
        · obtain ⟨documents, htrack⟩ := track_eq t kept
          have hnext : (b.step (.forward event outcome)).1.session = some (t.track kept) :=
            congrArg Bridge.session heq
          rw [hnext, htrack] at hs
          cases hs
          exact h t ht
      case neg =>
        have hother : ∀ event outcome, input ≠ .forward event outcome :=
          fun event outcome heq => hforward ⟨event, outcome, heq⟩
        rcases session_step hact hother with hsame | hnone
        · exact h s (hsame ▸ hs)
        · rw [hnone] at hs
          cases hs

theorem Watching.run (h : b.Watching) (inputs : List BridgeInput) :
    (b.run inputs).1.Watching := by
  induction inputs generalizing b with
  | nil => exact h
  | cons input rest ih => exact ih (h.step input)

theorem Watching.after (inputs : List BridgeInput) : (after inputs).Watching :=
  @Watching.run Bridge.idle (fun _ hs => by cases hs) inputs

/-! ## Reports -/

/-- What a ready bridge does with changes of files. The documents are not concerned. -/
theorem forward_filesChanged {s : Session} (hready : b.state = .ready) (hs : b.session = some s)
    (changes : List FileChange) (outcome : NotifyOutcome) :
    b.forward (.filesChanged changes) outcome =
      if changes.filter s.watches = [] then (b, .done .outOfScope, [])
      else (b, (b.handedOver s (.filesChanged (changes.filter s.watches)) outcome).2,
        [.notify s.connection (.filesChanged (changes.filter s.watches))]) := by
  have hsame : ∀ kept, (b.handedOver s (.filesChanged kept) outcome).1 = b := by
    intro kept
    cases outcome with
    | delivered =>
        show { b with session := some s } = b
        rw [← hs]
    | failed f => rfl
    | lost => rfl
  rw [forward, hready, hs]
  dsimp only [Session.narrow]
  cases hkept : changes.filter s.watches with
  | nil => rfl
  | cons first more =>
      rw [if_neg (List.cons_ne_nil _ _)]
      exact Prod.ext (hsame _) rfl

/-- The changes of files at absolute paths. -/
theorem map_fileChange {paths : List (Path × Int)}
    (h : ∀ file ∈ paths, Path.isAbsolute file.1 = true) :
    paths.map (fun file => fileChange file.1 file.2)
      = (paths.map fun file => ⟨Uri.ofNames (Path.names file.1), file.2⟩).map .ok := by
  rw [List.map_map]
  exact List.map_congr_left fun file hfile => fileChange_of_isAbsolute (h file hfile) file.2

/-- **Watched files are reported.** A ready bridge with the scope of some languages is handed the
changes of files at absolute paths. It hands its server those of them whose last component ends in a
dot and the extension of one of these languages, all of them as they are and in their order, and
where there are none it says that nothing is in its scope. Every file that has one of these
languages is among them. -/
theorem files_reported (inputs : List BridgeInput) (languages : List Language)
    (paths : List (Path × Int)) (outcome : NotifyOutcome)
    (hready : (after inputs).state = .ready)
    (hscope : (after inputs).scope? = some (Scope.forLanguages languages))
    (habsolute : ∀ file ∈ paths, Path.isAbsolute file.1 = true) :
    ∃ s changes kept, (after inputs).session = some s ∧
      paths.map (fun file => fileChange file.1 file.2) = changes.map .ok ∧
      (paths.filter fun file => NameHasExtensionOf languages file.1).map
        (fun file => fileChange file.1 file.2) = kept.map .ok ∧
      (kept = [] → (after inputs).forward (.filesChanged changes) outcome
        = (after inputs, .done .outOfScope, [])) ∧
      (kept ≠ [] → ∃ result, (after inputs).forward (.filesChanged changes) outcome
          = (after inputs, result, [.notify s.connection (.filesChanged kept)]) ∧
        (result = .done .sent ↔ outcome = .delivered)) ∧
      ∀ file ∈ paths, ∀ language ∈ languages, languageForPath? file.1 = some language →
        ∃ change ∈ kept, fileChange file.1 file.2 = .ok change := by
  obtain ⟨s, hs, hforLanguages⟩ := Option.map_eq_some_iff.mp hscope
  have hwatch := Watching.after inputs s hs
  -- The change of a file at an absolute path, and the changes that are kept.
  let changeOf : Path × Int → FileChange := fun file => ⟨Uri.ofNames (Path.names file.1), file.2⟩
  let named := paths.filter fun file => NameHasExtensionOf languages file.1
  have hkept : (paths.map changeOf).filter s.watches = named.map changeOf := by
    rw [List.filter_map]
    refine congrArg (List.map changeOf) (List.filter_congr fun file hfile => ?_)
    rw [Bool.eq_iff_iff, decide_eq_true_eq]
    exact Session.watches_iff hforLanguages hwatch (habsolute file hfile) file.2
  have hforward := forward_filesChanged hready hs (paths.map changeOf) outcome
  rw [hkept] at hforward
  refine ⟨s, paths.map changeOf, named.map changeOf, hs, map_fileChange habsolute,
    map_fileChange fun file hfile => habsolute file (List.mem_filter.mp hfile).1, ?_, ?_, ?_⟩
  case refine_1 =>
    intro hnone
    rw [hforward, if_pos hnone]
  case refine_2 =>
    intro hsome
    rw [if_neg hsome] at hforward
    refine ⟨_, hforward, ?_⟩
    cases outcome <;> simp [handedOver]
  case refine_3 =>
    intro file hfile language hlanguage hfound
    have hname := nameHasExtensionOf_of_languageForPath? hfound hlanguage
    have hmem : file ∈ named := List.mem_filter.mpr ⟨hfile, decide_eq_true hname⟩
    exact ⟨changeOf file, List.mem_map_of_mem hmem,
      fileChange_of_isAbsolute (habsolute file hfile) file.2⟩

/-- A first activation whose start succeeds makes a bridge ready, with the scope that it came
with. -/
theorem ready_after_start (launch : Launch) {scope : Scope} {watch : GlobUnion}
    (h : scope.watcher = .ok watch) :
    (after [.activate launch scope true, .startEnded 0 .ok .willing]).state = .ready ∧
      (after [.activate launch scope true, .startEnded 0 .ok .willing]).scope? = some scope := by
  have hactivate : idle.activate launch scope true
      = (idle.engage launch scope watch, .ok, idle.engaging launch scope) := by
    simp only [activate, idle, h]
    rfl
  simp only [after, run, step, hactivate]
  exact ⟨rfl, rfl⟩

/-- A run that makes a bridge ready for Ruby and JSON files. -/
def watchful : List BridgeInput :=
  [.activate ⟨"ti-lsp", [], []⟩ (Scope.forLanguages [.ruby, .json]) true,
    .startEnded 0 .ok .willing]

/-- A hidden Ruby file, named with a repeated separator and one at its end, and a text. -/
def changedFiles : List (Path × Int) :=
  [(Path.ofText "/lib//.rb/", 1), (Path.ofText "/README.md", 2)]

/-- The change of the Ruby file is reported, and that of the text is not. -/
theorem hidden_file_reported :
    (after watchful).state = .ready ∧
      (after watchful).scope? = some (Scope.forLanguages [.ruby, .json]) ∧
      (∀ file ∈ changedFiles, Path.isAbsolute file.1 = true) ∧
      ∃ s ruby text, (after watchful).session = some s ∧
        changedFiles.map (fun file => fileChange file.1 file.2) = [.ok ruby, .ok text] ∧
        (after watchful).forward (.filesChanged [ruby, text]) .delivered
          = (after watchful, .done .sent, [.notify s.connection (.filesChanged [ruby])]) := by
  obtain ⟨watch, hwatch, -⟩ := Scope.watcher_forLanguages [.ruby, .json]
  obtain ⟨hready, hscope⟩ := ready_after_start ⟨"ti-lsp", [], []⟩ hwatch
  have habsolute : ∀ file ∈ changedFiles, Path.isAbsolute file.1 = true := by decide
  refine ⟨hready, hscope, habsolute, ?_⟩
  obtain ⟨s, changes, kept, hs, hchanges, hkept, -, hsent, -⟩ :=
    files_reported watchful [.ruby, .json] changedFiles .delivered hready hscope habsolute
  have hnamed : (changedFiles.filter fun file => NameHasExtensionOf [.ruby, .json] file.1)
      = [(Path.ofText "/lib//.rb/", 1)] := by decide
  rw [hnamed] at hkept
  obtain ⟨ruby, _, rfl, hruby, hrest⟩ := List.map_eq_cons_iff.mp hchanges.symm
  obtain ⟨text, _, rfl, htext, hrest⟩ := List.map_eq_cons_iff.mp hrest
  obtain rfl := List.map_eq_nil_iff.mp hrest
  obtain ⟨reported, _, rfl, hreported, hrest⟩ := List.map_eq_cons_iff.mp hkept.symm
  obtain rfl := List.map_eq_nil_iff.mp hrest
  obtain rfl : ruby = reported := Except.ok.inj (hruby.trans hreported.symm)
  obtain ⟨result, hforward, hdelivered⟩ := hsent (List.cons_ne_nil _ _)
  rw [hdelivered.mpr rfl] at hforward
  exact ⟨s, ruby, text, hs, hchanges, hforward⟩

end Bridge
end LanguageBridge
