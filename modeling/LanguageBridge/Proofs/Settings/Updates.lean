import LanguageBridge.Host.Plan
import LanguageBridge.Proofs.Settings.Lookup

set_option autoImplicit false

/-! # Updates of settings

`Settings.set` stores a value under a flat key. What that changes under other keys is framed by
`lookup_set_of_ne`: only keys that have the stored key as their section and are no members
themselves can change.

Two results follow. A server path from the command line decides about the command, whatever the
settings file holds. And settings that were made by storing texts only answer like a table with the
same entries (`Tabled`), because no text is ever entered as a section.
-/

namespace LanguageBridge.Settings

/-! ## One update -/

/-- The first key is exactly the part of the second one before its first dot. -/
def IsSection (name key : String) : Prop :=
  '.' ∉ name.toList ∧ ∃ rest, key = name ++ "." ++ rest

theorem isSection_of_cutSection {key : String} {first rest : List Char}
    (h : cutSection key.toList = some (first, rest)) : IsSection (String.ofList first) key := by
  obtain ⟨hfirst, hkey⟩ := cutSection_eq_some h
  refine ⟨by rwa [String.toList_ofList], String.ofList rest, ?_⟩
  apply String.toList_injective
  rw [hkey, String.toList_append, String.toList_append, List.append_assoc]
  simp only [String.toList_ofList]
  rfl

theorem lookup_set_self (settings : Settings) (key : String) (value : Json) :
    (settings.set key value).lookup key = some value := by
  apply lookup_of_member
  rw [set, Json.lookup_insertMember, if_pos rfl]

theorem member_set_of_ne (settings : Settings) {key other : String} (hne : other ≠ key)
    (value : Json) :
    Json.lookup other (settings.set key value).values = Json.lookup other settings.values := by
  rw [set, Json.lookup_insertMember, if_neg hne]

/-- Storing a value leaves what other keys hold as it is, except for those that have the key as
their section and are no members. -/
theorem lookup_set_of_ne {settings : Settings} {key other : String} (hne : other ≠ key)
    (hframe : ¬(IsSection key other ∧ Json.lookup other settings.values = none)) (value : Json) :
    (settings.set key value).lookup other = settings.lookup other := by
  have hmember := member_set_of_ne settings hne value
  cases hlookup : Json.lookup other settings.values with
  | some found =>
      rw [lookup_of_member hlookup, lookup_of_member (hmember.trans hlookup)]
  | none =>
      cases hcut : cutSection other.toList with
      | none =>
          have hdot := cutSection_eq_none.mp hcut
          rw [lookup_of_no_dot hlookup hdot, lookup_of_no_dot (hmember.trans hlookup) hdot]
      | some both =>
          obtain ⟨first, rest⟩ := both
          have hsection : String.ofList first ≠ key := by
            rintro rfl
            exact hframe ⟨isSection_of_cutSection hcut, hlookup⟩
          simp only [lookup, hmember, hlookup, hcut, member_set_of_ne settings hsection value]

theorem getString_eq_lookup (settings : Settings) (key : String) :
    SettingsSource.getString settings key = (settings.lookup key).bind Json.asString? :=
  rfl

theorem getString_set_self (settings : Settings) (key : String) (value : Json) :
    SettingsSource.getString (settings.set key value) key = value.asString? := by
  rw [getString_eq_lookup, lookup_set_self, Option.bind_some]

/-! ## The server's path -/

/-- A server path that was stored is the command, and the usual command if it is empty. -/
theorem resolveCommand_set (settings : Settings) (path : String) :
    resolveCommand (settings.set serverPathKey (.string path))
      = if path = "" then defaultCommand else path := by
  rw [resolveCommand, getString_set_self, Json.asString?]
  simp only [String.isEmpty_iff]

/-! ## Settings made of texts -/

/-- The members of settings are the entries of a table, as texts. -/
def Tabled (settings : Settings) (table : TextTable) : Prop :=
  ∀ key, Json.lookup key settings.values = (table.entries.lookup key).map .string

theorem tabled_empty : Tabled empty TextTable.empty := fun _ => rfl

theorem Tabled.set {settings : Settings} {table : TextTable} (h : Tabled settings table)
    (key text : String) : Tabled (settings.set key (.string text)) (table.insert key text) := by
  intro other
  rw [Settings.set, Json.lookup_insertMember, TextTable.insert, List.lookup_cons, h other]
  by_cases hkey : other = key
  · rw [if_pos hkey, beq_iff_eq.mpr hkey]
    rfl
  · rw [if_neg hkey, beq_eq_false_iff_ne.mpr hkey]

/-- A text is no object, so no name leads on from it. -/
theorem follow_string (text : String) {names : List String} (hne : names ≠ []) :
    follow (.string text) names = none := by
  obtain ⟨name, more, rfl⟩ := List.exists_cons_of_ne_nil hne
  rfl

theorem Tabled.lookup {settings : Settings} {table : TextTable} (h : Tabled settings table)
    (key : String) : settings.lookup key = (table.entries.lookup key).map .string := by
  rw [← h key]
  cases hlookup : Json.lookup key settings.values with
  | some value => exact lookup_of_member hlookup
  | none =>
      cases hcut : cutSection key.toList with
      | none => exact lookup_of_no_dot hlookup (cutSection_eq_none.mp hcut)
      | some both =>
          obtain ⟨first, rest⟩ := both
          -- The section is absent or a text, and at least one name follows it.
          have hnames : (segments rest).map String.ofList ≠ [] := by
            rw [ne_eq, List.map_eq_nil_iff, segments_eq_splitOn]
            exact List.splitOn_ne_nil '.' rest
          simp only [Settings.lookup, hlookup, hcut, h (String.ofList first)]
          cases table.entries.lookup (String.ofList first) with
          | none => rfl
          | some text => exact follow_string text hnames

theorem Tabled.getString {settings : Settings} {table : TextTable} (h : Tabled settings table)
    (key : String) :
    SettingsSource.getString settings key = SettingsSource.getString table key := by
  rw [getString_eq_lookup, h.lookup]
  show ((table.entries.lookup key).map Json.string).bind Json.asString? = table.entries.lookup key
  cases table.entries.lookup key <;> rfl

/-- Storing the same texts in the same order keeps settings and a table in step. -/
theorem Tabled.foldl {settings : Settings} {table : TextTable} (h : Tabled settings table)
    (updates : List (String × String)) :
    Tabled (updates.foldl (fun settings u => settings.set u.1 (.string u.2)) settings)
      (updates.foldl (fun table u => table.insert u.1 u.2) table) := by
  induction updates generalizing settings table with
  | nil => exact h
  | cons update more ih => exact ih (h.set update.1 update.2)

/-! ## The result -/

/-- **Updates of settings.** After a value was stored under a key, the key holds it if it is a text
and nothing otherwise; another key holds what it held before, unless the stored key is exactly its
part before the first dot and it is no member itself.

So a server path on the command line is the command, or the usual command if it is empty, with
every settings file that loads and without one; and settings into which texts were stored hold the
same under every key as the table with the same insertions. -/
theorem updates_frame :
    (∀ (settings : Settings) (key : String) (value : Json),
      SettingsSource.getString (settings.set key value) key = value.asString? ∧
      ∀ other, other ≠ key →
        ¬(IsSection key other ∧ Json.lookup other settings.values = none) →
        SettingsSource.getString (settings.set key value) other
          = SettingsSource.getString settings other) ∧
    (∀ (fs : FileSystem) (a : Host.Arguments) (path : String), a.serverPath = some path →
      (∀ file, a.settings = some file → ∃ loaded, Settings.load fs file = .ok loaded) →
      ∃ settings, Host.settingsFor fs a = .ok settings ∧
        resolveCommand settings = if path = "" then "ti-lsp" else path) ∧
    (∀ (updates : List (String × String)) (key : String),
      SettingsSource.getString
          (updates.foldl (fun settings u => settings.set u.1 (.string u.2)) Settings.empty) key
        = SettingsSource.getString
            (updates.foldl (fun table u => table.insert u.1 u.2) TextTable.empty) key) := by
  refine ⟨?frame, ?command, ?table⟩
  case frame =>
    intro settings key value
    refine ⟨getString_set_self settings key value, ?_⟩
    intro other hne hframe
    rw [getString_eq_lookup, getString_eq_lookup, lookup_set_of_ne hne hframe]
  case command =>
    intro fs a path hpath hloads
    cases hfile : a.settings with
    | none =>
        refine ⟨_, ?_, resolveCommand_set empty path⟩
        rw [Host.settingsFor, hfile, hpath]
        rfl
    | some file =>
        obtain ⟨loaded, hloaded⟩ := hloads file hfile
        refine ⟨_, ?_, resolveCommand_set loaded path⟩
        rw [Host.settingsFor, hfile, hpath]
        simp only [hloaded, Except.map]
  case table =>
    intro updates key
    exact (tabled_empty.foldl updates).getString key

/-- The text of a settings file that nests a path for the server. -/
def nestedText : String := "\x7b\"rubyTiLsp\": \x7b\"serverPath\": \"nested\"\x7d\x7d"

/-- A directory with this file. -/
def nestedFile : FileSystem :=
  ⟨[(Path.ofText "s.json", .file (Text.utf8Bytes nestedText) false)], []⟩

/-- A command line that names the file and a server path. -/
def nestedArguments : Host.Arguments :=
  ⟨Path.ofText ".", some (Path.ofText "s.json"), some "other", false, [], "info", false⟩

theorem load_nestedFile : Settings.load nestedFile (Path.ofText "s.json")
    = .ok ⟨[("rubyTiLsp", nest ["serverPath"] (.string "nested"))]⟩ := by
  have hread : nestedFile.readText (Path.ofText "s.json") = .ok nestedText := by
    have hnode : nestedFile.node (Path.ofText "s.json")
        = .ok (.file (Text.utf8Bytes nestedText) false) := rfl
    have hascii : nestedText.toList.all (fun c => c.toNat < 0x80) = true := by decide
    have hdecode : Text.decode? (Text.utf8Bytes nestedText) = some nestedText := by
      apply Text.decode?_utf8Bytes_of_ascii
      intro c hc
      exact of_decide_eq_true (List.all_eq_true.mp hascii c hc)
    rw [FileSystem.readText, hnode]
    simp only [hdecode]
  have hplain (s : String) (h : s.toList.flatMap Json.escapeChar = s.toList) :
      Json.Spelled s.toList s.toList := by
    have hspelled := Json.spelled_escape s.toList
    rwa [h] at hspelled
  have hreads : Json.Reads Json.maxDepth
      (Json.single "rubyTiLsp".toList
        (Json.single "serverPath".toList (Json.literal "nested".toList)))
      (nest ["rubyTiLsp", "serverPath"] (.string "nested")) :=
    Json.reads_single (hplain "rubyTiLsp" (by decide))
      (Json.reads_single (hplain "serverPath" (by decide))
        (Json.reads_literal (hplain "nested" (by decide)) 125))
  have htext : nestedText = String.ofList (Json.single "rubyTiLsp".toList
      (Json.single "serverPath".toList (Json.literal "nested".toList))) := by decide
  have hparse : parse nestedText
      = .ok ⟨[("rubyTiLsp", nest ["serverPath"] (.string "nested"))]⟩ := by
    rw [htext, parse, Json.ofText_of_reads hreads]
    rfl
  rw [Settings.load, hread]
  simp only [hparse, Except.mapError]

/-- The path on the command line counts, not the one that the file nests. -/
theorem other_for_nested :
    (∃ loaded, Settings.load nestedFile (Path.ofText "s.json") = .ok loaded ∧
      resolveCommand loaded = "nested") ∧
    ∃ settings, Host.settingsFor nestedFile nestedArguments = .ok settings ∧
      resolveCommand settings = "other" := by
  have hloads : ∀ file, nestedArguments.settings = some file →
      ∃ loaded, Settings.load nestedFile file = .ok loaded := by
    rintro file ⟨⟩
    exact ⟨_, load_nestedFile⟩
  exact ⟨⟨_, load_nestedFile, by decide⟩,
    updates_frame.2.1 nestedFile nestedArguments "other" rfl hloads⟩

end LanguageBridge.Settings
