import LanguageBridge.Proofs.Json.Strings
import LanguageBridge.Settings
import Mathlib.Data.List.Forall2

set_option autoImplicit false

/-! # What settings hold under a key

A key is cut at its dots into parts, of which some may be empty; `parts` undoes putting dots
between names that have none. Settings hold a text under a key if the key itself is a member with
that text, or if it is no member and its parts lead to the text from object to object (`Leads`):
`getString_eq_some_iff`.

So it makes no difference whether a file holds a text under the key or nested under its parts, as
long as the parts are not more than a file may nest: `flat_and_nested`.
-/

namespace LanguageBridge.Settings

/-! ## The parts of a key -/

/-- The names between the dots of a key. -/
def parts (key : String) : List String := (segments key.toList).map String.ofList

theorem segments_eq_splitOn (s : List Char) : segments s = s.splitOn '.' := by
  induction s with
  | nil => rfl
  | cons c rest ih =>
      obtain ⟨part, more, hrest⟩ := List.exists_cons_of_ne_nil (List.splitOn_ne_nil '.' rest)
      rw [segments, ih, List.splitOn_cons_eq_if_modifyHead, hrest]
      simp only [beq_iff_eq, List.modifyHead_cons]

theorem dot_notMem_of_mem_segments {s part : List Char} (h : part ∈ segments s) : '.' ∉ part := by
  induction s generalizing part with
  | nil =>
      rw [List.mem_singleton.mp h]
      exact List.not_mem_nil
  | cons c rest ih =>
      rw [segments] at h
      split at h
      case isTrue =>
        rcases List.mem_cons.mp h with rfl | h
        · exact List.not_mem_nil
        · exact ih h
      case isFalse hc =>
        have hdot : '.' ≠ c := Ne.symm hc
        split at h
        case h_1 =>
          rw [List.mem_singleton.mp h, List.mem_singleton]
          exact hdot
        case h_2 first more hrest =>
          rw [hrest] at ih
          rcases List.mem_cons.mp h with rfl | h
          · rw [List.mem_cons, not_or]
            exact ⟨hdot, ih List.mem_cons_self⟩
          · exact ih (List.mem_cons_of_mem _ h)

theorem dot_notMem_of_mem_parts {key name : String} (h : name ∈ parts key) : '.' ∉ name.toList := by
  obtain ⟨part, hpart, rfl⟩ := List.mem_map.mp h
  rw [String.toList_ofList]
  exact dot_notMem_of_mem_segments hpart

/-- **Cutting and putting together.** A key is its parts with dots between them. -/
theorem intercalate_parts (key : String) : ".".intercalate (parts key) = key := by
  apply String.toList_injective
  have hback : (parts key).map String.toList = key.toList.splitOn '.' := by
    simp only [parts, segments_eq_splitOn, List.map_map, Function.comp_def, String.toList_ofList,
      List.map_id']
  calc (".".intercalate (parts key)).toList
      = ['.'].intercalate ((parts key).map String.toList) := String.toList_intercalate
    _ = ['.'].intercalate (key.toList.splitOn '.') := by rw [hback]
    _ = key.toList := List.intercalate_splitOn '.'

/-- **Putting together and cutting.** -/
theorem parts_intercalate {names : List String} (hne : names ≠ [])
    (h : ∀ name ∈ names, '.' ∉ name.toList) : parts (".".intercalate names) = names := by
  have hdots : ∀ part ∈ names.map String.toList, '.' ∉ part := by
    intro part hpart
    obtain ⟨name, hname, rfl⟩ := List.mem_map.mp hpart
    exact h name hname
  have hsplit : segments (".".intercalate names).toList = names.map String.toList := by
    rw [segments_eq_splitOn, String.toList_intercalate]
    exact List.splitOn_intercalate '.' hdots (by rwa [ne_eq, List.map_eq_nil_iff])
  rw [parts, hsplit, List.map_map]
  simp only [Function.comp_def, String.ofList_toList, List.map_id']

theorem cutSection_eq_none {s : List Char} : cutSection s = none ↔ '.' ∉ s := by
  induction s with
  | nil => simp [cutSection]
  | cons c rest ih =>
      rw [cutSection, List.mem_cons, not_or]
      split
      case isTrue hc => simp [hc]
      case isFalse hc => rw [Option.map_eq_none_iff, ih, and_iff_right (Ne.symm hc)]

theorem cutSection_eq_some {s first rest : List Char} (h : cutSection s = some (first, rest)) :
    '.' ∉ first ∧ s = first ++ '.' :: rest := by
  induction s generalizing first with
  | nil => cases h
  | cons c more ih =>
      rw [cutSection] at h
      split at h
      case isTrue hc =>
        obtain ⟨rfl, rfl⟩ := Prod.mk.inj (Option.some.inj h)
        exact ⟨List.not_mem_nil, by rw [hc, List.nil_append]⟩
      case isFalse hc =>
        obtain ⟨⟨first', rest'⟩, hcut, heq⟩ := Option.map_eq_some_iff.mp h
        obtain ⟨rfl, rfl⟩ := Prod.mk.inj heq
        obtain ⟨hfirst, rfl⟩ := ih hcut
        refine ⟨?_, rfl⟩
        rw [List.mem_cons, not_or]
        exact ⟨Ne.symm hc, hfirst⟩

/-- A key with a dot is its section, a dot and a rest, and the section is its first part. -/
theorem exists_cutSection {key : String} (h : '.' ∈ key.toList) :
    ∃ first rest, cutSection key.toList = some (first, rest) ∧
      parts key = String.ofList first :: (segments rest).map String.ofList := by
  cases hcut : cutSection key.toList with
  | none => exact absurd h (cutSection_eq_none.mp hcut)
  | some both =>
      obtain ⟨first, rest⟩ := both
      obtain ⟨hfirst, hkey⟩ := cutSection_eq_some hcut
      refine ⟨first, rest, rfl, ?_⟩
      rw [parts, hkey, segments_eq_splitOn, List.splitOn_append_cons_self_of_not_mem hfirst,
        List.map_cons, segments_eq_splitOn]

/-! ## Following names -/

/-- Names lead from a value to another: every name but the last one to an object, and no other
values are entered. -/
inductive Leads : Json → List String → Json → Prop where
  | here (value : Json) : Leads value [] value
  | inside {members : Json.Members} {name : String} {names : List String} {next value : Json}
      (member : Json.lookup name members = some next) (further : Leads next names value) :
      Leads (.object members) (name :: names) value

theorem follow_eq_some_iff {value found : Json} {names : List String} :
    follow value names = some found ↔ Leads value names found := by
  constructor
  · intro h
    induction names generalizing value with
    | nil =>
        obtain rfl := Option.some.inj h
        exact .here value
    | cons name names ih =>
        rw [follow] at h
        split at h
        case h_1 next hmember =>
          cases value with
          | object members => exact .inside hmember (ih h)
          | _ => cases hmember
        case h_2 => cases h
  · intro h
    induction h with
    | here value => rfl
    | @inside members name names next value hmember _ ih =>
        have hname : (Json.object members).member? name = some next := hmember
        rw [follow, hname]
        exact ih

/-! ## The text under a key -/

theorem lookup_of_member {settings : Settings} {key : String} {value : Json}
    (h : Json.lookup key settings.values = some value) : settings.lookup key = some value := by
  rw [lookup, h]

theorem lookup_of_no_dot {settings : Settings} {key : String}
    (h : Json.lookup key settings.values = none) (hdot : '.' ∉ key.toList) :
    settings.lookup key = none := by
  rw [lookup, h, cutSection_eq_none.mpr hdot]

theorem lookup_of_parts {settings : Settings} {key : String}
    (h : Json.lookup key settings.values = none) (hdot : '.' ∈ key.toList) :
    settings.lookup key = follow (.object settings.values) (parts key) := by
  obtain ⟨first, rest, hcut, hparts⟩ := exists_cutSection hdot
  rw [lookup, h, hcut, hparts, follow]
  cases hmember : Json.lookup (String.ofList first) settings.values <;>
    simp only [Json.member?, hmember]

theorem asString?_eq_some {value : Json} {text : String} :
    value.asString? = some text ↔ value = .string text := by
  cases value with
  | string s => rw [Json.asString?, Option.some.injEq, Json.string.injEq]
  | _ => exact ⟨nofun, nofun⟩

theorem getString_iff_lookup {settings : Settings} {key text : String} :
    SettingsSource.getString settings key = some text ↔
      settings.lookup key = some (.string text) := by
  show (settings.lookup key).bind Json.asString? = some text ↔ _
  rw [Option.bind_eq_some_iff]
  constructor
  · rintro ⟨value, hvalue, htext⟩
    rw [hvalue, asString?_eq_some.mp htext]
  · intro h
    exact ⟨_, h, rfl⟩

/-- A text is held under a key that is a member with the text, or under one that is no member and
whose parts lead to the text. -/
theorem getString_eq_some_iff (settings : Settings) (key text : String) :
    SettingsSource.getString settings key = some text ↔
      Json.lookup key settings.values = some (.string text) ∨
        (Json.lookup key settings.values = none ∧ '.' ∈ key.toList ∧
          Leads (.object settings.values) (parts key) (.string text)) := by
  rw [getString_iff_lookup]
  cases hmember : Json.lookup key settings.values with
  | some value =>
      rw [lookup_of_member hmember]
      exact ⟨Or.inl, fun h => h.resolve_right fun h => nomatch h.1⟩
  | none =>
      by_cases hdot : '.' ∈ key.toList
      · rw [lookup_of_parts hmember hdot, follow_eq_some_iff]
        exact ⟨fun h => Or.inr ⟨rfl, hdot, h⟩, fun h => (h.resolve_left nofun).2.2⟩
      · rw [lookup_of_no_dot hmember hdot]
        exact ⟨nofun, fun h => absurd (h.resolve_left nofun).2.1 hdot⟩

/-- The parts of a key with a dot are the only names without dots that the key is put together
from. -/
theorem leads_parts_iff {value found : Json} {key : String} (hdot : '.' ∈ key.toList) :
    Leads value (parts key) found ↔
      ∃ names, (∀ name ∈ names, '.' ∉ name.toList) ∧ ".".intercalate names = key ∧
        Leads value names found := by
  constructor
  · intro h
    exact ⟨parts key, fun _ => dot_notMem_of_mem_parts, intercalate_parts key, h⟩
  · rintro ⟨names, hfree, rfl, h⟩
    have hne : names ≠ [] := by
      rintro rfl
      rw [String.intercalate_nil] at hdot
      cases hdot
    rwa [parts_intercalate hne hfree]

/-! ## Flat and nested texts -/

/-- The value with another one nested under names. -/
def nest (names : List String) (value : Json) : Json :=
  names.foldr (fun name inside => .object [(name, inside)]) value

theorem lookup_single (name : String) (value : Json) :
    Json.lookup name [(name, value)] = some value := by
  rw [Json.lookup, if_pos rfl]

theorem leads_nest (names : List String) (value : Json) : Leads (nest names value) names value := by
  induction names with
  | nil => exact .here value
  | cons name names ih => exact .inside (lookup_single name _) ih

/-- Objects around a string are read at the depth of their number, and deeper. -/
theorem reads_nest {names : List String} {forms : List (List Char)} {value : String}
    {written : List Char} (hvalue : Json.Spelled value.toList written)
    (h : List.Forall₂ (fun name form => Json.Spelled name.toList form) names forms) {depth : Nat}
    (hdepth : names.length ≤ depth) :
    Json.Reads depth (forms.foldr Json.single (Json.literal written))
      (nest names (.string value)) := by
  induction h generalizing depth with
  | nil => exact Json.reads_literal hvalue depth
  | cons hname _ ih =>
      rw [List.length_cons] at hdepth
      obtain ⟨inner, rfl⟩ := Nat.exists_eq_add_of_le' (Nat.le_trans (Nat.le_add_left 1 _) hdepth)
      exact Json.reads_single hname (ih (by omega))

theorem ofText_of_reads {text : List Char} {members : Json.Members}
    (h : Json.Reads Json.maxDepth text (.object members)) :
    ofText (String.ofList text) = .ok ⟨members⟩ := by
  rw [ofText, parse, Json.ofText_of_reads h]
  rfl

theorem dot_mem_intercalate (first second : String) (more : List String) :
    '.' ∈ (".".intercalate (first :: second :: more)).toList := by
  rw [String.intercalate_cons_cons, String.toList_append, String.toList_append]
  exact List.mem_append_left _ (List.mem_append_right _ List.mem_cons_self)

/-- A text nested under two or more names is held under the key that they are put together to. -/
theorem getString_nest {first second : String} {more : List String}
    (hfree : ∀ name ∈ first :: second :: more, '.' ∉ name.toList) (text : String) :
    SettingsSource.getString (Settings.mk [(first, nest (second :: more) (.string text))])
      (".".intercalate (first :: second :: more)) = some text := by
  have hdot := dot_mem_intercalate first second more
  -- The first name has no dot, so it is not the key.
  have hother : first ≠ ".".intercalate (first :: second :: more) := by
    intro heq
    exact hfree first List.mem_cons_self (heq ▸ hdot)
  have habsent : Json.lookup (".".intercalate (first :: second :: more))
      [(first, nest (second :: more) (.string text))] = none := by
    rw [Json.lookup, if_neg hother, Json.lookup]
  have hleads := leads_nest (first :: second :: more) (.string text)
  refine (getString_eq_some_iff _ _ _).mpr (Or.inr ⟨habsent, hdot, ?_⟩)
  rwa [parts_intercalate (List.cons_ne_nil _ _) hfree]

/-- **Flat and nested settings agree.** Settings hold a text under a key exactly if the key is a
member with that text, or is no member, has a dot, and the names between its dots lead to the text
through objects.

And for every key of two and up to 127 names, which may be empty, and every text, both files load
and hold the text under the key: the one with the key as its only member, and the one with objects
nested under the names, however the strings in them are spelled. -/
theorem flat_and_nested :
    (∀ (settings : Settings) (key text : String),
      SettingsSource.getString settings key = some text ↔
        Json.lookup key settings.values = some (.string text) ∨
          (Json.lookup key settings.values = none ∧ '.' ∈ key.toList ∧
            ∃ names, (∀ name ∈ names, '.' ∉ name.toList) ∧ ".".intercalate names = key ∧
              Leads (.object settings.values) names (.string text))) ∧
    (∀ (names : List String) (text : String), 2 ≤ names.length → names.length ≤ 127 →
      (∀ name ∈ names, '.' ∉ name.toList) →
      ∀ (key value : List Char) (forms : List (List Char)),
        Json.Spelled (".".intercalate names).toList key → Json.Spelled text.toList value →
        List.Forall₂ (fun name form => Json.Spelled name.toList form) names forms →
        ∃ flat nested,
          ofText (String.ofList (Json.single key (Json.literal value))) = .ok flat ∧
          ofText (String.ofList (forms.foldr Json.single (Json.literal value))) = .ok nested ∧
          SettingsSource.getString flat (".".intercalate names) = some text ∧
          SettingsSource.getString nested (".".intercalate names) = some text) := by
  constructor
  · intro settings key text
    rw [getString_eq_some_iff]
    exact or_congr_right (and_congr_right fun _ => and_congr_right leads_parts_iff)
  · intro names text htwo hmost hfree key value forms hkey hvalue hforms
    match names, htwo, hforms with
    | first :: second :: more, _, hforms =>
      have hflat : Json.Reads Json.maxDepth (Json.single key (Json.literal value))
          (.object [(".".intercalate (first :: second :: more), .string text)]) :=
        Json.reads_single hkey (Json.reads_literal hvalue 126)
      have hnested : Json.Reads Json.maxDepth (forms.foldr Json.single (Json.literal value))
          (.object [(first, nest (second :: more) (.string text))]) :=
        reads_nest hvalue hforms hmost
      have hmember : Json.lookup (".".intercalate (first :: second :: more))
            [(".".intercalate (first :: second :: more), .string text)] = some (.string text) :=
        lookup_single _ _
      exact ⟨_, _, ofText_of_reads hflat, ofText_of_reads hnested,
        (getString_eq_some_iff _ _ _).mpr (Or.inl hmember), getString_nest hfree text⟩

/-- A key with empty names and a text with a quote and a line feed: as the writer spells them, both
files hold the text. -/
theorem quoted_under_empty_names :
    ∃ flat nested,
      ofText "\x7b\".a.\": \"say \\\"hi\\\"\\n\"\x7d" = .ok flat ∧
      ofText "\x7b\"\": \x7b\"a\": \x7b\"\": \"say \\\"hi\\\"\\n\"\x7d\x7d\x7d" = .ok nested ∧
      SettingsSource.getString flat ".a." = some "say \"hi\"\n" ∧
      SettingsSource.getString nested ".a." = some "say \"hi\"\n" := by
  have hform (s : String) : Json.Spelled s.toList (s.toList.flatMap Json.escapeChar) :=
    Json.spelled_escape s.toList
  have hflat : String.ofList (Json.single (".a.".toList.flatMap Json.escapeChar)
        (Json.literal ("say \"hi\"\n".toList.flatMap Json.escapeChar)))
      = "\x7b\".a.\": \"say \\\"hi\\\"\\n\"\x7d" := by decide
  have hnested : String.ofList ((["", "a", ""].map fun s => s.toList.flatMap Json.escapeChar).foldr
        Json.single (Json.literal ("say \"hi\"\n".toList.flatMap Json.escapeChar)))
      = "\x7b\"\": \x7b\"a\": \x7b\"\": \"say \\\"hi\\\"\\n\"\x7d\x7d\x7d" := by decide
  have hkey : ".".intercalate ["", "a", ""] = ".a." := by decide
  rw [← hkey, ← hflat, ← hnested]
  exact flat_and_nested.2 ["", "a", ""] "say \"hi\"\n" (by decide) (by decide) (by decide) _ _ _
    (hkey ▸ hform ".a.") (hform _) (.cons (hform "") (.cons (hform "a") (.cons (hform "") .nil)))

end LanguageBridge.Settings
