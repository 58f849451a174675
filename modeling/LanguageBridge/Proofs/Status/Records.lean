import LanguageBridge.Status
import LanguageBridge.Proofs.Json.Objects
import LanguageBridge.Proofs.Settings.Lookup

set_option autoImplicit false

/-! # Records in the log

A record of a failed start goes to the log as the text of a JSON object. The reason in it comes from
the server, so it can hold anything. Nevertheless the text is one line, and read as settings it
gives back the fields of the record, character for character (`startFailure_logged`).
-/

namespace LanguageBridge.DiagnosticRecord

open Json (Reads Unbroken)

/-- The members of a record. -/
def members (record : DiagnosticRecord) : Json.Members :=
  [("client", .string record.client), ("command", .string record.command),
    ("kind", .string record.kind.word), ("reason", .string record.reason)]

theorem toJson_eq (record : DiagnosticRecord) : record.toJson = .object record.members := rfl

/-- All values in a record are strings. -/
theorem string_of_mem {record : DiagnosticRecord} {m : String × Json} (h : m ∈ record.members) :
    ∃ s, m.2 = .string s := by
  simp only [members, List.mem_cons, List.not_mem_nil, or_false] at h
  rcases h with rfl | rfl | rfl | rfl <;> exact ⟨_, rfl⟩

/-- The members of a record are written in the order that the reader keeps members in. -/
theorem membersOf_members (record : DiagnosticRecord) :
    Json.membersOf record.members = record.members := by
  simp only [members, Json.membersOf, List.foldl, Json.insertMember, String.reduceEq,
    String.reduceLT, ↓reduceIte]

theorem unbroken_record (record : DiagnosticRecord) : Unbroken record.toJson.write := by
  rw [toJson_eq]
  refine Json.unbroken_object fun m hm => ?_
  obtain ⟨s, hs⟩ := string_of_mem hm
  rw [hs, Json.write]
  exact Json.unbroken_writeString s

theorem reads_record (record : DiagnosticRecord) :
    Reads Json.maxDepth record.toJson.write (.object record.members) := by
  have hvalues : ∀ m ∈ record.members, Reads 126 m.2.write m.2 := by
    intro m hm
    obtain ⟨s, hs⟩ := string_of_mem hm
    rw [hs]
    exact Json.reads_string s 126
  have hreads := Json.reads_object hvalues
  rwa [Json.ofMembers, membersOf_members, ← toJson_eq] at hreads

/-- The text under the name of a member is its string. -/
theorem getString_member {record : DiagnosticRecord} {key text : String}
    (h : Json.lookup key record.members = some (.string text)) :
    SettingsSource.getString (Settings.mk record.members) key = some text :=
  (Settings.getString_eq_some_iff _ _ _).mpr (Or.inl h)

/-- **Records survive the log.** For every command and every failure, with any reason, what the log
gets of the record is one text. No character in it is below the blank, so it is one line. As
settings it loads, the object in it has the keys of the record and no others, each once, and the
texts under them are the fields of the record. -/
theorem startFailure_logged (command : String) (failure : ConnectionFailure) :
    ∃ (text : String) (settings : Settings),
      (Status.record (startFailure command failure)).logged.fields = [("record", .string text)] ∧
      (∀ c ∈ text.toList, ' ' ≤ c) ∧
      Settings.ofText text = .ok settings ∧
      settings.values.map Prod.fst = ["client", "command", "kind", "reason"] ∧
      SettingsSource.getString settings "client" = some "Ruby-TI LSP" ∧
      SettingsSource.getString settings "command" = some command ∧
      SettingsSource.getString settings "kind" = some failure.kind.word ∧
      SettingsSource.getString settings "reason" = some failure.message := by
  let record := startFailure command failure
  have hline : ∀ c ∈ record.toJson.render.toList, ' ' ≤ c := by
    rw [Json.render, String.toList_ofList]
    exact unbroken_record record
  refine ⟨record.toJson.render, ⟨record.members⟩, rfl, hline,
    Settings.ofText_of_reads (reads_record record), rfl, ?client, ?command, ?kind, ?reason⟩
  case client => exact getString_member rfl
  case command => exact getString_member rfl
  case kind => exact getString_member rfl
  case reason => exact getString_member rfl

end LanguageBridge.DiagnosticRecord
