import LanguageBridge.Event

set_option autoImplicit false

/-! # Sittings of a document

What an editor may tell about one document is a row of sittings. In a sitting the document is
opened, then changed and saved any number of times, and at last closed. A row of events is at
rest if all its sittings are complete, and in a sitting if the last one is still open. Either
way it is the beginning of a row of sittings (`AtRest.prefix_sittings`,
`InSitting.prefix_sittings`), and its last turn, which is the last event that opens or closes the
document, tells which of the two it is.
-/

namespace LanguageBridge

/-- Whether an event changes or saves a document. -/
def EditorEvent.isEdit : EditorEvent → Bool
  | changed _ _ _ => true
  | saved _ _ => true
  | _ => false

/-- Whether an event opens or closes a document. -/
def EditorEvent.isTurn : EditorEvent → Bool
  | opened _ => true
  | closed _ => true
  | _ => false

/-- An event changes or saves the document at a URI. -/
def EditorEvent.Edits (uri : Uri) (e : EditorEvent) : Prop :=
  e.isEdit = true ∧ e.documentUri? = some uri

/-- One sitting: a document is opened, then changed and saved, and at last closed. -/
def IsSitting (uri : Uri) (w : List EditorEvent) : Prop :=
  ∃ document edits, document.uri = uri ∧ (∀ e ∈ edits, EditorEvent.Edits uri e) ∧
    w = .opened document :: edits ++ [.closed uri]

/-- The events are complete sittings. -/
def AtRest (uri : Uri) (t : List EditorEvent) : Prop :=
  ∃ sittings : List (List EditorEvent), (∀ w ∈ sittings, IsSitting uri w) ∧ t = sittings.flatten

/-- The events are complete sittings and the beginning of one more. -/
def InSitting (uri : Uri) (t : List EditorEvent) : Prop :=
  ∃ (before : List EditorEvent) (document : Document) (edits : List EditorEvent),
    AtRest uri before ∧ document.uri = uri ∧ (∀ e ∈ edits, EditorEvent.Edits uri e) ∧
    t = before ++ .opened document :: edits

/-! ## One more event -/

variable {uri : Uri} {t : List EditorEvent}

theorem AtRest.nil : AtRest uri [] := ⟨[], nofun, rfl⟩

theorem AtRest.opened (h : AtRest uri t) {document : Document} (hd : document.uri = uri) :
    InSitting uri (t ++ [.opened document]) :=
  ⟨t, document, [], h, hd, nofun, rfl⟩

theorem InSitting.edited (h : InSitting uri t) {e : EditorEvent} (he : e.Edits uri) :
    InSitting uri (t ++ [e]) := by
  obtain ⟨before, document, edits, hb, hd, hedits, rfl⟩ := h
  refine ⟨before, document, edits ++ [e], hb, hd, ?_, by simp⟩
  intro f hf
  rcases List.mem_append.mp hf with hf | hf
  · exact hedits f hf
  · rw [List.mem_singleton.mp hf]
    exact he

theorem InSitting.closed (h : InSitting uri t) : AtRest uri (t ++ [.closed uri]) := by
  -- The open sitting becomes the last complete one.
  obtain ⟨before, document, edits, ⟨sittings, hs, rfl⟩, hd, hedits, rfl⟩ := h
  refine ⟨sittings ++ [.opened document :: edits ++ [.closed uri]], ?_, by simp⟩
  intro w hw
  rcases List.mem_append.mp hw with hw | hw
  · exact hs w hw
  · rw [List.mem_singleton.mp hw]
    exact ⟨document, edits, hd, hedits, rfl⟩

/-! ## Beginnings of sittings -/

theorem AtRest.prefix_sittings (h : AtRest uri t) :
    ∃ sittings : List (List EditorEvent),
      (∀ w ∈ sittings, IsSitting uri w) ∧ t <+: sittings.flatten := by
  obtain ⟨sittings, hs, rfl⟩ := h
  exact ⟨sittings, hs, List.prefix_rfl⟩

/-- An open sitting can be closed. -/
theorem InSitting.prefix_sittings (h : InSitting uri t) :
    ∃ sittings : List (List EditorEvent),
      (∀ w ∈ sittings, IsSitting uri w) ∧ t <+: sittings.flatten := by
  obtain ⟨sittings, hs, heq⟩ := h.closed
  exact ⟨sittings, hs, [.closed uri], heq⟩

/-! ## The last turn -/

/-- The last event that opens or closes a document. -/
def lastTurn? (t : List EditorEvent) : Option EditorEvent := (t.filter (·.isTurn)).getLast?

theorem filter_isTurn_edits {edits : List EditorEvent}
    (h : ∀ e ∈ edits, EditorEvent.Edits uri e) : edits.filter (·.isTurn) = [] := by
  rw [List.filter_eq_nil_iff]
  intro e he
  have hedit := (h e he).1
  cases e <;> simp_all [EditorEvent.isEdit, EditorEvent.isTurn]

theorem InSitting.lastTurn (h : InSitting uri t) :
    ∃ document, lastTurn? t = some (.opened document) := by
  obtain ⟨before, document, edits, -, -, hedits, rfl⟩ := h
  refine ⟨document, ?_⟩
  rw [lastTurn?, List.filter_append, List.filter_cons_of_pos rfl, filter_isTurn_edits hedits]
  exact List.getLast?_concat

theorem AtRest.lastTurn (h : AtRest uri t) (document : Document) :
    lastTurn? t ≠ some (.opened document) := by
  -- The last turn is that of the last sitting, which closes the document.
  obtain ⟨sittings, hs, rfl⟩ := h
  rcases List.eq_nil_or_concat sittings with rfl | ⟨before, w, rfl⟩
  · exact nofun
  · obtain ⟨opening, edits, -, -, rfl⟩ := hs w (by simp)
    have hlast : lastTurn? (before ++ [EditorEvent.opened opening :: edits
        ++ [EditorEvent.closed uri]]).flatten = some (.closed uri) := by
      rw [lastTurn?, List.flatten_append, List.flatten_singleton, ← List.append_assoc,
        List.filter_append]
      exact List.getLast?_concat
    rw [List.concat_eq_append, hlast]
    exact nofun

end LanguageBridge
