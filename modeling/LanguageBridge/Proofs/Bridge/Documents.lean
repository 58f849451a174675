import LanguageBridge.Proofs.Bridge.Sitting
import LanguageBridge.Proofs.Bridge.Sound

set_option autoImplicit false

/-! # Open documents

A bridge keeps the documents that it told its server are open, and it lets through only the
events that fit. `Bridge.taken` is the other side of this: the events that a connection took in a
run, read off the inputs and the effects alone. `Bridge.Tracked` ties the two together. A document
is open exactly while its events are in a sitting, on the connection that is held; on the
connections from before, every document was left in one of the two conditions.

Only a delivered event changes either side, and it changes both (`Follows.track`). What a step
does to a connection that it hands nothing to is said once (`Tracked.keep`).
-/

namespace LanguageBridge

namespace Session

/-- An event that goes to the server is about files, or it opens a document that is in the scope
and not open, or it edits or closes one that is open. -/
theorem narrow_ok {s : Session} {event kept : EditorEvent} (h : s.narrow event = .ok kept) :
    (∃ changes, kept = .filesChanged changes) ∨
      (∃ document, kept = .opened document ∧ document.uri ∉ s.openDocuments ∧
        s.scope.selects document.uri.scheme document.language = true) ∨
      ∃ uri, uri ∈ s.openDocuments ∧ (kept.Edits uri ∨ kept = .closed uri) := by
  cases event with
  | filesChanged changes =>
      simp only [narrow] at h
      split at h
      · cases h
      · cases h
        exact Or.inl ⟨_, rfl⟩
  | opened document =>
      simp only [narrow] at h
      split at h
      · cases h
      · split at h
        · cases h
        · cases h
          exact Or.inr (Or.inl ⟨document, rfl, by simp_all, by simp_all⟩)
  | changed uri version text =>
      simp only [narrow, EditorEvent.documentUri?] at h
      split at h
      · cases h
        exact Or.inr (Or.inr ⟨uri, by simp_all, Or.inl ⟨rfl, rfl⟩⟩)
      · cases h
  | saved uri text =>
      simp only [narrow, EditorEvent.documentUri?] at h
      split at h
      · cases h
        exact Or.inr (Or.inr ⟨uri, by simp_all, Or.inl ⟨rfl, rfl⟩⟩)
      · cases h
  | closed uri =>
      simp only [narrow, EditorEvent.documentUri?] at h
      split at h
      · cases h
        exact Or.inr (Or.inr ⟨uri, by simp_all, Or.inr rfl⟩)
      · cases h

end Session

/-! ## The events about one document -/

/-- The events about the document at a URI. -/
def about (uri : Uri) (t : List EditorEvent) : List EditorEvent :=
  t.filter fun e => e.documentUri? = some uri

theorem about_concat {uri : Uri} {e : EditorEvent} (h : e.documentUri? = some uri)
    (t : List EditorEvent) : about uri (t ++ [e]) = about uri t ++ [e] := by
  simp [about, List.filter_append, h]

theorem about_concat_other {uri : Uri} {e : EditorEvent} (h : e.documentUri? ≠ some uri)
    (t : List EditorEvent) : about uri (t ++ [e]) = about uri t := by
  simp [about, List.filter_append, h]

/-- The open documents of a session are those whose events are in a sitting. -/
structure Session.Follows (s : Session) (t : List EditorEvent) : Prop where
  sitting : ∀ uri ∈ s.openDocuments, InSitting uri (about uri t)
  rest : ∀ uri, uri ∉ s.openDocuments → AtRest uri (about uri t)

namespace Session

variable {s : Session} {t : List EditorEvent}

theorem Follows.opened (h : s.Follows t) {document : Document}
    (hnew : document.uri ∉ s.openDocuments) :
    (s.track (.opened document)).Follows (t ++ [.opened document]) where
  sitting := by
    intro uri hmem
    by_cases huri : document.uri = uri
    · subst huri
      rw [about_concat rfl]
      exact (h.rest _ hnew).opened rfl
    · rw [about_concat_other (by simpa [EditorEvent.documentUri?] using huri)]
      have hold : uri ∈ s.openDocuments ++ [document.uri] := hmem
      rcases List.mem_append.mp hold with hold | hold
      · exact h.sitting uri hold
      · exact absurd (List.mem_singleton.mp hold).symm huri
  rest := by
    intro uri hmem
    have hnot : uri ∉ s.openDocuments ++ [document.uri] := hmem
    have huri : document.uri ≠ uri := by
      intro huri
      exact hnot (List.mem_append_right _ (List.mem_singleton.mpr huri.symm))
    rw [about_concat_other (by simpa [EditorEvent.documentUri?] using huri)]
    exact h.rest uri fun hold => hnot (List.mem_append_left _ hold)

theorem Follows.closed (h : s.Follows t) {uri : Uri} (hopen : uri ∈ s.openDocuments) :
    (s.track (.closed uri)).Follows (t ++ [.closed uri]) where
  sitting := by
    intro other hmem
    have hold : other ∈ s.openDocuments.filter fun u => u ≠ uri := hmem
    obtain ⟨hold, hne⟩ := List.mem_filter.mp hold
    have hne : uri ≠ other := fun heq => by simp [heq] at hne
    rw [about_concat_other (by simpa [EditorEvent.documentUri?] using hne)]
    exact h.sitting other hold
  rest := by
    intro other hmem
    by_cases hne : uri = other
    · subst hne
      rw [about_concat rfl]
      exact (h.sitting uri hopen).closed
    · rw [about_concat_other (by simpa [EditorEvent.documentUri?] using hne)]
      refine h.rest other fun hold => hmem ?_
      exact List.mem_filter.mpr ⟨hold, by simpa using Ne.symm hne⟩

theorem Follows.edited (h : s.Follows t) {uri : Uri} (hopen : uri ∈ s.openDocuments)
    {e : EditorEvent} (he : e.Edits uri) : (s.track e).Follows (t ++ [e]) := by
  have hsame : s.track e = s := by
    have hedit := he.1
    cases e <;> first | rfl | cases hedit
  -- An edit moves neither the open documents nor the turns.
  rw [hsame]
  constructor
  · intro other hmem
    by_cases hother : uri = other
    · subst hother
      rw [about_concat he.2]
      exact (h.sitting uri hopen).edited he
    · rw [about_concat_other (by simpa [he.2] using hother)]
      exact h.sitting other hmem
  · intro other hmem
    have hother : uri ≠ other := by
      intro heq
      exact hmem (heq ▸ hopen)
    rw [about_concat_other (by simpa [he.2] using hother)]
    exact h.rest other hmem

theorem Follows.filesChanged (h : s.Follows t) (changes : List FileChange) :
    (s.track (.filesChanged changes)).Follows (t ++ [.filesChanged changes]) where
  sitting := by
    intro uri hmem
    rw [about_concat_other (by simp [EditorEvent.documentUri?])]
    exact h.sitting uri hmem
  rest := by
    intro uri hmem
    rw [about_concat_other (by simp [EditorEvent.documentUri?])]
    exact h.rest uri hmem

/-- Whatever a session lets through and the server takes keeps the two together. -/
theorem Follows.track (h : s.Follows t) {event kept : EditorEvent}
    (hkept : s.narrow event = .ok kept) : (s.track kept).Follows (t ++ [kept]) := by
  rcases narrow_ok hkept with
    ⟨changes, rfl⟩ | ⟨document, rfl, hnew, -⟩ | ⟨uri, hopen, hedit | rfl⟩
  · exact h.filesChanged changes
  · exact h.opened hnew
  · exact h.edited hopen hedit
  · exact h.closed hopen

/-- Each document is at rest or in a sitting. -/
theorem Follows.settled (h : s.Follows t) (uri : Uri) :
    AtRest uri (about uri t) ∨ InSitting uri (about uri t) := by
  by_cases hopen : uri ∈ s.openDocuments
  · exact Or.inr (h.sitting uri hopen)
  · exact Or.inl (h.rest uri hopen)

/-- A document is open if the last turn of its events opened it. -/
theorem Follows.mem_openDocuments_iff (h : s.Follows t) (uri : Uri) :
    uri ∈ s.openDocuments ↔ ∃ document, lastTurn? (about uri t) = some (.opened document) := by
  constructor
  · intro hopen
    exact (h.sitting uri hopen).lastTurn
  · rintro ⟨document, hlast⟩
    by_cases hopen : uri ∈ s.openDocuments
    · exact hopen
    · exact absurd hlast ((h.rest uri hopen).lastTurn document)

end Session

namespace Bridge

/-! ## What a connection took -/

/-- The calls that hand an event to a connection. -/
def handed (effects : List BridgeEffect) : List (Nat × EditorEvent) :=
  effects.filterMap fun
    | .notify connection event => some (connection, event)
    | _ => none

/-- The events that a connection took in a step. -/
def takenIn (connection : Nat) : BridgeInput → List BridgeEffect → List EditorEvent
  | .forward _ .delivered, effects =>
    ((handed effects).filter fun call => call.1 = connection).map (·.2)
  | _, _ => []

/-- The events that a connection took in a run, in order. -/
def taken (b : Bridge) (connection : Nat) (inputs : List BridgeInput) : List EditorEvent :=
  (inputs.zip ((b.run inputs).2.map (·.2))).flatMap fun (input, effects) =>
    takenIn connection input effects

theorem taken_cons (b : Bridge) (connection : Nat) (input : BridgeInput)
    (rest : List BridgeInput) :
    b.taken connection (input :: rest)
      = takenIn connection input (b.step input).2.2
        ++ (b.step input).1.taken connection rest := rfl

/-- A connection takes an event that its session lets through; any other event leaves the session
of the connection as it was. -/
theorem takenIn_forward (b : Bridge) (connection : Nat) (event : EditorEvent)
    (outcome : NotifyOutcome) :
    (takenIn connection (.forward event outcome) (b.forward event outcome).2.2 = [] ∧
        ((b.forward event outcome).1 = b ∨ ∃ s kept, b.session = some s ∧
          s.connection ≠ connection ∧
          (b.forward event outcome).1 = { b with session := some (s.track kept) })) ∨
      ∃ s kept, b.session = some s ∧ s.connection = connection ∧ s.narrow event = .ok kept ∧
        takenIn connection (.forward event outcome) (b.forward event outcome).2.2 = [kept] ∧
        (b.forward event outcome).1 = { b with session := some (s.track kept) } := by
  rcases b.forward_cases event outcome with ⟨delivery, -, heq⟩ | ⟨s, kept, -, hs, hkept, heq⟩
  · rw [heq]
    exact Or.inl ⟨by cases outcome <;> rfl, Or.inl rfl⟩
  · rw [heq]
    cases outcome with
    | failed f => exact Or.inl ⟨rfl, Or.inl rfl⟩
    | lost => exact Or.inl ⟨rfl, Or.inl rfl⟩
    | delivered =>
        by_cases hc : s.connection = connection
        · exact Or.inr ⟨s, kept, hs, hc, hkept, by simp [takenIn, handed, hc], rfl⟩
        · exact Or.inl ⟨by simp [takenIn, handed, hc], Or.inr ⟨s, kept, hs, hc, rfl⟩⟩

/-! ## The invariant -/

/-- After the activations `acts`, in which `connection` took the events `t`, the held session
follows what was taken if `connection` is its own. -/
structure Tracked (b : Bridge) (acts : List (Launch × Scope)) (connection : Nat)
    (t : List EditorEvent) : Prop where
  sound : b.Sound
  count : acts.length = b.created
  held : ∀ s, b.session = some s → acts[s.connection]? = some (s.launch, s.scope)
  unborn : b.created ≤ connection → t = []
  admitted : ∀ document, .opened document ∈ t → ∃ launch scope,
    acts[connection]? = some (launch, scope) ∧
      scope.selects document.uri.scheme document.language = true
  settled : ∀ uri, AtRest uri (about uri t) ∨ InSitting uri (about uri t)
  follows : ∀ s, b.session = some s → s.connection = connection → s.Follows t

theorem Tracked.idle (connection : Nat) : Tracked idle [] connection [] where
  sound := Sound.idle
  count := rfl
  held := nofun
  unborn := fun _ => rfl
  admitted := nofun
  settled := fun _ => Or.inl AtRest.nil
  follows := nofun

variable {b b' : Bridge} {acts : List (Launch × Scope)} {connection : Nat} {t : List EditorEvent}

/-- A step keeps the two together where it creates no connection and hands over nothing. -/
theorem Tracked.keep (h : Tracked b acts connection t) (hsound : b'.Sound)
    (hcreated : b'.created = b.created)
    (hsession : ∀ s', b'.session = some s' → ∃ s, b.session = some s ∧
      s'.connection = s.connection ∧ s'.launch = s.launch ∧ s'.scope = s.scope ∧
      (s.connection = connection → s' = s)) :
    Tracked b' acts connection t where
  sound := hsound
  count := h.count.trans hcreated.symm
  held := by
    intro s' hs'
    obtain ⟨s, hs, hconn, hlaunch, hscope, -⟩ := hsession s' hs'
    rw [hconn, hlaunch, hscope]
    exact h.held s hs
  unborn := fun hle => h.unborn (hcreated ▸ hle)
  admitted := h.admitted
  settled := h.settled
  follows := by
    intro s' hs' hc
    obtain ⟨s, hs, hconn, -, -, hsame⟩ := hsession s' hs'
    have hc' : s.connection = connection := hconn.symm.trans hc
    rw [hsame hc']
    exact h.follows s hs hc'

/-- A new session has nothing open, and its connection has taken nothing yet. -/
theorem Tracked.engage (h : Tracked b acts connection t) (launch : Launch) (scope : Scope)
    (watch : GlobUnion) :
    Tracked (b.engage launch scope watch) (acts ++ [(launch, scope)]) connection t where
  sound := h.sound.engage launch scope watch
  count := by
    rw [List.length_append, h.count]
    rfl
  held := by
    intro s hs
    cases hs
    show (acts ++ [(launch, scope)])[b.created]? = some (launch, scope)
    rw [← h.count]
    exact List.getElem?_concat_length
  unborn := fun hle => h.unborn (Nat.le_of_succ_le hle)
  admitted := by
    intro document hmem
    obtain ⟨launch', scope', hact, hselects⟩ := h.admitted document hmem
    have hlt := (List.getElem?_eq_some_iff.mp hact).1
    exact ⟨launch', scope', (List.getElem?_append_left hlt).trans hact, hselects⟩
  settled := h.settled
  follows := by
    intro s hs hc
    cases hs
    -- The new connection has the next number, so it took nothing before.
    have hnil : t = [] := h.unborn (Nat.le_of_eq hc)
    subst hnil
    exact ⟨nofun, fun _ _ => AtRest.nil⟩

/-- A delivered event is tracked. -/
theorem Tracked.deliver (h : Tracked b acts connection t) {s : Session} {event kept : EditorEvent}
    (hs : b.session = some s) (hc : s.connection = connection)
    (hkept : s.narrow event = .ok kept)
    (hsound : Sound { b with session := some (s.track kept) }) :
    Tracked { b with session := some (s.track kept) } acts connection (t ++ [kept]) where
  sound := hsound
  count := h.count
  held := by
    intro s' hs'
    cases hs'
    obtain ⟨documents, htrack⟩ := track_eq s kept
    rw [htrack]
    exact h.held s hs
  unborn := by
    intro hle
    have hnew := h.sound.newest s hs
    rw [hc] at hnew
    exact absurd hle (by show ¬ b.created ≤ connection; omega)
  admitted := by
    intro document hmem
    rcases List.mem_append.mp hmem with hmem | hmem
    · exact h.admitted document hmem
    · -- The document was opened just now, so the session has let it through.
      have hopened : kept = .opened document := (List.mem_singleton.mp hmem).symm
      subst hopened
      refine ⟨s.launch, s.scope, hc ▸ h.held s hs, ?_⟩
      rcases Session.narrow_ok hkept with ⟨_, hk⟩ | ⟨_, hk, -, hselects⟩ | ⟨_, -, hk | hk⟩
      · cases hk
      · cases hk
        exact hselects
      · cases hk.1
      · cases hk
  settled := fun uri => ((h.follows s hs hc).track hkept).settled uri
  follows := by
    intro s' hs' _
    cases hs'
    exact (h.follows s hs hc).track hkept

/-! ## Steps and runs -/

/-- Only activations and events do more to the session than end it. -/
theorem session_step {b : Bridge} {input : BridgeInput}
    (hact : activation? (input, (b.step input).2.1) = none)
    (hforward : ∀ event outcome, input ≠ .forward event outcome) :
    (b.step input).1.session = b.session ∨ (b.step input).1.session = none := by
  cases input with
  | activate launch scope announced =>
      rw [(step_of_no_activation hact).1]
      exact Or.inl rfl
  | deactivate => exact Or.inr b.deactivate_session
  | forward event outcome => exact absurd rfl (hforward event outcome)
  | startEnded connection outcome sink =>
      obtain ⟨state, broken, watchers, heq⟩ := b.startEnded_fst connection outcome sink
      refine Or.inl ?_
      show (b.startEnded connection outcome sink).1.session = b.session
      rw [heq]
  | stopEnded connection outcome =>
      obtain ⟨stops, heq⟩ := b.stopEnded_fst connection outcome
      refine Or.inl ?_
      show (b.stopEnded connection outcome).1.session = b.session
      rw [heq]
  | poll teardown =>
      obtain ⟨teardowns, heq⟩ := b.poll_fst teardown
      refine Or.inl ?_
      show (b.poll teardown).1.session = b.session
      rw [heq]
  | dropTeardown teardown => exact Or.inl rfl

/-- A step that leaves the session, or ends it, and hands over nothing. -/
theorem Tracked.quiet (h : Tracked b acts connection t) (hsound : b'.Sound)
    (hcreated : b'.created = b.created) (hsession : b'.session = b.session ∨ b'.session = none) :
    Tracked b' acts connection t := by
  refine h.keep hsound hcreated ?_
  intro s hs
  rcases hsession with hsame | hnone
  · exact ⟨s, hsame ▸ hs, rfl, rfl, rfl, fun _ => rfl⟩
  · rw [hnone] at hs
    cases hs

theorem Tracked.forward (h : Tracked b acts connection t) (event : EditorEvent)
    (outcome : NotifyOutcome) :
    Tracked (b.forward event outcome).1 acts connection
      (t ++ takenIn connection (.forward event outcome) (b.forward event outcome).2.2) := by
  have hsound := h.sound.forward event outcome
  rcases b.takenIn_forward connection event outcome with
    ⟨htaken, hb | ⟨s, kept, hs, hother, hb⟩⟩ | ⟨s, kept, hs, hc, hkept, htaken, hb⟩
  · rw [htaken, List.append_nil, hb]
    exact h
  · rw [htaken, List.append_nil]
    refine h.keep hsound (by rw [hb]) ?_
    intro s' hs'
    rw [hb] at hs'
    cases hs'
    obtain ⟨documents, htrack⟩ := track_eq s kept
    rw [htrack]
    exact ⟨s, hs, rfl, rfl, rfl, fun hc => absurd hc hother⟩
  · rw [hb] at hsound ⊢
    rw [htaken]
    exact h.deliver hs hc hkept hsound

theorem Tracked.step (h : Tracked b acts connection t) (input : BridgeInput) :
    Tracked (b.step input).1 (acts ++ (activation? (input, (b.step input).2.1)).toList) connection
      (t ++ takenIn connection input (b.step input).2.2) := by
  -- An event can move both sides; everything else leaves what was taken alone.
  by_cases hforward : ∃ event outcome, input = .forward event outcome
  case pos =>
    obtain ⟨event, outcome, rfl⟩ := hforward
    show Tracked (b.forward event outcome).1 (acts ++ []) connection _
    rw [List.append_nil]
    exact h.forward event outcome
  case neg =>
    have hother : ∀ event outcome, input ≠ .forward event outcome :=
      fun event outcome heq => hforward ⟨event, outcome, heq⟩
    have htaken : takenIn connection input (b.step input).2.2 = [] := by
      cases input with
      | forward event outcome => exact absurd rfl (hother event outcome)
      | _ => rfl
    rw [htaken, List.append_nil]
    cases hact : activation? (input, (b.step input).2.1) with
    | some activation =>
        obtain ⟨launch, scope⟩ := activation
        obtain ⟨-, watch, -, hb, -⟩ := step_of_activation hact
        rw [hb]
        exact h.engage launch scope watch
    | none =>
        have hcreated := b.created_step input
        rw [hact] at hcreated
        rw [Option.toList_none, List.append_nil]
        exact h.quiet (h.sound.step input) hcreated (session_step hact hother)

theorem Tracked.run (h : Tracked b acts connection t) (inputs : List BridgeInput) :
    Tracked (b.run inputs).1 (acts ++ activations (b.history inputs)) connection
      (t ++ b.taken connection inputs) := by
  induction inputs generalizing b acts t with
  | nil =>
      show Tracked b (acts ++ []) connection (t ++ [])
      rw [List.append_nil, List.append_nil]
      exact h
  | cons input rest ih =>
      have hrest := ih (h.step input)
      rw [run_cons, taken_cons, ← List.append_assoc, history_cons]
      rw [List.append_assoc] at hrest
      cases hact : activation? (input, (b.step input).2.1) with
      | none =>
          rw [hact] at hrest
          rw [activations, List.filterMap_cons_none hact]
          exact hrest
      | some activation =>
          rw [hact] at hrest
          rw [activations, List.filterMap_cons_some hact]
          exact hrest

theorem Tracked.after (inputs : List BridgeInput) (connection : Nat) :
    Tracked (Bridge.after inputs) (activations (Bridge.idle.history inputs)) connection
      (Bridge.idle.taken connection inputs) :=
  (Tracked.idle connection).run inputs

/-! ## What forwarding an event does -/

/-- An event counts as sent if it was handed over once and taken, a failure of the connection is
passed on, and in all other cases but a broken one the connection is left alone. -/
theorem forward_result (b : Bridge) (event : EditorEvent) (outcome : NotifyOutcome) :
    let result := (b.forward event outcome).2.1
    let calls := handed (b.forward event outcome).2.2
    (result = .done .sent ↔ calls.length = 1 ∧ outcome = .delivered) ∧
      (∀ f, result = .refused (.forward f) ↔ calls.length = 1 ∧ outcome = .failed f) ∧
      (∀ delivery, delivery ≠ .sent → result = .done delivery → calls = []) ∧
      ∀ call ∈ calls, ∃ s, b.session = some s ∧ call.1 = s.connection := by
  rcases b.forward_cases event outcome with ⟨delivery, hd, heq⟩ | ⟨s, kept, -, hs, -, heq⟩
  · rw [heq]
    refine ⟨?_, ?_, fun _ _ _ => rfl, nofun⟩
    · exact ⟨fun h => absurd (Forwarded.done.inj h) hd, fun h => nomatch h.1⟩
    · exact fun f => ⟨nofun, fun h => nomatch h.1⟩
  · rw [heq]
    have hcalls : ∀ call ∈ handed [BridgeEffect.notify s.connection kept],
        ∃ s, b.session = some s ∧ call.1 = s.connection := by
      intro call hcall
      rw [List.mem_singleton.mp hcall]
      exact ⟨s, hs, rfl⟩
    cases outcome with
    | delivered =>
        refine ⟨⟨fun _ => ⟨rfl, rfl⟩, fun _ => rfl⟩, fun f => ⟨nofun, fun h => nomatch h.2⟩, ?_,
          hcalls⟩
        intro delivery hd hresult
        exact absurd (Forwarded.done.inj hresult).symm hd
    | failed f =>
        refine ⟨⟨nofun, fun h => nomatch h.2⟩, ?_, nofun, hcalls⟩
        intro g
        constructor
        · intro hresult
          cases hresult
          exact ⟨rfl, rfl⟩
        · rintro ⟨-, hf⟩
          cases hf
          rfl
    | lost =>
        exact ⟨⟨nofun, fun h => nomatch h.2⟩, fun f => ⟨nofun, fun h => nomatch h.2⟩, nofun,
          hcalls⟩

/-- **A server hears of each document in sittings.** In every run, what a connection took about a
document is the beginning of a row of sittings, and each document that was opened is in the scope
of the activation that created the connection. While the connection is held, a document counts as
open exactly if the last turn in what was taken opened it. And after every run, forwarding an
event says that it was sent, or that the connection failed, exactly if it handed the event over
once and the connection answered so; it hands nothing over where it says that the bridge is not
ready, or the event is out of scope, or the document is open already. -/
theorem taken_in_sittings (inputs : List BridgeInput) :
    (∀ connection,
      let t := idle.taken connection inputs
      (∀ uri, ∃ sittings : List (List EditorEvent),
        (∀ w ∈ sittings, IsSitting uri w) ∧ about uri t <+: sittings.flatten) ∧
      (∀ document, .opened document ∈ t → ∃ launch scope,
        (activations (idle.history inputs))[connection]? = some (launch, scope) ∧
          scope.selects document.uri.scheme document.language = true) ∧
      ∀ s, (after inputs).session = some s → s.connection = connection →
        ∀ uri, uri ∈ s.openDocuments ↔
          ∃ document, lastTurn? (about uri t) = some (.opened document)) ∧
    ∀ event outcome,
      let result := ((after inputs).forward event outcome).2.1
      let calls := handed ((after inputs).forward event outcome).2.2
      (result = .done .sent ↔ calls.length = 1 ∧ outcome = .delivered) ∧
        (∀ f, result = .refused (.forward f) ↔ calls.length = 1 ∧ outcome = .failed f) ∧
        (∀ delivery, delivery ≠ .sent → result = .done delivery → calls = []) ∧
        ∀ call ∈ calls, ∃ s, (after inputs).session = some s ∧ call.1 = s.connection := by
  refine ⟨?_, fun event outcome => forward_result (after inputs) event outcome⟩
  intro connection t
  have h : Tracked (after inputs) (activations (idle.history inputs)) connection t :=
    Tracked.after inputs connection
  refine ⟨?_, h.admitted, ?_⟩
  · intro uri
    rcases h.settled uri with hrest | hsitting
    · exact hrest.prefix_sittings
    · exact hsitting.prefix_sittings
  · intro s hs hc uri
    exact (h.follows s hs hc).mem_openDocuments_iff uri

end Bridge
end LanguageBridge
