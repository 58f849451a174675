import LanguageBridge.Proofs.Connection.Custody

set_option autoImplicit false

/-! # The order on the wire

Everything that a connection sends is the beginning of one conversation: the opening, the word
that the answer has arrived, editor events, the shutdown and the exit. `Connection.offered` reads
off a run which editor events these are: those of the notifications that found a process in the
slot, in the order in which they got at it. `EditorEvent.Told` says what a server finds in their
messages.

The order comes from the life of the connection (`Life.Trace.conversation`); which events are sent
can be seen step by step (`events_step`).
-/

namespace LanguageBridge

/-! ## What an event looks like -/

namespace EditorEvent

/-- A notification tells an event: its method says of which kind the event is, and its parameters
name the document and say all that is new. A changed document comes as one change without a range,
which is its whole text. -/
def Told (method : String) (params : Json) : EditorEvent → Prop
  | opened document => method = "textDocument/didOpen" ∧
      ∃ told, params.member? "textDocument" = some told ∧
        told.member? "uri" = some (.string document.uri.text) ∧
        told.member? "languageId" = some (.string document.language) ∧
        told.member? "version" = some (.ofInt document.version) ∧
        told.member? "text" = some (.string document.text)
  | changed uri version text => method = "textDocument/didChange" ∧
      ∃ told change, params.member? "textDocument" = some told ∧
        told.member? "uri" = some (.string uri.text) ∧
        told.member? "version" = some (.ofInt version) ∧
        params.member? "contentChanges" = some (.array [change]) ∧
        change.member? "text" = some (.string text) ∧
        change.member? "range" = none ∧ change.member? "rangeLength" = none
  | saved uri text => method = "textDocument/didSave" ∧
      ∃ told, params.member? "textDocument" = some told ∧
        told.member? "uri" = some (.string uri.text) ∧ params.member? "text" = text.map .string
  | closed uri => method = "textDocument/didClose" ∧
      ∃ told, params.member? "textDocument" = some told ∧
        told.member? "uri" = some (.string uri.text)
  | filesChanged changes => method = "workspace/didChangeWatchedFiles" ∧
      ∃ items, params.member? "changes" = some (.array items) ∧
        items.map (fun item => (item.member? "uri", item.member? "type"))
          = changes.map fun change => (some (.string change.uri.text), some (.ofInt change.kind))

end EditorEvent

/-- The notification of an event tells the event. -/
theorem EditorEvent.told_params (event : EditorEvent) : Told event.method event.params event := by
  cases event with
  | saved uri text =>
      cases text <;> simp [Told, method, params, Json.ofMembers, Json.membersOf, Json.member?,
        Json.lookup_insertMember, Json.lookup]
  | _ =>
      simp [Told, method, params, Json.ofMembers, Json.membersOf, Json.member?,
        Json.lookup_insertMember, Json.lookup]

/-- The methods of the messages around the events. -/
def frameMethods : List String := ["initialize", "initialized", "shutdown", "exit"]

theorem EditorEvent.method_not_mem (event : EditorEvent) : event.method ∉ frameMethods := by
  cases event <;> simp [method, frameMethods]

namespace Connection

/-! ## The events that find a process -/

/-- The event of a notification that finds a process in the slot. -/
def offered? (c : Connection) : ConnectionInput → Option EditorEvent
  | .deliver i _ =>
    match c.notifies[i]?, c.slot with
    | some (.created event), some _ => some event
    | _, _ => none
  | _ => none

/-- The events of the notifications of a run that find a process in the slot, in order. -/
def offered (c : Connection) : List ConnectionInput → List EditorEvent
  | [] => []
  | input :: rest => (c.offered? input).toList ++ (c.step input).1.offered rest

/-- A step tells the server an event exactly if a notification finds a process. -/
theorem events_step (c : Connection) (input : ConnectionInput) :
    events (messages (c.step input).2) = (c.offered? input).toList := by
  cases input with
  | start => rfl
  | stop => rfl
  | notify event => rfl
  | beginStart i launching =>
      show events (messages (c.beginStart i launching).2) = []
      unfold beginStart
      split
      · split
        · cases launching <;> rfl
        · rfl
        · rfl
        · rfl
        · rfl
      · rfl
  | openingEnded i outcome taken =>
      show events (messages (c.openingEnded i outcome taken).2) = []
      unfold openingEnded
      split
      · cases outcome with
        | accepted info => cases taken <;> rfl
        | _ => rfl
      · rfl
  | graceEnded i status =>
      show events (messages (c.graceEnded i status).2) = []
      unfold graceEnded
      split
      · cases status <;> rfl
      · rfl
  | abortSeen i =>
      show events (messages (c.abortSeen i).2) = []
      unfold abortSeen
      split <;> rfl
  | link i =>
      show events (messages (c.link i).2) = []
      unfold link
      split <;> rfl
  | dropStart i =>
      show events (messages (c.dropStart i).2) = []
      unfold dropStart
      split
      · rfl
      · rfl
      · rfl
      · split
        · rfl
        · dsimp only
          split <;> rfl
  | look j =>
      show events (messages (c.look j).2) = []
      rcases c.look_cases j with h | ⟨_, -, -, ⟨-, h⟩ | ⟨-, -, h⟩ | ⟨-, h⟩ | ⟨-, h⟩⟩
      all_goals
        rw [h]
        rfl
  | unlink j =>
      show events (messages (c.unlink j).2) = []
      unfold unlink
      split
      · split <;> rfl
      · rfl
  | shutdownEnded j outcome taken =>
      show events (messages (c.shutdownEnded j outcome taken).2) = []
      unfold shutdownEnded
      split
      · cases taken <;> rfl
      · rfl
  | exitEnded j outcome =>
      show events (messages (c.exitEnded j outcome).2) = []
      unfold exitEnded
      split
      · dsimp only
        split <;> rfl
      · rfl
  | dropStop j =>
      show events (messages (c.dropStop j).2) = []
      unfold dropStop
      split
      · rfl
      · rfl
      · rfl
      · split <;> rfl
  | deliver i taken =>
      cases hn : c.notifies[i]? with
      | none => simp [step, deliver, offered?, hn, messages, events]
      | some stage =>
          cases stage with
          | created event =>
              cases hslot : c.slot <;> simp [step, deliver, offered?, hn, hslot, messages, events]
          | ended failure => simp [step, deliver, offered?, hn, messages, events]
          | dropped => simp [step, deliver, offered?, hn, messages, events]
  | dropNotify i =>
      show events (messages (c.dropNotify i).2) = []
      unfold dropNotify
      split <;> rfl

theorem events_sent (c : Connection) (inputs : List ConnectionInput) :
    events (c.sent inputs) = c.offered inputs := by
  show events (messages (c.effects inputs)) = c.offered inputs
  induction inputs generalizing c with
  | nil => rfl
  | cons input rest ih =>
      rw [effects_cons, messages_append, events_append, events_step, ih]
      rfl

/-! ## The order -/

/-- The whole conversation about a workspace. -/
def conversation (workspace : Path) (told : List EditorEvent) : List ClientMessage :=
  [.opening workspace, .opened] ++ told.map .event ++ [.shutdown, .exit]

/-- In a conversation each of the messages around the events is said once. -/
theorem conversation_once (workspace : Path) (told : List EditorEvent) {method : String}
    (h : method ∈ frameMethods) :
    ((conversation workspace told).filter fun m => m.method = method).length = 1 := by
  -- The events have methods of their own, so the filter leaves the four messages around them.
  have hevents : (told.map ClientMessage.event).filter (fun m => m.method = method) = [] := by
    rw [List.filter_eq_nil_iff]
    intro m hm
    obtain ⟨event, -, rfl⟩ := List.mem_map.mp hm
    rw [decide_eq_true_iff]
    rintro rfl
    exact event.method_not_mem h
  rw [conversation, List.filter_append, List.filter_append, hevents]
  simp only [frameMethods, List.mem_cons, List.not_mem_nil, or_false] at h
  rcases h with rfl | rfl | rfl | rfl <;> rfl

/-- **A connection sends one conversation in order.** In every run of a connection, what it sends
is the beginning of a conversation whose events are those of the notifications that found a
process in the slot, in that order, each told by its method and its parameters. All of it goes
to the one process, and each of the messages around the events is sent at most once. -/
theorem sent_in_order (launch : Launch) (scope : Scope) (config : ConnectionConfig)
    (inputs : List ConnectionInput) :
    let c := fresh launch scope config
    (∃ workspace, c.sent inputs <+: conversation workspace (c.offered inputs)) ∧
      events (c.sent inputs) = c.offered inputs ∧
      (∀ event ∈ c.offered inputs, ∀ processId,
        let message := ClientMessage.event event
        event.Told message.method (message.params processId)) ∧
      (∀ process message, .send process message ∈ c.effects inputs → process = 0) ∧
      ∀ method ∈ frameMethods, ((c.sent inputs).filter fun m => m.method = method).length ≤ 1 := by
  intro c
  obtain ⟨n, htrace, -⟩ := (Lives.fresh launch scope config).run inputs
  have hevents : events (c.sent inputs) = c.offered inputs := c.events_sent inputs
  obtain ⟨workspace, hsent⟩ : ∃ workspace,
      c.sent inputs <+: conversation workspace (c.offered inputs) := by
    obtain ⟨workspace, hprefix⟩ := htrace.conversation
    rw [messages_deeds] at hprefix
    refine ⟨workspace, ?_⟩
    rw [← hevents]
    exact hprefix
  refine ⟨⟨workspace, hsent⟩, hevents, ?_, ?_, ?_⟩
  · intro event _ processId
    exact event.told_params
  · intro process message hmem
    exact htrace.recipient (List.mem_filter.mpr ⟨hmem, rfl⟩)
  · intro method hmethod
    rw [← conversation_once workspace (c.offered inputs) hmethod]
    exact (hsent.filter _).length_le

end Connection
end LanguageBridge
