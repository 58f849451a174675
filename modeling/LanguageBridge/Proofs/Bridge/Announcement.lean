import LanguageBridge.Proofs.Bridge.Sound

set_option autoImplicit false

/-! # What the user of a bridge is told

The user hears of one activation at a time. Each activation that succeeds is a block of its own:
the announcement, and then the outcome of its start, if one arrives before the deactivation.
`blocks` reads these blocks off the history of a run, without looking into the bridge, and
`told_eq_blocks` says that the user is told exactly them, one after the other. It also says that
nothing of what the user is told after a deactivation is about an activation from before.

Between an announcement and the outcome other things happen. `Bridge.awaited` is the watcher of
the start that the bridge still waits for, and `Bridge.pending` what the user will be told about
it in the rest of a run. `told_step` says what one step does to both.
-/

namespace LanguageBridge

/-- The user's side takes everything that an input makes the bridge tell. -/
def BridgeInput.Willing : BridgeInput → Prop
  | .activate _ _ announced => announced = true
  | .startEnded _ _ sink => sink = .willing
  | _ => True

/-- What an effect tells the user. -/
def BridgeEffect.status? : BridgeEffect → Option Status
  | .status s => some s
  | _ => none

namespace Bridge

/-- What effects tell the user, in order. -/
def told (effects : List BridgeEffect) : List Status := effects.filterMap BridgeEffect.status?

theorem told_append (effects others : List BridgeEffect) :
    told (effects ++ others) = told effects ++ told others := List.filterMap_append

/-! ## Blocks -/

/-- What the user is told about the outcome of the start of a command: one message about a
success, a message and a record about a failure, and nothing about a start that broke off. -/
def report (command : String) : Outcome → List Status
  | .ok => [.message ⟨.info, "Server started successfully"⟩]
  | .failed f =>
    [.message ⟨.error, "Failed to start server: " ++ f.message⟩,
      .record ⟨"Ruby-TI LSP", command, f.kind, f.message⟩]
  | .panicked _ => []

/-- What the user is told about an activation. -/
def block (command : String) (outcome : Option Outcome) : List Status :=
  .message ⟨.info, "Starting server at " ++ command⟩ :: (outcome.map (report command)).getD []

/-- The outcome of the start of a connection that arrives before the next deactivation. -/
def heard (connection : Nat) : List BridgeInput → Option Outcome
  | [] => none
  | .deactivate :: _ => none
  | .startEnded other outcome _ :: rest =>
    if other = connection then some outcome else heard connection rest
  | _ :: rest => heard connection rest

/-- The blocks of the activations in a history, the first of which creates connection `n`. -/
def blocks (n : Nat) : History → List (List Status)
  | [] => []
  | entry :: rest =>
    match activation? entry with
    | some (launch, _) => block launch.command (heard n (rest.map (·.1))) :: blocks (n + 1) rest
    | none => blocks n rest

/-! ## The start that a bridge waits for -/

/-- The watcher of the start that a bridge waits for. -/
def awaited (b : Bridge) : Option Watcher :=
  if b.state = .starting then b.watchers.find? fun w => w.connection + 1 == b.created else none

/-- What the user will be told about the start that a bridge waits for. -/
def pending (b : Bridge) (rest : List BridgeInput) : List Status :=
  match b.awaited with
  | some w => ((heard w.connection rest).map (report w.command)).getD []
  | none => []

theorem awaited_of_ne_starting {b : Bridge} (h : b.state ≠ .starting) : b.awaited = none :=
  if_neg h

theorem awaited_some {b : Bridge} {w : Watcher} (h : b.awaited = some w) :
    b.state = .starting ∧ w.connection + 1 = b.created ∧ w ∈ b.watchers := by
  unfold awaited at h
  split at h
  case isFalse => cases h
  case isTrue hstate =>
    have hnew := List.find?_some h
    exact ⟨hstate, beq_iff_eq.mp hnew, List.mem_of_find?_eq_some h⟩

/-- The start of the newest connection is awaited as long as it is watched. -/
theorem awaited_newest {b : Bridge} {connection : Nat} (hstate : b.state = .starting)
    (hnew : connection + 1 = b.created) :
    b.awaited = b.watchers.find? fun w => w.connection == connection := by
  rw [awaited, if_pos hstate, ← hnew]
  congr 1
  funext w
  simp

theorem awaited_engage {b : Bridge} (h : b.Sound) (launch : Launch) (scope : Scope)
    (watch : GlobUnion) :
    (b.engage launch scope watch).awaited
      = some ⟨b.created, b.epoch + 1, launch.command⟩ := by
  have hold : b.watchers.find? (fun w => w.connection == b.created) = none := by
    rw [List.find?_eq_none]
    intro w hw
    have hlt := (h.watchers w hw).2
    rw [beq_iff_eq]
    omega
  rw [awaited_newest rfl rfl]
  simp [engage, hold]

/-- The bridge goes on waiting when the watcher of an older connection goes. -/
theorem awaited_unwatch {b : Bridge} {connection : Nat} (h : connection + 1 ≠ b.created) :
    (b.unwatch connection).awaited = b.awaited := by
  unfold awaited unwatch
  rw [List.find?_filter]
  congr 2
  funext w
  by_cases hw : w.connection = connection
  · simp [hw, h]
  · simp [hw, Bool.beq_eq_decide_eq]

/-- Nothing is awaited where nobody watches the newest connection. -/
theorem awaited_of_unwatched {b : Bridge} (h : ∀ w ∈ b.watchers, w.connection + 1 ≠ b.created) :
    b.awaited = none := by
  unfold awaited
  split
  case isFalse => rfl
  case isTrue =>
    rw [List.find?_eq_none]
    intro w hw
    rw [beq_iff_eq]
    exact h w hw

/-- Nobody watches the newest connection any more when its watcher goes. -/
theorem unwatched_newest {b : Bridge} {connection : Nat} (h : connection + 1 = b.created) :
    ∀ w ∈ (b.unwatch connection).watchers, w.connection + 1 ≠ b.created := by
  intro w hw
  have hne : w.connection ≠ connection := by simpa using (List.mem_filter.mp hw).2
  omega

theorem pending_of_awaited {b : Bridge} {w : Watcher} (h : b.awaited = some w)
    (rest : List BridgeInput) :
    b.pending rest = ((heard w.connection rest).map (report w.command)).getD [] := by
  rw [pending, h]

theorem pending_of_none {b : Bridge} (h : b.awaited = none) (rest : List BridgeInput) :
    b.pending rest = [] := by
  rw [pending, h]

/-! ## Steps -/

/-- Effects that only log. -/
def Quiet (effects : List BridgeEffect) : Prop := ∀ e ∈ effects, ∃ event, e = .log event

/-- Whatever does not look at the logging finds nothing in quiet effects. -/
theorem Quiet.filterMap {effects : List BridgeEffect} (h : Quiet effects) {α : Type}
    {f : BridgeEffect → Option α} (hlog : ∀ event, f (.log event) = none) :
    effects.filterMap f = [] := by
  rw [List.filterMap_eq_nil_iff]
  intro e he
  obtain ⟨event, rfl⟩ := h e he
  exact hlog event

theorem settle_stale {b : Bridge} {w : Watcher} (hcurrent : ¬ b.isCurrent w = true)
    (failure : Option ConnectionFailure) (sink : SinkReaction) :
    (b.settle w failure sink).1 = b ∧ Quiet (b.settle w failure sink).2 := by
  rw [settle, if_neg hcurrent]
  refine ⟨rfl, fun e he => ⟨_, List.mem_singleton.mp he⟩⟩

/-- The end of a watched start, by its outcome: it is settled, or its watcher just goes. -/
theorem startEnded_found {b : Bridge} {connection : Nat} {w : Watcher}
    (h : b.watchers.find? (fun w => w.connection == connection) = some w) (outcome : Outcome)
    (sink : SinkReaction) :
    (∃ failure : Option ConnectionFailure, outcome = failure.elim .ok .failed ∧
        b.startEnded connection outcome sink = (b.unwatch connection).settle w failure sink) ∨
      ((∃ message, outcome = .panicked message) ∧
        b.startEnded connection outcome sink = (b.unwatch connection, [])) := by
  unfold startEnded
  rw [h]
  cases outcome with
  | ok => exact Or.inl ⟨none, rfl, rfl⟩
  | failed f => exact Or.inl ⟨some f, rfl, rfl⟩
  | panicked message => exact Or.inr ⟨⟨message, rfl⟩, rfl⟩

/-- The end of the awaited start, by its outcome: it is announced, or its watcher just goes. Then
nothing is awaited. -/
theorem startEnded_awaited {b : Bridge} (h : b.Sound) {w : Watcher} (ha : b.awaited = some w)
    (outcome : Outcome) (sink : SinkReaction) :
    ((∃ failure : Option ConnectionFailure, outcome = failure.elim .ok .failed ∧
        b.startEnded w.connection outcome sink
          = (b.unwatch w.connection).announceStart w failure sink) ∨
      ((∃ message, outcome = .panicked message) ∧
        b.startEnded w.connection outcome sink = (b.unwatch w.connection, []))) ∧
      (b.startEnded w.connection outcome sink).1.awaited = none := by
  obtain ⟨hstate, hnew, hmem⟩ := awaited_some ha
  have hfind : b.watchers.find? (fun v => v.connection == w.connection) = some w := by
    rw [← awaited_newest hstate hnew, ha]
  have hcurrent : (b.unwatch w.connection).isCurrent w = true :=
    (h.isCurrent_iff hmem).mpr ⟨hstate, hnew⟩
  have hgone := unwatched_newest hnew
  rcases startEnded_found hfind outcome sink with ⟨failure, hfailure, hstep⟩ | ⟨hpanic, hstep⟩
  · rw [settle, if_pos hcurrent] at hstep
    refine ⟨Or.inl ⟨failure, hfailure, hstep⟩, ?_⟩
    obtain ⟨state, broken, -, heq⟩ := (b.unwatch w.connection).announceStart_fst w failure sink
    rw [hstep, heq]
    exact awaited_of_unwatched hgone
  · refine ⟨Or.inr ⟨hpanic, hstep⟩, ?_⟩
    rw [hstep]
    exact awaited_of_unwatched hgone

/-- The outcome of the awaited start is told to a user who takes everything. -/
theorem told_startEnded_awaited {b : Bridge} (h : b.Sound) {w : Watcher} (ha : b.awaited = some w)
    (outcome : Outcome) :
    told (b.startEnded w.connection outcome .willing).2 = report w.command outcome := by
  rcases (startEnded_awaited h ha outcome .willing).1 with
    ⟨failure, rfl, hstep⟩ | ⟨⟨message, rfl⟩, hstep⟩
  · rw [hstep]
    cases failure with
    | none => rfl
    | some f => rfl
  · rw [hstep]
    rfl

/-- The outcome of any other start changes nothing but who watches it, and it is logged at most;
the bridge waits for what it waited for. -/
theorem startEnded_other {b : Bridge} (h : b.Sound) (connection : Nat)
    (hother : ∀ w, b.awaited = some w → w.connection ≠ connection) (outcome : Outcome)
    (sink : SinkReaction) :
    (∃ watchers, (b.startEnded connection outcome sink).1 = { b with watchers }) ∧
      Quiet (b.startEnded connection outcome sink).2 ∧
      (b.startEnded connection outcome sink).1.awaited = b.awaited := by
  cases hfind : b.watchers.find? (fun w => w.connection == connection) with
  | none =>
      -- Nobody watches the start: it broke off, or its outcome has arrived before.
      have hstep : b.startEnded connection outcome sink = (b, []) := by
        unfold startEnded
        rw [hfind]
      rw [hstep]
      exact ⟨⟨_, rfl⟩, nofun, rfl⟩
  | some w =>
      have hmem : w ∈ b.watchers := List.mem_of_find?_eq_some hfind
      have hconn : w.connection = connection := by
        have := List.find?_some hfind
        exact beq_iff_eq.mp this
      have hnotNewest : b.state = .starting → connection + 1 ≠ b.created := by
        intro hstate hnew
        exact hother w (by rw [awaited_newest hstate hnew, hfind]) hconn
      -- The gate: the epoch alone does not tell, since a deactivation keeps it.
      have hstale : ¬ (b.unwatch connection).isCurrent w = true := by
        intro hcurrent
        obtain ⟨hstate, hnew⟩ := (h.isCurrent_iff hmem).mp hcurrent
        exact hnotNewest hstate (by rw [← hconn, hnew])
      have hkept : (b.unwatch connection).awaited = b.awaited := by
        by_cases hstate : b.state = .starting
        · exact awaited_unwatch (hnotNewest hstate)
        · rw [awaited_of_ne_starting hstate]
          exact awaited_of_ne_starting hstate
      rcases startEnded_found hfind outcome sink with ⟨failure, -, hstep⟩ | ⟨-, hstep⟩
      · obtain ⟨hsame, hquiet⟩ := settle_stale hstale failure sink
        rw [hstep, hsame]
        exact ⟨⟨_, rfl⟩, hquiet, hkept⟩
      · rw [hstep]
        exact ⟨⟨_, rfl⟩, nofun, hkept⟩

/-- The end of a start is that of the awaited one, or it changes nothing that matters. -/
theorem startEnded_cases {b : Bridge} (h : b.Sound) (connection : Nat) (outcome : Outcome)
    (sink : SinkReaction) :
    (∃ w, b.awaited = some w ∧ w.connection = connection) ∨
      ((∀ w, b.awaited = some w → w.connection ≠ connection) ∧
        (∃ watchers, (b.startEnded connection outcome sink).1 = { b with watchers }) ∧
        Quiet (b.startEnded connection outcome sink).2 ∧
        (b.startEnded connection outcome sink).1.awaited = b.awaited) := by
  by_cases hmeant : ∃ w, b.awaited = some w ∧ w.connection = connection
  · exact Or.inl hmeant
  · have hother : ∀ w, b.awaited = some w → w.connection ≠ connection :=
      fun w hw hconn => hmeant ⟨w, hw, hconn⟩
    exact Or.inr ⟨hother, startEnded_other h connection hother outcome sink⟩

theorem Quiet.told {effects : List BridgeEffect} (h : Quiet effects) : Bridge.told effects = [] :=
  h.filterMap fun _ => rfl

theorem told_startEnded {b : Bridge} (h : b.Sound) (connection : Nat) (outcome : Outcome)
    (rest : List BridgeInput) :
    told (b.startEnded connection outcome .willing).2
        ++ (b.startEnded connection outcome .willing).1.pending rest
      = b.pending (.startEnded connection outcome .willing :: rest) := by
  cases ha : b.awaited with
  | none =>
      obtain ⟨-, hquiet, hkept⟩ := startEnded_other h connection
        (fun w hw => by rw [ha] at hw; cases hw) outcome .willing
      rw [hquiet.told, pending_of_none (hkept.trans ha), pending_of_none ha]
      rfl
  | some w =>
      by_cases hconn : w.connection = connection
      · subst hconn
        have hnone := (startEnded_awaited h ha outcome .willing).2
        rw [told_startEnded_awaited h ha, pending_of_none hnone, pending_of_awaited ha, heard,
          if_pos rfl, List.append_nil]
        rfl
      · obtain ⟨-, hquiet, hkept⟩ := startEnded_other h connection
          (fun v hv => by rw [ha] at hv; cases hv; exact hconn) outcome .willing
        rw [hquiet.told, pending_of_awaited (hkept.trans ha), pending_of_awaited ha, heard,
          if_neg (Ne.symm hconn)]
        rfl

/-- Deactivating tells nothing, and then nothing is awaited. -/
theorem told_deactivate {b : Bridge} (h : b.Sound) :
    told b.deactivate.2 = [] ∧ b.deactivate.1.awaited = none := by
  unfold deactivate
  cases hs : b.session with
  | none =>
      have hidle : b.state ≠ .starting := by
        rw [h.idle_iff.mpr hs]
        exact nofun
      exact ⟨rfl, awaited_of_ne_starting hidle⟩
  | some s => exact ⟨rfl, awaited_of_ne_starting nofun⟩

theorem told_forward (b : Bridge) (event : EditorEvent) (outcome : NotifyOutcome) :
    told (b.forward event outcome).2.2 = [] ∧
      (b.forward event outcome).1.awaited = b.awaited := by
  constructor
  · rcases b.forward_cases event outcome with ⟨_, _, heq⟩ | ⟨s, kept, -, -, -, heq⟩
    · rw [heq]
      rfl
    · rw [heq]
      rfl
  · rcases b.forward_fst event outcome with heq | ⟨s, kept, -, heq⟩
    · rw [heq]
    · rw [heq]
      rfl

theorem told_stopEnded (b : Bridge) (connection : Nat) (outcome : Outcome) :
    told (b.stopEnded connection outcome).2 = [] ∧
      (b.stopEnded connection outcome).1.awaited = b.awaited := by
  unfold stopEnded
  split
  · exact ⟨rfl, rfl⟩
  · exact ⟨by cases outcome <;> rfl, rfl⟩

theorem awaited_poll (b : Bridge) (teardown : Nat) :
    (b.poll teardown).1.awaited = b.awaited := by
  obtain ⟨teardowns, heq⟩ := b.poll_fst teardown
  rw [heq]
  rfl

/-- A step that is no successful activation tells what was pending, as far as it ends there, and
leaves the rest pending. -/
theorem told_step {b : Bridge} (h : b.Sound) {input : BridgeInput} (hw : input.Willing)
    (hquiet : activation? (input, (b.step input).2.1) = none) (rest : List BridgeInput) :
    told (b.step input).2.2 ++ (b.step input).1.pending rest = b.pending (input :: rest) := by
  -- Most inputs tell nothing and leave alone what the bridge waits for.
  have hsame : ∀ {b' : Bridge} {effects : List BridgeEffect}, told effects = [] →
      b'.awaited = b.awaited → told effects ++ b'.pending rest = b.pending rest := by
    intro b' effects htold hkept
    rw [htold, pending, hkept]
    rfl
  cases input with
  | activate launch scope announced =>
      obtain ⟨hb, he⟩ := step_of_no_activation hquiet
      rw [hb, he]
      rfl
  | deactivate =>
      obtain ⟨htold, hnone⟩ := told_deactivate h
      show told b.deactivate.2 ++ b.deactivate.1.pending rest = b.pending (.deactivate :: rest)
      rw [htold, pending_of_none hnone]
      cases ha : b.awaited with
      | none => rw [pending_of_none ha, List.append_nil]
      | some w => rw [pending_of_awaited ha]; rfl
  | forward event outcome =>
      obtain ⟨htold, hkept⟩ := b.told_forward event outcome
      exact hsame htold hkept
  | startEnded connection outcome sink =>
      have hsink : sink = .willing := hw
      subst hsink
      exact told_startEnded h connection outcome rest
  | stopEnded connection outcome =>
      obtain ⟨htold, hkept⟩ := b.told_stopEnded connection outcome
      exact hsame htold hkept
  | poll teardown => exact hsame rfl (b.awaited_poll teardown)
  | dropTeardown teardown => rfl

/-- A successful activation tells its announcement, and it begins to wait for its start. -/
theorem told_activation {b : Bridge} (h : b.Sound) {input : BridgeInput} {launch : Launch}
    {scope : Scope} (hact : activation? (input, (b.step input).2.1) = some (launch, scope))
    (rest : List BridgeInput) :
    b.awaited = none ∧ told (b.step input).2.2 ++ (b.step input).1.pending rest
      = block launch.command (heard b.created rest) := by
  obtain ⟨hnone, watch, -, hb, he⟩ := step_of_activation hact
  have hidle : b.state ≠ .starting := by
    rw [h.idle_iff.mpr hnone]
    exact nofun
  refine ⟨awaited_of_ne_starting hidle, ?_⟩
  rw [hb, he, pending_of_awaited (awaited_engage h launch scope watch)]
  rfl

/-! ## Runs -/

/-- What is told in a run: first what was pending, and then the blocks of its activations. -/
theorem told_run {b : Bridge} (h : b.Sound) {inputs : List BridgeInput}
    (hw : ∀ input ∈ inputs, input.Willing) :
    told (b.does inputs) = b.pending inputs ++ (blocks b.created (b.history inputs)).flatten := by
  -- From the front: what an activation leaves pending is the rest of its own block.
  induction inputs generalizing b with
  | nil =>
      have hnone : b.pending [] = [] := by
        cases ha : b.awaited with
        | none => exact pending_of_none ha []
        | some w => exact pending_of_awaited ha []
      rw [hnone]
      rfl
  | cons input rest ih =>
      have hrest : ∀ i ∈ rest, i.Willing := fun i hi => hw i (List.mem_cons_of_mem _ hi)
      have hcreated := b.created_step input
      rw [does_cons, told_append, ih (h.step input) hrest, history_cons, blocks]
      cases hact : activation? (input, (b.step input).2.1) with
      | none =>
          have htold := told_step h (hw input List.mem_cons_self) hact rest
          rw [hact] at hcreated
          rw [← htold, hcreated, List.append_assoc]
          rfl
      | some taken =>
          obtain ⟨hnone, htold⟩ := told_activation h hact rest
          rw [hact] at hcreated
          rw [pending_of_none hnone, history_inputs, hcreated, List.flatten_cons, ← htold,
            List.nil_append, List.append_assoc]
          rfl

/-- Nothing is pending while no server is held. -/
theorem pending_of_inactive {b : Bridge} (h : b.Sound) (hb : b.isActive = false)
    (rest : List BridgeInput) : b.pending rest = [] := by
  have hnone : b.session = none := by
    rw [isActive] at hb
    exact Option.isSome_eq_false_iff.mp hb |> Option.isNone_iff_eq_none.mp
  refine pending_of_none (awaited_of_ne_starting ?_) rest
  rw [h.idle_iff.mpr hnone]
  exact nofun

/-- **The user is told one block for each activation.** In a run whose user takes everything, the
user is told the blocks of the activations, in order and nothing else. From any moment on at which
no server is held, the user is told the blocks of the activations that are still to come: the
outcome of an earlier start is not told any more. -/
theorem told_eq_blocks (inputs : List BridgeInput) (hw : ∀ input ∈ inputs, input.Willing) :
    told (effects inputs) = (blocks 0 (idle.history inputs)).flatten ∧
      ∀ pre post, inputs = pre ++ post → (after pre).isActive = false →
        told (effects inputs) = told (effects pre)
          ++ (blocks (activations (idle.history pre)).length
              ((after pre).history post)).flatten := by
  constructor
  · exact told_run Sound.idle hw
  · intro pre post hsplit hinactive
    have hpost : ∀ input ∈ post, input.Willing := by
      intro input hi
      exact hw input (by rw [hsplit]; exact List.mem_append_right _ hi)
    have hcreated : (after pre).created = (activations (idle.history pre)).length := by
      rw [after, created_run]
      exact Nat.zero_add _
    have hparts : effects inputs = effects pre ++ (after pre).does post := by
      rw [hsplit]
      exact does_append idle pre post
    rw [hparts, told_append, told_run (Sound.after pre) hpost,
      pending_of_inactive (Sound.after pre) hinactive, hcreated]
    rfl

/-- A run in which the first start is given up, its success arrives when a second one is under
way, and the second one fails. -/
def overtaken : List BridgeInput :=
  [.activate ⟨"ti-lsp", [], []⟩ ⟨[], []⟩ true, .deactivate,
    .activate ⟨"ti", [], []⟩ ⟨[], []⟩ true, .startEnded 0 .ok .willing,
    .startEnded 1 (.failed (.launch "gone")) .willing]

/-- The success of the first start is not told, and the failure of the second one is. -/
theorem told_overtaken :
    (∀ input ∈ overtaken, input.Willing) ∧
      told (effects overtaken)
        = [.message ⟨.info, "Starting server at ti-lsp"⟩,
            .message ⟨.info, "Starting server at ti"⟩,
            .message ⟨.error, "Failed to start server: gone"⟩,
            .record ⟨"Ruby-TI LSP", "ti", .launch, "gone"⟩] := by
  have hw : ∀ input ∈ overtaken, input.Willing := by
    simp [overtaken, BridgeInput.Willing]
  exact ⟨hw, (told_eq_blocks overtaken hw).1.trans (by decide)⟩

end Bridge
end LanguageBridge
