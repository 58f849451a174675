import LanguageBridge.Proofs.Bridge.Standing

set_option autoImplicit false

/-! # The calls that connections get

A connection is called to be created and started, to take events, and to be stopped. `Stride` lists
what a step of a bridge can call. From it follows the row of calls that one connection gets in a
run: its activation creates and starts it, events follow, and its deactivation stops it
(`Attended.run`). At any moment at most one connection was created and not stopped (`live_unique`),
and an event goes to the connection that is held, after its start has succeeded (`notify_held`).
-/

namespace LanguageBridge

/-- The connection that an effect calls. -/
def BridgeEffect.callee? : BridgeEffect → Option Nat
  | .create connection _ _ => some connection
  | .start connection => some connection
  | .stop connection => some connection
  | .notify connection _ => some connection
  | _ => none

namespace Bridge

variable {b b' : Bridge} {held : Option Activation}

/-- The calls among effects, in order. -/
def calls (effects : List BridgeEffect) : List BridgeEffect :=
  effects.filter fun e => e.callee?.isSome

/-- The calls of one connection among effects, in order. -/
def callsTo (connection : Nat) (effects : List BridgeEffect) : List BridgeEffect :=
  effects.filter fun e => e.callee? = some connection

theorem callsTo_append (connection : Nat) (effects others : List BridgeEffect) :
    callsTo connection (effects ++ others)
      = callsTo connection effects ++ callsTo connection others :=
  List.filter_append _ _

theorem callsTo_calls (connection : Nat) (effects : List BridgeEffect) :
    callsTo connection (calls effects) = callsTo connection effects := by
  rw [callsTo, calls, List.filter_filter]
  congr 1
  funext e
  cases h : e.callee? <;> simp

/-! ## Steps -/

/-- What a step of a bridge calls. -/
inductive Stride (b : Bridge) (input : BridgeInput) : List BridgeEffect → Prop where
  /-- An activation creates and starts the next connection. -/
  | engage (launch : Launch) (scope : Scope) (hnone : b.session = none)
    (hact : activation? (input, (b.step input).2.1) = some (launch, scope)) :
    Stride b input [.create b.created launch scope, .start b.created]
  /-- A deactivation stops the connection that is held. -/
  | leave (s : Session) (hs : b.session = some s) (hinput : input = .deactivate) :
    Stride b input [.stop s.connection]
  /-- An event goes to the connection that is held. -/
  | tell (s : Session) (kept event : EditorEvent) (outcome : NotifyOutcome)
    (hs : b.session = some s) (hready : b.state = .ready)
    (hinput : input = .forward event outcome) : Stride b input [.notify s.connection kept]
  /-- Everything else calls no connection. -/
  | rest (hact : activation? (input, (b.step input).2.1) = none)
    (hinput : input = .deactivate → b.session = none) : Stride b input []

/-- The end of a start calls no connection. -/
theorem calls_startEnded (b : Bridge) (connection : Nat) (outcome : Outcome)
    (sink : SinkReaction) : calls (b.startEnded connection outcome sink).2 = [] := by
  have hannounce : ∀ (c : Bridge) w failure, calls (c.announceStart w failure sink).2 = [] := by
    intro c w failure
    unfold announceStart
    cases failure with
    | none => by_cases hm : sink.takesMessage = true <;> simp [hm, calls, BridgeEffect.callee?]
    | some f =>
        by_cases hm : sink.takesMessage = true <;> by_cases hr : sink.takesRecord = true <;>
          simp [hm, hr, calls, BridgeEffect.callee?]
  have hsettle : ∀ (c : Bridge) w failure, calls (c.settle w failure sink).2 = [] := by
    intro c w failure
    unfold settle
    split
    · exact hannounce c w failure
    · rfl
  unfold startEnded
  split
  · rfl
  · cases outcome with
    | ok => exact hsettle _ _ none
    | failed f => exact hsettle _ _ (some f)
    | panicked message => rfl

/-- The end of a stop calls no connection. -/
theorem calls_stopEnded (b : Bridge) (connection : Nat) (outcome : Outcome) :
    calls (b.stopEnded connection outcome).2 = [] := by
  unfold stopEnded
  split
  · rfl
  · cases outcome <;> rfl

theorem stride (b : Bridge) (input : BridgeInput) : Stride b input (calls (b.step input).2.2) := by
  cases hact : activation? (input, (b.step input).2.1) with
  | some taken =>
      obtain ⟨launch, scope⟩ := taken
      obtain ⟨hnone, watch, -, -, he⟩ := step_of_activation hact
      rw [he]
      exact .engage launch scope hnone hact
  | none =>
      cases input with
      | activate launch scope announced =>
          rw [(step_of_no_activation hact).2]
          exact .rest hact nofun
      | deactivate =>
          show Stride b .deactivate (calls b.deactivate.2)
          unfold deactivate
          cases hs : b.session with
          | none => exact .rest hact fun _ => hs
          | some s => exact .leave s hs rfl
      | forward event outcome =>
          show Stride b (.forward event outcome) (calls (b.forward event outcome).2.2)
          rcases b.forward_cases event outcome with ⟨_, -, heq⟩ | ⟨s, kept, hready, hs, -, heq⟩
          · rw [heq]
            exact .rest hact nofun
          · rw [heq]
            exact .tell s kept event outcome hs hready rfl
      | startEnded connection outcome sink =>
          show Stride b (.startEnded connection outcome sink)
            (calls (b.startEnded connection outcome sink).2)
          rw [calls_startEnded]
          exact .rest hact nofun
      | stopEnded connection outcome =>
          show Stride b (.stopEnded connection outcome) (calls (b.stopEnded connection outcome).2)
          rw [calls_stopEnded]
          exact .rest hact nofun
      | poll teardown => exact .rest hact nofun
      | dropTeardown teardown => exact .rest hact nofun

/-! ## The deactivated connections -/

/-- The connection whose activation an entry of a history deactivates. -/
def deactivated? (held : Option Activation) : BridgeInput × BridgeReply → Option Nat
  | (.deactivate, _) => held.map Activation.connection
  | _ => none

/-- The connections whose activations a history deactivates, if it begins with `n` connections and
`held`. -/
def deactivatedFrom (n : Nat) (held : Option Activation) : History → List Nat
  | [] => []
  | entry :: rest =>
    (deactivated? held entry).toList
      ++ deactivatedFrom (n + (activation? entry).toList.length) (heldNext n held entry) rest

/-- The connections whose activations a history of a new bridge deactivates, in order. -/
def deactivated (h : History) : List Nat := deactivatedFrom 0 none h

theorem deactivated?_of_ne {input : BridgeInput} {reply : BridgeReply} (h : input ≠ .deactivate) :
    deactivated? held (input, reply) = none := by
  cases input with
  | deactivate => exact absurd rfl h
  | _ => rfl

/-- Only activations and deactivations change whether an activation is held. -/
theorem heldNext_length {n : Nat} {input : BridgeInput} {reply : BridgeReply}
    (hact : activation? (input, reply) = none) (h : input = .deactivate → held = none) :
    (heldNext n held (input, reply)).toList.length = held.toList.length := by
  rw [heldNext, hact]
  cases input with
  | deactivate =>
      rw [h rfl]
  | startEnded connection outcome sink => cases held <;> rfl
  | _ => rfl

/-! ## The row of one connection -/

/-- The calls that one connection gets: it is created and started by its activation, then it gets
events, and at last it is stopped, if its activation was deactivated. -/
def row (connection : Nat) (acts : List (Launch × Scope)) (events : List EditorEvent)
    (ended : List Nat) : List BridgeEffect :=
  match acts[connection]? with
  | none => []
  | some (launch, scope) =>
    .create connection launch scope :: .start connection :: events.map (.notify connection)
      ++ if connection ∈ ended then [.stop connection] else []

/-- A new connection gets the first two calls of its row. -/
theorem row_engage {acts : List (Launch × Scope)} {ended : List Nat} (hnew : acts.length ∉ ended)
    (launch : Launch) (scope : Scope) (k : Nat) (events : List EditorEvent) :
    ∃ events', row k acts events ended
        ++ callsTo k [.create acts.length launch scope, .start acts.length]
      = row k (acts ++ [(launch, scope)]) events' ended := by
  by_cases hk : k = acts.length
  · subst hk
    refine ⟨[], ?_⟩
    simp [row, callsTo, BridgeEffect.callee?, hnew]
  · refine ⟨events, ?_⟩
    have hsame : (acts ++ [(launch, scope)])[k]? = acts[k]? := by
      rw [List.getElem?_append]
      split
      · rfl
      case isFalse hge =>
        rw [List.getElem?_eq_none (Nat.le_of_not_lt hge), List.getElem?_eq_none]
        simp only [List.length_singleton]
        omega
    have hnone : callsTo k [.create acts.length launch scope, .start acts.length] = [] := by
      simp [callsTo, BridgeEffect.callee?, Ne.symm hk]
    rw [row, row, hsame, hnone, List.append_nil]

/-- The row of a connection that is held goes on with an event. -/
theorem row_tell {acts : List (Launch × Scope)} {ended : List Nat} {n : Nat}
    (hborn : n < acts.length) (hheld : n ∉ ended) (kept : EditorEvent) (k : Nat)
    (events : List EditorEvent) :
    ∃ events', row k acts events ended ++ callsTo k [.notify n kept]
      = row k acts events' ended := by
  by_cases hk : k = n
  · subst hk
    refine ⟨events ++ [kept], ?_⟩
    simp [row, callsTo, BridgeEffect.callee?, hborn, hheld]
  · refine ⟨events, ?_⟩
    simp [callsTo, BridgeEffect.callee?, Ne.symm hk]

/-- The row of a connection that is held ends with its stop. -/
theorem row_leave {acts : List (Launch × Scope)} {ended : List Nat} {n : Nat}
    (hborn : n < acts.length) (hheld : n ∉ ended) (k : Nat) (events : List EditorEvent) :
    row k acts events ended ++ callsTo k [.stop n] = row k acts events (ended ++ [n]) := by
  by_cases hk : k = n
  · subst hk
    simp [row, callsTo, BridgeEffect.callee?, hborn, hheld]
  · simp [row, callsTo, BridgeEffect.callee?, hk, Ne.symm hk]

/-- After the activations `acts`, of which those of the connections in `ended` were deactivated,
what a bridge did calls each connection by its row. -/
structure Attended (b : Bridge) (held : Option Activation) (acts : List (Launch × Scope))
    (ended : List Nat) (effects : List BridgeEffect) : Prop where
  holds : b.Holds held
  count : acts.length = b.created
  ended_eq : ended = List.range (b.created - held.toList.length)
  rows : ∀ k, ∃ events, callsTo k effects = row k acts events ended

theorem Attended.idle : Attended idle none [] [] [] where
  holds := Holds.idle
  count := rfl
  ended_eq := rfl
  rows := fun _ => ⟨[], rfl⟩

variable {acts : List (Launch × Scope)} {ended : List Nat} {effects : List BridgeEffect}

/-- The connection that is held is the last one, and the only one that was not stopped. -/
theorem Attended.newest (h : Attended b held acts ended effects) {s : Session}
    (hs : b.session = some s) :
    b.created = s.connection + 1 ∧ ended = List.range s.connection ∧
      s.connection < acts.length ∧ s.connection ∉ ended := by
  obtain ⟨a, rfl, -⟩ := h.holds.session_some hs
  have hnew := h.holds.sound.newest s hs
  have hended : ended = List.range s.connection := by
    rw [h.ended_eq, ← hnew]
    rfl
  refine ⟨hnew.symm, hended, ?_, ?_⟩
  · rw [h.count, ← hnew]
    exact Nat.lt_succ_self _
  · rw [hended]
    exact List.not_mem_range_self

theorem Attended.step (h : Attended b held acts ended effects) (input : BridgeInput) :
    let entry := (input, (b.step input).2.1)
    Attended (b.step input).1 (heldNext b.created held entry)
      (acts ++ (activation? entry).toList) (ended ++ (deactivated? held entry).toList)
      (effects ++ (b.step input).2.2) := by
  intro entry
  have hcreated := b.created_step input
  have hholds := h.holds.step input
  have hcalls : ∀ k events, callsTo k effects = row k acts events ended →
      callsTo k (effects ++ (b.step input).2.2)
        = row k acts events ended ++ callsTo k (calls (b.step input).2.2) := by
    intro k events hrow
    rw [callsTo_append, callsTo_calls, hrow]
  have hcount : (acts ++ (activation? entry).toList).length = (b.step input).1.created := by
    rw [List.length_append, h.count, hcreated]
  have hstride := b.stride input
  generalize calls (b.step input).2.2 = called at hstride hcalls
  cases hstride with
  | engage launch scope hnone hact =>
      have hheld : held = none := h.holds.session_none_iff.mp hnone
      have hdeactivated : deactivated? held entry = none := by
        rw [hheld]
        cases input <;> rfl
      have hended : ended = List.range b.created := by
        rw [h.ended_eq, hheld]
        rfl
      refine ⟨hholds, hcount, ?_, ?_⟩
      · rw [hdeactivated, hcreated, hact, heldNext, hact, hended]
        exact List.append_nil _
      · intro k
        obtain ⟨events, hrow⟩ := h.rows k
        have hnew : acts.length ∉ ended := by
          rw [hended, h.count]
          exact List.not_mem_range_self
        obtain ⟨events', hrow'⟩ := row_engage hnew launch scope k events
        refine ⟨events', ?_⟩
        rw [hcalls k events hrow, hdeactivated, hact, ← h.count]
        rw [Option.toList_none, List.append_nil]
        exact hrow'
  | leave s hs hinput =>
      subst hinput
      obtain ⟨a, rfl, hconn, -⟩ := h.holds.session_some hs
      obtain ⟨hnew, hended, hborn, hfree⟩ := h.newest hs
      have hdeactivated : deactivated? (some a) entry = some s.connection := congrArg some hconn
      refine ⟨hholds, hcount, ?_, ?_⟩
      · rw [hdeactivated, hcreated, hended, hnew]
        exact List.range_succ.symm
      · intro k
        obtain ⟨events, hrow⟩ := h.rows k
        refine ⟨events, ?_⟩
        rw [hcalls k events hrow, hdeactivated, row_leave hborn hfree]
        rw [Option.toList_some, show activation? entry = none from rfl, Option.toList_none,
          List.append_nil]
  | tell s kept event outcome hs hready hinput =>
      subst hinput
      obtain ⟨-, -, hborn, hfree⟩ := h.newest hs
      refine ⟨hholds, hcount, ?_, ?_⟩
      · rw [hcreated, h.ended_eq]
        exact List.append_nil _
      · intro k
        obtain ⟨events, hrow⟩ := h.rows k
        obtain ⟨events', hrow'⟩ := row_tell hborn hfree kept k events
        refine ⟨events', ?_⟩
        rw [hcalls k events hrow, hrow']
        rw [show activation? entry = none from rfl, show deactivated? held entry = none from rfl,
          Option.toList_none, Option.toList_none, List.append_nil, List.append_nil]
  | rest hact hinput =>
      have hempty : input = .deactivate → held = none :=
        fun heq => h.holds.session_none_iff.mp (hinput heq)
      have hdeactivated : deactivated? held entry = none := by
        by_cases heq : input = .deactivate
        · rw [hempty heq]
          cases input <;> rfl
        · exact deactivated?_of_ne heq
      refine ⟨hholds, hcount, ?_, ?_⟩
      · rw [hcreated, hact, hdeactivated, h.ended_eq, heldNext_length hact hempty]
        exact List.append_nil _
      · intro k
        obtain ⟨events, hrow⟩ := h.rows k
        refine ⟨events, ?_⟩
        rw [hcalls k events hrow, hact, hdeactivated, Option.toList_none, List.append_nil,
          Option.toList_none, List.append_nil]
        exact List.append_nil _

theorem Attended.run (h : Attended b held acts ended effects) (inputs : List BridgeInput) :
    Attended (b.run inputs).1 (heldFrom b.created held (b.history inputs))
      (acts ++ activations (b.history inputs))
      (ended ++ deactivatedFrom b.created held (b.history inputs))
      (effects ++ b.does inputs) := by
  induction inputs generalizing b held acts ended effects with
  | nil =>
      show Attended b held (acts ++ []) (ended ++ []) (effects ++ [])
      rw [List.append_nil, List.append_nil, List.append_nil]
      exact h
  | cons input rest ih =>
      have hrest := ih (h.step input)
      rw [created_step] at hrest
      rw [run_cons, history_cons, heldFrom, deactivatedFrom, does_cons]
      rw [List.append_assoc, List.append_assoc, List.append_assoc] at hrest
      cases hact : activation? (input, (b.step input).2.1) with
      | none =>
          rw [hact] at hrest
          rw [activations, List.filterMap_cons_none hact]
          exact hrest
      | some activation =>
          rw [hact] at hrest
          rw [activations, List.filterMap_cons_some hact]
          exact hrest

theorem Attended.after (inputs : List BridgeInput) :
    Attended (Bridge.after inputs) (Bridge.held (Bridge.idle.history inputs))
      (activations (Bridge.idle.history inputs)) (deactivated (Bridge.idle.history inputs))
      (Bridge.effects inputs) :=
  Attended.idle.run inputs

/-! ## One connection at a time -/

/-- A connection was created and was not stopped. -/
def Live (connection : Nat) (effects : List BridgeEffect) : Prop :=
  (∃ launch scope, .create connection launch scope ∈ effects) ∧ .stop connection ∉ effects

theorem mem_callsTo {k : Nat} {e : BridgeEffect} {effects : List BridgeEffect}
    (he : e.callee? = some k) : e ∈ callsTo k effects ↔ e ∈ effects := by
  simp [callsTo, he]

/-- Only the connection that is held is live. -/
theorem Attended.live (h : Attended b held acts ended effects) {k : Nat} (hk : Live k effects) :
    k + 1 = b.created ∧ b.session ≠ none := by
  obtain ⟨⟨launch, scope, hcreate⟩, hstop⟩ := hk
  obtain ⟨events, hrow⟩ := h.rows k
  rw [← mem_callsTo rfl, hrow] at hcreate hstop
  rw [row] at hcreate hstop
  cases hact : acts[k]? with
  | none =>
      rw [hact] at hcreate
      cases hcreate
  | some taken =>
      obtain ⟨launch', scope'⟩ := taken
      have hborn : k < b.created := by
        rw [← h.count]
        exact (List.getElem?_eq_some_iff.mp hact).1
      have hfree : k ∉ ended := by
        intro hended
        rw [hact] at hstop
        exact hstop (by simp [hended])
      rw [h.ended_eq, List.mem_range] at hfree
      cases hheld : held with
      | none =>
          rw [hheld] at hfree
          exact absurd hborn hfree
      | some a =>
          rw [hheld] at hfree
          have hsession : b.session ≠ none := by
            rw [ne_eq, h.holds.session_none_iff, hheld]
            exact nofun
          refine ⟨?_, hsession⟩
          simp only [Option.toList_some, List.length_singleton] at hfree
          omega

/-- Within a step, the live connection is the one that is held, or the one that the step
creates. -/
theorem Attended.live_part (h : Attended b held acts ended effects) {input : BridgeInput}
    {part : List BridgeEffect} (hpart : part <+: (b.step input).2.2) {k : Nat}
    (hk : Live k (effects ++ part)) :
    k + 1 = b.created ∧ b.session ≠ none ∨ k = b.created ∧ b.session = none := by
  obtain ⟨⟨launch, scope, hcreate⟩, hstop⟩ := hk
  rcases List.mem_append.mp hcreate with hold | hnew
  · exact Or.inl (h.live ⟨⟨launch, scope, hold⟩, fun hs => hstop (List.mem_append_left _ hs)⟩)
  · have hcall : .create k launch scope ∈ calls (b.step input).2.2 :=
      List.mem_filter.mpr ⟨hpart.subset hnew, rfl⟩
    have hstride := b.stride input
    generalize calls (b.step input).2.2 = called at hstride hcall
    cases hstride with
    | engage launch' scope' hnone hact => simp_all
    | leave s hs hinput => simp at hcall
    | tell s kept event outcome hs hready hinput => simp at hcall
    | rest hact hinput => cases hcall

/-- At any moment of a run at most one connection is live. -/
theorem live_unique {inputs : List BridgeInput} {before : List BridgeEffect}
    (hbefore : before <+: Bridge.effects inputs) {k k' : Nat} (hk : Live k before)
    (hk' : Live k' before) : k = k' := by
  rcases prefix_does (b := Bridge.idle) hbefore with rfl | ⟨pre, input, post, part, -, hpart, rfl⟩
  · have hattended := Attended.after inputs
    have hnew := (hattended.live hk).1
    have hnew' := (hattended.live hk').1
    omega
  · have hattended := Attended.after pre
    rcases hattended.live_part hpart hk with ⟨hnew, hs⟩ | ⟨hnew, hs⟩ <;>
      rcases hattended.live_part hpart hk' with ⟨hnew', hs'⟩ | ⟨hnew', hs'⟩
    · omega
    · exact absurd hs' hs
    · exact absurd hs hs'
    · omega

/-- An event goes to the connection that is held, and its own start has succeeded. -/
theorem notify_held (h : b.Holds held) {input : BridgeInput} {k : Nat} {event : EditorEvent}
    (hnotify : .notify k event ∈ (b.step input).2.2) :
    ∃ a, held = some a ∧ a.connection = k ∧ a.outcome = some .ok := by
  have hcall : .notify k event ∈ calls (b.step input).2.2 :=
    List.mem_filter.mpr ⟨hnotify, rfl⟩
  have hstride := b.stride input
  generalize calls (b.step input).2.2 = called at hstride hcall
  cases hstride with
  | engage launch scope hnone hact => simp at hcall
  | leave s hs hinput => simp at hcall
  | tell s kept event' outcome hs hready hinput =>
      obtain ⟨a, ha, hconn, -⟩ := h.session_some hs
      obtain ⟨a', ha', hok⟩ := h.ready hready
      obtain rfl : a = a' := Option.some.inj (ha.symm.trans ha')
      cases List.mem_singleton.mp hcall
      exact ⟨a, ha, hconn, hok⟩
  | rest hact hinput => cases hcall

end Bridge
end LanguageBridge
