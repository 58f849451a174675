import LanguageBridge.Proofs.Connection.SingleUse
import LanguageBridge.Proofs.Connection.Stops

set_option autoImplicit false

/-! # What a stop leaves behind

A stop that has ended leaves nothing behind. The phase is closed or cancelled and the slot is
empty, so that notifications and starts are refused from then on, and the process has ended
unless another stop is about to end it (`Connection.Finished`). `ProcessOwner` names those who can
have the process; while it is alive, exactly one of them has it (`Lives.alive_iff`).

A stop fails only if it took the process out of the slot and the shutdown of the server failed
(`failed_run`). `Connection.took` reads off a run which stops took the process. Where no start
succeeded no stop ever saw a server (`Earned.run`), and so none of them fails.
-/

namespace LanguageBridge

/-- Who can have a process. -/
inductive ProcessOwner where
  /-- A start whose handshake goes on. -/
  | handshake (i : Nat)
  /-- A start that has completed the handshake. -/
  | start (i : Nat)
  | slot
  /-- A stop that took the process out of the slot. -/
  | stop (j : Nat)
deriving DecidableEq, Repr

/-- The owner of the process at a place of a life. -/
def Life.owner? : Life → Option ProcessOwner
  | opening i => some (.handshake i)
  | linking i => some (.start i)
  | running => some .slot
  | closing j => some (.stop j)
  | reaping j => some (.stop j)
  | _ => none

/-- Whether a stop saw a running server, or reports a failure. -/
def StopStage.sawServer : StopStage → Bool
  | .unlinking => true
  | .closing _ => true
  | .reaping _ _ => true
  | .ended (some _) => true
  | _ => false

namespace Connection

variable {c c' : Connection} {l : Life} {i j : Nat}

/-! ## Owners -/

/-- An owner has a process. -/
def Owns (c : Connection) (process : Nat) : ProcessOwner → Prop
  | .handshake i => c.starts[i]? = some (.opening process) ∨
      ∃ failure, c.starts[i]? = some (.bereaved process failure)
  | .start i => c.starts[i]? = some (.linking process)
  | .slot => c.slot = some process
  | .stop j => c.stopStage? j = some (.closing process) ∨
      ∃ failure, c.stopStage? j = some (.reaping process failure)

/-- The life says who has the process. -/
theorem Lives.owns_iff (h : c.Lives l) {process : Nat} (owner : ProcessOwner) :
    c.Owns process owner ↔ process = 0 ∧ l.owner? = some owner := by
  cases owner with
  | handshake i =>
      constructor
      · intro howns
        have hstart : l.start i = some (process, false) := by
          rw [← h.start_eq i]
          rcases howns with hi | ⟨failure, hi⟩ <;> rw [hi] <;> rfl
        obtain ⟨rfl, rfl⟩ := Life.of_start_waiting hstart
        exact ⟨rfl, rfl⟩
      · rintro ⟨rfl, howner⟩
        obtain rfl : l = .opening i := by cases l <;> cases howner; rfl
        have hholding : (c.starts[i]?).bind StartStage.holding = some (0, false) :=
          (h.start_eq i).trans (if_pos rfl)
        obtain ⟨stage, hi, hstage⟩ := Option.bind_eq_some_iff.mp hholding
        cases stage with
        | opening process =>
            cases hstage
            exact Or.inl hi
        | bereaved process failure =>
            cases hstage
            exact Or.inr ⟨failure, hi⟩
        | _ => cases hstage
  | start i =>
      constructor
      · intro howns
        have hstart : l.start i = some (process, true) := by
          rw [← h.start_eq i, howns]
          rfl
        obtain ⟨rfl, rfl⟩ := Life.of_start_answered hstart
        exact ⟨rfl, rfl⟩
      · rintro ⟨rfl, howner⟩
        obtain rfl : l = .linking i := by cases l <;> cases howner; rfl
        have hholding : (c.starts[i]?).bind StartStage.holding = some (0, true) :=
          (h.start_eq i).trans (if_pos rfl)
        obtain ⟨stage, hi, hstage⟩ := Option.bind_eq_some_iff.mp hholding
        cases stage <;> cases hstage
        exact hi
  | slot =>
      constructor
      · intro howns
        obtain ⟨rfl, rfl⟩ := Life.of_slot (h.slot_eq.symm.trans howns)
        exact ⟨rfl, rfl⟩
      · rintro ⟨rfl, howner⟩
        obtain rfl : l = .running := by cases l <;> cases howner; rfl
        exact h.slot_eq
  | stop j =>
      constructor
      · rintro (hj | ⟨failure, hj⟩)
        · obtain ⟨rfl, rfl⟩ := Life.of_stop_waiting (h.stopHolding hj).symm
          exact ⟨rfl, rfl⟩
        · obtain ⟨rfl, rfl⟩ := Life.of_stop_told (h.stopHolding hj).symm
          exact ⟨rfl, rfl⟩
      · rintro ⟨rfl, howner⟩
        have hholding : ∃ told, (c.stopStage? j).bind StopStage.holding = some (0, told) := by
          cases l with
          | closing k =>
              cases howner
              exact ⟨false, (h.stop_eq j).trans (if_pos rfl)⟩
          | reaping k =>
              cases howner
              exact ⟨true, (h.stop_eq j).trans (if_pos rfl)⟩
          | _ => cases howner
        obtain ⟨told, hholding⟩ := hholding
        obtain ⟨stage, hj, hstage⟩ := Option.bind_eq_some_iff.mp hholding
        cases stage with
        | closing process =>
            cases hstage
            exact Or.inl hj
        | reaping process failure =>
            cases hstage
            exact Or.inr ⟨failure, hj⟩
        | _ => cases hstage

/-- A process is alive if somebody has it. -/
theorem Lives.alive_iff (h : c.Lives l) {process : Nat} :
    c.processes[process]? = some .alive ↔ process = 0 ∧ ∃ owner, l.owner? = some owner := by
  have hfates := h.fates
  cases l with
  | unused =>
      have hnil : c.processes = [] := hfates
      simp [hnil, Life.owner?]
  | cancelled =>
      have hnil : c.processes = [] := hfates
      simp [hnil, Life.owner?]
  | gone =>
      rcases hfates with hnil | ⟨fate, hfate, hone⟩
      · simp [hnil, Life.owner?]
      · cases process <;> simp [hone, hfate, Life.owner?]
  | _ =>
      have hone : c.processes = [.alive] := hfates
      cases process <;> simp [hone, Life.owner?]

/-- A process is alive exactly while somebody has it, and then only one has it. -/
theorem Lives.owner_unique (h : c.Lives l) (process : Nat) :
    (c.processes[process]? = some .alive → ∃ owner, c.Owns process owner ∧
        ∀ other, c.Owns process other → other = owner) ∧
      ∀ owner, c.Owns process owner → c.processes[process]? = some .alive := by
  constructor
  · intro halive
    obtain ⟨rfl, owner, howner⟩ := h.alive_iff.mp halive
    refine ⟨owner, (h.owns_iff _).mpr ⟨rfl, howner⟩, ?_⟩
    intro other hother
    exact Option.some.inj (((h.owns_iff _).mp hother).2.symm.trans howner)
  · intro owner howns
    obtain ⟨rfl, howner⟩ := (h.owns_iff owner).mp howns
    exact h.alive_iff.mpr ⟨rfl, owner, howner⟩

/-- The phase is running exactly while the slot holds a process. -/
theorem Lives.running_iff (h : c.Lives l) :
    c.phase = .running ↔ ∃ process, c.slot = some process := by
  rw [h.phase_eq, h.slot_eq]
  cases l <;> simp [Life.phase, Life.slot]

/-! ## Processes -/

/-- What a step can do with the processes: nothing, decide the fate of one, or spawn the next. -/
inductive ProcessesGo (c : Connection) (next : Connection × List ConnectionEffect) : Prop where
  | stay (h : next.1.processes = c.processes) (hspawned : spawned next.2 = [])
  | settle (process : Nat) (fate : ProcessFate)
    (h : next.1.processes = c.processes.set process fate) (hfate : fate ≠ .alive)
    (hspawned : spawned next.2 = [])
  | spawn (h : next.1.processes = c.processes ++ [.alive])
    (hspawned : spawned next.2 = [c.processes.length])

theorem processes_start (c : Connection) {input : ConnectionInput}
    (hinput : input.start? = some i) : ProcessesGo c (c.step input) := by
  cases input <;> cases hinput
  case beginStart launching =>
    rw [step, beginStart]
    split
    · split
      · cases launching with
        | spawned workspace => exact .spawn rfl rfl
        | _ => exact .stay rfl rfl
      all_goals exact .stay rfl rfl
    · exact .stay rfl rfl
  case openingEnded outcome taken =>
    rw [step, openingEnded]
    split
    · cases outcome with
      | accepted info =>
          cases taken with
          | true => exact .stay rfl rfl
          | false => exact .settle _ .dropped rfl (by decide) rfl
      | failed failure => exact .stay rfl rfl
      | _ => exact .settle _ .dropped rfl (by decide) rfl
    · exact .stay rfl rfl
  case graceEnded status =>
    rw [step, graceEnded]
    split
    · cases status with
      | some status => exact .settle _ .reaped rfl (by decide) rfl
      | none => exact .settle _ .dropped rfl (by decide) rfl
    · exact .stay rfl rfl
  case abortSeen =>
    rw [step, abortSeen]
    split
    · exact .settle _ .dropped rfl (by decide) rfl
    · exact .stay rfl rfl
  case link =>
    rw [step, link]
    split <;> exact .stay rfl rfl
  case dropStart =>
    rw [step, dropStart]
    split
    · exact .stay rfl rfl
    · exact .stay rfl rfl
    · exact .stay rfl rfl
    · split
      · exact .stay rfl rfl
      · dsimp only
        split <;> exact .settle _ .dropped rfl (by decide) rfl

theorem processes_step (c : Connection) (input : ConnectionInput) :
    ProcessesGo c (c.step input) := by
  cases input with
  | start => exact .stay rfl rfl
  | stop => exact .stay rfl rfl
  | notify event => exact .stay rfl rfl
  | beginStart i launching => exact c.processes_start rfl
  | openingEnded i outcome taken => exact c.processes_start rfl
  | graceEnded i status => exact c.processes_start rfl
  | abortSeen i => exact c.processes_start rfl
  | link i => exact c.processes_start rfl
  | dropStart i => exact c.processes_start rfl
  | look j =>
      rcases c.look_cases j with heq | ⟨_, -, -, ⟨-, heq⟩ | ⟨-, -, heq⟩ | ⟨-, heq⟩ | ⟨-, heq⟩⟩
      all_goals
        rw [step, heq]
        exact .stay rfl rfl
  | unlink j =>
      rw [step, unlink]
      split
      · split <;> exact .stay rfl rfl
      · exact .stay rfl rfl
  | shutdownEnded j outcome taken =>
      rw [step, shutdownEnded]
      split
      · cases taken <;> exact .stay rfl rfl
      · exact .stay rfl rfl
  | exitEnded j outcome =>
      rw [step, exitEnded]
      split
      · dsimp only
        split
        · exact .settle _ .reaped rfl (by decide) rfl
        · exact .settle _ .dropped rfl (by decide) rfl
        · exact .settle _ .killed rfl (by decide) rfl
        · exact .settle _ .dropped rfl (by decide) rfl
      · exact .stay rfl rfl
  | dropStop j =>
      rw [step, dropStop]
      split
      · exact .stay rfl rfl
      · exact .stay rfl rfl
      · exact .stay rfl rfl
      · split
        · exact .stay rfl rfl
        · exact .settle _ .dropped rfl (by decide) rfl
  | deliver i taken =>
      rw [step, deliver]
      split
      · split <;> exact .stay rfl rfl
      · exact .stay rfl rfl
  | dropNotify i =>
      rw [step, dropNotify]
      split <;> exact .stay rfl rfl

/-- The processes that a run spawns get the next numbers, in order. -/
theorem spawned_run (c : Connection) (inputs : List ConnectionInput) :
    ∃ n, spawned (c.effects inputs) = List.range' c.processes.length n ∧
      (c.run inputs).1.processes.length = c.processes.length + n := by
  induction inputs generalizing c with
  | nil => exact ⟨0, rfl, rfl⟩
  | cons input rest ih =>
      obtain ⟨n, hrest, hlength⟩ := ih (c.step input).1
      rw [effects_cons, spawned_append, run_cons, hrest, hlength]
      cases c.processes_step input with
      | stay h hspawned =>
          rw [h, hspawned]
          exact ⟨n, rfl, rfl⟩
      | settle process fate h hfate hspawned =>
          rw [h, hspawned, List.length_set]
          exact ⟨n, rfl, rfl⟩
      | spawn h hspawned =>
          rw [h, hspawned, List.length_append]
          exact ⟨n + 1, rfl, by simp only [List.length_singleton]; omega⟩

/-- The processes of a new connection are those that the run spawns. -/
theorem mem_spawned_iff (launch : Launch) (scope : Scope) (config : ConnectionConfig)
    (inputs : List ConnectionInput) (process : Nat) :
    process ∈ spawned ((fresh launch scope config).effects inputs) ↔
      process < ((fresh launch scope config).run inputs).1.processes.length := by
  obtain ⟨n, hspawned, hlength⟩ := spawned_run (fresh launch scope config) inputs
  rw [hspawned, hlength, List.mem_range'_1]
  simp [fresh]

/-! ## The end of a stop -/

/-- Every stop that has ended left a connection that is closed or cancelled. -/
def Settled (c : Connection) : Prop :=
  ∀ j result, c.stopResult? j = some result → c.phase = .closed ∨ c.phase = .cancelled

/-- A connection that is closed or cancelled stays what it is. -/
theorem Lives.final (h : c.Lives l) (hphase : c.phase = .closed ∨ c.phase = .cancelled)
    (inputs : List ConnectionInput) : (c.run inputs).1.phase = c.phase := by
  have hwalk := h.walk inputs
  rcases hphase with hclosed | hcancelled
  · rw [hclosed] at hwalk ⊢
    exact hwalk.of_closed.1
  · rw [hcancelled] at hwalk ⊢
    exact hwalk.of_cancelled.1

/-- Nothing is spawned by a connection that is closed or cancelled. -/
theorem Lives.spawned_final (h : c.Lives l) (hphase : c.phase = .closed ∨ c.phase = .cancelled)
    (inputs : List ConnectionInput) : spawned (c.effects inputs) = [] := by
  obtain ⟨n, htrace, -⟩ := h.run inputs
  have hle := htrace.spawned_le
  rw [spawned_deeds, published_deeds] at hle
  have hnot : .starting ∉ published (c.effects inputs) := by
    have hwalk := h.walk inputs
    intro hmem
    rcases hphase with hclosed | hcancelled
    · rw [hclosed] at hwalk
      cases hwalk.of_closed.2 _ hmem
    · rw [hcancelled] at hwalk
      rw [hwalk.of_cancelled.2] at hmem
      cases hmem
  rw [List.count_eq_zero_of_not_mem hnot] at hle
  exact List.eq_nil_of_length_eq_zero (Nat.le_zero.mp hle)

theorem Settled.step (h : c.Settled) (hlives : c.Lives l) (input : ConnectionInput) :
    (c.step input).1.Settled := by
  intro j result hj
  have hfinal : c.phase = .closed ∨ c.phase = .cancelled →
      (c.step input).1.phase = .closed ∨ (c.step input).1.phase = .cancelled := by
    intro hphase
    rw [show (c.step input).1.phase = c.phase from hlives.final hphase [input]]
    exact hphase
  cases stop_goes (stopResult?_eq_some.mp hj) with
  | stay hold => exact hfinal (h j result (stopResult?_eq_some.mpr hold.symm))
  | rest hold hphase => exact hphase
  | miss hold hphase => exact Or.inl hphase
  | finish hold =>
      -- The stop that waits for the exit is where the life is, and the phase is closed there.
      obtain ⟨-, rfl⟩ := Life.of_stop_told (hlives.stopHolding hold).symm
      exact hfinal (Or.inl hlives.phase_eq)

theorem Settled.run (h : c.Settled) (hlives : c.Lives l) (inputs : List ConnectionInput) :
    (c.run inputs).1.Settled := by
  induction inputs generalizing c l with
  | nil => exact h
  | cons input rest ih =>
      obtain ⟨m, -, hm⟩ := hlives.step input
      exact ih (h.step hlives input) hm

/-- What a stop leaves behind that has ended. -/
structure Finished (c : Connection) (j : Nat) : Prop where
  phase : c.phase = .closed ∨ c.phase = .cancelled
  slot : c.slot = none
  /-- Every notification is refused. -/
  notifies : ∀ i event taken, c.notifies[i]? = some (.created event) →
    (c.step (.deliver i taken)).1.notifyResult? i = some (some .notRunning) ∧
      (c.step (.deliver i taken)).2 = []
  /-- Every start is refused, and it does nothing. -/
  starts : ∀ i launching, c.starts[i]? = some .created →
    (∃ failure, (c.step (.beginStart i launching)).1.startResult? i = some (some failure)) ∧
      (c.step (.beginStart i launching)).2 = []
  /-- A process that has not ended is in the hands of another stop. -/
  processes : ∀ process, c.processes[process]? = some .alive →
    ∃ k, k ≠ j ∧ c.Owns process (.stop k)

theorem Lives.finished (h : c.Lives l) (hsettled : c.Settled) {result : Option ConnectionFailure}
    (hj : c.stopResult? j = some result) : c.Finished j := by
  have hphase := hsettled j result hj
  have hslot : c.slot = none := by
    rw [h.slot_eq]
    rw [h.phase_eq] at hphase
    cases l with
    | running => rcases hphase with hphase | hphase <;> cases hphase
    | _ => rfl
  refine ⟨hphase, hslot, ?_, ?_, ?_⟩
  · intro i event taken hi
    have hlt := (List.getElem?_eq_some_iff.mp hi).1
    have hdeliver : c.step (.deliver i taken)
        = (c.setNotify i (.ended (some .notRunning)), []) := by
      rw [Connection.step, Connection.deliver, hi, hslot]
    rw [hdeliver]
    exact ⟨by simp [notifyResult?, Connection.setNotify, hlt], rfl⟩
  · intro i launching hi
    have hidle : c.phase ≠ .idle := by
      rcases hphase with hphase | hphase <;> rw [hphase] <;> decide
    refine ⟨⟨_, startResult?_refused hi hidle launching []⟩, ?_⟩
    rw [Connection.step, Connection.beginStart, hi]
    rcases hphase with hphase | hphase <;> rw [hphase]
  · intro process halive
    obtain ⟨rfl, owner, howner⟩ := h.alive_iff.mp halive
    have howns : c.Owns 0 owner := (h.owns_iff _).mpr ⟨rfl, howner⟩
    rw [h.phase_eq] at hphase
    -- In a closed phase only a stop has the process, and this one has ended.
    have hstop : ∃ k, owner = .stop k := by
      cases l with
      | closing k => exact ⟨k, (Option.some.inj howner).symm⟩
      | reaping k => exact ⟨k, (Option.some.inj howner).symm⟩
      | unused => cases howner
      | cancelled => cases howner
      | gone => cases howner
      | _ => rcases hphase with hphase | hphase <;> cases hphase
    obtain ⟨k, rfl⟩ := hstop
    refine ⟨k, ?_, howns⟩
    rintro rfl
    rw [stopResult?_eq_some] at hj
    rcases howns with hk | ⟨failure, hk⟩ <;> rw [hj] at hk <;> cases hk

/-! ## Taking the process -/

/-- The stop that takes the process out of the slot in a step. -/
def took? (c : Connection) : ConnectionInput → Option Nat
  | .unlink j => if c.stopStage? j = some .unlinking ∧ c.slot.isSome then some j else none
  | _ => none

/-- The stops that take a process out of the slot in a run, in order. -/
def took (c : Connection) : List ConnectionInput → List Nat
  | [] => []
  | input :: rest => (c.took? input).toList ++ (c.step input).1.took rest

theorem took_append (c : Connection) (pre post : List ConnectionInput) :
    c.took (pre ++ post) = c.took pre ++ (c.run pre).1.took post := by
  induction pre generalizing c with
  | nil => rfl
  | cons input rest ih =>
      rw [List.cons_append, took, took, ih, List.append_assoc, run_cons]

/-- A stop takes the process of a running server, and closes the connection. -/
theorem Lives.took? (h : c.Lives l) {input : ConnectionInput} (htook : c.took? input = some j) :
    c.phase = .running ∧ (c.step input).1.phase = .closed := by
  cases input with
  | unlink k =>
      rw [Connection.took?] at htook
      split at htook
      case isFalse => cases htook
      case isTrue hk =>
        obtain ⟨process, hslot⟩ := Option.isSome_iff_exists.mp hk.2
        refine ⟨h.running_iff.mpr ⟨process, hslot⟩, ?_⟩
        have hstage : (c.stops[k]?).map StopAttempt.stage = some .unlinking := hk.1
        rw [Connection.step, Connection.unlink, hstage, hslot]
        rfl
  | _ => cases htook

/-- Nothing is taken from a closed connection. -/
theorem Lives.took_closed (h : c.Lives l) (hphase : c.phase = .closed)
    (inputs : List ConnectionInput) : c.took inputs = [] := by
  induction inputs generalizing c l with
  | nil => rfl
  | cons input rest ih =>
      obtain ⟨m, -, hm⟩ := h.step input
      have hstays : (c.step input).1.phase = .closed :=
        (h.final (Or.inl hphase) [input]).trans hphase
      have hnone : c.took? input = none := by
        cases htook : c.took? input with
        | none => rfl
        | some k =>
            rw [(h.took? htook).1] at hphase
            cases hphase
      rw [took, hnone, ih hm hstays]
      rfl

/-- One stop takes the process at most. -/
theorem Lives.took_le (h : c.Lives l) (inputs : List ConnectionInput) :
    (c.took inputs).length ≤ 1 := by
  induction inputs generalizing c l with
  | nil => exact Nat.zero_le 1
  | cons input rest ih =>
      obtain ⟨m, -, hm⟩ := h.step input
      cases htook : c.took? input with
      | none =>
          rw [took, htook]
          exact ih hm
      | some k =>
          rw [took, htook, hm.took_closed (h.took? htook).2]
          exact Nat.le_refl 1

/-- A stop that has a process took it in the run, or it had it before. -/
theorem taken_run {inputs : List ConnectionInput} {stage : StopStage} {process : Nat}
    (hj : (c.run inputs).1.stopStage? j = some stage)
    (hstage : StopStage.process? stage = some process) :
    (∃ old, c.stopStage? j = some old ∧ StopStage.process? old = some process) ∨
      j ∈ c.took inputs := by
  induction inputs generalizing c with
  | nil => exact Or.inl ⟨stage, hj, hstage⟩
  | cons input rest ih =>
      rcases ih hj with ⟨new, hnew, hprocess⟩ | hmem
      · cases stop_goes hnew with
        | stay hold => exact Or.inl ⟨new, hold.symm, hprocess⟩
        | take hold hslot =>
            refine Or.inr (List.mem_append_left _ ?_)
            rw [Connection.took?, if_pos ⟨hold, by rw [hslot]; rfl⟩]
            exact List.mem_singleton.mpr rfl
        | dismiss hold => exact Or.inl ⟨_, hold, hprocess⟩
        | _ => cases hprocess
      · exact Or.inr (List.mem_append_right _ hmem)

/-- A stop that fails had the process when its shutdown failed, or it failed before. -/
theorem failed_run {inputs : List ConnectionInput} {stage : StopStage} {f : ConnectionFailure}
    (hj : (c.run inputs).1.stopStage? j = some stage) (hstage : stage.failure? = some f) :
    (∃ old, c.stopStage? j = some old ∧ old.failure? = some f) ∨
      ∃ pre outcome taken post process, inputs = pre ++ .shutdownEnded j outcome taken :: post ∧
        (c.run pre).1.stopStage? j = some (.closing process) ∧
        (c.run pre).1.shutdownFailure? outcome = some f := by
  induction inputs generalizing c with
  | nil => exact Or.inl ⟨stage, hj, hstage⟩
  | cons input rest ih =>
      rcases ih hj with ⟨new, hnew, hfailure⟩ | ⟨pre, outcome, taken, post, process, rfl, hpre⟩
      · cases stop_goes hnew with
        | stay hold => exact Or.inl ⟨new, hold.symm, hfailure⟩
        | dismiss hold => exact Or.inr ⟨[], _, _, rest, _, rfl, hold, hfailure⟩
        | finish hold => exact Or.inl ⟨_, hold, hfailure⟩
        | _ => cases hfailure
      · exact Or.inr ⟨input :: pre, outcome, taken, post, process, rfl, hpre⟩

/-- How an owner came by the process in a run: a start entered, and a stop took it. -/
def CameBy (c : Connection) (inputs : List ConnectionInput) : ProcessOwner → Prop
  | .handshake i => i ∈ c.entered inputs
  | .start i => i ∈ c.entered inputs
  | .slot => True
  | .stop j => j ∈ c.took inputs

/-- An owner came by the process in the run of a new connection. -/
theorem cameBy_of_owns (launch : Launch) (scope : Scope) (config : ConnectionConfig)
    {inputs : List ConnectionInput} {process : Nat} {owner : ProcessOwner}
    (h : ((fresh launch scope config).run inputs).1.Owns process owner) :
    (fresh launch scope config).CameBy inputs owner := by
  have hentered : ∀ k, ((fresh launch scope config).run inputs).1.InHand k →
      k ∈ (fresh launch scope config).entered inputs := by
    intro k hk
    rcases inHand_run hk with hmem | ⟨_, hnone, -⟩
    · exact hmem
    · cases hnone
  have htook : ∀ k stage, ((fresh launch scope config).run inputs).1.stopStage? k = some stage →
      StopStage.process? stage = some process → k ∈ (fresh launch scope config).took inputs := by
    intro k stage hk hstage
    rcases taken_run hk hstage with ⟨_, hnone, -⟩ | hmem
    · cases hnone
    · exact hmem
  cases owner with
  | handshake i =>
      rcases h with hi | ⟨failure, hi⟩
      · exact hentered i ⟨_, hi, rfl⟩
      · exact hentered i ⟨_, hi, rfl⟩
  | start i => exact hentered i ⟨_, h, rfl⟩
  | slot => exact trivial
  | stop j =>
      rcases h with hj | ⟨failure, hj⟩
      · exact htook j _ hj rfl
      · exact htook j _ hj rfl

/-! ## No server, no failure -/

/-- A start succeeded. -/
def Succeeded (c : Connection) : Prop := ∃ i, c.startResult? i = some none

theorem Succeeded.step (h : c.Succeeded) (input : ConnectionInput) :
    (c.step input).1.Succeeded := by
  obtain ⟨i, hi⟩ := h
  exact ⟨i, startResult?_step hi input⟩

/-- Where a step takes a connection from the answer to running, the start has succeeded. -/
theorem Lives.linked (h : c.Lives (.linking i)) {input : ConnectionInput}
    (hrunning : (c.step input).1.Lives .running) : (c.step input).1.startResult? i = some none := by
  have hi : c.starts[i]? = some (.linking 0) := (h.owns_iff (.start i)).mpr ⟨rfl, rfl⟩
  have hlt := (List.getElem?_eq_some_iff.mp hi).1
  by_cases hinput : input.start? = some i
  · -- Of the inputs about this start, only getting at the slot makes the connection run.
    have hphase := hrunning.phase_eq
    have hstarting := h.phase_eq
    cases input with
    | link k =>
        cases hinput
        rw [startResult?_eq_some, Connection.step, Connection.link, hi]
        exact List.getElem?_set_self hlt
    | beginStart k launching =>
        cases hinput
        rw [Connection.step, Connection.beginStart, hi, hstarting] at hphase
        cases hphase
    | openingEnded k outcome taken =>
        cases hinput
        rw [Connection.step, Connection.openingEnded, hi, hstarting] at hphase
        cases hphase
    | graceEnded k status =>
        cases hinput
        rw [Connection.step, Connection.graceEnded, hi, hstarting] at hphase
        cases hphase
    | abortSeen k =>
        cases hinput
        simp [Connection.step, Connection.abortSeen, hi, StartStage.pending?, hstarting,
          Life.phase] at hphase
    | dropStart k =>
        cases hinput
        rw [Connection.step, dropStart_eq hstarting hi rfl] at hphase
        cases hphase
    | _ => cases hinput
  · have hstays := hrunning.holding (start_step hinput hi)
    cases hstays

/-- A connection runs only if a start succeeded. -/
theorem Lives.running_step (h : c.Lives l) {input : ConnectionInput}
    (hrunning : (c.step input).1.phase = .running) :
    c.phase = .running ∨ (c.step input).1.Succeeded := by
  obtain ⟨m, hstep, hm⟩ := h.step input
  obtain rfl : m = .running := by
    rw [hm.phase_eq] at hrunning
    cases m <;> first | rfl | cases hrunning
  generalize deeds (c.step input).2 = effects at hstep
  cases hstep with
  | rest => exact Or.inl h.phase_eq
  | tell event => exact Or.inl h.phase_eq
  | link i => exact Or.inr ⟨i, h.linked hm⟩
  | miss _ hclosed => cases hclosed

/-- Only a start that succeeded gives the stops a server to see. -/
structure Earned (c : Connection) : Prop where
  running : c.phase = .running → c.Succeeded
  stops : ∀ j stage, c.stopStage? j = some stage → stage.sawServer = true → c.Succeeded

theorem Earned.step (h : c.Earned) (hlives : c.Lives l) (input : ConnectionInput) :
    (c.step input).1.Earned where
  running := by
    intro hrunning
    rcases hlives.running_step hrunning with hbefore | hsucceeded
    · exact (h.running hbefore).step input
    · exact hsucceeded
  stops := by
    intro j stage hj hstage
    refine Succeeded.step ?_ input
    cases stop_goes hj with
    | stay hold => exact h.stops j stage hold.symm hstage
    | sight hold hphase => exact h.running hphase
    | take hold hslot => exact h.stops j _ hold rfl
    | dismiss hold => exact h.stops j _ hold rfl
    | finish hold => exact h.stops j _ hold rfl
    | _ => cases hstage

theorem Earned.run (h : c.Earned) (hlives : c.Lives l) (inputs : List ConnectionInput) :
    (c.run inputs).1.Earned := by
  induction inputs generalizing c l with
  | nil => exact h
  | cons input rest ih =>
      obtain ⟨m, -, hm⟩ := hlives.step input
      exact ih (h.step hlives input) hm

/-- Where no start succeeded, a stop that looks at the phase has nothing to do, unless a start is
under way. -/
theorem Earned.look (h : c.Earned) (hnone : ¬ c.Succeeded) (hphase : c.phase ≠ .starting)
    (hj : c.stopStage? j = some .created ∨ c.stopStage? j = some .waiting) :
    (c.step (.look j)).1.stopResult? j = some none := by
  have hrunning : c.phase ≠ .running := fun hrunning => hnone (h.running hrunning)
  have hlook : (c.look j).1.stops = (c.note j (.ended none)).stops := by
    have hstage : (c.stops[j]?).map StopAttempt.stage = some .created ∨
        (c.stops[j]?).map StopAttempt.stage = some .waiting := hj
    rcases hstage with hstage | hstage
    all_goals
      cases hp : c.phase with
      | starting => exact absurd hp hphase
      | running => exact absurd hp hrunning
      | _ => simp only [Connection.look, hstage, hp, reduceCtorEq, if_false]
  rw [stopResult?_eq_some, stopStage?, Connection.step, hlook]
  rcases hj with hj | hj
  all_goals exact (stage_note hj j).trans (if_pos rfl)

section

variable (launch : Launch) (scope : Scope) (config : ConnectionConfig)

theorem Earned.fresh : (fresh launch scope config).Earned := ⟨nofun, nofun⟩

theorem Settled.fresh : (fresh launch scope config).Settled := nofun

/-- Where the start that entered has failed or was given up, no start succeeded and the connection
is closed. -/
theorem attempt_over {inputs : List ConnectionInput} {i : Nat}
    (hentered : i ∈ (fresh launch scope config).entered inputs)
    (hover : (∃ f, ((fresh launch scope config).run inputs).1.startResult? i = some (some f)) ∨
      ((fresh launch scope config).run inputs).1.starts[i]? = some .dropped) :
    ¬ ((fresh launch scope config).run inputs).1.Succeeded ∧
      ((fresh launch scope config).run inputs).1.phase = .closed := by
  have hlives := Lives.fresh launch scope config
  obtain ⟨n, -, hn⟩ := hlives.run inputs
  have hearned := (Earned.fresh launch scope config).run hlives inputs
  have hone := entered_fresh launch scope config inputs
  -- The start is the only one that entered, so no other has a process or has succeeded.
  have hidle : ∀ k, ¬ ((fresh launch scope config).run inputs).1.InHand k := by
    intro k hk
    have hmem : k ∈ (fresh launch scope config).entered inputs := by
      rcases inHand_run hk with hmem | ⟨_, hcreated, -⟩
      · exact hmem
      · cases hcreated
    obtain rfl : k = i := by
      have hlist := (eq_singleton_of_mem hmem hone).symm.trans (eq_singleton_of_mem hentered hone)
      exact (List.cons.inj hlist).1
    obtain ⟨stage, hstage, hhand⟩ := hk
    rcases hover with ⟨f, hfailed⟩ | hdropped
    · rw [startResult?_eq_some.mp hfailed] at hstage
      cases hstage
      cases hhand
    · rw [hdropped] at hstage
      cases hstage
      cases hhand
  have hnone : ¬ ((fresh launch scope config).run inputs).1.Succeeded := by
    rintro ⟨k, hk⟩
    exact hidle k ⟨_, startResult?_eq_some.mp hk, rfl⟩
  refine ⟨hnone, ?_⟩
  have hmem : .starting ∈ published ((fresh launch scope config).effects inputs) := by
    refine List.count_pos_iff.mp (Nat.lt_of_lt_of_le ?_ (entered_le _ inputs))
    exact List.length_pos_of_mem hentered
  have hphase := (hlives.walk inputs).of_starting_mem hmem
  have hrunning := fun hrunning => hnone (hearned.running hrunning)
  rw [hn.phase_eq] at hphase hrunning ⊢
  cases n with
  | unused => exact absurd rfl hphase.1
  | cancelled => exact absurd rfl hphase.2
  | opening k =>
      rcases (hn.owns_iff (.handshake k)).mpr ⟨rfl, rfl⟩ with hk | ⟨failure, hk⟩
      · exact absurd ⟨_, hk, rfl⟩ (hidle k)
      · exact absurd ⟨_, hk, rfl⟩ (hidle k)
  | linking k =>
      have hk := (hn.owns_iff (.start k)).mpr ⟨rfl, rfl⟩
      exact absurd ⟨_, hk, rfl⟩ (hidle k)
  | running => exact absurd rfl hrunning
  | closing k => rfl
  | reaping k => rfl
  | gone => rfl

/-- **A stop leaves nothing behind.** In every run of a connection, the phase is running exactly
while the slot holds a process, and a process that was spawned is alive exactly while it has an
owner, which is the only one: a start that entered, the slot, or a stop that took the process out
of the slot. Once a stop has ended, it stays so that the phase is closed or
cancelled, the slot is empty, notifications and starts are refused, nothing is spawned, and a
process that is still alive is in the hands of another stop. A stop that failed is the one that
took the process, and its shutdown failed. Where no start succeeded no stop fails, and a stop that
looks at the phase has nothing to do unless a start is under way; so it is once the start that
entered has failed, was stopped or was given up. -/
theorem nothing_left (inputs : List ConnectionInput) :
    let c := fresh launch scope config
    let last := (c.run inputs).1
    (last.phase = .running ↔ ∃ process, last.slot = some process) ∧
      (∀ process, process ∈ spawned (c.effects inputs) ↔ process < last.processes.length) ∧
      (∀ process, (last.processes[process]? = some .alive →
          ∃ owner, last.Owns process owner ∧
            ∀ other, last.Owns process other → other = owner) ∧
        ∀ owner, last.Owns process owner →
          last.processes[process]? = some .alive ∧ c.CameBy inputs owner) ∧
      (∀ j result, last.stopResult? j = some result → ∀ later,
        (last.run later).1.Finished j ∧ spawned (last.effects later) = []) ∧
      (∀ j failure, last.stopResult? j = some (some failure) → c.took inputs = [j] ∧
        ∃ pre outcome taken post process,
          inputs = pre ++ .shutdownEnded j outcome taken :: post ∧
            (c.run pre).1.stopStage? j = some (.closing process) ∧
            outcome ≠ .done ∧ (c.run pre).1.shutdownFailure? outcome = some failure) ∧
      (¬ last.Succeeded → ∀ j,
        (∀ result, last.stopResult? j = some result → result = none) ∧
        (last.phase ≠ .starting →
          last.stopStage? j = some .created ∨ last.stopStage? j = some .waiting →
            (last.step (.look j)).1.stopResult? j = some none)) ∧
      ∀ i ∈ c.entered inputs, (∃ failure, last.startResult? i = some (some failure)) ∨
          last.starts[i]? = some .dropped →
        ¬ last.Succeeded ∧ last.phase = .closed := by
  intro c last
  have hlives : c.Lives .unused := Lives.fresh launch scope config
  have hearned : last.Earned := (Earned.fresh launch scope config).run hlives inputs
  have hsettled : last.Settled := (Settled.fresh launch scope config).run hlives inputs
  obtain ⟨n, -, hn⟩ := hlives.run inputs
  refine ⟨hn.running_iff, mem_spawned_iff launch scope config inputs, ?_, ?_, ?_, ?_,
    fun i hi hover => attempt_over launch scope config hi hover⟩
  · intro process
    obtain ⟨halone, halive⟩ := hn.owner_unique process
    exact ⟨halone, fun owner howns =>
      ⟨halive owner howns, cameBy_of_owns launch scope config howns⟩⟩
  · intro j result hj later
    obtain ⟨m, -, hm⟩ := hn.run later
    exact ⟨hm.finished (hsettled.run hn later) (stopResult?_run hj later),
      hn.spawned_final (hsettled j result hj) later⟩
  · intro j failure hj
    rcases failed_run (stopResult?_eq_some.mp hj) rfl with
      ⟨_, hnew, -⟩ | ⟨pre, outcome, taken, post, process, rfl, hclosing, hfailure⟩
    · cases hnew
    have hmem : j ∈ c.took (pre ++ .shutdownEnded j outcome taken :: post) := by
      rw [took_append]
      rcases taken_run hclosing rfl with ⟨_, hnew, -⟩ | hmem
      · cases hnew
      · exact List.mem_append_left _ hmem
    have hone := hlives.took_le (pre ++ .shutdownEnded j outcome taken :: post)
    refine ⟨eq_singleton_of_mem hmem hone, pre, outcome, taken, post, process,
      rfl, hclosing, ?_, hfailure⟩
    rintro rfl
    cases hfailure
  · intro hnone j
    refine ⟨?_, fun hphase hj => hearned.look hnone hphase hj⟩
    intro result hj
    cases result with
    | none => rfl
    | some f => exact absurd (hearned.stops j _ (stopResult?_eq_some.mp hj) rfl) hnone

end

end Connection
end LanguageBridge
