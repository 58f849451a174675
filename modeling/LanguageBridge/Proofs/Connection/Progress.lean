import LanguageBridge.Proofs.Connection.Release

set_option autoImplicit false

/-! # Attempts come to an end

That a start or a stop returns only right things would also hold if it never returned. Each attempt
has a course: the inputs that it waits for, one after the other. How far it is from its end never
grows, whatever else happens, and the input that is due brings it nearer (`start_moves`,
`stop_nears`, `stop_due`). So an attempt is over after every run that holds its course
(`start_ends`, `stop_ends`). For a stop that is said of connections in which no start is under way,
which is so once the start that entered is over (`attempts_end`).

Two steps are stated by themselves. A start whose handshake has ended well returns when it gets at
the slot, with its process in it (`accepted_returns`). A stop that found the running phase takes the
process out of the slot, unless another stop was faster (`unlink_takes`).
-/

namespace LanguageBridge

/-- How far a start is from its end. -/
def StartStage.ahead : StartStage → Nat
  | .created => 4
  | .opening _ => 3
  | .bereaved _ _ => 2
  | .linking _ => 1
  | .ended _ => 0
  | .dropped => 0

/-- The input that a start waits for in a stage. -/
def StartStage.Awaits (i : Nat) : StartStage → ConnectionInput → Prop
  | .created, .beginStart k _ => k = i
  | .opening _, .openingEnded k _ _ => k = i
  | .bereaved _ _, .graceEnded k _ => k = i
  | .linking _, .link k => k = i
  | _, _ => False

/-- How far a stop is from its end, once no start is under way. -/
def StopStage.ahead : StopStage → Nat
  | .created => 4
  | .waiting => 4
  | .unlinking => 3
  | .closing _ => 2
  | .reaping _ _ => 1
  | .ended _ => 0
  | .dropped => 0

theorem StartStage.ahead_eq_zero {stage : StartStage} :
    stage.ahead = 0 ↔ stage = .dropped ∨ ∃ failure, stage = .ended failure := by
  cases stage <;> simp [StartStage.ahead]

theorem StopStage.ahead_eq_zero {stage : StopStage} :
    stage.ahead = 0 ↔ stage.isOver = true := by
  cases stage <;> simp [StopStage.ahead, StopStage.isOver]

namespace Connection

variable {c : Connection} {l : Life} {i j : Nat}

/-! ## Courses -/

/-- The last inputs of a course, as many as are said. `due` gives each by what is left after it. -/
def course (due : Nat → ConnectionInput) : Nat → List ConnectionInput
  | 0 => []
  | n + 1 => due n :: course due n

/-- Where a distance never grows, and the input that is due makes it smaller, a run that holds the
course ends at no distance. -/
theorem run_course {Good : Connection → Prop} {distance : Connection → Nat}
    {due : Nat → ConnectionInput}
    (hkeep : ∀ c input, Good c →
      Good (c.step input).1 ∧ distance (c.step input).1 ≤ distance c)
    (hdue : ∀ c n, Good c → distance c = n + 1 → distance (c.step (due n)).1 ≤ n)
    {inputs : List ConnectionInput} {n : Nat} (hc : Good c) (hn : distance c ≤ n)
    (h : (course due n).Sublist inputs) :
    Good (c.run inputs).1 ∧ distance (c.run inputs).1 = 0 := by
  induction inputs generalizing c n with
  | nil =>
      cases n with
      | zero => exact ⟨hc, Nat.le_zero.mp hn⟩
      | succ n => cases h
  | cons input rest ih =>
      obtain ⟨hgood, hle⟩ := hkeep c input hc
      rw [run_cons]
      cases n with
      | zero => exact ih hgood (Nat.le_trans hle hn) (List.nil_sublist rest)
      | succ n =>
          cases h with
          | cons _ hlater => exact ih hgood (Nat.le_trans hle hn) hlater
          | cons_cons _ hlater =>
              -- Either the input that is due comes now, or what it would do has been done.
              refine ih hgood ?_ hlater
              by_cases hfar : distance c = n + 1
              · exact hdue c n hc hfar
              · omega

/-! ## Starts -/

section

variable {stage : StartStage}

/-- A start that waits for an input is the one that the input is about. -/
theorem start?_of_awaits {input : ConnectionInput} (h : stage.Awaits i input) :
    input.start? = some i := by
  cases stage <;> cases input <;> first | exact h.elim | exact congrArg some h

/-- What a step does with a start in a stage: it comes nearer to its end, or stays where it is since
it waits for something else. -/
def StartMoves (c' : Connection) (i : Nat) (stage : StartStage) (input : ConnectionInput) : Prop :=
  ∃ next, c'.starts[i]? = some next ∧
    (next.ahead < stage.ahead ∨ next = stage ∧ ¬ stage.Awaits i input)

theorem StartMoves.stays {input : ConnectionInput} (hi : c.starts[i]? = some stage)
    (hwaits : ¬ stage.Awaits i input) : StartMoves c i stage input :=
  ⟨stage, hi, Or.inr ⟨rfl, hwaits⟩⟩

theorem StartMoves.moved {c' : Connection} {next : StartStage} {input : ConnectionInput}
    (hi : c.starts[i]? = some stage) (hstarts : c'.starts = c.starts.set i next)
    (hlt : next.ahead < stage.ahead) : StartMoves c' i stage input := by
  refine ⟨next, ?_, Or.inl hlt⟩
  rw [hstarts]
  exact List.getElem?_set_self (List.getElem?_eq_some_iff.mp hi).1

theorem moves_beginStart (hi : c.starts[i]? = some stage) (launching : Launching) :
    StartMoves (c.beginStart i launching).1 i stage (.beginStart i launching) := by
  cases stage with
  | created =>
      simp only [beginStart, hi]
      split
      · cases launching <;> exact .moved hi rfl (by simp [StartStage.ahead])
      all_goals exact .moved hi rfl (by simp [StartStage.ahead])
  | _ =>
      simp only [beginStart, hi]
      exact .stays hi id

theorem moves_openingEnded (hi : c.starts[i]? = some stage)
    (outcome : OpeningOutcome) (taken : Bool) :
    StartMoves (c.openingEnded i outcome taken).1 i stage (.openingEnded i outcome taken) := by
  cases stage with
  | opening process =>
      simp only [openingEnded, hi]
      cases outcome with
      | accepted info => cases taken <;> exact .moved hi rfl (by simp [StartStage.ahead])
      | _ => exact .moved hi rfl (by simp [StartStage.ahead])
  | _ =>
      simp only [openingEnded, hi]
      exact .stays hi id

theorem moves_graceEnded (hi : c.starts[i]? = some stage)
    (status : Option ExitStatus) :
    StartMoves (c.graceEnded i status).1 i stage (.graceEnded i status) := by
  cases stage with
  | bereaved process failure =>
      simp only [graceEnded, hi]
      cases status <;> exact .moved hi rfl (by simp [StartStage.ahead])
  | _ =>
      simp only [graceEnded, hi]
      exact .stays hi id

theorem moves_link (hi : c.starts[i]? = some stage) :
    StartMoves (c.link i).1 i stage (.link i) := by
  cases stage with
  | linking process =>
      simp only [link, hi]
      exact .moved hi rfl (by simp [StartStage.ahead])
  | _ =>
      simp only [link, hi]
      exact .stays hi id

/-- A start that gives up is over; that never is what it waits for. -/
theorem moves_abortSeen (hi : c.starts[i]? = some stage) :
    StartMoves (c.abortSeen i).1 i stage (.abortSeen i) := by
  unfold abortSeen
  split
  case h_2 => exact .stays hi (by cases stage <;> exact id)
  case h_1 hpending _ =>
    rw [hi] at hpending
    cases stage <;> cases hpending <;> exact .moved hi rfl (by simp [StartStage.ahead])

/-- So is a start that is given up. -/
theorem moves_dropStart (hi : c.starts[i]? = some stage) :
    StartMoves (c.dropStart i).1 i stage (.dropStart i) := by
  cases stage with
  | created =>
      simp only [dropStart, hi]
      exact .moved hi rfl (by simp [StartStage.ahead])
  | ended failure =>
      simp only [dropStart, hi]
      exact .stays hi id
  | dropped =>
      simp only [dropStart, hi]
      exact .stays hi id
  | _ =>
      simp only [dropStart, hi, StartStage.process?]
      split <;> exact .moved hi rfl (by simp [StartStage.ahead])

/-- **A start comes nearer to its end with every input that it waits for**, and with no input does
it get further away. -/
theorem start_moves (hi : c.starts[i]? = some stage)
    (input : ConnectionInput) : StartMoves (c.step input).1 i stage input := by
  by_cases hinput : input.start? = some i
  case neg =>
    exact ⟨stage, start_step hinput hi, Or.inr ⟨rfl, fun h => hinput (start?_of_awaits h)⟩⟩
  case pos =>
    cases input <;> cases hinput
    · exact moves_beginStart hi _
    · exact moves_openingEnded hi _ _
    · exact moves_graceEnded hi _
    · exact moves_abortSeen hi
    · exact moves_link hi
    · exact moves_dropStart hi

/-- How far a start of a connection is from its end. -/
def startAhead (i : Nat) (c : Connection) : Nat := ((c.starts[i]?).map StartStage.ahead).getD 0

theorem startAhead_eq (hi : c.starts[i]? = some stage) :
    startAhead i c = stage.ahead := by
  rw [startAhead, hi]
  rfl

/-- What a start waits for, by how far it is from its end after that. -/
def startDue (i : Nat) (launching : Launching) (outcome : OpeningOutcome) (taken : Bool)
    (status : Option ExitStatus) : Nat → ConnectionInput
  | 0 => .link i
  | 1 => .graceEnded i status
  | 2 => .openingEnded i outcome taken
  | _ => .beginStart i launching

theorem awaits_startDue {n : Nat} (h : stage.ahead = n + 1)
    (launching : Launching) (outcome : OpeningOutcome) (taken : Bool)
    (status : Option ExitStatus) :
    stage.Awaits i (startDue i launching outcome taken status n) := by
  cases stage <;> cases h <;> rfl

/-- A start is over after every run that holds what is left of its course. -/
theorem start_over (hi : c.starts[i]? = some stage) (launching : Launching)
    (outcome : OpeningOutcome) (taken : Bool) (status : Option ExitStatus) {n : Nat}
    (hn : stage.ahead ≤ n) {inputs : List ConnectionInput}
    (h : (course (startDue i launching outcome taken status) n).Sublist inputs) :
    (c.run inputs).1.Over i := by
  have hkeep : ∀ (c : Connection) (input : ConnectionInput), (∃ stage, c.starts[i]? = some stage) →
      (∃ stage, (c.step input).1.starts[i]? = some stage) ∧
        startAhead i (c.step input).1 ≤ startAhead i c := by
    rintro c input ⟨stage, hi⟩
    obtain ⟨next, hnext, hmoves⟩ := start_moves hi input
    rw [startAhead_eq hi, startAhead_eq hnext]
    refine ⟨⟨next, hnext⟩, ?_⟩
    rcases hmoves with hlt | ⟨rfl, -⟩
    · exact Nat.le_of_lt hlt
    · exact Nat.le_refl _
  have hdue : ∀ (c : Connection) (n : Nat), (∃ stage, c.starts[i]? = some stage) →
      startAhead i c = n + 1 →
        startAhead i (c.step (startDue i launching outcome taken status n)).1 ≤ n := by
    rintro c n ⟨stage, hi⟩ hn
    rw [startAhead_eq hi] at hn
    obtain ⟨next, hnext, hmoves⟩ := start_moves hi (startDue i launching outcome taken status n)
    rw [startAhead_eq hnext]
    rcases hmoves with hlt | ⟨-, hwaits⟩
    · omega
    · exact absurd (awaits_startDue hn launching outcome taken status) hwaits
  have hfar : startAhead i c ≤ n := by
    rwa [startAhead_eq hi]
  obtain ⟨⟨last, hlast⟩, hzero⟩ := run_course hkeep hdue ⟨stage, hi⟩ hfar h
  rw [startAhead_eq hlast] at hzero
  exact ⟨last, hlast, StartStage.ahead_eq_zero.mp hzero⟩

/-- **Starts end.** A start is over after every run that holds its course: its beginning, the end of
its opening, the end of the grace of its process, and the slot. What the course brings, and what
else happens, does not matter. -/
theorem start_ends (hi : c.starts[i]? = some stage) (launching : Launching)
    (outcome : OpeningOutcome) (taken : Bool) (status : Option ExitStatus)
    {inputs : List ConnectionInput}
    (h : [.beginStart i launching, .openingEnded i outcome taken, .graceEnded i status,
      .link i].Sublist inputs) : (c.run inputs).1.Over i := by
  have hfar : stage.ahead ≤ 4 := by cases stage <;> simp [StartStage.ahead]
  exact start_over hi launching outcome taken status hfar h

/-- A start that waits for the slot returns when it gets at it. The server is in the slot then, and
the connection is running. -/
theorem link_returns {process : Nat} (hi : c.starts[i]? = some (.linking process)) :
    let next := (c.step (.link i)).1
    next.startResult? i = some none ∧ next.phase = .running ∧ next.slot = some process := by
  simp only [step, link, hi]
  refine ⟨startResult?_eq_some.mpr ?_, rfl, rfl⟩
  exact List.getElem?_set_self (List.getElem?_eq_some_iff.mp hi).1

/-- A start whose handshake has ended well returns when it gets at the slot, whatever happens until
then that is not about the start. -/
theorem accepted_returns {process : Nat} (hi : c.starts[i]? = some (.opening process))
    (info : ServerInfo) {others : List ConnectionInput}
    (hothers : ∀ input ∈ others, input.start? ≠ some i) :
    let last := (c.run (.openingEnded i (.accepted info) true :: others ++ [.link i])).1
    last.startResult? i = some none ∧ last.phase = .running ∧ last.slot = some process := by
  have hkept : ∀ (c : Connection), c.starts[i]? = some (.linking process) →
      (c.run others).1.starts[i]? = some (.linking process) := by
    induction others with
    | nil => exact fun _ h => h
    | cons input rest ih =>
        obtain ⟨hinput, hrest⟩ := List.forall_mem_cons.mp hothers
        exact fun c h => ih hrest _ (start_step hinput h)
  have hlinking : (c.step (.openingEnded i (.accepted info) true)).1.starts[i]?
      = some (.linking process) := by
    simp only [step, openingEnded, hi, if_true]
    exact List.getElem?_set_self (List.getElem?_eq_some_iff.mp hi).1
  rw [List.cons_append, run_cons, run_append]
  exact link_returns (hkept _ hlinking)

end

/-! ## Stops -/

section

variable {stage : StopStage}

/-- A stop that found the running phase closes the connection when it gets at the slot. It takes
the process that is there, and goes on with it. It has nothing to do only if another stop took the
process before, and closed the connection. -/
theorem unlink_takes (h : c.Lives l) (hj : c.stopStage? j = some .unlinking) :
    let next := (c.step (.unlink j)).1
    next.phase = .closed ∧
      ((c.phase = .running ∧ ∃ process, c.slot = some process ∧
          next.stopStage? j = some (.closing process)) ∨
        (c.phase ≠ .running ∧ next.stopResult? j = some none)) := by
  intro next
  have hstage : (c.stops[j]?).map StopAttempt.stage = some .unlinking := hj
  cases hslot : c.slot with
  | some process =>
      have hnext : next
          = { c with slot := none, phase := .closed }.setStop j (.closing process) := by
        show (c.unlink j).1 = _
        simp only [unlink, hstage, hslot]
      rw [hnext]
      refine ⟨rfl, Or.inl ⟨h.running_iff.mpr ⟨process, hslot⟩, process, rfl, ?_⟩⟩
      exact (stage_setStop hstage j).trans (if_pos rfl)
  | none =>
      have hnext : next = { c with phase := .closed }.setStop j (.ended none) := by
        show (c.unlink j).1 = _
        simp only [unlink, hstage, hslot]
      rw [hnext]
      refine ⟨rfl, Or.inr ⟨fun hrunning => ?_, ?_⟩⟩
      · obtain ⟨process, hsome⟩ := h.running_iff.mp hrunning
        rw [hslot] at hsome
        cases hsome
      · exact stopResult?_eq_some.mpr ((stage_setStop hstage j).trans (if_pos rfl))

/-- A stop that was asked for stays known. -/
theorem stop_known (hj : ∃ stage, c.stopStage? j = some stage) (inputs : List ConnectionInput) :
    ∃ stage, (c.run inputs).1.stopStage? j = some stage := by
  induction inputs generalizing c with
  | nil => exact hj
  | cons input rest ih =>
      rw [run_cons]
      refine ih ?_
      have hgoes := c.stop_step input j
      generalize (c.step input).1.stopStage? j = new at hgoes ⊢
      cases hgoes with
      | stay hnew =>
          rw [hnew]
          exact hj
      | _ => exact ⟨_, rfl⟩

/-- No step takes a stop further from its end while no start is under way. -/
theorem stop_nears (hj : c.stopStage? j = some stage) (hphase : c.phase ≠ .starting)
    (input : ConnectionInput) :
    ∃ next, (c.step input).1.stopStage? j = some next ∧ next.ahead ≤ stage.ahead := by
  have hgoes := c.stop_step input j
  have hsame : ∀ old, c.stopStage? j = some old → stage = old := by
    intro old hold
    rw [hj] at hold
    exact Option.some.inj hold
  generalize (c.step input).1.stopStage? j = new at hgoes
  cases hgoes with
  | stay hnew => exact ⟨stage, hnew.trans hj, Nat.le_refl _⟩
  | ask hnone =>
      rw [hj] at hnone
      cases hnone
  | wait _ hstarting => exact absurd hstarting hphase
  | sight hold =>
      refine ⟨_, rfl, ?_⟩
      rcases hold with hold | hold <;> rw [hsame _ hold] <;> decide
  | rest hold => exact ⟨_, rfl, Nat.zero_le _⟩
  | take hold =>
      refine ⟨_, rfl, ?_⟩
      rw [hsame _ hold]
      exact Nat.le_succ 2
  | miss hold => exact ⟨_, rfl, Nat.zero_le _⟩
  | dismiss hold =>
      refine ⟨_, rfl, ?_⟩
      rw [hsame _ hold]
      exact Nat.le_succ 1
  | finish hold => exact ⟨_, rfl, Nat.zero_le _⟩
  | drop hold => exact ⟨_, rfl, Nat.zero_le _⟩

/-- What a stop waits for, by how far it is from its end after that. -/
def stopDue (j : Nat) (outcome : ShutdownOutcome) (taken : Bool) (exit : ExitOutcome) :
    Nat → ConnectionInput
  | 0 => .exitEnded j exit
  | 1 => .shutdownEnded j outcome taken
  | 2 => .unlink j
  | _ => .look j

/-- **A stop comes nearer to its end with every input that it waits for**, while no start is under
way. -/
theorem stop_due (h : c.Lives l) (hj : c.stopStage? j = some stage) (hphase : c.phase ≠ .starting)
    (outcome : ShutdownOutcome) (taken : Bool) (exit : ExitOutcome) {n : Nat}
    (hn : stage.ahead = n + 1) :
    ∃ next, (c.step (stopDue j outcome taken exit n)).1.stopStage? j = some next ∧
      next.ahead ≤ n := by
  have hlook : n = 3 → stage = .created ∨ stage = .waiting →
      ∃ next, (c.step (stopDue j outcome taken exit n)).1.stopStage? j = some next ∧
        next.ahead ≤ n := by
    rintro rfl hstage
    obtain ⟨next, hnext, hafter⟩ := look_settles (j := j) (by rw [hj]; simpa using hstage) hphase
    refine ⟨next, hafter, ?_⟩
    rcases hnext with rfl | rfl <;> decide
  cases stage with
  | created =>
      cases hn
      exact hlook rfl (Or.inl rfl)
  | waiting =>
      cases hn
      exact hlook rfl (Or.inr rfl)
  | unlinking =>
      cases hn
      obtain ⟨-, ⟨-, process, -, hclosing⟩ | ⟨-, hended⟩⟩ := unlink_takes h hj
      · exact ⟨_, hclosing, Nat.le_refl _⟩
      · exact ⟨_, stopResult?_eq_some.mp hended, Nat.zero_le _⟩
  | closing process =>
      cases hn
      refine ⟨.reaping process (c.shutdownFailure? outcome), ?_, Nat.le_refl _⟩
      show (c.shutdownEnded j outcome taken).1.stopStage? j = _
      have hstage : (c.stops[j]?).map StopAttempt.stage = some (.closing process) := hj
      simp only [shutdownEnded, hstage]
      exact (stage_setStop hstage j).trans (if_pos rfl)
  | reaping process failure =>
      cases hn
      refine ⟨.ended failure, ?_, Nat.le_refl _⟩
      show (c.exitEnded j exit).1.stopStage? j = _
      have hstage : (c.stops[j]?).map StopAttempt.stage = some (.reaping process failure) := hj
      simp only [exitEnded, hstage]
      split
      all_goals exact (stage_setStop (c := c.setFate process _) hstage j).trans (if_pos rfl)
  | ended failure => cases hn
  | dropped => cases hn

/-- A stop was asked for, no start is under way, and none can begin any more. -/
structure Stopping (c : Connection) (j : Nat) : Prop where
  lives : ∃ l, c.Lives l
  used : c.phase ≠ .idle
  notStarting : c.phase ≠ .starting
  asked : ∃ stage, c.stopStage? j = some stage

theorem Stopping.step (h : c.Stopping j) (input : ConnectionInput) :
    (c.step input).1.Stopping j := by
  obtain ⟨l, hlives⟩ := h.lives
  obtain ⟨stage, hstage⟩ := h.asked
  obtain ⟨m, -, hm⟩ := hlives.step input
  obtain ⟨next, hnext, -⟩ := stop_nears hstage h.notStarting input
  exact ⟨⟨m, hm⟩, hlives.used_step h.used input, hlives.not_starting h.used h.notStarting [input],
    next, hnext⟩

/-- How far a stop of a connection is from its end. -/
def stopAhead (j : Nat) (c : Connection) : Nat := ((c.stopStage? j).map StopStage.ahead).getD 0

theorem stopAhead_eq (hj : c.stopStage? j = some stage) :
    stopAhead j c = stage.ahead := by
  rw [stopAhead, hj]
  rfl

/-- **Stops end.** Where no start is under way and none can begin, a stop is over after every run
that holds its course: its look at the phase, the slot, the end of the shutdown, and the end of the
wait for the exit. What the course brings, and what else happens, does not matter. -/
theorem stop_ends (h : c.Stopping j) (outcome : ShutdownOutcome) (taken : Bool) (exit : ExitOutcome)
    {inputs : List ConnectionInput}
    (hcourse : [.look j, .unlink j, .shutdownEnded j outcome taken,
      .exitEnded j exit].Sublist inputs) :
    ∃ stage, (c.run inputs).1.stopStage? j = some stage ∧ stage.isOver = true := by
  have hkeep : ∀ (c : Connection) (input : ConnectionInput), c.Stopping j →
      (c.step input).1.Stopping j ∧ stopAhead j (c.step input).1 ≤ stopAhead j c := by
    intro c input hc
    obtain ⟨stage, hstage⟩ := hc.asked
    obtain ⟨next, hnext, hle⟩ := stop_nears hstage hc.notStarting input
    rw [stopAhead_eq hstage, stopAhead_eq hnext]
    exact ⟨hc.step input, hle⟩
  have hdue : ∀ (c : Connection) (n : Nat), c.Stopping j → stopAhead j c = n + 1 →
      stopAhead j (c.step (stopDue j outcome taken exit n)).1 ≤ n := by
    intro c n hc hn
    obtain ⟨l, hlives⟩ := hc.lives
    obtain ⟨stage, hstage⟩ := hc.asked
    rw [stopAhead_eq hstage] at hn
    obtain ⟨next, hnext, hle⟩ := stop_due hlives hstage hc.notStarting outcome taken exit hn
    rwa [stopAhead_eq hnext]
  have hfar : stopAhead j c ≤ 4 := by
    obtain ⟨stage, hstage⟩ := h.asked
    rw [stopAhead_eq hstage]
    cases stage <;> simp [StopStage.ahead]
  obtain ⟨hlast, hzero⟩ := run_course hkeep hdue h hfar hcourse
  obtain ⟨stage, hstage⟩ := hlast.asked
  rw [stopAhead_eq hstage] at hzero
  exact ⟨stage, hstage, StopStage.ahead_eq_zero.mp hzero⟩

end

/-! ## Starts and stops -/

section

variable (launch : Launch) (scope : Scope) (config : ConnectionConfig)

/-- **Nobody waits for ever.** Where a start entered and a stop was asked for, the start is over
after what is left of its course, and the stop is over after a course of its own that follows. -/
theorem attempts_end {asked first rest : List ConnectionInput}
    (hi : i ∈ (fresh launch scope config).entered asked)
    (hj : ∃ stage, ((fresh launch scope config).run asked).1.stopStage? j = some stage)
    (opening : OpeningOutcome) (taken : Bool) (status : Option ExitStatus)
    (hfirst : [.openingEnded i opening taken, .graceEnded i status, .link i].Sublist first)
    (outcome : ShutdownOutcome) (told : Bool) (exit : ExitOutcome)
    (hrest : [.look j, .unlink j, .shutdownEnded j outcome told, .exitEnded j exit].Sublist rest) :
    ((fresh launch scope config).run (asked ++ first)).1.Over i ∧
      ∃ stage, ((fresh launch scope config).run (asked ++ first ++ rest)).1.stopStage? j
        = some stage ∧ stage.isOver = true := by
  obtain ⟨begun, hbegun, hnew⟩ := begun_of_entered hi
  have hfar : begun.ahead ≤ 3 := by
    cases begun with
    | created => exact absurd rfl hnew
    | _ => simp [StartStage.ahead]
  have hover : ((fresh launch scope config).run (asked ++ first)).1.Over i := by
    rw [run_append]
    -- The start has begun, so that it does not matter what its beginning would bring.
    exact start_over hbegun (.spawned (Path.ofText "/")) opening taken status hfar hfirst
  have hentered := mem_entered_append hi first
  obtain ⟨l, -, hlives⟩ := (Lives.fresh launch scope config).run (asked ++ first)
  obtain ⟨stage, hstage⟩ := stop_known hj first
  refine ⟨hover, ?_⟩
  rw [run_append]
  refine stop_ends ⟨⟨l, hlives⟩, (used_of_entered launch scope config hentered).1,
    not_starting_of_over launch scope config hentered hover.not_underWay, stage, ?_⟩
    outcome told exit hrest
  rwa [run_append]

end

end Connection
end LanguageBridge
