import LanguageBridge.Proofs.Connection.Life

set_option autoImplicit false

/-! # Who holds the process

`Connection.Lives` says that a connection is at a place of its life. It reads the phase, the slot
and the stages of all attempts: the process is in the hands of one start, or in the slot, or in
the hands of one stop, and that is where the life says it is; no other attempt has a process.

Whatever happens to a connection, it takes a step of its life (`Lives.step`), and so the effects
of a run are a trace (`Lives.run`). What holds of every trace holds of every run of a connection.
-/

namespace LanguageBridge

/-! ## Who has the process -/

/-- The process of a start that has one, and whether the answer is there. -/
def StartStage.holding : StartStage → Option (Nat × Bool)
  | opening process => some (process, false)
  | bereaved process _ => some (process, false)
  | linking process => some (process, true)
  | _ => none

/-- The process of a stop that has one, and whether the server was told to exit. -/
def StopStage.holding : StopStage → Option (Nat × Bool)
  | closing process => some (process, false)
  | reaping process _ => some (process, true)
  | _ => none

namespace Life

/-- What a start has at a place of a life. -/
def start : Life → Nat → Option (Nat × Bool)
  | opening i, k => if k = i then some (0, false) else none
  | linking i, k => if k = i then some (0, true) else none
  | _, _ => none

/-- What a stop has at a place of a life. -/
def stop : Life → Nat → Option (Nat × Bool)
  | closing j, k => if k = j then some (0, false) else none
  | reaping j, k => if k = j then some (0, true) else none
  | _, _ => none

/-- What is in the slot at a place of a life. -/
def slot : Life → Option Nat
  | running => some 0
  | _ => none

/-- What became of the processes up to a place of a life. -/
def Fates (fates : List ProcessFate) : Life → Prop
  | unused => fates = []
  | cancelled => fates = []
  | gone => fates = [] ∨ ∃ fate, fate ≠ .alive ∧ fates = [fate]
  | _ => fates = [.alive]

theorem of_start_waiting {l : Life} {i process : Nat} (h : l.start i = some (process, false)) :
    process = 0 ∧ l = opening i := by
  cases l with
  | opening k => simp_all [start]
  | linking k => simp_all [start]
  | _ => cases h

theorem of_start_answered {l : Life} {i process : Nat} (h : l.start i = some (process, true)) :
    process = 0 ∧ l = linking i := by
  cases l with
  | opening k => simp_all [start]
  | linking k => simp_all [start]
  | _ => cases h

theorem of_stop_waiting {l : Life} {j process : Nat} (h : l.stop j = some (process, false)) :
    process = 0 ∧ l = closing j := by
  cases l with
  | closing k => simp_all [stop]
  | reaping k => simp_all [stop]
  | _ => cases h

theorem of_stop_told {l : Life} {j process : Nat} (h : l.stop j = some (process, true)) :
    process = 0 ∧ l = reaping j := by
  cases l with
  | closing k => simp_all [stop]
  | reaping k => simp_all [stop]
  | _ => cases h

theorem of_slot {l : Life} {process : Nat} (h : l.slot = some process) :
    process = 0 ∧ l = running := by
  cases l with
  | running =>
      cases h
      exact ⟨rfl, rfl⟩
  | _ => cases h

theorem of_phase_idle {l : Life} (h : l.phase = .idle) : l = unused := by
  cases l <;> first | rfl | cases h

end Life

namespace Connection

/-- A connection is at a place of its life. -/
structure Lives (c : Connection) (l : Life) : Prop where
  phase_eq : c.phase = l.phase
  slot_eq : c.slot = l.slot
  start_eq : ∀ i : Nat, (c.starts[i]?).bind StartStage.holding = l.start i
  stop_eq : ∀ j : Nat, ((c.stops[j]?).map StopAttempt.stage).bind StopStage.holding = l.stop j
  unlinking : ∀ j : Nat, (c.stops[j]?).map StopAttempt.stage = some .unlinking →
    l.phase = .running ∨ l.phase = .closed
  calm : l = .unused → c.abortAsked = false
  fates : Life.Fates c.processes l

theorem Lives.fresh (launch : Launch) (scope : Scope) (config : ConnectionConfig) :
    (fresh launch scope config).Lives .unused where
  phase_eq := rfl
  slot_eq := rfl
  start_eq := fun _ => rfl
  stop_eq := fun _ => rfl
  unlinking := nofun
  calm := fun _ => rfl
  fates := rfl

/-- The effects without the logging. -/
def deeds (effects : List ConnectionEffect) : List ConnectionEffect :=
  effects.filter fun
    | .log _ => false
    | _ => true

theorem deeds_append (effects others : List ConnectionEffect) :
    deeds (effects ++ others) = deeds effects ++ deeds others :=
  List.filter_append _ _

/-- Whatever does not look at the logging can be read off the deeds. -/
theorem filterMap_deeds {α : Type} (f : ConnectionEffect → Option α)
    (hlog : ∀ event, f (.log event) = none) (effects : List ConnectionEffect) :
    (deeds effects).filterMap f = effects.filterMap f := by
  rw [deeds, List.filterMap_filter]
  congr 1
  funext e
  cases e with
  | log event => exact (hlog event).symm
  | _ => rfl

theorem messages_deeds (effects : List ConnectionEffect) :
    messages (deeds effects) = messages effects :=
  filterMap_deeds _ (fun _ => rfl) effects

theorem published_deeds (effects : List ConnectionEffect) :
    published (deeds effects) = published effects :=
  filterMap_deeds _ (fun _ => rfl) effects

theorem spawned_deeds (effects : List ConnectionEffect) :
    spawned (deeds effects) = spawned effects :=
  filterMap_deeds _ (fun _ => rfl) effects

end Connection

/-! ## Moving one attempt -/

namespace Life

/-- How a life moves along with a start. -/
inductive StartMove (i : Nat) : Life → Life → Prop where
  | stay (l : Life) : StartMove i l l
  | enter : StartMove i unused (opening i)
  | misfire : StartMove i unused gone
  | answer : StartMove i (opening i) (linking i)
  | link : StartMove i (linking i) running
  | leave {l : Life} (h : l = opening i ∨ l = linking i) : StartMove i l gone

/-- How a life moves along with a stop. -/
inductive StopMove (j : Nat) : Life → Life → Prop where
  | stay (l : Life) : StopMove j l l
  | cancel : StopMove j unused cancelled
  | unlink : StopMove j running (closing j)
  | dismiss : StopMove j (closing j) (reaping j)
  | leave {l : Life} (h : l = closing j ∨ l = reaping j) : StopMove j l gone

variable {l l' : Life}

theorem StartMove.others {i k : Nat} (h : StartMove i l l') (hk : k ≠ i) :
    l'.start k = l.start k := by
  cases h with
  | stay => rfl
  | misfire => rfl
  | enter => exact if_neg hk
  | answer => exact (if_neg hk).trans (if_neg hk).symm
  | link => exact (if_neg hk).symm
  | leave hl =>
      rcases hl with rfl | rfl
      · exact (if_neg hk).symm
      · exact (if_neg hk).symm

theorem StartMove.stops {i : Nat} (h : StartMove i l l') (j : Nat) : l'.stop j = l.stop j := by
  cases h with
  | leave hl => rcases hl with rfl | rfl <;> rfl
  | _ => rfl

/-- A start does not move a life that is running or closed. -/
theorem StartMove.settled {i : Nat} (h : StartMove i l l')
    (hl : l.phase = .running ∨ l.phase = .closed) : l' = l := by
  cases h with
  | stay => rfl
  | leave hstart => rcases hstart with rfl | rfl <;> rcases hl with hl | hl <;> cases hl
  | _ => rcases hl with hl | hl <;> cases hl

theorem StartMove.unused {i : Nat} (h : StartMove i l .unused) : l = .unused := by
  cases h
  rfl

theorem StopMove.others {j k : Nat} (h : StopMove j l l') (hk : k ≠ j) :
    l'.stop k = l.stop k := by
  cases h with
  | stay => rfl
  | cancel => rfl
  | unlink => exact if_neg hk
  | dismiss => exact (if_neg hk).trans (if_neg hk).symm
  | leave hl =>
      rcases hl with rfl | rfl
      · exact (if_neg hk).symm
      · exact (if_neg hk).symm

theorem StopMove.starts {j : Nat} (h : StopMove j l l') (i : Nat) : l'.start i = l.start i := by
  cases h with
  | leave hl => rcases hl with rfl | rfl <;> rfl
  | _ => rfl

/-- A stop leaves a running life running, or it closes it. -/
theorem StopMove.settled {j : Nat} (h : StopMove j l l')
    (hl : l.phase = .running ∨ l.phase = .closed) :
    l'.phase = .running ∨ l'.phase = .closed := by
  cases h with
  | stay => exact hl
  | cancel => rcases hl with hl | hl <;> cases hl
  | _ => exact Or.inr rfl

theorem StopMove.unused {j : Nat} (h : StopMove j l .unused) : l = .unused := by
  cases h
  rfl

end Life

namespace Connection

variable {c c' : Connection} {l l' : Life}

/-- A start moves to another stage, and the life moves along. -/
theorem Lives.moveStart (h : c.Lives l) {i : Nat} {old : StartStage}
    (hi : c.starts[i]? = some old) (hmove : Life.StartMove i l l') (new : StartStage)
    (hnew : new.holding = l'.start i)
    (hframe : c'.starts = c.starts.set i new ∧ c'.stops = c.stops ∧ c'.abortAsked = c.abortAsked)
    (hphase : c'.phase = l'.phase) (hslot : c'.slot = l'.slot)
    (hfates : Life.Fates c'.processes l') : c'.Lives l' where
  phase_eq := hphase
  slot_eq := hslot
  start_eq := by
    intro k
    rw [hframe.1]
    by_cases hk : k = i
    · subst hk
      have hlt := (List.getElem?_eq_some_iff.mp hi).1
      rw [List.getElem?_set_self hlt]
      exact hnew
    · rw [List.getElem?_set_ne (Ne.symm hk), hmove.others hk]
      exact h.start_eq k
  stop_eq := by
    intro j
    rw [hframe.2.1, hmove.stops]
    exact h.stop_eq j
  unlinking := by
    intro j hj
    rw [hframe.2.1] at hj
    have hold := h.unlinking j hj
    rw [hmove.settled hold]
    exact hold
  calm := by
    rintro rfl
    rw [hframe.2.2]
    exact h.calm hmove.unused
  fates := hfates

/-- A stop moves to another stage, and the life moves along. A stop that waits for the slot saw
a running server. -/
theorem Lives.moveStop (h : c.Lives l) {j : Nat} (hmove : Life.StopMove j l l') (new : StopStage)
    (hnew : new.holding = l'.stop j) (hsight : new = .unlinking → l'.phase = .running)
    (hstops : ∀ k : Nat, (c'.stops[k]?).map StopAttempt.stage
      = if k = j then some new else (c.stops[k]?).map StopAttempt.stage)
    (hframe : c'.starts = c.starts ∧ c'.abortAsked = c.abortAsked)
    (hphase : c'.phase = l'.phase) (hslot : c'.slot = l'.slot)
    (hfates : Life.Fates c'.processes l') : c'.Lives l' where
  phase_eq := hphase
  slot_eq := hslot
  start_eq := by
    intro i
    rw [hframe.1, hmove.starts]
    exact h.start_eq i
  stop_eq := by
    intro k
    rw [hstops]
    by_cases hk : k = j
    · rw [if_pos hk, hk]
      exact hnew
    · rw [if_neg hk, hmove.others hk]
      exact h.stop_eq k
  unlinking := by
    intro k hunlinks
    rw [hstops] at hunlinks
    by_cases hk : k = j
    · rw [if_pos hk] at hunlinks
      exact Or.inl (hsight (Option.some.inj hunlinks))
    · rw [if_neg hk] at hunlinks
      exact hmove.settled (h.unlinking k hunlinks)
  calm := by
    rintro rfl
    rw [hframe.2]
    exact h.calm hmove.unused
  fates := hfates

/-- A connection goes on with a step of its life. -/
def GoesOn (l : Life) (next : Connection × List ConnectionEffect) : Prop :=
  ∃ l', Life.Step l (deeds next.2) l' ∧ next.1.Lives l'

theorem Lives.rest (h : c.Lives l) : GoesOn l (c, []) := ⟨l, .rest l, h⟩

theorem Lives.holding (h : c.Lives l) {i : Nat} {stage : StartStage}
    (hi : c.starts[i]? = some stage) : stage.holding = l.start i := by
  rw [← h.start_eq i, hi]
  rfl

theorem Lives.stopHolding (h : c.Lives l) {j : Nat} {stage : StopStage}
    (hj : (c.stops[j]?).map StopAttempt.stage = some stage) : stage.holding = l.stop j := by
  rw [← h.stop_eq j, hj]
  rfl

/-- The life does not move where a start without a process goes on without one. -/
theorem Lives.setStart (h : c.Lives l) {i : Nat} {old new : StartStage}
    (hi : c.starts[i]? = some old) (hold : old.holding = none) (hnew : new.holding = none) :
    (c.setStart i new).Lives l :=
  h.moveStart hi (.stay l) new (hnew.trans (hold.symm.trans (h.holding hi))) ⟨rfl, rfl, rfl⟩
    h.phase_eq h.slot_eq h.fates

theorem stage_setStop {j : Nat} {old new : StopStage}
    (hj : (c.stops[j]?).map StopAttempt.stage = some old) (k : Nat) :
    ((c.setStop j new).stops[k]?).map StopAttempt.stage
      = if k = j then some new else (c.stops[k]?).map StopAttempt.stage := by
  obtain ⟨s, hs, -⟩ := Option.map_eq_some_iff.mp hj
  show ((c.stops.modify j fun s => { s with stage := new })[k]?).map StopAttempt.stage = _
  rw [List.getElem?_modify]
  by_cases hk : k = j
  · subst hk
    simp [hs]
  · simp [hk, Ne.symm hk]

theorem stage_note {j : Nat} {old new : StopStage}
    (hj : (c.stops[j]?).map StopAttempt.stage = some old) (k : Nat) :
    ((c.note j new).stops[k]?).map StopAttempt.stage
      = if k = j then some new else (c.stops[k]?).map StopAttempt.stage := by
  obtain ⟨s, hs, -⟩ := Option.map_eq_some_iff.mp hj
  show ((c.stops.modify j fun s => ⟨new, s.found ++ [c.phase]⟩)[k]?).map StopAttempt.stage = _
  rw [List.getElem?_modify]
  by_cases hk : k = j
  · subst hk
    simp [hs]
  · simp [hk, Ne.symm hk]

/-- A notification does not touch the life. -/
theorem Lives.setNotify (h : c.Lives l) (i : Nat) (stage : NotifyStage) :
    (c.setNotify i stage).Lives l :=
  ⟨h.phase_eq, h.slot_eq, h.start_eq, h.stop_eq, h.unlinking, h.calm, h.fates⟩

/-! ## Starts -/

/-- A start that has the process ends without handing it on. -/
theorem Lives.leaveStart (h : c.Lives l) {i : Nat} (hl : l = .opening i ∨ l = .linking i)
    {old : StartStage} (hi : c.starts[i]? = some old) (new : StartStage)
    (hnew : new.holding = none) (fate : ProcessFate) (hfate : fate ≠ .alive) :
    Lives { c with phase := .closed, processes := c.processes.set 0 fate,
                   starts := c.starts.set i new } .gone := by
  have hprocesses : c.processes = [.alive] := by
    rcases hl with rfl | rfl
    · exact h.fates
    · exact h.fates
  have hslot : l.slot = none := by
    rcases hl with rfl | rfl <;> rfl
  refine h.moveStart hi (.leave hl) new hnew ⟨rfl, rfl, rfl⟩ rfl (h.slot_eq.trans hslot) ?_
  rw [hprocesses]
  exact Or.inr ⟨fate, hfate, rfl⟩

theorem Lives.abandonStart {i : Nat} (h : c.Lives (.opening i)) {old : StartStage}
    (hi : c.starts[i]? = some old) (failure : ConnectionFailure) :
    (c.abandonStart i 0 failure).1.Lives .gone :=
  h.leaveStart (Or.inl rfl) hi (.ended (some failure)) rfl .dropped nofun

theorem Lives.beginStart (h : c.Lives l) (i : Nat) (launching : Launching) :
    GoesOn l (c.beginStart i launching) := by
  unfold Connection.beginStart
  split
  case h_2 => exact h.rest
  case h_1 hi =>
    have hquiet : ∀ failure, (c.setStart i (.ended (some failure))).Lives l :=
      fun failure => h.setStart hi rfl rfl
    -- Only an idle connection lets a start in; the other phases refuse it.
    split
    case h_2 => exact ⟨l, .rest l, hquiet .stopped⟩
    case h_3 => exact ⟨l, .rest l, hquiet .reused⟩
    case h_4 => exact ⟨l, .rest l, hquiet .reused⟩
    case h_5 => exact ⟨l, .rest l, hquiet .reused⟩
    case h_1 hidle =>
      have hl : l = .unused := Life.of_phase_idle (h.phase_eq.symm.trans hidle)
      subst hl
      have hfates : c.processes = [] := h.fates
      cases launching with
      | noWorkspace failure =>
          refine ⟨.gone, .misfire, ?_⟩
          exact h.moveStart hi .misfire (.ended _) rfl ⟨rfl, rfl, rfl⟩ rfl h.slot_eq (Or.inl hfates)
      | noProcess failure =>
          refine ⟨.gone, .misfire, ?_⟩
          exact h.moveStart hi .misfire (.ended _) rfl ⟨rfl, rfl, rfl⟩ rfl h.slot_eq (Or.inl hfates)
      | spawned workspace =>
          have hzero : c.processes.length = 0 := by rw [hfates]; rfl
          refine ⟨.opening i, ?_, ?_⟩
          · show Life.Step .unused [.publish .starting, .spawn c.processes.length,
              .send c.processes.length (.opening workspace)] _
            rw [hzero]
            exact .spawn i workspace
          · refine h.moveStart hi .enter (.opening c.processes.length) ?_ ⟨rfl, rfl, rfl⟩ rfl
              h.slot_eq ?_
            · rw [hzero]
              exact (if_pos rfl).symm
            · show c.processes ++ [ProcessFate.alive] = [.alive]
              rw [hfates]
              rfl

theorem Lives.openingEnded (h : c.Lives l) (i : Nat) (outcome : OpeningOutcome) (taken : Bool) :
    GoesOn l (c.openingEnded i outcome taken) := by
  unfold Connection.openingEnded
  split
  case h_2 => exact h.rest
  case h_1 process hi =>
    obtain ⟨rfl, rfl⟩ := Life.of_start_waiting (h.holding hi).symm
    cases outcome with
    | accepted info =>
        cases taken with
        | true =>
            refine ⟨.linking i, .answer i, ?_⟩
            exact h.moveStart hi .answer (.linking 0) (if_pos rfl).symm ⟨rfl, rfl, rfl⟩ h.phase_eq
              h.slot_eq h.fates
        | false => exact ⟨.gone, .choke i, h.abandonStart hi _⟩
    | refused reason => exact ⟨.gone, .fail i, h.abandonStart hi _⟩
    | overdue => exact ⟨.gone, .fail i, h.abandonStart hi _⟩
    | failed failure =>
        refine ⟨.opening i, .rest _, ?_⟩
        exact h.moveStart hi (.stay _) (.bereaved 0 failure) (if_pos rfl).symm ⟨rfl, rfl, rfl⟩
          h.phase_eq h.slot_eq h.fates

theorem Lives.graceEnded (h : c.Lives l) (i : Nat) (status : Option ExitStatus) :
    GoesOn l (c.graceEnded i status) := by
  unfold Connection.graceEnded
  split
  case h_2 => exact h.rest
  case h_1 process failure hi =>
    obtain ⟨rfl, rfl⟩ := Life.of_start_waiting (h.holding hi).symm
    cases status with
    | some status =>
        exact ⟨.gone, .depart i, h.leaveStart (Or.inl rfl) hi (.ended _) rfl .reaped nofun⟩
    | none => exact ⟨.gone, .fail i, h.abandonStart hi _⟩

theorem Lives.abortSeen (h : c.Lives l) (i : Nat) : GoesOn l (c.abortSeen i) := by
  unfold Connection.abortSeen
  split
  case h_2 => exact h.rest
  case h_1 process hpending _ =>
    obtain ⟨stage, hi, hstage⟩ := Option.bind_eq_some_iff.mp hpending
    have hholding : stage.holding = some (process, false) := by
      cases stage <;> cases hstage <;> rfl
    obtain ⟨rfl, rfl⟩ := Life.of_start_waiting ((h.holding hi).symm.trans hholding)
    have hcalm : ({ c with abortAsked := false } : Connection).Lives (.opening i) :=
      ⟨h.phase_eq, h.slot_eq, h.start_eq, h.stop_eq, h.unlinking, nofun, h.fates⟩
    exact ⟨.gone, .fail i, hcalm.abandonStart hi .stopped⟩

theorem Lives.link (h : c.Lives l) (i : Nat) : GoesOn l (c.link i) := by
  unfold Connection.link
  split
  case h_2 => exact h.rest
  case h_1 process hi =>
    obtain ⟨rfl, rfl⟩ := Life.of_start_answered (h.holding hi).symm
    refine ⟨.running, .link i, ?_⟩
    exact h.moveStart hi .link (.ended none) rfl ⟨rfl, rfl, rfl⟩ rfl rfl h.fates

/-- A start that has a process while the connection is starting closes it when it is given up. -/
theorem dropStart_eq {i process : Nat} {stage : StartStage} (hphase : c.phase = .starting)
    (hi : c.starts[i]? = some stage) (hprocess : StartStage.process? stage = some process) :
    c.dropStart i
      = ({ c with phase := .closed, processes := c.processes.set process .dropped,
                  starts := c.starts.set i .dropped },
          [.letGo process, logged .debug "start attempt dropped during handshake" [],
            .publish .closed]) := by
  cases stage with
  | opening p =>
      cases hprocess
      simp [Connection.dropStart, hi, StartStage.process?, Connection.setStart, setFate, hphase]
  | bereaved p failure =>
      cases hprocess
      simp [Connection.dropStart, hi, StartStage.process?, Connection.setStart, setFate, hphase]
  | linking p =>
      cases hprocess
      simp [Connection.dropStart, hi, StartStage.process?, Connection.setStart, setFate, hphase]
  | _ => cases hprocess

theorem Lives.dropStart (h : c.Lives l) (i : Nat) : GoesOn l (c.dropStart i) := by
  cases hi : c.starts[i]? with
  | none =>
      have hskip : c.dropStart i = (c, []) := by rw [Connection.dropStart, hi]
      rw [hskip]
      exact h.rest
  | some stage =>
      -- Both stages of waiting for an answer end in the same way.
      have hwaiting : ∀ process, stage.holding = some (process, false) →
          StartStage.process? stage = some process → GoesOn l (c.dropStart i) := by
        intro process hholding hprocess
        obtain ⟨rfl, rfl⟩ := Life.of_start_waiting ((h.holding hi).symm.trans hholding)
        rw [dropStart_eq h.phase_eq hi hprocess]
        exact ⟨.gone, .fail i, h.leaveStart (Or.inl rfl) hi .dropped rfl .dropped nofun⟩
      cases stage with
      | created =>
          have hdrop : c.dropStart i = (c.setStart i .dropped, []) := by
            rw [Connection.dropStart, hi]
            rfl
          rw [hdrop]
          exact ⟨l, .rest l, h.setStart hi rfl rfl⟩
      | opening process => exact hwaiting process rfl rfl
      | bereaved process failure => exact hwaiting process rfl rfl
      | linking process =>
          obtain ⟨rfl, rfl⟩ := Life.of_start_answered (h.holding hi).symm
          rw [dropStart_eq h.phase_eq hi rfl]
          exact ⟨.gone, .giveUp i, h.leaveStart (Or.inr rfl) hi .dropped rfl .dropped nofun⟩
      | ended failure =>
          have hskip : c.dropStart i = (c, []) := by rw [Connection.dropStart, hi]
          rw [hskip]
          exact h.rest
      | dropped =>
          have hskip : c.dropStart i = (c, []) := by rw [Connection.dropStart, hi]
          rw [hskip]
          exact h.rest

/-! ## Stops -/

/-- The life does not move where a stop without a process goes on without one. -/
theorem Lives.setStop (h : c.Lives l) {j : Nat} {old new : StopStage}
    (hj : (c.stops[j]?).map StopAttempt.stage = some old) (hold : old.holding = none)
    (hnew : new.holding = none) (hsight : new ≠ .unlinking) : (c.setStop j new).Lives l :=
  h.moveStop (.stay l) new (hnew.trans (hold.symm.trans (h.stopHolding hj)))
    (fun heq => absurd heq hsight) (stage_setStop hj) ⟨rfl, rfl⟩ h.phase_eq h.slot_eq h.fates

/-- What a stop does when it looks at the phase: nothing if it has no reason to look, and
otherwise what the phase asks for. -/
theorem look_cases (c : Connection) (j : Nat) :
    c.look j = (c, []) ∨ ∃ old, (c.stops[j]?).map StopAttempt.stage = some old ∧
      (old = .created ∨ old = .waiting ∧ c.phase ≠ .starting) ∧
      ((c.phase = .idle ∧
          c.look j = ({ c.note j (.ended none) with phase := .cancelled },
            [.publish .cancelled])) ∨
        (c.phase = .starting ∧ old = .created ∧
          c.look j = ({ c.note j .waiting with abortAsked := true },
            [logged .debug "stop requested while starting, aborting handshake" []])) ∨
        (c.phase = .running ∧ c.look j = (c.note j .unlinking, [])) ∨
        ((c.phase = .closed ∨ c.phase = .cancelled) ∧
          c.look j = (c.note j (.ended none), []))) := by
  cases hj : (c.stops[j]?).map StopAttempt.stage with
  | none => exact Or.inl (by simp [Connection.look, hj])
  | some old =>
      cases old with
      | created =>
          refine Or.inr ⟨_, rfl, Or.inl rfl, ?_⟩
          cases hphase : c.phase <;> simp [Connection.look, hj, hphase]
      | waiting =>
          by_cases hstarting : c.phase = .starting
          · exact Or.inl (by simp [Connection.look, hj, hstarting])
          · refine Or.inr ⟨_, rfl, Or.inr ⟨rfl, hstarting⟩, ?_⟩
            cases hphase : c.phase with
            | starting => exact absurd hphase hstarting
            | _ => simp [Connection.look, hj, hphase]
      | _ => exact Or.inl (by simp [Connection.look, hj])

theorem Lives.look (h : c.Lives l) (j : Nat) : GoesOn l (c.look j) := by
  rcases c.look_cases j with hskip | ⟨old, hj, hold, hcases⟩
  · rw [hskip]
    exact h.rest
  · have hholding : old.holding = none := by
      rcases hold with rfl | ⟨rfl, -⟩ <;> rfl
    have hquiet : ∀ new, new.holding = none → (new = .unlinking → l.phase = .running) →
        (c.note j new).Lives l := by
      intro new hnew hsight
      exact h.moveStop (.stay l) new (hnew.trans (hholding.symm.trans (h.stopHolding hj))) hsight
        (stage_note hj) ⟨rfl, rfl⟩ h.phase_eq h.slot_eq h.fates
    rcases hcases with ⟨hphase, heq⟩ | ⟨hphase, -, heq⟩ | ⟨hphase, heq⟩ | ⟨-, heq⟩
    · rw [heq]
      obtain rfl := Life.of_phase_idle (h.phase_eq.symm.trans hphase)
      refine ⟨.cancelled, .cancel, ?_⟩
      exact h.moveStop .cancel (.ended none) rfl nofun (stage_note hj) ⟨rfl, rfl⟩ rfl h.slot_eq
        h.fates
    · -- The request to give up is made of a connection that is in use.
      rw [heq]
      have hl : l ≠ .unused := by
        rintro rfl
        rw [h.phase_eq] at hphase
        cases hphase
      have hnote := hquiet .waiting rfl nofun
      exact ⟨l, .rest l, hnote.phase_eq, hnote.slot_eq, hnote.start_eq, hnote.stop_eq,
        hnote.unlinking, fun hunused => absurd hunused hl, hnote.fates⟩
    · rw [heq]
      exact ⟨l, .rest l, hquiet .unlinking rfl (fun _ => h.phase_eq.symm.trans hphase)⟩
    · rw [heq]
      exact ⟨l, .rest l, hquiet (.ended none) rfl nofun⟩

theorem Lives.unlink (h : c.Lives l) (j : Nat) : GoesOn l (c.unlink j) := by
  unfold Connection.unlink
  split
  case h_2 => exact h.rest
  case h_1 hj =>
    have hphase := h.unlinking j hj
    cases hslot : c.slot with
    | some process =>
        obtain ⟨rfl, rfl⟩ := Life.of_slot (h.slot_eq.symm.trans hslot)
        refine ⟨.closing j, .unlink j, ?_⟩
        exact h.moveStop .unlink (.closing 0) (if_pos rfl).symm nofun (stage_setStop hj) ⟨rfl, rfl⟩
          rfl rfl h.fates
    | none =>
        -- The stop saw a running server; with the slot empty, another stop was faster.
        have hclosed : l.phase = .closed := by
          rcases hphase with hrunning | hclosed
          · cases l with
            | running =>
                rw [h.slot_eq] at hslot
                cases hslot
            | _ => cases hrunning
          · exact hclosed
        refine ⟨l, .miss l hclosed, ?_⟩
        have hholding : StopStage.unlinking.holding = l.stop j := h.stopHolding hj
        exact h.moveStop (.stay l) (.ended none) hholding nofun (stage_setStop hj) ⟨rfl, rfl⟩
          hclosed.symm (hslot.symm.trans h.slot_eq) h.fates

theorem Lives.shutdownEnded (h : c.Lives l) (j : Nat) (outcome : ShutdownOutcome)
    (taken : Bool) : GoesOn l (c.shutdownEnded j outcome taken) := by
  unfold Connection.shutdownEnded
  split
  case h_2 => exact h.rest
  case h_1 process hj =>
    obtain ⟨rfl, rfl⟩ := Life.of_stop_waiting (h.stopHolding hj).symm
    refine ⟨.reaping j, ?_, ?_⟩
    · cases taken with
      | true => exact .dismiss j
      | false => exact .dismiss j
    · exact h.moveStop .dismiss (.reaping 0 _) (if_pos rfl).symm nofun (stage_setStop hj)
        ⟨rfl, rfl⟩ h.phase_eq h.slot_eq h.fates

/-- A stop that has the process ends, and the process has ended or will. -/
theorem Lives.leaveStop (h : c.Lives l) {j : Nat} (hl : l = .closing j ∨ l = .reaping j)
    {old : StopStage} (hj : (c.stops[j]?).map StopAttempt.stage = some old)
    (new : StopStage) (hnew : new.holding = none) (hsight : new ≠ .unlinking) (fate : ProcessFate)
    (hfate : fate ≠ .alive) : ((c.setFate 0 fate).setStop j new).Lives .gone := by
  have hprocesses : c.processes = [.alive] := by
    rcases hl with rfl | rfl
    · exact h.fates
    · exact h.fates
  have hphase : c.phase = .closed := by
    rw [h.phase_eq]
    rcases hl with rfl | rfl <;> rfl
  have hslot : c.slot = none := by
    rw [h.slot_eq]
    rcases hl with rfl | rfl <;> rfl
  refine h.moveStop (.leave hl) new hnew (fun heq => absurd heq hsight)
    (stage_setStop (c := c.setFate 0 fate) hj) ⟨rfl, rfl⟩ hphase hslot ?_
  show (c.processes.set 0 fate) = [] ∨ ∃ f, f ≠ .alive ∧ c.processes.set 0 fate = [f]
  rw [hprocesses]
  exact Or.inr ⟨fate, hfate, rfl⟩

theorem Lives.exitEnded (h : c.Lives l) (j : Nat) (outcome : ExitOutcome) :
    GoesOn l (c.exitEnded j outcome) := by
  unfold Connection.exitEnded
  split
  case h_2 => exact h.rest
  case h_1 process failure hj =>
    obtain ⟨rfl, rfl⟩ := Life.of_stop_told (h.stopHolding hj).symm
    have hleave : ∀ fate, fate ≠ .alive →
        ((c.setFate 0 fate).setStop j (.ended failure)).Lives .gone :=
      fun fate hfate => h.leaveStop (Or.inr rfl) hj (.ended failure) rfl nofun fate hfate
    cases outcome with
    | exited status => exact ⟨.gone, .reap j, hleave .reaped nofun⟩
    | unknown reason => exact ⟨.gone, .desert j, hleave .dropped nofun⟩
    | overdue refusal =>
        cases refusal with
        | none => exact ⟨.gone, .kill j, hleave .killed nofun⟩
        | some reason => exact ⟨.gone, .desert j, hleave .dropped nofun⟩

theorem Lives.dropStop (h : c.Lives l) (j : Nat) : GoesOn l (c.dropStop j) := by
  cases hj : (c.stops[j]?).map StopAttempt.stage with
  | none =>
      have hskip : c.dropStop j = (c, []) := by simp only [Connection.dropStop, hj]
      rw [hskip]
      exact h.rest
  | some old =>
      have hfree : old.holding = none → c.dropStop j = (c.setStop j .dropped, []) →
          GoesOn l (c.dropStop j) := by
        intro hholding hdrop
        rw [hdrop]
        exact ⟨l, .rest l, h.setStop hj hholding rfl nofun⟩
      cases old with
      | created => exact hfree rfl (by simp only [Connection.dropStop, hj, StopStage.process?])
      | waiting => exact hfree rfl (by simp only [Connection.dropStop, hj, StopStage.process?])
      | unlinking => exact hfree rfl (by simp only [Connection.dropStop, hj, StopStage.process?])
      | closing process =>
          obtain ⟨rfl, rfl⟩ := Life.of_stop_waiting (h.stopHolding hj).symm
          simp only [Connection.dropStop, hj, StopStage.process?]
          exact ⟨.gone, .abandon j, h.leaveStop (Or.inl rfl) hj .dropped rfl nofun .dropped nofun⟩
      | reaping process failure =>
          obtain ⟨rfl, rfl⟩ := Life.of_stop_told (h.stopHolding hj).symm
          simp only [Connection.dropStop, hj, StopStage.process?]
          exact ⟨.gone, .desert j, h.leaveStop (Or.inr rfl) hj .dropped rfl nofun .dropped nofun⟩
      | ended failure =>
          simp only [Connection.dropStop, hj]
          exact h.rest
      | dropped =>
          simp only [Connection.dropStop, hj]
          exact h.rest

/-! ## Notifications -/

theorem Lives.deliver (h : c.Lives l) (i : Nat) (taken : Bool) :
    GoesOn l (c.deliver i taken) := by
  unfold Connection.deliver
  split
  case h_2 => exact h.rest
  case h_1 event _ =>
    cases hslot : c.slot with
    | none => exact ⟨l, .rest l, h.setNotify i _⟩
    | some process =>
        obtain ⟨rfl, rfl⟩ := Life.of_slot (h.slot_eq.symm.trans hslot)
        exact ⟨.running, .tell event, h.setNotify i _⟩

theorem Lives.dropNotify (h : c.Lives l) (i : Nat) : GoesOn l (c.dropNotify i) := by
  unfold Connection.dropNotify
  split
  · exact ⟨l, .rest l, h.setNotify i .dropped⟩
  · exact h.rest

/-! ## New attempts -/

/-- A start that has not begun holds nothing. -/
theorem Lives.newStart (h : c.Lives l) :
    Lives { c with starts := c.starts ++ [StartStage.created] } l where
  phase_eq := h.phase_eq
  slot_eq := h.slot_eq
  start_eq := by
    intro i
    rw [← h.start_eq i, List.getElem?_append]
    split
    · rfl
    case isFalse hge =>
      rw [List.getElem?_eq_none (Nat.le_of_not_lt hge), List.getElem?_singleton]
      split <;> rfl
  stop_eq := h.stop_eq
  unlinking := h.unlinking
  calm := h.calm
  fates := h.fates

/-- A stop that has not begun holds nothing. -/
theorem Lives.newStop (h : c.Lives l) :
    Lives { c with stops := c.stops ++ [StopAttempt.mk .created []] } l where
  phase_eq := h.phase_eq
  slot_eq := h.slot_eq
  start_eq := h.start_eq
  stop_eq := by
    intro j
    rw [← h.stop_eq j, List.getElem?_append]
    split
    · rfl
    case isFalse hge =>
      rw [List.getElem?_eq_none (Nat.le_of_not_lt hge), List.getElem?_singleton]
      split <;> rfl
  unlinking := by
    intro j hj
    rw [List.getElem?_append] at hj
    split at hj
    · exact h.unlinking j hj
    · rw [List.getElem?_singleton] at hj
      split at hj <;> cases hj
  calm := h.calm
  fates := h.fates

/-! ## Runs -/

/-- **Whatever happens to a connection is a step of its life.** -/
theorem Lives.step (h : c.Lives l) (input : ConnectionInput) : GoesOn l (c.step input) := by
  cases input with
  | start => exact ⟨l, .rest l, h.newStart⟩
  | stop => exact ⟨l, .rest l, h.newStop⟩
  | notify event =>
      exact ⟨l, .rest l, h.phase_eq, h.slot_eq, h.start_eq, h.stop_eq, h.unlinking, h.calm,
        h.fates⟩
  | beginStart i launching => exact h.beginStart i launching
  | openingEnded i outcome taken => exact h.openingEnded i outcome taken
  | graceEnded i status => exact h.graceEnded i status
  | abortSeen i => exact h.abortSeen i
  | link i => exact h.link i
  | dropStart i => exact h.dropStart i
  | look j => exact h.look j
  | unlink j => exact h.unlink j
  | shutdownEnded j outcome taken => exact h.shutdownEnded j outcome taken
  | exitEnded j outcome => exact h.exitEnded j outcome
  | dropStop j => exact h.dropStop j
  | deliver i taken => exact h.deliver i taken
  | dropNotify i => exact h.dropNotify i

theorem effects_cons (c : Connection) (input : ConnectionInput) (rest : List ConnectionInput) :
    c.effects (input :: rest) = (c.step input).2 ++ (c.step input).1.effects rest := rfl

theorem run_cons (c : Connection) (input : ConnectionInput) (rest : List ConnectionInput) :
    (c.run (input :: rest)).1 = ((c.step input).1.run rest).1 := rfl

theorem run_append (c : Connection) (pre post : List ConnectionInput) :
    (c.run (pre ++ post)).1 = ((c.run pre).1.run post).1 := by
  induction pre generalizing c with
  | nil => rfl
  | cons input rest ih => rw [List.cons_append, run_cons, run_cons, ih]

/-- A run of a connection is a trace of its life. -/
theorem Lives.run (h : c.Lives l) (inputs : List ConnectionInput) :
    ∃ n, Life.Trace l (deeds (c.effects inputs)) n ∧ (c.run inputs).1.Lives n := by
  induction inputs generalizing c l with
  | nil => exact ⟨l, .nil l, h⟩
  | cons input rest ih =>
      obtain ⟨m, hstep, hm⟩ := h.step input
      obtain ⟨n, htrace, hn⟩ := ih hm
      refine ⟨n, ?_, hn⟩
      rw [effects_cons, deeds_append]
      exact .cons hstep htrace

/-- The phases of a run are a walk. -/
theorem Lives.walk (h : c.Lives l) (inputs : List ConnectionInput) :
    ConnectionPhase.Walk c.phase (published (c.effects inputs)) (c.run inputs).1.phase := by
  obtain ⟨n, htrace, hn⟩ := h.run inputs
  rw [h.phase_eq, hn.phase_eq, ← published_deeds]
  exact htrace.walk

end Connection
end LanguageBridge
