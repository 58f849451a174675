import LanguageBridge.Proofs.Connection.Starts

set_option autoImplicit false

/-! # One stop among many

`StopGoes` lists what a step of a connection can do with one stop, and `stop_step` says that there
is nothing else. So a stop that is over stays as it is, and its result, once there is one, is the
same in all that follows (`stopResult?_run`).
-/

namespace LanguageBridge

/-- The failure that a stop reports, or is going to report. -/
def StopStage.failure? : StopStage → Option ConnectionFailure
  | .reaping _ failure => failure
  | .ended failure => failure
  | _ => none

/-- Whether nothing happens any more to a stop. -/
def StopStage.isOver : StopStage → Bool
  | .ended _ => true
  | .dropped => true
  | _ => false

namespace Connection

variable {c c' : Connection} {l : Life} {j : Nat}

/-- The stage of a stop. -/
abbrev stopStage? (c : Connection) (j : Nat) : Option StopStage :=
  (c.stops[j]?).map StopAttempt.stage

/-! ## What a step does with a stop -/

/-- What the step from `c` to `c'` can do with a stop, by the stage that the stop has then. -/
inductive StopGoes (c c' : Connection) (j : Nat) : ConnectionInput → Option StopStage → Prop where
  | stay {input : ConnectionInput} {new : Option StopStage} (h : new = c.stopStage? j) :
    StopGoes c c' j input new
  | ask (h : c.stopStage? j = none) : StopGoes c c' j .stop (some .created)
  | wait (h : c.stopStage? j = some .created) (hphase : c.phase = .starting) :
    StopGoes c c' j (.look j) (some .waiting)
  | sight (h : c.stopStage? j = some .created ∨ c.stopStage? j = some .waiting)
    (hphase : c.phase = .running) : StopGoes c c' j (.look j) (some .unlinking)
  /-- There is nothing to stop. -/
  | rest (h : c.stopStage? j = some .created ∨ c.stopStage? j = some .waiting)
    (hphase : c'.phase = .closed ∨ c'.phase = .cancelled) :
    StopGoes c c' j (.look j) (some (.ended none))
  | take {process : Nat} (h : c.stopStage? j = some .unlinking) (hslot : c.slot = some process) :
    StopGoes c c' j (.unlink j) (some (.closing process))
  /-- Another stop was faster. -/
  | miss (h : c.stopStage? j = some .unlinking) (hphase : c'.phase = .closed) :
    StopGoes c c' j (.unlink j) (some (.ended none))
  | dismiss {outcome : ShutdownOutcome} {taken : Bool} {process : Nat}
    (h : c.stopStage? j = some (.closing process)) :
    StopGoes c c' j (.shutdownEnded j outcome taken)
      (some (.reaping process (c.shutdownFailure? outcome)))
  | finish {outcome : ExitOutcome} {process : Nat} {failure : Option ConnectionFailure}
    (h : c.stopStage? j = some (.reaping process failure)) :
    StopGoes c c' j (.exitEnded j outcome) (some (.ended failure))
  | drop {old : StopStage} (h : c.stopStage? j = some old) (hopen : old.isOver = false) :
    StopGoes c c' j (.dropStop j) (some .dropped)

/-- What is about a start does not touch the stops. -/
theorem stops_start {input : ConnectionInput} {i : Nat} (hinput : input.start? = some i) :
    (c.step input).1.stops = c.stops := by
  cases input <;> cases hinput
  case beginStart launching =>
    rw [step, beginStart]
    split
    · split
      · cases launching <;> rfl
      all_goals rfl
    · rfl
  case openingEnded outcome taken =>
    rw [step, openingEnded]
    split
    · cases outcome with
      | accepted info => cases taken <;> rfl
      | _ => rfl
    · rfl
  case graceEnded status =>
    rw [step, graceEnded]
    split
    · cases status <;> rfl
    · rfl
  case abortSeen =>
    rw [step, abortSeen]
    split <;> rfl
  case link =>
    rw [step, link]
    split <;> rfl
  case dropStart =>
    rw [step, dropStart]
    split
    · rfl
    · rfl
    · rfl
    · split
      · rfl
      · dsimp only
        split <;> rfl

/-- A step that does not touch the stops leaves each where it is. -/
theorem StopGoes.still {input : ConnectionInput} (hstops : c'.stops = c.stops) :
    StopGoes c c' j input (c'.stopStage? j) := by
  refine .stay ?_
  rw [stopStage?, hstops]

/-- One stop moves to a stage, and the others stay where they are. -/
theorem StopGoes.moved {input : ConnectionInput} {k : Nat} {new : StopStage}
    (hstops : c'.stopStage? j = if j = k then some new else c.stopStage? j)
    (hnew : StopGoes c c' k input (some new)) : StopGoes c c' j input (c'.stopStage? j) := by
  rw [hstops]
  split
  case isTrue heq =>
    rw [heq]
    exact hnew
  case isFalse => exact .stay rfl

theorem stop_look (c : Connection) (j k : Nat) :
    StopGoes c (c.look k).1 j (.look k) ((c.look k).1.stopStage? j) := by
  rcases c.look_cases k with heq | ⟨old, hk, hold, hcases⟩
  · rw [heq]
    exact .stay rfl
  · have hopen : c.stopStage? k = some .created ∨ c.stopStage? k = some .waiting := by
      rcases hold with rfl | ⟨rfl, -⟩
      · exact Or.inl hk
      · exact Or.inr hk
    rcases hcases with ⟨-, heq⟩ | ⟨hphase, rfl, heq⟩ | ⟨hphase, heq⟩ | ⟨hphase, heq⟩
    · rw [heq]
      exact .moved (stage_note hk j) (.rest hopen (Or.inr rfl))
    · rw [heq]
      exact .moved (stage_note hk j) (.wait hk hphase)
    · rw [heq]
      exact .moved (stage_note hk j) (.sight hopen hphase)
    · rw [heq]
      exact .moved (stage_note hk j) (.rest hopen hphase)

theorem stop_unlink (c : Connection) (j k : Nat) :
    StopGoes c (c.unlink k).1 j (.unlink k) ((c.unlink k).1.stopStage? j) := by
  unfold unlink
  split
  case h_2 => exact .stay rfl
  case h_1 hk =>
    split
    case h_1 process hslot => exact .moved (stage_setStop hk j) (.take hk hslot)
    case h_2 => exact .moved (stage_setStop hk j) (.miss hk rfl)

theorem stop_shutdownEnded (c : Connection) (j k : Nat) (outcome : ShutdownOutcome)
    (taken : Bool) :
    StopGoes c (c.shutdownEnded k outcome taken).1 j (.shutdownEnded k outcome taken)
      ((c.shutdownEnded k outcome taken).1.stopStage? j) := by
  unfold shutdownEnded
  split
  case h_2 => exact .stay rfl
  case h_1 process hk => exact .moved (stage_setStop hk j) (.dismiss hk)

theorem stop_exitEnded (c : Connection) (j k : Nat) (outcome : ExitOutcome) :
    StopGoes c (c.exitEnded k outcome).1 j (.exitEnded k outcome)
      ((c.exitEnded k outcome).1.stopStage? j) := by
  unfold exitEnded
  split
  case h_2 => exact .stay rfl
  case h_1 process failure hk =>
    dsimp only
    split
    all_goals exact .moved (stage_setStop (c := c.setFate process _) hk j) (.finish hk)

theorem stop_dropStop (c : Connection) (j k : Nat) :
    StopGoes c (c.dropStop k).1 j (.dropStop k) ((c.dropStop k).1.stopStage? j) := by
  unfold dropStop
  split
  case h_1 => exact .stay rfl
  case h_2 => exact .stay rfl
  case h_3 => exact .stay rfl
  case h_4 old hended hdropped hk =>
    have hopen : old.isOver = false := by
      cases old with
      | ended failure => exact absurd rfl (hended failure)
      | dropped => exact absurd rfl hdropped
      | _ => rfl
    split
    case h_1 => exact .moved (stage_setStop hk j) (.drop hk hopen)
    case h_2 process _ =>
      exact .moved (stage_setStop (c := c.setFate process _) hk j) (.drop hk hopen)

/-- **A step does with a stop what `StopGoes` lists, and nothing else.** -/
theorem stop_step (c : Connection) (input : ConnectionInput) (j : Nat) :
    StopGoes c (c.step input).1 j input ((c.step input).1.stopStage? j) := by
  cases input with
  | start => exact .still rfl
  | stop =>
      show StopGoes c _ j .stop (((c.stops ++ [StopAttempt.mk .created []])[j]?).map _)
      rw [List.getElem?_append]
      split
      · exact .stay rfl
      case isFalse hge =>
        have hnone : c.stopStage? j = none := by
          rw [stopStage?, List.getElem?_eq_none (Nat.le_of_not_lt hge)]
          rfl
        rw [List.getElem?_singleton]
        split
        · exact .ask hnone
        · exact .stay hnone.symm
  | notify event => exact .still rfl
  | beginStart i launching => exact .still (stops_start rfl)
  | openingEnded i outcome taken => exact .still (stops_start rfl)
  | graceEnded i status => exact .still (stops_start rfl)
  | abortSeen i => exact .still (stops_start rfl)
  | link i => exact .still (stops_start rfl)
  | dropStart i => exact .still (stops_start rfl)
  | look k => exact c.stop_look j k
  | unlink k => exact c.stop_unlink j k
  | shutdownEnded k outcome taken => exact c.stop_shutdownEnded j k outcome taken
  | exitEnded k outcome => exact c.stop_exitEnded j k outcome
  | dropStop k => exact c.stop_dropStop j k
  | deliver i taken =>
      refine .still ?_
      rw [step, deliver]
      split
      · split <;> rfl
      · rfl
  | dropNotify i =>
      refine .still ?_
      rw [step, dropNotify]
      split <;> rfl

/-- What a step can have done with a stop that has a stage then. -/
theorem stop_goes {input : ConnectionInput} {stage : StopStage}
    (h : (c.step input).1.stopStage? j = some stage) :
    StopGoes c (c.step input).1 j input (some stage) := by
  rw [← h]
  exact c.stop_step input j

/-! ## The result of a stop -/

theorem stopResult?_eq_some {result : Option ConnectionFailure} :
    c.stopResult? j = some result ↔ c.stopStage? j = some (.ended result) := by
  unfold stopResult? stopStage?
  cases c.stops[j]? with
  | none => simp
  | some s =>
      obtain ⟨stage, found⟩ := s
      cases stage <;> simp

/-- Nothing happens any more to a stop that has ended or was given up. -/
theorem stop_over {stage : StopStage} (h : c.stopStage? j = some stage)
    (hover : stage.isOver = true) (input : ConnectionInput) :
    (c.step input).1.stopStage? j = some stage := by
  have hsame : ∀ old, c.stopStage? j = some old → old.isOver = true := by
    intro old hold
    rw [hold] at h
    cases h
    exact hover
  have hgoes := c.stop_step input j
  generalize (c.step input).1.stopStage? j = new at hgoes
  cases hgoes with
  | stay hnew => exact hnew.trans h
  | ask hold =>
      rw [hold] at h
      cases h
  | wait hold => cases hsame _ hold
  | sight hold => rcases hold with hold | hold <;> cases hsame _ hold
  | rest hold => rcases hold with hold | hold <;> cases hsame _ hold
  | take hold => cases hsame _ hold
  | miss hold => cases hsame _ hold
  | dismiss hold => cases hsame _ hold
  | finish hold => cases hsame _ hold
  | drop hold hopen =>
      rw [hsame _ hold] at hopen
      cases hopen

/-- The result of a stop never changes. -/
theorem stopResult?_run {result : Option ConnectionFailure} (h : c.stopResult? j = some result)
    (inputs : List ConnectionInput) : (c.run inputs).1.stopResult? j = some result := by
  induction inputs generalizing c with
  | nil => exact h
  | cons input rest ih =>
      refine ih ?_
      rw [stopResult?_eq_some] at h ⊢
      exact stop_over h rfl input

end Connection
end LanguageBridge
