import LanguageBridge.Proofs.Connection.Aftermath
import LanguageBridge.Proofs.Connection.Rounds
import Mathlib.Logic.ExistsUnique

set_option autoImplicit false

/-! # No stop waits for ever

A stop that finds a start under way waits until the phase is another one. That the wait ends rests
on three things. The phase is starting only while the start that entered is under way
(`starting_iff_underWay`), so whatever ends the start also ends the phase. While a stop waits, the
start was asked to give up or has the answer already (`Heard`): the request is taken back only by
the start that gives up. And a start that was asked is over once it is polled, whatever else
happened to it (`Roused.polled`).
-/

namespace LanguageBridge.Connection

variable {c : Connection} {l : Life} {i j : Nat}

/-! ## Starts under way -/

/-- A start has neither ended nor been given up. -/
def UnderWay (c : Connection) (i : Nat) : Prop :=
  c.startResult? i = none ∧ c.starts[i]? ≠ some .dropped

/-- A start has ended or was given up. -/
def Over (c : Connection) (i : Nat) : Prop :=
  ∃ stage, c.starts[i]? = some stage ∧ (stage = .dropped ∨ ∃ failure, stage = .ended failure)

theorem Over.not_underWay (h : c.Over i) : ¬ c.UnderWay i := by
  obtain ⟨stage, hi, rfl | ⟨failure, rfl⟩⟩ := h
  · exact fun hunder => hunder.2 hi
  · rintro ⟨hnone, -⟩
    rw [startResult?_eq_some.mpr hi] at hnone
    cases hnone

/-- A start that is under way and has begun has a process. -/
theorem process_of_underWay {stage : StartStage} (hi : c.starts[i]? = some stage)
    (hbegun : stage ≠ .created) (h : c.UnderWay i) :
    ∃ process, StartStage.process? stage = some process := by
  cases stage with
  | created => exact absurd rfl hbegun
  | opening process => exact ⟨process, rfl⟩
  | bereaved process failure => exact ⟨process, rfl⟩
  | linking process => exact ⟨process, rfl⟩
  | ended failure => exact absurd h (Over.not_underWay ⟨_, hi, Or.inr ⟨failure, rfl⟩⟩)
  | dropped => exact absurd h (Over.not_underWay ⟨_, hi, Or.inl rfl⟩)

/-- A start that is given up is over. -/
theorem over_dropStart {stage : StartStage} (hi : c.starts[i]? = some stage) :
    (c.step (.dropStart i)).1.Over i := by
  have hdropped : ∀ next : Connection, next.starts = c.starts.set i .dropped → next.Over i := by
    intro next heq
    refine ⟨.dropped, ?_, Or.inl rfl⟩
    rw [heq]
    exact List.getElem?_set_self (List.getElem?_eq_some_iff.mp hi).1
  rw [step, dropStart]
  split
  case h_1 hnone =>
    rw [hi] at hnone
    cases hnone
  case h_2 failure hended => exact ⟨_, hended, Or.inr ⟨failure, rfl⟩⟩
  case h_3 hgone => exact ⟨_, hgone, Or.inl rfl⟩
  case h_4 =>
    split
    · exact hdropped _ rfl
    · dsimp only
      split <;> exact hdropped _ rfl

theorem underWay_of_process {stage : StartStage} (hi : c.starts[i]? = some stage) {process : Nat}
    (hstage : StartStage.process? stage = some process) : c.UnderWay i := by
  rw [UnderWay, startResult?, hi]
  cases stage with
  | opening p => exact ⟨rfl, by simp⟩
  | bereaved p failure => exact ⟨rfl, by simp⟩
  | linking p => exact ⟨rfl, by simp⟩
  | _ => cases hstage

/-- The phase is starting exactly while a start has a process. -/
theorem Lives.starting_iff (h : c.Lives l) :
    c.phase = .starting ↔ ∃ (i : Nat) (stage : StartStage) (process : Nat),
      c.starts[i]? = some stage ∧ StartStage.process? stage = some process := by
  rw [h.phase_eq]
  constructor
  · intro hphase
    cases l with
    | opening i =>
        rcases (h.owns_iff (.handshake i)).mpr ⟨rfl, rfl⟩ with hi | ⟨failure, hi⟩
        · exact ⟨i, _, 0, hi, rfl⟩
        · exact ⟨i, _, 0, hi, rfl⟩
    | linking i => exact ⟨i, _, 0, (h.owns_iff (.start i)).mpr ⟨rfl, rfl⟩, rfl⟩
    | _ => cases hphase
  · rintro ⟨i, stage, process, hi, hstage⟩
    have hholding := (h.holding hi).symm
    cases stage with
    | opening process =>
        obtain ⟨-, rfl⟩ := Life.of_start_waiting hholding
        rfl
    | bereaved process failure =>
        obtain ⟨-, rfl⟩ := Life.of_start_waiting hholding
        rfl
    | linking process =>
        obtain ⟨-, rfl⟩ := Life.of_start_answered hholding
        rfl
    | _ => cases hstage

/-! ## The start that entered -/

theorem of_entered? {input : ConnectionInput} (h : c.entered? input = some i) :
    ∃ launching, input = .beginStart i launching ∧ c.starts[i]? = some .created ∧
      c.phase = .idle := by
  cases input with
  | beginStart k launching =>
      rw [entered?] at h
      split at h
      case isFalse => cases h
      case isTrue hstarting =>
        obtain rfl := Option.some.inj h
        refine ⟨launching, rfl, ?_⟩
        -- Wherever the start does not enter, nothing is published.
        have hcreated : c.starts[k]? = some .created := by
          rw [beginStart] at hstarting
          split at hstarting
          case h_1 hi => exact hi
          case h_2 => cases hstarting
        refine ⟨hcreated, (entered?_beginStart hcreated launching).mp ?_⟩
        rw [entered?, if_pos hstarting]
  | _ => cases h

/-- A start that entered in a run has begun. -/
theorem begun_of_entered {inputs : List ConnectionInput} (h : i ∈ c.entered inputs) :
    ∃ stage, (c.run inputs).1.starts[i]? = some stage ∧ stage ≠ .created := by
  induction inputs generalizing c with
  | nil => cases h
  | cons input rest ih =>
      rcases List.mem_append.mp h with hnow | hlater
      · obtain ⟨launching, rfl, hi, hidle⟩ := of_entered? (Option.mem_toList.mp hnow)
        -- Whether a stop asked does not matter here, so anything counts as a stop.
        have hbegun : (c.step (.beginStart i launching)).1.Shows i
            (Handshake.launched c.launch c.config launching) True :=
          shows_beginStart hidle hi launching
        obtain ⟨stage, hstage, hshows⟩ :=
          shows_run hbegun (fun _ _ => trivial) (fun _ : StopLooks _ i rest => trivial)
        refine ⟨stage, hstage, ?_⟩
        rintro rfl
        exact hshows
      · exact ih hlater

theorem entered_append (c : Connection) (pre post : List ConnectionInput) :
    c.entered (pre ++ post) = c.entered pre ++ (c.run pre).1.entered post := by
  induction pre generalizing c with
  | nil => rfl
  | cons input rest ih =>
      rw [List.cons_append, entered, entered, ih, List.append_assoc, run_cons]

theorem mem_entered_append {pre : List ConnectionInput} (h : i ∈ c.entered pre)
    (post : List ConnectionInput) : i ∈ c.entered (pre ++ post) := by
  rw [entered_append]
  exact List.mem_append_left _ h

section

variable (launch : Launch) (scope : Scope) (config : ConnectionConfig)

/-- A start that has a process has entered. -/
theorem entered_of_process {inputs : List ConnectionInput}
    (h : ∃ stage process, ((fresh launch scope config).run inputs).1.starts[i]? = some stage ∧
      StartStage.process? stage = some process) :
    i ∈ (fresh launch scope config).entered inputs := by
  obtain ⟨stage, process, hi, hstage⟩ := h
  have hhand : StartStage.inHand stage = true := by
    cases stage <;> first | rfl | cases hstage
  rcases inHand_run ⟨stage, hi, hhand⟩ with hmem | ⟨_, hnone, -⟩
  · exact hmem
  · cases hnone

/-- No two starts enter. -/
theorem entered_unique {inputs : List ConnectionInput} {k : Nat}
    (hi : i ∈ (fresh launch scope config).entered inputs)
    (hk : k ∈ (fresh launch scope config).entered inputs) : k = i := by
  rw [eq_singleton_of_mem hi (entered_fresh launch scope config inputs)] at hk
  exact List.mem_singleton.mp hk

/-- A connection that a start entered is neither idle nor cancelled. -/
theorem used_of_entered {inputs : List ConnectionInput}
    (hi : i ∈ (fresh launch scope config).entered inputs) :
    ((fresh launch scope config).run inputs).1.phase ≠ .idle ∧
      ((fresh launch scope config).run inputs).1.phase ≠ .cancelled := by
  refine ((Lives.fresh launch scope config).walk inputs).of_starting_mem ?_
  refine List.count_pos_iff.mp (Nat.lt_of_lt_of_le ?_ (entered_le _ inputs))
  exact List.length_pos_of_mem hi

/-- While the start that entered is under way, the phase is starting. -/
theorem starting_of_underWay {inputs : List ConnectionInput}
    (hi : i ∈ (fresh launch scope config).entered inputs)
    (hunder : ((fresh launch scope config).run inputs).1.UnderWay i) :
    ((fresh launch scope config).run inputs).1.phase = .starting := by
  obtain ⟨n, -, hn⟩ := (Lives.fresh launch scope config).run inputs
  obtain ⟨stage, hstage, hbegun⟩ := begun_of_entered hi
  obtain ⟨process, hprocess⟩ := process_of_underWay hstage hbegun hunder
  exact hn.starting_iff.mpr ⟨i, stage, process, hstage, hprocess⟩

/-- In a run of a new connection, the phase is starting exactly while the start that entered is
under way. -/
theorem starting_iff_underWay (inputs : List ConnectionInput) :
    ((fresh launch scope config).run inputs).1.phase = .starting ↔
      ∃! i, i ∈ (fresh launch scope config).entered inputs ∧
        ((fresh launch scope config).run inputs).1.UnderWay i := by
  obtain ⟨n, -, hn⟩ := (Lives.fresh launch scope config).run inputs
  constructor
  · intro hstarting
    obtain ⟨i, stage, process, hi, hstage⟩ := hn.starting_iff.mp hstarting
    have hentered := entered_of_process launch scope config ⟨stage, process, hi, hstage⟩
    exact ⟨i, ⟨hentered, underWay_of_process hi hstage⟩,
      fun k hk => entered_unique launch scope config hentered hk.1⟩
  · rintro ⟨i, ⟨hentered, hunder⟩, -⟩
    exact starting_of_underWay launch scope config hentered hunder

/-- Where the start that entered is over, the phase is not starting. -/
theorem not_starting_of_over {inputs : List ConnectionInput}
    (hentered : i ∈ (fresh launch scope config).entered inputs)
    (hover : ¬ ((fresh launch scope config).run inputs).1.UnderWay i) :
    ((fresh launch scope config).run inputs).1.phase ≠ .starting := by
  intro hstarting
  obtain ⟨k, ⟨hk, hunder⟩, -⟩ := (starting_iff_underWay launch scope config inputs).mp hstarting
  rw [entered_unique launch scope config hentered hk] at hunder
  exact hover hunder

end

/-- A phase that a step leaves is followed by one that it publishes. -/
theorem Lives.published_of_phase_ne (h : c.Lives l) {input : ConnectionInput}
    (hne : (c.step input).1.phase ≠ c.phase) :
    (published (c.step input).2).getLast? = some (c.step input).1.phase := by
  obtain ⟨m, hstep, hm⟩ := h.step input
  have hwalk := hstep.walk
  rw [published_deeds, ← h.phase_eq, ← hm.phase_eq] at hwalk
  have hlast := hwalk.getLast?
  cases hpublished : published (c.step input).2 with
  | nil =>
      rw [hpublished] at hlast
      exact absurd (Option.some.inj hlast).symm hne
  | cons p rest =>
      rw [hpublished, List.getLast?_cons_cons] at hlast
      exact hlast

/-! ## The request to give up -/

/-- A request to give up is not taken back while the connection is not closed. -/
theorem abortAsked_kept (hasked : c.abortAsked = true) (input : ConnectionInput) :
    (c.step input).1.abortAsked = true ∨ (c.step input).1.phase = .closed := by
  cases input with
  | start => exact Or.inl hasked
  | stop => exact Or.inl hasked
  | notify event => exact Or.inl hasked
  | beginStart i launching =>
      rw [step, beginStart]
      split
      · split
        · cases launching <;> exact Or.inl hasked
        all_goals exact Or.inl hasked
      · exact Or.inl hasked
  | openingEnded i outcome taken =>
      rw [step, openingEnded]
      split
      · cases outcome with
        | accepted info => cases taken <;> exact Or.inl hasked
        | _ => exact Or.inl hasked
      · exact Or.inl hasked
  | graceEnded i status =>
      rw [step, graceEnded]
      split
      · cases status <;> exact Or.inl hasked
      · exact Or.inl hasked
  | abortSeen i =>
      rw [step, abortSeen]
      split
      · exact Or.inr rfl
      · exact Or.inl hasked
  | link i =>
      rw [step, link]
      split <;> exact Or.inl hasked
  | dropStart i =>
      rw [step, dropStart]
      split
      · exact Or.inl hasked
      · exact Or.inl hasked
      · exact Or.inl hasked
      · split
        · exact Or.inl hasked
        · dsimp only
          split <;> exact Or.inl hasked
  | look j =>
      rcases c.look_cases j with heq | ⟨_, -, -, ⟨-, heq⟩ | ⟨-, -, heq⟩ | ⟨-, heq⟩ | ⟨-, heq⟩⟩
      all_goals rw [step, heq]
      · exact Or.inl hasked
      · exact Or.inl hasked
      · exact Or.inl rfl
      · exact Or.inl hasked
      · exact Or.inl hasked
  | unlink j =>
      rw [step, unlink]
      split
      · split <;> exact Or.inl hasked
      · exact Or.inl hasked
  | shutdownEnded j outcome taken =>
      rw [step, shutdownEnded]
      split <;> exact Or.inl hasked
  | exitEnded j outcome =>
      rw [step, exitEnded]
      split
      · dsimp only
        split <;> exact Or.inl hasked
      · exact Or.inl hasked
  | dropStop j =>
      rw [step, dropStop]
      split
      · exact Or.inl hasked
      · exact Or.inl hasked
      · exact Or.inl hasked
      · split <;> exact Or.inl hasked
  | deliver i taken =>
      rw [step, deliver]
      split
      · split <;> exact Or.inl hasked
      · exact Or.inl hasked
  | dropNotify i =>
      rw [step, dropNotify]
      split <;> exact Or.inl hasked

/-- A stop that begins to wait asks the start to give up. -/
theorem look_asks (h : c.stopStage? j = some .created) (hphase : c.phase = .starting) :
    (c.look j).1.abortAsked = true := by
  have hstage : (c.stops[j]?).map StopAttempt.stage = some .created := h
  simp only [look, hstage, hphase]

/-- While a stop waits, the connection is in use, and a start that has no answer yet was asked to
give up. -/
def Heard (c : Connection) (l : Life) : Prop :=
  ∀ j, c.stopStage? j = some .waiting →
    c.phase ≠ .idle ∧ ∀ i, l = .opening i → c.abortAsked = true

/-- A connection that is in use stays so. -/
theorem Lives.used_step (h : c.Lives l) (hused : c.phase ≠ .idle) (input : ConnectionInput) :
    (c.step input).1.phase ≠ .idle := by
  obtain ⟨m, hstep, hm⟩ := h.step input
  intro hidle
  rw [hm.phase_eq] at hidle
  rw [h.phase_eq] at hused
  obtain rfl := Life.of_phase_idle hidle
  generalize deeds (c.step input).2 = effects at hstep
  cases hstep with
  | rest => exact hused rfl
  | miss _ hclosed => cases hclosed

theorem Heard.step (h : c.Heard l) {input : ConnectionInput} {l' : Life}
    (hstep : Life.Step l (deeds (c.step input).2) l') (hlives : c.Lives l)
    (hlives' : (c.step input).1.Lives l') : (c.step input).1.Heard l' := by
  intro j hj
  cases stop_goes hj with
  | stay hold =>
      obtain ⟨hused, hasked⟩ := h j hold.symm
      refine ⟨hlives.used_step hused input, ?_⟩
      rintro i rfl
      -- The start is not new, since a stop waits already.
      have hbefore : l = .opening i := by
        generalize deeds (c.step input).2 = effects at hstep
        cases hstep with
        | rest => rfl
        | spawn _ _ => exact absurd hlives.phase_eq hused
        | miss _ hclosed => cases hclosed
      rcases abortAsked_kept (hasked i hbefore) input with hkept | hclosed
      · exact hkept
      · rw [hlives'.phase_eq] at hclosed
        cases hclosed
  | wait hold hphase =>
      have hused : c.phase ≠ .idle := by
        rw [hphase]
        exact nofun
      exact ⟨hlives.used_step hused _, fun _ _ => look_asks hold hphase⟩

theorem Heard.run (h : c.Heard l) (hlives : c.Lives l) (inputs : List ConnectionInput) :
    ∃ n, (c.run inputs).1.Lives n ∧ (c.run inputs).1.Heard n := by
  induction inputs generalizing c l with
  | nil => exact ⟨l, hlives, h⟩
  | cons input rest ih =>
      obtain ⟨m, hstep, hm⟩ := hlives.step input
      exact ih (h.step hstep hlives hm) hm

/-! ## The next poll -/

/-- A start has the answer, or it was asked to give up. -/
def Roused (c : Connection) (i : Nat) : Prop :=
  (∃ process, c.starts[i]? = some (.linking process)) ∨
    (∃ process, (c.starts[i]?).bind StartStage.pending? = some process) ∧ c.abortAsked = true

/-- A connection that is neither idle nor starting does not start any more. -/
theorem Lives.not_starting (h : c.Lives l) (hidle : c.phase ≠ .idle) (hphase : c.phase ≠ .starting)
    (inputs : List ConnectionInput) : (c.run inputs).1.phase ≠ .starting := by
  have hwalk := h.walk inputs
  by_cases hcancelled : c.phase = .cancelled
  · rw [h.final (Or.inr hcancelled) inputs]
    exact hphase
  · intro hstarting
    cases hinputs : published (c.effects inputs) with
    | nil =>
        rw [hinputs] at hwalk
        have hlast := hwalk.getLast?
        rw [hstarting] at hlast
        exact hphase (Option.some.inj hlast)
    | cons p rest =>
        have hlast := hwalk.getLast?
        rw [hinputs, hstarting, List.getLast?_cons_cons] at hlast
        refine ((hwalk.of_started hidle hcancelled).1 .starting ?_).1 rfl
        rw [hinputs]
        exact List.mem_of_getLast? hlast

/-- While a stop waits for a start, the start has the answer or was asked to give up. -/
theorem Heard.roused (h : c.Heard l) (hlives : c.Lives l) (hj : c.stopStage? j = some .waiting)
    (hphase : c.phase = .starting) : ∃ i, c.Roused i := by
  rw [hlives.phase_eq] at hphase
  cases l with
  | opening i =>
      have hasked := (h j hj).2 i rfl
      rcases (hlives.owns_iff (.handshake i)).mpr ⟨rfl, rfl⟩ with hi | ⟨failure, hi⟩
      · exact ⟨i, Or.inr ⟨⟨0, by rw [hi]; rfl⟩, hasked⟩⟩
      · exact ⟨i, Or.inr ⟨⟨0, by rw [hi]; rfl⟩, hasked⟩⟩
  | linking i => exact ⟨i, Or.inl ⟨0, (hlives.owns_iff (.start i)).mpr ⟨rfl, rfl⟩⟩⟩
  | _ => cases hphase

theorem Roused.process (h : c.Roused i) : ∃ stage process, c.starts[i]? = some stage ∧
    StartStage.process? stage = some process := by
  rcases h with ⟨process, hi⟩ | ⟨⟨process, hpending⟩, -⟩
  · exact ⟨_, process, hi, rfl⟩
  · obtain ⟨stage, hi, hstage⟩ := Option.bind_eq_some_iff.mp hpending
    refine ⟨stage, process, hi, ?_⟩
    cases stage <;> first | exact hstage | cases hstage

/-- A start that was asked, or has the answer, ends when it sees the request and gets at the
slot. -/
theorem Roused.polled (h : c.Roused i) (hlives : c.Lives l) :
    (c.run [.abortSeen i, .link i]).1.phase ≠ .starting := by
  rcases h with ⟨process, hi⟩ | ⟨⟨process, hpending⟩, hasked⟩
  · have hskip : c.step (.abortSeen i) = (c, []) := by
      rw [Connection.step, Connection.abortSeen, hi]
      rfl
    have hrunning : (c.run [.abortSeen i, .link i]).1.phase = .running := by
      rw [run_cons, hskip, run_cons, Connection.step, Connection.link, hi]
      rfl
    rw [hrunning]
    decide
  · have hclosed : (c.step (.abortSeen i)).1.phase = .closed := by
      rw [Connection.step, Connection.abortSeen, hpending, hasked]
      rfl
    obtain ⟨m, -, hm⟩ := hlives.step (.abortSeen i)
    rw [run_cons, hm.final (Or.inl hclosed), hclosed]
    decide

/-- What happens to starts leaves the stops where they are. -/
theorem stops_run {news : List ConnectionInput} (h : ∀ input ∈ news, input.start? = some i) :
    (c.run news).1.stops = c.stops := by
  induction news generalizing c with
  | nil => rfl
  | cons input rest ih =>
      obtain ⟨hinput, hrest⟩ := List.forall_mem_cons.mp h
      rw [run_cons, ih hrest, stops_start hinput]

/-- A stop that looks while no start is under way goes for the slot, or has nothing to do. -/
theorem look_settles (h : c.stopStage? j = some .created ∨ c.stopStage? j = some .waiting)
    (hphase : c.phase ≠ .starting) :
    ∃ new, (new = .unlinking ∨ new = .ended none) ∧
      (c.step (.look j)).1.stopStage? j = some new := by
  have hseen : ∃ new, (new = .unlinking ∨ new = .ended none) ∧
      (c.look j).1.stops = (c.note j new).stops := by
    rcases h with hstage | hstage <;>
    · rw [stopStage?] at hstage
      cases hp : c.phase with
      | starting => exact absurd hp hphase
      | running =>
          exact ⟨.unlinking, Or.inl rfl, by simp only [look, hstage, hp, reduceCtorEq, if_false]⟩
      | _ =>
          exact ⟨.ended none, Or.inr rfl, by simp only [look, hstage, hp, reduceCtorEq, if_false]⟩
  obtain ⟨new, hnew, hstops⟩ := hseen
  refine ⟨new, hnew, ?_⟩
  rw [stopStage?, step, hstops]
  rcases h with hstage | hstage
  · exact (stage_note hstage j).trans (if_pos rfl)
  · exact (stage_note hstage j).trans (if_pos rfl)

/-- A stop that waited moves on when it looks and the phase is another one. -/
theorem look_moves (h : c.stopStage? j = some .waiting) (hphase : c.phase ≠ .starting) :
    (c.step (.look j)).1.stopStage? j ≠ some .waiting := by
  obtain ⟨new, hnew, hafter⟩ := look_settles (Or.inr h) hphase
  rw [hafter]
  rcases hnew with rfl | rfl <;> simp

/-! ## Release -/

section

variable (launch : Launch) (scope : Scope) (config : ConnectionConfig)

theorem Heard.fresh : (fresh launch scope config).Heard .unused := nofun

/-- Where a stop waits, the start that entered ends when it sees the request and gets at the slot,
whatever happened to it before. -/
theorem polled_run {inputs news : List ConnectionInput}
    (hi : i ∈ (fresh launch scope config).entered inputs)
    (hj : ((fresh launch scope config).run inputs).1.stopStage? j = some .waiting)
    (hnews : ∀ input ∈ news, input.start? = some i) :
    (((fresh launch scope config).run inputs).1.run
      (news ++ [.abortSeen i, .link i])).1.phase ≠ .starting := by
  have hlives := Lives.fresh launch scope config
  obtain ⟨n, hn, hheard⟩ := (Heard.fresh launch scope config).run hlives (inputs ++ news)
  have hlater := mem_entered_append hi news
  rw [run_append]
  by_cases hphase : ((fresh launch scope config).run (inputs ++ news)).1.phase = .starting
  · have hwaiting : ((fresh launch scope config).run (inputs ++ news)).1.stopStage? j
        = some .waiting := by
      rwa [run_append, stopStage?, stops_run hnews]
    obtain ⟨k, hroused⟩ := hheard.roused hn hwaiting hphase
    have hentered := entered_of_process launch scope config hroused.process
    rw [entered_unique launch scope config hlater hentered] at hroused
    have hend := hroused.polled hn
    rwa [run_append] at hend
  · have hused := (used_of_entered launch scope config hlater).1
    have hend := hn.not_starting hused hphase [.abortSeen i, .link i]
    rwa [run_append] at hend

/-- **No stop is stranded.** In every run of a connection, the phase is starting exactly while one
start has entered and neither ended nor been given up. A stop that waits moves on when it looks,
unless the phase is starting. If it is, the start that entered has the answer or was asked to give
up, and whatever happens to it, it is over once it has seen the request and got at the slot.

However the start that entered ends, and also if it is given up, which it can be at any time, the
phase is not starting any more, and the step publishes the phase that follows. And the rounds of a
stop, whatever is done between them, find no phase again, so that there are at most three; what a
stop noted are such rounds. -/
theorem stops_released (inputs : List ConnectionInput) :
    let c := Connection.fresh launch scope config
    let last := (c.run inputs).1
    let history := ConnectionPhase.idle :: published (c.effects inputs)
    (last.phase = .starting ↔ ∃! i, i ∈ c.entered inputs ∧ last.UnderWay i) ∧
      (∀ j, last.stopStage? j = some .waiting →
        (last.phase ≠ .starting → (last.step (.look j)).1.stopStage? j ≠ some .waiting) ∧
        (last.phase = .starting → ∃ i ∈ c.entered inputs, last.UnderWay i ∧ last.Roused i ∧
          ∀ news, (∀ input ∈ news, input.start? = some i) →
            ¬ (last.run (news ++ [.abortSeen i, .link i])).1.UnderWay i ∧
              (last.run (news ++ [.abortSeen i, .link i])).1.phase ≠ .starting)) ∧
      (∀ i input, i ∈ c.entered (inputs ++ [input]) → last.UnderWay i →
        ¬ (last.step input).1.UnderWay i →
          (last.step input).1.phase ≠ .starting ∧
            (published (last.step input).2).getLast? = some (last.step input).1.phase) ∧
      (∀ i ∈ c.entered inputs, ¬ (last.step (.dropStart i)).1.UnderWay i) ∧
      (∀ (j : Nat) s, last.stops[j]? = some s → Rounds history s.found) ∧
      ∀ phases, Rounds history phases → phases.Nodup ∧ phases.length ≤ 3 := by
  intro c last history
  have hlives : c.Lives .unused := Lives.fresh launch scope config
  refine ⟨starting_iff_underWay launch scope config inputs, ?waits, ?exits, ?drops,
    fun j s hs => rounds_run launch scope config hs,
    fun phases hrounds => hrounds.short (hlives.walk inputs)⟩
  case waits =>
    intro j hj
    obtain ⟨n, hn, hheard⟩ := (Heard.fresh launch scope config).run hlives inputs
    refine ⟨look_moves hj, fun hphase => ?_⟩
    obtain ⟨i, hroused⟩ := hheard.roused hn hj hphase
    obtain ⟨stage, process, hi, hprocess⟩ := hroused.process
    have hentered := entered_of_process launch scope config hroused.process
    refine ⟨i, hentered, underWay_of_process hi hprocess, hroused, fun news hnews => ?_⟩
    have hend : (last.run (news ++ [.abortSeen i, .link i])).1.phase ≠ .starting :=
      polled_run launch scope config hentered hj hnews
    refine ⟨fun hunder => hend ?_, hend⟩
    have hlater := mem_entered_append hentered (news ++ [.abortSeen i, .link i])
    have hstarting := starting_of_underWay launch scope config hlater
    rw [run_append] at hstarting
    exact hstarting hunder
  case exits =>
    intro i input hentered hunder hover
    have hnext : (c.run (inputs ++ [input])).1 = (last.step input).1 := run_append c inputs [input]
    have hphase : (last.step input).1.phase ≠ .starting := by
      rw [← hnext] at hover ⊢
      exact not_starting_of_over launch scope config hentered hover
    obtain ⟨n, -, hn⟩ := hlives.run inputs
    refine ⟨hphase, hn.published_of_phase_ne ?_⟩
    have hused := (used_of_entered launch scope config hentered).1
    rw [hnext] at hused
    rw [entered_append, entered, entered, List.append_nil] at hentered
    rcases List.mem_append.mp hentered with hbefore | hnow
    · rw [starting_of_underWay launch scope config hbefore hunder]
      exact hphase
    · obtain ⟨-, -, -, hidle⟩ := of_entered? (Option.mem_toList.mp hnow)
      rw [hidle]
      exact hused
  case drops =>
    intro i hi
    obtain ⟨stage, hstage, -⟩ := begun_of_entered hi
    exact (over_dropStart hstage).not_underWay

end

/-- A stop that finds the handshake under way waits, and the start gives up when it is polled. -/
example :
    let c := Connection.fresh ⟨"ti-lsp", [], []⟩ ⟨[], []⟩ .usual
    let waiting := (c.run [.start, .stop, .beginStart 0 (.spawned (Path.ofText "/")), .look 0]).1
    waiting.phase = .starting ∧ waiting.stopStage? 0 = some .waiting ∧
      waiting.abortAsked = true ∧ (waiting.run [.abortSeen 0, .link 0]).1.phase = .closed :=
  ⟨rfl, rfl, rfl, rfl⟩

end LanguageBridge.Connection
