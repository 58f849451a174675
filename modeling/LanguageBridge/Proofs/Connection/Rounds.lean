import LanguageBridge.Proofs.Connection.Stops
import Mathlib.Data.List.Chain

set_option autoImplicit false

/-! # The rounds of a stop

A stop looks at the phase in rounds: after an idle or a starting phase it looks again, once the
phase is another one. `Rounds` says this of the phases that it finds, whatever is done between two
looks. The published phases are a walk, which comes back to none of these two phases, so the
rounds never find a phase again and there are at most three (`Rounds.short`). What the stops of a
connection note are such rounds (`rounds_run`).
-/

namespace LanguageBridge

/-! ## Phases in order -/

namespace ConnectionPhase

/-- A walk leads from a phase to another one. -/
def Reaches (p q : ConnectionPhase) : Prop := ∃ phases, Walk p phases q

variable {p q : ConnectionPhase} {phases : List ConnectionPhase}

/-- A walk ends with the phase that was published last. -/
theorem Walk.getLast? (h : Walk p phases q) : (p :: phases).getLast? = some q := by
  induction h with
  | here p => rfl
  | move hmove tail ih => rwa [List.getLast?_cons_cons]
  | again tail ih => rwa [List.getLast?_cons_cons]

theorem Walk.reaches (h : Walk p phases q) {r : ConnectionPhase} (hr : r ∈ p :: phases) :
    Reaches p r := by
  induction h with
  | here p =>
      rw [List.mem_singleton.mp hr]
      exact ⟨[], .here p⟩
  | @move p q' _ rest hmove tail ih =>
      rcases List.mem_cons.mp hr with rfl | hr
      · exact ⟨[], .here _⟩
      · obtain ⟨more, hmore⟩ := ih hr
        exact ⟨q' :: more, .move hmove hmore⟩
  | again tail ih =>
      rcases List.mem_cons.mp hr with rfl | hr
      · exact ⟨[], .here _⟩
      · exact ih hr

/-- Of the phases of a walk, each leads to those after it. -/
theorem Walk.pairwise (h : Walk p phases q) : (p :: phases).Pairwise Reaches := by
  induction h with
  | here p => exact List.pairwise_singleton _ p
  | @move p q' _ rest hmove tail ih =>
      refine List.pairwise_cons.mpr ⟨?_, ih⟩
      intro r hr
      obtain ⟨more, hmore⟩ := tail.reaches hr
      exact ⟨q' :: more, .move hmove hmore⟩
  | again tail ih => exact List.pairwise_cons.mpr ⟨fun r hr => tail.reaches hr, ih⟩

end ConnectionPhase

/-! ## Rounds -/

/-- What a stop finds when it looks at the phase in rounds, if `history` are all phases, in order.
It goes on after an idle or a starting phase, and only once the phase is another one. -/
structure Rounds (history phases : List ConnectionPhase) : Prop where
  inOrder : phases.Sublist history
  goesOn : phases.IsChain fun p q => (p = .idle ∨ p = .starting) ∧ q ≠ p

namespace Rounds

variable {history phases : List ConnectionPhase} {p q : ConnectionPhase}

/-- The starting phase is the last one after which a stop looks again. -/
theorem over_of_starting (h : ConnectionPhase.Reaches .starting q) (hq : q ≠ .starting) :
    ¬ (q = .idle ∨ q = .starting) := by
  obtain ⟨said, hwalk⟩ := h
  rintro (hidle | hstarting)
  · exact (hwalk.of_started nofun nofun).2.1 hidle
  · exact hq hstarting

/-- **Rounds are few**: none of them finds a phase again, and there are at most three. -/
theorem short (h : Rounds (p :: history) phases) (hwalk : ConnectionPhase.Walk p history q) :
    phases.Nodup ∧ phases.length ≤ 3 := by
  have horder : phases.Pairwise ConnectionPhase.Reaches := hwalk.pairwise.sublist h.inOrder
  match phases, horder, h.goesOn with
  | [], _, _ => exact ⟨List.nodup_nil, Nat.zero_le 3⟩
  | [a], _, _ => exact ⟨List.pairwise_singleton _ a, by simp⟩
  | [a, b], _, .cons_cons ⟨_, hb⟩ _ =>
      refine ⟨List.nodup_cons.mpr ⟨?_, List.pairwise_singleton _ b⟩, by simp⟩
      rw [List.mem_singleton]
      exact Ne.symm hb
  | a :: b :: d :: rest, horder, .cons_cons ⟨ha, hb⟩ (.cons_cons ⟨hopen, hd⟩ hrest) =>
      obtain ⟨hfirst, hsecond, -⟩ : _ ∧ _ ∧ _ := by
        simpa only [List.pairwise_cons, List.forall_mem_cons] using horder
      -- The first round finds the idle phase and the second one the starting phase.
      have hidle : a = .idle := by
        rcases ha with ha | rfl
        · exact ha
        · exact absurd hopen (over_of_starting hfirst.1 hb)
      have hstarting : b = .starting := hopen.resolve_left fun hb' => hb (hb'.trans hidle.symm)
      subst hidle hstarting
      have hlast := over_of_starting hsecond.1 hd
      cases hrest with
      | cons_cons hd' _ => exact absurd hd'.1 hlast
      | singleton =>
          refine ⟨?_, Nat.le_refl 3⟩
          simp only [List.nodup_cons, List.mem_cons, List.not_mem_nil, or_false, not_or,
            List.nodup_nil, not_false_eq_true, and_true]
          exact ⟨⟨nofun, fun heq => hlast (Or.inl heq.symm)⟩, Ne.symm hd⟩

theorem nil (history : List ConnectionPhase) : Rounds history [] := ⟨List.nil_sublist _, .nil⟩

theorem mono (h : Rounds history phases) (more : List ConnectionPhase) :
    Rounds (history ++ more) phases :=
  ⟨h.inOrder.trans (List.sublist_append_left history more), h.goesOn⟩

/-- The first round finds the phase that there is. -/
theorem first (h : history.getLast? = some p) : Rounds history [p] :=
  ⟨List.singleton_sublist.mpr (List.mem_of_getLast? h), .singleton p⟩

/-- A round after the starting phase finds the phase that there is then. -/
theorem second (h : Rounds history [.starting]) (hp : history.getLast? = some p)
    (hne : p ≠ .starting) : Rounds history [.starting, p] := by
  obtain ⟨before, rfl⟩ := List.getLast?_eq_some_iff.mp hp
  refine ⟨?_, .cons_cons ⟨Or.inr rfl, hne⟩ (.singleton p)⟩
  have hmem : ConnectionPhase.starting ∈ before := by
    rcases List.mem_append.mp (List.singleton_sublist.mp h.inOrder) with hmem | hmem
    · exact hmem
    · exact absurd (List.mem_singleton.mp hmem).symm hne
  exact (List.singleton_sublist.mpr hmem).append (List.Sublist.refl [p])

end Rounds

/-! ## What a stop notes -/

/-- How a step of a connection in a phase can move a stop. -/
inductive StopAttempt.Goes (phase : ConnectionPhase) : Option StopAttempt → Option StopAttempt →
    Prop where
  | stay (s : Option StopAttempt) : Goes phase s s
  | ask : Goes phase none (some ⟨.created, []⟩)
  | go {s : StopAttempt} {stage : StopStage} (hstage : stage ≠ .created ∧ stage ≠ .waiting) :
    Goes phase (some s) (some ⟨stage, s.found⟩)
  /-- The stop looks at the phase. -/
  | note {s : StopAttempt} {stage : StopStage}
    (hs : s.stage = .created ∨ s.stage = .waiting ∧ phase ≠ .starting)
    (hstage : stage ≠ .created) (hwait : stage = .waiting → phase = .starting) :
    Goes phase (some s) (some ⟨stage, s.found ++ [phase]⟩)

namespace Connection

variable {c c' : Connection} {l : Life}

theorem goes_of_stops (h : c'.stops = c.stops) (j : Nat) :
    StopAttempt.Goes c.phase c.stops[j]? c'.stops[j]? := by
  rw [h]
  exact .stay _

theorem goes_setStop (c : Connection) (j k : Nat) {stage : StopStage}
    (hstage : stage ≠ .created ∧ stage ≠ .waiting) :
    StopAttempt.Goes c.phase c.stops[j]? (c.setStop k stage).stops[j]? := by
  rw [setStop, List.getElem?_modify]
  cases c.stops[j]? with
  | none => exact .stay none
  | some s =>
      rw [Option.map_eq_map, Option.map_some]
      split
      · exact .go hstage
      · exact .stay _

theorem goes_note (c : Connection) (j k : Nat) {old stage : StopStage}
    (hk : c.stopStage? k = some old)
    (hold : old = .created ∨ old = .waiting ∧ c.phase ≠ .starting) (hstage : stage ≠ .created)
    (hwait : stage = .waiting → c.phase = .starting) :
    StopAttempt.Goes c.phase c.stops[j]? (c.note k stage).stops[j]? := by
  obtain ⟨s, hs, rfl⟩ := Option.map_eq_some_iff.mp hk
  rw [Connection.note, List.getElem?_modify, Option.map_eq_map]
  by_cases hj : k = j
  · subst hj
    rw [hs, Option.map_some, if_pos rfl]
    exact .note hold hstage hwait
  · simp only [if_neg hj, Option.map_id_fun', id_eq]
    exact .stay _

theorem goes_look (c : Connection) (j k : Nat) :
    StopAttempt.Goes c.phase c.stops[j]? (c.look k).1.stops[j]? := by
  rcases c.look_cases k with heq | ⟨old, hk, hold, hcases⟩
  · rw [heq]
    exact .stay _
  · rcases hcases with ⟨-, heq⟩ | ⟨hphase, -, heq⟩ | ⟨-, heq⟩ | ⟨-, heq⟩
    · rw [heq]
      exact c.goes_note j k hk hold nofun nofun
    · rw [heq]
      exact c.goes_note j k hk hold nofun fun _ => hphase
    · rw [heq]
      exact c.goes_note j k hk hold nofun nofun
    · rw [heq]
      exact c.goes_note j k hk hold nofun nofun

/-- A step notes the phase for the stop that looks at it, and for no other. -/
theorem goes_step (c : Connection) (input : ConnectionInput) (j : Nat) :
    StopAttempt.Goes c.phase c.stops[j]? (c.step input).1.stops[j]? := by
  cases input with
  | start => exact .stay _
  | stop =>
      show StopAttempt.Goes c.phase c.stops[j]? (c.stops ++ [StopAttempt.mk .created []])[j]?
      rw [List.getElem?_append]
      split
      · exact .stay _
      case isFalse hge =>
        rw [List.getElem?_eq_none (Nat.le_of_not_lt hge), List.getElem?_singleton]
        split
        · exact .ask
        · exact .stay none
  | notify event => exact .stay _
  | beginStart i launching => exact goes_of_stops (stops_start rfl) j
  | openingEnded i outcome taken => exact goes_of_stops (stops_start rfl) j
  | graceEnded i status => exact goes_of_stops (stops_start rfl) j
  | abortSeen i => exact goes_of_stops (stops_start rfl) j
  | link i => exact goes_of_stops (stops_start rfl) j
  | dropStart i => exact goes_of_stops (stops_start rfl) j
  | look k => exact c.goes_look j k
  | unlink k =>
      rw [step, unlink]
      split
      · split <;> exact c.goes_setStop j k (by simp)
      · exact .stay _
  | shutdownEnded k outcome taken =>
      rw [step, shutdownEnded]
      split
      · exact c.goes_setStop j k (by simp)
      · exact .stay _
  | exitEnded k outcome =>
      rw [step, exitEnded]
      split
      · dsimp only
        split <;> exact c.goes_setStop j k (by simp)
      · exact .stay _
  | dropStop k =>
      rw [step, dropStop]
      split
      · exact .stay _
      · exact .stay _
      · exact .stay _
      · split <;> exact c.goes_setStop j k (by simp)
  | deliver i taken =>
      refine goes_of_stops ?_ j
      rw [step, deliver]
      split
      · split <;> rfl
      · rfl
  | dropNotify i =>
      refine goes_of_stops ?_ j
      rw [step, dropNotify]
      split <;> rfl

/-! ## Runs -/

/-- What a stop noted fits its stage. -/
structure Noted (history : List ConnectionPhase) (s : StopAttempt) : Prop where
  rounds : Rounds history s.found
  created : s.stage = .created → s.found = []
  waiting : s.stage = .waiting → s.found = [.starting]

/-- The phases that a connection was in, and what its stops noted of them. -/
structure Recorded (c : Connection) (history : List ConnectionPhase) : Prop where
  current : history.getLast? = some c.phase
  stops : ∀ (j : Nat) s, c.stops[j]? = some s → Noted history s

theorem Noted.mono {history : List ConnectionPhase} {s : StopAttempt} (h : Noted history s)
    (more : List ConnectionPhase) : Noted (history ++ more) s :=
  ⟨h.rounds.mono more, h.created, h.waiting⟩

/-- A stop that looks at the phase notes one that fits what it noted before. -/
theorem Noted.note {history : List ConnectionPhase} {s : StopAttempt} (h : Noted history s)
    {phase : ConnectionPhase} (hphase : history.getLast? = some phase)
    (hs : s.stage = .created ∨ s.stage = .waiting ∧ phase ≠ .starting) {stage : StopStage}
    (hstage : stage ≠ .created) (hwait : stage = .waiting → phase = .starting) :
    Noted history ⟨stage, s.found ++ [phase]⟩ := by
  rcases hs with hs | ⟨hs, hne⟩
  · rw [h.created hs]
    refine ⟨.first hphase, fun heq => absurd heq hstage, ?_⟩
    intro heq
    rw [hwait heq]
    rfl
  · have hrounds := h.rounds
    rw [h.waiting hs] at hrounds ⊢
    exact ⟨hrounds.second hphase hne, fun heq => absurd heq hstage,
      fun heq => absurd (hwait heq) hne⟩

theorem Recorded.step {history : List ConnectionPhase} (h : c.Recorded history)
    (hlives : c.Lives l) (input : ConnectionInput) :
    (c.step input).1.Recorded (history ++ published (c.step input).2) where
  current := by
    obtain ⟨before, hbefore⟩ := List.getLast?_eq_some_iff.mp h.current
    obtain ⟨m, hstep, hm⟩ := hlives.step input
    have hwalk := hstep.walk
    rw [published_deeds, ← hlives.phase_eq, ← hm.phase_eq] at hwalk
    rw [hbefore, List.append_assoc, List.singleton_append,
      List.getLast?_append_of_ne_nil _ (List.cons_ne_nil _ _)]
    exact hwalk.getLast?
  stops := by
    intro j s hs
    have hgoes := c.goes_step input j
    rw [hs] at hgoes
    refine Noted.mono ?_ _
    generalize hbefore : c.stops[j]? = before at hgoes
    cases hgoes with
    | stay => exact h.stops j s hbefore
    | ask => exact ⟨.nil history, fun _ => rfl, nofun⟩
    | go hstage =>
        exact ⟨(h.stops j _ hbefore).rounds, fun heq => absurd heq hstage.1,
          fun heq => absurd heq hstage.2⟩
    | note hold hstage hwait => exact (h.stops j _ hbefore).note h.current hold hstage hwait

theorem Recorded.run {history : List ConnectionPhase} (h : c.Recorded history)
    (hlives : c.Lives l) (inputs : List ConnectionInput) :
    (c.run inputs).1.Recorded (history ++ published (c.effects inputs)) := by
  induction inputs generalizing c l history with
  | nil =>
      show c.Recorded (history ++ [])
      rwa [List.append_nil]
  | cons input rest ih =>
      obtain ⟨m, -, hm⟩ := hlives.step input
      rw [effects_cons, published_append, ← List.append_assoc]
      exact ih (h.step hlives input) hm

/-- What a stop finds in a run of a new connection are rounds. -/
theorem rounds_run (launch : Launch) (scope : Scope) (config : ConnectionConfig)
    {inputs : List ConnectionInput} {j : Nat} {s : StopAttempt}
    (h : ((fresh launch scope config).run inputs).1.stops[j]? = some s) :
    Rounds (.idle :: published ((fresh launch scope config).effects inputs)) s.found := by
  have hnew : (fresh launch scope config).Recorded [.idle] := ⟨rfl, nofun⟩
  exact ((hnew.run (Lives.fresh launch scope config) inputs).stops j s h).rounds

end Connection
end LanguageBridge
