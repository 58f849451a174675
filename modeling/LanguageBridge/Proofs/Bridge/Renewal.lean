import LanguageBridge.Proofs.Bridge.Teardowns

set_option autoImplicit false

/-! # A bridge without a session is as good as new

A bridge goes on numbering its connections and its teardowns where it left off, and outcomes of
earlier starts and stops may still arrive. `Renewed` compares such a bridge with a new one: they
agree, up to the numbers, on everything that is not from before. A step that is about the time from
before keeps this up and shows nothing outside (`Renewed.stale`), and any other step is the one
that the new bridge takes, with the numbers shifted (`Renewed.step`).
-/

namespace LanguageBridge

/-! ## Shifting the numbers

The numbers of connections are shifted by `n`, and those of teardowns by `m`. The epoch counts the
connections. -/

/-- A session with its connection renumbered. -/
def Session.shift (n : Nat) (s : Session) : Session := { s with connection := s.connection + n }

/-- A watcher with its connection renumbered. -/
def Watcher.shift (n : Nat) (w : Watcher) : Watcher :=
  { w with connection := w.connection + n, epoch := w.epoch + n }

/-- A stop with its connection renumbered. -/
def Stop.shift (n : Nat) (s : Stop) : Stop := { s with connection := s.connection + n }

/-- A teardown with its connection renumbered. -/
def Teardown.shift (n : Nat) : Teardown → Teardown
  | .waiting connection => .waiting (connection + n)
  | other => other

/-- An effect with its connection renumbered. -/
def BridgeEffect.shift (n : Nat) : BridgeEffect → BridgeEffect
  | .create connection launch scope => .create (connection + n) launch scope
  | .start connection => .start (connection + n)
  | .stop connection => .stop (connection + n)
  | .notify connection event => .notify (connection + n) event
  | .release connection => .release (connection + n)
  | other => other

/-- An input with its connection or its teardown renumbered. -/
def BridgeInput.shift (n m : Nat) : BridgeInput → BridgeInput
  | .startEnded connection outcome sink => .startEnded (connection + n) outcome sink
  | .stopEnded connection outcome => .stopEnded (connection + n) outcome
  | .poll teardown => .poll (teardown + m)
  | .dropTeardown teardown => .dropTeardown (teardown + m)
  | other => other

/-- A reply with its teardown renumbered. -/
def BridgeReply.shift (m : Nat) : BridgeReply → BridgeReply
  | .deactivated teardown complete => .deactivated (teardown + m) complete
  | other => other

/-- Whether an input is about one of the first `n` connections or the first `m` teardowns. -/
def BridgeInput.isStale (n m : Nat) : BridgeInput → Bool
  | .startEnded connection _ _ => connection < n
  | .stopEnded connection _ => connection < n
  | .poll teardown => teardown < m
  | .dropTeardown teardown => teardown < m
  | _ => false

/-- An input with its connection or its teardown numbered back. -/
def BridgeInput.unshift (n m : Nat) : BridgeInput → BridgeInput
  | .startEnded connection outcome sink => .startEnded (connection - n) outcome sink
  | .stopEnded connection outcome => .stopEnded (connection - n) outcome
  | .poll teardown => .poll (teardown - m)
  | .dropTeardown teardown => .dropTeardown (teardown - m)
  | other => other

theorem BridgeInput.shift_unshift {n m : Nat} {input : BridgeInput}
    (h : input.isStale n m = false) : (input.unshift n m).shift n m = input := by
  cases input <;> simp_all [unshift, shift, isStale]

/-- Whether the user, the observers or the connections notice an effect. -/
def BridgeEffect.isOutward : BridgeEffect → Bool
  | .release _ => false
  | .log _ => false
  | _ => true

theorem BridgeEffect.isOutward_shift (n : Nat) (e : BridgeEffect) :
    (e.shift n).isOutward = e.isOutward := by
  cases e <;> rfl

namespace Bridge

/-- What the user, the observers and the connections notice of effects, in order. -/
def outward (effects : List BridgeEffect) : List BridgeEffect :=
  effects.filter BridgeEffect.isOutward

theorem outward_append (effects others : List BridgeEffect) :
    outward (effects ++ others) = outward effects ++ outward others := List.filter_append _ _

theorem outward_shift (n : Nat) (effects : List BridgeEffect) :
    outward (effects.map (BridgeEffect.shift n))
      = (outward effects).map (BridgeEffect.shift n) := by
  rw [outward, List.filter_map]
  congr 1
  refine List.filter_congr fun e _ => ?_
  exact e.isOutward_shift n

theorem Quiet.outward {effects : List BridgeEffect} (h : Quiet effects) :
    Bridge.outward effects = [] := by
  rw [Bridge.outward, List.filter_eq_nil_iff]
  intro e he
  obtain ⟨event, rfl⟩ := h e he
  exact Bool.false_ne_true

variable {n m : Nat} {b f : Bridge}

/-- A bridge agrees with a new one on everything that is not from the time of its first `n`
connections and its first `m` teardowns. -/
structure Renewed (n m : Nat) (b f : Bridge) : Prop where
  state : b.state = f.state
  epoch : b.epoch = f.epoch + n
  session : b.session = f.session.map (Session.shift n)
  created : b.created = f.created + n
  watchers : b.watchers.filter (fun w => decide (n ≤ w.connection))
    = f.watchers.map (Watcher.shift n)
  stops : b.stops.filter (fun s => decide (n ≤ s.connection)) = f.stops.map (Stop.shift n)
  teardowns : ∃ old, old.length = m ∧ b.teardowns = old ++ f.teardowns.map (Teardown.shift n)

/-- A bridge without a session compares with one that was never activated. -/
theorem Renewed.start (hb : b.Sound) (hstopped : b.Stopped) (hnone : b.session = none) :
    Renewed b.created b.teardowns.length b idle where
  state := hb.idle_iff.mpr hnone
  epoch := hb.epoch_eq.trans (Nat.zero_add _).symm
  session := hnone
  created := (Nat.zero_add _).symm
  watchers := by
    refine List.filter_eq_nil_iff.mpr fun w hw => ?_
    have hlt := (hb.watchers w hw).2
    simpa using hlt
  stops := by
    refine List.filter_eq_nil_iff.mpr fun s hs => ?_
    have hmem : s.connection ∈ b.stops.map (·.connection) := List.mem_map_of_mem hs
    rw [hstopped, List.mem_range] at hmem
    simpa using Nat.lt_of_lt_of_le hmem (Nat.sub_le _ _)
  teardowns := ⟨b.teardowns, rfl, (List.append_nil _).symm⟩

/-! ## Looking things up -/

theorem beq_shift (k l n : Nat) : (k + n == l + n) = (k == l) := by
  rw [Bool.eq_iff_iff, beq_iff_eq, beq_iff_eq]
  exact Nat.add_right_cancel_iff

/-- Looking for something that a filter keeps. -/
theorem find?_filter_of_imp {α : Type} {l : List α} {p q : α → Bool}
    (h : ∀ x, q x = true → p x = true) : (l.filter p).find? q = l.find? q := by
  rw [List.find?_filter]
  congr 1
  funext x
  cases hq : q x with
  | false => simp
  | true => simp [h x hq]

/-- The watcher of a connection that is not from before. -/
theorem Renewed.find_watcher (h : Renewed n m b f) (k : Nat) :
    b.watchers.find? (fun w => w.connection == k + n)
      = (f.watchers.find? fun w => w.connection == k).map (Watcher.shift n) := by
  have hmap : (f.watchers.map (Watcher.shift n)).find? (fun w => w.connection == k + n)
      = (f.watchers.find? fun w => w.connection == k).map (Watcher.shift n) := by
    rw [List.find?_map]
    congr 2
    funext w
    exact beq_shift _ _ _
  rw [← hmap, ← h.watchers, find?_filter_of_imp]
  intro w hw
  rw [beq_iff_eq] at hw
  rw [decide_eq_true_eq, hw]
  exact Nat.le_add_left _ _

/-- The stop of a connection that is not from before, as long as it goes on. -/
theorem Renewed.find_stop (h : Renewed n m b f) (k : Nat) :
    b.stops.find? (fun s => s.connection == k + n && s.outcome.isNone)
      = (f.stops.find? fun s => s.connection == k && s.outcome.isNone).map (Stop.shift n) := by
  have hmap : (f.stops.map (Stop.shift n)).find?
        (fun s => s.connection == k + n && s.outcome.isNone)
      = (f.stops.find? fun s => s.connection == k && s.outcome.isNone).map (Stop.shift n) := by
    rw [List.find?_map]
    congr 2
    funext s
    exact congrArg (· && s.outcome.isNone) (beq_shift _ _ _)
  rw [← hmap, ← h.stops, find?_filter_of_imp]
  intro s hs
  rw [Bool.and_eq_true, beq_iff_eq] at hs
  rw [decide_eq_true_eq, hs.1]
  exact Nat.le_add_left _ _

/-- How the stop of a connection that is not from before ended. -/
theorem Renewed.findSome_stop (h : Renewed n m b f) (k : Nat) :
    (b.stops.findSome? fun s => if s.connection == k + n then s.outcome else none)
      = f.stops.findSome? fun s => if s.connection == k then s.outcome else none := by
  have hold : ∀ stops : List Stop,
      (stops.filter fun s => decide (n ≤ s.connection)).findSome?
          (fun s => if s.connection == k + n then s.outcome else none)
        = stops.findSome? fun s => if s.connection == k + n then s.outcome else none := by
    intro stops
    induction stops with
    | nil => rfl
    | cons s rest ih =>
        by_cases hs : n ≤ s.connection
        · rw [List.filter_cons_of_pos (by simpa using hs), List.findSome?_cons,
            List.findSome?_cons, ih]
        · have hne : ¬ s.connection = k + n := by omega
          rw [List.filter_cons_of_neg (by simpa using hs), ih, List.findSome?_cons]
          simp [hne]
  rw [← hold, h.stops, List.findSome?_map]
  congr 1
  funext s
  show (if (s.connection + n == k + n) = true then s.outcome else none) = _
  rw [beq_shift]

/-- A teardown that is not from before. -/
theorem Renewed.teardown (h : Renewed n m b f) (t : Nat) :
    b.teardowns[t + m]? = f.teardowns[t]?.map (Teardown.shift n) := by
  obtain ⟨old, rfl, heq⟩ := h.teardowns
  rw [heq, List.getElem?_append_right (Nat.le_add_left _ _), Nat.add_sub_cancel,
    List.getElem?_map]

theorem Renewed.length (h : Renewed n m b f) : b.teardowns.length = f.teardowns.length + m := by
  obtain ⟨old, rfl, heq⟩ := h.teardowns
  rw [heq, List.length_append, List.length_map, Nat.add_comm]

theorem Renewed.isComplete (h : Renewed n m b f) (t : Nat) :
    b.isComplete (t + m) = f.isComplete t := by
  rw [Bridge.isComplete, Bridge.isComplete, h.teardown]
  cases f.teardowns[t]? with
  | none => rfl
  | some x => cases x <;> rfl

/-- Both bridges set the same teardown. -/
theorem Renewed.set (h : Renewed n m b f) (t : Nat) {x : Teardown}
    (hx : x.shift n = x) :
    Renewed n m { b with teardowns := b.teardowns.set (t + m) x }
      { f with teardowns := f.teardowns.set t x } := by
  refine { h with teardowns := ?_ }
  obtain ⟨old, rfl, heq⟩ := h.teardowns
  refine ⟨old, rfl, ?_⟩
  show b.teardowns.set _ x = old ++ (f.teardowns.set t x).map _
  rw [heq, List.set_append_right _ _ (Nat.le_add_left _ _), Nat.add_sub_cancel, List.map_set, hx]

/-! ## What is from before -/

/-- A teardown from before does not count. -/
theorem Renewed.set_old (h : Renewed n m b f) {t : Nat} (ht : t < m) (x : Teardown) :
    Renewed n m { b with teardowns := b.teardowns.set t x } f := by
  refine { h with teardowns := ?_ }
  obtain ⟨old, rfl, heq⟩ := h.teardowns
  refine ⟨old.set t x, List.length_set .., ?_⟩
  show b.teardowns.set t x = _
  rw [heq, List.set_append_left _ _ ht]

/-- Writing an outcome down for a connection from before. -/
theorem filter_record {k : Nat} (hk : k < n) (stops : List Stop) (outcome : Outcome) :
    (stops.map fun s => if s.connection == k then { s with outcome := some outcome } else s).filter
        (fun s => decide (n ≤ s.connection))
      = stops.filter fun s => decide (n ≤ s.connection) := by
  induction stops with
  | nil => rfl
  | cons s rest ih =>
      rw [List.map_cons]
      by_cases hs : s.connection = k
      · have hold : ¬ n ≤ s.connection := by omega
        rw [if_pos (by simpa using hs), List.filter_cons_of_neg (by simpa using hold),
          List.filter_cons_of_neg (by simpa using hold), ih]
      · rw [if_neg (by simpa using hs), List.filter_cons, List.filter_cons, ih]

/-- The end of a start changes the watchers in one way only. -/
theorem watchers_startEnded (b : Bridge) (connection : Nat) (outcome : Outcome)
    (sink : SinkReaction) :
    (b.startEnded connection outcome sink).1.watchers = (b.unwatch connection).watchers := by
  cases hfind : b.watchers.find? (fun w => w.connection == connection) with
  | none =>
      have hstep : b.startEnded connection outcome sink = (b, []) := by
        unfold startEnded
        rw [hfind]
      rw [hstep]
      refine (List.filter_eq_self.mpr fun w hw => ?_).symm
      have hne := List.find?_eq_none.mp hfind w hw
      simpa using hne
  | some w =>
      rcases startEnded_found hfind outcome sink with ⟨failure, -, hstep⟩ | ⟨-, hstep⟩
      · rw [hstep, settle]
        split
        · obtain ⟨state, broken, -, heq⟩ := (b.unwatch connection).announceStart_fst w failure sink
          rw [heq]
        · rfl
      · rw [hstep]

/-- What is from before does not touch what the bridges agree on, and nobody outside notices it. -/
theorem Renewed.stale (h : Renewed n m b f) (hb : b.Sound) (hf : f.Sound) {input : BridgeInput}
    (hstale : input.isStale n m = true) :
    Renewed n m (b.step input).1 f ∧ outward (b.step input).2.2 = [] := by
  cases input with
  | startEnded k outcome sink =>
      have hk : k < n := by simpa [BridgeInput.isStale] using hstale
      have hother : ∀ w, b.awaited = some w → w.connection ≠ k := by
        -- What is awaited is the start of the session that is held, and that one is new.
        intro w hw hconn
        obtain ⟨hstate, hnew, -⟩ := awaited_some hw
        obtain ⟨s, hs⟩ : ∃ s, f.session = some s := by
          rw [← Option.ne_none_iff_exists', ne_eq, ← hf.idle_iff, ← h.state, hstate]
          exact nofun
        have hfresh := hf.newest s hs
        rw [h.created] at hnew
        omega
      obtain ⟨⟨watchers, heq⟩, hquiet, -⟩ := startEnded_other hb k hother outcome sink
      have hwatchers := b.watchers_startEnded k outcome sink
      refine ⟨?_, hquiet.outward⟩
      show Renewed n m (b.startEnded k outcome sink).1 f
      rw [heq] at hwatchers ⊢
      refine { h with watchers := Eq.trans ?_ h.watchers }
      show watchers.filter _ = _
      rw [show watchers = (b.unwatch k).watchers from hwatchers, unwatch, List.filter_filter]
      refine List.filter_congr fun w _ => ?_
      by_cases hw : n ≤ w.connection
      · have hne : w.connection ≠ k := by omega
        simp [hw, hne]
      · simp [hw]
  | stopEnded k outcome =>
      have hk : k < n := by simpa [BridgeInput.isStale] using hstale
      have hquiet : outward (b.stopEnded k outcome).2 = [] := by
        unfold stopEnded
        split
        · rfl
        · cases outcome <;> rfl
      refine ⟨?_, hquiet⟩
      show Renewed n m (b.stopEnded k outcome).1 f
      rcases b.stopEnded_cases k outcome with ⟨heq, -⟩ | ⟨-, heq⟩
      · rw [heq]
        exact h
      · rw [heq]
        refine { h with stops := Eq.trans ?_ h.stops }
        exact filter_record hk b.stops outcome
  | poll t =>
      have ht : t < m := by simpa [BridgeInput.isStale] using hstale
      refine ⟨?_, rfl⟩
      show Renewed n m (b.poll t).1 f
      unfold poll
      split
      case h_4 =>
        split
        · exact h
        · exact h.set_old ht .complete
      all_goals exact h
  | dropTeardown t =>
      have ht : t < m := by simpa [BridgeInput.isStale] using hstale
      exact ⟨h.set_old ht .dropped, rfl⟩
  | activate launch scope announced => cases hstale
  | deactivate => cases hstale
  | forward event outcome => cases hstale

/-! ## What is not from before -/

theorem Renewed.engage (h : Renewed n m b f) (launch : Launch) (scope : Scope) (watch : GlobUnion) :
    Renewed n m (b.engage launch scope watch) (f.engage launch scope watch) where
  state := rfl
  epoch := by
    show b.epoch + 1 = f.epoch + 1 + n
    rw [h.epoch, Nat.add_right_comm]
  session := by
    show some _ = some _
    rw [h.created]
    rfl
  created := by
    show b.created + 1 = f.created + 1 + n
    rw [h.created, Nat.add_right_comm]
  watchers := by
    show (b.watchers ++ [_]).filter _ = (f.watchers ++ [_]).map _
    rw [List.filter_append, h.watchers, List.map_append, h.created, h.epoch]
    simp [Watcher.shift, Nat.add_right_comm]
  stops := h.stops
  teardowns := h.teardowns

theorem Renewed.activate (h : Renewed n m b f) (launch : Launch) (scope : Scope)
    (announced : Bool) :
    Renewed n m (b.activate launch scope announced).1 (f.activate launch scope announced).1 ∧
      (b.activate launch scope announced).2.1 = (f.activate launch scope announced).2.1 ∧
      (b.activate launch scope announced).2.2
        = (f.activate launch scope announced).2.2.map (BridgeEffect.shift n) := by
  unfold Bridge.activate
  rw [h.session]
  cases f.session with
  | some s => exact ⟨h, congrArg (fun p => Activated.refused (.alreadyActive p)) h.state, rfl⟩
  | none =>
      rw [Option.map_none]
      cases scope.watcher with
      | error refusal => exact ⟨h, rfl, rfl⟩
      | ok watch =>
          cases announced with
          | false => exact ⟨h, rfl, rfl⟩
          | true =>
              refine ⟨h.engage launch scope watch, rfl, ?_⟩
              show b.engaging launch scope = (f.engaging launch scope).map (BridgeEffect.shift n)
              rw [engaging, engaging, h.created]
              rfl

theorem Renewed.deactivate (h : Renewed n m b f) :
    Renewed n m b.deactivate.1 f.deactivate.1 ∧
      b.deactivate.2 = f.deactivate.2.map (BridgeEffect.shift n) := by
  have hteardowns : ∀ x : Teardown, ∃ old : List Teardown, old.length = m ∧
      b.teardowns ++ [x.shift n] = old ++ (f.teardowns ++ [x]).map (Teardown.shift n) := by
    intro x
    obtain ⟨old, hlength, heq⟩ := h.teardowns
    refine ⟨old, hlength, ?_⟩
    rw [heq, List.map_append, List.append_assoc]
    rfl
  unfold Bridge.deactivate
  rw [h.session]
  cases f.session with
  | none => exact ⟨{ h with session := rfl, teardowns := hteardowns .complete }, rfl⟩
  | some s =>
      rw [Option.map_some, h.state]
      refine ⟨{ h with
        state := rfl
        session := rfl
        stops := ?_
        teardowns := hteardowns (.waiting s.connection) }, rfl⟩
      show (b.stops ++ [_]).filter _ = (f.stops ++ [_]).map _
      rw [List.filter_append, h.stops, List.map_append]
      simp [Session.shift, Stop.shift]

theorem Renewed.forward (h : Renewed n m b f) (event : EditorEvent) (outcome : NotifyOutcome) :
    Renewed n m (b.forward event outcome).1 (f.forward event outcome).1 ∧
      (b.forward event outcome).2.1 = (f.forward event outcome).2.1 ∧
      (b.forward event outcome).2.2
        = (f.forward event outcome).2.2.map (BridgeEffect.shift n) := by
  have hnarrow : ∀ s : Session, (s.shift n).narrow event = s.narrow event := by
    intro s
    cases event <;> rfl
  unfold Bridge.forward
  rw [h.state, h.session]
  cases f.state with
  | ready =>
      cases hs : f.session with
      | none => exact ⟨h, rfl, rfl⟩
      | some s =>
          rw [Option.map_some]
          simp only [hnarrow]
          cases s.narrow event with
          | error delivery => exact ⟨h, rfl, rfl⟩
          | ok kept =>
              cases outcome with
              | delivered =>
                  refine ⟨{ h with session := ?_ }, rfl, rfl⟩
                  show some ((s.shift n).track kept) = some ((s.track kept).shift n)
                  cases kept <;> rfl
              | failed failure => exact ⟨h, rfl, rfl⟩
              | lost => exact ⟨h, rfl, rfl⟩
  | idle => exact ⟨h, rfl, rfl⟩
  | starting => exact ⟨h, rfl, rfl⟩
  | failed reason => exact ⟨h, rfl, rfl⟩

theorem Renewed.unwatch (h : Renewed n m b f) (k : Nat) :
    Renewed n m (b.unwatch (k + n)) (f.unwatch k) := by
  refine { h with watchers := ?_ }
  calc
    (b.watchers.filter fun w => w.connection != k + n).filter (fun w => decide (n ≤ w.connection))
      = (b.watchers.filter fun w => decide (n ≤ w.connection)).filter
          fun w => w.connection != k + n := by
      rw [List.filter_filter, List.filter_filter]
      exact List.filter_congr fun w _ => Bool.and_comm _ _
    _ = (f.watchers.map (Watcher.shift n)).filter fun w => w.connection != k + n := by
      rw [h.watchers]
    _ = (f.watchers.filter fun w => w.connection != k).map (Watcher.shift n) := by
      rw [List.filter_map]
      congr 2
      funext w
      exact congrArg (! ·) (beq_shift _ _ _)

theorem Renewed.announceStart (h : Renewed n m b f) (w : Watcher)
    (failure : Option ConnectionFailure) (sink : SinkReaction) :
    Renewed n m (b.announceStart (w.shift n) failure sink).1 (f.announceStart w failure sink).1 ∧
      (b.announceStart (w.shift n) failure sink).2
        = (f.announceStart w failure sink).2.map (BridgeEffect.shift n) := by
  cases failure with
  | none =>
      by_cases hm : sink.takesMessage = true
      · simp only [Bridge.announceStart, hm, if_true]
        exact ⟨{ h with state := rfl }, rfl⟩
      · simp only [Bridge.announceStart, hm]
        exact ⟨{ h with }, rfl⟩
  | some failure =>
      by_cases hm : sink.takesMessage = true
      · by_cases hr : sink.takesRecord = true
        · simp only [Bridge.announceStart, hm, hr, Bool.not_true, Bool.false_eq_true, if_false]
          exact ⟨{ h with state := rfl }, rfl⟩
        · simp only [Bridge.announceStart, hm, hr, Bool.not_true, Bool.not_false,
            Bool.false_eq_true, if_false, if_true]
          exact ⟨{ h with }, rfl⟩
      · simp only [Bridge.announceStart, hm, Bool.not_false, if_true]
        exact ⟨{ h with }, rfl⟩

theorem Renewed.settle (h : Renewed n m b f) (w : Watcher)
    (failure : Option ConnectionFailure) (sink : SinkReaction) :
    Renewed n m (b.settle (w.shift n) failure sink).1 (f.settle w failure sink).1 ∧
      (b.settle (w.shift n) failure sink).2
        = (f.settle w failure sink).2.map (BridgeEffect.shift n) := by
  have hcurrent : b.isCurrent (w.shift n) = f.isCurrent w := by
    rw [isCurrent, isCurrent, h.epoch, h.state]
    exact congrArg (· && _) (beq_shift _ _ _)
  unfold Bridge.settle
  rw [hcurrent]
  split
  · exact h.announceStart w failure sink
  · exact ⟨h, rfl⟩

theorem Renewed.startEnded (h : Renewed n m b f) (k : Nat) (outcome : Outcome)
    (sink : SinkReaction) :
    Renewed n m (b.startEnded (k + n) outcome sink).1 (f.startEnded k outcome sink).1 ∧
      (b.startEnded (k + n) outcome sink).2
        = (f.startEnded k outcome sink).2.map (BridgeEffect.shift n) := by
  unfold Bridge.startEnded
  rw [h.find_watcher]
  cases f.watchers.find? fun w => w.connection == k with
  | none => exact ⟨h, rfl⟩
  | some w =>
      cases outcome with
      | ok => exact (h.unwatch k).settle w none sink
      | failed failure => exact (h.unwatch k).settle w (some failure) sink
      | panicked message => exact ⟨h.unwatch k, rfl⟩

/-- Both bridges write an outcome down for the same connection. -/
theorem Renewed.record (h : Renewed n m b f) (k : Nat) (outcome : Outcome) :
    (b.stops.map fun s =>
        if s.connection == k + n then { s with outcome := some outcome } else s).filter
        (fun s => decide (n ≤ s.connection))
      = (f.stops.map fun s =>
          if s.connection == k then { s with outcome := some outcome } else s).map
        (Stop.shift n) := by
  -- Writing an outcome down keeps the connection, so it does not matter when the old ones go.
  have hkeep : ∀ s : Stop, (if s.connection == k + n then { s with outcome := some outcome }
      else s).connection = s.connection := by
    intro s
    split <;> rfl
  rw [List.filter_map]
  simp only [Function.comp_def, hkeep]
  rw [h.stops, List.map_map, List.map_map]
  refine List.map_congr_left fun s _ => ?_
  show (if (s.connection + n == k + n) = true then _ else _) = Stop.shift n (if _ then _ else _)
  rw [beq_shift]
  split <;> rfl

theorem Renewed.stopEnded (h : Renewed n m b f) (k : Nat) (outcome : Outcome) :
    Renewed n m (b.stopEnded (k + n) outcome).1 (f.stopEnded k outcome).1 ∧
      (b.stopEnded (k + n) outcome).2
        = (f.stopEnded k outcome).2.map (BridgeEffect.shift n) := by
  unfold Bridge.stopEnded
  rw [h.find_stop]
  cases f.stops.find? fun s => s.connection == k && s.outcome.isNone with
  | none => exact ⟨h, rfl⟩
  | some s =>
      refine ⟨{ h with stops := ?_ }, ?_⟩
      · exact h.record k outcome
      · cases outcome <;> rfl

theorem Renewed.poll (h : Renewed n m b f) (t : Nat) :
    Renewed n m (b.poll (t + m)).1 (f.poll t).1 ∧ (b.poll (t + m)).2 = (f.poll t).2 := by
  unfold Bridge.poll
  rw [h.teardown]
  cases f.teardowns[t]? with
  | none => exact ⟨h, rfl⟩
  | some x =>
      cases x with
      | complete => exact ⟨h, rfl⟩
      | dropped => exact ⟨h, rfl⟩
      | waiting k =>
          simp only [Option.map_some, Teardown.shift, h.findSome_stop]
          cases f.stops.findSome? fun s => if s.connection == k then s.outcome else none with
          | none => exact ⟨h, rfl⟩
          | some outcome => exact ⟨h.set t rfl, rfl⟩

/-- A step that is not about the time from before is the step of the new bridge. -/
theorem Renewed.step (h : Renewed n m b f) (input : BridgeInput) :
    Renewed n m (b.step (input.shift n m)).1 (f.step input).1 ∧
      (b.step (input.shift n m)).2.1 = (f.step input).2.1.shift m ∧
      (b.step (input.shift n m)).2.2 = (f.step input).2.2.map (BridgeEffect.shift n) := by
  cases input with
  | activate launch scope announced =>
      obtain ⟨hnext, hresult, heffects⟩ := h.activate launch scope announced
      exact ⟨hnext, congrArg BridgeReply.activated hresult, heffects⟩
  | deactivate =>
      obtain ⟨hnext, heffects⟩ := h.deactivate
      refine ⟨hnext, ?_, heffects⟩
      show BridgeReply.deactivated b.teardowns.length (b.deactivate.1.isComplete b.teardowns.length)
        = .deactivated (f.teardowns.length + m) (f.deactivate.1.isComplete f.teardowns.length)
      rw [h.length, hnext.isComplete]
  | forward event outcome =>
      obtain ⟨hnext, hresult, heffects⟩ := h.forward event outcome
      exact ⟨hnext, congrArg BridgeReply.forwarded hresult, heffects⟩
  | startEnded k outcome sink =>
      obtain ⟨hnext, heffects⟩ := h.startEnded k outcome sink
      exact ⟨hnext, rfl, heffects⟩
  | stopEnded k outcome =>
      obtain ⟨hnext, heffects⟩ := h.stopEnded k outcome
      exact ⟨hnext, rfl, heffects⟩
  | poll t =>
      obtain ⟨hnext, hresult⟩ := h.poll t
      refine ⟨hnext, ?_, rfl⟩
      show BridgeReply.polled (b.poll (t + m)).2 ((b.poll (t + m)).1.isComplete (t + m))
        = .polled (f.poll t).2 ((f.poll t).1.isComplete t)
      rw [hresult, hnext.isComplete]
  | dropTeardown t => exact ⟨h.set t rfl, rfl, rfl⟩

/-! ## Runs -/

/-- What a new bridge is given instead: the inputs that are not about the time from before, numbered
back. -/
def renew (n m : Nat) (inputs : List BridgeInput) : List BridgeInput :=
  (inputs.filter fun input => !input.isStale n m).map (BridgeInput.unshift n m)

/-- What the callers see of the inputs that are not about the time from before. -/
def recent (n m : Nat) (h : History) : History := h.filter fun entry => !entry.1.isStale n m

theorem Renewed.run (h : Renewed n m b f) (hb : b.Sound) (hf : f.Sound)
    (inputs : List BridgeInput) :
    Renewed n m (b.run inputs).1 (f.run (renew n m inputs)).1 ∧
      recent n m (b.history inputs)
        = (f.history (renew n m inputs)).map (fun entry => (entry.1.shift n m, entry.2.shift m)) ∧
      outward (b.does inputs)
        = (outward (f.does (renew n m inputs))).map (BridgeEffect.shift n) := by
  induction inputs generalizing b f with
  | nil => exact ⟨h, rfl, rfl⟩
  | cons input rest ih =>
      rw [run_cons, history_cons, does_cons, outward_append]
      cases hstale : input.isStale n m with
      | true =>
          obtain ⟨hnext, hquiet⟩ := h.stale hb hf hstale
          obtain ⟨hrun, hhistory, hdoes⟩ := ih hnext (hb.step input) hf
          have hrenew : renew n m (input :: rest) = renew n m rest := by
            rw [renew, List.filter_cons_of_neg (by simp [hstale])]
            rfl
          rw [hrenew, hquiet, recent, List.filter_cons_of_neg (by simp [hstale])]
          exact ⟨hrun, hhistory, hdoes⟩
      | false =>
          have hshift := BridgeInput.shift_unshift hstale
          have hrenew : renew n m (input :: rest) = input.unshift n m :: renew n m rest := by
            rw [renew, List.filter_cons_of_pos (by simp [hstale])]
            rfl
          obtain ⟨hnext, hreply, heffects⟩ := h.step (input.unshift n m)
          rw [hshift] at hnext hreply heffects
          obtain ⟨hrun, hhistory, hdoes⟩ := ih hnext (hb.step input) (hf.step _)
          rw [hrenew, run_cons, history_cons, does_cons, outward_append, recent,
            List.filter_cons_of_pos (by simp [hstale]), List.map_cons, List.map_append, hshift,
            hreply, heffects, outward_shift, hdoes]
          exact ⟨hrun, congrArg _ hhistory, rfl⟩

/-- **A bridge without a session is as good as new.** Take a bridge that holds no session after any
run, and let the run go on. What is from before can only end a start or a stop that was under way,
or use a teardown that was handed out. The callers of everything else get the replies that they
would get from a new bridge, and the user, the observers and the connections notice the same
things in the same order; the numbers of connections and teardowns go on where they were. -/
theorem as_good_as_new (before inputs : List BridgeInput) (hnone : (after before).session = none) :
    let b := after before
    let n := b.created
    let m := b.teardowns.length
    let f := after (renew n m inputs)
    recent n m (b.history inputs) = (idle.history (renew n m inputs)).map
        (fun entry => (entry.1.shift n m, entry.2.shift m)) ∧
      outward (b.does inputs)
        = (outward (effects (renew n m inputs))).map (BridgeEffect.shift n) ∧
      (b.run inputs).1.state = f.state ∧ (b.run inputs).1.launch? = f.launch? ∧
      (b.run inputs).1.scope? = f.scope? := by
  intro b n m f
  have hb : b.Sound := Sound.after before
  have hstopped : b.Stopped := Stopped.idle.run Sound.idle before
  have hstart : Renewed n m b idle := Renewed.start hb hstopped hnone
  obtain ⟨hrun, hhistory, hdoes⟩ := hstart.run hb Sound.idle inputs
  refine ⟨hhistory, hdoes, hrun.state, ?_, ?_⟩
  · rw [launch?, hrun.session, Option.map_map]
    rfl
  · rw [scope?, hrun.session, Option.map_map]
    rfl

/-- A run in which a first start is given up, the user's side breaks off on the success of a second
one, and the bridge is deactivated. -/
def troubled : List BridgeInput :=
  [.activate ⟨"ti-lsp", [], []⟩ ⟨[], []⟩ true, .deactivate,
    .activate ⟨"ti", [], []⟩ ⟨[], []⟩ true, .startEnded 1 .ok ⟨false, true⟩, .deactivate]

/-- A run that goes on from there. The success of the first start and the failure of the second
stop arrive during a third session. -/
def resumed : List BridgeInput :=
  [.activate ⟨"ti", [], []⟩ ⟨[], []⟩ true, .startEnded 0 .ok .willing,
    .stopEnded 1 (.failed (.transport "broken pipe")), .poll 1, .startEnded 2 .ok .willing,
    .deactivate, .poll 2]

/-- The troubled bridge does for its third session what a new one does for its first. -/
theorem resumed_as_new :
    (after troubled).session = none ∧
      outward ((after troubled).does resumed)
        = [.status (.message ⟨.info, "Starting server at ti"⟩), .create 2 ⟨"ti", [], []⟩ ⟨[], []⟩,
          .publish .starting, .start 2, .status (.message ⟨.info, "Server started successfully"⟩),
          .publish .ready, .publish .idle, .stop 2] := by
  have hnone : (after troubled).session = none := rfl
  exact ⟨hnone, (as_good_as_new troubled resumed hnone).2.1⟩

end Bridge
end LanguageBridge
