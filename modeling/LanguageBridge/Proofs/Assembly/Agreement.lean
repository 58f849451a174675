import LanguageBridge.Assembly
import LanguageBridge.Proofs.Bridge.Teardowns
import LanguageBridge.Proofs.Connection.Failures

set_option autoImplicit false

/-! # A bridge and its connections agree

The bridge and its connections keep their states apart, and the bridge hears late how a start or a
stop has ended. They agree all the same (`Agrees`): nobody has stopped the connection that is held,
and where the bridge is ready or has failed, the one start of that connection has ended so. Every
step of an assembly keeps this up (`Agrees.step`).

So a ready bridge holds a running server, and what the bridge reports are genuine failures: that a
start was given up, came twice or came too late, or that an event came to a connection that is not
running, is never seen outside.
-/

namespace LanguageBridge.Assembly

variable {a : Assembly}

/-! ## Agreement -/

/-- What the state of a bridge says about the start of the connection that is held. -/
def Reflects : BridgeState → StartStage → Prop
  | .ready, stage => stage = .ended none
  | .failed reason, stage => ∃ f, stage = .ended (some f) ∧ f.message = reason
  | _, _ => True

/-- A bridge and its connections agree. -/
structure Agrees (a : Assembly) : Prop where
  sound : a.bridge.Sound
  count : a.connections.length = a.bridge.created
  held : ∀ s, a.bridge.session = some s → ∃ c stage, a.connections[s.connection]? = some c ∧
    c.Undisturbed stage ∧ Reflects a.bridge.state stage
  honest : ∀ (k : Nat) (c : Connection), a.connections[k]? = some c → c.HonestStops
  ended : ∀ s ∈ a.bridge.stops, ∀ f, s.outcome = some (.failed f) → f.Genuine

theorem Agrees.idle (config : ConnectionConfig) : (idle config).Agrees where
  sound := Bridge.Sound.idle
  count := rfl
  held := fun _ hs => nomatch hs
  honest := fun _ _ hk => nomatch hk
  ended := fun _ hs => nomatch hs

/-- The start of a connection stays where it has ended. -/
theorem Reflects.step {state : BridgeState} {c : Connection} {stage new : StartStage}
    (h : Reflects state stage) {input : ConnectionInput} (hold : c.Undisturbed stage)
    (hnew : (c.step input).1.Undisturbed new) : Reflects state new := by
  have hfinal : ∀ result, stage = .ended result → new = .ended result := by
    intro result hstage
    exact hnew.startResult?_eq.mp
      (Connection.startResult?_step (hold.startResult?_eq.mpr hstage) input)
  cases state with
  | idle => trivial
  | starting => trivial
  | ready => exact hfinal none h
  | failed reason =>
      obtain ⟨f, hstage, hmessage⟩ := h
      exact ⟨f, hfinal (some f) hstage, hmessage⟩

/-! ## Steps of a connection -/

theorem onConnection_bridge (a : Assembly) (k : Nat) (input : ConnectionInput) :
    (a.onConnection k input).1.bridge = a.bridge := by
  unfold onConnection
  split <;> rfl

/-- The connections after a step of one of them. -/
theorem onConnection_connections (a : Assembly) (k : Nat) (input : ConnectionInput) (j : Nat) :
    (a.onConnection k input).1.connections[j]?
      = (a.connections[j]?).map fun c => if j = k then (c.step input).1 else c := by
  unfold onConnection
  cases hk : a.connections[k]? with
  | none =>
      show a.connections[j]? = _
      by_cases hj : j = k
      · rw [hj, hk]
        rfl
      · simp [hj]
  | some c =>
      show (a.connections.set k (c.step input).1)[j]? = _
      by_cases hj : j = k
      · subst hj
        rw [List.getElem?_set_self (List.getElem?_eq_some_iff.mp hk).1, hk]
        simp
      · rw [List.getElem?_set_ne (Ne.symm hj)]
        simp [hj]

theorem onConnection_length (a : Assembly) (k : Nat) (input : ConnectionInput) :
    (a.onConnection k input).1.connections.length = a.connections.length := by
  unfold onConnection
  split
  · rfl
  · exact List.length_set ..

/-- The stops of all connections are honest after a step of one of them. -/
theorem honest_onConnection (h : ∀ (k : Nat) (c : Connection), a.connections[k]? = some c →
      c.HonestStops) (k : Nat) (input : ConnectionInput) (j : Nat) (c : Connection)
    (hc : (a.onConnection k input).1.connections[j]? = some c) : c.HonestStops := by
  rw [onConnection_connections] at hc
  obtain ⟨old, hold, rfl⟩ := Option.map_eq_some_iff.mp hc
  split
  · exact (h j old hold).step input
  · exact h j old hold

/-- A connection goes on, or takes an event. -/
theorem Agrees.onConnection (h : a.Agrees) (k : Nat) {input : ConnectionInput}
    (hinput : input.Undisturbing) : (a.onConnection k input).1.Agrees where
  sound := by
    rw [onConnection_bridge]
    exact h.sound
  count := by
    rw [onConnection_bridge, onConnection_length]
    exact h.count
  held := by
    rw [onConnection_bridge]
    intro s hs
    obtain ⟨c, stage, hc, hundisturbed, hreflects⟩ := h.held s hs
    rw [onConnection_connections, hc]
    by_cases hk : s.connection = k
    · obtain ⟨new, hnew⟩ := hundisturbed.step hinput
      exact ⟨_, new, by rw [Option.map_some, if_pos hk], hnew, hreflects.step hundisturbed hnew⟩
    · exact ⟨c, stage, by rw [Option.map_some, if_neg hk], hundisturbed, hreflects⟩
  honest := honest_onConnection h.honest k input
  ended := by
    rw [onConnection_bridge]
    exact h.ended

/-! ## Steps of the bridge -/

/-- What the bridge is told fits what has become of its connections. -/
def Fitting (a : Assembly) : BridgeInput → Prop
  | .startEnded k outcome _ => ∃ c result, a.connections[k]? = some c ∧
      c.startResult? 0 = some result ∧ outcome = outcomeOf result
  | .stopEnded _ outcome => ∀ f, outcome = .failed f → f.Genuine
  | .forward _ outcome => ∀ f, outcome = .failed f → f.Genuine
  | _ => True

/-- The bridge takes a step that leaves what it holds. -/
theorem Agrees.withBridge (h : a.Agrees) {b : Bridge} (hsound : b.Sound)
    (hcreated : b.created = a.bridge.created)
    (hsession : b.session.map Session.connection = a.bridge.session.map Session.connection)
    (hstate : ∀ s c stage, a.bridge.session = some s → a.connections[s.connection]? = some c →
      c.Undisturbed stage → Reflects a.bridge.state stage → Reflects b.state stage)
    (hended : ∀ s ∈ b.stops, ∀ f, s.outcome = some (.failed f) → f.Genuine) :
    Agrees { a with bridge := b } where
  sound := hsound
  count := h.count.trans hcreated.symm
  held := by
    intro s hs
    rw [show b.session = some s from hs] at hsession
    obtain ⟨old, hold, hconn⟩ := Option.map_eq_some_iff.mp hsession.symm
    obtain ⟨c, stage, hc, hundisturbed, hreflects⟩ := h.held old hold
    refine ⟨c, stage, ?_, hundisturbed, hstate old c stage hold hc hundisturbed hreflects⟩
    rw [← hconn]
    exact hc
  honest := h.honest
  ended := hended

/-- The start that the bridge waits for is that of the connection that is held. -/
theorem Agrees.awaited (h : a.Agrees) {w : Watcher} (hw : a.bridge.awaited = some w) :
    ∃ s c stage, a.bridge.session = some s ∧ s.connection = w.connection ∧
      a.connections[w.connection]? = some c ∧ c.Undisturbed stage := by
  obtain ⟨hstate, hnew, -⟩ := Bridge.awaited_some hw
  obtain ⟨s, hs⟩ : ∃ s, a.bridge.session = some s := by
    rw [← Option.ne_none_iff_exists', ne_eq, ← h.sound.idle_iff, hstate]
    exact nofun
  have hnewest := h.sound.newest s hs
  have hconn : s.connection = w.connection := by omega
  obtain ⟨c, stage, hc, hundisturbed, -⟩ := h.held s hs
  exact ⟨s, c, stage, hs, hconn, hconn ▸ hc, hundisturbed⟩

/-- The outcome of a start is what the bridge then shows. -/
theorem reflects_outcome (result : Option ConnectionFailure) :
    Reflects (Bridge.stateAfter (some (outcomeOf result))) (.ended result) := by
  cases result with
  | none => rfl
  | some f => exact ⟨f, rfl, rfl⟩

theorem Agrees.startEnded (h : a.Agrees) {k : Nat} {outcome : Outcome} {sink : SinkReaction}
    (hfit : a.Fitting (.startEnded k outcome sink)) :
    Agrees { a with bridge := (a.bridge.startEnded k outcome sink).1 } := by
  have hsound := h.sound.startEnded k outcome sink
  rcases Bridge.startEnded_cases h.sound k outcome sink with
    ⟨w, hw, rfl⟩ | ⟨-, ⟨watchers, heq⟩, -, -⟩
  case inl =>
    obtain ⟨state, broken, watchers, heq⟩ := a.bridge.startEnded_fst w.connection outcome sink
    refine h.withBridge hsound ?_ ?_ ?_ ?_
    · rw [heq]
    · rw [heq]
    · intro s c stage hs hc hundisturbed hreflects
      rcases Bridge.state_startEnded_awaited h.sound hw outcome sink with hstate | ⟨-, hstate⟩
      · obtain ⟨t, -, -, ht, hconn, -⟩ := h.awaited hw
        obtain rfl : s = t := Option.some.inj (hs.symm.trans ht)
        obtain ⟨found, result, hfound, hresult, rfl⟩ := hfit
        obtain rfl : found = c := by
          rw [← hconn, hc] at hfound
          exact (Option.some.inj hfound).symm
        rw [hundisturbed.startResult?_eq] at hresult
        rw [hstate, hresult]
        exact reflects_outcome result
      · rw [hstate]
        trivial
    · rw [heq]
      exact h.ended
  case inr =>
    rw [heq] at hsound ⊢
    exact h.withBridge hsound rfl rfl (fun _ _ _ _ _ _ hreflects => hreflects) h.ended

theorem Agrees.stopEnded (h : a.Agrees) {k : Nat} {outcome : Outcome}
    (hfit : a.Fitting (.stopEnded k outcome)) :
    Agrees { a with bridge := (a.bridge.stopEnded k outcome).1 } := by
  have hsound := h.sound.stopEnded k outcome
  rcases a.bridge.stopEnded_cases k outcome with ⟨heq, -⟩ | ⟨-, heq⟩
  · rw [heq]
    exact h
  · rw [heq] at hsound ⊢
    refine h.withBridge hsound rfl rfl (fun _ _ _ _ _ _ hreflects => hreflects) ?_
    intro s hs f hf
    obtain ⟨old, hold, rfl⟩ := List.mem_map.mp hs
    split at hf
    · cases hf
      exact hfit f rfl
    · exact h.ended old hold f hf

/-- A step of the bridge that neither takes up nor leaves a session. -/
theorem Agrees.stay (h : a.Agrees) {input : BridgeInput} (hfit : a.Fitting input)
    (hact : Bridge.activation? (input, (a.bridge.step input).2.1) = none)
    (hleave : input = .deactivate → a.bridge.session = none) :
    Agrees { a with bridge := (a.bridge.step input).1 } := by
  have hsound := h.sound.step input
  have hsame : ∀ s c stage, a.bridge.session = some s → a.connections[s.connection]? = some c →
      c.Undisturbed stage → Reflects a.bridge.state stage → Reflects a.bridge.state stage :=
    fun _ _ _ _ _ _ hreflects => hreflects
  cases input with
  | activate launch scope announced =>
      rw [(Bridge.step_of_no_activation hact).1]
      exact h
  | deactivate =>
      have hstep : a.bridge.deactivate.1
          = { a.bridge with teardowns := a.bridge.teardowns ++ [.complete] } := by
        simp [Bridge.deactivate, hleave rfl]
      simp only [Bridge.step] at hsound ⊢
      rw [hstep] at hsound ⊢
      exact h.withBridge hsound rfl rfl hsame h.ended
  | forward event outcome =>
      simp only [Bridge.step] at hsound ⊢
      rcases a.bridge.forward_fst event outcome with heq | ⟨s, kept, hs, heq⟩
      · rw [heq]
        exact h
      · obtain ⟨documents, htrack⟩ := Bridge.track_eq s kept
        rw [heq] at hsound ⊢
        refine h.withBridge hsound rfl ?_ hsame h.ended
        rw [hs, htrack]
        rfl
  | startEnded k outcome sink => exact h.startEnded hfit
  | stopEnded k outcome => exact h.stopEnded hfit
  | poll teardown =>
      obtain ⟨teardowns, heq⟩ := a.bridge.poll_fst teardown
      simp only [Bridge.step] at hsound ⊢
      rw [heq] at hsound ⊢
      exact h.withBridge hsound rfl rfl hsame h.ended
  | dropTeardown teardown => exact h.withBridge hsound rfl rfl hsame h.ended

/-- Only calls are carried out. -/
theorem foldl_play_calls (a : Assembly) (effects : List BridgeEffect) :
    effects.foldl play a = (Bridge.calls effects).foldl play a := by
  induction effects generalizing a with
  | nil => rfl
  | cons e rest ih =>
      rw [List.foldl_cons, ih]
      cases e <;> rfl

/-- The bridge takes up a session with a connection that was just created and asked for its
start. -/
theorem Agrees.engage (h : a.Agrees) (launch : Launch) (scope : Scope) (watch : GlobUnion) :
    Agrees (([.create a.bridge.created launch scope, .start a.bridge.created] :
      List BridgeEffect).foldl play { a with bridge := a.bridge.engage launch scope watch }) := by
  let born : Assembly := { a with
    bridge := a.bridge.engage launch scope watch
    connections := a.connections ++ [Connection.fresh launch scope a.config] }
  have hnew : born.connections[a.bridge.created]?
      = some (Connection.fresh launch scope a.config) := by
    rw [← h.count]
    exact List.getElem?_concat_length
  show Agrees (born.onConnection a.bridge.created .start).1
  refine ⟨?_, ?_, ?_, ?_, ?_⟩
  · rw [onConnection_bridge]
    exact h.sound.engage launch scope watch
  · rw [onConnection_bridge, onConnection_length]
    show (a.connections ++ [_]).length = a.bridge.created + 1
    rw [List.length_append, h.count]
    rfl
  · rw [onConnection_bridge]
    intro s hs
    cases hs
    refine ⟨_, .created, ?_, Connection.Undisturbed.fresh launch scope a.config, trivial⟩
    rw [onConnection_connections, hnew, Option.map_some, if_pos rfl]
  · refine honest_onConnection (fun k c hc => ?_) _ _
    rw [List.getElem?_append] at hc
    split at hc
    · exact h.honest k c hc
    · rw [List.mem_singleton.mp (List.mem_of_getElem? hc)]
      exact Connection.HonestStops.fresh launch scope a.config
  · rw [onConnection_bridge]
    exact h.ended

/-- The bridge leaves its session and asks the connection to stop. -/
theorem Agrees.leave (h : a.Agrees) {s : Session} (hs : a.bridge.session = some s) :
    Agrees (([.stop s.connection] : List BridgeEffect).foldl play
      { a with bridge := a.bridge.deactivate.1 }) := by
  let left : Assembly := { a with bridge := a.bridge.deactivate.1 }
  show Agrees (left.onConnection s.connection .stop).1
  refine ⟨?_, ?_, ?_, ?_, ?_⟩
  · rw [onConnection_bridge]
    exact h.sound.deactivate
  · rw [onConnection_bridge, onConnection_length]
    refine h.count.trans ?_
    show a.bridge.created = a.bridge.deactivate.1.created
    unfold Bridge.deactivate
    split <;> rfl
  · rw [onConnection_bridge]
    intro t ht
    rw [show left.bridge.session = none from a.bridge.deactivate_session] at ht
    cases ht
  · exact honest_onConnection (a := left) h.honest _ _
  · rw [onConnection_bridge]
    intro stop hstop f hf
    have hstops : a.bridge.deactivate.1.stops
        = a.bridge.stops ++ [⟨s.connection, s.launch.command, none⟩] := by
      rw [Bridge.deactivate, hs]
    rw [show left.bridge.stops = _ from hstops] at hstop
    rcases List.mem_append.mp hstop with hold | hnew
    · exact h.ended stop hold f hf
    · rw [List.mem_singleton.mp hnew] at hf
      cases hf

/-- A step of the bridge, with what its connections are asked for. -/
theorem Agrees.onBridge (h : a.Agrees) {input : BridgeInput} (hfit : a.Fitting input) :
    (a.onBridge input).1.Agrees := by
  show Agrees ((a.bridge.step input).2.2.foldl play { a with bridge := (a.bridge.step input).1 })
  rw [foldl_play_calls]
  have hstride := a.bridge.stride input
  generalize Bridge.calls (a.bridge.step input).2.2 = called at hstride
  cases hstride with
  | engage launch scope hnone hact =>
      obtain ⟨-, watch, -, hb, -⟩ := Bridge.step_of_activation hact
      rw [hb]
      exact h.engage launch scope watch
  | leave s hs hinput =>
      subst hinput
      exact h.leave hs
  | tell s kept event outcome hs hready hinput =>
      subst hinput
      exact h.stay hfit rfl nofun
  | rest hact hinput => exact h.stay hfit hact hinput

/-! ## What is seen of failures -/

/-- The kind of a failure that a step of an assembly shows: in a record, or as the error of a caller
who forwards an event or waits for a teardown. -/
inductive Surfaces (reply : BridgeReply) (effects : List AssemblyEffect) : FailureKind → Prop where
  | record (r : DiagnosticRecord) (h : .bridge (.status (.record r)) ∈ effects) :
    Surfaces reply effects r.kind
  | forward (f : ConnectionFailure) (h : reply = .forwarded (.refused (.forward f))) :
    Surfaces reply effects f.kind
  | stop (f : ConnectionFailure) (complete : Bool)
    (h : reply = .polled (.ready (.error (.stop f))) complete) : Surfaces reply effects f.kind

/-- The failure of a start is recorded with its kind. -/
theorem record_announceStart {b : Bridge} {w : Watcher} {failure : Option ConnectionFailure}
    {sink : SinkReaction} {r : DiagnosticRecord}
    (hr : .record r ∈ Bridge.told (b.announceStart w failure sink).2) :
    ∃ f, failure = some f ∧ r.kind = f.kind := by
  cases failure with
  | none =>
      by_cases hm : sink.takesMessage = true <;>
        simp [Bridge.announceStart, hm, Bridge.told, BridgeEffect.status?] at hr
  | some f =>
      by_cases hm : sink.takesMessage = true <;> by_cases hrecord : sink.takesRecord = true <;>
        simp [Bridge.announceStart, hm, hrecord, Bridge.told, BridgeEffect.status?] at hr
      exact ⟨f, rfl, by rw [hr]; rfl⟩

/-- Only the failure of the start that a bridge waits for is recorded. -/
theorem record_awaited {b : Bridge} (h : b.Sound) {input : BridgeInput} {r : DiagnosticRecord}
    (hr : .status (.record r) ∈ (b.step input).2.2) :
    ∃ w f sink, b.awaited = some w ∧ input = .startEnded w.connection (.failed f) sink ∧
      r.kind = f.kind := by
  have htold : .record r ∈ Bridge.told (b.step input).2.2 :=
    List.mem_filterMap.mpr ⟨_, hr, rfl⟩
  cases hact : Bridge.activation? (input, (b.step input).2.1) with
  | some taken =>
      obtain ⟨launch, scope⟩ := taken
      obtain ⟨-, watch, -, -, he⟩ := Bridge.step_of_activation hact
      rw [he] at htold
      cases List.mem_singleton.mp htold
  | none =>
      cases input with
      | activate launch scope announced =>
          rw [(Bridge.step_of_no_activation hact).2] at htold
          cases htold
      | deactivate =>
          rw [show Bridge.told (b.step .deactivate).2.2 = [] from (Bridge.told_deactivate h).1]
            at htold
          cases htold
      | forward event outcome =>
          rw [show Bridge.told (b.step (.forward event outcome)).2.2 = [] from
            (b.told_forward event outcome).1] at htold
          cases htold
      | startEnded k outcome sink =>
          rcases Bridge.startEnded_cases h k outcome sink with
            ⟨w, hw, rfl⟩ | ⟨-, -, hquiet, -⟩
          case inl =>
            rw [Bridge.step] at htold
            rcases (Bridge.startEnded_awaited h hw outcome sink).1 with
              ⟨failure, rfl, hstep⟩ | ⟨-, hstep⟩
            · rw [hstep] at htold
              obtain ⟨f, rfl, hkind⟩ := record_announceStart htold
              exact ⟨w, f, sink, hw, rfl, hkind⟩
            · rw [hstep] at htold
              cases htold
          case inr =>
            rw [Bridge.step, hquiet.told] at htold
            cases htold
      | stopEnded k outcome =>
          rw [show Bridge.told (b.step (.stopEnded k outcome)).2.2 = [] from
            (b.told_stopEnded k outcome).1] at htold
          cases htold
      | poll t => cases htold
      | dropTeardown t => cases htold

/-- An event is refused for the reason that the connection gives. -/
theorem refused_forward {b : Bridge} {event : EditorEvent} {outcome : NotifyOutcome}
    {f : ConnectionFailure} (h : (b.forward event outcome).2.1 = .refused (.forward f)) :
    outcome = .failed f := by
  rcases b.forward_cases event outcome with ⟨delivery, -, heq⟩ | ⟨s, kept, -, -, -, heq⟩
  · rw [heq] at h
    cases h
  · rw [heq] at h
    cases outcome <;> cases h
    rfl

/-- A teardown reports the failure of a stop that has ended. -/
theorem error_poll {b : Bridge} {t : Nat} {f : ConnectionFailure}
    (h : (b.poll t).2 = .ready (.error (.stop f))) :
    ∃ s ∈ b.stops, s.outcome = some (.failed f) := by
  unfold Bridge.poll at h
  split at h
  case h_1 => cases h
  case h_2 => cases h
  case h_3 => cases h
  case h_4 connection _ =>
    split at h
    case h_1 => cases h
    case h_2 outcome hfind =>
      obtain ⟨s, hs, hsome⟩ := List.exists_of_findSome?_eq_some hfind
      split at hsome
      case isFalse => cases hsome
      case isTrue =>
        cases outcome <;> cases h
        exact ⟨s, hs, hsome⟩

/-- What a step of the bridge shows of failures is genuine. -/
theorem Agrees.surfaces (h : a.Agrees) {input : BridgeInput} (hfit : a.Fitting input)
    {kind : FailureKind}
    (hkind : Surfaces (a.onBridge input).2.1 (a.onBridge input).2.2 kind) :
    kind ≠ .cancelled ∧ kind ≠ .misuse := by
  cases hkind with
  | record r hr =>
      obtain ⟨e, he, heq⟩ := List.mem_map.mp hr
      cases heq
      obtain ⟨w, f, sink, hw, rfl, hkind⟩ := record_awaited h.sound he
      obtain ⟨s, c, stage, hs, hconn, hc, hundisturbed⟩ := h.awaited hw
      obtain ⟨found, result, hfound, hresult, houtcome⟩ := hfit
      obtain rfl : found = c := Option.some.inj (hfound.symm.trans hc)
      obtain rfl : result = some f := by
        cases result <;> cases houtcome
        rfl
      rw [hundisturbed.startResult?_eq] at hresult
      subst hresult
      rw [hkind]
      exact hundisturbed.fits
  | forward f hreply =>
      cases input with
      | forward event outcome =>
          exact hfit f (refused_forward (BridgeReply.forwarded.inj hreply))
      | activate launch scope announced => cases hreply
      | deactivate => cases hreply
      | startEnded k outcome sink => cases hreply
      | stopEnded k outcome => cases hreply
      | poll t => cases hreply
      | dropTeardown t => cases hreply
  | stop f complete hreply =>
      cases input with
      | poll t =>
          obtain ⟨s, hs, hf⟩ := error_poll (BridgeReply.polled.inj hreply).1
          exact h.ended s hs f hf
      | activate launch scope announced => cases hreply
      | deactivate => cases hreply
      | forward event outcome => cases hreply
      | startEnded k outcome sink => cases hreply
      | stopEnded k outcome => cases hreply
      | dropTeardown t => cases hreply

/-- Where nothing is done or replied, no failure is shown. -/
theorem not_surfaces_nothing {kind : FailureKind} : ¬ Surfaces .none [] kind := by
  intro hkind
  cases hkind with
  | record r h => cases h
  | forward f h => cases h
  | stop f complete h => cases h

/-- What connections do shows no failure. -/
theorem surfaces_onConnection {k : Nat} {input : ConnectionInput} {reply : BridgeReply}
    {others : List AssemblyEffect} {kind : FailureKind}
    (hkind : Surfaces reply ((a.onConnection k input).2 ++ others) kind) :
    Surfaces reply others kind := by
  cases hkind with
  | record r hr =>
      rcases List.mem_append.mp hr with hown | hothers
      · unfold Assembly.onConnection at hown
        split at hown
        · cases hown
        · obtain ⟨e, -, heq⟩ := List.mem_map.mp hown
          cases heq
      · exact .record r hothers
  | forward f h => exact .forward f h
  | stop f complete h => exact .stop f complete h

/-! ## Steps of an assembly -/

/-- The connection that an event is handed to is running. -/
theorem Agrees.handed (h : a.Agrees) {event kept : EditorEvent} {k : Nat}
    (hhanded : a.handed? event = some (k, kept)) :
    ∃ c, a.connections[k]? = some c ∧ c.Undisturbed (.ended none) := by
  unfold handed? at hhanded
  split at hhanded
  case h_2 => cases hhanded
  case h_1 s hstate hs =>
    obtain ⟨c, stage, hc, hundisturbed, hreflects⟩ := h.held s hs
    rw [hstate] at hreflects
    obtain rfl : stage = .ended none := hreflects
    split at hhanded
    case h_2 => cases hhanded
    case h_1 =>
      cases hhanded
      exact ⟨c, hc, hundisturbed⟩

/-- An event is delivered to a running connection, or the channel to the server is lost. -/
theorem Agrees.handOver (h : a.Agrees) {k : Nat} {c : Connection}
    (hc : a.connections[k]? = some c) (hrunning : c.Undisturbed (.ended none))
    (event : EditorEvent) (taken : Option Bool) :
    (a.handOver k event taken).1.Agrees ∧
      (∀ f, (a.handOver k event taken).2.1 = .failed f → f.Genuine) ∧
      ∃ (b : Assembly) (input : ConnectionInput),
        (a.handOver k event taken).2.2 = (b.onConnection k input).2 := by
  have hnotified : (a.onConnection k (.notify event)).1.Agrees := h.onConnection k trivial
  unfold Assembly.handOver
  simp only [hc]
  cases taken with
  | none =>
      have hdropped : ((a.onConnection k (.notify event)).1.onConnection k
          (.dropNotify c.notifies.length)).1.Agrees := hnotified.onConnection k trivial
      exact ⟨hdropped, nofun, _, _, rfl⟩
  | some taken =>
      have hdelivered : ((a.onConnection k (.notify event)).1.onConnection k
          (.deliver c.notifies.length taken)).1.Agrees := hnotified.onConnection k trivial
      refine ⟨hdelivered, ?_, _, _, rfl⟩
      intro f hf
      simp only [onConnection_connections, hc, Option.map_some, if_true, Option.bind_some,
        hrunning.notified event taken] at hf
      cases taken with
      | true => cases hf
      | false =>
          cases hf
          exact ConnectionFailure.genuine_transport _

theorem Agrees.forward (h : a.Agrees) (event : EditorEvent) (taken : Option Bool) :
    (a.forward event taken).1.Agrees ∧
      ∀ kind, Surfaces (a.forward event taken).2.1 (a.forward event taken).2.2 kind →
        kind ≠ .cancelled ∧ kind ≠ .misuse := by
  unfold Assembly.forward
  cases hhanded : a.handed? event with
  | none =>
      have hfit : a.Fitting (.forward event .delivered) := nofun
      exact ⟨h.onBridge hfit, fun kind => h.surfaces hfit⟩
  | some handed =>
      obtain ⟨k, kept⟩ := handed
      obtain ⟨c, hc, hrunning⟩ := h.handed hhanded
      obtain ⟨hnext, hgenuine, b, input, heffects⟩ := h.handOver hc hrunning kept taken
      have hfit : (a.handOver k kept taken).1.Fitting
          (.forward event (a.handOver k kept taken).2.1) := hgenuine
      refine ⟨hnext.onBridge hfit, fun kind hkind => hnext.surfaces hfit ?_⟩
      simp only [heffects] at hkind
      exact surfaces_onConnection hkind

/-- The bridge hears how the start of a connection has ended. -/
theorem Agrees.startSeen (h : a.Agrees) (k : Nat) (sink : SinkReaction) :
    (a.startSeen k sink).1.Agrees ∧
      ∀ kind, Surfaces (a.startSeen k sink).2.1 (a.startSeen k sink).2.2 kind →
        kind ≠ .cancelled ∧ kind ≠ .misuse := by
  unfold Assembly.startSeen
  split
  case h_1 result hresult =>
    obtain ⟨c, hc, hstart⟩ := Option.bind_eq_some_iff.mp hresult
    have hfit : a.Fitting (.startEnded k (outcomeOf result) sink) := ⟨c, result, hc, hstart, rfl⟩
    exact ⟨h.onBridge hfit, fun kind => h.surfaces hfit⟩
  case h_2 => exact ⟨h, fun _ hkind => (not_surfaces_nothing hkind).elim⟩

/-- The bridge hears how the stop of a connection has ended. -/
theorem Agrees.stopSeen (h : a.Agrees) (k : Nat) :
    (a.stopSeen k).1.Agrees ∧
      ∀ kind, Surfaces (a.stopSeen k).2.1 (a.stopSeen k).2.2 kind →
        kind ≠ .cancelled ∧ kind ≠ .misuse := by
  unfold Assembly.stopSeen
  split
  case h_1 result hresult =>
    obtain ⟨c, hc, hstop⟩ := Option.bind_eq_some_iff.mp hresult
    have hfit : a.Fitting (.stopEnded k (outcomeOf result)) := by
      intro f hf
      obtain rfl : result = some f := by
        cases result <;> cases hf
        rfl
      exact (h.honest k c hc).stopResult? hstop
    exact ⟨h.onBridge hfit, fun kind => h.surfaces hfit⟩
  case h_2 => exact ⟨h, fun _ hkind => (not_surfaces_nothing hkind).elim⟩

/-- What lets an attempt go on disturbs nothing. -/
theorem undisturbing_of_isProgress {input : ConnectionInput} (h : input.isProgress = true) :
    input.Undisturbing := by
  cases input <;> trivial

/-- Every step keeps the agreement, and what it shows of failures is genuine. -/
theorem Agrees.step (h : a.Agrees) (input : AssemblyInput) :
    (a.step input).1.Agrees ∧
      ∀ kind, Surfaces (a.step input).2.1 (a.step input).2.2 kind →
        kind ≠ .cancelled ∧ kind ≠ .misuse := by
  cases input with
  | activate launch scope announced =>
      have hfit : a.Fitting (.activate launch scope announced) := trivial
      exact ⟨h.onBridge hfit, fun kind => h.surfaces hfit⟩
  | deactivate =>
      have hfit : a.Fitting .deactivate := trivial
      exact ⟨h.onBridge hfit, fun kind => h.surfaces hfit⟩
  | forward event taken => exact h.forward event taken
  | poll teardown =>
      have hfit : a.Fitting (.poll teardown) := trivial
      exact ⟨h.onBridge hfit, fun kind => h.surfaces hfit⟩
  | dropTeardown teardown =>
      have hfit : a.Fitting (.dropTeardown teardown) := trivial
      exact ⟨h.onBridge hfit, fun kind => h.surfaces hfit⟩
  | progress k input =>
      simp only [Assembly.step]
      split
      case isTrue hprogress =>
        refine ⟨h.onConnection k (undisturbing_of_isProgress hprogress), fun kind hkind => ?_⟩
        rw [← List.append_nil (a.onConnection k input).2] at hkind
        exact (not_surfaces_nothing (surfaces_onConnection hkind)).elim
      case isFalse => exact ⟨h, fun _ hkind => (not_surfaces_nothing hkind).elim⟩
  | startSeen k sink => exact h.startSeen k sink
  | stopSeen k => exact h.stopSeen k

theorem Agrees.run (h : a.Agrees) (inputs : List AssemblyInput) : (a.run inputs).1.Agrees := by
  induction inputs generalizing a with
  | nil => exact h
  | cons input rest ih => exact ih (h.step input).1

/-- **A ready bridge holds a running server, and only genuine failures are seen.** After any run
of a bridge with its connections, in whatever order things happen, a ready bridge holds a
connection that is running and has its server in the slot. A bridge that has failed says so
because the start of its connection has failed for a genuine reason. And what the next step shows
of failures, in a record or to its caller, is genuine: none is of the kind for a start that was
given up, nor of the kind for a connection that was used in a way it does not allow. -/
theorem ready_is_running (config : ConnectionConfig) (inputs : List AssemblyInput) :
    let a := ((idle config).run inputs).1
    (a.bridge.state = .ready → ∃ s c process, a.bridge.session = some s ∧
      a.connections[s.connection]? = some c ∧ c.phase = .running ∧ c.slot = some process) ∧
    (∀ reason, a.bridge.state = .failed reason → ∃ s c f, a.bridge.session = some s ∧
      a.connections[s.connection]? = some c ∧ c.startResult? 0 = some (some f) ∧
      f.message = reason ∧ f.kind ≠ .cancelled ∧ f.kind ≠ .misuse) ∧
    ∀ input kind, Surfaces (a.step input).2.1 (a.step input).2.2 kind →
      kind ≠ .cancelled ∧ kind ≠ .misuse := by
  intro a
  have h : a.Agrees := (Agrees.idle config).run inputs
  have hsession : a.bridge.state ≠ .idle → ∃ s, a.bridge.session = some s := by
    intro hstate
    rw [← Option.ne_none_iff_exists', ne_eq, ← h.sound.idle_iff]
    exact hstate
  refine ⟨?_, ?_, fun input => (h.step input).2⟩
  · intro hready
    obtain ⟨s, hs⟩ := hsession (by rw [hready]; exact nofun)
    obtain ⟨c, stage, hc, hundisturbed, hreflects⟩ := h.held s hs
    rw [hready] at hreflects
    obtain rfl : stage = .ended none := hreflects
    obtain ⟨hphase, process, hslot⟩ := hundisturbed.fits
    exact ⟨s, c, process, hs, hc, hphase, hslot⟩
  · intro reason hfailed
    obtain ⟨s, hs⟩ := hsession (by rw [hfailed]; exact nofun)
    obtain ⟨c, stage, hc, hundisturbed, hreflects⟩ := h.held s hs
    rw [hfailed] at hreflects
    obtain ⟨f, rfl, hmessage⟩ := hreflects
    exact ⟨s, c, f, hs, hc, hundisturbed.startResult?_eq.mpr rfl, hmessage, hundisturbed.fits⟩

/-- The first start is refused, since its stop was faster; nobody hears of that, and the second
session is ready. -/
example : ((idle .usual).run
    [.activate ⟨"ti-lsp", [], []⟩ ⟨[], []⟩ true, .deactivate, .progress 0 (.look 0),
      .progress 0 (.beginStart 0 (.spawned (Path.ofText "/"))),
      .activate ⟨"ti", [], []⟩ ⟨[], []⟩ true, .startSeen 0 .willing, .stopSeen 0,
      .progress 1 (.beginStart 0 (.spawned (Path.ofText "/"))),
      .progress 1 (.openingEnded 0 (.accepted ⟨none, none⟩) true), .progress 1 (.link 0),
      .startSeen 1 .willing]).1.bridge.state = .ready := by
  rfl

end LanguageBridge.Assembly
