import LanguageBridge.Proofs.Assembly.Agreement

set_option autoImplicit false

/-! # Forwarding an event

What one forward does to a bridge and its connections. Where the bridge hands nothing over, nothing
happens (`forward_unhanded`). Where it hands an event to the connection of a ready session, that
connection is running: it sends the event to its process, and the session tracks the event exactly
if the channel takes it (`Agrees.forward_handed`).

Between the calls of its owner a ready bridge only sees how old starts and stops have ended, and
stays as it is (`Agrees.unattended_run`).
-/

namespace LanguageBridge

/-- An input that is no call of the bridge: an attempt goes on, or the bridge sees its end. -/
def AssemblyInput.Unattended : AssemblyInput → Prop
  | .progress _ _ => True
  | .startSeen _ _ => True
  | .stopSeen _ => True
  | _ => False

namespace Assembly

variable {a : Assembly} {s : Session} {event kept : EditorEvent}

/-! ## The bridge within -/

theorem play_bridge (a : Assembly) (effect : BridgeEffect) : (a.play effect).bridge = a.bridge := by
  cases effect with
  | start connection => exact a.onConnection_bridge connection .start
  | stop connection => exact a.onConnection_bridge connection .stop
  | _ => rfl

/-- What the bridge asks of its connections does not change the bridge. -/
theorem onBridge_bridge (a : Assembly) (input : BridgeInput) :
    (a.onBridge input).1.bridge = (a.bridge.step input).1 := by
  have hplays : ∀ (effects : List BridgeEffect) (c : Assembly),
      (effects.foldl play c).bridge = c.bridge := by
    intro effects
    induction effects with
    | nil => exact fun _ => rfl
    | cons e rest ih => exact fun c => (ih _).trans (c.play_bridge e)
  exact hplays _ _

/-- What a connection does in a step. -/
theorem onConnection_effects {k : Nat} {c : Connection} (hc : a.connections[k]? = some c)
    (input : ConnectionInput) :
    (a.onConnection k input).2 = (c.step input).2.map (.connection k) := by
  rw [onConnection, hc]

/-! ## Forwarding -/

/-- A ready bridge hands over what its session lets through. -/
theorem handed?_eq_some (hready : a.bridge.state = .ready) (hs : a.bridge.session = some s)
    (hkept : s.narrow event = .ok kept) : a.handed? event = some (s.connection, kept) := by
  simp only [handed?, hready, hs, hkept]

theorem handed?_eq_none {delivery : Delivery} (hs : a.bridge.session = some s)
    (hkept : s.narrow event = .error delivery) : a.handed? event = none := by
  rw [handed?, hs]
  split
  case h_1 t _ ht =>
    obtain rfl := Option.some.inj ht
    rw [hkept]
  case h_2 => rfl

/-- Where nothing is handed over, nothing happens. -/
theorem forward_unhanded (h : a.handed? event = none) (taken : Option Bool) :
    (a.forward event taken).1 = a ∧ (a.forward event taken).2.2 = [] := by
  have hforward : ∃ delivery,
      a.bridge.forward event .delivered = (a.bridge, .done delivery, []) := by
    rcases a.bridge.forward_cases event .delivered with
      ⟨delivery, -, heq⟩ | ⟨s, kept, hready, hs, hkept, -⟩
    · exact ⟨delivery, heq⟩
    · rw [handed?_eq_some hready hs hkept] at h
      cases h
  obtain ⟨delivery, hforward⟩ := hforward
  simp only [Assembly.forward, h, onBridge, Bridge.step, hforward, List.foldl_nil, List.map_nil,
    and_self]

/-- An event that a ready session lets through goes to the process of its connection. The session
tracks it exactly if the channel takes it. -/
theorem Agrees.forward_handed (h : a.Agrees) (hready : a.bridge.state = .ready)
    (hs : a.bridge.session = some s) (hkept : s.narrow event = .ok kept) (taken : Bool) :
    (a.forward event (some taken)).1.bridge
        = (if taken then { a.bridge with session := some (s.track kept) } else a.bridge) ∧
      ∃ process, (a.forward event (some taken)).2.2
        = [.connection s.connection (.send process (.event kept)),
          .bridge (.notify s.connection kept)] := by
  have hhanded := handed?_eq_some hready hs hkept
  obtain ⟨c, hc, hrunning⟩ := h.handed hhanded
  obtain ⟨process, hsends⟩ := hrunning.sends kept taken
  have hnotified : (a.onConnection s.connection (.notify kept)).1.connections[s.connection]?
      = some (c.step (.notify kept)).1 := by
    rw [onConnection_connections, hc, Option.map_some, if_pos rfl]
  have heffects := onConnection_effects hnotified (.deliver c.notifies.length taken)
  rw [hsends] at heffects
  have houtcome : (a.handOver s.connection kept (some taken)).2.1
      = if taken then .delivered else .failed (Connection.deliveryFailure kept) := by
    simp only [Assembly.handOver, hc, onConnection_connections, Option.map_some, if_true,
      Option.bind_some, hrunning.notified kept taken]
    cases taken <;> rfl
  have hbridge : (a.handOver s.connection kept (some taken)).1.bridge = a.bridge := by
    simp only [Assembly.handOver, onConnection_bridge]
  have hsent : (a.handOver s.connection kept (some taken)).2.2
      = [.connection s.connection (.send process (.event kept))] := by
    simp only [Assembly.handOver, hc, heffects, List.map_cons, List.map_nil]
  have hstep : ∀ outcome, a.bridge.step (.forward event outcome)
      = ((a.bridge.handedOver s kept outcome).1, .forwarded (a.bridge.handedOver s kept outcome).2,
        [.notify s.connection kept]) := by
    intro outcome
    simp only [Bridge.step, Bridge.forward, hready, hs, hkept]
  constructor
  · simp only [Assembly.forward, hhanded, onBridge_bridge, hbridge, hstep, houtcome]
    cases taken <;> rfl
  · refine ⟨process, ?_⟩
    simp only [Assembly.forward, hhanded, Assembly.onBridge, hbridge, hstep, hsent, List.map_cons,
      List.map_nil, List.cons_append, List.nil_append]

/-! ## While nobody calls -/

/-- A ready bridge waits for no start, so what it sees does not concern its session. -/
theorem Agrees.unattended_step (h : a.Agrees) (hready : a.bridge.state = .ready)
    {input : AssemblyInput} (hinput : input.Unattended) :
    (a.step input).1.bridge.state = .ready ∧
      (a.step input).1.bridge.session = a.bridge.session := by
  cases input with
  | progress k input =>
      rw [Assembly.step]
      split
      · exact ⟨by rw [onConnection_bridge, hready], by rw [onConnection_bridge]⟩
      · exact ⟨hready, rfl⟩
  | startSeen k sink =>
      rw [Assembly.step, Assembly.startSeen]
      split
      case h_2 => exact ⟨hready, rfl⟩
      case h_1 result hresult =>
        rw [onBridge_bridge, Bridge.step]
        rcases Bridge.startEnded_cases h.sound k (outcomeOf result) sink with
          ⟨w, hw, -⟩ | ⟨-, ⟨watchers, heq⟩, -, -⟩
        · have hstarting := (Bridge.awaited_some hw).1
          rw [hready] at hstarting
          cases hstarting
        · rw [heq]
          exact ⟨hready, rfl⟩
  | stopSeen k =>
      rw [Assembly.step, Assembly.stopSeen]
      split
      case h_2 => exact ⟨hready, rfl⟩
      case h_1 result hresult =>
        rw [onBridge_bridge, Bridge.step]
        rcases a.bridge.stopEnded_cases k (outcomeOf result) with ⟨heq, -⟩ | ⟨-, heq⟩
        · rw [heq]
          exact ⟨hready, rfl⟩
        · rw [heq]
          exact ⟨hready, rfl⟩
  | _ => exact hinput.elim

theorem Agrees.unattended_run (h : a.Agrees) (hready : a.bridge.state = .ready)
    {inputs : List AssemblyInput} (hinputs : ∀ input ∈ inputs, input.Unattended) :
    (a.run inputs).1.Agrees ∧ (a.run inputs).1.bridge.state = .ready ∧
      (a.run inputs).1.bridge.session = a.bridge.session := by
  induction inputs generalizing a with
  | nil => exact ⟨h, hready, rfl⟩
  | cons input rest ih =>
      obtain ⟨hinput, hrest⟩ := List.forall_mem_cons.mp hinputs
      obtain ⟨hstate, hsession⟩ := h.unattended_step hready hinput
      obtain ⟨hagrees, hlast, hheld⟩ := ih (h.step input).1 hstate hrest
      exact ⟨hagrees, hlast, hheld.trans hsession⟩

end Assembly
end LanguageBridge
