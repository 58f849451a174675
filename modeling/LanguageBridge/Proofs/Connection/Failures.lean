import LanguageBridge.Proofs.Connection.Stops

set_option autoImplicit false

/-! # Genuine failures

A failure is genuine if it is about the server: the command could not be run, the server did not
complete the handshake, or the channel to it was lost. The other failures are about how the
connection was used.

As long as nobody stops a connection that was started once, its start fails for genuine reasons
only, and where it succeeds the server stays in the slot (`Undisturbed.step`). A stop always fails
for genuine reasons, whatever else happens (`HonestStops.step`).
-/

namespace LanguageBridge

/-- The failure is about the server, not about how the connection was used. -/
def ConnectionFailure.Genuine (f : ConnectionFailure) : Prop :=
  f.kind ≠ .cancelled ∧ f.kind ≠ .misuse

theorem ConnectionFailure.genuine_launch (reason : String) : (launch reason).Genuine :=
  ⟨nofun, nofun⟩

theorem ConnectionFailure.genuine_handshake (reason : String) : (handshake reason).Genuine :=
  ⟨nofun, nofun⟩

theorem ConnectionFailure.genuine_transport (reason : String) : (transport reason).Genuine :=
  ⟨nofun, nofun⟩

/-- An input that asks for no start and no stop, and gives up no start. -/
def ConnectionInput.Undisturbing : ConnectionInput → Prop
  | .start => False
  | .stop => False
  | .dropStart _ => False
  | _ => True

namespace Connection

variable {c c' : Connection} {stage : StartStage}

/-! ## A connection that nobody stops -/

/-- How a connection looks whose only start has come to a stage. -/
def Fits (c : Connection) : StartStage → Prop
  | .created => c.phase = .idle
  | .opening _ => c.phase = .starting
  | .bereaved _ _ => c.phase = .starting
  | .linking _ => c.phase = .starting
  | .ended none => c.phase = .running ∧ ∃ process, c.slot = some process
  | .ended (some f) => f.Genuine
  | .dropped => False

/-- A connection was asked for one start, which has come to a stage, and for no stop. -/
structure Undisturbed (c : Connection) (stage : StartStage) : Prop where
  starts : c.starts = [stage]
  stops : c.stops = []
  abortAsked : c.abortAsked = false
  fits : c.Fits stage

/-- A new connection that was asked for a start. -/
theorem Undisturbed.fresh (launch : Launch) (scope : Scope) (config : ConnectionConfig) :
    ((fresh launch scope config).step .start).1.Undisturbed .created :=
  ⟨rfl, rfl, rfl, rfl⟩

theorem Undisturbed.startResult?_eq (h : c.Undisturbed stage)
    {result : Option ConnectionFailure} :
    c.startResult? 0 = some result ↔ stage = .ended result := by
  rw [startResult?_eq_some, h.starts]
  exact Option.some_inj

/-- The start that an input finds is the only one. -/
theorem Undisturbed.only (h : c.Undisturbed stage) {i : Nat} {found : StartStage}
    (hi : c.starts[i]? = some found) : i = 0 ∧ found = stage := by
  rw [h.starts] at hi
  cases i with
  | zero => exact ⟨rfl, (Option.some.inj hi).symm⟩
  | succ i => cases hi

/-- There is no stop that could go on. -/
theorem Undisturbed.no_stop (h : c.Undisturbed stage) (j : Nat) :
    (c.stops[j]?).map StopAttempt.stage = none := by
  rw [h.stops]
  rfl

/-- The start comes to another stage. -/
theorem Undisturbed.move (h : c.Undisturbed stage) (new : StartStage)
    (hstarts : c'.starts = c.starts.set 0 new) (hstops : c'.stops = c.stops)
    (habort : c'.abortAsked = c.abortAsked) (hfits : c'.Fits new) : ∃ new, c'.Undisturbed new := by
  refine ⟨new, ?_, hstops.trans h.stops, habort.trans h.abortAsked, hfits⟩
  rw [hstarts, h.starts]
  rfl

theorem Undisturbed.beginStart (h : c.Undisturbed stage) (i : Nat) (launching : Launching) :
    ∃ new, (c.beginStart i launching).1.Undisturbed new := by
  unfold Connection.beginStart
  split
  case h_2 => exact ⟨stage, h⟩
  case h_1 hi =>
    obtain ⟨rfl, rfl⟩ := h.only hi
    have hidle : c.phase = .idle := h.fits
    rw [hidle]
    cases launching with
    | noWorkspace failure =>
        exact h.move (.ended (some _)) rfl rfl rfl (ConnectionFailure.genuine_launch _)
    | noProcess failure =>
        exact h.move (.ended (some _)) rfl rfl rfl (ConnectionFailure.genuine_launch _)
    | spawned workspace => exact h.move (.opening _) rfl rfl rfl rfl

theorem Undisturbed.openingEnded (h : c.Undisturbed stage) (i : Nat) (outcome : OpeningOutcome)
    (taken : Bool) : ∃ new, (c.openingEnded i outcome taken).1.Undisturbed new := by
  unfold Connection.openingEnded
  split
  case h_2 => exact ⟨stage, h⟩
  case h_1 process hi =>
    obtain ⟨rfl, rfl⟩ := h.only hi
    have hstarting : c.phase = .starting := h.fits
    cases outcome with
    | accepted info =>
        cases taken with
        | true => exact h.move (.linking process) rfl rfl rfl hstarting
        | false =>
            exact h.move (.ended (some _)) rfl rfl rfl (ConnectionFailure.genuine_transport _)
    | refused reason =>
        exact h.move (.ended (some _)) rfl rfl rfl (ConnectionFailure.genuine_handshake _)
    | failed failure => exact h.move (.bereaved process failure) rfl rfl rfl hstarting
    | overdue =>
        exact h.move (.ended (some _)) rfl rfl rfl (ConnectionFailure.genuine_handshake _)

theorem Undisturbed.graceEnded (h : c.Undisturbed stage) (i : Nat) (status : Option ExitStatus) :
    ∃ new, (c.graceEnded i status).1.Undisturbed new := by
  unfold Connection.graceEnded
  split
  case h_2 => exact ⟨stage, h⟩
  case h_1 process failure hi =>
    obtain ⟨rfl, rfl⟩ := h.only hi
    cases status with
    | none => exact h.move (.ended (some _)) rfl rfl rfl (ConnectionFailure.genuine_transport _)
    | some status =>
        exact h.move (.ended (some _)) rfl rfl rfl (ConnectionFailure.genuine_handshake _)

/-- Nobody asks the start to give up. -/
theorem Undisturbed.abortSeen (h : c.Undisturbed stage) (i : Nat) : c.abortSeen i = (c, []) := by
  simp [Connection.abortSeen, h.abortAsked]

theorem Undisturbed.link (h : c.Undisturbed stage) (i : Nat) :
    ∃ new, (c.link i).1.Undisturbed new := by
  unfold Connection.link
  split
  case h_2 => exact ⟨stage, h⟩
  case h_1 process hi =>
    obtain ⟨rfl, rfl⟩ := h.only hi
    exact h.move (.ended none) rfl rfl rfl ⟨rfl, process, rfl⟩

/-- Events do not disturb. -/
theorem Undisturbed.notifies (h : c.Undisturbed stage) (notifies : List NotifyStage) :
    Connection.Undisturbed { c with notifies } stage :=
  ⟨h.starts, h.stops, h.abortAsked, by cases stage <;> exact h.fits⟩

/-- As long as nobody stops it, the start goes on, fails for a genuine reason, or succeeds, and then
the server stays in the slot. -/
theorem Undisturbed.step (h : c.Undisturbed stage) {input : ConnectionInput}
    (hinput : input.Undisturbing) : ∃ new, (c.step input).1.Undisturbed new := by
  cases input with
  | start => exact hinput.elim
  | stop => exact hinput.elim
  | dropStart i => exact hinput.elim
  | beginStart i launching => exact h.beginStart i launching
  | openingEnded i outcome taken => exact h.openingEnded i outcome taken
  | graceEnded i status => exact h.graceEnded i status
  | abortSeen i =>
      rw [Connection.step, h.abortSeen]
      exact ⟨stage, h⟩
  | link i => exact h.link i
  | look j =>
      rcases c.look_cases j with heq | ⟨old, hj, -⟩
      · rw [Connection.step, heq]
        exact ⟨stage, h⟩
      · rw [h.no_stop] at hj
        cases hj
  | unlink j =>
      rw [Connection.step, Connection.unlink, h.no_stop]
      exact ⟨stage, h⟩
  | shutdownEnded j outcome taken =>
      rw [Connection.step, Connection.shutdownEnded, h.no_stop]
      exact ⟨stage, h⟩
  | exitEnded j outcome =>
      rw [Connection.step, Connection.exitEnded, h.no_stop]
      exact ⟨stage, h⟩
  | dropStop j =>
      rw [Connection.step, Connection.dropStop, h.no_stop]
      exact ⟨stage, h⟩
  | notify event => exact ⟨stage, h.notifies _⟩
  | deliver i taken =>
      show ∃ new, (c.deliver i taken).1.Undisturbed new
      unfold Connection.deliver
      split
      · split <;> exact ⟨stage, h.notifies _⟩
      · exact ⟨stage, h⟩
  | dropNotify i =>
      show ∃ new, (c.dropNotify i).1.Undisturbed new
      unfold Connection.dropNotify
      split
      · exact ⟨stage, h.notifies _⟩
      · exact ⟨stage, h⟩

/-- Once its start has succeeded, the connection is running and takes events, or the channel to the
server is lost. -/
theorem Undisturbed.deliver (h : c.Undisturbed (.ended none)) {i : Nat} {event : EditorEvent}
    (hi : c.notifies[i]? = some (.created event)) (taken : Bool) :
    (c.deliver i taken).1.notifyResult? i
      = some (if taken then none else some (deliveryFailure event)) := by
  obtain ⟨-, process, hslot⟩ := h.fits
  have hlt := (List.getElem?_eq_some_iff.mp hi).1
  rw [Connection.deliver, hi, hslot]
  simp only [notifyResult?, setNotify, List.getElem?_set_self hlt]

/-- A connection that is running answers when it is handed an event. -/
theorem Undisturbed.notified (h : c.Undisturbed (.ended none)) (event : EditorEvent)
    (taken : Bool) :
    ((c.step (.notify event)).1.step (.deliver c.notifies.length taken)).1.notifyResult?
        c.notifies.length
      = some (if taken then none else some (deliveryFailure event)) := by
  have hnew : (c.notifies ++ [NotifyStage.created event])[c.notifies.length]?
      = some (.created event) := List.getElem?_concat_length
  exact (h.notifies _).deliver hnew taken

/-- It also sends the event to its process, whether the channel takes it or not. -/
theorem Undisturbed.sends (h : c.Undisturbed (.ended none)) (event : EditorEvent) (taken : Bool) :
    ∃ process, ((c.step (.notify event)).1.step (.deliver c.notifies.length taken)).2
      = [.send process (.event event)] := by
  obtain ⟨-, process, hslot⟩ := h.fits
  have hnew : (c.notifies ++ [NotifyStage.created event])[c.notifies.length]?
      = some (.created event) := List.getElem?_concat_length
  refine ⟨process, ?_⟩
  simp only [Connection.step, Connection.deliver, hnew, hslot]

/-! ## Stops -/

/-- The stops of a connection fail for genuine reasons. -/
def HonestStops (c : Connection) : Prop :=
  ∀ (j : Nat) (stage : StopStage) (f : ConnectionFailure),
    (c.stops[j]?).map StopAttempt.stage = some stage → stage.failure? = some f → f.Genuine

theorem HonestStops.fresh (launch : Launch) (scope : Scope) (config : ConnectionConfig) :
    (fresh launch scope config).HonestStops := fun _ _ _ hj _ => nomatch hj

/-- The failure of a shutdown is about the channel. -/
theorem shutdownFailure?_genuine {outcome : ShutdownOutcome} {f : ConnectionFailure}
    (h : c.shutdownFailure? outcome = some f) : f.Genuine := by
  cases outcome <;> cases h <;> exact ConnectionFailure.genuine_transport _

/-- A stop fails for genuine reasons, whatever happens. -/
theorem HonestStops.step (h : c.HonestStops) (input : ConnectionInput) :
    (c.step input).1.HonestStops := by
  intro j stage f hj hf
  cases stop_goes hj with
  | stay hold => exact h j stage f hold.symm hf
  | dismiss hold => exact shutdownFailure?_genuine hf
  | finish hold => exact h j _ f hold hf
  | _ => cases hf

/-- A stop that has failed reports a genuine failure. -/
theorem HonestStops.stopResult? (h : c.HonestStops) {j : Nat} {f : ConnectionFailure}
    (hj : c.stopResult? j = some (some f)) : f.Genuine := by
  unfold Connection.stopResult? at hj
  split at hj
  case h_1 failure found hs =>
    cases hj
    exact h j (.ended (some f)) f (by rw [hs]; rfl) rfl
  case h_2 => cases hj

end Connection
end LanguageBridge
