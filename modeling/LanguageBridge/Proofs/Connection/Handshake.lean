import LanguageBridge.Proofs.Connection.Starts

set_option autoImplicit false

/-! # The handshake of a start

`Handshake` follows the handshake of one start through the inputs of a run. It knows nothing of
stops, of phases and of other starts. `Handshake.Shows` says what is seen of it at each stage of
the start, and `shows_run` that this is what a start shows in every run: it returns what its
handshake gives, unless a stop looked at the phase in the meantime; then it may return that it was
stopped.
-/

namespace LanguageBridge

/-! ## The handshake -/

/-- How far the handshake of a start has come. -/
inductive Handshake where
  /-- It waits for the answer to the opening. -/
  | opening
  /-- The channel failed, and it waits for the process to exit. -/
  | bereaved (failure : ChannelFailure)
  /-- It ended, perhaps with a failure. -/
  | ended (failure : Option ConnectionFailure)

namespace Handshake

/-- The handshake after the launch of the process. -/
def launched (launch : Launch) (config : ConnectionConfig) : Launching → Handshake
  | .noWorkspace failure =>
    ended (some (.launch ("failed to canonicalize workspace root '"
      ++ Path.display config.workspaceRoot ++ "': " ++ failure.message)))
  | .noProcess failure =>
    ended (some (.launch ("failed to spawn '" ++ launch.command ++ "': " ++ failure.message)))
  | .spawned _ => opening

/-- The handshake after the answer to the opening, or without one. -/
def answered (config : ConnectionConfig) (taken : Bool) : OpeningOutcome → Handshake
  | .accepted _ =>
    if taken then ended none
    else
      ended (some (.transport
        ("initialized notification failed: " ++ ChannelFailure.closed.message)))
  | .refused reason => ended (some (.handshake ("initialize request rejected: " ++ reason)))
  | .failed failure => bereaved failure
  | .overdue =>
    ended (some (.handshake ("no initialize response within " ++ config.initTimeout.text)))

/-- The handshake after a process without a channel exited, or did not. -/
def parted (failure : ChannelFailure) : Option ExitStatus → Handshake
  | some status =>
    ended (some (.handshake
      ("server exited before completing the handshake (" ++ status.text ++ ")")))
  | none => ended (some (.transport ("connection lost during handshake: " ++ failure.message)))

/-- The handshake of start `i` goes on with what happens to it. -/
def next (config : ConnectionConfig) (i : Nat) : Handshake → ConnectionInput → Handshake
  | opening, .openingEnded k outcome taken =>
    if k = i then answered config taken outcome else opening
  | bereaved failure, .graceEnded k status =>
    if k = i then parted failure status else bereaved failure
  | h, _ => h

/-- What is seen of a handshake at a stage of its start, if `stopped` tells whether it may have
been stopped. -/
def Shows (h : Handshake) (stopped : Prop) : StartStage → Prop
  | .created => False
  | .opening _ => h = opening
  | .bereaved _ failure => h = bereaved failure
  | .linking _ => h = ended none
  | .ended failure => h = ended failure ∨ (failure = some .stopped ∧ stopped)
  | .dropped => True

/-! ## A handshake is never stopped by itself -/

theorem launched_ne_stopped (launch : Launch) (config : ConnectionConfig)
    (launching : Launching) : launched launch config launching ≠ ended (some .stopped) := by
  cases launching <;> simp [launched]

theorem answered_ne_stopped (config : ConnectionConfig) (taken : Bool) (outcome : OpeningOutcome) :
    answered config taken outcome ≠ ended (some .stopped) := by
  cases outcome with
  | accepted info => cases taken <;> simp [answered]
  | _ => simp [answered]

theorem next_ne_stopped {h : Handshake} (hne : h ≠ ended (some .stopped))
    (config : ConnectionConfig) (i : Nat) (input : ConnectionInput) :
    h.next config i input ≠ ended (some .stopped) := by
  unfold next
  split
  · split
    · exact answered_ne_stopped config _ _
    · exact hne
  · split
    · unfold parted
      split <;> simp
    · exact hne
  · exact hne

theorem foldl_ne_stopped {h : Handshake} (hne : h ≠ ended (some .stopped))
    (config : ConnectionConfig) (i : Nat) (inputs : List ConnectionInput) :
    inputs.foldl (next config i) h ≠ ended (some .stopped) := by
  induction inputs generalizing h with
  | nil => exact hne
  | cons input rest ih => exact ih (next_ne_stopped hne config i input)

/-! ## What a start shows -/

theorem next_ended (config : ConnectionConfig) (i : Nat)
    (failure : Option ConnectionFailure) (input : ConnectionInput) :
    (ended failure).next config i input = ended failure := by
  unfold next
  split <;> simp_all

/-- A start that stays where it is goes on showing its handshake, unless it is the answer or the
exit that it waits for that happens. -/
theorem Shows.stay {h : Handshake} {stopped : Prop} {stage : StartStage}
    (hs : h.Shows stopped stage) (config : ConnectionConfig) {i : Nat} {input : ConnectionInput}
    (hanswer : ∀ process outcome taken, stage = .opening process →
      input ≠ .openingEnded i outcome taken)
    (hexit : ∀ process failure status, stage = .bereaved process failure →
      input ≠ .graceEnded i status) :
    (h.next config i input).Shows stopped stage := by
  cases stage with
  | created => cases hs
  | opening process =>
      have hopening : h = .opening := hs
      subst hopening
      cases input with
      | openingEnded k outcome taken =>
          refine if_neg ?_
          rintro rfl
          exact hanswer process outcome taken rfl rfl
      | _ => rfl
  | bereaved process failure =>
      have hbereaved : h = .bereaved failure := hs
      subst hbereaved
      cases input with
      | graceEnded k status =>
          refine if_neg ?_
          rintro rfl
          exact hexit process failure status rfl rfl
      | _ => rfl
  | linking process =>
      have hended : h = .ended none := hs
      subst hended
      exact next_ended config i none input
  | ended failure =>
      rcases hs with rfl | hstopped
      · exact Or.inl (next_ended config i failure input)
      · exact Or.inr hstopped
  | dropped => trivial

end Handshake

namespace Connection

variable {c : Connection} {i : Nat}

/-! ## Steps -/

/-- A start shows a handshake. -/
def Shows (c : Connection) (i : Nat) (h : Handshake) (stopped : Prop) : Prop :=
  ∃ stage, c.starts[i]? = some stage ∧ h.Shows stopped stage

/-- A start that was moved shows what its new stage shows. -/
theorem shows_set {c' : Connection} {old : StartStage} (hi : c.starts[i]? = some old)
    (new : StartStage) (heq : c'.starts = c.starts.set i new) {h : Handshake} {stopped : Prop}
    (hs : h.Shows stopped new) : c'.Shows i h stopped := by
  refine ⟨new, ?_, hs⟩
  rw [heq]
  exact List.getElem?_set_self (List.getElem?_eq_some_iff.mp hi).1

/-- A start that is given up shows nothing any more. -/
theorem shows_dropStart {h : Handshake} {stopped : Prop} (hs : c.Shows i h stopped) :
    (c.dropStart i).1.Shows i h stopped := by
  unfold dropStart
  split
  · exact hs
  · exact hs
  · exact hs
  case h_4 stage _ _ hi =>
    split
    · exact shows_set hi .dropped rfl trivial
    · dsimp only
      split
      · exact shows_set hi .dropped rfl trivial
      · exact shows_set hi .dropped rfl trivial

/-- A start that sees that it was asked to give up was stopped. -/
theorem shows_abortSeen {h : Handshake} {stopped : Prop} (hs : c.Shows i h stopped)
    (hstop : c.startResult? i = none → c.abortAsked = true → stopped) :
    (c.abortSeen i).1.Shows i h stopped := by
  unfold abortSeen
  split
  case h_2 => exact hs
  case h_1 process hpending hasked =>
    obtain ⟨stage, hi, hstage⟩ := Option.bind_eq_some_iff.mp hpending
    have hopen : c.startResult? i = none := by
      rw [startResult?, hi]
      cases stage <;> first | rfl | cases hstage
    exact shows_set hi (.ended (some .stopped)) rfl (Or.inr ⟨rfl, hstop hopen hasked⟩)

/-- A start that gets at the slot gives what its handshake gave. -/
theorem shows_link {h : Handshake} {stopped : Prop} (hs : c.Shows i h stopped) :
    (c.link i).1.Shows i h stopped := by
  unfold link
  split
  case h_2 => exact hs
  case h_1 process hi =>
    obtain ⟨stage, hstage, hshows⟩ := hs
    rw [hi] at hstage
    cases hstage
    exact shows_set hi (.ended none) rfl (Or.inl hshows)

theorem shows_openingEnded {stopped : Prop} {process : Nat}
    (hi : c.starts[i]? = some (.opening process)) (outcome : OpeningOutcome) (taken : Bool) :
    (c.openingEnded i outcome taken).1.Shows i
      (Handshake.answered c.config taken outcome) stopped := by
  rw [openingEnded, hi]
  cases outcome with
  | accepted info =>
      cases taken with
      | true => exact shows_set hi (.linking process) rfl rfl
      | false => exact shows_set hi (.ended _) rfl (Or.inl rfl)
  | failed failure => exact shows_set hi (.bereaved process failure) rfl rfl
  | refused reason => exact shows_set hi (.ended _) rfl (Or.inl rfl)
  | overdue => exact shows_set hi (.ended _) rfl (Or.inl rfl)

theorem shows_graceEnded {stopped : Prop} {process : Nat} {failure : ChannelFailure}
    (hi : c.starts[i]? = some (.bereaved process failure)) (status : Option ExitStatus) :
    (c.graceEnded i status).1.Shows i (Handshake.parted failure status) stopped := by
  rw [graceEnded, hi]
  cases status with
  | some status => exact shows_set hi (.ended _) rfl (Or.inl rfl)
  | none => exact shows_set hi (.ended _) rfl (Or.inl rfl)

/-- A step shows how a handshake goes on, or that the start was stopped. -/
theorem shows_step {h : Handshake} {stopped : Prop} (hs : c.Shows i h stopped)
    (hstop : c.startResult? i = none → c.abortAsked = true → stopped) (input : ConnectionInput) :
    (c.step input).1.Shows i (h.next c.config i input) stopped := by
  obtain ⟨stage, hi, hstage⟩ := hs
  -- A start that is not meant stays; one that is meant stays too where the input does not fit.
  by_cases hinput : input.start? = some i
  case neg =>
    refine ⟨stage, start_step hinput hi, hstage.stay c.config ?_ ?_⟩
    · rintro process outcome taken - rfl
      exact hinput rfl
    · rintro process failure status - rfl
      exact hinput rfl
  case pos =>
    -- Only the answer and the exit move a handshake on.
    have hstay : (∀ outcome taken, input ≠ .openingEnded i outcome taken) →
        (∀ status, input ≠ .graceEnded i status) →
        c.Shows i (h.next c.config i input) stopped := by
      intro hanswer hexit
      exact ⟨stage, hi, hstage.stay c.config (fun _ outcome taken _ => hanswer outcome taken)
        (fun _ _ status _ => hexit status)⟩
    cases input <;> cases hinput
    case beginStart launching =>
      have hskip : c.beginStart i launching = (c, []) := by
        rw [beginStart, hi]
        cases stage with
        | created => cases hstage
        | _ => rfl
      rw [step, hskip]
      exact hstay (by simp) (by simp)
    case openingEnded outcome taken =>
      by_cases hopening : ∃ process, stage = .opening process
      · obtain ⟨process, rfl⟩ := hopening
        have hh : h = .opening := hstage
        subst hh
        rw [Handshake.next, if_pos rfl]
        exact shows_openingEnded hi outcome taken
      · have hskip : c.openingEnded i outcome taken = (c, []) := by
          rw [openingEnded, hi]
          cases stage with
          | opening process => exact absurd ⟨process, rfl⟩ hopening
          | _ => rfl
        rw [step, hskip]
        exact ⟨stage, hi, hstage.stay c.config
          (fun process _ _ heq => absurd ⟨process, heq⟩ hopening) (by simp)⟩
    case graceEnded status =>
      by_cases hbereaved : ∃ process failure, stage = .bereaved process failure
      · obtain ⟨process, failure, rfl⟩ := hbereaved
        have hh : h = .bereaved failure := hstage
        subst hh
        rw [Handshake.next, if_pos rfl]
        exact shows_graceEnded hi status
      · have hskip : c.graceEnded i status = (c, []) := by
          rw [graceEnded, hi]
          cases stage with
          | bereaved process failure => exact absurd ⟨process, failure, rfl⟩ hbereaved
          | _ => rfl
        rw [step, hskip]
        exact ⟨stage, hi, hstage.stay c.config (by simp)
          (fun process failure _ heq => absurd ⟨process, failure, heq⟩ hbereaved)⟩
    case abortSeen => exact shows_abortSeen (hstay (by simp) (by simp)) hstop
    case link => exact shows_link (hstay (by simp) (by simp))
    case dropStart => exact shows_dropStart (hstay (by simp) (by simp))

/-! ## Runs -/

/-- A stop looks at the phase for the first time in a run while a start has not ended. -/
def StopLooks (c : Connection) (i : Nat) (inputs : List ConnectionInput) : Prop :=
  ∃ before input after, inputs = before ++ input :: after ∧
    (c.run before).1.FirstLook input ∧ (c.run before).1.startResult? i = none

/-- A run shows how a handshake goes on, or that the start was stopped. -/
theorem shows_run {h : Handshake} {stopped : Prop} (hs : c.Shows i h stopped)
    (hstop : c.startResult? i = none → c.abortAsked = true → stopped)
    {inputs : List ConnectionInput} (hlooks : c.StopLooks i inputs → stopped) :
    (c.run inputs).1.Shows i (inputs.foldl (Handshake.next c.config i) h) stopped := by
  induction inputs generalizing c h with
  | nil => exact hs
  | cons input rest ih =>
      have hopen : (c.step input).1.startResult? i = none → c.startResult? i = none := by
        intro hnone
        cases hresult : c.startResult? i with
        | none => rfl
        | some result =>
            rw [startResult?_step hresult input] at hnone
            cases hnone
      -- The request to give up was there before, or it is made now by a stop that looks.
      have hrest := ih (shows_step hs hstop input) ?_ ?_
      · rw [(c.launch_step input).2] at hrest
        exact hrest
      · intro hnone hasked
        rcases abortAsked_step hasked with hasked | hfirst
        · exact hstop (hopen hnone) hasked
        · exact hlooks ⟨[], input, rest, rfl, hfirst, hopen hnone⟩
      · rintro ⟨before, look, after, rfl, hfirst, hnone⟩
        exact hlooks ⟨input :: before, look, after, rfl, hfirst, hnone⟩

/-- A start that enters shows how its process was launched. -/
theorem shows_beginStart {stopped : Prop} (hidle : c.phase = .idle)
    (hi : c.starts[i]? = some .created) (launching : Launching) :
    (c.step (.beginStart i launching)).1.Shows i
      (Handshake.launched c.launch c.config launching) stopped := by
  rw [step, beginStart, hi]
  simp only [hidle]
  cases launching with
  | noWorkspace failure => exact shows_set hi (.ended _) rfl (Or.inl rfl)
  | noProcess failure => exact shows_set hi (.ended _) rfl (Or.inl rfl)
  | spawned workspace => exact shows_set hi (.opening c.processes.length) rfl rfl

end Connection
end LanguageBridge
