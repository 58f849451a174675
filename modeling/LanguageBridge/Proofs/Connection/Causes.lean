import LanguageBridge.Proofs.Connection.SingleUse

set_option autoImplicit false

/-! # Why a start fails

Every failure of a handshake has a cause among the inputs of the run: `Handshake.Cause` lists the
five causes with the failure that each of them is reported as, and `cause_run` says that there are
no others.

From this follows how the failures are classified (`failure_kind_of_reply`). As long as the process
of a start lives with its pipes open, the kind of its failure depends on the reply of the server
alone: a refusal and silence count as a failed handshake, but a result that cannot be read counts as
a lost channel.
-/

namespace LanguageBridge

/-- What a server that is there makes of the request that opens the conversation. -/
inductive Reply where
  /-- A result, of whatever shape. -/
  | result (value : Json)
  | refused (error : ResponseError)
  /-- Nothing in time. -/
  | silence

namespace Reply

/-- How the opening ends for the client. -/
def outcome : Reply → OpeningOutcome
  | result value => .ofCall (.result value)
  | refused error => .ofCall (.refused error)
  | silence => .overdue

/-- The reply is a result that can be read. -/
def Readable (reply : Reply) : Prop :=
  ∃ value, reply = result value ∧ Protocol.openingResult value = .ok ()

/-- The reply is a result that cannot be read. -/
def Misshapen (reply : Reply) : Prop :=
  ∃ value complaint, reply = result value ∧ Protocol.openingResult value = .error complaint

variable {reply : Reply}

theorem not_misshapen_of_readable (h : reply.Readable) : ¬ reply.Misshapen := by
  obtain ⟨value, rfl, hok⟩ := h
  rintro ⟨other, complaint, heq, herror⟩
  cases heq
  rw [hok] at herror
  cases herror

theorem readable_of_accepted {info : ServerInfo} (h : reply.outcome = .accepted info) :
    reply.Readable := by
  cases reply with
  | result value =>
      simp only [outcome, OpeningOutcome.ofCall] at h
      split at h
      case h_1 hok => exact ⟨value, rfl, hok⟩
      case h_2 => cases h
  | refused error => cases h
  | silence => cases h

theorem accepted_of_readable (h : reply.Readable) :
    ∃ info, reply.outcome = .accepted info := by
  obtain ⟨value, rfl, hok⟩ := h
  exact ⟨ServerInfo.ofResult value, by simp only [outcome, OpeningOutcome.ofCall, hok]⟩

theorem misshapen_of_failed {failure : ChannelFailure} (h : reply.outcome = .failed failure) :
    reply.Misshapen := by
  cases reply with
  | result value =>
      simp only [outcome, OpeningOutcome.ofCall] at h
      split at h
      case h_1 => cases h
      case h_2 complaint herror => exact ⟨value, complaint, rfl, herror⟩
  | refused error => cases h
  | silence => cases h

theorem failed_of_misshapen (h : reply.Misshapen) :
    ∃ failure, reply.outcome = .failed failure := by
  obtain ⟨value, complaint, rfl, herror⟩ := h
  exact ⟨.malformed complaint, by simp only [outcome, OpeningOutcome.ofCall, herror]⟩

end Reply

/-- An input that can happen while the process of a start lives with its pipes open and the server
makes this reply: the opening ends by the reply, the message after a good reply is taken, and the
process is not seen to exit. -/
def ConnectionInput.FromLive (i : Nat) (reply : Reply) : ConnectionInput → Prop
  | .openingEnded k outcome taken =>
    k = i → outcome = reply.outcome ∧ ∀ info, outcome = .accepted info → taken = true
  | .graceEnded k status => k = i → status = none
  | _ => True

/-- The channel of a start was lost in a run: it gave no answer to the opening, or it did not take
the message after a good one. -/
def ChannelLost (i : Nat) (inputs : List ConnectionInput) : Prop :=
  (∃ taken, .openingEnded i (.failed .closed) taken ∈ inputs) ∨
    ∃ info, .openingEnded i (.accepted info) false ∈ inputs

namespace Handshake

variable {config : ConnectionConfig} {i : Nat} {h : Handshake} {seen : List ConnectionInput}

/-! ## Causes -/

/-- What among the inputs makes the handshake of a start fail, and as what it is reported. -/
inductive Cause (config : ConnectionConfig) (i : Nat) (seen : List ConnectionInput) :
    ConnectionFailure → Prop where
  /-- The server refused. -/
  | refused (reason : String) (taken : Bool)
    (hopening : .openingEnded i (.refused reason) taken ∈ seen) :
    Cause config i seen (.handshake ("initialize request rejected: " ++ reason))
  /-- The server did not answer in time. -/
  | overdue (taken : Bool) (hopening : .openingEnded i .overdue taken ∈ seen) :
    Cause config i seen
      (.handshake ("no initialize response within " ++ config.initTimeout.text))
  /-- The channel failed, and the process was seen to exit. -/
  | exited (failure : ChannelFailure) (taken : Bool) (status : ExitStatus)
    (hopening : .openingEnded i (.failed failure) taken ∈ seen)
    (hgrace : .graceEnded i (some status) ∈ seen) :
    Cause config i seen
      (.handshake ("server exited before completing the handshake (" ++ status.text ++ ")"))
  /-- The channel failed, and the process was not seen to exit. -/
  | lost (failure : ChannelFailure) (taken : Bool)
    (hopening : .openingEnded i (.failed failure) taken ∈ seen)
    (hgrace : .graceEnded i none ∈ seen) :
    Cause config i seen (.transport ("connection lost during handshake: " ++ failure.message))
  /-- The server is there, but the channel did not take the message after that. -/
  | unsaid (info : ServerInfo) (hopening : .openingEnded i (.accepted info) false ∈ seen) :
    Cause config i seen
      (.transport ("initialized notification failed: " ++ ChannelFailure.closed.message))

/-- What has come of a handshake has its cause among the inputs. -/
def Founded (config : ConnectionConfig) (i : Nat) (seen : List ConnectionInput) :
    Handshake → Prop
  | opening => True
  | bereaved failure => ∃ taken, .openingEnded i (.failed failure) taken ∈ seen
  | ended none => ∃ info, .openingEnded i (.accepted info) true ∈ seen
  | ended (some f) => Cause config i seen f

theorem Cause.mono {f : ConnectionFailure} {more : List ConnectionInput}
    (hcause : Cause config i seen f) (hsub : seen ⊆ more) : Cause config i more f := by
  cases hcause with
  | refused reason taken hopening => exact .refused reason taken (hsub hopening)
  | overdue taken hopening => exact .overdue taken (hsub hopening)
  | exited failure taken status hopening hgrace =>
      exact .exited failure taken status (hsub hopening) (hsub hgrace)
  | lost failure taken hopening hgrace => exact .lost failure taken (hsub hopening) (hsub hgrace)
  | unsaid info hopening => exact .unsaid info (hsub hopening)

theorem Founded.mono {more : List ConnectionInput} (hf : h.Founded config i seen)
    (hsub : seen ⊆ more) : h.Founded config i more := by
  cases h with
  | opening => trivial
  | bereaved failure =>
      obtain ⟨taken, hmem⟩ := hf
      exact ⟨taken, hsub hmem⟩
  | ended failure =>
      cases failure with
      | none =>
          obtain ⟨info, hmem⟩ := hf
          exact ⟨info, hsub hmem⟩
      | some f => exact Cause.mono hf hsub

/-- An answer to the opening is the cause of what comes of it. -/
theorem founded_answered {outcome : OpeningOutcome} {taken : Bool}
    (hmem : .openingEnded i outcome taken ∈ seen) :
    (answered config taken outcome).Founded config i seen := by
  cases outcome with
  | accepted info =>
      cases taken with
      | true => exact ⟨info, hmem⟩
      | false => exact Cause.unsaid info hmem
  | refused reason => exact Cause.refused reason taken hmem
  | failed failure => exact ⟨taken, hmem⟩
  | overdue => exact Cause.overdue taken hmem

/-- What comes of a failed channel is caused by it, and by the exit of the process. -/
theorem founded_parted {failure : ChannelFailure} {status : Option ExitStatus}
    (hbereaved : (bereaved failure).Founded config i seen)
    (hmem : .graceEnded i status ∈ seen) : (parted failure status).Founded config i seen := by
  obtain ⟨taken, hopening⟩ := hbereaved
  cases status with
  | none => exact Cause.lost failure taken hopening hmem
  | some status => exact Cause.exited failure taken status hopening hmem

theorem Founded.next (hf : h.Founded config i seen) (input : ConnectionInput) :
    (h.next config i input).Founded config i (seen ++ [input]) := by
  have hkept : h.Founded config i (seen ++ [input]) := hf.mono (List.subset_append_left ..)
  have hnew : input ∈ seen ++ [input] := List.mem_append_right _ (List.mem_singleton_self _)
  unfold Handshake.next
  split
  · split
    case isTrue heq =>
      subst heq
      exact founded_answered hnew
    case isFalse => exact hkept
  · split
    case isTrue heq =>
      subst heq
      exact founded_parted hkept hnew
    case isFalse => exact hkept
  · exact hkept

/-- In every run a handshake comes to what the inputs cause. -/
theorem founded_run (hf : h.Founded config i seen) (inputs : List ConnectionInput) :
    (inputs.foldl (Handshake.next config i) h).Founded config i (seen ++ inputs) := by
  induction inputs generalizing h seen with
  | nil =>
      rw [List.append_nil]
      exact hf
  | cons input rest ih =>
      have hrest := ih (hf.next input)
      rw [List.append_assoc] at hrest
      exact hrest

/-! ## Kinds -/

/-- A failed handshake counts as a lost channel only if the channel was lost, or a result could not
be read. -/
theorem Cause.of_transport {reason : String} (hcause : Cause config i seen (.transport reason)) :
    ChannelLost i seen ∨
      ∃ complaint taken, .openingEnded i (.failed (.malformed complaint)) taken ∈ seen := by
  generalize hf : ConnectionFailure.transport reason = f at hcause
  cases hcause with
  | refused reason' taken hopening => cases hf
  | overdue taken hopening => cases hf
  | exited failure taken status hopening hgrace => cases hf
  | lost failure taken hopening hgrace =>
      cases failure with
      | closed => exact Or.inl (Or.inl ⟨taken, hopening⟩)
      | malformed complaint => exact Or.inr ⟨complaint, taken, hopening⟩
  | unsaid info hopening => exact Or.inl (Or.inr ⟨info, hopening⟩)

/-- While the process lives with its pipes open, a failed handshake was not caused by a readable
reply; it counts as a lost channel if the reply is misshapen, and as a handshake otherwise. -/
theorem Cause.of_live {reply : Reply} {f : ConnectionFailure} (hcause : Cause config i seen f)
    (hlive : ∀ input ∈ seen, input.FromLive i reply) :
    ¬ reply.Readable ∧ (f.kind = .transport ∧ reply.Misshapen ∨
      f.kind = .handshake ∧ ¬ reply.Misshapen) := by
  -- The reply that ends the opening in another way is neither readable nor misshapen.
  have hother : ∀ {outcome : OpeningOutcome} {taken : Bool},
      .openingEnded i outcome taken ∈ seen → (∀ info, outcome ≠ .accepted info) →
      (∀ failure, outcome ≠ .failed failure) → ¬ reply.Readable ∧ ¬ reply.Misshapen := by
    intro outcome taken hmem haccepted hfailed
    obtain ⟨rfl, -⟩ := hlive _ hmem rfl
    constructor
    · intro hread
      obtain ⟨info, hinfo⟩ := Reply.accepted_of_readable hread
      exact haccepted info hinfo
    · intro hmiss
      obtain ⟨failure, hfailure⟩ := Reply.failed_of_misshapen hmiss
      exact hfailed failure hfailure
  cases hcause with
  | refused reason taken hopening =>
      obtain ⟨hread, hmiss⟩ := hother hopening nofun nofun
      exact ⟨hread, Or.inr ⟨rfl, hmiss⟩⟩
  | overdue taken hopening =>
      obtain ⟨hread, hmiss⟩ := hother hopening nofun nofun
      exact ⟨hread, Or.inr ⟨rfl, hmiss⟩⟩
  | exited failure taken status hopening hgrace =>
      have hnone : some status = none := hlive _ hgrace rfl
      cases hnone
  | lost failure taken hopening hgrace =>
      obtain ⟨heq, -⟩ := hlive _ hopening rfl
      have hmiss := Reply.misshapen_of_failed heq.symm
      exact ⟨fun hread => Reply.not_misshapen_of_readable hread hmiss, Or.inl ⟨rfl, hmiss⟩⟩
  | unsaid info hopening =>
      obtain ⟨-, htaken⟩ := hlive _ hopening rfl
      cases htaken info rfl

end Handshake

namespace Connection

/-- **The kind of a failed start.** In every run of a connection, a start that entered with its
process returns that it was stopped, and then a stop looked at the phase before it returned, or it
is classified as follows.

Its failure counts as a lost channel only if the channel was lost, or if the result of the opening
could not be read. And if the process lives with its pipes open until the start returns, the reply
to the opening decides: the start succeeds exactly if the reply is a result that can be read, its
failure counts as a lost channel exactly if the reply is a result that cannot be read, and it counts
as a failed handshake exactly otherwise. -/
theorem failure_kind_of_reply (launch : Launch) (scope : Scope) (config : ConnectionConfig)
    (pre post : List ConnectionInput) (i : Nat) (workspace : Path)
    (result : Option ConnectionFailure)
    (hi : ((fresh launch scope config).run pre).1.starts[i]? = some .created)
    (hidle : ((fresh launch scope config).run pre).1.phase = .idle)
    (hresult : ((fresh launch scope config).run
      (pre ++ .beginStart i (.spawned workspace) :: post)).1.startResult? i = some result) :
    (result = some .stopped ∧
      (((fresh launch scope config).run pre).1.step
        (.beginStart i (.spawned workspace))).1.StopLooks i post) ∨
    ((∀ reason, result = some (.transport reason) → ChannelLost i post ∨
        ∃ complaint taken, .openingEnded i (.failed (.malformed complaint)) taken ∈ post) ∧
      ∀ reply, (∀ input ∈ post, input.FromLive i reply) →
        (result = none ↔ reply.Readable) ∧
          ∀ f, result = some f →
            (f.kind = .transport ↔ reply.Misshapen) ∧
              (f.kind = .handshake ↔ ¬ reply.Misshapen)) := by
  obtain ⟨m, -, hlives⟩ := (Lives.fresh launch scope config).run pre
  have hentered := (entered?_beginStart hi (.spawned workspace)).mpr hidle
  rw [run_append] at hresult
  rcases startResult?_entered hlives hi hentered hresult with hstopped | ⟨-, hended⟩
  · exact Or.inl hstopped
  · have hopening : Handshake.opening.Founded config i [] := trivial
    have hfounded := Handshake.founded_run hopening post
    rw [(launch_run _ pre).1, (launch_run _ pre).2] at hended
    rw [List.nil_append, show Handshake.opening = Handshake.launched launch config
      (.spawned workspace) from rfl] at hfounded
    have hcause : (Handshake.ended result).Founded config i post := hended ▸ hfounded
    refine Or.inr ⟨?_, ?_⟩
    · rintro reason rfl
      exact Handshake.Cause.of_transport hcause
    · intro reply hlive
      cases result with
      | none =>
          obtain ⟨info, hopening⟩ := hcause
          obtain ⟨heq, -⟩ := hlive _ hopening rfl
          exact ⟨⟨fun _ => Reply.readable_of_accepted heq.symm, fun _ => rfl⟩, nofun⟩
      | some f =>
          obtain ⟨hread, hkind⟩ := Handshake.Cause.of_live hcause hlive
          refine ⟨⟨nofun, fun h => absurd h hread⟩, ?_⟩
          rintro g ⟨⟩
          rcases hkind with ⟨htransport, hmiss⟩ | ⟨hhandshake, hmiss⟩
          · rw [htransport]
            simp [hmiss]
          · rw [hhandshake]
            simp [hmiss]

/-- A start whose opening ends by a reply, while its process lives with its pipes open. -/
def repliedTo (reply : Reply) : List ConnectionInput :=
  [.openingEnded 0 reply.outcome true, .graceEnded 0 none]

/-- A connection that was asked for a start. -/
def asked : Connection := fresh ⟨"ti-lsp", [], []⟩ ⟨[], []⟩ .usual

theorem fromLive_repliedTo (reply : Reply) :
    ∀ input ∈ repliedTo reply, input.FromLive 0 reply := by
  simp [repliedTo, ConnectionInput.FromLive]

/-- A refusal counts as a failed handshake. -/
theorem refused_is_handshake :
    ∃ f, (asked.run ([.start] ++ .beginStart 0 (.spawned [0x2F])
        :: repliedTo (.refused ⟨-32600, "no", none⟩))).1.startResult? 0 = some (some f) ∧
      f.kind = .handshake := by
  have hresult : (asked.run ([.start] ++ .beginStart 0 (.spawned [0x2F])
        :: repliedTo (.refused ⟨-32600, "no", none⟩))).1.startResult? 0
      = some (some (.handshake "initialize request rejected: no (jsonrpc error -32600)")) := by
    decide
  refine ⟨_, hresult, ?_⟩
  rcases failure_kind_of_reply _ _ _ [.start] (repliedTo (.refused ⟨-32600, "no", none⟩)) 0 [0x2F]
    _ rfl rfl hresult with ⟨hstopped, -⟩ | ⟨-, hreply⟩
  · cases hstopped
  · refine ((hreply _ (fromLive_repliedTo _)).2 _ rfl).2.mpr ?_
    rintro ⟨value, complaint, heq, -⟩
    cases heq

/-- A result that cannot be read counts as a lost channel, though the channel is there. -/
theorem number_is_transport :
    (∀ input ∈ repliedTo (.result (.ofInt 5)), input.FromLive 0 (.result (.ofInt 5))) ∧
      ¬ ChannelLost 0 (repliedTo (.result (.ofInt 5))) ∧
      ∃ f, (asked.run ([.start] ++ .beginStart 0 (.spawned [0x2F])
          :: repliedTo (.result (.ofInt 5)))).1.startResult? 0 = some (some f) ∧
        f.kind = .transport ∧ f.kind ≠ .handshake := by
  refine ⟨fromLive_repliedTo _, ?_, ?_⟩
  · have houtcome : (Reply.result (.ofInt 5)).outcome
        = .failed (.malformed "invalid type: integer `5`, expected struct InitializeResult") := by
      decide
    simp [ChannelLost, repliedTo, houtcome]
  · refine ⟨.transport ("connection lost during handshake: deserialization failed: "
      ++ "invalid type: integer `5`, expected struct InitializeResult"), ?_, rfl, nofun⟩
    decide

end Connection
end LanguageBridge
