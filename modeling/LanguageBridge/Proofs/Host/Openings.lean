import LanguageBridge.Proofs.Assembly.Forwarding
import LanguageBridge.Proofs.Sequence.Firsts
import LanguageBridge.Proofs.Text.Decoding
import LanguageBridge.Rehearsal.Hosted
import Mathlib.Data.List.Nodup

set_option autoImplicit false

/-! # Documents from the command line

The host opens the documents that its command line names, one after the other. Repetitions are
erased twice, in different ways: paths with the same components are opened once
(`Arguments.documents`), and the bridge opens no URI that is open, which is that of the canonical
path.

What a server is told is what arrives in its inbox. One path adds one notification to it, or
nothing (`World.openRequested_cases`). Between two paths time passes, and with it the channel may be
closed, so each path is tried with an outcome of its own (`World.Opens`). `Opened` says which
documents arrive in such a loop: a document arrives where it can be read, is in the scope and is not
open yet, and where the channel takes it. What went before matters in no other way.
-/

namespace LanguageBridge.Host

/-! ## Paths with the same components -/

theorem same_iff {p q : Path} : Path.same p q = true ↔ Path.components p = Path.components q :=
  beq_iff_eq

theorem firsts_documents (a : Arguments) : Firsts Path.same a.requested a.documents :=
  firsts_eraseDupsBy (fun _ => same_iff.mpr rfl)
    (fun _ _ _ h h' => same_iff.mpr ((same_iff.mp h).trans (same_iff.mp h'))) a.requested

/-- The documents of a plan are those of the command line that it was made from. -/
theorem documents_of_make {fs : FileSystem} {env : Environment} {a : Arguments} {plan : Plan}
    (h : Plan.make fs env a = .ok plan) : plan.documents = a.documents := by
  unfold Plan.make at h
  split at h
  case h_1 => cases h
  case h_2 =>
    dsimp only at h
    split at h
    · cases h
    · cases h
    · split at h
      · cases h
      · obtain rfl := Except.ok.inj h
        rfl

/-! ## Documents that are taken -/

/-- A document is in the scope of a session. -/
def InScope (s : Session) (document : Document) : Prop :=
  s.scope.selects document.uri.scheme document.language = true

/-- The documents that a session takes, each with its path, of those at paths that are tried in
turn. A path comes with whether the channel takes messages when it is tried. -/
structure Opened (fs : FileSystem) (s : Session) (tries : List (Path × Bool))
    (opened : List (Path × Document)) : Prop where
  inOrder : (opened.map Prod.fst).Sublist (tries.map Prod.fst)
  sound : ∀ o ∈ opened, (o.1, true) ∈ tries ∧ loadDocument fs o.1 = .ok o.2 ∧ InScope s o.2
  distinct : (opened.map fun o => o.2.uri).Nodup
  new : ∀ o ∈ opened, o.2.uri ∉ s.openDocuments
  complete : ∀ path document, (path, true) ∈ tries → loadDocument fs path = .ok document →
    InScope s document → document.uri ∈ s.openDocuments ∨ ∃ o ∈ opened, o.2.uri = document.uri

variable {fs : FileSystem} {s : Session} {tries : List (Path × Bool)}
  {opened : List (Path × Document)} {path : Path} {taken : Bool} {document : Document}

theorem Opened.nil : Opened fs s [] [] where
  inOrder := .slnil
  sound := fun _ ho => absurd ho List.not_mem_nil
  distinct := .nil
  new := fun _ ho => absurd ho List.not_mem_nil
  complete := fun _ _ hmem => absurd hmem List.not_mem_nil

/-- A path that is not opened, for whatever reason, leaves the rest as it would be without it. -/
theorem Opened.skip (h : Opened fs s tries opened)
    (hskip : ∀ document, taken = true → loadDocument fs path = .ok document →
      InScope s document → document.uri ∈ s.openDocuments) :
    Opened fs s ((path, taken) :: tries) opened where
  inOrder := h.inOrder.cons path
  sound := by
    intro o ho
    obtain ⟨hmem, hload, hscope⟩ := h.sound o ho
    exact ⟨List.mem_cons_of_mem _ hmem, hload, hscope⟩
  distinct := h.distinct
  new := h.new
  complete := by
    intro p d hmem hload hscope
    rcases List.mem_cons.mp hmem with heq | hmem
    · obtain ⟨rfl, rfl⟩ := Prod.mk.inj heq
      exact Or.inl (hskip d rfl hload hscope)
    · exact h.complete p d hmem hload hscope

/-- A document that is taken is open for the rest. -/
theorem Opened.take (hload : loadDocument fs path = .ok document) (hscope : InScope s document)
    (hnew : document.uri ∉ s.openDocuments)
    (h : Opened fs (s.track (.opened document)) tries opened) :
    Opened fs s ((path, true) :: tries) ((path, document) :: opened) where
  inOrder := h.inOrder.cons_cons path
  sound := by
    intro o ho
    rcases List.mem_cons.mp ho with rfl | ho
    · exact ⟨List.mem_cons_self, hload, hscope⟩
    · obtain ⟨hmem, hload, hscope⟩ := h.sound o ho
      exact ⟨List.mem_cons_of_mem _ hmem, hload, hscope⟩
  distinct := by
    refine List.pairwise_cons.mpr ⟨?_, h.distinct⟩
    intro uri huri
    obtain ⟨o, ho, rfl⟩ := List.mem_map.mp huri
    rintro heq
    refine h.new o ho ?_
    show o.2.uri ∈ s.openDocuments ++ [document.uri]
    rw [← heq]
    exact List.mem_append_right _ List.mem_cons_self
  new := by
    intro o ho
    rcases List.mem_cons.mp ho with rfl | ho
    · exact hnew
    · exact fun hopen => h.new o ho (List.mem_append_left _ hopen)
  complete := by
    intro p d hmem hload' hscope'
    rcases List.mem_cons.mp hmem with heq | hmem
    · obtain ⟨rfl, -⟩ := Prod.mk.inj heq
      rw [hload] at hload'
      cases hload'
      exact Or.inr ⟨_, List.mem_cons_self, rfl⟩
    · rcases h.complete p d hmem hload' hscope' with hopen | ⟨o, ho, huri⟩
      · rcases List.mem_append.mp hopen with hopen | hopen
        · exact Or.inl hopen
        · exact Or.inr ⟨_, List.mem_cons_self, (List.mem_singleton.mp hopen).symm⟩
      · exact Or.inr ⟨o, List.mem_cons_of_mem _ ho, huri⟩

theorem narrow_opened {kept : EditorEvent} : s.narrow (.opened document) = .ok kept ↔
    kept = .opened document ∧ InScope s document ∧ document.uri ∉ s.openDocuments := by
  simp only [Session.narrow, InScope]
  cases s.scope.selects document.uri.scheme document.language with
  | false => simp
  | true => by_cases hopen : document.uri ∈ s.openDocuments <;> simp [hopen, eq_comm]

end LanguageBridge.Host

/-! ## What arrives at a server -/

namespace LanguageBridge.Rehearsal.World

open Host (Arguments InScope Opened)

variable {w v : World} {s : Session} {k : Nat} {path : Path}

/-- The messages at the server of a connection that it has not read. -/
def inbox (w : World) (connection : Nat) : List Json :=
  match w.site? connection with
  | some site => site.server.inbox
  | none => []

/-- An event as the server gets it. -/
def notification (event : EditorEvent) : Json :=
  (Message.notification event.method event.params).toJson

theorem site?_updateSite (w : World) (connection : Nat) (change : Site → Site) :
    (w.updateSite connection change).site? connection = (w.site? connection).map change := by
  unfold site? updateSite
  induction w.sites with
  | nil => rfl
  | cons entry rest ih =>
      obtain ⟨k, site⟩ := entry
      by_cases hk : k = connection
      · simp [hk]
      · have hne : (connection == k) = false := beq_false_of_ne (Ne.symm hk)
        simpa [List.lookup_cons, hk, hne] using ih

/-- An event that is sent on an open channel arrives, and the channel stays open. -/
theorem site?_send (w : World) (connection : Nat) (event : EditorEvent) :
    (w.send connection (.event event)).site? connection
      = (w.site? connection).map fun site =>
          if site.channel.isOpen then
            ⟨site.channel, site.server.receive (notification event) w.clock⟩
          else site := by
  have hsend : ∀ c : Channel, c.send? w.processId (.event event)
      = if c.isOpen then some (c, .notification event.method event.params) else none := by
    intro c
    cases hopen : c.isOpen <;> simp only [Channel.send?, hopen] <;> rfl
  unfold send
  rw [site?_updateSite]
  refine congrArg (Option.map · (w.site? connection)) (funext fun site => ?_)
  rw [hsend]
  cases site.channel.isOpen <;> rfl

theorem inbox_send (w : World) (connection : Nat) (event : EditorEvent) :
    (w.send connection (.event event)).inbox connection
      = w.inbox connection ++ if w.takes connection then [notification event] else [] := by
  rw [inbox, site?_send, inbox, takes]
  cases w.site? connection with
  | none => rfl
  | some site =>
      simp only [Option.map_some]
      by_cases hopen : site.channel.isOpen = true
      · rw [if_pos hopen, if_pos hopen]
        rfl
      · rw [if_neg hopen, if_neg hopen, List.append_nil]

theorem takes_send (w : World) (connection : Nat) (event : EditorEvent) :
    (w.send connection (.event event)).takes connection = w.takes connection := by
  rw [takes, site?_send, takes]
  cases w.site? connection with
  | none => rfl
  | some site =>
      simp only [Option.map_some]
      split <;> rfl

/-! ## One path -/

/-- What stays the same while a host tries a path: the files, the agreement of the bridge with its
connections, that the bridge is ready, and whether the channel is open. -/
structure Steady (w v : World) (connection : Nat) : Prop where
  files : v.files = w.files
  agrees : v.assembly.Agrees
  ready : v.assembly.bridge.state = .ready
  takes : v.takes connection = w.takes connection

/-- A document is forwarded to a ready session: it arrives and is open, or nothing happens. -/
theorem forward_opened_cases (h : w.assembly.Agrees) (hready : w.assembly.bridge.state = .ready)
    (hs : w.assembly.bridge.session = some s) (document : Document) :
    Steady w (w.forward (.opened document)).1 s.connection ∧
      ((w.takes s.connection = true ∧ InScope s document ∧ document.uri ∉ s.openDocuments ∧
          (w.forward (.opened document)).1.inbox s.connection
            = w.inbox s.connection ++ [notification (.opened document)] ∧
          (w.forward (.opened document)).1.assembly.bridge.session
            = some (s.track (.opened document))) ∨
        ((w.takes s.connection = true → InScope s document → document.uri ∈ s.openDocuments) ∧
          (w.forward (.opened document)).1.inbox s.connection = w.inbox s.connection ∧
          (w.forward (.opened document)).1.assembly.bridge.session = some s)) := by
  cases hnarrow : s.narrow (.opened document) with
  | error delivery =>
      have hunhanded := Assembly.handed?_eq_none hs hnarrow
      obtain ⟨hsame, hsilent⟩ := Assembly.forward_unhanded hunhanded (some false)
      have hworld : (w.forward (.opened document)).1 = { w with moves := w.moves + 1 } := by
        simp only [World.forward, give, Assembly.step, hunhanded, hsame, hsilent, become,
          List.foldl_nil]
      rw [hworld]
      refine ⟨⟨rfl, h, hready, rfl⟩, Or.inr ⟨fun _ hscope => ?_, rfl, hs⟩⟩
      refine Decidable.byContradiction fun hnew => ?_
      rw [Host.narrow_opened.mpr ⟨rfl, hscope, hnew⟩] at hnarrow
      cases hnarrow
  | ok kept =>
      obtain ⟨rfl, hscope, hnew⟩ := Host.narrow_opened.mp hnarrow
      have hhanded := Assembly.handed?_eq_some hready hs hnarrow
      obtain ⟨hbridge, process, hsent⟩ :=
        h.forward_handed hready hs hnarrow (w.takes s.connection)
      have hagrees := (h.forward (.opened document) (some (w.takes s.connection))).1
      -- The world plays what the connection sends, in the world after the step.
      let next : World := { w with
        assembly := (w.assembly.forward (.opened document) (some (w.takes s.connection))).1
        moves := w.moves + 1 }
      have hworld : (w.forward (.opened document)).1
          = next.send s.connection (.event (.opened document)) := by
        simp only [World.forward, give, Assembly.step, hhanded, hsent, become]
        rfl
      have hinbox := next.inbox_send s.connection (.opened document)
      have htakes := next.takes_send s.connection (.opened document)
      have hframe : Steady w (next.send s.connection (.event (.opened document))) s.connection :=
        ⟨rfl, hagrees, (congrArg Bridge.state hbridge).trans (by split <;> exact hready), htakes⟩
      rw [hworld]
      refine ⟨hframe, ?_⟩
      by_cases htaken : w.takes s.connection = true
      case pos =>
        rw [if_pos (show next.takes s.connection = true from htaken)] at hinbox
        rw [if_pos htaken] at hbridge
        exact Or.inl ⟨htaken, hscope, hnew, hinbox, congrArg Bridge.session hbridge⟩
      case neg =>
        rw [if_neg (show ¬ next.takes s.connection = true from htaken), List.append_nil] at hinbox
        rw [if_neg htaken] at hbridge
        exact Or.inr ⟨fun h => absurd h htaken, hinbox,
          (congrArg Bridge.session hbridge).trans hs⟩

/-- A path whose document can be read is a forward, and an entry in the log. -/
theorem openRequested_ok {document : Document} (hload : loadDocument w.files path = .ok document) :
    ∃ logs, w.openRequested path = { (w.forward (.opened document)).1 with logs } := by
  unfold openRequested
  simp only [hload]
  split
  case h_1 heq => exact ⟨_, by rw [heq]; rfl⟩
  case h_2 heq => exact ⟨_, by rw [heq]; rfl⟩
  case h_3 heq => exact ⟨_, by rw [heq]⟩

theorem openRequested_error {e : Error} (hload : loadDocument w.files path = .error e) :
    w.openRequested path = w.log none (Host.skippedLogged path e) := by
  unfold openRequested
  simp only [hload]

/-- A host tries a path: the document at it arrives and is open, or nothing happens. -/
theorem openRequested_cases (h : w.assembly.Agrees) (hready : w.assembly.bridge.state = .ready)
    (hs : w.assembly.bridge.session = some s) (path : Path) :
    Steady w (w.openRequested path) s.connection ∧
      ((∃ document, loadDocument w.files path = .ok document ∧ w.takes s.connection = true ∧
          InScope s document ∧ document.uri ∉ s.openDocuments ∧
          (w.openRequested path).inbox s.connection
            = w.inbox s.connection ++ [notification (.opened document)] ∧
          (w.openRequested path).assembly.bridge.session = some (s.track (.opened document))) ∨
        ((∀ document, loadDocument w.files path = .ok document → w.takes s.connection = true →
            InScope s document → document.uri ∈ s.openDocuments) ∧
          (w.openRequested path).inbox s.connection = w.inbox s.connection ∧
          (w.openRequested path).assembly.bridge.session = some s)) := by
  cases hload : loadDocument w.files path with
  | error e =>
      rw [openRequested_error hload]
      refine ⟨⟨rfl, h, hready, rfl⟩, Or.inr ⟨fun document hdocument => ?_, rfl, hs⟩⟩
      cases hdocument
  | ok document =>
      obtain ⟨logs, hopen⟩ := openRequested_ok hload
      obtain ⟨⟨hfiles, hagrees, hstate, htakes⟩, hcases⟩ :=
        forward_opened_cases h hready hs document
      rw [hopen]
      refine ⟨⟨hfiles, hagrees, hstate, htakes⟩, ?_⟩
      rcases hcases with ⟨htaken, hscope, hnew, harrives, htracked⟩ | ⟨hskip, hsame, hheld⟩
      · exact Or.inl ⟨document, rfl, htaken, hscope, hnew, harrives, htracked⟩
      · refine Or.inr ⟨fun d hd => ?_, hsame, hheld⟩
        cases hd
        exact hskip

/-! ## The loop -/

/-- Time passes while the host waits. Attempts of connections go on, and the bridge sees their
ends; channels, servers and clocks do as they like. The files stay as they are. -/
structure Passes (w v : World) : Prop where
  files : v.files = w.files
  assembly : ∃ inputs, (∀ input ∈ inputs, input.Unattended) ∧
    v.assembly = (w.assembly.run inputs).1

/-- A host opens documents, path by path, and before each path time passes. Each path comes with
whether the channel of a connection takes messages when the path is tried. The messages are those
that arrive at the server of the connection because of the host. -/
inductive Opens (connection : Nat) : World → List (Path × Bool) → List Json → World → Prop where
  | done (w : World) : Opens connection w [] [] w
  | next {w v last : World} {path : Path} {tries : List (Path × Bool)} {sent others : List Json}
      (waits : w.Passes v)
      (arrive : (v.openRequested path).inbox connection = v.inbox connection ++ sent)
      (rest : Opens connection (v.openRequested path) tries others last) :
      Opens connection w ((path, v.takes connection) :: tries) (sent ++ others) last

/-- **What arrives while a host opens documents** are notifications of the documents that are
taken. -/
theorem Opens.opened {last : World} {tries : List (Path × Bool)} {messages : List Json}
    (h : Opens k w tries messages last) (hk : s.connection = k) (hagrees : w.assembly.Agrees)
    (hready : w.assembly.bridge.state = .ready) (hs : w.assembly.bridge.session = some s) :
    ∃ opened, Opened w.files s tries opened ∧
      messages = opened.map fun o => notification (.opened o.2) := by
  induction h generalizing s with
  | done w => exact ⟨[], .nil, rfl⟩
  | next waits arrive rest ih =>
      rename_i w v last path tries sent others
      subst hk
      obtain ⟨inputs, hinputs, hrun⟩ := waits.assembly
      obtain ⟨hagrees', hready', hs'⟩ := hagrees.unattended_run hready hinputs
      rw [← hrun] at hagrees' hready' hs'
      rw [hs] at hs'
      obtain ⟨hsteady, hcases⟩ := openRequested_cases hagrees' hready' hs' path
      rw [waits.files] at hcases
      rcases hcases with ⟨document, hload, htaken, hscope, hnew, harrives, htracked⟩ |
        ⟨hskip, hsame, hheld⟩
      · have hsent : sent = [notification (.opened document)] :=
          List.append_cancel_left (arrive.symm.trans harrives)
        have hconn : (s.track (.opened document)).connection = s.connection := rfl
        obtain ⟨opened, hopened, rfl⟩ := ih hconn hsteady.agrees hsteady.ready htracked
        rw [hsteady.files, waits.files] at hopened
        rw [htaken, hsent]
        exact ⟨_, hopened.take hload hscope hnew, rfl⟩
      · have hsent : sent = [] :=
          List.append_cancel_left (arrive.symm.trans (hsame.trans (List.append_nil _).symm))
        obtain ⟨opened, hopened, rfl⟩ := ih rfl hsteady.agrees hsteady.ready hheld
        rw [hsteady.files, waits.files] at hopened
        rw [hsent]
        exact ⟨opened, hopened.skip fun d htaken hload => hskip d hload htaken, rfl⟩

/-- The loop of a host opens the documents, without any time that passes in between. -/
theorem opens_foldl (h : w.assembly.Agrees) (hready : w.assembly.bridge.state = .ready)
    (hs : w.assembly.bridge.session = some s) (paths : List Path) :
    ∃ messages, Opens s.connection w (paths.map fun p => (p, w.takes s.connection)) messages
        (paths.foldl openRequested w) ∧
      (paths.foldl openRequested w).inbox s.connection = w.inbox s.connection ++ messages := by
  induction paths generalizing w s with
  | nil => exact ⟨[], .done w, (List.append_nil _).symm⟩
  | cons path rest ih =>
      obtain ⟨hsteady, hcases⟩ := openRequested_cases h hready hs path
      have hstays : w.Passes w := ⟨rfl, [], fun _ h => absurd h List.not_mem_nil, rfl⟩
      obtain ⟨sent, held, harrive, hheld, hconn⟩ : ∃ sent held,
          (w.openRequested path).inbox s.connection = w.inbox s.connection ++ sent ∧
          (w.openRequested path).assembly.bridge.session = some held ∧
          held.connection = s.connection := by
        rcases hcases with ⟨_, -, -, -, -, harrives, htracked⟩ | ⟨-, hsame, hheld⟩
        · exact ⟨_, _, harrives, htracked, rfl⟩
        · exact ⟨[], s, hsame.trans (List.append_nil _).symm, hheld, rfl⟩
      obtain ⟨messages, hopens, hinbox⟩ := ih hsteady.agrees hsteady.ready hheld
      rw [hconn, hsteady.takes] at hopens
      rw [hconn, harrive, List.append_assoc] at hinbox
      exact ⟨_, .next hstays harrive hopens, hinbox⟩

end LanguageBridge.Rehearsal.World

/-! ## Documents are opened once -/

namespace LanguageBridge.Host

open Rehearsal (World)

/-- **Documents of the command line are opened once.** Of the requested paths the host keeps the
first occurrences: no two of them have the same components, and every requested path has the
components of one that is kept. Let a bridge with its connections have come to be ready, with
nothing open. While the host opens the kept paths, the messages that arrive at the server of its
connection are notifications of documents, in the order of the paths; these are in the scope, and no
two have the same URI. A URI is among them exactly if a path that names it can be read, is in the
scope and is tried while the channel is open; other paths make no difference. So if the channel
stays open, each document that can be read and is in the scope arrives exactly once, however many
paths lead to it.

That holds of every loop in which time passes between the paths, whatever it brings. The loop in
which it does not is one of them, and its messages are all that arrives. It is what a host runs with
a plan from this command line, before it waits to be interrupted. -/
theorem documents_opened_once (a : Arguments) {config : ConnectionConfig}
    {inputs : List AssemblyInput} {w : World} {s : Session}
    (hrun : w.assembly = ((Assembly.idle config).run inputs).1)
    (hready : w.assembly.bridge.state = .ready) (hs : w.assembly.bridge.session = some s)
    (hnone : s.openDocuments = []) :
    Firsts Path.same a.requested a.documents ∧
      a.documents.Pairwise (fun p q => Path.components p ≠ Path.components q) ∧
      (∀ p ∈ a.requested, ∃ q ∈ a.documents, Path.components p = Path.components q) ∧
      (∀ (tries : List (Path × Bool)) (messages : List Json) (last : World),
        World.Opens s.connection w tries messages last → tries.map Prod.fst = a.documents →
        ∃ opened : List (Path × Document),
          (messages = opened.map fun o => World.notification (.opened o.2)) ∧
          (opened.map Prod.fst).Sublist a.documents ∧
          (∀ o ∈ opened, loadDocument w.files o.1 = .ok o.2 ∧ InScope s o.2) ∧
          (opened.map fun o => o.2.uri).Nodup ∧
          (∀ uri, uri ∈ opened.map (fun o => o.2.uri) ↔
            ∃ path document, (path, true) ∈ tries ∧ loadDocument w.files path = .ok document ∧
              InScope s document ∧ document.uri = uri) ∧
          ((∀ t ∈ tries, t.2 = true) → ∀ path ∈ a.documents, ∀ document,
            loadDocument w.files path = .ok document → InScope s document →
              (opened.map fun o => o.2.uri).count document.uri = 1)) ∧
      (∃ messages, World.Opens s.connection w
          (a.documents.map fun p => (p, w.takes s.connection)) messages
          (a.documents.foldl World.openRequested w) ∧
        (a.documents.foldl World.openRequested w).inbox s.connection
          = w.inbox s.connection ++ messages) ∧
      ∀ (fs : FileSystem) (env : Environment) (plan : Plan), Plan.make fs env a = .ok plan →
        w.attend plan = ((a.documents.foldl World.openRequested w).log none
          (runningLogged plan.workspace)).settle := by
  have hfirsts := firsts_documents a
  have hagrees : w.assembly.Agrees := by
    rw [hrun]
    exact (Assembly.Agrees.idle config).run inputs
  refine ⟨hfirsts, ?distinct, ?covered, ?opened,
    World.opens_foldl hagrees hready hs a.documents, ?host⟩
  case distinct =>
    refine hfirsts.distinct.imp fun hqp heq => ?_
    rw [same_iff.mpr heq.symm] at hqp
    cases hqp
  case covered =>
    intro p hp
    obtain ⟨q, hq, hpq⟩ := hfirsts.covers (fun _ => same_iff.mpr rfl)
      (fun _ _ _ h h' => same_iff.mpr ((same_iff.mp h).trans (same_iff.mp h'))) p hp
    exact ⟨q, hq, same_iff.mp hpq⟩
  case host =>
    intro fs env plan hplan
    rw [World.attend, documents_of_make hplan]
  case opened =>
    intro tries messages last hopens htries
    obtain ⟨opened, hopened, hmessages⟩ := hopens.opened rfl hagrees hready hs
    have hmem : ∀ uri, uri ∈ opened.map (fun o => o.2.uri) ↔
        ∃ path document, (path, true) ∈ tries ∧ loadDocument w.files path = .ok document ∧
          InScope s document ∧ document.uri = uri := by
      intro uri
      constructor
      · intro huri
        obtain ⟨o, ho, rfl⟩ := List.mem_map.mp huri
        obtain ⟨htry, hload, hscope⟩ := hopened.sound o ho
        exact ⟨o.1, o.2, htry, hload, hscope, rfl⟩
      · rintro ⟨path, document, htry, hload, hscope, rfl⟩
        rcases hopened.complete path document htry hload hscope with hopen | ⟨o, ho, huri⟩
        · rw [hnone] at hopen
          cases hopen
        · exact List.mem_map.mpr ⟨o, ho, huri⟩
    refine ⟨opened, hmessages, htries ▸ hopened.inOrder, fun o ho => (hopened.sound o ho).2,
      hopened.distinct, hmem, ?_⟩
    intro hall path hpath document hload hscope
    rw [← htries] at hpath
    obtain ⟨t, ht, rfl⟩ := List.mem_map.mp hpath
    have htry : (t.1, true) ∈ tries := by
      rw [← hall t ht]
      exact ht
    exact List.count_eq_one_of_mem hopened.distinct
      ((hmem document.uri).mpr ⟨t.1, document, htry, hload, hscope, rfl⟩)

/-- A directory with a Ruby file, a link to it, and a text. -/
def shelf : FileSystem where
  root := [(Path.ofText "a.rb", .file (Text.utf8Bytes "1") false),
    (Path.ofText "b.rb", .link (Path.ofText "a.rb")),
    (Path.ofText "c.txt", .file (Text.utf8Bytes "2") false)]
  current := Path.ofText "/"

/-- A command line that asks for the file twice, for the link, for a file that is not there, and
for the text. -/
def eager : Arguments :=
  ⟨Path.ofText ".", none, none, false,
    ["/a.rb", "//./a.rb", "/b.rb", "/d.rb", "/c.txt"].map Path.ofText, "info", false⟩

/-- A bridge for Ruby files is activated, and its server starts. -/
def welcome : List AssemblyInput :=
  [.activate ⟨"ti-lsp", [], []⟩ ⟨[⟨fileScheme, "ruby"⟩], []⟩ true,
    .progress 0 (.beginStart 0 (.spawned (Path.ofText "/"))),
    .progress 0 (.openingEnded 0 (.accepted ⟨none, none⟩) true), .progress 0 (.link 0),
    .startSeen 0 .willing]

/-- A world in which that has happened, with a server that has read everything. -/
def attentive : World :=
  { World.quiet ((Assembly.idle .usual).run welcome).1 shelf (fun _ _ => none) 1 with
    sites := [(0, ⟨Channel.fresh, Rehearsal.Server.spawned World.idleProgram .null 0⟩)] }

/-- The file arrives once. -/
theorem linked_file_opened_once :
    eager.documents = ["/a.rb", "/b.rb", "/d.rb", "/c.txt"].map Path.ofText ∧
      ∃ (s : Session) (opened : List (Path × Document)),
        attentive.assembly.bridge.state = .ready ∧
        attentive.assembly.bridge.session = some s ∧ s.openDocuments = [] ∧
        ((eager.documents.foldl World.openRequested attentive).inbox s.connection
          = opened.map fun o => World.notification (.opened o.2)) ∧
        (opened.map fun o => o.2.uri).count ⟨"file", some Uri.noHost, "/a.rb", none, none⟩ = 1 := by
  have hrun : attentive.assembly = ((Assembly.idle .usual).run welcome).1 := rfl
  have hready : attentive.assembly.bridge.state = .ready := rfl
  obtain ⟨s, hs, hscope, hnone, hempty, htakes⟩ : ∃ s, attentive.assembly.bridge.session = some s ∧
      s.scope = ⟨[⟨fileScheme, "ruby"⟩], []⟩ ∧ s.openDocuments = [] ∧
      attentive.inbox s.connection = [] ∧ attentive.takes s.connection = true :=
    ⟨_, rfl, rfl, rfl, rfl, rfl⟩
  obtain ⟨-, -, -, hloops, ⟨messages, hopens, hinbox⟩, -⟩ :=
    documents_opened_once eager hrun hready hs hnone
  have htries : (eager.documents.map fun p => (p, attentive.takes s.connection)).map Prod.fst
      = eager.documents := by
    rw [List.map_map]
    exact List.map_id _
  have hall : ∀ t ∈ eager.documents.map fun p => (p, attentive.takes s.connection),
      t.2 = true := by
    intro t ht
    obtain ⟨p, -, rfl⟩ := List.mem_map.mp ht
    exact htakes
  obtain ⟨opened, rfl, -, -, -, -, hcount⟩ := hloops _ _ _ hopens htries
  rw [hempty, List.nil_append] at hinbox
  have hload : loadDocument shelf (Path.ofText "/b.rb")
      = .ok ⟨⟨"file", some Uri.noHost, "/a.rb", none, none⟩, "ruby", 0, "1"⟩ := by
    have huri : pathToUri shelf (Path.ofText "/b.rb")
        = .ok ⟨"file", some Uri.noHost, "/a.rb", none, none⟩ := rfl
    have hnode : shelf.node (Path.ofText "/b.rb") = .ok (.file (Text.utf8Bytes "1") false) := rfl
    have hextension : Path.extension? (Path.ofText "/b.rb") = some (Text.utf8Bytes "rb") := rfl
    have htext : Text.decode? (Text.utf8Bytes "1") = some "1" :=
      Text.decode?_utf8Bytes_of_ascii (by simp)
    have hrb : Text.decode? (Text.utf8Bytes "rb") = some "rb" :=
      Text.decode?_utf8Bytes_of_ascii (by simp)
    simp only [loadDocument, huri, FileSystem.readText, hnode, htext, languageForPath?, hextension,
      Option.bind_some, hrb]
    rfl
  refine ⟨by decide, s, opened, hready, hs, hnone, hinbox, ?_⟩
  refine hcount hall (Path.ofText "/b.rb") (by decide) _ hload ?_
  rw [InScope, hscope]
  rfl

end LanguageBridge.Host
