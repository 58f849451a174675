import LanguageBridge.Connection.Run

set_option autoImplicit false

/-! # The life of a connection

Whatever its callers do, a connection lives a simple life. `Life` names where it is: who holds the
process, and how far the conversation has come. `Life.Step` lists the steps from one place to the
next, with everything that is done on the way but the logging, and `Life.Trace` strings them
together.

Two things can be read off a trace. The phases that are published are a walk (`Trace.walk`), and
so a phase that was left does not come back. And the messages to the server are the beginning of
one conversation (`Trace.conversation`), whose middle is made of editor events.
-/

namespace LanguageBridge

/-- Where a connection is in its life. -/
inductive Life where
  | unused
  | cancelled
  /-- A start waits for the answer to the opening, or for the exit of a process that lost its
  channel. -/
  | opening (i : Nat)
  /-- A start has the answer, and it waits for the slot. -/
  | linking (i : Nat)
  /-- The process is in the slot. -/
  | running
  /-- A stop waits for the answer to the shutdown. -/
  | closing (j : Nat)
  /-- A stop waits for the exit of the process. -/
  | reaping (j : Nat)
  /-- Nobody holds a process, and nobody ever will. -/
  | gone
deriving DecidableEq, Repr

namespace Life

/-- The phase that a connection shows. -/
def phase : Life → ConnectionPhase
  | unused => .idle
  | cancelled => .cancelled
  | opening _ => .starting
  | linking _ => .starting
  | running => .running
  | closing _ => .closed
  | reaping _ => .closed
  | gone => .closed

/-- The steps of a life, each with what is done. The only process has the number 0. -/
inductive Step : Life → List ConnectionEffect → Life → Prop where
  | rest (l : Life) : Step l [] l
  | cancel : Step unused [.publish .cancelled] cancelled
  /-- The process of a start cannot be launched. -/
  | misfire : Step unused [.publish .starting, .publish .closed] gone
  | spawn (i : Nat) (workspace : Path) :
    Step unused [.publish .starting, .spawn 0, .send 0 (.opening workspace)] (opening i)
  | answer (i : Nat) : Step (opening i) [.send 0 .opened] (linking i)
  /-- The process of a start exits by itself. -/
  | depart (i : Nat) : Step (opening i) [.publish .closed] gone
  /-- A start fails, or it is given up. -/
  | fail (i : Nat) : Step (opening i) [.letGo 0, .publish .closed] gone
  /-- A start has the answer, but the channel does not take what follows it. -/
  | choke (i : Nat) : Step (opening i) [.send 0 .opened, .letGo 0, .publish .closed] gone
  | link (i : Nat) : Step (linking i) [.publish .running] running
  /-- A start is given up although the answer is there. -/
  | giveUp (i : Nat) : Step (linking i) [.letGo 0, .publish .closed] gone
  | tell (event : EditorEvent) : Step running [.send 0 (.event event)] running
  | unlink (j : Nat) : Step running [.publish .closed, .send 0 .shutdown] (closing j)
  /-- A stop finds the slot empty. -/
  | miss (l : Life) (h : l.phase = .closed) : Step l [.publish .closed] l
  | dismiss (j : Nat) : Step (closing j) [.send 0 .exit] (reaping j)
  | reap (j : Nat) : Step (reaping j) [] gone
  | kill (j : Nat) : Step (reaping j) [.kill 0] gone
  /-- A stop is given up before the answer to the shutdown. -/
  | abandon (j : Nat) : Step (closing j) [.letGo 0] gone
  /-- A stop is given up after the answer, or it can neither wait for the process nor kill it. -/
  | desert (j : Nat) : Step (reaping j) [.letGo 0] gone

/-- Steps one after the other. -/
inductive Trace : Life → List ConnectionEffect → Life → Prop where
  | nil (l : Life) : Trace l [] l
  | cons {l m n : Life} {effects others : List ConnectionEffect} (first : Step l effects m)
    (rest : Trace m others n) : Trace l (effects ++ others) n

end Life

/-! ## Phases -/

/-- The moves between phases. -/
inductive ConnectionPhase.Move : ConnectionPhase → ConnectionPhase → Prop where
  | start : Move .idle .starting
  | cancel : Move .idle .cancelled
  | run : Move .starting .running
  | fail : Move .starting .closed
  | close : Move .running .closed

/-- The published phases lead from one phase to another, each by a move; only the closed phase may
be published again. -/
inductive ConnectionPhase.Walk : ConnectionPhase → List ConnectionPhase → ConnectionPhase → Prop
  where
  | here (p : ConnectionPhase) : Walk p [] p
  | move {p q r : ConnectionPhase} {rest : List ConnectionPhase} (h : Move p q)
    (tail : Walk q rest r) : Walk p (q :: rest) r
  | again {r : ConnectionPhase} {rest : List ConnectionPhase} (tail : Walk .closed rest r) :
    Walk .closed (.closed :: rest) r

namespace ConnectionPhase

theorem Walk.append {p q r : ConnectionPhase} {before after : List ConnectionPhase}
    (h : Walk p before q) (h' : Walk q after r) : Walk p (before ++ after) r := by
  induction h with
  | here p => exact h'
  | move hmove tail ih => exact .move hmove (ih h')
  | again tail ih => exact .again (ih h')

/-- A closed connection stays closed. -/
theorem Walk.of_closed {q : ConnectionPhase} {phases : List ConnectionPhase}
    (h : Walk .closed phases q) : q = .closed ∧ ∀ p ∈ phases, p = .closed := by
  induction phases with
  | nil =>
      cases h
      exact ⟨rfl, nofun⟩
  | cons p rest ih =>
      cases h with
      | move hmove tail => cases hmove
      | again tail =>
          obtain ⟨hq, hrest⟩ := ih tail
          exact ⟨hq, List.forall_mem_cons.mpr ⟨rfl, hrest⟩⟩

/-- A cancelled connection publishes nothing any more. -/
theorem Walk.of_cancelled {q : ConnectionPhase} {phases : List ConnectionPhase}
    (h : Walk .cancelled phases q) : q = .cancelled ∧ phases = [] := by
  cases h with
  | here => exact ⟨rfl, rfl⟩
  | move hmove tail => cases hmove

/-- A connection that has started never starts again, and it is never cancelled. -/
theorem Walk.of_started {p q : ConnectionPhase} {phases : List ConnectionPhase}
    (h : Walk p phases q) (hidle : p ≠ .idle) (hcancelled : p ≠ .cancelled) :
    (∀ r ∈ phases, r ≠ .starting ∧ r ≠ .cancelled) ∧ q ≠ .idle ∧ q ≠ .cancelled := by
  induction h with
  | here p => exact ⟨nofun, hidle, hcancelled⟩
  | move hmove tail ih =>
      cases hmove with
      | start => exact absurd rfl hidle
      | cancel => exact absurd rfl hidle
      | run => exact ⟨List.forall_mem_cons.mpr ⟨⟨nofun, nofun⟩, (ih nofun nofun).1⟩,
          (ih nofun nofun).2⟩
      | fail => exact ⟨List.forall_mem_cons.mpr ⟨⟨nofun, nofun⟩, (ih nofun nofun).1⟩,
          (ih nofun nofun).2⟩
      | close => exact ⟨List.forall_mem_cons.mpr ⟨⟨nofun, nofun⟩, (ih nofun nofun).1⟩,
          (ih nofun nofun).2⟩
  | again tail ih =>
      exact ⟨List.forall_mem_cons.mpr ⟨⟨nofun, nofun⟩, (ih hidle hcancelled).1⟩,
        (ih hidle hcancelled).2⟩

/-- A connection that started is neither idle nor cancelled. -/
theorem Walk.of_starting_mem {q : ConnectionPhase} {phases : List ConnectionPhase}
    (h : Walk .idle phases q) (hmem : .starting ∈ phases) : q ≠ .idle ∧ q ≠ .cancelled := by
  cases h with
  | here => cases hmem
  | move hmove tail =>
      cases hmove with
      | start => exact (tail.of_started nofun nofun).2
      | cancel =>
          obtain ⟨-, rfl⟩ := tail.of_cancelled
          simp at hmem

/-- A connection that was cancelled stays cancelled. -/
theorem Walk.of_cancelled_mem {q : ConnectionPhase} {phases : List ConnectionPhase}
    (h : Walk .idle phases q) (hmem : .cancelled ∈ phases) : q = .cancelled := by
  cases h with
  | here => cases hmem
  | move hmove tail =>
      cases hmove with
      | start =>
          rcases List.mem_cons.mp hmem with heq | hrest
          · cases heq
          · exact absurd rfl ((tail.of_started nofun nofun).1 _ hrest).2
      | cancel => exact tail.of_cancelled.1

/-- An idle connection starts at most once. -/
theorem Walk.starting_count {q : ConnectionPhase} {phases : List ConnectionPhase}
    (h : Walk .idle phases q) : phases.count .starting ≤ 1 := by
  cases h with
  | here => exact Nat.zero_le 1
  | @move _ _ _ rest hmove tail =>
      cases hmove with
      | start =>
          have hnot : .starting ∉ rest :=
            fun hmem => ((tail.of_started nofun nofun).1 _ hmem).1 rfl
          have hzero := List.count_eq_zero_of_not_mem hnot
          rw [List.count_cons_self]
          omega
      | cancel =>
          obtain ⟨-, rfl⟩ := tail.of_cancelled
          decide

end ConnectionPhase

namespace Connection

/-- The phases that effects publish, in order. -/
def published (effects : List ConnectionEffect) : List ConnectionPhase :=
  effects.filterMap fun
    | .publish phase => some phase
    | _ => none

theorem published_append (effects others : List ConnectionEffect) :
    published (effects ++ others) = published effects ++ published others :=
  List.filterMap_append

end Connection

open Connection

namespace Life

theorem Step.walk {l m : Life} {effects : List ConnectionEffect} (h : Step l effects m) :
    ConnectionPhase.Walk l.phase (published effects) m.phase := by
  cases h with
  | cancel => exact .move .cancel (.here _)
  | misfire => exact .move .start (.move .fail (.here _))
  | spawn i workspace => exact .move .start (.here _)
  | depart i => exact .move .fail (.here _)
  | fail i => exact .move .fail (.here _)
  | choke i => exact .move .fail (.here _)
  | link i => exact .move .run (.here _)
  | giveUp i => exact .move .fail (.here _)
  | unlink j => exact .move .close (.here _)
  | miss _ hclosed =>
      rw [hclosed]
      exact .again (.here _)
  | _ => exact .here _

theorem Trace.walk {l n : Life} {effects : List ConnectionEffect} (h : Trace l effects n) :
    ConnectionPhase.Walk l.phase (published effects) n.phase := by
  induction h with
  | nil l => exact .here _
  | cons first rest ih =>
      rw [published_append]
      exact first.walk.append ih

end Life

/-! ## Messages -/

namespace Connection

/-- The messages that effects try to send, in order. -/
def messages (effects : List ConnectionEffect) : List ClientMessage :=
  effects.filterMap fun
    | .send _ message => some message
    | _ => none

/-- The editor events among messages. -/
def events (said : List ClientMessage) : List EditorEvent :=
  said.filterMap fun
    | .event e => some e
    | _ => none

theorem messages_append (effects others : List ConnectionEffect) :
    messages (effects ++ others) = messages effects ++ messages others :=
  List.filterMap_append

theorem events_append (said more : List ClientMessage) :
    events (said ++ more) = events said ++ events more :=
  List.filterMap_append

end Connection

namespace Life

/-- The rest of the conversation from a place of a life on, if it is about `workspace` and the
server is told `told`. -/
def script (workspace : Path) (told : List EditorEvent) : Life → List ClientMessage
  | unused => .opening workspace :: .opened :: told.map .event ++ [.shutdown, .exit]
  | opening _ => .opened :: told.map .event ++ [.shutdown, .exit]
  | linking _ => told.map .event ++ [.shutdown, .exit]
  | running => told.map .event ++ [.shutdown, .exit]
  | closing _ => [.exit]
  | _ => []

/-- A step says the beginning of what is left to say. -/
theorem Step.conversation {l m : Life} {effects : List ConnectionEffect} (h : Step l effects m)
    {said : List ClientMessage} {workspace : Path}
    (hsaid : said <+: m.script workspace (events said)) :
    ∃ workspace', messages effects ++ said
      <+: l.script workspace' (events (messages effects ++ said)) := by
  -- Where nothing is left to say, nothing was said.
  have hsilent : m.script workspace (events said) = [] → said = [] := by
    intro hnil
    rw [hnil] at hsaid
    exact List.prefix_nil.mp hsaid
  cases h with
  | rest => exact ⟨workspace, hsaid⟩
  | miss => exact ⟨workspace, hsaid⟩
  | link => exact ⟨workspace, hsaid⟩
  | spawn i opened => exact ⟨opened, (List.prefix_cons_inj _).mpr hsaid⟩
  | answer => exact ⟨workspace, (List.prefix_cons_inj _).mpr hsaid⟩
  | tell => exact ⟨workspace, (List.prefix_cons_inj _).mpr hsaid⟩
  | unlink =>
      -- After the shutdown only the exit can follow, so no event does.
      have hquiet : events said = [] := by
        rcases List.prefix_cons_iff.mp hsaid with rfl | ⟨rest, rfl, hrest⟩
        · rfl
        · rw [List.prefix_nil.mp hrest]
          rfl
      refine ⟨workspace, ?_⟩
      show ClientMessage.shutdown :: said <+: (events said).map .event ++ [.shutdown, .exit]
      rw [hquiet]
      exact (List.prefix_cons_inj _).mpr hsaid
  | choke =>
      rw [hsilent rfl]
      exact ⟨workspace, (List.prefix_cons_inj _).mpr List.nil_prefix⟩
  | dismiss =>
      rw [hsilent rfl]
      exact ⟨workspace, List.prefix_rfl⟩
  | _ =>
      rw [hsilent rfl]
      exact ⟨workspace, List.nil_prefix⟩

/-- What is said in a trace is the beginning of the conversation from its first place on. -/
theorem Trace.conversation {l n : Life} {effects : List ConnectionEffect}
    (h : Trace l effects n) :
    ∃ workspace, messages effects <+: l.script workspace (events (messages effects)) := by
  induction h with
  | nil l => exact ⟨[], List.nil_prefix⟩
  | cons first rest ih =>
      obtain ⟨workspace, hrest⟩ := ih
      rw [messages_append]
      exact first.conversation hrest

/-! ## The one process -/

theorem Step.recipient {l m : Life} {effects : List ConnectionEffect} (h : Step l effects m)
    {process : Nat} {message : ClientMessage} (hmem : .send process message ∈ effects) :
    process = 0 := by
  cases h <;> simp_all

/-- All messages go to the one process. -/
theorem Trace.recipient {l n : Life} {effects : List ConnectionEffect} (h : Trace l effects n)
    {process : Nat} {message : ClientMessage} (hmem : .send process message ∈ effects) :
    process = 0 := by
  induction h with
  | nil l => cases hmem
  | cons first rest ih =>
      rcases List.mem_append.mp hmem with hmem | hmem
      · exact first.recipient hmem
      · exact ih hmem

end Life

namespace Connection

/-- The processes that effects spawn, in order. -/
def spawned (effects : List ConnectionEffect) : List Nat :=
  effects.filterMap fun
    | .spawn process => some process
    | _ => none

theorem spawned_append (effects others : List ConnectionEffect) :
    spawned (effects ++ others) = spawned effects ++ spawned others :=
  List.filterMap_append

end Connection

namespace Life

theorem Step.spawned_le {l m : Life} {effects : List ConnectionEffect} (h : Step l effects m) :
    (spawned effects).length ≤ (published effects).count .starting := by
  cases h with
  | spawn => exact Nat.le_refl 1
  | misfire => exact Nat.zero_le 1
  | _ => exact Nat.le_refl 0

/-- A process is spawned at most as often as a connection starts. -/
theorem Trace.spawned_le {l n : Life} {effects : List ConnectionEffect} (h : Trace l effects n) :
    (spawned effects).length ≤ (published effects).count .starting := by
  induction h with
  | nil l => exact Nat.le_refl 0
  | cons first rest ih =>
      rw [spawned_append, published_append, List.length_append, List.count_append]
      exact Nat.add_le_add first.spawned_le ih

end Life
end LanguageBridge
