import LanguageBridge.Bridge.Effect

set_option autoImplicit false

/-! # Sessions

A session is what a bridge holds for one activation: the connection, how it was launched, its
scope, and the documents that the server was told are open. `Session.narrow` decides what of an
event goes to the server, and `Session.track` keeps the open documents.
-/

namespace LanguageBridge

/-- What is held for one activation. -/
structure Session where
  connection : Nat
  launch : Launch
  scope : Scope
  watch : GlobUnion
  /-- The documents that the server was told are open. -/
  openDocuments : List Uri

namespace Session

/-- Whether a change of a file is watched. -/
def watches (s : Session) (change : FileChange) : Bool :=
  match change.uri.toFilePath? with
  | some path => s.watch.isMatch path
  | none => false

/-- What of an event goes to the server, or why nothing does. Changes of files are narrowed to
the watched ones; a document that is open is not opened again, and one that is not open is not
changed, saved or closed. -/
def narrow (s : Session) : EditorEvent → Except Delivery EditorEvent
  | .filesChanged changes =>
    match changes.filter s.watches with
    | [] => .error .outOfScope
    | kept => .ok (.filesChanged kept)
  | .opened document =>
    if !s.scope.selects document.uri.scheme document.language then .error .outOfScope
    else if s.openDocuments.contains document.uri then .error .alreadyOpen
    else .ok (.opened document)
  | other =>
    match other.documentUri? with
    | some uri => if s.openDocuments.contains uri then .ok other else .error .outOfScope
    | none => .error .outOfScope

/-- The open documents after the server took an event. -/
def track (s : Session) : EditorEvent → Session
  | .opened document => { s with openDocuments := s.openDocuments ++ [document.uri] }
  | .closed uri => { s with openDocuments := s.openDocuments.filter fun u => u ≠ uri }
  | _ => s

end Session
end LanguageBridge
