import LanguageBridge.Glob.Depth
import LanguageBridge.Glob.Expression
import LanguageBridge.Glob.Parser
import LanguageBridge.Glob.Shape

set_option autoImplicit false

/-! # Unions of globs

A union of globs matches a path if one of its globs does. `GlobUnion.compile` reads the globs in
order and refuses all of them at the first one that cannot be read, or if one that needs a
matcher is too deep for it.

Which texts are globs, what they match and how deep they may be is assumed of the library that
compiles them, as it documents it: wildcards and classes stand for separators too, braces give
alternatives, and a backslash takes the next character as it is. That library also bounds the size
of the matchers that it builds. This bound is left out: it is assumed that the globs of a scope
stay below it.
-/

namespace LanguageBridge

/-- Why globs are refused: the glob, or all of them, and the reason. -/
structure GlobRefusal where
  pattern : String
  message : String
deriving DecidableEq, Repr

/-- Globs that can be matched against paths. -/
structure GlobUnion where
  globs : List Glob

namespace GlobUnion

/-- Reads globs in order; the refusal names the first that cannot be read. -/
def readAll : List String → Except GlobRefusal (List Glob)
  | [] => .ok []
  | text :: rest =>
    match Glob.ofText text with
    | .error problem =>
      .error ⟨text, "error parsing glob '" ++ text ++ "': " ++ problem.message⟩
    | .ok glob =>
      match readAll rest with
      | .error refusal => .error refusal
      | .ok globs => .ok (glob :: globs)

/-- Whether a glob of a shape is too deep for a matcher. -/
def tooDeep (shape : Glob.Shape) (glob : Glob) : Bool :=
  Glob.shape glob = shape && Glob.depth glob > Glob.maxDepth

/-- Why no matchers can be built for globs. Each glob that looks at an extension first has a
matcher of its own, and these are built first; the other globs share one, which tells the place
of the glob among them. -/
def depthProblem? (globs : List Glob) : Option String :=
  match globs.find? (tooDeep .extensionFirst) with
  | some glob =>
    some ("error parsing glob '" ++ Glob.expression glob ++ "': error parsing pattern 0")
  | none =>
    ((globs.filter fun g => Glob.shape g = .general).findIdx? (tooDeep .general)).map fun place =>
      "error parsing pattern " ++ toString place

/-- Compiles globs. -/
def compile (texts : List String) : Except GlobRefusal GlobUnion :=
  match readAll texts with
  | .error refusal => .error refusal
  | .ok globs =>
    match depthProblem? globs with
    | some problem => .error ⟨" ".intercalate texts, problem⟩
    | none => .ok ⟨globs⟩

/-- Whether one of the globs matches the path. Globs that look at the name of a path do not
match where it has none. -/
def isMatch (union : GlobUnion) (path : Bytes) : Bool :=
  union.globs.any fun glob =>
    Glob.isMatch glob path && !((Glob.shape glob).usesName && Glob.endsUp path)

end GlobUnion
end LanguageBridge
