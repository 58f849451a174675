import LanguageBridge.Glob.Match
import LanguageBridge.Path.Basic

set_option autoImplicit false

/-! # How a glob is settled

Many globs need no matcher for whole paths. Those that say nothing about directories are settled
by the name of a path, or by its extension; those that are a fixed text up to one end are settled
by comparing that end. A name is what follows the last separator, except that `..` is no name:
globs that are settled by names or extensions do not match a path that ends in `..`.
-/

namespace LanguageBridge.Glob

/-- The ways to settle whether a glob matches. -/
inductive Shape where
  /-- The name is a fixed text. -/
  | fixedName
  /-- The name is a text with classes in it. -/
  | classedName
  /-- The path is a fixed text, or an end of it is. -/
  | fixedText
  /-- The extension is a fixed text. -/
  | fixedExtension
  /-- The extension is a fixed text, and the rest needs a matcher. -/
  | extensionFirst
  /-- The path needs a matcher. -/
  | general
deriving DecidableEq, Repr

/-- Whether a token is a literal character other than the excluded ones. -/
def isLiteral (excluded : List Char) : GlobToken → Bool
  | .literal c => !excluded.contains c
  | _ => false

/-- Whether tokens are literal characters other than the excluded ones, at least one. -/
def isText (excluded : List Char) (tokens : Glob) : Bool :=
  !tokens.isEmpty && tokens.all (isLiteral excluded)

/-- Whether a glob is a name in any directory. -/
def isNameGlob : Glob → Bool
  | .anyAbove :: rest => isText ['/'] rest
  | _ => false

/-- Whether a token is a character or a class of bytes other than the separator. -/
def staysInName : GlobToken → Bool
  | .literal c => c ≠ '/'
  | .byteClass negated ranges => !inClass negated ranges slash
  | _ => false

/-- Whether a glob is a name with classes in it, in any directory. -/
def isClassedNameGlob : Glob → Bool
  | .anyAbove :: rest => !rest.isEmpty && rest.all staysInName
  | _ => false

/-- Whether a glob is any name, in any directory, with a fixed extension. -/
def isExtensionGlob : Glob → Bool
  | .anyAbove :: .anyBytes :: .literal '.' :: rest => rest.all (isLiteral ['.', '/'])
  | .anyBytes :: .literal '.' :: rest => rest.all (isLiteral ['.', '/'])
  | _ => false

/-- Whether a glob is a fixed text with at most a wildcard before it. -/
def isEndGlob : Glob → Bool
  | .anyAbove :: .anyBytes :: rest => isText [] rest
  | .anyAbove :: rest => isText [] rest
  | .anyBytes :: rest => isText [] rest
  | tokens => isText [] tokens

/-- Whether a glob is a fixed text with a wildcard after it. -/
def isStartGlob (tokens : Glob) : Bool :=
  match tokens.getLast? with
  | some .anyBytes => isText [] tokens.dropLast
  | some .anyBelow => tokens.dropLast.all (isLiteral [])
  | _ => false

/-- Whether a glob ends in a fixed extension. -/
def endsInExtension (tokens : Glob) : Bool :=
  match tokens.reverse.dropWhile (isLiteral ['.', '/']) with
  | .literal '.' :: _ => true
  | _ => false

/-- How a glob is settled. -/
def shape (tokens : Glob) : Shape :=
  if isNameGlob tokens then .fixedName
  else if isExtensionGlob tokens then .fixedExtension
  else if isEndGlob tokens || isStartGlob tokens then .fixedText
  else if endsInExtension tokens then .extensionFirst
  else if isClassedNameGlob tokens then .classedName
  else .general

/-- Whether a glob of this shape looks at the name of a path. -/
def Shape.usesName : Shape → Bool
  | fixedName => true
  | classedName => true
  | fixedExtension => true
  | extensionFirst => true
  | fixedText => false
  | general => false

/-- Whether a path ends in `..`. -/
def endsUp (path : Bytes) : Bool := (Path.pieces path).getLast? == some [Path.dot, Path.dot]

end LanguageBridge.Glob
