import LanguageBridge.Language
import LanguageBridge.Glob.Union

set_option autoImplicit false

/-! # The scope of an activation

A scope says which documents and which files a server is responsible for: documents by their URI
scheme and language, files by globs on their paths. Both are sets, kept in the order in which
they were given, each member once. `Scope.forLanguages` derives both from a set of languages, so
that a language is selected exactly when its files are watched.
-/

namespace LanguageBridge

/-- The URI scheme of documents on disk. -/
def fileScheme : String := "file"

/-- A choice of open documents: those with this URI scheme and this language. -/
structure Selector where
  scheme : String
  language : String
deriving DecidableEq, Repr

/-- What a server is responsible for. -/
structure Scope where
  selectors : List Selector
  watchGlobs : List String
deriving DecidableEq, Repr

namespace Scope

/-- The scope with the given selectors and globs, without repeats. -/
def ofLists (selectors : List Selector) (watchGlobs : List String) : Scope :=
  ⟨selectors.eraseDups, watchGlobs.eraseDups⟩

/-- The globs that watch the files of some languages: none, `**/*.x` for one language, and one
glob with alternatives for several. -/
def globsFor : List Language → List String
  | [] => []
  | [language] => ["**/*." ++ language.extension]
  | languages => ["**/*.\x7b" ++ ",".intercalate (languages.map Language.extension) ++ "\x7d"]

/-- The scope that selects the documents of some languages on disk and watches their files. -/
def forLanguages (languages : List Language) : Scope :=
  let languages := languages.eraseDups
  ofLists (languages.map fun language => ⟨fileScheme, language.id⟩) (globsFor languages)

/-- Ruby sources only. -/
def ruby : Scope := forLanguages [.ruby]

/-- Ruby sources and JSON type definitions. -/
def rubyAndJson : Scope := forLanguages [.ruby, .json]

/-- Whether documents with this scheme and language are in the scope. -/
def selects (scope : Scope) (scheme language : String) : Bool :=
  scope.selectors.any fun selector => selector.scheme == scheme && selector.language == language

/-- The globs that watch files, ready to match. -/
def watcher (scope : Scope) : Except GlobRefusal GlobUnion := GlobUnion.compile scope.watchGlobs

end Scope
end LanguageBridge
