set_option autoImplicit false

/-! # Languages

The languages that the bridge can hand to a server, with the identifier that editors use for
them and the extension of their files.
-/

namespace LanguageBridge

/-- A language of documents. -/
inductive Language where
  /-- Ruby sources. -/
  | ruby
  /-- JSON files, which hold type definitions. -/
  | json
deriving DecidableEq, Repr

namespace Language

/-- The identifier that editors use. -/
def id : Language → String
  | ruby => "ruby"
  | json => "json"

/-- The extension of files, without the dot. -/
def extension : Language → String
  | ruby => "rb"
  | json => "json"

/-- All languages. -/
def all : List Language := [ruby, json]

/-- The language whose files have the extension. -/
def ofExtension? (text : String) : Option Language :=
  all.find? fun language => language.extension = text

/-- An extension determines its language. -/
theorem ofExtension?_extension (language : Language) :
    ofExtension? language.extension = some language := by
  cases language <;> decide

end Language
end LanguageBridge
