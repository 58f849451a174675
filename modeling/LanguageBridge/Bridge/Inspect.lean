import LanguageBridge.Launch
import LanguageBridge.Scope
import LanguageBridge.Text.Quoted

set_option autoImplicit false

/-! # Inspection forms

The forms in which scopes and launches stand in logs and in the inspection form of a bridge.
-/

namespace LanguageBridge

/-- The inspection form of selectors. -/
def inspectSelectors (selectors : List Selector) : String :=
  Text.bracketed (selectors.map fun s =>
    "DocumentSelector \x7b scheme: " ++ Text.quoted s.scheme ++ ", language: "
      ++ Text.quoted s.language ++ " \x7d")

/-- The inspection form of a list of texts. -/
def inspectTexts (texts : List String) : String := Text.bracketed (texts.map Text.quoted)

/-- The fields that describe a scope in logs. -/
def scopeFields (scope : Scope) : List (String × Json) :=
  [("selectors", .string (inspectSelectors scope.selectors)),
    ("watch_globs", .string (inspectTexts scope.watchGlobs))]

/-- The inspection form of an environment. -/
def inspectEnvironment (env : Environment) : String :=
  let entry (v : Bytes × Bytes) : String :=
    Text.quoted (Text.decodeLossy v.1) ++ ": " ++ Text.quoted (Text.decodeLossy v.2)
  "\x7b" ++ ", ".intercalate (env.map entry) ++ "\x7d"

end LanguageBridge
