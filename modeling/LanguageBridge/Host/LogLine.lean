import LanguageBridge.Host.Filter
import LanguageBridge.Json.Writer
import LanguageBridge.Text.Quoted

set_option autoImplicit false

/-! # Log lines

The two forms in which a host writes log events: a line of text, or an object. An event that is
about a notification of the server stands inside a span that names the method, where the filter
lets the protocol library log at all.
-/

namespace LanguageBridge.Host

/-- A log event of a host: the event, and the method of the notification that it is about. -/
structure LogEntry where
  method : Option String
  event : LogEvent

/-- The span around what is logged about a notification with a method. -/
def notificationSpan (method : String) : Span :=
  ⟨"notification", "async_lsp::tracing", [("method", method)]⟩

/-- The method that names the span of an entry, if the filter shows the span. -/
def LogEntry.span? (entry : LogEntry) (f : Filter) : Option String :=
  entry.method.filter fun method => f.showsSpan (notificationSpan method)

/-- The text of a field's value. -/
def fieldText : Json → String
  | .string s => s
  | value => value.render

/-- The text before the first line feed. -/
def firstLine (s : String) : String := String.ofList (s.toList.takeWhile (· ≠ '\n'))

/-- The form of a character in the message of a line of text: those that a terminal could obey
are written out. -/
def harmless (c : Char) : List Char :=
  let digits := Nat.toDigits 16 c.toNat
  if c = '\x07' ∨ c = '\x08' ∨ c = '\x0c' then ['\\', 'x', '0'] ++ digits
  else if c = '\x1b' ∨ c = '\x7f' then ['\\', 'x'] ++ digits
  else if 0x80 ≤ c.toNat ∧ c.toNat ≤ 0x9F then ['\\', 'u', '\x7b'] ++ digits ++ ['\x7d']
  else [c]

/-- The line of text for an entry. -/
def LogEntry.line (entry : LogEntry) (f : Filter) : String :=
  let span := match entry.span? f with
    | some method => "notification\x7bmethod=" ++ Text.quoted method ++ "\x7d: "
    | none => ""
  let fields := entry.event.fields.map fun field => " " ++ field.1 ++ "=" ++ fieldText field.2
  entry.event.level.word ++ " " ++ span ++ entry.event.target ++ ": "
    ++ String.ofList (entry.event.message.toList.flatMap harmless) ++ String.join fields

/-- The object for an entry. -/
def LogEntry.toJson (entry : LogEntry) (f : Filter) : Json :=
  let span := match entry.span? f with
    | some method =>
      let span := Json.ofMembers [("name", .string "notification"), ("method", .string method)]
      [("span", span), ("spans", .array [span])]
    | none => []
  .ofMembers
    ([("level", .string entry.event.level.word), ("target", .string entry.event.target),
      ("fields", .ofMembers (("message", .string entry.event.message) :: entry.event.fields))]
      ++ span)

/-- Whether the filter lets an entry through. -/
def LogEntry.passes (entry : LogEntry) (f : Filter) : Bool :=
  f.passes entry.event (entry.method.map notificationSpan)

end LanguageBridge.Host
