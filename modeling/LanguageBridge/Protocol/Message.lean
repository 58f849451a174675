import LanguageBridge.Protocol.Shape

set_option autoImplicit false

/-! # Messages

Two sides of a channel exchange requests, responses and notifications. A request has a number or
a text that its response repeats; a notification has none. `Message.ofJson?` reads a message,
`Message.toJson` writes one.

A value with an identifier and a method is a request, else one with an identifier is a response,
and else one with a method is a notification. Members that do not belong to a message do not
matter.
-/

namespace LanguageBridge

/-- What ties a response to its request. -/
inductive RequestId where
  | number (n : Int)
  | text (s : String)
deriving DecidableEq, Repr

/-- Why a request was refused. -/
structure ResponseError where
  code : Int
  message : String
  data : Option Json

/-- The wording of a refusal. -/
def ResponseError.text (e : ResponseError) : String :=
  e.message ++ " (jsonrpc error " ++ toString e.code ++ ")"

/-- A message of the protocol. Parameters that are missing are `null`. -/
inductive Message where
  | request (id : RequestId) (method : String) (params : Json)
  | response (id : RequestId) (result : Json) (error : Option ResponseError)
  | notification (method : String) (params : Json)

/-- The version of the protocol that every message names. -/
def protocolVersion : String := "2.0"

namespace RequestId

/-- Reads an identifier: a signed 32-bit integer or a text. -/
def ofJson? : Json → Option RequestId
  | .string s => some (.text s)
  | .number (.int i) => if Shape.int32.fits (.ofInt i) then some (.number i) else none
  | _ => none

/-- The identifier as a JSON value. -/
def toJson : RequestId → Json
  | number n => .ofInt n
  | text s => .string s

end RequestId

namespace ResponseError

/-- The shape of a refusal. -/
def shape : Shape :=
  Shape.record "ResponseError"
    [Shape.required "code" Shape.int32, Shape.required "message" Shape.text,
      Shape.field? "data" Shape.any]

/-- Reads a refusal, which may be written as an array. -/
def ofWritten? (written : Json) : Option ResponseError :=
  let value := written.settled
  let repeats := ["code", "message", "data"].any fun key => (written.values key).length > 1
  if shape.fits value && !repeats then
    let part (name : String) (place : Nat) : Json :=
      match value with
      | .array items => items.getD place .null
      | value => (value.member? name).getD .null
    let data := match part "data" 2 with
      | .null => none
      | data => some data
    some ⟨((part "code" 0).asInt?).getD 0, ((part "message" 1).asString?).getD "", data⟩
  else none

/-- The refusal as a JSON value. -/
def toJson (e : ResponseError) : Json :=
  .ofMembers [("code", .ofInt e.code), ("message", .string e.message),
    ("data", e.data.getD .null)]

end ResponseError

namespace Message

/-- The member of a message, as it is written, that may be missing. -/
def part? (written : Json) (key : String) : Option (Option Json) :=
  match written.values key with
  | [] => some none
  | [value] => some (some value)
  | _ => none

/-- Whether a value names the version of the protocol: by its text, or as the only key of an
object. -/
def isVersion : Json → Bool
  | .string s => s == protocolVersion
  | .object [(key, .null)] => key == protocolVersion
  | _ => false

/-- The identifier in a message. -/
def identifier? (written : Json) : Option RequestId :=
  ((part? written "id").bind id).bind RequestId.ofJson?

/-- The method in a message. -/
def method? (written : Json) : Option String :=
  ((part? written "method").bind id).bind Json.asString?

/-- The value of a member that is `null` if it is missing. -/
def value? (written : Json) (key : String) : Option Json :=
  (part? written key).map fun part => (part.getD .null).settled

/-- The refusal in a response. -/
def refusal? (written : Json) : Option (Option ResponseError) :=
  (part? written "error").bind fun part =>
    match part with
    | none => some none
    | some .null => some none
    | some value => (ResponseError.ofWritten? value).map some

/-- Reads a request. -/
def request? (written : Json) : Option Message := do
  return .request (← identifier? written) (← method? written) (← value? written "params")

/-- Reads a response. -/
def response? (written : Json) : Option Message := do
  return .response (← identifier? written) (← value? written "result") (← refusal? written)

/-- Reads a notification. -/
def notification? (written : Json) : Option Message := do
  return .notification (← method? written) (← value? written "params")

/-- Reads a message as it is written. -/
def ofWritten? (written : Json) : Option Message :=
  match written.values "jsonrpc" with
  | [version] =>
    if isVersion version then request? written <|> response? written <|> notification? written
    else none
  | _ => none

/-- The members that every message begins with. -/
def envelope (members : List (String × Json)) : Json :=
  .ofMembers (("jsonrpc", .string protocolVersion) :: members)

/-- The parameters as a member, unless there are none. -/
def paramsMember : Json → List (String × Json)
  | .null => []
  | params => [("params", params)]

/-- The message as a JSON value. A response holds its result or its refusal. -/
def toJson : Message → Json
  | request id method params =>
    envelope ([("id", id.toJson), ("method", .string method)] ++ paramsMember params)
  | response id result none => envelope [("id", id.toJson), ("result", result)]
  | response id _ (some error) => envelope [("id", id.toJson), ("error", error.toJson)]
  | notification method params => envelope (("method", .string method) :: paramsMember params)

end Message
end LanguageBridge
