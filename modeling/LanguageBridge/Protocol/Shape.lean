import LanguageBridge.Json.Writer
import LanguageBridge.Text.Quoted
import LanguageBridge.Uri.Parser

set_option autoImplicit false

/-! # Shapes of JSON values

A shape says which JSON values a message may hold in a place. It is a check that accepts a value
or complains about the first part of it that does not fit. Shapes are put together from smaller
ones: lists of values, records with named fields, and choices between shapes.

A record is usually an object. It may also be written as an array of its fields in their order,
unless it is open to further fields.
-/

namespace LanguageBridge

/-- A check of a value: it fits, or there is a complaint. -/
abbrev Shape := Json → Except String Unit

namespace Shape

/-- What a value is called in a complaint. -/
def describe : Json → String
  | .null => "null"
  | .bool true => "boolean `true`"
  | .bool false => "boolean `false`"
  | .number (.int i) => "integer `" ++ toString i ++ "`"
  | .number (.float x) => "floating point `" ++ Decimal.text x ++ "`"
  | .string s => "string " ++ Text.quoted s
  | .array _ => "sequence"
  | .object _ => "map"

/-- The complaint about a value of another kind. -/
def wrongKind (value : Json) (expected : String) : Except String Unit :=
  .error ("invalid type: " ++ describe value ++ ", expected " ++ expected)

/-- Whether a value fits. -/
def fits (shape : Shape) (value : Json) : Bool :=
  match shape value with
  | .ok _ => true
  | .error _ => false

/-! ## Plain values -/

/-- Every value. -/
def any : Shape := fun _ => .ok ()

/-- Nothing, which is `null`. -/
def nothing : Shape
  | .null => .ok ()
  | value => wrongKind value "unit"

/-- A truth value. -/
def flag : Shape
  | .bool _ => .ok ()
  | value => wrongKind value "a boolean"

/-- A text. -/
def text : Shape
  | .string _ => .ok ()
  | value => wrongKind value "a string"

/-- An integer between two bounds; the name stands for them in complaints. -/
def integer (name : String) (low high : Int) : Shape
  | .number (.int i) =>
    if low ≤ i ∧ i ≤ high then .ok ()
    else .error ("invalid value: integer `" ++ toString i ++ "`, expected " ++ name)
  | value => wrongKind value name

/-- A signed 32-bit integer. -/
def int32 : Shape := integer "i32" (-2147483648) 2147483647

/-- An unsigned 32-bit integer. -/
def nat32 : Shape := integer "u32" 0 4294967295

/-- A URI. -/
def uri : Shape
  | .string s =>
    match Uri.parse? s with
    | some _ => .ok ()
    | none =>
      .error ("invalid value: string " ++ Text.quoted s ++ ", expected relative URL without a base")
  | value => wrongKind value "a string representing an URL"

/-- The words that are expected, in a complaint. -/
def listed (words : List String) : String :=
  match words.map fun w => "`" ++ w ++ "`" with
  | [a] => a
  | [a, b] => a ++ " or " ++ b
  | all => "one of " ++ ", ".intercalate all

/-- One of some words, by itself or as the only key of an object whose value is `null`. -/
def word (words : List String) : Shape :=
  let known (s : String) : Except String Unit :=
    if words.contains s then .ok ()
    else .error ("unknown variant `" ++ s ++ "`, expected " ++ listed words)
  fun
  | .string s => known s
  | .object [(s, value)] => do
    known s
    nothing value
  | .object _ => .error "invalid value: map, expected map with a single key"
  | value => wrongKind value "string or map"

/-! ## Composed values -/

/-- A value or `null`. -/
def optional (shape : Shape) : Shape
  | .null => .ok ()
  | value => shape value

/-- An array of values. -/
def list (shape : Shape) : Shape
  | .array items => items.forM shape
  | value => wrongKind value "a sequence"

/-- An object with any members. -/
def mapping : Shape
  | .object _ => .ok ()
  | value => wrongKind value "a map"

/-- A value that fits one of some shapes; the choice has a name. -/
def oneOf (name : String) (shapes : List Shape) : Shape := fun value =>
  if shapes.any fun shape => shape.fits value then .ok ()
  else .error ("data did not match any variant of untagged enum " ++ name)

/-- A field of a record. -/
structure Field where
  name : String
  required : Bool
  shape : Shape

/-- A field that every record has. -/
def required (name : String) (shape : Shape) : Field := ⟨name, true, shape⟩

/-- A field that a record may leave out or set to `null`. -/
def field? (name : String) (shape : Shape) : Field := ⟨name, false, optional shape⟩

/-- Checks the member of an object that belongs to a field; other members do not matter. -/
def checkMember (fields : List Field) (member : String × Json) : Except String Unit :=
  match fields.find? fun f => f.name = member.1 with
  | some f => f.shape member.2
  | none => .ok ()

/-- Checks the members of an object in their order, and then that no required field is missing. -/
def checkMembers (fields : List Field) (members : Json.Members) : Except String Unit := do
  members.forM (checkMember fields)
  match fields.find? fun f => f.required && (Json.lookup f.name members).isNone with
  | some f => .error ("missing field `" ++ f.name ++ "`")
  | none => .ok ()

/-- Checks the items of an array against fields in their order; `seen` items came before. -/
def checkItems (name : String) (count : Nat) (seen : Nat) :
    List Field → List Json → Except String Unit
  | [], [] => .ok ()
  | [], extra =>
    .error ("invalid length " ++ toString (seen + extra.length)
      ++ ", expected fewer elements in array")
  | _ :: _, [] =>
    .error ("invalid length " ++ toString seen ++ ", expected struct " ++ name ++ " with "
      ++ toString count ++ (if count = 1 then " element" else " elements"))
  | f :: fields, item :: items =>
    match f.shape item with
    | .ok _ => checkItems name count (seen + 1) fields items
    | .error complaint => .error complaint

/-- A record with some fields. -/
def record (name : String) (fields : List Field) : Shape
  | .object members => checkMembers fields members
  | .array items => checkItems name fields.length 0 fields items
  | value => wrongKind value ("struct " ++ name)

/-- A record with fields of its own and fields that it shares with other records, which are looked
at last; it has to be an object. -/
def openRecord (name : String) (own shared : List Field) : Shape
  | .object members => do
    checkMembers own members
    checkMembers shared members
  | value => wrongKind value ("struct " ++ name)

/-- The fields of a kind, which goes by its name or by its place among the kinds. -/
def kindFields? (kinds : List (String × List Field)) : Json → Option (List Field)
  | .string kind => kinds.lookup kind
  | .number (.int i) => if 0 ≤ i then kinds[i.toNat]?.map (·.2) else none
  | _ => none

/-- A record whose `tag` member names its kind. As an array it begins with the kind, and the fields
follow in their order. -/
def tagged (name tag : String) (kinds : List (String × List Field)) : Shape := fun value =>
  let ofKind (kind rest : Json) : Except String Unit :=
    match kindFields? kinds kind with
    | some fields => record name fields rest
    | none => wrongKind kind "variant identifier"
  match value with
  | .object members =>
    match Json.lookup tag members with
    | some kind => ofKind kind (.object (members.filter fun m => m.1 ≠ tag))
    | none => .error ("missing field `" ++ tag ++ "`")
  | .array (kind :: rest) => ofKind kind (.array rest)
  | .array [] => .error ("missing field `" ++ tag ++ "`")
  | value => wrongKind value ("internally tagged enum " ++ name)

end Shape
end LanguageBridge
