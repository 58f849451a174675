set_option autoImplicit false

/-! # JSON values

A JSON value as settings files, log records and protocol messages use it. Numbers are integers
or binary floating-point numbers, and the two never compare equal. The members of an object are
kept in increasing order of their keys with one member per key, so two objects that hold the
same members are the same list; `Json.insertMember` keeps that order and `Json.lookup` reads a
member back.
-/

namespace LanguageBridge

/-- A number: an integer as it was written, or a floating-point number. -/
inductive Number where
  | int (value : Int)
  | float (value : Float)

/-- A JSON value. -/
inductive Json where
  | null
  | bool (value : Bool)
  | number (value : Number)
  | string (value : String)
  | array (items : List Json)
  | object (members : List (String × Json))

namespace Json

instance : Inhabited Json := ⟨null⟩

/-- The members of an object. -/
abbrev Members := List (String × Json)

/-! ## Members -/

/-- The value stored under `key`. -/
def lookup (key : String) : Members → Option Json
  | [] => none
  | (k, v) :: rest => if k = key then some v else lookup key rest

/-- Stores `value` under `key`, in place of the value that was there. -/
def insertMember (key : String) (value : Json) : Members → Members
  | [] => [(key, value)]
  | (k, v) :: rest =>
    if key = k then (key, value) :: rest
    else if key < k then (key, value) :: (k, v) :: rest
    else (k, v) :: insertMember key value rest

/-- The members with the given keys and values; of several with one key the last stays. -/
def membersOf (pairs : List (String × Json)) : Members :=
  pairs.foldl (fun members p => insertMember p.1 p.2 members) []

theorem lookup_insertMember (key : String) (value : Json) (members : Members) (j : String) :
    lookup j (insertMember key value members)
      = if j = key then some value else lookup j members := by
  induction members with
  | nil => grind [insertMember, lookup]
  | cons m rest ih => grind [insertMember, lookup]

/-! ## Views -/

/-- The member of an object under `key`; other values have none. -/
def member? (key : String) : Json → Option Json
  | object members => lookup key members
  | _ => none

/-- The values under `key` in an object that may have several of them, in order. -/
def values (key : String) : Json → List Json
  | object members => (members.filter (·.1 == key)).map (·.2)
  | _ => []

/-- The text of a string value. -/
def asString? : Json → Option String
  | string s => some s
  | _ => none

/-- The items of an array. -/
def asArray? : Json → Option (List Json)
  | array items => some items
  | _ => none

/-- The value of an integer. -/
def asInt? : Json → Option Int
  | number (.int i) => some i
  | _ => none

/-- The value of a truth value. -/
def asBool? : Json → Option Bool
  | bool b => some b
  | _ => none

/-- An integer value. -/
def ofInt (i : Int) : Json := number (.int i)

/-- A natural number as a value. -/
def ofNat (n : Nat) : Json := ofInt n

/-- An object from its members in any order. -/
def ofMembers (pairs : List (String × Json)) : Json := object (membersOf pairs)

/-- A text, or `null` without one. -/
def ofOption : Option String → Json
  | none => null
  | some s => string s

/-- A list of texts. -/
def ofStrings (texts : List String) : Json := array (texts.map string)

mutual

/-- The value that is meant by one as it is written: of several members with one key the last
stays. -/
def settled : Json → Json
  | array items => array (settledItems items)
  | object members => ofMembers (settledMembers members)
  | value => value

/-- The values that are meant by items. -/
def settledItems : List Json → List Json
  | [] => []
  | item :: rest => settled item :: settledItems rest

/-- The members with the values that are meant. -/
def settledMembers : List (String × Json) → List (String × Json)
  | [] => []
  | (key, value) :: rest => (key, settled value) :: settledMembers rest

end

/-! ## Equality -/

end Json

/-- Whether two numbers are the same: equal integers, or equal floating-point numbers. -/
def Number.same : Number → Number → Bool
  | .int a, .int b => a == b
  | .float a, .float b => a == b
  | _, _ => false

namespace Json

mutual

/-- Whether two values are the same value. -/
def same : Json → Json → Bool
  | null, null => true
  | bool a, bool b => a == b
  | number a, number b => a.same b
  | string a, string b => a == b
  | array a, array b => sameItems a b
  | object a, object b => sameMembers a b
  | _, _ => false

/-- Whether two lists hold the same values in the same order. -/
def sameItems : List Json → List Json → Bool
  | [], [] => true
  | a :: as, b :: bs => same a b && sameItems as bs
  | _, _ => false

/-- Whether two objects hold the same members. -/
def sameMembers : List (String × Json) → List (String × Json) → Bool
  | [], [] => true
  | (k, a) :: as, (l, b) :: bs => k == l && same a b && sameMembers as bs
  | _, _ => false

end

end Json
end LanguageBridge
