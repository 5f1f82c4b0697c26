import LoongClaw.Foundation.OrderedMap

namespace LoongClaw.Foundation

/-!
# JSON values

The value type of a JSON library whose objects are maps with string keys in
ascending key order.  Integers keep the sign split of the parser, and a
floating-point number is its bit pattern.  Each accessor returns `none` on a
value of another shape.
-/

inductive JsonNumber where
  | posInt (value : UInt64)
  | negInt (value : Int64)
  | float (bits : BitVec 64)

inductive Json where
  | null
  | bool (value : Bool)
  | number (value : JsonNumber)
  | string (value : String)
  | array (items : List Json)
  | object (fields : List (String × Json))
  deriving Inhabited

namespace Json

def asObject : Json -> Option (OrderedMap String Json)
  | .object fields => some fields
  | _ => none

def asArray : Json -> Option (List Json)
  | .array items => some items
  | _ => none

def asStr : Json -> Option String
  | .string value => some value
  | _ => none

def asBool : Json -> Option Bool
  | .bool value => some value
  | _ => none

def asU64 : Json -> Option UInt64
  | .number (.posInt value) => some value
  | _ => none

def ofInt32 (value : Int32) : Json :=
  .number (if 0 <= value then .posInt value.toInt64.toUInt64 else .negInt value.toInt64)

def ofNat (value : Nat) : Json :=
  .number (.posInt (UInt64.ofNat value))

/-- The text, or `null` if there is none. -/
def ofText (value : Option String) : Json :=
  (value.map Json.string).getD .null

/-- An object with these fields, in whatever order they are written. -/
def ofFields (fields : List (String × Json)) : Json :=
  .object (OrderedMap.extend [] fields)

/-- The field of an object; every other value has no fields. -/
def get (key : String) : Json -> Option Json
  | .object fields => OrderedMap.lookup key fields
  | _ => none

variable {fields : OrderedMap String Json}

@[simp] theorem get_object {key : String} :
    get key (.object fields) = OrderedMap.lookup key fields := rfl

@[simp] theorem asObject_object :
    asObject (.object fields) = some fields := rfl

theorem asObject_eq_some {value : Json} :
    value.asObject = some fields ↔ value = .object fields := by
  cases value <;> simp [asObject]

end Json

/-! ## Equality

Numbers are equal within their kind, and the two floating-point zeros are
equal. -/

def JsonNumber.equals : JsonNumber -> JsonNumber -> Bool
  | .posInt first, .posInt second => decide (first = second)
  | .negInt first, .negInt second => decide (first = second)
  | .float first, .float second =>
    decide (first = second) || (decide (first.toNat % 0x8000000000000000 = 0) &&
      decide (second.toNat % 0x8000000000000000 = 0))
  | _, _ => false

namespace Json

mutual

def equals : Json -> Json -> Bool
  | .null, .null => true
  | .bool first, .bool second => decide (first = second)
  | .number first, .number second => first.equals second
  | .string first, .string second => decide (first = second)
  | .array first, .array second => equalItems first second
  | .object first, .object second => equalFields first second
  | _, _ => false

def equalItems : List Json -> List Json -> Bool
  | [], [] => true
  | first :: firsts, second :: seconds => equals first second && equalItems firsts seconds
  | _, _ => false

def equalFields : List (String × Json) -> List (String × Json) -> Bool
  | [], [] => true
  | (key, first) :: firsts, (other, second) :: seconds =>
    decide (key = other) && equals first second && equalFields firsts seconds
  | _, _ => false

end

end Json

end LoongClaw.Foundation
