/-! # JSON values

A number keeps the way it was written: one without fraction and exponent that fits a signed or an
unsigned 64-bit word is an integer, any other is a double. The fields of an object keep their
order. What is well formed but cannot be held is invalid, and does no harm where it is not used.
-/

namespace LiveScene

inductive Json where
  | null
  | bool (value : Bool)
  | int (value : Int)
  | float (value : Float)
  | str (value : String)
  | arr (items : List Json)
  | obj (fields : List (String × Json))
  /-- A number beyond the doubles, a text with half of a surrogate pair, or a value nested too
  deep. -/
  | invalid
deriving Inhabited

namespace Json

/-- The value of a field of an object. -/
def field? (name : String) : List (String × Json) → Option Json
  | [] => none
  | (key, value) :: rest => if key = name then some value else field? name rest

/-- The field of that name, when the value is an object that has it. -/
def get? (json : Json) (name : String) : Option Json :=
  match json with
  | .obj fields => field? name fields
  | _ => none

def toBool? : Json → Option Bool
  | .bool value => some value
  | _ => none

def toStr? : Json → Option String
  | .str value => some value
  | _ => none

def toList? : Json → Option (List Json)
  | .arr items => some items
  | _ => none

def toInt? : Json → Option Int
  | .int value => some value
  | _ => none

/-- An integer of the range `[least, most]`; a double is never one. -/
def toIntIn? (least most : Int) : Json → Option Int
  | .int value => if least ≤ value ∧ value ≤ most then some value else none
  | _ => none

/-- A double, or the double nearest to an integer. -/
def toFloat? : Json → Option Float
  | .int value => some (Float.ofInt value)
  | .float value => some value
  | _ => none

def toInt32? (json : Json) : Option Int32 :=
  (json.toIntIn? Int32.minValue.toInt Int32.maxValue.toInt).map Int32.ofInt

def toInt64? (json : Json) : Option Int64 :=
  (json.toIntIn? Int64.minValue.toInt Int64.maxValue.toInt).map Int64.ofInt

def toUInt32? (json : Json) : Option UInt32 :=
  (json.toIntIn? 0 4294967295).map fun value => UInt32.ofNat value.toNat

mutual

/-- How deep arrays and objects nest. -/
def depth : Json → Nat
  | .arr items => itemsDepth items + 1
  | .obj fields => fieldsDepth fields + 1
  | _ => 0

def itemsDepth : List Json → Nat
  | [] => 0
  | item :: rest => max (depth item) (itemsDepth rest)

def fieldsDepth : List (String × Json) → Nat
  | [] => 0
  | (_, value) :: rest => max (depth value) (fieldsDepth rest)

end

mutual

/-- Whether all of a value can be held. -/
def isValid : Json → Bool
  | .arr items => itemsValid items
  | .obj fields => fieldsValid fields
  | .invalid => false
  | _ => true

def itemsValid : List Json → Bool
  | [] => true
  | item :: rest => isValid item && itemsValid rest

def fieldsValid : List (String × Json) → Bool
  | [] => true
  | (_, value) :: rest => isValid value && fieldsValid rest

end

def toUInt64? (json : Json) : Option UInt64 :=
  (json.toIntIn? 0 18446744073709551615).map fun value => UInt64.ofNat value.toNat

end Json

end LiveScene
