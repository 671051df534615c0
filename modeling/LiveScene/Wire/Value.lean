/-! # Property values as they arrive -/

namespace LiveScene

inductive Value where
  | number (value : Float)
  | bool (value : Bool)
  | string (value : String)
  | vec3 (x y z : Float)
  | color (red green blue alpha : Int32)
deriving DecidableEq

namespace Value

def typeName : Value → String
  | .number _ => "number"
  | .bool _ => "bool"
  | .string _ => "string"
  | .vec3 .. => "vec3"
  | .color .. => "color"

/-- A color that nothing shines through. -/
def rgb (red green blue : Int32) : Value :=
  .color red green blue 255

/-- Whether the value is no color or a color made by `rgb`. -/
def isSolid : Value → Bool
  | .color _ _ _ alpha => alpha == 255
  | _ => true

end Value

/-- Properties of a new node: keys with their values, in order. -/
abbrev PropertyList := List (String × Value)

def PropertyList.isSolid (properties : PropertyList) : Bool :=
  properties.all fun (_, value) => value.isSolid

end LiveScene
