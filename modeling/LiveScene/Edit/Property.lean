import LiveScene.Edit.Issue
import LiveScene.Number.Narrow
import LiveScene.Object.Color
import LiveScene.Space.Vector
import LiveScene.Wire.Value

/-! # Properties

A property is a known key with a value of the type that the key expects, narrowed to single
precision. Which kinds of nodes have the property is decided where it is set.
-/

namespace LiveScene

/-- The parameters that shapes are made from. -/
inductive Dimension where
  | width
  | height
  | depth
  | radius
  | widthSegments
  | heightSegments
deriving DecidableEq

def Dimension.name : Dimension → String
  | .width => "width"
  | .height => "height"
  | .depth => "depth"
  | .radius => "radius"
  | .widthSegments => "widthSegments"
  | .heightSegments => "heightSegments"

def Dimension.all : List Dimension :=
  [.width, .height, .depth, .radius, .widthSegments, .heightSegments]

def Dimension.ofName? (name : String) : Option Dimension :=
  all.find? fun dimension => dimension.name == name

inductive Property where
  | position (value : Vec3)
  | rotation (angles : Vec3)
  | scale (value : Vec3)
  | lookAt (target : Vec3)
  | visible (value : Bool)
  | name (value : String)
  | castShadow (value : Bool)
  | receiveShadow (value : Bool)
  | color (value : Color)
  | intensity (value : Float32)
  | fov (degrees : Float32)
  | near (value : Float32)
  | far (value : Float32)
  | active (value : Bool)
  | dimension (dimension : Dimension) (value : Float32)
  | metalness (value : Float32)
  | roughness (value : Float32)
  | wireframe (value : Bool)
  | opacity (value : Float32)
deriving DecidableEq

namespace Property

/-- Which objects a property is about. -/
inductive Group where
  | universal
  | camera
  | geometry
  | material
deriving DecidableEq

def group : Property → Group
  | .position _ | .rotation _ | .scale _ | .lookAt _ | .visible _ | .name _ | .castShadow _
  | .receiveShadow _ | .color _ | .intensity _ => .universal
  | .fov _ | .near _ | .far _ | .active _ => .camera
  | .dimension .. => .geometry
  | .metalness _ | .roughness _ | .wireframe _ | .opacity _ => .material

/-- The key of the flag that selects a camera. -/
def activeKey : String := "active"

section

variable {α : Type} (key : String)

def mismatch (expected : String) (value : Value) : Except Issue α :=
  .error (.typeMismatch key expected value.typeName)

def number (make : Float32 → Property) : Value → Except Issue Property
  | .number value => .ok (make (Number.narrow value))
  | value => mismatch key "number" value

def bool (make : Bool → Property) : Value → Except Issue Property
  | .bool value => .ok (make value)
  | value => mismatch key "bool" value

def string (make : String → Property) : Value → Except Issue Property
  | .string value => .ok (make value)
  | value => mismatch key "string" value

def vector (make : Vec3 → Property) : Value → Except Issue Property
  | .vec3 x y z => .ok (make ⟨Number.narrow x, Number.narrow y, Number.narrow z⟩)
  | value => mismatch key "vec3" value

/-- The alpha of a color is not kept. -/
def tint (make : Color → Property) : Value → Except Issue Property
  | .color red green blue _ => .ok (make (Color.ofBytes red green blue))
  | value => mismatch key "color" value

end

/-- Reads a key with its value. An unknown key is unsupported whatever its value. -/
def decode (key : String) (value : Value) : Except Issue Property :=
  match key with
  | "position" => vector key .position value
  | "rotation" => vector key .rotation value
  | "scale" => vector key .scale value
  | "lookAt" => vector key .lookAt value
  | "visible" => bool key .visible value
  | "name" => string key .name value
  | "castShadow" => bool key .castShadow value
  | "receiveShadow" => bool key .receiveShadow value
  | "color" => tint key .color value
  | "intensity" => number key .intensity value
  | "fov" => number key .fov value
  | "near" => number key .near value
  | "far" => number key .far value
  | "active" => bool key .active value
  | "width" => number key (.dimension .width) value
  | "height" => number key (.dimension .height) value
  | "depth" => number key (.dimension .depth) value
  | "radius" => number key (.dimension .radius) value
  | "widthSegments" => number key (.dimension .widthSegments) value
  | "heightSegments" => number key (.dimension .heightSegments) value
  | "metalness" => number key .metalness value
  | "roughness" => number key .roughness value
  | "wireframe" => bool key .wireframe value
  | "opacity" => number key .opacity value
  | _ => .error (.unsupportedProperty key .unsupported)

end Property

end LiveScene
