import LiveScene.Edit.Property
import LiveScene.Object.Mesh

/-! # Shapes and geometries

A shape is a box or a sphere with its dimensions; a geometry is a shape with its mesh and the
handle of the resource that holds it. A shape is changed by making a new geometry.
-/

namespace LiveScene

inductive Shape where
  | box (width height depth : Float32)
  | sphere (radius : Float32) (widthSegments heightSegments : UInt32)
deriving DecidableEq

namespace Shape

/-- Comparison of dimensions as numbers. -/
instance : BEq Shape where
  beq
    | .box w h d, .box w' h' d' => w == w' && h == h' && d == d'
    | .sphere r w h, .sphere r' w' h' => r == r' && w == w' && h == h'
    | _, _ => false

def defaultBox : Shape := .box 1 1 1

def defaultSphere : Shape := .sphere 1 32 16

/-- A number of segments: rounded down and clamped, the least for what is not a positive number. -/
def toSegments (value : Float32) (least : UInt32) : UInt32 :=
  if value.isFinite && value > 0 then Mesh.clampSegments least value.toUInt32 else least

/-- The shape with one dimension changed; none for a dimension that it does not have. -/
def set? (shape : Shape) (dimension : Dimension) (value : Float32) : Option Shape :=
  match shape, dimension with
  | .box _ height depth, .width => some (.box value height depth)
  | .box width _ depth, .height => some (.box width value depth)
  | .box width height _, .depth => some (.box width height value)
  | .sphere _ widthSegments heightSegments, .radius =>
    some (.sphere value widthSegments heightSegments)
  | .sphere radius _ heightSegments, .widthSegments =>
    some (.sphere radius (toSegments value Mesh.minWidthSegments) heightSegments)
  | .sphere radius widthSegments _, .heightSegments =>
    some (.sphere radius widthSegments (toSegments value Mesh.minHeightSegments))
  | _, _ => none

def mesh : Shape → Mesh
  | .box width height depth => Mesh.box width height depth
  | .sphere radius widthSegments heightSegments => Mesh.sphere radius widthSegments heightSegments

end Shape

/-- The name of a resource that a renderer holds. -/
abbrev Handle := Nat

structure Geometry where
  shape : Shape
  mesh : Mesh
  handle : Handle
deriving DecidableEq

namespace Geometry

/-- Comparison of dimensions and vertices as numbers. -/
instance : BEq Geometry :=
  ⟨fun a b => a.shape == b.shape && a.mesh == b.mesh && a.handle == b.handle⟩

def make (shape : Shape) (handle : Handle) : Geometry :=
  ⟨shape, shape.mesh, handle⟩

end Geometry

end LiveScene
