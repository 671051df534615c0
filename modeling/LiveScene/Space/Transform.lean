import LiveScene.Space.Quaternion

/-! # Placement of a node relative to its parent -/

namespace LiveScene

structure Transform where
  position : Vec3 := Vec3.zero
  rotation : Quaternion := Quaternion.identity
  scale : Vec3 := Vec3.one
deriving DecidableEq

namespace Transform

/-- Componentwise comparison of numbers. -/
instance : BEq Transform :=
  ⟨fun a b => a.position == b.position && a.rotation == b.rotation && a.scale == b.scale⟩

/-- Scale first, then rotate, then move. -/
def toMatrix (t : Transform) : Mat4 :=
  Mat4.offset t.position * t.rotation.toMatrix * Mat4.scaling t.scale

/-- The transform turned toward a point: its -Z axis faces it with `negativeZ`, its +Z axis
otherwise. A point at the position has no direction, and then there is no result. -/
def lookAt? (t : Transform) (target : Vec3) (negativeZ : Bool) : Option Transform :=
  let direction := if negativeZ then t.position.sub target else target.sub t.position
  (Quaternion.facing? direction).map fun rotation => { t with rotation }

end Transform

end LiveScene
