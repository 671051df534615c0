import LiveScene.Object.Color
import LiveScene.Object.Shape

/-! # Materials and lights -/

namespace LiveScene

inductive Shading where
  | standard (metalness roughness : Float32)
  | basic
deriving DecidableEq

/-- Comparison of parameters as numbers. -/
instance : BEq Shading where
  beq
    | .standard m r, .standard m' r' => m == m' && r == r'
    | .basic, .basic => true
    | _, _ => false

structure Material where
  shading : Shading
  color : Color := Color.white
  wireframe : Bool := false
  visible : Bool := true
  opacity : Float32 := 1
  transparent : Bool := false
  handle : Handle
deriving DecidableEq

namespace Material

/-- Comparison of parameters as numbers. -/
instance : BEq Material :=
  ⟨fun a b => a.shading == b.shading && a.color == b.color && a.wireframe == b.wireframe &&
    a.visible == b.visible && a.opacity == b.opacity && a.transparent == b.transparent &&
    a.handle == b.handle⟩

def standard (handle : Handle) : Material :=
  { shading := .standard 0 1, handle }

def basic (handle : Handle) : Material :=
  { shading := .basic, handle }

/-- A material is transparent exactly when its opacity is below one. -/
def setOpacity (material : Material) (opacity : Float32) : Material :=
  { material with opacity, transparent := opacity < 1 }

/-- Only standard shading has a metalness. -/
def setMetalness? (material : Material) (metalness : Float32) : Option Material :=
  match material.shading with
  | .standard _ roughness => some { material with shading := .standard metalness roughness }
  | .basic => none

/-- Only standard shading has a roughness. -/
def setRoughness? (material : Material) (roughness : Float32) : Option Material :=
  match material.shading with
  | .standard metalness _ => some { material with shading := .standard metalness roughness }
  | .basic => none

end Material

inductive LightKind where
  | ambient
  | directional
  | point
deriving DecidableEq, Repr

structure Light where
  kind : LightKind
  color : Color := Color.white
  intensity : Float32 := 1
deriving DecidableEq

/-- Comparison of parameters as numbers. -/
instance : BEq Light :=
  ⟨fun a b => a.kind == b.kind && a.color == b.color && a.intensity == b.intensity⟩

end LiveScene
