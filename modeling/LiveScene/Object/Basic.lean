import LiveScene.Kind
import LiveScene.NodeId
import LiveScene.Object.Camera
import LiveScene.Object.Material
import LiveScene.Space.Transform

/-! # Objects

What a graph holds under an id: a node of the scene, or a geometry or a material that meshes refer
to through their slots.
-/

namespace LiveScene

/-- The geometry and the material of a mesh. -/
structure Slots where
  geometry : Option NodeId := none
  material : Option NodeId := none
deriving DecidableEq

inductive Role where
  | scene
  | group
  | mesh (slots : Slots)
  | camera (camera : Camera)
  | light (light : Light)
deriving DecidableEq

/-- Comparison of parameters as numbers. -/
instance : BEq Role where
  beq
    | .scene, .scene => true
    | .group, .group => true
    | .mesh a, .mesh b => decide (a = b)
    | .camera a, .camera b => a == b
    | .light a, .light b => a == b
    | _, _ => false

structure Node where
  transform : Transform := {}
  /-- A node that is not visible hides everything under it. -/
  visible : Bool := true
  castShadow : Bool := false
  receiveShadow : Bool := false
  /-- Children in the order they were attached. -/
  children : List NodeId := []
  role : Role
deriving DecidableEq

namespace Node

/-- Comparison of parameters as numbers. -/
instance : BEq Node :=
  ⟨fun a b => a.transform == b.transform && a.visible == b.visible &&
    a.castShadow == b.castShadow && a.receiveShadow == b.receiveShadow &&
    a.children == b.children && a.role == b.role⟩

/-- Whether a target is faced with the -Z axis. -/
def facesNegativeZ (node : Node) : Bool :=
  match node.role with
  | .camera _ | .light _ => true
  | _ => false

def pushChild (node : Node) (child : NodeId) : Node :=
  { node with children := node.children ++ [child] }

def removeChild (node : Node) (child : NodeId) : Node :=
  { node with children := node.children.filter (· ≠ child) }

end Node

inductive Body where
  | node (node : Node)
  | geometry (geometry : Geometry)
  | material (material : Material)
deriving DecidableEq

/-- Comparison of parameters as numbers. -/
instance : BEq Body where
  beq
    | .node a, .node b => a == b
    | .geometry a, .geometry b => a == b
    | .material a, .material b => a == b
    | _, _ => false

structure Object where
  name : String := ""
  body : Body
deriving DecidableEq

namespace Object

/-- Comparison of parameters as numbers. -/
instance : BEq Object := ⟨fun a b => a.name == b.name && a.body == b.body⟩

def ofRole (role : Role) : Object :=
  { body := .node { role } }

/-- The object that a new node of a kind starts with; none for an unsupported kind. Geometries and
materials take the handle. -/
def default? (kind : Kind) (handle : Handle) : Option Object :=
  match kind with
  | .scene => some (ofRole .scene)
  | .group => some (ofRole .group)
  | .mesh => some (ofRole (.mesh {}))
  | .perspectiveCamera => some (ofRole (.camera Camera.defaultPerspective))
  | .orthographicCamera => some (ofRole (.camera Camera.defaultOrthographic))
  | .boxGeometry => some { body := .geometry (Geometry.make Shape.defaultBox handle) }
  | .sphereGeometry => some { body := .geometry (Geometry.make Shape.defaultSphere handle) }
  | .standardMaterial => some { body := .material (Material.standard handle) }
  | .basicMaterial => some { body := .material (Material.basic handle) }
  | .ambientLight => some (ofRole (.light { kind := .ambient }))
  | .directionalLight => some (ofRole (.light { kind := .directional }))
  | .pointLight => some (ofRole (.light { kind := .point }))
  | .unsupported => none

/-- The handle to give back when the object goes away. -/
def handle? (object : Object) : Option Handle :=
  match object.body with
  | .geometry geometry => some geometry.handle
  | .material material => some material.handle
  | .node _ => none

def node? (object : Object) : Option Node :=
  match object.body with
  | .node node => some node
  | _ => none

def geometry? (object : Object) : Option Geometry :=
  match object.body with
  | .geometry geometry => some geometry
  | _ => none

def material? (object : Object) : Option Material :=
  match object.body with
  | .material material => some material
  | _ => none

def camera? (object : Object) : Option Camera :=
  match object.body with
  | .node { role := .camera camera, .. } => some camera
  | _ => none

end Object

end LiveScene
