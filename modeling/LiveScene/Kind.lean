/-! # Kinds of nodes

A kind says what object a node carries, and through its category how the node takes part in links:
geometries and materials go into the slots of a mesh, everything else into a list of children.
-/

namespace LiveScene

inductive Kind where
  | scene
  | group
  | mesh
  | perspectiveCamera
  | orthographicCamera
  | boxGeometry
  | sphereGeometry
  | standardMaterial
  | basicMaterial
  | ambientLight
  | directionalLight
  | pointLight
  | unsupported
deriving DecidableEq, Repr

inductive Category where
  | geometry
  | material
  | generic
deriving DecidableEq, Repr

namespace Kind

/-- The kinds that objects can be made of, in the order of the format. -/
def supported : List Kind :=
  [.scene, .group, .mesh, .perspectiveCamera, .orthographicCamera, .boxGeometry, .sphereGeometry,
    .standardMaterial, .basicMaterial, .ambientLight, .directionalLight, .pointLight]

def name : Kind → String
  | .scene => "scene"
  | .group => "group"
  | .mesh => "mesh"
  | .perspectiveCamera => "perspectiveCamera"
  | .orthographicCamera => "orthographicCamera"
  | .boxGeometry => "boxGeometry"
  | .sphereGeometry => "sphereGeometry"
  | .standardMaterial => "meshStandardMaterial"
  | .basicMaterial => "meshBasicMaterial"
  | .ambientLight => "ambientLight"
  | .directionalLight => "directionalLight"
  | .pointLight => "pointLight"
  | .unsupported => "unsupported"

/-- Every name that is not known stands for the unsupported kind. -/
def ofName (name : String) : Kind :=
  (supported.find? fun kind => kind.name == name).getD .unsupported

def category : Kind → Category
  | .boxGeometry | .sphereGeometry => .geometry
  | .standardMaterial | .basicMaterial => .material
  | _ => .generic

def isCamera : Kind → Bool
  | .perspectiveCamera | .orthographicCamera => true
  | _ => false

def isLight : Kind → Bool
  | .ambientLight | .directionalLight | .pointLight => true
  | _ => false

def isSupported (kind : Kind) : Bool :=
  kind ≠ .unsupported

/-- The place of a supported kind in the format's order. -/
def index? (kind : Kind) : Option Nat :=
  supported.findIdx? (· == kind)

end Kind

end LiveScene
