import LiveScene.Edit.Link
import LiveScene.Edit.Property
import LiveScene.Outcome

/-! # Setting properties

Names can be set on everything. Which other properties an object has depends on what it is: the
placement and the shadows of a node, the color of a light or a material, and so on.
-/

namespace LiveScene

/-- A light with a property set; none when lights have no such property. -/
def Light.set? (light : Light) : Property → Option Light
  | .color color => some { light with color }
  | .intensity intensity => some { light with intensity }
  | _ => none

/-- A camera with a parameter set and its matrix not yet formed anew; none when it has no such
parameter. -/
def Camera.set? (camera : Camera) : Property → Option Camera
  | .fov fov => camera.setFov? fov
  | .near near => some { camera with near }
  | .far far => some { camera with far }
  | _ => none

/-- A material with a property set; none when it has no such property. -/
def Material.set? (material : Material) : Property → Option Material
  | .visible visible => some { material with visible }
  | .color color => some { material with color }
  | .metalness metalness => material.setMetalness? metalness
  | .roughness roughness => material.setRoughness? roughness
  | .wireframe wireframe => some { material with wireframe }
  | .opacity opacity => some (material.setOpacity opacity)
  | _ => none

/-- A node with a property of its own or of its light set; none when it has no such property. A
node told to look at its own position stays as it is. -/
def Node.set? (node : Node) : Property → Option Node
  | .position position => some { node with transform := { node.transform with position } }
  | .rotation angles =>
    some { node with transform := { node.transform with rotation := Quaternion.ofEuler angles } }
  | .scale scale => some { node with transform := { node.transform with scale } }
  | .lookAt target =>
    let turned := node.transform.lookAt? target node.facesNegativeZ
    some { node with transform := turned.getD node.transform }
  | .visible visible => some { node with visible }
  | .castShadow castShadow => some { node with castShadow }
  | .receiveShadow receiveShadow => some { node with receiveShadow }
  | property =>
    match node.role with
    | .light light => (light.set? property).map fun light => { node with role := .light light }
    | _ => none

/-- An object with a property set that is stored in it as given; none when it has no such
property. -/
def Object.set? (object : Object) : Property → Option Object
  | .name name => some { object with name }
  | property =>
    match object.body with
    | .node node => (node.set? property).map fun node => { object with body := .node node }
    | .material material =>
      (material.set? property).map fun material => { object with body := .material material }
    | .geometry _ => none

namespace Graph

/-- Selects a camera, or deselects it if it is the selected one. -/
def select (g : Graph) (id : NodeId) (active : Bool) : Graph :=
  if active then g.setActive (some id)
  else if g.active = some id then g.setActive none
  else g

/-- Sets a parameter of a camera and forms its matrix anew; the answer is whether there is such a
parameter. -/
def setLens (g : Graph) (id : NodeId) (object : Object) (property : Property) :
    Outcome Graph Bool :=
  match object.body with
  | .node node =>
    match node.role with
    | .camera camera =>
      match camera.set? property with
      | some camera =>
        (camera.refresh.within fun camera => g.setNode id { node with role := .camera camera }).map
          fun _ => true
      | none => .done g false
    | _ => .done g false
  | _ => .done g false

/-- Makes a geometry anew with one dimension changed, under a new handle; the answer is whether
there is such a dimension. -/
def rebuild (g : Graph) (id : NodeId) (object : Object) (dimension : Dimension)
    (value : Float32) : Graph × Bool :=
  match object.geometry?.bind (·.shape.set? dimension value) with
  | some shape =>
    let rebuilt := { object with body := .geometry (Geometry.make shape g.nextHandle) }
    let g := g.drawHandle
    match g.replace? id rebuilt with
    | some g => (g, true)
    | none => (g, false)
  | none => (g, false)

/-- Stores a property in an object; the answer is whether the object has the property. -/
def store (g : Graph) (id : NodeId) (object : Object) (property : Property) : Outcome Graph Bool :=
  match object.set? property with
  | some object => .done (g.setObject id object) true
  | none => .done g false

/-- Sets a property of a live node; the answer is whether its kind has the property. -/
def setProperty (g : Graph) (id : NodeId) (kind : Kind) (object : Object) (property : Property) :
    Outcome Graph Bool :=
  match property with
  | .active active =>
    if kind.isCamera then .done (g.select id active) true else .done g false
  | .fov _ | .near _ | .far _ => g.setLens id object property
  | .dimension dimension value =>
    let (g, supported) := g.rebuild id object dimension value
    .done g supported
  | property => g.store id object property

def setProp (g : Graph) (id : NodeId) (key : String) (value : Value) : Outcome Graph Verdict :=
  match g.kind? id with
  | none => .done g (.error (.missingReference id))
  | some kind =>
    match Property.decode key value with
    | .error issue => .done g (.error issue)
    | .ok property =>
      match g.object? id with
      | none => .done g (.error (.missingReference id))
      | some object =>
        (g.setProperty id kind object property).map fun supported =>
          if supported then .ok () else .error (.unsupportedProperty key kind)

/-- Only the selection of a camera can be unset. -/
def unsetProp (g : Graph) (id : NodeId) (key : String) : Graph × Verdict :=
  match g.kind? id with
  | none => (g, .error (.missingReference id))
  | some kind =>
    if key = Property.activeKey then (g.select id false, .ok ())
    else (g, .error (.unsupportedProperty key kind))

end Graph

end LiveScene
