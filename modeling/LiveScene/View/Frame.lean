import LiveScene.Graph.Ancestry

/-! # Frames

A frame is what a renderer draws: the matrices of the selected camera, the visible meshes that have
both a geometry and a visible material, and the visible lights. Meshes and lights come in
depth-first order, mounted scenes in their order and children in theirs.
-/

namespace LiveScene

structure DrawCommand where
  node : NodeId
  world : Mat4
  geometry : Handle
  material : Handle
  castShadow : Bool
  receiveShadow : Bool
deriving DecidableEq

structure PlacedLight where
  node : NodeId
  position : Vec3
  direction : Vec3
  light : Light
deriving DecidableEq

structure Frame where
  camera : NodeId
  objects : Nat
  perspective : Bool
  view : Mat4
  projection : Mat4
  draw : List DrawCommand
  lights : List PlacedLight
deriving DecidableEq

namespace Frame

def viewProjection (frame : Frame) : Mat4 :=
  frame.projection * frame.view

end Frame

/-- A visible node with its placement in the world. -/
structure Visit where
  id : NodeId
  node : Node
  world : Mat4

namespace Graph

/-- The visible nodes under the entries of a stack, and whether the walk was cut off. Every entry
taken off the stack counts against the budget. -/
def walk (g : Graph) : Nat → List (NodeId × Mat4) → List Visit × Bool
  | _, [] => ([], false)
  | 0, _ :: _ => ([], true)
  | budget + 1, (id, parentWorld) :: rest =>
    match g.node? id with
    | some node =>
      if node.visible then
        let world := parentWorld * node.transform.toMatrix
        let (visits, cut) := g.walk budget (node.children.map (·, world) ++ rest)
        (⟨id, node, world⟩ :: visits, cut)
      else g.walk budget rest
    | none => g.walk budget rest

/-- The visible nodes under the mounted scenes. A budget of the size of the graph keeps a hierarchy
that loops from being walked for ever. -/
def visits (g : Graph) : List Visit × Bool :=
  g.walk g.size (g.scenes.map (·, Mat4.identity))

def drawCommand? (g : Graph) (visit : Visit) : Option DrawCommand :=
  match visit.node.role with
  | .mesh slots => do
    let geometry ← (slots.geometry.bind g.object?).bind Object.geometry?
    let material ← (slots.material.bind g.object?).bind Object.material?
    if material.visible then
      some
        { node := visit.id
          world := visit.world
          geometry := geometry.handle
          material := material.handle
          castShadow := visit.node.castShadow
          receiveShadow := visit.node.receiveShadow }
    else none
  | _ => none

def placedLight? (visit : Visit) : Option PlacedLight :=
  match visit.node.role with
  | .light light =>
    let forward := Vec3.unitZ.neg
    some
      { node := visit.id
        position := visit.world.transformPoint Vec3.zero
        direction :=
          ((visit.world.transformVector forward).normalize? machineEpsilon).getD forward
        light }
  | _ => none

/-- What the selected camera sees; none without one. -/
def frame? (g : Graph) : Option Frame := do
  let id ← g.active
  let camera ← g.camera? id
  let world ← g.worldMatrix? id
  let (visits, _) := g.visits
  return {
    camera := id
    objects := g.size
    perspective := camera.isPerspective
    view := world.inverse?.getD Mat4.identity
    projection := camera.matrix
    draw := visits.filterMap g.drawCommand?
    lights := visits.filterMap placedLight? }

/-- What is logged when the meshes and then the lights of a frame are collected. -/
def walkLog (g : Graph) : Log :=
  if g.visits.2 then
    let warning := Log.warn "Frame traversal exceeded graph size, stopping"
    warning ++ warning
  else #[]

end Graph

end LiveScene
