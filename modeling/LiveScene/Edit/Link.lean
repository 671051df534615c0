import LiveScene.Edit.Issue
import LiveScene.Graph.Ancestry

/-! # Linking and unlinking

A child is linked to its parent through the list of children, or through the slot of its category
when it is a geometry or a material. Linking takes the child from wherever it was before.
-/

namespace LiveScene

/-- Whether an edit took effect, or why it was ignored. -/
abbrev Verdict := Except Issue Unit

namespace Slots

def get (slots : Slots) : Category → Option NodeId
  | .geometry => slots.geometry
  | .material => slots.material
  | .generic => none

def set (slots : Slots) (category : Category) (id : Option NodeId) : Slots :=
  match category with
  | .geometry => { slots with geometry := id }
  | .material => { slots with material := id }
  | .generic => slots

end Slots

namespace Node

/-- What the slot of a category holds; only meshes have slots. -/
def slot? (node : Node) (category : Category) : Option NodeId :=
  match node.role with
  | .mesh slots => slots.get category
  | _ => none

def isMesh (node : Node) : Bool :=
  match node.role with
  | .mesh _ => true
  | _ => false

def setSlot (node : Node) (category : Category) (id : Option NodeId) : Node :=
  match node.role with
  | .mesh slots => { node with role := .mesh (slots.set category id) }
  | _ => node

/-- Whether a node has a child of a category in its list or in the slot of the category. -/
def Holds (node : Node) (category : Category) (child : NodeId) : Prop :=
  match category with
  | .generic => child ∈ node.children
  | category => node.slot? category = some child

instance (node : Node) (category : Category) (child : NodeId) :
    Decidable (node.Holds category child) :=
  match category with
  | .generic => inferInstanceAs (Decidable (child ∈ node.children))
  | .geometry => inferInstanceAs (Decidable (node.slot? .geometry = some child))
  | .material => inferInstanceAs (Decidable (node.slot? .material = some child))

/-- The node without a child of a category. -/
def drop (node : Node) (category : Category) (child : NodeId) : Node :=
  match category with
  | .generic => node.removeChild child
  | category => node.setSlot category none

/-- The node without the link to a child; none when it has no such link. -/
def unlink? (node : Node) (category : Category) (child : NodeId) : Option Node :=
  if node.Holds category child then some (node.drop category child) else none

end Node

namespace Graph

/-- Undoes a link. The recorded parent and the link itself are undone independently, and it is
enough that one of them was there. -/
def detach (g : Graph) (parent child : NodeId) : Graph × Verdict :=
  match g.kind? parent with
  | none => (g, .error (.missingReference parent))
  | some _ =>
    match g.kind? child with
    | none => (g, .error (.missingReference child))
    | some childKind =>
      match g.object? parent with
      | none => (g, .error (.missingReference parent))
      | some object =>
        let unlinked := object.node?.bind (·.unlink? childKind.category child)
        let g := match unlinked with
          | some node => g.setNode parent node
          | none => g
        if g.parent? child = some parent then (g.setParent child none, .ok ())
        else if unlinked.isSome then (g, .ok ())
        else (g, .error (.invalidLink parent child .notLinked))

/-- Takes a child from the parent it has. -/
def unlink (g : Graph) (child : NodeId) : Graph :=
  match g.parent? child with
  | none => g
  | some parent =>
    match g.detach parent child with
    | (g, .ok ()) => g
    | (g, .error _) => g.setParent child none

/-- Puts a geometry or a material into the slot of a mesh. What was in the slot loses its
parent. -/
def attachToSlot (g : Graph) (parent child : NodeId) (category : Category) : Graph × Verdict :=
  let g := g.unlink child
  match (g.node? parent).filter Node.isMesh with
  | some node =>
    let g := g.setNode parent (node.setSlot category (some child))
    let g := match node.slot? category with
      | some previous => if previous ≠ child then g.setParent previous none else g
      | none => g
    (g.setParent child (some parent), .ok ())
  | none => (g, .error (.invalidLink parent child .noSlots))

/-- Appends a node to the children of another. A scene that gets a parent is unmounted. -/
def attachToNode (g : Graph) (parent child : NodeId) (kind : Kind) : Graph × Verdict :=
  match g.node? parent with
  | none => (g, .error (.invalidLink parent child .noChildren))
  | some _ =>
    if g.isAncestor child parent then (g, .error (.invalidLink parent child .cycle))
    else
      let g := g.unlink child
      let g := if kind = .scene then g.unmount child else g
      let g := match g.node? parent with
        | some node => g.setNode parent (node.pushChild child)
        | none => g
      (g.setParent child (some parent), .ok ())

/-- Links a child under a parent. -/
def attach (g : Graph) (parent child : NodeId) : Graph × Verdict :=
  match g.kind? parent with
  | none => (g, .error (.missingReference parent))
  | some parentKind =>
    match g.kind? child with
    | none => (g, .error (.missingReference child))
    | some childKind =>
      if parent = child then (g, .error (.invalidLink parent child .self))
      else if childKind.category = .generic then g.attachToNode parent child childKind
      else if parentKind ≠ .mesh then (g, .error (.invalidLink parent child .notAMesh))
      else g.attachToSlot parent child childKind.category

end Graph

end LiveScene
