import LiveScene.Edit.Link
import LiveScene.Outcome

/-! # Deleting

A deleted node is taken from its parent and gives up its handle. What was linked under it stays
live, without a parent.
-/

namespace LiveScene.Graph

/-- Everything linked under a node: its children, then its geometry, then its material. -/
def dependents (g : Graph) (id : NodeId) : List NodeId :=
  match g.node? id with
  | none => []
  | some node =>
    node.children ++ (node.slot? .geometry).toList ++ (node.slot? .material).toList

/-- Takes a node's dependents from it, as far as it is their recorded parent. -/
def orphan (g : Graph) (id : NodeId) (dependents : List NodeId) : Graph :=
  dependents.foldl
    (fun g dependent => if g.parent? dependent = some id then g.setParent dependent none else g) g

/-- Undoes the link to the parent, and says what was wrong with it if anything was. -/
def leaveParent (g : Graph) (id : NodeId) : Graph × Log :=
  match g.parent? id with
  | none => (g, #[])
  | some parent =>
    match g.detach parent id with
    | (g, .ok ()) => (g, #[])
    | (g, .error issue) =>
      (g.setParent id none, Log.debug ("Delete " ++ id.label ++ ": " ++ issue.message))

def delete (g : Graph) (id : NodeId) : Outcome Graph Verdict :=
  if g.contains id then
    let (g, log) := g.leaveParent id
    let g := g.orphan id (g.dependents id)
    ⟨g.remove id, .ok (.ok ()), log ++ g.removalLog id⟩
  else .done g (.error (.missingReference id))

end LiveScene.Graph
