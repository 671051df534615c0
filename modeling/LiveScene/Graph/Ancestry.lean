import LiveScene.Graph.Basic

/-! # Chains of parents

Recorded parents are followed upward for a bounded number of steps, so that a chain that loops does
no harm.
-/

namespace LiveScene.Graph

/-- How many parents are looked at. -/
def chainLimit : Nat := 4096

/-- Whether `ancestor` is among the first `depth` nodes of a chain of parents, or the chain goes
on beyond them. -/
def chainReaches (g : Graph) (ancestor : NodeId) : Nat → Option NodeId → Bool
  | _, none => false
  | 0, some _ => true
  | depth + 1, some node => node == ancestor || chainReaches g ancestor depth (g.parent? node)

/-- Whether `ancestor` stands above `id`. A chain too long to follow counts as yes. -/
def isAncestor (g : Graph) (ancestor id : NodeId) : Bool :=
  g.chainReaches ancestor chainLimit (g.parent? id)

/-- A matrix multiplied from the left by those of the nodes of a chain of parents, up to the first
that is not a node. -/
def composeUp (g : Graph) : Nat → Option NodeId → Mat4 → Mat4
  | 0, _, matrix => matrix
  | _, none, matrix => matrix
  | depth + 1, some parent, matrix =>
    match g.node? parent with
    | some node => composeUp g depth (g.parent? parent) (node.transform.toMatrix * matrix)
    | none => matrix

/-- The placement of a node in the world. -/
def worldMatrix? (g : Graph) (id : NodeId) : Option Mat4 :=
  (g.node? id).map fun node =>
    g.composeUp (chainLimit + 1) (g.parent? id) node.transform.toMatrix

end LiveScene.Graph
