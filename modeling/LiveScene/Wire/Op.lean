import LiveScene.Kind
import LiveScene.NodeId
import LiveScene.Wire.Value

/-! # Operations and tree descriptions

The remote side describes its scene in two ways: as single operations on nodes, and as a whole tree
that replaces what was there.
-/

namespace LiveScene

inductive Op where
  | create (id : NodeId) (kind : Kind) (properties : PropertyList)
  | attach (parent child : NodeId)
  | detach (parent child : NodeId)
  | setProp (id : NodeId) (key : String) (value : Value)
  | unsetProp (id : NodeId) (key : String)
  | delete (id : NodeId)
deriving DecidableEq

namespace Op

def name : Op → String
  | .create .. => "create"
  | .attach .. => "attach"
  | .detach .. => "detach"
  | .setProp .. => "setProp"
  | .unsetProp .. => "unsetProp"
  | .delete .. => "delete"

/-- Whether every color in the operation is solid. -/
def isSolid : Op → Bool
  | .create _ _ properties => properties.isSolid
  | .setProp _ _ value => value.isSolid
  | _ => true

end Op

/-- A node with its properties and the trees under it. -/
inductive Descriptor where
  | node (id : NodeId) (kind : Kind) (properties : PropertyList) (children : List Descriptor)

namespace Descriptor

def id : Descriptor → NodeId
  | .node id _ _ _ => id

def kind : Descriptor → Kind
  | .node _ kind _ _ => kind

def properties : Descriptor → PropertyList
  | .node _ _ properties _ => properties

def children : Descriptor → List Descriptor
  | .node _ _ _ children => children

mutual

/-- How many nodes the tree has. -/
def nodeCount : Descriptor → Nat
  | .node _ _ _ children => 1 + forestCount children

/-- How many nodes a list of trees has. -/
def forestCount : List Descriptor → Nat
  | [] => 0
  | tree :: rest => nodeCount tree + forestCount rest

end

mutual

/-- Whether every color in the tree is solid. -/
def isSolid : Descriptor → Bool
  | .node _ _ properties children => properties.isSolid && forestIsSolid children

/-- Whether every color in a list of trees is solid. -/
def forestIsSolid : List Descriptor → Bool
  | [] => true
  | tree :: rest => isSolid tree && forestIsSolid rest

end

end Descriptor

end LiveScene
