import LiveScene.Log
import LiveScene.Object.Basic

/-! # The object graph

A graph keeps three tables by id: the live objects, their kinds and their recorded parents. Beside
them it keeps the selected camera, the mounted scenes in the order of their creation, the handles
given up since they were last taken, and the last handle drawn.

The operations here work on single entries of the tables. Links are kept in two places, the recorded
parent of a child and the child list or slot of its parent; keeping the two in step is the work of
the edits.
-/

namespace LiveScene

structure Graph where
  objects : NodeMap Object := ∅
  /-- The kind of each live id, which decides how it is linked and what can be set on it. -/
  kinds : NodeMap Kind := ∅
  /-- The recorded parent of each live id, if it has one. -/
  parents : NodeMap (Option NodeId) := ∅
  active : Option NodeId := none
  scenes : List NodeId := []
  released : List Handle := []
  lastHandle : Nat := 0

namespace Graph

/-- Comparison of all parts, parameters as numbers. -/
instance : BEq Graph :=
  ⟨fun a b => a.objects.toList == b.objects.toList && a.kinds.toList == b.kinds.toList &&
    a.parents.toList == b.parents.toList && a.active == b.active && a.scenes == b.scenes &&
    a.released == b.released && a.lastHandle == b.lastHandle⟩

def empty : Graph := {}

def size (g : Graph) : Nat := g.objects.size

def isEmpty (g : Graph) : Bool := g.objects.isEmpty

def contains (g : Graph) (id : NodeId) : Bool := g.objects.contains id

/-- The live ids in ascending order. -/
def ids (g : Graph) : List NodeId := g.objects.keys

def object? (g : Graph) (id : NodeId) : Option Object := g.objects[id]?

def kind? (g : Graph) (id : NodeId) : Option Kind := g.kinds[id]?

/-- The recorded parent of a live node that has one. -/
def parent? (g : Graph) (id : NodeId) : Option NodeId := g.parents[id]?.join

def node? (g : Graph) (id : NodeId) : Option Node := (g.object? id).bind Object.node?

def camera? (g : Graph) (id : NodeId) : Option Camera := (g.object? id).bind Object.camera?

/-- The selected camera, when its id belongs to one. -/
def activeCamera? (g : Graph) : Option Camera := g.active.bind g.camera?

/-- Changes an object; an id that is not live is left alone. -/
def modify (g : Graph) (id : NodeId) (f : Object → Object) : Graph :=
  { g with objects := g.objects.modify id f }

def setObject (g : Graph) (id : NodeId) (object : Object) : Graph :=
  g.modify id fun _ => object

def setBody (g : Graph) (id : NodeId) (body : Body) : Graph :=
  g.modify id fun object => { object with body }

def setNode (g : Graph) (id : NodeId) (node : Node) : Graph :=
  g.setBody id (.node node)

/-- Records a parent; an id that is not live is left alone. -/
def setParent (g : Graph) (id : NodeId) (parent : Option NodeId) : Graph :=
  { g with parents := g.parents.modify id fun _ => parent }

def setActive (g : Graph) (active : Option NodeId) : Graph :=
  { g with active }

/-- The next handle. -/
def nextHandle (g : Graph) : Handle := g.lastHandle + 1

/-- Counts the next handle as drawn. -/
def drawHandle (g : Graph) : Graph :=
  { g with lastHandle := g.nextHandle }

/-- The default object of a kind, and the graph after drawing its handle if it needs one. -/
def newObject? (g : Graph) (kind : Kind) : Option (Object × Graph) :=
  (Object.default? kind g.nextHandle).map fun object =>
    (object, if object.handle?.isSome then g.drawHandle else g)

/-- Adds an object without a parent to all tables, unless its id is live; a scene is mounted. -/
def insert? (g : Graph) (id : NodeId) (kind : Kind) (object : Object) : Option Graph :=
  if g.contains id then none
  else
    some
      { g with
        objects := g.objects.insert id object
        kinds := g.kinds.insert id kind
        parents := g.parents.insert id none
        scenes := if kind = .scene then g.scenes ++ [id] else g.scenes }

def release (g : Graph) (handle : Option Handle) : Graph :=
  { g with released := g.released ++ handle.toList }

/-- Takes an id out of all tables and gives up its handle. Links are left alone. -/
def remove (g : Graph) (id : NodeId) : Graph :=
  match g.object? id with
  | none => g
  | some object =>
    { g with
      objects := g.objects.erase id
      kinds := g.kinds.erase id
      parents := g.parents.erase id
      active := if g.active = some id then none else g.active
      scenes := g.scenes.filter (· ≠ id)
      released := g.released ++ object.handle?.toList }

/-- What is logged when an id is removed. -/
def removalLog (g : Graph) (id : NodeId) : Log :=
  if g.active = some id ∧ g.contains id then
    Log.debug ("Active camera " ++ id.label ++ " deleted")
  else #[]

/-- Puts another object under a live id and gives up the handle of the old one. -/
def replace? (g : Graph) (id : NodeId) (object : Object) : Option Graph :=
  (g.object? id).map fun previous => (g.setObject id object).release previous.handle?

def unmount (g : Graph) (id : NodeId) : Graph :=
  { g with scenes := g.scenes.filter (· ≠ id) }

/-- Forgets the handles given up so far. -/
def forgetReleased (g : Graph) : Graph :=
  { g with released := [] }

/-- Takes everything out, from the largest id to the smallest. The count of drawn handles goes
on. -/
def clear (g : Graph) : Graph :=
  { g.ids.reverse.foldl remove g with active := none, scenes := [] }

/-- What is logged when the graph is cleared. -/
def clearLog (g : Graph) : Log :=
  (match g.active with
    | some id => g.removalLog id
    | none => #[]) ++ Log.debug "Object graph cleared"

end Graph

end LiveScene
