import LiveScene.Edit.Delete
import LiveScene.Edit.SetProp
import LiveScene.Wire.Op

/-! # Applying operations

An operation takes effect or is ignored, and never stops the ones after it; only a fault does. A
report counts both. A tree is built level by level, each node being created and then linked under
its parent.
-/

namespace LiveScene

/-- How many operations took effect and how many were ignored. -/
structure Report where
  applied : Nat := 0
  ignored : Nat := 0
deriving DecidableEq, Repr

namespace Report

def total (report : Report) : Nat := report.applied + report.ignored

def add (a b : Report) : Report := ⟨a.applied + b.applied, a.ignored + b.ignored⟩

/-- Counts a verdict. -/
def count (report : Report) : Verdict → Report
  | .ok () => { report with applied := report.applied + 1 }
  | .error _ => { report with ignored := report.ignored + 1 }

end Report

namespace Graph

/-- Sets the properties of a new node in order. One that is refused is skipped. -/
def setProps (g : Graph) (id : NodeId) : PropertyList → Outcome Graph Unit
  | [] => .done g ()
  | (key, value) :: rest =>
    ((g.setProp id key value).note fun _ verdict =>
      match verdict with
      | .ok () => #[]
      | .error issue =>
        Log.debug ("Create " ++ id.label ++ ": ignoring prop: " ++ issue.message)).andThen
      fun g _ => g.setProps id rest

def create (g : Graph) (id : NodeId) (kind : Kind) (properties : PropertyList) :
    Outcome Graph Verdict :=
  if g.contains id then .done g (.error (.duplicateId id))
  else
    match g.newObject? kind with
    | none => .done g (.error (.unknownKind id kind))
    | some (object, g) =>
      match g.insert? id kind object with
      | none => .done g (.error (.duplicateId id))
      | some g => (g.setProps id properties).map .ok

def apply (g : Graph) : Op → Outcome Graph Verdict
  | .create id kind properties => g.create id kind properties
  | .attach parent child =>
    let (g, verdict) := g.attach parent child
    .done g verdict
  | .detach parent child =>
    let (g, verdict) := g.detach parent child
    .done g verdict
  | .setProp id key value => g.setProp id key value
  | .unsetProp id key =>
    let (g, verdict) := g.unsetProp id key
    .done g verdict
  | .delete id => g.delete id

/-- Applies an operation and counts it in a report. -/
def record (g : Graph) (report : Report) (op : Op) : Outcome Graph Report :=
  ((g.apply op).note fun _ verdict =>
    match verdict with
    | .ok () => #[]
    | .error issue => Log.debug ("Ignoring " ++ op.name ++ ": " ++ issue.message)).map report.count

/-- Goes on with an operation, unless there was a fault. -/
def recordAfter (outcome : Outcome Graph Report) (op : Op) : Outcome Graph Report :=
  outcome.andThen fun g report => g.record report op

/-- Applies operations strictly in order. -/
def applyAll (g : Graph) (ops : List Op) : Outcome Graph Report :=
  ops.foldl recordAfter (.done g {})

/-- Trees that wait to be built, each with the node to link it under. -/
abbrev Queue := List (Option NodeId × Descriptor)

/-- The operations that make one node: it is created, then linked. -/
def nodeOps (parent : Option NodeId) (tree : Descriptor) : List Op :=
  .create tree.id tree.kind tree.properties ::
    (parent.map fun parent => Op.attach parent tree.id).toList

/-- How many nodes wait. -/
def Queue.nodeCount (queue : Queue) : Nat :=
  Descriptor.forestCount (queue.map Prod.snd)

theorem forestCount_append (trees more : List Descriptor) :
    Descriptor.forestCount (trees ++ more) =
      Descriptor.forestCount trees + Descriptor.forestCount more := by
  induction trees with
  | nil => simp [Descriptor.forestCount]
  | cons tree rest ih =>
    simp only [List.cons_append, Descriptor.forestCount, ih]
    omega

theorem Queue.nodeCount_step (parent : Option NodeId) (tree : Descriptor) (rest : Queue) :
    Queue.nodeCount (rest ++ tree.children.map (some tree.id, ·)) + 1 =
      Queue.nodeCount ((parent, tree) :: rest) := by
  cases tree with
  | node id kind properties children =>
    have children_eq : (children.map fun child => (some id, child)).map Prod.snd = children := by
      simp [Function.comp_def]
    simp only [Queue.nodeCount, List.map_append, List.map_cons, forestCount_append,
      Descriptor.forestCount, Descriptor.nodeCount, Descriptor.children, Descriptor.id, children_eq]
    omega

/-- Builds the trees of a queue, putting the children of each node at its end. -/
def build (outcome : Outcome Graph Report) : Queue → Outcome Graph Report
  | [] => outcome
  | (parent, tree) :: rest =>
    build ((nodeOps parent tree).foldl recordAfter outcome)
      (rest ++ tree.children.map (some tree.id, ·))
termination_by queue => Queue.nodeCount queue
decreasing_by
  have := Queue.nodeCount_step parent tree rest
  omega

/-- Builds a tree into the graph, level by level. -/
def buildTree (g : Graph) (tree : Descriptor) : Outcome Graph Report :=
  (build (.done g {}) [(none, tree)]).note fun g report =>
    Log.debug ("Materialized " ++ toString g.size ++ " nodes (" ++ toString report.ignored ++
      " steps ignored)")

end Graph

end LiveScene
