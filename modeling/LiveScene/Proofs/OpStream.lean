import LiveScene.Proofs.LevelOrder
import Mathlib.Data.List.Perm.Basic

/-! # Trees as lists of operations

Whoever sends a tree could as well send operations: each node is created and then linked under its
parent, level by level and from left to right. The levels are counted here from the root, and hold
every node of the tree once.
-/

namespace LiveScene

namespace Place

/-- The places some levels below a level, from left to right. -/
def lower : Nat → List Place → List Place
  | 0, level => level
  | depth + 1, level => lower depth (level.flatMap below)

/-- The operations for a place: its node is created, and linked if it is not the root. -/
def steps (place : Place) : List Op :=
  match place.parent with
  | none => [.create place.node.id place.node.kind place.node.properties]
  | some parent =>
    [.create place.node.id place.node.kind place.node.properties, .attach parent.id place.node.id]

theorem steps_eq_ops (place : Place) : place.steps = place.ops := by
  rcases place with ⟨_ | parent, node⟩ <;> rfl

theorem levelOrder_eq_append (level : List Place) :
    levelOrder level = level ++ levelOrder (level.flatMap below) := by
  cases level with
  | nil => simp [levelOrder]
  | cons place rest => rw [levelOrder]

/-- The order by levels is made of the levels, counted as far as there are nodes. -/
theorem levelOrder_eq_lower {count : Nat} {level : List Place}
    (hheight : ∀ place ∈ level, place.node.height < count) :
    levelOrder level = (List.range count).flatMap fun depth => lower depth level := by
  induction count generalizing level with
  | zero =>
      have hnil : level = [] := List.eq_nil_iff_forall_not_mem.mpr fun place hplace =>
        Nat.not_lt_zero _ (hheight place hplace)
      rw [hnil, levelOrder]
      rfl
  | succ count ih =>
      have hbelow : ∀ place ∈ level.flatMap below, place.node.height < count := by
        intro place hplace
        obtain ⟨upper, hupper, hplace⟩ := List.mem_flatMap.mp hplace
        obtain ⟨child, hchild, rfl⟩ := List.mem_map.mp hplace
        have hlt := Descriptor.height_lt_of_mem hchild
        exact Nat.lt_of_lt_of_le hlt (Nat.lt_succ_iff.mp (hheight upper hupper))
      rw [levelOrder_eq_append, ih hbelow, List.range_succ_eq_map, List.flatMap_cons,
        List.flatMap_map]
      rfl

end Place

namespace Descriptor

/-- The levels of a tree from its root down. -/
def levels (tree : Descriptor) : List (List Place) :=
  (List.range (tree.height + 1)).map fun depth => Place.lower depth [⟨none, tree⟩]

/-- The operations that make a tree. -/
def stream (tree : Descriptor) : List Op :=
  tree.levels.flatten.flatMap Place.steps

mutual

/-- The nodes of a tree under a parent, each before the nodes under it. -/
def occurrences (parent : Option Descriptor) : Descriptor → List Place
  | .node id kind properties children =>
    ⟨parent, .node id kind properties children⟩ ::
      forestOccurrences (some (.node id kind properties children)) children

/-- The nodes of some trees under a parent. -/
def forestOccurrences (parent : Option Descriptor) : List Descriptor → List Place
  | [] => []
  | tree :: rest => occurrences parent tree ++ forestOccurrences parent rest

end

theorem forestOccurrences_eq_flatMap (parent : Option Descriptor) (trees : List Descriptor) :
    forestOccurrences parent trees = trees.flatMap (occurrences parent) := by
  induction trees with
  | nil => rfl
  | cons tree rest ih => rw [forestOccurrences, ih, List.flatMap_cons]

end Descriptor

namespace Place

/-- The nodes at and under a place. -/
def occurrences (place : Place) : List Place :=
  place.node.occurrences place.parent

theorem occurrences_eq (place : Place) :
    place.occurrences = place :: place.below.flatMap occurrences := by
  rcases place with ⟨parent, ⟨id, kind, properties, children⟩⟩
  rw [occurrences, Descriptor.occurrences, Descriptor.forestOccurrences_eq_flatMap, below,
    List.flatMap_map]
  rfl

/-- The order by levels has the nodes under each place of the first level once. -/
theorem levelOrder_perm (level : List Place) :
    (levelOrder level).Perm (level.flatMap occurrences) := by
  fun_induction levelOrder level with
  | case1 => exact .refl _
  | case2 place rest ih =>
      have hsplit : (place :: rest).flatMap occurrences =
          (place :: rest).flatMap fun upper => [upper] ++ upper.below.flatMap occurrences :=
        List.flatMap_congr fun upper _ => upper.occurrences_eq
      rw [List.flatMap_assoc] at ih
      rw [hsplit]
      have hupper : (place :: rest).flatMap (fun upper => [upper]) = place :: rest :=
        List.flatMap_singleton' _
      have hperm := List.flatMap_append_perm (place :: rest) (fun upper => [upper])
        fun upper => upper.below.flatMap occurrences
      rw [hupper] at hperm
      exact (ih.append_left _).trans hperm

end Place

namespace Descriptor

theorem flatten_levels (tree : Descriptor) : tree.levels.flatten = tree.places := by
  have hroot : ∀ place ∈ [(⟨none, tree⟩ : Place)], place.node.height < tree.height + 1 := by
    intro place hplace
    cases List.mem_singleton.mp hplace
    exact Nat.lt_succ_self _
  rw [places, Place.levelOrder_eq_lower hroot, levels, List.flatMap_def]

theorem stream_eq (tree : Descriptor) : tree.stream = tree.places.flatMap Place.ops := by
  rw [stream, flatten_levels, List.flatMap_congr fun place _ => place.steps_eq_ops]

end Descriptor

namespace Graph

/-- Building a tree into any graph leaves the graph and gives the report of applying its operations,
in which every node of the tree has its turn once. -/
theorem tree_as_stream (g : Graph) (tree : Descriptor) :
    (g.buildTree tree).state = (g.applyAll tree.stream).state ∧
      (g.buildTree tree).result = (g.applyAll tree.stream).result ∧
      tree.levels.flatten.Perm (tree.occurrences none) ∧
      tree.stream.length = 2 * tree.nodeCount - 1 := by
  obtain ⟨hstate, hresult⟩ := g.buildTree_eq_applyAll tree
  rw [tree.stream_eq]
  refine ⟨hstate, hresult, ?_, tree.length_ops⟩
  have hperm := Place.levelOrder_perm [⟨none, tree⟩]
  rw [List.flatMap_singleton] at hperm
  rw [tree.flatten_levels]
  exact hperm

/-- An id that comes twice is created where it comes first. The second time it is not created, but
linked to the other parent. -/
theorem tree_as_stream_repeated :
    let tree : Descriptor := .node ⟨1⟩ .group []
      [.node ⟨2⟩ .group [] [.node ⟨3⟩ .group [] []], .node ⟨3⟩ .group [] []]
    tree.stream = [.create ⟨1⟩ .group [], .create ⟨2⟩ .group [], .attach ⟨1⟩ ⟨2⟩,
        .create ⟨3⟩ .group [], .attach ⟨1⟩ ⟨3⟩, .create ⟨3⟩ .group [], .attach ⟨2⟩ ⟨3⟩] ∧
      (empty.buildTree tree).result = .ok ⟨6, 1⟩ ∧
      (empty.buildTree tree).state.parent? ⟨3⟩ = some ⟨2⟩ := by
  intro tree
  obtain ⟨hstate, hresult, -, -⟩ := tree_as_stream empty tree
  rw [hresult, hstate]
  decide +kernel

end Graph

end LiveScene
