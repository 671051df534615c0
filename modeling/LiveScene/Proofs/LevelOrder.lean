import LiveScene.Proofs.Batches
import Mathlib.Data.List.Nodup

/-! # Trees level by level

A tree is built level by level, and within a level from left to right. Each node comes right after
all nodes that stand before it in this order, among them the node it is under. Building a tree is
therefore the same as applying one list of operations.
-/

namespace LiveScene

/-- A node of a tree, and the node it is under if it is not the root. -/
structure Place where
  parent : Option Descriptor
  node : Descriptor

namespace Place

/-- The places under a place, from left to right. -/
def below (place : Place) : List Place :=
  place.node.children.map fun child => ⟨some place.node, child⟩

/-- The operations that make the node of a place. -/
def ops (place : Place) : List Op :=
  Graph.nodeOps (place.parent.map Descriptor.id) place.node

/-- The place as it waits to be built. -/
def entry (place : Place) : Option NodeId × Descriptor :=
  (place.parent.map Descriptor.id, place.node)

/-- How many nodes there are at and under some places. -/
def count (places : List Place) : Nat :=
  Descriptor.forestCount (places.map node)

theorem map_node_below (place : Place) : place.below.map node = place.node.children := by
  simp [below, Function.comp_def]

theorem count_append (places more : List Place) :
    count (places ++ more) = count places + count more := by
  rw [count, List.map_append, Graph.forestCount_append]
  rfl

theorem count_cons (place : Place) (rest : List Place) :
    count (place :: rest) = 1 + count place.below + count rest := by
  rcases place with ⟨parent, ⟨id, kind, properties, children⟩⟩
  simp only [count, map_node_below, List.map_cons, Descriptor.forestCount, Descriptor.nodeCount,
    Descriptor.children]

/-- Every node is on its level, or under a node of it. -/
theorem count_eq (level : List Place) :
    count level = level.length + count (level.flatMap below) := by
  induction level with
  | nil => rfl
  | cons place rest ih =>
      rw [count_cons, List.flatMap_cons, count_append, List.length_cons, ih]
      omega

/-- The places of a level, and then those of the levels under it. -/
def levelOrder : List Place → List Place
  | [] => []
  | place :: rest => place :: rest ++ levelOrder ((place :: rest).flatMap below)
termination_by level => count level
decreasing_by
  rw [count_eq (place :: rest), List.length_cons]
  omega

theorem length_levelOrder (level : List Place) : (levelOrder level).length = count level := by
  fun_induction levelOrder level with
  | case1 => rfl
  | case2 place rest ih => rw [List.length_append, ih, ← count_eq]

/-- Apart from the first level, the order lists the places under its own places. -/
theorem levelOrder_eq_flatMap (level : List Place) :
    levelOrder level = level ++ (levelOrder level).flatMap below := by
  fun_induction levelOrder level with
  | case1 => rfl
  | case2 place rest ih => rw [List.flatMap_append, ← ih]

/-- What a place is under comes before it. -/
theorem parent_before {level : List Place} {seen : List Descriptor}
    (hlevel : ∀ place ∈ level, ∀ parent, place.parent = some parent →
      parent ∈ seen ∧ place.node ∈ parent.children)
    {before after : List Place} {place : Place}
    (hsplit : levelOrder level = before ++ place :: after) {parent : Descriptor}
    (hparent : place.parent = some parent) :
    (parent ∈ seen ∨ parent ∈ before.map node) ∧ place.node ∈ parent.children := by
  fun_induction levelOrder level generalizing seen before with
  | case1 => simp at hsplit
  | case2 first rest ih =>
      -- The next level is under this one, so this one is what has been seen when its turn comes.
      have hlower : ∀ lower ∈ (first :: rest).flatMap below, ∀ parent, lower.parent = some parent →
          parent ∈ (first :: rest).map node ∧ lower.node ∈ parent.children := by
        intro lower hlower parent hparent
        obtain ⟨upper, hupper, hlower⟩ := List.mem_flatMap.mp hlower
        obtain ⟨child, hchild, rfl⟩ := List.mem_map.mp hlower
        cases Option.some.inj hparent
        exact ⟨List.mem_map_of_mem hupper, hchild⟩
      rcases List.append_eq_append_iff.mp hsplit with
        ⟨lower, rfl, hlowerSplit⟩ | ⟨upper, hupper, hupperSplit⟩
      · obtain ⟨hseen, hchild⟩ := ih hlower hlowerSplit
        refine ⟨Or.inr ?_, hchild⟩
        rw [List.map_append, List.mem_append]
        exact hseen
      · cases upper with
        | nil =>
            -- The place is the first of the next level.
            have hnext : levelOrder ((first :: rest).flatMap below) = [] ++ place :: after := by
              simpa using hupperSplit.symm
            obtain ⟨hseen, hchild⟩ := ih hlower hnext
            refine ⟨Or.inr ?_, hchild⟩
            rw [List.append_nil] at hupper
            simpa [← hupper] using hseen
        | cons _ _ =>
            cases hupperSplit
            have hmem : place ∈ first :: rest := by
              rw [hupper]
              exact List.mem_append_right _ List.mem_cons_self
            exact ⟨Or.inl (hlevel place hmem parent hparent).1, (hlevel place hmem parent hparent).2⟩

end Place

namespace Descriptor

/-- The places of a tree, level by level. -/
def places (tree : Descriptor) : List Place :=
  Place.levelOrder [⟨none, tree⟩]

/-- The nodes of a tree, level by level. -/
def nodes (tree : Descriptor) : List Descriptor :=
  tree.places.map Place.node

/-- The links of a tree, from parent to child, in the order of the children. -/
def edges (tree : Descriptor) : List (Descriptor × Descriptor) :=
  tree.nodes.flatMap fun parent => parent.children.map (parent, ·)

/-- Every place but the root is the lower end of a link. -/
theorem places_eq (tree : Descriptor) :
    tree.places = ⟨none, tree⟩ :: tree.edges.map fun edge => ⟨some edge.1, edge.2⟩ := by
  have hbelow : (tree.edges.map fun edge => (⟨some edge.1, edge.2⟩ : Place)) =
      tree.places.flatMap Place.below := by
    rw [edges, nodes, List.flatMap_map, List.map_flatMap]
    simp only [List.map_map, Function.comp_def]
    rfl
  rw [hbelow]
  exact Place.levelOrder_eq_flatMap _

theorem length_places (tree : Descriptor) : tree.places.length = tree.nodeCount := by
  rw [places, Place.length_levelOrder]
  simp [Place.count, forestCount]

/-- The root takes one operation, and every other node two. -/
theorem length_ops (tree : Descriptor) :
    (tree.places.flatMap Place.ops).length = 2 * tree.nodeCount - 1 := by
  have hedges : ∀ edges : List (Descriptor × Descriptor),
      ((edges.map fun edge => (⟨some edge.1, edge.2⟩ : Place)).flatMap Place.ops).length =
        2 * edges.length := by
    intro edges
    induction edges with
    | nil => rfl
    | cons edge rest ih =>
        rw [List.map_cons, List.flatMap_cons, List.length_append, ih, List.length_cons]
        simp only [Place.ops, Graph.nodeOps, Option.map_some, Option.toList_some, List.length_cons,
          List.length_nil]
        omega
  have hcount := tree.length_places
  rw [places_eq, List.length_cons, List.length_map] at hcount
  rw [places_eq, List.flatMap_cons, List.length_append, hedges, ← hcount]
  simp only [Place.ops, Graph.nodeOps, Option.map_none, Option.toList_none, List.length_singleton]
  omega

mutual

/-- The number of links on the longest way down. -/
def height : Descriptor → Nat
  | .node _ _ _ children => forestHeight children

/-- The number of links on the longest way down to and through a list of trees. -/
def forestHeight : List Descriptor → Nat
  | [] => 0
  | tree :: rest => max (height tree + 1) (forestHeight rest)

end

theorem height_lt_of_mem {node child : Descriptor} (hchild : child ∈ node.children) :
    child.height < node.height := by
  have hforest : ∀ children : List Descriptor, child ∈ children →
      child.height < forestHeight children := by
    intro children hmem
    induction children with
    | nil => cases hmem
    | cons tree rest ih =>
        rw [forestHeight]
        rcases List.mem_cons.mp hmem with rfl | hrest
        · omega
        · have hlt := ih hrest
          omega
  rcases node with ⟨id, kind, properties, children⟩
  rw [height]
  exact hforest children hchild

end Descriptor

/-- What can be relied on while the first places of a tree are gone through. -/
structure Place.Grounded (tree : Descriptor) (places : List Place) : Prop where
  distinct : (places.map fun place => place.node.id).Nodup
  /-- A place is under a node that was gone through. -/
  parent : ∀ place ∈ places, ∀ parent, place.parent = some parent →
    parent ∈ places.map Place.node ∧ place.node ∈ parent.children
  height_le : ∀ place ∈ places, place.node.height ≤ tree.height

theorem Place.Grounded.eq_of_id_eq {tree : Descriptor} {places : List Place}
    (h : Place.Grounded tree places) {place other : Place} (hplace : place ∈ places)
    (hother : other ∈ places) (hid : place.node.id = other.node.id) : place = other :=
  List.inj_on_of_nodup_map h.distinct hplace hother hid

namespace Descriptor

theorem height_le_of_mem_places {tree : Descriptor} {place : Place} (hplace : place ∈ tree.places) :
    place.node.height ≤ tree.height := by
  have hlevels : ∀ level : List Place, (∀ upper ∈ level, upper.node.height ≤ tree.height) →
      ∀ lower ∈ Place.levelOrder level, lower.node.height ≤ tree.height := by
    intro level hlevel
    fun_induction Place.levelOrder level with
    | case1 => simp
    | case2 first rest ih =>
        intro lower hlower
        rcases List.mem_append.mp hlower with hfirst | hrest
        · exact hlevel lower hfirst
        · refine ih (fun under hunder => ?_) lower hrest
          obtain ⟨upper, hupper, hunder⟩ := List.mem_flatMap.mp hunder
          obtain ⟨child, hchild, rfl⟩ := List.mem_map.mp hunder
          exact Nat.le_trans (Nat.le_of_lt (height_lt_of_mem hchild)) (hlevel upper hupper)
  exact hlevels _ (by simp) place hplace

theorem grounded_of_prefix {tree : Descriptor} (hdistinct : (tree.nodes.map Descriptor.id).Nodup)
    {before after : List Place} (hsplit : tree.places = before ++ after) :
    Place.Grounded tree before := by
  refine ⟨?_, fun place hplace parent hparent => ?_, fun place hplace => ?_⟩
  · rw [nodes, hsplit, List.map_map, List.map_append] at hdistinct
    exact hdistinct.of_append_left
  · obtain ⟨front, back, rfl⟩ := List.append_of_mem hplace
    rw [List.append_assoc, List.cons_append] at hsplit
    have hroot : ∀ root ∈ [(⟨none, tree⟩ : Place)], ∀ parent, root.parent = some parent →
        parent ∈ ([] : List Descriptor) ∧ root.node ∈ parent.children := by simp
    obtain ⟨hseen, hchild⟩ := Place.parent_before hroot hsplit hparent
    refine ⟨?_, hchild⟩
    rw [List.map_append, List.mem_append]
    exact Or.inl (hseen.resolve_left List.not_mem_nil)
  · refine height_le_of_mem_places ?_
    rw [hsplit]
    exact List.mem_append_left _ hplace

end Descriptor

namespace Graph

theorem build_entry_cons (outcome : Outcome Graph Report) (place : Place) (rest : List Place) :
    build outcome (place.entry :: rest.map Place.entry) =
      build (place.ops.foldl recordAfter outcome) ((rest ++ place.below).map Place.entry) := by
  rw [Place.entry, build, List.map_append]
  simp [Place.below, Place.entry, Place.ops, Function.comp_def]

/-- Building from a queue goes through what is left of a level, and then through the next level, of
which a part may be known already. -/
theorem build_eq_foldl (outcome : Outcome Graph Report) (first later : List Place) :
    build outcome ((first ++ later).map Place.entry) =
      (first ++ Place.levelOrder (later ++ first.flatMap Place.below)).foldl
        (fun outcome place => place.ops.foldl recordAfter outcome) outcome := by
  cases first with
  | nil =>
      cases later with
      | nil => simp [build, Place.levelOrder]
      | cons place rest =>
          -- The next level begins.
          have hrest := build_eq_foldl (place.ops.foldl recordAfter outcome) rest place.below
          simpa [build_entry_cons, Place.levelOrder] using hrest
  | cons place rest =>
      have hrest := build_eq_foldl (place.ops.foldl recordAfter outcome) rest (later ++ place.below)
      rw [List.cons_append, List.map_cons, build_entry_cons, List.append_assoc, hrest]
      simp
termination_by Place.count (first ++ later)
decreasing_by
  all_goals
    simp only [List.nil_append, Place.count_append, Place.count_cons]
    omega

/-- Building a tree is applying the operations of its places. -/
theorem buildTree_eq_applyAll (g : Graph) (tree : Descriptor) :
    (g.buildTree tree).state = (g.applyAll (tree.places.flatMap Place.ops)).state ∧
      (g.buildTree tree).result = (g.applyAll (tree.places.flatMap Place.ops)).result := by
  have hbuild : build (.done g {}) [(none, tree)] =
      g.applyAll (tree.places.flatMap Place.ops) := by
    rw [applyAll, List.foldl_flatMap, Descriptor.places]
    exact build_eq_foldl (.done g {}) [] [⟨none, tree⟩]
  rw [buildTree, hbuild, Outcome.note]
  split <;> exact ⟨rfl, rfl⟩

end Graph

end LiveScene
