import LiveScene.Proofs.Runs

/-! # Well-formed graphs

What a reader of a graph may rely on, said of the tables, the lists of children and the slots
themselves. Every run keeps it.
-/

namespace LiveScene.Graph

structure WellFormed (g : Graph) : Prop where
  /-- The three tables know the same ids. -/
  same_ids : ∀ id, (id ∈ g.kinds ↔ id ∈ g.objects) ∧ (id ∈ g.parents ↔ id ∈ g.objects)
  /-- What is recorded as the kind of an id is the kind of its object. -/
  kind_matches : ∀ id kind, g.kind? id = some kind →
    kind ≠ .unsupported ∧ ∃ object, g.object? id = some object ∧ object.body.kind = kind
  /-- A parent is recorded for exactly what the parent lists or has in the right slot. -/
  parent_iff : ∀ child parent, g.parent? child = some parent ↔
    ∃ node kind, g.node? parent = some node ∧ g.kind? child = some kind ∧
      (kind.category = .generic ∧ child ∈ node.children ∨
        kind.category = .geometry ∧ g.kind? parent = some .mesh ∧
          node.slot? .geometry = some child ∨
        kind.category = .material ∧ g.kind? parent = some .mesh ∧
          node.slot? .material = some child)
  /-- Lists of children name live nodes of generic kinds, each once. -/
  children_live : ∀ id node, g.node? id = some node → node.children.Nodup ∧
    ∀ child ∈ node.children, ∃ kind, g.kind? child = some kind ∧ kind.category = .generic
  /-- Slots name live nodes of their category. -/
  slots_live : ∀ id node category child, g.node? id = some node →
    node.slot? category = some child →
      ∃ kind, g.kind? child = some kind ∧ kind.category = category
  /-- No id is in two lists or slots. -/
  held_once : ∀ child parent parent' category category',
    g.Holds parent category child → g.Holds parent' category' child →
      parent = parent' ∧ category = category'
  /-- The chain of parents above a live id does not come back to it, and ends before it has met
  more ids than are live. -/
  chain_ends : ∀ id, (g.object? id).isSome →
    (∀ n, g.ancestor? (n + 1) id ≠ some id) ∧ g.ancestor? g.size id = none
  /-- Mounted are live scenes without a parent, each once. -/
  scenes_mounted : g.scenes.Nodup ∧
    ∀ id ∈ g.scenes, g.kind? id = some .scene ∧ g.parent? id = none

theorem holds_of_slot? {g : Graph} {id child : NodeId} {node : Node} {category : Category}
    (hnode : g.node? id = some node) (hslot : node.slot? category = some child) :
    g.Holds id category child := by
  have hcategory : category ≠ .generic := by
    rintro rfl
    unfold Node.slot? at hslot
    split at hslot <;> cases hslot
  exact ⟨node, hnode, (node.holds_iff_slot? hcategory child).mpr hslot⟩

theorem TablesAgree.same_ids {g : Graph} (hg : g.TablesAgree) (id : NodeId) :
    (id ∈ g.kinds ↔ id ∈ g.objects) ∧ (id ∈ g.parents ↔ id ∈ g.objects) := by
  have hkind : (g.kinds[id]?).isSome = (g.objects[id]?).isSome := hg.isSome_kind? id
  have hparents : (g.parents[id]?).isSome = (g.objects[id]?).isSome := hg.isSome_parents id
  simp only [Std.ExtTreeMap.mem_iff_isSome_getElem?, hkind, hparents, and_self]

namespace Consistent

variable {g : Graph} (hg : g.Consistent)

include hg

theorem kind_matches {id : NodeId} {kind : Kind} (hkind : g.kind? id = some kind) :
    kind ≠ .unsupported ∧ ∃ object, g.object? id = some object ∧ object.body.kind = kind := by
  rw [hg.kind?_eq, Option.map_eq_some_iff] at hkind
  obtain ⟨object, hobject, rfl⟩ := hkind
  exact ⟨object.body.kind_ne_unsupported, object, hobject, rfl⟩

/-- Only meshes have slots, so what is held in one is held by a mesh. -/
theorem kind?_of_slot? {id child : NodeId} {node : Node} {category : Category}
    (hnode : g.node? id = some node) (hslot : node.slot? category = some child) :
    g.kind? id = some .mesh := by
  have hmesh := node.isMesh_iff.mp (Node.isMesh_of_slot?_eq_some hslot)
  rw [hg.kind?_of_node? hnode, hmesh]

theorem parent_iff (child parent : NodeId) :
    g.parent? child = some parent ↔
      ∃ node kind, g.node? parent = some node ∧ g.kind? child = some kind ∧
        (kind.category = .generic ∧ child ∈ node.children ∨
          kind.category = .geometry ∧ g.kind? parent = some .mesh ∧
            node.slot? .geometry = some child ∨
          kind.category = .material ∧ g.kind? parent = some .mesh ∧
            node.slot? .material = some child) := by
  rw [hg.parent?_iff]
  constructor
  · rintro ⟨category, node, hnode, hheld⟩
    obtain ⟨kind, hkind, hcategory⟩ := hg.kind?_of_holds parent category child ⟨node, hnode, hheld⟩
    refine ⟨node, kind, hnode, hkind, ?_⟩
    cases category with
    | generic => exact Or.inl ⟨hcategory, hheld⟩
    | geometry => exact Or.inr (Or.inl ⟨hcategory, hg.kind?_of_slot? hnode hheld, hheld⟩)
    | material => exact Or.inr (Or.inr ⟨hcategory, hg.kind?_of_slot? hnode hheld, hheld⟩)
  · rintro ⟨node, kind, hnode, -, ⟨-, hchild⟩ | ⟨-, -, hslot⟩ | ⟨-, -, hslot⟩⟩
    · exact ⟨.generic, node, hnode, hchild⟩
    · exact ⟨.geometry, node, hnode, hslot⟩
    · exact ⟨.material, node, hnode, hslot⟩

theorem chain_ends {id : NodeId} (hid : (g.object? id).isSome) : g.ancestor? g.size id = none := by
  refine hg.acyclic.ancestor?_size_eq_none (fun child parent hparent => ?_)
    ((g.mem_ids_iff id).mpr hid)
  obtain ⟨kind, hkind, -⟩ := hg.category_parent hparent
  rw [mem_ids_iff, ← hg.isSome_kind?, hkind]
  rfl

end Consistent

/-- Every run leads to a well-formed graph, whatever was refused or ended in a fault on the way. -/
theorem wellFormed_run (commands : List Command) : (run commands).WellFormed := by
  have hg := consistent_run commands
  exact {
    same_ids := hg.same_ids
    kind_matches := fun _ _ hkind => hg.kind_matches hkind
    parent_iff := hg.parent_iff
    children_live := fun id node hnode => ⟨hg.nodup_children id node hnode, fun child hchild =>
      hg.kind?_of_holds id .generic child ⟨node, hnode, hchild⟩⟩
    slots_live := fun id _ category child hnode hslot =>
      hg.kind?_of_holds id category child (holds_of_slot? hnode hslot)
    held_once := fun _ _ _ _ _ hheld hheld' => hg.eq_of_holds hheld hheld'
    chain_ends := fun id hid => ⟨hg.acyclic id, hg.chain_ends hid⟩
    scenes_mounted := ⟨hg.nodup_scenes, hg.mounted⟩ }

end LiveScene.Graph
