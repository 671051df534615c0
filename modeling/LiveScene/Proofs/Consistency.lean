import LiveScene.Proofs.Ancestry
import LiveScene.Proofs.Outline

/-! # Consistent graphs

The parts of a graph that have to fit together: the three tables know the same ids and agree on what
they are, a parent is recorded exactly for what is held, nothing is held by something of the wrong
category, and no chain of parents loops. The edits are made of a few changes that keep all of this;
what a change does to the objects otherwise does not matter, as long as their outlines stay.
-/

namespace LiveScene.Graph

/-- Whether an id holds another as a child of a category. -/
def Holds (g : Graph) (parent : NodeId) (category : Category) (child : NodeId) : Prop :=
  ∃ node, g.node? parent = some node ∧ node.Holds category child

/-- The three tables know the same ids, and kinds are those of the objects. -/
structure TablesAgree (g : Graph) : Prop where
  kind?_eq : ∀ id, g.kind? id = (g.object? id).map Object.kind
  isSome_parents : ∀ id, (g.parents[id]?).isSome = (g.object? id).isSome

structure Consistent (g : Graph) : Prop extends g.TablesAgree where
  parent?_iff : ∀ child parent, g.parent? child = some parent ↔
    ∃ category, g.Holds parent category child
  kind?_of_holds : ∀ parent category child, g.Holds parent category child →
    ∃ kind, g.kind? child = some kind ∧ kind.category = category
  nodup_children : ∀ id node, g.node? id = some node → node.children.Nodup
  acyclic : g.Acyclic
  nodup_scenes : g.scenes.Nodup
  mounted : ∀ id ∈ g.scenes, g.kind? id = some .scene ∧ g.parent? id = none

theorem consistent_empty : empty.Consistent where
  kind?_eq _ := rfl
  isSome_parents _ := rfl
  parent?_iff _ _ := ⟨nofun, fun ⟨_, _, hnode, _⟩ => nomatch hnode⟩
  kind?_of_holds _ _ _ := fun ⟨_, hnode, _⟩ => nomatch hnode
  nodup_children _ _ := nofun
  acyclic _ _ := nofun
  nodup_scenes := List.nodup_nil
  mounted _ := nofun

theorem node?_eq_some_iff {g : Graph} {id : NodeId} {node : Node} :
    g.node? id = some node ↔ ∃ object, g.object? id = some object ∧ object.node? = some node :=
  Option.bind_eq_some_iff

namespace TablesAgree

variable {g : Graph} (hg : g.TablesAgree)

include hg

theorem isSome_kind? (id : NodeId) : (g.kind? id).isSome = (g.object? id).isSome := by
  rw [hg.kind?_eq, Option.isSome_map]

/-- An id that is not live has no parent. -/
theorem parent?_eq_none {id : NodeId} (hid : g.object? id = none) : g.parent? id = none := by
  have hparents : g.parents[id]? = none := by
    rw [← Option.not_isSome_iff_eq_none, hg.isSome_parents, hid]
    simp
  rw [parent?, hparents]
  rfl

theorem setParent (id : NodeId) (parent : Option NodeId) :
    (g.setParent id parent).TablesAgree where
  kind?_eq := hg.kind?_eq
  isSome_parents other := (g.isSome_parents_setParent id other parent).trans
    (hg.isSome_parents other)

/-- The parent that is recorded for a live id is the one that was set last. -/
theorem parent?_setParent {id : NodeId} (hid : (g.kind? id).isSome) (parent : Option NodeId)
    (other : NodeId) :
    (g.setParent id parent).parent? other = if id = other then parent else g.parent? other := by
  rw [g.parent?_setParent]
  by_cases heq : id = other
  · subst heq
    rw [hg.isSome_parents, ← hg.isSome_kind?, hid]
    simp
  · simp [heq]

/-- A node gives its place only to a node of the same kind. -/
theorem setNode {id : NodeId} {node node' : Node} (hnode : g.node? id = some node)
    (hkind : node'.role.kind = node.role.kind) : (g.setNode id node').TablesAgree := by
  obtain ⟨object, hobject, hbody⟩ := node?_eq_some_iff.mp hnode
  refine ⟨fun other => ?_, fun other => ?_⟩
  · change g.kind? other = _
    rw [hg.kind?_eq, Graph.setNode, setBody, object?_modify]
    split
    next heq =>
      subst heq
      rcases object with ⟨name, body⟩
      cases body <;> cases hbody
      simp [hobject, Object.kind, Body.kind, hkind]
    next => rfl
  · change (g.parents[other]?).isSome = _
    rw [hg.isSome_parents, Graph.setNode, setBody, object?_modify]
    split <;> simp

end TablesAgree

/-! ## Changes that keep the outlines -/

/-- Where the outlines are the same, the same is held. -/
theorem exists_node?_of_outline_eq {g g' : Graph} {id : NodeId} {node' : Node}
    (houtline : (g'.object? id).map Object.outline = (g.object? id).map Object.outline)
    (hnode' : g'.node? id = some node') :
    ∃ node, g.node? id = some node ∧ node'.links = node.links := by
  obtain ⟨object', hobject', hbody'⟩ := node?_eq_some_iff.mp hnode'
  rw [hobject', Option.map_some, eq_comm, Option.map_eq_some_iff] at houtline
  obtain ⟨object, hobject, heq⟩ := houtline
  have hlinks : object.node?.map Node.links = some node'.links := by
    have hsnd := congrArg Prod.snd heq
    simpa only [Object.outline, hbody', Option.map_some] using hsnd
  obtain ⟨node, hbody, hlinks⟩ := Option.map_eq_some_iff.mp hlinks
  exact ⟨node, node?_eq_some_iff.mpr ⟨object, hobject, hbody⟩, hlinks.symm⟩

theorem holds_iff_of_outline_eq {g g' : Graph} {id : NodeId}
    (houtline : (g'.object? id).map Object.outline = (g.object? id).map Object.outline)
    (category : Category) (child : NodeId) :
    g'.Holds id category child ↔ g.Holds id category child := by
  constructor
  · rintro ⟨node', hnode', hheld⟩
    obtain ⟨node, hnode, hlinks⟩ := exists_node?_of_outline_eq houtline hnode'
    exact ⟨node, hnode, (Node.holds_iff_of_links_eq hlinks category child).mp hheld⟩
  · rintro ⟨node, hnode, hheld⟩
    obtain ⟨node', hnode', hlinks⟩ := exists_node?_of_outline_eq houtline.symm hnode
    exact ⟨node', hnode', (Node.holds_iff_of_links_eq hlinks category child).mp hheld⟩

theorem Consistent.of_outline_eq {g g' : Graph} (hg : g.Consistent)
    (houtline : ∀ id, (g'.object? id).map Object.outline = (g.object? id).map Object.outline)
    (hkinds : g'.kinds = g.kinds) (hparents : g'.parents = g.parents)
    (hscenes : g'.scenes = g.scenes) : g'.Consistent := by
  have hkind : ∀ id, g'.kind? id = g.kind? id := fun id => by rw [kind?, kind?, hkinds]
  have hparent : ∀ id, g'.parent? id = g.parent? id := fun id => by
    rw [parent?, parent?, hparents]
  have hholds := fun id => holds_iff_of_outline_eq (houtline id)
  refine ⟨⟨fun id => ?_, fun id => ?_⟩, ?_, ?_, ?_, ?_, ?_, ?_⟩
  · have hmap := congrArg (Option.map Prod.fst) (houtline id)
    rw [Option.map_map, Option.map_map] at hmap
    rw [hkind, hg.kind?_eq]
    exact hmap.symm
  · have hsome := congrArg Option.isSome (houtline id)
    rw [Option.isSome_map, Option.isSome_map] at hsome
    rw [hparents, hg.isSome_parents, hsome]
  · intro child parent
    simp only [hparent, hg.parent?_iff, hholds]
  · intro parent category child hheld
    rw [hkind]
    exact hg.kind?_of_holds parent category child ((hholds parent category child).mp hheld)
  · intro id node' hnode'
    obtain ⟨node, hnode, hlinks⟩ := exists_node?_of_outline_eq (houtline id) hnode'
    have hchildren : node'.children = node.children := congrArg Prod.fst hlinks
    rw [hchildren]
    exact hg.nodup_children id node hnode
  · exact hg.acyclic.of_parent?_imp fun child parent h => hparent child ▸ h
  · rw [hscenes]
    exact hg.nodup_scenes
  · intro id hid
    rw [hkind, hparent]
    exact hg.mounted id (hscenes ▸ hid)

theorem outline_setObject {g : Graph} {id : NodeId} {object object' : Object}
    (hobject : g.object? id = some object) (houtline : object'.outline = object.outline)
    (other : NodeId) :
    ((g.setObject id object').object? other).map Object.outline =
      (g.object? other).map Object.outline := by
  rw [object?_setObject]
  split
  next heq =>
    subst heq
    rw [hobject]
    exact congrArg some houtline
  next => rfl

/-! ## Making and undoing links -/

/-- Taking links away on both of their ends keeps a graph consistent, whatever else comes into its
tables. -/
theorem Consistent.of_remaining_links {g g' : Graph} (hg : g.Consistent)
    {Remains : NodeId → NodeId → Prop} (htables : g'.TablesAgree)
    (hparent : ∀ child parent, g'.parent? child = some parent ↔
      g.parent? child = some parent ∧ Remains parent child)
    (hholds : ∀ parent category child, g'.Holds parent category child ↔
      g.Holds parent category child ∧ Remains parent child)
    (hkind : ∀ child parent, g.parent? child = some parent → g'.kind? child = g.kind? child)
    (hchildren : ∀ id node, g'.node? id = some node → node.children.Nodup)
    (hscenes : g'.scenes.Nodup)
    (hmounted : ∀ id ∈ g'.scenes, g'.kind? id = some .scene ∧ g.parent? id = none) :
    g'.Consistent where
  toTablesAgree := htables
  parent?_iff child parent := by
    simp only [hparent, hholds, hg.parent?_iff, exists_and_right]
  kind?_of_holds parent category child hheld := by
    obtain ⟨hheld, -⟩ := (hholds parent category child).mp hheld
    rw [hkind child parent ((hg.parent?_iff child parent).mpr ⟨category, hheld⟩)]
    exact hg.kind?_of_holds parent category child hheld
  nodup_children := hchildren
  acyclic := hg.acyclic.of_parent?_imp fun child parent h => ((hparent child parent).mp h).1
  nodup_scenes := hscenes
  mounted id hid := by
    obtain ⟨hscene, hnone⟩ := hmounted id hid
    refine ⟨hscene, Option.eq_none_iff_forall_ne_some.mpr fun parent h => ?_⟩
    rw [((hparent id parent).mp h).1] at hnone
    cases hnone

theorem holds_setNode {g : Graph} {id : NodeId} {node : Node} (hnode : g.node? id = some node)
    (node' : Node) (parent : NodeId) (category : Category) (child : NodeId) :
    (g.setNode id node').Holds parent category child ↔
      if id = parent then node'.Holds category child else g.Holds parent category child := by
  obtain ⟨object, hobject, -⟩ := node?_eq_some_iff.mp hnode
  simp only [Holds, node?_setNode]
  split
  next heq => subst heq; simp [hobject]
  next => rfl

namespace Consistent

variable {g : Graph} (hg : g.Consistent)

include hg

/-- What is held is live. -/
theorem isSome_kind?_of_holds {parent : NodeId} {category : Category} {child : NodeId}
    (hheld : g.Holds parent category child) : (g.kind? child).isSome := by
  obtain ⟨kind, hkind, -⟩ := hg.kind?_of_holds parent category child hheld
  rw [hkind]
  rfl

/-- Each id is held at most once, and only as a child of its own category. -/
theorem eq_of_holds {parent parent' : NodeId} {category category' : Category} {child : NodeId}
    (hheld : g.Holds parent category child) (hheld' : g.Holds parent' category' child) :
    parent = parent' ∧ category = category' := by
  obtain ⟨kind, hkind, rfl⟩ := hg.kind?_of_holds parent category child hheld
  obtain ⟨kind', hkind', rfl⟩ := hg.kind?_of_holds parent' category' child hheld'
  have hparent := (hg.parent?_iff child parent).mpr ⟨_, hheld⟩
  have hparent' := (hg.parent?_iff child parent').mpr ⟨_, hheld'⟩
  rw [hparent, Option.some.injEq] at hparent'
  rw [hkind, Option.some.injEq] at hkind'
  exact ⟨hparent', congrArg Kind.category hkind'⟩

/-- Undoing a link on both of its ends. -/
theorem drop {parent child : NodeId} {category : Category} {node : Node}
    (hnode : g.node? parent = some node) (hheld : node.Holds category child) :
    ((g.setNode parent (node.drop category child)).setParent child none).Consistent := by
  have hlink : g.Holds parent category child := ⟨node, hnode, hheld⟩
  have htables := hg.setNode hnode (node.role_kind_drop category child)
  have hparent := htables.parent?_setParent (hg.isSome_kind?_of_holds hlink) none
  refine @of_remaining_links g _ hg (fun _ held => held ≠ child)
    (htables.setParent child none) (fun held id => ?_) (fun id other held => ?_) (fun _ _ _ => rfl)
    (fun id node' hnode' => ?_) hg.nodup_scenes hg.mounted
  · rw [hparent]
    split
    next heq => simp [heq]
    next hne => exact ⟨fun h => ⟨h, Ne.symm hne⟩, And.left⟩
  · change (g.setNode parent (node.drop category child)).Holds id other held ↔ _
    rw [holds_setNode hnode]
    split
    next heq =>
      subst heq
      rw [Node.holds_drop hheld]
      -- Only this category is dropped, but the child is held in no other.
      constructor
      · rintro ⟨hold, hne⟩
        refine ⟨⟨node, hnode, hold⟩, fun heq => hne ⟨?_, heq⟩⟩
        exact (hg.eq_of_holds ⟨node, hnode, hold⟩ (heq ▸ hlink)).2
      · rintro ⟨⟨node', hnode', hold⟩, hne⟩
        cases hnode.symm.trans hnode'
        exact ⟨hold, fun h => hne h.2⟩
    next hne =>
      refine ⟨fun hold => ⟨hold, fun heq => hne ?_⟩, And.left⟩
      exact (hg.eq_of_holds hlink (heq ▸ hold)).1
  · change (g.setNode parent (node.drop category child)).node? id = some node' at hnode'
    rw [node?_setNode] at hnode'
    split at hnode'
    next =>
      obtain ⟨object, -, rfl⟩ := Option.map_eq_some_iff.mp hnode'
      exact Node.nodup_children_drop (hg.nodup_children parent node hnode) category child
    next => exact hg.nodup_children id node' hnode'

/-- Making a link on both of its ends. The child must have no parent and must not be mounted, and
the chain above the new parent must avoid it. -/
theorem put {parent child : NodeId} {kind : Kind} {node : Node}
    (hnode : g.node? parent = some node) (hkind : g.kind? child = some kind)
    (hroom : kind.category = .generic ∨ node.isMesh = true ∧ node.slot? kind.category = none)
    (hfree : g.parent? child = none) (hmount : child ∉ g.scenes)
    (havoid : ∀ n, g.ancestor? n parent ≠ some child) :
    ((g.setNode parent (node.put kind.category child)).setParent child (some parent)).Consistent := by
  have htables := hg.setNode hnode (node.role_kind_put kind.category child)
  have hlive : (g.kind? child).isSome := by
    rw [hkind]
    rfl
  have hparent := htables.parent?_setParent hlive (some parent)
  -- A child without a parent is held nowhere, so that the new link is its only one.
  have hnothing : ∀ id other, ¬g.Holds id other child := by
    intro id other hold
    have hsome := (hg.parent?_iff child id).mpr ⟨other, hold⟩
    rw [hfree] at hsome
    cases hsome
  have hholds : ∀ id other held,
      (g.setNode parent (node.put kind.category child)).Holds id other held ↔
        g.Holds id other held ∨ (id = parent ∧ other = kind.category ∧ held = child) := by
    intro id other held
    rw [holds_setNode hnode]
    split
    next heq =>
      subst heq
      simp [Node.holds_put hroom, Holds, hnode]
    next hne => simp [Ne.symm hne]
  refine ⟨htables.setParent child (some parent), ?_, ?_, ?_, ?_, hg.nodup_scenes, ?_⟩
  · intro held id
    rw [hparent]
    change _ ↔ ∃ other, (g.setNode parent (node.put kind.category child)).Holds id other held
    simp only [hholds]
    split
    next heq =>
      subst heq
      simp [hnothing, eq_comm]
    next hne =>
      change g.parent? held = some id ↔ _
      simp [hg.parent?_iff, Ne.symm hne]
  · intro id other held hold
    change ∃ kind, g.kind? held = some kind ∧ kind.category = other
    rcases (hholds id other held).mp hold with hold | ⟨-, rfl, rfl⟩
    · exact hg.kind?_of_holds id other held hold
    · exact ⟨kind, hkind, rfl⟩
  · intro id node' hnode'
    change (g.setNode parent (node.put kind.category child)).node? id = some node' at hnode'
    rw [node?_setNode] at hnode'
    split at hnode'
    next =>
      obtain ⟨object, -, rfl⟩ := Option.map_eq_some_iff.mp hnode'
      exact Node.nodup_children_put (hg.nodup_children parent node hnode)
        fun hold => hnothing parent _ ⟨node, hnode, hold⟩
    next => exact hg.nodup_children id node' hnode'
  · refine hg.acyclic.of_new_parent ?_ ?_ havoid
    · intro above habove
      rw [hparent, if_pos rfl] at habove
      exact (Option.some.inj habove).symm
    · intro id hne
      rw [hparent, if_neg (Ne.symm hne)]
      rfl
  · intro id hid
    obtain ⟨hscene, hnone⟩ := hg.mounted id hid
    have hne : child ≠ id := fun heq => hmount (heq ▸ hid)
    refine ⟨hscene, ?_⟩
    rw [hparent, if_neg hne]
    exact hnone

end Consistent

end LiveScene.Graph
