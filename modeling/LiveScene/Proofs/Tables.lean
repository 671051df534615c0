import LiveScene.Graph.Basic

/-! # Looking things up after a change

What the tables of a graph hold after each of the operations on single entries. An operation that
changes one table leaves the lookups in the others as they were by definition, so only the table
that changes is described here.
-/

namespace LiveScene.Graph

variable (g : Graph) (id other : NodeId)

theorem contains_eq_isSome : g.contains id = (g.object? id).isSome :=
  Std.ExtTreeMap.contains_eq_isSome_getElem?

theorem mem_ids_iff : id ∈ g.ids ↔ (g.object? id).isSome := by
  rw [ids, Std.ExtTreeMap.mem_keys, Std.ExtTreeMap.mem_iff_isSome_getElem?, object?]

theorem object?_modify (f : Object → Object) :
    (g.modify id f).object? other =
      if id = other then (g.object? other).map f else g.object? other := by
  simp only [modify, object?, Std.ExtTreeMap.getElem?_modify, Std.compare_eq_iff_eq]
  split
  next heq => rw [heq]
  next => rfl

theorem object?_setObject (object : Object) :
    (g.setObject id object).object? other =
      if id = other then (g.object? other).map (fun _ => object) else g.object? other :=
  g.object?_modify id other _

/-- Setting a node turns whatever object was there into that node. -/
theorem node?_setNode (node : Node) :
    (g.setNode id node).node? other =
      if id = other then (g.object? other).map (fun _ => node) else g.node? other := by
  rw [node?, setNode, setBody, object?_modify]
  split
  next =>
    cases g.object? other <;> rfl
  next => rfl

theorem setNode_setNode (node node' : Node) :
    (g.setNode id node).setNode id node' = g.setNode id node' := by
  have hobjects : ((g.setNode id node).setNode id node').objects = (g.setNode id node').objects := by
    apply Std.ExtTreeMap.ext_getElem?
    intro other
    simp only [setNode, setBody, modify, Std.ExtTreeMap.getElem?_modify, Std.compare_eq_iff_eq]
    split
    · cases g.objects[id]? <;> simp
    · rfl
  exact congrArg (fun objects => { g with objects }) hobjects

/-- The parent of an id can be changed when the table of parents knows the id. -/
theorem parent?_setParent (parent : Option NodeId) :
    (g.setParent id parent).parent? other =
      if id = other ∧ (g.parents[other]?).isSome then parent else g.parent? other := by
  simp only [setParent, parent?, Std.ExtTreeMap.getElem?_modify, Std.compare_eq_iff_eq]
  split
  next heq =>
    subst heq
    cases g.parents[id]? <;> simp
  next hne => simp [hne]

/-- Parents of different children are recorded independently. -/
theorem setParent_comm {id other : NodeId} (hne : id ≠ other) (parent parent' : Option NodeId) :
    (g.setParent id parent).setParent other parent' =
      (g.setParent other parent').setParent id parent := by
  have hparents : ((g.setParent id parent).setParent other parent').parents =
      ((g.setParent other parent').setParent id parent).parents := by
    apply Std.ExtTreeMap.ext_getElem?
    intro child
    simp only [setParent, Std.ExtTreeMap.getElem?_modify, Std.compare_eq_iff_eq]
    by_cases hid : id = child
    · simp [hid, show other ≠ child from fun heq => hne (hid.trans heq.symm)]
    · simp [hid, hne]
  exact congrArg (fun parents => { g with parents }) hparents

theorem isSome_parents_setParent (parent : Option NodeId) :
    ((g.setParent id parent).parents[other]?).isSome = (g.parents[other]?).isSome := by
  simp only [setParent, Std.ExtTreeMap.getElem?_modify, Std.compare_eq_iff_eq]
  split
  next heq => simp [heq]
  next => rfl

/-- What the tables hold after an object was added. -/
theorem lookups_of_insert? {g g' : Graph} {id : NodeId} {kind : Kind} {object : Object}
    (hinsert : g.insert? id kind object = some g') (other : NodeId) :
    g.object? id = none ∧
      (g'.object? other = if id = other then some object else g.object? other) ∧
      (g'.kind? other = if id = other then some kind else g.kind? other) ∧
      (g'.parents[other]? = if id = other then some none else g.parents[other]?) := by
  unfold insert? at hinsert
  split at hinsert
  next => cases hinsert
  next hfree =>
    cases Option.some.inj hinsert
    rw [contains_eq_isSome, Option.not_isSome_iff_eq_none] at hfree
    simp only [object?, kind?, Std.ExtTreeMap.getElem?_insert, Std.compare_eq_iff_eq, and_self,
      and_true]
    exact hfree

theorem scenes_of_insert? {g g' : Graph} {id : NodeId} {kind : Kind} {object : Object}
    (hinsert : g.insert? id kind object = some g') :
    g'.scenes = if kind = .scene then g.scenes ++ [id] else g.scenes := by
  unfold insert? at hinsert
  split at hinsert
  next => cases hinsert
  next => exact (Option.some.inj hinsert) ▸ rfl

theorem object?_remove :
    (g.remove id).object? other = if id = other then none else g.object? other := by
  unfold remove
  split
  next hnone =>
    split
    next heq => exact heq ▸ hnone
    next => rfl
  next => simp only [object?, Std.ExtTreeMap.getElem?_erase, Std.compare_eq_iff_eq]

/-- Taking a live id out takes it out of all tables. -/
theorem lookups_remove {object : Object} (hobject : g.object? id = some object) :
    ((g.remove id).kind? other = if id = other then none else g.kind? other) ∧
      ((g.remove id).parents[other]? = if id = other then none else g.parents[other]?) := by
  simp only [remove, hobject, kind?, Std.ExtTreeMap.getElem?_erase, Std.compare_eq_iff_eq, and_self]

end LiveScene.Graph
