import LiveScene.Proofs.Relinking
import LiveScene.Proofs.Selection

/-! # What deleting does

Deleting visits the parent of an id and the lists of the id itself, and nothing else. It is the
consistency of the graph that makes this enough: whatever mentions an id is its parent or has it as
parent, so that afterwards nothing mentions it. Everything else stays as it was.
-/

namespace LiveScene

theorem Object.handle?_onNode (object : Object) (f : Node → Node) :
    (object.onNode f).handle? = object.handle? := by
  rcases object with ⟨name, body⟩
  cases body <;> rfl

/-- Exactly the geometries and the materials own a handle. -/
theorem Object.isSome_handle?_iff (object : Object) :
    object.handle?.isSome ↔ object.kind.category ≠ .generic := by
  rw [ne_eq, ← object.isSome_node?_iff]
  rcases object with ⟨name, body⟩
  cases body <;> simp [Object.handle?, Object.node?]

namespace Graph

/-! ## Ids that nothing refers to -/

/-- Nothing in a graph refers to an id. -/
structure Forgets (g : Graph) (id : NodeId) : Prop where
  tables : id ∉ g.objects ∧ id ∉ g.kinds ∧ id ∉ g.parents
  children : ∀ other node, g.node? other = some node → id ∉ node.children
  slots : ∀ other node category, g.node? other = some node → node.slot? category ≠ some id
  parent : ∀ other, g.parent? other ≠ some id
  scenes : id ∉ g.scenes
  active : g.active ≠ some id

/-- Whatever a consistent graph refers to is live. -/
theorem Consistent.forgets {g : Graph} (hg : g.Consistent) (hselects : g.SelectsCamera) {id : NodeId}
    (hgone : g.object? id = none) : g.Forgets id := by
  have hkind : g.kind? id = none := by rw [hg.kind?_eq, hgone]; rfl
  have hheld : ∀ other category, ¬g.Holds other category id := by
    intro other category hold
    have hlive := hg.isSome_kind?_of_holds hold
    rw [hkind] at hlive
    cases hlive
  have hobjects : id ∉ g.objects := by
    rw [Std.ExtTreeMap.mem_iff_isSome_getElem?, ← object?, hgone]
    exact Bool.false_ne_true
  refine ⟨⟨hobjects, ?_, ?_⟩, ?_, ?_, ?_, ?_, ?_⟩
  · rw [(hg.same_ids id).1]
    exact hobjects
  · rw [(hg.same_ids id).2]
    exact hobjects
  · intro other node hnode hchild
    exact hheld other .generic ⟨node, hnode, hchild⟩
  · intro other node category hnode hslot
    exact hheld other category (holds_of_slot? hnode hslot)
  · intro other hparent
    obtain ⟨kind, hfound, -⟩ := hg.category_parent hparent
    rw [hkind] at hfound
    cases hfound
  · intro hmounted
    have hscene := (hg.mounted id hmounted).1
    rw [hkind] at hscene
    cases hscene
  · intro hactive
    obtain ⟨kind, hfound, -⟩ := hselects id hactive
    rw [hkind] at hfound
    cases hfound

/-! ## The graph without an id -/

/-- The graph after an id that had an object was deleted. -/
structure Deletes (g : Graph) (id : NodeId) (object : Object) (g' : Graph) : Prop where
  forgets : g'.Forgets id
  /-- The parent has the id no longer, in its list or in its slot. No other object changes. -/
  object? : ∀ other, other ≠ id → g'.object? other =
    if g.parent? id = some other then (g.object? other).map (·.onNode (·.without id))
    else g.object? other
  kind? : ∀ other, other ≠ id → g'.kind? other = g.kind? other
  /-- What had the id as parent lives on as it was, without a parent. -/
  orphans : ∀ other, g.parent? other = some id →
    (g.object? other).isSome ∧ g'.object? other = g.object? other ∧ g'.parents[other]? = some none
  parents : ∀ other, other ≠ id → g.parent? other ≠ some id → g'.parents[other]? = g.parents[other]?
  scenes : g'.scenes = g.scenes.filter (· ≠ id)
  active : g'.active = if g.active = some id then none else g.active
  /-- A geometry or a material gives its handle up, after all that were given up before. -/
  released : g'.released = g.released ++ object.handle?.toList
  owns : object.handle?.isSome ↔ g.category id ≠ .generic
  lastHandle : g'.lastHandle = g.lastHandle

/-- The table of parents has an entry for each live id and for no other. -/
theorem TablesAgree.parents_eq {g : Graph} (hg : g.TablesAgree) (id : NodeId) :
    g.parents[id]? = (g.object? id).map fun _ => g.parent? id := by
  have hsome := hg.isSome_parents id
  rw [parent?]
  cases hparents : g.parents[id]? with
  | none =>
      rw [hparents, eq_comm, Option.isSome_none, Option.isSome_eq_false_iff,
        Option.isNone_iff_eq_none] at hsome
      rw [hsome]
      rfl
  | some parent =>
      rw [hparents, eq_comm, Option.isSome_some, Option.isSome_iff_exists] at hsome
      obtain ⟨object, hobject⟩ := hsome
      rw [hobject]
      rfl

section

variable {g : Graph} (hg : g.Consistent) {id : NodeId} {object : Object}
  (hobject : g.object? id = some object)

include hg hobject

/-- A live id is taken from its parent and then out, with its handle. -/
theorem Consistent.delete_steps :
    (g.delete id).result = .ok (.ok ()) ∧
      (g.unlink id).Removed id (g.delete id).state ∧
      (g.delete id).state.active = (if g.active = some id then none else g.active) ∧
      (g.delete id).state.released = g.released ++ object.handle?.toList ∧
      (g.delete id).state.lastHandle = g.lastHandle := by
  obtain ⟨hholdings, -⟩ := hg.sameHoldings_unlink id
  have hunlinked : (g.unlink id).object? id = some (object.onNode (·.without id)) := by
    rw [hg.object?_unlink, hobject]
    rfl
  obtain ⟨parents, horphan, -⟩ := (g.unlink id).orphan_spec id ((g.unlink id).dependents id)
  rcases g.delete_cases id with ⟨issue, heq⟩ | ⟨-, hresult, hstate⟩
  · simp [Graph.delete, contains_eq_isSome, hobject, Outcome.done] at heq
  · refine ⟨hresult, ?_, ?_⟩
    · rw [hstate]
      exact (hg.unlink id).removed (Option.isSome_of_eq_some hunlinked)
    · have hfound : ((g.unlink id).orphan id ((g.unlink id).dependents id)).object? id =
          some (object.onNode (·.without id)) := by
        rw [horphan]
        exact hunlinked
      simp only [hstate, Graph.remove, hfound, Object.handle?_onNode]
      rw [horphan, ← hholdings.active, ← hholdings.released, ← hholdings.lastHandle]
      exact ⟨rfl, rfl, rfl⟩

theorem Consistent.object?_delete {other : NodeId} (hne : other ≠ id) :
    (g.delete id).state.object? other =
      if g.parent? id = some other then (g.object? other).map (·.onNode (·.without id))
      else g.object? other := by
  obtain ⟨-, hremoved, -⟩ := hg.delete_steps hobject
  rw [hremoved.object?_eq, if_neg (Ne.symm hne), hg.object?_unlink]
  split
  next => rfl
  next hnot =>
    cases hother : g.object? other with
    | none => rfl
    | some object => rw [Option.map_some, hg.onNode_without hother hnot]

theorem Consistent.parent?_delete {other : NodeId} (hne : other ≠ id) :
    (g.delete id).state.parent? other =
      if g.parent? other = some id then none else g.parent? other := by
  obtain ⟨-, hremoved, -⟩ := hg.delete_steps hobject
  have hunlinked := hg.unlinked_unlink id
  refine Option.ext fun above => ?_
  rw [hremoved.parent?_iff, hunlinked.parent?_other other hne]
  split
  next hself =>
    simp only [hself, Option.some.injEq, reduceCtorEq, iff_false]
    exact fun h => h.2.1 h.1.symm
  next hnot => exact ⟨And.left, fun h => ⟨h, fun heq => hnot (heq ▸ h), hne⟩⟩

theorem Consistent.parents_delete {other : NodeId} (hne : other ≠ id) :
    (g.delete id).state.parents[other]? = (g.object? other).map fun _ =>
      if g.parent? other = some id then none else g.parent? other := by
  rw [(hg.delete id).parents_eq, hg.object?_delete hobject hne, hg.parent?_delete hobject hne]
  by_cases habove : g.parent? id = some other
  · rw [if_pos habove, Option.map_map]
    rfl
  · rw [if_neg habove]

/-- No chain of parents comes back, so that a dependent is not also the parent. -/
theorem Consistent.object?_delete_of_parent? {other : NodeId} (hparent : g.parent? other = some id) :
    other ≠ id ∧ (g.delete id).state.object? other = g.object? other := by
  have hne : other ≠ id := by
    rintro rfl
    exact hg.acyclic other 0 (by simp [ancestor?, hparent])
  refine ⟨hne, ?_⟩
  rw [hg.object?_delete hobject hne, if_neg]
  intro habove
  exact hg.acyclic id 1 (by simp [ancestor?, habove, hparent])

theorem Consistent.deletes (hselects : g.SelectsCamera) :
    g.Deletes id object (g.delete id).state := by
  obtain ⟨-, hremoved, hactive, hreleased, hlast⟩ := hg.delete_steps hobject
  have hunlinked := hg.unlinked_unlink id
  have hkind : g.kind? id = some object.kind := by rw [hg.kind?_eq, hobject]; rfl
  have hgone : (g.delete id).state.object? id = none := by
    rw [hremoved.object?_eq, if_pos rfl]
  refine ⟨(hg.delete id).forgets (hselects.apply hg.toTablesAgree (.delete id)) hgone,
    fun other hne => hg.object?_delete hobject hne, fun other hne => ?_, fun other hparent => ?_,
    fun other hne hparent => ?_, ?_, hactive, hreleased, ?_, hlast⟩
  · rw [hremoved.kind?_eq, if_neg (Ne.symm hne), hunlinked.kind?_eq]
  · obtain ⟨hne, hsame⟩ := hg.object?_delete_of_parent? hobject hparent
    obtain ⟨category, hheld⟩ := (hg.parent?_iff other id).mp hparent
    have hlive : (g.object? other).isSome := by
      rw [← hg.isSome_kind?]
      exact hg.isSome_kind?_of_holds hheld
    obtain ⟨object', hobject'⟩ := Option.isSome_iff_exists.mp hlive
    refine ⟨hlive, hsame, ?_⟩
    rw [hg.parents_delete hobject hne, hobject', Option.map_some, if_pos hparent]
  · rw [hg.parents_delete hobject hne, if_neg hparent, hg.parents_eq]
  · rw [hremoved.scenes_eq, (hg.sameHoldings_unlink id).2]
  · rw [category_eq hkind]
    exact object.isSome_handle?_iff

end

/-- A live id is deleted from the graph that any commands led to. Afterwards nothing refers to it,
and everything that did not is as it was. -/
theorem deletion_exact (commands : List Command) (id : NodeId) {object : Object}
    (hobject : (run commands).object? id = some object) :
    ((run commands).apply (.delete id)).result = .ok (.ok ()) ∧
      (run commands).Deletes id object ((run commands).apply (.delete id)).state := by
  have hg := consistent_run commands
  obtain ⟨hresult, -⟩ := hg.delete_steps hobject
  exact ⟨hresult, hg.deletes hobject (selectsCamera_run commands)⟩

/-- A mesh in a scene is deleted that has a geometry, a material and a child. -/
theorem deletion_exact_mesh :
    let g := run
      [.apply (.create ⟨1⟩ .scene []), .apply (.create ⟨2⟩ .mesh []),
        .apply (.create ⟨3⟩ .boxGeometry []), .apply (.create ⟨4⟩ .basicMaterial []),
        .apply (.create ⟨5⟩ .group []), .apply (.attach ⟨1⟩ ⟨5⟩), .apply (.attach ⟨1⟩ ⟨2⟩),
        .apply (.attach ⟨2⟩ ⟨3⟩), .apply (.attach ⟨2⟩ ⟨4⟩), .apply (.attach ⟨2⟩ ⟨5⟩)]
    let mesh : Object :=
      { body := .node { role := .mesh ⟨some ⟨3⟩, some ⟨4⟩⟩, children := [⟨5⟩] } }
    g.object? ⟨2⟩ = some mesh ∧ g.Deletes ⟨2⟩ mesh (g.apply (.delete ⟨2⟩)).state ∧
      (g.apply (.delete ⟨2⟩)).state.parents[(⟨3⟩ : NodeId)]? = some none := by
  intro g mesh
  have hobject : g.object? ⟨2⟩ = some mesh := rfl
  obtain ⟨-, hdeletes⟩ := deletion_exact _ ⟨2⟩ hobject
  obtain ⟨-, -, hparentless⟩ := hdeletes.orphans ⟨3⟩ rfl
  exact ⟨hobject, hdeletes, hparentless⟩

end Graph

end LiveScene
