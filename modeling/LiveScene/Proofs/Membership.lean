import LiveScene.Edit.Batch
import LiveScene.Proofs.Linking
import LiveScene.Proofs.Settings

/-! # Adding and taking out

A new id comes in without links, so it disturbs nothing. An id that goes is first taken from its
parent and then from its dependents, after which nothing refers to it. Clearing takes everything
out, so that only the handles are left to tell what was there before.
-/

namespace LiveScene.Graph

/-! ## Creating -/

theorem Consistent.drawHandle {g : Graph} (hg : g.Consistent) : g.drawHandle.Consistent :=
  hg.of_outline_eq (fun _ => rfl) rfl rfl rfl

/-- What is mounted after an object was added was mounted before, or is the new scene. -/
theorem mounted_of_insert? {g g' : Graph} {id : NodeId} {kind : Kind} {object : Object}
    (hinsert : g.insert? id kind object = some g') {other : NodeId} (hother : other ∈ g'.scenes) :
    other ∈ g.scenes ∨ other = id ∧ kind = .scene := by
  rw [scenes_of_insert? hinsert] at hother
  split at hother
  next hscene => simpa [hscene] using hother
  next => exact Or.inl hother

/-- An object that holds nothing can be added under an id that is not live. -/
theorem Consistent.insert? {g g' : Graph} (hg : g.Consistent) {id : NodeId} {object : Object}
    (hbare : ∀ node, object.node? = some node → ∀ category child, ¬node.Holds category child)
    (hinsert : g.insert? id object.kind object = some g') : g'.Consistent := by
  have hfree := (lookups_of_insert? hinsert id).1
  have hobject := fun other => (lookups_of_insert? hinsert other).2.1
  have hkind := fun other => (lookups_of_insert? hinsert other).2.2.1
  have hparents := fun other => (lookups_of_insert? hinsert other).2.2.2
  have hlive : ∀ other kind, g.kind? other = some kind → id ≠ other := by
    rintro other kind hother rfl
    rw [hg.kind?_eq, hfree] at hother
    cases hother
  have htables : g'.TablesAgree := by
    refine ⟨fun other => ?_, fun other => ?_⟩
    · rw [hkind, hobject]
      split
      · rfl
      · exact hg.kind?_eq other
    · rw [hparents, hobject]
      split
      · rfl
      · exact hg.isSome_parents other
  have hparent : ∀ other, g'.parent? other = g.parent? other := by
    intro other
    rw [parent?, hparents]
    split
    next heq => rw [← heq, hg.parent?_eq_none hfree]; rfl
    next => rfl
  refine @of_remaining_links g _ hg (fun _ _ => True) htables ?_ ?_ ?_ ?_ ?_ ?_
  · intro child parent
    rw [hparent, and_true]
  · intro parent category child
    by_cases heq : id = parent
    · subst heq
      simp only [Holds, node?, hobject, hfree, if_true, Option.bind_some, Option.bind_none,
        reduceCtorEq, false_and, exists_false, iff_false]
      rintro ⟨node, hnode, hheld⟩
      exact hbare node hnode category child hheld
    · simp only [Holds, node?, hobject, heq, if_false, and_true]
  · intro child parent hchild
    rw [hkind, if_neg]
    rintro rfl
    rw [hg.parent?_eq_none hfree] at hchild
    cases hchild
  · intro other node hnode
    rw [node?, hobject] at hnode
    split at hnode
    · have hempty : node.children = [] :=
        List.eq_nil_iff_forall_not_mem.mpr fun child => hbare node hnode .generic child
      rw [hempty]
      exact List.nodup_nil
    · exact hg.nodup_children other node hnode
  · rw [scenes_of_insert? hinsert]
    split
    · refine List.nodup_append.mpr ⟨hg.nodup_scenes, by simp, ?_⟩
      intro scene hscene other hother heq
      rw [List.mem_singleton] at hother
      exact hlive scene .scene (hg.mounted scene hscene).1 (heq.trans hother).symm
    · exact hg.nodup_scenes
  · intro other hother
    rcases mounted_of_insert? hinsert hother with hold | ⟨rfl, hscene⟩
    · obtain ⟨hscene, hparentless⟩ := hg.mounted other hold
      rw [hkind, if_neg (hlive other .scene hscene)]
      exact ⟨hscene, hparentless⟩
    · rw [hkind, if_pos rfl, hscene]
      exact ⟨rfl, hg.parent?_eq_none hfree⟩

/-- What a graph is after a new node came in, before its properties are set. -/
def Born (g : Graph) (id : NodeId) (kind : Kind) (g' : Graph) : Prop :=
  ∃ object, Object.default? kind g.nextHandle = some object ∧
    (if object.handle?.isSome then g.drawHandle else g).insert? id kind object = some g'

theorem Consistent.born {g g' : Graph} (hg : g.Consistent) {id : NodeId} {kind : Kind}
    (hborn : g.Born id kind g') : g'.Consistent := by
  obtain ⟨object, hdefault, hinsert⟩ := hborn
  obtain rfl := Object.kind_of_default? hdefault
  refine Consistent.insert? ?_ (fun _ => Object.not_holds_of_default? hdefault) hinsert
  split
  · exact hg.drawHandle
  · exact hg

/-- What is in the tables after a new node came in; the handle that it may have drawn is none of
their business. -/
structure Entered (g : Graph) (id : NodeId) (kind : Kind) (object : Object) (g' : Graph) : Prop where
  default? : ∃ handle, Object.default? kind handle = some object
  free : g.object? id = none
  object?_eq : ∀ other, g'.object? other = if id = other then some object else g.object? other
  kind?_eq : ∀ other, g'.kind? other = if id = other then some kind else g.kind? other
  active_eq : g'.active = g.active
  scenes_eq : g'.scenes = if kind = .scene then g.scenes ++ [id] else g.scenes

theorem Born.entered {g g' : Graph} {id : NodeId} {kind : Kind} (hborn : g.Born id kind g') :
    ∃ object, g.Entered id kind object g' := by
  obtain ⟨object, hdefault, hinsert⟩ := hborn
  have hentered : ∀ g₀ : Graph, g₀.insert? id kind object = some g' →
      g₀.Entered id kind object g' := by
    intro g₀ hinsert
    refine ⟨⟨_, hdefault⟩, (lookups_of_insert? hinsert id).1,
      fun other => (lookups_of_insert? hinsert other).2.1,
      fun other => (lookups_of_insert? hinsert other).2.2.1, ?_, scenes_of_insert? hinsert⟩
    unfold Graph.insert? at hinsert
    split at hinsert
    next => cases hinsert
    next => exact (Option.some.inj hinsert) ▸ rfl
  refine ⟨object, ?_⟩
  split at hinsert
  next =>
    obtain ⟨hdefault, hfree, hobject, hkind, hactive, hscenes⟩ := hentered g.drawHandle hinsert
    exact ⟨hdefault, hfree, hobject, hkind, hactive, hscenes⟩
  next => exact hentered g hinsert

/-- Whether a node is refused or comes in does not depend on the properties it is to have. It is
refused when its id is not free or its kind not supported. -/
theorem create_uniform (g : Graph) (id : NodeId) (kind : Kind) :
    (((g.object? id).isSome ∨ kind.isSupported = false) ∧
        ∃ issue, ∀ properties, g.create id kind properties = .done g (.error issue)) ∨
      ∃ g', g.Born id kind g' ∧
        ∀ properties, g.create id kind properties = (g'.setProps id properties).map .ok := by
  unfold create
  split
  next hlive =>
    rw [contains_eq_isSome] at hlive
    exact Or.inl ⟨Or.inl hlive, _, fun _ => rfl⟩
  next hfree =>
    cases hdefault : Object.default? kind g.nextHandle with
    | none =>
        refine Or.inl ⟨Or.inr ?_, .unknownKind id kind, fun _ => by simp [newObject?, hdefault]⟩
        rw [← Object.isSome_default? kind g.nextHandle, hdefault]
        rfl
    | some object =>
        right
        obtain ⟨g', hinsert⟩ : ∃ g',
            (if object.handle?.isSome then g.drawHandle else g).insert? id kind object = some g' := by
          refine ⟨_, if_neg ?_⟩
          split <;> exact hfree
        exact ⟨g', ⟨object, hdefault, hinsert⟩, fun _ => by simp [newObject?, hdefault, hinsert]⟩

/-- Creating changes nothing, or brings a node in and then sets its properties. -/
theorem create_cases (g : Graph) (id : NodeId) (kind : Kind) (properties : PropertyList) :
    (∃ issue, g.create id kind properties = .done g (.error issue)) ∨
      ∃ g', g.Born id kind g' ∧
        g.create id kind properties = (g'.setProps id properties).map .ok := by
  rcases g.create_uniform id kind with ⟨-, issue, hrefused⟩ | ⟨g', hborn, hcreate⟩
  · exact Or.inl ⟨issue, hrefused properties⟩
  · exact Or.inr ⟨g', hborn, hcreate properties⟩

/-- Setting properties one after the other keeps what setting a single one keeps. -/
theorem setProps_invariant {P : Graph → Prop} {id : NodeId}
    (hstep : ∀ g key value, P g → P (g.setProp id key value).state) (properties : PropertyList)
    {g : Graph} (hg : P g) : P (g.setProps id properties).state := by
  induction properties generalizing g with
  | nil => exact hg
  | cons property rest ih =>
      obtain ⟨key, value⟩ := property
      have hset := hstep g key value hg
      simp only [setProps, Outcome.note, Outcome.andThen]
      cases hresult : (g.setProp id key value).result with
      | error fault => simpa [hresult] using hset
      | ok verdict => simpa [hresult, Outcome.after] using ih hset

theorem setProps_induction {P : Graph → Prop} {id : NodeId}
    (hstep : ∀ g g', P g → Touched g id g' → P g') (properties : PropertyList) {g : Graph}
    (hg : P g) : P (g.setProps id properties).state := by
  refine setProps_invariant (fun g key value hg => ?_) properties hg
  rcases g.setProp_cases id key value with ⟨issue, heq⟩ | ⟨htouched, -⟩
  · rw [heq]
    exact hg
  · exact hstep g _ hg htouched

theorem Consistent.create {g : Graph} (hg : g.Consistent) (id : NodeId) (kind : Kind)
    (properties : PropertyList) : (g.create id kind properties).state.Consistent := by
  rcases g.create_cases id kind properties with ⟨issue, heq⟩ | ⟨g', hborn, heq⟩
  · rw [heq]
    exact hg
  · rw [heq]
    exact setProps_induction (fun _ _ hg => hg.touched) properties (hg.born hborn)

/-! ## Deleting -/

theorem orphan_cons (g : Graph) (id dependent : NodeId) (rest : List NodeId) :
    g.orphan id (dependent :: rest) =
      (if g.parent? dependent = some id then g.setParent dependent none else g).orphan id rest :=
  rfl

/-- Taking dependents away changes recorded parents only, and of those the ones that were the id. -/
theorem orphan_spec (g : Graph) (id : NodeId) (dependents : List NodeId) :
    ∃ parents : NodeMap (Option NodeId), g.orphan id dependents = { g with parents } ∧
      (∀ other : NodeId, (parents[other]?).isSome = (g.parents[other]?).isSome) ∧
      ∀ other, (g.orphan id dependents).parent? other =
        if other ∈ dependents ∧ g.parent? other = some id then none else g.parent? other := by
  induction dependents generalizing g with
  | nil => exact ⟨g.parents, rfl, fun _ => rfl, by simp [orphan]⟩
  | cons dependent rest ih =>
      rw [orphan_cons]
      by_cases hparent : g.parent? dependent = some id
      · rw [if_pos hparent]
        obtain ⟨parents, heq, hsome, hlookup⟩ := ih (g.setParent dependent none)
        refine ⟨parents, heq, fun other => ?_, fun other => ?_⟩
        · rw [hsome, isSome_parents_setParent]
        · have hlive : (g.parents[dependent]?).isSome := by
            cases hentry : g.parents[dependent]? with
            | none => simp [parent?, hentry] at hparent
            | some _ => rfl
          rw [hlookup, parent?_setParent]
          -- A dependent that comes again in the rest has no parent by then.
          by_cases hself : dependent = other
          · subst hself
            simp [hlive, hparent]
          · simp [hself, Ne.symm hself]
      · rw [if_neg hparent]
        obtain ⟨parents, heq, hsome, hlookup⟩ := ih g
        refine ⟨parents, heq, hsome, fun other => ?_⟩
        rw [hlookup]
        by_cases hself : other = dependent
        · subst hself
          simp [hparent]
        · simp [hself]

theorem mem_dependents_iff (g : Graph) (id other : NodeId) :
    other ∈ g.dependents id ↔ ∃ category, g.Holds id category other := by
  unfold dependents
  cases hnode : g.node? id with
  | none => simp [Holds, hnode]
  | some node =>
      simp only [List.mem_append, Option.mem_toList, Holds, hnode, Option.some.injEq,
        exists_eq_left']
      constructor
      · rintro ((hchild | hslot) | hslot)
        · exact ⟨.generic, hchild⟩
        · exact ⟨.geometry, hslot⟩
        · exact ⟨.material, hslot⟩
      · rintro ⟨category, hheld⟩
        cases category with
        | generic => exact Or.inl (Or.inl hheld)
        | geometry => exact Or.inl (Or.inr hheld)
        | material => exact Or.inr hheld

/-- What is left of a graph without an id: nothing is known of the id any more, and it is nobody's
parent. -/
structure Removed (g : Graph) (id : NodeId) (g' : Graph) : Prop where
  object?_eq : ∀ other, g'.object? other = if id = other then none else g.object? other
  kind?_eq : ∀ other, g'.kind? other = if id = other then none else g.kind? other
  isSome_parents : ∀ other, (g'.parents[other]?).isSome =
    if id = other then false else (g.parents[other]?).isSome
  parent?_iff : ∀ child parent, g'.parent? child = some parent ↔
    g.parent? child = some parent ∧ parent ≠ id ∧ child ≠ id
  scenes_eq : g'.scenes = g.scenes.filter (· ≠ id)

/-- Whatever has an id as its parent is one of its dependents, so all of them are taken from it
before it goes. -/
theorem Consistent.removed {g : Graph} (hg : g.Consistent) {id : NodeId}
    (hlive : (g.object? id).isSome) :
    g.Removed id ((g.orphan id (g.dependents id)).remove id) := by
  obtain ⟨parents, heq, hsome, hlookup⟩ := g.orphan_spec id (g.dependents id)
  obtain ⟨object, hobject⟩ := Option.isSome_iff_exists.mp hlive
  generalize g.orphan id (g.dependents id) = g' at heq hlookup
  have hobject' : g'.object? id = some object := by
    rw [heq]
    exact hobject
  have hdependent : ∀ child, g.parent? child = some id → child ∈ g.dependents id :=
    fun child h => (g.mem_dependents_iff id child).mpr ((hg.parent?_iff child id).mp h)
  refine ⟨fun other => ?_, fun other => ?_, fun other => ?_, fun child parent => ?_, ?_⟩
  · rw [object?_remove, heq]
    rfl
  · rw [(g'.lookups_remove id other hobject').1, heq]
    rfl
  · rw [(g'.lookups_remove id other hobject').2, heq]
    split
    · rfl
    · exact hsome other
  · rw [parent?, (g'.lookups_remove id child hobject').2]
    split
    next hself => simp [hself]
    next hne =>
      change g'.parent? child = some parent ↔ _
      rw [hlookup]
      split
      next hboth =>
        rw [hboth.2, Option.some.injEq]
        exact ⟨fun h => (by cases h), fun h => absurd h.1.symm h.2.1⟩
      next hnot =>
        refine ⟨fun h => ⟨h, ?_, Ne.symm hne⟩, And.left⟩
        rintro rfl
        exact hnot ⟨hdependent child h, h⟩
  · simp only [Graph.remove, hobject']
    rw [heq]

/-- An id without a parent can go without harm to the rest. -/
theorem Consistent.of_removed {g g' : Graph} (hg : g.Consistent) {id : NodeId}
    (hremoved : g.Removed id g') (hparentless : g.parent? id = none) : g'.Consistent := by
  have hnode : ∀ other, g'.node? other = if id = other then none else g.node? other := by
    intro other
    rw [node?, hremoved.object?_eq]
    split <;> rfl
  have hchild : ∀ child parent, g.parent? child = some parent → child ≠ id := by
    rintro child parent hparent rfl
    rw [hparentless] at hparent
    cases hparent
  refine @of_remaining_links g _ hg (fun parent _ => parent ≠ id) ⟨fun other => ?_, fun other => ?_⟩
    (fun child parent => ?_) (fun parent category child => ?_) (fun child parent hparent => ?_)
    (fun other node hfound => ?_) ?_ (fun other hmem => ?_)
  · rw [hremoved.kind?_eq, hremoved.object?_eq, hg.kind?_eq]
    split <;> rfl
  · rw [hremoved.isSome_parents, hremoved.object?_eq, hg.isSome_parents]
    split <;> rfl
  · rw [hremoved.parent?_iff]
    exact ⟨fun h => ⟨h.1, h.2.1⟩, fun h => ⟨h.1, h.2, hchild child parent h.1⟩⟩
  · simp only [Holds, hnode]
    by_cases hself : id = parent
    · simp [hself]
    · simp [hself, Ne.symm hself]
  · rw [hremoved.kind?_eq, if_neg (Ne.symm (hchild child parent hparent))]
  · rw [hnode] at hfound
    split at hfound
    · cases hfound
    · exact hg.nodup_children other node hfound
  · rw [hremoved.scenes_eq]
    exact hg.nodup_scenes.filter _
  · rw [hremoved.scenes_eq, List.mem_filter, decide_eq_true_eq] at hmem
    rw [hremoved.kind?_eq, if_neg (Ne.symm hmem.2)]
    exact hg.mounted other hmem.1

theorem leaveParent_fst (g : Graph) (id : NodeId) : (g.leaveParent id).1 = g.unlink id := by
  unfold leaveParent unlink
  cases g.parent? id with
  | none => rfl
  | some parent =>
      dsimp only
      rcases g.detach parent id with ⟨g', _ | _⟩ <;> rfl

/-- Deleting changes nothing, or takes a live id from its parent and its dependents, and out. -/
theorem delete_cases (g : Graph) (id : NodeId) :
    (∃ issue, g.delete id = .done g (.error issue)) ∨
      (g.object? id).isSome ∧ (g.delete id).result = .ok (.ok ()) ∧
        (g.delete id).state =
          ((g.unlink id).orphan id ((g.unlink id).dependents id)).remove id := by
  unfold delete
  split
  next hlive =>
    refine Or.inr ⟨(g.contains_eq_isSome id).symm.trans hlive, rfl, ?_⟩
    rw [← leaveParent_fst]
  next => exact Or.inl ⟨_, rfl⟩

theorem Consistent.delete {g : Graph} (hg : g.Consistent) (id : NodeId) :
    (g.delete id).state.Consistent := by
  rcases g.delete_cases id with ⟨issue, heq⟩ | ⟨hlive, -, heq⟩
  · rw [heq]
    exact hg
  · have hunlinked := hg.unlinked_unlink id
    rw [heq]
    refine (hg.unlink id).of_removed ((hg.unlink id).removed ?_) hunlinked.parent?_self
    rw [← (hg.unlink id).isSome_kind?, hunlinked.kind?_eq, hg.isSome_kind?, hlive]

/-! ## Clearing -/

theorem TablesAgree.remove {g : Graph} (hg : g.TablesAgree) (id : NodeId) :
    (g.remove id).TablesAgree := by
  cases hobject : g.object? id with
  | none =>
      simp only [Graph.remove, hobject]
      exact hg
  | some object =>
      refine ⟨fun other => ?_, fun other => ?_⟩
      · rw [(g.lookups_remove id other hobject).1, object?_remove, hg.kind?_eq]
        split <;> rfl
      · rw [(g.lookups_remove id other hobject).2, object?_remove]
        split
        · rfl
        · exact hg.isSome_parents other

theorem lastHandle_remove (g : Graph) (id : NodeId) : (g.remove id).lastHandle = g.lastHandle := by
  unfold remove
  split <;> rfl

/-- Taking ids out one after the other leaves the tables in agreement on those that stay. -/
theorem TablesAgree.foldl_remove {g : Graph} (hg : g.TablesAgree) (ids : List NodeId) :
    (ids.foldl Graph.remove g).TablesAgree ∧
      (ids.foldl Graph.remove g).lastHandle = g.lastHandle ∧
      ∀ other, (ids.foldl Graph.remove g).object? other =
        if other ∈ ids then none else g.object? other := by
  induction ids generalizing g with
  | nil => exact ⟨hg, rfl, by simp⟩
  | cons id rest ih =>
      obtain ⟨htables, hlast, hobject⟩ := ih (hg.remove id)
      refine ⟨htables, hlast.trans (g.lastHandle_remove id), fun other => ?_⟩
      rw [List.foldl_cons, hobject, object?_remove]
      by_cases hself : id = other
      · simp [hself]
      · simp [hself, Ne.symm hself]

/-- When no object is left, neither is any kind or parent. -/
theorem TablesAgree.eq_empty {g : Graph} (hg : g.TablesAgree) (hnone : ∀ id, g.object? id = none) :
    g.objects = ∅ ∧ g.kinds = ∅ ∧ g.parents = ∅ := by
  refine ⟨?_, ?_, ?_⟩ <;> apply Std.ExtTreeMap.ext_getElem? <;> intro id <;>
    rw [Std.ExtTreeMap.getElem?_empty]
  · exact hnone id
  · have hkind := hg.kind?_eq id
    rwa [hnone] at hkind
  · have hparents := hg.isSome_parents id
    rw [hnone] at hparents
    exact Option.not_isSome_iff_eq_none.mp (by simp [hparents])

/-- Clearing leaves nothing but the handles given up and the count of those drawn. -/
theorem TablesAgree.clear_eq {g : Graph} (hg : g.TablesAgree) :
    ∃ released, g.clear = { released, lastHandle := g.lastHandle } := by
  obtain ⟨htables, hlast, hobject⟩ := hg.foldl_remove g.ids.reverse
  have hnone : ∀ id, (g.ids.reverse.foldl Graph.remove g).object? id = none := by
    intro id
    rw [hobject]
    split
    next => rfl
    next hnot =>
      rw [List.mem_reverse, mem_ids_iff, Option.not_isSome_iff_eq_none] at hnot
      exact hnot
  obtain ⟨hobjects, hkinds, hparents⟩ := htables.eq_empty hnone
  refine ⟨(g.ids.reverse.foldl Graph.remove g).released, ?_⟩
  rw [Graph.clear, hobjects, hkinds, hparents, hlast]

theorem Consistent.clear {g : Graph} (hg : g.Consistent) : g.clear.Consistent := by
  obtain ⟨released, heq⟩ := hg.clear_eq
  rw [heq]
  exact consistent_empty.of_outline_eq (fun _ => rfl) rfl rfl rfl

end LiveScene.Graph
