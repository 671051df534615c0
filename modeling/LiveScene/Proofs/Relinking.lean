import LiveScene.Proofs.LinkOrder
import LiveScene.Proofs.WellFormed
import Mathlib.Data.Set.Card

/-! # What attaching and detaching do

When an attachment succeeds and when a detachment does, and the graph after each, entry by entry.
A child that is attached leaves the list or the slot it was in; in a list it comes last, in a slot
it displaces what was there. Detaching only undoes the one link.
-/

namespace LiveScene

namespace Node

/-- The node without a child, wherever the node has it. The other children keep their order. -/
def without (node : Node) (child : NodeId) : Node :=
  { node with
    children := node.children.filter (· ≠ child)
    role := match node.role with
      | .mesh slots =>
        .mesh ⟨slots.geometry.filter (· ≠ child), slots.material.filter (· ≠ child)⟩
      | role => role }

theorem filter_ne_eq_self {held : Option NodeId} {child : NodeId} (hne : held ≠ some child) :
    held.filter (· ≠ child) = held := by
  cases held with
  | none => rfl
  | some id => simpa using hne

theorem without_eq_self {node : Node} {child : NodeId}
    (hnot : ∀ category, ¬node.Holds category child) : node.without child = node := by
  have hchildren : node.children.filter (· ≠ child) = node.children :=
    List.filter_eq_self.mpr fun id hid => decide_eq_true fun heq => hnot .generic (heq ▸ hid)
  rcases node with ⟨_, _, _, _, children, role⟩
  cases role with
  | mesh slots =>
      have hgeometry := filter_ne_eq_self (hnot .geometry)
      have hmaterial := filter_ne_eq_self (hnot .material)
      simp only [without, hchildren]
      exact congrArg _ (congrArg₂ (fun geometry material => Role.mesh ⟨geometry, material⟩)
        hgeometry hmaterial)
  | _ => simp only [without, hchildren]

theorem filter_some_ne_self (child : NodeId) : (some child).filter (· ≠ child) = none := by
  simp [Option.filter]

/-- What was dropped is not there to be taken away again. -/
theorem without_drop {node : Node} {category : Category} {child : NodeId}
    (hheld : node.Holds category child) :
    (node.drop category child).without child = node.without child := by
  rcases node with ⟨_, _, _, _, children, role⟩
  cases category with
  | generic => simp [drop, without, removeChild]
  | _ =>
      cases role with
      | mesh slots =>
          simp only [Holds, slot?, Slots.get] at hheld
          simp only [drop, without, setSlot, Slots.set, hheld, filter_some_ne_self]
          rfl
      | _ => cases hheld

theorem slot?_generic (node : Node) : node.slot? .generic = none := by
  rcases node with ⟨_, _, _, _, _, role⟩
  cases role <;> rfl

theorem slot?_without (node : Node) (category : Category) (child : NodeId) :
    (node.without child).slot? category = (node.slot? category).filter (· ≠ child) := by
  rcases node with ⟨_, _, _, _, _, role⟩
  cases role with
  | mesh slots => cases category <;> rfl
  | _ => rfl

theorem isMesh_without (node : Node) (child : NodeId) :
    (node.without child).isMesh = node.isMesh := by
  rcases node with ⟨_, _, _, _, _, role⟩
  cases role <;> rfl

/-- A child that is held once is gone when it is dropped from there. -/
theorem drop_eq_without {node : Node} {category : Category} {child : NodeId}
    (hheld : node.Holds category child)
    (honce : ∀ other, node.Holds other child → other = category) :
    node.drop category child = node.without child := by
  have hgone : ∀ other, ¬(node.drop category child).Holds other child := by
    intro other hother
    obtain ⟨hother, hne⟩ := (holds_drop hheld other child).mp hother
    exact hne ⟨honce other hother, rfl⟩
  rw [← without_drop hheld, without_eq_self hgone]

end Node

namespace Graph

/-! ## Strict ancestors -/

/-- Whether an id is met when parents are followed upward from another. -/
def StandsAbove (g : Graph) (above id : NodeId) : Prop :=
  ∃ n, g.ancestor? (n + 1) id = some above

/-- What does not stand above an id and is not this id is nowhere on the chain. -/
theorem ancestor?_ne_of_not_standsAbove {g : Graph} {above id : NodeId} (hne : id ≠ above)
    (hnot : ¬g.StandsAbove above id) (n : Nat) : g.ancestor? n id ≠ some above := by
  cases n with
  | zero => exact fun hself => hne (Option.some.inj hself)
  | succ n => exact fun habove => hnot ⟨n, habove⟩

/-- Without cycles an id has as many ancestors as its chain of parents has places. -/
theorem Acyclic.encard_standsAbove_le_iff {g : Graph} (hg : g.Acyclic) (limit : Nat) (id : NodeId) :
    {above | g.StandsAbove above id}.encard ≤ limit ↔ g.ancestor? (limit + 1) id = none := by
  constructor
  · intro hcard
    by_contra hlong
    have hdefined : ∀ n ≤ limit, ∃ above, g.ancestor? (n + 1) id = some above := by
      intro n hn
      rw [← Option.ne_none_iff_exists']
      exact fun hend => hlong (g.ancestor?_eq_none_of_le (by omega) hend)
    choose place hplace using hdefined
    -- One ancestor for each of the first places, all of them different.
    let climb : Fin (limit + 1) → NodeId := fun n => place n (Nat.lt_succ_iff.mp n.isLt)
    have hinj : Function.Injective climb := by
      intro m n heq
      have hm : g.ancestor? (m + 1) id = some (climb m) := hplace m (Nat.lt_succ_iff.mp m.isLt)
      have hn : g.ancestor? (n + 1) id = some (climb n) := hplace n (Nat.lt_succ_iff.mp n.isLt)
      rw [heq] at hm
      exact Fin.ext (Nat.succ.inj (hg.ancestor?_inj hm hn))
    have hsub : Set.range climb ⊆ {above | g.StandsAbove above id} := by
      rintro _ ⟨n, rfl⟩
      exact ⟨n, hplace n (Nat.lt_succ_iff.mp n.isLt)⟩
    have hmany := (Set.encard_le_encard hsub).trans hcard
    rw [← Set.image_univ, hinj.encard_image, Set.encard_univ, ENat.card_eq_coe_fintype_card,
      Fintype.card_fin, Nat.cast_le] at hmany
    exact absurd hmany (by omega)
  · intro hend
    have hsub : {above | g.StandsAbove above id} ⊆
        (Finset.image (fun n => (g.ancestor? (n + 1) id).getD id) (Finset.range limit) :
          Finset NodeId) := by
      rintro above ⟨n, habove⟩
      have hlt : n < limit := by
        by_contra hge
        rw [g.ancestor?_eq_none_of_le (by omega) hend] at habove
        cases habove
      rw [Finset.mem_coe, Finset.mem_image]
      exact ⟨n, Finset.mem_range.mpr hlt, by rw [habove]; rfl⟩
    refine (Set.encard_le_encard hsub).trans ?_
    rw [Set.encard_coe_eq_coe_finsetCard, Nat.cast_le]
    exact Finset.card_image_le.trans (Finset.card_range limit).le

/-- The bounded walk finds no ancestor exactly when there is none and the chain is short enough. -/
theorem Acyclic.isAncestor_eq_false_iff {g : Graph} (hg : g.Acyclic) (ancestor id : NodeId) :
    g.isAncestor ancestor id = false ↔
      ¬g.StandsAbove ancestor id ∧ {above | g.StandsAbove above id}.encard ≤ chainLimit := by
  rw [hg.encard_standsAbove_le_iff]
  constructor
  · intro hfalse
    refine ⟨?_, ?_⟩
    · rintro ⟨n, hreach⟩
      exact ancestor?_ne_of_isAncestor_eq_false hfalse n hreach
    · have hno := mt (g.chainReaches_iff ancestor chainLimit (g.parent? id)).mpr
        (by rw [← isAncestor, hfalse]; exact Bool.false_ne_true)
      exact Option.not_isSome_iff_eq_none.mp fun hlong => hno (Or.inr hlong)
  · rintro ⟨hnot, hend⟩
    rw [Bool.eq_false_iff, ne_eq, isAncestor, chainReaches_iff]
    rintro (⟨n, -, hreach⟩ | hlong)
    · exact hnot ⟨n, hreach⟩
    · have hnone : (g.parent? id).bind (g.ancestor? chainLimit) = none := hend
      rw [hnone] at hlong
      cases hlong

/-! ## Detaching -/

theorem parents_setParent (g : Graph) (id other : NodeId) (parent : Option NodeId) :
    (g.setParent id parent).parents[other]? =
      if other = id then (g.parents[other]?).map (fun _ => parent) else g.parents[other]? := by
  simp only [setParent, Std.ExtTreeMap.getElem?_modify, Std.compare_eq_iff_eq]
  split
  next heq => rw [heq, if_pos rfl]
  next hne => exact (if_neg (Ne.symm hne)).symm

/-- Two graphs with the same kinds, the same selected camera, and the same handles given up and
drawn. -/
structure SameHoldings (g g' : Graph) : Prop where
  kinds : g'.kinds = g.kinds
  active : g'.active = g.active
  released : g'.released = g.released
  lastHandle : g'.lastHandle = g.lastHandle

/-- The graph after a child was taken from its parent: the parent has it no longer, the child is
without a parent, and that is all. -/
structure Releases (g : Graph) (parent child : NodeId) (g' : Graph) : Prop
    extends g.SameHoldings g' where
  object? : ∀ id, g'.object? id =
    if id = parent then (g.object? id).map (·.onNode (·.without child)) else g.object? id
  parents : ∀ id, g'.parents[id]? = if id = child then some none else g.parents[id]?
  scenes : g'.scenes = g.scenes

section

variable {g : Graph} (hg : g.Consistent) {parent child : NodeId}

include hg

/-- A live id has an entry in the table of parents. -/
theorem Consistent.exists_parents {id : NodeId} (hlive : (g.kind? id).isSome) :
    ∃ above, g.parents[id]? = some above := by
  rw [← Option.isSome_iff_exists, hg.isSome_parents, ← hg.isSome_kind?]
  exact hlive

theorem Consistent.releases (hparent : g.parent? child = some parent) :
    ∃ g', g.detach parent child = (g', .ok ()) ∧ g.Releases parent child g' := by
  obtain ⟨node, kind, hnode, hkind, hheld, heq⟩ := hg.detach_of_parent? hparent
  have hdrop : node.drop kind.category child = node.without child :=
    Node.drop_eq_without hheld fun other hother =>
      (hg.eq_of_holds ⟨node, hnode, hother⟩ ⟨node, hnode, hheld⟩).2
  refine ⟨_, heq, ⟨rfl, rfl, rfl, rfl⟩, fun id => ?_, fun id => ?_, rfl⟩
  · change (g.setNode parent _).object? id = _
    rw [hdrop, setNode_eq_modify hnode (·.without child), object?_modify]
    exact if_congr eq_comm rfl rfl
  · rw [parents_setParent]
    split
    next heq =>
      obtain ⟨above, habove⟩ := hg.exists_parents (Option.isSome_of_eq_some hkind)
      change (g.parents[id]?).map _ = _
      rw [heq, habove]
      rfl
    next => rfl

theorem Consistent.detach_eq_ok_iff :
    (g.detach parent child).2 = .ok () ↔ g.parent? child = some parent := by
  constructor
  · intro hok
    by_contra hparent
    obtain ⟨issue, heq⟩ := hg.detach_of_parent?_ne hparent
    rw [heq] at hok
    cases hok
  · intro hparent
    obtain ⟨g', heq, -⟩ := hg.releases hparent
    rw [heq]

/-- What is not the parent of a child does not have it. -/
theorem Consistent.onNode_without {id : NodeId} {object : Object}
    (hobject : g.object? id = some object) (hparent : g.parent? child ≠ some id) :
    object.onNode (·.without child) = object := by
  rcases object with ⟨name, body⟩
  cases body with
  | node node =>
      have hnot : ∀ category, ¬node.Holds category child := fun category hheld =>
        hparent ((hg.parent?_iff child id).mpr
          ⟨category, node, node?_eq_some_iff.mpr ⟨_, hobject, rfl⟩, hheld⟩)
      simp only [Object.onNode, Node.without_eq_self hnot]
  | _ => rfl

/-! ## Taking a child from where it is -/

theorem Consistent.unlink_releases (child : NodeId) :
    (g.parent? child = none ∧ g.unlink child = g) ∨
      ∃ parent, g.parent? child = some parent ∧ g.Releases parent child (g.unlink child) := by
  cases hparent : g.parent? child with
  | none => exact Or.inl ⟨rfl, by simp only [Graph.unlink, hparent]⟩
  | some parent =>
      obtain ⟨g', heq, hreleases⟩ := hg.releases hparent
      refine Or.inr ⟨parent, rfl, ?_⟩
      simp only [Graph.unlink, hparent, heq]
      exact hreleases

theorem Consistent.object?_unlink (id : NodeId) :
    (g.unlink child).object? id = (g.object? id).map (·.onNode (·.without child)) := by
  have hsame : g.parent? child ≠ some id →
      g.object? id = (g.object? id).map (·.onNode (·.without child)) := by
    intro hparent
    cases hobject : g.object? id with
    | none => rfl
    | some object => rw [Option.map_some, hg.onNode_without hobject hparent]
  rcases hg.unlink_releases child with ⟨hnone, heq⟩ | ⟨parent, hparent, hreleases⟩
  · rw [heq]
    exact hsame (by simp [hnone])
  · rw [hreleases.object?]
    split
    next => rfl
    next hne => exact hsame (by simp [hparent, Ne.symm hne])

theorem Consistent.parents_unlink (hlive : (g.kind? child).isSome) (id : NodeId) :
    (g.unlink child).parents[id]? = if id = child then some none else g.parents[id]? := by
  rcases hg.unlink_releases child with ⟨hnone, heq⟩ | ⟨parent, -, hreleases⟩
  · rw [heq]
    split
    next hid =>
      obtain ⟨above, habove⟩ := hg.exists_parents hlive
      rw [parent?, habove, Option.join_some] at hnone
      rw [hid, habove, hnone]
    next => rfl
  · exact hreleases.parents id

theorem Consistent.sameHoldings_unlink (child : NodeId) :
    g.SameHoldings (g.unlink child) ∧ (g.unlink child).scenes = g.scenes := by
  rcases hg.unlink_releases child with ⟨-, heq⟩ | ⟨parent, -, hreleases⟩
  · rw [heq]
    exact ⟨⟨rfl, rfl, rfl, rfl⟩, rfl⟩
  · exact ⟨hreleases.toSameHoldings, hreleases.scenes⟩

end

/-! ## Attaching -/

/-- Whether a child can be attached to a parent. Geometries and materials go to meshes; anything
else goes to whatever is neither, provided that it does not stand above it already and that the
parent has not too many ancestors to look at. -/
structure Attachable (g : Graph) (parent child : NodeId) : Prop where
  ne : parent ≠ child
  suits : ∃ upper ∈ g.kind? parent, ∃ lower ∈ g.kind? child,
    lower.category ≠ .generic ∧ upper = .mesh ∨
      lower.category = .generic ∧ upper.category = .generic ∧ ¬g.StandsAbove child parent ∧
        {above | g.StandsAbove above parent}.encard ≤ 4096

/-- What has the place that a child would take in a parent; lists have room for all. -/
def occupant? (g : Graph) (parent child : NodeId) : Option NodeId :=
  (g.node? parent).bind (·.slot? (g.category child))

/-- The graph after a child was attached to a parent. -/
structure Adopts (g : Graph) (parent child : NodeId) (g' : Graph) : Prop
    extends g.SameHoldings g' where
  /-- The child leaves the list or the slot it was in. The parent gets it at the end of its list, or
  in the slot of its category. -/
  object? : ∀ id, g'.object? id = (g.object? id).map fun object => object.onNode fun node =>
    if id = parent then (node.without child).put (g.category child) child else node.without child
  /-- No other objects change. -/
  elsewhere : ∀ id, id ≠ parent → g.parent? child ≠ some id → g'.object? id = g.object? id
  /-- What had the place of the child is left without a parent. -/
  parents : ∀ id, g'.parents[id]? =
    if id = child then some (some parent)
    else if g.occupant? parent child = some id then some none
    else g.parents[id]?
  scenes : g'.scenes =
    if g.kind? child = some .scene then g.scenes.filter (· ≠ child) else g.scenes

section

variable {g : Graph} (hg : g.Consistent) {parent child : NodeId}

theorem category_eq {kind : Kind} (hkind : g.kind? child = some kind) :
    g.category child = kind.category := by
  rw [category, hkind]
  rfl

include hg

theorem Consistent.node?_unlink (id : NodeId) :
    (g.unlink child).node? id = (g.node? id).map (·.without child) := by
  rw [node?, hg.object?_unlink, node?]
  cases g.object? id with
  | none => rfl
  | some object => exact object.node?_onNode _

/-- A child that was taken from where it is and put under a parent is adopted by it, when its parent
and the mounted scenes are recorded accordingly. -/
theorem Consistent.adopts {g' : Graph} (hholdings : g.SameHoldings g')
    (hobject : ∀ id, g'.object? id = ((g.unlink child).modify parent fun object =>
      object.onNode (·.put (g.category child) child)).object? id)
    (hparents : ∀ id, g'.parents[id]? =
      if id = child then some (some parent)
      else if g.occupant? parent child = some id then some none
      else g.parents[id]?)
    (hscenes : g'.scenes =
      if g.kind? child = some .scene then g.scenes.filter (· ≠ child) else g.scenes) :
    g.Adopts parent child g' := by
  have hadopted : ∀ id, g'.object? id = (g.object? id).map fun object => object.onNode fun node =>
      if id = parent then (node.without child).put (g.category child) child
      else node.without child := by
    intro id
    rw [hobject, object?_modify, hg.object?_unlink]
    by_cases heq : id = parent
    · simp only [heq, if_true, Option.map_map, Function.comp_def, Object.onNode_onNode]
    · simp only [heq, Ne.symm heq, if_false]
  refine ⟨hholdings, hadopted, fun id hne hparent => ?_, hparents, hscenes⟩
  rw [hadopted]
  simp only [if_neg hne]
  cases hbefore : g.object? id with
  | none => rfl
  | some object => rw [Option.map_some, hg.onNode_without hbefore hparent]

/-- A generic child goes to the end of the list of a node that it does not stand above. -/
theorem Consistent.attachToNode_adopts {kind : Kind} {node : Node}
    (hkind : g.kind? child = some kind) (hgeneric : kind.category = .generic)
    (hnode : g.node? parent = some node) (hacyclic : g.isAncestor child parent = false) :
    ∃ g', g.attachToNode parent child kind = (g', .ok ()) ∧ g.Adopts parent child g' := by
  obtain ⟨hholdings, hscenes⟩ := hg.sameHoldings_unlink child
  have hcategory : g.category child = .generic := (category_eq hkind).trans hgeneric
  -- The graph without the child, which is also unmounted if it is a scene.
  let bare := if kind = .scene then (g.unlink child).unmount child else g.unlink child
  have hbare : bare.objects = (g.unlink child).objects ∧ bare.parents = (g.unlink child).parents ∧
      g.SameHoldings bare := by
    dsimp only [bare]
    split
    · exact ⟨rfl, rfl, { hholdings with }⟩
    · exact ⟨rfl, rfl, hholdings⟩
  obtain ⟨hobjects, hparents, hsame⟩ := hbare
  have hnode' : bare.node? parent = some (node.without child) := by
    rw [node?, Graph.object?, hobjects]
    change (g.unlink child).node? parent = _
    rw [hg.node?_unlink, hnode]
    rfl
  refine ⟨Graph.setParent (bare.setNode parent ((node.without child).pushChild child)) child
      (some parent), ?_, hg.adopts { hsame with } (fun id => ?_) (fun id => ?_) ?_⟩
  · simp only [attachToNode, hnode, hacyclic, Bool.false_eq_true, if_false]
    rw [show (if kind = .scene then (g.unlink child).unmount child else g.unlink child) = bare
      from rfl, hnode']
  · change (bare.setNode parent ((node.without child).put .generic child)).object? id = _
    rw [setNode_eq_modify hnode' (·.put .generic child), object?_modify, object?_modify, hcategory,
      Graph.object?, Graph.object?, hobjects]
  · have hempty : g.occupant? parent child = none := by
      rw [occupant?, hcategory, hnode]
      exact Node.slot?_generic node
    rw [parents_setParent, hempty]
    change (if id = child then (bare.parents[id]?).map _ else bare.parents[id]?) = _
    rw [hparents, hg.parents_unlink (Option.isSome_of_eq_some hkind)]
    by_cases heq : id = child <;> simp [heq]
  · change bare.scenes = _
    dsimp only [bare]
    rw [hkind, ← hscenes]
    split
    next hscene => rw [if_pos (congrArg some hscene)]; rfl
    next hscene => rw [if_neg fun heq => hscene (Option.some.inj heq)]

/-- A geometry or a material goes into the slot of a mesh. -/
theorem Consistent.attachToSlot_adopts {kind : Kind} {node : Node}
    (hkind : g.kind? child = some kind) (hcategory : kind.category ≠ .generic)
    (hnode : g.node? parent = some node) (hmesh : node.isMesh = true) :
    ∃ g', g.attachToSlot parent child kind.category = (g', .ok ()) ∧ g.Adopts parent child g' := by
  obtain ⟨hholdings, hscenes⟩ := hg.sameHoldings_unlink child
  have hlive := Option.isSome_of_eq_some hkind
  have hnode' : (g.unlink child).node? parent = some (node.without child) := by
    rw [hg.node?_unlink, hnode]
    rfl
  have hoccupant : g.occupant? parent child = node.slot? kind.category := by
    rw [occupant?, hnode, category_eq hkind]
    rfl
  have hscene : g.kind? child ≠ some .scene := by
    rw [hkind]
    rintro ⟨⟩
    exact hcategory rfl
  have hfilled : ∀ id,
      ((g.unlink child).setNode parent ((node.without child).setSlot kind.category
        (some child))).object? id =
      ((g.unlink child).modify parent fun object =>
        object.onNode (·.put (g.category child) child)).object? id := by
    intro id
    rw [category_eq hkind, ← setNode_eq_modify hnode' (·.put kind.category child),
      Node.put_eq_setSlot _ hcategory]
  simp only [attachToSlot, hnode', Option.filter_some, Node.isMesh_without, hmesh, if_true,
    Node.slot?_without]
  by_cases hdisplaced : ∃ previous, node.slot? kind.category = some previous ∧ previous ≠ child
  · obtain ⟨previous, hslot, hne⟩ := hdisplaced
    have hfilter : (some previous).filter (· ≠ child) = some previous :=
      Node.filter_ne_eq_self fun heq => hne (Option.some.inj heq)
    obtain ⟨previousKind, hprevious, -⟩ := hg.kind?_of_holds parent kind.category previous
      (holds_of_slot? hnode hslot)
    obtain ⟨above, habove⟩ := hg.exists_parents (Option.isSome_of_eq_some hprevious)
    simp only [hslot, hfilter, if_pos hne]
    refine ⟨_, rfl, hg.adopts { hholdings with } hfilled (fun id => ?_) ?_⟩
    · rw [parents_setParent, parents_setParent]
      change (if id = child then (if id = previous then ((g.unlink child).parents[id]?).map _ else
        (g.unlink child).parents[id]?).map _ else if id = previous then
          ((g.unlink child).parents[id]?).map _ else (g.unlink child).parents[id]?) = _
      rw [hg.parents_unlink hlive, hoccupant, hslot]
      by_cases hid : id = child
      · simp [hid, Ne.symm hne]
      · by_cases hid' : id = previous
        · simp [hid', hne, habove]
        · simp [hid, hid', Ne.symm hid']
    · rw [if_neg hscene]
      exact hscenes
  · have hnone : (node.slot? kind.category).filter (· ≠ child) = none := by
      cases hslot : node.slot? kind.category with
      | none => rfl
      | some previous =>
          have heq : previous = child := by
            by_contra hne
            exact hdisplaced ⟨previous, hslot, hne⟩
          rw [heq, Node.filter_some_ne_self]
    simp only [hnone]
    refine ⟨_, rfl, hg.adopts { hholdings with } hfilled (fun id => ?_) ?_⟩
    · rw [parents_setParent]
      change (if id = child then ((g.unlink child).parents[id]?).map _ else
        (g.unlink child).parents[id]?) = _
      rw [hg.parents_unlink hlive, hoccupant]
      by_cases hid : id = child
      · simp [hid]
      · have hother : node.slot? kind.category ≠ some id := fun hslot => hdisplaced ⟨id, hslot, hid⟩
        simp [hid, hother]
    · rw [if_neg hscene]
      exact hscenes

theorem Consistent.attach_adopts (h : g.Attachable parent child) :
    ∃ g', g.attach parent child = (g', .ok ()) ∧ g.Adopts parent child g' := by
  obtain ⟨hne, upper, hupper, lower, hlower, hsuits⟩ := h
  rw [Option.mem_def] at hupper hlower
  simp only [Graph.attach, hupper, hlower, if_neg hne]
  rcases hsuits with ⟨hcategory, rfl⟩ | ⟨hgeneric, hupperGeneric, hnot, hcard⟩
  · obtain ⟨node, hnode, hrole⟩ := hg.exists_node? hupper rfl
    rw [if_neg hcategory, if_neg (not_not_intro rfl)]
    exact hg.attachToSlot_adopts hlower hcategory hnode (node.isMesh_iff.mpr hrole)
  · obtain ⟨node, hnode, -⟩ := hg.exists_node? hupper hupperGeneric
    rw [if_pos hgeneric]
    exact hg.attachToNode_adopts hlower hgeneric hnode
      ((hg.acyclic.isAncestor_eq_false_iff child parent).mpr ⟨hnot, hcard⟩)

/-- The checks that an attachment passes amount to the condition under which it can be made. -/
theorem Consistent.attach_eq_ok_iff :
    (g.attach parent child).2 = .ok () ↔ g.Attachable parent child := by
  refine ⟨fun hok => ?_, fun h => ?_⟩
  · unfold Graph.attach at hok
    cases hupper : g.kind? parent with
    | none => simp [hupper] at hok
    | some upper =>
        cases hlower : g.kind? child with
        | none => simp [hupper, hlower] at hok
        | some lower =>
            simp only [hupper, hlower] at hok
            split at hok
            next => cases hok
            next hne =>
              refine ⟨hne, upper, hupper, lower, hlower, ?_⟩
              split at hok
              next hgeneric =>
                unfold attachToNode at hok
                cases hnode : g.node? parent with
                | none => simp [hnode] at hok
                | some node =>
                    cases hancestor : g.isAncestor child parent with
                    | true => simp [hnode, hancestor] at hok
                    | false =>
                        obtain ⟨hnot, hcard⟩ :=
                          (hg.acyclic.isAncestor_eq_false_iff child parent).mp hancestor
                        have hkind := hg.kind?_of_node? hnode
                        rw [hupper, Option.some.injEq] at hkind
                        exact Or.inr ⟨hgeneric, hkind ▸ node.role.category_kind, hnot, hcard⟩
              next hcategory =>
                split at hok
                next => cases hok
                next hmesh => exact Or.inl ⟨hcategory, not_not.mp hmesh⟩
  · obtain ⟨g', heq, -⟩ := hg.attach_adopts h
    rw [heq]

end

/-- What attaching and detaching do to the graph that any commands led to. A child is attached
exactly when it can be, and then nothing but its link has changed; it is detached exactly from the
parent that is recorded for it, and then nothing but this link is gone. -/
theorem attach_detach_exact (commands : List Command) (parent child : NodeId) :
    let g := run commands
    let attached := g.apply (.attach parent child)
    let detached := g.apply (.detach parent child)
    (attached.result = .ok (.ok ()) ↔ g.Attachable parent child) ∧
      (attached.result = .ok (.ok ()) → g.Adopts parent child attached.state) ∧
      (detached.result = .ok (.ok ()) ↔ g.parent? child = some parent) ∧
      (detached.result = .ok (.ok ()) → g.Releases parent child detached.state) := by
  intro g attached detached
  have hg : g.Consistent := consistent_run commands
  have hattached : attached.result = .ok (.ok ()) ↔ g.Attachable parent child := by
    rw [← hg.attach_eq_ok_iff]
    exact ⟨Except.ok.inj, congrArg _⟩
  have hdetached : detached.result = .ok (.ok ()) ↔ g.parent? child = some parent := by
    rw [← hg.detach_eq_ok_iff]
    exact ⟨Except.ok.inj, congrArg _⟩
  refine ⟨hattached, fun hok => ?_, hdetached, fun hok => ?_⟩
  · obtain ⟨g', heq, hadopts⟩ := hg.attach_adopts (hattached.mp hok)
    have hstate : attached.state = g' := congrArg Prod.fst heq
    rw [hstate]
    exact hadopts
  · obtain ⟨g', heq, hreleases⟩ := hg.releases (hdetached.mp hok)
    have hstate : detached.state = g' := congrArg Prod.fst heq
    rw [hstate]
    exact hreleases

/-- A geometry goes from one mesh to another that has one already. -/
theorem attach_detach_exact_displaced :
    let commands : List Command :=
      [.apply (.create ⟨1⟩ .mesh []), .apply (.create ⟨2⟩ .mesh []),
        .apply (.create ⟨3⟩ .boxGeometry []), .apply (.create ⟨4⟩ .sphereGeometry []),
        .apply (.attach ⟨1⟩ ⟨3⟩), .apply (.attach ⟨2⟩ ⟨4⟩)]
    let g := run commands
    let attached := g.apply (.attach ⟨1⟩ ⟨4⟩)
    g.Attachable ⟨1⟩ ⟨4⟩ ∧ g.Adopts ⟨1⟩ ⟨4⟩ attached.state ∧
      attached.state.parents[(⟨4⟩ : NodeId)]? = some (some ⟨1⟩) ∧
      attached.state.parents[(⟨3⟩ : NodeId)]? = some none ∧
      g.Releases ⟨1⟩ ⟨3⟩ (g.apply (.detach ⟨1⟩ ⟨3⟩)).state := by
  intro commands g attached
  obtain ⟨hattachable, hadopts, -, -⟩ := attach_detach_exact commands ⟨1⟩ ⟨4⟩
  obtain ⟨-, -, -, hreleases⟩ := attach_detach_exact commands ⟨1⟩ ⟨3⟩
  have hok : attached.result = .ok (.ok ()) := by decide +kernel
  have hoccupant : g.occupant? ⟨1⟩ ⟨4⟩ = some ⟨3⟩ := by decide +kernel
  refine ⟨hattachable.mp hok, hadopts hok, ?_, ?_, hreleases (by decide +kernel)⟩
  · rw [(hadopts hok).parents, if_pos rfl]
  · rw [(hadopts hok).parents, if_neg (by decide), if_pos hoccupant]

end Graph

end LiveScene
