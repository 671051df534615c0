import LiveScene.Proofs.Commutation

/-! # Attaching again, and undoing an attachment

A child that is attached where it is already goes through its place once more: it is taken out of
the list or the slot and put back in. Nothing is different afterwards, and the checks let it pass a
second time. A detachment undoes an attachment completely when the attachment had nothing to take
away: no earlier parent, no place among the mounted scenes, nothing in the slot.
-/

namespace LiveScene

namespace Node

/-! ## Putting a child in and taking it out -/

theorem without_without (node : Node) (child : NodeId) :
    (node.without child).without child = node.without child := by
  refine without_eq_self fun category hheld => ?_
  cases category with
  | generic => simp [Holds, without] at hheld
  | _ =>
      simp only [Holds, slot?_without, Option.filter_eq_some_iff] at hheld
      exact absurd rfl (of_decide_eq_true hheld.2)

/-- A child that was put into a free place leaves no trace when it is taken out. -/
theorem without_put {node : Node} {category : Category} (hfree : node.slot? category = none)
    (child : NodeId) : (node.put category child).without child = node.without child := by
  rcases node with ⟨_, _, _, _, children, role⟩
  cases category with
  | generic => simp [put, pushChild, without]
  | _ =>
      cases role with
      | mesh slots =>
          simp only [slot?, Slots.get] at hfree
          simp [put, setSlot, Slots.set, without, hfree]
      | _ => rfl

/-- Whatever a child displaced, taking it out and putting it back in makes no difference. -/
theorem put_without_put (node : Node) (category : Category) (child : NodeId) :
    ((node.put category child).without child).put category child =
      (node.without child).put category child := by
  rcases node with ⟨_, _, _, _, children, role⟩
  cases category with
  | generic => simp [put, pushChild, without]
  | _ => cases role <;> rfl

/-- After a child was put in, its place is taken by nobody else. -/
theorem eq_of_slot?_put {node : Node} {category : Category} {child id : NodeId}
    (hslot : (node.put category child).slot? category = some id) : id = child := by
  rcases node with ⟨_, _, _, _, children, role⟩
  cases category with
  | generic =>
      rw [slot?_generic] at hslot
      cases hslot
  | _ =>
      cases role with
      | mesh slots => exact (Option.some.inj hslot).symm
      | _ => cases hslot

end Node

/-- A child that was put into a free place of a node and taken out again is gone. -/
theorem Object.onNode_without_put {object : Object} {category : Category} {child : NodeId}
    (hfree : ∀ node, object.node? = some node → node.slot? category = none) :
    object.onNode (fun node => ((node.without child).put category child).without child) =
      object.onNode (·.without child) := by
  rcases object with ⟨name, body⟩
  cases body with
  | node node =>
      have hslot : (node.without child).slot? category = none := by
        rw [Node.slot?_without, hfree node rfl]
        rfl
      simp only [Object.onNode, Node.without_put hslot, Node.without_without]
  | _ => rfl

namespace Graph

theorem SameHoldings.trans {g g' g'' : Graph} (h : g.SameHoldings g') (h' : g'.SameHoldings g'') :
    g.SameHoldings g'' where
  kinds := h'.kinds.trans h.kinds
  active := h'.active.trans h.active
  released := h'.released.trans h.released
  lastHandle := h'.lastHandle.trans h.lastHandle

theorem SameHoldings.kind?_eq {g g' : Graph} (h : g.SameHoldings g') (id : NodeId) :
    g'.kind? id = g.kind? id := by
  rw [kind?, h.kinds, kind?]

theorem SameHoldings.category_eq {g g' : Graph} (h : g.SameHoldings g') (id : NodeId) :
    g'.category id = g.category id := by
  rw [category, h.kind?_eq, category]

namespace Adopts

variable {g g' g'' : Graph} {parent child : NodeId}

/-! ## Attaching again -/

theorem node?_eq (h : g.Adopts parent child g') :
    g'.node? parent =
      (g.node? parent).map fun node => (node.without child).put (g.category child) child := by
  rw [node?, h.object?, node?]
  cases g.object? parent with
  | none => rfl
  | some object => simp only [if_true, Option.map_some, Option.bind_some, object.node?_onNode]

/-- The child has its place for itself. -/
theorem eq_of_occupant? (h : g.Adopts parent child g') {id : NodeId}
    (hoccupant : g'.occupant? parent child = some id) : id = child := by
  rw [occupant?, h.category_eq, h.node?_eq] at hoccupant
  obtain ⟨node, hnode, hslot⟩ := Option.bind_eq_some_iff.mp hoccupant
  obtain ⟨before, -, rfl⟩ := Option.map_eq_some_iff.mp hnode
  exact Node.eq_of_slot?_put hslot

/-- The chain above the parent is the same, so that the checks come to the same. -/
theorem ancestor?_eq (h : g.Adopts parent child g') (hgeneric : g.category child = .generic)
    (havoid : ∀ n, g.ancestor? n parent ≠ some child) (n : Nat) :
    g'.ancestor? n parent = g.ancestor? n parent := by
  refine ancestor?_congr_of_avoids (fun id hne => ?_) havoid n
  have hfree : g.occupant? parent child = none := by
    rw [occupant?, hgeneric]
    exact Option.bind_eq_none_iff.mpr fun node _ => node.slot?_generic
  rw [parent?, h.parents, if_neg hne, if_neg (by simp [hfree]), parent?]

theorem attachable (h : g.Adopts parent child g') (hattachable : g.Attachable parent child) :
    g'.Attachable parent child := by
  obtain ⟨hne, upper, hupper, lower, hlower, hsuits⟩ := hattachable
  refine ⟨hne, upper, ?_, lower, ?_, ?_⟩
  · rw [h.kind?_eq]
    exact hupper
  · rw [h.kind?_eq]
    exact hlower
  · rcases hsuits with hslot | ⟨hgeneric, hupperGeneric, hnot, hcard⟩
    · exact Or.inl hslot
    · have havoid := ancestor?_ne_of_not_standsAbove hne hnot
      have hcategory : g.category child = .generic := (Graph.category_eq hlower).trans hgeneric
      have habove : ∀ above, g'.StandsAbove above parent ↔ g.StandsAbove above parent := by
        intro above
        simp only [StandsAbove, h.ancestor?_eq hcategory havoid]
      simp only [habove]
      exact Or.inr ⟨hgeneric, hupperGeneric, hnot, hcard⟩

/-- A child that is adopted again by the same parent changes nothing. -/
theorem eq_of_again (h : g.Adopts parent child g') (hagain : g'.Adopts parent child g'') :
    g'' = g' := by
  refine eq_of_parts (fun id => ?_) hagain.kinds (Std.ExtTreeMap.ext_getElem? fun {id} => ?_)
    hagain.active ?_ hagain.released hagain.lastHandle
  · rw [hagain.object?, h.object?, Option.map_map, h.category_eq]
    congr 1
    funext object
    simp only [Function.comp_apply, Object.onNode_onNode]
    congr 1
    funext node
    split
    next => rw [Node.put_without_put, Node.without_without]
    next => rw [Node.without_without]
  · rw [hagain.parents]
    split
    next heq => rw [h.parents, if_pos heq]
    next hne => rw [if_neg fun hoccupant => hne (h.eq_of_occupant? hoccupant)]
  · rw [hagain.scenes, h.scenes, h.kind?_eq]
    split
    next => rw [List.filter_filter]; simp
    next => rfl

/-! ## Undoing it -/

/-- Releasing a child that was adopted from nowhere into a free place gives the graph back. -/
theorem eq_of_release (h : g.Adopts parent child g') (hrelease : g'.Releases parent child g'')
    (hg : g.Consistent) (hlive : (g.kind? child).isSome) (hroot : g.parent? child = none)
    (hmounted : child ∉ g.scenes) (hfree : g.occupant? parent child = none) : g'' = g := by
  have hsame := h.toSameHoldings.trans hrelease.toSameHoldings
  refine eq_of_parts (fun id => ?_) hsame.kinds (Std.ExtTreeMap.ext_getElem? fun {id} => ?_)
    hsame.active ?_ hsame.released hsame.lastHandle
  · rw [hrelease.object?]
    split
    next heq =>
      subst heq
      rw [h.object?, Option.map_map]
      cases hobject : g.object? id with
      | none => rfl
      | some object =>
          have hvacant : ∀ node, object.node? = some node →
              node.slot? (g.category child) = none := by
            intro node hnode
            rw [occupant?, node?_eq_some_iff.mpr ⟨object, hobject, hnode⟩] at hfree
            exact hfree
          simp only [Option.map_some, Function.comp_apply, if_true, Object.onNode_onNode,
            Object.onNode_without_put hvacant,
            hg.onNode_without hobject (hroot.trans_ne (Option.some_ne_none id).symm)]
    next hne => exact h.elsewhere id hne (by simp [hroot])
  · rw [hrelease.parents, h.parents]
    split
    next heq =>
      obtain ⟨above, habove⟩ := hg.exists_parents hlive
      rw [parent?, habove, Option.join_some] at hroot
      rw [heq, habove, hroot]
    next hne => rw [if_neg (by simp [hfree])]
  · rw [hrelease.scenes, h.scenes]
    split
    next =>
      refine List.filter_eq_self.mpr fun id hid => decide_eq_true fun heq => ?_
      exact hmounted (heq ▸ hid)
    next => rfl

end Adopts

/-- Attaching where a child can be attached, once more on the graph that any commands led to,
changes nothing and is accepted again. And a child that had no parent, was not mounted and found a
free place can be detached with the effect that nothing ever happened. -/
theorem attach_detach_laws (commands : List Command) (parent child : NodeId)
    (hok : ((run commands).apply (.attach parent child)).result = .ok (.ok ())) :
    let g := run commands
    let attached := (g.apply (.attach parent child)).state
    attached.apply (.attach parent child) = .done attached (.ok ()) ∧
      (g.parent? child = none → child ∉ g.scenes → g.occupant? parent child = none →
        attached.apply (.detach parent child) = .done g (.ok ())) := by
  intro g attached
  have hg : g.Consistent := consistent_run commands
  have hattached : attached.Consistent := hg.apply (.attach parent child)
  have hattachable : g.Attachable parent child := hg.attach_eq_ok_iff.mp (Except.ok.inj hok)
  have hadopts : g.Adopts parent child attached := by
    obtain ⟨g', heq, hadopts⟩ := hg.attach_adopts hattachable
    have hstate : attached = g' := congrArg Prod.fst heq
    rw [hstate]
    exact hadopts
  constructor
  · obtain ⟨again, heq, hagain⟩ := hattached.attach_adopts (hadopts.attachable hattachable)
    simp only [Graph.apply, heq, hadopts.eq_of_again hagain]
  · intro hroot hmounted hfree
    have hparent : attached.parent? child = some parent := by
      rw [parent?, hadopts.parents, if_pos rfl, Option.join_some]
    have hlive : (g.kind? child).isSome := by
      obtain ⟨-, upper, -, lower, hlower, -⟩ := hattachable
      exact Option.isSome_of_mem hlower
    obtain ⟨restored, heq, hrelease⟩ := hattached.releases hparent
    simp only [Graph.apply, heq, hadopts.eq_of_release hrelease hg hlive hroot hmounted hfree]

/-- The first of two children is attached again, which makes it the last, and then once more; a
geometry is put into an empty mesh and taken out. -/
theorem attach_detach_laws_moved :
    let commands : List Command :=
      [.apply (.create ⟨1⟩ .group []), .apply (.create ⟨2⟩ .group []),
        .apply (.create ⟨3⟩ .mesh []), .apply (.create ⟨4⟩ .boxGeometry []),
        .apply (.attach ⟨1⟩ ⟨2⟩), .apply (.attach ⟨1⟩ ⟨3⟩)]
    let g := run commands
    let moved := (g.apply (.attach ⟨1⟩ ⟨2⟩)).state
    (moved.node? ⟨1⟩).map Node.children = some [⟨3⟩, ⟨2⟩] ∧
      moved.apply (.attach ⟨1⟩ ⟨2⟩) = .done moved (.ok ()) ∧
      (g.apply (.attach ⟨3⟩ ⟨4⟩)).result = .ok (.ok ()) ∧
      (g.apply (.attach ⟨3⟩ ⟨4⟩)).state.apply (.detach ⟨3⟩ ⟨4⟩) = .done g (.ok ()) := by
  intro commands g moved
  have hfilled : (g.apply (.attach ⟨3⟩ ⟨4⟩)).result = .ok (.ok ()) := by decide +kernel
  exact ⟨by decide +kernel, (attach_detach_laws commands ⟨1⟩ ⟨2⟩ (by decide +kernel)).1, hfilled,
    (attach_detach_laws commands ⟨3⟩ ⟨4⟩ hfilled).2 (by decide +kernel) (by decide +kernel)
      (by decide +kernel)⟩

end Graph

end LiveScene
