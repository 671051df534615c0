import LiveScene.Proofs.Runs

/-! # The selected camera

Only a camera is ever selected, and an id that goes is deselected. So the selected id always belongs
to a live camera. Links do not come into this: making and undoing them leaves the kinds and the
selection alone.
-/

namespace LiveScene.Graph

/-! ## What links leave alone -/

theorem exists_detach_eq (g : Graph) (parent child : NodeId) :
    ∃ objects parents, (g.detach parent child).1 = { g with objects, parents } := by
  unfold detach
  split
  next => exact ⟨_, _, rfl⟩
  next =>
    split
    next => exact ⟨_, _, rfl⟩
    next =>
      split
      next => exact ⟨_, _, rfl⟩
      next =>
        dsimp only
        split <;> split <;> first | exact ⟨_, _, rfl⟩ | (split <;> exact ⟨_, _, rfl⟩)

theorem exists_unlink_eq (g : Graph) (child : NodeId) :
    ∃ objects parents, g.unlink child = { g with objects, parents } := by
  unfold unlink
  split
  next => exact ⟨_, _, rfl⟩
  next parent _ =>
    obtain ⟨objects, parents, hsame⟩ := g.exists_detach_eq parent child
    split
    next heq =>
      rw [heq] at hsame
      exact ⟨objects, parents, hsame⟩
    next heq =>
      rw [heq] at hsame
      dsimp only at hsame
      rw [hsame]
      exact ⟨_, _, rfl⟩

/-- Linking changes objects, parents and mounted scenes, and nothing else. -/
theorem exists_attach_eq (g : Graph) (parent child : NodeId) :
    ∃ objects parents scenes,
      (g.attach parent child).1 = { g with objects, parents, scenes } := by
  obtain ⟨objects, parents, hunlink⟩ := g.exists_unlink_eq child
  unfold attach
  split
  next => exact ⟨_, _, _, rfl⟩
  next =>
    split
    next => exact ⟨_, _, _, rfl⟩
    next =>
      split
      next => exact ⟨_, _, _, rfl⟩
      next =>
        split
        next =>
          unfold attachToNode
          split
          next => exact ⟨_, _, _, rfl⟩
          next =>
            split
            next => exact ⟨_, _, _, rfl⟩
            next =>
              rw [hunlink]
              dsimp only
              split <;> split <;> exact ⟨_, _, _, rfl⟩
        next =>
          split
          next => exact ⟨_, _, _, rfl⟩
          next =>
            unfold attachToSlot
            rw [hunlink]
            dsimp only
            split
            next =>
              split
              next => split <;> exact ⟨_, _, _, rfl⟩
              next => exact ⟨_, _, _, rfl⟩
            next => exact ⟨_, _, _, rfl⟩

/-! ## The selection under the edits -/

/-- The selected id, if there is one, is that of a live camera. -/
def SelectsCamera (g : Graph) : Prop :=
  ∀ id, g.active = some id → ∃ kind, g.kind? id = some kind ∧ kind.isCamera = true

namespace SelectsCamera

variable {g g' : Graph} (hg : g.SelectsCamera)

include hg

/-- A selection that stays is one of a camera as long as no kind is lost. -/
theorem of_active_eq (hactive : g'.active = g.active)
    (hkind : ∀ id kind, g.kind? id = some kind → g'.kind? id = some kind) : g'.SelectsCamera := by
  intro id hid
  obtain ⟨kind, hfound, hcamera⟩ := hg id (hactive ▸ hid)
  exact ⟨kind, hkind id kind hfound, hcamera⟩

theorem touched {id : NodeId} (htouched : Touched g id g') : g'.SelectsCamera := by
  cases htouched with
  | select active hcamera =>
      cases active with
      | true =>
          intro other hother
          cases Option.some.inj hother
          exact hcamera rfl
      | false =>
          unfold select
          simp only [Bool.false_eq_true, if_false]
          split
          · intro other hother
            cases hother
          · exact hg
  | store => exact hg.of_active_eq rfl fun _ _ hkind => hkind
  | rebuild => exact hg.of_active_eq rfl fun _ _ hkind => hkind

theorem born {id : NodeId} {kind : Kind} (hborn : g.Born id kind g') (htables : g.TablesAgree) :
    g'.SelectsCamera := by
  obtain ⟨object, hentered⟩ := hborn.entered
  refine hg.of_active_eq hentered.active_eq fun other kind' hother => ?_
  have hne : id ≠ other := by
    rintro rfl
    rw [htables.kind?_eq, hentered.free] at hother
    cases hother
  rw [hentered.kind?_eq, if_neg hne]
  exact hother

theorem remove (id : NodeId) : (g.remove id).SelectsCamera := by
  cases hobject : g.object? id with
  | none =>
      simp only [Graph.remove, hobject]
      exact hg
  | some object =>
      intro other hother
      simp only [Graph.remove, hobject] at hother
      split at hother
      next => cases hother
      next hactive =>
        have hne : id ≠ other := by
          rintro rfl
          exact hactive hother
        rw [(g.lookups_remove id other hobject).1, if_neg hne]
        exact hg other hother

theorem apply (htables : g.TablesAgree) (op : Op) : (g.apply op).state.SelectsCamera := by
  cases op with
  | create id kind properties =>
      rcases g.create_cases id kind properties with ⟨issue, heq⟩ | ⟨g', hborn, heq⟩
      · simp only [Graph.apply, heq]
        exact hg
      · simp only [Graph.apply, heq]
        exact setProps_induction (fun _ _ hselects => hselects.touched) properties
          (hg.born hborn htables)
  | attach parent child =>
      obtain ⟨objects, parents, scenes, heq⟩ := g.exists_attach_eq parent child
      change (g.attach parent child).1.SelectsCamera
      rw [heq]
      exact hg.of_active_eq rfl fun _ _ hkind => hkind
  | detach parent child =>
      obtain ⟨objects, parents, heq⟩ := g.exists_detach_eq parent child
      change (g.detach parent child).1.SelectsCamera
      rw [heq]
      exact hg.of_active_eq rfl fun _ _ hkind => hkind
  | setProp id key value =>
      rcases g.setProp_cases id key value with ⟨issue, heq⟩ | ⟨htouched, -⟩
      · simp only [Graph.apply, heq]
        exact hg
      · exact hg.touched htouched
  | unsetProp id key =>
      rcases g.unsetProp_cases id key with ⟨issue, heq⟩ | ⟨htouched, -⟩
      · simp only [Graph.apply, heq]
        exact hg
      · exact hg.touched htouched
  | delete id =>
      rcases g.delete_cases id with ⟨issue, heq⟩ | ⟨-, -, heq⟩
      · simp only [Graph.apply, heq]
        exact hg
      · obtain ⟨objects, parents, hunlink⟩ := g.exists_unlink_eq id
        obtain ⟨parents', horphan, -⟩ :=
          (g.unlink id).orphan_spec id ((g.unlink id).dependents id)
        have horphaned : ((g.unlink id).orphan id ((g.unlink id).dependents id)).SelectsCamera := by
          rw [horphan, hunlink]
          exact hg.of_active_eq rfl fun _ _ hkind => hkind
        simp only [Graph.apply, heq]
        exact horphaned.remove id

end SelectsCamera

theorem Consistent.selectsCamera_exec {g : Graph} (hg : g.Consistent) (hselects : g.SelectsCamera)
    (command : Command) : (g.exec command).SelectsCamera := by
  cases command with
  | apply op => exact hselects.apply hg.toTablesAgree op
  | build tree =>
      have hbuilt : (g.buildTree tree).state.Consistent ∧ (g.buildTree tree).state.SelectsCamera :=
        buildTree_induction (P := fun g => g.Consistent ∧ g.SelectsCamera)
          (fun _ op h => ⟨h.1.apply op, h.2.apply h.1.toTablesAgree op⟩) tree ⟨hg, hselects⟩
      exact hbuilt.2
  | clear =>
      intro id hid
      cases hid
  | takeReleased => exact hselects.of_active_eq rfl fun _ _ hkind => hkind
  | fit aspect =>
      change (g.fitCamera aspect).state.SelectsCamera
      rcases g.fitCamera_cases aspect with heq | ⟨id, htouched⟩
      · rw [heq]
        exact hselects
      · exact hselects.touched htouched

theorem selectsCamera_run (commands : List Command) : (run commands).SelectsCamera := by
  have hrun : ∀ g : Graph, g.Consistent → g.SelectsCamera →
      (commands.foldl exec g).SelectsCamera := by
    induction commands with
    | nil => exact fun _ _ hselects => hselects
    | cons command rest ih =>
        exact fun g hg hselects =>
          ih (g.exec command) (hg.exec command) (hg.selectsCamera_exec hselects command)
  refine hrun empty consistent_empty fun id hid => ?_
  cases hid

/-- A selected id of a consistent graph belongs to a camera that can be looked through. -/
theorem Consistent.exists_camera? {g : Graph} (hg : g.Consistent) (hselects : g.SelectsCamera)
    {id : NodeId} (hactive : g.active = some id) :
    ∃ node camera, g.node? id = some node ∧ g.camera? id = some camera := by
  obtain ⟨kind, hkind, hcamera⟩ := hselects id hactive
  have hgeneric : kind.category = .generic := by
    cases kind <;> first | rfl | cases hcamera
  obtain ⟨node, hnode, rfl⟩ := hg.exists_node? hkind hgeneric
  obtain ⟨object, hobject, hbody⟩ := node?_eq_some_iff.mp hnode
  rcases object with ⟨name, body⟩
  cases body <;> cases hbody
  rcases node with ⟨_, _, _, _, _, role⟩
  cases role with
  | camera camera => exact ⟨_, camera, hnode, by rw [camera?, hobject]; rfl⟩
  | light light => rcases light with ⟨_ | _ | _, _, _⟩ <;> cases hcamera
  | _ => cases hcamera

end LiveScene.Graph
