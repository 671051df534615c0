import LiveScene.Proofs.Consistency

/-! # Links under the edits

On a consistent graph the recorded parent decides everything: a child is detached exactly from the
parent that is recorded for it, and taking it from there undoes the link on both ends. A child is
attached by taking it from where it was, emptying the slot it goes into, and making the new link.
-/

namespace LiveScene

/-- Whether nodes of a kind take children of another kind, into their list or into a slot. -/
def Kind.takes (parent child : Kind) : Bool :=
  parent.isSupported && child.isSupported &&
    if child.category = .generic then parent.category = .generic else parent = .mesh

theorem Kind.eq_mesh_of_takes {parent child : Kind} (htakes : parent.takes child = true)
    (hcategory : child.category ≠ .generic) : parent = .mesh := by
  simp only [takes, if_neg hcategory, Bool.and_eq_true, decide_eq_true_eq] at htakes
  exact htakes.2

theorem Kind.category_of_takes {parent child : Kind} (htakes : parent.takes child = true) :
    parent.category = .generic := by
  by_cases hcategory : child.category = .generic
  · simp only [takes, if_pos hcategory, Bool.and_eq_true, decide_eq_true_eq] at htakes
    exact htakes.2
  · rw [eq_mesh_of_takes htakes hcategory]
    rfl

namespace Graph

/-! ## Detaching -/

/-- A link that is recorded is there, and it is undone on both ends. -/
theorem Consistent.detach_of_parent? {g : Graph} (hg : g.Consistent) {parent child : NodeId}
    (hparent : g.parent? child = some parent) :
    ∃ node kind, g.node? parent = some node ∧ g.kind? child = some kind ∧
      node.Holds kind.category child ∧
      g.detach parent child =
        ((g.setNode parent (node.drop kind.category child)).setParent child none, .ok ()) := by
  obtain ⟨category, node, hnode, hheld⟩ := (hg.parent?_iff child parent).mp hparent
  obtain ⟨kind, hkind, rfl⟩ := hg.kind?_of_holds parent category child ⟨node, hnode, hheld⟩
  obtain ⟨object, hobject, hbody⟩ := node?_eq_some_iff.mp hnode
  refine ⟨node, kind, hnode, hkind, hheld, ?_⟩
  have hsame : ∀ node', (g.setNode parent node').parent? child = some parent := fun _ => hparent
  simp [detach, hg.kind?_eq parent, hobject, hkind, hbody, Node.unlink?, hheld, hsame]

/-- Nothing happens when another parent or none is recorded. -/
theorem Consistent.detach_of_parent?_ne {g : Graph} (hg : g.Consistent) {parent child : NodeId}
    (hparent : g.parent? child ≠ some parent) :
    ∃ issue, g.detach parent child = (g, .error issue) := by
  unfold detach
  cases hkind : g.kind? parent with
  | none => exact ⟨_, rfl⟩
  | some parentKind =>
      cases hchild : g.kind? child with
      | none => exact ⟨_, rfl⟩
      | some kind =>
          cases hobject : g.object? parent with
          | none => exact ⟨_, rfl⟩
          | some object =>
              have hunlinked : object.node?.bind (·.unlink? kind.category child) = none := by
                cases hbody : object.node? with
                | none => rfl
                | some node =>
                    have hnot : ¬node.Holds kind.category child := fun hheld =>
                      hparent ((hg.parent?_iff child parent).mpr
                        ⟨_, node, node?_eq_some_iff.mpr ⟨object, hobject, hbody⟩, hheld⟩)
                    simp [Node.unlink?, hnot]
              simp [hunlinked, hparent]

/-- What taking a child from its parent comes to. -/
theorem Consistent.unlink_cases {g : Graph} (hg : g.Consistent) (child : NodeId) :
    (g.parent? child = none ∧ g.unlink child = g) ∨
      ∃ parent node kind, g.parent? child = some parent ∧ g.node? parent = some node ∧
        g.kind? child = some kind ∧ node.Holds kind.category child ∧
        g.unlink child =
          (g.setNode parent (node.drop kind.category child)).setParent child none := by
  cases hparent : g.parent? child with
  | none => exact Or.inl ⟨rfl, by simp [unlink, hparent]⟩
  | some parent =>
      obtain ⟨node, kind, hnode, hkind, hheld, heq⟩ := hg.detach_of_parent? hparent
      exact Or.inr ⟨parent, node, kind, rfl, hnode, hkind, hheld, by simp [unlink, hparent, heq]⟩

/-- Nothing but the parent of a child was taken from the tables of kinds and parents. -/
structure Unlinked (g g' : Graph) (child : NodeId) : Prop where
  parent?_self : g'.parent? child = none
  parent?_other : ∀ id, id ≠ child → g'.parent? id = g.parent? id
  kind?_eq : ∀ id, g'.kind? id = g.kind? id

theorem Consistent.unlinked_unlink {g : Graph} (hg : g.Consistent) (child : NodeId) :
    Unlinked g (g.unlink child) child := by
  rcases hg.unlink_cases child with
    ⟨hnone, heq⟩ | ⟨parent, node, kind, -, hnode, hkind, -, heq⟩
  · rw [heq]
    exact ⟨hnone, fun _ _ => rfl, fun _ => rfl⟩
  · have htables := hg.setNode hnode (node.role_kind_drop kind.category child)
    have hlive : (g.kind? child).isSome := by
      rw [hkind]
      rfl
    have hparent := htables.parent?_setParent hlive none
    rw [heq]
    refine ⟨?_, fun id hne => ?_, fun _ => rfl⟩
    · rw [hparent, if_pos rfl]
    · rw [hparent, if_neg (Ne.symm hne)]
      rfl

theorem Consistent.unlink {g : Graph} (hg : g.Consistent) (child : NodeId) :
    (g.unlink child).Consistent := by
  rcases hg.unlink_cases child with ⟨-, heq⟩ | ⟨parent, node, kind, -, hnode, -, hheld, heq⟩
  · rw [heq]
    exact hg
  · rw [heq]
    exact hg.drop hnode hheld

/-- Taking a child away leaves no new links. -/
theorem Unlinked.parent?_imp {g g' : Graph} {child : NodeId} (h : Unlinked g g' child)
    (id above : NodeId) (habove : g'.parent? id = some above) : g.parent? id = some above := by
  by_cases heq : id = child
  · rw [heq, h.parent?_self] at habove
    cases habove
  · rwa [h.parent?_other id heq] at habove

/-! ## Attaching -/

theorem Consistent.unmount {g : Graph} (hg : g.Consistent) (scene : NodeId) :
    (g.unmount scene).Consistent :=
  { hg with
    acyclic := hg.acyclic.of_parent?_imp fun _ _ => id
    nodup_scenes := hg.nodup_scenes.filter _
    mounted := fun other hother => hg.mounted other (List.mem_of_mem_filter hother) }

/-- Only scenes are mounted, so that unmounting anything else changes nothing. -/
theorem Consistent.unmount_of_kind_ne {g : Graph} (hg : g.Consistent) {id : NodeId} {kind : Kind}
    (hkind : g.kind? id = some kind) (hscene : kind ≠ .scene) : g.unmount id = g := by
  have hother : ∀ scene ∈ g.scenes, decide (scene ≠ id) = true := by
    intro scene hmem
    refine decide_eq_true ?_
    rintro rfl
    have hmounted := (hg.mounted scene hmem).1
    rw [hkind, Option.some.injEq] at hmounted
    exact hscene hmounted
  rw [Graph.unmount, List.filter_eq_self.mpr hother]

/-- What holds something is a node, so it is of a generic kind. -/
theorem Consistent.category_parent {g : Graph} (hg : g.Consistent) {child parent : NodeId}
    (hparent : g.parent? child = some parent) :
    ∃ kind, g.kind? parent = some kind ∧ kind.category = .generic := by
  obtain ⟨category, node, hnode, -⟩ := (hg.parent?_iff child parent).mp hparent
  obtain ⟨object, hobject, hbody⟩ := node?_eq_some_iff.mp hnode
  refine ⟨object.kind, by rw [hg.kind?_eq, hobject]; rfl, ?_⟩
  rw [← object.isSome_node?_iff, hbody]
  rfl

/-- A live id of a generic kind is a node, of the kind that is recorded. -/
theorem TablesAgree.exists_node? {g : Graph} (hg : g.TablesAgree) {id : NodeId} {kind : Kind}
    (hkind : g.kind? id = some kind) (hgeneric : kind.category = .generic) :
    ∃ node, g.node? id = some node ∧ node.role.kind = kind := by
  rw [hg.kind?_eq, Option.map_eq_some_iff] at hkind
  obtain ⟨object, hobject, rfl⟩ := hkind
  obtain ⟨node, hbody⟩ := Option.isSome_iff_exists.mp (object.isSome_node?_iff.mpr hgeneric)
  refine ⟨node, node?_eq_some_iff.mpr ⟨object, hobject, hbody⟩, ?_⟩
  rcases object with ⟨name, body⟩
  cases body <;> cases hbody
  rfl

/-- A node is of a generic kind. -/
theorem TablesAgree.kind?_of_node? {g : Graph} (hg : g.TablesAgree) {id : NodeId} {node : Node}
    (hnode : g.node? id = some node) : g.kind? id = some node.role.kind := by
  obtain ⟨object, hobject, hbody⟩ := node?_eq_some_iff.mp hnode
  rw [hg.kind?_eq, hobject]
  rcases object with ⟨name, body⟩
  cases body <;> cases hbody
  rfl

/-- A graph in which a child is ready to be linked under a parent. -/
structure Ready (g : Graph) (parent child : NodeId) (node : Node) (kind : Kind) : Prop where
  consistent : g.Consistent
  node? : g.node? parent = some node
  kind? : g.kind? child = some kind
  room : kind.category = .generic ∨ node.isMesh = true ∧ node.slot? kind.category = none
  parentless : g.parent? child = none
  unmounted : child ∉ g.scenes
  avoids : ∀ n, g.ancestor? n parent ≠ some child

/-- The graph with a child linked under a parent, on both ends. -/
def link (g : Graph) (parent child : NodeId) (node : Node) (category : Category) : Graph :=
  (g.setNode parent (node.put category child)).setParent child (some parent)

theorem Ready.link {g : Graph} {parent child : NodeId} {node : Node} {kind : Kind}
    (h : g.Ready parent child node kind) :
    (g.link parent child node kind.category).Consistent :=
  h.consistent.put h.node? h.kind? h.room h.parentless h.unmounted h.avoids

/-- The chain above a parent avoids a child that was neither the parent nor one of its ancestors
before it was taken away. -/
theorem Unlinked.avoids {g g' : Graph} {parent child : NodeId} (h : Unlinked g g' child)
    (hne : parent ≠ child) (habove : ∀ n, g.ancestor? (n + 1) parent ≠ some child) (n : Nat) :
    g'.ancestor? n parent ≠ some child := by
  cases n with
  | zero => exact fun heq => hne (Option.some.inj heq)
  | succ n => exact fun hreach => habove n (ancestor?_of_parent?_imp h.parent?_imp hreach)

/-- A generic child is refused, or unlinked, unmounted and then linked. -/
theorem Consistent.attachToNode_cases {g : Graph} (hg : g.Consistent) {parent child : NodeId}
    {kind : Kind} (hkind : g.kind? child = some kind) (hgeneric : kind.category = .generic)
    (hne : parent ≠ child) :
    (∃ issue, g.attachToNode parent child kind = (g, .error issue)) ∨
      ∃ (g' : Graph) (node : Node), g'.Ready parent child node kind ∧
        g.attachToNode parent child kind = (g'.link parent child node kind.category, .ok ()) := by
  unfold attachToNode
  cases hnode : g.node? parent with
  | none => exact Or.inl ⟨_, rfl⟩
  | some old =>
      cases hancestor : g.isAncestor child parent with
      | true => exact Or.inl ⟨_, rfl⟩
      | false =>
          right
          let g' := if kind = .scene then (g.unlink child).unmount child else g.unlink child
          have hunlinked : Unlinked g g' child := by
            obtain ⟨hself, hother, hkinds⟩ := hg.unlinked_unlink child
            dsimp only [g']
            split <;> exact ⟨hself, hother, hkinds⟩
          have hconsistent : g'.Consistent := by
            dsimp only [g']
            split
            · exact (hg.unlink child).unmount child
            · exact hg.unlink child
          have hunmounted : child ∉ g'.scenes := by
            intro hmem
            -- Only scenes are mounted, and a scene has just been unmounted.
            have hscene := (hconsistent.mounted child hmem).1
            rw [hunlinked.kind?_eq, hkind, Option.some.injEq] at hscene
            simp [g', hscene, Graph.unmount] at hmem
          have hparentKind := hg.kind?_of_node? hnode
          rw [← hunlinked.kind?_eq] at hparentKind
          obtain ⟨node, hnode', -⟩ := hconsistent.exists_node? hparentKind old.role.category_kind
          refine ⟨g', node, ⟨hconsistent, hnode', ?_, Or.inl hgeneric, hunlinked.parent?_self,
            hunmounted, ?_⟩, ?_⟩
          · rw [hunlinked.kind?_eq, hkind]
          · exact hunlinked.avoids hne (ancestor?_ne_of_isAncestor_eq_false hancestor)
          · simp only [Bool.false_eq_true, if_false]
            rw [show (if kind = .scene then (g.unlink child).unmount child else g.unlink child) = g'
              from rfl, hnode', hgeneric]
            rfl

/-- The place of a geometry or a material is never on a chain of parents. -/
theorem Consistent.avoids_of_category_ne {g : Graph} (hg : g.Consistent) {parent child : NodeId}
    {kind : Kind} (hkind : g.kind? child = some kind) (hcategory : kind.category ≠ .generic)
    (hne : parent ≠ child) (n : Nat) : g.ancestor? n parent ≠ some child := by
  cases n with
  | zero => exact fun heq => hne (Option.some.inj heq)
  | succ n =>
      intro hreach
      rw [ancestor?_add, Option.bind_eq_some_iff] at hreach
      obtain ⟨below, -, hstep⟩ := hreach
      simp only [ancestor?, Option.bind_fun_some] at hstep
      obtain ⟨kind', hkind', hgeneric⟩ := hg.category_parent hstep
      rw [hkind, Option.some.injEq] at hkind'
      exact hcategory (hkind' ▸ hgeneric)

theorem Consistent.not_mounted_of_category_ne {g : Graph} (hg : g.Consistent) {id : NodeId}
    {kind : Kind} (hkind : g.kind? id = some kind) (hcategory : kind.category ≠ .generic) :
    id ∉ g.scenes := by
  intro hmem
  have hscene := (hg.mounted id hmem).1
  rw [hkind, Option.some.injEq] at hscene
  exact hcategory (by rw [hscene]; rfl)

/-- A geometry or a material always finds the slot of a mesh: it is unlinked, what was in the slot
before is unlinked too, and then it is linked. -/
theorem Consistent.attachToSlot_eq {g : Graph} (hg : g.Consistent) {parent child : NodeId}
    {kind : Kind} (hkind : g.kind? child = some kind) (hcategory : kind.category ≠ .generic)
    (hmesh : g.kind? parent = some .mesh) (hne : parent ≠ child) :
    ∃ (g' : Graph) (node : Node), g'.Ready parent child node kind ∧
      g.attachToSlot parent child kind.category =
        (g'.link parent child node kind.category, .ok ()) := by
  have hunlinked := hg.unlinked_unlink child
  have hconsistent := hg.unlink child
  have hkind₁ : (g.unlink child).kind? child = some kind := by rw [hunlinked.kind?_eq, hkind]
  have hmesh₁ : (g.unlink child).kind? parent = some .mesh := by rw [hunlinked.kind?_eq, hmesh]
  obtain ⟨node, hnode, hrole⟩ := hconsistent.exists_node? hmesh₁ rfl
  have hisMesh : node.isMesh = true := node.isMesh_iff.mpr hrole
  unfold attachToSlot
  simp only [hnode, Option.filter_some, hisMesh, if_true]
  cases hslot : node.slot? kind.category with
  | none =>
      refine ⟨g.unlink child, node, ⟨hconsistent, hnode, hkind₁, Or.inr ⟨hisMesh, hslot⟩,
        hunlinked.parent?_self, hconsistent.not_mounted_of_category_ne hkind₁ hcategory,
        hconsistent.avoids_of_category_ne hkind₁ hcategory hne⟩, ?_⟩
      rw [link, node.put_eq_setSlot hcategory]
  | some previous =>
      have hheld := (node.holds_iff_slot? hcategory previous).mpr hslot
      have hprevious : previous ≠ child := by
        rintro rfl
        have hparent := (hconsistent.parent?_iff previous parent).mpr ⟨_, node, hnode, hheld⟩
        rw [hunlinked.parent?_self] at hparent
        cases hparent
      -- The graph with the slot emptied, in which the child is ready to be linked.
      let emptied := node.drop kind.category previous
      let g' := ((g.unlink child).setNode parent emptied).setParent previous none
      have hemptied : g'.Consistent := hconsistent.drop hnode hheld
      have hnode' : g'.node? parent = some emptied := by
        obtain ⟨object, hobject, -⟩ := node?_eq_some_iff.mp hnode
        change ((g.unlink child).setNode parent emptied).node? parent = some emptied
        rw [node?_setNode, if_pos rfl, hobject]
        rfl
      have hroom : emptied.isMesh = true ∧ emptied.slot? kind.category = none := by
        dsimp only [emptied]
        rw [node.drop_eq_setSlot hcategory, Node.isMesh_setSlot,
          Node.slot?_setSlot hisMesh hcategory, if_pos rfl]
        exact ⟨hisMesh, rfl⟩
      have hparentless : g'.parent? child = none := by
        rw [Graph.parent?_setParent]
        split
        · rfl
        · exact hunlinked.parent?_self
      refine ⟨g', emptied, ⟨hemptied, hnode', hkind₁, Or.inr hroom, hparentless,
        hemptied.not_mounted_of_category_ne hkind₁ hcategory,
        hemptied.avoids_of_category_ne hkind₁ hcategory hne⟩, ?_⟩
      have hfilled : (g.unlink child).setNode parent (node.setSlot kind.category (some child)) =
          ((g.unlink child).setNode parent emptied).setNode parent
            (emptied.put kind.category child) := by
        rw [setNode_setNode, Node.put_eq_setSlot _ hcategory]
        dsimp only [emptied]
        rw [node.drop_eq_setSlot hcategory, Node.setSlot_setSlot]
      simp only [if_pos hprevious, hfilled]
      rfl

/-- Attaching changes nothing, or links a child that is ready. -/
theorem Consistent.attach_cases {g : Graph} (hg : g.Consistent) (parent child : NodeId) :
    (∃ issue, g.attach parent child = (g, .error issue)) ∨
      ∃ (g' : Graph) (node : Node) (kind : Kind), g'.Ready parent child node kind ∧
        g.attach parent child = (g'.link parent child node kind.category, .ok ()) := by
  unfold attach
  cases hparent : g.kind? parent with
  | none => exact Or.inl ⟨_, rfl⟩
  | some parentKind =>
      cases hchild : g.kind? child with
      | none => exact Or.inl ⟨_, rfl⟩
      | some kind =>
          by_cases hself : parent = child
          · exact Or.inl ⟨.invalidLink parent child .self, by simp only [if_pos hself]⟩
          by_cases hgeneric : kind.category = .generic
          · simp only [if_neg hself, if_pos hgeneric]
            rcases hg.attachToNode_cases hchild hgeneric hself with hrefused | ⟨g', node, hready, heq⟩
            · exact Or.inl hrefused
            · exact Or.inr ⟨g', node, kind, hready, heq⟩
          by_cases hmesh : parentKind = .mesh
          · subst hmesh
            obtain ⟨g', node, hready, heq⟩ := hg.attachToSlot_eq hchild hgeneric hparent hself
            refine Or.inr ⟨g', node, kind, hready, ?_⟩
            simpa [hself, hgeneric] using heq
          · refine Or.inl ⟨.invalidLink parent child .notAMesh, ?_⟩
            simp only [if_neg hself, if_neg hgeneric, if_pos hmesh]

theorem Consistent.attach {g : Graph} (hg : g.Consistent) (parent child : NodeId) :
    (g.attach parent child).1.Consistent := by
  rcases hg.attach_cases parent child with ⟨issue, heq⟩ | ⟨g', node, kind, hready, heq⟩
  · rw [heq]
    exact hg
  · rw [heq]
    exact hready.link

theorem Consistent.detach {g : Graph} (hg : g.Consistent) (parent child : NodeId) :
    (g.detach parent child).1.Consistent := by
  by_cases hparent : g.parent? child = some parent
  · obtain ⟨node, kind, hnode, -, hheld, heq⟩ := hg.detach_of_parent? hparent
    rw [heq]
    exact hg.drop hnode hheld
  · obtain ⟨issue, heq⟩ := hg.detach_of_parent?_ne hparent
    rw [heq]
    exact hg

/-! ## Attaching a child that has no parent -/

/-- A child is refused by a parent that does not take its kind. -/
theorem Consistent.attach_of_takes_eq_false {g : Graph} (hg : g.Consistent) {parent child : NodeId}
    (htakes : ∀ upper lower, g.kind? parent = some upper → g.kind? child = some lower →
      upper.takes lower = false) :
    ∃ issue, g.attach parent child = (g, .error issue) := by
  have hsupported : ∀ id kind, g.kind? id = some kind → kind.isSupported = true := by
    intro id kind hkind
    rw [hg.kind?_eq, Option.map_eq_some_iff] at hkind
    obtain ⟨object, -, rfl⟩ := hkind
    exact decide_eq_true object.body.kind_ne_unsupported
  unfold Graph.attach
  cases hupper : g.kind? parent with
  | none => exact ⟨_, rfl⟩
  | some upper =>
      cases hlower : g.kind? child with
      | none => exact ⟨_, rfl⟩
      | some lower =>
          have hnot := htakes upper lower hupper hlower
          simp only [Kind.takes, hsupported _ _ hupper, hsupported _ _ hlower, Bool.true_and] at hnot
          dsimp only
          split
          next => exact ⟨_, rfl⟩
          next =>
            split
            next hgeneric =>
              rw [if_pos hgeneric, decide_eq_false_iff_not] at hnot
              have hnode : g.node? parent = none := by
                cases hnode : g.node? parent with
                | none => rfl
                | some node =>
                    have hkind := hg.kind?_of_node? hnode
                    rw [hupper, Option.some.injEq] at hkind
                    exact absurd (hkind ▸ node.role.category_kind) hnot
              refine ⟨.invalidLink parent child .noChildren, ?_⟩
              simp only [attachToNode, hnode]
            next hspecial =>
              rw [if_neg hspecial, decide_eq_false_iff_not] at hnot
              refine ⟨.invalidLink parent child .notAMesh, ?_⟩
              simp only [ne_eq, hnot, not_false_eq_true, if_true]

section

variable {g : Graph} {parent child : NodeId} {node : Node} (hnode : g.node? parent = some node)
  (hfree : g.parent? child = none)

include hnode hfree

/-- Without a parent to leave, a generic child is only unmounted and put in. -/
theorem attachToNode_of_parent?_eq_none (hacyclic : g.isAncestor child parent = false)
    (kind : Kind) :
    ∃ parents scenes, (scenes = if kind = .scene then g.scenes.filter (· ≠ child) else g.scenes) ∧
      g.attachToNode parent child kind =
        ({ g.setNode parent (node.put .generic child) with parents, scenes }, .ok ()) := by
  have hunlink : g.unlink child = g := by simp only [unlink, hfree]
  simp only [attachToNode, hnode, hacyclic, hunlink, Bool.false_eq_true, if_false]
  split
  next =>
    have hnode' : (g.unmount child).node? parent = some node := hnode
    rw [hnode']
    exact ⟨_, _, rfl, rfl⟩
  next =>
    rw [hnode]
    exact ⟨_, _, rfl, rfl⟩

/-- Without a parent to leave, a geometry or a material only takes the slot. -/
theorem attachToSlot_of_parent?_eq_none (hmesh : node.isMesh = true) {category : Category}
    (hcategory : category ≠ .generic) :
    ∃ parents, g.attachToSlot parent child category =
      ({ g.setNode parent (node.put category child) with parents }, .ok ()) := by
  have hunlink : g.unlink child = g := by simp only [unlink, hfree]
  simp only [attachToSlot, hunlink, hnode, Option.filter_some, hmesh, if_true,
    node.put_eq_setSlot hcategory]
  split
  next => split <;> exact ⟨_, rfl⟩
  next => exact ⟨_, rfl⟩

end

/-- What becomes of a graph when a child without a parent is attached. -/
structure Attached (g : Graph) (parent child : NodeId) (node : Node) (category : Category)
    (g' : Graph) : Prop where
  kinds : g'.kinds = g.kinds
  node?_eq : ∀ id, g'.node? id =
    if parent = id then some (node.put category child) else g.node? id
  scenes : g'.scenes = g.scenes.filter (· ≠ child)

/-- A parent that takes the kind of a child takes the child, unless this would close a cycle. -/
theorem Consistent.attach_of_takes {g : Graph} (hg : g.Consistent) {parent child : NodeId}
    {upper lower : Kind} (hupper : g.kind? parent = some upper) (hlower : g.kind? child = some lower)
    (htakes : upper.takes lower = true) (hne : parent ≠ child) (hfree : g.parent? child = none)
    (hacyclic : g.isAncestor child parent = false) :
    ∃ node, g.node? parent = some node ∧
      g.Attached parent child node lower.category (g.attach parent child).1 ∧
      (g.attach parent child).2 = .ok () := by
  obtain ⟨node, hnode, hrole⟩ := hg.exists_node? hupper (Kind.category_of_takes htakes)
  obtain ⟨object, hobject, -⟩ := node?_eq_some_iff.mp hnode
  have hput : ∀ node' id, (g.setNode parent node').node? id =
      if parent = id then some node' else g.node? id := by
    intro node' id
    rw [node?_setNode]
    split
    next heq => rw [← heq, hobject]; rfl
    next => rfl
  have hunmounted : lower ≠ .scene → g.scenes = g.scenes.filter (· ≠ child) := fun hscene =>
    congrArg Graph.scenes (hg.unmount_of_kind_ne hlower hscene).symm
  refine ⟨node, hnode, ?_⟩
  simp only [Graph.attach, hupper, hlower, if_neg hne]
  by_cases hgeneric : lower.category = .generic
  · obtain ⟨parents, scenes, hscenes, heq⟩ :=
      attachToNode_of_parent?_eq_none hnode hfree hacyclic lower
    rw [if_pos hgeneric, heq, hgeneric]
    refine ⟨⟨rfl, hput _, ?_⟩, rfl⟩
    rw [hscenes]
    split
    next => rfl
    next hscene => exact hunmounted hscene
  · cases Kind.eq_mesh_of_takes htakes hgeneric
    obtain ⟨parents, heq⟩ :=
      attachToSlot_of_parent?_eq_none hnode hfree (node.isMesh_iff.mpr hrole) hgeneric
    simp only [if_neg hgeneric, ne_eq, not_true_eq_false, if_false, heq]
    refine ⟨⟨rfl, hput _, hunmounted ?_⟩, trivial⟩
    rintro rfl
    exact hgeneric rfl

end Graph

end LiveScene
