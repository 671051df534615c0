import LiveScene.Proofs.Traversal
import LiveScene.Proofs.WellFormed

/-! # Places in the world

Where a node stands in the world is computed in two ways: a frame multiplies matrices on its way down
the lists of children, and a single node is placed by going up the recorded parents, of which a bounded
number is looked at. Both take the matrices of the same chain in the same order, as long as the chain
is not longer than the bound; only the order of the multiplications differs.
-/

namespace LiveScene

namespace Mat4

/-- A product of matrices that begins with the first of them, starting from the identity. -/
def productLeft (matrices : List Mat4) : Mat4 :=
  matrices.foldl (· * ·) identity

/-- A product of matrices that begins with the last two of them. -/
def productRight : List Mat4 → Mat4
  | [] => identity
  | [matrix] => matrix
  | matrix :: next :: rest => matrix * productRight (next :: rest)

theorem productRight_append_singleton (matrices : List Mat4) (last : Mat4) :
    productRight (matrices ++ [last]) = matrices.foldr (· * ·) last := by
  induction matrices with
  | nil => rfl
  | cons matrix rest ih =>
      rw [List.foldr_cons, ← ih]
      cases rest <;> rfl

end Mat4

namespace Graph

/-- The recorded ancestors of an id, from its parent up to one without a parent. -/
inductive Lineage (g : Graph) : NodeId → List NodeId → Prop
  | root {id : NodeId} (hparent : g.parent? id = none) : Lineage g id []
  | under {id parent : NodeId} {ancestors : List NodeId} (hparent : g.parent? id = some parent)
      (habove : Lineage g parent ancestors) : Lineage g id (parent :: ancestors)

variable {g : Graph}

theorem Lineage.unique {id : NodeId} {ancestors others : List NodeId} (h : g.Lineage id ancestors)
    (hothers : g.Lineage id others) : ancestors = others := by
  induction h generalizing others with
  | root hparent =>
      cases hothers with
      | root => rfl
      | under hparent' => cases hparent.symm.trans hparent'
  | under hparent _ ih =>
      cases hothers with
      | root hparent' => cases hparent.symm.trans hparent'
      | under hparent' habove =>
          cases hparent.symm.trans hparent'
          rw [ih habove]

/-- A chain of parents that ends can be listed. -/
theorem exists_lineage {count : Nat} {id : NodeId} (hend : g.ancestor? count id = none) :
    ∃ ancestors, g.Lineage id ancestors := by
  induction count generalizing id with
  | zero => cases hend
  | succ count ih =>
      cases hparent : g.parent? id with
      | none => exact ⟨[], .root hparent⟩
      | some parent =>
          rw [ancestor?, hparent, Option.bind_some] at hend
          obtain ⟨ancestors, habove⟩ := ih hend
          exact ⟨parent :: ancestors, .under hparent habove⟩

/-- The matrix of a node relative to its parent. -/
def placement (g : Graph) (id : NodeId) : Mat4 :=
  ((g.node? id).map fun node => node.transform.toMatrix).getD Mat4.identity

/-- The matrices of a chain that begins with the lowest id, from the highest down. -/
def factors (g : Graph) (chain : List NodeId) : List Mat4 :=
  chain.reverse.map g.placement

theorem placement_eq {id : NodeId} {node : Node} (hnode : g.node? id = some node) :
    g.placement id = node.transform.toMatrix := by
  rw [placement, hnode]
  rfl

theorem factors_cons (g : Graph) (id : NodeId) (chain : List NodeId) :
    g.factors (id :: chain) = g.factors chain ++ [g.placement id] := by
  rw [factors, List.reverse_cons, List.map_append]
  rfl

/-- Looking at a bounded number of ancestors misses factors exactly when there are more. -/
theorem factors_take_eq_iff (g : Graph) (id : NodeId) (ancestors : List NodeId) (bound : Nat) :
    g.factors (id :: ancestors.take bound) = g.factors (id :: ancestors) ↔
      ancestors.length ≤ bound := by
  constructor
  · intro heq
    have hlength := congrArg List.length heq
    simp only [factors, List.length_map, List.length_reverse, List.length_cons,
      List.length_take] at hlength
    omega
  · intro hle
    rw [List.take_of_length_le hle]

/-! ## Upward -/

/-- Only nodes hold anything, so all that stands above an id are nodes. -/
theorem Consistent.node?_of_lineage (hg : g.Consistent) {id : NodeId} {ancestors : List NodeId}
    (h : g.Lineage id ancestors) : ∀ other ∈ ancestors, (g.node? other).isSome := by
  induction h with
  | root => simp
  | under hparent _ ih =>
      intro other hother
      rcases List.mem_cons.mp hother with rfl | hother
      · obtain ⟨category, node, hnode, -⟩ := (hg.parent?_iff _ _).mp hparent
        rw [hnode]
        rfl
      · exact ih other hother

/-- Going up a chain multiplies by its matrices from the left, as many as are looked at. -/
theorem Lineage.composeUp_eq {id : NodeId} {ancestors : List NodeId} (h : g.Lineage id ancestors)
    (hnodes : ∀ other ∈ ancestors, (g.node? other).isSome) (depth : Nat) (matrix : Mat4) :
    g.composeUp depth (g.parent? id) matrix =
      (g.factors (ancestors.take depth)).foldr (· * ·) matrix := by
  induction h generalizing depth matrix with
  | root hparent =>
      rw [hparent]
      cases depth <;> rfl
  | @under id parent ancestors hparent _ ih =>
      cases depth with
      | zero => rfl
      | succ depth =>
          obtain ⟨node, hnode⟩ := Option.isSome_iff_exists.mp (hnodes parent List.mem_cons_self)
          have habove : ∀ other ∈ ancestors, (g.node? other).isSome := fun other hother =>
            hnodes other (List.mem_cons_of_mem parent hother)
          rw [hparent, List.take_succ_cons, factors_cons, List.foldr_append, placement_eq hnode,
            composeUp, hnode]
          exact ih habove depth _

/-- What a node is placed by: the ancestors recorded for it, all of them nodes, the first 4097 of which
are looked at. -/
structure PlacedBy (g : Graph) (id : NodeId) (ancestors : List NodeId) : Prop where
  lineage_iff : ∀ chain, g.Lineage id chain ↔ chain = ancestors
  nodes : ∀ other ∈ id :: ancestors, (g.node? other).isSome
  worldMatrix?_eq : g.worldMatrix? id =
    some (Mat4.productRight (g.factors (id :: ancestors.take 4097)))

theorem Consistent.placedBy (hg : g.Consistent) {id : NodeId} {node : Node}
    (hnode : g.node? id = some node) {ancestors : List NodeId} (h : g.Lineage id ancestors) :
    g.PlacedBy id ancestors := by
  have habove := hg.node?_of_lineage h
  refine ⟨fun chain => ⟨fun hchain => hchain.unique h, ?_⟩, fun other hother => ?_, ?_⟩
  · rintro rfl
    exact h
  · rcases List.mem_cons.mp hother with rfl | hother
    · rw [hnode]
      rfl
    · exact habove other hother
  · rw [worldMatrix?, hnode, Option.map_some, h.composeUp_eq habove, factors_cons,
      Mat4.productRight_append_singleton, placement_eq hnode]
    rfl

theorem Consistent.exists_placedBy (hg : g.Consistent) {id : NodeId} {node : Node}
    (hnode : g.node? id = some node) : ∃ ancestors, g.PlacedBy id ancestors := by
  obtain ⟨object, hobject, -⟩ := node?_eq_some_iff.mp hnode
  obtain ⟨ancestors, h⟩ := exists_lineage (hg.chain_ends (by rw [hobject]; rfl))
  exact ⟨ancestors, hg.placedBy hnode h⟩

/-! ## Downward -/

/-- What is met below some ids has these and what is above them as its ancestors, and is handed out
with the product along them. -/
theorem Preorder.world_eq (hg : g.Consistent) {world : Mat4} {ids : List NodeId}
    {visits : List Visit} (h : g.Preorder world ids visits) {above : List NodeId}
    (habove : ∀ id ∈ ids, g.Lineage id above)
    (htop : ∀ id ∈ ids, ∃ scene ∈ g.scenes, (id :: above).getLast? = some scene)
    (hworld : world = Mat4.productLeft (g.factors above)) :
    ∀ visit ∈ visits, ∃ ancestors, g.Lineage visit.id ancestors ∧
      (∃ scene ∈ g.scenes, (visit.id :: ancestors).getLast? = some scene) ∧
      visit.world = Mat4.productLeft (g.factors (visit.id :: ancestors)) := by
  induction h generalizing above with
  | nil => simp
  | hidden _ _ ih =>
      exact ih (fun id hid => habove id (List.mem_cons_of_mem _ hid))
        (fun id hid => htop id (List.mem_cons_of_mem _ hid)) hworld
  | @shown world id node rest below after hnode hvisible _ _ ihbelow ihafter =>
      have hid := habove id List.mem_cons_self
      have hscene := htop id List.mem_cons_self
      have hproduct : world * node.transform.toMatrix =
          Mat4.productLeft (g.factors (id :: above)) := by
        rw [factors_cons, Mat4.productLeft, List.foldl_append, hworld, placement_eq hnode]
        rfl
      intro visit hvisit
      rcases List.mem_cons.mp hvisit with rfl | hvisit
      · exact ⟨above, hid, hscene, hproduct⟩
      · rcases List.mem_append.mp hvisit with hbelow | hafter
        · have hchildren : ∀ child ∈ node.children, g.Lineage child (id :: above) := by
            intro child hchild
            exact .under ((hg.parent?_iff child id).mpr ⟨.generic, node, hnode, hchild⟩) hid
          refine ihbelow hchildren (fun child _ => ?_) hproduct visit hbelow
          rw [List.getLast?_cons_cons]
          exact hscene
        · exact ihafter (fun other hother => habove other (List.mem_cons_of_mem _ hother))
            (fun other hother => htop other (List.mem_cons_of_mem _ hother)) hworld visit hafter

/-- The placement in the world that a frame hands out and the one that is computed for a single node
are products of the same chain of matrices, if the chain is not too long. -/
theorem placements_agree (commands : List Command) :
    let g := run commands
    (∀ visit ∈ g.visits.1, ∃ ancestors, g.PlacedBy visit.id ancestors ∧
      (∃ scene ∈ g.scenes, (visit.id :: ancestors).getLast? = some scene) ∧
      visit.world = Mat4.productLeft (g.factors (visit.id :: ancestors)) ∧
      (g.factors (visit.id :: ancestors.take 4097) = g.factors (visit.id :: ancestors) ↔
        ancestors.length ≤ 4097)) ∧
      (∀ id node, g.node? id = some node → ∃ ancestors, g.PlacedBy id ancestors) ∧
      ∀ id, g.worldMatrix? id = none ↔ g.node? id = none := by
  intro g
  have hg : g.Consistent := consistent_run commands
  refine ⟨fun visit hvisit => ?_, fun id node hnode => hg.exists_placedBy hnode, fun id => ?_⟩
  · obtain ⟨visits, hvisits, hpreorder, -⟩ := hg.exists_visits
    rw [hvisits] at hvisit
    obtain ⟨ancestors, hlineage, hscene, hworld⟩ := hpreorder.world_eq hg
      (fun id hid => .root (hg.mounted id hid).2) (fun id hid => ⟨id, hid, rfl⟩) rfl visit hvisit
    have hplaced := hg.placedBy (hpreorder.node?_eq visit hvisit) hlineage
    exact ⟨ancestors, hplaced, hscene, hworld, g.factors_take_eq_iff visit.id ancestors 4097⟩
  · rw [worldMatrix?, Option.map_eq_none_iff]

/-- A mesh in a group in a scene is placed by both. -/
theorem placements_agree_nested :
    let g := run [.apply (.create ⟨1⟩ .scene []),
      .apply (.create ⟨2⟩ .group [("position", .vec3 1 0 0)]), .apply (.attach ⟨1⟩ ⟨2⟩),
      .apply (.create ⟨3⟩ .mesh [("position", .vec3 0 2 0)]), .apply (.attach ⟨2⟩ ⟨3⟩)]
    ∃ visit ∈ g.visits.1, visit.id = ⟨3⟩ ∧ ⟨1⟩ ∈ g.scenes ∧
      visit.world = ((Mat4.identity * g.placement ⟨1⟩) * g.placement ⟨2⟩) * g.placement ⟨3⟩ ∧
      g.worldMatrix? ⟨3⟩ = some (g.placement ⟨1⟩ * (g.placement ⟨2⟩ * g.placement ⟨3⟩)) := by
  intro g
  have hids : g.visits.1.map Visit.id = [⟨1⟩, ⟨2⟩, ⟨3⟩] := rfl
  have hmem : (⟨3⟩ : NodeId) ∈ g.visits.1.map Visit.id := by
    rw [hids]
    decide
  obtain ⟨visit, hvisit, hid⟩ := List.mem_map.mp hmem
  obtain ⟨ancestors, hplaced, ⟨scene, hscene, hlast⟩, hworld, -⟩ :=
    (placements_agree _).1 visit hvisit
  have hlineage : g.Lineage ⟨3⟩ [⟨2⟩, ⟨1⟩] := .under rfl (.under rfl (.root rfl))
  rw [hid] at hplaced hlast hworld
  obtain rfl := (hplaced.lineage_iff _).mp hlineage
  cases hlast
  exact ⟨visit, hvisit, hid, hscene, hworld, hplaced.worldMatrix?_eq⟩

end Graph

end LiveScene
