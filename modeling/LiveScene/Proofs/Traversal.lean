import LiveScene.Proofs.Handles
import LiveScene.Proofs.Selection
import LiveScene.View.Frame
import Mathlib.Data.List.Perm.Subperm

/-! # What a frame shows

A frame is collected by a walk with a stack and a budget. Seen from outside, the walk is the
depth-first pre-order of the trees under the mounted scenes, without what is hidden. The budget is as
large as the graph, and that is enough: children have one parent, so no id comes onto the stack twice.
-/

namespace LiveScene

theorem forall₂_filter_filterMap {α β : Type} {R : α → β → Prop} {p : α → Bool} {f : α → Option β}
    {xs : List α} (hsome : ∀ x ∈ xs, p x = true → ∃ y, f x = some y ∧ R x y)
    (hnone : ∀ x ∈ xs, p x = false → f x = none) :
    List.Forall₂ R (xs.filter p) (xs.filterMap f) := by
  induction xs with
  | nil => exact .nil
  | cons x rest ih =>
      have hrest := ih (fun y hy => hsome y (List.mem_cons_of_mem x hy))
        fun y hy => hnone y (List.mem_cons_of_mem x hy)
      cases hx : p x with
      | true =>
          obtain ⟨y, hy, hrelated⟩ := hsome x List.mem_cons_self hx
          rw [List.filter_cons_of_pos hx, List.filterMap_cons_some hy]
          exact .cons hrelated hrest
      | false =>
          rw [List.filter_cons_of_neg (by simp [hx]),
            List.filterMap_cons_none (hnone x List.mem_cons_self hx)]
          exact hrest

namespace Graph

/-! ## Visible nodes and their order -/

/-- An id is seen from another if it is that id or lies below it by lists of children, and everything
on the way, both ends included, is visible. -/
inductive Sees (g : Graph) : NodeId → NodeId → Prop
  | self {id : NodeId} {node : Node} (hnode : g.node? id = some node)
      (hvisible : node.visible = true) : Sees g id id
  | under {id child target : NodeId} {node : Node} (hnode : g.node? id = some node)
      (hvisible : node.visible = true) (hchild : child ∈ node.children)
      (hsees : Sees g child target) : Sees g id target

/-- The visible nodes at and below some ids in depth-first pre-order, each with its placement in the
world: a node comes before everything below it, and that before the node's later siblings. -/
inductive Preorder (g : Graph) : Mat4 → List NodeId → List Visit → Prop
  | nil (world : Mat4) : Preorder g world [] []
  | hidden {world : Mat4} {id : NodeId} {rest : List NodeId} {visits : List Visit}
      (hhidden : ∀ node, g.node? id = some node → node.visible = false)
      (hrest : Preorder g world rest visits) : Preorder g world (id :: rest) visits
  | shown {world : Mat4} {id : NodeId} {node : Node} {rest : List NodeId}
      {below after : List Visit} (hnode : g.node? id = some node) (hvisible : node.visible = true)
      (hbelow : Preorder g (world * node.transform.toMatrix) node.children below)
      (hafter : Preorder g world rest after) :
      Preorder g world (id :: rest) (⟨id, node, world * node.transform.toMatrix⟩ :: (below ++ after))

variable {g : Graph}

theorem sees_iff_of_visible {id : NodeId} {node : Node} (hnode : g.node? id = some node)
    (hvisible : node.visible = true) (target : NodeId) :
    g.Sees id target ↔ target = id ∨ ∃ child ∈ node.children, g.Sees child target := by
  constructor
  · intro hsees
    cases hsees with
    | self => exact Or.inl rfl
    | under hnode' _ hchild hsees =>
        cases hnode.symm.trans hnode'
        exact Or.inr ⟨_, hchild, hsees⟩
  · rintro (rfl | ⟨child, hchild, hsees⟩)
    · exact .self hnode hvisible
    · exact .under hnode hvisible hchild hsees

theorem not_sees_of_hidden {id : NodeId}
    (hhidden : ∀ node, g.node? id = some node → node.visible = false) (target : NodeId) :
    ¬g.Sees id target := by
  intro hsees
  cases hsees with
  | self hnode hvisible => exact absurd hvisible (by simp [hhidden _ hnode])
  | under hnode hvisible _ _ => exact absurd hvisible (by simp [hhidden _ hnode])

/-- The pre-order of some ids has what is seen from one of them. -/
theorem Preorder.mem_iff {world : Mat4} {ids : List NodeId} {visits : List Visit}
    (h : g.Preorder world ids visits) (target : NodeId) :
    target ∈ visits.map Visit.id ↔ ∃ id ∈ ids, g.Sees id target := by
  induction h with
  | nil => simp
  | hidden hhidden _ ih =>
      simp only [ih, List.mem_cons, exists_eq_or_imp, not_sees_of_hidden hhidden, false_or]
  | shown hnode hvisible _ _ ihbelow ihafter =>
      simp only [List.map_cons, List.map_append, List.mem_cons, List.mem_append, exists_eq_or_imp,
        sees_iff_of_visible hnode hvisible, ihbelow, ihafter, or_assoc]

theorem Preorder.node?_eq {world : Mat4} {ids : List NodeId} {visits : List Visit}
    (h : g.Preorder world ids visits) : ∀ visit ∈ visits, g.node? visit.id = some visit.node := by
  induction h with
  | nil => simp
  | hidden _ _ ih => exact ih
  | shown hnode _ _ _ ihbelow ihafter =>
      intro visit hvisit
      rcases List.mem_cons.mp hvisit with rfl | hrest
      · exact hnode
      · exact (List.mem_append.mp hrest).elim (ihbelow visit) (ihafter visit)

/-! ## The walk -/

theorem walk_of_visible {id : NodeId} {node : Node} (hnode : g.node? id = some node)
    (hvisible : node.visible = true) (budget : Nat) (world : Mat4) (rest : List (NodeId × Mat4)) :
    g.walk (budget + 1) ((id, world) :: rest) =
      (⟨id, node, world * node.transform.toMatrix⟩ ::
          (g.walk budget (node.children.map (·, world * node.transform.toMatrix) ++ rest)).1,
        (g.walk budget (node.children.map (·, world * node.transform.toMatrix) ++ rest)).2) := by
  simp [walk, hnode, hvisible]

theorem walk_of_hidden {id : NodeId}
    (hhidden : ∀ node, g.node? id = some node → node.visible = false) (budget : Nat)
    (world : Mat4) (rest : List (NodeId × Mat4)) :
    g.walk (budget + 1) ((id, world) :: rest) = g.walk budget rest := by
  cases hnode : g.node? id with
  | none => simp [walk, hnode]
  | some node => simp [walk, hnode, hhidden node hnode]

/-- An id belongs to a visible node, or is passed over. -/
theorem visible_or_hidden (g : Graph) (id : NodeId) :
    (∃ node, g.node? id = some node ∧ node.visible = true) ∨
      ∀ node, g.node? id = some node → node.visible = false := by
  by_cases hvisible : ∃ node, g.node? id = some node ∧ node.visible = true
  · exact Or.inl hvisible
  · exact Or.inr fun node hnode =>
      Bool.eq_false_iff.mpr fun htrue => hvisible ⟨node, hnode, htrue⟩

/-- A walk that is not cut off makes the pre-order of the entries on top of its stack before it goes
on with the others. -/
theorem exists_preorder_of_walk {budget : Nat} {ids : List NodeId} {world : Mat4}
    {rest : List (NodeId × Mat4)} {visits : List Visit}
    (hwalk : g.walk budget (ids.map (·, world) ++ rest) = (visits, false)) :
    ∃ remaining front back, visits = front ++ back ∧ g.Preorder world ids front ∧
      g.walk remaining rest = (back, false) ∧ remaining ≤ budget := by
  -- The entries below a node use up budget before its siblings come, so the induction is on all
  -- smaller budgets.
  induction budget using Nat.strong_induction_on generalizing ids world rest visits with
  | _ budget ih =>
    cases ids with
    | nil => exact ⟨budget, [], visits, rfl, .nil world, hwalk, Nat.le_refl _⟩
    | cons id siblings =>
        cases budget with
        | zero => simp [walk] at hwalk
        | succ budget =>
            rw [List.map_cons, List.cons_append] at hwalk
            rcases g.visible_or_hidden id with ⟨node, hnode, hvisible⟩ | hhidden
            · rw [walk_of_visible hnode hvisible] at hwalk
              generalize hrest : g.walk budget _ = walked at hwalk
              obtain ⟨later, cut⟩ := walked
              cases hwalk
              obtain ⟨left, below, later, rfl, hpreorder, hlater, hle⟩ :=
                ih budget (Nat.lt_succ_self _) hrest
              obtain ⟨remaining, after, back, rfl, hpreorder', hback, hle'⟩ :=
                ih left (Nat.lt_succ_of_le hle) hlater
              exact ⟨remaining, _, back, by simp, .shown hnode hvisible hpreorder hpreorder', hback,
                (hle'.trans hle).trans (Nat.le_succ _)⟩
            · rw [walk_of_hidden hhidden] at hwalk
              obtain ⟨remaining, front, back, hvisits, hpreorder, hback, hle⟩ :=
                ih budget (Nat.lt_succ_self _) hwalk
              exact ⟨remaining, front, back, hvisits, .hidden hhidden hpreorder, hback,
                hle.trans (Nat.le_succ _)⟩

/-- What a walk knows of the ids it has taken off its stack and of those that are still on it. -/
structure Underway (g : Graph) (walked waiting : List NodeId) : Prop where
  nodup : (walked ++ waiting).Nodup
  live : ∀ id ∈ walked ++ waiting, id ∈ g.ids
  parent_walked : ∀ id ∈ walked ++ waiting, ∀ parent, g.parent? id = some parent → parent ∈ walked

namespace Underway

variable {walked waiting : List NodeId} {id : NodeId}

theorem mem_step_iff (other : NodeId) :
    other ∈ (id :: walked) ++ waiting ↔ other ∈ walked ++ id :: waiting := by
  simp only [List.cons_append, List.mem_cons, List.mem_append]
  exact or_left_comm

theorem hide (h : g.Underway walked (id :: waiting)) : g.Underway (id :: walked) waiting where
  nodup := List.nodup_middle.mp h.nodup
  live other hother := h.live other ((mem_step_iff other).mp hother)
  parent_walked other hother parent hparent := List.mem_cons_of_mem id
    (h.parent_walked other ((mem_step_iff other).mp hother) parent hparent)

/-- The children of a node that is taken off come onto the stack for the first time. -/
theorem expand (h : g.Underway walked (id :: waiting)) (hg : g.Consistent) {node : Node}
    (hnode : g.node? id = some node) : g.Underway (id :: walked) (node.children ++ waiting) := by
  have hparent : ∀ child ∈ node.children, g.parent? child = some id := fun child hchild =>
    (hg.parent?_iff child id).mpr ⟨.generic, node, hnode, hchild⟩
  have hid : id ∉ walked := fun hmem =>
    List.disjoint_of_nodup_append h.nodup hmem List.mem_cons_self
  have hhidden := h.hide
  -- A child that was met before would have had its parent walked before.
  have hfresh : ∀ child ∈ node.children, child ∉ walked ++ id :: waiting :=
    fun child hchild hmem => hid (h.parent_walked child hmem id (hparent child hchild))
  have hmem : ∀ other, other ∈ (id :: walked) ++ (node.children ++ waiting) ↔
      other ∈ node.children ∨ other ∈ (id :: walked) ++ waiting := by
    intro other
    simp only [List.mem_append]
    exact or_left_comm
  refine ⟨?_, fun other hother => ?_, fun other hother parent hfound => ?_⟩
  · have hperm : ((id :: walked) ++ (node.children ++ waiting)).Perm
        (node.children ++ ((id :: walked) ++ waiting)) := by
      rw [← List.append_assoc, ← List.append_assoc]
      exact List.perm_append_comm.append_right waiting
    rw [hperm.nodup_iff, List.nodup_append]
    refine ⟨hg.nodup_children id node hnode, hhidden.nodup, fun child hchild other hother heq => ?_⟩
    exact hfresh child hchild ((mem_step_iff child).mp (heq ▸ hother))
  · rcases (hmem other).mp hother with hchild | hold
    · rw [mem_ids_iff, ← hg.isSome_kind?]
      have hheld : g.Holds id .generic other := ⟨node, hnode, hchild⟩
      exact hg.isSome_kind?_of_holds hheld
    · exact hhidden.live other hold
  · rcases (hmem other).mp hother with hchild | hold
    · rw [hparent other hchild, Option.some.injEq] at hfound
      exact hfound ▸ List.mem_cons_self
    · exact hhidden.parent_walked other hold parent hfound

theorem length_le (h : g.Underway walked waiting) : walked.length + waiting.length ≤ g.size := by
  have hsubperm := List.subperm_of_subset h.nodup h.live
  have hlength := hsubperm.length_le
  rw [List.length_append, ids, Std.ExtTreeMap.length_keys] at hlength
  exact hlength

end Underway

/-- A walk with as much budget as there are ids it has not met is not cut off, and comes to no id a
second time. -/
theorem Consistent.walk_complete (hg : g.Consistent) {budget : Nat}
    {stack : List (NodeId × Mat4)} {walked : List NodeId}
    (hunderway : g.Underway walked (stack.map Prod.fst))
    (hbudget : walked.length + budget = g.size) :
    (g.walk budget stack).2 = false ∧ ((g.walk budget stack).1.map Visit.id).Nodup ∧
      ∀ visit ∈ (g.walk budget stack).1, visit.id ∉ walked := by
  induction budget generalizing stack walked with
  | zero =>
      cases stack with
      | nil => simp [walk]
      | cons entry rest =>
          have hlength := hunderway.length_le
          rw [List.map_cons, List.length_cons] at hlength
          omega
  | succ budget ih =>
      cases stack with
      | nil => simp [walk]
      | cons entry rest =>
          obtain ⟨id, world⟩ := entry
          have hbudget' : (id :: walked).length + budget = g.size := by
            rw [List.length_cons]
            omega
          rcases g.visible_or_hidden id with ⟨node, hnode, hvisible⟩ | hhidden
          · rw [walk_of_visible hnode hvisible]
            generalize world * node.transform.toMatrix = below
            have hstack : (node.children.map (·, below) ++ rest).map Prod.fst =
                node.children ++ rest.map Prod.fst := by simp [Function.comp_def]
            obtain ⟨hcut, hnodup, hnew⟩ := ih (hstack ▸ hunderway.expand hg hnode) hbudget'
            refine ⟨hcut, ?_, fun visit hvisit => ?_⟩
            · rw [List.map_cons, List.nodup_cons, List.mem_map]
              refine ⟨?_, hnodup⟩
              rintro ⟨visit, hvisit, heq⟩
              exact hnew visit hvisit (heq ▸ List.mem_cons_self)
            · rcases List.mem_cons.mp hvisit with rfl | hlater
              · exact fun hmem =>
                  List.disjoint_of_nodup_append hunderway.nodup hmem List.mem_cons_self
              · exact fun hmem => hnew visit hlater (List.mem_cons_of_mem id hmem)
          · rw [walk_of_hidden hhidden]
            obtain ⟨hcut, hnodup, hnew⟩ := ih hunderway.hide hbudget'
            exact ⟨hcut, hnodup, fun visit hvisit hmem =>
              hnew visit hvisit (List.mem_cons_of_mem id hmem)⟩

/-- The mounted scenes are walked to the end, in pre-order and without meeting an id twice. -/
theorem Consistent.exists_visits (hg : g.Consistent) :
    ∃ visits, g.visits = (visits, false) ∧ g.Preorder Mat4.identity g.scenes visits ∧
      (visits.map Visit.id).Nodup := by
  have hscenes : (g.scenes.map (·, Mat4.identity)).map Prod.fst = g.scenes := by
    simp [Function.comp_def]
  have hstart : g.Underway [] ((g.scenes.map (·, Mat4.identity)).map Prod.fst) := by
    rw [hscenes]
    refine ⟨hg.nodup_scenes, fun id hid => ?_, fun id hid parent hparent => ?_⟩
    · rw [mem_ids_iff, ← hg.isSome_kind?, (hg.mounted id hid).1]
      rfl
    · rw [(hg.mounted id hid).2] at hparent
      cases hparent
  obtain ⟨hcut, hnodup, -⟩ := hg.walk_complete hstart (Nat.zero_add g.size)
  have hwalk : g.walk g.size (g.scenes.map (·, Mat4.identity) ++ []) = (g.visits.1, false) := by
    rw [List.append_nil]
    exact Prod.ext rfl hcut
  obtain ⟨remaining, front, back, hvisits, hpreorder, hback, -⟩ := exists_preorder_of_walk hwalk
  have hnil : back = [] := by
    have hempty : g.walk remaining [] = ([], false) := by cases remaining <;> rfl
    rw [hempty] at hback
    exact (congrArg Prod.fst hback).symm
  rw [hnil, List.append_nil] at hvisits
  exact ⟨front, Prod.ext hvisits hcut, hpreorder, hvisits ▸ hnodup⟩

/-! ## What is drawn -/

def material? (g : Graph) (id : NodeId) : Option Material :=
  (g.object? id).bind Object.material?

/-- A mesh with both slots filled and a visible material. -/
def drawable (g : Graph) (visit : Visit) : Bool :=
  (visit.node.slot? .geometry).isSome &&
    ((visit.node.slot? .material).bind g.material?).any Material.visible

/-- A command draws a visited mesh with the handles that its geometry and its material own. -/
structure Draws (g : Graph) (visit : Visit) (command : DrawCommand) : Prop where
  node : command.node = visit.id
  world : command.world = visit.world
  castShadow : command.castShadow = visit.node.castShadow
  receiveShadow : command.receiveShadow = visit.node.receiveShadow
  geometry : ∃ id, visit.node.slot? .geometry = some id ∧ g.handle? id = some command.geometry
  material : ∃ id, visit.node.slot? .material = some id ∧ g.handle? id = some command.material

/-- What a geometry's slot holds is a geometry. -/
theorem Consistent.exists_geometry? (hg : g.Consistent) {parent id : NodeId} {node : Node}
    (hnode : g.node? parent = some node) (hslot : node.slot? .geometry = some id) :
    ∃ geometry, (g.object? id).bind Object.geometry? = some geometry := by
  obtain ⟨kind, hkind, hcategory⟩ := hg.kind?_of_holds parent .geometry id ⟨node, hnode, hslot⟩
  rw [hg.kind?_eq, Option.map_eq_some_iff] at hkind
  obtain ⟨object, hobject, rfl⟩ := hkind
  rcases object with ⟨name, body⟩
  cases body with
  | geometry geometry => exact ⟨geometry, by rw [hobject]; rfl⟩
  | node node => simp [Object.kind, Body.kind, node.role.category_kind] at hcategory
  | material material =>
      rcases material with ⟨_ | _, _, _, _, _, _, _⟩ <;> cases hcategory

theorem handle?_of_geometry? {id : NodeId} {geometry : Geometry}
    (hgeometry : (g.object? id).bind Object.geometry? = some geometry) :
    g.handle? id = some geometry.handle := by
  obtain ⟨⟨name, body⟩, hobject, hbody⟩ := Option.bind_eq_some_iff.mp hgeometry
  cases body <;> cases hbody
  rw [handle?, hobject]
  rfl

theorem handle?_of_material? {id : NodeId} {material : Material}
    (hmaterial : g.material? id = some material) : g.handle? id = some material.handle := by
  obtain ⟨⟨name, body⟩, hobject, hbody⟩ := Option.bind_eq_some_iff.mp hmaterial
  cases body <;> cases hbody
  rw [handle?, hobject]
  rfl

/-- What is drawn has handles that are owned. -/
theorem owned_of_drawCommand? {visit : Visit} {command : DrawCommand}
    (hcommand : g.drawCommand? visit = some command) :
    (∃ id, g.handle? id = some command.geometry) ∧ ∃ id, g.handle? id = some command.material := by
  unfold drawCommand? at hcommand
  split at hcommand
  next slots _ =>
    obtain ⟨geometry, hgeometry, hcommand⟩ := Option.bind_eq_some_iff.mp hcommand
    obtain ⟨material, hmaterial, hcommand⟩ := Option.bind_eq_some_iff.mp hcommand
    split at hcommand
    next =>
      rw [Option.bind_assoc] at hgeometry hmaterial
      obtain ⟨geometryId, -, hgeometry⟩ := Option.bind_eq_some_iff.mp hgeometry
      obtain ⟨materialId, -, hmaterial⟩ := Option.bind_eq_some_iff.mp hmaterial
      cases Option.some.inj hcommand
      exact ⟨⟨geometryId, handle?_of_geometry? hgeometry⟩, ⟨materialId, handle?_of_material? hmaterial⟩⟩
    next => cases hcommand
  next => cases hcommand

/-- Only what a mesh can be drawn with is drawn. -/
theorem drawCommand?_eq_none {visit : Visit} (hnot : g.drawable visit = false) :
    g.drawCommand? visit = none := by
  rcases visit with ⟨id, ⟨_, _, _, _, _, role⟩, world⟩
  cases role with
  | mesh slots =>
      rcases slots with ⟨_ | geometry, _ | material⟩
      · rfl
      · rfl
      · simp [drawCommand?]
      · simp only [drawable, Node.slot?, Slots.get, Option.isSome_some, Bool.true_and,
          Option.bind_some, material?] at hnot
        simp only [drawCommand?, Option.bind_some, Option.bind_eq_bind]
        cases (g.object? geometry).bind Object.geometry? with
        | none => rfl
        | some _ =>
            cases hmaterial : (g.object? material).bind Object.material? with
            | none => rfl
            | some _ =>
                rw [hmaterial, Option.any_some] at hnot
                simp [hnot]
  | _ => rfl

theorem Consistent.exists_drawCommand? (hg : g.Consistent) {visit : Visit}
    (hnode : g.node? visit.id = some visit.node) (hdrawable : g.drawable visit = true) :
    ∃ command, g.drawCommand? visit = some command ∧ g.Draws visit command := by
  rcases visit with ⟨id, ⟨_, _, _, _, _, role⟩, world⟩
  cases role with
  | mesh slots =>
      rw [drawable, Bool.and_eq_true, Option.isSome_iff_exists] at hdrawable
      obtain ⟨⟨geometryId, hgeometrySlot⟩, hany⟩ := hdrawable
      obtain ⟨material, hmaterial, hvisible⟩ := (Option.any_eq_true _ _).mp hany
      obtain ⟨materialId, hmaterialSlot, hmaterial⟩ := Option.bind_eq_some_iff.mp hmaterial
      obtain ⟨geometry, hgeometry⟩ := hg.exists_geometry? hnode hgeometrySlot
      have hgeometryId : slots.geometry = some geometryId := hgeometrySlot
      have hmaterialId : slots.material = some materialId := hmaterialSlot
      have hmaterial' : (g.object? materialId).bind Object.material? = some material := hmaterial
      refine ⟨⟨id, world, geometry.handle, material.handle, _, _⟩, ?_, rfl, rfl, rfl, rfl,
        ⟨geometryId, hgeometrySlot, handle?_of_geometry? hgeometry⟩,
        ⟨materialId, hmaterialSlot, handle?_of_material? hmaterial⟩⟩
      simp [drawCommand?, hgeometryId, hmaterialId, hgeometry, hmaterial', hvisible]
  | _ => cases hdrawable

def Visit.isLight (visit : Visit) : Bool :=
  match visit.node.role with
  | .light _ => true
  | _ => false

/-- A placed light is that of a visited node, in its place in the world. -/
structure Lights (visit : Visit) (item : PlacedLight) : Prop where
  node : item.node = visit.id
  light : visit.node.role = .light item.light
  position : item.position = visit.world.transformPoint Vec3.zero

/-- A frame shows exactly what is visible of the mounted scenes. -/
theorem frame_shows_visible (commands : List Command) {camera : NodeId}
    (hactive : (run commands).active = some camera) :
    let g := run commands
    ∃ frame visits, g.frame? = some frame ∧ frame.camera = camera ∧ g.visits = (visits, false) ∧
      (∀ id, id ∈ visits.map Visit.id ↔ ∃ scene ∈ g.scenes, g.Sees scene id) ∧
      (visits.map Visit.id).Nodup ∧ g.Preorder Mat4.identity g.scenes visits ∧
      List.Forall₂ g.Draws (visits.filter g.drawable) frame.draw ∧
      List.Forall₂ Lights (visits.filter Visit.isLight) frame.lights := by
  intro g
  have hg : g.Consistent := consistent_run commands
  obtain ⟨node, lens, hnode, hlens⟩ := hg.exists_camera? (selectsCamera_run commands) hactive
  obtain ⟨visits, hvisits, hpreorder, hnodup⟩ := hg.exists_visits
  have hframe : g.frame? = some
      { camera
        objects := g.size
        perspective := lens.isPerspective
        view := ((g.composeUp (chainLimit + 1) (g.parent? camera)
          node.transform.toMatrix).inverse?).getD Mat4.identity
        projection := lens.matrix
        draw := visits.filterMap g.drawCommand?
        lights := visits.filterMap placedLight? } := by
    simp [frame?, show g.active = some camera from hactive, hlens, worldMatrix?, hnode, hvisits]
  refine ⟨_, visits, hframe, rfl, hvisits, hpreorder.mem_iff, hnodup, hpreorder, ?_, ?_⟩
  · exact forall₂_filter_filterMap
      (fun visit hvisit => hg.exists_drawCommand? (hpreorder.node?_eq visit hvisit))
      fun visit _ => drawCommand?_eq_none
  · refine forall₂_filter_filterMap (fun visit _ hlight => ?_) fun visit _ hlight => ?_
    · rcases visit with ⟨id, ⟨_, _, _, _, _, role⟩, world⟩
      cases role with
      | light light => exact ⟨_, rfl, rfl, rfl, rfl⟩
      | _ => cases hlight
    · rcases visit with ⟨id, ⟨_, _, _, _, _, role⟩, world⟩
      cases role with
      | light light => cases hlight
      | _ => rfl

/-- A mesh under a group is drawn with the two handles drawn so far, and of two lights the one in a
hidden group is left out. -/
theorem frame_shows_visible_hidden :
    let commands : List Command := [
      .apply (.create ⟨1⟩ .scene []), .apply (.create ⟨2⟩ .group []), .apply (.attach ⟨1⟩ ⟨2⟩),
      .apply (.create ⟨3⟩ .mesh []), .apply (.attach ⟨2⟩ ⟨3⟩),
      .apply (.create ⟨4⟩ .boxGeometry []), .apply (.attach ⟨3⟩ ⟨4⟩),
      .apply (.create ⟨5⟩ .basicMaterial []), .apply (.attach ⟨3⟩ ⟨5⟩),
      .apply (.create ⟨6⟩ .perspectiveCamera [("active", .bool true)]),
      .apply (.create ⟨7⟩ .group [("visible", .bool false)]), .apply (.attach ⟨1⟩ ⟨7⟩),
      .apply (.create ⟨8⟩ .pointLight []), .apply (.attach ⟨7⟩ ⟨8⟩),
      .apply (.create ⟨9⟩ .pointLight []), .apply (.attach ⟨1⟩ ⟨9⟩)]
    ∃ frame visits, (run commands).active = some ⟨6⟩ ∧ (run commands).frame? = some frame ∧
      (run commands).visits = (visits, false) ∧
      visits.map Visit.id = [⟨1⟩, ⟨2⟩, ⟨3⟩, ⟨9⟩] ∧
      ¬(∃ scene ∈ (run commands).scenes, (run commands).Sees scene ⟨8⟩) ∧
      frame.draw.length = 1 ∧ frame.lights.length = 1 := by
  intro commands
  have hactive : (run commands).active = some ⟨6⟩ := rfl
  obtain ⟨frame, visits, hframe, -, hvisits, hmem, -, -, hdraw, hlights⟩ :=
    frame_shows_visible commands hactive
  have heq : visits = (run commands).visits.1 := (congrArg Prod.fst hvisits).symm
  have hids : visits.map Visit.id = [⟨1⟩, ⟨2⟩, ⟨3⟩, ⟨9⟩] := by
    rw [heq]
    rfl
  refine ⟨frame, visits, hactive, hframe, hvisits, hids, ?_, ?_, ?_⟩
  · rw [← hmem, hids]
    decide
  · rw [← hdraw.length_eq, heq]
    rfl
  · rw [← hlights.length_eq, heq]
    rfl

end Graph

end LiveScene
