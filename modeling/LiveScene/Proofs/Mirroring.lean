import LiveScene.Proofs.Building

/-! # A graph that mirrors a tree

Once all places of a tree are gone through, the picture they leave is one of the tree itself: the
children that a node takes stand together in the order of the places, so that its list and its
slots can be read off its own children.
-/

namespace LiveScene

namespace Descriptor

/-- The children that a node takes into its list, or into a slot. -/
def taken (parent : Descriptor) (category : Category) : List Descriptor :=
  parent.children.filter fun child =>
    parent.kind.takes child.kind && child.kind.category = category

/-- All that is ever linked under a node stands together in the order of the places. -/
theorem held_places {tree : Descriptor} (hdistinct : (tree.nodes.map Descriptor.id).Nodup)
    {parent : Descriptor} (hparent : parent ∈ tree.nodes) (category : Category) :
    Place.held tree.places parent.id category = (parent.taken category).map Descriptor.id := by
  have hedges : Place.held tree.places parent.id category = tree.nodes.flatMap fun upper =>
      if upper.id = parent.id then (upper.taken category).map Descriptor.id else [] := by
    rw [Place.held, places_eq, List.filter_cons_of_neg (by simp [Place.joins]), List.filter_map,
      List.map_map, edges, List.filter_flatMap, List.map_flatMap]
    congr 1
    funext upper
    rw [List.filter_map, List.map_map, taken]
    by_cases hid : upper.id = parent.id
    · simp [hid, Function.comp_def, Place.joins]
    · simp [hid, Function.comp_def, Place.joins]
  -- No other node has the id of the parent, so what is under it comes from one place in the list.
  obtain ⟨before, after, hsplit⟩ := List.append_of_mem hparent
  have hothers : ∀ part, part ⊆ before ++ after → (part.flatMap fun upper =>
      if upper.id = parent.id then (upper.taken category).map Descriptor.id else []) = [] := by
    intro part hpart
    rw [hsplit, List.map_append, List.map_cons, List.nodup_middle, List.nodup_cons,
      ← List.map_append] at hdistinct
    refine List.flatMap_eq_nil_iff.mpr fun other hother => if_neg fun hid => hdistinct.1 ?_
    exact List.mem_map.mpr ⟨other, hpart hother, hid⟩
  rw [hedges, hsplit, List.flatMap_append, List.flatMap_cons, if_pos rfl,
    hothers before (List.subset_append_left _ _), hothers after (List.subset_append_right _ _)]
  simp

theorem countP_isLinked (tree : Descriptor) :
    tree.places.countP Place.isLinked =
      tree.edges.countP fun edge => edge.1.kind.takes edge.2.kind := by
  have hroot : Place.isLinked ⟨none, tree⟩ = false := rfl
  rw [places_eq, List.countP_cons_of_neg (by simp [hroot]), List.countP_map]
  rfl

theorem mem_edges_iff {tree parent child : Descriptor} :
    (parent, child) ∈ tree.edges ↔ parent ∈ tree.nodes ∧ child ∈ parent.children := by
  simp [edges]

end Descriptor

namespace Graph

/-- A graph has the nodes of a tree as far as their kinds are supported, with the links that their
parents take, and nothing else. -/
structure Mirrors (g : Graph) (tree : Descriptor) : Prop where
  live : ∀ id, id ∈ g.ids ↔ ∃ node ∈ tree.nodes, node.id = id ∧ node.kind.isSupported = true
  kind : ∀ node ∈ tree.nodes, node.kind.isSupported = true → g.kind? node.id = some node.kind
  /-- Lists of children are in the order of the tree, and slots keep the last that was offered. -/
  lists : ∀ parent ∈ tree.nodes, parent.kind.isSupported = true → parent.kind.category = .generic →
    ∃ node, g.node? parent.id = some node ∧
      node.Lists fun category => (parent.taken category).map Descriptor.id
  parent?_iff : ∀ child parent, g.parent? child = some parent ↔
    ∃ edge ∈ tree.edges, edge.1.id = parent ∧ edge.2.id = child ∧
      edge.1.kind.takes edge.2.kind = true ∧
      (edge.2.kind.category ≠ .generic →
        (edge.1.taken edge.2.kind.category).getLast? = some edge.2)
  scenes : g.scenes =
    (tree.nodes.filter fun node => node.kind = .scene ∧ g.parent? node.id = none).map Descriptor.id

namespace Pictures

variable {g : Graph} {tree : Descriptor} (h : g.Pictures tree.places)
  (hdistinct : (tree.nodes.map Descriptor.id).Nodup)

include h

theorem mem_ids_iff (id : NodeId) :
    id ∈ g.ids ↔ ∃ node ∈ tree.nodes, node.id = id ∧ node.kind.isSupported = true := by
  rw [Graph.mem_ids_iff, ← h.isSome_kind?, Option.isSome_iff_exists]
  simp only [h.kind?_iff, Descriptor.nodes, List.mem_map]
  constructor
  · rintro ⟨kind, hsupported, place, hplace, hid, rfl⟩
    exact ⟨place.node, ⟨place, hplace, rfl⟩, hid, hsupported⟩
  · rintro ⟨node, ⟨place, hplace, rfl⟩, hid, hsupported⟩
    exact ⟨_, hsupported, place, hplace, hid, rfl⟩

theorem kind?_of_mem {node : Descriptor} (hnode : node ∈ tree.nodes)
    (hsupported : node.kind.isSupported = true) : g.kind? node.id = some node.kind := by
  obtain ⟨place, hplace, rfl⟩ := List.mem_map.mp hnode
  exact (h.kind?_iff _ _).mpr ⟨hsupported, place, hplace, rfl, rfl⟩

include hdistinct

theorem lists_taken {parent : Descriptor} (hparent : parent ∈ tree.nodes) {node : Node}
    (hnode : g.node? parent.id = some node) :
    node.Lists fun category => (parent.taken category).map Descriptor.id := by
  have hlists := h.lists parent.id node hnode
  rwa [funext (Descriptor.held_places hdistinct hparent)] at hlists

theorem parent?_iff_edge (child parent : NodeId) :
    g.parent? child = some parent ↔
      ∃ edge ∈ tree.edges, edge.1.id = parent ∧ edge.2.id = child ∧
        edge.1.kind.takes edge.2.kind = true ∧
        (edge.2.kind.category ≠ .generic →
          (edge.1.taken edge.2.kind.category).getLast? = some edge.2) := by
  rw [h.parent?_iff]
  constructor
  · rintro ⟨category, node, hnode, hheld⟩
    obtain ⟨-, place, hplace, rfl, -⟩ := (h.kind?_iff _ _).mp (h.kind?_of_node? hnode)
    have hparent : place.node ∈ tree.nodes := List.mem_map_of_mem hplace
    obtain ⟨lower, hlower, hid, hlast⟩ :=
      ((h.lists_taken hdistinct hparent hnode).holds_iff_of_map category child).mp hheld
    simp only [Descriptor.taken, List.mem_filter, Bool.and_eq_true, decide_eq_true_eq] at hlower
    obtain ⟨hchild, htakes, rfl⟩ := hlower
    exact ⟨(place.node, lower), Descriptor.mem_edges_iff.mpr ⟨hparent, hchild⟩, rfl, hid, htakes,
      hlast⟩
  · rintro ⟨⟨upper, lower⟩, hedge, rfl, rfl, htakes, hlast⟩
    obtain ⟨hupper, hchild⟩ := Descriptor.mem_edges_iff.mp hedge
    have hsupported : upper.kind.isSupported = true := by
      simp only [Kind.takes, Bool.and_eq_true] at htakes
      exact htakes.1.1
    obtain ⟨node, hnode, -⟩ :=
      h.exists_node? (h.kind?_of_mem hupper hsupported) (Kind.category_of_takes htakes)
    refine ⟨lower.kind.category, node, hnode, ?_⟩
    refine ((h.lists_taken hdistinct hupper hnode).holds_iff_of_map _ _).mpr
      ⟨lower, ?_, rfl, hlast⟩
    simp [Descriptor.taken, hchild, htakes]

/-- A node of a generic kind has a parent exactly when its place is linked. -/
theorem parent?_eq_none_iff {place : Place} (hplace : place ∈ tree.places)
    (hgeneric : place.node.kind.category = .generic) :
    g.parent? place.node.id = none ↔ place.isLinked = false := by
  have hgrounded := tree.grounded_of_prefix hdistinct (List.append_nil tree.places).symm
  have hplaces := tree.places_eq
  constructor
  · intro hnone
    rw [← Bool.not_eq_true]
    intro hlinked
    -- A generic child is never displaced, so the link that was taken is still there.
    rw [hplaces] at hplace
    rcases List.mem_cons.mp hplace with rfl | hlower
    · cases hlinked
    · obtain ⟨edge, hedge, rfl⟩ := List.mem_map.mp hlower
      have hparent := (h.parent?_iff_edge hdistinct edge.2.id edge.1.id).mpr
        ⟨edge, hedge, rfl, rfl, hlinked, fun hspecial => absurd hgeneric hspecial⟩
      rw [hnone] at hparent
      cases hparent
  · intro hunlinked
    refine Option.eq_none_iff_forall_ne_some.mpr fun parent hparent => ?_
    obtain ⟨edge, hedge, -, hid, htakes, -⟩ := (h.parent?_iff_edge hdistinct _ _).mp hparent
    have hlower : (⟨some edge.1, edge.2⟩ : Place) ∈ tree.places := by
      rw [hplaces]
      exact List.mem_cons_of_mem _ (List.mem_map_of_mem hedge)
    rw [← hgrounded.eq_of_id_eq hlower hplace hid] at hunlinked
    exact Bool.false_ne_true (hunlinked.symm.trans htakes)

theorem mirrors : g.Mirrors tree where
  live := h.mem_ids_iff
  kind _ hnode := h.kind?_of_mem hnode
  lists parent hparent hsupported hgeneric := by
    obtain ⟨node, hnode, -⟩ := h.exists_node? (h.kind?_of_mem hparent hsupported) hgeneric
    exact ⟨node, hnode, h.lists_taken hdistinct hparent hnode⟩
  parent?_iff := h.parent?_iff_edge hdistinct
  scenes := by
    rw [h.scenes_eq, Place.mounted, Descriptor.nodes, List.filter_map, List.map_map]
    refine congrArg _ (List.filter_congr fun place hplace => ?_)
    simp only [Place.isMounted, Function.comp_apply]
    by_cases hscene : place.node.kind = .scene
    · have hgeneric : place.node.kind.category = .generic := by rw [hscene]; rfl
      simp [hscene, h.parent?_eq_none_iff hdistinct hplace hgeneric]
    · simp [hscene]

end Pictures

/-- Building a tree with different ids, no more than 4097 links high, none of whose nodes ends in a
fault on its own, makes a graph that mirrors the tree. The report counts two operations for every
node but the root, and as applied the nodes of supported kinds and the links that were taken,
whether or not another child took the same slot later. -/
theorem tree_mirrored (tree : Descriptor) (hdistinct : (tree.nodes.map Descriptor.id).Nodup)
    (hheight : tree.height ≤ 4097)
    (hfaultless : ∀ node ∈ tree.nodes,
      (empty.create node.id node.kind node.properties).result.isOk = true) :
    ∃ report, (empty.buildTree tree).result = .ok report ∧
      (empty.buildTree tree).state.Mirrors tree ∧
      report.total = 2 * tree.nodeCount - 1 ∧
      report.applied = tree.nodes.countP (·.kind.isSupported) +
        tree.edges.countP fun edge => edge.1.kind.takes edge.2.kind := by
  obtain ⟨hstate, hresult⟩ := empty.buildTree_eq_applyAll tree
  obtain ⟨report, hreport, hpictures, happlied⟩ :=
    pictures_of_prefix hdistinct hheight hfaultless (List.append_nil tree.places).symm
  rw [hstate, hresult]
  refine ⟨report, hreport, hpictures.mirrors hdistinct, ?_, ?_⟩
  · rw [total_of_applyAll hreport, tree.length_ops]
  · rw [happlied, tree.countP_isLinked, Descriptor.nodes, List.countP_map]
    rfl

/-- A mesh is offered two geometries, and a node of an unsupported kind cuts off the scene under
it. -/
theorem tree_mirrored_cut :
    let tree : Descriptor :=
      .node ⟨1⟩ .scene []
        [.node ⟨2⟩ .mesh [] [.node ⟨3⟩ .boxGeometry [] [], .node ⟨4⟩ .sphereGeometry [] []],
          .node ⟨5⟩ .unsupported [] [.node ⟨6⟩ .scene [] []],
          .node ⟨7⟩ .perspectiveCamera [("far", .number 10)] [.node ⟨8⟩ .scene [] []]]
    let built := empty.buildTree tree
    built.state.Mirrors tree ∧ built.state.parent? ⟨3⟩ = none ∧
      built.state.parent? ⟨4⟩ = some ⟨2⟩ ∧ built.state.scenes = [⟨1⟩, ⟨6⟩] ∧
      built.result = .ok ⟨12, 3⟩ := by
  intro tree built
  obtain ⟨report, -, hmirrors, -, -⟩ :=
    tree_mirrored tree (by decide +kernel) (by decide +kernel) (by decide +kernel)
  exact ⟨hmirrors, by decide +kernel, by decide +kernel, by decide +kernel, by decide +kernel⟩

end Graph

end LiveScene
