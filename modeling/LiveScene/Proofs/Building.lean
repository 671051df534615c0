import LiveScene.Proofs.Lenses
import LiveScene.Proofs.LevelOrder

/-! # Building one place after the other

Building a tree makes a node for every place of it in turn. What is there after some of the places
can be said of these places alone: each node whose kind is supported is live, it is linked if its
parent takes its kind, and of several geometries or materials a mesh keeps the last.
-/

namespace LiveScene

/-! ## What a node lists -/

/-- The children of a node are those of one list, and in the slot of each category is the last of
another. -/
def Node.Lists (node : Node) (lists : Category → List NodeId) : Prop :=
  node.children = lists .generic ∧
    ∀ category, category ≠ .generic → node.slot? category = (lists category).getLast?

namespace Node.Lists

variable {node node' : Node} {lists : Category → List NodeId}

theorem of_links_eq (h : node.Lists lists) (hlinks : node'.links = node.links) :
    node'.Lists lists := by
  obtain ⟨hchildren, hslots⟩ := Prod.mk.inj hlinks
  refine ⟨hchildren.trans h.1, fun category hcategory => ?_⟩
  rw [slot?_eq_get, hslots, ← slot?_eq_get]
  exact h.2 category hcategory

theorem of_links_eq_nil (hlinks : node.links = ([], {})) : node.Lists fun _ => [] := by
  obtain ⟨hchildren, hslots⟩ := Prod.mk.inj hlinks
  refine ⟨hchildren, fun category _ => ?_⟩
  rw [slot?_eq_get, hslots]
  cases category <;> rfl

/-- What is put in comes last. -/
theorem put (h : node.Lists lists) {category : Category}
    (hroom : category = .generic ∨ node.isMesh = true) {child : NodeId}
    {more : Category → List NodeId}
    (hmore : ∀ other, more other = lists other ++ if other = category then [child] else []) :
    (node.put category child).Lists more := by
  by_cases hgeneric : category = .generic
  · subst hgeneric
    refine ⟨?_, fun other hother => ?_⟩
    · rw [hmore, if_pos rfl, ← h.1]
      rfl
    · rw [hmore, if_neg hother, List.append_nil, ← h.2 other hother]
      rfl
  · have hmesh := hroom.resolve_left hgeneric
    rw [node.put_eq_setSlot hgeneric]
    refine ⟨?_, fun other hother => ?_⟩
    · rw [children_setSlot, hmore, if_neg (Ne.symm hgeneric), List.append_nil, h.1]
    · rw [slot?_setSlot hmesh hgeneric, hmore]
      split
      next => rw [List.getLast?_concat]
      next => rw [List.append_nil, h.2 other hother]

theorem holds_iff (h : node.Lists lists) (category : Category) (child : NodeId) :
    node.Holds category child ↔
      child ∈ lists category ∧
        (category ≠ .generic → (lists category).getLast? = some child) := by
  by_cases hgeneric : category = .generic
  · subst hgeneric
    simp [Holds, h.1]
  · rw [node.holds_iff_slot? hgeneric, h.2 category hgeneric]
    refine ⟨fun hlast => ⟨List.mem_of_getLast? hlast, fun _ => hlast⟩, fun hlast => ?_⟩
    exact hlast.2 hgeneric

/-- What is held, when the lists are told by what the ids stand for. -/
theorem holds_iff_of_map {items : Category → List Descriptor}
    (h : node.Lists fun category => (items category).map Descriptor.id) (category : Category)
    (child : NodeId) :
    node.Holds category child ↔
      ∃ item ∈ items category, item.id = child ∧
        (category ≠ .generic → (items category).getLast? = some item) := by
  rw [h.holds_iff]
  by_cases hgeneric : category = .generic
  · simp [hgeneric]
  · simp only [List.getLast?_map, Option.map_eq_some_iff, ne_eq, hgeneric, not_false_eq_true,
      true_imp_iff]
    constructor
    · rintro ⟨-, item, hlast, hid⟩
      exact ⟨item, List.mem_of_getLast? hlast, hid, hlast⟩
    · rintro ⟨item, hitem, hid, hlast⟩
      exact ⟨List.mem_map.mpr ⟨item, hitem, hid⟩, item, hlast, hid⟩

end Node.Lists

/-! ## What is there after some places -/

namespace Place

/-- Whether the node of a place is linked under its parent. -/
def isLinked (place : Place) : Bool :=
  place.parent.any fun parent => parent.kind.takes place.node.kind

/-- Whether the node of a place is a scene that stays mounted. -/
def isMounted (place : Place) : Bool :=
  place.node.kind = .scene && !place.isLinked

/-- Whether the node of a place is linked under an id as a child of a category. -/
def joins (place : Place) (id : NodeId) (category : Category) : Bool :=
  place.parent.any fun parent =>
    parent.kind.takes place.node.kind && (parent.id = id && place.node.kind.category = category)

/-- What is linked under an id, in the order in which this is done. -/
def held (places : List Place) (id : NodeId) (category : Category) : List NodeId :=
  (places.filter (·.joins id category)).map (·.node.id)

theorem joins_iff {place : Place} {id : NodeId} {category : Category} :
    place.joins id category = true ↔
      ∃ parent, place.parent = some parent ∧ parent.kind.takes place.node.kind = true ∧
        parent.id = id ∧ place.node.kind.category = category := by
  cases hparent : place.parent <;> simp [joins, hparent]

theorem held_concat (places : List Place) (place : Place) (id : NodeId) (category : Category) :
    held (places ++ [place]) id category =
      held places id category ++ if place.joins id category then [place.node.id] else [] := by
  rw [held, List.filter_append, List.map_append, ← held]
  cases hjoins : place.joins id category <;> simp [hjoins]

/-- A place whose node is not linked under an id adds nothing there. -/
theorem held_concat_of_not_joins (places : List Place) {place : Place} {id : NodeId}
    (hjoins : ∀ category, place.joins id category = false) :
    held (places ++ [place]) id = held places id := by
  funext category
  rw [held_concat, hjoins]
  exact List.append_nil _

/-- A node that has no parent yet is linked nowhere. -/
theorem held_unplaced (places : List Place) (node : Descriptor) (id : NodeId) :
    held (places ++ [⟨none, node⟩]) id = held places id :=
  held_concat_of_not_joins places fun _ => rfl

/-- The scenes that stay mounted, in the order in which they are made. -/
def mounted (places : List Place) : List NodeId :=
  (places.filter isMounted).map (·.node.id)

theorem mounted_concat (places : List Place) (place : Place) :
    mounted (places ++ [place]) =
      mounted places ++ if place.isMounted then [place.node.id] else [] := by
  rw [mounted, List.filter_append, List.map_append, ← mounted]
  cases hmounted : place.isMounted <;> simp [hmounted]

theorem mem_held_iff {places : List Place} {id child : NodeId} {category : Category} :
    child ∈ held places id category ↔
      ∃ place ∈ places, place.joins id category = true ∧ place.node.id = child := by
  simp [held, and_assoc]

/-- Nothing is linked under an id before there is a node of that id. -/
theorem Grounded.held_eq_nil {tree : Descriptor} {places : List Place} (h : Grounded tree places)
    {id : NodeId} (hfresh : ∀ place ∈ places, place.node.id ≠ id) (category : Category) :
    held places id category = [] := by
  refine List.eq_nil_iff_forall_not_mem.mpr fun child hchild => ?_
  obtain ⟨place, hplace, hjoins, -⟩ := mem_held_iff.mp hchild
  obtain ⟨parent, hparent, -, hid, -⟩ := joins_iff.mp hjoins
  obtain ⟨upper, hupper, rfl⟩ := List.mem_map.mp (h.parent place hplace parent hparent).1
  exact hfresh upper hupper hid

theorem Grounded.fresh {tree : Descriptor} {places : List Place} {place : Place}
    (h : Grounded tree (places ++ [place])) (other : Place) (hother : other ∈ places) :
    other.node.id ≠ place.node.id := by
  have hdistinct := h.distinct
  rw [List.map_append, List.nodup_append] at hdistinct
  exact hdistinct.2.2 _ (List.mem_map_of_mem hother) _ (by simp)

/-- Linking a node comes down to unmounting it. -/
theorem Grounded.mounted_linked {tree parent node : Descriptor} {places : List Place}
    (h : Grounded tree (places ++ [⟨some parent, node⟩]))
    (htakes : parent.kind.takes node.kind = true) :
    (mounted (places ++ [⟨none, node⟩])).filter (· ≠ node.id) =
      mounted (places ++ [⟨some parent, node⟩]) := by
  have hothers : (mounted places).filter (· ≠ node.id) = mounted places := by
    refine List.filter_eq_self.mpr fun id hid => decide_eq_true ?_
    obtain ⟨place, hplace, rfl⟩ := List.mem_map.mp hid
    exact h.fresh place (List.mem_of_mem_filter hplace)
  have hlinked : isLinked ⟨some parent, node⟩ = true := htakes
  have hunmounted : isMounted ⟨some parent, node⟩ = false := by simp [isMounted, hlinked]
  rw [mounted_concat, List.filter_append, hothers, mounted_concat, hunmounted]
  cases isMounted ⟨none, node⟩ <;> simp

/-- Before a node is linked, it and its parent are there. -/
theorem Grounded.unplaced {tree parent node : Descriptor} {places : List Place}
    (h : Grounded tree (places ++ [⟨some parent, node⟩])) :
    Grounded tree (places ++ [⟨none, node⟩]) ∧ node ∈ parent.children ∧
      ∃ upper ∈ places ++ [⟨none, node⟩], upper.node = parent := by
  have hnodes : (places ++ [(⟨some parent, node⟩ : Place)]).map Place.node =
      (places ++ [(⟨none, node⟩ : Place)]).map Place.node := by simp
  obtain ⟨hparent, hchild⟩ := h.parent ⟨some parent, node⟩ (by simp) parent rfl
  rw [hnodes] at hparent
  refine ⟨⟨?_, fun place hplace upper hupper => ?_, fun place hplace => ?_⟩, hchild,
    List.mem_map.mp hparent⟩
  · have hdistinct := h.distinct
    simp only [List.map_append, List.map_cons, List.map_nil] at hdistinct ⊢
    exact hdistinct
  · rcases List.mem_append.mp hplace with hold | hnew
    · rw [← hnodes]
      exact h.parent place (List.mem_append_left _ hold) upper hupper
    · rw [List.mem_singleton.mp hnew] at hupper
      cases hupper
  · rcases List.mem_append.mp hplace with hold | hnew
    · exact h.height_le place (List.mem_append_left _ hold)
    · rw [List.mem_singleton.mp hnew]
      exact h.height_le ⟨some parent, node⟩ (by simp)

end Place

namespace Graph

/-- What a graph is after some places of a tree were gone through. -/
structure Pictures (g : Graph) (places : List Place) : Prop extends g.Consistent where
  kind?_iff : ∀ id kind, g.kind? id = some kind ↔
    kind.isSupported = true ∧ ∃ place ∈ places, place.node.id = id ∧ place.node.kind = kind
  lists : ∀ id node, g.node? id = some node → node.Lists (Place.held places id)
  scenes_eq : g.scenes = Place.mounted places

theorem pictures_empty : empty.Pictures [] where
  toConsistent := consistent_empty
  kind?_iff id kind := by
    refine ⟨fun hkind => ?_, fun ⟨_, place, hplace, _⟩ => ?_⟩
    · cases hkind
    · cases hplace
  lists id node hnode := by cases hnode
  scenes_eq := rfl

namespace Pictures

variable {g : Graph} {places : List Place}

theorem of_sameOutline (h : g.Pictures places) {g' : Graph} (hsame : SameOutline g g') :
    g'.Pictures places where
  toConsistent := h.toConsistent.of_outline_eq hsame.outline hsame.kinds hsame.parents hsame.scenes
  kind?_iff id kind := by
    rw [kind?, hsame.kinds]
    exact h.kind?_iff id kind
  lists id node' hnode' := by
    obtain ⟨node, hnode, hlinks⟩ := exists_node?_of_outline_eq (hsame.outline id) hnode'
    exact (h.lists id node hnode).of_links_eq hlinks
  scenes_eq := hsame.scenes.trans h.scenes_eq

theorem kind?_eq_none (h : g.Pictures places) {id : NodeId}
    (hfresh : ∀ place ∈ places, place.node.id ≠ id) : g.kind? id = none := by
  cases hkind : g.kind? id with
  | none => rfl
  | some kind =>
      obtain ⟨-, place, hplace, hid, -⟩ := (h.kind?_iff id kind).mp hkind
      exact absurd hid (hfresh place hplace)

theorem object?_eq_none (h : g.Pictures places) {id : NodeId}
    (hfresh : ∀ place ∈ places, place.node.id ≠ id) : g.object? id = none := by
  rw [← Option.not_isSome_iff_eq_none, ← h.isSome_kind?, h.kind?_eq_none hfresh]
  simp

/-! ### Creating a node -/

/-- Nothing changes when the kind of a node is not supported. -/
theorem skip (h : g.Pictures places) {node : Descriptor} (hkind : node.kind.isSupported = false) :
    g.Pictures (places ++ [⟨none, node⟩]) where
  toConsistent := h.toConsistent
  kind?_iff id kind := by
    rw [h.kind?_iff]
    refine and_congr_right fun hsupported => ?_
    have hne : node.kind ≠ kind := by
      rintro rfl
      rw [hkind] at hsupported
      cases hsupported
    simp [or_and_right, exists_or, hne]
  lists id node' hnode' := by
    rw [Place.held_unplaced]
    exact h.lists id node' hnode'
  scenes_eq := by
    have hunsupported : node.kind = .unsupported := by simpa [Kind.isSupported] using hkind
    have hmounted : Place.isMounted ⟨none, node⟩ = false := by
      simp [Place.isMounted, hunsupported]
    rw [Place.mounted_concat, hmounted, ← h.scenes_eq]
    exact (List.append_nil _).symm

theorem born (h : g.Pictures places) {tree : Descriptor} (hgrounded : Place.Grounded tree places)
    {node : Descriptor} (hfresh : ∀ place ∈ places, place.node.id ≠ node.id) {g' : Graph}
    (hborn : g.Born node.id node.kind g') : g'.Pictures (places ++ [⟨none, node⟩]) := by
  obtain ⟨object, hentered⟩ := hborn.entered
  obtain ⟨handle, hdefault⟩ := hentered.default?
  have hsupported : node.kind.isSupported = true := by
    rw [← Object.isSome_default? node.kind handle, hdefault]
    rfl
  refine ⟨h.toConsistent.born hborn, fun id kind => ?_, fun id node' hnode' => ?_, ?_⟩
  · rw [hentered.kind?_eq]
    split
    next heq =>
      subst heq
      constructor
      · intro hkind
        cases Option.some.inj hkind
        exact ⟨hsupported, ⟨none, node⟩, by simp, rfl, rfl⟩
      · rintro ⟨-, place, hplace, hid, rfl⟩
        rcases List.mem_append.mp hplace with hold | hnew
        · exact absurd hid (hfresh place hold)
        · rw [List.mem_singleton.mp hnew]
    next hne => simp [h.kind?_iff, or_and_right, exists_or, hne]
  · rw [Place.held_unplaced]
    rw [node?, hentered.object?_eq] at hnode'
    split at hnode'
    next heq =>
      subst heq
      -- The new node holds nothing, and no place so far was under it.
      rw [funext (hgrounded.held_eq_nil hfresh)]
      exact .of_links_eq_nil (Object.links_of_default? hdefault hnode')
    next => exact h.lists id node' hnode'
  · rw [hentered.scenes_eq, Place.mounted_concat, ← h.scenes_eq]
    by_cases hscene : node.kind = .scene <;> simp [Place.isMounted, Place.isLinked, hscene]

/-- A node is created when its kind is supported, and is then not linked yet. -/
theorem create (h : g.Pictures places) {tree : Descriptor} (hgrounded : Place.Grounded tree places)
    {node : Descriptor} (hfresh : ∀ place ∈ places, place.node.id ≠ node.id) {verdict : Verdict}
    (hresult : (g.create node.id node.kind node.properties).result = .ok verdict) :
    (g.create node.id node.kind node.properties).state.Pictures (places ++ [⟨none, node⟩]) ∧
      (Report.count {} verdict).applied = node.kind.isSupported.toNat := by
  rcases g.create_uniform node.id node.kind with ⟨hwhy, issue, hrefused⟩ | ⟨g', hborn, hcreate⟩
  · have hunsupported : node.kind.isSupported = false := by
      refine hwhy.resolve_left ?_
      rw [h.object?_eq_none hfresh]
      exact Bool.false_ne_true
    rw [hrefused] at hresult ⊢
    cases Except.ok.inj hresult
    exact ⟨h.skip hunsupported, by rw [hunsupported]; rfl⟩
  · have hsupported : node.kind.isSupported = true := by
      obtain ⟨object, hdefault, -⟩ := hborn
      rw [← Object.isSome_default? node.kind g.nextHandle, hdefault]
      rfl
    have hset : (g'.setProps node.id node.properties).state.Pictures (places ++ [⟨none, node⟩]) :=
      setProps_induction (fun _ _ hg htouched => of_sameOutline hg htouched.sameOutline)
        node.properties (h.born hgrounded hfresh hborn)
    rw [hcreate] at hresult ⊢
    refine ⟨hset, ?_⟩
    rw [hsupported]
    cases hprops : (g'.setProps node.id node.properties).result with
    | error fault => simp [Outcome.map, Except.map, hprops] at hresult
    | ok _ =>
        simp only [Outcome.map, Except.map, hprops, Except.ok.injEq] at hresult
        rw [← hresult]
        rfl

/-! ### Linking it -/

/-- A recorded parent is the parent of a place. -/
theorem exists_place (h : g.Pictures places) {child parent : NodeId}
    (hparent : g.parent? child = some parent) :
    ∃ place ∈ places, place.node.id = child ∧
      ∃ upper, place.parent = some upper ∧ upper.id = parent := by
  obtain ⟨category, node, hnode, hheld⟩ := (h.parent?_iff child parent).mp hparent
  obtain ⟨hmem, -⟩ := ((h.lists parent node hnode).holds_iff category child).mp hheld
  obtain ⟨place, hplace, hjoins, hid⟩ := Place.mem_held_iff.mp hmem
  obtain ⟨upper, hupper, -, hupperId, -⟩ := Place.joins_iff.mp hjoins
  exact ⟨place, hplace, hid, upper, hupper, hupperId⟩

theorem parent?_eq_none_of_unplaced (h : g.Pictures places) {tree : Descriptor}
    (hgrounded : Place.Grounded tree places) {place : Place} (hplace : place ∈ places)
    (hunplaced : place.parent = none) : g.parent? place.node.id = none := by
  refine Option.eq_none_iff_forall_ne_some.mpr fun id hparent => ?_
  obtain ⟨other, hother, hid, upper, hupper, -⟩ := h.exists_place hparent
  rw [hgrounded.eq_of_id_eq hother hplace hid, hunplaced] at hupper
  cases hupper

/-- Each step on the chain of parents of a node leads to a higher tree. -/
theorem exists_above (h : g.Pictures places) {tree : Descriptor}
    (hgrounded : Place.Grounded tree places) {n : Nat} {place : Place} (hplace : place ∈ places)
    {id : NodeId} (habove : g.ancestor? n place.node.id = some id) :
    ∃ above ∈ places, above.node.id = id ∧ place.node.height + n ≤ above.node.height := by
  induction n generalizing place with
  | zero => exact ⟨place, hplace, Option.some.inj habove, Nat.le_refl _⟩
  | succ n ih =>
      obtain ⟨parent, hparent, hrest⟩ := Option.bind_eq_some_iff.mp habove
      obtain ⟨lower, hlower, hid, upper, hupper, rfl⟩ := h.exists_place hparent
      -- Ids are distinct, so the place that the parent is recorded for is the one at hand.
      cases hgrounded.eq_of_id_eq hlower hplace hid
      obtain ⟨hseen, hchild⟩ := hgrounded.parent place hplace upper hupper
      obtain ⟨next, hnext, rfl⟩ := List.mem_map.mp hseen
      obtain ⟨above, habove, habove', hheight⟩ := ih hnext hrest
      have hlt := Descriptor.height_lt_of_mem hchild
      exact ⟨above, habove, habove', by omega⟩

theorem kind_of_kind? (h : g.Pictures places) {tree : Descriptor}
    (hgrounded : Place.Grounded tree places) {place : Place} (hplace : place ∈ places) {kind : Kind}
    (hkind : g.kind? place.node.id = some kind) : kind = place.node.kind := by
  obtain ⟨-, other, hother, hid, rfl⟩ := (h.kind?_iff _ kind).mp hkind
  rw [hgrounded.eq_of_id_eq hother hplace hid]

section

variable {tree parent node : Descriptor} (h : g.Pictures (places ++ [⟨none, node⟩]))
  (hgrounded : Place.Grounded tree (places ++ [⟨some parent, node⟩]))

include h hgrounded

/-- A node is not linked under a parent that does not take it. -/
theorem attach_of_takes_eq_false (htakes : parent.kind.takes node.kind = false) :
    (g.attach parent.id node.id).1.Pictures (places ++ [⟨some parent, node⟩]) ∧
      ∃ issue, (g.attach parent.id node.id).2 = .error issue := by
  obtain ⟨hunplaced, -, upper, hupper, rfl⟩ := hgrounded.unplaced
  have hnode : (⟨none, node⟩ : Place) ∈ places ++ [⟨none, node⟩] := by simp
  have hkinds : ∀ upperKind lowerKind, g.kind? upper.node.id = some upperKind →
      g.kind? node.id = some lowerKind → upperKind.takes lowerKind = false := by
    intro upperKind lowerKind hupperKind hlowerKind
    cases h.kind_of_kind? hunplaced hupper hupperKind
    cases h.kind_of_kind? hunplaced hnode hlowerKind
    exact htakes
  obtain ⟨issue, heq⟩ := h.toConsistent.attach_of_takes_eq_false hkinds
  rw [heq]
  refine ⟨⟨h.toConsistent, fun id kind => ?_, fun id node' hnode' => ?_, ?_⟩, issue, rfl⟩
  · rw [h.kind?_iff]
    simp [or_and_right, exists_or]
  · rw [Place.held_concat_of_not_joins _ (by simp [Place.joins, htakes]),
      ← Place.held_unplaced places node]
    exact h.lists id node' hnode'
  · rw [h.scenes_eq]
    simp [Place.mounted_concat, Place.isMounted, Place.isLinked, htakes]

/-- The chain above the parent of a node ends in time, and does not meet the node. -/
theorem isAncestor_eq_false (hheight : tree.height ≤ chainLimit + 1) :
    g.isAncestor node.id parent.id = false := by
  obtain ⟨hunplaced, hchild, upper, hupper, rfl⟩ := hgrounded.unplaced
  have hlt := Descriptor.height_lt_of_mem hchild
  have hnode : (⟨none, node⟩ : Place) ∈ places ++ [⟨none, node⟩] := by simp
  rw [← Bool.not_eq_true, isAncestor, chainReaches_iff]
  rintro (⟨n, -, hreach⟩ | hlong)
  · obtain ⟨above, habove, hid, hle⟩ := h.exists_above hunplaced hupper (n := n + 1) hreach
    rw [hunplaced.eq_of_id_eq habove hnode hid] at hle
    dsimp only at hle
    omega
  · obtain ⟨id, hreach⟩ := Option.isSome_iff_exists.mp hlong
    obtain ⟨above, habove, -, hle⟩ :=
      h.exists_above hunplaced hupper (n := chainLimit + 1) hreach
    have htop := hunplaced.height_le above habove
    omega

/-- A node is linked under a parent that takes it. -/
theorem attach_of_takes (hheight : tree.height ≤ chainLimit + 1)
    (htakes : parent.kind.takes node.kind = true) :
    (g.attach parent.id node.id).1.Pictures (places ++ [⟨some parent, node⟩]) ∧
      (g.attach parent.id node.id).2 = .ok () := by
  have hacyclic := isAncestor_eq_false h hgrounded hheight
  obtain ⟨hunplaced, hchild, upper, hupper, rfl⟩ := hgrounded.unplaced
  have hnode : (⟨none, node⟩ : Place) ∈ places ++ [⟨none, node⟩] := by simp
  have hsupported : upper.node.kind.isSupported = true ∧ node.kind.isSupported = true := by
    simp only [Kind.takes, Bool.and_eq_true] at htakes
    exact htakes.1
  have hupperKind := (h.kind?_iff _ _).mpr ⟨hsupported.1, upper, hupper, rfl, rfl⟩
  have hlowerKind : g.kind? node.id = some node.kind :=
    (h.kind?_iff _ _).mpr ⟨hsupported.2, _, hnode, rfl, rfl⟩
  -- A tree is higher than any under it, so no node is its own parent.
  have hne : upper.node.id ≠ node.id := by
    intro hid
    have hlt := Descriptor.height_lt_of_mem hchild
    rw [hunplaced.eq_of_id_eq hupper hnode hid] at hlt
    exact Nat.lt_irrefl _ hlt
  have hfree : g.parent? node.id = none := h.parent?_eq_none_of_unplaced hunplaced hnode rfl
  obtain ⟨old, hold, hattached, hok⟩ :=
    h.toConsistent.attach_of_takes hupperKind hlowerKind htakes hne hfree hacyclic
  have hkind := h.toConsistent.kind?_of_node? hold
  refine ⟨⟨h.toConsistent.attach _ _, fun id kind => ?_, fun id node' hnode' => ?_, ?_⟩, hok⟩
  · rw [kind?, hattached.kinds, ← kind?, h.kind?_iff]
    simp [or_and_right, exists_or]
  · rw [hattached.node?_eq] at hnode'
    split at hnode'
    next heq =>
      subst heq
      cases Option.some.inj hnode'
      refine (h.lists _ old hold).put ?_ fun other => ?_
      -- Only a mesh takes what goes into a slot.
      · refine or_iff_not_imp_left.mpr fun hspecial => ?_
        rw [hupperKind, Kind.eq_mesh_of_takes htakes hspecial] at hkind
        exact old.isMesh_iff.mpr (Option.some.inj hkind).symm
      · simp [Place.held_concat, Place.joins, htakes, eq_comm]
    next hother =>
      rw [Place.held_concat_of_not_joins _ (by simp [Place.joins, hother]),
        ← Place.held_unplaced places node]
      exact h.lists id node' hnode'
  · rw [hattached.scenes, h.scenes_eq, hgrounded.mounted_linked htakes]

end

/-! ### One place after the other -/

/-- Linking a node counts when its parent takes it. -/
theorem attach {tree parent node : Descriptor} (h : g.Pictures (places ++ [⟨none, node⟩]))
    (hgrounded : Place.Grounded tree (places ++ [⟨some parent, node⟩]))
    (hheight : tree.height ≤ chainLimit + 1) :
    (g.attach parent.id node.id).1.Pictures (places ++ [⟨some parent, node⟩]) ∧
      (Report.count {} (g.attach parent.id node.id).2).applied =
        (parent.kind.takes node.kind).toNat := by
  cases htakes : parent.kind.takes node.kind with
  | true =>
      obtain ⟨hpictures, hok⟩ := attach_of_takes h hgrounded hheight htakes
      exact ⟨hpictures, by rw [hok]; rfl⟩
  | false =>
      obtain ⟨hpictures, issue, herror⟩ := attach_of_takes_eq_false h hgrounded htakes
      exact ⟨hpictures, by rw [herror]; rfl⟩

/-- A node that goes through on its own goes through wherever its id is free. -/
theorem exists_verdict (h : g.Pictures places) {node : Descriptor}
    (hfresh : ∀ place ∈ places, place.node.id ≠ node.id)
    (halone : (empty.create node.id node.kind node.properties).result.isOk = true) :
    ∃ verdict, (g.create node.id node.kind node.properties).result = .ok verdict := by
  have hempty : empty.object? node.id = none := rfl
  have hsame := h.toConsistent.create_result_eq (h.object?_eq_none hfresh) node.kind node.properties
  rw [← consistent_empty.create_result_eq hempty] at hsame
  cases hresult : (g.create node.id node.kind node.properties).result with
  | error fault =>
      cases hempty : (empty.create node.id node.kind node.properties).result <;>
        simp [hresult, hempty, Except.map, Except.isOk, Except.toBool] at hsame halone
  | ok verdict => exact ⟨verdict, rfl⟩

/-- A place is gone through, and what took effect is counted. -/
theorem step (h : g.Pictures places) {tree : Descriptor} {place : Place}
    (hgrounded : Place.Grounded tree places) (hnext : Place.Grounded tree (places ++ [place]))
    (hheight : tree.height ≤ chainLimit + 1) {verdict : Verdict}
    (hresult : (g.create place.node.id place.node.kind place.node.properties).result = .ok verdict) :
    ∃ report, (g.applyAll place.ops).result = .ok report ∧
      (g.applyAll place.ops).state.Pictures (places ++ [place]) ∧
      report.applied = place.node.kind.isSupported.toNat + place.isLinked.toNat := by
  obtain ⟨hcreated, hcount⟩ := h.create hgrounded hnext.fresh hresult
  rcases place with ⟨_ | parent, node⟩
  · obtain ⟨hstate, hreport⟩ :=
      @applyAll_of_verdict g (.create node.id node.kind node.properties) verdict hresult []
    refine ⟨Report.count {} verdict, hreport, ?_, hcount⟩
    change (g.applyAll [.create node.id node.kind node.properties]).state.Pictures _
    rw [hstate]
    exact hcreated
  · let created := (g.create node.id node.kind node.properties).state
    let linking := created.attach parent.id node.id
    obtain ⟨hpictures, hcount'⟩ := attach hcreated hnext hheight
    obtain ⟨hstate, hreport⟩ := @applyAll_of_verdict g
      (.create node.id node.kind node.properties) verdict hresult [.attach parent.id node.id]
    obtain ⟨hstate', hreport'⟩ :=
      @applyAll_of_verdict created (.attach parent.id node.id) linking.2 rfl []
    refine ⟨(Report.count {} verdict).add (Report.count {} linking.2), ?_, ?_, ?_⟩
    · exact hreport.trans (congrArg _ hreport')
    · change (g.applyAll [_, .attach parent.id node.id]).state.Pictures _
      rw [hstate]
      exact hstate' ▸ hpictures
    · exact congrArg₂ (· + ·) hcount hcount'

end Pictures

/-- The first places of a tree are gone through without a fault, and leave their picture. -/
theorem pictures_of_prefix {tree : Descriptor} (hdistinct : (tree.nodes.map Descriptor.id).Nodup)
    (hheight : tree.height ≤ chainLimit + 1)
    (hfaultless : ∀ node ∈ tree.nodes,
      (empty.create node.id node.kind node.properties).result.isOk = true)
    {before after : List Place} (hsplit : tree.places = before ++ after) :
    ∃ report, (empty.applyAll (before.flatMap Place.ops)).result = .ok report ∧
      (empty.applyAll (before.flatMap Place.ops)).state.Pictures before ∧
      report.applied = before.countP (·.node.kind.isSupported) + before.countP Place.isLinked := by
  -- Places are added at the end, and what is known of the order holds of every first part of it.
  induction before using List.reverseRecOn generalizing after with
  | nil => exact ⟨{}, rfl, pictures_empty, rfl⟩
  | append_singleton before place ih =>
      have hnext := tree.grounded_of_prefix hdistinct hsplit
      rw [List.append_assoc] at hsplit
      have hgrounded := tree.grounded_of_prefix hdistinct hsplit
      obtain ⟨report, hreport, hpictures, happlied⟩ := ih hsplit
      have hnode : place.node ∈ tree.nodes := by
        rw [Descriptor.nodes, hsplit]
        exact List.mem_map_of_mem (by simp)
      obtain ⟨verdict, hresult⟩ := hpictures.exists_verdict hnext.fresh (hfaultless _ hnode)
      obtain ⟨report', hreport', hpictures', happlied'⟩ :=
        hpictures.step hgrounded hnext hheight hresult
      rw [List.flatMap_append, List.flatMap_singleton, applyAll_append,
        Outcome.andThen_of_ok hreport]
      refine ⟨report.add report', ?_, hpictures', ?_⟩
      · simp only [Outcome.after, Outcome.map, hreport']
        rfl
      · rw [List.countP_append, List.countP_append, List.countP_singleton, List.countP_singleton]
        simp only [Report.add, happlied, happlied', Bool.toNat, cond_eq_ite]
        omega

end Graph

end LiveScene
