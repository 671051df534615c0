import LiveScene.Proofs.Atomicity
import LiveScene.Proofs.Linking

/-! # The order of links

Children without a parent can be linked in any order, as long as the links together make a forest
that is not too high. No order is refused, since what stands above a node while only some of the links
are there stands above it in the whole forest too. What comes out differs only in the order of
children, and not even in that when the links to each parent come in the same order.
-/

namespace LiveScene

/-! ## Several links of one node -/

namespace Node

/-- The node with more children, each with its category. -/
def putAll (node : Node) (entries : List (Category × NodeId)) : Node :=
  entries.foldl (fun node entry => node.put entry.1 entry.2) node

def childless (node : Node) : Node :=
  { node with children := [] }

theorem children_putAll (node : Node) (entries : List (Category × NodeId)) :
    (node.putAll entries).children =
      node.children ++ (entries.filter (·.1 = .generic)).map Prod.snd := by
  unfold putAll
  induction entries generalizing node with
  | nil => simp
  | cons entry rest ih =>
      rw [List.foldl_cons, ih]
      by_cases hgeneric : entry.1 = .generic
      · simp [hgeneric, put, pushChild]
      · rw [node.put_eq_setSlot hgeneric, children_setSlot]
        simp [hgeneric]

/-- What goes into the slots does not depend on the children. -/
theorem childless_put (node : Node) (category : Category) (child : NodeId) :
    (node.put category child).childless = (node.childless.put category child).childless := by
  rcases node with ⟨_, _, _, _, _, role⟩
  cases category <;> cases role <;> rfl

theorem childless_putAll (node : Node) (entries : List (Category × NodeId)) :
    (node.putAll entries).childless =
      entries.foldl (fun node entry => (node.put entry.1 entry.2).childless) node.childless := by
  unfold putAll
  induction entries generalizing node with
  | nil => rfl
  | cons entry rest ih => rw [List.foldl_cons, ih, List.foldl_cons, childless_put]

/-- Two children do not get in the way of each other, unless they need the same slot. -/
theorem childless_put_put {category category' : Category}
    (hslots : category = category' → category = .generic) (node : Node) (child child' : NodeId) :
    ((node.put category child).childless.put category' child').childless =
      ((node.put category' child').childless.put category child).childless := by
  rcases node with ⟨_, _, _, _, _, role⟩
  by_cases hsame : category = category'
  · subst hsame
    rw [hslots rfl]
    rfl
  · cases category <;> cases category' <;> first | exact absurd rfl hsame | cases role <;> rfl

/-- Children in another order make a difference for the list of children only. -/
theorem childless_putAll_of_perm {entries entries' : List (Category × NodeId)}
    (hperm : entries.Perm entries')
    (hsingle : ∀ entry ∈ entries, ∀ other ∈ entries, entry.1 = other.1 → entry.1 ≠ .generic →
      entry = other) (node : Node) :
    (node.putAll entries).childless = (node.putAll entries').childless := by
  rw [childless_putAll, childless_putAll]
  refine hperm.foldl_eq' (fun entry hentry other hother node' => ?_) node.childless
  by_cases hsame : entry = other
  · rw [hsame]
  · refine childless_put_put (fun hcategory => ?_) node' entry.2 other.2
    by_contra hgeneric
    exact hsame (hsingle entry hentry other hother hcategory hgeneric)

end Node

namespace Object

/-- Changes a node; other objects are left alone. -/
def onNode (object : Object) (f : Node → Node) : Object :=
  match object.body with
  | .node node => { object with body := .node (f node) }
  | _ => object

def childless (object : Object) : Object :=
  object.onNode Node.childless

theorem node?_onNode (object : Object) (f : Node → Node) :
    (object.onNode f).node? = object.node?.map f := by
  rcases object with ⟨name, body⟩
  cases body <;> rfl

theorem onNode_onNode (object : Object) (f f' : Node → Node) :
    (object.onNode f).onNode f' = object.onNode fun node => f' (f node) := by
  rcases object with ⟨name, body⟩
  cases body <;> rfl

theorem onNode_id (object : Object) : object.onNode (fun node => node) = object := by
  rcases object with ⟨name, body⟩
  cases body <;> rfl

end Object

/-- A child and the parent it is to be linked under. -/
structure Link where
  parent : NodeId
  child : NodeId
deriving DecidableEq

def Link.op (link : Link) : Op := .attach link.parent link.child

namespace Graph

/-! ## Graphs with more links -/

def category (g : Graph) (id : NodeId) : Category :=
  ((g.kind? id).map Kind.category).getD .generic

/-- The graph with parents recorded for some children, and nothing else changed. -/
def recordAll (g : Graph) (links : List Link) : Graph :=
  links.foldl (fun g link => g.setParent link.child (some link.parent)) g

/-- The graph with one more link, on both ends. -/
def join (g : Graph) (link : Link) : Graph :=
  ((g.unmount link.child).modify link.parent fun object =>
    object.onNode (·.put (g.category link.child) link.child)).setParent link.child (some link.parent)

def joinAll (g : Graph) (links : List Link) : Graph :=
  links.foldl join g

/-- What a node gets from some links. -/
def entries (g : Graph) (links : List Link) (parent : NodeId) : List (Category × NodeId) :=
  (links.filter (·.parent = parent)).map fun link => (g.category link.child, link.child)

theorem node?_join (g : Graph) (link : Link) (id : NodeId) :
    (g.join link).node? id =
      if link.parent = id then
        (g.node? id).map (·.put (g.category link.child) link.child)
      else g.node? id := by
  change (((g.unmount link.child).modify link.parent _).object? id).bind Object.node? = _
  rw [object?_modify]
  split
  next =>
    change ((g.object? id).map _).bind Object.node? = ((g.object? id).bind Object.node?).map _
    cases g.object? id with
    | none => rfl
    | some object => exact object.node?_onNode _
  next => rfl

/-- What is known to be a node is changed like any object. -/
theorem setNode_eq_modify {g : Graph} {id : NodeId} {node : Node} (hnode : g.node? id = some node)
    (f : Node → Node) : g.setNode id (f node) = g.modify id (·.onNode f) := by
  have hobjects : (g.setNode id (f node)).objects = (g.modify id (·.onNode f)).objects := by
    apply Std.ExtTreeMap.ext_getElem?
    intro other
    change (g.modify id _).object? other = (g.modify id _).object? other
    rw [object?_modify, object?_modify]
    split
    next heq =>
      subst heq
      obtain ⟨⟨name, body⟩, hobject, hbody⟩ := node?_eq_some_iff.mp hnode
      rw [hobject]
      cases body <;> cases hbody
      rfl
    next => rfl
  exact congrArg (fun objects => { g with objects }) hobjects

/-- A link is made by putting the child in and recording its parent. -/
theorem join_eq_link {g : Graph} {link : Link} {node : Node}
    (hnode : g.node? link.parent = some node) :
    g.join link =
      (g.unmount link.child).link link.parent link.child node (g.category link.child) := by
  have hnode' : (g.unmount link.child).node? link.parent = some node := hnode
  rw [join, Graph.link, setNode_eq_modify hnode' (·.put (g.category link.child) link.child)]

/-- A node ends up with all that the links to it bring, in their order. -/
theorem object?_joinAll (g : Graph) (links : List Link) (id : NodeId) :
    (g.joinAll links).object? id =
      (g.object? id).map fun object => object.onNode (·.putAll (g.entries links id)) := by
  unfold joinAll
  induction links generalizing g with
  | nil =>
      rw [List.foldl_nil]
      cases g.object? id with
      | none => rfl
      | some object => exact congrArg some object.onNode_id.symm
  | cons link rest ih =>
      rw [List.foldl_cons, ih]
      change (((g.unmount link.child).modify link.parent _).object? id).map
        (fun object => object.onNode (·.putAll (g.entries rest id))) = _
      rw [object?_modify]
      change (if link.parent = id then (g.object? id).map _ else g.object? id).map _ = _
      by_cases hparent : link.parent = id
      · rw [if_pos hparent, Option.map_map]
        congr 1
        funext object
        simp [Object.onNode_onNode, entries, hparent, Node.putAll]
      · simp [entries, hparent]

theorem node?_joinAll (g : Graph) (links : List Link) (id : NodeId) :
    (g.joinAll links).node? id = (g.node? id).map (·.putAll (g.entries links id)) := by
  rw [node?, object?_joinAll, node?]
  cases g.object? id with
  | none => rfl
  | some object => exact object.node?_onNode _

/-- What does not depend on the order of links. -/
theorem frame_joinAll (g : Graph) (links : List Link) :
    (g.joinAll links).kinds = g.kinds ∧ (g.joinAll links).active = g.active ∧
      (g.joinAll links).released = g.released ∧ (g.joinAll links).lastHandle = g.lastHandle ∧
      (g.joinAll links).scenes = g.scenes.filter fun id => ∀ link ∈ links, id ≠ link.child := by
  unfold joinAll
  induction links generalizing g with
  | nil => simp
  | cons link rest ih =>
      obtain ⟨hkinds, hactive, hreleased, hhandle, hscenes⟩ := ih (g.join link)
      refine ⟨hkinds, hactive, hreleased, hhandle, ?_⟩
      rw [List.foldl_cons, hscenes]
      change (g.scenes.filter (· ≠ link.child)).filter _ = _
      rw [List.filter_filter]
      congr 1
      funext id
      simp [Bool.and_comm]

theorem parents_recordAll {g g' : Graph} (hparents : g'.parents = g.parents) (links : List Link) :
    (g'.recordAll links).parents = (g.recordAll links).parents := by
  unfold recordAll
  induction links generalizing g g' with
  | nil => exact hparents
  | cons link rest ih =>
      refine ih ?_
      simp only [setParent, hparents]

theorem parents_joinAll (g : Graph) (links : List Link) :
    (g.joinAll links).parents = (g.recordAll links).parents := by
  unfold joinAll
  induction links generalizing g with
  | nil => rfl
  | cons link rest ih =>
      have hparents : (g.join link).parents = (g.setParent link.child (some link.parent)).parents := rfl
      rw [List.foldl_cons, ih]
      exact parents_recordAll hparents rest

section

variable {g : Graph} {links : List Link}

theorem recordAll_of_perm {order : List Link} (hperm : order.Perm links)
    (hnodup : (order.map Link.child).Nodup) : g.recordAll order = g.recordAll links := by
  refine hperm.foldl_eq' (fun link hlink other hother g' => ?_) g
  by_cases hchild : link.child = other.child
  · rw [List.inj_on_of_nodup_map hnodup hlink hother hchild]
  · exact g'.setParent_comm hchild _ _

theorem parent?_recordAll_of_not_mem {id : NodeId} (hid : ∀ link ∈ links, link.child ≠ id) :
    (g.recordAll links).parent? id = g.parent? id := by
  unfold recordAll
  induction links generalizing g with
  | nil => rfl
  | cons link rest ih =>
      obtain ⟨hhead, hrest⟩ := List.forall_mem_cons.mp hid
      rw [List.foldl_cons, ih hrest, parent?_setParent, if_neg fun h => hhead h.1]

theorem parent?_recordAll_of_mem (hg : g.TablesAgree) (hnodup : (links.map Link.child).Nodup)
    {link : Link} (hlink : link ∈ links) (hlive : (g.kind? link.child).isSome) :
    (g.recordAll links).parent? link.child = some link.parent := by
  induction links generalizing g with
  | nil => cases hlink
  | cons head rest ih =>
      obtain ⟨hhead, hrest⟩ := List.nodup_cons.mp hnodup
      rcases List.mem_cons.mp hlink with rfl | hmem
      · have hother : ∀ other ∈ rest, other.child ≠ link.child := fun other hmem heq =>
          hhead (heq ▸ List.mem_map_of_mem hmem)
        change ((g.setParent link.child (some link.parent)).recordAll rest).parent? link.child = _
        rw [parent?_recordAll_of_not_mem hother, hg.parent?_setParent hlive, if_pos rfl]
      · exact ih (hg.setParent _ _) hrest hmem hlive

end

/-! ## Links that can be made -/

/-- Links that can all be made. Each child is live, has no parent and is of a kind that its parent
takes; what goes into a slot finds it empty and alone; and in the forest with all links no child has
more ancestors than are looked at, its parent included. A link that closes a cycle would give its
child endlessly many. -/
structure Linkable (g : Graph) (links : List Link) : Prop where
  nodup : (links.map Link.child).Nodup
  parentless : ∀ link ∈ links, g.parent? link.child = none
  takes : ∀ link ∈ links, ∃ upper ∈ g.kind? link.parent, ∃ lower ∈ g.kind? link.child,
    upper.takes lower = true
  room : ∀ link ∈ links, g.category link.child ≠ .generic →
    ∀ node ∈ g.node? link.parent, node.slot? (g.category link.child) = none
  single : ∀ link ∈ links, ∀ other ∈ links, link.parent = other.parent →
    g.category link.child = g.category other.child → g.category link.child ≠ .generic → link = other
  height : ∀ link ∈ links, (g.recordAll links).ancestor? (chainLimit + 2) link.child = none

theorem Linkable.of_perm {g : Graph} {links order : List Link} (h : g.Linkable links)
    (hperm : order.Perm links) : g.Linkable order where
  nodup := (hperm.map _).nodup_iff.mpr h.nodup
  parentless link hlink := h.parentless link (hperm.mem_iff.mp hlink)
  takes link hlink := h.takes link (hperm.mem_iff.mp hlink)
  room link hlink := h.room link (hperm.mem_iff.mp hlink)
  single link hlink other hother :=
    h.single link (hperm.mem_iff.mp hlink) other (hperm.mem_iff.mp hother)
  height link hlink := by
    rw [recordAll_of_perm hperm ((hperm.map _).nodup_iff.mpr h.nodup)]
    exact h.height link (hperm.mem_iff.mp hlink)

section

variable {g : Graph} {link : Link} {rest : List Link} (hg : g.Consistent)
  (h : g.Linkable (link :: rest))

include h

theorem Linkable.isSome_kind? : (g.kind? link.child).isSome := by
  obtain ⟨upper, -, lower, hlower, -⟩ := h.takes link List.mem_cons_self
  rw [Option.mem_def.mp hlower]
  rfl

theorem Linkable.child_ne {other : Link} (hother : other ∈ rest) : link.child ≠ other.child :=
  fun heq => (List.nodup_cons.mp h.nodup).1 (heq ▸ List.mem_map_of_mem hother)

/-- What is left can still be linked when the first link has been made. -/
theorem Linkable.join : (g.join link).Linkable rest where
  nodup := (List.nodup_cons.mp h.nodup).2
  parentless other hother := by
    change ((g.unmount link.child).modify link.parent _ |>.setParent link.child _).parent? _ = none
    rw [parent?_setParent, if_neg fun heq => h.child_ne hother heq.1]
    exact h.parentless other (List.mem_cons_of_mem _ hother)
  takes other hother := h.takes other (List.mem_cons_of_mem _ hother)
  room other hother hcategory node hnode := by
    have hroom := h.room other (List.mem_cons_of_mem _ hother) hcategory
    rw [Option.mem_def, node?_join] at hnode
    split at hnode
    next hparent =>
      obtain ⟨before, hbefore, rfl⟩ := Option.map_eq_some_iff.mp hnode
      have hempty : before.slot? (g.category other.child) = none := hroom before hbefore
      by_cases hgeneric : g.category link.child = .generic
      · rw [hgeneric]
        exact hempty
      · -- Two children for one slot would be the same link.
        have hslots : g.category other.child ≠ g.category link.child := by
          intro heq
          have hsame := h.single link List.mem_cons_self other (List.mem_cons_of_mem _ hother)
            hparent heq.symm hgeneric
          exact h.child_ne hother (congrArg Link.child hsame)
        change (before.put (g.category link.child) link.child).slot? (g.category other.child) = none
        rw [before.put_eq_setSlot hgeneric, Node.slot?_setSlot_of_ne hslots]
        exact hempty
    next => exact hroom node hnode
  single first hfirst second hsecond :=
    h.single first (List.mem_cons_of_mem _ hfirst) second (List.mem_cons_of_mem _ hsecond)
  height other hother := by
    have hparents : (g.join link).parents = (g.setParent link.child (some link.parent)).parents := rfl
    rw [ancestor?_of_parents_eq (parents_recordAll hparents rest)]
    exact h.height other (List.mem_cons_of_mem _ hother)

/-- The links that are there are links of the whole forest. -/
theorem Linkable.parent?_imp (id above : NodeId) (habove : g.parent? id = some above) :
    (g.recordAll (link :: rest)).parent? id = some above := by
  rw [parent?_recordAll_of_not_mem, habove]
  rintro other hother rfl
  rw [h.parentless other hother] at habove
  cases habove

include hg

/-- In the whole forest the child stands right under its parent. -/
theorem Linkable.ancestor?_succ (n : Nat) :
    (g.recordAll (link :: rest)).ancestor? (n + 1) link.child =
      (g.recordAll (link :: rest)).ancestor? n link.parent := by
  rw [ancestor?, parent?_recordAll_of_mem hg.toTablesAgree h.nodup List.mem_cons_self
    h.isSome_kind?]
  rfl

/-- A child does not stand above its parent, or it would stand above itself in the forest. -/
theorem Linkable.avoids (n : Nat) : g.ancestor? n link.parent ≠ some link.child := by
  intro habove
  have hloop : (g.recordAll (link :: rest)).ancestor? (n + 1) link.child = some link.child := by
    rw [h.ancestor?_succ hg]
    exact ancestor?_of_parent?_imp h.parent?_imp habove
  have hround := ancestor?_mul hloop (chainLimit + 2)
  rw [ancestor?_eq_none_of_le _ (Nat.le_mul_of_pos_right _ n.succ_pos)
    (h.height link List.mem_cons_self)] at hround
  cases hround

theorem Linkable.isAncestor_eq_false : g.isAncestor link.child link.parent = false := by
  rw [Bool.eq_false_iff, ne_eq, isAncestor, chainReaches_iff]
  rintro (⟨n, -, hreach⟩ | hlong)
  · exact h.avoids hg (n + 1) hreach
  · obtain ⟨above, habove⟩ := Option.isSome_iff_exists.mp hlong
    have hforest : (g.recordAll (link :: rest)).ancestor? (chainLimit + 1) link.parent = some above :=
      ancestor?_of_parent?_imp h.parent?_imp habove
    rw [← h.ancestor?_succ hg, h.height link List.mem_cons_self] at hforest
    cases hforest

/-- The first link is made, whatever the others are. -/
theorem Linkable.attach_eq :
    g.attach link.parent link.child = (g.join link, .ok ()) := by
  obtain ⟨upper, hupper, lower, hlower, htakes⟩ := h.takes link List.mem_cons_self
  rw [Option.mem_def] at hupper hlower
  have hne : link.parent ≠ link.child := fun heq => h.avoids hg 0 (congrArg some heq)
  have hfree : g.parent? link.child = none := h.parentless link List.mem_cons_self
  have hunlink : g.unlink link.child = g := by simp only [unlink, hfree]
  have hcategory : g.category link.child = lower.category := by simp [category, hlower]
  obtain ⟨node, hnode, hrole⟩ := hg.exists_node? hupper (Kind.category_of_takes htakes)
  rw [join_eq_link hnode, hcategory]
  simp only [Graph.attach, hupper, hlower, if_neg hne]
  by_cases hgeneric : lower.category = .generic
  · have hacyclic := h.isAncestor_eq_false hg
    simp only [if_pos hgeneric, attachToNode, hnode, hacyclic, hunlink, Bool.false_eq_true, if_false]
    have hmounted : (if lower = .scene then g.unmount link.child else g) = g.unmount link.child := by
      split
      next => rfl
      next hscene => exact (hg.unmount_of_kind_ne hlower hscene).symm
    have hnode' : (g.unmount link.child).node? link.parent = some node := hnode
    rw [hmounted, hnode', hgeneric]
    rfl
  · cases Kind.eq_mesh_of_takes htakes hgeneric
    have hmesh : node.isMesh = true := node.isMesh_iff.mpr hrole
    have hslot : node.slot? lower.category = none :=
      hcategory ▸ h.room link List.mem_cons_self (hcategory ▸ hgeneric) node hnode
    have hscene : lower ≠ .scene := by
      rintro rfl
      exact hgeneric rfl
    simp only [if_neg hgeneric, ne_eq, not_true_eq_false, if_false, attachToSlot, hunlink, hnode,
      Option.filter_some, hmesh, if_true, hslot, hg.unmount_of_kind_ne hlower hscene, Graph.link,
      node.put_eq_setSlot hgeneric]

theorem Linkable.consistent_join : (g.join link).Consistent := by
  have hattach := hg.attach link.parent link.child
  rwa [h.attach_eq hg] at hattach

end

/-- All links are made, one after the other. -/
theorem Linkable.applyAll {g : Graph} {links : List Link} (h : g.Linkable links)
    (hg : g.Consistent) :
    (g.applyAll (links.map Link.op)).state = g.joinAll links ∧
      (g.applyAll (links.map Link.op)).result = .ok ⟨links.length, 0⟩ := by
  induction links generalizing g with
  | nil => exact ⟨rfl, rfl⟩
  | cons link rest ih =>
      have happly : g.apply link.op = .done (g.join link) (.ok ()) := by
        simp only [Link.op, Graph.apply, h.attach_eq hg]
      have hverdict : (g.apply link.op).result = .ok (.ok ()) := by
        rw [happly]
        rfl
      obtain ⟨hstate, hresult⟩ := applyAll_of_verdict hverdict (rest.map Link.op)
      obtain ⟨hstate', hresult'⟩ := ih h.join (h.consistent_join hg)
      rw [happly] at hstate hresult
      rw [List.map_cons, hstate, hresult]
      refine ⟨hstate', ?_⟩
      change ((g.join link).applyAll (rest.map Link.op)).result.map _ = _
      rw [hresult', List.length_cons, Nat.add_comm]
      rfl

/-! ## Any two orders -/

/-- Graphs that are the same up to the order of children. -/
structure Reordered (g g' : Graph) : Prop where
  kinds : g.kinds = g'.kinds
  parents : g.parents = g'.parents
  active : g.active = g'.active
  scenes : g.scenes = g'.scenes
  released : g.released = g'.released
  lastHandle : g.lastHandle = g'.lastHandle
  objects : ∀ id, (g.object? id).map Object.childless = (g'.object? id).map Object.childless
  children : ∀ id node node', g.node? id = some node → g'.node? id = some node' →
    node.children.Perm node'.children

theorem Linkable.single_entries {g : Graph} {links : List Link} (h : g.Linkable links)
    (parent : NodeId) :
    ∀ entry ∈ g.entries links parent, ∀ other ∈ g.entries links parent, entry.1 = other.1 →
      entry.1 ≠ .generic → entry = other := by
  simp only [entries, List.mem_map, List.mem_filter, decide_eq_true_eq]
  rintro _ ⟨link, ⟨hlink, rfl⟩, rfl⟩ _ ⟨other, ⟨hother, hparent⟩, rfl⟩ hcategory hgeneric
  rw [h.single link hlink other hother hparent.symm hcategory hgeneric]

theorem Linkable.reordered_joinAll {g : Graph} {order order' : List Link} (h : g.Linkable order)
    (hperm : order.Perm order') : (g.joinAll order).Reordered (g.joinAll order') := by
  obtain ⟨hkinds, hactive, hreleased, hhandle, hscenes⟩ := g.frame_joinAll order
  obtain ⟨hkinds', hactive', hreleased', hhandle', hscenes'⟩ := g.frame_joinAll order'
  have hentries : ∀ id, (g.entries order id).Perm (g.entries order' id) := fun id =>
    (hperm.filter _).map _
  refine ⟨by rw [hkinds, hkinds'], ?_, by rw [hactive, hactive'], ?_, by rw [hreleased, hreleased'],
    by rw [hhandle, hhandle'], fun id => ?_, fun id node node' hnode hnode' => ?_⟩
  · rw [parents_joinAll, parents_joinAll, recordAll_of_perm hperm h.nodup]
  · simp only [hscenes, hscenes', hperm.mem_iff]
  · rw [object?_joinAll, object?_joinAll, Option.map_map, Option.map_map]
    congr 1
    funext object
    simp only [Function.comp_apply, Object.childless, Object.onNode_onNode,
      Node.childless_putAll_of_perm (hentries id) (h.single_entries id)]
  · rw [node?_joinAll] at hnode hnode'
    obtain ⟨before, hbefore, rfl⟩ := Option.map_eq_some_iff.mp hnode
    obtain ⟨before', hbefore', rfl⟩ := Option.map_eq_some_iff.mp hnode'
    cases hbefore.symm.trans hbefore'
    rw [Node.children_putAll, Node.children_putAll]
    exact (((hentries id).filter _).map _).append_left _

/-- Links to each parent in the same order make the same graph. -/
theorem Linkable.joinAll_eq {g : Graph} {order order' : List Link} (h : g.Linkable order)
    (hperm : order.Perm order')
    (hsame : ∀ parent, order.filter (·.parent = parent) = order'.filter (·.parent = parent)) :
    g.joinAll order = g.joinAll order' := by
  have hreordered := h.reordered_joinAll hperm
  have hobjects : (g.joinAll order).objects = (g.joinAll order').objects := by
    apply Std.ExtTreeMap.ext_getElem?
    intro id
    change (g.joinAll order).object? id = (g.joinAll order').object? id
    rw [object?_joinAll, object?_joinAll, entries, entries, hsame id]
  cases hleft : g.joinAll order
  cases hright : g.joinAll order'
  rw [hleft, hright] at hreordered hobjects
  simp only [Graph.mk.injEq]
  exact ⟨hobjects, hreordered.kinds, hreordered.parents, hreordered.active, hreordered.scenes,
    hreordered.released, hreordered.lastHandle⟩

/-- The order of links does not matter. Links that can be made on the graph that any commands led to
are all made in whatever order they come, every parent is then the recorded one, and two orders
lead to graphs that differ at most in the order of children; two orders in which the links to each
parent come in the same order lead to the same graph. -/
theorem link_order_irrelevant (commands : List Command) {links order order' : List Link}
    (hlinks : (run commands).Linkable links) (horder : order.Perm links)
    (horder' : order'.Perm links) :
    let made := (run commands).applyAll (order.map Link.op)
    let made' := (run commands).applyAll (order'.map Link.op)
    made.result = .ok ⟨links.length, 0⟩ ∧ made'.result = .ok ⟨links.length, 0⟩ ∧
      made.state.parents = ((run commands).recordAll links).parents ∧
      made.state.Reordered made'.state ∧
      ((∀ parent, order.filter (·.parent = parent) = order'.filter (·.parent = parent)) →
        made.state = made'.state) := by
  intro made made'
  have hg := consistent_run commands
  have hperm : order.Perm order' := horder.trans horder'.symm
  have hlinkable := hlinks.of_perm horder
  obtain ⟨hstate, hresult⟩ := hlinkable.applyAll hg
  obtain ⟨hstate', hresult'⟩ := (hlinks.of_perm horder').applyAll hg
  rw [hstate, hstate', hresult, hresult', horder.length_eq, horder'.length_eq]
  refine ⟨rfl, rfl, ?_, hlinkable.reordered_joinAll hperm, hlinkable.joinAll_eq hperm⟩
  rw [parents_joinAll, recordAll_of_perm horder hlinkable.nodup]

/-- A mesh with its geometry and its material goes into a scene that goes into another, from the top
or from the bottom. -/
theorem link_order_irrelevant_nested :
    let commands : List Command :=
      [.apply (.create ⟨1⟩ .scene []), .apply (.create ⟨2⟩ .scene []),
        .apply (.create ⟨3⟩ .mesh []), .apply (.create ⟨4⟩ .boxGeometry []),
        .apply (.create ⟨5⟩ .standardMaterial []), .apply (.create ⟨6⟩ .group [])]
    let links : List Link := [⟨⟨1⟩, ⟨2⟩⟩, ⟨⟨2⟩, ⟨3⟩⟩, ⟨⟨3⟩, ⟨4⟩⟩, ⟨⟨3⟩, ⟨5⟩⟩, ⟨⟨1⟩, ⟨6⟩⟩]
    let down := (run commands).applyAll (links.map Link.op)
    let up := (run commands).applyAll (links.reverse.map Link.op)
    down.result = .ok ⟨5, 0⟩ ∧ up.result = .ok ⟨5, 0⟩ ∧ down.state.Reordered up.state ∧
      (down.state.node? ⟨1⟩).map Node.children = some [⟨2⟩, ⟨6⟩] ∧
      (up.state.node? ⟨1⟩).map Node.children = some [⟨6⟩, ⟨2⟩] := by
  intro commands links down up
  have hlinks : (run commands).Linkable links :=
    ⟨by decide, by decide +kernel, by decide +kernel, by decide +kernel, by decide +kernel,
      by decide +kernel⟩
  obtain ⟨hdown, hup, -, hreordered, -⟩ :=
    link_order_irrelevant commands hlinks (.refl links) (List.reverse_perm links)
  exact ⟨hdown, hup, hreordered, by decide +kernel, by decide +kernel⟩

end Graph

end LiveScene
