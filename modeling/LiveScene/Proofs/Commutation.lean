import LiveScene.Proofs.Impacts
import LiveScene.Proofs.Relinking

/-! # Operations that commute

Properties and links have nothing to do with each other, although both are kept in the same objects:
setting a property neither reads nor changes links, and linking neither reads nor changes anything
else of an object. Two properties of different ids come into touch only through what the graph has
once: the selection and the count of handles.
-/

namespace LiveScene

namespace Node

/-! ## Links and the rest of a node -/

theorem ext_core {node node' : Node} (hcore : node.core = node'.core)
    (hlinks : node.links = node'.links) : node = node' := by
  rcases node with ⟨transform, visible, castShadow, receiveShadow, children, role⟩
  rcases node' with ⟨transform', visible', castShadow', receiveShadow', children', role'⟩
  obtain ⟨hchildren, hslots⟩ := Prod.mk.inj hlinks
  simp only [core, mk.injEq, true_and] at hcore hchildren ⊢
  obtain ⟨htransform, hvisible, hcast, hreceive, hrole⟩ := hcore
  refine ⟨htransform, hvisible, hcast, hreceive, hchildren, ?_⟩
  cases role <;> cases role' <;> simp_all [slots]

theorem isMesh_core (node : Node) : node.core.isMesh = node.isMesh := by
  rcases node with ⟨_, _, _, _, _, role⟩
  cases role <;> rfl

theorem role_kind_core (node : Node) : node.core.role.kind = node.role.kind := by
  rcases node with ⟨_, _, _, _, _, role⟩
  cases role <;> rfl

/-- A property is set on a node regardless of its links. -/
theorem core_set? (node : Node) (property : Property) :
    (node.set? property).map core = node.core.set? property := by
  rcases node with ⟨_, _, _, _, _, role⟩
  cases property <;> cases role <;> rfl

theorem role_core_eq_camera_iff (node : Node) (camera : Camera) :
    node.core.role = .camera camera ↔ node.role = .camera camera := by
  rcases node with ⟨_, _, _, _, _, role⟩
  cases role <;> simp [core]

/-- A change of the links of a node and of nothing else. What becomes of the links depends on them
alone, and on whether there are slots. -/
structure Rewires (f : Node → Node) : Prop where
  core : ∀ node, (f node).core = node.core
  links : ∀ node node', node.isMesh = node'.isMesh → node.links = node'.links →
    (f node).links = (f node').links

namespace Rewires

variable {f f' : Node → Node}

theorem refl : Rewires fun node => node :=
  ⟨fun _ => rfl, fun _ _ _ hlinks => hlinks⟩

theorem isMesh (hf : Rewires f) (node : Node) : (f node).isMesh = node.isMesh := by
  rw [← isMesh_core, hf.core, isMesh_core]

theorem comp (hf : Rewires f) (hf' : Rewires f') : Rewires fun node => f' (f node) := by
  refine ⟨fun node => ?_, fun node node' hmesh hlinks => ?_⟩
  · rw [hf'.core, hf.core]
  · refine hf'.links _ _ ?_ (hf.links node node' hmesh hlinks)
    rw [hf.isMesh, hf.isMesh, hmesh]

theorem set? (hf : Rewires f) (node : Node) (property : Property) :
    (f node).set? property = (node.set? property).map f := by
  have hcore : ((f node).set? property).map Node.core = (node.set? property).map Node.core := by
    rw [core_set?, core_set?, hf.core]
  cases hset : node.set? property with
  | none => simpa [hset] using hcore
  | some after =>
      rw [hset, Option.map_some, Option.map_eq_some_iff] at hcore
      obtain ⟨after', hset', hsame⟩ := hcore
      obtain ⟨hlinks, hkind⟩ := Node.links_of_set? hset
      obtain ⟨hlinks', -⟩ := Node.links_of_set? hset'
      have hmesh : node.isMesh = after.isMesh := by
        rw [Bool.eq_iff_iff, node.isMesh_iff, after.isMesh_iff, hkind]
      rw [hset', Option.map_some]
      refine congrArg some (ext_core ?_ ?_)
      · rw [hf.core, hsame]
      · rw [hlinks', hf.links node after hmesh hlinks.symm]

/-- A lens is set on a node regardless of its links. -/
theorem setCamera (hf : Rewires f) {node : Node} {camera : Camera} (hrole : node.role = .camera camera)
    (camera' : Camera) :
    f { node with role := .camera camera' } = { f node with role := .camera camera' } := by
  have hrole' : (f node).role = .camera camera := by
    rw [← role_core_eq_camera_iff, hf.core, role_core_eq_camera_iff, hrole]
  have hlinks : ∀ {node : Node}, node.role = .camera camera →
      ({ node with role := .camera camera' } : Node).links = node.links := by
    intro node hrole
    simp only [Node.links, slots, hrole]
  refine ext_core ?_ ?_
  · rw [hf.core]
    exact congrArg (fun core : Node => { core with role := .camera camera' }) (hf.core node).symm
  · rw [hlinks hrole', hf.links _ node ?_ (hlinks hrole)]
    simp only [Node.isMesh, hrole]

end Rewires

theorem rewires_without (child : NodeId) : Rewires (·.without child) := by
  refine ⟨fun node => ?_, fun node node' _ hlinks => ?_⟩
  · rcases node with ⟨_, _, _, _, _, role⟩
    cases role <;> rfl
  · have hwithout : ∀ node : Node, (node.without child).links =
        (node.links.1.filter (· ≠ child), ⟨node.links.2.geometry.filter (· ≠ child),
          node.links.2.material.filter (· ≠ child)⟩) := by
      rintro ⟨_, _, _, _, _, role⟩
      cases role <;> rfl
    rw [hwithout, hwithout, hlinks]

theorem rewires_put (category : Category) (child : NodeId) : Rewires (·.put category child) := by
  refine ⟨fun node => ?_, fun node node' hmesh hlinks => ?_⟩
  · cases category with
    | generic => rfl
    | geometry => exact node.core_setSlot .geometry (some child)
    | material => exact node.core_setSlot .material (some child)
  · rcases node with ⟨_, _, _, _, children, role⟩
    rcases node' with ⟨_, _, _, _, children', role'⟩
    cases category <;> cases role <;> cases role' <;>
      simp_all [links, slots, put, pushChild, setSlot, Node.isMesh]

end Node

/-! ## Properties of rewired objects -/

namespace Object

variable {f : Node → Node} (hf : Node.Rewires f)

include hf

theorem kind_onNode (object : Object) : (object.onNode f).kind = object.kind := by
  rcases object with ⟨name, body⟩
  cases body with
  | node node =>
      change (f node).role.kind = node.role.kind
      rw [← Node.role_kind_core, hf.core, Node.role_kind_core]
  | _ => rfl

theorem camera?_onNode (object : Object) : (object.onNode f).camera? = object.camera? := by
  refine Option.ext fun camera => ?_
  rw [camera?_eq_some_iff, camera?_eq_some_iff]
  rcases object with ⟨name, body⟩
  cases body with
  | node node =>
      have hrole : (f node).role = .camera camera ↔ node.role = .camera camera := by
        rw [← Node.role_core_eq_camera_iff, hf.core, Node.role_core_eq_camera_iff]
      simp [onNode, hrole]
  | _ => rfl

theorem set?_onNode (object : Object) (property : Property) :
    (object.onNode f).set? property = (object.set? property).map (·.onNode f) := by
  rcases object with ⟨name, body⟩
  cases body with
  | node node =>
      cases property with
      | name name => rfl
      | _ =>
          simp only [onNode, set?, hf.set?, Option.map_map]
          rfl
  | geometry geometry => cases property <;> rfl
  | material material =>
      cases property with
      | name name => rfl
      | _ =>
          simp only [onNode, set?, Option.map_map]
          rfl

theorem setLens_onNode (object : Object) (property : Property) :
    (object.onNode f).setLens property = (object.setLens property).within (·.onNode f) := by
  unfold setLens
  rw [object.camera?_onNode hf]
  cases hset : object.camera?.bind (·.set? property) with
  | none => rfl
  | some camera =>
      obtain ⟨before, hbefore, -⟩ := Option.bind_eq_some_iff.mp hset
      obtain ⟨node, hbody, hrole⟩ := camera?_eq_some_iff.mp hbefore
      have hcamera : ∀ camera : Camera,
          (object.onNode f).onNode (fun node => { node with role := .camera camera }) =
            (object.onNode fun node => { node with role := .camera camera }).onNode f := by
        intro camera
        simp only [onNode, hbody, hf.setCamera hrole]
      simp only [Outcome.map, Outcome.within, hcamera]

/-- What a property does to an object does not depend on links, and leaves them to be changed later. -/
theorem impact_onNode (object : Object) (id : NodeId) (next : Handle) (property : Property) :
    (object.onNode f).impact id next property =
      (object.impact id next property).within fun impact =>
        { impact with object := impact.object.onNode f } := by
  cases property with
  | active on =>
      simp only [impact, object.kind_onNode hf]
      split <;> rfl
  | fov fov => simp only [impact, object.setLens_onNode hf]; rfl
  | near near => simp only [impact, object.setLens_onNode hf]; rfl
  | far far => simp only [impact, object.setLens_onNode hf]; rfl
  | dimension part value =>
      rcases object with ⟨name, body⟩
      cases body with
      | geometry geometry =>
          simp only [impact, onNode]
          split <;> rfl
      | _ => rfl
  | _ =>
      simp only [impact, store, object.set?_onNode hf]
      cases object.set? _ <;> rfl

end Object

theorem Setting.impact_onNode {f : Node → Node} (hf : Node.Rewires f) (setting : Setting)
    (object : Object) (next : Handle) :
    setting.impact (object.onNode f) next =
      (setting.impact object next).within fun impact =>
        { impact with object := impact.object.onNode f } := by
  rcases setting with ⟨id, key, value⟩
  cases value with
  | none =>
      simp only [impact, object.kind_onNode hf]
      split <;> rfl
  | some value =>
      simp only [impact, object.kind_onNode hf, object.impact_onNode hf]
      cases Property.decode key value <;> rfl

namespace Graph

/-! ## Verdicts on links -/

theorem isAncestor_of_parents_eq {g g' : Graph} (hparents : g'.parents = g.parents)
    (ancestor id : NodeId) : g'.isAncestor ancestor id = g.isAncestor ancestor id := by
  have hreaches : ∀ depth start,
      g'.chainReaches ancestor depth start = g.chainReaches ancestor depth start := by
    intro depth
    induction depth with
    | zero => rintro (_ | _) <;> rfl
    | succ depth ih =>
        rintro (_ | node)
        · rfl
        · simp only [chainReaches, ih, parent?, hparents]
  simp only [isAncestor, hreaches, parent?, hparents]

/-- The verdict on an attachment, which kinds and parents decide. -/
def attachVerdict (g : Graph) (parent child : NodeId) : Verdict :=
  match g.kind? parent, g.kind? child with
  | none, _ => .error (.missingReference parent)
  | some _, none => .error (.missingReference child)
  | some upper, some lower =>
    if parent = child then .error (.invalidLink parent child .self)
    else if lower.category ≠ .generic then
      if upper = .mesh then .ok () else .error (.invalidLink parent child .notAMesh)
    else if upper.category ≠ .generic then .error (.invalidLink parent child .noChildren)
    else if g.isAncestor child parent then .error (.invalidLink parent child .cycle)
    else .ok ()

/-- The verdict on a detachment, which kinds and parents decide. -/
def detachVerdict (g : Graph) (parent child : NodeId) : Verdict :=
  match g.kind? parent, g.kind? child with
  | none, _ => .error (.missingReference parent)
  | some _, none => .error (.missingReference child)
  | some _, some _ =>
    if g.parent? child = some parent then .ok () else .error (.invalidLink parent child .notLinked)

section

variable {g : Graph} (hg : g.Consistent) (parent child : NodeId)

include hg

theorem Consistent.attach_verdict : (g.attach parent child).2 = g.attachVerdict parent child := by
  unfold Graph.attach attachVerdict
  cases hupper : g.kind? parent with
  | none => rfl
  | some upper =>
      cases hlower : g.kind? child with
      | none => rfl
      | some lower =>
          by_cases hself : parent = child
          · simp only [if_pos hself]
          by_cases hgeneric : lower.category = .generic
          · simp only [if_neg hself, ne_eq, hgeneric, not_true_eq_false, if_false, if_true]
            by_cases hnode : upper.category = .generic
            · obtain ⟨node, hfound, -⟩ := hg.exists_node? hupper hnode
              simp only [attachToNode, hfound, hnode, not_true_eq_false, if_false]
              cases g.isAncestor child parent <;> rfl
            · have hfound : g.node? parent = none := by
                refine Option.eq_none_iff_forall_ne_some.mpr fun node hfound => hnode ?_
                have hkind := hg.kind?_of_node? hfound
                rw [hupper, Option.some.injEq] at hkind
                rw [hkind, node.role.category_kind]
              simp only [attachToNode, hfound, hnode, not_false_eq_true, if_true]
          · by_cases hmesh : upper = .mesh
            · subst hmesh
              obtain ⟨g', node, -, heq⟩ := hg.attachToSlot_eq hlower hgeneric hupper hself
              simp [hself, hgeneric, heq]
            · simp [hself, hgeneric, hmesh]

theorem Consistent.detach_verdict : (g.detach parent child).2 = g.detachVerdict parent child := by
  by_cases hparent : g.parent? child = some parent
  · obtain ⟨node, kind, hnode, hkind, -, heq⟩ := hg.detach_of_parent? hparent
    simp only [heq, detachVerdict, hg.kind?_of_node? hnode, hkind, if_pos hparent]
  · have hissue : (g.detach parent child).2 ≠ .ok () := mt hg.detach_eq_ok_iff.mp hparent
    cases hobject : g.object? parent with
    | none =>
        have hupper : g.kind? parent = none := by rw [hg.kind?_eq, hobject]; rfl
        simp only [Graph.detach, detachVerdict, hupper]
    | some object =>
        have hupper : g.kind? parent = some object.kind := by rw [hg.kind?_eq, hobject]; rfl
        cases hlower : g.kind? child with
        | none => simp only [Graph.detach, detachVerdict, hupper, hlower]
        | some lower =>
            simp only [Graph.detach, hupper, hlower, hobject] at hissue
            simp only [Graph.detach, detachVerdict, hupper, hlower, hobject, if_neg hparent]
            cases hunlinked : object.node?.bind (·.unlink? lower.category child) with
            | none => simp [hparent]
            | some node =>
                have hsame : (g.setNode parent node).parent? child ≠ some parent := hparent
                simp [hunlinked, hsame] at hissue

end

/-! ## Operations in either order -/

/-- Two operations commute on a graph: each has the same result in either order, and both orders end
in the same graph. -/
structure Commutes (g : Graph) (first second : Op) : Prop where
  first_result : ((g.apply second).state.apply first).result = (g.apply first).result
  second_result : ((g.apply first).state.apply second).result = (g.apply second).result
  state : ((g.apply first).state.apply second).state = ((g.apply second).state.apply first).state

theorem Commutes.symm {g : Graph} {first second : Op} (h : g.Commutes first second) :
    g.Commutes second first :=
  ⟨h.second_result, h.first_result, h.state.symm⟩

/-- An operation that is ignored in either order commutes with the other. -/
theorem commutes_of_ignored {g : Graph} {first second : Op} {verdict : Verdict}
    (hbefore : g.apply first = .done g verdict)
    (hafter : (g.apply second).state.apply first = .done (g.apply second).state verdict) :
    g.Commutes first second := by
  refine ⟨?_, ?_, ?_⟩
  · rw [hafter, hbefore]
    rfl
  · rw [hbefore]
    rfl
  · rw [hbefore, hafter]
    rfl

theorem eq_of_parts {g g' : Graph} (hobjects : ∀ id, g.object? id = g'.object? id)
    (hkinds : g.kinds = g'.kinds) (hparents : g.parents = g'.parents) (hactive : g.active = g'.active)
    (hscenes : g.scenes = g'.scenes) (hreleased : g.released = g'.released)
    (hlast : g.lastHandle = g'.lastHandle) : g = g' := by
  have htable : g.objects = g'.objects := Std.ExtTreeMap.ext_getElem? fun {id} => hobjects id
  cases g
  cases g'
  simp only [Graph.mk.injEq]
  exact ⟨htable, hkinds, hparents, hactive, hscenes, hreleased, hlast⟩

/-! ## A link and a property -/

/-- The graph after its nodes were rewired, with a table of parents and mounted scenes to go with
it. -/
structure Rewired (g : Graph) (f : NodeId → Node → Node) (table : NodeMap (Option NodeId))
    (mounted : List NodeId) (g' : Graph) : Prop extends g.SameHoldings g' where
  object? : ∀ id, g'.object? id = (g.object? id).map (·.onNode (f id))
  parents : g'.parents = table
  scenes : g'.scenes = mounted

/-- An operation rewires two graphs alike, with the same result. -/
structure RewiresAlike (op : Op) (g g' : Graph) : Prop where
  result : (g'.apply op).result = (g.apply op).result
  rewired : ∃ f table mounted, (∀ id, Node.Rewires (f id)) ∧
    g.Rewired f table mounted (g.apply op).state ∧ g'.Rewired f table mounted (g'.apply op).state

/-- Nothing is rewired when nothing happens. -/
theorem rewired_self {g g' : Graph} (hparents : g'.parents = g.parents)
    (hscenes : g'.scenes = g.scenes) : g'.Rewired (fun _ node => node) g.parents g.scenes g' := by
  refine ⟨⟨rfl, rfl, rfl, rfl⟩, fun id => ?_, hparents, hscenes⟩
  simp only [Object.onNode_id, Option.map_id']

namespace SameOutline

variable {g g' : Graph} (h : g.SameOutline g')

include h

theorem kind?_eq (id : NodeId) : g'.kind? id = g.kind? id := by
  rw [kind?, kind?, h.kinds]

theorem category_eq (id : NodeId) : g'.category id = g.category id := by
  rw [category, category, h.kind?_eq]

theorem parent?_eq (id : NodeId) : g'.parent? id = g.parent? id := by
  rw [parent?, parent?, h.parents]

theorem occupant?_eq (parent child : NodeId) :
    g'.occupant? parent child = g.occupant? parent child := by
  have hslots := congrArg (Option.bind · fun links => links.2.get (g.category child))
    (h.links parent)
  simp only [Option.bind_map] at hslots
  simp only [occupant?, h.category_eq, Node.slot?_eq_get]
  exact hslots

theorem attachVerdict_eq (parent child : NodeId) :
    g'.attachVerdict parent child = g.attachVerdict parent child := by
  simp only [attachVerdict, h.kind?_eq, isAncestor_of_parents_eq h.parents]

theorem detachVerdict_eq (parent child : NodeId) :
    g'.detachVerdict parent child = g.detachVerdict parent child := by
  simp only [detachVerdict, h.kind?_eq, h.parent?_eq]

end SameOutline

section

variable {g g' : Graph} (hg : g.Consistent) (hg' : g'.Consistent) (hsame : g.SameOutline g')
  (parent child : NodeId)

include hg hg' hsame

theorem Consistent.attach_rewiresAlike : RewiresAlike (.attach parent child) g g' := by
  have hverdict : (g'.attach parent child).2 = (g.attach parent child).2 := by
    rw [hg'.attach_verdict, hg.attach_verdict, hsame.attachVerdict_eq]
  refine ⟨congrArg Except.ok hverdict, ?_⟩
  change ∃ f table mounted, _ ∧ g.Rewired f table mounted (g.attach parent child).1 ∧
    g'.Rewired f table mounted (g'.attach parent child).1
  cases hresult : (g.attach parent child).2 with
  | error issue =>
      have hrefused : ∀ graph : Graph, graph.Consistent → (graph.attach parent child).2 = .error issue →
          (graph.attach parent child).1 = graph := by
        intro graph hgraph hissue
        rcases hgraph.attach_cases parent child with ⟨_, heq⟩ | ⟨_, _, _, -, heq⟩
        · rw [heq]
        · rw [heq] at hissue
          cases hissue
      rw [hrefused g hg hresult, hrefused g' hg' (hverdict.trans hresult)]
      exact ⟨_, _, _, fun _ => .refl, rewired_self rfl rfl, rewired_self hsame.parents hsame.scenes⟩
  | ok _ =>
      obtain ⟨after, heq, hadopts⟩ := hg.attach_adopts (hg.attach_eq_ok_iff.mp hresult)
      obtain ⟨after', heq', hadopts'⟩ :=
        hg'.attach_adopts (hg'.attach_eq_ok_iff.mp (hverdict.trans hresult))
      rw [heq, heq']
      refine ⟨fun id node => if id = parent then (node.without child).put (g.category child) child
          else node.without child, after.parents, after.scenes, fun id => ?_,
        ⟨hadopts.toSameHoldings, hadopts.object?, rfl, rfl⟩,
        ⟨hadopts'.toSameHoldings, fun id => ?_, ?_, ?_⟩⟩
      · by_cases hid : id = parent
        · simp only [if_pos hid]
          exact (Node.rewires_without child).comp (Node.rewires_put _ child)
        · simp only [if_neg hid]
          exact Node.rewires_without child
      · rw [hadopts'.object?, hsame.category_eq]
      · refine Std.ExtTreeMap.ext_getElem? fun {id} => ?_
        rw [hadopts'.parents, hadopts.parents, hsame.occupant?_eq, hsame.parents]
      · rw [hadopts'.scenes, hadopts.scenes, hsame.kind?_eq, hsame.scenes]

theorem Consistent.detach_rewiresAlike : RewiresAlike (.detach parent child) g g' := by
  have hverdict : (g'.detach parent child).2 = (g.detach parent child).2 := by
    rw [hg'.detach_verdict, hg.detach_verdict, hsame.detachVerdict_eq]
  refine ⟨congrArg Except.ok hverdict, ?_⟩
  change ∃ f table mounted, _ ∧ g.Rewired f table mounted (g.detach parent child).1 ∧
    g'.Rewired f table mounted (g'.detach parent child).1
  by_cases hparent : g.parent? child = some parent
  · obtain ⟨after, heq, hreleases⟩ := hg.releases hparent
    obtain ⟨after', heq', hreleases'⟩ := hg'.releases ((hsame.parent?_eq child).trans hparent)
    have hobject : ∀ (graph : Graph) (id : NodeId),
        (if id = parent then (graph.object? id).map (·.onNode (·.without child))
          else graph.object? id) =
        (graph.object? id).map (·.onNode fun node =>
          if id = parent then node.without child else node) := by
      intro graph id
      by_cases hid : id = parent
      · simp only [if_pos hid]
      · simp only [if_neg hid, Object.onNode_id, Option.map_id']
    rw [heq, heq']
    refine ⟨fun id node => if id = parent then node.without child else node, after.parents,
      after.scenes, fun id => ?_,
      ⟨hreleases.toSameHoldings, fun id => (hreleases.object? id).trans (hobject g id), rfl, rfl⟩,
      ⟨hreleases'.toSameHoldings, fun id => (hreleases'.object? id).trans (hobject g' id), ?_, ?_⟩⟩
    · by_cases hid : id = parent
      · simp only [if_pos hid]
        exact Node.rewires_without child
      · simp only [if_neg hid]
        exact .refl
    · refine Std.ExtTreeMap.ext_getElem? fun {id} => ?_
      rw [hreleases'.parents, hreleases.parents, hsame.parents]
    · rw [hreleases'.scenes, hreleases.scenes, hsame.scenes]
  · obtain ⟨issue, heq⟩ := hg.detach_of_parent?_ne hparent
    obtain ⟨issue', heq'⟩ :=
      hg'.detach_of_parent?_ne (fun h => hparent ((hsame.parent?_eq child).symm.trans h))
    rw [heq, heq']
    exact ⟨_, _, _, fun _ => .refl, rewired_self rfl rfl, rewired_self hsame.parents hsame.scenes⟩

end

/-- Rewiring does not mind what was done to an object before. -/
theorem Rewired.eq_absorb {g g₁ g₂ : Graph} {f : NodeId → Node → Node}
    {table : NodeMap (Option NodeId)} {mounted : List NodeId} {id : NodeId} {impact : Impact}
    (hafter : (g.absorb id impact).Rewired f table mounted g₂) (hbefore : g.Rewired f table mounted g₁) :
    g₂ = g₁.absorb id { impact with object := impact.object.onNode (f id) } := by
  refine eq_of_parts (fun other => ?_) ?_ ?_ ?_ ?_ ?_ ?_
  · rw [hafter.object?, object?_absorb, object?_absorb, hbefore.object?]
    split
    next heq =>
      subst heq
      cases g.object? id <;> rfl
    next => rfl
  · exact hafter.kinds.trans hbefore.kinds.symm
  · exact hafter.parents.trans hbefore.parents.symm
  · exact hafter.active.trans (congrArg impact.select hbefore.active).symm
  · exact hafter.scenes.trans hbefore.scenes.symm
  · exact hafter.released.trans (congrArg (· ++ impact.spent) hbefore.released).symm
  · exact hafter.lastHandle.trans (congrArg (· + impact.drawn) hbefore.lastHandle).symm

/-- An operation that rewires a graph in the same way with and without a setting commutes with it. -/
theorem RewiresAlike.commutes {g : Graph} (hg : g.Consistent) (setting : Setting) {op : Op}
    (hop : RewiresAlike op g (g.apply setting.op).state) : g.Commutes setting.op op := by
  obtain ⟨f, table, mounted, hf, hbefore, hafter⟩ := hop.rewired
  have htables : (g.apply op).state.TablesAgree := (hg.apply op).toTablesAgree
  cases hobject : g.object? setting.id with
  | none =>
      have hnone : (g.apply op).state.object? setting.id = none := by
        rw [hbefore.object?, hobject]
        rfl
      exact commutes_of_ignored (hg.apply_setting_of_none hobject)
        (htables.apply_setting_of_none hnone)
  | some object =>
      have hrewired : (g.apply op).state.object? setting.id =
          some (object.onNode (f setting.id)) := by
        rw [hbefore.object?, hobject]
        rfl
      have hset := hg.apply_setting hobject
      have hset' := htables.apply_setting hrewired
      rw [nextHandle, hbefore.lastHandle, ← nextHandle,
        setting.impact_onNode (hf setting.id)] at hset'
      refine ⟨?_, hop.result, ?_⟩
      · rw [hset, hset']
        rfl
      · rw [hset] at hafter ⊢
        rw [hset']
        exact hafter.eq_absorb hbefore

/-! ## Two properties -/

/-- What is done to two objects is done in either order, if one leaves the selection alone and one has
nothing to do with handles. -/
theorem absorb_comm (g : Graph) {id other : NodeId} (hne : id ≠ other) {impact impact' : Impact}
    (hselect : (impact.select = fun active => active) ∨ impact'.select = fun active => active)
    (hspent : impact.spent = [] ∨ impact'.spent = []) :
    (g.absorb id impact).absorb other impact' = (g.absorb other impact').absorb id impact := by
  refine eq_of_parts (fun key => ?_) rfl rfl ?_ rfl ?_ ?_
  · simp only [object?_absorb]
    by_cases hid : id = key
    · have hother : other ≠ key := fun h => hne (hid.trans h.symm)
      simp only [if_pos hid, if_neg hother]
    · simp only [if_neg hid]
  · change impact'.select (impact.select g.active) = impact.select (impact'.select g.active)
    rcases hselect with h | h <;> rw [h]
  · change g.released ++ impact.spent ++ impact'.spent = g.released ++ impact'.spent ++ impact.spent
    rcases hspent with h | h <;> rw [h, List.append_nil, List.append_nil]
  · exact Nat.add_right_comm g.lastHandle impact.drawn impact'.drawn

section

variable {g : Graph} (hg : g.TablesAgree) {setting other : Setting} (hne : setting.id ≠ other.id)
  (hshape : ¬(setting.IsDimension ∧ other.IsDimension))

include hg hne hshape

/-- A setting does the same to its object after a setting on another id, as long as they do not both
draw a handle. -/
theorem TablesAgree.apply_setting_after (hafter : (g.apply other.op).state.TablesAgree)
    {object : Object} (hobject : g.object? setting.id = some object) :
    (g.apply other.op).state.apply setting.op =
      (setting.impact object g.nextHandle).within ((g.apply other.op).state.absorb setting.id) := by
  have hframed := hg.framed other
  have hobject' : (g.apply other.op).state.object? setting.id = some object :=
    (hframed.object? setting.id hne).trans hobject
  rw [hafter.apply_setting hobject']
  by_cases hkey : setting.IsDimension
  · have hother : ∀ dimension : Dimension, other.key ≠ dimension.name :=
      fun dimension heq => hshape ⟨hkey, dimension, heq⟩
    rw [nextHandle, (hframed.handles hother).2, ← nextHandle]
  · rw [(Setting.impact_handles object g.nextHandle hkey).2.2]

theorem TablesAgree.settings_commute
    (hactive : ¬(setting.key = Property.activeKey ∧ other.key = Property.activeKey))
    (hfirst : (g.apply setting.op).state.TablesAgree)
    (hsecond : (g.apply other.op).state.TablesAgree) : g.Commutes setting.op other.op := by
  have hkept := (hg.framed setting).object? other.id hne.symm
  have hkept' := (hg.framed other).object? setting.id hne
  cases hobject : g.object? setting.id with
  | none =>
      exact commutes_of_ignored (hg.apply_setting_of_none hobject)
        (hsecond.apply_setting_of_none (hkept'.trans hobject))
  | some object =>
      cases hobject' : g.object? other.id with
      | none =>
          exact (commutes_of_ignored (hg.apply_setting_of_none hobject')
            (hfirst.apply_setting_of_none (hkept.trans hobject'))).symm
      | some object' =>
          have hset := hg.apply_setting hobject
          have hset' := hg.apply_setting hobject'
          have hlater := hg.apply_setting_after hne hshape hsecond hobject
          have hlater' :=
            hg.apply_setting_after hne.symm (fun h => hshape h.symm) hfirst hobject'
          refine ⟨by rw [hlater, hset]; rfl, by rw [hlater', hset']; rfl, ?_⟩
          rw [hlater, hlater', hset, hset']
          refine g.absorb_comm hne ?_ ?_
          · rcases not_and_or.mp hactive with hkey | hkey
            · exact Or.inl (Setting.impact_select object g.nextHandle hkey)
            · exact Or.inr (Setting.impact_select object' g.nextHandle hkey)
          · rcases not_and_or.mp hshape with hkey | hkey
            · exact Or.inl (Setting.impact_handles object g.nextHandle hkey).1
            · exact Or.inr (Setting.impact_handles object' g.nextHandle hkey).1

end

/-- In a graph that any commands led to, a property commutes with every link that is made or taken
apart, and with every property of another id unless both turn the selection or both have to do with
the shape of a geometry. -/
theorem independent_ops_commute (commands : List Command) (setting : Setting) :
    let g := run commands
    (∀ parent child, g.Commutes setting.op (.attach parent child) ∧
      g.Commutes setting.op (.detach parent child)) ∧
    ∀ other : Setting, setting.id ≠ other.id →
      ¬(setting.key = Property.activeKey ∧ other.key = Property.activeKey) →
      ¬(setting.IsDimension ∧ other.IsDimension) → g.Commutes setting.op other.op := by
  intro g
  have hg : g.Consistent := consistent_run commands
  have hset := hg.apply setting.op
  have hsame := g.sameOutline_setting setting
  refine ⟨fun parent child => ⟨?_, ?_⟩, fun other hne hactive hshape => ?_⟩
  · exact (hg.attach_rewiresAlike hset hsame parent child).commutes hg setting
  · exact (hg.detach_rewiresAlike hset hsame parent child).commutes hg setting
  · exact hg.settings_commute hne hshape hactive hset.toTablesAgree (hg.apply other.op).toTablesAgree

/-- A box can be made wider before or after a mesh takes it, and before or after a camera is selected. -/
theorem independent_ops_commute_box :
    let g := run [.apply (.create ⟨1⟩ .mesh []), .apply (.create ⟨2⟩ .boxGeometry []),
      .apply (.create ⟨3⟩ .perspectiveCamera [])]
    let widen : Setting := ⟨⟨2⟩, "width", some (.number 2)⟩
    let select : Setting := ⟨⟨3⟩, "active", some (.bool true)⟩
    (g.apply widen.op).result = .ok (.ok ()) ∧ (g.apply select.op).result = .ok (.ok ()) ∧
      (g.apply (.attach ⟨1⟩ ⟨2⟩)).result = .ok (.ok ()) ∧
      g.Commutes widen.op (.attach ⟨1⟩ ⟨2⟩) ∧ g.Commutes widen.op select.op := by
  intro g widen select
  obtain ⟨hlinks, hsettings⟩ := independent_ops_commute _ widen
  have hactive : ¬(widen.key = Property.activeKey ∧ select.key = Property.activeKey) := by decide
  have hshape : ¬(widen.IsDimension ∧ select.IsDimension) := by
    rintro ⟨-, dimension, heq⟩
    cases dimension <;> exact absurd heq (by decide)
  exact ⟨by decide +kernel, by decide +kernel, by decide +kernel, (hlinks ⟨1⟩ ⟨2⟩).1,
    hsettings select (by decide) hactive hshape⟩

end Graph

end LiveScene
