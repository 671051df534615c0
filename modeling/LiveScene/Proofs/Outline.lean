import LiveScene.Edit.SetProp

/-! # What an object is and what it holds

The kind of an object can be read off its body, and so can the ids that it holds: the children of a
node and the slots of a mesh. Setting properties changes none of this, and a handle is only ever
changed by putting a new object in place of the old one.
-/

namespace LiveScene

def Projection.kind : Projection → Kind
  | .perspective .. => .perspectiveCamera
  | .orthographic .. => .orthographicCamera

def LightKind.kind : LightKind → Kind
  | .ambient => .ambientLight
  | .directional => .directionalLight
  | .point => .pointLight

def Role.kind : Role → Kind
  | .scene => .scene
  | .group => .group
  | .mesh _ => .mesh
  | .camera c => c.projection.kind
  | .light l => l.kind.kind

def Shape.kind : Shape → Kind
  | .box .. => .boxGeometry
  | .sphere .. => .sphereGeometry

def Shading.kind : Shading → Kind
  | .standard .. => .standardMaterial
  | .basic => .basicMaterial

/-- The one kind whose objects look like this. -/
def Body.kind : Body → Kind
  | .node n => n.role.kind
  | .geometry g => g.shape.kind
  | .material m => m.shading.kind

def Object.kind (object : Object) : Kind := object.body.kind

theorem Role.category_kind (role : Role) : role.kind.category = .generic := by
  cases role with
  | camera camera => rcases camera with ⟨_ | _, _, _, _⟩ <;> rfl
  | light light => rcases light with ⟨_ | _ | _, _, _⟩ <;> rfl
  | _ => rfl

theorem Body.kind_ne_unsupported (body : Body) : body.kind ≠ .unsupported := by
  cases body with
  | node node =>
      intro hkind
      rcases node with ⟨_, _, _, _, _, _ | _ | _ | ⟨_ | _, _, _, _⟩ | ⟨_ | _ | _, _, _⟩⟩ <;> cases hkind
  | geometry geometry => rcases geometry with ⟨_ | _, _, _⟩ <;> exact nofun
  | material material => rcases material with ⟨_ | _, _, _, _, _, _, _⟩ <;> exact nofun

/-- Exactly the nodes are of a generic kind. -/
theorem Object.isSome_node?_iff (object : Object) :
    object.node?.isSome ↔ object.kind.category = .generic := by
  rcases object with ⟨name, body⟩
  cases body with
  | node node => simp [Object.node?, Object.kind, Body.kind, node.role.category_kind]
  | geometry geometry =>
      rcases geometry with ⟨_ | _, _, _⟩ <;>
        simp [Object.node?, Object.kind, Body.kind, Shape.kind, Kind.category]
  | material material =>
      rcases material with ⟨_ | _, _, _, _, _, _, _⟩ <;>
        simp [Object.node?, Object.kind, Body.kind, Shading.kind, Kind.category]

/-- Exactly the meshes have slots. -/
theorem Node.isMesh_iff (node : Node) : node.isMesh = true ↔ node.role.kind = .mesh := by
  rcases node with ⟨_, _, _, _, _, _ | _ | _ | ⟨_ | _, _, _, _⟩ | ⟨_ | _ | _, _, _⟩⟩ <;>
    simp [Node.isMesh, Role.kind, Projection.kind, LightKind.kind]

/-! ## Links of a node -/

namespace Node

def slots (node : Node) : Slots :=
  match node.role with
  | .mesh slots => slots
  | _ => {}

/-- Everything that a node holds. -/
def links (node : Node) : List NodeId × Slots :=
  (node.children, node.slots)

theorem slot?_eq_get (node : Node) (category : Category) :
    node.slot? category = node.slots.get category := by
  rcases node with ⟨_, _, _, _, _, role⟩
  cases role with
  | mesh slots => rfl
  | _ => cases category <;> rfl

theorem holds_iff_of_links_eq {node node' : Node} (hlinks : node'.links = node.links)
    (category : Category) (child : NodeId) :
    node'.Holds category child ↔ node.Holds category child := by
  obtain ⟨hchildren, hslots⟩ := Prod.mk.inj hlinks
  cases category <;> simp only [Holds, hchildren, slot?_eq_get, hslots]

theorem role_kind_setSlot (node : Node) (category : Category) (id : Option NodeId) :
    (node.setSlot category id).role.kind = node.role.kind := by
  unfold setSlot
  split
  next hrole => rw [hrole]; rfl
  next => rfl

theorem children_setSlot (node : Node) (category : Category) (id : Option NodeId) :
    (node.setSlot category id).children = node.children := by
  unfold setSlot
  split <;> rfl

/-- A slot of a mesh holds what was put into it, and the other slots what they held before. -/
theorem slot?_setSlot {node : Node} (hmesh : node.isMesh = true) {category : Category}
    (hcategory : category ≠ .generic) (id : Option NodeId) (other : Category) :
    (node.setSlot category id).slot? other = if other = category then id else node.slot? other := by
  rcases node with ⟨_, _, _, _, _, role⟩
  cases role with
  | mesh slots =>
      cases category with
      | generic => exact absurd rfl hcategory
      | _ => cases other <;> rfl
  | _ => exact absurd hmesh Bool.false_ne_true

theorem slot?_setSlot_of_ne {category other : Category} (hne : other ≠ category) (node : Node)
    (id : Option NodeId) : (node.setSlot category id).slot? other = node.slot? other := by
  rcases node with ⟨_, _, _, _, _, role⟩
  cases role with
  | mesh slots => cases category <;> cases other <;> first | rfl | exact absurd rfl hne
  | _ => rfl

theorem isMesh_setSlot (node : Node) (category : Category) (id : Option NodeId) :
    (node.setSlot category id).isMesh = node.isMesh := by
  rcases node with ⟨_, _, _, _, _, role⟩
  cases role <;> rfl

theorem setSlot_setSlot (node : Node) (category : Category) (id id' : Option NodeId) :
    (node.setSlot category id).setSlot category id' = node.setSlot category id' := by
  rcases node with ⟨_, _, _, _, _, role⟩
  cases role with
  | mesh slots => cases category <;> rfl
  | _ => rfl

theorem isMesh_of_slot?_eq_some {node : Node} {category : Category} {child : NodeId}
    (hslot : node.slot? category = some child) : node.isMesh = true := by
  rcases node with ⟨_, _, _, _, _, role⟩
  cases role with
  | mesh slots => rfl
  | _ => cases hslot

/-- The node with one more child of a category. -/
def put (node : Node) (category : Category) (child : NodeId) : Node :=
  match category with
  | .generic => node.pushChild child
  | category => node.setSlot category (some child)

section

variable (node : Node) {category : Category} (hcategory : category ≠ .generic) (child : NodeId)

include hcategory

theorem holds_iff_slot? : node.Holds category child ↔ node.slot? category = some child := by
  cases category <;> first | rfl | exact absurd rfl hcategory

theorem put_eq_setSlot : node.put category child = node.setSlot category (some child) := by
  cases category <;> first | rfl | exact absurd rfl hcategory

theorem drop_eq_setSlot : node.drop category child = node.setSlot category none := by
  cases category <;> first | rfl | exact absurd rfl hcategory

end

theorem role_kind_put (node : Node) (category : Category) (child : NodeId) :
    (node.put category child).role.kind = node.role.kind := by
  cases category with
  | generic => rfl
  | _ => exact role_kind_setSlot node _ _

theorem role_kind_drop (node : Node) (category : Category) (child : NodeId) :
    (node.drop category child).role.kind = node.role.kind := by
  cases category with
  | generic => rfl
  | _ => exact role_kind_setSlot node _ _

/-- Dropping a child that is held undoes this one link. -/
theorem holds_drop {node : Node} {category : Category} {child : NodeId}
    (hheld : node.Holds category child) (other : Category) (id : NodeId) :
    (node.drop category child).Holds other id ↔
      node.Holds other id ∧ ¬(other = category ∧ id = child) := by
  cases category with
  | generic =>
      cases other with
      | generic => simp [drop, Holds, removeChild]
      | _ => simp [drop, Holds, removeChild, slot?]
  | _ =>
      have hmesh := isMesh_of_slot?_eq_some hheld
      simp only [Holds] at hheld
      cases other <;> simp [drop, Holds, children_setSlot, slot?_setSlot hmesh, hheld, eq_comm]

/-- Putting in a child makes this one link, in a slot provided that the slot was empty. -/
theorem holds_put {node : Node} {category : Category}
    (hroom : category = .generic ∨ node.isMesh = true ∧ node.slot? category = none)
    (child : NodeId) (other : Category) (id : NodeId) :
    (node.put category child).Holds other id ↔
      node.Holds other id ∨ (other = category ∧ id = child) := by
  cases category with
  | generic =>
      cases other with
      | generic => simp [put, Holds, pushChild]
      | _ => simp [put, Holds, pushChild, slot?]
  | _ =>
      obtain ⟨hmesh, hempty⟩ := hroom.resolve_left (by simp)
      cases other <;> simp [put, Holds, children_setSlot, slot?_setSlot hmesh, hempty, eq_comm]

theorem nodup_children_drop {node : Node} (hnodup : node.children.Nodup) (category : Category)
    (child : NodeId) : (node.drop category child).children.Nodup := by
  cases category with
  | generic => exact hnodup.filter _
  | _ => exact (children_setSlot node _ none).symm ▸ hnodup

theorem nodup_children_put {node : Node} (hnodup : node.children.Nodup) {category : Category}
    {child : NodeId} (hnew : ¬node.Holds category child) :
    (node.put category child).children.Nodup := by
  cases category with
  | generic =>
      refine List.nodup_append.mpr ⟨hnodup, by simp, ?_⟩
      intro id hid other hother heq
      rw [List.mem_singleton.mp hother] at heq
      exact hnew (heq ▸ hid)
  | _ => exact (children_setSlot node _ (some child)).symm ▸ hnodup

end Node

/-! ## Forming a matrix anew -/

namespace Camera

/-- Forming the matrix changes nothing but the matrix, and not even that when the parameters are
degenerate. -/
theorem refresh_eq (camera : Camera) :
    (∃ matrix, camera.refresh.state = { camera with matrix }) ∧
      (camera.degeneracy? ≠ none → camera.refresh.state = camera) := by
  unfold refresh
  cases camera.degeneracy? with
  | some degeneracy => exact ⟨⟨camera.matrix, rfl⟩, fun _ => rfl⟩
  | none =>
      refine ⟨?_, fun hdegenerate => absurd rfl hdegenerate⟩
      cases camera.projection.matrix camera.near camera.far with
      | ok matrix => exact ⟨matrix, rfl⟩
      | error fault => exact ⟨camera.matrix, rfl⟩

theorem refresh_projection (camera : Camera) :
    camera.refresh.state.projection = camera.projection := by
  obtain ⟨⟨matrix, hstate⟩, -⟩ := camera.refresh_eq
  rw [hstate]

/-- A camera keeps its kind when it is given an aspect and formed anew. -/
theorem projection_kind_fit (camera : Camera) (aspect : Float32) :
    (camera.fit aspect).state.projection.kind = camera.projection.kind := by
  unfold fit setAspect
  split
  next hprojection =>
    simp only [Outcome.andThen, Outcome.after, if_true, refresh_projection, hprojection]
    rfl
  next => rfl

theorem defaultPerspective_projection :
    defaultPerspective.projection = .perspective 50 1 :=
  refresh_projection _

theorem defaultOrthographic_projection :
    defaultOrthographic.projection = .orthographic (-1) 1 1 (-1) :=
  refresh_projection _

end Camera

/-! ## New objects -/

namespace Object

/-- A new object is of the kind it was made for. -/
theorem kind_of_default? {kind : Kind} {handle : Handle} {object : Object}
    (hdefault : default? kind handle = some object) : object.kind = kind := by
  cases kind <;> simp only [default?, Option.some.injEq, reduceCtorEq] at hdefault <;>
    subst hdefault
  case perspectiveCamera => exact congrArg Projection.kind Camera.defaultPerspective_projection
  case orthographicCamera => exact congrArg Projection.kind Camera.defaultOrthographic_projection
  all_goals rfl

/-- What links depend on: the kind of an object, and what it holds if it is a node. -/
def outline (object : Object) : Kind × Option (List NodeId × Slots) :=
  (object.kind, object.node?.map Node.links)

/-- Every supported kind has a default object. -/
theorem isSome_default? (kind : Kind) (handle : Handle) :
    (default? kind handle).isSome = kind.isSupported := by
  cases kind <;> rfl

theorem links_of_default? {kind : Kind} {handle : Handle} {object : Object} {node : Node}
    (hdefault : default? kind handle = some object) (hnode : object.node? = some node) :
    node.links = ([], {}) := by
  cases kind <;> simp only [default?, Option.some.injEq, reduceCtorEq] at hdefault <;>
    subst hdefault <;> cases hnode <;> rfl

/-- A new object holds nothing. -/
theorem not_holds_of_default? {kind : Kind} {handle : Handle} {object : Object} {node : Node}
    (hdefault : default? kind handle = some object) (hnode : object.node? = some node)
    (category : Category) (child : NodeId) : ¬node.Holds category child := by
  rw [@Node.holds_iff_of_links_eq { role := .group } node (links_of_default? hdefault hnode)]
  cases category <;> simp [Node.Holds, Node.slot?]

end Object

/-! ## Setting properties -/

theorem Node.links_of_set? {node node' : Node} {property : Property}
    (hset : node.set? property = some node') :
    node'.links = node.links ∧ node'.role.kind = node.role.kind := by
  rcases node with ⟨_, _, _, _, children, role⟩
  cases property <;> simp only [Node.set?, Option.some.injEq] at hset
  case color | intensity =>
    cases role <;> simp only [Light.set?, Option.map_some, Option.some.injEq, reduceCtorEq] at hset
    subst hset
    exact ⟨rfl, rfl⟩
  all_goals first
    | subst hset; exact ⟨rfl, rfl⟩
    | cases role <;> simp [Light.set?] at hset

theorem Material.handle_of_set? {material material' : Material} {property : Property}
    (hset : material.set? property = some material') :
    material'.shading.kind = material.shading.kind ∧ material'.handle = material.handle := by
  rcases material with ⟨shading, _, _, _, _, _, _⟩
  cases property <;>
    simp only [Material.set?, Option.some.injEq, reduceCtorEq] at hset
  case metalness | roughness =>
    cases shading <;>
      simp only [Material.setMetalness?, Material.setRoughness?, Option.some.injEq,
        reduceCtorEq] at hset
    subst hset
    exact ⟨rfl, rfl⟩
  all_goals subst hset; exact ⟨rfl, rfl⟩

/-- A property that is stored as given changes neither the links of an object nor its handle. -/
theorem Object.outline_of_set? {object object' : Object} {property : Property}
    (hset : object.set? property = some object') :
    object'.outline = object.outline ∧ object'.handle? = object.handle? := by
  unfold Object.set? at hset
  split at hset
  next =>
    cases Option.some.inj hset
    exact ⟨rfl, rfl⟩
  next =>
    rcases object with ⟨name, body⟩
    cases body with
    | node node =>
        obtain ⟨node', hnode, rfl⟩ := Option.map_eq_some_iff.mp hset
        obtain ⟨hlinks, hkind⟩ := Node.links_of_set? hnode
        exact ⟨Prod.ext hkind (congrArg some hlinks), rfl⟩
    | material material =>
        obtain ⟨material', hmaterial, rfl⟩ := Option.map_eq_some_iff.mp hset
        obtain ⟨hkind, hhandle⟩ := Material.handle_of_set? hmaterial
        exact ⟨Prod.ext hkind rfl, congrArg some hhandle⟩
    | geometry geometry => cases hset

/-- A parameter of a camera leaves its projection what it is. -/
theorem Camera.projection_kind_of_set? {camera camera' : Camera} {property : Property}
    (hset : camera.set? property = some camera') :
    camera'.projection.kind = camera.projection.kind := by
  rcases camera with ⟨projection, _, _, _⟩
  cases property <;> simp only [Camera.set?, Option.some.injEq, reduceCtorEq] at hset
  case fov =>
    cases projection <;> simp only [Camera.setFov?, Option.some.injEq, reduceCtorEq] at hset
    subst hset
    rfl
  all_goals subst hset; rfl

/-- A dimension of a shape leaves it a box or a sphere. -/
theorem Shape.kind_of_set? {shape shape' : Shape} {dimension : Dimension} {value : Float32}
    (hset : shape.set? dimension value = some shape') : shape'.kind = shape.kind := by
  cases shape <;> cases dimension <;>
    simp only [Shape.set?, Option.some.injEq, reduceCtorEq] at hset <;> subst hset <;> rfl

end LiveScene
