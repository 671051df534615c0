import LiveScene.Proofs.Impacts

/-! # Which properties can be set

A table says of every key what type of value it takes and which kinds have the property. A property
is set on a live id exactly when the table has it, and otherwise the table tells what is wrong. What
was set can be read back. In either case links and everything else that belongs to other ids stay as
they are.
-/

namespace LiveScene

/-- What is expected of a value for a key, and of the kind of the node. -/
structure Expectation where
  type : String
  kinds : Kind → Bool

namespace Property

/-- The table of keys. -/
def expects : String → Option Expectation
  | "name" => some ⟨"string", fun _ => true⟩
  | "position" | "rotation" | "scale" | "lookAt" => some ⟨"vec3", (·.category = .generic)⟩
  | "castShadow" | "receiveShadow" => some ⟨"bool", (·.category = .generic)⟩
  | "visible" => some ⟨"bool", (·.category ≠ .geometry)⟩
  | "color" => some ⟨"color", fun kind => kind.category = .material || kind.isLight⟩
  | "intensity" => some ⟨"number", Kind.isLight⟩
  | "near" | "far" => some ⟨"number", Kind.isCamera⟩
  | "active" => some ⟨"bool", Kind.isCamera⟩
  | "fov" => some ⟨"number", (· = .perspectiveCamera)⟩
  | "width" | "height" | "depth" => some ⟨"number", (· = .boxGeometry)⟩
  | "radius" | "widthSegments" | "heightSegments" => some ⟨"number", (· = .sphereGeometry)⟩
  | "wireframe" => some ⟨"bool", (·.category = .material)⟩
  | "opacity" => some ⟨"number", (·.category = .material)⟩
  | "metalness" | "roughness" => some ⟨"number", (· = .standardMaterial)⟩
  | _ => none

/-- What reading a value for a key comes to: the value is of the type that is expected, or the type is
reported. -/
def Reads (key type : String) (value : Value) (read : Except Issue Property) : Prop :=
  (value.typeName = type ∧ ∃ property, read = .ok property) ∨
    value.typeName ≠ type ∧ read = .error (.typeMismatch key type value.typeName)

section

variable (key : String) (value : Value)

theorem reads_number (make : Float32 → Property) :
    Reads key "number" value (number key make value) := by
  cases value <;> simp [Reads, number, mismatch, Value.typeName]

theorem reads_bool (make : Bool → Property) : Reads key "bool" value (bool key make value) := by
  cases value <;> simp [Reads, bool, mismatch, Value.typeName]

theorem reads_string (make : String → Property) :
    Reads key "string" value (string key make value) := by
  cases value <;> simp [Reads, string, mismatch, Value.typeName]

theorem reads_vector (make : Vec3 → Property) :
    Reads key "vec3" value (vector key make value) := by
  cases value <;> simp [Reads, vector, mismatch, Value.typeName]

theorem reads_tint (make : Color → Property) : Reads key "color" value (tint key make value) := by
  cases value <;> simp [Reads, tint, mismatch, Value.typeName]

/-- The table knows exactly the keys that can be read, with the types of their values. -/
theorem decode_cases :
    (expects key = none ∧ decode key value = .error (.unsupportedProperty key .unsupported)) ∨
      ∃ row, expects key = some row ∧ Reads key row.type value (decode key value) := by
  unfold decode
  split
  case h_25 =>
    refine Or.inl ⟨?_, rfl⟩
    unfold expects
    split <;> first | rfl | contradiction
  all_goals
    refine Or.inr ⟨_, rfl, ?_⟩
    first
    | exact reads_number _ value _
    | exact reads_bool _ value _
    | exact reads_vector _ value _
    | exact reads_string _ value _
    | exact reads_tint _ value _

end

end Property

/-! ## Objects and their properties -/

namespace Object

/-- Whether an object has a property. -/
def has (object : Object) (property : Property) : Bool :=
  match property with
  | .active _ => object.kind.isCamera
  | .fov _ | .near _ | .far _ => (object.camera?.bind (·.set? property)).isSome
  | .dimension part value => (object.geometry?.bind (·.shape.set? part value)).isSome
  | property => (object.set? property).isSome

/-- What an object is decides which properties it has, in the way the table says. -/
theorem has_eq (object : Object) (property : Property) :
    object.has property = (Property.expects property.key).any (·.kinds object.kind) := by
  rcases object with ⟨name, body⟩
  cases body with
  | node node =>
      rcases node with ⟨_, _, _, _, _, _ | _ | _ | ⟨_ | _, _, _, _⟩ | ⟨_ | _ | _, _, _⟩⟩ <;>
        cases property with
        | dimension part value => cases part <;> rfl
        | _ => rfl
  | geometry geometry =>
      rcases geometry with ⟨_ | _, _, _⟩ <;>
        cases property with
        | dimension part value => cases part <;> rfl
        | _ => rfl
  | material material =>
      rcases material with ⟨_ | _, _, _, _, _, _, _⟩ <;>
        cases property with
        | dimension part value => cases part <;> rfl
        | _ => rfl

section

variable (object : Object) (id : NodeId) (next : Handle) (property : Property)

theorem setLens_result :
    (object.setLens property).result = .ok (object.camera?.bind (·.set? property)).isSome ∨
      (object.camera?.bind (·.set? property)).isSome = true ∧
        ∃ fault, (object.setLens property).result = .error fault := by
  unfold setLens
  cases object.camera?.bind (·.set? property) with
  | none => exact Or.inl rfl
  | some camera =>
      cases hrefresh : camera.refresh.result with
      | error fault =>
          exact Or.inr ⟨rfl, fault, by simp only [Outcome.map, Outcome.within, hrefresh, Except.map]⟩
      | ok _ => exact Or.inl (by simp only [Outcome.map, Outcome.within, hrefresh, Except.map]; rfl)

theorem store_result : (object.store property).result = .ok (object.set? property).isSome := by
  unfold store
  cases object.set? property <;> rfl

/-- The answer to a property is whether the object has it; only a property that it has can end in a
fault. -/
theorem impact_result :
    (object.impact id next property).result = .ok (object.has property) ∨
      object.has property = true ∧ ∃ fault, (object.impact id next property).result = .error fault := by
  cases property with
  | active on =>
      refine Or.inl ?_
      simp only [impact, has]
      split
      next hcamera => rw [hcamera]; rfl
      next hcamera => rw [Bool.not_eq_true] at hcamera; rw [hcamera]; rfl
  | fov fov => exact object.setLens_result (.fov fov)
  | near near => exact object.setLens_result (.near near)
  | far far => exact object.setLens_result (.far far)
  | dimension part value =>
      refine Or.inl ?_
      simp only [impact, has]
      cases object.geometry?.bind (·.shape.set? part value) <;> rfl
  | name name => exact Or.inl (object.store_result (.name name))
  | _ => exact Or.inl (object.store_result _)

end

end Object

/-! ## Reading back

What an object has of a property after it was set, field by field. Numbers of segments are stored as
whole numbers, and angles as a rotation; a node that was told to look at a point has no reason to
turn toward it any more.
-/

def Light.Stores (light : Light) : Property → Prop
  | .color color => light.color = color
  | .intensity intensity => light.intensity = intensity
  | _ => False

def Camera.Stores (camera : Camera) : Property → Prop
  | .fov fov => camera.fov? = some fov
  | .near near => camera.near = near
  | .far far => camera.far = far
  | _ => False

def Material.Stores (material : Material) : Property → Prop
  | .visible visible => material.visible = visible
  | .color color => material.color = color
  | .metalness metalness => ∃ roughness, material.shading = .standard metalness roughness
  | .roughness roughness => ∃ metalness, material.shading = .standard metalness roughness
  | .wireframe wireframe => material.wireframe = wireframe
  | .opacity opacity => material.opacity = opacity ∧ material.transparent = decide (opacity < 1)
  | _ => False

def Shape.Stores (shape : Shape) (part : Dimension) (value : Float32) : Prop :=
  match shape, part with
  | .box width _ _, .width => width = value
  | .box _ height _, .height => height = value
  | .box _ _ depth, .depth => depth = value
  | .sphere radius _ _, .radius => radius = value
  | .sphere _ widthSegments _, .widthSegments =>
    widthSegments = toSegments value Mesh.minWidthSegments
  | .sphere _ _ heightSegments, .heightSegments =>
    heightSegments = toSegments value Mesh.minHeightSegments
  | _, _ => False

def Node.Stores (node : Node) : Property → Prop
  | .position position => node.transform.position = position
  | .rotation angles => node.transform.rotation = Quaternion.ofEuler angles
  | .scale scale => node.transform.scale = scale
  | .lookAt target => ∀ turned,
    node.transform.lookAt? target node.facesNegativeZ = some turned → turned = node.transform
  | .visible visible => node.visible = visible
  | .castShadow castShadow => node.castShadow = castShadow
  | .receiveShadow receiveShadow => node.receiveShadow = receiveShadow
  | property =>
    match node.role with
    | .light light => light.Stores property
    | .camera camera => camera.Stores property
    | _ => False

def Object.Stores (object : Object) : Property → Prop
  | .name name => object.name = name
  | property =>
    match object.body with
    | .node node => node.Stores property
    | .material material => material.Stores property
    | .geometry geometry =>
      match property with
      | .dimension part value =>
        geometry.shape.Stores part value ∧ geometry.mesh = geometry.shape.mesh
      | _ => False

section

variable {property : Property}

theorem Light.stores_of_set? {light light' : Light} (hset : light.set? property = some light') :
    light'.Stores property := by
  cases property <;> cases hset <;> rfl

theorem Camera.stores_of_set? {camera camera' : Camera}
    (hset : camera.set? property = some camera') : camera'.refresh.state.Stores property := by
  obtain ⟨⟨matrix, hstate⟩, -⟩ := camera'.refresh_eq
  rw [hstate]
  cases property with
  | fov fov =>
      simp only [Camera.set?, Camera.setFov?] at hset
      split at hset <;> cases hset
      rfl
  | near near => cases hset; rfl
  | far far => cases hset; rfl
  | _ => cases hset

theorem Material.stores_of_set? {material material' : Material}
    (hset : material.set? property = some material') : material'.Stores property := by
  cases property with
  | metalness metalness =>
      simp only [Material.set?, Material.setMetalness?] at hset
      split at hset <;> cases hset
      exact ⟨_, rfl⟩
  | roughness roughness =>
      simp only [Material.set?, Material.setRoughness?] at hset
      split at hset <;> cases hset
      exact ⟨_, rfl⟩
  | opacity opacity => cases hset; exact ⟨rfl, rfl⟩
  | _ => cases hset <;> rfl

theorem Shape.stores_of_set? {shape shape' : Shape} {part : Dimension} {value : Float32}
    (hset : shape.set? part value = some shape') : shape'.Stores part value := by
  cases shape <;> cases part <;> cases hset <;> rfl

/-- A transform that was turned toward a point does not turn any further. -/
theorem Transform.lookAt?_getD (t : Transform) (target : Vec3) (negativeZ : Bool)
    {turned : Transform}
    (hturned : ((t.lookAt? target negativeZ).getD t).lookAt? target negativeZ = some turned) :
    turned = (t.lookAt? target negativeZ).getD t := by
  simp only [Transform.lookAt?] at hturned ⊢
  generalize hfacing : Quaternion.facing?
    (if negativeZ then t.position.sub target else target.sub t.position) = facing at hturned ⊢
  cases facing with
  | none =>
      rw [Option.map_none, Option.getD_none, hfacing] at hturned
      cases hturned
  | some rotation =>
      simp only [Option.map_some, Option.getD_some, hfacing, Option.some.injEq] at hturned ⊢
      exact hturned.symm

theorem Node.stores_of_set? {node node' : Node} (hset : node.set? property = some node') :
    node'.Stores property := by
  cases property with
  | position _ | rotation _ | scale _ | visible _ | castShadow _ | receiveShadow _ =>
      cases hset
      rfl
  | lookAt target =>
      cases hset
      intro turned hturned
      exact Transform.lookAt?_getD _ _ _ hturned
  | _ =>
      simp only [Node.set?] at hset
      split at hset
      next light _ =>
        obtain ⟨light', hlight, rfl⟩ := Option.map_eq_some_iff.mp hset
        exact Light.stores_of_set? hlight
      next => cases hset

theorem Object.stores_of_set? {object object' : Object}
    (hset : object.set? property = some object') : object'.Stores property := by
  rcases object with ⟨name, body⟩
  cases property with
  | name name =>
      cases hset
      rfl
  | _ =>
      cases body with
      | node node =>
          simp only [Object.set?, Option.map_eq_some_iff] at hset
          obtain ⟨node', hnode, rfl⟩ := hset
          exact Node.stores_of_set? hnode
      | material material =>
          simp only [Object.set?, Option.map_eq_some_iff] at hset
          obtain ⟨material', hmaterial, rfl⟩ := hset
          exact Material.stores_of_set? hmaterial
      | geometry geometry => cases hset

theorem Object.stores_of_store {object : Object}
    (hresult : (object.store property).result = .ok true) :
    (object.store property).state.Stores property := by
  unfold Object.store at hresult ⊢
  cases hset : object.set? property with
  | none =>
      rw [hset] at hresult
      cases hresult
  | some object' => exact Object.stores_of_set? hset

theorem Object.stores_of_setLens {object : Object}
    (hresult : (object.setLens property).result = .ok true) :
    (object.setLens property).state.Stores property := by
  unfold Object.setLens at hresult ⊢
  cases hset : object.camera?.bind (·.set? property) with
  | none =>
      rw [hset] at hresult
      cases hresult
  | some camera' =>
      obtain ⟨camera, hcamera, hset⟩ := Option.bind_eq_some_iff.mp hset
      obtain ⟨node, hbody, hrole⟩ := Object.camera?_eq_some_iff.mp hcamera
      have hstores := Camera.stores_of_set? hset
      simp only [Outcome.map, Outcome.within, Object.onNode, hbody]
      cases property with
      | fov _ | near _ | far _ => exact hstores
      | _ => exact hstores.elim

/-- An object stores a property that it was given, but for the selection, which is not in it. -/
theorem Object.stores_impact {object : Object} {id : NodeId} {next : Handle}
    (hresult : (object.impact id next property).result = .ok true)
    (hother : ∀ on, property ≠ .active on) :
    (object.impact id next property).state.object.Stores property := by
  cases property with
  | active on => exact absurd rfl (hother on)
  | fov _ | near _ | far _ => exact Object.stores_of_setLens hresult
  | dimension part value =>
      simp only [impact] at hresult ⊢
      cases hset : object.geometry?.bind (·.shape.set? part value) with
      | none =>
          rw [hset] at hresult
          cases hresult
      | some shape =>
          obtain ⟨geometry, -, hshape⟩ := Option.bind_eq_some_iff.mp hset
          exact ⟨Shape.stores_of_set? hshape, rfl⟩
  | _ => exact Object.stores_of_store hresult

end

/-- A setting is accepted when its value can be read and the object has the property. -/
theorem Setting.impact_accepted {id : NodeId} {key : String} {value : Value} {object : Object}
    {next : Handle}
    (haccepted : (Setting.impact ⟨id, key, some value⟩ object next).result = .ok (.ok ())) :
    ∃ property, Property.decode key value = .ok property ∧
      (object.impact id next property).result = .ok true ∧
      (Setting.impact ⟨id, key, some value⟩ object next).state =
        (object.impact id next property).state := by
  simp only [Setting.impact] at haccepted ⊢
  generalize Property.decode key value = read at haccepted ⊢
  cases read with
  | error issue => cases haccepted
  | ok property =>
      refine ⟨property, rfl, ?_, rfl⟩
      simp only [Outcome.map] at haccepted
      generalize (object.impact id next property).result = verdict at haccepted ⊢
      rcases verdict with fault | _ | _
      · cases haccepted
      · cases haccepted
      · rfl

/-- An id that was selected or deselected is the selection exactly if it was selected. -/
theorem NodeId.turn_eq_some_iff (id : NodeId) (on : Bool) (active : Option NodeId) :
    id.turn on active = some id ↔ on = true := by
  unfold NodeId.turn
  grind

namespace Graph

/-- What a graph has of a property that was set on an id. -/
def Stores (g : Graph) (id : NodeId) : Property → Prop
  | .active on => g.active = some id ↔ on = true
  | property => ∃ object, g.object? id = some object ∧ object.Stores property

theorem stores_absorb {g : Graph} {id : NodeId} {object : Object} {property : Property}
    (hobject : g.object? id = some object)
    (hresult : (object.impact id g.nextHandle property).result = .ok true) :
    (g.absorb id (object.impact id g.nextHandle property).state).Stores id property := by
  have hstored : (∀ on, property ≠ .active on) → ∃ object',
      (g.absorb id (object.impact id g.nextHandle property).state).object? id = some object' ∧
        object'.Stores property := by
    intro hother
    refine ⟨_, ?_, Object.stores_impact hresult hother⟩
    rw [object?_absorb, if_pos rfl, hobject, Option.map_some]
  cases property with
  | active on =>
      simp only [Object.impact] at hresult ⊢
      split at hresult
      next hcamera =>
        rw [if_pos hcamera]
        exact id.turn_eq_some_iff on g.active
      next => cases hresult
  | _ => exact hstored fun _ heq => by cases heq

/-- A property that was accepted can be read back. -/
theorem TablesAgree.stores_setProp {g : Graph} (hg : g.TablesAgree) {id : NodeId} {key : String}
    {value : Value} (haccepted : (g.apply (.setProp id key value)).result = .ok (.ok ())) :
    ∃ property, Property.decode key value = .ok property ∧
      (g.apply (.setProp id key value)).state.Stores id property := by
  change (g.apply (Setting.op ⟨id, key, some value⟩)).result = _ at haccepted
  change ∃ property, _ ∧ (g.apply (Setting.op ⟨id, key, some value⟩)).state.Stores id property
  cases hobject : g.object? id with
  | none =>
      rw [hg.apply_setting_of_none hobject] at haccepted
      cases haccepted
  | some object =>
      rw [hg.apply_setting hobject] at haccepted ⊢
      obtain ⟨property, hdecode, hresult, hstate⟩ :=
        Setting.impact_accepted haccepted
      refine ⟨property, hdecode, ?_⟩
      change (g.absorb id (Setting.impact ⟨id, key, some value⟩ object g.nextHandle).state).Stores _ _
      rw [hstate]
      exact stores_absorb hobject hresult

/-! ## Verdicts by the table -/

/-- What the table has to say when a property is to be set on an id. -/
def judge (g : Graph) (id : NodeId) (key : String) (value : Value) : Verdict :=
  match g.kind? id with
  | none => .error (.missingReference id)
  | some kind =>
    match Property.expects key with
    | none => .error (.unsupportedProperty key .unsupported)
    | some row =>
      if value.typeName ≠ row.type then .error (.typeMismatch key row.type value.typeName)
      else if row.kinds kind then .ok ()
      else .error (.unsupportedProperty key kind)

theorem judge_eq_ok_iff (g : Graph) (id : NodeId) (key : String) (value : Value) :
    g.judge id key value = .ok () ↔
      ∃ kind row, g.kind? id = some kind ∧ Property.expects key = some row ∧
        value.typeName = row.type ∧ row.kinds kind = true := by
  unfold judge
  cases g.kind? id with
  | none => simp
  | some kind =>
      cases Property.expects key with
      | none => simp
      | some row =>
          by_cases htype : value.typeName = row.type
          · by_cases hkinds : row.kinds kind = true <;> simp [htype, hkinds]
          · simp [htype]

/-- A property that is set gets the verdict of the table, unless it ends in a fault, and then the
table has it. -/
theorem TablesAgree.setProp_judged {g : Graph} (hg : g.TablesAgree) (id : NodeId) (key : String)
    (value : Value) :
    (g.apply (.setProp id key value)).result = .ok (g.judge id key value) ∨
      g.judge id key value = .ok () ∧
        ∃ fault, (g.apply (.setProp id key value)).result = .error fault := by
  change (g.apply (Setting.op ⟨id, key, some value⟩)).result = _ ∨
    _ ∧ ∃ fault, (g.apply (Setting.op ⟨id, key, some value⟩)).result = .error fault
  have hkind := hg.kind?_eq id
  cases hobject : g.object? id with
  | none =>
      rw [hobject, Option.map_none] at hkind
      rw [hg.apply_setting_of_none hobject, judge, hkind]
      exact Or.inl rfl
  | some object =>
      rw [hobject, Option.map_some] at hkind
      rw [hg.apply_setting hobject]
      simp only [judge, hkind, Setting.impact]
      rcases Property.decode_cases key value with ⟨hnone, hdecode⟩ | ⟨row, hrow, hread⟩
      · rw [hnone, hdecode]
        exact Or.inl rfl
      · rcases hread with ⟨htype, property, hdecode⟩ | ⟨htype, hdecode⟩
        · have hhas : object.has property = row.kinds object.kind := by
            rw [object.has_eq, Property.key_of_decode hdecode, hrow, Option.any_some]
          rw [hrow, hdecode]
          simp only [htype, ne_eq, not_true_eq_false, if_false]
          rcases object.impact_result id g.nextHandle property with hresult | ⟨hsupported, fault, hresult⟩
          · refine Or.inl ?_
            simp only [Outcome.within, Outcome.map, hresult, Except.map, hhas]
          · refine Or.inr ⟨by rw [← hhas, hsupported]; rfl, fault, ?_⟩
            simp only [Outcome.within, Outcome.map, hresult, Except.map]
        · rw [hrow, hdecode]
          simp only [ne_eq, htype, not_false_eq_true, if_true]
          exact Or.inl rfl

/-- What setting a property does to the graph that any commands led to. Without a fault, the verdict
is the one of the table: the property is set exactly when the id is live, the value is of the type
that the key expects and the kind has the property, and otherwise the first of these that fails is
reported. Whatever the result, only what belongs to the id and to its key can change. -/
theorem setProp_by_table (commands : List Command) (id : NodeId) (key : String) (value : Value) :
    let g := run commands
    let outcome := g.apply (.setProp id key value)
    (∀ verdict, outcome.result = .ok verdict →
      (verdict = .ok () ↔
        ∃ kind row, g.kind? id = some kind ∧ Property.expects key = some row ∧
          value.typeName = row.type ∧ row.kinds kind = true) ∧
      verdict = g.judge id key value) ∧
    g.Framed id key outcome.state := by
  intro g outcome
  have hg : g.TablesAgree := (consistent_run commands).toTablesAgree
  refine ⟨fun verdict hresult => ?_, hg.framed ⟨id, key, some value⟩⟩
  have hverdict : verdict = g.judge id key value := by
    rcases hg.setProp_judged id key value with hjudged | ⟨-, fault, hfault⟩
    · exact Except.ok.inj (hresult.symm.trans hjudged)
    · cases hresult.symm.trans hfault
  exact ⟨hverdict ▸ g.judge_eq_ok_iff id key value, hverdict⟩

/-- Materials can be hidden, but only a camera with a perspective has a field of view. -/
theorem setProp_by_table_camera :
    let g := run [.apply (.create ⟨1⟩ .basicMaterial []), .apply (.create ⟨2⟩ .orthographicCamera [])]
    let hidden := g.apply (.setProp ⟨1⟩ "visible" (.bool false))
    let widened := g.apply (.setProp ⟨2⟩ "fov" (.number 60))
    hidden.result = .ok (g.judge ⟨1⟩ "visible" (.bool false)) ∧ g.Framed ⟨1⟩ "visible" hidden.state ∧
      widened.result = .ok (.error (.unsupportedProperty "fov" .orthographicCamera)) ∧
      g.judge ⟨2⟩ "fov" (.number 60) = .error (.unsupportedProperty "fov" .orthographicCamera) ∧
      g.Framed ⟨2⟩ "fov" widened.state := by
  intro g hidden widened
  have hhidden : hidden.result = .ok (.ok ()) := by decide +kernel
  have hwidened :
      widened.result = .ok (.error (.unsupportedProperty "fov" .orthographicCamera)) := by
    decide +kernel
  obtain ⟨hfirst, hframed⟩ := setProp_by_table _ ⟨1⟩ "visible" (.bool false)
  obtain ⟨hsecond, hframed'⟩ := setProp_by_table _ ⟨2⟩ "fov" (.number 60)
  obtain ⟨-, hjudged⟩ := hfirst _ hhidden
  obtain ⟨-, hjudged'⟩ := hsecond _ hwidened
  exact ⟨hjudged ▸ hhidden, hframed, hwidened, hjudged'.symm, hframed'⟩

end Graph

end LiveScene
