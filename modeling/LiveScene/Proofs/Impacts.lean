import LiveScene.Proofs.Faults
import LiveScene.Proofs.LinkOrder

/-! # Setting a property as a change of one object

Setting a property looks at the object of one id and at nothing else, except that a new geometry is
told the next handle. What it does to the graph can be said before it is done: another object takes
the place of the old one, the selection turns, and handles are given up and drawn. Only the key of
the selection turns the selection, and only the keys of dimensions have to do with handles.
-/

namespace LiveScene

/-! ## Keys -/

/-- The key that a property is read from. -/
def Property.key : Property → String
  | .position _ => "position"
  | .rotation _ => "rotation"
  | .scale _ => "scale"
  | .lookAt _ => "lookAt"
  | .visible _ => "visible"
  | .name _ => "name"
  | .castShadow _ => "castShadow"
  | .receiveShadow _ => "receiveShadow"
  | .color _ => "color"
  | .intensity _ => "intensity"
  | .fov _ => "fov"
  | .near _ => "near"
  | .far _ => "far"
  | .active _ => activeKey
  | .dimension part _ => part.name
  | .metalness _ => "metalness"
  | .roughness _ => "roughness"
  | .wireframe _ => "wireframe"
  | .opacity _ => "opacity"

/-- A property is read from its own key only. -/
theorem Property.key_of_decode {key : String} {value : Value} {property : Property}
    (hdecode : decode key value = .ok property) : property.key = key := by
  unfold decode at hdecode
  split at hdecode
  case h_25 => cases hdecode
  all_goals
    cases value <;> cases hdecode
    rfl

/-! ## Changes of an object -/

/-- What becomes of the selection when an id is selected or deselected. -/
def NodeId.turn (id : NodeId) (on : Bool) (active : Option NodeId) : Option NodeId :=
  if on then some id else if active = some id then none else active

/-- What a property does to the graph that it is set in. -/
structure Impact where
  /-- What takes the place of the object that the property is set on. -/
  object : Object
  /-- What becomes of the selection. -/
  select : Option NodeId → Option NodeId := fun active => active
  /-- The handles given up. -/
  spent : List Handle := []
  /-- How many handles are drawn. -/
  drawn : Nat := 0

namespace Object

/-- The object with a parameter of its lens set; the answer is whether it has such a parameter. -/
def setLens (object : Object) (property : Property) : Outcome Object Bool :=
  match object.camera?.bind (·.set? property) with
  | some camera =>
    (camera.refresh.within fun camera =>
      object.onNode fun node => { node with role := .camera camera }).map fun _ => true
  | none => .done object false

/-- The object with a property stored as given; the answer is whether it has the property. -/
def store (object : Object) (property : Property) : Outcome Object Bool :=
  match object.set? property with
  | some object => .done object true
  | none => .done object false

/-- What setting a property does to an object when `next` is the handle to be drawn; the answer is
whether the object has the property. -/
def impact (object : Object) (id : NodeId) (next : Handle) (property : Property) :
    Outcome Impact Bool :=
  match property with
  | .active on =>
    if object.kind.isCamera then .done { object, select := id.turn on } true
    else .done { object } false
  | .fov _ | .near _ | .far _ => (object.setLens property).within fun object => { object }
  | .dimension dimension value =>
    match object.geometry?.bind (·.shape.set? dimension value) with
    | some shape =>
      .done
        { object := { object with body := .geometry (Geometry.make shape next) }
          spent := object.handle?.toList
          drawn := 1 } true
    | none => .done { object } false
  | property => (object.store property).within fun object => { object }

section

variable (object : Object) (id : NodeId) (next : Handle) {property : Property}

/-- Only one key turns the selection. -/
theorem impact_select (hkey : property.key ≠ Property.activeKey) :
    (object.impact id next property).state.select = fun active => active := by
  cases property with
  | active on => exact absurd rfl hkey
  | dimension dimension value =>
      simp only [impact]
      split <;> rfl
  | _ => rfl

/-- Handles come in only where a shape is changed. -/
theorem impact_handles (hkey : ∀ dimension : Dimension, property.key ≠ dimension.name) :
    (object.impact id next property).state.spent = [] ∧
      (object.impact id next property).state.drawn = 0 ∧
      ∀ next', object.impact id next' property = object.impact id next property := by
  cases property with
  | active on => refine ⟨?_, ?_, fun _ => rfl⟩ <;> simp only [impact] <;> split <;> rfl
  | dimension dimension value => exact absurd rfl (hkey dimension)
  | _ => exact ⟨rfl, rfl, fun _ => rfl⟩

end

end Object

/-- A property that is set on an id, or unset when there is no value. -/
structure Setting where
  id : NodeId
  key : String
  value : Option Value

namespace Setting

def op (setting : Setting) : Op :=
  match setting.value with
  | some value => .setProp setting.id setting.key value
  | none => .unsetProp setting.id setting.key

/-- What a setting does to the object of its id when `next` is the handle to be drawn. -/
def impact (setting : Setting) (object : Object) (next : Handle) : Outcome Impact Verdict :=
  match setting.value with
  | some value =>
    match Property.decode setting.key value with
    | .error issue => .done { object } (.error issue)
    | .ok property =>
      (object.impact setting.id next property).map fun supported =>
        if supported then .ok () else .error (.unsupportedProperty setting.key object.kind)
  | none =>
    if setting.key = Property.activeKey then
      .done { object, select := setting.id.turn false } (.ok ())
    else .done { object } (.error (.unsupportedProperty setting.key object.kind))

/-- Whether the key is one of those that shapes are made from. -/
def IsDimension (setting : Setting) : Prop :=
  ∃ dimension : Dimension, setting.key = dimension.name

section

variable {setting : Setting} (object : Object) (next : Handle)

theorem impact_select (hkey : setting.key ≠ Property.activeKey) :
    (setting.impact object next).state.select = fun active => active := by
  rcases setting with ⟨id, key, value⟩
  cases value with
  | none => simp only [impact, if_neg hkey, Outcome.done]
  | some value =>
      simp only [impact]
      cases hdecode : Property.decode key value with
      | error issue => rfl
      | ok property =>
          have hread := Property.key_of_decode hdecode
          exact object.impact_select id next (hread ▸ hkey)

theorem impact_handles (hkey : ¬setting.IsDimension) :
    (setting.impact object next).state.spent = [] ∧ (setting.impact object next).state.drawn = 0 ∧
      ∀ next', setting.impact object next' = setting.impact object next := by
  rcases setting with ⟨id, key, value⟩
  cases value with
  | none => refine ⟨?_, ?_, fun _ => rfl⟩ <;> simp only [impact] <;> split <;> rfl
  | some value =>
      simp only [impact]
      cases hdecode : Property.decode key value with
      | error issue => exact ⟨rfl, rfl, fun _ => rfl⟩
      | ok property =>
          have hother : ∀ dimension : Dimension, property.key ≠ dimension.name := fun dimension heq =>
            hkey ⟨dimension, (Property.key_of_decode hdecode).symm.trans heq⟩
          obtain ⟨hspent, hdrawn, hnext⟩ := object.impact_handles id next hother
          exact ⟨hspent, hdrawn, fun next' => congrArg (Outcome.map _) (hnext next')⟩

end

end Setting

namespace Graph

/-- The graph after something was done to the object of an id. -/
def absorb (g : Graph) (id : NodeId) (impact : Impact) : Graph :=
  { g.setObject id impact.object with
    active := impact.select g.active
    released := g.released ++ impact.spent
    lastHandle := g.lastHandle + impact.drawn }

/-- An object that is put in its own place changes nothing. -/
theorem setObject_self {g : Graph} {id : NodeId} {object : Object}
    (hobject : g.object? id = some object) : g.setObject id object = g := by
  have hobjects : (g.setObject id object).objects = g.objects := by
    apply Std.ExtTreeMap.ext_getElem?
    intro other
    change (g.setObject id object).object? other = g.object? other
    rw [object?_setObject]
    split
    next heq => rw [← heq, hobject]; rfl
    next => rfl
  exact congrArg (fun objects => { g with objects }) hobjects

theorem absorb_object (g : Graph) (id : NodeId) (object : Object) :
    g.absorb id { object } = g.setObject id object := by
  simp [absorb, setObject, modify]

theorem absorb_self {g : Graph} {id : NodeId} {object : Object}
    (hobject : g.object? id = some object) : g.absorb id { object } = g := by
  rw [absorb_object, setObject_self hobject]

theorem select_eq (g : Graph) (id : NodeId) (on : Bool) :
    g.select id on = { g with active := id.turn on g.active } := by
  unfold select NodeId.turn
  split
  next => rfl
  next =>
    split
    next => rfl
    next => rfl

theorem absorb_turn {g : Graph} {id : NodeId} {object : Object}
    (hobject : g.object? id = some object) (on : Bool) :
    g.absorb id { object, select := id.turn on } = g.select id on := by
  rw [select_eq]
  simp only [absorb, setObject_self hobject, List.append_nil, Nat.add_zero]

section

variable {g : Graph} {id : NodeId} {object : Object} (hobject : g.object? id = some object)

include hobject

theorem setLens_eq_absorb (property : Property) :
    g.setLens id object property =
      (object.setLens property).within fun object => g.absorb id { object } := by
  have hrefused : .done g false =
      (Outcome.done object false).within fun object => g.absorb id { object } := by
    simp only [Outcome.within, Outcome.done, absorb_self hobject]
  cases hcamera : object.camera? with
  | none =>
      rw [setLens_of_camera?_eq_none hcamera]
      simp only [Object.setLens, hcamera, Option.bind_none]
      exact hrefused
  | some camera =>
      obtain ⟨node, hbody, hrole⟩ := Object.camera?_eq_some_iff.mp hcamera
      simp only [setLens, hbody, hrole, Object.setLens, hcamera, Option.bind_some]
      cases camera.set? property with
      | none => exact hrefused
      | some camera' =>
          simp only [Outcome.within, Outcome.map, absorb_object, setNode_eq_setObject hobject,
            Object.onNode, hbody]

theorem rebuild_eq_absorb (dimension : Dimension) (value : Float32) :
    Outcome.done (g.rebuild id object dimension value).1 (g.rebuild id object dimension value).2 =
      (object.impact id g.nextHandle (.dimension dimension value)).within (g.absorb id) := by
  simp only [rebuild, Object.impact]
  cases object.geometry?.bind (·.shape.set? dimension value) with
  | none => simp only [Outcome.within, Outcome.done, absorb_self hobject]
  | some shape =>
      have hdrawn : g.drawHandle.object? id = some object := hobject
      simp only [replace?, hdrawn, Option.map_some]
      rfl

theorem store_eq_absorb (property : Property) :
    g.store id object property =
      (object.store property).within fun object => g.absorb id { object } := by
  unfold store Object.store
  cases object.set? property with
  | none => simp only [Outcome.within, Outcome.done, absorb_self hobject]
  | some object' => simp only [Outcome.within, Outcome.done, absorb_object]

/-- Setting a property is what it does to the object, put into the graph. -/
theorem setProperty_eq_absorb (property : Property) :
    g.setProperty id object.kind object property =
      (object.impact id g.nextHandle property).within (g.absorb id) := by
  cases property with
  | active on =>
      simp only [setProperty, Object.impact]
      split
      next => simp only [Outcome.within, Outcome.done, absorb_turn hobject]
      next => simp only [Outcome.within, Outcome.done, absorb_self hobject]
  | fov fov => exact setLens_eq_absorb hobject (.fov fov)
  | near near => exact setLens_eq_absorb hobject (.near near)
  | far far => exact setLens_eq_absorb hobject (.far far)
  | dimension dimension value => exact rebuild_eq_absorb hobject dimension value
  | name name => exact store_eq_absorb hobject (.name name)
  | _ => exact store_eq_absorb hobject _

end

section

variable {g : Graph} (hg : g.TablesAgree) {setting : Setting}

include hg

/-- A setting on an id that is not live is ignored. -/
theorem TablesAgree.apply_setting_of_none (hnone : g.object? setting.id = none) :
    g.apply setting.op = .done g (.error (.missingReference setting.id)) := by
  have hkind := hg.kind?_eq setting.id
  rw [hnone, Option.map_none] at hkind
  rcases setting with ⟨id, key, value⟩
  cases value with
  | none => simp only [Setting.op, apply, unsetProp, hkind]
  | some value => simp only [Setting.op, apply, setProp, hkind]

/-- A setting on a live id is what it does to the object, put into the graph. -/
theorem TablesAgree.apply_setting {object : Object} (hobject : g.object? setting.id = some object) :
    g.apply setting.op =
      (setting.impact object g.nextHandle).within (g.absorb setting.id) := by
  have hkind := hg.kind?_eq setting.id
  rw [hobject, Option.map_some] at hkind
  rcases setting with ⟨id, key, value⟩
  have hrefused : ∀ issue, (Outcome.done { object } (.error issue)).within (g.absorb id) =
      .done g (.error issue : Verdict) := by
    intro issue
    simp only [Outcome.within, Outcome.done, absorb_self hobject]
  cases value with
  | none =>
      simp only [Setting.op, apply, unsetProp, hkind, Setting.impact]
      split
      next => simp only [Outcome.within, Outcome.done, absorb_turn hobject]
      next => exact (hrefused _).symm
  | some value =>
      simp only [Setting.op, apply, setProp, hkind, Setting.impact]
      cases Property.decode key value with
      | error issue => exact (hrefused issue).symm
      | ok property =>
          simp only [hobject, setProperty_eq_absorb hobject]
          rfl

end

theorem object?_absorb (g : Graph) (id other : NodeId) (impact : Impact) :
    (g.absorb id impact).object? other =
      if id = other then (g.object? other).map (fun _ => impact.object) else g.object? other :=
  g.object?_setObject id other impact.object

theorem SameOutline.links {g g' : Graph} (h : g.SameOutline g') (id : NodeId) :
    (g'.node? id).map Node.links = (g.node? id).map Node.links := by
  have hmap := congrArg (Option.bind · Prod.snd) (h.outline id)
  simp only [Option.bind_map] at hmap
  rw [node?, node?, Option.map_bind, Option.map_bind]
  exact hmap

/-- No setting changes what links depend on. -/
theorem sameOutline_setting (g : Graph) (setting : Setting) :
    g.SameOutline (g.apply setting.op).state := by
  have hsame : g.SameOutline g := ⟨fun _ => rfl, rfl, rfl, rfl⟩
  rcases setting with ⟨id, key, value⟩
  cases value with
  | none =>
      rcases g.unsetProp_cases id key with ⟨issue, heq⟩ | ⟨htouched, -⟩
      · simp only [Setting.op, apply, heq]
        exact hsame
      · exact htouched.sameOutline
  | some value =>
      rcases g.setProp_cases id key value with ⟨issue, heq⟩ | ⟨htouched, -⟩
      · simp only [Setting.op, apply, heq]
        exact hsame
      · exact htouched.sameOutline

/-! ## What stays as it is -/

/-- What a property that is set on an id leaves alone. -/
structure Framed (g : Graph) (id : NodeId) (key : String) (g' : Graph) : Prop where
  object? : ∀ other, other ≠ id → g'.object? other = g.object? other
  kinds : g'.kinds = g.kinds
  parents : g'.parents = g.parents
  scenes : g'.scenes = g.scenes
  /-- The node keeps its children in their order and what it has in its slots. -/
  links : (g'.node? id).map Node.links = (g.node? id).map Node.links
  active : key ≠ Property.activeKey → g'.active = g.active
  handles : (∀ dimension : Dimension, key ≠ dimension.name) →
    g'.released = g.released ∧ g'.lastHandle = g.lastHandle

theorem TablesAgree.framed {g : Graph} (hg : g.TablesAgree) (setting : Setting) :
    g.Framed setting.id setting.key (g.apply setting.op).state := by
  have hsame := g.sameOutline_setting setting
  cases hobject : g.object? setting.id with
  | none =>
      rw [hg.apply_setting_of_none hobject]
      exact ⟨fun _ _ => rfl, rfl, rfl, rfl, rfl, fun _ => rfl, fun _ => ⟨rfl, rfl⟩⟩
  | some object =>
      refine ⟨fun other hne => ?_, hsame.kinds, hsame.parents, hsame.scenes, hsame.links setting.id,
        fun hkey => ?_, fun hkey => ?_⟩
      all_goals rw [hg.apply_setting hobject]
      · exact (g.object?_absorb setting.id other _).trans (if_neg (Ne.symm hne))
      · change (setting.impact object g.nextHandle).state.select g.active = g.active
        rw [setting.impact_select object g.nextHandle hkey]
      · have hother : ¬setting.IsDimension := by
          rintro ⟨dimension, heq⟩
          exact hkey dimension heq
        obtain ⟨hspent, hdrawn, -⟩ := Setting.impact_handles object g.nextHandle hother
        simp [Outcome.within, absorb, hspent, hdrawn]

end Graph

end LiveScene
