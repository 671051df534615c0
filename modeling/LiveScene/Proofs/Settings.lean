import LiveScene.Proofs.Consistency
import LiveScene.View.Resize

/-! # What setting a property does to a graph

A property is refused, and then nothing changes, or it touches one id in one of three ways: the
selection of a camera, an object stored in place of one with the same outline and handle, or a
geometry made anew under a fresh handle. A fault comes after the object was stored.
-/

namespace LiveScene.Graph

theorem setNode_eq_setObject {g : Graph} {id : NodeId} {object : Object}
    (hobject : g.object? id = some object) (node : Node) :
    g.setNode id node = g.setObject id { object with body := .node node } := by
  have hobjects : (g.setNode id node).objects =
      (g.setObject id { object with body := .node node }).objects := by
    apply Std.ExtTreeMap.ext_getElem?
    intro other
    simp only [setNode, setBody, setObject, modify, Std.ExtTreeMap.getElem?_modify,
      Std.compare_eq_iff_eq]
    split
    next =>
      rw [object?] at hobject
      rw [hobject]
      rfl
    next => rfl
  exact congrArg (fun objects => { g with objects }) hobjects

/-- What setting a property of an id can make of a graph. -/
inductive Touched (g : Graph) (id : NodeId) : Graph → Prop
  | select (active : Bool)
      (hcamera : active = true → ∃ kind, g.kind? id = some kind ∧ kind.isCamera = true) :
      Touched g id (g.select id active)
  | store (object object' : Object) (hobject : g.object? id = some object)
      (houtline : object'.outline = object.outline) (hhandle : object'.handle? = object.handle?) :
      Touched g id (g.setObject id object')
  | rebuild (object object' : Object) (handle : Handle) (hobject : g.object? id = some object)
      (houtline : object'.outline = object.outline) (hold : object.handle? = some handle)
      (hnew : object'.handle? = some g.nextHandle) :
      Touched g id ((g.drawHandle.setObject id object').release (some handle))

/-- A camera with another matrix or other parameters is stored in place of the old one. -/
theorem touched_setCamera {g : Graph} {id : NodeId} {object : Object} {node : Node}
    {camera camera' : Camera} (hobject : g.object? id = some object)
    (hbody : object.body = .node node) (hrole : node.role = .camera camera)
    (hkind : camera'.projection.kind = camera.projection.kind) :
    Touched g id (g.setNode id { node with role := .camera camera' }) := by
  rw [setNode_eq_setObject hobject]
  rcases object with ⟨name, body⟩
  rcases node with ⟨_, _, _, _, children, role⟩
  cases hbody
  cases hrole
  exact .store _ _ hobject (Prod.ext hkind rfl) rfl

theorem setLens_cases {g : Graph} {id : NodeId} {object : Object} (property : Property)
    (hobject : g.object? id = some object) :
    g.setLens id object property = .done g false ∨
      Touched g id (g.setLens id object property).state ∧
        (g.setLens id object property).result ≠ .ok false := by
  unfold setLens
  split
  next node hbody =>
    split
    next camera hrole =>
      split
      next camera' hset =>
        right
        refine ⟨touched_setCamera hobject hbody hrole ?_, ?_⟩
        · rw [Camera.refresh_projection]
          exact Camera.projection_kind_of_set? hset
        · simp only [Outcome.map, Outcome.within]
          cases camera'.refresh.result <;> nofun
      next => exact Or.inl rfl
    next => exact Or.inl rfl
  next => exact Or.inl rfl

theorem rebuild_cases {g : Graph} {id : NodeId} {object : Object} (dimension : Dimension)
    (value : Float32) (hobject : g.object? id = some object) :
    g.rebuild id object dimension value = (g, false) ∨
      Touched g id (g.rebuild id object dimension value).1 ∧
        (g.rebuild id object dimension value).2 = true := by
  unfold rebuild
  split
  next shape hshape =>
    right
    obtain ⟨geometry, hgeometry, hset⟩ := Option.bind_eq_some_iff.mp hshape
    rcases object with ⟨name, body⟩
    cases body <;> cases hgeometry
    have hreplace := fun object' : Object =>
      show g.drawHandle.replace? id object' =
        some ((g.drawHandle.setObject id object').release (some geometry.handle)) by
        rw [replace?, show g.drawHandle.object? id = _ from hobject]
        rfl
    simp only [hreplace]
    exact ⟨.rebuild _ _ _ hobject (Prod.ext (Shape.kind_of_set? hset) rfl) rfl rfl, trivial⟩
  next => exact Or.inl rfl

theorem store_cases {g : Graph} {id : NodeId} {object : Object} (property : Property)
    (hobject : g.object? id = some object) :
    g.store id object property = .done g false ∨
      Touched g id (g.store id object property).state ∧
        (g.store id object property).result ≠ .ok false := by
  unfold store
  split
  next object' hset =>
    obtain ⟨houtline, hhandle⟩ := Object.outline_of_set? hset
    exact Or.inr ⟨.store object object' hobject houtline hhandle, nofun⟩
  next => exact Or.inl rfl

theorem setProperty_cases {g : Graph} {id : NodeId} {kind : Kind} {object : Object}
    (property : Property) (hkind : g.kind? id = some kind) (hobject : g.object? id = some object) :
    g.setProperty id kind object property = .done g false ∨
      Touched g id (g.setProperty id kind object property).state ∧
        (g.setProperty id kind object property).result ≠ .ok false := by
  unfold setProperty
  split
  next active =>
    split
    next hcamera => exact Or.inr ⟨.select active fun _ => ⟨kind, hkind, hcamera⟩, nofun⟩
    next => exact Or.inl rfl
  next => exact setLens_cases _ hobject
  next => exact setLens_cases _ hobject
  next => exact setLens_cases _ hobject
  next dimension value =>
    rcases rebuild_cases dimension value hobject with heq | ⟨htouched, hsupported⟩
    · exact Or.inl (by rw [heq])
    · refine Or.inr ⟨htouched, ?_⟩
      simp [Outcome.done, hsupported]
  next => exact store_cases _ hobject

theorem setProp_cases (g : Graph) (id : NodeId) (key : String) (value : Value) :
    (∃ issue, g.setProp id key value = .done g (.error issue)) ∨
      Touched g id (g.setProp id key value).state ∧
        ∀ issue, (g.setProp id key value).result ≠ .ok (.error issue) := by
  unfold setProp
  cases hkind : g.kind? id with
  | none => exact Or.inl ⟨_, rfl⟩
  | some kind =>
      cases Property.decode key value with
      | error issue => exact Or.inl ⟨_, rfl⟩
      | ok property =>
          cases hobject : g.object? id with
          | none => exact Or.inl ⟨_, rfl⟩
          | some object =>
              rcases setProperty_cases property hkind hobject with heq | ⟨htouched, hsupported⟩
              · refine Or.inl ⟨.unsupportedProperty key kind, ?_⟩
                dsimp only
                rw [heq]
                rfl
              · refine Or.inr ⟨htouched, fun issue => ?_⟩
                simp only [Outcome.map]
                cases hresult : (g.setProperty id kind object property).result with
                | error fault => exact nofun
                | ok supported =>
                    cases supported with
                    | false => exact absurd hresult hsupported
                    | true => exact nofun

theorem unsetProp_cases (g : Graph) (id : NodeId) (key : String) :
    (∃ issue, g.unsetProp id key = (g, .error issue)) ∨
      Touched g id (g.unsetProp id key).1 ∧ (g.unsetProp id key).2 = .ok () := by
  unfold unsetProp
  split
  next => exact Or.inl ⟨_, rfl⟩
  next kind _ =>
    split
    next => exact Or.inr ⟨.select false nofun, rfl⟩
    next => exact Or.inl ⟨_, rfl⟩

theorem fitCamera_cases (g : Graph) (aspect : Float32) :
    (g.fitCamera aspect).state = g ∨ ∃ id, Touched g id (g.fitCamera aspect).state := by
  unfold fitCamera
  split
  next => exact Or.inl rfl
  next id _ =>
    split
    next node hnode =>
      split
      next camera hrole =>
        obtain ⟨object, hobject, hbody⟩ := node?_eq_some_iff.mp hnode
        refine Or.inr ⟨id, touched_setCamera hobject ?_ hrole ?_⟩
        · rcases object with ⟨name, body⟩
          cases body <;> cases hbody
          rfl
        · exact camera.projection_kind_fit aspect
      next => exact Or.inl rfl
    next => exact Or.inl rfl

/-- Whatever is known of links is the same in two graphs. -/
structure SameOutline (g g' : Graph) : Prop where
  outline : ∀ id, (g'.object? id).map Object.outline = (g.object? id).map Object.outline
  kinds : g'.kinds = g.kinds
  parents : g'.parents = g.parents
  scenes : g'.scenes = g.scenes

theorem Touched.sameOutline {g g' : Graph} {id : NodeId} (htouched : Touched g id g') :
    SameOutline g g' := by
  cases htouched with
  | select active _ =>
      unfold Graph.select
      split
      · exact ⟨fun _ => rfl, rfl, rfl, rfl⟩
      · split <;> exact ⟨fun _ => rfl, rfl, rfl, rfl⟩
  | store object object' hobject houtline _ =>
      exact ⟨outline_setObject hobject houtline, rfl, rfl, rfl⟩
  | rebuild object object' handle hobject houtline _ _ =>
      exact ⟨outline_setObject hobject houtline, rfl, rfl, rfl⟩

theorem Consistent.touched {g g' : Graph} (hg : g.Consistent) {id : NodeId}
    (htouched : Touched g id g') : g'.Consistent := by
  obtain ⟨houtline, hkinds, hparents, hscenes⟩ := htouched.sameOutline
  exact hg.of_outline_eq houtline hkinds hparents hscenes

end LiveScene.Graph
