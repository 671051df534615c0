import LiveScene.Proofs.HostLife
import LiveScene.Proofs.Impacts
import LiveScene.Proofs.LevelOrder
import LiveScene.Proofs.Tessellation

/-! # What is kept beside the parameters

Objects keep data that their parameters determine: the mesh of a shape, the matrix of a lens, whether
a material is transparent. Each is written in several places, and a matrix is not written at all while
the parameters are degenerate. As long as no step ends in a fault, the data are nevertheless always
those of the current parameters.
-/

namespace LiveScene

/-! ## Lenses -/

namespace Camera

/-- The matrix is that of the parameters, unless these are degenerate. -/
def IsCurrent (camera : Camera) : Prop :=
  camera.degeneracy? = none →
    camera.projection.matrix camera.near camera.far = .ok camera.matrix

/-- Forming the matrix anew makes it current, whatever it was before. -/
theorem refresh_isCurrent (camera : Camera) : camera.refresh.Ensures IsCurrent := by
  unfold refresh
  cases hdegeneracy : camera.degeneracy? with
  | some degeneracy =>
      refine .always fun hfine => ?_
      rw [hdegeneracy] at hfine
      cases hfine
  | none =>
      dsimp only
      cases hmatrix : camera.projection.matrix camera.near camera.far with
      | error fault =>
          intro value hresult
          cases hresult
      | ok matrix => exact .always fun _ => hmatrix

theorem IsCurrent.fit {camera : Camera} (h : camera.IsCurrent) (aspect : Float32) :
    (camera.fit aspect).Ensures IsCurrent := by
  unfold Camera.fit setAspect
  split
  next fov old _ => exact (refresh_isCurrent _).after _
  -- An orthographic lens keeps its volume, so its matrix needs no forming.
  next => exact .always h

theorem isCurrent_defaultPerspective : defaultPerspective.IsCurrent :=
  refresh_isCurrent _ () (by decide +kernel)

theorem isCurrent_defaultOrthographic : defaultOrthographic.IsCurrent :=
  refresh_isCurrent _ () (by decide +kernel)

end Camera

/-! ## Shapes and materials -/

namespace Shape

/-- A sphere has a number of segments that needs no clamping. -/
def IsModerate : Shape → Prop
  | .box .. => True
  | .sphere _ columns rows => Mesh.Moderate columns.toNat rows.toNat

theorem toNat_toSegments {least : UInt32} (hleast : least ≤ Mesh.maxSegments) (value : Float32) :
    least.toNat ≤ (toSegments value least).toNat ∧ (toSegments value least).toNat ≤ 1024 := by
  have hle : least.toNat ≤ 1024 := UInt32.le_iff_toNat_le.mp hleast
  unfold toSegments
  split
  next =>
    rw [Mesh.toNat_clampSegments hleast]
    omega
  next => exact ⟨Nat.le_refl _, hle⟩

theorem IsModerate.set? {shape shape' : Shape} {dimension : Dimension} {value : Float32}
    (h : shape.IsModerate) (hset : shape.set? dimension value = some shape') :
    shape'.IsModerate := by
  cases shape with
  | box width height depth =>
      cases dimension <;> cases hset <;> trivial
  | sphere radius columns rows =>
      have hwidth : Mesh.minWidthSegments ≤ Mesh.maxSegments := by decide
      have hheight : Mesh.minHeightSegments ≤ Mesh.maxSegments := by decide
      cases dimension <;> simp only [Shape.set?, Option.some.injEq, reduceCtorEq] at hset <;>
        subst hset
      case radius => exact h
      case widthSegments =>
        obtain ⟨hleast, hmost⟩ := toNat_toSegments hwidth value
        exact ⟨hleast, hmost, h.two_le, h.rows_le⟩
      case heightSegments =>
        obtain ⟨hleast, hmost⟩ := toNat_toSegments hheight value
        exact ⟨h.three_le, h.columns_le, hleast, hmost⟩

end Shape

/-- The mesh is that of the shape, and the shape is one that needs no clamping. -/
def Geometry.IsCurrent (geometry : Geometry) : Prop :=
  geometry.mesh = geometry.shape.mesh ∧ geometry.shape.IsModerate

/-- The material is transparent exactly when its opacity says so. -/
def Material.IsCurrent (material : Material) : Prop :=
  material.transparent = decide (material.opacity < 1)

theorem Material.IsCurrent.set? {material material' : Material} {property : Property}
    (h : material.IsCurrent) (hset : material.set? property = some material') :
    material'.IsCurrent := by
  cases property <;> simp only [Material.set?, Option.some.injEq, reduceCtorEq] at hset
  case metalness =>
    unfold Material.setMetalness? at hset
    split at hset <;> cases hset
    exact h
  case roughness =>
    unfold Material.setRoughness? at hset
    split at hset <;> cases hset
    exact h
  case opacity =>
    subst hset
    exact rfl
  all_goals
    subst hset
    exact h

/-! ## Objects -/

namespace Object

/-- What an object keeps beside its parameters is what they determine. -/
structure IsCurrent (object : Object) : Prop where
  camera : ∀ camera, object.camera? = some camera → camera.IsCurrent
  geometry : ∀ geometry, object.geometry? = some geometry → geometry.IsCurrent
  material : ∀ material, object.material? = some material → material.IsCurrent

/-- What a property that is stored as given can do: an object gets another name, or a property of its
node or of its material is set. -/
theorem set?_cases {object object' : Object} {property : Property}
    (hset : object.set? property = some object') :
    (∃ name, object' = { object with name }) ∨
      (∃ node node', object.body = .node node ∧ node.set? property = some node' ∧
        object' = { object with body := .node node' }) ∨
      ∃ material material', object.body = .material material ∧
        material.set? property = some material' ∧
        object' = { object with body := .material material' } := by
  unfold Object.set? at hset
  split at hset
  next name => exact Or.inl ⟨name, (Option.some.inj hset).symm⟩
  next =>
    split at hset
    next node hbody =>
      obtain ⟨node', hnode, heq⟩ := Option.map_eq_some_iff.mp hset
      exact Or.inr (Or.inl ⟨node, node', hbody, hnode, heq.symm⟩)
    next material hbody =>
      obtain ⟨material', hmaterial, heq⟩ := Option.map_eq_some_iff.mp hset
      exact Or.inr (Or.inr ⟨material, material', hbody, hmaterial, heq.symm⟩)
    next => cases hset

theorem isCurrent_of_geometry {name : String} {geometry : Geometry} (h : geometry.IsCurrent) :
    IsCurrent ⟨name, .geometry geometry⟩ where
  camera _ hcamera := by cases hcamera
  geometry _ hgeometry := by
    cases hgeometry
    exact h
  material _ hmaterial := by cases hmaterial

theorem isCurrent_of_material {name : String} {material : Material} (h : material.IsCurrent) :
    IsCurrent ⟨name, .material material⟩ where
  camera _ hcamera := by cases hcamera
  geometry _ hgeometry := by cases hgeometry
  material _ hmaterial := by
    cases hmaterial
    exact h

theorem isCurrent_of_node {name : String} {node : Node}
    (h : ∀ camera, node.role = .camera camera → camera.IsCurrent) :
    IsCurrent ⟨name, .node node⟩ where
  camera camera hcamera := by
    obtain ⟨_, hbody, hrole⟩ := camera?_eq_some_iff.mp hcamera
    cases hbody
    exact h camera hrole
  geometry _ hgeometry := by cases hgeometry
  material _ hmaterial := by cases hmaterial

theorem isCurrent_of_camera {name : String} {node : Node} {camera : Camera}
    (hrole : node.role = .camera camera) (h : camera.IsCurrent) :
    IsCurrent ⟨name, .node node⟩ := by
  refine isCurrent_of_node fun other hother => ?_
  cases hrole.symm.trans hother
  exact h

theorem IsCurrent.set? {object object' : Object} {property : Property} (h : object.IsCurrent)
    (hset : object.set? property = some object') : object'.IsCurrent := by
  have hcamera? := camera?_of_set? hset
  rcases object with ⟨name, body⟩
  rcases set?_cases hset with ⟨name', rfl⟩ | ⟨node, node', hbody, -, rfl⟩ |
    ⟨material, material', hbody, hmaterial, rfl⟩
  · exact ⟨h.camera, h.geometry, h.material⟩
  · cases hbody
    refine isCurrent_of_node fun camera hrole => h.camera camera ?_
    rw [← hcamera?]
    exact camera?_eq_some_iff.mpr ⟨node', rfl, hrole⟩
  · cases hbody
    exact isCurrent_of_material ((h.material material rfl).set? hmaterial)

theorem steady_isCurrent : Object.Steady IsCurrent where
  default {kind handle object} hdefault := by
    have hopaque : false = decide ((1 : Float32) < 1) := by decide +kernel
    cases kind <;> simp only [Object.default?, Option.some.injEq, reduceCtorEq] at hdefault <;>
      subst hdefault
    case perspectiveCamera => exact isCurrent_of_camera rfl Camera.isCurrent_defaultPerspective
    case orthographicCamera => exact isCurrent_of_camera rfl Camera.isCurrent_defaultOrthographic
    case boxGeometry => exact isCurrent_of_geometry ⟨rfl, trivial⟩
    case sphereGeometry => exact isCurrent_of_geometry ⟨rfl, by constructor <;> decide⟩
    case standardMaterial => exact isCurrent_of_material hopaque
    case basicMaterial => exact isCurrent_of_material hopaque
    all_goals
      refine isCurrent_of_node fun camera hrole => ?_
      cases hrole
  set h hset := h.set? hset
  rebuild {name geometry dimension value shape} handle h hshape :=
    isCurrent_of_geometry ⟨rfl, (h.geometry geometry rfl).2.set? hshape⟩
  relink {name node node'} h hcore := by
    refine isCurrent_of_node fun camera hrole => ?_
    have hbefore : node.role = .camera camera := Node.role_of_core hcore hrole
    exact h.camera camera (camera?_eq_some_iff.mpr ⟨node, rfl, hbefore⟩)

theorem IsCurrent.setLens {object : Object} (h : object.IsCurrent) (property : Property) :
    (object.setLens property).Ensures IsCurrent := by
  unfold Object.setLens
  cases hset : object.camera?.bind (·.set? property) with
  | none => exact .always h
  | some camera =>
      obtain ⟨old, hcamera, -⟩ := Option.bind_eq_some_iff.mp hset
      obtain ⟨node, hbody, -⟩ := camera?_eq_some_iff.mp hcamera
      rcases object with ⟨name, body⟩
      cases hbody
      refine ((Camera.refresh_isCurrent camera).within fun camera hcurrent => ?_).map _
      exact isCurrent_of_camera rfl hcurrent

theorem IsCurrent.store {object : Object} (h : object.IsCurrent) (property : Property) :
    (object.store property).Ensures IsCurrent := by
  unfold Object.store
  split
  next hset => exact .always (h.set? hset)
  next => exact .always h

/-- Setting a property leaves an object current unless it ends in a fault. -/
theorem IsCurrent.impact {object : Object} (h : object.IsCurrent) (id : NodeId) (next : Handle)
    (property : Property) :
    (object.impact id next property).Ensures fun impact => impact.object.IsCurrent := by
  have hlens : ((object.setLens property).within fun object : Object => ({ object } : Impact)).Ensures
      fun impact => impact.object.IsCurrent := (h.setLens property).within fun _ hcurrent => hcurrent
  have hstore : ((object.store property).within fun object : Object => ({ object } : Impact)).Ensures
      fun impact => impact.object.IsCurrent := (h.store property).within fun _ hcurrent => hcurrent
  cases property with
  | active on =>
      simp only [Object.impact]
      split <;> exact .always h
  | fov fov => exact hlens
  | near near => exact hlens
  | far far => exact hlens
  | dimension dimension value =>
      simp only [Object.impact]
      cases hset : object.geometry?.bind (·.shape.set? dimension value) with
      | none => exact .always h
      | some shape =>
          obtain ⟨geometry, hgeometry, hshape⟩ := Option.bind_eq_some_iff.mp hset
          have hmoderate := (h.geometry geometry hgeometry).2.set? hshape
          exact .always (isCurrent_of_geometry ⟨rfl, hmoderate⟩)
  | _ => exact hstore

end Object

theorem Object.IsCurrent.setting {object : Object} (h : object.IsCurrent) (setting : Setting)
    (next : Handle) :
    (setting.impact object next).Ensures fun impact => impact.object.IsCurrent := by
  rcases setting with ⟨id, key, value⟩
  cases value with
  | none =>
      simp only [Setting.impact]
      split <;> exact .always h
  | some value =>
      simp only [Setting.impact]
      cases Property.decode key value with
      | error issue => exact .always h
      | ok property => exact (h.impact id next property).map _

/-! ## Graphs -/

/-- What every step of a list keeps, unless it ends in a fault, the whole list keeps. -/
theorem Outcome.Ensures.chain {σ α β : Type} {P : σ → Prop} {step : σ → β → Outcome σ α}
    (hstep : ∀ state item, P state → (step state item).Ensures P) {state : σ} (hstate : P state)
    (items : List β) : (Outcome.chain step state items).Ensures P := by
  induction items generalizing state with
  | nil => exact .always hstate
  | cons item rest ih => exact (hstep state item hstate).andThen fun _ _ hnext => ih hnext

namespace Graph

/-- A consistent graph all of whose objects are current. -/
structure IsCurrent (g : Graph) : Prop extends g.Consistent where
  every : g.Every Object.IsCurrent

namespace IsCurrent

variable {g : Graph}

theorem setting (h : g.IsCurrent) (setting : Setting) :
    (g.apply setting.op).Ensures IsCurrent := by
  cases hobject : g.object? setting.id with
  | none =>
      rw [h.apply_setting_of_none hobject]
      exact .always h
  | some object =>
      intro value hresult
      refine ⟨h.toConsistent.apply setting.op, ?_⟩
      -- The setting's own result says whether the object that it left is current.
      rw [h.apply_setting hobject] at hresult ⊢
      have hafter := (h.every setting.id object hobject).setting setting g.nextHandle value hresult
      intro other found hfound
      rw [Outcome.within, object?_absorb] at hfound
      split at hfound
      next =>
        obtain ⟨_, -, rfl⟩ := Option.map_eq_some_iff.mp hfound
        exact hafter
      next => exact h.every other found hfound

theorem setProps (h : g.IsCurrent) (id : NodeId) (properties : PropertyList) :
    (g.setProps id properties).Ensures IsCurrent := by
  intro value hresult
  obtain ⟨hsame, hstate⟩ := g.setProps_eq_chain id properties
  rw [hstate]
  rw [hsame] at hresult
  refine Outcome.Ensures.chain (fun g property hg => ?_) h properties value hresult
  exact hg.setting ⟨id, property.1, some property.2⟩

theorem apply (h : g.IsCurrent) (op : Op) : (g.apply op).Ensures IsCurrent := by
  have hsteady := Object.steady_isCurrent
  cases op with
  | create id kind properties =>
      rcases g.create_cases id kind properties with ⟨issue, heq⟩ | ⟨g', hborn, heq⟩
      · simp only [Graph.apply, heq]
        exact .always h
      · simp only [Graph.apply, heq]
        have hafter : g'.IsCurrent := ⟨h.toConsistent.born hborn, h.every.born hsteady hborn⟩
        exact (hafter.setProps id properties).map _
  | attach parent child =>
      exact .always ⟨h.toConsistent.apply (.attach parent child), h.every.attach hsteady parent child⟩
  | detach parent child =>
      exact .always ⟨h.toConsistent.apply (.detach parent child), h.every.detach hsteady parent child⟩
  | setProp id key value => exact h.setting ⟨id, key, some value⟩
  | unsetProp id key => exact h.setting ⟨id, key, none⟩
  | delete id =>
      exact .always ⟨h.toConsistent.apply (.delete id), h.every.delete hsteady id⟩

theorem buildTree (h : g.IsCurrent) (tree : Descriptor) : (g.buildTree tree).Ensures IsCurrent := by
  intro report hresult
  obtain ⟨hstate, hsame⟩ := g.buildTree_eq_applyAll tree
  obtain ⟨hchain, hchainState⟩ := g.applyAll_eq_chain (tree.places.flatMap Place.ops)
  rw [← hsame, hresult] at hchain
  rw [hstate, hchainState]
  exact Outcome.Ensures.chain (fun _ op hg => hg.apply op) h _ () hchain.symm

theorem fitCamera (h : g.IsCurrent) (aspect : Float32) :
    (g.fitCamera aspect).Ensures IsCurrent := by
  intro value hresult
  refine ⟨h.toConsistent.fitCamera aspect, ?_⟩
  unfold Graph.fitCamera at hresult ⊢
  split at hresult
  next => exact h.every
  next id _ =>
    split at hresult
    next node hnode =>
      split at hresult
      next camera hrole =>
        obtain ⟨object, hobject, hbody⟩ := node?_eq_some_iff.mp hnode
        rcases object with ⟨name, body⟩
        cases body <;> cases hbody
        have hcamera : camera.IsCurrent := (h.every id _ hobject).camera camera
          (Object.camera?_eq_some_iff.mpr ⟨node, rfl, hrole⟩)
        have hfitted := hcamera.fit aspect value hresult
        exact h.every.setNode hobject (Object.isCurrent_of_camera rfl hfitted)
      next => exact h.every
    next => exact h.every

end IsCurrent

end Graph

theorem Graph.IsCurrent.resize {canvas : Canvas} (h : canvas.graph.IsCurrent) (surface : Surface) :
    (canvas.resize surface).Ensures fun canvas => canvas.graph.IsCurrent := by
  unfold Canvas.resize
  split
  · exact .always h
  · refine .note (.map ((h.fitCamera surface.size.aspect).within fun graph hcurrent => ?_) _) _
    exact hcurrent

/-! ## Runs without a fault -/

namespace Graph

/-- What is done to a graph: edits, and passes after a change of layout, in whatever state the tracker
and the renderer are. -/
inductive Change where
  | apply (op : Op)
  | build (tree : Descriptor)
  | resize (tracker : SizeTracker) (renderer : Renderer) (surface : Surface)
  | clear
  | takeReleased

def carryOut (g : Graph) : Change → Outcome Graph Unit
  | .apply op => (g.apply op).map fun _ => ()
  | .build tree => (g.buildTree tree).map fun _ => ()
  | .resize tracker renderer surface =>
    ((Canvas.resize ⟨tracker, renderer, g⟩ surface).within Canvas.graph).map fun _ => ()
  | .clear => .done g.clear ()
  | .takeReleased => .done g.forgetReleased ()

/-- A new graph after some changes, up to the first fault. -/
def carryOutAll (changes : List Change) : Outcome Graph Unit :=
  Outcome.chain carryOut empty changes

theorem isCurrent_empty : empty.IsCurrent where
  toConsistent := consistent_empty
  every id object hobject := by cases hobject

theorem IsCurrent.carryOut {g : Graph} (h : g.IsCurrent) (change : Change) :
    (g.carryOut change).Ensures IsCurrent := by
  cases change with
  | apply op => exact (h.apply op).map _
  | build tree => exact (h.buildTree tree).map _
  | resize tracker renderer surface =>
      have hpass : (Canvas.resize ⟨tracker, renderer, g⟩ surface).Ensures fun canvas =>
          canvas.graph.IsCurrent := IsCurrent.resize h surface
      exact (hpass.within fun _ hcurrent => hcurrent).map _
  | clear => exact .always ⟨h.toConsistent.exec .clear, h.every.foldl_remove g.ids.reverse⟩
  | takeReleased => exact .always ⟨h.toConsistent.exec .takeReleased, h.every⟩

theorem isCurrent_carryOutAll (changes : List Change) :
    (carryOutAll changes).Ensures IsCurrent :=
  Outcome.Ensures.chain (fun _ change h => h.carryOut change) isCurrent_empty changes

end Graph

theorem Mesh.Moderate.clampSegments {columns rows : UInt32}
    (h : Moderate columns.toNat rows.toNat) :
    Mesh.clampSegments minWidthSegments columns = columns ∧
      Mesh.clampSegments minHeightSegments rows = rows := by
  obtain ⟨hthree, hcolumns, htwo, hrows⟩ := h
  have hwidth : (Mesh.clampSegments minWidthSegments columns).toNat =
      max 3 (min columns.toNat 1024) := toNat_clampSegments (by decide) columns
  have hheight : (Mesh.clampSegments minHeightSegments rows).toNat =
      max 2 (min rows.toNat 1024) := toNat_clampSegments (by decide) rows
  constructor
  · apply UInt32.toNat_inj.mp
    omega
  · apply UInt32.toNat_inj.mp
    omega

namespace Graph

/-- After changes without a fault nothing that is kept is stale: meshes are those of their shapes, the
segments of spheres are such that making the mesh clamps none of them, materials are transparent as
their opacity says, and a matrix is that of its lens unless the lens is degenerate now. -/
theorem caches_current (changes : List Change) (hquiet : (carryOutAll changes).result = .ok ())
    {id : NodeId} {object : Object}
    (hobject : (carryOutAll changes).state.object? id = some object) :
    (∀ geometry, object.geometry? = some geometry →
        geometry.mesh = geometry.shape.mesh ∧
          ∀ radius columns rows, geometry.shape = .sphere radius columns rows →
            Mesh.Moderate columns.toNat rows.toNat ∧
              Mesh.clampSegments Mesh.minWidthSegments columns = columns ∧
              Mesh.clampSegments Mesh.minHeightSegments rows = rows ∧
              geometry.mesh.vertices.size = (columns.toNat + 1) * (rows.toNat + 1)) ∧
      (∀ material, object.material? = some material →
        material.transparent = decide (material.opacity < 1)) ∧
      ∀ camera, object.camera? = some camera → camera.degeneracy? = none →
        camera.projection.matrix camera.near camera.far = .ok camera.matrix := by
  have hcurrent := (isCurrent_carryOutAll changes () hquiet).every id object hobject
  refine ⟨fun geometry hgeometry => ?_, hcurrent.material, hcurrent.camera⟩
  obtain ⟨hmesh, hmoderate⟩ := hcurrent.geometry geometry hgeometry
  refine ⟨hmesh, fun radius columns rows hshape => ?_⟩
  rw [hshape] at hmoderate
  obtain ⟨hwidth, hheight⟩ := Mesh.Moderate.clampSegments hmoderate
  refine ⟨hmoderate, hwidth, hheight, ?_⟩
  calc geometry.mesh.vertices.size
      = (Mesh.sphereVertices radius columns rows).size := by
        rw [hmesh, hshape, Shape.mesh, Mesh.sphere, hwidth, hheight]
    _ = (columns.toNat + 1) * (rows.toNat + 1) := Mesh.size_sphereVertices radius columns rows

/-- A lens without depth gets another aspect and only then its depth back, and a sphere is given a
number of segments that is not whole. -/
theorem caches_current_recovered :
    let changes : List Change :=
      [.apply (.create ⟨1⟩ .perspectiveCamera [("active", .bool true)]),
        .apply (.setProp ⟨1⟩ "near" (.number 5)), .apply (.setProp ⟨1⟩ "far" (.number 5)),
        .resize { observing := true } ⟨0, 1, ⟨1, 1⟩, #[], { size := ⟨1, 1⟩ }⟩
          { id := 0, size := ⟨200, 100⟩ },
        .apply (.setProp ⟨1⟩ "far" (.number 10)),
        .build (.node ⟨2⟩ .sphereGeometry [("widthSegments", .number 7.9)] []),
        .build (.node ⟨3⟩ .basicMaterial [("opacity", .number 0.5)] [])]
    (carryOutAll changes).result = .ok () ∧
      (∃ object camera, (carryOutAll changes).state.object? ⟨1⟩ = some object ∧
        object.camera? = some camera ∧ camera.projection = .perspective 50 2 ∧
        camera.projection.matrix camera.near camera.far = .ok camera.matrix) ∧
      (∃ object geometry, (carryOutAll changes).state.object? ⟨2⟩ = some object ∧
        object.geometry? = some geometry ∧ geometry.shape = .sphere 1 7 16 ∧
        geometry.mesh.vertices.size = 8 * 17) ∧
      ∃ object material, (carryOutAll changes).state.object? ⟨3⟩ = some object ∧
        object.material? = some material ∧ material.transparent = decide (material.opacity < 1) := by
  intro changes
  have hquiet : (carryOutAll changes).result = .ok () := by decide +kernel
  have hlens : (((carryOutAll changes).state.object? ⟨1⟩).bind Object.camera?).map (fun camera =>
      (camera.projection, camera.degeneracy?.isNone)) = some (.perspective 50 2, true) := by
    decide +kernel
  have hshape : (((carryOutAll changes).state.object? ⟨2⟩).bind Object.geometry?).map
      Geometry.shape = some (.sphere 1 7 16) := by decide +kernel
  have hopacity : (((carryOutAll changes).state.object? ⟨3⟩).bind Object.material?).isSome := by
    decide +kernel
  refine ⟨hquiet, ?_, ?_, ?_⟩
  · obtain ⟨camera, hfound, hparts⟩ := Option.map_eq_some_iff.mp hlens
    obtain ⟨object, hobject, hcamera⟩ := Option.bind_eq_some_iff.mp hfound
    obtain ⟨hprojection, hfine⟩ := Prod.mk.inj hparts
    obtain ⟨-, -, hmatrix⟩ := caches_current changes hquiet hobject
    exact ⟨object, camera, hobject, hcamera, hprojection,
      hmatrix camera hcamera (Option.isNone_iff_eq_none.mp hfine)⟩
  · obtain ⟨geometry, hfound, hsphere⟩ := Option.map_eq_some_iff.mp hshape
    obtain ⟨object, hobject, hgeometry⟩ := Option.bind_eq_some_iff.mp hfound
    obtain ⟨hmesh, -, -⟩ := caches_current changes hquiet hobject
    obtain ⟨-, -, -, hsize⟩ := (hmesh geometry hgeometry).2 1 7 16 hsphere
    exact ⟨object, geometry, hobject, hgeometry, hsphere, hsize⟩
  · obtain ⟨material, hfound⟩ := Option.isSome_iff_exists.mp hopacity
    obtain ⟨object, hobject, hmaterial⟩ := Option.bind_eq_some_iff.mp hfound
    obtain ⟨-, htransparent, -⟩ := caches_current changes hquiet hobject
    exact ⟨object, material, hobject, hmaterial, htransparent material hmaterial⟩

end Graph

end LiveScene
