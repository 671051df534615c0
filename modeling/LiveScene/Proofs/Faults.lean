import LiveScene.Proofs.Atomicity
import LiveScene.Proofs.Objects
import LiveScene.Proofs.Singles

/-! # When a projection cannot be formed

Before a matrix is formed, clipping planes are refused that are closer than a fixed distance. A
perspective projection itself asks for more: the planes have to differ up to the precision of
singles, which far away from zero is more than that distance. A lens can therefore pass the first
test and fail the second. Setting such a lens is the one thing that ends a batch early. An aspect is
tested twice as well, but near zero the first of its tests is the stricter one.
-/

namespace LiveScene

/-! ## Lenses -/

namespace Camera

/-- Whether a projection finds no room between the clipping planes. -/
def planesMeet (camera : Camera) : Bool :=
  match camera.projection with
  | .perspective .. => Projection.nearlyEqual camera.far camera.near
  | .orthographic .. => camera.far == camera.near

/-- Whether the parameters pass as fit for a projection, but the planes are too close for it. -/
def isStranded (camera : Camera) : Bool :=
  camera.degeneracy?.isNone && camera.planesMeet

/-- A perspective camera, or an orthographic one with the volume that all have. -/
def HasVolume (camera : Camera) : Prop :=
  camera.isPerspective = true ∨ camera.projection = .orthographic (-1) 1 1 (-1)

/-- An aspect that passes as fit for a projection is not taken for zero. -/
theorem nearlyEqual_aspect_zero {camera : Camera} {fov aspect : Float32}
    (hfit : camera.degeneracy? = none) (hprojection : camera.projection = .perspective fov aspect) :
    Projection.nearlyEqual aspect 0 = false := by
  unfold degeneracy? at hfit
  split at hfit
  · cases hfit
  · simp only [hprojection] at hfit
    split at hfit
    · cases hfit
    · rename_i hpasses
      simp only [Bool.or_eq_true, decide_eq_true_eq, not_or, Bool.not_eq_true', Bool.not_eq_false]
        at hpasses
      exact Single.nearlyEqual_zero_eq_false hpasses.1 hpasses.2

/-- The fault of a lens that passes, if there is one, is that its planes meet. -/
theorem HasVolume.matrix_eq {camera : Camera} (h : camera.HasVolume)
    (hfit : camera.degeneracy? = none) :
    (camera.planesMeet = true ∧
        camera.projection.matrix camera.near camera.far = .error .nearEqualsFar) ∨
      camera.planesMeet = false ∧
        ∃ matrix, camera.projection.matrix camera.near camera.far = .ok matrix := by
  rcases camera with ⟨projection, near, far, _⟩
  cases projection with
  | perspective fov aspect =>
      simp only [planesMeet, Projection.matrix, Projection.perspectiveMatrix,
        nearlyEqual_aspect_zero hfit rfl]
      cases Projection.nearlyEqual far near with
      | true => exact Or.inl ⟨rfl, rfl⟩
      | false => exact Or.inr ⟨rfl, _, rfl⟩
  | orthographic left right top bottom =>
      have hvolume : Projection.orthographic left right top bottom = .orthographic (-1) 1 1 (-1) :=
        h.resolve_left (by simp [isPerspective])
      cases hvolume
      have hwidth : ((-1 : Float32) == 1) = false := by decide
      simp only [planesMeet, Projection.matrix, Projection.orthographicMatrix, hwidth,
        Bool.false_eq_true, if_false]
      cases far == near with
      | true => exact Or.inl ⟨rfl, rfl⟩
      | false => exact Or.inr ⟨rfl, _, rfl⟩

theorem HasVolume.refresh_result {camera : Camera} (h : camera.HasVolume) :
    camera.refresh.result = if camera.isStranded then .error .nearEqualsFar else .ok () := by
  unfold refresh isStranded
  cases hfit : camera.degeneracy? with
  | some degeneracy => rfl
  | none =>
      rcases h.matrix_eq hfit with ⟨hmeet, hmatrix⟩ | ⟨hapart, matrix, hmatrix⟩
      · simp [hmeet, hmatrix]
      · simp [hapart, hmatrix, Outcome.done]

theorem HasVolume.set? {camera camera' : Camera} {property : Property} (h : camera.HasVolume)
    (hset : camera.set? property = some camera') : camera'.HasVolume := by
  rcases camera with ⟨projection, _, _, _⟩
  cases property <;> simp only [Camera.set?, Option.some.injEq, reduceCtorEq] at hset
  case fov =>
    cases projection <;> simp only [Camera.setFov?, Option.some.injEq, reduceCtorEq] at hset
    subst hset
    exact Or.inl rfl
  all_goals subst hset; exact h

theorem HasVolume.of_projection_eq {camera camera' : Camera} (h : camera.HasVolume)
    (hprojection : camera'.projection = camera.projection) : camera'.HasVolume := by
  simpa only [HasVolume, isPerspective, hprojection] using h

theorem HasVolume.tuned {camera camera' : Camera} (h : camera.HasVolume)
    (htuned : camera.Tuned camera') : camera'.HasVolume := by
  cases htuned with
  | set hset => exact (h.set? hset).of_projection_eq (refresh_projection _)
  | fit aspect =>
      unfold fit setAspect
      split
      next fov old _ =>
        refine Or.inl ?_
        simp [isPerspective, Outcome.andThen, Outcome.after, refresh_projection]
      next => exact h

end Camera

theorem Object.camera?_eq_some_iff {object : Object} {camera : Camera} :
    object.camera? = some camera ↔
      ∃ node, object.body = .node node ∧ node.role = .camera camera := by
  rcases object with ⟨name, body⟩
  constructor
  · intro hcamera
    unfold Object.camera? at hcamera
    split at hcamera
    next hbody =>
      cases hcamera
      exact ⟨_, hbody, rfl⟩
    next => cases hcamera
  · rintro ⟨⟨_, _, _, _, _, role⟩, rfl, rfl⟩
    rfl

/-- A property that is stored as given is none of a lens. -/
theorem Object.camera?_of_set? {object object' : Object} {property : Property}
    (hset : object.set? property = some object') : object'.camera? = object.camera? := by
  rcases object with ⟨name, body⟩
  cases body with
  | node node =>
      rcases node with ⟨transform, visible, castShadow, receiveShadow, children, role⟩
      cases property <;> cases role <;>
        simp [Object.set?, Node.set?, Light.set?] at hset <;> subst hset <;> rfl
  | geometry geometry =>
      cases property <;> simp [Object.set?] at hset
      subst hset
      rfl
  | material material =>
      cases property <;> simp [Object.set?] at hset
      case name => subst hset; rfl
      all_goals
        obtain ⟨_, -, rfl⟩ := hset
        rfl

/-- All cameras have their volume. -/
theorem Object.lasting_hasVolume :
    Object.Lasting fun object => ∀ camera, object.camera? = some camera → camera.HasVolume where
  default {kind handle object} hdefault camera hcamera := by
    cases kind <;> simp only [Object.default?, Option.some.injEq, reduceCtorEq] at hdefault <;>
      subst hdefault
    case perspectiveCamera =>
      cases hcamera
      exact Or.inl rfl
    case orthographicCamera =>
      cases hcamera
      exact Or.inr Camera.defaultOrthographic_projection
    all_goals cases hcamera
  set h hset camera hcamera := h camera ((Object.camera?_of_set? hset) ▸ hcamera)
  tune {name node camera₀ camera₁} h hrole htuned camera hcamera := by
    cases hcamera
    exact (h camera₀ (Object.camera?_eq_some_iff.mpr ⟨node, rfl, hrole⟩)).tuned htuned
  rebuild handle h hshape camera hcamera := by cases hcamera
  relink {name node node'} h hcore camera hcamera := by
    obtain ⟨_, hbody, hrole'⟩ := Object.camera?_eq_some_iff.mp hcamera
    cases hbody
    have hrole : node.role = .camera camera := Node.role_of_core hcore hrole'
    exact h camera (Object.camera?_eq_some_iff.mpr ⟨node, rfl, hrole⟩)

/-- Whether an object is a camera that a parameter strands. -/
def Object.isStrandedBy (object : Object) (property : Property) : Bool :=
  (object.camera?.bind (·.set? property)).any Camera.isStranded

/-! ## The first fault -/

namespace Outcome

variable {σ α β : Type}

/-- Takes steps one after the other, up to the first fault. -/
def chain (step : σ → β → Outcome σ α) (state : σ) : List β → Outcome σ Unit
  | [] => .done state ()
  | item :: rest => (step state item).andThen fun state _ => chain step state rest

theorem chain_cons_of_ok {step : σ → β → Outcome σ α} {state : σ} {item : β} {value : α}
    (hstep : (step state item).result = .ok value) (rest : List β) :
    (chain step state (item :: rest)).result = (chain step (step state item).state rest).result ∧
      (chain step state (item :: rest)).state = (chain step (step state item).state rest).state := by
  rw [chain, andThen_of_ok hstep]
  exact ⟨rfl, rfl⟩

/-- When a bad step ends in a fault and every other goes through, a chain ends in the fault of its
first bad step. -/
theorem chain_result {step : σ → β → Outcome σ α} {fault : Fault} {Inv : σ → Prop}
    {Bad : σ → β → Prop} (hkeeps : ∀ state item, Inv state → Inv (step state item).state)
    (hstep : ∀ state item, Inv state → Bad state item ∧ (step state item).result = .error fault ∨
      ¬Bad state item ∧ ∃ value, (step state item).result = .ok value)
    {state : σ} (hstate : Inv state) (items : List β) :
    (∃ before item after, items = before ++ item :: after ∧
        (chain step state before).result = .ok () ∧ Bad (chain step state before).state item) ∧
        (chain step state items).result = .error fault ∨
      (∀ before item after, items = before ++ item :: after →
        ¬Bad (chain step state before).state item) ∧
        (chain step state items).result = .ok () := by
  induction items generalizing state with
  | nil =>
      refine Or.inr ⟨fun before item after hsplit => ?_, rfl⟩
      simp at hsplit
  | cons item rest ih =>
      rcases hstep state item hstate with ⟨hbad, hfault⟩ | ⟨hgood, value, hvalue⟩
      · refine Or.inl ⟨⟨[], item, rest, rfl, rfl, hbad⟩, ?_⟩
        rw [chain, andThen_of_error hfault]
      · have hcons := fun items => chain_cons_of_ok hvalue items
        rcases ih (hkeeps state item hstate) with
          ⟨⟨before, other, after, rfl, hbefore, hbad⟩, hfault⟩ | ⟨hall, hrest⟩
        · refine Or.inl ⟨⟨item :: before, other, after, rfl, ?_, ?_⟩, (hcons _).1.trans hfault⟩
          · exact (hcons before).1.trans hbefore
          · rw [(hcons before).2]
            exact hbad
        · refine Or.inr ⟨fun before other after hsplit => ?_, (hcons rest).1.trans hrest⟩
          cases before with
          | nil =>
              cases hsplit
              exact hgood
          | cons first before =>
              cases hsplit
              rw [(hcons before).2]
              exact hall before other after rfl

end Outcome

namespace Graph

theorem setProps_eq_chain (g : Graph) (id : NodeId) (properties : PropertyList) :
    (g.setProps id properties).result =
        (Outcome.chain (fun g property => g.setProp id property.1 property.2) g properties).result ∧
      (g.setProps id properties).state =
        (Outcome.chain (fun g property => g.setProp id property.1 property.2) g properties).state := by
  induction properties generalizing g with
  | nil => exact ⟨rfl, rfl⟩
  | cons property rest ih =>
      obtain ⟨key, value⟩ := property
      simp only [setProps, Outcome.chain, Outcome.note, Outcome.andThen]
      cases hresult : (g.setProp id key value).result with
      | error fault => simp [hresult]
      | ok verdict => simpa [hresult, Outcome.after] using ih (g.setProp id key value).state

theorem applyAll_eq_chain (g : Graph) (ops : List Op) :
    ((g.applyAll ops).result.map fun _ => ()) = (Outcome.chain apply g ops).result ∧
      (g.applyAll ops).state = (Outcome.chain apply g ops).state := by
  induction ops generalizing g with
  | nil => exact ⟨rfl, rfl⟩
  | cons op rest ih =>
      obtain ⟨hresult, hstate⟩ := ih (g.apply op).state
      rw [applyAll_cons, Outcome.chain]
      simp only [record, Outcome.note, Outcome.map, Outcome.andThen]
      cases hop : (g.apply op).result with
      | error fault => simp [Except.map, hop]
      | ok verdict =>
          simp only [Except.map, Outcome.after]
          refine ⟨?_, hstate⟩
          rw [← hresult]
          cases ((g.apply op).state.applyAll rest).result <;> rfl

theorem exists_report_of_chain {g : Graph} {ops : List Op}
    (hchain : (Outcome.chain apply g ops).result = .ok ()) :
    ∃ report, (g.applyAll ops).result = .ok report := by
  rw [← (g.applyAll_eq_chain ops).1] at hchain
  cases hresult : (g.applyAll ops).result with
  | error fault =>
      rw [hresult] at hchain
      cases hchain
  | ok report => exact ⟨report, rfl⟩

theorem applyAll_fault_of_chain {g : Graph} {ops : List Op} {fault : Fault}
    (hchain : (Outcome.chain apply g ops).result = .error fault) :
    (g.applyAll ops).result = .error fault := by
  rw [← (g.applyAll_eq_chain ops).1] at hchain
  cases hresult : (g.applyAll ops).result with
  | error fault' =>
      rw [hresult] at hchain
      cases hchain
      rfl
  | ok report =>
      rw [hresult] at hchain
      cases hchain

/-- A report counts every operation of a batch. -/
theorem total_of_applyAll {g : Graph} {ops : List Op} {report : Report}
    (hreport : (g.applyAll ops).result = .ok report) : report.total = ops.length := by
  induction ops generalizing g report with
  | nil =>
      cases Except.ok.inj hreport
      rfl
  | cons op rest ih =>
      cases hop : (g.apply op).result with
      | error fault =>
          rw [applyAll_of_fault hop] at hreport
          cases hreport
      | ok verdict =>
          rw [(applyAll_of_verdict hop rest).2] at hreport
          cases hrest : ((g.apply op).state.applyAll rest).result with
          | error fault =>
              rw [hrest] at hreport
              cases hreport
          | ok rest' =>
              rw [hrest] at hreport
              cases Except.ok.inj hreport
              have htotal := ih hrest
              rcases verdict with issue | _ <;>
                simp only [Report.total, Report.add, Report.count, List.length_cons] at htotal ⊢ <;>
                omega

/-! ## What ends a batch early -/

/-- Setting a property leaves a lens between whose planes no projection can be formed. -/
def StrandsLens (g : Graph) (id : NodeId) (key : String) (value : Value) : Prop :=
  ∃ object property, g.object? id = some object ∧ Property.decode key value = .ok property ∧
    object.isStrandedBy property = true

/-- An operation sets such a property, or one of those that it gives to a new node is such. -/
inductive Strands (g : Graph) : Op → Prop
  | set {id : NodeId} {key : String} {value : Value} (h : g.StrandsLens id key value) :
      Strands g (.setProp id key value)
  | create {id : NodeId} {kind : Kind} {before after : PropertyList} {key : String} {value : Value}
      (hmade : (g.create id kind before).result = .ok (.ok ()))
      (h : (g.create id kind before).state.StrandsLens id key value) :
      Strands g (.create id kind (before ++ (key, value) :: after))

/-- What a graph needs so that faults can be foreseen. -/
structure Foreseeable (g : Graph) : Prop extends g.Consistent where
  hasVolume : g.Every fun object => ∀ camera, object.camera? = some camera → camera.HasVolume

namespace Foreseeable

variable {g : Graph}

theorem setProp (h : g.Foreseeable) (id : NodeId) (key : String) (value : Value) :
    (g.setProp id key value).state.Foreseeable :=
  ⟨h.toConsistent.apply (.setProp id key value),
    h.hasVolume.setProp Object.lasting_hasVolume id key value⟩

theorem apply (h : g.Foreseeable) (op : Op) : (g.apply op).state.Foreseeable :=
  ⟨h.toConsistent.apply op, h.hasVolume.apply Object.lasting_hasVolume op⟩

theorem born (h : g.Foreseeable) {id : NodeId} {kind : Kind} {g' : Graph}
    (hborn : g.Born id kind g') : g'.Foreseeable :=
  ⟨h.toConsistent.born hborn, h.hasVolume.born Object.lasting_hasVolume.toSteady hborn⟩

end Foreseeable

theorem setLens_of_camera?_eq_none {object : Object} (hcamera : object.camera? = none) (g : Graph)
    (id : NodeId) (property : Property) : g.setLens id object property = .done g false := by
  unfold setLens
  split
  next node hbody =>
    split
    next camera hrole =>
      rw [Object.camera?_eq_some_iff.mpr ⟨node, hbody, hrole⟩] at hcamera
      cases hcamera
    next => rfl
  next => rfl

theorem setLens_result {object : Object}
    (hvolume : ∀ camera, object.camera? = some camera → camera.HasVolume) (g : Graph) (id : NodeId)
    (property : Property) :
    object.isStrandedBy property = true ∧
        (g.setLens id object property).result = .error .nearEqualsFar ∨
      object.isStrandedBy property = false ∧
        ∃ supported, (g.setLens id object property).result = .ok supported := by
  cases hcamera : object.camera? with
  | none =>
      rw [setLens_of_camera?_eq_none hcamera]
      exact Or.inr ⟨by simp [Object.isStrandedBy, hcamera], false, rfl⟩
  | some camera =>
      obtain ⟨node, hbody, hrole⟩ := Object.camera?_eq_some_iff.mp hcamera
      simp only [setLens, hbody, hrole, Object.isStrandedBy, hcamera, Option.bind_some]
      cases hset : camera.set? property with
      | none => exact Or.inr ⟨rfl, false, rfl⟩
      | some camera' =>
          simp only [Option.any_some, Outcome.map, Outcome.within,
            ((hvolume camera hcamera).set? hset).refresh_result]
          cases camera'.isStranded with
          | true => exact Or.inl ⟨rfl, rfl⟩
          | false => exact Or.inr ⟨rfl, true, rfl⟩

theorem setProperty_result {object : Object}
    (hvolume : ∀ camera, object.camera? = some camera → camera.HasVolume) (g : Graph) (id : NodeId)
    (kind : Kind) (property : Property) :
    object.isStrandedBy property = true ∧
        (g.setProperty id kind object property).result = .error .nearEqualsFar ∨
      object.isStrandedBy property = false ∧
        ∃ supported, (g.setProperty id kind object property).result = .ok supported := by
  -- Only the parameters of a lens are set on a camera itself.
  have hother : (∀ camera : Camera, camera.set? property = none) →
      object.isStrandedBy property = false := by
    intro hnone
    cases hcamera : object.camera? <;> simp [Object.isStrandedBy, hcamera, hnone]
  have hstore : ∃ supported, (g.store id object property).result = .ok supported := by
    unfold store
    split <;> exact ⟨_, rfl⟩
  cases property with
  | fov fov => exact setLens_result hvolume g id _
  | near near => exact setLens_result hvolume g id _
  | far far => exact setLens_result hvolume g id _
  | active active =>
      refine Or.inr ⟨hother fun _ => rfl, ?_⟩
      unfold setProperty
      dsimp only
      split <;> exact ⟨_, rfl⟩
  | dimension dimension value => exact Or.inr ⟨hother fun _ => rfl, _, rfl⟩
  | _ => exact Or.inr ⟨hother fun _ => rfl, hstore⟩

/-- Setting a property ends in a fault exactly when it strands a lens. -/
theorem Foreseeable.setProp_result {g : Graph} (h : g.Foreseeable) (id : NodeId) (key : String)
    (value : Value) :
    g.StrandsLens id key value ∧ (g.setProp id key value).result = .error .nearEqualsFar ∨
      ¬g.StrandsLens id key value ∧ ∃ verdict, (g.setProp id key value).result = .ok verdict := by
  unfold Graph.setProp StrandsLens
  cases hobject : g.object? id with
  | none =>
      rw [h.kind?_eq, hobject]
      exact Or.inr ⟨by simp, _, rfl⟩
  | some object =>
      rw [h.kind?_eq, hobject]
      cases Property.decode key value with
      | error issue => exact Or.inr ⟨by simp, _, rfl⟩
      | ok property =>
          dsimp only [Option.map_some]
          rcases setProperty_result (h.hasVolume id object hobject) g id object.kind property with
            ⟨hstranded, hresult⟩ | ⟨hfine, supported, hresult⟩
          · refine Or.inl ⟨⟨object, property, rfl, rfl, hstranded⟩, ?_⟩
            simp only [Outcome.map, hresult]
            rfl
          · refine Or.inr ⟨by simp [hfine], ?_⟩
            simp only [Outcome.map, hresult]
            exact ⟨_, rfl⟩

/-- The properties of a new node end in a fault exactly when one of them strands a lens. -/
theorem Foreseeable.setProps_result {g : Graph} (h : g.Foreseeable) (id : NodeId)
    (properties : PropertyList) :
    (∃ before property after, properties = before ++ property :: after ∧
        (g.setProps id before).result = .ok () ∧
        (g.setProps id before).state.StrandsLens id property.1 property.2) ∧
        (g.setProps id properties).result = .error .nearEqualsFar ∨
      (∀ before property after, properties = before ++ property :: after →
        ¬(g.setProps id before).state.StrandsLens id property.1 property.2) ∧
        (g.setProps id properties).result = .ok () := by
  simp only [(g.setProps_eq_chain id _).1, (g.setProps_eq_chain id _).2]
  exact Outcome.chain_result (fun g property hg => hg.setProp id property.1 property.2)
    (fun g property hg => hg.setProp_result id property.1 property.2) h properties

/-- An operation ends in a fault exactly when it strands a lens. -/
theorem Foreseeable.apply_result {g : Graph} (h : g.Foreseeable) (op : Op) :
    g.Strands op ∧ (g.apply op).result = .error .nearEqualsFar ∨
      ¬g.Strands op ∧ ∃ verdict, (g.apply op).result = .ok verdict := by
  cases op with
  | create id kind properties =>
      rcases g.create_uniform id kind with ⟨-, issue, hrefused⟩ | ⟨g', hborn, hcreate⟩
      · refine Or.inr ⟨?_, .error issue, congrArg Outcome.result (hrefused properties)⟩
        rintro ⟨⟩
        next before after key value hmade _ =>
          rw [hrefused before] at hmade
          cases hmade
      · rcases (h.born hborn).setProps_result id properties with
          ⟨⟨before, ⟨key, value⟩, after, rfl, hbefore, hstrands⟩, hfault⟩ | ⟨hall, hok⟩
        · refine Or.inl ⟨.create ?_ ?_, ?_⟩
          · rw [hcreate, Outcome.map, hbefore]
            rfl
          · rw [hcreate]
            exact hstrands
          · simp only [Graph.apply, hcreate, Outcome.map, hfault]
            rfl
        · refine Or.inr ⟨?_, .ok (), ?_⟩
          · rintro ⟨⟩
            next before after key value _ hstrands =>
              rw [hcreate] at hstrands
              exact hall before (key, value) after rfl hstrands
          · simp only [Graph.apply, hcreate, Outcome.map, hok]
            rfl
  | setProp id key value =>
      rcases h.setProp_result id key value with ⟨hstrands, hresult⟩ | ⟨hnot, hresult⟩
      · exact Or.inl ⟨.set hstrands, hresult⟩
      · refine Or.inr ⟨?_, hresult⟩
        rintro ⟨hstrands⟩
        exact hnot hstrands
  | attach parent child =>
      refine Or.inr ⟨?_, _, rfl⟩
      rintro ⟨⟩
  | detach parent child =>
      refine Or.inr ⟨?_, _, rfl⟩
      rintro ⟨⟩
  | unsetProp id key =>
      refine Or.inr ⟨?_, _, rfl⟩
      rintro ⟨⟩
  | delete id =>
      refine Or.inr ⟨?_, ?_⟩
      · rintro ⟨⟩
      · rcases g.delete_cases id with ⟨issue, heq⟩ | ⟨-, hresult, -⟩
        · exact ⟨_, congrArg Outcome.result heq⟩
        · exact ⟨_, hresult⟩

theorem foreseeable_run (commands : List Command) : (run commands).Foreseeable :=
  ⟨consistent_run commands, every_run Object.lasting_hasVolume commands⟩

/-- A batch on any graph ends early exactly when one of its operations strands a lens, and then it
ends with the fault that says so. Otherwise it runs to its end, and every operation is counted as
applied or ignored. -/
theorem batch_ends_early (commands : List Command) (ops : List Op) :
    let g := run commands
    (∃ before op after report, ops = before ++ op :: after ∧
        (g.applyAll before).result = .ok report ∧ (g.applyAll before).state.Strands op) ∧
        (g.applyAll ops).result = .error .nearEqualsFar ∨
      (∀ before op after, ops = before ++ op :: after → ¬(g.applyAll before).state.Strands op) ∧
        ∃ report, (g.applyAll ops).result = .ok report ∧ report.total = ops.length := by
  intro g
  have hchain := Outcome.chain_result (fun g op (hg : g.Foreseeable) => hg.apply op)
    (fun g op hg => hg.apply_result op) (foreseeable_run commands) ops
  rcases hchain with ⟨⟨before, op, after, hsplit, hbefore, hstrands⟩, hfault⟩ | ⟨hall, hok⟩
  · obtain ⟨report, hreport⟩ := exists_report_of_chain hbefore
    rw [← (g.applyAll_eq_chain before).2] at hstrands
    exact Or.inl ⟨⟨before, op, after, report, hsplit, hreport, hstrands⟩,
      applyAll_fault_of_chain hfault⟩
  · obtain ⟨report, hreport⟩ := exists_report_of_chain hok
    refine Or.inr ⟨fun before op after hsplit => ?_, report, hreport, total_of_applyAll hreport⟩
    rw [(g.applyAll_eq_chain before).2]
    exact hall before op after hsplit

/-- Two planes one unit apart, which is the distance between neighbouring singles there, strand a
new camera. -/
theorem batch_ends_early_far_planes :
    let ops : List Op :=
      [.create ⟨1⟩ .perspectiveCamera [], .setProp ⟨1⟩ "near" (.number 10000000),
        .setProp ⟨1⟩ "far" (.number 10000001)]
    ((run []).applyAll ops).result = .error .nearEqualsFar := by
  decide +kernel

end Graph

end LiveScene
