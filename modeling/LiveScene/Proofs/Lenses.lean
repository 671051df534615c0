import LiveScene.Proofs.Faults

/-! # Faults of a new node

A property can end in a fault only through the lens of a camera, and what it makes of the lens does
not depend on anything else. Whether a new node ends in a fault is therefore decided by its kind and
its own properties, wherever its id is free.
-/

namespace LiveScene

namespace Outcome

/-- Chains that go in step end alike. -/
theorem chain_congr {σ τ α β γ : Type} {step : σ → β → Outcome σ α} {step' : τ → β → Outcome τ γ}
    {R : σ → τ → Prop}
    (hstep : ∀ state state' item, R state state' →
      ((step state item).result.map fun _ => ()) = ((step' state' item).result.map fun _ => ()) ∧
        R (step state item).state (step' state' item).state)
    {state : σ} {state' : τ} (hstate : R state state') (items : List β) :
    (chain step state items).result = (chain step' state' items).result := by
  induction items generalizing state state' with
  | nil => rfl
  | cons item rest ih =>
      obtain ⟨hresult, hnext⟩ := hstep state state' item hstate
      cases hfirst : (step state item).result with
      | error fault =>
          cases hsecond : (step' state' item).result with
          | error fault' =>
              rw [hfirst, hsecond] at hresult
              rw [chain, chain, andThen_of_error hfirst, andThen_of_error hsecond]
              cases hresult
              rfl
          | ok value =>
              rw [hfirst, hsecond] at hresult
              cases hresult
      | ok value =>
          cases hsecond : (step' state' item).result with
          | error fault' =>
              rw [hfirst, hsecond] at hresult
              cases hresult
          | ok value' =>
              rw [(chain_cons_of_ok hfirst rest).1, (chain_cons_of_ok hsecond rest).1]
              exact ih hnext

end Outcome

namespace Graph

/-- What setting a property makes of the lens of an object, if it has one. -/
def tuneLens (lens : Option Camera) (property : Property) : Outcome (Option Camera) Unit :=
  match lens.bind (·.set? property) with
  | some camera => camera.refresh.within some
  | none => .done lens ()

/-- What setting a property that is yet to be decoded makes of a lens. -/
def tuneBy (lens : Option Camera) (property : String × Value) : Outcome (Option Camera) Unit :=
  match Property.decode property.1 property.2 with
  | .ok property => tuneLens lens property
  | .error _ => .done lens ()

/-- An outcome tells the same of the lens of an id as another that is about the lens alone. -/
def TellsLens {α : Type} (id : NodeId) (outcome : Outcome Graph α)
    (tuned : Outcome (Option Camera) Unit) : Prop :=
  (outcome.result.map fun _ => ()) = tuned.result ∧
    (outcome.state.object? id).map Object.camera? = some tuned.state

section

variable {g : Graph} {id : NodeId} {object : Object} (hobject : g.object? id = some object)

include hobject

theorem setLens_tellsLens (property : Property) :
    TellsLens id (g.setLens id object property) (tuneLens object.camera? property) := by
  have hsame : (g.object? id).map Object.camera? = some object.camera? := congrArg _ hobject
  cases hcamera : object.camera? with
  | none =>
      rw [setLens_of_camera?_eq_none hcamera]
      exact ⟨rfl, hsame.trans (congrArg some hcamera)⟩
  | some camera =>
      obtain ⟨node, hbody, hrole⟩ := Object.camera?_eq_some_iff.mp hcamera
      simp only [setLens, hbody, hrole, tuneLens, Option.bind_some]
      cases camera.set? property with
      | none => exact ⟨rfl, hsame.trans (congrArg some hcamera)⟩
      | some camera' =>
          refine ⟨?_, ?_⟩
          · simp only [Outcome.map, Outcome.within]
            cases camera'.refresh.result <;> rfl
          · change ((g.setNode id _).object? id).map Object.camera? = _
            rw [setNode, setBody, object?_modify, if_pos rfl, hobject]
            rfl

theorem setProperty_tellsLens (kind : Kind) (property : Property) :
    TellsLens id (g.setProperty id kind object property) (tuneLens object.camera? property) := by
  have hsame : (g.object? id).map Object.camera? = some object.camera? := congrArg _ hobject
  have hother : (∀ camera : Camera, camera.set? property = none) →
      tuneLens object.camera? property = .done object.camera? () := by
    intro hnone
    cases hcamera : object.camera? <;> simp [tuneLens, hnone]
  -- What is stored as given is no part of a lens.
  have hstore : TellsLens id (g.store id object property) (.done object.camera? ()) := by
    unfold store
    split
    next object' hset =>
      refine ⟨rfl, ?_⟩
      change ((g.setObject id object').object? id).map Object.camera? = _
      rw [object?_setObject, if_pos rfl, hobject]
      exact congrArg some (Object.camera?_of_set? hset)
    next => exact ⟨rfl, hsame⟩
  cases property with
  | fov fov => exact setLens_tellsLens hobject _
  | near near => exact setLens_tellsLens hobject _
  | far far => exact setLens_tellsLens hobject _
  | active active =>
      rw [hother fun _ => rfl]
      have hselect : (g.select id active).object? id = g.object? id := by
        unfold select
        split
        · rfl
        · split <;> rfl
      unfold setProperty
      dsimp only
      split
      · exact ⟨rfl, (congrArg (Option.map Object.camera?) hselect).trans hsame⟩
      · exact ⟨rfl, hsame⟩
  | dimension dimension value =>
      rw [hother fun _ => rfl]
      refine ⟨rfl, ?_⟩
      change ((g.rebuild id object dimension value).1.object? id).map Object.camera? = _
      unfold rebuild
      split
      next shape hshape =>
        obtain ⟨geometry, hgeometry, -⟩ := Option.bind_eq_some_iff.mp hshape
        have hdrawn : g.drawHandle.object? id = some object := hobject
        simp only [replace?, hdrawn, Option.map_some]
        change ((g.drawHandle.setObject id _).object? id).map Object.camera? = _
        rw [object?_setObject, if_pos rfl, hdrawn]
        rcases object with ⟨name, body⟩
        cases body <;> cases hgeometry
        rfl
      next => exact hsame
  | _ =>
      rw [hother fun _ => rfl]
      exact hstore

end

theorem setProp_tellsLens {g : Graph} (hg : g.TablesAgree) {id : NodeId} {lens : Option Camera}
    (hlens : (g.object? id).map Object.camera? = some lens) (key : String) (value : Value) :
    TellsLens id (g.setProp id key value) (tuneBy lens (key, value)) := by
  obtain ⟨object, hobject, rfl⟩ := Option.map_eq_some_iff.mp hlens
  unfold setProp tuneBy
  rw [hg.kind?_eq, hobject]
  dsimp only [Option.map_some]
  cases Property.decode key value with
  | error issue => exact ⟨rfl, hlens⟩
  | ok property =>
      obtain ⟨hresult, hstate⟩ := setProperty_tellsLens hobject object.kind property
      refine ⟨?_, hstate⟩
      rw [← hresult]
      simp only [Outcome.map]
      cases (g.setProperty id object.kind object property).result <;> rfl

/-- The properties of a node end in a fault when they do so for its lens alone. -/
theorem Consistent.setProps_result_eq {g : Graph} (hg : g.Consistent) {id : NodeId}
    {lens : Option Camera} (hlens : (g.object? id).map Object.camera? = some lens)
    (properties : PropertyList) :
    (g.setProps id properties).result = (Outcome.chain tuneBy lens properties).result := by
  rw [(g.setProps_eq_chain id properties).1]
  refine Outcome.chain_congr (R := fun g lens => g.Consistent ∧
    (g.object? id).map Object.camera? = some lens) ?_ ⟨hg, hlens⟩ properties
  rintro g lens ⟨key, value⟩ ⟨hg, hlens⟩
  obtain ⟨hresult, hstate⟩ := setProp_tellsLens hg.toTablesAgree hlens key value
  refine ⟨?_, hg.apply (.setProp id key value), hstate⟩
  rw [hresult]
  cases (tuneBy lens (key, value)).result <;> rfl

/-- What a new node comes to wherever its id is free. -/
theorem Consistent.create_result_eq {g : Graph} (hg : g.Consistent) {id : NodeId}
    (hfree : g.object? id = none) (kind : Kind) (properties : PropertyList) :
    ((g.create id kind properties).result.map fun _ => ()) =
      match Object.default? kind 0 with
      | some object => (Outcome.chain tuneBy object.camera? properties).result
      | none => .ok () := by
  -- A lens does not depend on the handle that comes next.
  have hlens : ∀ handle, (Object.default? kind handle).map Object.camera? =
      (Object.default? kind 0).map Object.camera? := by
    intro handle
    cases kind <;> rfl
  rcases g.create_uniform id kind with ⟨hwhy, issue, hrefused⟩ | ⟨g', hborn, hcreate⟩
  · have hunsupported := hwhy.resolve_left (by simp [hfree])
    rw [← Object.isSome_default? kind 0, Option.isSome_eq_false_iff,
      Option.isNone_iff_eq_none] at hunsupported
    rw [hrefused, hunsupported]
    rfl
  · obtain ⟨object, hentered⟩ := hborn.entered
    obtain ⟨handle, hdefault⟩ := hentered.default?
    have hcamera := hlens handle
    rw [hdefault, eq_comm, Option.map_some, Option.map_eq_some_iff] at hcamera
    obtain ⟨object₀, hdefault₀, hcamera⟩ := hcamera
    have hfound : (g'.object? id).map Object.camera? = some object₀.camera? := by
      rw [hentered.object?_eq, if_pos rfl, Option.map_some, hcamera]
    rw [hcreate, hdefault₀]
    dsimp only
    rw [← (hg.born hborn).setProps_result_eq hfound properties]
    simp only [Outcome.map]
    cases (g'.setProps id properties).result <;> rfl

end Graph

end LiveScene
