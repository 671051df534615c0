import LiveScene.Proofs.Caches
import LiveScene.Proofs.Lifecycle
import LiveScene.Proofs.Relinking

/-! # Following the size of a surface

A pass after a change of layout is skipped, and then it does nothing, or it goes all the way: the
renderer is told the size once, the tracker keeps it, and in the graph at most the lens of the
selected camera changes. A second pass finds nothing left to do. A host that shows a new tree makes
such a pass at the end, so that the camera of the tree has the proportions of the surface.
-/

namespace LiveScene

/-! ## Lenses -/

namespace Camera

/-- The lens with another aspect. Of everything else only the matrix may have changed, and it is
that of the new parameters unless these are degenerate. -/
structure Refits (camera : Camera) (aspect : Float32) (camera' : Camera) : Prop where
  parameters : ∃ fov old matrix, camera.projection = .perspective fov old ∧
    camera' = { camera with projection := .perspective fov aspect, matrix }
  current : camera'.IsCurrent
  kept : camera'.degeneracy? ≠ none → camera'.matrix = camera.matrix

/-- A matrix that is current is formed without a fault, and is the same as before. -/
theorem IsCurrent.refresh_eq {camera : Camera} (h : camera.IsCurrent) :
    camera.refresh.state = camera ∧ camera.refresh.result = .ok () := by
  unfold Camera.refresh
  cases hdegeneracy : camera.degeneracy? with
  | some degeneracy => exact ⟨rfl, rfl⟩
  | none =>
      simp only [h hdegeneracy]
      exact ⟨rfl, rfl⟩

theorem fit_of_perspective {camera : Camera} {fov old : Float32}
    (hprojection : camera.projection = .perspective fov old) (aspect : Float32) :
    ∃ log, camera.fit aspect =
      (refresh { camera with projection := .perspective fov aspect }).after log := by
  simp only [fit, setAspect, hprojection, Outcome.andThen, if_true]
  exact ⟨_, rfl⟩

theorem fit_of_not_perspective {camera : Camera} (hnot : camera.isPerspective = false)
    (aspect : Float32) :
    (camera.fit aspect).state = camera ∧ (camera.fit aspect).result = .ok () := by
  unfold isPerspective at hnot
  split at hnot
  next => cases hnot
  next hprojection =>
    simp only [fit, setAspect, hprojection]
    exact ⟨rfl, rfl⟩

theorem fit_refits {camera : Camera} {fov old : Float32}
    (hprojection : camera.projection = .perspective fov old) (aspect : Float32) :
    (camera.fit aspect).Ensures (camera.Refits aspect) := by
  obtain ⟨log, heq⟩ := fit_of_perspective hprojection aspect
  rw [heq]
  refine .after (fun value hresult => ?_) log
  obtain ⟨⟨matrix, hstate⟩, hkept⟩ :=
    refresh_eq { camera with projection := .perspective fov aspect }
  refine ⟨⟨fov, old, matrix, hprojection, hstate⟩, refresh_isCurrent _ value hresult, ?_⟩
  intro hdegenerate
  -- Whether the parameters are degenerate does not depend on the matrix.
  rw [hstate] at hdegenerate
  rw [hkept hdegenerate]

/-- A lens that has the aspect already stays as it is. -/
theorem Refits.fit_eq {camera camera' : Camera} {aspect : Float32}
    (h : camera.Refits aspect camera') :
    (camera'.fit aspect).state = camera' ∧ (camera'.fit aspect).result = .ok () := by
  obtain ⟨fov, old, matrix, -, hcamera⟩ := h.parameters
  have hprojection : camera'.projection = .perspective fov aspect := by rw [hcamera]
  obtain ⟨log, heq⟩ := fit_of_perspective hprojection aspect
  have hsame : { camera' with projection := .perspective fov aspect } = camera' := by
    rw [← hprojection]
  rw [heq, hsame]
  exact h.current.refresh_eq

theorem Refits.aspect?_eq {camera camera' : Camera} {aspect : Float32}
    (h : camera.Refits aspect camera') : camera'.aspect? = some aspect := by
  obtain ⟨fov, old, matrix, -, rfl⟩ := h.parameters
  rfl

end Camera

/-! ## Graphs -/

namespace Graph

/-- The graph with another lens under one id, and nothing else changed. -/
structure Refits (g : Graph) (id : NodeId) (aspect : Float32) (g' : Graph) : Prop
    extends g.SameHoldings g' where
  parents : g'.parents = g.parents
  scenes : g'.scenes = g.scenes
  elsewhere : ∀ other, other ≠ id → g'.object? other = g.object? other
  lens : ∃ name node camera camera', g.object? id = some ⟨name, .node node⟩ ∧
    node.role = .camera camera ∧ camera.Refits aspect camera' ∧
    g'.object? id = some ⟨name, .node { node with role := .camera camera' }⟩

/-- What a new aspect does to a graph: it changes the lens of the selected camera if that is a
perspective one, and otherwise nothing. -/
inductive AspectChange (g : Graph) (aspect : Float32) (g' : Graph) : Prop
  | lens (id : NodeId) (hactive : g.active = some id) (hrefits : g.Refits id aspect g')
  | nothing (hnone : ∀ camera, g.activeCamera? = some camera → camera.isPerspective = false)
      (heq : g' = g)

/-- A camera that can be looked up belongs to a node. -/
theorem camera?_eq_some_iff {g : Graph} {id : NodeId} {camera : Camera} :
    g.camera? id = some camera ↔
      ∃ name node, g.object? id = some ⟨name, .node node⟩ ∧ node.role = .camera camera := by
  simp only [camera?, Option.bind_eq_some_iff, Object.camera?_eq_some_iff]
  constructor
  · rintro ⟨⟨name, body⟩, hobject, node, rfl, hrole⟩
    exact ⟨name, node, hobject, hrole⟩
  · rintro ⟨name, node, hobject, hrole⟩
    exact ⟨_, hobject, node, rfl, hrole⟩

theorem setNode_self {g : Graph} {id : NodeId} {name : String} {node : Node}
    (hobject : g.object? id = some ⟨name, .node node⟩) : g.setNode id node = g := by
  rw [setNode_eq_setObject hobject]
  exact setObject_self hobject

theorem fitCamera_of_camera {g : Graph} {id : NodeId} {name : String} {node : Node}
    {camera : Camera} (hactive : g.active = some id)
    (hobject : g.object? id = some ⟨name, .node node⟩) (hrole : node.role = .camera camera)
    (aspect : Float32) :
    g.fitCamera aspect = (camera.fit aspect).within fun camera =>
      g.setNode id { node with role := .camera camera } := by
  have hnode : g.node? id = some node := node?_eq_some_iff.mpr ⟨_, hobject, rfl⟩
  simp only [fitCamera, hactive, hnode, hrole]

/-- Without a perspective camera that is selected nothing happens. -/
theorem fitCamera_of_none {g : Graph}
    (hnone : ∀ camera, g.activeCamera? = some camera → camera.isPerspective = false)
    (aspect : Float32) :
    (g.fitCamera aspect).state = g ∧ (g.fitCamera aspect).result = .ok () := by
  unfold fitCamera
  split
  next => exact ⟨rfl, rfl⟩
  next id hactive =>
    split
    next node hnode =>
      split
      next camera hrole =>
        obtain ⟨⟨name, body⟩, hobject, hbody⟩ := node?_eq_some_iff.mp hnode
        cases body <;> cases hbody
        have hselected : g.activeCamera? = some camera := by
          rw [activeCamera?, hactive]
          exact camera?_eq_some_iff.mpr ⟨name, node, hobject, hrole⟩
        obtain ⟨hstate, hresult⟩ := camera.fit_of_not_perspective (hnone camera hselected) aspect
        refine ⟨?_, hresult⟩
        change g.setNode id { node with role := .camera (camera.fit aspect).state } = g
        rw [hstate, ← hrole]
        exact setNode_self hobject
      next => exact ⟨rfl, rfl⟩
    next => exact ⟨rfl, rfl⟩

theorem fitCamera_aspectChange (g : Graph) (aspect : Float32) :
    (g.fitCamera aspect).Ensures (g.AspectChange aspect) := by
  by_cases hnone : ∀ camera, g.activeCamera? = some camera → camera.isPerspective = false
  · rw [Outcome.Ensures, (fitCamera_of_none hnone aspect).1]
    exact fun _ _ => .nothing hnone rfl
  · simp only [not_forall, exists_prop] at hnone
    obtain ⟨camera, hselected, hperspective⟩ := hnone
    obtain ⟨id, hactive, hcamera⟩ := Option.bind_eq_some_iff.mp hselected
    obtain ⟨name, node, hobject, hrole⟩ := camera?_eq_some_iff.mp hcamera
    obtain ⟨fov, old, hprojection⟩ : ∃ fov old, camera.projection = .perspective fov old := by
      unfold Camera.isPerspective at hperspective
      split at hperspective
      next fov old hprojection => exact ⟨fov, old, hprojection⟩
      next => exact absurd rfl hperspective
    rw [fitCamera_of_camera hactive hobject hrole]
    refine (Camera.fit_refits hprojection aspect).within fun camera' hrefits => .lens id hactive ?_
    rw [setNode_eq_setObject hobject]
    refine ⟨⟨rfl, rfl, rfl, rfl⟩, rfl, rfl, fun other hne => ?_,
      name, node, camera, camera', hobject, hrole, hrefits, ?_⟩
    · rw [object?_setObject, if_neg (Ne.symm hne)]
    · rw [object?_setObject, if_pos rfl, hobject]
      rfl

namespace AspectChange

variable {g g' : Graph} {aspect : Float32}

/-- A graph that has the aspect already stays as it is. -/
theorem fitCamera_eq (h : g.AspectChange aspect g') :
    (g'.fitCamera aspect).state = g' ∧ (g'.fitCamera aspect).result = .ok () := by
  cases h with
  | nothing hnone heq =>
      subst heq
      exact fitCamera_of_none hnone aspect
  | lens id hactive hrefits =>
      obtain ⟨name, node, camera, camera', -, -, hlens, hobject⟩ := hrefits.lens
      obtain ⟨hstate, hresult⟩ := hlens.fit_eq
      rw [fitCamera_of_camera (hrefits.active.trans hactive) hobject rfl]
      refine ⟨?_, hresult⟩
      simp only [Outcome.within, hstate]
      exact setNode_self hobject

/-- The selected camera has the aspect, if it has any. -/
theorem aspect_eq (h : g.AspectChange aspect g') {camera : Camera} {found : Float32}
    (hselected : g'.activeCamera? = some camera) (hfound : camera.aspect? = some found) :
    found = aspect := by
  cases h with
  | nothing hnone heq =>
      subst heq
      have hnot := hnone camera hselected
      rcases camera with ⟨projection, _, _, _⟩
      cases projection with
      | perspective => cases hnot
      | orthographic => cases hfound
  | lens id hactive hrefits =>
      obtain ⟨name, node, old, camera', -, -, hlens, hobject⟩ := hrefits.lens
      have hlive : g'.camera? id = some camera' :=
        camera?_eq_some_iff.mpr ⟨name, _, hobject, rfl⟩
      rw [activeCamera?, hrefits.active, hactive, Option.bind_some, hlive] at hselected
      cases hselected
      rw [hlens.aspect?_eq] at hfound
      exact (Option.some.inj hfound).symm

end AspectChange

end Graph

/-! ## One pass -/

theorem Size.isEmpty_iff (size : Size) :
    size.isEmpty = true ↔ size.width = 0 ∨ size.height = 0 := by
  simp [Size.isEmpty]

namespace Canvas

/-- There is nothing to follow, or no room to draw. -/
def Skips (canvas : Canvas) (surface : Surface) : Prop :=
  canvas.tracker.observing = false ∨ surface.size.width = 0 ∨ surface.size.height = 0

/-- A pass that was not skipped: the tracker keeps the size, the renderer is told it once, and the
selected camera gets its aspect. -/
structure Passes (canvas : Canvas) (size : Size) (canvas' : Canvas) : Prop where
  tracker : canvas'.tracker = { canvas.tracker with lastSize := some size }
  renderer : canvas'.renderer = canvas.renderer.call (.setSize size)
  graph : canvas.graph.AspectChange size.aspect canvas'.graph

variable {canvas : Canvas} {surface : Surface}

theorem resize_of_skip (hskip : canvas.Skips surface) :
    canvas.resize surface = .done canvas .skipped := by
  rw [Skips, ← Size.isEmpty_iff] at hskip
  unfold resize
  rw [if_pos]
  rcases hskip with hidle | hempty
  · simp [hidle]
  · simp [hempty]

theorem resize_of_not_skip (hskip : ¬canvas.Skips surface) :
    (canvas.resize surface).result =
        (canvas.graph.fitCamera surface.size.aspect).result.map
          (fun _ => ResizeResult.resized surface.size) ∧
      (canvas.resize surface).state =
        ⟨{ canvas.tracker with lastSize := some surface.size },
          canvas.renderer.call (.setSize surface.size),
          (canvas.graph.fitCamera surface.size.aspect).state⟩ := by
  rw [Skips, ← Size.isEmpty_iff] at hskip
  unfold resize
  rw [if_neg (by simpa [not_or] using hskip)]
  rcases canvas.graph.fitCamera surface.size.aspect with ⟨g, fault | value, log⟩
  · exact ⟨rfl, rfl⟩
  · exact ⟨rfl, rfl⟩

theorem resize_ne_skipped (hskip : ¬canvas.Skips surface) :
    (canvas.resize surface).result ≠ .ok .skipped := by
  rw [(resize_of_not_skip hskip).1]
  intro hresult
  obtain ⟨value, -, hsize⟩ := exists_of_map_eq_ok hresult
  cases hsize

theorem resize_passes {size : Size}
    (hresult : (canvas.resize surface).result = .ok (.resized size)) :
    size = surface.size ∧ canvas.Passes surface.size (canvas.resize surface).state := by
  by_cases hskip : canvas.Skips surface
  · rw [resize_of_skip hskip] at hresult
    cases hresult
  · obtain ⟨hmap, hstate⟩ := resize_of_not_skip hskip
    rw [hmap] at hresult
    obtain ⟨value, hfit, hsize⟩ := exists_of_map_eq_ok hresult
    rw [hstate]
    exact ⟨(ResizeResult.resized.inj hsize).symm, rfl, rfl,
      canvas.graph.fitCamera_aspectChange surface.size.aspect value hfit⟩

/-- A second pass over the same surface finds nothing to do. -/
theorem Passes.resize_eq {canvas' : Canvas} (h : canvas.Passes surface.size canvas')
    (hskip : ¬canvas.Skips surface) :
    (canvas'.resize surface).result = .ok (.resized surface.size) ∧
      (canvas'.resize surface).state.tracker = canvas'.tracker ∧
      (canvas'.resize surface).state.graph = canvas'.graph := by
  have hagain : ¬canvas'.Skips surface := by
    rw [Skips, h.tracker]
    exact hskip
  obtain ⟨hresult, hstate⟩ := resize_of_not_skip hagain
  obtain ⟨hgraph, hfit⟩ := h.graph.fitCamera_eq
  rw [hresult, hstate, hfit, hgraph, h.tracker]
  exact ⟨rfl, rfl, rfl⟩

/-- What a pass comes to. -/
structure Resizes (canvas : Canvas) (surface : Surface) (pass : Outcome Canvas ResizeResult) :
    Prop where
  skipped_iff : pass.result = .ok .skipped ↔
    canvas.tracker.observing = false ∨ surface.size.width = 0 ∨ surface.size.height = 0
  skipped : pass.result = .ok .skipped → pass.state = canvas
  passes : ∀ size, pass.result = .ok (.resized size) →
    size = surface.size ∧ canvas.Passes size pass.state
  /-- A second pass over the same surface adds nothing. -/
  again : ∀ size, pass.result = .ok (.resized size) →
    (pass.state.resize surface).result = .ok (.resized size) ∧
      (pass.state.resize surface).state.tracker = pass.state.tracker ∧
      (pass.state.resize surface).state.graph = pass.state.graph

theorem resizes (canvas : Canvas) (surface : Surface) :
    canvas.Resizes surface (canvas.resize surface) := by
  by_cases hskip : canvas.Skips surface
  · rw [resize_of_skip hskip]
    refine ⟨⟨fun _ => hskip, fun _ => rfl⟩, fun _ => rfl, fun size hresult => ?_,
      fun size hresult => ?_⟩
    · cases hresult
    · cases hresult
  · have hnot := resize_ne_skipped hskip
    refine ⟨⟨fun hresult => absurd hresult hnot, fun h => absurd h hskip⟩,
      fun hresult => absurd hresult hnot, fun size hresult => ?_, fun size hresult => ?_⟩
    · obtain ⟨rfl, hpasses⟩ := resize_passes hresult
      exact ⟨rfl, hpasses⟩
    · obtain ⟨rfl, hpasses⟩ := resize_passes hresult
      exact hpasses.resize_eq hskip

end Canvas

/-! ## Hosts -/

namespace Host

/-- A host that has all it needs to follow its surface. -/
structure Tracks (host : Host) : Prop where
  renderer : host.renderer.isSome = true
  graph : host.graph.isSome = true
  observing : host.resize.observing = true

/-- A host whose selected camera, if that is a perspective one, has the aspect of a size. -/
def Proportioned (size : Size) (host : Host) : Prop :=
  ∃ g, host.graph = some g ∧ ∀ camera aspect, g.activeCamera? = some camera →
    camera.aspect? = some aspect → aspect = size.aspect

variable {host : Host} {surface : Surface} {size : Size}

theorem Tracks.of_sketch_eq {host' : Host} (h : host.Tracks)
    (hsketch : host'.sketch = host.sketch) : host'.Tracks where
  renderer := (congrArg Sketch.hasRenderer hsketch).trans h.renderer
  graph := (congrArg Sketch.hasGraph hsketch).trans h.graph
  observing := (congrArg Sketch.observing hsketch).trans h.observing

theorem Proportioned.releaseHandles (h : host.Proportioned size) :
    host.releaseHandles.Proportioned size := by
  obtain ⟨g, hgraph, hcamera⟩ := h
  unfold Host.releaseHandles
  rw [hgraph]
  cases host.renderer with
  | none => exact ⟨g, hgraph, hcamera⟩
  | some renderer => exact ⟨g.forgetReleased, rfl, hcamera⟩

/-- Nothing to apply makes no difference. -/
theorem Proportioned.applyToGraph_nil (h : host.Proportioned size) :
    (host.applyToGraph []).Ensures (Proportioned size) := by
  obtain ⟨g, hgraph, hcamera⟩ := h
  simp only [Host.applyToGraph, hgraph]
  have hsame : (host.setGraph g).Proportioned size := ⟨g, rfl, hcamera⟩
  exact .always hsame.releaseHandles

theorem Proportioned.drawFrame (h : host.Proportioned size) :
    host.drawFrame.state.Proportioned size :=
  h

section

variable (hside : ¬(surface.size.width = 0 ∨ surface.size.height = 0))

include hside

theorem Tracks.resizeTo (h : host.Tracks) :
    (host.resizeTo surface).Ensures (Proportioned surface.size) := by
  obtain ⟨renderer, hrenderer⟩ := Option.isSome_iff_exists.mp h.renderer
  obtain ⟨g, hgraph⟩ := Option.isSome_iff_exists.mp h.graph
  have hcanvas : host.canvas? = some ⟨host.resize, renderer, g⟩ := by
    simp [canvas?, hrenderer, hgraph]
  simp only [Host.resizeTo, hcanvas]
  refine .within (P := fun canvas => g.AspectChange surface.size.aspect canvas.graph) ?_ ?_
  · intro result hresult
    cases result with
    | skipped =>
        have hnot : ¬Canvas.Skips ⟨host.resize, renderer, g⟩ surface := by
          simpa [Canvas.Skips, h.observing] using hside
        exact absurd hresult (Canvas.resize_ne_skipped hnot)
    | resized size => exact (Canvas.resize_passes hresult).2.graph
  · intro canvas hchange
    exact ⟨canvas.graph, rfl, fun camera aspect => hchange.aspect_eq⟩

/-- A new tree is shown with the proportions of the surface. -/
theorem Tracks.showTree (h : host.Tracks) (root : Descriptor) :
    (host.showTree surface root).Ensures (Proportioned surface.size) := by
  obtain ⟨g, hgraph⟩ := Option.isSome_iff_exists.mp h.graph
  simp only [Host.showTree, hgraph]
  refine .andThen (P := Tracks) (.always (h.of_sketch_eq (sketch_setGraph hgraph _))) ?_
  intro host' report htracks
  exact ((htracks.of_sketch_eq host'.sketch_releaseHandles).resizeTo hside).map _

theorem Tracks.flush (h : host.Tracks) {root : Descriptor}
    (hpending : host.pending = ⟨some root, []⟩) :
    (host.flush surface).Ensures (Proportioned surface.size) := by
  have htracks : Tracks { host with pending := {} } := ⟨h.renderer, h.graph, h.observing⟩
  simp only [Host.flush, hpending, Pending.isEmpty, Option.isNone_some, Bool.false_and,
    Bool.false_eq_true, if_false]
  refine .map (.note (.andThen (htracks.showTree hside root) fun host' report hfits => ?_) _) _
  exact hfits.applyToGraph_nil.map _

end

end Host

namespace Session

variable {π : Type} {session : Session π} {retired : List Renderer} {root : Descriptor}

theorem equip_proportioned (hpending : session.host.pending = ⟨some root, []⟩)
    (hside : ¬(session.surface.size.width = 0 ∨ session.surface.size.height = 0))
    (library : Library) (renderer : Renderer) :
    (session.equip library renderer).Ensures fun next =>
      next.host.Proportioned session.surface.size := by
  have hsize := size_observe session.host.resize session.surface
  rw [← hsize] at hside ⊢
  simp only [equip]
  refine .within (P := Host.Proportioned (session.host.resize.observe session.surface).size) ?_
    fun _ hfits => hfits
  refine .andThen (P := fun host => host.Tracks ∧ host.pending = ⟨some root, []⟩) ?_ ?_
  · refine .after (.within (P := fun canvas => canvas.tracker.observing = true) ?_ ?_) _
    · exact .always (Canvas.observing_resize _ _)
    · intro canvas hobserving
      exact ⟨⟨rfl, rfl, hobserving⟩, hpending⟩
  · rintro host _ ⟨htracks, hkept⟩
    have hready : Host.Tracks { host with state := .ready } :=
      ⟨htracks.renderer, htracks.graph, htracks.observing⟩
    exact .after (hready.flush hside hkept) _

/-- A host that kept a tree and nothing else shows it with the proportions of its surface as soon as
it is ready. -/
theorem Bare.proportioned_concludeLoad (h : session.Bare .uninitialized retired)
    (hpending : session.host.pending = ⟨some root, []⟩)
    (hside : ¬(session.surface.size.width = 0 ∨ session.surface.size.height = 0))
    (result : Except LoadError Library) :
    (session.concludeLoad result).Ensures fun next =>
      next.host.state = .ready → next.host.Proportioned session.surface.size := by
  have hwaits : session.host.state ≠ .ready := by simp [h.1]
  unfold Session.concludeLoad
  dsimp only [setHost]
  rw [if_neg (not_not_intro h.1)]
  cases result with
  | error error => exact .always fun hready => absurd hready hwaits
  | ok library =>
      rcases makeReady?_eq ⟨{ session.host with load := none }, session.platform⟩ library with
        ⟨error, heq⟩ | ⟨renderer, count, heq⟩
      · simp only [heq]
        exact .always fun hready => absurd hready hwaits
      · simp only [heq]
        have hequipped := @equip_proportioned π ⟨{ session.host with load := none },
          { session.platform with rendererCount := count }⟩ root hpending hside library renderer
        exact hequipped.mono fun next hfits _ => hfits

theorem Bare.proportioned_undergo [Site π] (h : session.Bare .uninitialized retired)
    (hpending : session.host.pending = ⟨some root, []⟩)
    (hside : ¬(session.surface.size.width = 0 ∨ session.surface.size.height = 0))
    (event : Event π) :
    (session.undergo event).Ensures fun next =>
      next.host.state = .ready → next.host.Proportioned session.surface.size := by
  have hwaits : ∀ next : Session π, next.host.state = .uninitialized →
      next.host.state = .ready → next.host.Proportioned session.surface.size := by
    intro next hstate hready
    rw [hstate] at hready
    cases hready
  have hawait : session.awaitLoad.Ensures fun next =>
      next.host.state = .ready → next.host.Proportioned session.surface.size :=
    awaitLoad_ensures (hwaits session h.1) (fun provider => hwaits _ h.1) fun provider =>
      @Bare.proportioned_concludeLoad π ⟨session.host, { session.platform with provider }⟩ retired
        root h hpending hside
  cases event with
  | reset root =>
      simp only [Session.undergo, Session.reset, onHost, Host.reset, h.1]
      exact .always (hwaits _ rfl)
  | patch ops =>
      simp only [Session.undergo, Session.patch, onHost, Host.patch, h.1]
      exact .always (hwaits _ rfl)
  | poll => exact (hawait.andThen fun next _ hfits => .always hfits).map _
  | step =>
      simp only [Session.undergo, Session.step, h.1, checkLibrary, Outcome.andThen_assoc,
        Outcome.done_andThen]
      refine .map (hawait.andThen fun next _ hfits => ?_) _
      split
      next hready => exact .always fun _ => (hfits hready).drawFrame
      next => exact .always hfits
  | resize => exact (h.resize.mono fun next hbare => hwaits next hbare.1).map _
  | startLoop => exact .always (hwaits _ h.1)
  | stopLoop => exact .always (hwaits _ h.1)
  | dispose =>
      refine .always fun hready => ?_
      have hgone := h.dispose.1
      rw [Session.undergo, hgone] at hready
      cases hready
  | elsewhere platform => exact .always (hwaits _ h.1)

theorem Stage.bare_of_uninitialized {before : List Renderer} (h : Stage before session)
    (hstate : session.host.state = .uninitialized) : session.Bare .uninitialized before := by
  cases h with
  | waiting h => exact h
  | serving h =>
      obtain ⟨⟨_, _, hserves, -⟩, -⟩ := h
      rw [hserves.1] at hstate
      cases hstate
  | gone own h _ _ =>
      rw [h.1] at hstate
      cases hstate

/-- A pass after a change of layout, and what a host gains from it. The pass is skipped exactly when
the surface is not observed or has a zero side, and then nothing changes. Otherwise, unless there is
a fault, the renderer is told the size once, the tracker keeps it and at most one lens changes; a
second pass adds nothing. A host that is ready and is sent a tree ends with the proportions of its
surface, and so does one that was sent the tree while it waited, and nothing after it, when it gets
ready. -/
theorem resize_all_or_nothing [Site π] :
    (∀ (canvas : Canvas) (surface : Surface), canvas.Resizes surface (canvas.resize surface)) ∧
      ∀ (platform : Platform π) (index : Platform.SurfaceIndex) (autostart : Bool)
        (earlier : List (Event π)) (root : Descriptor) (session : Session π) (log : Log),
        ¬(session.surface.size.width = 0 ∨ session.surface.size.height = 0) →
        (life platform index autostart earlier = ⟨session, .ok (), log⟩ →
          session.host.state = .ready →
          ∀ delivery, (session.reset root).result = .ok delivery →
            (session.reset root).state.host.Proportioned session.surface.size) ∧
        ∀ silent : List (Event π), (∀ event ∈ silent, event.call? = none) →
          life platform index autostart (earlier ++ .reset root :: silent) =
            ⟨session, .ok (), log⟩ →
          session.host.state = .uninitialized →
          ∀ event, (session.undergo event).result = .ok () →
            (session.undergo event).state.host.state = .ready →
            (session.undergo event).state.host.Proportioned session.surface.size := by
  refine ⟨Canvas.resizes, fun platform index autostart earlier root session log hside => ⟨?_, ?_⟩⟩
  · intro hlife hready delivery hresult
    have hphased := phased_life platform index autostart earlier () (by rw [hlife])
    rw [hlife] at hphased
    have htracks : session.host.Tracks :=
      ⟨hphased.renderer.mpr hready, hphased.graph.mpr hready, hphased.observing.mpr hready⟩
    have hreset : (session.reset root).Ensures fun next =>
        next.host.Proportioned session.surface.size := by
      simp only [Session.reset, onHost, Host.reset, hready]
      exact ((htracks.showTree hside root).map _).within fun _ hfits => hfits
    exact hreset delivery hresult
  · intro silent hsilent hlife hwaits event hresult
    have hphased := phased_life platform index autostart _ () (by rw [hlife])
    have hstage := stage_life platform index autostart _ () (by rw [hlife])
    rw [hlife] at hphased hstage
    have hpending : session.host.pending = ⟨some root, []⟩ := by
      have hnone : silent.filterMap Event.call? = [] := List.filterMap_eq_nil_iff.mpr hsilent
      rw [hphased.pending, if_pos hwaits, List.filterMap_append, List.filterMap_cons, hnone]
      simp [Event.call?, Pending.keep, Pending.reset]
    exact (hstage.bare_of_uninitialized hwaits).proportioned_undergo hpending hside event () hresult

/-- A host that is sent a tree while its module waits at the gate, and one that is ready at once:
the camera of the tree has the proportions of the surface in both. -/
theorem resize_all_or_nothing_gate :
    let config : LoaderConfig := { moduleUrl := some "m" }
    let surfaces : List Surface := [{ id := 1, size := ⟨800, 600⟩ }]
    let closed : Platform Page :=
      { provider := ⟨{ gateClosed := true, moduleArrives := true }, { config }⟩, surfaces }
    let opened : Platform Page :=
      { provider := ⟨{ moduleArrives := true, imports := 1 },
          { config, state := .loading 0, loads := #[.importing "m"] }⟩
        surfaces }
    let present : Platform Page := { provider := ⟨{ isGlobal := true }, { config }⟩, surfaces }
    let root : Descriptor := .node ⟨1⟩ .scene []
      [.node ⟨2⟩ .perspectiveCamera [("active", .bool true)] []]
    let waiting := (life closed 0 true ([] ++ .reset root :: [.elsewhere opened])).state
    let live := (life present 0 true []).state
    waiting.host.state = .uninitialized ∧ live.host.state = .ready ∧
      (waiting.undergo .poll).state.host.Proportioned ⟨800, 600⟩ ∧
      (live.reset root).state.host.Proportioned ⟨800, 600⟩ ∧
      ((live.reset root).state.host.graph.bind Graph.activeCamera?).isSome := by
  intro config surfaces closed opened present root waiting live
  have hwaits : waiting.host.state = .uninitialized := by decide +kernel
  have hready : live.host.state = .ready := by decide +kernel
  have hcamera : ((live.reset root).state.host.graph.bind Graph.activeCamera?).isSome := by
    decide +kernel
  obtain ⟨-, hhosts⟩ := @resize_all_or_nothing Page _
  refine ⟨hwaits, hready, ?_, ?_, hcamera⟩
  · have hsize : waiting.surface.size = ⟨800, 600⟩ := by decide +kernel
    have hpolled : (waiting.undergo .poll).result = .ok () := by decide +kernel
    have hlater : (waiting.undergo .poll).state.host.state = .ready := by decide +kernel
    have hresult :
        (life closed 0 true ([] ++ .reset root :: [.elsewhere opened])).result = .ok () := by
      decide +kernel
    have hlife : life closed 0 true ([] ++ .reset root :: [.elsewhere opened]) =
        ⟨waiting, .ok (), (life closed 0 true ([] ++ .reset root :: [.elsewhere opened])).log⟩ := by
      rw [← hresult]
    -- From here on the run is only what these facts say of it.
    clear_value waiting
    rw [← hsize]
    exact (hhosts closed 0 true [] root waiting _ (by simp [hsize])).2 [.elsewhere opened]
      (by simp [Event.call?]) hlife hwaits .poll hpolled hlater
  · have hsize : live.surface.size = ⟨800, 600⟩ := by decide +kernel
    have hdelivered : (live.reset root).result = .ok (.applied ⟨3, 0⟩) := by decide +kernel
    have hresult : (life present 0 true []).result = .ok () := by decide +kernel
    have hlife : life present 0 true [] = ⟨live, .ok (), (life present 0 true []).log⟩ := by
      rw [← hresult]
    clear_value live
    rw [← hsize]
    exact (hhosts present 0 true [] root live _ (by simp [hsize])).1 hlife hready _ hdelivered

end Session

end LiveScene
