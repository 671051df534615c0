import LiveScene.Proofs.HostLife

/-! # Operations in portions

A host that is ready can be sent its operations at once or in portions, with frames drawn in between.
The handles that a portion gives up go to the renderer before the next one comes, so that the graph
is not the same on the way; at the end it is, and the renderer got the same handles in the same
order.
-/

namespace LiveScene

namespace Graph

/-- Operations in two parts, where what the first gives up is taken before the second. -/
theorem applyAll_append_of_ok {g : Graph} {ops more : List Op} {report : Report}
    (hresult : (g.applyAll (ops ++ more)).result = .ok report) :
    ∃ first second, (g.applyAll ops).result = .ok first ∧
      ((g.applyAll ops).state.forgetReleased.applyAll more).result = .ok second ∧
      report = first.add second ∧
      (g.applyAll (ops ++ more)).state =
        ((g.applyAll ops).state.forgetReleased.applyAll more).state.later 0
          (g.applyAll ops).state.released := by
  have hlater := (g.applyAll ops).state.forgetReleased.applyAll_later 0
    (g.applyAll ops).state.released more
  rw [← eq_later_forgetReleased] at hlater
  rw [applyAll_append] at hresult ⊢
  obtain ⟨first, hfirst, hmore, hstate⟩ := Outcome.ok_of_andThen hresult
  obtain ⟨second, hsecond, rfl⟩ := exists_of_map_eq_ok hmore
  rw [hlater] at hsecond
  refine ⟨first, second, hfirst, hsecond, rfl, ?_⟩
  rw [hstate]
  exact congrArg Outcome.state hlater

theorem forgetReleased_later_zero (g : Graph) (waiting : List Handle) :
    (g.later 0 waiting).forgetReleased = g.forgetReleased := by
  rw [later, shift_zero]
  rfl

theorem released_later_zero (g : Graph) (waiting : List Handle) :
    (g.later 0 waiting).released = waiting ++ g.released := by
  rw [later, shift_zero]

end Graph

theorem givenBack_append (calls more : List RendererCall) :
    givenBack (calls ++ more) = givenBack calls ++ givenBack more :=
  List.filterMap_append

theorem givenBack_map_release (handles : List Handle) :
    givenBack (handles.map .release) = handles := by
  simp [givenBack, RendererCall.released?, Function.comp_def]

namespace Session

variable {π : Type}

/-- A host that is ready and shows a graph, with a renderer that has got some handles back. -/
def Showing (g : Graph) (back : List Handle) (session : Session π) : Prop :=
  session.host.state = .ready ∧ session.host.graph = some g ∧
    ∃ renderer, session.host.renderer = some renderer ∧
      givenBack renderer.calls.toList = back

variable {session : Session π} {g : Graph} {back : List Handle}

theorem Showing.patch (h : Showing g back session) {ops : List Op} {report : Report}
    (hresult : (g.applyAll ops).result = .ok report) :
    (session.patch ops).result = .ok (.applied report) ∧
      (session.patch ops).state.Showing (g.applyAll ops).state.forgetReleased
        (back ++ (g.applyAll ops).state.released) := by
  obtain ⟨hstate, hgraph, renderer, hrenderer, rfl⟩ := h
  simp only [Session.patch, onHost, Host.patch, hstate, Host.applyToGraph, hgraph, Outcome.andThen,
    Outcome.within, Outcome.map, Outcome.after, Outcome.done, hresult, Except.map, Host.setGraph,
    Host.releaseHandles, hrenderer, setHost]
  refine ⟨trivial, rfl, rfl, _, rfl, ?_⟩
  rw [Renderer.calls_foldl_release, givenBack_append, givenBack_map_release]

section

variable [Site π]

/-- A frame leaves the graph alone and gives nothing back. -/
theorem Showing.step (h : Showing g back session) :
    ∃ shown, session.step.result = .ok shown ∧ session.step.state.Showing g back := by
  obtain ⟨hstate, hgraph, renderer, hrenderer, rfl⟩ := h
  simp only [Session.step, onHost, Host.drawFrame, hstate, hgraph, hrenderer, RenderLoop.step]
  split
  · exact ⟨_, rfl, rfl, rfl, renderer, rfl, rfl⟩
  · cases g.frame? with
    | none => exact ⟨_, rfl, rfl, rfl, renderer, rfl, rfl⟩
    | some frame =>
        have hdrawn : givenBack (renderer.call (.render frame)).calls.toList =
            givenBack renderer.calls.toList := by
          simp [Renderer.call, givenBack, RendererCall.released?]
        simp only [Renderer.render]
        cases renderer.isDisposed with
        | false => exact ⟨_, rfl, rfl, rfl, _, rfl, hdrawn⟩
        | true => exact ⟨_, rfl, rfl, rfl, _, rfl, hdrawn⟩

/-- Draws a number of frames. -/
def stepTimes (session : Session π) : Nat → Outcome (Session π) Unit
  | 0 => .done session ()
  | count + 1 => session.step.andThen fun session _ => session.stepTimes count

theorem Showing.stepTimes (h : Showing g back session) (count : Nat) :
    (session.stepTimes count).result = .ok () ∧ (session.stepTimes count).state.Showing g back := by
  induction count generalizing session with
  | zero => exact ⟨rfl, h⟩
  | succ count ih =>
      obtain ⟨shown, hresult, hshowing⟩ := h.step
      rw [Session.stepTimes, Outcome.andThen_of_ok hresult]
      exact ih hshowing

/-- Sends operations in portions, each with the number of frames drawn after it, and says what became
of each portion. -/
def patchAll (session : Session π) : List (List Op × Nat) → Outcome (Session π) (List Delivery)
  | [] => .done session []
  | (ops, frames) :: rest =>
    (session.patch ops).andThen fun session delivery =>
      (session.stepTimes frames).andThen fun session _ =>
        (session.patchAll rest).map (delivery :: ·)

/-- Portions do to the graph what their operations do at once. -/
theorem Showing.patchAll (h : Showing g back session) (hreleased : g.released = [])
    (portions : List (List Op × Nat)) {report : Report}
    (hresult : (g.applyAll (portions.flatMap Prod.fst)).result = .ok report) :
    ∃ reports : List Report, report = reports.foldr Report.add {} ∧
      (session.patchAll portions).result = .ok (reports.map .applied) ∧
      (session.patchAll portions).state.Showing
        (g.applyAll (portions.flatMap Prod.fst)).state.forgetReleased
        (back ++ (g.applyAll (portions.flatMap Prod.fst)).state.released) := by
  induction portions generalizing session g back report with
  | nil =>
      cases Except.ok.inj hresult
      have hforget : g.forgetReleased = g := by
        rw [Graph.forgetReleased, ← hreleased]
      refine ⟨[], rfl, rfl, ?_⟩
      change session.Showing g.forgetReleased (back ++ g.released)
      rw [hforget, hreleased, List.append_nil]
      exact h
  | cons portion rest ih =>
      obtain ⟨ops, frames⟩ := portion
      rw [List.flatMap_cons] at hresult ⊢
      obtain ⟨first, second, hfirst, hsecond, rfl, hstate⟩ := Graph.applyAll_append_of_ok hresult
      obtain ⟨hpatched, hshowing⟩ := h.patch hfirst
      obtain ⟨hframes, hshowing⟩ := hshowing.stepTimes frames
      -- The rest finds a graph with nothing left over, as at the start.
      obtain ⟨reports, rfl, hrest, hshowing⟩ := ih hshowing rfl hsecond
      refine ⟨first :: reports, rfl, ?_, ?_⟩
      · rw [Session.patchAll, Outcome.andThen_of_ok hpatched, Outcome.andThen_of_ok hframes]
        simp only [Outcome.after, Outcome.map, hrest]
        rfl
      · rw [Session.patchAll, Outcome.andThen_of_ok hpatched, Outcome.andThen_of_ok hframes, hstate,
          Graph.forgetReleased_later_zero, Graph.released_later_zero, ← List.append_assoc]
        exact hshowing

/-- It cannot be seen in the end whether a host that is ready got its operations at once or in
portions, empty ones among them and frames in between. If there is no fault when they come at once,
there is none in portions either; the graphs are the same, the renderer got back the same handles in
the same order, and the reports on the portions add up to the report on the whole. -/
theorem batching_unobservable (platform : Platform π) (index : Platform.SurfaceIndex)
    (autostart : Bool) (events : List (Event π))
    (hlife : (life platform index autostart events).result = .ok ())
    (hready : (life platform index autostart events).state.host.state = .ready)
    (ops : List Op) (portions : List (List Op × Nat)) (hcut : portions.flatMap Prod.fst = ops)
    {delivery : Delivery}
    (hfaultless : ((life platform index autostart events).state.patch ops).result = .ok delivery) :
    let session := (life platform index autostart events).state
    let whole := (session.patch ops).state.host
    let parts := (session.patchAll portions).state.host
    parts.graph.isSome ∧ parts.graph = whole.graph ∧
      (∃ renderer renderer', whole.renderer = some renderer ∧ parts.renderer = some renderer' ∧
        givenBack renderer'.calls.toList = givenBack renderer.calls.toList) ∧
      ∃ reports : List Report, (session.patchAll portions).result = .ok (reports.map .applied) ∧
        delivery = .applied (reports.foldr Report.add {}) := by
  intro session whole parts
  obtain ⟨⟨renderer, g, hserves, hreleased⟩, -⟩ :=
    (stage_life platform index autostart events () hlife).serving_of_ready hready
  have hshowing : session.Showing g (givenBack renderer.calls.toList) :=
    ⟨hserves.1, hserves.2.2.1, renderer, hserves.2.1, rfl⟩
  subst hcut
  cases happlied : (g.applyAll (portions.flatMap Prod.fst)).result with
  | error fault =>
      simp [Session.patch, onHost, Host.patch, hserves.1, Host.applyToGraph, hserves.2.2.1,
        Outcome.andThen, Outcome.within, Outcome.map, happlied, Except.map] at hfaultless
  | ok report =>
      obtain ⟨hpatched, -, hwhole, renderer₁, hrenderer₁, hback₁⟩ := hshowing.patch happlied
      obtain ⟨reports, rfl, hparts, -, hgraph, renderer₂, hrenderer₂, hback₂⟩ :=
        hshowing.patchAll hreleased portions happlied
      refine ⟨?_, hgraph.trans hwhole.symm, ⟨renderer₁, renderer₂, hrenderer₁, hrenderer₂, ?_⟩,
        reports, hparts, ?_⟩
      · rw [hgraph]
        rfl
      · rw [hback₁, hback₂]
      · rw [hpatched] at hfaultless
        exact (Except.ok.inj hfaultless).symm

end

/-- A box that gets another width and then loses its material, in three portions of which one is
empty: the handles of the old box and of the material are given back in this order, and of the three
operations the one on an unknown id is ignored. -/
theorem batching_unobservable_box :
    let page : Page := { isGlobal := true }
    let platform : Platform Page :=
      { provider := ⟨page, { config := {} }⟩, surfaces := [{ id := 1, size := ⟨640, 480⟩ }] }
    let root : Descriptor := .node ⟨1⟩ .scene []
      [.node ⟨2⟩ .perspectiveCamera [("active", .bool true)] [],
        .node ⟨3⟩ .mesh [] [.node ⟨4⟩ .boxGeometry [] [], .node ⟨5⟩ .basicMaterial [] []]]
    let widen : Op := .setProp ⟨4⟩ "width" (.number 2)
    let ops : List Op := [widen, .delete ⟨5⟩, .delete ⟨9⟩]
    let session := (life platform 0 true [.reset root]).state
    let parts := session.patchAll [([widen], 2), ([], 1), ([.delete ⟨5⟩, .delete ⟨9⟩], 0)]
    parts.state.host.graph = (session.patch ops).state.host.graph ∧
      (∃ renderer, parts.state.host.renderer = some renderer ∧
        givenBack renderer.calls.toList = [1, 2]) ∧
      ∃ reports : List Report, parts.result = .ok (reports.map .applied) ∧
        reports.foldr Report.add {} = ⟨2, 1⟩ := by
  intro page platform root widen ops session parts
  have hfaultless : (session.patch ops).result = .ok (.applied ⟨2, 1⟩) := by decide +kernel
  have hback : (session.patch ops).state.host.renderer.map
      (fun renderer => givenBack renderer.calls.toList) = some [1, 2] := by decide +kernel
  obtain ⟨-, hgraph, ⟨renderer, renderer', hwhole, hparts, hsame⟩, reports, hreports, hsum⟩ :=
    batching_unobservable platform 0 true [.reset root] (by decide +kernel) (by decide +kernel) ops
      [([widen], 2), ([], 1), ([.delete ⟨5⟩, .delete ⟨9⟩], 0)] rfl hfaultless
  rw [hwhole, Option.map_some, Option.some.injEq] at hback
  exact ⟨hgraph, ⟨renderer', hparts, hsame.trans hback⟩, reports, hreports,
    (Delivery.applied.inj hsum).symm⟩

end Session

end LiveScene
