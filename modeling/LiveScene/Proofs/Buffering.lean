import LiveScene.Host.Session
import LiveScene.Proofs.Receiving

/-! # Buffered and direct delivery

A host that is ready does to its graph what the calls it is sent say, no more and no less, and a
host that becomes ready does what it kept. So it cannot be seen in the graph whether calls came
before the host was ready or after.
-/

namespace LiveScene

/-- A step ends in a fault, or in a state that shows a graph, just as expected of it. -/
def Outcome.Follows {σ α : Type} (outcome : Outcome σ α) (Shows : σ → Graph → Prop)
    (expected : Except Fault Graph) : Prop :=
  match outcome.result, expected with
  | .ok _, .ok g => Shows outcome.state g
  | .error fault, .error fault' => fault = fault'
  | _, _ => False

namespace Outcome.Follows

variable {σ τ α β : Type} {outcome : Outcome σ α} {Shows : σ → Graph → Prop}
  {expected : Except Fault Graph}

theorem final (outcome : Outcome Graph α) : outcome.Follows Eq outcome.final := by
  rcases outcome with ⟨state, fault | value, log⟩ <;> rfl

theorem andThen (h : outcome.Follows Shows expected) {next : σ → α → Outcome σ β}
    {Shows' : σ → Graph → Prop} {rest : Graph → Except Fault Graph}
    (hnext : ∀ state value g, Shows state g → (next state value).Follows Shows' (rest g)) :
    (outcome.andThen next).Follows Shows' (expected.bind rest) := by
  rcases outcome with ⟨state, fault | value, log⟩ <;> rcases expected with fault' | g
  · exact h
  · exact h.elim
  · exact h.elim
  · exact hnext state value g h

theorem map (h : outcome.Follows Shows expected) (f : α → β) :
    (outcome.map f).Follows Shows expected := by
  rcases outcome with ⟨state, fault | value, log⟩ <;> rcases expected with fault' | g <;> exact h

theorem note (h : outcome.Follows Shows expected) (log : σ → α → Log) :
    (outcome.note log).Follows Shows expected := by
  rcases outcome with ⟨state, fault | value, records⟩ <;> exact h

theorem within (h : outcome.Follows Shows expected) {put : σ → τ} {Shows' : τ → Graph → Prop}
    (hput : ∀ state g, Shows state g → Shows' (put state) g) :
    (outcome.within put).Follows Shows' expected := by
  rcases outcome with ⟨state, fault | value, log⟩ <;> rcases expected with fault' | g
  · exact h
  · exact h.elim
  · exact h.elim
  · exact hput state g h

theorem exists_of_ok (h : outcome.Follows Shows expected) {value : α}
    (hresult : outcome.result = .ok value) : ∃ g, expected = .ok g ∧ Shows outcome.state g := by
  rcases outcome with ⟨state, fault | value', log⟩ <;> rcases expected with fault' | g
  · cases hresult
  · cases hresult
  · exact h.elim
  · exact ⟨g, rfl, h⟩

theorem of_expected {g : Graph} (h : outcome.Follows Shows (.ok g)) :
    (∃ value, outcome.result = .ok value) ∧ Shows outcome.state g := by
  rcases outcome with ⟨state, fault | value, log⟩
  · exact h.elim
  · exact ⟨⟨value, rfl⟩, h⟩

end Outcome.Follows

/-! ## Hosts -/

/-- A canvas that follows its surface shows a graph. -/
def Canvas.Shows (canvas : Canvas) (g : Graph) : Prop :=
  canvas.tracker.observing = true ∧ canvas.graph = g

theorem Canvas.Shows.resize {canvas : Canvas} {g : Graph} (h : canvas.Shows g) (surface : Surface) :
    (canvas.resize surface).Follows Canvas.Shows (g.fitTo surface.size).final := by
  obtain ⟨hobserving, rfl⟩ := h
  simp only [Canvas.resize, hobserving, Graph.fitTo, Bool.not_true, Bool.false_or]
  split
  · exact ⟨hobserving, rfl⟩
  · have hfit := Outcome.Follows.final (canvas.graph.fitCamera surface.size.aspect)
    have hput : ∀ state g', state = g' → Canvas.Shows
        ⟨⟨true, some surface.size⟩, canvas.renderer.call (.setSize surface.size), state⟩ g' :=
      fun _ _ heq => ⟨rfl, heq⟩
    exact ((hfit.within hput).map _).note _

namespace Host

/-- A host on a surface that is ready and shows a graph, with nothing kept. -/
structure Live (index : Platform.SurfaceIndex) (host : Host) (g : Graph) : Prop where
  surface : host.surface = index
  state : host.state = .ready
  pending : host.pending = {}
  renderer : ∃ renderer, host.renderer = some renderer
  graph : host.graph = some g
  observing : host.resize.observing = true

variable {index : Platform.SurfaceIndex} {host : Host} {g : Graph}

theorem Live.setGraph (h : Live index host g) (g' : Graph) : Live index (host.setGraph g') g' :=
  { h with graph := rfl }

theorem Live.releaseHandles (h : Live index host g) :
    Live index host.releaseHandles g.forgetReleased := by
  obtain ⟨renderer, hrenderer⟩ := h.renderer
  unfold Host.releaseHandles
  rw [hrenderer, h.graph]
  exact { h with renderer := ⟨_, rfl⟩, graph := rfl }

theorem Live.setCanvas (h : Live index host g) {canvas : Canvas} {g' : Graph}
    (hshows : canvas.Shows g') : Live index (host.setCanvas canvas) g' :=
  { h with renderer := ⟨_, rfl⟩, graph := congrArg some hshows.2, observing := hshows.1 }

theorem Live.applyToGraph (h : Live index host g) (size : Size) (ops : List Op) :
    (host.applyToGraph ops).Follows (Live index) (g.receive size (.patch ops)) := by
  have happlied : ((g.applyAll ops).within host.setGraph).Follows (Live index)
      (g.applyAll ops).final :=
    (Outcome.Follows.final _).within fun _ g' heq => heq ▸ h.setGraph g'
  have hexpected : g.receive size (.patch ops) =
      (g.applyAll ops).final.bind fun g' => .ok g'.forgetReleased := by
    simp only [Graph.receive]
    cases (g.applyAll ops).final <;> rfl
  simp only [Host.applyToGraph, h.graph]
  rw [hexpected]
  exact happlied.andThen fun host' report g' hlive => hlive.releaseHandles

theorem Live.resizeTo (h : Live index host g) (surface : Surface) :
    (host.resizeTo surface).Follows (Live index) (g.fitTo surface.size).final := by
  obtain ⟨renderer, hrenderer⟩ := h.renderer
  have hcanvas : host.canvas? = some ⟨host.resize, renderer, g⟩ := by
    simp [canvas?, hrenderer, h.graph]
  have hshows : Canvas.Shows ⟨host.resize, renderer, g⟩ g := ⟨h.observing, rfl⟩
  simp only [Host.resizeTo, hcanvas]
  exact (hshows.resize surface).within fun canvas g' hshows' => h.setCanvas hshows'

theorem Live.showTree (h : Live index host g) (surface : Surface) (root : Descriptor) :
    (host.showTree surface root).Follows (Live index) (g.receive surface.size (.reset root)) := by
  have hbuilt : (((g.clear.buildTree root).after g.clearLog).within host.setGraph).Follows
      (Live index) (g.clear.buildTree root).final :=
    (Outcome.Follows.final ((g.clear.buildTree root).after g.clearLog)).within
      fun _ g' heq => heq ▸ h.setGraph g'
  simp only [Host.showTree, h.graph]
  exact hbuilt.andThen fun host' report g' hlive => (hlive.releaseHandles.resizeTo surface).map _

/-- A host that has just become ready does what it kept. -/
theorem Live.flush {pending : Pending} (h : Live index host .empty) (surface : Surface) :
    (Host.flush { host with pending } surface).Follows (Live index)
      (Graph.receiveKept surface.size pending) := by
  have hlive : Live index { host with pending := {} } .empty := { h with pending := rfl }
  rcases pending with ⟨root, ops⟩
  cases root with
  | none =>
      cases ops with
      | nil => exact hlive
      | cons op rest =>
          have hstart : (Outcome.done { host with pending := {} } ({} : Report)).Follows
              (Live index) (.ok .empty) := hlive
          have hops := hstart.andThen fun host' report g' hlive' =>
            (hlive'.applyToGraph surface.size (op :: rest)).map report.add
          exact (hops.note _).map _
  | some root =>
      have hroot := (hlive.showTree surface root).andThen
        fun host' report g' hlive' => (hlive'.applyToGraph surface.size ops).map report.add
      exact (hroot.note _).map _

end Host

/-! ## Sessions -/

namespace Session

variable {π : Type}

def deliver (session : Session π) : Call → Outcome (Session π) Delivery
  | .reset root => session.reset root
  | .patch ops => session.patch ops

/-- Sends calls one after the other, up to the first that ends in a fault. -/
def deliverAll (session : Session π) : List Call → Outcome (Session π) Unit
  | [] => .done session ()
  | call :: rest => (session.deliver call).andThen fun session _ => session.deliverAll rest

/-- A session whose host is ready and shows a graph on a surface of a size. -/
def Shows (size : Size) (session : Session π) (g : Graph) : Prop :=
  Host.Live session.host.surface session.host g ∧ session.surface.size = size

/-- A host that waits keeps what it is sent. -/
theorem deliver_of_uninitialized {session : Session π}
    (hstate : session.host.state = .uninitialized) (call : Call) :
    (session.deliver call).result = .ok .buffered ∧
      (session.deliver call).state = session.setHost
        { session.host with pending := session.host.pending.keep call } := by
  cases call with
  | reset root => simp [deliver, reset, onHost, Host.reset, hstate, Outcome.within, Pending.keep]
  | patch ops =>
      simp [deliver, patch, onHost, Host.patch, hstate, Outcome.within, Outcome.done, Pending.keep]

theorem deliverAll_of_uninitialized {session : Session π}
    (hstate : session.host.state = .uninitialized) (calls : List Call) :
    (session.deliverAll calls).state = session.setHost
      { session.host with pending := calls.foldl Pending.keep session.host.pending } := by
  induction calls generalizing session with
  | nil => rfl
  | cons call rest ih =>
      obtain ⟨hresult, hnext⟩ := deliver_of_uninitialized hstate call
      have hrest := @ih (session.deliver call).state (by rw [hnext]; exact hstate)
      rw [deliverAll, Outcome.andThen_of_ok hresult]
      change ((session.deliver call).state.deliverAll rest).state = _
      rw [hrest, hnext]
      rfl

theorem Shows.deliver {session : Session π} {size : Size} {g : Graph} (h : Shows size session g)
    (call : Call) : (session.deliver call).Follows (Shows size) (g.receive size call) := by
  obtain ⟨hlive, rfl⟩ := h
  have hput : ∀ host' g', Host.Live session.host.surface host' g' →
      Shows session.surface.size (session.setHost host') g' := by
    intro host' g' hlive'
    have hsurface := hlive'.surface
    exact ⟨hsurface.symm ▸ hlive', congrArg (fun index => (session.platform.surface index).size)
      hsurface⟩
  cases call with
  | reset root =>
      have hhost : (session.host.reset session.surface root).Follows
          (Host.Live session.host.surface) (g.receive session.surface.size (.reset root)) := by
        simp only [Host.reset, hlive.state]
        exact (hlive.showTree session.surface root).map _
      exact hhost.within hput
  | patch ops =>
      have hhost : (session.host.patch ops).Follows (Host.Live session.host.surface)
          (g.receive session.surface.size (.patch ops)) := by
        simp only [Host.patch, hlive.state]
        exact (hlive.applyToGraph session.surface.size ops).map _
      exact hhost.within hput

theorem Shows.deliverAll {session : Session π} {size : Size} {g : Graph} (h : Shows size session g)
    (calls : List Call) :
    (session.deliverAll calls).Follows (Shows size) (calls.foldlM (Graph.receive size) g) := by
  induction calls generalizing session g with
  | nil => exact h
  | cons call rest ih =>
      rw [List.foldlM_cons]
      exact (h.deliver call).andThen fun session' delivery g' h' => ih h'

theorem size_surface_modifySurface (platform : Platform π) (index : Platform.SurfaceIndex)
    {surface : Surface} (hsize : surface.size = (platform.surface index).size) :
    ((platform.modifySurface index fun _ => surface).surface index).size = surface.size := by
  simp only [Platform.surface, Platform.modifySurface, List.getElem?_modify, if_true] at hsize ⊢
  cases hentry : platform.surfaces[index]? with
  | none => simpa [hentry] using hsize.symm
  | some entry => rfl

theorem size_observe (tracker : SizeTracker) (surface : Surface) :
    (tracker.observe surface).size = surface.size := by
  unfold SizeTracker.observe
  split <;> rfl

/-- The first pass of a new canvas finds no camera. -/
theorem attach_empty (tracker : SizeTracker) (renderer : Renderer) (surface : Surface) :
    ∃ resized, (Canvas.attach ⟨tracker, renderer, .empty⟩ surface).result = .ok resized ∧
      (Canvas.attach ⟨tracker, renderer, .empty⟩ surface).state.Shows .empty := by
  unfold Canvas.attach Canvas.resize
  split
  · exact ⟨_, rfl, rfl, rfl⟩
  · exact ⟨_, rfl, rfl, rfl⟩

/-- A host that is given a renderer is ready and does what it kept. -/
theorem equip_follows (session : Session π) (library : Library) (renderer : Renderer) :
    (session.equip library renderer).Follows (Shows session.surface.size)
      (Graph.receiveKept session.surface.size session.host.pending) := by
  have hsize := size_observe session.host.resize session.surface
  have hobserved := size_surface_modifySurface session.platform session.host.surface hsize
  generalize hsurface : session.host.resize.observe session.surface = surface at hsize hobserved
  obtain ⟨resized, hresult, hshows⟩ := attach_empty session.host.resize renderer surface
  have hput : ∀ host' g, Host.Live session.host.surface host' g →
      Shows surface.size
        ⟨host', session.platform.modifySurface session.host.surface fun _ => surface⟩ g := by
    intro host' g hlive
    refine ⟨hlive.surface.symm ▸ hlive, ?_⟩
    rw [Session.surface, hlive.surface, hobserved]
  -- The host with its new canvas, to which the flush is applied with what the host kept.
  let attached := { session.host.setCanvas
    (Canvas.attach ⟨session.host.resize, renderer, .empty⟩ surface).state with
      loop := if session.host.autostart then session.host.loop.start else session.host.loop
      state := .ready
      pending := {} }
  have hlive : Host.Live session.host.surface attached .empty :=
    ⟨rfl, rfl, rfl, ⟨_, rfl⟩, congrArg some hshows.2, hshows.1⟩
  simp only [equip, hsurface]
  rw [← hsize]
  refine Outcome.Follows.within ?_ hput
  simp only [Outcome.andThen, Outcome.after, Outcome.within, hresult]
  exact @Host.Live.flush _ _ session.host.pending hlive surface

/-- A host that waits becomes ready when the library arrives and there is a renderer. -/
theorem concludeLoad_follows {session : Session π} (hstate : session.host.state = .uninitialized)
    (hrenderers : session.platform.refusesRenderers = false) (library : Library) :
    (session.concludeLoad (.ok library)).Follows (Shows session.surface.size)
      (Graph.receiveKept session.surface.size session.host.pending) := by
  simp only [concludeLoad, setHost, hstate, makeReady?, Platform.makeRenderer, hrenderers,
    Bool.false_eq_true, if_false, Except.map]
  exact equip_follows _ library _

/-- A session with a new host that waits for the library, on a platform that makes renderers. -/
structure Waiting (session : Session π) : Prop where
  state : session.host.state = .uninitialized
  pending : session.host.pending = {}
  renderers : session.platform.refusesRenderers = false

/-- It cannot be seen in the graph of a host whether calls came before the host was ready or after.
The host that kept them keeps nothing once it is ready, and its graph is that of the host that was
ready first up to the numbering of handles: that host counts on from the handles it had drawn
before the last tree. The graphs are the same when no tree comes after the first call. -/
theorem buffering_unobservable {early late : Session π} (hearly : early.Waiting)
    (hlate : late.Waiting) (hsize : early.surface.size = late.surface.size)
    (library library' : Library) (calls : List Call)
    (hfaultless : ((late.concludeLoad (.ok library')).state.deliverAll calls).result = .ok ()) :
    let buffered := (early.deliverAll calls).state.concludeLoad (.ok library)
    let ready := (late.concludeLoad (.ok library')).state
    buffered.result = .ok () ∧ buffered.state.host.state = .ready ∧
      buffered.state.host.pending = {} ∧
      ∃ g before, buffered.state.host.graph = some g ∧
        (ready.deliverAll (Call.superseded calls)).state.host.graph = some before ∧
        (ready.deliverAll calls).state.host.graph = some (g.shift before.lastHandle) ∧
        (calls.tail.any Call.isReset = false →
          before.lastHandle = 0 ∧ (ready.deliverAll calls).state.host.graph = some g) := by
  intro buffered ready
  have hready : ready.Shows late.surface.size .empty := by
    have hload := concludeLoad_follows hlate.state hlate.renderers library'
    rw [hlate.pending] at hload
    exact hload.of_expected.2
  obtain ⟨direct, hdirect, hdirectShown, -⟩ := (hready.deliverAll calls).exists_of_ok hfaultless
  obtain ⟨kept, before, hkept, hbefore, rfl⟩ := Graph.receive_kept hdirect
  have hbuffered : buffered.Follows (Shows late.surface.size) (.ok kept) := by
    have hwaiting := deliverAll_of_uninitialized hearly.state calls
    rw [hearly.pending] at hwaiting
    dsimp only [buffered]
    rw [hwaiting, ← hkept, ← hsize]
    exact @concludeLoad_follows π
      (early.setHost { early.host with pending := calls.foldl Pending.keep {} })
      hearly.state hearly.renderers library
  obtain ⟨⟨_, hresult⟩, hbufferedShown, -⟩ := hbuffered.of_expected
  have hsuperseded := hready.deliverAll (Call.superseded calls)
  rw [hbefore] at hsuperseded
  obtain ⟨-, hbeforeShown, -⟩ := hsuperseded.of_expected
  refine ⟨hresult, hbufferedShown.state, hbufferedShown.pending, kept, before,
    hbufferedShown.graph, hbeforeShown.graph, hdirectShown.graph, fun hfirst => ?_⟩
  have hnone : before.lastHandle = 0 := by
    rw [Call.superseded_eq_nil hfirst] at hbefore
    cases Except.ok.inj hbefore
    rfl
  refine ⟨hnone, ?_⟩
  rw [hdirectShown.graph, hnone, Graph.shift_zero]

/-- A mesh with a geometry and a material, sent after operations that drew one handle: the host that
executed these has the same graph as the host that kept it all, with handles larger by one. -/
theorem buffering_unobservable_reset :
    let session : Session Unit :=
      ⟨{ surface := 0, surfaceId := 1, autostart := true },
        { provider := ⟨(), { config := {} }⟩, surfaces := [{ id := 1, size := ⟨640, 480⟩ }] }⟩
    let calls : List Call :=
      [.patch [.create ⟨1⟩ .boxGeometry []],
        .reset (.node ⟨1⟩ .mesh [] [.node ⟨2⟩ .sphereGeometry [] []]),
        .patch [.create ⟨3⟩ .basicMaterial [], .attach ⟨1⟩ ⟨3⟩]]
    let library : Library := ⟨"headless"⟩
    ∃ g, ((session.deliverAll calls).state.concludeLoad (.ok library)).state.host.graph = some g ∧
      ((session.concludeLoad (.ok library)).state.deliverAll calls).state.host.graph =
        some (g.shift 1) := by
  intro session calls library
  have hwaiting : session.Waiting := ⟨rfl, rfl, rfl⟩
  have hdrawn : ((session.concludeLoad (.ok library)).state.deliverAll
      (Call.superseded calls)).state.host.graph.map Graph.lastHandle = some 1 := by decide +kernel
  obtain ⟨-, -, -, g, before, hbuffered, hbefore, hdirect, -⟩ := buffering_unobservable hwaiting
    hwaiting rfl library library calls (by decide +kernel)
  rw [hbefore, Option.map_some, Option.some.injEq] at hdrawn
  rw [hdrawn] at hdirect
  exact ⟨g, hbuffered, hdirect⟩

end Session

end LiveScene
