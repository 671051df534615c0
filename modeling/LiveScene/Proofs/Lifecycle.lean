import LiveScene.Proofs.Buffering
import LiveScene.Proofs.HostLife

/-! # The phases of a host

A host waits, is ready or is gone, and it goes through these phases in one direction only. What it
has depends on its phase: a graph, a renderer and a surface to follow while it is ready, a load and a
buffer while it waits. A host that could not be made ready waits for good, without asking again; a
host that is gone is deaf to everything.
-/

namespace LiveScene

/-- From which phase a host gets into which. -/
inductive HostPhase.Moves : HostPhase → HostPhase → Prop
  | stay (phase : HostPhase) : Moves phase phase
  | ready : Moves .uninitialized .ready
  | giveUp : Moves .uninitialized .disposed
  | finish : Moves .ready .disposed

theorem HostPhase.Moves.trans {a b c : HostPhase} (hab : Moves a b) (hbc : Moves b c) :
    Moves a c := by
  cases hab with
  | stay => exact hbc
  | ready =>
      cases hbc with
      | stay => exact .ready
      | finish => exact .giveUp
  | giveUp => cases hbc with | stay => exact .giveUp
  | finish => cases hbc with | stay => exact .finish

theorem Canvas.observing_resize (canvas : Canvas) (surface : Surface) :
    (canvas.resize surface).state.tracker.observing = canvas.tracker.observing := by
  unfold Canvas.resize
  split
  · rfl
  · dsimp only [Outcome.note, Outcome.map, Outcome.within]
    split <;> rfl

namespace Host

/-- What decides how a host goes on, without what it shows. -/
structure Sketch where
  surface : Platform.SurfaceIndex
  state : HostPhase
  load : Option Ticket
  loadFailed : Bool
  hasRenderer : Bool
  hasGraph : Bool
  pending : Pending
  observing : Bool

def sketch (host : Host) : Sketch where
  surface := host.surface
  state := host.state
  load := host.load
  loadFailed := host.loadFailed
  hasRenderer := host.renderer.isSome
  hasGraph := host.graph.isSome
  pending := host.pending
  observing := host.resize.observing

/-! ## What a host shows is not in its sketch -/

theorem sketch_setGraph {host : Host} {g : Graph} (hgraph : host.graph = some g) (g' : Graph) :
    (host.setGraph g').sketch = host.sketch := by
  simp [sketch, setGraph, hgraph]

theorem sketch_releaseHandles (host : Host) : host.releaseHandles.sketch = host.sketch := by
  unfold releaseHandles
  split
  next hrenderer hgraph => simp [sketch, hrenderer, hgraph]
  next => rfl

variable (host : Host)

theorem sketch_resizeTo (surface : Surface) :
    (host.resizeTo surface).state.sketch = host.sketch := by
  unfold resizeTo
  cases hcanvas : host.canvas? with
  | none => rfl
  | some canvas =>
      simp only [canvas?, Option.bind_eq_bind, Option.bind_eq_some_iff] at hcanvas
      obtain ⟨renderer, hrenderer, g, hgraph, hcanvas⟩ := hcanvas
      cases Option.some.inj hcanvas
      have hobserving := Canvas.observing_resize ⟨host.resize, renderer, g⟩ surface
      simp [sketch, setCanvas, Outcome.within, hrenderer, hgraph, hobserving]

theorem sketch_applyToGraph (ops : List Op) :
    (host.applyToGraph ops).Ensures (·.sketch = host.sketch) := by
  unfold applyToGraph
  cases hgraph : host.graph with
  | none => exact .always rfl
  | some g =>
      refine .andThen (P := (·.sketch = host.sketch)) (.always (sketch_setGraph hgraph _)) ?_
      intro host' report hsame
      exact .always (host'.sketch_releaseHandles.trans hsame)

theorem sketch_showTree (surface : Surface) (root : Descriptor) :
    (host.showTree surface root).Ensures (·.sketch = host.sketch) := by
  unfold showTree
  cases hgraph : host.graph with
  | none => exact .always rfl
  | some g =>
      refine .andThen (P := (·.sketch = host.sketch)) (.always (sketch_setGraph hgraph _)) ?_
      intro host' report hsame
      refine .map (.always ?_) _
      rw [sketch_resizeTo, sketch_releaseHandles, hsame]

/-- What was kept is applied and not kept any longer. -/
theorem sketch_flush (surface : Surface) :
    (host.flush surface).Ensures (·.sketch = { host.sketch with pending := {} }) := by
  unfold flush
  dsimp only
  split
  · exact .always rfl
  · refine .map (.note (.andThen (P := (·.sketch = { host.sketch with pending := {} })) ?_ ?_) _) _
    · cases host.pending.root with
      | none => exact .always rfl
      | some root => exact sketch_showTree { host with pending := {} } surface root
    · intro host' report hsame
      exact .map ((host'.sketch_applyToGraph _).mono fun _ heq => heq.trans hsame) _

theorem sketch_drawFrame : host.drawFrame.state.sketch = host.sketch := by
  unfold drawFrame RenderLoop.step
  split
  · rfl
  · cases hrenderer : host.renderer with
    | none => simp [sketch, Outcome.within, Outcome.done, hrenderer]
    | some renderer =>
        cases hgraph : host.graph with
        | none => simp [sketch, Outcome.within, Outcome.done, hrenderer, hgraph]
        | some g =>
            dsimp only [Outcome.within]
            cases g.frame? with
            | none => simp [sketch, Outcome.done, hrenderer, hgraph]
            | some frame =>
                simp only [Renderer.render]
                cases renderer.isDisposed <;> simp [sketch, hrenderer, hgraph]

/-- What a host has in its phase, after some calls were sent to it. -/
structure Phased (calls : List Call) (host : Host) : Prop where
  graph : host.graph.isSome = true ↔ host.state = .ready
  renderer : host.renderer.isSome = true ↔ host.state = .ready
  /-- The surface is followed. -/
  observing : host.resize.observing = true ↔ host.state = .ready
  load : host.load.isSome = true → host.state = .uninitialized
  /-- A host that waits has kept all calls; no other host keeps any. -/
  pending : host.pending =
    if host.state = .uninitialized then calls.foldl Pending.keep {} else {}
  failed : host.loadFailed = true → host.state ≠ .ready ∧ host.load = none

/-- Nothing is left of a host: it keeps no calls, has nothing to show and nothing to draw with, waits
for no load and does not follow its surface. -/
structure IsGone (host : Host) : Prop where
  state : host.state = .disposed
  pending : host.pending = {}
  graph : host.graph = none
  renderer : host.renderer = none
  load : host.load = none
  observing : host.resize.observing = false

theorem Phased.isGone {calls : List Call} {host : Host} (h : host.Phased calls)
    (hstate : host.state = .disposed) : host.IsGone where
  state := hstate
  pending := by simpa [hstate] using h.pending
  graph := by simpa [hstate] using h.graph
  renderer := by simpa [hstate] using h.renderer
  load := by
    rw [← Option.not_isSome_iff_eq_none]
    intro hload
    simpa [hstate] using h.load hload
  observing := by simpa [hstate] using h.observing

theorem Phased.of_sketch_eq {calls : List Call} {host host' : Host} (h : host.Phased calls)
    (hsketch : host'.sketch = host.sketch) : host'.Phased calls := by
  simp only [sketch, Sketch.mk.injEq] at hsketch
  obtain ⟨-, hstate, hload, hfailed, hrenderer, hgraph, hpending, hobserving⟩ := hsketch
  constructor
  · rw [hgraph, hstate]
    exact h.graph
  · rw [hrenderer, hstate]
    exact h.renderer
  · rw [hobserving, hstate]
    exact h.observing
  · rw [hload, hstate]
    exact h.load
  · rw [hpending, hstate]
    exact h.pending
  · rw [hfailed, hstate, hload]
    exact h.failed

end Host

namespace Session

variable {π : Type}

/-- What an event sends to the host. -/
def Event.call? : Event π → Option Call
  | .reset root => some (.reset root)
  | .patch ops => some (.patch ops)
  | _ => none

/-- Whether an event is a call of the host and not a change around it. -/
def Event.isOwn : Event π → Bool
  | .elsewhere _ => false
  | _ => true

/-- The platform is left alone, but for the loader as long as the host waits for its load. -/
def Spares (session next : Session π) : Prop :=
  ∃ provider, next.platform = { session.platform with provider } ∧
    (session.host.load = none → provider = session.platform.provider)

theorem Spares.refl (session : Session π) : session.Spares session :=
  ⟨session.platform.provider, rfl, fun _ => rfl⟩

/-- What an event can come to. -/
inductive Turn (session : Session π) (event : Event π) (next : Session π) : Prop
  /-- The host takes no notice, but for starting or stopping its loop. -/
  | idles (running : Bool)
      (hhost : next.host = { session.host with loop := { session.host.loop with running } })
      (hsilent : session.host.state = .uninitialized → event.call? = none)
      (hspares : event.isOwn = true → session.Spares next)
  | works (hstate : session.host.state = .ready) (hsketch : next.host.sketch = session.host.sketch)
      (hplatform : next.platform = session.platform)
  | keeps (call : Call) (hcall : event.call? = some call)
      (hstate : session.host.state = .uninitialized)
      (hnext : next =
        session.setHost { session.host with pending := session.host.pending.keep call })
  | fails (hsilent : event.call? = none) (hstate : session.host.state = .uninitialized)
      (hload : session.host.load.isSome = true)
      (hhost : next.host = { session.host with load := none, loadFailed := true })
      (hspares : session.Spares next)
  | readies (hsilent : event.call? = none) (hstate : session.host.state = .uninitialized)
      (hload : session.host.load.isSome = true)
      (hsketch : next.host.sketch = { session.host.sketch with
        state := .ready
        load := none
        hasRenderer := true
        hasGraph := true
        pending := {}
        observing := true })
      (hsurfaces : next.platform.surfaces =
        session.platform.surfaces.modify session.host.surface
          fun surface => { surface with observed := true })
  | ends (hstate : session.host.state ≠ .disposed) (hevent : event = .dispose)
      (hnext : next = session.dispose.state)

variable {session : Session π} {calls : List Call}

/-! ## What each event comes to -/

theorem surfaces_equip (session : Session π) (hobserving : session.host.resize.observing = false)
    (library : Library) (renderer : Renderer) :
    (session.equip library renderer).state.platform.surfaces =
      session.platform.surfaces.modify session.host.surface
        fun surface => { surface with observed := true } := by
  simp only [equip, Outcome.within, Platform.modifySurface, SizeTracker.observe, hobserving,
    Bool.false_eq_true, if_false, Session.surface, Platform.surface]
  apply List.ext_getElem?
  intro i
  rw [List.getElem?_modify, List.getElem?_modify]
  split
  next heq => cases hentry : session.platform.surfaces[i]? <;> simp [heq, hentry]
  next => rfl

/-- A host that gets a renderer is ready, with nothing kept. -/
theorem sketch_equip (session : Session π) (library : Library) (renderer : Renderer) :
    (session.equip library renderer).Ensures fun next =>
      next.host.sketch = { session.host.sketch with
        state := .ready
        hasRenderer := true
        hasGraph := true
        pending := {}
        observing := true } := by
  simp only [equip]
  refine .within (P := fun host => host.sketch = { session.host.sketch with
    state := .ready
    hasRenderer := true
    hasGraph := true
    pending := {}
    observing := true }) ?_ fun _ hsketch => hsketch
  refine .andThen (P := fun host => host.sketch = { session.host.sketch with
    hasRenderer := true
    hasGraph := true
    observing := true }) ?_ ?_
  · refine .after (.within (P := fun canvas => canvas.tracker.observing = true) ?_ ?_) _
    · exact .always (Canvas.observing_resize _ _)
    · intro canvas hobserving
      simp [Host.sketch, Host.setCanvas, hobserving]
  · intro host _ hsketch
    refine .after ((Host.sketch_flush _ _).mono fun host' heq => heq.trans ?_) _
    simp only [Host.sketch, Host.Sketch.mk.injEq] at hsketch ⊢
    simp [hsketch]

/-- A host is refused a renderer, or gets one. -/
theorem makeReady?_eq (session : Session π) (library : Library) :
    (∃ error, session.makeReady? library = .error error) ∨
      ∃ renderer rendererCount, session.makeReady? library =
        .ok (equip { session with platform := { session.platform with rendererCount } }
          library renderer) := by
  unfold makeReady? Platform.makeRenderer
  split
  next => exact Or.inl ⟨_, rfl⟩
  next => exact Or.inr ⟨_, _, rfl⟩

/-- The end of its load makes a host that waits ready, or makes it fail. -/
theorem turn_concludeLoad (h : session.host.Phased calls)
    (hstate : session.host.state = .uninitialized) (hload : session.host.load.isSome = true)
    {event : Event π} (hsilent : event.call? = none) (provider : Provider π)
    (result : Except LoadError Library) :
    (concludeLoad ⟨session.host, { session.platform with provider }⟩ result).Ensures
      (Turn session event) := by
  have hwaits : session.Spares ⟨session.host, { session.platform with provider }⟩ :=
    ⟨provider, rfl, fun hnone => by simp [hnone] at hload⟩
  have hobserving : session.host.resize.observing = false := by
    simpa [hstate] using h.observing
  unfold concludeLoad
  dsimp only [setHost]
  rw [if_neg (not_not_intro hstate)]
  cases result with
  | error error => exact .always (.fails hsilent hstate hload rfl hwaits)
  | ok library =>
      rcases makeReady?_eq ⟨{ session.host with load := none },
        { session.platform with provider }⟩ library with ⟨error, heq⟩ | ⟨renderer, count, heq⟩
      · simp only [heq]
        exact .always (.fails hsilent hstate hload rfl hwaits)
      · simp only [heq]
        intro value hresult
        exact .readies hsilent hstate hload (sketch_equip _ library renderer value hresult)
          (surfaces_equip _ hobserving library renderer)

/-- What is sent to a host is kept, applied or refused. -/
theorem turn_deliver {event : Event π} (call : Call) (hcall : event.call? = some call) :
    (session.deliver call).Ensures (Turn session event) := by
  have hgone : session.host.state = .disposed → Turn session event session := fun hstate =>
    .idles session.host.loop.running rfl (fun hwaits => by simp [hstate] at hwaits)
      fun _ => .refl session
  cases hstate : session.host.state with
  | uninitialized =>
      exact .always (.keeps call hcall hstate (deliver_of_uninitialized hstate call).2)
  | ready =>
      cases call with
      | reset root =>
          simp only [deliver, Session.reset, onHost, Host.reset, hstate]
          exact ((session.host.sketch_showTree _ root).map _).within
            fun host hsketch => .works hstate hsketch rfl
      | patch ops =>
          simp only [deliver, Session.patch, onHost, Host.patch, hstate]
          exact ((session.host.sketch_applyToGraph ops).map _).within
            fun host hsketch => .works hstate hsketch rfl
  | disposed =>
      cases call with
      | reset root =>
          simp only [deliver, Session.reset, onHost, Host.reset, hstate]
          exact .always (hgone hstate)
      | patch ops =>
          simp only [deliver, Session.patch, onHost, Host.patch, hstate]
          exact .always (hgone hstate)

theorem Turn.drawFrame {event : Event π} {next : Session π} (h : Turn session event next)
    (hstate : session.host.state = .uninitialized) (hready : next.host.state = .ready) :
    (next.onHost Host.drawFrame).Ensures (Turn session event) := by
  have hsketch := next.host.sketch_drawFrame
  cases h with
  | readies hsilent _ hload hbefore hsurfaces =>
      exact .always (.readies hsilent hstate hload (hsketch.trans hbefore) hsurfaces)
  | idles running hhost _ _ => simp [hhost, hstate] at hready
  | works hbefore _ _ => simp [hstate] at hbefore
  | keeps call _ _ hnext => simp [hnext, setHost, hstate] at hready
  | fails _ _ _ hhost _ => simp [hhost, hstate] at hready
  | ends _ _ hnext => simp [hnext, Session.dispose, hstate, disposedHost] at hready

/-- Only a host that is ready follows its surface. -/
theorem turn_resize (h : session.host.Phased calls) :
    session.resize.Ensures (Turn session .resize) := by
  by_cases hstate : session.host.state = .ready
  · exact .always (.works hstate (session.host.sketch_resizeTo _) rfl)
  · have hrenderer : session.host.renderer = none := by
      rw [← Option.not_isSome_iff_eq_none, h.renderer]
      exact hstate
    have hcanvas : session.host.canvas? = none := by simp [Host.canvas?, hrenderer]
    simp only [Session.resize, onHost, Host.resizeTo, hcanvas]
    exact .always (.idles session.host.loop.running rfl (fun _ => rfl) fun _ => .refl session)

theorem result_dispose (session : Session π) : session.dispose.result = .ok () := by
  by_cases hstate : session.host.state = .disposed <;> simp [Session.dispose, hstate, Outcome.done]

/-- Whatever a host has, disposing of it leaves nothing of it. -/
theorem isGone_dispose (h : session.host.Phased calls) : session.dispose.state.host.IsGone := by
  by_cases hstate : session.host.state = .disposed
  · simp only [Session.dispose, if_pos hstate, Outcome.done]
    exact h.isGone hstate
  · simp only [Session.dispose, if_neg hstate]
    exact ⟨rfl, rfl, rfl, rfl, rfl, rfl⟩

/-- A surface that was followed is let go. -/
theorem observed_dispose (h : session.host.Phased calls) :
    session.dispose.state.surface.observed =
      if session.host.state = .ready then false else session.surface.observed := by
  by_cases hstate : session.host.state = .disposed
  · simp [Session.dispose, hstate, Outcome.done]
  · simp only [Session.dispose, if_neg hstate, Session.surface, Platform.surface, Platform.retire,
      Platform.modifySurface, disposedHost, List.getElem?_modify, SizeTracker.unobserve,
      h.observing]
    cases session.platform.surfaces[session.host.surface]? with
    | none => simp
    | some surface => by_cases hready : session.host.state = .ready <;> simp [hready]

/-- A host is disposed of once. -/
theorem dispose_dispose (h : session.host.Phased calls) :
    session.dispose.state.dispose = .done session.dispose.state () := by
  rw [Session.dispose, if_pos (isGone_dispose h).state]

section

variable [Site π]

/-- Waiting for the library is looking whether it is there. -/
theorem awaitLoad_eq_poll (session : Session π) :
    session.awaitLoad.map (fun _ => ()) = session.undergo .poll := by
  simp only [undergo, checkLibrary, Outcome.map_andThen]
  cases hresult : session.awaitLoad.result with
  | error fault => simp [Outcome.map, Outcome.andThen, hresult, Except.map]
  | ok value => simp [Outcome.map, Outcome.andThen, hresult, Except.map, Outcome.after, Outcome.done]

theorem turn_awaitLoad (h : session.host.Phased calls) (event : Event π)
    (hsilent : event.call? = none) : session.awaitLoad.Ensures (Turn session event) := by
  have hidle : ∀ next : Session π, next.host = session.host → session.Spares next →
      Turn session event next :=
    fun next hhost hspares =>
      .idles session.host.loop.running hhost (fun _ => hsilent) fun _ => hspares
  cases hload : session.host.load with
  | none =>
      simp only [awaitLoad, hload]
      exact .always (hidle session rfl (.refl session))
  | some ticket =>
      have hsome : session.host.load.isSome = true := by rw [hload]; rfl
      refine awaitLoad_ensures (hidle session rfl (.refl session)) (fun provider => ?_) ?_
      · exact hidle _ rfl ⟨provider, rfl, fun hnone => by simp [hnone] at hload⟩
      · exact turn_concludeLoad h (h.load hsome) hsome hsilent

theorem turn_step (h : session.host.Phased calls) :
    session.step.Ensures (Turn session .step) := by
  cases hstate : session.host.state with
  | uninitialized =>
      simp only [Session.step, hstate, checkLibrary, Outcome.andThen_assoc, Outcome.done_andThen]
      refine (turn_awaitLoad h .step rfl).andThen fun next _ hturn => ?_
      split
      next hready => exact hturn.drawFrame hstate hready
      next => exact .always hturn
  | ready =>
      simp only [Session.step, hstate]
      exact .always (.works hstate session.host.sketch_drawFrame rfl)
  | disposed =>
      simp only [Session.step, hstate]
      exact .always (.idles session.host.loop.running rfl (fun _ => rfl) fun _ => .refl session)

theorem turn_undergo (h : session.host.Phased calls) (event : Event π) :
    (session.undergo event).Ensures (Turn session event) := by
  cases event with
  | reset root => exact (turn_deliver (.reset root) rfl).map _
  | patch ops => exact (turn_deliver (.patch ops) rfl).map _
  | poll =>
      exact ((turn_awaitLoad h .poll rfl).andThen fun _ _ hturn => .always hturn).map _
  | step => exact (turn_step h).map _
  | resize => exact (turn_resize h).map _
  | startLoop => exact .always (.idles true rfl (fun _ => rfl) fun _ => .refl session)
  | stopLoop => exact .always (.idles false rfl (fun _ => rfl) fun _ => .refl session)
  | dispose =>
      by_cases hstate : session.host.state = .disposed
      · simp only [undergo, Session.dispose, hstate]
        exact .always (.idles session.host.loop.running rfl (fun _ => rfl) fun _ => .refl session)
      · exact .always (.ends hstate rfl rfl)
  | elsewhere platform =>
      exact .always (.idles session.host.loop.running rfl (fun _ => rfl) fun hown => by cases hown)

end

/-! ## What follows from it -/

/-- How a host can have changed since an earlier moment of its life. -/
structure Later (earlier session : Session π) : Prop where
  moves : earlier.host.state.Moves session.host.state
  failed : earlier.host.loadFailed = true → session.host.loadFailed = true
  /-- Nothing of a host that is gone changes, but whether its loop is said to run. -/
  gone : earlier.host.state = .disposed → ∃ running,
    session.host = { earlier.host with loop := { earlier.host.loop with running } }

theorem Later.refl (session : Session π) : session.Later session :=
  ⟨.stay _, id, fun _ => ⟨session.host.loop.running, rfl⟩⟩

theorem Later.trans {first second third : Session π} (h : first.Later second)
    (h' : second.Later third) : first.Later third where
  moves := h.moves.trans h'.moves
  failed := fun hfailed => h'.failed (h.failed hfailed)
  gone := by
    intro hgone
    obtain ⟨running, hsecond⟩ := h.gone hgone
    obtain ⟨running', hthird⟩ := h'.gone (by rw [hsecond]; exact hgone)
    exact ⟨running', by rw [hthird, hsecond]⟩

namespace Turn

variable {event : Event π} {next : Session π}

theorem later (h : Turn session event next) : session.Later next := by
  cases h with
  | idles running hhost _ _ =>
      refine ⟨?_, fun hfailed => ?_, fun _ => ⟨running, hhost⟩⟩
      · rw [hhost]
        exact .stay _
      · rw [hhost]
        exact hfailed
  | works hstate hsketch _ =>
      have hphase : next.host.state = session.host.state := congrArg Host.Sketch.state hsketch
      refine ⟨hphase ▸ .stay _, fun hfailed => ?_, fun hgone => by simp [hstate] at hgone⟩
      exact (congrArg Host.Sketch.loadFailed hsketch).trans hfailed
  | keeps call _ hstate hnext =>
      subst hnext
      exact ⟨.stay _, id, fun hgone => by simp [hstate] at hgone⟩
  | fails _ hstate _ hhost _ =>
      refine ⟨?_, fun _ => by rw [hhost], fun hgone => by simp [hstate] at hgone⟩
      rw [hhost]
      exact .stay _
  | readies _ hstate _ hsketch _ =>
      have hphase : next.host.state = .ready := congrArg Host.Sketch.state hsketch
      refine ⟨?_, fun hfailed => ?_, fun hgone => by simp [hstate] at hgone⟩
      · rw [hstate, hphase]
        exact .ready
      · exact (congrArg Host.Sketch.loadFailed hsketch).trans hfailed
  | ends hstate _ hnext =>
      subst hnext
      have hdisposed : session.dispose.state.host = disposedHost session.host := by
        simp [Session.dispose, hstate]
      refine ⟨?_, fun hfailed => ?_, fun hgone => absurd hgone hstate⟩
      · rw [hdisposed]
        change session.host.state.Moves .disposed
        cases hphase : session.host.state with
        | uninitialized => exact .giveUp
        | ready => exact .finish
        | disposed => exact .stay _
      · rw [hdisposed]
        exact hfailed

/-- An event keeps what a host has in step with its phase. -/
theorem phased (hturn : Turn session event next) (h : session.host.Phased calls) :
    next.host.Phased (calls ++ event.call?.toList) := by
  -- Calls that a host does not keep make no difference to one that does not wait.
  have hmore : session.host.state ≠ .uninitialized →
      session.host.Phased (calls ++ event.call?.toList) := by
    intro hstate
    have hpending := h.pending
    rw [if_neg hstate] at hpending
    exact { h with pending := by rw [if_neg hstate, hpending] }
  cases hturn with
  | idles running hhost hsilent _ =>
      have hsketch : next.host.sketch = session.host.sketch := by rw [hhost]; rfl
      refine Host.Phased.of_sketch_eq ?_ hsketch
      by_cases hstate : session.host.state = .uninitialized
      · rw [hsilent hstate]
        simpa using h
      · exact hmore hstate
  | works hstate hsketch _ =>
      exact (hmore (by simp [hstate])).of_sketch_eq hsketch
  | keeps call hcall hstate hnext =>
      subst hnext
      have hpending := h.pending
      rw [if_pos hstate] at hpending
      refine { h with pending := ?_ }
      simp [setHost, hstate, hcall, hpending]
  | fails hsilent hstate _ hhost _ =>
      rw [hsilent, hhost]
      refine { h with load := ?_, pending := ?_, failed := ?_ }
      · simp
      · simpa using h.pending
      · simp [hstate]
  | readies hsilent hstate hload hsketch _ =>
      -- A host that failed before waits for no load.
      have hfailed : session.host.loadFailed = false := by
        rw [Bool.eq_false_iff]
        intro hfailed
        simp [(h.failed hfailed).2] at hload
      simp only [Host.sketch, Host.Sketch.mk.injEq] at hsketch
      obtain ⟨-, hphase, hload', hfailed', hrenderer, hgraph, hpending, hobserving⟩ := hsketch
      constructor
      · simp [hgraph, hphase]
      · simp [hrenderer, hphase]
      · simp [hobserving, hphase]
      · simp [hload']
      · simp [hpending, hphase]
      · simp [hfailed', hfailed]
  | ends hstate _ hnext =>
      subst hnext
      have hdisposed : session.dispose.state.host = disposedHost session.host := by
        simp [Session.dispose, hstate]
      rw [hdisposed]
      constructor <;> simp [disposedHost, SizeTracker.detach]

/-- A host ends when it is disposed of, and not by anything else. -/
theorem dispose_of_disposed (h : Turn session event next) (hgone : next.host.state = .disposed) :
    event = .dispose ∨ session.host.state = .disposed := by
  cases h with
  | idles _ hhost _ _ =>
      rw [hhost] at hgone
      exact Or.inr hgone
  | works _ hsketch _ => exact Or.inr ((congrArg Host.Sketch.state hsketch).symm.trans hgone)
  | keeps _ _ _ hnext =>
      rw [hnext] at hgone
      exact Or.inr hgone
  | fails _ _ _ hhost _ =>
      rw [hhost] at hgone
      exact Or.inr hgone
  | readies _ _ _ hsketch _ =>
      have hready : next.host.state = .ready := congrArg Host.Sketch.state hsketch
      simp [hready] at hgone
  | ends _ hevent _ => exact Or.inl hevent

/-- A host without a load does not ask the loader. -/
theorem provider_eq (h : Turn session event next) (hown : event.isOwn = true)
    (hload : session.host.load = none) : next.platform.provider = session.platform.provider := by
  cases h with
  | idles _ _ _ hspares =>
      obtain ⟨provider, hplatform, hsame⟩ := hspares hown
      rw [hplatform]
      exact hsame hload
  | works _ _ hplatform => rw [hplatform]
  | keeps _ _ _ hnext => rw [hnext]; rfl
  | fails _ _ hsome _ _ => simp [hload] at hsome
  | readies _ _ hsome _ _ => simp [hload] at hsome
  | ends hstate _ hnext =>
      rw [hnext]
      simp [Session.dispose, hstate, Platform.retire, Platform.modifySurface]

/-- A surface is told when a host starts or stops to follow it, and is left alone otherwise. -/
theorem observed_eq (h : Turn session event next) (hphased : session.host.Phased calls)
    (hown : event.isOwn = true)
    (hsurface : session.host.surface < session.platform.surfaces.length) :
    next.surface.observed =
      if next.host.resize.observing = session.host.resize.observing then session.surface.observed
      else next.host.resize.observing := by
  have hsame : next.host.surface = session.host.surface →
      next.host.resize.observing = session.host.resize.observing →
      next.platform.surfaces = session.platform.surfaces →
      next.surface.observed =
        if next.host.resize.observing = session.host.resize.observing then session.surface.observed
        else next.host.resize.observing := by
    intro hindex hobserving hsurfaces
    rw [if_pos hobserving, Session.surface, Session.surface, Platform.surface, Platform.surface,
      hindex, hsurfaces]
  cases h with
  | idles _ hhost _ hspares =>
      obtain ⟨provider, hplatform, -⟩ := hspares hown
      exact hsame (by rw [hhost]) (by rw [hhost]) (by rw [hplatform])
  | works _ hsketch hplatform =>
      exact hsame (congrArg Host.Sketch.surface hsketch) (congrArg Host.Sketch.observing hsketch)
        (by rw [hplatform])
  | keeps _ _ _ hnext =>
      subst hnext
      exact hsame rfl rfl rfl
  | fails _ _ _ hhost hspares =>
      obtain ⟨provider, hplatform, -⟩ := hspares
      exact hsame (by rw [hhost]) (by rw [hhost]) (by rw [hplatform])
  | readies _ hstate _ hsketch hsurfaces =>
      have hbefore : session.host.resize.observing = false := by
        simpa [hstate] using hphased.observing
      have hindex : next.host.surface = session.host.surface :=
        congrArg Host.Sketch.surface hsketch
      have hafter : next.host.resize.observing = true := congrArg Host.Sketch.observing hsketch
      rw [hbefore, hafter, if_neg (by simp), Session.surface, Platform.surface, hindex, hsurfaces]
      simp [List.getElem?_eq_getElem hsurface]
  | ends hstate _ hnext =>
      subst hnext
      have hentry := List.getElem?_eq_getElem hsurface
      simp only [Session.dispose, hstate, if_false, disposedHost, SizeTracker.detach,
        Session.surface, Platform.surface, Platform.retire, Platform.modifySurface,
        List.getElem?_modify, if_true, hentry, SizeTracker.unobserve]
      cases session.host.resize.observing <;> rfl

end Turn

section

variable [Site π]

theorem phased_undergoAll (h : session.host.Phased calls) (events : List (Event π)) :
    (session.undergoAll events).Ensures fun last =>
      last.host.Phased (calls ++ events.filterMap Event.call?) ∧ session.Later last := by
  induction events generalizing session calls with
  | nil =>
      refine .always ⟨?_, .refl session⟩
      rw [List.filterMap_nil, List.append_nil]
      exact h
  | cons event rest ih =>
      refine (turn_undergo h event).andThen fun next _ hturn => ?_
      refine (ih (hturn.phased h)).mono ?_
      rintro last ⟨hphased, hlater⟩
      refine ⟨?_, hturn.later.trans hlater⟩
      cases hcall : event.call? <;> simpa [hcall] using hphased

theorem phased_create (platform : Platform π) (index : Platform.SurfaceIndex) (autostart : Bool) :
    (create platform index autostart).Ensures fun session => session.host.Phased [] := by
  unfold create
  refine .andThen (P := fun session => session.host.Phased [] ∧
    session.host.state = .uninitialized ∧ session.host.loadFailed = false) (.always ?_) ?_
  · refine ⟨?_, rfl, rfl⟩
    constructor <;> simp [Outcome.after, Outcome.within]
  · rintro session ticket ⟨h, hstate, hfailed⟩
    have hasked : (session.setHost { session.host with load := some ticket }).host.Phased [] :=
      { h with
        load := fun _ => hstate
        failed := fun hset => by simp [setHost, hfailed] at hset }
    exact (turn_undergo hasked .poll).mono fun next hturn => hturn.phased hasked

theorem phased_life (platform : Platform π) (index : Platform.SurfaceIndex) (autostart : Bool)
    (events : List (Event π)) :
    (life platform index autostart events).Ensures fun session =>
      session.host.Phased (events.filterMap Event.call?) :=
  (phased_create platform index autostart).andThen fun _ _ h =>
    (phased_undergoAll h events).mono fun _ hlast => hlast.1

/-- Two moments of one life. -/
theorem later_life {platform : Platform π} {index : Platform.SurfaceIndex} {autostart : Bool}
    {earlier later : List (Event π)}
    (hfaultless : (life platform index autostart (earlier ++ later)).result = .ok ()) :
    (life platform index autostart earlier).state.Later
      (life platform index autostart (earlier ++ later)).state := by
  rw [life_append] at hfaultless ⊢
  obtain ⟨_, hearlier, hrest, hstate⟩ := Outcome.ok_of_andThen hfaultless
  have hphased := phased_life platform index autostart earlier () hearlier
  rw [hstate]
  exact (phased_undergoAll hphased later () hrest).2

/-- A host that is gone refuses what it is sent and draws nothing. -/
theorem refuses_of_disposed (hstate : session.host.state = .disposed) :
    (∀ root, session.reset root = .done session .rejected) ∧
      (∀ ops, session.patch ops = .done session .rejected) ∧
      session.step = .done session .stopped := by
  refine ⟨fun root => ?_, fun ops => ?_, ?_⟩
  · simp only [Session.reset, onHost, Host.reset, hstate]
    rfl
  · simp only [Session.patch, onHost, Host.patch, hstate]
    rfl
  · simp only [Session.step, hstate]

/-- The phases of a host, whatever happens to it and around it. After any events without a fault it
has what belongs to its phase, with all calls kept if it still waits, and it got from phase to phase
in one direction. If it failed it does not ask the loader again, whatever it is called for. Disposing
of it always works, leaves nothing of it and lets its surface go; nothing else that it is called for
ends it, and disposing of it twice is disposing of it once. If it is gone it refuses everything.
Waiting for the library is the same as looking for it. Its surface is told when the host starts or
stops to follow it, and never else. -/
theorem host_lifecycle (platform : Platform π) (index : Platform.SurfaceIndex) (autostart : Bool)
    (events : List (Event π))
    (hfaultless : (life platform index autostart events).result = .ok ()) :
    let session := (life platform index autostart events).state
    session.host.Phased (events.filterMap Event.call?) ∧
      (∀ earlier later, events = earlier ++ later →
        (life platform index autostart earlier).state.Later session) ∧
      (∀ event : Event π, event.isOwn = true → (session.undergo event).result = .ok () →
        let next := (session.undergo event).state
        (session.host.loadFailed = true →
          next.platform.provider = session.platform.provider) ∧
        (next.host.state = .disposed → event = .dispose ∨ session.host.state = .disposed) ∧
        (session.host.surface < session.platform.surfaces.length →
          next.surface.observed =
            if next.host.resize.observing = session.host.resize.observing then
              session.surface.observed
            else next.host.resize.observing)) ∧
      (session.dispose.result = .ok () ∧
        session.dispose.state.host.IsGone ∧
        (session.dispose.state.surface.observed =
          if session.host.state = .ready then false else session.surface.observed) ∧
        session.dispose.state.dispose = .done session.dispose.state ()) ∧
      (session.host.state = .disposed →
        (∀ root, session.reset root = .done session .rejected) ∧
        (∀ ops, session.patch ops = .done session .rejected) ∧
        session.step = .done session .stopped) ∧
      session.awaitLoad.map (fun _ => ()) = session.undergo .poll := by
  intro session
  have hphased : session.host.Phased (events.filterMap Event.call?) :=
    phased_life platform index autostart events () hfaultless
  refine ⟨hphased, ?_, ?_, ⟨session.result_dispose, isGone_dispose hphased,
    observed_dispose hphased, dispose_dispose hphased⟩, refuses_of_disposed,
    session.awaitLoad_eq_poll⟩
  · rintro earlier later rfl
    exact later_life hfaultless
  · intro event hown hresult
    have hturn := turn_undergo hphased event () hresult
    exact ⟨fun hfailed => hturn.provider_eq hown (hphased.failed hfailed).2,
      hturn.dispose_of_disposed, hturn.observed_eq hphased hown⟩

end

/-- A host that is ready and follows its surface, is disposed of, and is then sent a tree: nothing is
left of it, its surface is free, and the tree is refused. -/
theorem host_lifecycle_disposed :
    let platform : Platform Page :=
      { provider := ⟨{ isGlobal := true }, { config := {} }⟩
        surfaces := [{ id := 1, size := ⟨640, 480⟩ }] }
    let root : Descriptor := .node ⟨1⟩ .scene [] []
    let session := (life platform 0 true [.reset root, .step]).state
    let gone := (life platform 0 true [.reset root, .step, .dispose]).state
    session.host.state = .ready ∧ session.host.graph.isSome = true ∧
      session.surface.observed = true ∧ gone = session.dispose.state ∧ gone.host.IsGone ∧
      gone.surface.observed = false ∧ gone.reset root = .done gone .rejected := by
  intro platform root session gone
  have hfaultless : (life platform 0 true [.reset root, .step]).result = .ok () := by decide +kernel
  have hready : session.host.state = .ready := by decide +kernel
  have hobserved : session.surface.observed = true := by decide +kernel
  have hend : (life platform 0 true [.reset root, .step, .dispose]).result = .ok () := by
    decide +kernel
  have hgone : gone = session.dispose.state := by
    have hparts := life_append platform 0 true [.reset root, .step] [.dispose]
    obtain ⟨_, _, _, hstate⟩ := Outcome.ok_of_andThen (hparts ▸ hend)
    refine (congrArg Outcome.state hparts).trans (hstate.trans ?_)
    simp [undergoAll, undergo, Outcome.andThen, result_dispose, Outcome.after, Outcome.done, session]
  obtain ⟨hphased, -, -, ⟨-, hnothing, hsurface, -⟩, -, -⟩ :=
    host_lifecycle platform 0 true [.reset root, .step] hfaultless
  obtain ⟨-, -, -, -, hrefuses, -⟩ :=
    host_lifecycle platform 0 true [.reset root, .step, .dispose] hend
  rw [if_pos hready] at hsurface
  have hdisposed : gone.host.state = .disposed := hgone ▸ hnothing.state
  exact ⟨hready, hphased.graph.mpr hready, hobserved, hgone, hgone ▸ hnothing, hgone ▸ hsurface,
    (hrefuses hdisposed).1 root⟩

end Session

end LiveScene
