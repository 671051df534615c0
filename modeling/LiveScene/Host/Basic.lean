import LiveScene.Edit.Batch
import LiveScene.Host.Pending
import LiveScene.Host.Platform
import LiveScene.View.RenderLoop

/-! # Hosts

A host shows a scene on a surface. Until the rendering library is there it keeps what it is sent;
once it is ready it applies what it kept and from then on everything at once; after it is disposed
of it refuses everything. A host whose library or renderer could not be had keeps on keeping.
-/

namespace LiveScene

inductive HostPhase where
  | uninitialized
  | ready
  | disposed
deriving DecidableEq, Repr

/-- What became of a tree or of operations sent to a host. -/
inductive Delivery where
  | applied (report : Report)
  | buffered
  | rejected
deriving DecidableEq, Repr

structure Host where
  surface : Platform.SurfaceIndex
  surfaceId : SurfaceId
  autostart : Bool
  state : HostPhase := .uninitialized
  /-- The load the host waits for. -/
  load : Option Ticket := none
  /-- Whether the library or a renderer could not be had. -/
  loadFailed : Bool := false
  renderer : Option Renderer := none
  graph : Option Graph := none
  pending : Pending := {}
  loop : RenderLoop := {}
  resize : SizeTracker := {}

namespace Host

/-- The text `surface-1` that messages name the host by. -/
def label (host : Host) : String := host.surfaceId.label

/-- The canvas of a host that is ready. -/
def canvas? (host : Host) : Option Canvas := do
  let renderer ← host.renderer
  let graph ← host.graph
  return ⟨host.resize, renderer, graph⟩

def setCanvas (host : Host) (canvas : Canvas) : Host :=
  { host with
    resize := canvas.tracker
    renderer := some canvas.renderer
    graph := some canvas.graph }

def setGraph (host : Host) (graph : Graph) : Host :=
  { host with graph := some graph }

/-- Hands the handles that the graph gave up to the renderer. -/
def releaseHandles (host : Host) : Host :=
  match host.renderer, host.graph with
  | some renderer, some graph =>
    { host with
      renderer := some (graph.released.foldl (fun r handle => r.call (.release handle)) renderer)
      graph := some graph.forgetReleased }
  | _, _ => host

/-- Applies operations to the graph. -/
def applyToGraph (host : Host) (ops : List Op) : Outcome Host Report :=
  match host.graph with
  | none => .done host {}
  | some graph =>
    ((graph.applyAll ops).within host.setGraph).andThen fun host report =>
      .done host.releaseHandles report

/-- Follows the size of the surface. -/
def resizeTo (host : Host) (surface : Surface) : Outcome Host ResizeResult :=
  match host.canvas? with
  | none => .done host .skipped
  | some canvas => (canvas.resize surface).within host.setCanvas

/-- Replaces the scene by a tree. Its camera gets its aspect from the surface. -/
def showTree (host : Host) (surface : Surface) (root : Descriptor) : Outcome Host Report :=
  match host.graph with
  | none => .done host {}
  | some graph =>
    (((graph.clear.buildTree root).after graph.clearLog).within host.setGraph).andThen
      fun host report => (host.releaseHandles.resizeTo surface).map fun _ => report

/-- Applies what was kept, once. -/
def flush (host : Host) (surface : Surface) : Outcome Host Unit :=
  let pending := host.pending
  let host := { host with pending := {} }
  if pending.isEmpty then .done host ()
  else
    let first := match pending.root with
      | some root => host.showTree surface root
      | none => .done host {}
    ((first.andThen fun host report =>
      (host.applyToGraph pending.ops).map report.add).note fun _ report =>
        Log.debug ("Flushed buffered work for " ++ host.label ++ ": " ++
          toString report.applied ++ " applied, " ++ toString report.ignored ++ " ignored")).map
      fun _ => ()

/-- A host that cannot show anything says so once. -/
def fail (host : Host) (reason : String) : Host × Log :=
  ({ host with loadFailed := true },
    if host.loadFailed then #[]
    else
      Log.warn ("Scene host for " ++ host.label ++ " cannot render and will keep buffering: " ++
        reason))

/-- Sends a tree. -/
def reset (host : Host) (surface : Surface) (root : Descriptor) : Outcome Host Delivery :=
  match host.state with
  | .uninitialized =>
    ⟨{ host with pending := host.pending.reset root }, .ok .buffered, host.pending.resetLog⟩
  | .ready => (host.showTree surface root).map .applied
  | .disposed => .done host .rejected

/-- Sends operations. -/
def patch (host : Host) (ops : List Op) : Outcome Host Delivery :=
  match host.state with
  | .uninitialized => .done { host with pending := host.pending.queue ops } .buffered
  | .ready => (host.applyToGraph ops).map .applied
  | .disposed => .done host .rejected

/-- Draws a frame. -/
def drawFrame (host : Host) : Outcome Host FrameResult :=
  (host.loop.step host.renderer host.graph).within fun (loop, renderer) =>
    { host with loop, renderer }

end Host

end LiveScene
