import LiveScene.View.Renderer

/-! # Following the size of a surface

While it observes a surface, the tracker gives the surface's size to the renderer and its aspect to
the selected camera. Orthographic cameras keep their volume.
-/

namespace LiveScene

abbrev SurfaceId := UInt64

def SurfaceId.label (id : SurfaceId) : String :=
  "surface-" ++ toString id.toNat

structure Surface where
  id : SurfaceId
  /-- Whether the surface can show a scene at all. -/
  graphics : Bool := true
  size : Size := ⟨0, 0⟩
  /-- Whether changes of the layout are reported. -/
  observed : Bool := false
deriving DecidableEq, Repr

inductive ResizeResult where
  | skipped
  | resized (size : Size)
deriving DecidableEq, Repr

structure SizeTracker where
  observing : Bool := false
  lastSize : Option Size := none
deriving DecidableEq, Repr

/-- What a change of size works on. -/
structure Canvas where
  tracker : SizeTracker
  renderer : Renderer
  graph : Graph

namespace Graph

/-- Gives the selected camera a new aspect and forms its matrix anew. -/
def fitCamera (g : Graph) (aspect : Float32) : Outcome Graph Unit :=
  match g.active with
  | none => .done g ()
  | some id =>
    match g.node? id with
    | some node =>
      match node.role with
      | .camera camera =>
        (camera.fit aspect).within fun camera =>
          g.setNode id { node with role := .camera camera }
      | _ => .done g ()
    | none => .done g ()

end Graph

namespace Canvas

/-- One pass after a change of layout. Nothing happens without observation or on a surface with a
zero side. -/
def resize (canvas : Canvas) (surface : Surface) : Outcome Canvas ResizeResult :=
  if !canvas.tracker.observing || surface.size.isEmpty then .done canvas .skipped
  else
    let tracker := { canvas.tracker with lastSize := some surface.size }
    let renderer := canvas.renderer.call (.setSize surface.size)
    (((canvas.graph.fitCamera surface.size.aspect).within fun graph =>
      (⟨tracker, renderer, graph⟩ : Canvas)).map fun _ =>
        ResizeResult.resized surface.size).note fun _ _ =>
          Log.debug (surface.id.label ++ " resized to " ++ surface.size.text)

/-- Starts observing and makes the first pass. -/
def attach (canvas : Canvas) (surface : Surface) : Outcome Canvas ResizeResult :=
  resize { canvas with tracker := { canvas.tracker with observing := true } } surface

end Canvas

namespace SizeTracker

/-- The surface after the tracker started to observe it. -/
def observe (tracker : SizeTracker) (surface : Surface) : Surface :=
  if tracker.observing then surface else { surface with observed := true }

/-- The surface after the tracker stopped observing it. -/
def unobserve (tracker : SizeTracker) (surface : Surface) : Surface :=
  if tracker.observing then { surface with observed := false } else surface

def detach (tracker : SizeTracker) : SizeTracker :=
  { tracker with observing := false }

end SizeTracker

end LiveScene
