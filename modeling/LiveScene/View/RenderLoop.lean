import LiveScene.View.Renderer

/-! # The render loop

The loop does not schedule anything itself: whoever drives it calls `step` once a frame for as long
as the outcome asks for another.
-/

namespace LiveScene

inductive FrameResult where
  | rendered
  | idle
  | stopped
deriving DecidableEq, Repr

/-- Whether another frame should follow. -/
def FrameResult.schedulesNext : FrameResult → Bool
  | .stopped => false
  | _ => true

structure RenderLoop where
  running : Bool := false
  rendered : Nat := 0
  failed : Nat := 0
deriving DecidableEq, Repr

namespace RenderLoop

/-- Starts the loop. -/
def start (loop : RenderLoop) : RenderLoop :=
  { loop with running := true }

/-- What is logged on a start; a running loop is not started again. -/
def startLog (loop : RenderLoop) : Log :=
  if loop.running then #[] else Log.debug "Render loop started"

/-- Stops the loop before its next frame. -/
def stop (loop : RenderLoop) : RenderLoop :=
  { loop with running := false }

def stopLog (loop : RenderLoop) : Log :=
  if loop.running then Log.debug "Render loop stop requested" else #[]

/-- Draws a frame when there is a renderer, a graph and a selected camera. An error while drawing
is counted and logged, and the loop goes on. -/
def step (loop : RenderLoop) (renderer : Option Renderer) (graph : Option Graph) :
    Outcome (RenderLoop × Option Renderer) FrameResult :=
  if !loop.running then .done (loop, renderer) .stopped
  else
    match renderer, graph with
    | some renderer, some graph =>
      match graph.frame? with
      | none => .done (loop, some renderer) .idle
      | some frame =>
        match renderer.render frame with
        | (renderer, .ok ()) =>
          ⟨({ loop with rendered := loop.rendered + 1 }, some renderer), .ok .rendered,
            graph.walkLog⟩
        | (renderer, .error error) =>
          ⟨({ loop with failed := loop.failed + 1 }, some renderer), .ok .idle,
            Log.warn ("Frame render failed: " ++ error.message)⟩
    | renderer, _ => .done (loop, renderer) .idle

end RenderLoop

end LiveScene
