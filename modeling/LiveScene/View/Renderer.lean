import LiveScene.View.Frame

/-! # Renderers

A renderer without a screen: it writes down what it is asked to do, and keeps count of it.
-/

namespace LiveScene

structure Size where
  width : UInt32
  height : UInt32
deriving DecidableEq, Repr

namespace Size

/-- A surface that is hidden or not laid out yet has a zero side. -/
def isEmpty (size : Size) : Bool :=
  size.width == 0 || size.height == 0

/-- Width over height. -/
def aspect (size : Size) : Float32 :=
  size.width.toFloat32 / size.height.toFloat32

def text (size : Size) : String :=
  toString size.width.toNat ++ "x" ++ toString size.height.toNat

end Size

inductive RenderError where
  | surfaceUnavailable (surface : String)
  | disposed
deriving DecidableEq

def RenderError.message : RenderError → String
  | .surfaceUnavailable surface => "Surface unavailable: " ++ surface
  | .disposed => "Renderer disposed"

/-- What a renderer can be asked to do. -/
inductive RendererCall where
  | setSize (size : Size)
  | render (frame : Frame)
  | release (handle : Handle)
  | dispose

/-- What a renderer has done so far. -/
structure RendererStats where
  frames : Nat := 0
  lastCamera : Option NodeId := none
  lastDrawItems : Nat := 0
  lastLights : Nat := 0
  size : Size
  resizes : Nat := 0
  released : Array Handle := #[]
  disposed : Bool := false

namespace RendererStats

/-- A renderer that is disposed of draws nothing any more. -/
def record (stats : RendererStats) : RendererCall → RendererStats
  | .setSize size => { stats with size, resizes := stats.resizes + 1 }
  | .render frame =>
    if stats.disposed then stats
    else
      { stats with
        frames := stats.frames + 1
        lastCamera := some frame.camera
        lastDrawItems := frame.draw.length
        lastLights := frame.lights.length }
  | .release handle => { stats with released := stats.released.push handle }
  | .dispose => { stats with disposed := true }

end RendererStats

structure Renderer where
  /-- Counts the renderers made by the library. -/
  serial : Nat := 0
  pixelRatio : Float32
  initialSize : Size
  calls : Array RendererCall := #[]
  stats : RendererStats := { size := initialSize }

namespace Renderer

def call (renderer : Renderer) (call : RendererCall) : Renderer :=
  { renderer with calls := renderer.calls.push call, stats := renderer.stats.record call }

def size (renderer : Renderer) : Size := renderer.stats.size

def isDisposed (renderer : Renderer) : Bool := renderer.stats.disposed

/-- Draws a frame, unless the renderer is disposed of. -/
def render (renderer : Renderer) (frame : Frame) : Renderer × Except RenderError Unit :=
  (renderer.call (.render frame), if renderer.isDisposed then .error .disposed else .ok ())

end Renderer

end LiveScene
