import LiveScene.Loading.Loader
import LiveScene.View.Resize

/-! # What hosts share

Surfaces, the loader of the rendering library, and the library's renderers. A renderer belongs to
the host that asked for it and comes back when it is disposed of.
-/

namespace LiveScene

structure Platform (π : Type) where
  provider : Provider π
  surfaces : List Surface := []
  pixelRatio : Float32 := 1
  /-- Whether the library refuses to make renderers. -/
  refusesRenderers : Bool := false
  rendererCount : Nat := 0
  /-- Renderers that were disposed of. -/
  retired : List Renderer := []

namespace Platform

variable {π : Type}

/-- A place in the list of surfaces. -/
abbrev SurfaceIndex := Nat

def surface (platform : Platform π) (index : SurfaceIndex) : Surface :=
  platform.surfaces[index]?.getD { id := 0, graphics := false }

def modifySurface (platform : Platform π) (index : SurfaceIndex) (f : Surface → Surface) :
    Platform π :=
  { platform with surfaces := platform.surfaces.modify index f }

def layOut (platform : Platform π) (index : SurfaceIndex) (size : Size) : Platform π :=
  platform.modifySurface index fun surface => { surface with size }

/-- A renderer of the size of a surface. -/
def makeRenderer (platform : Platform π) (surface : Surface) :
    Except RenderError (Renderer × Platform π) :=
  if platform.refusesRenderers then .error (.surfaceUnavailable surface.id.label)
  else
    .ok ({ serial := platform.rendererCount
           pixelRatio := platform.pixelRatio
           initialSize := surface.size },
      { platform with rendererCount := platform.rendererCount + 1 })

/-- Takes back a renderer. -/
def retire (platform : Platform π) (renderer : Option Renderer) : Platform π :=
  { platform with retired := platform.retired ++ renderer.toList }

end Platform

end LiveScene
