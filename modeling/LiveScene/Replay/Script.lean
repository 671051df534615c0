import LiveScene.View.Renderer
import LiveScene.View.Resize
import LiveScene.Json.Reader
import LiveScene.Wire.Decode

/-! # Scripts

What is sent to one surface: trees, batches of operations, changes of size and frames. A script
comes as JSON text.
-/

namespace LiveScene

inductive ScriptStep where
  | reset (root : Descriptor)
  | patch (ops : List Op)
  | resize (size : Size)
  | frames (count : UInt32)

structure Script where
  surfaceId : SurfaceId
  size : Size
  steps : List ScriptStep

namespace Script

open Wire Wire.RecordReader

def size? : Json → Option Size :=
  RecordReader.ofJson? do
    let width ← required "width" Json.toUInt32?
    let height ← required "height" Json.toUInt32?
    return ⟨width, height⟩

/-- A step is an object with one field, which says what kind of step it is. -/
def step? : Json → Option ScriptStep
  | .obj [("reset", payload)] => (tree? payload).map .reset
  | .obj [("patch", payload)] => (ops? payload).map .patch
  | .obj [("resize", payload)] => (size? payload).map .resize
  | .obj [("frames", payload)] => payload.toUInt32?.map .frames
  | _ => none

def surface? : Json → Option (SurfaceId × Size) :=
  RecordReader.ofJson? do
    let id ← required "id" Json.toUInt64?
    let width ← required "width" Json.toUInt32?
    let height ← required "height" Json.toUInt32?
    return (id, ⟨width, height⟩)

def ofJson? : Json → Option Script :=
  RecordReader.ofJson? do
    let (surfaceId, size) ← required "surface" surface?
    let steps ← required "steps" (listOf? step?)
    return { surfaceId, size, steps }

def ofText? (text : String) : Option Script :=
  Json.readAs? ofJson? text

end Script

end LiveScene
