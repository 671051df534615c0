import LiveScene.Number.Decimal
import LiveScene.Outcome
import LiveScene.Space.Matrix

/-! # Cameras

A camera keeps the matrix of its projection. Changing a parameter does not touch the matrix;
`refresh` forms it anew, and leaves it as it is when the parameters are degenerate. Parameters can
also be too close for a projection to be formed at all, which is a fault.
-/

namespace LiveScene

inductive Projection where
  | perspective (fov aspect : Float32)
  | orthographic (left right top bottom : Float32)
deriving DecidableEq

namespace Projection

/-- Comparison of parameters as numbers. -/
instance : BEq Projection where
  beq
    | .perspective f a, .perspective f' a' => f == f' && a == a'
    | .orthographic l r t b, .orthographic l' r' t' b' => l == l' && r == r' && t == t' && b == b'
    | _, _ => false

/-- Whether two numbers are equal up to the precision of singles. -/
def nearlyEqual (a b : Float32) : Bool :=
  a == b ||
    (!a.isInf && !b.isInf &&
      let distance := (a - b).abs
      let size := if b.abs > a.abs then b.abs else a.abs
      (distance ≤ machineEpsilon || distance ≤ size * machineEpsilon))

/-- The matrix of a perspective projection with a vertical field of view in radians. -/
def perspectiveMatrix (aspect fov near far : Float32) : Except Fault Mat4 :=
  if nearlyEqual far near then .error .nearEqualsFar
  else if nearlyEqual aspect 0 then .error .zeroAspect
  else
    let m11 := 1 / (fov / 2).tan
    .ok
      ⟨m11 / aspect, 0, 0, 0,
       0, m11, 0, 0,
       0, 0, (far + near) / (near - far), far * near * 2 / (near - far),
       0, 0, -1, 0⟩

/-- The matrix of an orthographic projection. -/
def orthographicMatrix (left right bottom top near far : Float32) : Except Fault Mat4 :=
  if left == right then .error .leftEqualsRight
  else if bottom == top then .error .bottomEqualsTop
  else if far == near then .error .nearEqualsFar
  else
    .ok
      ⟨2 / (right - left), 0, 0, -(right + left) / (right - left),
       0, 2 / (top - bottom), 0, -(top + bottom) / (top - bottom),
       0, 0, -2 / (far - near), -(far + near) / (far - near),
       0, 0, 0, 1⟩

/-- The matrix of a projection between two clipping planes. -/
def matrix (projection : Projection) (near far : Float32) : Except Fault Mat4 :=
  match projection with
  | .perspective fov aspect => perspectiveMatrix aspect (degreesToRadians fov) near far
  | .orthographic left right top bottom => orthographicMatrix left right bottom top near far

end Projection

structure Camera where
  projection : Projection
  near : Float32
  far : Float32
  /-- The projection matrix as last formed. -/
  matrix : Mat4 := Mat4.identity
deriving DecidableEq

namespace Camera

/-- Comparison of parameters and matrix as numbers. -/
instance : BEq Camera :=
  ⟨fun a b => a.projection == b.projection && a.near == b.near && a.far == b.far &&
    a.matrix == b.matrix⟩

/-- Parameters closer than this are degenerate. -/
def leastExtent : Float32 := 1e-6

/-- Why the matrix is left as it is. -/
inductive Degeneracy where
  | flatDepth (near : Float32)
  | badAspect (aspect : Float32)
  | emptyVolume

def Degeneracy.message : Degeneracy → String
  | .flatDepth near =>
    "Ignoring projection update with near == far (" ++ Number.shortText near ++ ")"
  | .badAspect aspect => "Ignoring projection update with aspect " ++ Number.shortText aspect
  | .emptyVolume => "Ignoring projection update with an empty orthographic volume"

def degeneracy? (camera : Camera) : Option Degeneracy :=
  if (camera.far - camera.near).abs ≤ leastExtent then some (.flatDepth camera.near)
  else
    match camera.projection with
    | .perspective _ aspect =>
      if aspect.abs ≤ leastExtent || !aspect.isFinite then some (.badAspect aspect) else none
    | .orthographic left right top bottom =>
      if (right - left).abs ≤ leastExtent || (top - bottom).abs ≤ leastExtent then
        some .emptyVolume
      else none

/-- Forms the matrix anew from the current parameters. -/
def refresh (camera : Camera) : Outcome Camera Unit :=
  match camera.degeneracy? with
  | some degeneracy => ⟨camera, .ok (), Log.debug degeneracy.message⟩
  | none =>
    match camera.projection.matrix camera.near camera.far with
    | .ok matrix => .done { camera with matrix } ()
    | .error fault => ⟨camera, .error fault, #[]⟩

def defaultNear : Float32 := 0.1

def defaultFar : Float32 := 2000

/-- A new camera, with its matrix. -/
def make (projection : Projection) (near far : Float32) : Outcome Camera Unit :=
  refresh { projection, near, far }

def defaultPerspective : Camera :=
  (make (.perspective 50 1) defaultNear defaultFar).state

def defaultOrthographic : Camera :=
  (make (.orthographic (-1) 1 1 (-1)) defaultNear defaultFar).state

def isPerspective (camera : Camera) : Bool :=
  match camera.projection with
  | .perspective .. => true
  | .orthographic .. => false

/-- The field of view in degrees; orthographic cameras have none. -/
def fov? (camera : Camera) : Option Float32 :=
  match camera.projection with
  | .perspective fov _ => some fov
  | .orthographic .. => none

/-- Width over height; orthographic cameras have none. -/
def aspect? (camera : Camera) : Option Float32 :=
  match camera.projection with
  | .perspective _ aspect => some aspect
  | .orthographic .. => none

/-- Only a perspective camera has a field of view to set. -/
def setFov? (camera : Camera) (fov : Float32) : Option Camera :=
  match camera.projection with
  | .perspective _ aspect => some { camera with projection := .perspective fov aspect }
  | .orthographic .. => none

/-- Sets width over height and says whether the camera has one. A change that can be seen is
logged. -/
def setAspect (camera : Camera) (aspect : Float32) : Outcome Camera Bool :=
  match camera.projection with
  | .perspective fov old =>
    let log := if (old - aspect).abs > 0.01 then
        Log.debug ("Camera aspect ratio changed: " ++ Number.fixedText old ++ " -> " ++
          Number.fixedText aspect)
      else #[]
    ⟨{ camera with projection := .perspective fov aspect }, .ok true, log⟩
  | .orthographic .. => .done camera false

/-- Gives the camera an aspect, and forms its matrix anew if it has one to give. -/
def fit (camera : Camera) (aspect : Float32) : Outcome Camera Unit :=
  (camera.setAspect aspect).andThen fun camera changed =>
    if changed then camera.refresh else .done camera ()

end Camera

end LiveScene
