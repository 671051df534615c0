import LiveScene.Space.Matrix

/-! # Rotations

Rotations are quaternions `(i, j, k, w)`. They come from Euler angles and from directions to face;
neither way normalizes afterwards.
-/

namespace LiveScene

structure Quaternion where
  i : Float32
  j : Float32
  k : Float32
  w : Float32
deriving DecidableEq

namespace Quaternion

def identity : Quaternion := ⟨0, 0, 0, 1⟩

/-- Componentwise comparison of numbers. -/
def sameParts (a b : Quaternion) : Bool := a.i == b.i && a.j == b.j && a.k == b.k && a.w == b.w

def neg (q : Quaternion) : Quaternion := ⟨-q.i, -q.j, -q.k, -q.w⟩

/-- A quaternion and its opposite are the same rotation. -/
instance : BEq Quaternion := ⟨fun a b => a.sameParts b || a.sameParts b.neg⟩

def mul (a b : Quaternion) : Quaternion where
  i := a.w * b.i + a.i * b.w + a.j * b.k - a.k * b.j
  j := a.w * b.j - a.i * b.k + a.j * b.w + a.k * b.i
  k := a.w * b.k + a.i * b.j - a.j * b.i + a.k * b.w
  w := a.w * b.w - a.i * b.i - a.j * b.j - a.k * b.k

/-- The rotation about an axis of length one by an angle in radians. -/
def ofAxisAngle (axis : Vec3) (angle : Float32) : Quaternion :=
  let half := angle / 2
  let s := half.sin
  ⟨axis.x * s, axis.y * s, axis.z * s, half.cos⟩

/-- The rotation with the given angles about x, y and z, in radians and in that order. -/
def ofEuler (angles : Vec3) : Quaternion :=
  ((ofAxisAngle Vec3.unitX angles.x).mul (ofAxisAngle Vec3.unitY angles.y)).mul
    (ofAxisAngle Vec3.unitZ angles.z)

def toMatrix (q : Quaternion) : Mat4 :=
  let ww := q.w * q.w
  let ii := q.i * q.i
  let jj := q.j * q.j
  let kk := q.k * q.k
  let ij := q.i * q.j * 2
  let wk := q.w * q.k * 2
  let wj := q.w * q.j * 2
  let ik := q.i * q.k * 2
  let jk := q.j * q.k * 2
  let wi := q.w * q.i * 2
  ⟨ww + ii - jj - kk, ij - wk, wj + ik, 0,
   wk + ij, ww - ii + jj - kk, jk - wi, 0,
   ik - wj, wi + jk, ww - ii - jj + kk, 0,
   0, 0, 0, 1⟩

/-- The rotation whose matrix has the columns `a`, `b` and `c`. The largest of the trace and the
diagonal entries decides which component is found from a square root. -/
def ofColumns (a b c : Vec3) : Quaternion :=
  let trace := a.x + b.y + c.z
  if trace > 0 then
    let d := (trace + 1).sqrt * 2
    ⟨(b.z - c.y) / d, (c.x - a.z) / d, (a.y - b.x) / d, 0.25 * d⟩
  else if a.x > b.y && a.x > c.z then
    let d := (1 + a.x - b.y - c.z).sqrt * 2
    ⟨0.25 * d, (b.x + a.y) / d, (c.x + a.z) / d, (b.z - c.y) / d⟩
  else if b.y > c.z then
    let d := (1 + b.y - a.x - c.z).sqrt * 2
    ⟨(b.x + a.y) / d, 0.25 * d, (c.y + b.z) / d, (c.x - a.z) / d⟩
  else
    let d := (1 + c.z - a.x - b.y).sqrt * 2
    ⟨(c.x + a.z) / d, (c.y + b.z) / d, 0.25 * d, (a.y - b.x) / d⟩

/-- Directions no longer than this are taken for zero. -/
def leastDirection : Float32 := 1e-6

/-- The rotation that turns +Z along a direction with +Y up, or +Z up when the direction is
parallel to +Y; none for a direction too short to face. -/
def facing? (direction : Vec3) : Option Quaternion :=
  if direction.norm ≤ leastDirection then none
  else
    let up := if (Vec3.unitY.cross direction).norm ≤ leastDirection then Vec3.unitZ
      else Vec3.unitY
    let z := direction.normalize
    let x := (up.cross z).normalize
    let y := z.cross x
    some (ofColumns x y z)

end Quaternion

end LiveScene
