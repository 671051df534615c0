import LiveScene.Space.Vector

/-! # Matrices

Four by four matrices over single precision, entry `mij` standing in row `i` and column `j`.
Products and inverses multiply every entry, zeros included, in a fixed order.
-/

namespace LiveScene

structure Mat4 where
  m00 : Float32
  m01 : Float32
  m02 : Float32
  m03 : Float32
  m10 : Float32
  m11 : Float32
  m12 : Float32
  m13 : Float32
  m20 : Float32
  m21 : Float32
  m22 : Float32
  m23 : Float32
  m30 : Float32
  m31 : Float32
  m32 : Float32
  m33 : Float32
deriving DecidableEq

namespace Mat4

/-- The entries, row by row. -/
def toList (m : Mat4) : List Float32 :=
  [m.m00, m.m01, m.m02, m.m03, m.m10, m.m11, m.m12, m.m13,
    m.m20, m.m21, m.m22, m.m23, m.m30, m.m31, m.m32, m.m33]

/-- Entrywise comparison of numbers. -/
instance : BEq Mat4 := ⟨fun a b => a.toList == b.toList⟩

def identity : Mat4 :=
  ⟨1, 0, 0, 0,
   0, 1, 0, 0,
   0, 0, 1, 0,
   0, 0, 0, 1⟩

def offset (v : Vec3) : Mat4 :=
  ⟨1, 0, 0, v.x,
   0, 1, 0, v.y,
   0, 0, 1, v.z,
   0, 0, 0, 1⟩

def scaling (v : Vec3) : Mat4 :=
  ⟨v.x, 0, 0, 0,
   0, v.y, 0, 0,
   0, 0, v.z, 0,
   0, 0, 0, 1⟩

/-- A sum of four products, from left to right. -/
@[inline] def dot4 (a b c d x y z w : Float32) : Float32 :=
  ((a * x + b * y) + c * z) + d * w

def mul (a b : Mat4) : Mat4 where
  m00 := dot4 a.m00 a.m01 a.m02 a.m03 b.m00 b.m10 b.m20 b.m30
  m01 := dot4 a.m00 a.m01 a.m02 a.m03 b.m01 b.m11 b.m21 b.m31
  m02 := dot4 a.m00 a.m01 a.m02 a.m03 b.m02 b.m12 b.m22 b.m32
  m03 := dot4 a.m00 a.m01 a.m02 a.m03 b.m03 b.m13 b.m23 b.m33
  m10 := dot4 a.m10 a.m11 a.m12 a.m13 b.m00 b.m10 b.m20 b.m30
  m11 := dot4 a.m10 a.m11 a.m12 a.m13 b.m01 b.m11 b.m21 b.m31
  m12 := dot4 a.m10 a.m11 a.m12 a.m13 b.m02 b.m12 b.m22 b.m32
  m13 := dot4 a.m10 a.m11 a.m12 a.m13 b.m03 b.m13 b.m23 b.m33
  m20 := dot4 a.m20 a.m21 a.m22 a.m23 b.m00 b.m10 b.m20 b.m30
  m21 := dot4 a.m20 a.m21 a.m22 a.m23 b.m01 b.m11 b.m21 b.m31
  m22 := dot4 a.m20 a.m21 a.m22 a.m23 b.m02 b.m12 b.m22 b.m32
  m23 := dot4 a.m20 a.m21 a.m22 a.m23 b.m03 b.m13 b.m23 b.m33
  m30 := dot4 a.m30 a.m31 a.m32 a.m33 b.m00 b.m10 b.m20 b.m30
  m31 := dot4 a.m30 a.m31 a.m32 a.m33 b.m01 b.m11 b.m21 b.m31
  m32 := dot4 a.m30 a.m31 a.m32 a.m33 b.m02 b.m12 b.m22 b.m32
  m33 := dot4 a.m30 a.m31 a.m32 a.m33 b.m03 b.m13 b.m23 b.m33

instance : Mul Mat4 := ⟨mul⟩

/-- The upper left three by three block applied to a vector. -/
def linear (m : Mat4) (v : Vec3) : Vec3 where
  x := (m.m00 * v.x + m.m01 * v.y) + m.m02 * v.z
  y := (m.m10 * v.x + m.m11 * v.y) + m.m12 * v.z
  z := (m.m20 * v.x + m.m21 * v.y) + m.m22 * v.z

/-- The image of a point, divided by its homogeneous coordinate unless that is zero. -/
def transformPoint (m : Mat4) (p : Vec3) : Vec3 :=
  let n := ((m.m30 * p.x + m.m31 * p.y) + m.m32 * p.z) + m.m33
  let image := m.linear p
  let moved : Vec3 := ⟨image.x + m.m03, image.y + m.m13, image.z + m.m23⟩
  if n == 0 then moved else moved.divide n

/-- The image of a direction. -/
def transformVector (m : Mat4) (v : Vec3) : Vec3 :=
  let n := (m.m30 * v.x + m.m31 * v.y) + m.m32 * v.z
  if n == 0 then m.linear v else m.linear (v.divide n)

/-- The inverse by cofactors; none when the determinant is zero. The cofactors are named by their
place in the inverse. -/
def inverse? (m : Mat4) : Option Mat4 :=
  let c00 := m.m11 * m.m22 * m.m33 - m.m11 * m.m32 * m.m23 - m.m12 * m.m21 * m.m33
    + m.m12 * m.m31 * m.m23 + m.m13 * m.m21 * m.m32 - m.m13 * m.m31 * m.m22
  let c10 := -m.m10 * m.m22 * m.m33 + m.m10 * m.m32 * m.m23 + m.m12 * m.m20 * m.m33
    - m.m12 * m.m30 * m.m23 - m.m13 * m.m20 * m.m32 + m.m13 * m.m30 * m.m22
  let c20 := m.m10 * m.m21 * m.m33 - m.m10 * m.m31 * m.m23 - m.m11 * m.m20 * m.m33
    + m.m11 * m.m30 * m.m23 + m.m13 * m.m20 * m.m31 - m.m13 * m.m30 * m.m21
  let c30 := -m.m10 * m.m21 * m.m32 + m.m10 * m.m31 * m.m22 + m.m11 * m.m20 * m.m32
    - m.m11 * m.m30 * m.m22 - m.m12 * m.m20 * m.m31 + m.m12 * m.m30 * m.m21
  let c01 := -m.m01 * m.m22 * m.m33 + m.m01 * m.m32 * m.m23 + m.m02 * m.m21 * m.m33
    - m.m02 * m.m31 * m.m23 - m.m03 * m.m21 * m.m32 + m.m03 * m.m31 * m.m22
  let c11 := m.m00 * m.m22 * m.m33 - m.m00 * m.m32 * m.m23 - m.m02 * m.m20 * m.m33
    + m.m02 * m.m30 * m.m23 + m.m03 * m.m20 * m.m32 - m.m03 * m.m30 * m.m22
  let c21 := -m.m00 * m.m21 * m.m33 + m.m00 * m.m31 * m.m23 + m.m01 * m.m20 * m.m33
    - m.m01 * m.m30 * m.m23 - m.m03 * m.m20 * m.m31 + m.m03 * m.m30 * m.m21
  let c31 := m.m00 * m.m21 * m.m32 - m.m00 * m.m31 * m.m22 - m.m01 * m.m20 * m.m32
    + m.m01 * m.m30 * m.m22 + m.m02 * m.m20 * m.m31 - m.m02 * m.m30 * m.m21
  let c02 := m.m01 * m.m12 * m.m33 - m.m01 * m.m32 * m.m13 - m.m02 * m.m11 * m.m33
    + m.m02 * m.m31 * m.m13 + m.m03 * m.m11 * m.m32 - m.m03 * m.m31 * m.m12
  let c12 := -m.m00 * m.m12 * m.m33 + m.m00 * m.m32 * m.m13 + m.m02 * m.m10 * m.m33
    - m.m02 * m.m30 * m.m13 - m.m03 * m.m10 * m.m32 + m.m03 * m.m30 * m.m12
  let c22 := m.m00 * m.m11 * m.m33 - m.m00 * m.m31 * m.m13 - m.m01 * m.m10 * m.m33
    + m.m01 * m.m30 * m.m13 + m.m03 * m.m10 * m.m31 - m.m03 * m.m30 * m.m11
  let c32 := -m.m00 * m.m11 * m.m32 + m.m00 * m.m31 * m.m12 + m.m01 * m.m10 * m.m32
    - m.m01 * m.m30 * m.m12 - m.m02 * m.m10 * m.m31 + m.m02 * m.m30 * m.m11
  let c03 := -m.m01 * m.m12 * m.m23 + m.m01 * m.m22 * m.m13 + m.m02 * m.m11 * m.m23
    - m.m02 * m.m21 * m.m13 - m.m03 * m.m11 * m.m22 + m.m03 * m.m21 * m.m12
  let c13 := m.m00 * m.m12 * m.m23 - m.m00 * m.m22 * m.m13 - m.m02 * m.m10 * m.m23
    + m.m02 * m.m20 * m.m13 + m.m03 * m.m10 * m.m22 - m.m03 * m.m20 * m.m12
  let c23 := -m.m00 * m.m11 * m.m23 + m.m00 * m.m21 * m.m13 + m.m01 * m.m10 * m.m23
    - m.m01 * m.m20 * m.m13 - m.m03 * m.m10 * m.m21 + m.m03 * m.m20 * m.m11
  let c33 := m.m00 * m.m11 * m.m22 - m.m00 * m.m21 * m.m12 - m.m01 * m.m10 * m.m22
    + m.m01 * m.m20 * m.m12 + m.m02 * m.m10 * m.m21 - m.m02 * m.m20 * m.m11
  let determinant := m.m00 * c00 + m.m10 * c01 + m.m20 * c02 + m.m30 * c03
  if determinant == 0 then none
  else
    let s := 1 / determinant
    some
      ⟨c00 * s, c01 * s, c02 * s, c03 * s,
       c10 * s, c11 * s, c12 * s, c13 * s,
       c20 * s, c21 * s, c22 * s, c23 * s,
       c30 * s, c31 * s, c32 * s, c33 * s⟩

end Mat4

end LiveScene
