/-! # Vectors

Vectors of three single-precision components. Every operation fixes the order in which its terms
are multiplied and added, since rounding makes the order visible.
-/

namespace LiveScene

/-- The machine epsilon of single precision, `2 ^ -23`. -/
def machineEpsilon : Float32 := Float32.ofBits 0x34000000

/-- The single nearest to π. -/
def pi : Float32 := Float32.ofBits 0x40490fdb

def degreesToRadians (degrees : Float32) : Float32 :=
  degrees * pi / 180

structure Vec3 where
  x : Float32
  y : Float32
  z : Float32
deriving DecidableEq

namespace Vec3

/-- Componentwise comparison of numbers: a component that is not a number equals nothing, and both
zeros are equal. -/
instance : BEq Vec3 := ⟨fun a b => a.x == b.x && a.y == b.y && a.z == b.z⟩

def zero : Vec3 := ⟨0, 0, 0⟩
def one : Vec3 := ⟨1, 1, 1⟩
def unitX : Vec3 := ⟨1, 0, 0⟩
def unitY : Vec3 := ⟨0, 1, 0⟩
def unitZ : Vec3 := ⟨0, 0, 1⟩

def sub (a b : Vec3) : Vec3 := ⟨a.x - b.x, a.y - b.y, a.z - b.z⟩

def neg (a : Vec3) : Vec3 := ⟨-a.x, -a.y, -a.z⟩

/-- Every component divided by the same number. -/
def divide (a : Vec3) (s : Float32) : Vec3 := ⟨a.x / s, a.y / s, a.z / s⟩

def cross (a b : Vec3) : Vec3 :=
  ⟨a.y * b.z - a.z * b.y, a.z * b.x - a.x * b.z, a.x * b.y - a.y * b.x⟩

def norm (a : Vec3) : Float32 :=
  ((a.x * a.x + a.y * a.y) + a.z * a.z).sqrt

/-- The vector of length one in the same direction; the zero vector has none and gives `NaN`. -/
def normalize (a : Vec3) : Vec3 := a.divide a.norm

/-- The vector of length one, unless the norm is at most `epsilon`. -/
def normalize? (a : Vec3) (epsilon : Float32) : Option Vec3 :=
  if a.norm ≤ epsilon then none else some a.normalize

end Vec3

end LiveScene
