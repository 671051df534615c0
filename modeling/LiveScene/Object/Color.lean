/-! # Colors -/

namespace LiveScene

/-- Red, green and blue between zero and one. -/
structure Color where
  red : Float32
  green : Float32
  blue : Float32
deriving DecidableEq

namespace Color

/-- Componentwise comparison of numbers. -/
instance : BEq Color := ⟨fun a b => a.red == b.red && a.green == b.green && a.blue == b.blue⟩

def white : Color := ⟨1, 1, 1⟩

/-- A channel of the range 0 to 255; what lies outside is moved to the nearer end. -/
def channel (level : Int32) : Float32 :=
  (UInt32.ofNat (min level.toInt.toNat 255)).toFloat32 / 255

def ofBytes (red green blue : Int32) : Color :=
  ⟨channel red, channel green, channel blue⟩

end Color

end LiveScene
