/-! # Narrowing double precision to single precision

Property values arrive in double precision and are stored in single precision. `narrow` rounds to
the nearest single, a tie going to the even significand. What is too large becomes an infinity and
what is too small a signed zero. The rounding is done on the bit patterns in exact integer
arithmetic, so that closed instances can be evaluated in the logic.
-/

namespace LiveScene.Number

/-- The nearest integer to `n / 2 ^ s`, an exact half going to the even neighbour. -/
def shiftRound (n s : Nat) : Nat :=
  let quotient := n >>> s
  let divisor := Nat.pow 2 s
  let rest := n % divisor
  if 2 * rest < divisor then quotient
  else if 2 * rest = divisor then quotient + quotient % 2
  else quotient + 1

/-- The magnitude bits of the single nearest to `m * 2 ^ (e - 1074)`, where a double stores the
significand `m` and the exponent field `e + 1`. A carry out of the rounded significand runs into
the exponent field, which is where it belongs. -/
def narrowMagnitude (m e : Nat) : Nat :=
  let unit := max (m.log2 + e) 948
  min ((unit - 948) * 0x800000 + shiftRound m (unit - 23 - e)) 0x7f800000

/-- The single-precision number nearest to a double. -/
def narrow (x : Float) : Float32 :=
  let bits := x.toBits.toNat
  let sign := bits >>> 63
  let exponent := (bits >>> 52) % 0x800
  let fraction := bits % 0x10000000000000
  let magnitude :=
    if exponent = 2047 then
      if fraction = 0 then 0x7f800000 else 0x7fc00000
    else if exponent = 0 then narrowMagnitude fraction 0
    else narrowMagnitude (0x10000000000000 + fraction) (exponent - 1)
  Float32.ofBits (UInt32.ofNat (sign * 0x80000000 + magnitude))

end LiveScene.Number
