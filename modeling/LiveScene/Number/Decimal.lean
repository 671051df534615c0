import LiveScene.Number.Narrow

/-! # Decimal texts of single-precision numbers

Two texts are used in log records: the decimal with the fewest digits that reads back as the same
number, and the decimal with three places. Both are positional, never scientific, and both are
computed from the bit pattern in exact integer arithmetic.
-/

namespace LiveScene.Number

/-- A finite single is `± significand * 2 ^ (exponent - 149)`. -/
structure Dyadic where
  negative : Bool
  significand : Nat
  exponent : Nat

/-- What a bit pattern stands for. -/
inductive Magnitude where
  | finite (value : Dyadic)
  | infinite (negative : Bool)
  | nan

def magnitude (x : Float32) : Magnitude :=
  let bits := x.toBits.toNat
  let negative := bits >>> 31 = 1
  let exponent := (bits >>> 23) % 256
  let fraction := bits % 0x800000
  if exponent = 255 then
    if fraction = 0 then .infinite negative else .nan
  else if exponent = 0 then .finite ⟨negative, fraction, 0⟩
  else .finite ⟨negative, 0x800000 + fraction, exponent - 1⟩

/-- A decimal `digits * 10 ^ (scale - 45)`. -/
structure Decimal where
  digits : Nat
  scale : Nat

namespace Dyadic

/-- The multiple of `10 ^ (scale - 45)` nearest to the value among its two neighbours on that grid
that lie in the rounding interval of the value, ends included for an even significand. -/
def onGrid? (d : Dyadic) (scale : Nat) : Option Decimal :=
  let unit := Nat.pow 2 d.exponent * Nat.pow 10 45
  let value := 4 * d.significand * unit
  let below := if d.significand = 0x800000 ∧ d.exponent ≠ 0 then unit else 2 * unit
  let step := 4 * Nat.pow 2 149 * Nat.pow 10 scale
  let quotient := value / step
  let rest := value % step
  let fits (distance reach : Nat) : Bool :=
    distance < reach ∨ (distance = reach ∧ d.significand % 2 = 0)
  let down := fits rest below
  let up := fits (step - rest) (2 * unit)
  if up ∧ (¬ down ∨ step ≤ 2 * rest) then some ⟨quotient + 1, scale⟩
  else if down ∧ quotient ≠ 0 then some ⟨quotient, scale⟩
  else none

/-- The decimal of fewest digits in the rounding interval; the coarsest grid that has one. -/
def shortest (d : Dyadic) : Decimal :=
  ((List.range 85).findSome? fun i => d.onGrid? (84 - i)).getD ⟨0, 45⟩

end Dyadic

/-- `n` written with at least `width` digits. -/
def padDigits (width n : Nat) : String :=
  let text := toString n
  String.ofList (List.replicate (width - text.length) '0') ++ text

/-- `n / 10 ^ places` in positional notation. -/
def pointed (places n : Nat) : String :=
  toString (n / Nat.pow 10 places) ++ "." ++ padDigits places (n % Nat.pow 10 places)

def Decimal.text (d : Decimal) : String :=
  if 45 ≤ d.scale then toString (d.digits * Nat.pow 10 (d.scale - 45))
  else pointed (45 - d.scale) d.digits

/-- A sign in front of a text. -/
def signed (negative : Bool) (text : String) : String :=
  if negative then "-" ++ text else text

/-- The decimal of fewest digits that reads back as `x`: `5`, `0.1`, `2000`. -/
def shortText (x : Float32) : String :=
  match magnitude x with
  | .nan => "NaN"
  | .infinite negative => signed negative "inf"
  | .finite d => signed d.negative (if d.significand = 0 then "0" else d.shortest.text)

/-- `x` with three places, an exact half going to the even last digit. -/
def fixedText (x : Float32) : String :=
  match magnitude x with
  | .nan => "NaN"
  | .infinite negative => signed negative "inf"
  | .finite d =>
    signed d.negative (pointed 3 (shiftRound (d.significand * Nat.pow 2 d.exponent * 1000) 149))

end LiveScene.Number
