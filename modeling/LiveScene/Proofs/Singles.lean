import LiveScene.Object.Camera
import Mathlib

/-! # Singles

The arithmetic of singles, as far as the parameters of a projection depend on it. A finite single is
a mantissa of at most 24 bits times a power of two. Taking the size of one changes the sign only,
and a product by a power of two is exact as long as it does not get too small. Hence a number that
is large enough to pass as an aspect is not equal to zero up to the precision of singles.
-/

namespace LiveScene.Single

open Float.Model Float.Model.UnpackedFloat

/-! ## Mantissas and exponents -/

/-- A mantissa and an exponent as singles have them: the mantissa uses all of its bits, unless the
exponent is the least one. -/
structure Fits (mantissa : Nat) (exponent : Int) : Prop where
  lt : mantissa < 2 ^ 24
  least : -149 ≤ exponent
  most : exponent ≤ 104
  full : 2 ^ 23 ≤ mantissa ∨ exponent = -149

section

variable {mantissa : Nat} {exponent : Int}

theorem log2_of_full (hfull : 2 ^ 23 ≤ mantissa) (hlt : mantissa < 2 ^ 24) (places : Nat) :
    (mantissa * 2 ^ places).log2 = 23 + places := by
  have hpos : 0 < 2 ^ places := Nat.two_pow_pos places
  have hne : mantissa * 2 ^ places ≠ 0 := Nat.mul_ne_zero (by omega) (Nat.ne_of_gt hpos)
  rw [Nat.log2_eq_iff hne]
  constructor
  · rw [Nat.pow_add]
    exact Nat.mul_le_mul_right _ hfull
  · rw [Nat.add_right_comm, Nat.pow_add]
    exact Nat.mul_lt_mul_of_pos_right hlt hpos

/-- Bits that are all zero are shifted out without a trace. -/
theorem shiftRight_exact (mantissa places : Nat) :
    ExtendedMantissa.ofMantissaAndAccuracy (mantissa * 2 ^ places) .exact >>> places =
      ⟨mantissa, false, false⟩ := by
  change places.repeat ExtendedMantissa.shiftRightOne _ = _
  induction places generalizing mantissa with
  | zero => simp [Nat.repeat, ExtendedMantissa.ofMantissaAndAccuracy]
  | succ places ih =>
      have hsplit : mantissa * 2 ^ (places + 1) = mantissa * 2 * 2 ^ places := by
        rw [Nat.pow_succ', ← Nat.mul_assoc]
      rw [hsplit, Nat.repeat, ih]
      simp [ExtendedMantissa.shiftRightOne]

theorem targetExponent_eq (total : Int) :
    Format.binary32.targetExponent total = max (total - 24) (-149) := rfl

/-- Rounding gives back a number that fits, however many zeros its mantissa carries. -/
theorem round_exact (sign : Sign) (hfits : Fits mantissa exponent) (hfull : 2 ^ 23 ≤ mantissa)
    (places : Nat) :
    ∃ hpos, roundWithAccuracy Format.binary32 sign (mantissa * 2 ^ places) (exponent - places)
      .exact = .finite sign mantissa exponent hpos := by
  have hpos : 0 < mantissa := Nat.lt_of_lt_of_le (Nat.two_pow_pos 23) hfull
  have hleast := hfits.least
  -- The first shift drops the zeros, the second finds nothing to do.
  have hshift : ∀ places : Nat,
      shiftToTargetExponent Format.binary32 (mantissa * 2 ^ places) (exponent - places) .exact =
        (⟨mantissa, false, false⟩, exponent) := by
    intro places
    have htarget : Format.binary32.targetExponent
        (totalExponent (mantissa * 2 ^ places) (exponent - places)) = exponent := by
      rw [targetExponent_eq, totalExponent, log2_of_full hfull hfits.lt]
      omega
    have hamount : (exponent - (exponent - (places : Int))).toNat = places := by omega
    rw [shiftToTargetExponent, htarget, shiftToExponent, hamount]
    refine Prod.ext (shiftRight_exact mantissa places) ?_
    change exponent - (places : Int) + (places : Int) = exponent
    omega
  have hagain := hshift 0
  rw [Nat.pow_zero, Nat.mul_one, Int.natCast_zero, Int.sub_zero] at hagain
  refine ⟨hpos, ?_⟩
  rw [roundWithAccuracy, hshift places]
  simp only [ExtendedMantissa.roundedMantissa, ExtendedMantissa.accuracy,
    Accuracy.roundToNearestEven, hagain]
  rw [dif_neg (Nat.ne_of_gt hpos)]

/-! ## Bits -/

theorem toNat_leadingOne (bits : BitVec 23) : (1#1 ++ bits).toNat = 2 ^ 23 + bits.toNat := by
  rw [BitVec.toNat_append, ← Nat.shiftLeft_add_eq_or_of_lt bits.isLt]
  rfl

theorem bias_eq : (Format.binary32.exponentBias : Int) = 127 := rfl

theorem places_eq : (Format.binary32.mantissaBitsWithoutImplicit : Int) = 23 := rfl

/-- A mantissa that uses all of its bits is put in without the first one. -/
theorem unpack_full (sign : Sign) (hpos : 0 < mantissa) (hfull : 2 ^ 23 ≤ mantissa)
    (hlt : mantissa < 2 ^ 24) {biased : Nat} (hleast : 0 < biased) (hmost : biased < 255) :
    UnpackedFloat.unpack Format.binary32
      (packComponents Format.binary32 sign (BitVec.ofNat 8 biased) (BitVec.ofNat 23 mantissa)) =
        .finite sign mantissa (biased - 150) hpos := by
  have hexponent : (BitVec.ofNat 8 biased).toNat = biased := by
    rw [BitVec.toNat_ofNat, Nat.mod_eq_of_lt (by omega)]
  have hones : BitVec.ofNat 8 biased ≠ -1#8 := by
    intro heq
    have htop : biased = 255 := hexponent.symm.trans (congrArg BitVec.toNat heq)
    omega
  have hzero : BitVec.ofNat 8 biased ≠ 0#8 := by
    intro heq
    have hbottom : biased = 0 := hexponent.symm.trans (congrArg BitVec.toNat heq)
    omega
  have hbits : (1#1 ++ BitVec.ofNat 23 mantissa).toNat = mantissa := by
    rw [toNat_leadingOne, BitVec.toNat_ofNat]
    omega
  rw [UnpackedFloat.unpack]
  simp only [unpackMantissa_packComponents, unpackExponent_packComponents,
    unpackSign_packComponents, Sign.ofBitVec_toBitVec]
  rw [if_neg hones, if_neg hzero]
  simp only [hexponent, hbits, bias_eq]
  congr 1

/-- A smaller mantissa is put in as it is, beside the least exponent. -/
theorem unpack_small (sign : Sign) (hpos : 0 < mantissa) (hlt : mantissa < 2 ^ 23) :
    UnpackedFloat.unpack Format.binary32
      (packComponents Format.binary32 sign 0#8 (BitVec.ofNat 23 mantissa)) =
        .finite sign mantissa (-149) hpos := by
  have hbits : (BitVec.ofNat 23 mantissa).toNat = mantissa := by
    rw [BitVec.toNat_ofNat, Nat.mod_eq_of_lt hlt]
  have hzero : BitVec.ofNat 23 mantissa ≠ 0#23 := by
    intro heq
    have hbottom : mantissa = 0 := hbits.symm.trans (congrArg BitVec.toNat heq)
    omega
  rw [UnpackedFloat.unpack]
  simp only [unpackMantissa_packComponents, unpackExponent_packComponents,
    unpackSign_packComponents, Sign.ofBitVec_toBitVec]
  rw [if_neg (by decide), if_pos trivial, dif_neg hzero]
  simp only [hbits, bias_eq, BitVec.toNat_zero]
  congr 1

/-- A number that fits comes out of its bits as it was put in. -/
theorem unpack_pack (sign : Sign) (hpos : 0 < mantissa) (hfits : Fits mantissa exponent) :
    (Float32.Model.pack (.finite sign mantissa exponent hpos)).unpack =
      .finite sign mantissa exponent hpos := by
  obtain ⟨hlt, hleast, hmost, hfull⟩ := hfits
  obtain ⟨biased, rfl⟩ : ∃ biased : Nat, exponent = biased - 150 :=
    ⟨(exponent + 150).toNat, by omega⟩
  have hamount : ((biased : Int) - 150 + Format.binary32.exponentBias +
      Format.binary32.mantissaBitsWithoutImplicit).toNat = biased := by
    rw [bias_eq, places_eq]
    omega
  have hrange : ¬2 ^ Format.binary32.exponentBits ≤ biased + 1 := by
    change ¬2 ^ 8 ≤ biased + 1
    omega
  change UnpackedFloat.unpack Format.binary32 (UnpackedFloat.pack Format.binary32 _) = _
  rw [UnpackedFloat.pack]
  simp only [hamount, if_neg hrange]
  by_cases hmantissa : 2 ^ 23 ≤ mantissa
  · have hlog : mantissa.log2 + 1 = Format.binary32.mantissaBits := by
      have hlog := log2_of_full hmantissa hlt 0
      rw [Nat.pow_zero, Nat.mul_one] at hlog
      rw [hlog]
      rfl
    rw [if_pos hlog]
    exact unpack_full sign hpos hmantissa hlt (by omega) (by omega)
  · have hlog : mantissa.log2 + 1 ≠ Format.binary32.mantissaBits := by
      have hlog : mantissa.log2 < 23 := (Nat.log2_lt (by omega)).mpr (by omega)
      change mantissa.log2 + 1 ≠ 24
      omega
    have hexponent : (biased : Int) - 150 = -149 := hfull.resolve_left hmantissa
    simp only [if_neg hlog, hexponent]
    exact unpack_small sign hpos (by omega)

/-- What comes out of the bits of a single fits. -/
theorem fits_of_unpack {value : Float32} {sign : Sign} {hpos : 0 < mantissa}
    (hvalue : value.toModel.unpack = .finite sign mantissa exponent hpos) :
    Fits mantissa exponent := by
  obtain ⟨bits, hbits⟩ : ∃ bits : BitVec Format.binary32.numBits,
      UnpackedFloat.unpack Format.binary32 bits = .finite sign mantissa exponent hpos :=
    ⟨value.toModel.toBits.toBitVec, hvalue⟩
  have hexponent : (unpackExponent bits).toNat < 2 ^ 8 := (unpackExponent bits).isLt
  have hmantissa : (unpackMantissa bits).toNat < 2 ^ 23 := (unpackMantissa bits).isLt
  rw [UnpackedFloat.unpack] at hbits
  split at hbits
  · split at hbits <;> cases hbits
  · rename_i hones
    have hones : (unpackExponent bits).toNat ≠ 255 := by
      intro htop
      exact hones (BitVec.eq_of_toNat_eq htop)
    split at hbits
    · rename_i hzero
      split at hbits
      · cases hbits
      · injection hbits with _ hm he
        rw [hzero, bias_eq, places_eq, BitVec.toNat_zero] at he
        exact ⟨by omega, by omega, by omega, .inr (by omega)⟩
    · rename_i hzero
      have hzero : (unpackExponent bits).toNat ≠ 0 := by
        intro hbottom
        exact hzero (BitVec.eq_of_toNat_eq hbottom)
      injection hbits with _ hm he
      rw [bias_eq, places_eq] at he
      have hlead : 2 ^ 23 + (unpackMantissa bits).toNat = mantissa :=
        (toNat_leadingOne _).symm.trans hm
      exact ⟨by omega, by omega, by omega, .inl (by omega)⟩

/-! ## Operations -/

variable {value other : Float32} {hpos : 0 < mantissa}

theorem le_iff_unpack (value other : Float32) :
    value ≤ other ↔ value.toModel.unpack.le other.toModel.unpack = true :=
  decide_eq_true_iff

theorem lt_iff_unpack (value other : Float32) :
    value < other ↔ value.toModel.unpack.lt other.toModel.unpack = true :=
  decide_eq_true_iff

theorem le_iff {mantissa' : Nat} {exponent' : Int} {hpos' : 0 < mantissa'}
    (hvalue : value.toModel.unpack = .finite .positive mantissa exponent hpos)
    (hother : other.toModel.unpack = .finite .positive mantissa' exponent' hpos') :
    value ≤ other ↔ exponent < exponent' ∨ exponent = exponent' ∧ mantissa ≤ mantissa' := by
  have hcompare : UnpackedFloat.le (.finite .positive mantissa exponent hpos)
      (.finite .positive mantissa' exponent' hpos') =
        ((compare exponent exponent').then (compare mantissa mantissa')).isLE := rfl
  rw [le_iff_unpack, hvalue, hother, hcompare, Ordering.isLE_then_iff_or]
  simp [Int.compare_eq_lt, Nat.isLE_compare]

/-- The size of a number differs from it in the sign only. -/
theorem unpack_abs {sign : Sign}
    (hvalue : value.toModel.unpack = .finite sign mantissa exponent hpos) :
    value.abs.toModel.unpack = .finite .positive mantissa exponent hpos := by
  change (Float32.Model.pack value.toModel.unpack.abs).unpack = _
  rw [hvalue]
  exact unpack_pack .positive hpos (fits_of_unpack hvalue)

theorem unpack_sub_zero {sign : Sign}
    (hvalue : value.toModel.unpack = .finite sign mantissa exponent hpos) :
    (value - 0).toModel.unpack = .finite sign mantissa exponent hpos := by
  change (Float32.Model.pack (value.toModel.unpack.sub .binary32 (.zero .positive))).unpack = _
  rw [hvalue]
  exact unpack_pack sign hpos (fits_of_unpack hvalue)

/-- The precision of singles is a power of two: a product by it moves the exponent only, unless the
number gets too small to use all the bits of its mantissa. -/
theorem unpack_mul_epsilon
    (hvalue : value.toModel.unpack = .finite .positive mantissa exponent hpos)
    (hlarge : -126 ≤ exponent) :
    (value * machineEpsilon).toModel.unpack = .finite .positive mantissa (exponent - 23) hpos := by
  have hfits := fits_of_unpack hvalue
  have hfull : 2 ^ 23 ≤ mantissa := hfits.full.resolve_right (by omega)
  have hless : Fits mantissa (exponent - 23) :=
    ⟨hfits.lt, by omega, by have := hfits.most; omega, .inl hfull⟩
  obtain ⟨_, hround⟩ := round_exact .positive hless hfull 23
  have hproduct : value.toModel.unpack.mul .binary32 machineEpsilon.toModel.unpack =
      .finite .positive mantissa (exponent - 23) hpos := by
    rw [hvalue, ← hround]
    change roundWithAccuracy _ _ _ (exponent + -46) _ = _
    congr 1
    omega
  change (Float32.Model.pack
    (value.toModel.unpack.mul .binary32 machineEpsilon.toModel.unpack)).unpack = _
  rw [hproduct]
  exact unpack_pack .positive hpos hless

end

/-! ## Numbers near zero -/

/-- A finite number whose size passes the bound on the parameters of a projection is not zero up to
the precision of singles. -/
theorem nearlyEqual_zero_eq_false {value : Float32} (hsize : ¬value.abs ≤ Camera.leastExtent)
    (hfinite : value.isFinite = true) : Projection.nearlyEqual value 0 = false := by
  have hleast : Camera.leastExtent.toModel.unpack = .finite .positive 8796093 (-43) (by decide) :=
    rfl
  have hepsilon : machineEpsilon.toModel.unpack = .finite .positive (2 ^ 23) (-46) (by decide) :=
    rfl
  have hzero : (0 : Float32).abs.toModel.unpack = .zero .positive := rfl
  match hvalue : value.toModel.unpack with
  | .notANumber =>
      have hnot : value.isFinite = false := congrArg UnpackedFloat.isFinite hvalue
      rw [hnot] at hfinite
      cases hfinite
  | .infinity _ =>
      have hnot : value.isFinite = false := congrArg UnpackedFloat.isFinite hvalue
      rw [hnot] at hfinite
      cases hfinite
  | .zero sign =>
      have habs : value.abs.toModel.unpack = .zero .positive := by
        change (Float32.Model.pack value.toModel.unpack.abs).unpack = _
        rw [hvalue, UnpackedFloat.abs]
        rfl
      refine absurd ?_ hsize
      rw [le_iff_unpack, habs, hleast]
      rfl
  | .finite sign mantissa exponent hpos =>
      have habs := unpack_abs hvalue
      have hdistance := unpack_abs (unpack_sub_zero hvalue)
      have hlarge : -43 ≤ exponent := by
        rw [le_iff habs hleast] at hsize
        omega
      have hproduct := unpack_mul_epsilon habs (by omega)
      have hne : (value == 0) = false := by
        change value.toModel.unpack.beq (.zero .positive) = false
        rw [hvalue]
        cases sign <;> rfl
      have hlarger : ¬(0 : Float32).abs > value.abs := by
        change ¬value.abs < (0 : Float32).abs
        rw [lt_iff_unpack, habs, hzero]
        exact Bool.false_ne_true
      have hfar : ¬(value - 0).abs ≤ machineEpsilon := by
        rw [le_iff hdistance hepsilon]
        omega
      have hrelative : ¬(value - 0).abs ≤ value.abs * machineEpsilon := by
        rw [le_iff hdistance hproduct]
        omega
      simp [Projection.nearlyEqual, hne, hlarger, hfar, hrelative]

end LiveScene.Single
