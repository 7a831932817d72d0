import Mathlib

/-!
# Exact arithmetic

Most operations on floats round. Two never do: adding zero, but for the sign of a negative zero, and
dividing by one. Both take a float apart, work on its mantissa and exponent, and put the result
together again, so the proof is that finite numbers are stored in one canonical form, that rounding
leaves it alone, and that nothing is lost in taking a float apart.
-/

namespace Geolocation.FloatExact

open Float.Model Float.Model.UnpackedFloat

/-! ### Rounding -/

/-- The mantissa and exponent under which a finite number is stored. -/
structure Canonical (mantissa : Nat) (exponent : Int) : Prop where
  pos : 0 < mantissa
  mantissa_lt : mantissa < 2 ^ 53
  exponent_ge : -1074 ≤ exponent
  normal_or : 2 ^ 52 ≤ mantissa ∨ exponent = -1074

variable {m : Nat} {e : Int}

theorem targetExponent_eq (m : Nat) (e : Int) :
    Format.binary64.targetExponent (totalExponent m e) = max (m.log2 + 1 + e - 53) (-1074) := rfl

theorem Canonical.target (canonical : Canonical m e) :
    Format.binary64.targetExponent (totalExponent m e) = e := by
  have pos := canonical.pos
  have low := canonical.exponent_ge
  have below : m.log2 < 53 := (Nat.log2_lt (by omega)).mpr canonical.mantissa_lt
  rw [targetExponent_eq]
  rcases canonical.normal_or with normal | subnormal
  · have above : 52 ≤ m.log2 := (Nat.le_log2 (by omega)).mpr normal
    omega
  · omega

theorem shiftRight_two_pow (m k : Nat) :
    (⟨m * 2 ^ k, false, false⟩ : ExtendedMantissa) >>> k = ⟨m, false, false⟩ := by
  change k.repeat ExtendedMantissa.shiftRightOne _ = _
  induction k generalizing m with
  | zero => simp [Nat.repeat]
  | succ k ih =>
    have twice : m * 2 ^ (k + 1) = 2 * m * 2 ^ k := by ring
    rw [Nat.repeat, twice, ih]
    simp [ExtendedMantissa.shiftRightOne]

theorem log2_mul_two_pow (pos : 0 < m) (k : Nat) : (m * 2 ^ k).log2 = m.log2 + k := by
  induction k with
  | zero => simp
  | succ k ih =>
    rw [pow_succ, ← mul_assoc, mul_comm (m * 2 ^ k) 2, Nat.log2_two_mul (by positivity), ih]
    omega

/-- Rounding drops the bits that were appended to a canonical mantissa. -/
theorem shiftToTargetExponent_two_pow (canonical : Canonical m e) (k : Nat) :
    shiftToTargetExponent .binary64 (m * 2 ^ k) (e - k) .exact = (⟨m, false, false⟩, e) := by
  have total : totalExponent (m * 2 ^ k) (e - k) = totalExponent m e := by
    simp only [totalExponent, log2_mul_two_pow canonical.pos]
    omega
  have amount : (e - (e - (k : Int))).toNat = k := by omega
  simp only [shiftToTargetExponent, shiftToExponent, total, canonical.target, amount,
    ExtendedMantissa.ofMantissaAndAccuracy, shiftRight_two_pow]
  simp

theorem round_two_pow (canonical : Canonical m e) (sign : Sign) (k : Nat) :
    roundWithAccuracy .binary64 sign (m * 2 ^ k) (e - k) .exact =
      .finite sign m e canonical.pos := by
  have again := shiftToTargetExponent_two_pow canonical 0
  simp only [pow_zero, mul_one, Nat.cast_zero, sub_zero] at again
  have nonzero : m ≠ 0 := canonical.pos.ne'
  simp [roundWithAccuracy, shiftToTargetExponent_two_pow canonical, ExtendedMantissa.roundedMantissa,
    ExtendedMantissa.accuracy, Accuracy.roundToNearestEven, again, nonzero]

/-- The quotient by one has the mantissa with zeros behind it, and its exponent is lower by their
number. -/
theorem divCore_one (canonical : Canonical m e) :
    ∃ k : Nat, divCore .binary64 m e (2 ^ 52) (-52) = (m * 2 ^ k, e - k, .exact) := by
  have target := canonical.target
  rw [targetExponent_eq] at target
  have one : totalExponent (2 ^ 52) (-52) = 1 := by decide
  have lowered : min (e - (-52)) (Format.binary64.targetExponent (totalExponent m e - 1)) ≤ e := by
    have next : totalExponent m e - 1 = totalExponent m (e - 1) := by
      simp only [totalExponent]
      omega
    rw [next, targetExponent_eq]
    omega
  obtain ⟨k, exponent⟩ := Int.le.dest lowered
  have lower : min (e - (-52)) (Format.binary64.targetExponent (totalExponent m e - 1)) = e - k := by
    omega
  have amount : (e - (-52) - (e - (k : Int))).toNat = k + 52 := by omega
  have shifted : m <<< (k + 52) = m * 2 ^ k * 2 ^ 52 := by
    rw [Nat.shiftLeft_eq]
    ring
  refine ⟨k, ?_⟩
  simp only [divCore, one, lower, amount, shifted]
  simp [accuracyOfFraction]

theorem div_one_finite (canonical : Canonical m e) (sign : Sign) :
    UnpackedFloat.div .binary64 (.finite sign m e canonical.pos)
      (.finite .positive (2 ^ 52) (-52) (by decide)) = .finite sign m e canonical.pos := by
  obtain ⟨k, quotient⟩ := divCore_one canonical
  simp only [UnpackedFloat.div, quotient, round_two_pow canonical]
  cases sign <;> rfl

/-! ### Bits -/

theorem toNat_implicit_append (mantissa : BitVec 52) :
    (1#1 ++ mantissa).toNat = 2 ^ 52 + mantissa.toNat := by
  rw [BitVec.toNat_append, ← Nat.shiftLeft_add_eq_or_of_lt mantissa.isLt]
  simp [Nat.shiftLeft_eq]

/-- The finite numbers that bits stand for are stored canonically. -/
theorem canonical_of_unpack {bits : BitVec Format.binary64.numBits} {sign : Sign} {m : Nat} {e : Int}
    {pos : 0 < m} (unpacked : UnpackedFloat.unpack .binary64 bits = .finite sign m e pos) :
    Canonical m e := by
  have small : (unpackMantissa bits).toNat < 2 ^ 52 := (unpackMantissa bits).isLt
  have bias : Format.binary64.exponentBias = 1023 := rfl
  simp only [UnpackedFloat.unpack, bias] at unpacked
  split_ifs at unpacked with special empty lowest none
  · -- The exponent field of a subnormal number is zero.
    injection unpacked with _ mantissa exponent
    have field : (unpackExponent bits).toNat = 0 := by rw [lowest]; rfl
    rw [field] at exponent
    constructor <;> omega
  · injection unpacked with _ mantissa exponent
    have implicit := toNat_implicit_append (unpackMantissa bits)
    have field : (unpackExponent bits).toNat ≠ 0 := fun same => lowest (BitVec.eq_of_toNat_eq same)
    constructor <;> omega

theorem toBitVec_ofBitVec (field : BitVec 1) : (Sign.ofBitVec field).toBitVec = field := by
  revert field
  decide

/-- Bits are put together from their sign, exponent and mantissa fields. -/
theorem packComponents_fields (bits : BitVec Format.binary64.numBits) :
    packComponents .binary64 (Sign.ofBitVec (unpackSign bits)) (unpackExponent bits)
      (unpackMantissa bits) = bits := by
  rw [packComponents, toBitVec_ofBitVec]
  simp only [unpackSign, unpackExponent, unpackMantissa, BitVec.extractLsb]
  ext i inside
  simp only [BitVec.getElem_append, BitVec.getElem_cast, BitVec.getElem_extractLsb']
  grind

theorem packComponents_of_fields {bits : BitVec Format.binary64.numBits} {exponent : BitVec 11}
    {mantissa : BitVec 52} (first : unpackExponent bits = exponent)
    (second : unpackMantissa bits = mantissa) :
    packComponents .binary64 (Sign.ofBitVec (unpackSign bits)) exponent mantissa = bits := by
  subst first second
  exact packComponents_fields bits

theorem log2_of_lt {m : Nat} (small : m < 2 ^ 52) : m.log2 < 52 := by
  rcases Nat.eq_zero_or_pos m with rfl | pos
  · decide
  · exact (Nat.log2_lt (by omega)).mpr small

theorem log2_implicit {m : Nat} (small : m < 2 ^ 52) : (2 ^ 52 + m).log2 = 52 := by
  have above : 52 ≤ (2 ^ 52 + m).log2 := (Nat.le_log2 (by omega)).mpr (by omega)
  have below : (2 ^ 52 + m).log2 < 53 := (Nat.log2_lt (by omega)).mpr (by omega)
  omega

/-- Nothing is lost by unpacking. -/
theorem pack_unpack_bits {bits : BitVec Format.binary64.numBits}
    (valid : Format.binary64.Valid bits) :
    UnpackedFloat.pack .binary64 (UnpackedFloat.unpack .binary64 bits) = bits := by
  have small : (unpackMantissa bits).toNat < 2 ^ 52 := (unpackMantissa bits).isLt
  have bounded : (unpackExponent bits).toNat < 2 ^ 11 := (unpackExponent bits).isLt
  have bias : Format.binary64.exponentBias = 1023 := rfl
  have width : Format.binary64.mantissaBits = 53 := rfl
  rw [UnpackedFloat.unpack]
  split_ifs with special infinite lowest none
  · exact packComponents_of_fields special infinite
  · exact (valid.eq_packedNaN special infinite).symm
  · exact packComponents_of_fields lowest none
  · -- A subnormal number: no mantissa this small has the bit that a normal one leaves out.
    have field : (unpackExponent bits).toNat = 0 := by rw [lowest]; rfl
    have short := log2_of_lt small
    simp only [UnpackedFloat.pack, field, bias, width]
    rw [if_neg (by omega), if_neg (by omega)]
    exact packComponents_of_fields lowest (by simp)
  · have field : (unpackExponent bits).toNat ≠ 2 ^ 11 - 1 := fun same =>
      special (BitVec.eq_of_toNat_eq same)
    have implicit := toNat_implicit_append (unpackMantissa bits)
    have long := log2_implicit small
    simp only [UnpackedFloat.pack, bias, width]
    rw [implicit, long, if_neg (by omega), if_pos rfl]
    refine packComponents_of_fields (BitVec.eq_of_toNat_eq ?_) (BitVec.eq_of_toNat_eq ?_)
    · simp
      omega
    · simp
      omega

theorem pack_unpack (x : Float.Model) : Float.Model.pack x.unpack = x := by
  obtain ⟨bits, valid⟩ := x
  simp only [Float.Model.pack, Float.Model.unpack, pack_unpack_bits valid]

/-! ### Sums and quotients -/

theorem unpacked_div_one (x : Float.Model) :
    UnpackedFloat.div .binary64 x.unpack (.finite .positive (2 ^ 52) (-52) (by decide)) =
      x.unpack := by
  cases unpacked : x.unpack with
  | notANumber => rfl
  | infinity sign => cases sign <;> rfl
  | zero sign => cases sign <;> rfl
  | finite sign m e pos => exact div_one_finite (canonical_of_unpack unpacked) sign

theorem div_one (x : Float) : x / Float.ofNat 1 = x := by
  have quotient : (x / Float.ofNat 1).toModel = x.toModel :=
    (congrArg Float.Model.pack (unpacked_div_one x.toModel)).trans (pack_unpack x.toModel)
  exact congrArg Float.ofModel quotient

theorem unpacked_zero_add (u : UnpackedFloat) :
    UnpackedFloat.add .binary64 (.zero .positive) u = u ∨ u = .zero .negative := by
  cases u with
  | zero sign =>
    cases sign with
    | positive => exact Or.inl rfl
    | negative => exact Or.inr rfl
  | notANumber => exact Or.inl rfl
  | infinity sign => exact Or.inl rfl
  | finite sign m e pos => exact Or.inl rfl

/-- Only the sign of a negative zero is lost when it is added to zero. -/
theorem zero_add_or (x : Float) : 0.0 + x = x ∨ x = -0.0 := by
  have whole := pack_unpack x.toModel
  rcases unpacked_zero_add x.toModel.unpack with same | negative
  · left
    have sum : (0.0 + x).toModel = x.toModel := (congrArg Float.Model.pack same).trans whole
    exact congrArg Float.ofModel sum
  · right
    rw [negative] at whole
    exact congrArg Float.ofModel whole.symm

end Geolocation.FloatExact
