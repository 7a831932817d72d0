import Geolocation.Proofs.FloatExact
import Geolocation.Proofs.FloatOrder

/-!
# The values of floats

A finite float stands for a rational number. Comparison of finite floats is comparison of these numbers,
which is where it is needed that mantissas are kept canonical: a larger exponent outweighs any mantissa.

Main result: `value_le_value`.
-/

namespace Geolocation.FloatValue

open Float.Model FloatExact FloatOrder

def unpackedValue : UnpackedFloat → ℚ
  | .finite .positive mantissa exponent _ => mantissa * 2 ^ exponent
  | .finite .negative mantissa exponent _ => -(mantissa * 2 ^ exponent)
  | _ => 0

/-- The number that a finite float stands for. Floats that are not finite stand for none and are read
as zero. -/
def value (x : Float) : ℚ := unpackedValue x.toModel.unpack

variable {m n : Nat} {e f : Int}

theorem magnitude_nonneg (m : Nat) (e : Int) : (0 : ℚ) ≤ m * 2 ^ e := by positivity

theorem magnitude_le (first : Canonical m e) (second : Canonical n f)
    (before : e < f ∨ e = f ∧ m ≤ n) : (m : ℚ) * 2 ^ e ≤ n * 2 ^ f := by
  rcases before with lower | ⟨rfl, atMost⟩
  · -- The lowest exponent is below this one, so that the mantissa with it has all its bits.
    have lowest := first.exponent_ge
    have full : (2 : ℚ) ^ 52 ≤ n := by
      exact_mod_cast second.normal_or.resolve_right (by omega)
    have short : (m : ℚ) ≤ 2 ^ 53 := by exact_mod_cast first.mantissa_lt.le
    calc (m : ℚ) * 2 ^ e ≤ 2 ^ 53 * 2 ^ e := by gcongr
      _ = 2 ^ 52 * 2 ^ (e + 1) := by rw [zpow_add_one₀ two_ne_zero]; ring
      _ ≤ n * 2 ^ f := by
        gcongr
        · exact one_le_two
        · exact lower
  · gcongr

/-- The mantissa and exponent are canonical if there are any. -/
def IsCanonical : UnpackedFloat → Prop
  | .finite _ mantissa exponent _ => Canonical mantissa exponent
  | _ => True

theorem isCanonical_unpack (x : Float.Model) : IsCanonical x.unpack := by
  cases unpacked : x.unpack with
  | finite sign m e pos => exact canonical_of_unpack unpacked
  | _ => trivial

theorem unpackedValue_le {x y : UnpackedFloat} (first : IsCanonical x) (second : IsCanonical y)
    (finite : x.isFinite = true) (other : y.isFinite = true)
    (before : unpackedPoint x ≤ unpackedPoint y) : unpackedValue x ≤ unpackedValue y := by
  rcases x with _ | _ | _ | ⟨_ | _, m, e, _⟩ <;> rcases y with _ | _ | _ | ⟨_ | _, n, f, _⟩ <;>
    simp [UnpackedFloat.isFinite, unpackedPoint, unpackedValue, point_le_iff] at *
  -- Signs that are in order leave magnitudes, which only have to be compared if the signs are the same.
  case zero.finite.positive => exact magnitude_nonneg n f
  case finite.negative.zero => exact magnitude_nonneg m e
  case finite.negative.finite.positive =>
    exact (neg_nonpos_of_nonneg (magnitude_nonneg m e)).trans (magnitude_nonneg n f)
  case finite.negative.finite.negative =>
    rw [eq_comm] at before
    exact magnitude_le second first before
  case finite.positive.finite.positive => exact magnitude_le first second before

/-- Finite floats are ordered as the numbers that they stand for. -/
theorem value_le_value {x y : Float} (finite : x.isFinite = true) (other : y.isFinite = true)
    (atMost : x ≤ y) : value x ≤ value y :=
  unpackedValue_le (isCanonical_unpack _) (isCanonical_unpack _) finite other
    ((le_iff x y).mp atMost).2.2

end Geolocation.FloatValue
