import Mathlib

/-!
# The order of floats

Floats other than NaN lie on a line: infinities at the ends, both zeros at one point, and finite
numbers by sign, exponent and mantissa. `<` and `≤` compare the points of two floats and are false
when either is NaN. So `<` is a strict weak order on the floats that are numbers, which is all that the
choice of the most accurate position needs of it, and of two numbers one is at most the other.
-/

namespace Geolocation.FloatOrder

open Float.Model

/-! ### The line -/

/-- Coordinates on the line: which of its five stretches, then where in it. -/
abbrev Point : Type := ℤ ×ₗ ℤ ×ₗ ℤ

def point (stretch exponent mantissa : ℤ) : Point := toLex (stretch, toLex (exponent, mantissa))

theorem point_lt_iff (a b c x y z : ℤ) :
    point a b c < point x y z ↔ a < x ∨ a = x ∧ (b < y ∨ b = y ∧ c < z) := by
  simp only [point, Prod.Lex.toLex_lt_toLex]

theorem point_le_iff (a b c x y z : ℤ) :
    point a b c ≤ point x y z ↔ a < x ∨ a = x ∧ (b < y ∨ b = y ∧ c ≤ z) := by
  simp only [point, Prod.Lex.toLex_le_toLex]

/-- The point of an unpacked float. NaN has none and is put at zero. -/
def unpackedPoint : UnpackedFloat → Point
  | .infinity .negative => point (-2) 0 0
  | .finite .negative mantissa exponent _ => point (-1) (-exponent) (-mantissa)
  | .zero _ => point 0 0 0
  | .finite .positive mantissa exponent _ => point 1 exponent mantissa
  | .infinity .positive => point 2 0 0
  | .notANumber => point 0 0 0

private theorem then_eq_lt (e f : ℤ) (m n : ℕ) :
    (compare e f).then (compare m n) = .lt ↔ e < f ∨ e = f ∧ m < n := by
  rw [Ordering.then_eq_lt, compare_lt_iff_lt, compare_eq_iff_eq, Nat.compare_eq_lt]

private theorem then_eq_gt (e f : ℤ) (m n : ℕ) :
    (compare e f).then (compare m n) = .gt ↔ f < e ∨ e = f ∧ n < m := by
  rw [Ordering.then_eq_gt, compare_gt_iff_gt, compare_eq_iff_eq, Nat.compare_eq_gt]

/-- Exponent before mantissa is the order of values because mantissas are kept canonical. -/
theorem unpacked_lt_iff (a b : UnpackedFloat) :
    a.lt b = true ↔ a.isNaN = false ∧ b.isNaN = false ∧ unpackedPoint a < unpackedPoint b := by
  rcases a with (_ | _) | _ | _ | ⟨_ | _, m, e, _⟩ <;>
  rcases b with (_ | _) | _ | _ | ⟨_ | _, n, f, _⟩ <;>
  simp [UnpackedFloat.lt, UnpackedFloat.compare, UnpackedFloat.isNaN, unpackedPoint, point_lt_iff,
    then_eq_lt, then_eq_gt]
  -- Two infinities are left: their signs are compared.
  rfl

private theorem then_isLE (e f : ℤ) (m n : ℕ) :
    ((compare e f).then (compare m n)).isLE = true ↔ e < f ∨ e = f ∧ m ≤ n := by
  rw [Ordering.isLE_iff_ne_gt, Ordering.then_eq_gt, compare_gt_iff_gt, compare_eq_iff_eq,
    Nat.compare_eq_gt]
  omega

private theorem then_isGE (e f : ℤ) (m n : ℕ) :
    ((compare e f).then (compare m n)).isGE = true ↔ f < e ∨ e = f ∧ n ≤ m := by
  rw [Ordering.isGE_iff_ne_lt, Ordering.then_eq_lt, compare_lt_iff_lt, compare_eq_iff_eq,
    Nat.compare_eq_lt]
  omega

theorem unpacked_le_iff (a b : UnpackedFloat) :
    a.le b = true ↔ a.isNaN = false ∧ b.isNaN = false ∧ unpackedPoint a ≤ unpackedPoint b := by
  rcases a with (_ | _) | _ | _ | ⟨_ | _, m, e, _⟩ <;>
  rcases b with (_ | _) | _ | _ | ⟨_ | _, n, f, _⟩ <;>
  simp [UnpackedFloat.le, UnpackedFloat.compare, UnpackedFloat.isNaN, unpackedPoint, point_le_iff,
    then_isLE, then_isGE]
  -- The pairs of infinities are left: their signs are compared.
  all_goals rfl

/-! ### Comparison -/

/-- The point of a float. -/
def place (x : Float) : Point := unpackedPoint x.toModel.unpack

theorem lt_iff (x y : Float) : x < y ↔ x.isNaN = false ∧ y.isNaN = false ∧ place x < place y := by
  have unpacked : x < y ↔ x.toModel.unpack.lt y.toModel.unpack = true := decide_eq_true_iff
  rw [unpacked]
  exact unpacked_lt_iff _ _

theorem not_lt_self (x : Float) : ¬ x < x := by
  intro less
  exact lt_irrefl _ ((lt_iff x x).mp less).2.2

theorem lt_trans {x y z : Float} (left : x < y) (right : y < z) : x < z := by
  obtain ⟨number, _, first⟩ := (lt_iff x y).mp left
  obtain ⟨_, other, second⟩ := (lt_iff y z).mp right
  exact (lt_iff x z).mpr ⟨number, other, first.trans second⟩

/-- A number in between is comparable with one of the two sides. -/
theorem lt_or_lt {x z : Float} (less : x < z) {y : Float} (number : y.isNaN = false) :
    x < y ∨ y < z := by
  obtain ⟨left, right, places⟩ := (lt_iff x z).mp less
  rcases lt_or_ge (place x) (place y) with before | after
  · exact Or.inl ((lt_iff x y).mpr ⟨left, number, before⟩)
  · exact Or.inr ((lt_iff y z).mpr ⟨number, right, lt_of_le_of_lt after places⟩)

theorem le_iff (x y : Float) : x ≤ y ↔ x.isNaN = false ∧ y.isNaN = false ∧ place x ≤ place y := by
  have unpacked : x ≤ y ↔ x.toModel.unpack.le y.toModel.unpack = true := decide_eq_true_iff
  rw [unpacked]
  exact unpacked_le_iff _ _

theorem le_of_number {x : Float} (number : x.isNaN = false) : x ≤ x :=
  (le_iff x x).mpr ⟨number, number, le_refl _⟩

/-- Of two numbers one is at most the other. -/
theorem le_of_not_lt {x y : Float} (left : x.isNaN = false) (right : y.isNaN = false)
    (above : ¬ x < y) : y ≤ x := by
  have places : ¬ place x < place y := fun less => above ((lt_iff x y).mpr ⟨left, right, less⟩)
  exact (le_iff y x).mpr ⟨right, left, not_lt.mp places⟩

end Geolocation.FloatOrder
