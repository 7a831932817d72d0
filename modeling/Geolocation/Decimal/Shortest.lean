import Geolocation.Decimal.Magnitude

/-!
# The fewest digits that identify a float

Of all decimals that read back as a given float, the one written is the nearest of those with the
fewest digits. The search goes through the grids of one, two, … seventeen significant digits. On each
grid only the two neighbours of the value can be candidates: were any point of the grid to read back,
one of these two would, since they are nearer. The first grid with a candidate therefore has the
fewest digits. Seventeen digits identify every double; should the search fail, the exact value is
returned, so that a wrong number is never written.
-/

namespace Geolocation.Decimal

/-- Which of two equally near candidates is written. -/
inductive Tie where
  | toEven
  | up
  deriving Repr, DecidableEq

/-- Is the lower of two neighbours on a grid to be taken, given twice the rest and the unit? -/
private def takesLower (tie : Tie) (lower : Nat) (rest unit : Nat) : Bool :=
  match compare (2 * rest) unit, tie with
  | .lt, _ => true
  | .gt, _ => false
  | .eq, .up => false
  | .eq, .toEven => lower % 2 == 0

/-- The candidate with `n` significant digits, where `scale` is the scale of the value. -/
def candidate? (tie : Tie) (x : Magnitude) (scale : Int) (n : Nat) : Option Scaled :=
  let e := scale - n
  let (lower, rest, unit) := x.divideBy e
  let below : Scaled := ⟨lower, e⟩
  let above : Scaled := ⟨lower + 1, e⟩
  match x.readsBack below, x.readsBack above with
  | true, true => some (if takesLower tie lower rest unit then below else above)
  | true, false => some below
  | false, true => some above
  | false, false => none

/-- Moves trailing zeros of the digits into the exponent; at most `fuel` of them. -/
def stripZeros : Nat → Scaled → Scaled
  | 0, d => d
  | fuel + 1, d =>
    if d.digits ≠ 0 ∧ d.digits % 10 = 0 then stripZeros fuel ⟨d.digits / 10, d.exponent + 1⟩ else d

/-- The magnitude written out in full. -/
def Magnitude.exact (x : Magnitude) : Scaled :=
  if 0 ≤ x.exponent then ⟨x.significand * Nat.pow 2 x.exponent.toNat, 0⟩
  else ⟨x.significand * Nat.pow 5 (-x.exponent).toNat, x.exponent⟩

/-- The decimal with the fewest digits that reads back as the magnitude. -/
def shortest (tie : Tie) (x : Magnitude) : Scaled :=
  if x.significand = 0 then ⟨0, 0⟩
  else
    let scale := x.scale
    let found := ((List.range 17).findSome? fun n => candidate? tie x scale (n + 1)).getD x.exact
    stripZeros (digitCount found.digits) found

end Geolocation.Decimal
