/-!
# Exact magnitudes of binary floating-point numbers

Every finite `Float` is, up to its sign, an integer times a power of two. The functions here take a
float apart into that form, compare it with decimals by cross-multiplication, and place it between
two neighbouring powers of ten. All of it is integer arithmetic, so nothing is rounded.
-/

namespace Geolocation.Decimal

/-- The magnitude `significand * 2 ^ exponent` of a finite float. -/
structure Magnitude where
  significand : Nat
  exponent : Int
  /-- The next float below is half as far away as the next float above. -/
  narrowBelow : Bool
  deriving Repr, DecidableEq

/-- The decimal `digits * 10 ^ exponent`. -/
structure Scaled where
  digits : Nat
  exponent : Int
  deriving Repr, DecidableEq

/-- Does the sign bit of a float stand? It does for negative zero. -/
def isNegative (x : Float) : Bool := x.toBits >>> 63 == 1

/-- The magnitude of a finite float. NaN and the infinities have none and are to be told apart first. -/
def Magnitude.ofFloat (x : Float) : Magnitude :=
  let biased := ((x.toBits >>> 52) &&& 0x7ff).toNat
  let fraction := (x.toBits &&& 0xfffffffffffff).toNat
  if biased = 0 then ⟨fraction, -1074, false⟩
  else ⟨0x10000000000000 + fraction, (biased : Int) - 1075, fraction == 0 && biased > 1⟩

namespace Magnitude

/-- The numerator of the magnitude as a quotient of naturals. -/
def numerator (x : Magnitude) : Nat := x.significand * Nat.pow 2 x.exponent.toNat

/-- The denominator of the magnitude as a quotient of naturals. -/
def denominator (x : Magnitude) : Nat := Nat.pow 2 (-x.exponent).toNat

end Magnitude

/-- How many decimal digits a number has; zero has none. -/
def digitCount (n : Nat) : Nat := if n = 0 then 0 else (Nat.toDigits 10 n).length

/-- The least `k` with `x < 10 ^ k`, for a magnitude other than zero. -/
def Magnitude.scale (x : Magnitude) : Int :=
  if x.denominator ≤ x.numerator then digitCount (x.numerator / x.denominator)
  else 1 - digitCount ((x.denominator - 1) / x.numerator)

/-- Compares the decimal `d` with `n * 2 ^ e`. -/
def compareScaled (d : Scaled) (n : Nat) (e : Int) : Ordering :=
  compare (d.digits * Nat.pow 10 d.exponent.toNat * Nat.pow 2 (-e).toNat)
    (n * Nat.pow 2 e.toNat * Nat.pow 10 (-d.exponent).toNat)

/-- Does the decimal lie among the reals that round to this float? Those reach halfway to either
neighbour, and include the two ends exactly when the significand is even. -/
def Magnitude.readsBack (x : Magnitude) (d : Scaled) : Bool :=
  let low := if x.narrowBelow then 4 * x.significand - 1 else 4 * x.significand - 2
  let fromLow := compareScaled d low (x.exponent - 2)
  let fromHigh := compareScaled d (4 * x.significand + 2) (x.exponent - 2)
  let closed := x.significand % 2 == 0
  (fromLow == .gt || (closed && fromLow == .eq)) && (fromHigh == .lt || (closed && fromHigh == .eq))

/-- The whole number of units `10 ^ e` in the magnitude, with the rest and its denominator. -/
def Magnitude.divideBy (x : Magnitude) (e : Int) : Nat × Nat × Nat :=
  let top := x.numerator * Nat.pow 10 (-e).toNat
  let bottom := x.denominator * Nat.pow 10 e.toNat
  (top / bottom, top % bottom, bottom)

end Geolocation.Decimal
