import Geolocation.Decimal.Shortest

/-!
# Laying out decimals

Two ways of writing a float with the fewest digits that identify it: positionally, as messages show
numbers, and as a JSON number.
-/

namespace Geolocation.Decimal

private def signText (x : Float) : String := if isNegative x then "-" else ""

/-- The digits of `d` with a point where it belongs and no exponent. Whole numbers get `whole` behind
them, so `""` writes `91` and `".0"` writes `91.0`. -/
def positional (whole : String) (d : Scaled) : String :=
  let text := toString d.digits
  if 0 ≤ d.exponent then text ++ String.ofList (List.replicate d.exponent.toNat '0') ++ whole
  else
    let places := (-d.exponent).toNat
    let padded := String.ofList (List.replicate (places + 1 - text.length) '0') ++ text
    let point := padded.length - places
    String.ofList (padded.toList.take point) ++ "." ++ String.ofList (padded.toList.drop point)

/-- The digits of `d` with one of them before the point, and a signed exponent. -/
def scientific (d : Scaled) : String :=
  let text := (toString d.digits).toList
  let e := d.exponent + text.length - 1
  let fraction := text.drop 1
  let mantissa := text.take 1 ++ (if fraction.isEmpty then [] else '.' :: fraction)
  String.ofList mantissa ++ "e" ++ (if e < 0 then "-" else "+") ++ toString e.natAbs

/-- A float in a message: the fewest digits that identify it, never an exponent, and no point in a
whole number. A tie between two candidates goes up. -/
def messageText (x : Float) : String :=
  if x.isNaN then "NaN"
  else if x.isInf then signText x ++ "inf"
  else signText x ++ positional "" (shortest .up (Magnitude.ofFloat x))

/-- A finite float as a JSON number: the fewest digits that identify it, positionally with at least
one place while the exponent of the leading digit is from -5 to 15, and otherwise with a signed
exponent. A tie between two candidates goes to the even one. -/
def jsonText (x : Float) : String :=
  let d := shortest .toEven (Magnitude.ofFloat x)
  let leading := d.exponent + digitCount d.digits - 1
  signText x ++
    (if d.digits = 0 ∨ (-5 ≤ leading ∧ leading < 16) then positional ".0" d else scientific d)

end Geolocation.Decimal
