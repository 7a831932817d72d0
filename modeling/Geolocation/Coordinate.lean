import Geolocation.Fault

/-!
# Coordinates

Places on a sphere of the mean radius of the Earth. Distances are great-circle distances in meters by
the haversine formula, which stays accurate for places that are close together. The mean of places is
the plain average of their degrees; it serves small neighbourhoods only.
-/

namespace Geolocation

/-- A place in degrees. -/
structure Coordinate where
  lat : Float
  lon : Float
  deriving DecidableEq, Repr

/-- The larger of two lengths. One that is not a number gives way to the other. -/
def larger (a b : Float) : Float := if a.isNaN then b else if a < b then b else a

namespace Coordinate

/-- The mean radius of the Earth in meters. -/
def earthRadius : Float := 6371000.0

/-- Is it a place on Earth? Neither number may be NaN or infinite. -/
def isValid (c : Coordinate) : Bool :=
  (c.lat.isFinite && -90.0 ≤ c.lat && c.lat ≤ 90.0)
    && (c.lon.isFinite && -180.0 ≤ c.lon && c.lon ≤ 180.0)

/-- Refuses what is no place on Earth. -/
def check (c : Coordinate) : Except Fault Unit :=
  if c.isValid then .ok () else .error (.invalidCoordinate c.lat c.lon)

def radians (degrees : Float) : Float := degrees * (3.141592653589793 / 180.0)

/-- The great-circle distance in meters. For two places exactly opposite each other rounding may push
the haversine above one, and the distance is then not a number. -/
def haversine (a b : Coordinate) : Float :=
  let halfLat := (radians (b.lat - a.lat) / 2.0).sin
  let halfLon := (radians (b.lon - a.lon) / 2.0).sin
  let h := halfLat * halfLat + (radians a.lat).cos * (radians b.lat).cos * (halfLon * halfLon)
  earthRadius * (2.0 * Float.atan2 h.sqrt (1.0 - h).sqrt)

/-- The distance between two places on Earth; the first of the two that is none is refused. -/
def distance (a b : Coordinate) : Except Fault Float := do
  a.check
  b.check
  return haversine a b

/-- The average of places, if there are any. -/
def mean? (places : List Coordinate) : Option Coordinate :=
  if places.isEmpty then none
  else
    let sum := places.foldl (fun sum c => (⟨sum.lat + c.lat, sum.lon + c.lon⟩ : Coordinate)) ⟨0.0, 0.0⟩
    let count := Float.ofNat places.length
    some ⟨sum.lat / count, sum.lon / count⟩

end Coordinate

end Geolocation
