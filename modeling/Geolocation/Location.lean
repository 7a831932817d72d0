import Geolocation.Coordinate
import Geolocation.Json.Value

/-!
# Locations

What a search gives: a position with an accuracy, a country, or nothing. Locations are ordered by
precedence: anything found precedes nothing, a position precedes a country, and of two positions the
more accurate one precedes.
-/

namespace Geolocation

inductive Source where
  /-- The engine's own stores. -/
  | internal
  | fallback
  deriving DecidableEq, Repr

def Source.name : Source → String
  | .internal => "internal"
  | .fallback => "fallback"

/-- The source of a location and the policy flag under which it was found. -/
structure Provenance where
  source : Source
  flag : Option String
  deriving DecidableEq, Repr

/-- A place with the radius in meters within which the device is expected. -/
structure Position where
  place : Coordinate
  accuracy : Float
  provenance : Provenance
  deriving DecidableEq, Repr

structure Country where
  code : String
  name : String
  provenance : Provenance
  deriving DecidableEq, Repr

/-- The result of a search or of one of its steps. -/
inductive Location where
  /-- Nothing was found. `searched` tells whether there was anything to look for. -/
  | empty (searched : Bool)
  | position (p : Position)
  | country (c : Country)
  deriving DecidableEq, Repr

namespace Location

/-- Is it a location? A country without a code is none. -/
def isFound : Location → Bool
  | .empty _ => false
  | .position _ => true
  | .country c => c.code ≠ ""

/-- Was there anything to look for? -/
def wasSearched : Location → Bool
  | .empty searched => searched
  | _ => true

def accuracy? : Location → Option Float
  | .position p => some p.accuracy
  | _ => none

def provenance? : Location → Option Provenance
  | .empty _ => none
  | .position p => some p.provenance
  | .country c => some c.provenance

def source? (l : Location) : Option Source := l.provenance?.map (·.source)

def precedes (a b : Location) : Bool :=
  a.isFound &&
    (!b.isFound ||
      -- Both are found. Accuracies that cannot be compared leave the order as it was.
      match a.accuracy?, b.accuracy? with
      | some x, some y => x < y
      | some _, none => true
      | none, _ => false)

/-- The better of two locations, the first one where neither precedes. Two that are empty count as
searched if either does. -/
def merge (best candidate : Location) : Location :=
  if candidate.precedes best then candidate
  else
    match best, candidate with
    | .empty a, .empty b => .empty (a || b)
    | best, _ => best

/-! ### What two locations merge to -/

theorem merge_empty_empty (a b : Bool) : (empty a).merge (empty b) = empty (a || b) := rfl

theorem merge_empty_position (a : Bool) (p : Position) : (empty a).merge (position p) = position p := rfl

theorem merge_empty_country (a : Bool) (c : Country) :
    (empty a).merge (country c) = if c.code = "" then empty a else country c := by
  by_cases coded : c.code = "" <;> simp [merge, precedes, isFound, coded]

theorem merge_position_empty (p : Position) (b : Bool) : (position p).merge (empty b) = position p := rfl

/-- Of two positions that are equally accurate the first one stays. -/
theorem merge_position_position (p q : Position) :
    (position p).merge (position q) = if q.accuracy < p.accuracy then position q else position p := by
  by_cases closer : q.accuracy < p.accuracy <;>
    simp [merge, precedes, isFound, accuracy?, closer]

theorem merge_position_country (p : Position) (c : Country) :
    (position p).merge (country c) = position p := by
  simp [merge, precedes, isFound, accuracy?]

theorem merge_country_empty (c : Country) (b : Bool) : (country c).merge (empty b) = country c := rfl

theorem merge_country_position (c : Country) (p : Position) :
    (country c).merge (position p) = position p := by
  simp [merge, precedes, isFound, accuracy?]

/-- A country without a code gives way to one that has a code. -/
theorem merge_country_country (c d : Country) :
    (country c).merge (country d) = if c.code = "" ∧ d.code ≠ "" then country d else country c := by
  by_cases first : c.code = "" <;> by_cases second : d.code = "" <;>
    simp [merge, precedes, isFound, accuracy?, first, second]

/-! ### Rendering -/

private def provenanceFields (p : Provenance) : List (String × Json) :=
  [("source", .string p.source.name), ("fallback", Json.ofString? p.flag)]

def toJson : Location → Json
  | .empty searched => .object [("type", .string "empty"), ("query_data", .bool searched)]
  | .position p =>
    .object ([("type", .string "position"), ("lat", .float p.place.lat), ("lon", .float p.place.lon),
      ("accuracy", .float p.accuracy)] ++ provenanceFields p.provenance)
  | .country c =>
    .object ([("type", .string "country"), ("country_code", .string c.code),
      ("country_name", .string c.name)] ++ provenanceFields c.provenance)

end Location

end Geolocation
