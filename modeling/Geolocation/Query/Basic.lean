import Geolocation.Cell
import Geolocation.Distinct
import Geolocation.Fault
import Geolocation.IpAddress
import Geolocation.Json.Printer
import Geolocation.Query.Request
import Geolocation.WifiKey

/-!
# Queries

What is looked for: the valid and distinct cells and access points of a request in their order, each
with the signal of its first report, and the address if it is one. Reports that are invalid are left
out and not refused. The policy flags are kept as they came, so that flags that are no object can be
reported when somebody asks for one of them.
-/

namespace Geolocation

/-- A cell, or an area if the number of the cell is not known, as a device observes it. -/
structure CellSighting where
  area : CellArea
  cid : Option Nat
  signal : Option Int
  deriving DecidableEq, Repr

structure WifiSighting where
  key : WifiKey
  signal : Option Int
  deriving DecidableEq, Repr

namespace CellSighting

/-- The cell that is observed, if its number is known. -/
def cell? (sighting : CellSighting) : Option Cell := sighting.cid.map fun cid => ⟨sighting.area, cid⟩

/-- What tells two observations of cells apart. -/
def key (sighting : CellSighting) : CellArea × Option Nat := (sighting.area, sighting.cid)

end CellSighting

/-- The largest number of a cell: 28 bits. -/
def largestCid : Nat := 0xfffffff

/-- Do the numbers lie within their ranges? The number of the cell may be missing. -/
def CellReport.inRange (report : CellReport) : Bool :=
  (1 ≤ report.mcc && report.mcc ≤ 999) && (0 ≤ report.mnc && report.mnc ≤ 32767)
    && (1 ≤ report.lac && report.lac ≤ 65535) && report.cid.all fun cid => 1 ≤ cid && cid ≤ (largestCid : Int)

/-- The observation that a report makes, if it is valid. -/
def CellReport.sighting? (report : CellReport) : Option CellSighting :=
  match Radio.read report.radio with
  | .error _ => none
  | .ok radio =>
    if report.inRange then
      some ⟨⟨radio, report.mcc.toNat, report.mnc.toNat, report.lac.toNat⟩,
        report.cid.map Int.toNat, report.signal⟩
    else none

/-- The observation that a report makes, if its key is valid. -/
def WifiReport.sighting? (report : WifiReport) : Option WifiSighting :=
  (WifiKey.read? report.key).map fun key => ⟨key, report.signal⟩

structure Query where
  cells : List CellSighting
  wifis : List WifiSighting
  ip : Option IpAddress
  policy : Option Json
  deriving Repr

namespace Query

def ofRequest (request : Request) : Query where
  cells := distinctBy CellSighting.key (request.cells.filterMap CellReport.sighting?)
  wifis := distinctBy WifiSighting.key (request.wifis.filterMap WifiReport.sighting?)
  ip := request.ip.bind fun text => IpAddress.read? (Text.trim text)
  policy := request.policy

/-- The distinct areas of the cells, in order of their first appearance. -/
def areas (query : Query) : List CellArea := distinctBy id (query.cells.map (·.area))

def numberedCells (query : Query) : List Cell := query.cells.filterMap CellSighting.cell?

def wifiKeys (query : Query) : List WifiKey := query.wifis.map (·.key)

/-- The value of a policy flag, if there is one. Flags that are neither missing nor an object are
malformed. -/
def flag (query : Query) (name : String) : Except Fault (Option Json) :=
  match query.policy with
  | none | some .null => .ok none
  | some (.object flags) => .ok (Json.field? name flags)
  | some other => .error (.malformedPolicy ("expected an object, got " ++ other.compact))

end Query

end Geolocation
