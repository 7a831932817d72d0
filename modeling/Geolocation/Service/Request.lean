import Geolocation.Query.Basic

/-!
# Requests to the external locate service

What leaves the engine: the cells whose number is known and the access points of a query, with their
signals, and nothing else. The service is told not to consider the address it is called from. A request
is posted over HTTP as one JSON document.
-/

namespace Geolocation

/-- A call over HTTP that posts a document. -/
structure HttpPost where
  url : String
  userAgent : String
  contentType : String
  body : Json
  deriving Repr

structure ServiceCell where
  cell : Cell
  signal : Option Int
  deriving DecidableEq, Repr

structure ServiceWifi where
  /-- The hardware address with colons. -/
  address : String
  signal : Option Int
  deriving DecidableEq, Repr

structure ServiceRequest where
  cells : List ServiceCell
  wifis : List ServiceWifi
  deriving DecidableEq, Repr

namespace ServiceRequest

def ofQuery (query : Query) : ServiceRequest where
  cells := query.cells.filterMap fun sighting => sighting.cell?.map (⟨·, sighting.signal⟩)
  wifis := query.wifis.map fun sighting => ⟨sighting.key.address, sighting.signal⟩

def isEmpty (request : ServiceRequest) : Bool := request.cells.isEmpty && request.wifis.isEmpty

def signalFields (signal : Option Int) : List (String × Json) :=
  signal.toList.map fun strength => ("signalStrength", .int strength)

def cellJson (report : ServiceCell) : Json :=
  .object ([("radioType", .string report.cell.area.radio.name),
    ("mobileCountryCode", .int report.cell.area.mcc),
    ("mobileNetworkCode", .int report.cell.area.mnc),
    ("locationAreaCode", .int report.cell.area.lac),
    ("cellId", .int report.cell.cid)] ++ signalFields report.signal)

def wifiJson (report : ServiceWifi) : Json :=
  .object (("macAddress", .string report.address) :: signalFields report.signal)

def toJson (request : ServiceRequest) : Json :=
  .object [("cellTowers", .array (request.cells.map cellJson)),
    ("wifiAccessPoints", .array (request.wifis.map wifiJson)),
    ("considerIp", .bool false)]

def post (url : String) (request : ServiceRequest) : HttpPost where
  url := url
  userAgent := "locus/0.3.0"
  contentType := "application/json"
  body := request.toJson

end ServiceRequest

end Geolocation
