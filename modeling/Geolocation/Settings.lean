import Geolocation.Document.Decode
import Geolocation.Toml.Reader

/-!
# Settings

What can be tuned, in groups, each setting with the value it has when nobody sets it. Settings are read
from TOML or decoded from JSON under the same names.
-/

namespace Geolocation

namespace Settings

/-- The smallest accuracy in meters that is reported for each kind of evidence. -/
structure Accuracy where
  wifi : Float := 100.0
  cell : Float := 1000.0
  area : Float := 10000.0
  address : Float := 25000.0
  deriving DecidableEq, Repr

/-- How long and how far to search. -/
structure Search where
  /-- Milliseconds for a provider that has no limit of its own. -/
  timeLimit : Nat := 2000
  /-- The accuracy with which a position of the engine's own stores ends the search. -/
  earlyExit : Option Float := none
  deriving DecidableEq, Repr

/-- What it takes to locate by access points. -/
structure Wifi where
  /-- The least number of access points in a query. -/
  queryMinimum : Nat := 2
  /-- The least number of known access points in one place. -/
  clusterMinimum : Nat := 2
  /-- The largest distance in meters between neighbours in one place. -/
  linkDistance : Float := 500.0
  deriving DecidableEq, Repr

structure Service where
  url : Option String := none
  /-- Milliseconds. -/
  timeLimit : Nat := 5000
  /-- The service is asked only while the accuracy is worse than this. -/
  threshold : Float := 5000.0
  deriving DecidableEq, Repr

/-- Where counters are sent. -/
structure Statsd where
  enabled : Bool := false
  host : String := "localhost"
  portNumber : Nat := 8125
  scope : String := "location"
  deriving DecidableEq, Repr

structure Files where
  networks : Option String := none
  addresses : Option String := none
  deriving DecidableEq, Repr

end Settings

structure Settings where
  accuracy : Settings.Accuracy := {}
  search : Settings.Search := {}
  wifi : Settings.Wifi := {}
  service : Settings.Service := {}
  statsd : Settings.Statsd := {}
  files : Settings.Files := {}
  deriving DecidableEq, Repr

namespace Settings

open Document

def toAccuracy? (form : ListForm) (d : Document) : Option Accuracy := do
  let otherwise : Accuracy := {}
  match ← d.fields? form ["wifi_min", "cell_min", "cell_area_min", "geoip_min"] with
  | [wifi, cell, area, address] =>
    return {
      wifi := ← defaulted otherwise.wifi toFloat? wifi
      cell := ← defaulted otherwise.cell toFloat? cell
      area := ← defaulted otherwise.area toFloat? area
      address := ← defaulted otherwise.address toFloat? address
    }
  | _ => none

def toSearch? (form : ListForm) (d : Document) : Option Search := do
  let otherwise : Search := {}
  match ← d.fields? form ["provider_timeout_ms", "early_exit_accuracy"] with
  | [timeLimit, earlyExit] =>
    return {
      timeLimit := ← defaulted otherwise.timeLimit (toNat? max64) timeLimit
      earlyExit := ← defaulted otherwise.earlyExit (toOption? toFloat?) earlyExit
    }
  | _ => none

def toWifi? (form : ListForm) (d : Document) : Option Wifi := do
  let otherwise : Wifi := {}
  match ← d.fields? form ["min_query_wifis", "min_cluster_size", "max_cluster_distance"] with
  | [queryMinimum, clusterMinimum, linkDistance] =>
    return {
      queryMinimum := ← defaulted otherwise.queryMinimum (toNat? max64) queryMinimum
      clusterMinimum := ← defaulted otherwise.clusterMinimum (toNat? max64) clusterMinimum
      linkDistance := ← defaulted otherwise.linkDistance toFloat? linkDistance
    }
  | _ => none

def toService? (form : ListForm) (d : Document) : Option Service := do
  let otherwise : Service := {}
  match ← d.fields? form ["url", "timeout_ms", "accuracy_threshold"] with
  | [url, timeLimit, threshold] =>
    return {
      url := ← defaulted otherwise.url (toOption? toText?) url
      timeLimit := ← defaulted otherwise.timeLimit (toNat? max64) timeLimit
      threshold := ← defaulted otherwise.threshold toFloat? threshold
    }
  | _ => none

def toStatsd? (form : ListForm) (d : Document) : Option Statsd := do
  let otherwise : Statsd := {}
  match ← d.fields? form ["enabled", "host", "port", "metric_prefix"] with
  | [enabled, host, portNumber, scope] =>
    return {
      enabled := ← defaulted otherwise.enabled toBool? enabled
      host := ← defaulted otherwise.host toText? host
      portNumber := ← defaulted otherwise.portNumber (toNat? max16) portNumber
      scope := ← defaulted otherwise.scope toText? scope
    }
  | _ => none

def toFiles? (form : ListForm) (d : Document) : Option Files := do
  let otherwise : Files := {}
  match ← d.fields? form ["path", "geoip_path"] with
  | [networks, addresses] =>
    return {
      networks := ← defaulted otherwise.networks (toOption? toText?) networks
      addresses := ← defaulted otherwise.addresses (toOption? toText?) addresses
    }
  | _ => none

/-- Decodes settings from a document whose records may be lists of the given form. -/
def ofDocument? (form : ListForm) (d : Document) : Option Settings := do
  match ← d.fields? form ["accuracy", "search", "wifi", "fallback", "statsd", "store"] with
  | [accuracy, search, wifi, service, statsd, files] =>
    return {
      accuracy := ← defaulted {} (toAccuracy? form) accuracy
      search := ← defaulted {} (toSearch? form) search
      wifi := ← defaulted {} (toWifi? form) wifi
      service := ← defaulted {} (toService? form) service
      statsd := ← defaulted {} (toStatsd? form) statsd
      files := ← defaulted {} (toFiles? form) files
    }
  | _ => none

def read? (text : String) : Option Settings := (Toml.read? text).bind (ofDocument? .open)

end Settings

end Geolocation
