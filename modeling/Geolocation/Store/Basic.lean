import Geolocation.Cell
import Geolocation.IpAddress
import Geolocation.Json.Reader
import Geolocation.Network.Basic
import Geolocation.Store.AddressRecord
import Geolocation.WifiKey
import Std.Data.HashMap

/-!
# Stores

A store keeps what is known about access points, cells, cell areas and IP addresses, each under its
key. It is read from a JSON document with a list of records for each kind. Of several records with one
key the last one counts; access points whose key is invalid are left out. A look-up answers in the
order of the question and passes over what is not known.
-/

namespace Geolocation

/-- Where a network has been seen. -/
structure Spot where
  place : Coordinate
  /-- Meters, if known. -/
  range : Option Float
  deriving DecidableEq, Repr

def Spot.network (key : String) (spot : Spot) : Network := ⟨key, spot.place, spot.range⟩

structure Store where
  wifis : Std.HashMap WifiKey Spot
  cells : Std.HashMap Cell Spot
  areas : Std.HashMap CellArea Spot
  addresses : Std.HashMap IpAddress AddressRecord

namespace Store

/-! ### Records -/

/-- The records of a store file, in their order. -/
structure Records where
  /-- The keys of access points are as they are written. -/
  wifis : List (String × Spot)
  cells : List (Cell × Spot)
  areas : List (CellArea × Spot)
  addresses : List (IpAddress × AddressRecord)
  deriving Repr

open Document

/-- Decodes a radio, by its name or as a table of that one field without content. -/
def toRadio? : Document → Option Radio
  | .text name => Radio.ofName? name
  | .table [(name, .null)] => Radio.ofName? name
  | .table [(name, .table [])] => Radio.ofName? name
  | _ => none

def toArea? (d : Document) : Option CellArea := do
  match ← d.fields? .refused ["radio", "mcc", "mnc", "lac"] with
  | [radio, mcc, mnc, lac] =>
    return {
      radio := ← required toRadio? radio
      mcc := ← required (toNat? max16) mcc
      mnc := ← required (toNat? max16) mnc
      lac := ← required (toNat? max32) lac
    }
  | _ => none

def toCell? (d : Document) : Option Cell := do
  match ← d.fields? .refused ["cid"] with
  | [cid] => return { area := ← toArea? d, cid := ← required (toNat? max32) cid }
  | _ => none

def toSpot? (d : Document) : Option Spot := do
  match ← d.fields? .refused ["lat", "lon", "range"] with
  | [lat, lon, range] =>
    return {
      place := ⟨← required toFloat? lat, ← required toFloat? lon⟩
      range := ← defaulted none (toOption? toFloat?) range
    }
  | _ => none

/-- Decodes an access point, which may be written as a list of its fields. -/
def toWifi? (d : Document) : Option (String × Spot) := do
  match ← d.fields? .exact ["key", "lat", "lon", "range"] with
  | [key, lat, lon, range] =>
    let key ← required toText? key
    let spot : Spot := {
      place := ⟨← required toFloat? lat, ← required toFloat? lon⟩
      range := ← defaulted none (toOption? toFloat?) range
    }
    return (key, spot)
  | _ => none

/-- Decodes a record with a key by decoding both from the same table, all of which has to be
readable. -/
def toRecord? {κ α : Type} (key : Document → Option κ) (content : Document → Option α)
    (d : Document) : Option (κ × α) :=
  if d.isReadable then do return (← key d, ← content d) else none

def toAddress? (d : Document) : Option IpAddress := do
  match ← d.fields? .refused ["ip"] with
  | [ip] => IpAddress.read? (← required toText? ip)
  | _ => none

def Records.ofDocument? (d : Document) : Option Records := do
  match ← d.fields? .exact ["wifi", "cell", "cell_area", "geoip"] with
  | [wifis, cells, areas, addresses] =>
    return {
      wifis := ← defaulted [] (toList? toWifi?) wifis
      cells := ← defaulted [] (toList? (toRecord? toCell? toSpot?)) cells
      areas := ← defaulted [] (toList? (toRecord? toArea? toSpot?)) areas
      addresses := ← defaulted []
        (toList? (toRecord? toAddress? AddressRecord.ofDocument?)) addresses
    }
  | _ => none

/-! ### Building -/

/-- The map in which each key has its last content. -/
def lastOfEach {κ α : Type} [BEq κ] [Hashable κ] (records : List (κ × α)) : Std.HashMap κ α :=
  records.foldl (fun map record => map.insert record.1 record.2) ∅

def ofRecords (records : Records) : Store where
  wifis := lastOfEach (records.wifis.filterMap fun (key, spot) => (WifiKey.read? key).map (·, spot))
  cells := lastOfEach records.cells
  areas := lastOfEach records.areas
  addresses := lastOfEach records.addresses

/-- The store that a JSON text writes. -/
def read? (text : String) : Option Store :=
  ((Json.read? text).bind Records.ofDocument?).map ofRecords

def empty : Store := ofRecords ⟨[], [], [], []⟩

/-! ### Asking -/

/-- The number of networks; addresses do not count. -/
def size (store : Store) : Nat := store.wifis.size + store.cells.size + store.areas.size

def lookupWifis (store : Store) (keys : List WifiKey) : List Network :=
  keys.filterMap fun key => store.wifis[key]?.map (Spot.network key.text)

def lookupCells (store : Store) (cells : List Cell) : List Network :=
  cells.filterMap fun cell => store.cells[cell]?.map (Spot.network cell.text)

def lookupAreas (store : Store) (areas : List CellArea) : List Network :=
  areas.filterMap fun area => store.areas[area]?.map (Spot.network area.text)

def lookupAddress (store : Store) (address : IpAddress) : Option AddressRecord :=
  store.addresses[address]?

end Store

end Geolocation
