import Geolocation.Document.Decode

/-!
# Callers and their requests

Who asks for a location, as the holder of a key under which calls are made, and what is reported about
a device, before it is checked: the cells and access points it sees, its IP address, and the policy
flags. A request is decoded from a document; its numbers fit 64 bits and signal strengths 32 bits.
-/

namespace Geolocation

structure Caller where
  name : String
  /-- Are counters kept for this caller? -/
  logged : Bool
  /-- May the external service be asked for this caller? -/
  mayAskService : Bool
  deriving DecidableEq, Repr

structure CellReport where
  radio : String
  mcc : Int
  mnc : Int
  lac : Int
  cid : Option Int
  signal : Option Int
  deriving DecidableEq, Repr

structure WifiReport where
  key : String
  signal : Option Int
  deriving DecidableEq, Repr

/-- The raw request of a caller. -/
structure Request where
  cells : List CellReport
  wifis : List WifiReport
  ip : Option String
  /-- Any JSON value; an object of flags is expected. -/
  policy : Option Json
  deriving Repr

namespace Request

/-- A whole number of 64 bits. -/
def toInt64? (d : Document) : Option Int := d.toInt? (-0x8000000000000000) 0x7fffffffffffffff

/-- The strength of a signal, a whole number of 32 bits. -/
def toSignal? (d : Document) : Option Int := d.toInt? (-0x80000000) 0x7fffffff

def toCell? (d : Document) : Option CellReport := do
  match ← d.fields? .exact ["radio", "mcc", "mnc", "lac", "cid", "signal"] with
  | [radio, mcc, mnc, lac, cid, signal] =>
    return {
      radio := ← Document.required Document.toText? radio
      mcc := ← Document.required toInt64? mcc
      mnc := ← Document.required toInt64? mnc
      lac := ← Document.required toInt64? lac
      cid := ← Document.defaulted none (Document.toOption? toInt64?) cid
      signal := ← Document.defaulted none (Document.toOption? toSignal?) signal
    }
  | _ => none

def toWifi? (d : Document) : Option WifiReport := do
  match ← d.fields? .exact ["key", "signal"] with
  | [key, signal] =>
    return {
      key := ← Document.required Document.toText? key
      signal := ← Document.defaulted none (Document.toOption? toSignal?) signal
    }
  | _ => none

def ofDocument? (d : Document) : Option Request := do
  match ← d.fields? .exact ["cell", "wifi", "ip", "fallbacks"] with
  | [cells, wifis, ip, policy] =>
    return {
      cells := ← Document.defaulted [] (Document.toList? toCell?) cells
      wifis := ← Document.defaulted [] (Document.toList? toWifi?) wifis
      ip := ← Document.defaulted none (Document.toOption? Document.toText?) ip
      policy := ← Document.defaulted none (Document.toOption? Document.toJson?) policy
    }
  | _ => none

end Request

end Geolocation
