import Geolocation.Fault
import Geolocation.Document.Decode
import Geolocation.IpAddress
import Geolocation.MaxMind.Shape
import Geolocation.Store.AddressRecord

/-!
# MaxMind databases

A database starts with a binary tree over the bits of addresses, goes on with the data that the tree
refers to, and ends with a record about itself behind a marker. Each node of the tree has two numbers,
of which a bit of the address chooses one: the number of another node, the number of nodes, which says
that nothing is known, or the place of a record in the data. Databases for addresses of version 6 keep
those of version 4 below 96 zero bits.
-/

namespace Geolocation.MaxMind

/-! ### Opening -/

/-- The bytes before the record that a database keeps about itself. -/
def marker : List UInt8 := [0xab, 0xcd, 0xef] ++ "MaxMind.com".toUTF8.toList

def isMarkerAt (data : ByteArray) (position : Nat) : Bool :=
  (data.extract position (position + marker.length)).toList = marker

/-- The last position up to this one at which the marker stands. -/
def lastMarker? (data : ByteArray) : Nat → Option Nat
  | 0 => if isMarkerAt data 0 then some 0 else none
  | position + 1 =>
    if isMarkerAt data (position + 1) then some (position + 1) else lastMarker? data position

/-- The position behind the last occurrence of the marker. -/
def metadataStart? (data : ByteArray) : Option Nat :=
  (lastMarker? data data.size).map (· + marker.length)

/-- The fields of the record of a database about itself. All of them have to be there. -/
def metadataFields : List (String × Shape) :=
  [("binary_format_major_version", .whole Document.max16),
    ("binary_format_minor_version", .whole Document.max16),
    ("build_epoch", .whole Document.max64),
    ("database_type", .text),
    ("description", .texts),
    ("ip_version", .whole Document.max16),
    ("languages", .list .text),
    ("node_count", .whole Document.max32),
    ("record_size", .whole Document.max16)]

structure Database where
  data : ByteArray
  nodes : Nat
  /-- The bits of one of the two numbers of a node. -/
  width : Nat
  /-- Are its addresses of version 6? -/
  long : Bool

namespace Database

/-- The position at which the data that the tree refers to starts. -/
def dataStart (db : Database) : Nat := db.nodes * db.width / 4 + 16

/-- The data that the tree refers to, and all behind it. -/
def content (db : Database) : ByteArray := db.data.extract db.dataStart db.data.size

/-- The number of a node that a bit chooses; `none` if it is not there or has another width than 24, 28
or 32 bits. Numbers of 28 bits keep their highest bits in a byte between them. -/
def child? (db : Database) (node : Nat) (bit : Bool) : Option Nat :=
  let start := node * db.width / 4
  match db.width with
  | 24 => readNumber db.data 3 (if bit then start + 3 else start)
  | 28 => do
    let middle ← readNumber db.data 1 (start + 3)
    let low ← readNumber db.data 3 (if bit then start + 4 else start)
    return (if bit then middle % 16 else middle / 16) * 0x1000000 + low
  | 32 => readNumber db.data 4 (if bit then start + 4 else start)
  | _ => none

/-- Descends from a node by bits, as far as there are nodes. -/
def descend (db : Database) (node : Nat) : List Bool → Option Nat
  | [] => some node
  | bit :: rest =>
    if db.nodes ≤ node then some node
    else (db.child? node bit).bind fun next => descend db next rest

/-- The node below which addresses of version 4 are kept. -/
def shortStart? (db : Database) : Option Nat :=
  if db.long then db.descend 0 (List.replicate 96 false) else some 0

/-- Opens a database. Its record about itself has to be complete, and the tree has to lead to the
addresses of version 4. -/
def open? (data : ByteArray) : Option Database := do
  let start ← metadataStart? data
  let (metadata, _) ← (Shape.record metadataFields).read (data.extract start data.size) 0
  if metadataFields.all fun field => (metadata.field? field.1).isSome then
    let nodes ← (metadata.field? "node_count").bind Content.toNat?
    let width ← (metadata.field? "record_size").bind Content.toNat?
    let version ← (metadata.field? "ip_version").bind Content.toNat?
    let db : Database := ⟨data, nodes, width, version = 6⟩
    if db.shortStart?.isSome then return db else none
  else none

/-! ### Looking up -/

/-- The place of the record of an address in the data, or none if nothing is known; fails on a tree
that is damaged. -/
def find (db : Database) (address : IpAddress) : Except Fault (Option Nat) :=
  let damaged := Fault.store "damaged database"
  let start? := match address with
    | .v4 _ => db.shortStart?
    | .v6 _ => some 0
  match start?.bind fun start => db.descend start address.bits with
  | none => .error damaged
  | some node =>
    if node < db.nodes then .error damaged
    else if node = db.nodes then .ok none
    -- Places count from the end of the tree, and sixteen zero bytes part it from the data.
    else if node < db.nodes + 16 then .error damaged
    else .ok (some (node - db.nodes - 16))

/-- The names of a place in several languages, and its number. -/
def placeFields : List (String × Shape) := [("geoname_id", .whole Document.max32), ("names", .texts)]

def countryShape : Shape :=
  .record [("geoname_id", .whole Document.max32), ("is_in_european_union", .bool), ("iso_code", .text),
    ("names", .texts)]

/-- The shape of the place of an address. -/
def locationShape : Shape :=
  .record [("accuracy_radius", .whole Document.max16), ("latitude", .float), ("longitude", .float),
    ("metro_code", .whole Document.max16), ("time_zone", .text)]

/-- The shape of a record about an address. -/
def cityShape : Shape :=
  .record [("city", .record placeFields),
    ("continent", .record [("code", .text), ("geoname_id", .whole Document.max32), ("names", .texts)]),
    ("country", countryShape),
    ("location", locationShape),
    ("postal", .record [("code", .text)]),
    ("registered_country", countryShape),
    ("represented_country", .record [("geoname_id", .whole Document.max32),
      ("is_in_european_union", .bool), ("iso_code", .text), ("names", .texts), ("type", .text)]),
    ("subdivisions", .list (.record [("geoname_id", .whole Document.max32), ("iso_code", .text),
      ("names", .texts)])),
    ("traits", .record [("is_anonymous_proxy", .bool), ("is_anycast", .bool),
      ("is_satellite_provider", .bool)])]

def lastText? (name : String) (texts : List (String × String)) : Option String :=
  (texts.reverse.find? fun entry => entry.1 = name).map (·.2)

/-- What a record tells about its address. Radii are in kilometers there. -/
def recordOf (city : Content) : AddressRecord :=
  let location := city.field? "location"
  let country := city.field? "country"
  { lat := (location.bind (Content.field? "latitude")).bind Content.toFloat?
    lon := (location.bind (Content.field? "longitude")).bind Content.toFloat?
    radius := ((location.bind (Content.field? "accuracy_radius")).bind Content.toNat?).map fun
      kilometers => Float.ofNat kilometers * 1000.0
    countryCode := (country.bind (Content.field? "iso_code")).bind Content.toText?
    countryName := ((country.bind (Content.field? "names")).bind Content.texts?).bind
      (lastText? "en") }

/-- What a database knows about an address. -/
def lookup (db : Database) (address : IpAddress) : Except Fault (Option AddressRecord) := do
  match ← db.find address with
  | none => return none
  | some place =>
    match cityShape.read db.content place with
    | some (city, _) => return some (recordOf city)
    | none => throw (.store "unexpected record")

end Database

end Geolocation.MaxMind
