import Geolocation.Json.Value

/-!
# Documents

What is left of a JSON or TOML text once its notation is read: a tree of plain data. Both notations
give the same kind of tree, so that settings, requests and stores are each decoded by one set of rules.

A reader of JSON who passes over a part of a document need not understand it. Parts that are well
formed but have no value are kept as `unreadable`: a number beyond the range of floats, a string with
half of a surrogate pair, and lists and tables that are nested too deeply. They do no harm in a field
that nobody asks for.
-/

namespace Geolocation

/-- A tree of plain data. The fields of a table stand in the order of the text, repeated ones too. -/
inductive Document where
  | null
  | bool (value : Bool)
  | int (value : Int)
  | float (value : Float)
  | text (value : String)
  | list (items : List Document)
  | table (fields : List (String × Document))
  | unreadable
  deriving Inhabited, Repr

namespace Document

mutual

/-- The value of a document as free JSON, if all its parts are readable. -/
def toJson? : Document → Option Json
  | .null => some .null
  | .bool value => some (.bool value)
  | .int value => some (.int value)
  | .float value => some (.float value)
  | .text value => some (.string value)
  | .list items => (itemsToJson? items).map .array
  | .table fields => (fieldsToJson? fields).map Json.ofFields
  | .unreadable => none

def itemsToJson? : List Document → Option (List Json)
  | [] => some []
  | item :: rest => do
    let value ← toJson? item
    let values ← itemsToJson? rest
    return value :: values

def fieldsToJson? : List (String × Document) → Option (List (String × Json))
  | [] => some []
  | (name, value) :: rest => do
    let value ← toJson? value
    let values ← fieldsToJson? rest
    return (name, value) :: values

end

mutual

def ofJson : Json → Document
  | .null => .null
  | .bool value => .bool value
  | .int value => .int value
  | .float value => .float value
  | .string value => .text value
  | .array items => .list (itemsOfJson items)
  | .object fields => .table (fieldsOfJson fields)

def itemsOfJson : List Json → List Document
  | [] => []
  | item :: rest => ofJson item :: itemsOfJson rest

def fieldsOfJson : List (String × Json) → List (String × Document)
  | [] => []
  | (name, value) :: rest => (name, ofJson value) :: fieldsOfJson rest

end

/-- Has every part of the document a value? -/
def isReadable (d : Document) : Bool := d.toJson?.isSome

end Document

end Geolocation
