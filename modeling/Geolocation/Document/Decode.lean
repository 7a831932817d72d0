import Geolocation.Document.Basic

/-!
# Decoding documents

The rules by which the shape that a reader expects is found in a document. A whole number is accepted
for a float and never the reverse; null is accepted only where a value may be missing. A record is a
table, of which unknown fields are passed over and known ones may not be repeated, or a list of its
fields in their order, of which the last ones may be missing.
-/

namespace Geolocation.Document

/-- A whole number from `low` to `high`. -/
def toInt? (low high : Int) : Document → Option Int
  | .int value => if low ≤ value ∧ value ≤ high then some value else none
  | _ => none

/-- A natural number up to `high`. -/
def toNat? (high : Nat) (d : Document) : Option Nat := (d.toInt? 0 high).map Int.toNat

def toFloat? : Document → Option Float
  | .int value => some (Float.ofInt value)
  | .float value => some value
  | _ => none

def toText? : Document → Option String
  | .text value => some value
  | _ => none

def toBool? : Document → Option Bool
  | .bool value => some value
  | _ => none

/-- Null, or what `decode` accepts. -/
def toOption? {α : Type} (decode : Document → Option α) : Document → Option (Option α)
  | .null => some none
  | d => (decode d).map some

def toList? {α : Type} (decode : Document → Option α) : Document → Option (List α)
  | .list items => items.mapM decode
  | _ => none

def max16 : Nat := 0xffff

def max32 : Nat := 0xffffffff

def max64 : Nat := 0xffffffffffffffff

/-- The values of the fields with this name, in the order of the text. -/
def valuesOf (name : String) (fields : List (String × Document)) : List Document :=
  (fields.filter fun field => field.1 = name).map (·.2)

/-- The value of a field that occurs at most once: `none` if it is repeated. -/
def single? (name : String) (fields : List (String × Document)) : Option (Option Document) :=
  match valuesOf name fields with
  | [] => some none
  | [value] => some (some value)
  | _ => none

/-- How a record may be written besides as a table. -/
inductive ListForm where
  /-- Not as a list. -/
  | refused
  /-- As a list with at most as many items as there are fields. -/
  | exact
  /-- As a list, of which items beyond the last field are passed over. -/
  | open
  deriving DecidableEq, Repr

/-- The values of the named fields of a record, each if it is there. -/
def fields? (form : ListForm) (names : List String) : Document → Option (List (Option Document))
  | .table fields => names.mapM fun name => single? name fields
  | .list items =>
    match form with
    | .refused => none
    | .exact =>
      if names.length < items.length then none
      else some ((List.range names.length).map fun i => items[i]?)
    | .open => some ((List.range names.length).map fun i => items[i]?)
  | _ => none

def required {α : Type} (decode : Document → Option α) (field : Option Document) : Option α :=
  field.bind decode

def defaulted {α : Type} (otherwise : α) (decode : Document → Option α)
    (field : Option Document) : Option α :=
  match field with
  | none => some otherwise
  | some d => decode d

end Geolocation.Document
