/-!
# JSON values

A value of free JSON: what a caller may put where no shape is prescribed. Objects list their fields in
the order in which they are written. `Json.ofFields` puts the fields of a free object in order of
their names and lets the last of several fields with one name win.
-/

namespace Geolocation

/-- A JSON value. Whole numbers that fit 64 bits are kept apart from all other numbers. -/
inductive Json where
  | null
  | bool (value : Bool)
  | int (value : Int)
  | float (value : Float)
  | string (value : String)
  | array (items : List Json)
  | object (fields : List (String × Json))
  deriving Inhabited, Repr

namespace Json

/-- Puts a field into a list that is ordered by name, in the place of one with the same name. -/
def setField (name : String) (value : Json) : List (String × Json) → List (String × Json)
  | [] => [(name, value)]
  | (other, kept) :: rest =>
    if name = other then (name, value) :: rest
    else if name < other then (name, value) :: (other, kept) :: rest
    else (other, kept) :: setField name value rest

/-- The object with these fields in order of their names, the last of each name. -/
def ofFields (fields : List (String × Json)) : Json :=
  .object (fields.foldl (fun ordered field => setField field.1 field.2 ordered) [])

/-- The value of the first field with this name. -/
def field? (name : String) (fields : List (String × Json)) : Option Json :=
  (fields.find? fun field => field.1 = name).map (·.2)

/-- A string, or null when there is none. -/
def ofString? (text : Option String) : Json := text.elim .null .string

end Json

end Geolocation
