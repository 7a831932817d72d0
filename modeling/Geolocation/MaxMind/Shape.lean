import Geolocation.MaxMind.Data

/-!
# Shapes of records

A reader of a database knows which fields its records have and of what type each is, and reads the data
by that. Fields that are unknown may hold anything and are passed over. A record may also be written as
a list of its fields in their order. Such a list may be longer, but what stands behind the last field
is left unread: whoever reads on finds it next.
-/

namespace Geolocation.MaxMind

inductive Shape where
  | bool
  | text
  /-- A whole number up to `high`. -/
  | whole (high : Nat)
  | float
  /-- A map from texts to texts. -/
  | texts
  | list (item : Shape)
  /-- A record in which every field may be missing. -/
  | record (fields : List (String × Shape))

/-- What is read by a shape. -/
inductive Content where
  | bool (value : Bool)
  | text (value : String)
  | whole (value : Nat)
  | float (value : Float)
  | texts (entries : List (String × String))
  | list (items : List Content)
  /-- The known fields that are there. -/
  | record (fields : List (String × Content))
  deriving Inhabited, Repr

namespace Content

def toText? : Content → Option String
  | .text value => some value
  | _ => none

def toNat? : Content → Option Nat
  | .whole value => some value
  | _ => none

def toFloat? : Content → Option Float
  | .float value => some value
  | _ => none

def texts? : Content → Option (List (String × String))
  | .texts entries => some entries
  | _ => none

def field? (name : String) : Content → Option Content
  | .record fields => (fields.find? fun field => field.1 = name).map (·.2)
  | _ => none

end Content

/-! ### Reading by kind -/

/-- Reads a scalar and takes it for what `accept` makes of it. -/
def readAs {α : Type} (data : ByteArray) (accept : Scalar → Option α) : Reader α := fun position => do
  let head ← readHead data position
  let (scalar, stop) ← readScalar data head
  return (← accept scalar, stop)

/-- Reads an entry of a map from texts to texts. -/
def readEntry (data : ByteArray) : Reader (String × String) := fun position => do
  let (key, position) ← readAs data Scalar.toText? position
  let (value, position) ← readAs data Scalar.toText? position
  return ((key, value), position)

def readTexts (data : ByteArray) : Reader (List (String × String)) := fun position => do
  let head ← readHead data position
  if head.kind = .map then
    let (entries, stop) ← readMany (readEntry data) head.size head.start
    return (entries, head.next stop)
  else none

def readList {α : Type} (data : ByteArray) (item : Reader α) : Reader (List α) := fun position => do
  let head ← readHead data position
  if head.kind = .list then
    let (items, stop) ← readMany item head.size head.start
    return (items, head.next stop)
  else none

/-! ### Records -/

/-- The known fields of a record, each with the reader of its content. -/
abbrev FieldReaders : Type := List (String × Reader Content)

def fieldNamed? (known : FieldReaders) (name : String) : Option (String × Reader Content) :=
  known.find? fun field => field.1 = name

/-- The known field that a key stands for, by its name or by its place among them. `none` if it can be
no key, and `some none` if it is the key of an unknown field. -/
def fieldOf? (known : FieldReaders) : Scalar → Option (Option (String × Reader Content))
  | .text name => some (fieldNamed? known name)
  | .bytes name => some ((String.fromUTF8? name).bind (fieldNamed? known))
  | .unsigned place => some known[place]?
  | _ => none

/-- Reads a field: its content if it is known. -/
def readField (data : ByteArray) (known : FieldReaders) : Reader (Option (String × Content)) :=
  fun position => do
    let (field, position) ← readAs data (fieldOf? known) position
    match field with
    | none =>
      let (_, position) ← skipValue data position
      return (none, position)
    | some (name, read) =>
      let (content, position) ← read position
      return (some (name, content), position)

/-- Reads the content of each field, one after another. -/
def readEach : FieldReaders → Reader (List (String × Content))
  | [], position => some ([], position)
  | (name, read) :: rest, position => do
    let (content, position) ← read position
    let (fields, position) ← readEach rest position
    return ((name, content) :: fields, position)

/-- Is no field given twice? -/
def namesDiffer : List (String × Content) → Bool
  | [] => true
  | (name, _) :: rest => (rest.all fun other => other.1 ≠ name) && namesDiffer rest

def readRecord (data : ByteArray) (known : FieldReaders) : Reader (List (String × Content)) :=
  fun position => do
    let head ← readHead data position
    match head.kind with
    | .map =>
      let (fields, stop) ← readMany (readField data known) head.size head.start
      let fields := fields.filterMap id
      if namesDiffer fields then return (fields, head.next stop) else none
    | .list =>
      if head.size < known.length then none
      else
        let (fields, stop) ← readEach known head.start
        return (fields, head.next stop)
    | _ => none

/-! ### Reading by shape -/

def readContentOf {α : Type} (wrap : α → Content) (read : Reader α) : Reader Content :=
  fun position => (read position).map fun (value, stop) => (wrap value, stop)

namespace Shape

mutual

def read (data : ByteArray) : Shape → Reader Content
  | .bool => readContentOf .bool (readAs data Scalar.toBool?)
  | .text => readContentOf .text (readAs data Scalar.toText?)
  | .whole high => readContentOf .whole (readAs data (Scalar.toNat? high))
  | .float => readContentOf .float (readAs data Scalar.toFloat?)
  | .texts => readContentOf .texts (readTexts data)
  | .list item => readContentOf .list (readList data (read data item))
  | .record fields => readContentOf .record (readRecord data (readers data fields))

def readers (data : ByteArray) : List (String × Shape) → FieldReaders
  | [] => []
  | (name, shape) :: rest => (name, read data shape) :: readers data rest

end

end Shape

end Geolocation.MaxMind
