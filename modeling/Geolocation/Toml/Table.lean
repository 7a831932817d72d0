import Geolocation.Document.Basic

/-!
# Tables of a TOML text

A table is built up over the whole text: by its header, by headers of tables inside it and by dotted
keys. Which of these may still add to it depends on how it came about. A header opens a table once; it
may open one that so far was only implied by the header of an inner table, but none that a dotted key
made. A dotted key adds only to tables made by dotted keys. Inline tables and plain lists are closed.
-/

namespace Geolocation.Toml

/-- How a table came about. -/
inductive Origin where
  /-- By its own header, or as the top of the text. -/
  | header
  /-- As part of the header of an inner table. -/
  | implied
  /-- As part of a dotted key. -/
  | dotted
  deriving DecidableEq, Repr

mutual

/-- What a key of a table stands for. -/
inductive Item where
  | value (d : Document)
  | table (t : Table)
  /-- The tables under one header in double brackets, in order. -/
  | tables (ts : List Table)

/-- A table with its entries in the order of the text. -/
inductive Table where
  | mk (origin : Origin) (entries : List (String × Item))

end

namespace Table

def origin : Table → Origin
  | mk origin _ => origin

def entries : Table → List (String × Item)
  | mk _ entries => entries

def empty (origin : Origin) : Table := mk origin []

def get? (t : Table) (key : String) : Option Item :=
  (t.entries.find? fun entry => entry.1 = key).map (·.2)

/-- Replaces the item of a key in a list of entries, or adds it at the end. -/
def setEntry (key : String) (item : Item) : List (String × Item) → List (String × Item)
  | [] => [(key, item)]
  | (other, kept) :: rest =>
    if other = key then (key, item) :: rest else (other, kept) :: setEntry key item rest

def set (t : Table) (key : String) (item : Item) : Table :=
  mk t.origin (setEntry key item t.entries)

/-- Changes the table that a path leads to, and makes the tables on the way that are missing. `made` is
the origin of those: a dotted key may not pass through tables that have a header. -/
def change? (made : Origin) (change : Table → Option Table) : List String → Table → Option Table
  | [], t => change t
  | key :: path, t =>
    match t.get? key with
    | none => (change? made change path (empty made)).map fun child => t.set key (.table child)
    | some (.table child) =>
      if made = .dotted ∧ child.origin = .header then none
      else (change? made change path child).map fun child => t.set key (.table child)
    -- Under a header in double brackets the path goes on in the latest table.
    | some (.tables ts) =>
      match ts.getLast? with
      | none => none
      | some child =>
        (change? made change path child).map fun child => t.set key (.tables (ts.dropLast ++ [child]))
    | some (.value _) => none

/-- Adds an entry whose key is new. -/
def add? (t : Table) (key : String) (d : Document) : Option Table :=
  match t.get? key with
  | none => some (t.set key (.value d))
  | some _ => none

/-- Adds the entry of a key that may be dotted. The path ends in a table made by dotted keys exactly
when it is not empty. -/
def assign? (t : Table) (path : List String) (key : String) (d : Document) : Option Table :=
  change? .dotted
    (fun inner =>
      if path.isEmpty = decide (inner.origin = .dotted) then none else inner.add? key d) path t

mutual

def toDocument : Table → Document
  | mk _ entries => .table (entryDocuments entries)

def entryDocuments : List (String × Item) → List (String × Document)
  | [] => []
  | (key, item) :: rest => (key, itemDocument item) :: entryDocuments rest

def itemDocument : Item → Document
  | .value d => d
  | .table t => toDocument t
  | .tables ts => .list (tableDocuments ts)

/-- The documents of the tables under one header. -/
def tableDocuments : List Table → List Document
  | [] => []
  | t :: rest => toDocument t :: tableDocuments rest

end

end Table

/-- One entry of a text: a key, its path in front of it, and the value. -/
structure Entry where
  path : List String
  key : String
  value : Document

def Table.assignAll? (t : Table) (entries : List Entry) : Option Table :=
  entries.foldlM (fun t entry => t.assign? entry.path entry.key entry.value) t

/-- A header and the entries below it. -/
structure Section where
  /-- Does the header stand in double brackets? -/
  repeated : Bool
  path : List String
  key : String
  entries : List Entry

/-- Adds the table of a section to its parent. -/
def Section.extend? (s : Section) (parent : Table) : Option Table :=
  match s.repeated, parent.get? s.key with
  | true, none =>
    ((Table.empty .header).assignAll? s.entries).map fun t => parent.set s.key (.tables [t])
  | true, some (.tables ts) =>
    ((Table.empty .header).assignAll? s.entries).map fun t => parent.set s.key (.tables (ts ++ [t]))
  | false, none =>
    ((Table.empty .header).assignAll? s.entries).map fun t => parent.set s.key (.table t)
  | false, some (.table t) =>
    if t.origin = .implied then
      ((Table.mk .header t.entries).assignAll? s.entries).map fun t => parent.set s.key (.table t)
    else none
  | _, _ => none

/-- The document of a text that starts with these entries and goes on with these sections. -/
def assemble? (top : List Entry) (sections : List Section) : Option Document := do
  let root ← (Table.empty .header).assignAll? top
  let root ← sections.foldlM (fun root s => root.change? .implied s.extend? s.path) root
  return root.toDocument

end Geolocation.Toml
