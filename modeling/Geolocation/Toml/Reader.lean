import Geolocation.Toml.Scalar
import Geolocation.Toml.Table

/-!
# Reading TOML

Lines of entries under headers. Values may be nested: lists run over several lines and may end in a
comma, inline tables stay in their line and may not. Lists, inline tables and dotted keys are refused
from a depth of 80 on.

The readers of strings, keys and values are bounded by fuel. Each of their steps takes a character or
leads to one that does, so that two steps for every character of the text are enough.
-/

namespace Geolocation.Toml

/-- The depth from which on nesting is refused. -/
def depthLimit : Nat := 80

/-! ### Keys -/

/-- May the character stand in a key without quotes? -/
def isBare (c : Char) : Bool :=
  ('a' ≤ c && c ≤ 'z') || ('A' ≤ c && c ≤ 'Z') || c.isDigit || c = '_' || c = '-'

/-- Reads a key without dots. -/
def readSimpleKey (fuel : Nat) (s : List Char) : Option (String × List Char) :=
  match s with
  | '"' :: _ => readLineString fuel s
  | '\'' :: _ => readLineString fuel s
  | s =>
    match s.takeWhile isBare with
    | [] => none
    | name => some (String.ofList name, s.dropWhile isBare)

/-- Reads keys with dots between them, and the blanks around; `fuel` bounds their number. -/
def readKeys : Nat → List Char → Option (List String × List Char)
  | 0, _ => none
  | fuel + 1, s => do
    let (key, s) ← readSimpleKey fuel (skipSpace s)
    match skipSpace s with
    | '.' :: s =>
      let (keys, s) ← readKeys fuel s
      return (key :: keys, s)
    | s => return ([key], s)

/-- Reads a key that may be dotted, and gives its path and its last part. -/
def readKey (fuel : Nat) (s : List Char) : Option (List String × String × List Char) := do
  let (keys, s) ← readKeys fuel s
  let key ← keys.getLast?
  if keys.length < depthLimit then return (keys.dropLast, key, s) else none

/-! ### Values -/

/-- The rest behind everything in a list that is not an item: blanks, comments and ends of lines;
`fuel` bounds the number of lines. -/
def skipFiller : Nat → List Char → List Char
  | 0, s => s
  | fuel + 1, s =>
    let s := skipComment (skipSpace s)
    match readNewline s with
    | some rest => skipFiller fuel rest
    | none => s

mutual

/-- Reads a value inside `depth` lists and inline tables; `fuel` bounds the number of steps. -/
def readValue : Nat → Nat → List Char → Option (Document × List Char)
  | 0, _, _ => none
  | fuel + 1, depth, s =>
    match s with
    | '"' :: _ => (readString fuel s).map fun (text, s) => (.text text, s)
    | '\'' :: _ => (readString fuel s).map fun (text, s) => (.text text, s)
    | '[' :: s =>
      if depth + 1 < depthLimit then
        (readItems fuel (depth + 1) (skipFiller fuel s)).map fun (items, s) => (.list items, s)
      else none
    | '{' :: s =>
      if depth + 1 < depthLimit then do
        let (entries, s) ← match skipSpace s with
          | '}' :: s => some ([], s)
          | s => readEntries fuel (depth + 1) s
        let t ← (Table.empty .header).assignAll? entries
        return (t.toDocument, s)
      else none
    | 't' :: 'r' :: 'u' :: 'e' :: s => some (.bool true, s)
    | 'f' :: 'a' :: 'l' :: 's' :: 'e' :: s => some (.bool false, s)
    | s =>
      match skipMoment s with
      | some s => some (.table [], s)
      | none => readNumber s

/-- Reads the items of a list up to its closing bracket. -/
def readItems : Nat → Nat → List Char → Option (List Document × List Char)
  | 0, _, _ => none
  | fuel + 1, depth, s =>
    match s with
    | ']' :: s => some ([], s)
    | s => do
      let (item, s) ← readValue fuel depth s
      match skipFiller fuel s with
      | ',' :: s =>
        let (items, s) ← readItems fuel depth (skipFiller fuel s)
        return (item :: items, s)
      | ']' :: s => return ([item], s)
      | _ => none

/-- Reads the entries of an inline table up to its closing brace. -/
def readEntries : Nat → Nat → List Char → Option (List Entry × List Char)
  | 0, _, _ => none
  | fuel + 1, depth, s => do
    let (path, key, s) ← readKey fuel s
    let s ← readChar '=' s
    let (value, s) ← readValue fuel depth (skipSpace s)
    match skipSpace s with
    | ',' :: s =>
      let (entries, s) ← readEntries fuel depth s
      return (⟨path, key, value⟩ :: entries, s)
    | '}' :: s => return ([⟨path, key, value⟩], s)
    | _ => none

end

/-! ### Lines -/

inductive Line where
  | blank
  | entry (e : Entry)
  | header (repeated : Bool) (path : List String) (key : String)

/-- Reads the end of a line behind blanks and a comment, or the end of the text. -/
def readLineEnd (s : List Char) : Option (List Char) :=
  match skipComment (skipSpace s) with
  | [] => some []
  | s => readNewline s

def readTextLine (fuel : Nat) (s : List Char) : Option (Line × List Char) := do
  let (line, s) ← match skipSpace s with
    | [] => some (.blank, [])
    | '#' :: s => some (.blank, '#' :: s)
    | '\n' :: s => some (.blank, '\n' :: s)
    | '\r' :: s => some (.blank, '\r' :: s)
    | '[' :: '[' :: s => do
      let (path, key, s) ← readKey fuel s
      let s ← readChar ']' s
      let s ← readChar ']' s
      some (.header true path key, s)
    | '[' :: s => do
      let (path, key, s) ← readKey fuel s
      let s ← readChar ']' s
      some (.header false path key, s)
    | s => do
      let (path, key, s) ← readKey fuel s
      let s ← readChar '=' s
      let s := skipSpace s
      let (value, s) ← readValue fuel 0 s
      some (.entry ⟨path, key, value⟩, s)
  let s ← readLineEnd s
  return (line, s)

/-- Reads the lines of a text, of which there are at most `count`. -/
def readTextLines (fuel : Nat) : Nat → List Char → Option (List Line)
  | 0, _ => none
  | _ + 1, [] => some []
  | count + 1, s => do
    let (line, s) ← readTextLine fuel s
    let lines ← readTextLines fuel count s
    return line :: lines

/-- Sorts lines under their headers: the entries before the first header, and the sections. -/
def groupLines : List Line → List Entry × List Section
  | [] => ([], [])
  | .blank :: rest => groupLines rest
  | .entry e :: rest =>
    let (top, sections) := groupLines rest
    (e :: top, sections)
  | .header repeated path key :: rest =>
    let (entries, sections) := groupLines rest
    ([], ⟨repeated, path, key, entries⟩ :: sections)

/-- The document of a TOML text, without the byte order mark it may start with. -/
def read? (text : String) : Option Document := do
  let s := match text.toList with
    | '\ufeff' :: rest => rest
    | s => s
  let lines ← readTextLines (2 * s.length + 2) (s.length + 1) s
  let (top, sections) := groupLines lines
  assemble? top sections

end Geolocation.Toml
