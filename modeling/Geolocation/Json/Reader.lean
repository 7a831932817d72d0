import Geolocation.Document.Decode
import Geolocation.Text.Digits

/-!
# Reading JSON

The grammar of JSON over the characters of a text: no byte order mark, no comma behind the last item,
nothing behind the value. Each function reads one piece from the front of a list of characters and
returns the rest.

A number is read into the leading digits that fit 64 bits and a power of ten, and these two are brought
together in floating point. Lists and tables may be nested 127 deep; deeper ones are `unreadable`.
-/

namespace Geolocation.Json

open Text (digitValue digitsValue splitDigits)

/-- The rest behind the white space at the front. -/
def skipSpace (s : List Char) : List Char :=
  s.dropWhile fun c => c = ' ' || c = '\n' || c = '\t' || c = '\r'

/-! ### Numbers -/

/-- A number as it is written. -/
structure Numeral where
  negative : Bool
  whole : List Char
  /-- The digits behind the point, if there is one. -/
  fraction : Option (List Char)
  /-- The power of ten, if one is written. -/
  exponent : Option Int
  deriving Repr

/-- Appends digits to `n` while the number fits 64 bits; the digits that no longer fit are returned. -/
def takeFitting (n : Nat) : List Char → Nat × List Char
  | [] => (n, [])
  | c :: rest =>
    let next := 10 * n + digitValue c
    if next ≤ Document.max64 then takeFitting next rest else (n, c :: rest)

def powerOfTen (n : Nat) : Float := Float.ofScientific 1 false n

/-- Divides by `10 ^ n`, in steps of 308 powers, until nothing is left. -/
def scaleDown (x : Float) (n : Nat) : Float :=
  if n ≤ 308 then x / powerOfTen n
  else if x == 0.0 then x
  else scaleDown (x / powerOfTen 308) (n - 308)
termination_by n

/-- Multiplies by a power of ten; `none` beyond the largest float. -/
def scaleBy? (x : Float) (exponent : Int) : Option Float :=
  if exponent < 0 then some (scaleDown x exponent.natAbs)
  else if 308 < exponent then (if x == 0.0 then some x else none)
  else
    let product := x * powerOfTen exponent.natAbs
    if product.isInf then none else some product

/-- The float that a numeral writes; `none` beyond the largest one. -/
def Numeral.float? (n : Numeral) : Option Float :=
  let (leading, dropped) := takeFitting 0 n.whole
  let fraction := n.fraction.getD []
  let (significand, unread) := takeFitting leading fraction
  -- A whole digit that was dropped raises the power of ten, a place that was taken lowers it.
  let exponent : Int := n.exponent.getD 0 + dropped.length - (fraction.length - unread.length : Nat)
  (scaleBy? (Float.ofNat significand) exponent).map fun x => if n.negative then -x else x

/-- The number that a numeral writes. Whole numbers without point and exponent are kept exactly if
they fit 64 bits with or without a sign, except that negative zero is a float. -/
def Numeral.toDocument (n : Numeral) : Document :=
  let float := (n.float?.map Document.float).getD .unreadable
  match n.fraction, n.exponent with
  | none, none =>
    let value := digitsValue n.whole
    if n.negative then
      if value = 0 ∨ !Text.fitsInt64 (-value) then float else .int (-value)
    else if value ≤ Document.max64 then .int value else float
  | _, _ => float

/-- Reads the digits of a whole number, of which the first is zero only if it is alone. -/
def readWhole (s : List Char) : Option (List Char × List Char) :=
  match splitDigits s with
  | ([], _) => none
  | ('0' :: _ :: _, _) => none
  | split => some split

/-- Reads a point and the digits behind it, if a point comes next. -/
def readFraction (s : List Char) : Option (Option (List Char) × List Char) :=
  match s with
  | '.' :: s =>
    match splitDigits s with
    | ([], _) => none
    | (digits, s) => some (some digits, s)
  | s => some (none, s)

/-- Reads a power of ten, if one comes next. -/
def readExponent (s : List Char) : Option (Option Int × List Char) :=
  match s with
  | c :: s' =>
    if c = 'e' ∨ c = 'E' then
      let (negative, s'') := match s' with
        | '+' :: r => (false, r)
        | '-' :: r => (true, r)
        | r => (false, r)
      match splitDigits s'' with
      | ([], _) => none
      | (digits, rest) =>
        let value : Int := digitsValue digits
        some (some (if negative then -value else value), rest)
    else some (none, s)
  | [] => some (none, [])

def readNumeral (s : List Char) : Option (Numeral × List Char) := do
  let (negative, s) := match s with
    | '-' :: r => (true, r)
    | r => (false, r)
  let (whole, s) ← readWhole s
  let (fraction, s) ← readFraction s
  let (exponent, s) ← readExponent s
  return (⟨negative, whole, fraction, exponent⟩, s)

/-! ### Strings -/

/-- The 16-bit unit that four hexadecimal digits write. -/
def unit? (a b c d : Char) : Option Nat := Text.hexNumber? [a, b, c, d]

/-- A piece of a string: a character, or a unit that is half of a surrogate pair. -/
inductive Piece where
  | char (c : Char)
  | surrogate (unit : Nat)
  deriving Repr

def Piece.ofUnit (unit : Nat) : Piece :=
  if 0xd800 ≤ unit ∧ unit < 0xe000 then .surrogate unit else .char (Char.ofNat unit)

/-- The character behind a backslash that stands for another one. -/
def unescape? : Char → Option Char
  | '"' => some '"'
  | '\\' => some '\\'
  | '/' => some '/'
  | 'b' => some '\x08'
  | 'f' => some '\x0c'
  | 'n' => some '\n'
  | 'r' => some '\r'
  | 't' => some '\t'
  | _ => none

/-- Reads the pieces of a string up to its closing quote. `pieces` holds those before, the last
first. -/
def readPieces (pieces : List Piece) : List Char → Option (List Piece × List Char)
  | [] => none
  | '"' :: rest => some (pieces.reverse, rest)
  | '\\' :: 'u' :: a :: b :: c :: d :: rest =>
    match unit? a b c d with
    | none => none
    | some unit => readPieces (Piece.ofUnit unit :: pieces) rest
  | '\\' :: c :: rest =>
    match unescape? c with
    | none => none
    | some c => readPieces (.char c :: pieces) rest
  -- A control character does not stand for itself.
  | c :: rest => if c.toNat < 0x20 then none else readPieces (.char c :: pieces) rest

/-- The characters of the pieces, if each half of a surrogate pair is followed by its other half. -/
def joinPieces : List Piece → Option (List Char)
  | [] => some []
  | .char c :: rest => (joinPieces rest).map (c :: ·)
  | .surrogate high :: .surrogate low :: rest =>
    if high < 0xdc00 ∧ 0xdc00 ≤ low then
      (joinPieces rest).map (Char.ofNat (0x10000 + (high - 0xd800) * 0x400 + (low - 0xdc00)) :: ·)
    else none
  | .surrogate _ :: _ => none

/-- Reads a string behind its opening quote. The text is missing if the string is not readable. -/
def readString (s : List Char) : Option (Option String × List Char) :=
  (readPieces [] s).map fun (pieces, rest) =>
    ((joinPieces pieces).map String.ofList, rest)

/-! ### Values -/

def readWord (word : String) (value : Document) (s : List Char) : Option (Document × List Char) :=
  if word.toList.isPrefixOf s then some (value, s.drop word.length) else none

/-- How deeply lists and tables may be nested. -/
def maxDepth : Nat := 127

/-- A list or table that stands inside `depth` others. -/
def nested (depth : Nat) (value : Document) : Document :=
  if depth < maxDepth then value else .unreadable

/-- The table with these fields, if all their names are readable. -/
def tableOf (fields : List (Option String × Document)) : Document :=
  match fields.mapM fun (name, value) => name.map (·, value) with
  | some fields => .table fields
  | none => .unreadable

mutual

/-- Reads a value that stands inside `depth` lists and tables; `fuel` bounds the number of steps. -/
def readValue : Nat → Nat → List Char → Option (Document × List Char)
  | 0, _, _ => none
  | fuel + 1, depth, s =>
    match skipSpace s with
    | '"' :: s => (readString s).map fun (text, s) => ((text.map .text).getD .unreadable, s)
    | '[' :: s =>
      match skipSpace s with
      | ']' :: s => some (nested depth (.list []), s)
      | s => (readItems fuel (depth + 1) s).map fun (items, s) => (nested depth (.list items), s)
    | '{' :: s =>
      match skipSpace s with
      | '}' :: s => some (nested depth (.table []), s)
      | s => (readFields fuel (depth + 1) s).map fun (fields, s) => (nested depth (tableOf fields), s)
    | 't' :: s => readWord "true" (.bool true) ('t' :: s)
    | 'f' :: s => readWord "false" (.bool false) ('f' :: s)
    | 'n' :: s => readWord "null" .null ('n' :: s)
    | s => (readNumeral s).map fun (numeral, s) => (numeral.toDocument, s)

/-- Reads the items of a list up to its closing bracket. -/
def readItems : Nat → Nat → List Char → Option (List Document × List Char)
  | 0, _, _ => none
  | fuel + 1, depth, s =>
    match readValue fuel depth s with
    | none => none
    | some (item, s) =>
      match skipSpace s with
      | ',' :: s => (readItems fuel depth s).map fun (items, s) => (item :: items, s)
      | ']' :: s => some ([item], s)
      | _ => none

/-- Reads the fields of a table up to its closing brace. -/
def readFields : Nat → Nat → List Char → Option (List (Option String × Document) × List Char)
  | 0, _, _ => none
  | fuel + 1, depth, s =>
    match skipSpace s with
    | '"' :: s =>
      match readString s with
      | none => none
      | some (name, s) =>
        match skipSpace s with
        | ':' :: s =>
          match readValue fuel depth s with
          | none => none
          | some (value, s) =>
            match skipSpace s with
            | ',' :: s =>
              (readFields fuel depth s).map fun (fields, s) => ((name, value) :: fields, s)
            | '}' :: s => some ([(name, value)], s)
            | _ => none
        | _ => none
    | _ => none

end

/-- The document of a JSON text. Each step of the reader takes a character or leads to one that does,
so that two steps for every character are enough. -/
def read? (text : String) : Option Document :=
  let s := text.toList
  match readValue (2 * s.length + 2) 0 s with
  | some (value, rest) => if (skipSpace rest).isEmpty then some value else none
  | none => none

end Geolocation.Json
