import Geolocation.Document.Basic
import Geolocation.Text.Digits

/-!
# Strings, numbers and dates of TOML

Each function reads one piece from the front of a list of characters and returns the rest. A date or a
time is checked and then kept as an empty table, since it has no part that a setting could be read from.
-/

namespace Geolocation.Toml

open Text (digitsValue hexValue? hexNumber?)

/-! ### Characters -/

/-- Is this a blank inside a line? -/
def isSpace (c : Char) : Bool := c = ' ' || c = '\t'

/-- The rest behind the blanks at the front. -/
def skipSpace (s : List Char) : List Char := s.dropWhile isSpace

/-- May the character stand in a line: in a comment, or in a string that has no escapes? -/
def isPlain (c : Char) : Bool := c = '\t' || (0x20 ≤ c.toNat && c.toNat ≠ 0x7f)

/-- Reads the end of a line, in either form. -/
def readNewline : List Char → Option (List Char)
  | '\n' :: rest => some rest
  | '\r' :: '\n' :: rest => some rest
  | _ => none

/-- The rest behind the comment at the front, if there is one. -/
def skipComment : List Char → List Char
  | '#' :: rest => rest.dropWhile isPlain
  | s => s

/-! ### Strings -/

/-- The character with this code point, if there is one. -/
def scalar? (n : Nat) : Option Char := if n.isValidChar then some (Char.ofNat n) else none

/-- Reads `count` hexadecimal digits and gives the character with that code point. -/
def readScalar (count : Nat) (s : List Char) : Option (Char × List Char) :=
  if s.length < count then none
  else do
    let n ← hexNumber? (s.take count)
    let c ← scalar? n
    return (c, s.drop count)

/-- Reads what follows a backslash and gives the character it stands for. -/
def readEscape : List Char → Option (Char × List Char)
  | 'b' :: rest => some ('\x08', rest)
  | 't' :: rest => some ('\t', rest)
  | 'n' :: rest => some ('\n', rest)
  | 'f' :: rest => some ('\x0c', rest)
  | 'r' :: rest => some ('\r', rest)
  | '"' :: rest => some ('"', rest)
  | '\\' :: rest => some ('\\', rest)
  | 'u' :: rest => readScalar 4 rest
  | 'U' :: rest => readScalar 8 rest
  | _ => none

/-- Reads a string of one line up to its closing quote; `escapes` tells whether backslashes count.
`text` holds the characters before, the last first, and `fuel` bounds their number. -/
def readLine (quote : Char) (escapes : Bool) :
    Nat → List Char → List Char → Option (String × List Char)
  | 0, _, _ => none
  | _ + 1, _, [] => none
  | fuel + 1, text, c :: rest =>
    if c = quote then some (String.ofList text.reverse, rest)
    else if escapes ∧ c = '\\' then
      match readEscape rest with
      | none => none
      | some (c, rest) => readLine quote escapes fuel (c :: text) rest
    else if isPlain c then readLine quote escapes fuel (c :: text) rest
    else none

/-- The rest behind blanks and ends of lines, of which there must be one before anything else. -/
def skipFold (s : List Char) : Option (List Char) := do
  let s ← readNewline (skipSpace s)
  return s.dropWhile fun c => isSpace c || c = '\n' || c = '\r'

/-- Does a carriage return stand alone at the front of what `skipFold` passes over? -/
def foldsCleanly (s : List Char) : Bool :=
  let blanks := s.takeWhile fun c => isSpace c || c = '\n' || c = '\r'
  (blanks.zip (s.drop 1 ++ [' '])).all fun (c, next) => c ≠ '\r' || next = '\n'

/-- Reads a string of several lines up to its three closing quotes, in front of which up to two more
may stand. Ends of lines are kept as line feeds. -/
def readLines (quote : Char) (escapes : Bool) :
    Nat → List Char → List Char → Option (String × List Char)
  | 0, _, _ => none
  | _ + 1, _, [] => none
  | fuel + 1, text, c :: rest =>
    if c = quote then
      -- Of up to five quotes in a row the last three close the string.
      let quotes := (c :: rest).takeWhile (· = quote)
      if quotes.length < 3 then readLines quote escapes fuel (c :: text) rest
      else if quotes.length ≤ 5 then
        some (String.ofList (quotes.drop 3 ++ text).reverse, rest.drop (quotes.length - 1))
      else none
    else if escapes ∧ c = '\\' then
      match readEscape rest with
      | some (c, rest) => readLines quote escapes fuel (c :: text) rest
      | none =>
        match skipFold rest with
        | some after => if foldsCleanly rest then readLines quote escapes fuel text after else none
        | none => none
    else
      match readNewline (c :: rest) with
      | some rest => readLines quote escapes fuel ('\n' :: text) rest
      | none => if isPlain c then readLines quote escapes fuel (c :: text) rest else none

/-- The rest behind an end of line at the front, if there is one. -/
def skipNewline (s : List Char) : List Char := (readNewline s).getD s

/-- Reads a string of one line, if one comes next; `fuel` bounds its length. -/
def readLineString (fuel : Nat) (s : List Char) : Option (String × List Char) :=
  match s with
  | '"' :: rest => readLine '"' true fuel [] rest
  | '\'' :: rest => readLine '\'' false fuel [] rest
  | _ => none

/-- Reads a string of either form; `fuel` bounds its length. -/
def readString (fuel : Nat) (s : List Char) : Option (String × List Char) :=
  match s with
  | '"' :: '"' :: '"' :: rest => readLines '"' true fuel [] (skipNewline rest)
  | '\'' :: '\'' :: '\'' :: rest => readLines '\'' false fuel [] (skipNewline rest)
  | s => readLineString fuel s

/-! ### Numbers -/

/-- Reads digits of a class between which single underscores may stand; at least one digit. `digits`
holds those before, the last first. -/
def readDigitsAfter (isDigit : Char → Bool) :
    List Char → List Char → Option (List Char × List Char)
  | digits, '_' :: c :: rest =>
    if isDigit c ∧ digits ≠ [] then readDigitsAfter isDigit (c :: digits) rest
    else if digits = [] then none else some (digits.reverse, '_' :: c :: rest)
  | digits, c :: rest =>
    if isDigit c then readDigitsAfter isDigit (c :: digits) rest
    else if digits = [] then none else some (digits.reverse, c :: rest)
  | digits, [] => if digits = [] then none else some (digits.reverse, [])

/-- Reads digits of a class between which single underscores may stand. -/
def readDigits (isDigit : Char → Bool) (s : List Char) : Option (List Char × List Char) :=
  readDigitsAfter isDigit [] s

/-- Reads a whole number in decimal digits: zero alone, or digits that do not start with zero. -/
def readWhole : List Char → Option (List Char × List Char)
  | '0' :: rest => some (['0'], rest)
  | s => readDigits Char.isDigit s

/-- Reads a sign, if one comes next, and tells whether it is a minus. -/
def readSign : List Char → Bool × List Char
  | '+' :: rest => (false, rest)
  | '-' :: rest => (true, rest)
  | s => (false, s)

/-- A whole number, if it fits 64 bits with a sign. -/
def wholeDocument? (n : Int) : Option Document :=
  if Text.fitsInt64 n then some (.int n) else none

/-- Reads the digits of a number to the base 16, 8 or 2. -/
def readBased (base : Nat) (s : List Char) : Option (Document × List Char) := do
  let (digits, rest) ← readDigits (fun c => (hexValue? c).any (· < base)) s
  let n := digits.foldl (fun n c => base * n + (hexValue? c).getD 0) 0
  let d ← wholeDocument? n
  return (d, rest)

/-- Reads a power of ten, if one comes next. -/
def readPower (s : List Char) : Option (Option Int × List Char) :=
  match s with
  | c :: rest =>
    if c = 'e' ∨ c = 'E' then do
      let (negative, rest) := readSign rest
      let (digits, rest) ← readDigits Char.isDigit rest
      let n : Int := digitsValue digits
      return (some (if negative then -n else n), rest)
    else some (none, s)
  | [] => some (none, [])

/-- Reads a point and the digits behind it, if a point comes next. -/
def readPlaces (s : List Char) : Option (Option (List Char) × List Char) :=
  match s with
  | '.' :: rest => (readDigits Char.isDigit rest).map fun (digits, rest) => (some digits, rest)
  | s => some (none, s)

/-- The float nearest to `digits * 10 ^ exponent`, with halves to the even neighbour. -/
def nearestFloat (digits : Nat) (exponent : Int) : Float :=
  let order := exponent + (toString digits).length
  -- Far outside the range of floats the order settles it, and no power of ten of that size is formed.
  if digits = 0 ∨ order < -400 then 0.0
  else if 400 < order then Float.ofScientific 1 false 400
  else Float.ofScientific digits (exponent < 0) exponent.natAbs

/-- Reads a number in decimal digits, behind its sign. A float may not be so large that it rounds to
infinity; only below zero does it become infinite. -/
def readDecimal (negative : Bool) (s : List Char) : Option (Document × List Char) := do
  let (whole, s) ← readWhole s
  let (places, s) ← readPlaces s
  let (power, s) ← readPower s
  match places, power with
  | none, none =>
    let n : Int := digitsValue whole
    let d ← wholeDocument? (if negative then -n else n)
    return (d, s)
  | _, _ =>
    let places := places.getD []
    let x := nearestFloat (digitsValue (whole ++ places)) (power.getD 0 - places.length)
    if negative then return (.float (-x), s)
    else if x.isInf then none
    else return (.float x, s)

def readNumber (s : List Char) : Option (Document × List Char) :=
  match s with
  | '0' :: 'x' :: rest => readBased 16 rest
  | '0' :: 'o' :: rest => readBased 8 rest
  | '0' :: 'b' :: rest => readBased 2 rest
  | s =>
    match readSign s with
    | (negative, 'i' :: 'n' :: 'f' :: rest) =>
      some (.float (if negative then -1.0 / 0.0 else 1.0 / 0.0), rest)
    | (_, 'n' :: 'a' :: 'n' :: rest) => some (.float (0.0 / 0.0), rest)
    | (negative, rest) => readDecimal negative rest

/-! ### Dates and times -/

/-- Reads exactly `count` decimal digits. -/
def readFixed (count : Nat) (s : List Char) : Option (Nat × List Char) :=
  let digits := s.take count
  if digits.length = count ∧ digits.all Char.isDigit then some (digitsValue digits, s.drop count)
  else none

/-- Reads two digits whose value lies in a range. -/
def readPart (low high : Nat) (s : List Char) : Option (Nat × List Char) := do
  let (n, s) ← readFixed 2 s
  if low ≤ n ∧ n ≤ high then return (n, s) else none

def readChar (c : Char) : List Char → Option (List Char)
  | [] => none
  | d :: rest => if d = c then some rest else none

def daysIn (year month : Nat) : Nat :=
  if month = 2 then
    if year % 4 = 0 ∧ (year % 100 ≠ 0 ∨ year % 400 = 0) then 29 else 28
  else if month ∈ [4, 6, 9, 11] then 30 else 31

def skipDate (s : List Char) : Option (List Char) := do
  let (year, s) ← readFixed 4 s
  let s ← readChar '-' s
  let (month, s) ← readPart 1 12 s
  let s ← readChar '-' s
  let (_, s) ← readPart 1 (daysIn year month) s
  return s

def skipTime (s : List Char) : Option (List Char) := do
  let (_, s) ← readPart 0 23 s
  let s ← readChar ':' s
  let (_, s) ← readPart 0 59 s
  let s ← readChar ':' s
  let (_, s) ← readPart 0 60 s
  match s with
  | '.' :: rest =>
    match Text.splitDigits rest with
    | ([], _) => none
    | (_, rest) => return rest
  | s => return s

/-- The rest behind the distance from universal time, if one comes next. -/
def skipOffset (s : List Char) : Option (List Char) :=
  match s with
  | 'Z' :: rest => some rest
  | 'z' :: rest => some rest
  | c :: rest =>
    if c = '+' ∨ c = '-' then do
      let (_, rest) ← readPart 0 23 rest
      let rest ← readChar ':' rest
      let (_, rest) ← readPart 0 59 rest
      return rest
    else some s
  | [] => some []

def skipMoment (s : List Char) : Option (List Char) :=
  match skipDate s with
  | some rest =>
    match rest with
    | c :: after =>
      if c = 'T' ∨ c = 't' ∨ c = ' ' then
        match skipTime after with
        | some after => skipOffset after
        | none => some rest
      else some rest
    | [] => some []
  | none => skipTime s

end Geolocation.Toml
