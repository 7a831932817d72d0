import Geolocation.Text.Digits
import Geolocation.Text.Split

/-!
# IP addresses

Addresses of both versions, their texts, and their bits. An address of version 6 that carries one of
version 4 is another address than the one it carries. The text of an address of version 6 replaces its
longest run of two or more zero groups, the first of several, by two colons; an address of version 4
mapped into it is written with dots.
-/

namespace Geolocation

/-- An address of version 4 or 6 by its bits. -/
inductive IpAddress where
  | v4 (bits : BitVec 32)
  | v6 (bits : BitVec 128)
  deriving DecidableEq, Hashable, Repr

namespace IpAddress

/-! ### Reading -/

/-- The value of a decimal octet: up to three digits without leading zeros, at most 255. -/
def octet? (s : List Char) : Option Nat :=
  if s.isEmpty ∨ 3 < s.length ∨ !s.all Char.isDigit then none
  else if s.head? = some '0' ∧ 1 < s.length then none
  else
    let value := Text.digitsValue s
    if value ≤ 255 then some value else none

/-- The number whose digits to the given base these are, the highest first. -/
def joinDigits (base : Nat) (digits : List Nat) : Nat := digits.foldl (fun n d => base * n + d) 0

/-- The number of an address of version 4: four octets with dots between them. -/
def readV4? (s : List Char) : Option Nat :=
  match Text.splitOn '.' s with
  | [a, b, c, d] => ([a, b, c, d].mapM octet?).map (joinDigits 256)
  | _ => none

/-- The value of a group of an address of version 6: one to four hexadecimal digits. -/
def group? (s : List Char) : Option Nat :=
  if s.isEmpty ∨ 4 < s.length then none else Text.hexNumber? s

/-- The groups with colons between them, of which there may be none. If `dotted`, the last part may be
an address of version 4, which makes two groups. -/
def groups? (dotted : Bool) (s : List Char) : Option (List Nat) :=
  if s.isEmpty then some []
  else
    let parts := Text.splitOn ':' s
    match (if dotted then parts.getLast?.bind readV4? else none) with
    | some address =>
      (parts.dropLast.mapM group?).map (· ++ [address / 0x10000, address % 0x10000])
    | none => parts.mapM group?

/-- The parts before and after the first two colons in a row. -/
def splitGap : List Char → Option (List Char × List Char)
  | ':' :: ':' :: rest => some ([], rest)
  | c :: rest => (splitGap rest).map fun (before, after) => (c :: before, after)
  | [] => none

/-- The eight groups of an address of version 6. Two colons stand for at least one group of zero. -/
def readV6? (s : List Char) : Option (List Nat) :=
  match splitGap s with
  | none => do
    let groups ← groups? true s
    if groups.length = 8 then return groups else none
  | some (before, after) => do
    let before ← groups? false before
    let after ← groups? true after
    if before.length + after.length ≤ 7 then
      return before ++ List.replicate (8 - before.length - after.length) 0 ++ after
    else none

def read? (text : String) : Option IpAddress :=
  match readV4? text.toList with
  | some n => some (.v4 (BitVec.ofNat 32 n))
  | none => (readV6? text.toList).map fun groups => .v6 (BitVec.ofNat 128 (joinDigits 0x10000 groups))

/-! ### Writing -/

/-- The text of the octets of a number of 32 bits. -/
def dottedText (n : Nat) : String :=
  ".".intercalate ([n / 0x1000000, n / 0x10000 % 256, n / 256 % 256, n % 256].map toString)

/-- The eight groups of a number of 128 bits, the highest first. -/
def groupsOf (n : Nat) : List Nat :=
  (List.range 8).map fun i => n >>> (16 * (7 - i)) % 0x10000

/-- The text of groups with colons between them. -/
def groupsText (groups : List Nat) : String :=
  ":".intercalate (groups.map fun group => String.ofList (Nat.toDigits 16 group))

/-- Where the longest run of zero groups starts, and how long it is. -/
def longestGap (groups : List Nat) : Nat × Nat :=
  (List.range groups.length).foldl
    (fun longest start =>
      let length := ((groups.drop start).takeWhile (· = 0)).length
      if longest.2 < length then (start, length) else longest)
    (0, 0)

def text : IpAddress → String
  | .v4 bits => dottedText bits.toNat
  | .v6 bits =>
    -- The upper 96 bits of a mapped address of version 4 are 80 zeros and 16 ones.
    if bits.toNat / 0x100000000 = 0xffff then "::ffff:" ++ dottedText (bits.toNat % 0x100000000)
    else
      let groups := groupsOf bits.toNat
      let (start, length) := longestGap groups
      if 1 < length then
        groupsText (groups.take start) ++ "::" ++ groupsText (groups.drop (start + length))
      else groupsText groups

/-- The bits of an address, the highest first. -/
def bits : IpAddress → List Bool
  | .v4 bits => (List.range 32).map bits.getMsbD
  | .v6 bits => (List.range 128).map bits.getMsbD

end IpAddress

end Geolocation
