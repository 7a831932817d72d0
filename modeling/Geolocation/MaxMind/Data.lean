/-!
# The data of a MaxMind database

A value starts with a control that tells its kind and size. A pointer stands for the value at another
place of the same data, and reading goes on behind the pointer. Everything here reads at a position and
gives the position behind what it read; nothing can be read behind the end of the data.
-/

namespace Geolocation.MaxMind

/-- Reads something at a position and gives the position behind it. -/
abbrev Reader (α : Type) : Type := Nat → Option (α × Nat)

/-- The bytes from a position on, as many as asked for. -/
def readBytes (data : ByteArray) (count position : Nat) : Option ByteArray :=
  if position + count ≤ data.size then some (data.extract position (position + count)) else none

/-- The number that bytes write, the highest first. -/
def bigEndian (bytes : ByteArray) : Nat := bytes.toList.foldl (fun n byte => 256 * n + byte.toNat) 0

/-- The number that is written in `count` bytes at a position. -/
def readNumber (data : ByteArray) (count position : Nat) : Option Nat :=
  (readBytes data count position).map bigEndian

/-- Reads `count` things one after another. -/
def readMany {α : Type} (read : Reader α) : Nat → Reader (List α)
  | 0, position => some ([], position)
  | count + 1, position => do
    let (value, position) ← read position
    let (values, position) ← readMany read count position
    return (value :: values, position)

/-! ### Controls and pointers -/

inductive Kind where
  | pointer
  | text
  | double
  | bytes
  | unsigned16
  | unsigned32
  | map
  | signed32
  | unsigned64
  | unsigned128
  | list
  | bool
  | float
  deriving DecidableEq, Repr

def Kind.ofNumber? : Nat → Option Kind
  | 1 => some .pointer
  | 2 => some .text
  | 3 => some .double
  | 4 => some .bytes
  | 5 => some .unsigned16
  | 6 => some .unsigned32
  | 7 => some .map
  | 8 => some .signed32
  | 9 => some .unsigned64
  | 10 => some .unsigned128
  | 11 => some .list
  | 14 => some .bool
  | 15 => some .float
  | _ => none

/-- The kind of a value, told by the upper three bits of its first byte, or from 8 on by a second
byte. -/
def readKind (data : ByteArray) (control position : Nat) : Option (Kind × Nat) := do
  if control / 32 = 0 then
    let more ← readNumber data 1 position
    return (← Kind.ofNumber? (more + 7), position + 1)
  else return (← Kind.ofNumber? (control / 32), position)

/-- The size that five bits tell, with up to three more bytes. -/
def readSize (data : ByteArray) (bits position : Nat) : Option (Nat × Nat) :=
  match bits with
  | 29 => (readNumber data 1 position).map fun n => (29 + n, position + 1)
  | 30 => (readNumber data 2 position).map fun n => (285 + n, position + 2)
  | 31 => (readNumber data 3 position).map fun n => (65821 + n, position + 3)
  | size => some (size, position)

/-- The position that a pointer of this size refers to. Two bits of the size tell how many bytes follow,
and three more are the highest of the number, except in the longest form. -/
def readPointer (data : ByteArray) (size position : Nat) : Option (Nat × Nat) := do
  let count := size / 8 % 4 + 1
  let low ← readNumber data count position
  let high := size % 8
  let target := match count with
    | 1 => 0x100 * high + low
    | 2 => 0x10000 * high + low + 2048
    | 3 => 0x1000000 * high + low + 526336
    | _ => low
  return (target, position + count)

/-- Where a value is found, and of what kind it is. It is no pointer. -/
structure Head where
  kind : Kind
  /-- How many bytes, items or fields there are. -/
  size : Nat
  /-- The position of the first of them. -/
  start : Nat
  /-- The position behind the pointer that was followed, if there was one. -/
  behind : Option Nat
  deriving DecidableEq, Repr

/-- Where reading goes on after a value that ends at a position. Behind a pointer it goes on where the
pointer ends, not where it leads. -/
def Head.next (head : Head) (stop : Nat) : Nat := head.behind.getD stop

/-- Reads the head of the value at a position; at most `fuel` pointers are followed. -/
def followHead (data : ByteArray) : Nat → Nat → Option Head
  | 0, _ => none
  | fuel + 1, position => do
    let control ← readNumber data 1 position
    let (kind, position) ← readKind data control (position + 1)
    let (size, position) ← readSize data (control % 32) position
    if kind = .pointer then
      let (target, behind) ← readPointer data size position
      let head ← followHead data fuel target
      return { head with behind := some behind }
    return ⟨kind, size, position, none⟩

/-- Reads the head of the value at a position. Pointers that do not lead back to themselves are fewer
than there are bytes. -/
def readHead (data : ByteArray) (position : Nat) : Option Head :=
  followHead data (data.size + 1) position

/-! ### Scalars -/

/-- A value without parts. -/
inductive Scalar where
  | bool (value : Bool)
  | bytes (value : ByteArray)
  | text (value : String)
  /-- A signed number of up to 32 bits. -/
  | signed (value : Int)
  /-- An unsigned number of up to 64 bits. -/
  | unsigned (value : Nat)
  /-- An unsigned number of up to 128 bits. -/
  | wide (value : Nat)
  | float (value : Float)

namespace Scalar

def toBool? : Scalar → Option Bool
  | .bool value => some value
  | _ => none

/-- The text of a scalar; bytes that are text count. -/
def toText? : Scalar → Option String
  | .text value => some value
  | .bytes value => String.fromUTF8? value
  | _ => none

/-- A whole number up to `high`. -/
def toNat? (high : Nat) : Scalar → Option Nat
  | .unsigned value => if value ≤ high then some value else none
  | .signed value => if 0 ≤ value ∧ value ≤ high then some value.toNat else none
  | _ => none

/-- A number; whole numbers count. -/
def toFloat? : Scalar → Option Float
  | .unsigned value => some (Float.ofNat value)
  | .signed value => some (Float.ofInt value)
  | .float value => some value
  | _ => none

end Scalar

/-- A number of 32 bits as a signed one. -/
def toSigned (n : Nat) : Int := if n < 0x80000000 then n else (n : Int) - 0x100000000

/-- The content of a scalar of this kind, of which there are `size` bytes. -/
def readContent (data : ByteArray) (kind : Kind) (size start : Nat) : Option Scalar :=
  let unsigned (most : Nat) : Option Nat := if size ≤ most then readNumber data size start else none
  match kind with
  | .pointer => none
  | .map => none
  | .list => none
  -- A truth value is told by its size alone.
  | .bool => if size ≤ 1 then some (.bool (size = 1)) else none
  | .text => ((readBytes data size start).bind String.fromUTF8?).map .text
  | .bytes => (readBytes data size start).map .bytes
  | .double =>
    if size = 8 then
      (readNumber data 8 start).map fun n => .float (Float.ofBits (UInt64.ofNat n))
    else none
  | .float =>
    if size = 4 then
      (readNumber data 4 start).map fun n => .float (Float32.ofBits (UInt32.ofNat n)).toFloat
    else none
  | .unsigned16 => (unsigned 2).map .unsigned
  | .unsigned32 => (unsigned 4).map .unsigned
  | .unsigned64 => (unsigned 8).map .unsigned
  | .unsigned128 => (unsigned 16).map .wide
  | .signed32 => (unsigned 4).map fun n => .signed (toSigned n)

def readScalar (data : ByteArray) (head : Head) : Option (Scalar × Nat) := do
  let scalar ← readContent data head.kind head.size head.start
  let stop := if head.kind = .bool then head.start else head.start + head.size
  return (scalar, head.next stop)

/-! ### Passing over values -/

/-- Passes over a value that is nested at most `depth` deep, pointers included. -/
def skipWithin (data : ByteArray) : Nat → Reader Unit
  | 0, _ => none
  | depth + 1, position => do
    let head ← readHead data position
    match head.kind with
    | .map =>
      let (_, stop) ← readMany (skipWithin data depth) (2 * head.size) head.start
      return ((), head.next stop)
    | .list =>
      let (_, stop) ← readMany (skipWithin data depth) head.size head.start
      return ((), head.next stop)
    | _ =>
      let (_, stop) ← readScalar data head
      return ((), stop)

/-- Passes over a value, all parts of which have to be readable. Without a pointer that leads back to
itself no value is nested deeper than there are bytes. -/
def skipValue (data : ByteArray) : Reader Unit := skipWithin data (data.size + 1)

end Geolocation.MaxMind
