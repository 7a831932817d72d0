import Geolocation.Text.Lowercase

/-!
# Cells

Cell towers are told apart by their radio technology, the country and network they belong to, their
location area, and their number within it. The text of an area or cell lists these parts with colons
between them.
-/

namespace Geolocation

/-- A generation of cellular radio. -/
inductive Radio where
  | gsm
  | wcdma
  | lte
  deriving DecidableEq, Hashable, Repr

def Radio.name : Radio → String
  | .gsm => "gsm"
  | .wcdma => "wcdma"
  | .lte => "lte"

/-- The radio with exactly this name. -/
def Radio.ofName? : String → Option Radio
  | "gsm" => some .gsm
  | "wcdma" => some .wcdma
  | "lte" => some .lte
  | _ => none

/-- A name, in lower case, that no radio has. -/
structure UnknownRadio where
  name : String
  deriving DecidableEq, Repr

def UnknownRadio.message (unknown : UnknownRadio) : String :=
  "unknown radio type '" ++ unknown.name ++ "'"

/-- The radio that a text names, in any case and with white space around it. The cells of UMTS use
WCDMA. -/
def Radio.read (text : String) : Except UnknownRadio Radio :=
  let name := Text.lowercase (Text.trim text)
  if name = "umts" then .ok .wcdma
  else
    match ofName? name with
    | some radio => .ok radio
    | none => .error ⟨name⟩

structure CellArea where
  radio : Radio
  /-- The country code. -/
  mcc : Nat
  /-- The network code. -/
  mnc : Nat
  /-- The code of the area within the network. -/
  lac : Nat
  deriving DecidableEq, Hashable, Repr

def CellArea.text (area : CellArea) : String :=
  ":".intercalate [area.radio.name, toString area.mcc, toString area.mnc, toString area.lac]

structure Cell where
  area : CellArea
  /-- The number of the cell within its area. -/
  cid : Nat
  deriving DecidableEq, Hashable, Repr

def Cell.text (cell : Cell) : String := cell.area.text ++ ":" ++ toString cell.cid

end Geolocation
