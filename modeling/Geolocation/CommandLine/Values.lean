import Geolocation.Query.Request
import Geolocation.Text.Digits
import Geolocation.Text.Lowercase
import Geolocation.Text.Split

/-!
# Values on the command line

The texts in which cells and policy flags are given: `radio:mcc:mnc:lac` or `radio:mcc:mnc:lac:cid`, and
`name=true` or `name=false`. Only the form is checked here; whether a cell is valid is for the query to
say.
-/

namespace Geolocation.CommandLine

/-! ### Cells -/

inductive CellTextError where
  /-- It has neither four nor five parts. -/
  | parts (text : String)
  /-- A part that should be a number is none. -/
  | number (field part text : String)
  deriving DecidableEq, Repr

def CellTextError.message : CellTextError → String
  | .parts text => "Invalid cell '" ++ text ++ "'. Use radio:mcc:mnc:lac[:cid]."
  | .number field part text => "Invalid " ++ field ++ " '" ++ part ++ "' in cell '" ++ text ++ "'"

/-- The number that a part of the text of a cell writes, with white space around it. -/
def readPart (text : String) (field : String) (part : List Char) : Except CellTextError Int :=
  match Text.readInt64? (Text.trimmed part) with
  | some value => .ok value
  | none => .error (.number field (String.ofList part) text)

/-- The cell that a text reports. The radio is taken as it is. -/
def readCell (text : String) : Except CellTextError CellReport :=
  match Text.splitOn ':' text.toList with
  | [radio, mcc, mnc, lac] => do
    let mcc ← readPart text "mcc" mcc
    let mnc ← readPart text "mnc" mnc
    let lac ← readPart text "lac" lac
    return ⟨String.ofList radio, mcc, mnc, lac, none, none⟩
  | [radio, mcc, mnc, lac, cid] => do
    let mcc ← readPart text "mcc" mcc
    let mnc ← readPart text "mnc" mnc
    let lac ← readPart text "lac" lac
    let cid ← readPart text "cid" cid
    return ⟨String.ofList radio, mcc, mnc, lac, some cid, none⟩
  | _ => .error (.parts text)

/-! ### Policy flags -/

/-- What is wrong with the text of a policy flag. -/
inductive FlagTextError where
  /-- It has no equals sign. -/
  | form (text : String)
  /-- Its value, in lower case, is no truth value. -/
  | value (word : String)
  deriving DecidableEq, Repr

def FlagTextError.message : FlagTextError → String
  | .form text => "Invalid fallback '" ++ text ++ "'. Use name=true or name=false."
  | .value word => "Invalid fallback value '" ++ word ++ "'"

/-- The truth value that a word stands for. -/
def truthOf? (word : String) : Option Bool :=
  if word ∈ ["true", "1", "yes"] then some true
  else if word ∈ ["false", "0", "no"] then some false
  else none

/-- The policy flag that a text sets. -/
def readFlag (text : String) : Except FlagTextError (String × Bool) :=
  match Text.splitOnce '=' text.toList with
  | none => .error (.form text)
  | some (name, value) =>
    let word := Text.lowercase (String.ofList (Text.trimmed value))
    match truthOf? word with
    | some value => .ok (String.ofList (Text.trimmed name), value)
    | none => .error (.value word)

/-- The policy of flags that are given one after another; none if there are none. The last flag of
each name counts. -/
def policyOf (flags : List (String × Bool)) : Option Json :=
  if flags.isEmpty then none
  else some (Json.ofFields (flags.map fun (name, value) => (name, .bool value)))

end Geolocation.CommandLine
