import Geolocation.Decimal.Layout
import Geolocation.Json.Value

/-!
# Writing JSON

The compact form, without any space, and the form with one field or item to a line and two more spaces
for each level. Floats that are not finite are written as null. Of the characters above U+001F only the
quote and the backslash are escaped.
-/

namespace Geolocation.Json

/-- The escape of a character that may not stand for itself in a string. -/
def escapeOf (c : Char) : Option (List Char) :=
  match c with
  | '"' => some ['\\', '"']
  | '\\' => some ['\\', '\\']
  | '\n' => some ['\\', 'n']
  | '\r' => some ['\\', 'r']
  | '\t' => some ['\\', 't']
  | '\x08' => some ['\\', 'b']
  | '\x0c' => some ['\\', 'f']
  | _ =>
    if c.toNat < 0x20 then
      some ['\\', 'u', '0', '0', Nat.digitChar (c.toNat / 16), Nat.digitChar (c.toNat % 16)]
    else none

def quote (s : String) : String :=
  "\"" ++ String.ofList (s.toList.flatMap fun c => (escapeOf c).getD [c]) ++ "\""

/-- The text of a float, or null if it is not finite. -/
def floatText (x : Float) : String := if x.isFinite then Decimal.jsonText x else "null"

mutual

/-- The text of a value without spaces. -/
def compact : Json → String
  | .null => "null"
  | .bool value => if value then "true" else "false"
  | .int value => toString value
  | .float value => floatText value
  | .string value => quote value
  | .array [] => "[]"
  | .array (item :: rest) => "[" ++ compact item ++ compactItems rest ++ "]"
  | .object [] => "\x7b\x7d"
  | .object ((name, value) :: rest) =>
    "\x7b" ++ quote name ++ ":" ++ compact value ++ compactFields rest ++ "\x7d"

/-- The items after the first one, each behind its comma. -/
def compactItems : List Json → String
  | [] => ""
  | item :: rest => "," ++ compact item ++ compactItems rest

/-- The fields after the first one, each behind its comma. -/
def compactFields : List (String × Json) → String
  | [] => ""
  | (name, value) :: rest => "," ++ quote name ++ ":" ++ compact value ++ compactFields rest

end

def newLine (level : Nat) : String := "\n" ++ String.ofList (List.replicate (2 * level) ' ')

mutual

/-- The text of a value that stands at a level, one field or item to a line. -/
def indented (level : Nat) : Json → String
  | .array [] => "[]"
  | .array (item :: rest) =>
    "[" ++ newLine (level + 1) ++ indented (level + 1) item ++ indentedItems (level + 1) rest
      ++ newLine level ++ "]"
  | .object [] => "\x7b\x7d"
  | .object ((name, value) :: rest) =>
    "\x7b" ++ newLine (level + 1) ++ quote name ++ ": " ++ indented (level + 1) value
      ++ indentedFields (level + 1) rest ++ newLine level ++ "\x7d"
  | .null => compact .null
  | .bool value => compact (.bool value)
  | .int value => compact (.int value)
  | .float value => compact (.float value)
  | .string value => compact (.string value)

/-- The items after the first one, each on its line. -/
def indentedItems (level : Nat) : List Json → String
  | [] => ""
  | item :: rest => "," ++ newLine level ++ indented level item ++ indentedItems level rest

/-- The fields after the first one, each on its line. -/
def indentedFields (level : Nat) : List (String × Json) → String
  | [] => ""
  | (name, value) :: rest =>
    "," ++ newLine level ++ quote name ++ ": " ++ indented level value ++ indentedFields level rest

end

/-- The text of a value with one field or item to a line. -/
def pretty (value : Json) : String := indented 0 value

end Geolocation.Json
