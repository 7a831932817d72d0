import Geolocation.Text.Blank
import Geolocation.Text.CaseTables

/-!
# Lower-case text

Lower-casing goes character by character, with two exceptions. The capital I with a dot becomes two
characters, and the capital sigma becomes the final sigma at the end of a word: after a letter with a
case and not before one, where characters such as accents and apostrophes do not count.
-/

namespace Geolocation.Text

/-- The lower-case form of a character that has one of a single character; other characters stay. -/
def lowerChar (c : Char) : Char :=
  let n := c.toNat
  match lowercaseRows.find? fun (first, last, step, _) =>
      first ≤ n && n ≤ last && (n - first) % step == 0 with
  | some (_, _, _, offset) => Char.ofNat ((n : Int) + offset).toNat
  | none => c

/-- Is the first of these characters that counts a letter with a case? -/
def meetsCased (s : List Char) : Bool :=
  match s.dropWhile fun c => inRanges caseIgnorableRanges c.toNat with
  | [] => false
  | c :: _ => inRanges casedRanges c.toNat

/-- The lower-case form of the character `c` between the characters `before`, nearest first, and the
characters `after`. -/
def lowerBetween (before : List Char) (c : Char) (after : List Char) : List Char :=
  if c = 'İ' then ['i', '\u0307']
  else if c = 'Σ' then [if meetsCased before && !meetsCased after then 'ς' else 'σ']
  else [lowerChar c]

/-- Lower-cases the characters that follow `before`, which is given nearest first. -/
def lowercaseAfter (before : List Char) : List Char → List Char
  | [] => []
  | c :: after => lowerBetween before c after ++ lowercaseAfter (c :: before) after

def lowercase (s : String) : String := String.ofList (lowercaseAfter [] s.toList)

end Geolocation.Text
