/-!
# White space

The characters with the property White_Space, and trimming by them. The control characters U+001C to
U+001F, the zero-width space and the byte order mark are not among them.
-/

namespace Geolocation.Text

/-- Closed ranges of code points, ascending and apart. -/
def blankRanges : List (Nat × Nat) :=
  [(0x09, 0x0d), (0x20, 0x20), (0x85, 0x85), (0xa0, 0xa0), (0x1680, 0x1680), (0x2000, 0x200a),
   (0x2028, 0x2029), (0x202f, 0x202f), (0x205f, 0x205f), (0x3000, 0x3000)]

/-- Is the code point in one of the ranges? -/
def inRanges (ranges : List (Nat × Nat)) (n : Nat) : Bool :=
  ranges.any fun range => range.1 ≤ n && n ≤ range.2

def isBlank (c : Char) : Bool := inRanges blankRanges c.toNat

/-- The characters without the white space at both ends. -/
def trimmed (s : List Char) : List Char :=
  (((s.dropWhile isBlank).reverse).dropWhile isBlank).reverse

def trim (s : String) : String := String.ofList (trimmed s.toList)

theorem dropWhile_isBlank {s : List Char} (solid : ∀ c ∈ s, isBlank c = false) :
    s.dropWhile isBlank = s := by
  cases s with
  | nil => rfl
  | cons c rest => exact List.dropWhile_cons_of_neg (by simp [solid c List.mem_cons_self])

/-- Nothing is trimmed where there is no white space. -/
theorem trim_eq_self {s : String} (solid : ∀ c ∈ s.toList, isBlank c = false) : trim s = s := by
  have reversed : ∀ c ∈ s.toList.reverse, isBlank c = false := by simpa using solid
  rw [trim, trimmed, dropWhile_isBlank solid, dropWhile_isBlank reversed, List.reverse_reverse,
    String.ofList_toList]

end Geolocation.Text
