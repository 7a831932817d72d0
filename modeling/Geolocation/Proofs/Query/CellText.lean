import Geolocation.Cell
import Geolocation.Proofs.Text.Digits
import Geolocation.Text.Split

/-!
# Texts of cells

Cells and cell areas are known to a store by their texts. A text can be split at its colons into the
parts that it was made of, because no name of a radio and no number contains one. So different cells have
different texts, and so have different areas.
-/

namespace Geolocation

open Text

namespace CellArea

/-- What stands between the colons of the text. -/
def parts (area : CellArea) : List (List Char) :=
  area.radio.name.toList :: [area.mcc, area.mnc, area.lac].map (Nat.toDigits 10)

theorem toList_text (area : CellArea) : area.text.toList = [':'].intercalate area.parts := by
  simp [text, parts, Nat.repr]

theorem colon_notMem_parts (area : CellArea) : ∀ part ∈ area.parts, ':' ∉ part := by
  intro part member
  rcases List.mem_cons.mp member with rfl | numbered
  · cases area.radio <;> decide
  · obtain ⟨number, -, rfl⟩ := List.mem_map.mp numbered
    exact notMem_toDigits (by decide) (by decide) (by decide)

theorem splitOn_text (area : CellArea) : splitOn ':' area.text.toList = area.parts := by
  rw [toList_text]
  exact splitOn_intercalate area.colon_notMem_parts (by simp [parts])

theorem parts_injective {a b : CellArea} (same : a.parts = b.parts) : a = b := by
  simp only [parts, List.map_cons, List.map_nil, List.cons.injEq, and_true] at same
  obtain ⟨name, mcc, mnc, lac⟩ := same
  have radio : a.radio = b.radio := by
    cases first : a.radio <;> cases second : b.radio <;> rw [first, second] at name <;>
      first | rfl | exact absurd name (by decide)
  cases a
  cases b
  cases radio
  cases toDigits_injective mcc
  cases toDigits_injective mnc
  cases toDigits_injective lac
  rfl

end CellArea

namespace Cell

/-- The text of a cell goes on where that of its area ends. -/
def parts (cell : Cell) : List (List Char) := cell.area.parts ++ [Nat.toDigits 10 cell.cid]

theorem toList_text (cell : Cell) : cell.text.toList = [':'].intercalate cell.parts := by
  simp [text, parts, CellArea.toList_text, CellArea.parts, Nat.repr]

theorem splitOn_text (cell : Cell) : splitOn ':' cell.text.toList = cell.parts := by
  rw [toList_text]
  refine splitOn_intercalate ?_ (by simp [parts])
  intro part member
  rcases List.mem_append.mp member with area | number
  · exact cell.area.colon_notMem_parts part area
  · rw [List.mem_singleton.mp number]
    exact notMem_toDigits (by decide) (by decide) (by decide)

theorem eq_of_text {a b : Cell} (same : a.text = b.text) : a = b := by
  have parts : a.parts = b.parts := by rw [← splitOn_text, ← splitOn_text, same]
  obtain ⟨area, number⟩ := List.append_inj' parts rfl
  cases a
  cases b
  cases CellArea.parts_injective area
  cases toDigits_injective (List.singleton_inj.mp number)
  rfl

end Cell

end Geolocation
