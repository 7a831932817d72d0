import Geolocation.Proofs.CommandLine.CellGrammar
import Geolocation.Proofs.Query.CellText
import Geolocation.Proofs.Query.Normal

/-!
# Cells given by their own texts

The texts of cells and areas tell them apart, and they are texts that the command line reads: the parts of
such a text are the name of the radio and decimal numbers. What is read is what the text is of, and within
the ranges of a query it is looked for.

Main result: `CommandLine.texts_round_trip`.
-/

namespace Geolocation

open Text

/-- The numbers of the cell lie within the ranges of a query. -/
structure Cell.IsValid (cell : Cell) : Prop where
  area : cell.area.IsValid
  cid : 1 ≤ cell.cid ∧ cell.cid ≤ 268435455

/-- A query looks for the observation that its only report of a cell makes. -/
theorem Query.cells_ofRequest_of_reads {request : Request} {report : CellReport}
    {sighting : CellSighting} (only : request.cells = [report]) (reads : report.Reads sighting) :
    (ofRequest request).cells = [sighting] := by
  have read := (report.sighting?_eq_some_iff sighting).mpr reads
  simp [ofRequest, only, read, distinctBy]

/-! ### Reading texts of cells -/

/-- The numbers of the observation in the order in which a text lists them. -/
def CellSighting.numbers (sighting : CellSighting) : List Nat :=
  [sighting.area.mcc, sighting.area.mnc, sighting.area.lac] ++ sighting.cid.toList

theorem CellSighting.numbers_report (sighting : CellSighting) :
    sighting.report.numbers = sighting.numbers.map Int.ofNat := by
  cases cid : sighting.cid <;> simp [numbers, report, CellReport.numbers, cid]

theorem CellSighting.IsValid.le_of_mem_numbers {sighting : CellSighting} (valid : sighting.IsValid)
    {n : Nat} (member : n ∈ sighting.numbers) : n ≤ 9223372036854775807 := by
  obtain ⟨⟨mcc, mnc, lac⟩, cid⟩ := valid
  simp only [numbers, List.cons_append, List.nil_append, List.mem_cons, Option.mem_toList] at member
  rcases member with rfl | rfl | rfl | present
  · omega
  · omega
  · omega
  · have range := cid n present
    omega

theorem CellArea.ne_text_of_cell (area : CellArea) (cell : Cell) : area.text ≠ cell.text := by
  intro same
  have parts : area.parts = cell.parts := by
    rw [← area.splitOn_text, ← cell.splitOn_text, same]
  -- A cell has one part more than an area.
  have count := congrArg List.length parts
  simp [CellArea.parts, Cell.parts] at count

theorem CellArea.eq_of_text {a b : CellArea} (same : a.text = b.text) : a = b :=
  parts_injective (by rw [← splitOn_text, ← splitOn_text, same])

namespace CommandLine

theorem writesInt64_toDigits {n : Nat} (fits : n ≤ 9223372036854775807) :
    WritesInt64 (Nat.toDigits 10 n) n := by
  refine ⟨Nat.toDigits 10 n, ⟨[], [], by simp, nofun, nofun⟩, .plain ⟨?_, ?_, ?_⟩, ?_⟩
  · exact Nat.toDigits_ne_nil
  · exact fun c => isDigit_of_mem_toDigits
  · exact digitsValue_toDigits n
  · exact ⟨by omega, by omega⟩

/-- A valid observation is read from its radio and numbers, and it is what a query then looks for. -/
theorem readCell_of_parts {text : String} {sighting : CellSighting} (valid : sighting.IsValid)
    (unheard : sighting.signal = none)
    (split : splitOn ':' text.toList =
      sighting.area.radio.name.toList :: sighting.numbers.map (Nat.toDigits 10)) :
    ∃ report, readCell text = .ok report ∧ ∀ request : Request, request.cells = [report] →
      (Query.ofRequest request).cells = [sighting] := by
  refine ⟨sighting.report, readCell_eq_ok_iff.mpr ⟨_, hasParts_iff.mpr split, ?_, unheard⟩, ?_⟩
  · -- Number by number the text has the decimal digits of what the report has.
    rw [sighting.numbers_report, List.forall₂_map_left_iff, List.forall₂_map_right_iff,
      List.forall₂_same]
    exact fun n member => writesInt64_toDigits (valid.le_of_mem_numbers member)
  · exact fun request only => Query.cells_ofRequest_of_reads only valid.report_reads

/-- Different cells have different texts, and so have different areas, and no area has the text of a
cell. From its own text a valid cell is read as itself, and a valid area as itself without a cell. -/
theorem texts_round_trip :
    (∀ a b : Cell, a.text = b.text → a = b) ∧ (∀ a b : CellArea, a.text = b.text → a = b) ∧
      (∀ (area : CellArea) (cell : Cell), area.text ≠ cell.text) ∧
      (∀ cell : Cell, cell.IsValid → ∃ report, readCell cell.text = .ok report ∧
        ∀ request : Request, request.cells = [report] →
          (Query.ofRequest request).cells = [⟨cell.area, some cell.cid, none⟩]) ∧
      ∀ area : CellArea, area.IsValid → ∃ report, readCell area.text = .ok report ∧
        ∀ request : Request, request.cells = [report] →
          (Query.ofRequest request).cells = [⟨area, none, none⟩] := by
  refine ⟨fun a b => Cell.eq_of_text, fun a b => CellArea.eq_of_text, CellArea.ne_text_of_cell, ?_, ?_⟩
  · intro cell valid
    refine readCell_of_parts ⟨valid.area, ?_⟩ rfl cell.splitOn_text
    rintro cid ⟨⟩
    exact valid.cid
  · intro area valid
    exact readCell_of_parts ⟨valid, nofun⟩ rfl area.splitOn_text

/-- The cell with the largest numbers that a query admits, and the area with the smallest ones. -/
theorem texts_of_outermost :
    let cell : Cell := ⟨⟨.wcdma, 999, 32767, 65535⟩, 268435455⟩
    let area : CellArea := ⟨.gsm, 1, 0, 1⟩
    (∃ report, readCell "wcdma:999:32767:65535:268435455" = .ok report ∧
      (Query.ofRequest ⟨[report], [], none, none⟩).cells = [⟨cell.area, some cell.cid, none⟩]) ∧
    ∃ report, readCell "gsm:1:0:1" = .ok report ∧
      (Query.ofRequest ⟨[report], [], none, none⟩).cells = [⟨area, none, none⟩] := by
  intro cell area
  obtain ⟨-, -, -, cells, areas⟩ := texts_round_trip
  have cellText : cell.text = "wcdma:999:32767:65535:268435455" := by decide
  have areaText : area.text = "gsm:1:0:1" := by decide
  constructor
  · obtain ⟨report, read, looked⟩ := cells cell ⟨⟨by decide, by decide, by decide⟩, by decide⟩
    exact ⟨report, cellText ▸ read, looked _ rfl⟩
  · obtain ⟨report, read, looked⟩ := areas area ⟨by decide, by decide, by decide⟩
    exact ⟨report, areaText ▸ read, looked _ rfl⟩

end CommandLine

end Geolocation
