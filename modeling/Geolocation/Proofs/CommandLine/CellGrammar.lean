import Geolocation.CommandLine.Values
import Geolocation.Fault
import Geolocation.Proofs.Text.Integer
import Mathlib.Data.List.Forall2

/-!
# Cells in words

The text of a cell has four or five parts with colons between them: a radio, which may be anything, and
numbers. It is read exactly if it has that many parts and all of its numbers are read. Otherwise the
message is about the number of parts or, if that is right, about the first part that is no number.

The numbers are read one after another, each under the name of its field. What comes of that is said for
lists of parts first, by induction on them, since only the first part that fails is reported.

Main result: `CommandLine.reads_cells_exactly`.
-/

namespace Geolocation

open Text

/-- The numbers of a report in the order in which a text lists them. -/
def CellReport.numbers (report : CellReport) : List Int :=
  [report.mcc, report.mnc, report.lac] ++ report.cid.toList

/-- The report of a radio and three or four numbers. -/
def CellReport.ofNumbers (radio : List Char) (numbers : List Int) : CellReport :=
  ⟨String.ofList radio, numbers.getD 0 0, numbers.getD 1 0, numbers.getD 2 0, numbers[3]?, none⟩

theorem CellReport.numbers_ofNumbers {radio : List Char} {numbers : List Int}
    (count : numbers.length = 3 ∨ numbers.length = 4) : (ofNumbers radio numbers).numbers = numbers := by
  match numbers, count with
  | [mcc, mnc, lac], _ => rfl
  | [mcc, mnc, lac, cid], _ => rfl

theorem CellReport.ofNumbers_numbers {report : CellReport} (unheard : report.signal = none) :
    ofNumbers report.radio.toList report.numbers = report := by
  obtain ⟨radio, mcc, mnc, lac, cid, _⟩ := report
  cases unheard
  cases cid <;> simp [ofNumbers, numbers]

theorem CellReport.length_numbers (report : CellReport) :
    report.numbers.length = 3 ∨ report.numbers.length = 4 := by
  cases cid : report.cid <;> simp [numbers, cid]

namespace CommandLine

/-! ### The grammar -/

/-- The text is made of these parts with colons between them, and the parts have none. -/
def HasParts (text : String) (parts : List (List Char)) : Prop :=
  parts ≠ [] ∧ (∀ part ∈ parts, ':' ∉ part) ∧ [':'].intercalate parts = text.toList

/-- The names of the parts behind the radio. -/
def numberFields : List String := ["mcc", "mnc", "lac", "cid"]

/-- The text is a cell: its first part is the radio, and the others write the numbers. -/
def IsCellText (text : String) (report : CellReport) : Prop :=
  ∃ parts, HasParts text (report.radio.toList :: parts) ∧
    List.Forall₂ WritesInt64 parts report.numbers ∧ report.signal = none

/-- The part is the first one that writes no number, and it is that of the field. -/
def FirstBad (fields : List String) (parts : List (List Char)) (field : String) (part : List Char) :
    Prop :=
  ∃ earlier later, parts = earlier ++ part :: later ∧ (∀ other ∈ earlier, ∃ n, WritesInt64 other n) ∧
    (∀ n, ¬WritesInt64 part n) ∧ fields[earlier.length]? = some field

/-- What is said about a text that is no cell. -/
inductive Complaint (text : String) : String → Prop where
  | parts {parts : List (List Char)} (split : HasParts text parts)
    (count : parts.length ≠ 4 ∧ parts.length ≠ 5) :
    Complaint text ("Invalid cell '" ++ text ++ "'. Use radio:mcc:mnc:lac[:cid].")
  | number {radio part : List Char} {parts : List (List Char)} {field : String}
    (split : HasParts text (radio :: parts)) (count : parts.length = 3 ∨ parts.length = 4)
    (bad : FirstBad numberFields parts field part) :
    Complaint text ("Invalid " ++ field ++ " '" ++ String.ofList part ++ "' in cell '" ++ text ++ "'")

theorem hasParts_iff {text : String} {parts : List (List Char)} :
    HasParts text parts ↔ splitOn ':' text.toList = parts :=
  splitOn_eq_iff.symm

/-! ### Numbers one after another -/

theorem readPart_eq_ok_iff {text field : String} {part : List Char} {n : Int} :
    readPart text field part = .ok n ↔ WritesInt64 part n := by
  rw [← readInt64?_trimmed_eq_some_iff, readPart]
  cases readInt64? (trimmed part) <;> simp

theorem readPart_eq_error_iff {text field : String} {part : List Char} {error : CellTextError} :
    readPart text field part = .error error ↔
      (∀ n, ¬WritesInt64 part n) ∧ error = .number field (String.ofList part) text := by
  simp only [← readInt64?_trimmed_eq_some_iff, readPart]
  cases readInt64? (trimmed part) <;> simp [eq_comm]

/-- Reads the parts of the fields in order. -/
def readNumbers (text : String) : List String → List (List Char) → Except CellTextError (List Int)
  | field :: fields, part :: parts => do
    let n ← readPart text field part
    let rest ← readNumbers text fields parts
    return n :: rest
  | _, _ => return []

theorem readNumbers_eq_ok_iff {text : String} {fields : List String} {parts : List (List Char)}
    {numbers : List Int} (named : parts.length ≤ fields.length) :
    readNumbers text fields parts = .ok numbers ↔ List.Forall₂ WritesInt64 parts numbers := by
  induction parts generalizing fields numbers with
  | nil => simp [readNumbers, pure, Except.pure, eq_comm]
  | cons part parts ih =>
    cases fields with
    | nil => cases named
    | cons field fields =>
      have fewer : parts.length ≤ fields.length := Nat.le_of_succ_le_succ named
      constructor
      · intro read
        obtain ⟨n, first, read⟩ := ok_of_bind read
        obtain ⟨rest, others, made⟩ := ok_of_bind read
        cases made
        exact .cons (readPart_eq_ok_iff.mp first) ((ih fewer).mp others)
      · rintro (_ | ⟨first, others⟩)
        rw [readNumbers, readPart_eq_ok_iff.mpr first, (ih fewer).mpr others]
        rfl

theorem firstBad_cons_iff {field name : String} {fields : List String} {part bad : List Char}
    {parts : List (List Char)} : FirstBad (field :: fields) (part :: parts) name bad ↔
      (∀ n, ¬WritesInt64 part n) ∧ name = field ∧ bad = part ∨
        (∃ n, WritesInt64 part n) ∧ FirstBad fields parts name bad := by
  constructor
  · rintro ⟨earlier, later, split, numbers, noNumber, named⟩
    cases earlier with
    | nil =>
      cases split
      exact Or.inl ⟨noNumber, (Option.some.inj named).symm, rfl⟩
    | cons first earlier =>
      cases split
      obtain ⟨number, numbers⟩ := List.forall_mem_cons.mp numbers
      exact Or.inr ⟨number, earlier, later, rfl, numbers, noNumber, named⟩
  · rintro (⟨noNumber, rfl, rfl⟩ | ⟨number, earlier, later, rfl, numbers, noNumber, named⟩)
    · exact ⟨[], parts, rfl, nofun, noNumber, rfl⟩
    · exact ⟨part :: earlier, later, rfl, List.forall_mem_cons.mpr ⟨number, numbers⟩, noNumber, named⟩

theorem readNumbers_eq_error_iff {text : String} {fields : List String} {parts : List (List Char)}
    {error : CellTextError} (named : parts.length ≤ fields.length) :
    readNumbers text fields parts = .error error ↔
      ∃ field part, FirstBad fields parts field part ∧
        error = .number field (String.ofList part) text := by
  induction parts generalizing fields with
  | nil => simp [readNumbers, pure, Except.pure, FirstBad]
  | cons part parts ih =>
    cases fields with
    | nil => cases named
    | cons field fields =>
      have fewer : parts.length ≤ fields.length := Nat.le_of_succ_le_succ named
      simp only [firstBad_cons_iff]
      constructor
      · intro failed
        -- The part in hand fails, or it is read and one behind it fails.
        rcases error_of_bind failed with here | ⟨n, first, failed⟩
        · obtain ⟨noNumber, rfl⟩ := readPart_eq_error_iff.mp here
          exact ⟨field, part, Or.inl ⟨noNumber, rfl, rfl⟩, rfl⟩
        · rcases error_of_bind failed with later | ⟨rest, -, made⟩
          · obtain ⟨name, bad, firstBad, rfl⟩ := (ih fewer).mp later
            exact ⟨name, bad, Or.inr ⟨⟨n, readPart_eq_ok_iff.mp first⟩, firstBad⟩, rfl⟩
          · cases made
      · rintro ⟨name, bad, ⟨noNumber, rfl, rfl⟩ | ⟨⟨n, number⟩, firstBad⟩, rfl⟩
        · rw [readNumbers, readPart_eq_error_iff.mpr ⟨noNumber, rfl⟩]
          rfl
        · rw [readNumbers, readPart_eq_ok_iff.mpr number, (ih fewer).mpr ⟨name, bad, firstBad, rfl⟩]
          rfl

/-! ### Whole texts -/

theorem readCell_eq {text : String} {radio : List Char} {parts : List (List Char)}
    (split : HasParts text (radio :: parts)) (count : parts.length = 3 ∨ parts.length = 4) :
    readCell text = (readNumbers text numberFields parts).map (.ofNumbers radio) := by
  rw [hasParts_iff] at split
  rw [readCell, split]
  -- With the number of parts known, both sides read them in the same order and stop at the same one.
  rcases count with three | four
  · obtain ⟨mcc, mnc, lac, rfl⟩ := List.length_eq_three.mp three
    simp only [readNumbers, numberFields]
    cases readPart text "mcc" mcc <;> cases readPart text "mnc" mnc <;>
      cases readPart text "lac" lac <;> rfl
  · match parts, four with
    | [mcc, mnc, lac, cid], _ =>
      simp only [readNumbers, numberFields]
      cases readPart text "mcc" mcc <;> cases readPart text "mnc" mnc <;>
        cases readPart text "lac" lac <;> cases readPart text "cid" cid <;> rfl

theorem readCell_of_miscount {text : String} {parts : List (List Char)} (split : HasParts text parts)
    (count : parts.length ≠ 4 ∧ parts.length ≠ 5) : readCell text = .error (.parts text) := by
  rw [hasParts_iff] at split
  rw [readCell, split]
  split
  · exact absurd rfl count.1
  · exact absurd rfl count.2
  · rfl

/-- Either the parts are too few or too many, or there is a radio before three or four of them. -/
theorem hasParts_cases (text : String) :
    (∃ parts, HasParts text parts ∧ parts.length ≠ 4 ∧ parts.length ≠ 5) ∨
      ∃ radio parts, HasParts text (radio :: parts) ∧ (parts.length = 3 ∨ parts.length = 4) := by
  cases split : splitOn ':' text.toList with
  | nil => exact absurd split (splitOn_ne_nil _ _)
  | cons radio parts =>
    rw [← hasParts_iff] at split
    by_cases count : parts.length = 3 ∨ parts.length = 4
    · exact Or.inr ⟨radio, parts, split, count⟩
    · refine Or.inl ⟨radio :: parts, split, ?_⟩
      rw [List.length_cons]
      omega

theorem length_le_numberFields {parts : List (List Char)}
    (count : parts.length = 3 ∨ parts.length = 4) : parts.length ≤ numberFields.length := by
  rw [show numberFields.length = 4 from rfl]
  omega

theorem readCell_eq_ok_iff {text : String} {report : CellReport} :
    readCell text = .ok report ↔ IsCellText text report := by
  constructor
  · intro read
    rcases hasParts_cases text with ⟨parts, split, count⟩ | ⟨radio, parts, split, count⟩
    · rw [readCell_of_miscount split count] at read
      cases read
    · rw [readCell_eq split count] at read
      cases numbers : readNumbers text numberFields parts with
      | error error =>
        rw [numbers] at read
        cases read
      | ok values =>
        rw [numbers] at read
        cases read
        have written := (readNumbers_eq_ok_iff (length_le_numberFields count)).mp numbers
        refine ⟨parts, ?_, ?_, rfl⟩
        · simpa [CellReport.ofNumbers] using split
        · rwa [CellReport.numbers_ofNumbers (written.length_eq ▸ count)]
  · rintro ⟨parts, split, written, unheard⟩
    have count : parts.length = 3 ∨ parts.length = 4 := written.length_eq ▸ report.length_numbers
    rw [readCell_eq split count,
      (readNumbers_eq_ok_iff (length_le_numberFields count)).mpr written]
    exact congrArg Except.ok (CellReport.ofNumbers_numbers unheard)

theorem readCell_eq_error_iff {text message : String} :
    (readCell text).mapError CellTextError.message = .error message ↔ Complaint text message := by
  constructor
  · intro failed
    rcases hasParts_cases text with ⟨parts, split, count⟩ | ⟨radio, parts, split, count⟩
    · rw [readCell_of_miscount split count] at failed
      cases failed
      exact .parts split count
    · rw [readCell_eq split count] at failed
      cases numbers : readNumbers text numberFields parts with
      | ok values =>
        rw [numbers] at failed
        cases failed
      | error error =>
        rw [numbers] at failed
        obtain ⟨field, part, bad, rfl⟩ :=
          (readNumbers_eq_error_iff (length_le_numberFields count)).mp numbers
        cases failed
        exact .number split count bad
  · rintro (⟨split, count⟩ | ⟨split, count, bad⟩)
    · rw [readCell_of_miscount split count]
      rfl
    · rw [readCell_eq split count, (readNumbers_eq_error_iff (length_le_numberFields count)).mpr
        ⟨_, _, bad, rfl⟩]
      rfl

/-- The message about the number of parts is told from any about a number by its tenth character at the
latest. -/
theorem number_message_ne {text field part : String} (named : field ∈ numberFields) :
    "Invalid " ++ field ++ " '" ++ part ++ "' in cell '" ++ text ++ "'"
      ≠ "Invalid cell '" ++ text ++ "'. Use radio:mcc:mnc:lac[:cid]." := by
  intro same
  have start := congrArg (fun s => s.toList.take 10) same
  simp only [numberFields, List.mem_cons, List.not_mem_nil, or_false] at named
  rcases named with rfl | rfl | rfl | rfl <;> simp at start

/-- A text is read as a cell exactly if it is one by the grammar. Any other text has one complaint, which is
about the number of its parts if that is wrong and else about the first part that is no number. -/
theorem reads_cells_exactly (text : String) :
    (∀ report, readCell text = .ok report ↔ IsCellText text report) ∧
      (∀ message, (readCell text).mapError CellTextError.message = .error message ↔
        Complaint text message) ∧
      ((readCell text).mapError CellTextError.message
          = .error ("Invalid cell '" ++ text ++ "'. Use radio:mcc:mnc:lac[:cid].") ↔
        ∃ parts, HasParts text parts ∧ parts.length ≠ 4 ∧ parts.length ≠ 5) := by
  refine ⟨fun report => readCell_eq_ok_iff, fun message => readCell_eq_error_iff, ?_⟩
  rw [readCell_eq_error_iff]
  constructor
  · intro complaint
    generalize same : "Invalid cell '" ++ text ++ "'. Use radio:mcc:mnc:lac[:cid]." = message at complaint
    cases complaint with
    | parts split count => exact ⟨_, split, count⟩
    | number split count bad =>
      -- A complaint about a number has another text, whatever the part and the cell are.
      obtain ⟨earlier, later, -, -, -, named⟩ := bad
      exact absurd same.symm (number_message_ne (List.mem_of_getElem? named))
  · rintro ⟨parts, split, count⟩
    exact .parts split count

/-- The first number beyond 64 bits is reported, and not the cell, which is no number at all. -/
example : readCell "lte: 262 :+1:9223372036854775808:x"
    = .error (.number "lac" "9223372036854775808" "lte: 262 :+1:9223372036854775808:x") := by
  rfl

end CommandLine

end Geolocation
