import Geolocation.Proofs.Json.FloatText
import Mathlib.Data.List.Forall2

/-!
# Reading what has been printed

The text of an object whose fields are plain values is read back as one document with nothing behind it:
the same names in the same order, each with what its value is read as. Texts come back as they are, and
floats that are not finite as null. Other numbers come back as what their texts are read as, which need
not be the float that was written.

Main result: `Json.read?_pretty`.
-/

namespace Geolocation.Json

variable {rest : List Char}

/-! ### Strings -/

def escaped (c : Char) : List Char := (escapeOf c).getD [c]

theorem toList_quote (s : String) : (quote s).toList = '"' :: (s.toList.flatMap escaped ++ ['"']) := by
  simp only [quote, String.toList_append, String.toList_ofList]
  rfl

theorem unit?_of_control {c : Char} (control : c.toNat < 0x20) :
    unit? '0' '0' (Nat.digitChar (c.toNat / 16)) (Nat.digitChar (c.toNat % 16)) = some c.toNat := by
  have high := Text.hexValue_digitChar (show c.toNat / 16 < 16 by omega)
  have low := Text.hexValue_digitChar (show c.toNat % 16 < 16 by omega)
  have zero : Text.hexValue? '0' = some 0 := by decide
  simp only [unit?, Text.hexNumber?, List.foldlM_cons, List.foldlM_nil, zero, high, low,
    Option.map_some, bind, Option.bind, pure, Option.some.injEq]
  omega

theorem ofUnit_of_control {c : Char} (control : c.toNat < 0x20) : Piece.ofUnit c.toNat = .char c := by
  rw [Piece.ofUnit, if_neg (by omega), Char.ofNat_toNat]

theorem readPieces_of_plain {c : Char} (quote : c ≠ '"') (backslash : c ≠ '\\')
    (plain : ¬ c.toNat < 0x20) (pieces : List Piece) (rest : List Char) :
    readPieces pieces (c :: rest) = readPieces (.char c :: pieces) rest := by
  rw [readPieces.eq_def]
  split
  next same => cases same
  next same => exact absurd (List.cons.inj same).1 quote
  next same => exact absurd (List.cons.inj same).1 backslash
  next same => exact absurd (List.cons.inj same).1 backslash
  next same =>
    cases same
    exact if_neg plain

/-- A character is read back from what stands for it in a string. -/
theorem readPieces_escaped (pieces : List Piece) (c : Char) (rest : List Char) :
    readPieces pieces (escaped c ++ rest) = readPieces (.char c :: pieces) rest := by
  unfold escaped escapeOf
  split
  -- The first seven have escapes of their own.
  · simp [readPieces, unescape?]
  · simp [readPieces, unescape?]
  · simp [readPieces, unescape?]
  · simp [readPieces, unescape?]
  · simp [readPieces, unescape?]
  · simp [readPieces, unescape?]
  · simp [readPieces, unescape?]
  next quote backslash _ _ _ _ _ =>
    split
    next control =>
      simp [readPieces, unit?_of_control control, ofUnit_of_control control]
    next plain => exact readPieces_of_plain quote backslash plain pieces rest

theorem readPieces_flatMap (pieces : List Piece) (s rest : List Char) :
    readPieces pieces (s.flatMap escaped ++ rest) = readPieces ((s.map .char).reverse ++ pieces) rest := by
  induction s generalizing pieces with
  | nil => rfl
  | cons c s ih =>
    rw [List.flatMap_cons, List.append_assoc, readPieces_escaped, ih]
    simp

theorem joinPieces_map_char (s : List Char) : joinPieces (s.map .char) = some s := by
  induction s with
  | nil => rfl
  | cons c s ih => simp [joinPieces, ih]

theorem readString_quoted (s : String) (rest : List Char) :
    readString (s.toList.flatMap escaped ++ '"' :: rest) = some (some s, rest) := by
  rw [readString, readPieces_flatMap]
  simp [readPieces, joinPieces_map_char]

/-! ### Plain values -/

/-- Neither a list nor an object. -/
def IsPlain : Json → Prop
  | .array _ => False
  | .object _ => False
  | _ => True

/-- What the text of a plain value is read as. -/
inductive ReadsAs : Json → Document → Prop where
  | null : ReadsAs .null .null
  | bool (value : Bool) : ReadsAs (.bool value) (.bool value)
  | text (value : String) : ReadsAs (.string value) (.text value)
  | notFinite {x : Float} (infinite : x.isFinite = false) : ReadsAs (.float x) .null
  | number {value : Json} {numeral : Numeral}
      (written : readNumeral value.compact.toList = some (numeral, [])) :
      ReadsAs value numeral.toDocument

theorem readWord_append (word : String) (value : Document) (rest : List Char) :
    readWord word value (word.toList ++ rest) = some (value, rest) := by
  rw [readWord, if_pos (by simp), ← String.length_toList, List.drop_left]

theorem readValue_space (fuel depth : Nat) (s : List Char) :
    readValue fuel depth (' ' :: s) = readValue fuel depth s := by
  cases fuel <;> simp [readValue, skipSpace]

theorem NumberParts.exists_text (parts : NumberParts) (wellFormed : parts.WellFormed) :
    ∃ c more, parts.text = c :: more ∧ (c = '-' ∨ c.isDigit = true) := by
  unfold NumberParts.text
  cases parts.negative with
  | true => exact ⟨'-', _, rfl, Or.inl rfl⟩
  | false =>
    obtain ⟨c, more, digits⟩ := List.exists_cons_of_ne_nil wellFormed.whole.nonempty
    rw [digits]
    exact ⟨c, _, rfl, Or.inr (wellFormed.whole.digits c (by simp [digits]))⟩

theorem readValue_number {parts : NumberParts} (wellFormed : parts.WellFormed) (stops : Stops rest)
    (fuel depth : Nat) :
    readValue (fuel + 1) depth (parts.text ++ rest) = some (parts.numeral.toDocument, rest) := by
  have number := parts.readNumeral_text wellFormed stops
  obtain ⟨c, more, text, first⟩ := parts.exists_text wellFormed
  rw [text, List.cons_append] at number ⊢
  -- A sign or digit is neither a space nor the first letter of anything else.
  have other {d : Char} (different : d ≠ '-' ∧ d.isDigit = false) : c ≠ d := by
    rintro rfl
    rcases first with minus | digit
    · exact different.1 minus
    · exact absurd (digit.symm.trans different.2) (by decide)
  -- So nothing is skipped, and no branch but the one for numbers is taken.
  have unspaced : skipSpace (c :: (more ++ rest)) = c :: (more ++ rest) := by
    have space : c ≠ ' ' := other (by decide)
    have line : c ≠ '\n' := other (by decide)
    have tab : c ≠ '\t' := other (by decide)
    have carriage : c ≠ '\r' := other (by decide)
    simp [skipSpace, space, line, tab, carriage]
  rw [readValue, unspaced]
  split
  next same => exact absurd (List.cons.inj same).1 (other (by decide))
  next same => exact absurd (List.cons.inj same).1 (other (by decide))
  next same => exact absurd (List.cons.inj same).1 (other (by decide))
  next same => exact absurd (List.cons.inj same).1 (other (by decide))
  next same => exact absurd (List.cons.inj same).1 (other (by decide))
  next same => exact absurd (List.cons.inj same).1 (other (by decide))
  · rw [number, Option.map_some]

theorem toString_parts (n : Int) :
    ∃ parts : NumberParts, parts.WellFormed ∧ (toString n).toList = parts.text := by
  refine ⟨⟨decide (n < 0), Nat.toDigits 10 n.natAbs, none, none⟩,
    ⟨isWhole_toDigits _, nofun, nofun⟩, ?_⟩
  cases n with
  | ofNat n =>
    simp [NumberParts.text, NumberParts.fractionText, NumberParts.exponentText, Int.toString_eq_repr,
      Int.repr]
  | negSucc n =>
    simp [NumberParts.text, NumberParts.fractionText, NumberParts.exponentText, Int.toString_eq_repr,
      Int.repr]

theorem readValue_parts {value : Json} {parts : NumberParts} (wellFormed : parts.WellFormed)
    (text : value.compact.toList = parts.text) (stops : Stops rest) (fuel depth : Nat) :
    ∃ d, ReadsAs value d ∧ readValue (fuel + 1) depth (value.compact.toList ++ rest) = some (d, rest) := by
  refine ⟨parts.numeral.toDocument, .number ?_, ?_⟩
  · rw [text]
    have ends : Stops [] := nofun
    simpa using parts.readNumeral_text wellFormed ends
  · rw [text]
    exact readValue_number wellFormed stops fuel depth

theorem readValue_plain {value : Json} (plain : value.IsPlain) (stops : Stops rest)
    (fuel depth level : Nat) :
    ∃ d, ReadsAs value d ∧
      readValue (fuel + 1) depth ((indented level value).toList ++ rest) = some (d, rest) := by
  cases value with
  | null =>
    refine ⟨.null, .null, ?_⟩
    simpa [indented, compact, readValue, skipSpace] using readWord_append "null" .null rest
  | bool value =>
    refine ⟨.bool value, .bool value, ?_⟩
    cases value with
    | true =>
      simpa [indented, compact, readValue, skipSpace] using readWord_append "true" (.bool true) rest
    | false =>
      simpa [indented, compact, readValue, skipSpace] using readWord_append "false" (.bool false) rest
  | string value =>
    refine ⟨.text value, .text value, ?_⟩
    simp [indented, compact, toList_quote, readValue, skipSpace, readString_quoted]
  | int value =>
    obtain ⟨parts, wellFormed, text⟩ := toString_parts value
    have written : (compact (.int value)).toList = parts.text := by rw [compact, text]
    exact readValue_parts wellFormed written stops fuel depth
  | float x =>
    cases finite : x.isFinite with
    | true =>
      obtain ⟨parts, wellFormed, text⟩ := Decimal.jsonText_parts x
      have written : (compact (.float x)).toList = parts.text := by simp [compact, floatText, finite, text]
      exact readValue_parts wellFormed written stops fuel depth
    | false =>
      refine ⟨.null, .notFinite finite, ?_⟩
      simpa [indented, compact, floatText, finite, readValue, skipSpace] using
        readWord_append "null" .null rest
  | array items => exact plain.elim
  | object fields => exact plain.elim

/-! ### Objects -/

/-- A field that is read back under its name. -/
def FieldReadsAs (field : String × Json) (read : String × Document) : Prop :=
  read.1 = field.1 ∧ ReadsAs field.2 read.2

theorem skipSpace_newLine (level : Nat) (s : List Char) :
    skipSpace ((newLine level).toList ++ s) = skipSpace s := by
  have blank : ∀ c ∈ (newLine level).toList,
      (c = ' ' || c = '\n' || c = '\t' || c = '\r') = true := by
    intro c member
    simp only [newLine, String.toList_append, List.mem_append, String.toList_ofList] at member
    rcases member with line | space
    · rw [List.mem_singleton.mp line]
      rfl
    · rw [List.eq_of_mem_replicate space]
      rfl
  rw [skipSpace, List.dropWhile_append_of_pos blank]
  rfl

theorem readFields_newLine (fuel depth level : Nat) (s : List Char) :
    readFields fuel depth ((newLine level).toList ++ s) = readFields fuel depth s := by
  cases fuel with
  | zero => rfl
  | succ fuel => rw [readFields, readFields, skipSpace_newLine]

/-- One field is read up to what stands behind it, which tells whether there are more. -/
theorem readFields_field {value : Json} (plain : value.IsPlain) (stops : Stops rest) (name : String)
    (fuel depth level : Nat) :
    ∃ d, ReadsAs value d ∧
      let field := (quote name).toList ++ ':' :: ' ' :: ((indented level value).toList ++ rest)
      (∀ s, skipSpace rest = '\x7d' :: s →
        readFields (fuel + 2) depth field = some ([(some name, d)], s)) ∧
      ∀ s, skipSpace rest = ',' :: s →
        readFields (fuel + 2) depth field =
          (readFields (fuel + 1) depth s).map fun (fields, s) => ((some name, d) :: fields, s) := by
  obtain ⟨d, reads, read⟩ := readValue_plain plain stops fuel depth level
  have quoted (s : List Char) : skipSpace ('"' :: s) = '"' :: s := rfl
  have colon (s : List Char) : skipSpace (':' :: s) = ':' :: s := rfl
  refine ⟨d, reads, ?_, ?_⟩
  · intro s last
    conv_lhs => rw [readFields]
    simp only [toList_quote, List.cons_append, List.append_assoc, List.nil_append, quoted,
      readString_quoted, colon, readValue_space, read, last]
  · intro s more
    conv_lhs => rw [readFields]
    simp only [toList_quote, List.cons_append, List.append_assoc, List.nil_append, quoted,
      readString_quoted, colon, readValue_space, read, more]

/-- A field of an object with all fields behind it, up to the closing brace. -/
def fieldsText (level : Nat) (name : String) (value : Json) (others : List (String × Json)) :
    List Char :=
  (quote name).toList ++ ':' :: ' ' :: ((indented level value).toList ++
    ((indentedFields level others).toList ++ ((newLine 0).toList ++ ['\x7d'])))

theorem readFields_text {name : String} {value : Json} {others : List (String × Json)}
    (plain : ∀ field ∈ (name, value) :: others, field.2.IsPlain) {fuel : Nat}
    (enough : others.length + 2 ≤ fuel) (depth level : Nat) (rest : List Char) :
    ∃ read, List.Forall₂ FieldReadsAs ((name, value) :: others) read ∧
      readFields fuel depth (fieldsText level name value others ++ rest) =
        some (read.map fun field => (some field.1, field.2), rest) := by
  obtain ⟨fuel, rfl⟩ : ∃ less, fuel = less + 2 := ⟨fuel - 2, by omega⟩
  -- Induction on the fields behind the first one, each of which takes one step of the fuel.
  have first := plain (name, value) List.mem_cons_self
  induction others generalizing name value fuel with
  | nil =>
    have text : fieldsText level name value [] ++ rest = (quote name).toList ++ ':' :: ' ' ::
        ((indented level value).toList ++ ((newLine 0).toList ++ '\x7d' :: rest)) := by
      simp [fieldsText, indentedFields]
    have stops : Stops ((newLine 0).toList ++ '\x7d' :: rest) := by
      rintro c ⟨⟩
      decide
    obtain ⟨d, reads, last, -⟩ := readFields_field first stops name fuel depth level
    refine ⟨[(name, d)], .cons ⟨rfl, reads⟩ .nil, ?_⟩
    rw [text, last rest (skipSpace_newLine 0 _)]
    rfl
  | cons other others ih =>
    have text : fieldsText level name value (other :: others) ++ rest = (quote name).toList ++
        ':' :: ' ' :: ((indented level value).toList ++
          ',' :: ((newLine level).toList ++ (fieldsText level other.1 other.2 others ++ rest))) := by
      simp [fieldsText, indentedFields]
    have stops : Stops (',' :: ((newLine level).toList ++
        (fieldsText level other.1 other.2 others ++ rest))) := by
      rintro c ⟨⟩
      decide
    obtain ⟨d, reads, -, more⟩ := readFields_field first stops name fuel depth level
    obtain ⟨fuel, rfl⟩ : ∃ less, fuel = less + 1 := ⟨fuel - 1, by simp at enough; omega⟩
    obtain ⟨read, others, later⟩ := ih (fun field member => plain field (List.mem_cons_of_mem _ member))
      fuel (by simp at enough; omega) (plain other (by simp))
    refine ⟨(name, d) :: read, .cons ⟨rfl, reads⟩ others, ?_⟩
    rw [text, more _ rfl, readFields_newLine, later]
    rfl

theorem length_le_indentedFields (level : Nat) (fields : List (String × Json)) :
    fields.length ≤ (indentedFields level fields).toList.length := by
  induction fields with
  | nil => simp
  | cons first rest ih =>
    simp only [indentedFields, String.toList_append, List.length_append, List.length_cons] at ih ⊢
    have comma : ",".toList.length = 1 := rfl
    omega

theorem tableOf_map_some (read : List (String × Document)) :
    tableOf (read.map fun field => (some field.1, field.2)) = .table read := by
  have all : (read.map fun field => (some field.1, field.2)).mapM
      (fun field => field.1.map (·, field.2)) = some read := by
    induction read with
    | nil => rfl
    | cons first read ih => simp [ih]
  unfold tableOf
  rw [all]

/-- A quote behind the brace begins the first field. -/
theorem readValue_object {fuel depth : Nat} {body more : List Char}
    {fields : List (Option String × Document)} (inside : skipSpace body = '"' :: more)
    (read : readFields fuel (depth + 1) ('"' :: more) = some (fields, rest)) :
    readValue (fuel + 1) depth ('\x7b' :: body) = some (nested depth (tableOf fields), rest) := by
  have brace : skipSpace ('\x7b' :: body) = '\x7b' :: body := rfl
  rw [readValue, brace]
  simp [inside, read]

/-- The text of an object of plain values is one document, with the fields of the object. -/
theorem read?_pretty {fields : List (String × Json)} (some : fields ≠ [])
    (plain : ∀ field ∈ fields, field.2.IsPlain) :
    ∃ read, List.Forall₂ FieldReadsAs fields read ∧
      read? ((Json.object fields).pretty ++ "\n") = .some (.table read) := by
  match fields, some with
  | (name, value) :: others, _ =>
    let body := (newLine 1).toList ++ (fieldsText 1 name value others ++ ['\n'])
    have text : ((Json.object ((name, value) :: others)).pretty ++ "\n").toList = '\x7b' :: body := by
      simp [pretty, indented, fieldsText, body]
    have enough : others.length + 2 ≤ 2 * ('\x7b' :: body).length + 1 := by
      have each := length_le_indentedFields 1 others
      simp only [body, fieldsText, List.length_append, List.length_cons, List.length_nil]
      omega
    obtain ⟨read, same, fields⟩ := readFields_text plain enough 1 1 ['\n']
    have opened : readValue (2 * ('\x7b' :: body).length + 2) 0 ('\x7b' :: body) =
        .some (.table read, ['\n']) := by
      obtain ⟨more, quote⟩ : ∃ more, fieldsText 1 name value others ++ ['\n'] = '"' :: more := by
        rw [fieldsText, toList_quote]
        exact ⟨_, rfl⟩
      have inside : skipSpace body = '"' :: more := by
        simp only [body, skipSpace_newLine, quote]
        rfl
      rw [quote] at fields
      rw [readValue_object inside fields, tableOf_map_some]
      rfl
    refine ⟨read, same, ?_⟩
    rw [read?, text]
    simp only [opened]
    rfl

end Geolocation.Json
