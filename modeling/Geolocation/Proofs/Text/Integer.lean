import Geolocation.Proofs.Text.Digits
import Geolocation.Text.Blank

/-!
# Whole numbers in text

A whole number is written with decimal digits behind an optional sign, and there may be white space around
it. What is left of such a text when it is trimmed is read as the number, if that fits 64 bits. Nothing
else is read.
-/

namespace Geolocation.Text

/-! ### White space around a text -/

/-- The text is the inner one with white space before and behind it. -/
def Pads (inner s : List Char) : Prop :=
  ∃ before after, s = before ++ inner ++ after ∧ (∀ c ∈ before, isBlank c = true) ∧
    ∀ c ∈ after, isBlank c = true

theorem pads_trimmed (s : List Char) : Pads (trimmed s) s := by
  let rest := s.dropWhile isBlank
  have blank (chars : List Char) : ∀ c ∈ chars.takeWhile isBlank, isBlank c = true :=
    List.all_eq_true.mp List.all_takeWhile
  have behind : rest = trimmed s ++ (rest.reverse.takeWhile isBlank).reverse := by
    have split := congrArg List.reverse (List.takeWhile_append_dropWhile (p := isBlank) (l := rest.reverse))
    rw [List.reverse_append, List.reverse_reverse] at split
    exact split.symm
  refine ⟨s.takeWhile isBlank, (rest.reverse.takeWhile isBlank).reverse, ?_, blank s, ?_⟩
  · rw [List.append_assoc, ← behind]
    exact List.takeWhile_append_dropWhile.symm
  · intro c member
    exact blank rest.reverse c (List.mem_reverse.mp member)

/-- White space is trimmed up to the inner text, if that has none. -/
theorem trimmed_of_pads {inner s : List Char} (pads : Pads inner s) (some : inner ≠ [])
    (solid : ∀ c ∈ inner, isBlank c = false) : trimmed s = inner := by
  obtain ⟨before, after, rfl, blankBefore, blankAfter⟩ := pads
  -- Dropping stops at the first character of the inner text, from either side.
  have stops {chars more : List Char} (some : chars ≠ []) (solid : ∀ c ∈ chars, isBlank c = false) :
      (chars ++ more).dropWhile isBlank = chars ++ more := by
    cases chars with
    | nil => contradiction
    | cons c rest => exact List.dropWhile_cons_of_neg (by simp [solid c List.mem_cons_self])
  rw [trimmed, List.append_assoc, List.dropWhile_append_of_pos blankBefore, stops some solid,
    List.reverse_append, List.dropWhile_append_of_pos (by simpa using blankAfter),
    ← List.append_nil inner.reverse, stops (by simpa using some) (by simpa using solid),
    List.append_nil, List.reverse_reverse]

/-! ### Numerals -/

/-- The digits write the natural number. -/
def Decimal (digits : List Char) (n : Nat) : Prop :=
  digits ≠ [] ∧ (∀ c ∈ digits, c.isDigit = true) ∧ Nat.ofDigitChars 10 digits 0 = n

/-- How a whole number is written. -/
inductive Numeral : List Char → Int → Prop where
  | plain {digits : List Char} {n : Nat} (decimal : Decimal digits n) : Numeral digits n
  | plus {digits : List Char} {n : Nat} (decimal : Decimal digits n) : Numeral ('+' :: digits) n
  | minus {digits : List Char} {n : Nat} (decimal : Decimal digits n) : Numeral ('-' :: digits) (-n)

/-- The number fits 64 bits, one of which is its sign. -/
def IsInt64 (n : Int) : Prop := -9223372036854775808 ≤ n ∧ n ≤ 9223372036854775807

/-- The text writes a whole number of 64 bits, with white space around it or without. -/
def WritesInt64 (s : List Char) (n : Int) : Prop :=
  ∃ numeral, Pads numeral s ∧ Numeral numeral n ∧ IsInt64 n

theorem isBlank_of_isDigit {c : Char} (digit : c.isDigit = true) : isBlank c = false := by
  obtain ⟨above, below⟩ := (isDigit_iff c).mp digit
  have apart : ∀ range ∈ blankRanges, range.2 < 48 ∨ 57 < range.1 := by decide
  rw [isBlank, inRanges, List.any_eq_false]
  intro range member
  have := apart range member
  simp only [Bool.and_eq_true, decide_eq_true_eq]
  omega

theorem Decimal.solid {digits : List Char} {n : Nat} (decimal : Decimal digits n) :
    ∀ c ∈ digits, isBlank c = false :=
  fun c member => isBlank_of_isDigit (decimal.2.1 c member)

theorem Numeral.solid {s : List Char} {n : Int} (numeral : Numeral s n) :
    s ≠ [] ∧ ∀ c ∈ s, isBlank c = false := by
  cases numeral with
  | plain decimal => exact ⟨decimal.1, decimal.solid⟩
  | plus decimal => exact ⟨nofun, List.forall_mem_cons.mpr ⟨by decide, decimal.solid⟩⟩
  | minus decimal => exact ⟨nofun, List.forall_mem_cons.mpr ⟨by decide, decimal.solid⟩⟩

/-! ### Reading -/

theorem fitsInt64_iff (n : Int) : fitsInt64 n = true ↔ IsInt64 n := by
  simp [fitsInt64, IsInt64]
  omega

def signed (negative : Bool) (magnitude : Nat) : Int :=
  if negative then -(magnitude : Int) else magnitude

theorem readSigned_eq_some_iff (negative : Bool) (digits : List Char) (n : Int) :
    (if digits.isEmpty || !digits.all Char.isDigit then none
      else
        let value := signed negative (digitsValue digits)
        if fitsInt64 value then some value else none) = some n ↔
    (∃ magnitude, Decimal digits magnitude ∧ signed negative magnitude = n) ∧ IsInt64 n := by
  have checked : (digits.isEmpty || !digits.all Char.isDigit) = false ↔
      digits ≠ [] ∧ ∀ c ∈ digits, c.isDigit = true := by
    simp
  by_cases valid : digits ≠ [] ∧ ∀ c ∈ digits, c.isDigit = true
  · have decimal : Decimal digits (digitsValue digits) := ⟨valid.1, valid.2, rfl⟩
    rw [checked.mpr valid, if_neg Bool.false_ne_true]
    simp only [Option.ite_none_right_eq_some, fitsInt64_iff, Option.some.injEq]
    constructor
    · rintro ⟨range, rfl⟩
      exact ⟨⟨_, decimal, rfl⟩, range⟩
    · rintro ⟨⟨magnitude, ⟨-, -, rfl⟩, rfl⟩, range⟩
      exact ⟨range, rfl⟩
  · rw [← checked, Bool.not_eq_false] at valid
    rw [if_pos valid]
    simp only [reduceCtorEq, false_iff]
    rintro ⟨⟨magnitude, ⟨nonempty, decimal, -⟩, -⟩, -⟩
    rw [checked.mpr ⟨nonempty, decimal⟩] at valid
    cases valid

theorem readInt64?_eq_some_iff (s : List Char) (n : Int) :
    readInt64? s = some n ↔ Numeral s n ∧ IsInt64 n := by
  unfold readInt64?
  split
  next negative digits sign =>
    refine (readSigned_eq_some_iff negative digits n).trans (and_congr_left fun _ => ?_)
    -- A sign is no digit, so that the first character leaves one way to have written the number.
    split at sign
    next rest =>
      cases sign
      constructor
      · rintro ⟨magnitude, decimal, rfl⟩
        exact .minus decimal
      · rintro (decimal | _ | decimal)
        · exact absurd (decimal.2.1 '-' List.mem_cons_self) (by decide)
        · exact ⟨_, decimal, rfl⟩
    next rest =>
      cases sign
      constructor
      · rintro ⟨magnitude, decimal, rfl⟩
        exact .plus decimal
      · rintro (decimal | decimal)
        · exact absurd (decimal.2.1 '+' List.mem_cons_self) (by decide)
        · exact ⟨_, decimal, rfl⟩
    next noMinus noPlus =>
      cases sign
      constructor
      · rintro ⟨magnitude, decimal, rfl⟩
        exact .plain decimal
      · rintro (decimal | decimal | decimal)
        · exact ⟨_, decimal, rfl⟩
        · exact absurd rfl (noPlus _)
        · exact absurd rfl (noMinus _)

theorem readInt64?_trimmed_eq_some_iff (s : List Char) (n : Int) :
    readInt64? (trimmed s) = some n ↔ WritesInt64 s n := by
  rw [readInt64?_eq_some_iff]
  constructor
  · rintro ⟨numeral, fits⟩
    exact ⟨trimmed s, pads_trimmed s, numeral, fits⟩
  · rintro ⟨inner, pads, numeral, fits⟩
    rw [trimmed_of_pads pads numeral.solid.1 numeral.solid.2]
    exact ⟨numeral, fits⟩

end Geolocation.Text
