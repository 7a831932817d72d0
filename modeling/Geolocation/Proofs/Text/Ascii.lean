import Geolocation.Proofs.Text.Digits
import Geolocation.Text.Lowercase
import Mathlib.Data.String.Basic

/-!
# Texts of ASCII

A text of ASCII has as many bytes as characters. Its letters are lower-cased within ASCII. Of all other
characters only the Kelvin sign becomes ASCII altogether, namely a k; the capital I with a dot becomes two
characters, and the second is not of ASCII. So a text that comes out as ASCII without a k has been
written in ASCII.
-/

namespace Geolocation.Text

/-! ### Single characters -/

theorem lowerChar_cases (c : Char) : lowerChar c = c ∨
    ∃ row ∈ lowercaseRows, row.1 ≤ c.toNat ∧ c.toNat ≤ row.2.1 ∧
      lowerChar c = Char.ofNat ((c.toNat : Int) + row.2.2.2).toNat := by
  unfold lowerChar
  dsimp only
  split
  next found =>
    refine Or.inr ⟨_, List.mem_of_find?_eq_some found, ?_⟩
    have within := List.find?_some found
    simp only [Bool.and_eq_true, decide_eq_true_eq] at within
    exact ⟨within.1.1, within.1.2, rfl⟩
  next => exact Or.inl rfl

theorem toNat_ofNat {n : Nat} (isChar : n.isValidChar) : (Char.ofNat n).toNat = n := by
  rw [Char.ofNat, dif_pos isChar]
  rfl

/-- One row is of ASCII, and beyond it only the row of the Kelvin sign leads there. The others lead to
characters, as they stay clear of the surrogates. -/
theorem row_cases : ∀ row ∈ lowercaseRows,
    row = (0x41, 0x5a, 1, 32) ∨ row = (0x212a, 0x212a, 1, -8383) ∨
      128 ≤ row.1 ∧ 128 ≤ row.1 + row.2.2.2 ∧
        (row.2.1 + row.2.2.2 < 0xd800 ∨
          0xe000 ≤ row.1 + row.2.2.2 ∧ row.2.1 + row.2.2.2 < 0x110000) := by
  decide +kernel

theorem lowerChar_of_isUpper {c : Char} (capital : c.isUpper = true) : lowerChar c = c.toLower := by
  have bounds := (isUpper_iff c).mp capital
  have all : ∀ n < 26, lowerChar (Char.ofNat (n + 65)) = (Char.ofNat (n + 65)).toLower := by decide
  have this := all (c.toNat - 65) (by omega)
  rwa [Nat.sub_add_cancel bounds.1, Char.ofNat_toNat] at this

theorem lowerChar_of_ascii {c : Char} (ascii : c.toNat < 128) : lowerChar c = c.toLower := by
  cases capital : c.isUpper with
  | true => exact lowerChar_of_isUpper capital
  | false =>
    rw [toLower_of_not_isUpper capital]
    rcases lowerChar_cases c with same | ⟨row, member, above, below, -⟩
    · exact same
    · rcases row_cases row member with rfl | rfl | ⟨beyond, -⟩
      · rw [(isUpper_iff c).mpr ⟨above, below⟩] at capital
        cases capital
      · exact absurd (Nat.lt_of_le_of_lt above ascii) (by decide)
      · omega

theorem lowerChar_of_not_ascii {c : Char} (beyond : 128 ≤ c.toNat) :
    lowerChar c = 'k' ∨ 128 ≤ (lowerChar c).toNat := by
  rcases lowerChar_cases c with same | ⟨row, member, above, below, lowered⟩
  · right
    rw [same]
    exact beyond
  · rcases row_cases row member with rfl | rfl | ⟨-, first, valid⟩
    · exact absurd (Nat.le_trans beyond below) (by decide)
    · left
      have kelvin : c.toNat = 0x212a := Nat.le_antisymm below above
      rw [lowered, kelvin]
      rfl
    · right
      have isChar : ((c.toNat : Int) + row.2.2.2).toNat.isValidChar := by
        unfold Nat.isValidChar
        omega
      rw [lowered, toNat_ofNat isChar]
      omega

/-! ### Texts -/

theorem utf8ByteSize_of_ascii {s : String} (ascii : ∀ c ∈ s.toList, c.toNat < 128) :
    s.utf8ByteSize = s.toList.length := by
  rw [← String.ofList_toList (s := s), String.utf8ByteSize_ofList, String.toList_ofList]
  generalize s.toList = chars at ascii
  induction chars with
  | nil => rfl
  | cons c rest ih =>
    have one : c.utf8Size = 1 := Char.utf8Size_eq_one_iff.mpr
      (UInt32.le_iff_toNat_le.mpr (Nat.le_of_lt_succ (ascii c List.mem_cons_self)))
    rw [String.utf8Len_cons, one, List.length_cons,
      ih fun c member => ascii c (List.mem_cons_of_mem _ member)]

/-- The character is of ASCII, and is the lower-case form of characters of ASCII only. -/
def ComesFromAscii (c : Char) : Prop := c.toNat < 128 ∧ c ≠ 'k'

theorem lowerBetween_of_ascii {c : Char} (before after : List Char) (ascii : c.toNat < 128) :
    lowerBetween before c after = [c.toLower] := by
  have noDot : c ≠ 'İ' := by
    rintro rfl
    revert ascii
    decide
  have noSigma : c ≠ 'Σ' := by
    rintro rfl
    revert ascii
    decide
  rw [lowerBetween, if_neg noDot, if_neg noSigma, lowerChar_of_ascii ascii]

theorem exists_mem_lowerBetween {c : Char} (before after : List Char) (beyond : 128 ≤ c.toNat) :
    ∃ d ∈ lowerBetween before c after, ¬ComesFromAscii d := by
  unfold lowerBetween
  split
  -- The capital I with a dot leaves the dot behind its i.
  next => exact ⟨'\u0307', by simp, by simp [ComesFromAscii]⟩
  next =>
    split
    next =>
      refine ⟨_, List.mem_singleton_self _, fun plain => absurd plain.1 ?_⟩
      split <;> decide
    next =>
      refine ⟨_, List.mem_singleton_self _, fun plain => ?_⟩
      rcases lowerChar_of_not_ascii beyond with kelvin | still
      · exact plain.2 kelvin
      · exact absurd plain.1 (Nat.not_lt.mpr still)

theorem lowercaseAfter_eq_iff {before s word : List Char} (plain : ∀ c ∈ word, ComesFromAscii c) :
    lowercaseAfter before s = word ↔ s.map Char.toLower = word := by
  induction s generalizing before word with
  | nil => rfl
  | cons c rest ih =>
    rw [lowercaseAfter, List.map_cons]
    by_cases ascii : c.toNat < 128
    · rw [lowerBetween_of_ascii before rest ascii, List.singleton_append]
      cases word with
      | nil => simp
      | cons first others =>
        rw [List.cons.injEq, List.cons.injEq,
          ih fun c member => plain c (List.mem_cons_of_mem _ member)]
    · -- Neither way of lower-casing takes the character into the word.
      have beyond : 128 ≤ c.toNat := Nat.le_of_not_lt ascii
      constructor
      · rintro rfl
        obtain ⟨d, member, strange⟩ := exists_mem_lowerBetween before rest beyond
        exact absurd (plain d (List.mem_append_left _ member)) strange
      · rintro rfl
        have same : c.toLower = c := by
          apply toLower_of_not_isUpper
          rw [← Bool.not_eq_true, isUpper_iff]
          omega
        have first := (plain c.toLower List.mem_cons_self).1
        rw [same] at first
        exact absurd first ascii

/-- A text is lower-cased to a word of ASCII without a k exactly if it is that word, up to the case of
ASCII letters. -/
theorem toList_lowercase_eq_iff {s : String} {word : List Char}
    (plain : ∀ c ∈ word, ComesFromAscii c) :
    (lowercase s).toList = word ↔ s.toList.map Char.toLower = word := by
  rw [lowercase, String.toList_ofList]
  exact lowercaseAfter_eq_iff plain

end Geolocation.Text
