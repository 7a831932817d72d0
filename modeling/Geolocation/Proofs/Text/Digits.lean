import Geolocation.Text.Digits

/-!
# Digits that are written and read again

Numbers are written with digits to the base ten or sixteen, without leading zeros. Reading such digits
gives the number back. Of the hexadecimal digits only the capitals change when they are lower-cased.
-/

namespace Geolocation.Text

/-! ### Hexadecimal digits -/

theorem le_iff_toNat (a b : Char) : a ≤ b ↔ a.toNat ≤ b.toNat := by
  rw [Char.le_def, UInt32.le_iff_toNat_le]
  rfl

theorem isHexDigit_iff (c : Char) : isHexDigit c = true ↔
    48 ≤ c.toNat ∧ c.toNat ≤ 57 ∨ 97 ≤ c.toNat ∧ c.toNat ≤ 102 ∨ 65 ≤ c.toNat ∧ c.toNat ≤ 70 := by
  unfold isHexDigit hexValue?
  simp only [le_iff_toNat]
  split
  next digit => simpa using Or.inl digit
  next noDigit =>
    split
    next small => simpa using Or.inr (Or.inl small)
    next noSmall =>
      split
      next capital => simpa using Or.inr (Or.inr capital)
      next noCapital =>
        simp at noDigit noSmall noCapital ⊢
        omega

theorem isUpper_iff (c : Char) : c.isUpper = true ↔ 65 ≤ c.toNat ∧ c.toNat ≤ 90 := by
  change decide ('A'.val ≤ c.val ∧ c.val ≤ 'Z'.val) = true ↔ _
  rw [decide_eq_true_iff, UInt32.le_iff_toNat_le, UInt32.le_iff_toNat_le]
  rfl

theorem isDigit_iff (c : Char) : c.isDigit = true ↔ 48 ≤ c.toNat ∧ c.toNat ≤ 57 := by
  simp only [Char.isDigit, ge_iff_le, Bool.and_eq_true, decide_eq_true_eq, UInt32.le_iff_toNat_le]
  rfl

theorem toLower_of_not_isUpper {c : Char} (small : c.isUpper = false) : c.toLower = c := by
  apply dif_neg
  intro range
  have capital : c.isUpper = true := decide_eq_true range
  rw [small] at capital
  cases capital

theorem toNat_toLower_of_isUpper {c : Char} (capital : c.isUpper = true) :
    c.toLower.toNat = c.toNat + 32 := by
  have bounds := (isUpper_iff c).mp capital
  have lowered : c.toLower.val = c.val + 32 := by
    unfold Char.toLower
    rw [dif_pos (of_decide_eq_true capital)]
    rfl
  calc c.toLower.toNat = c.toLower.val.toNat := rfl
    _ = (c.val.toNat + 32) % 2 ^ 32 := by rw [lowered, UInt32.toNat_add]; rfl
    _ = c.toNat + 32 := Nat.mod_eq_of_lt (by rw [Char.toNat_val]; omega)

theorem toNat_toLower (c : Char) :
    c.toLower.toNat = if c.isUpper then c.toNat + 32 else c.toNat := by
  split
  next capital => exact toNat_toLower_of_isUpper capital
  next small => rw [toLower_of_not_isUpper (Bool.eq_false_iff.mpr small)]

theorem isUpper_toLower (c : Char) : c.toLower.isUpper = false := by
  rw [← Bool.not_eq_true, isUpper_iff, toNat_toLower]
  split
  next capital =>
    have bounds := (isUpper_iff c).mp capital
    omega
  next small =>
    rw [isUpper_iff] at small
    exact small

/-- Lower-casing keeps hexadecimal digits and makes none of other characters. -/
theorem isHexDigit_toLower (c : Char) : isHexDigit c.toLower = isHexDigit c := by
  cases capital : c.isUpper with
  | false => rw [toLower_of_not_isUpper capital]
  | true =>
    have bounds := (isUpper_iff c).mp capital
    rw [Bool.eq_iff_iff, isHexDigit_iff, isHexDigit_iff, toNat_toLower_of_isUpper capital]
    omega

theorem hexValue_digitChar {d : Nat} (digit : d < 16) : hexValue? d.digitChar = some d := by
  revert d
  decide

/-! ### Numbers -/

theorem hexNumber_toDigits (n : Nat) : hexNumber? (Nat.toDigits 16 n) = some n := by
  induction n using Nat.base_induction 16 (by decide) with
  | single d digit =>
    rw [Nat.toDigits_of_lt_base digit]
    simp [hexNumber?, hexValue_digitChar digit]
  | digit n d digit positive ih =>
    rw [← Nat.toDigits_append_toDigits (by decide) positive digit, Nat.toDigits_of_lt_base digit]
    rw [hexNumber?] at ih ⊢
    simp [List.foldlM_append, ih, hexValue_digitChar digit]

theorem digitsValue_toDigits (n : Nat) : digitsValue (Nat.toDigits 10 n) = n :=
  Nat.ofDigitChars_toDigits (by decide) (by decide)

theorem toDigits_injective {m n : Nat} (same : Nat.toDigits 10 m = Nat.toDigits 10 n) : m = n := by
  rw [← digitsValue_toDigits m, same, digitsValue_toDigits]

theorem exists_toDigits {n : Nat} (positive : 0 < n) :
    ∃ c rest, Nat.toDigits 10 n = c :: rest ∧ c ≠ '0' := by
  induction n using Nat.base_induction 10 (by decide) with
  | single d digit =>
    rw [Nat.toDigits_of_lt_base digit]
    refine ⟨d.digitChar, [], rfl, ?_⟩
    revert digit positive
    revert d
    decide
  | digit n d digit more ih =>
    obtain ⟨c, rest, digits, first⟩ := ih more
    rw [← Nat.toDigits_append_toDigits (by decide) more digit, digits]
    exact ⟨c, rest ++ Nat.toDigits 10 d, rfl, first⟩

theorem isDigit_of_mem_toDigits {n : Nat} {c : Char} (member : c ∈ Nat.toDigits 10 n) :
    c.isDigit = true :=
  Nat.isDigit_of_mem_toDigits (by decide) (by decide) member

theorem isHexDigit_of_mem_toDigits {base n : Nat} {c : Char} (more : 1 < base) (few : base ≤ 16)
    (member : c ∈ Nat.toDigits base n) : isHexDigit c = true := by
  induction n using Nat.base_induction base more with
  | single d digit =>
    rw [Nat.toDigits_of_lt_base digit, List.mem_singleton] at member
    rw [member, isHexDigit, hexValue_digitChar (by omega)]
    rfl
  | digit n d digit positive ih =>
    rw [← Nat.toDigits_append_toDigits more positive digit, Nat.toDigits_of_lt_base digit,
      List.mem_append, List.mem_singleton] at member
    rcases member with earlier | rfl
    · exact ih earlier
    · rw [isHexDigit, hexValue_digitChar (by omega)]
      rfl

theorem notMem_toDigits {base n : Nat} {c : Char} (other : isHexDigit c = false) (more : 1 < base)
    (few : base ≤ 16) : c ∉ Nat.toDigits base n := by
  intro member
  rw [isHexDigit_of_mem_toDigits more few member] at other
  cases other

end Geolocation.Text
