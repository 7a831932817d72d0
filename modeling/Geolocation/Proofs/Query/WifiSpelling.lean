import Geolocation.Proofs.Text.Ascii
import Geolocation.WifiKey

/-!
# Spellings of hardware addresses

A text spells a key if the digits of the key, in either case, are all that is left of it without the
characters that may divide them. Reading finds the key of every spelling and nothing else, although it
lower-cases letters of all scripts first. Two spellings of a key come with it: its digits alone, and the
address with colons, which is six pairs of digits.

Main result: `WifiKey.reads_addresses`, by the digits of the text.
-/

namespace Geolocation.WifiKey

/-- The text is a way to write the key. -/
def Spells (text : String) (key : WifiKey) : Prop :=
  (text.toList.filter (!isSeparator ·)).map Char.toLower = key.digits

instance (text : String) (key : WifiKey) : Decidable (Spells text key) :=
  inferInstanceAs (Decidable (_ = _))

/-- The text is six pairs of lower-case hexadecimal digits with colons between them. -/
def IsColonAddress (text : String) : Prop :=
  ∃ pairs : List String, text = ":".intercalate pairs ∧ pairs.length = 6 ∧
    ∀ pair ∈ pairs, pair.length = 2 ∧
      ∀ c ∈ pair.toList, '0' ≤ c ∧ c ≤ '9' ∨ 'a' ≤ c ∧ c ≤ 'f'

@[ext]
theorem ext {a b : WifiKey} (same : a.digits = b.digits) : a = b := by
  cases a
  cases b
  cases same
  rfl

theorem eq_of_text {a b : WifiKey} (same : a.text = b.text) : a = b :=
  WifiKey.ext (String.ofList_injective same)

/-! ### Digits -/

theorem isDigit_iff (c : Char) :
    isDigit c = true ↔ '0' ≤ c ∧ c ≤ '9' ∨ 'a' ≤ c ∧ c ≤ 'f' := by
  rw [isDigit, Bool.and_eq_true, Text.isHexDigit_iff, Bool.not_eq_true', ← Bool.not_eq_true,
    Text.isUpper_iff]
  simp only [Text.le_iff_toNat]
  simp
  omega

theorem isDigit_of_mem {key : WifiKey} {c : Char} (member : c ∈ key.digits) : isDigit c = true := by
  have canonical := key.canonical
  simp only [isCanonical, Bool.and_eq_true, List.all_eq_true] at canonical
  exact canonical.1.1.2 c member

theorem length_digits (key : WifiKey) : key.digits.length = 12 := by
  have canonical := key.canonical
  simp only [isCanonical, Bool.and_eq_true, decide_eq_true_eq] at canonical
  exact canonical.1.1.1

theorem toLower_of_isDigit {c : Char} (digit : isDigit c = true) : c.toLower = c := by
  rw [isDigit, Bool.and_eq_true, Bool.not_eq_true'] at digit
  exact Text.toLower_of_not_isUpper digit.2

theorem not_isSeparator_of_isDigit {c : Char} (digit : isDigit c = true) : isSeparator c = false := by
  apply Bool.eq_false_iff.mpr
  intro separator
  simp only [isSeparator, Bool.or_eq_true, decide_eq_true_eq] at separator
  rcases separator with (rfl | rfl) | rfl <;> revert digit <;> decide

/-! ### Reading -/

theorem comesFromAscii_of_mem {key : WifiKey} {c : Char} (member : c ∈ key.digits) :
    Text.ComesFromAscii c := by
  have digit := (isDigit_iff c).mp (isDigit_of_mem member)
  simp only [Text.le_iff_toNat] at digit
  constructor
  · have nine : '9'.toNat = 57 := rfl
    have f : 'f'.toNat = 102 := rfl
    omega
  · rintro rfl
    revert digit
    decide

theorem read?_eq_some_iff (text : String) (key : WifiKey) :
    read? text = some key ↔ Spells text key := by
  unfold read? Spells
  generalize text.toList.filter (!isSeparator ·) = rest
  -- What is lower-cased to the digits of a key has been written in ASCII.
  have plain : ∀ c ∈ key.digits, Text.ComesFromAscii c := fun _ => comesFromAscii_of_mem
  have lowered := Text.toList_lowercase_eq_iff (s := String.ofList rest) plain
  rw [String.toList_ofList] at lowered
  rw [← lowered]
  generalize Text.lowercase (String.ofList rest) = lower
  constructor
  · intro read
    simp only [ofDigits?] at read
    split at read
    · split at read
      · cases read
        rfl
      · cases read
    · cases read
  · intro digits
    -- Every digit takes one byte, so that the twelve of them pass the test for bytes.
    have bytes : lower.utf8ByteSize = 12 := by
      rw [Text.utf8ByteSize_of_ascii fun c member => ?_, digits, length_digits]
      exact (comesFromAscii_of_mem (digits ▸ member)).1
    have hexadecimal : lower.toList.all Text.isHexDigit = true := by
      rw [List.all_eq_true]
      intro c member
      have digit := isDigit_of_mem (digits ▸ member)
      rw [isDigit, Bool.and_eq_true] at digit
      exact digit.1
    have canonical : isCanonical lower.toList = true := digits ▸ key.canonical
    simp only [bytes, hexadecimal, decide_true, Bool.and_self, if_true, ofDigits?, canonical, dif_pos]
    exact congrArg some (WifiKey.ext digits)

/-- A text whose parts between the separators are the digits of a key spells that key. -/
theorem spells_of_filter {text : String} {key : WifiKey}
    (digits : text.toList.filter (!isSeparator ·) = key.digits) : Spells text key := by
  rw [Spells, digits]
  have same : key.digits.map Char.toLower = key.digits.map id :=
    List.map_congr_left fun c member => toLower_of_isDigit (isDigit_of_mem member)
  rw [same, List.map_id]

theorem spells_text (key : WifiKey) : Spells key.text key := by
  apply spells_of_filter
  rw [text, String.toList_ofList, List.filter_eq_self]
  intro c member
  rw [not_isSeparator_of_isDigit (isDigit_of_mem member)]
  rfl

/-! ### The address with colons -/

theorem flatten_pairs (digits : List Char) : (pairs digits).flatten = digits := by
  fun_induction pairs digits with
  | case1 => rfl
  | case2 a => rfl
  | case3 a b rest ih => simp [ih]

theorem pairs_of_even {digits : List Char} {n : Nat} (even : digits.length = 2 * n) :
    (pairs digits).length = n ∧ ∀ pair ∈ pairs digits, pair.length = 2 := by
  fun_induction pairs digits generalizing n with
  | case1 =>
    obtain rfl : n = 0 := by simp only [List.length_nil] at even; omega
    exact ⟨rfl, nofun⟩
  | case2 a =>
    simp only [List.length_cons, List.length_nil] at even
    omega
  | case3 a b rest ih =>
    simp only [List.length_cons] at even
    obtain ⟨count, double⟩ := ih (n := n - 1) (by omega)
    refine ⟨by simp only [List.length_cons, count]; omega, ?_⟩
    intro pair member
    rcases List.mem_cons.mp member with rfl | later
    · rfl
    · exact double pair later

theorem filter_intercalate_colon (parts : List (List Char)) :
    ([':'].intercalate parts).filter (!isSeparator ·) = parts.flatten.filter (!isSeparator ·) := by
  induction parts with
  | nil => rfl
  | cons part rest ih =>
    cases rest with
    | nil => simp
    | cons next rest =>
      rw [List.intercalate_cons_cons, List.filter_append, ih]
      simp [isSeparator]

theorem toList_address (key : WifiKey) :
    key.address.toList = [':'].intercalate (pairs key.digits) := by
  simp [address, Function.comp_def]

theorem spells_address (key : WifiKey) : Spells key.address key := by
  apply spells_of_filter
  rw [toList_address, filter_intercalate_colon, flatten_pairs, List.filter_eq_self]
  intro c member
  rw [not_isSeparator_of_isDigit (isDigit_of_mem member)]
  rfl

theorem isColonAddress_address (key : WifiKey) : IsColonAddress key.address := by
  obtain ⟨count, double⟩ := pairs_of_even (n := 6) (length_digits key)
  refine ⟨(pairs key.digits).map String.ofList, rfl, by rw [List.length_map, count], ?_⟩
  intro text member
  obtain ⟨pair, present, rfl⟩ := List.mem_map.mp member
  refine ⟨by rw [String.length_ofList, double pair present], ?_⟩
  intro c digit
  rw [String.toList_ofList] at digit
  have kept : c ∈ key.digits := by
    rw [← flatten_pairs key.digits]
    exact List.mem_flatten.mpr ⟨pair, present, digit⟩
  exact (isDigit_iff c).mp (isDigit_of_mem kept)

/-! ### Which texts are addresses -/

/-- What is left of a text without the characters that may divide an address. -/
def undivided (text : String) : List Char :=
  text.toList.filter fun c => c ≠ ':' ∧ c ≠ '-' ∧ c ≠ '.'

/-- The text is the address of a device: twelve hexadecimal digits of either case, divided in any way,
and neither zeros only nor ones only. -/
structure IsAddress (text : String) : Prop where
  length : (undivided text).length = 12
  hexadecimal : ∀ c ∈ undivided text,
    '0' ≤ c ∧ c ≤ '9' ∨ 'a' ≤ c ∧ c ≤ 'f' ∨ 'A' ≤ c ∧ c ≤ 'F'
  notZeros : ∃ c ∈ undivided text, c ≠ '0'
  notOnes : ∃ c ∈ undivided text, c ≠ 'f' ∧ c ≠ 'F'

theorem filter_isSeparator (text : String) :
    text.toList.filter (!isSeparator ·) = undivided text := by
  refine List.filter_congr fun c _ => ?_
  simp [isSeparator, Bool.and_assoc]

theorem isDigit_toLower (c : Char) : isDigit c.toLower = true ↔
    '0' ≤ c ∧ c ≤ '9' ∨ 'a' ≤ c ∧ c ≤ 'f' ∨ 'A' ≤ c ∧ c ≤ 'F' := by
  rw [isDigit, Text.isUpper_toLower, Text.isHexDigit_toLower, Bool.not_false, Bool.and_true,
    Text.isHexDigit_iff]
  simp only [Text.le_iff_toNat]
  rfl

theorem toLower_eq_zero_iff (c : Char) : c.toLower = '0' ↔ c = '0' := by
  rw [← Char.toNat_inj, ← Char.toNat_inj, Text.toNat_toLower]
  split
  next capital =>
    have bounds := (Text.isUpper_iff c).mp capital
    simp
    omega
  next => rfl

theorem toLower_eq_f_iff (c : Char) : c.toLower = 'f' ↔ c = 'f' ∨ c = 'F' := by
  rw [← Char.toNat_inj, ← Char.toNat_inj, ← Char.toNat_inj, Text.toNat_toLower]
  split
  next capital =>
    have bounds := (Text.isUpper_iff c).mp capital
    simp
    omega
  next small =>
    rw [Text.isUpper_iff] at small
    simp
    omega

/-- The text is an address exactly if its digits are those of a key in lower case. -/
theorem isAddress_iff (text : String) :
    IsAddress text ↔ isCanonical ((undivided text).map Char.toLower) = true := by
  simp only [isCanonical, List.length_map, List.all_map, List.any_map, Bool.and_eq_true,
    decide_eq_true_eq, List.all_eq_true, List.any_eq_true, Function.comp_apply, isDigit_toLower,
    ne_eq, toLower_eq_zero_iff, toLower_eq_f_iff, not_or]
  constructor
  · rintro ⟨length, hexadecimal, notZeros, notOnes⟩
    exact ⟨⟨⟨length, hexadecimal⟩, notZeros⟩, notOnes⟩
  · rintro ⟨⟨⟨length, hexadecimal⟩, notZeros⟩, notOnes⟩
    exact ⟨length, hexadecimal, notZeros, notOnes⟩

theorem read?_eq_some_iff_isAddress (text : String) (key : WifiKey) : read? text = some key ↔
    IsAddress text ∧ key.text.toList = (undivided text).map Char.toLower := by
  rw [read?_eq_some_iff, Spells, filter_isSeparator, WifiKey.text, String.toList_ofList, isAddress_iff]
  constructor
  · intro spelled
    rw [spelled]
    exact ⟨key.canonical, rfl⟩
  · rintro ⟨-, same⟩
    exact same.symm

theorem exists_read?_iff (text : String) : (∃ key, read? text = some key) ↔ IsAddress text := by
  constructor
  · rintro ⟨key, read⟩
    exact ((read?_eq_some_iff_isAddress text key).mp read).1
  · intro address
    have canonical := (isAddress_iff text).mp address
    refine ⟨⟨_, canonical⟩, (read?_eq_some_iff_isAddress text _).mpr ⟨address, ?_⟩⟩
    rw [WifiKey.text, String.toList_ofList]

/-- A key is read from exactly the texts that are addresses, and it has the digits of the address in
lower case; a character that neither is a digit nor divides digits spoils any text. The text of a key is
read as that key, and two texts are read as one key exactly if nothing but case and dividing characters
tells them apart. -/
theorem reads_addresses (text : String) :
    ((∃ key, read? text = some key) ↔ IsAddress text) ∧
      (∀ key, read? text = some key →
        key.text.toList = (undivided text).map Char.toLower ∧ read? key.text = some key) ∧
      (∀ c ∈ text.toList, c ≠ ':' → c ≠ '-' → c ≠ '.' →
        ¬('0' ≤ c ∧ c ≤ '9' ∨ 'a' ≤ c ∧ c ≤ 'f' ∨ 'A' ≤ c ∧ c ≤ 'F') → read? text = none) ∧
      ∀ other key otherKey, read? text = some key → read? other = some otherKey →
        (key = otherKey ↔
          (undivided text).map Char.toLower = (undivided other).map Char.toLower) := by
  refine ⟨exists_read?_iff text, ?_, ?_, ?_⟩
  · intro key read
    have digits := ((read?_eq_some_iff_isAddress text key).mp read).2
    exact ⟨digits, (read?_eq_some_iff _ _).mpr key.spells_text⟩
  · intro c member noColon noDash noDot noDigit
    rw [Option.eq_none_iff_forall_ne_some]
    intro key read
    have address := (exists_read?_iff text).mp ⟨key, read⟩
    have left : c ∈ undivided text := by simp [undivided, member, noColon, noDash, noDot]
    exact noDigit (address.hexadecimal c left)
  · intro other key otherKey read readOther
    rw [← ((read?_eq_some_iff_isAddress text key).mp read).2,
      ← ((read?_eq_some_iff_isAddress other otherKey).mp readOther).2, String.toList_inj]
    exact ⟨congrArg WifiKey.text, eq_of_text⟩

/-- Two spellings of one key, and a text in which the Kelvin sign stands for its first digit. -/
theorem reads_two_spellings :
    ∃ key, read? "A4:08:F5:1C:33:7E" = some key ∧ read? "a408.f51c-337E" = some key ∧
      (undivided "A4:08:F5:1C:33:7E").map Char.toLower
        = (undivided "a408.f51c-337E").map Char.toLower ∧
      read? key.text = some key ∧ read? "\u212a4:08:F5:1C:33:7E" = none := by
  let key : WifiKey := ⟨"a408f51c337e".toList, by decide⟩
  have first : read? "A4:08:F5:1C:33:7E" = some key := (read?_eq_some_iff _ key).mpr (by decide)
  have second : read? "a408.f51c-337E" = some key := (read?_eq_some_iff _ key).mpr (by decide)
  obtain ⟨-, reads, -, alike⟩ := reads_addresses "A4:08:F5:1C:33:7E"
  obtain ⟨-, -, spoiled, -⟩ := reads_addresses "\u212a4:08:F5:1C:33:7E"
  refine ⟨key, first, second, (alike _ key key first second).mp rfl, (reads key first).2, ?_⟩
  exact spoiled '\u212a' (by decide) (by decide) (by decide) (by decide) (by decide)

end Geolocation.WifiKey
