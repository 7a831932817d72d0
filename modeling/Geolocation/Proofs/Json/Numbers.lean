import Geolocation.Json.Reader
import Geolocation.Json.Printer
import Geolocation.Proofs.Text.Digits

/-!
# Numbers in JSON

The form of a number: digits without leading zeros, digits behind a point, and a signed power of ten, of
which the last two may be missing. A number of this form is read back as it is written, if it ends where
no number could go on.
-/

namespace Geolocation

namespace Json

variable {s rest : List Char}

/-! ### Digits -/

structure IsDigits (s : List Char) : Prop where
  nonempty : s ≠ []
  digits : ∀ c ∈ s, c.isDigit = true

/-- Digits of which the first is zero only if it is alone. -/
structure IsWhole (s : List Char) : Prop extends IsDigits s where
  first : s = ['0'] ∨ s.head? ≠ some '0'

def NoDigit (rest : List Char) : Prop := ∀ c ∈ rest.head?, c.isDigit = false

/-- A number that ends here does not go on. -/
def Stops (rest : List Char) : Prop :=
  ∀ c ∈ rest.head?, c.isDigit = false ∧ c ≠ '.' ∧ c ≠ 'e' ∧ c ≠ 'E'

theorem Stops.noDigit (stops : Stops rest) : NoDigit rest := fun c head => (stops c head).1

theorem isDigits_toDigits (n : Nat) : IsDigits (Nat.toDigits 10 n) :=
  ⟨Nat.toDigits_ne_nil, fun _ => Text.isDigit_of_mem_toDigits⟩

theorem isWhole_toDigits (n : Nat) : IsWhole (Nat.toDigits 10 n) := by
  refine ⟨isDigits_toDigits n, ?_⟩
  rcases Nat.eq_zero_or_pos n with rfl | positive
  · exact Or.inl rfl
  · obtain ⟨c, rest, digits, first⟩ := Text.exists_toDigits positive
    exact Or.inr (by simp [digits, first])

theorem splitDigits_append (digits : ∀ c ∈ s, c.isDigit = true) (noDigit : NoDigit rest) :
    Text.splitDigits (s ++ rest) = (s, rest) := by
  have none : rest.takeWhile Char.isDigit = [] ∧ rest.dropWhile Char.isDigit = rest := by
    cases rest with
    | nil => exact ⟨rfl, rfl⟩
    | cons c rest => simp [noDigit c rfl]
  rw [Text.splitDigits, List.takeWhile_append_of_pos digits, List.dropWhile_append_of_pos digits,
    none.1, none.2, List.append_nil]

/-! ### Reading the parts -/

theorem readWhole_append (whole : IsWhole s) (noDigit : NoDigit rest) :
    readWhole (s ++ rest) = some (s, rest) := by
  rw [readWhole, splitDigits_append whole.digits noDigit]
  match s, whole with
  | [], whole => exact absurd rfl whole.nonempty
  | [c], _ => simp
  | c :: d :: more, whole =>
    have first : c ≠ '0' := by simpa using whole.first
    simp [first]

theorem readFraction_point (digits : IsDigits s) (noDigit : NoDigit rest) :
    readFraction ('.' :: (s ++ rest)) = some (some s, rest) := by
  simp only [readFraction, splitDigits_append digits.digits noDigit]
  match s, digits with
  | [], digits => exact absurd rfl digits.nonempty
  | c :: more, _ => rfl

theorem readFraction_of_stops (stops : ∀ c ∈ rest.head?, c ≠ '.') :
    readFraction rest = some (none, rest) := by
  unfold readFraction
  split
  · exact absurd rfl (stops '.' rfl)
  · rfl

/-- The power of ten that digits behind a sign write. -/
def exponentOf (negative : Bool) (digits : List Char) : Int :=
  if negative then -(Text.digitsValue digits : Int) else Text.digitsValue digits

theorem readExponent_sign (negative : Bool) (digits : IsDigits s) (noDigit : NoDigit rest) :
    readExponent ('e' :: (if negative then '-' else '+') :: (s ++ rest)) =
      some (some (exponentOf negative s), rest) := by
  match s, digits with
  | [], digits => exact absurd rfl digits.nonempty
  | c :: more, digits =>
    have split := splitDigits_append digits.digits noDigit
    rw [List.cons_append] at split ⊢
    cases negative <;> simp [readExponent, split, exponentOf]

theorem readExponent_of_stops (stops : ∀ c ∈ rest.head?, c ≠ 'e' ∧ c ≠ 'E') :
    readExponent rest = some (none, rest) := by
  unfold readExponent
  cases rest with
  | nil => rfl
  | cons c rest =>
    obtain ⟨small, capital⟩ := stops c rfl
    simp [small, capital]

/-! ### Numbers -/

/-- The parts of a number in the order of its text. The power of ten has a sign, which stands for
minus. -/
structure NumberParts where
  negative : Bool
  whole : List Char
  fraction : Option (List Char)
  exponent : Option (Bool × List Char)

namespace NumberParts

variable {parts : NumberParts}

def fractionText (parts : NumberParts) : List Char := parts.fraction.elim [] ('.' :: ·)

def exponentText (parts : NumberParts) : List Char :=
  parts.exponent.elim [] fun (negative, digits) => 'e' :: (if negative then '-' else '+') :: digits

def text (parts : NumberParts) : List Char :=
  (if parts.negative then ['-'] else []) ++ parts.whole ++ parts.fractionText ++ parts.exponentText

def numeral (parts : NumberParts) : Numeral :=
  ⟨parts.negative, parts.whole, parts.fraction,
    parts.exponent.map fun (negative, digits) => exponentOf negative digits⟩

structure WellFormed (parts : NumberParts) : Prop where
  whole : IsWhole parts.whole
  fraction : ∀ digits ∈ parts.fraction, IsDigits digits
  exponent : ∀ power ∈ parts.exponent, IsDigits power.2

theorem readExponent_text (wellFormed : parts.WellFormed) (stops : Stops rest) :
    readExponent (parts.exponentText ++ rest) =
      some (parts.exponent.map fun (negative, digits) => exponentOf negative digits, rest) := by
  unfold exponentText
  cases known : parts.exponent with
  | none => exact readExponent_of_stops fun c head => (stops c head).2.2
  | some power => exact readExponent_sign power.1 (wellFormed.exponent power known) stops.noDigit

/-- Behind the fraction comes a power of ten or the end. -/
theorem exponentText_stops (parts : NumberParts) (stops : Stops rest) :
    ∀ c ∈ (parts.exponentText ++ rest).head?, c.isDigit = false ∧ c ≠ '.' := by
  unfold exponentText
  cases parts.exponent with
  | none => exact fun c head => ⟨(stops c head).1, (stops c head).2.1⟩
  | some power =>
    rintro c ⟨⟩
    decide

theorem readFraction_text (wellFormed : parts.WellFormed) (stops : Stops rest) :
    readFraction (parts.fractionText ++ (parts.exponentText ++ rest)) =
      some (parts.fraction, parts.exponentText ++ rest) := by
  have ends := exponentText_stops parts stops
  unfold fractionText
  cases known : parts.fraction with
  | none => exact readFraction_of_stops fun c head => (ends c head).2
  | some digits =>
    exact readFraction_point (wellFormed.fraction digits known) fun c head => (ends c head).1

theorem fractionText_noDigit (parts : NumberParts) (stops : Stops rest) :
    NoDigit (parts.fractionText ++ (parts.exponentText ++ rest)) := by
  unfold fractionText
  cases parts.fraction with
  | none => exact fun c head => (exponentText_stops parts stops c head).1
  | some digits =>
    rintro c ⟨⟩
    decide

theorem readNumeral_text (wellFormed : parts.WellFormed) (stops : Stops rest) :
    readNumeral (parts.text ++ rest) = some (parts.numeral, rest) := by
  have whole := readWhole_append wellFormed.whole (fractionText_noDigit parts stops)
  have fraction := readFraction_text wellFormed stops
  have exponent := readExponent_text wellFormed stops
  cases signed : parts.negative with
  | true =>
    have minus : parts.text ++ rest =
        '-' :: (parts.whole ++ (parts.fractionText ++ (parts.exponentText ++ rest))) := by
      simp [text, signed]
    simp only [minus, readNumeral, whole, fraction, exponent, bind, Option.bind]
    simp [numeral, signed]
  | false =>
    have plain : parts.text ++ rest =
        parts.whole ++ (parts.fractionText ++ (parts.exponentText ++ rest)) := by
      simp [text, signed]
    -- The first digit is no sign.
    obtain ⟨c, more, digits⟩ := List.exists_cons_of_ne_nil wellFormed.whole.nonempty
    have digit : c.isDigit = true := wellFormed.whole.digits c (by simp [digits])
    have unsigned : c ≠ '-' := by
      rintro rfl
      cases digit
    rw [plain]
    rw [digits, List.cons_append] at whole ⊢
    simp [readNumeral, unsigned, whole, fraction, exponent, numeral, signed, digits]

end NumberParts

end Json

end Geolocation
