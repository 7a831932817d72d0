import Geolocation.Proofs.Json.Numbers

/-!
# The text of a float

Every float is written in the form of a number. What could go wrong are zeros in front: digits that are
zero with more zeros behind them for the power of ten. The search for the fewest digits never ends there,
because zero does not read back as any other float, and zero itself has the exponent zero.
-/

namespace Geolocation

namespace Decimal

open Json

/-! ### Digits other than zero -/

/-- A decimal that is zero is zero without a power of ten. -/
def Scaled.IsProper (d : Scaled) : Prop := d.digits = 0 → d.exponent = 0

variable {x : Magnitude} {d : Scaled}

theorem compareScaled_zero (e : Int) {n : Nat} (positive : 0 < n) (exponent : Int) :
    compareScaled ⟨0, e⟩ n exponent = .lt := by
  rw [compareScaled, Nat.compare_eq_lt]
  simp only [Nat.zero_mul]
  have two : 0 < Nat.pow 2 exponent.toNat := Nat.pow_pos (by decide)
  have ten : 0 < Nat.pow 10 (-e).toNat := Nat.pow_pos (by decide)
  exact Nat.mul_pos (Nat.mul_pos positive two) ten

/-- Zero lies below all reals that round to a float other than zero. -/
theorem readsBack_zero (other : x.significand ≠ 0) (e : Int) : x.readsBack ⟨0, e⟩ = false := by
  have low : 0 < if x.narrowBelow then 4 * x.significand - 1 else 4 * x.significand - 2 := by
    split <;> omega
  simp [Magnitude.readsBack, compareScaled_zero e low]

theorem digits_of_candidate? {tie : Tie} {scale : Int} {n : Nat} (other : x.significand ≠ 0)
    (found : candidate? tie x scale n = some d) : d.digits ≠ 0 := by
  intro zero
  have unread : x.readsBack d = false := by
    obtain ⟨digits, e⟩ := d
    subst zero
    exact readsBack_zero other e
  rcases divided : x.divideBy (scale - n) with ⟨lower, rest, unit⟩
  simp only [candidate?, divided] at found
  -- Whichever neighbour is taken, it reads back.
  split at found
  next below above =>
    split at found <;> cases found
    · exact absurd (below.symm.trans unread) (by decide)
    · exact absurd (above.symm.trans unread) (by decide)
  next below _ =>
    cases found
    exact absurd (below.symm.trans unread) (by decide)
  next _ above =>
    cases found
    exact absurd (above.symm.trans unread) (by decide)
  · cases found

theorem digits_exact (other : x.significand ≠ 0) : x.exact.digits ≠ 0 := by
  unfold Magnitude.exact
  have two : 0 < Nat.pow 2 x.exponent.toNat := Nat.pow_pos (by decide)
  have five : 0 < Nat.pow 5 (-x.exponent).toNat := Nat.pow_pos (by decide)
  split
  · exact Nat.mul_ne_zero other (Nat.ne_of_gt two)
  · exact Nat.mul_ne_zero other (Nat.ne_of_gt five)

theorem digits_stripZeros {fuel : Nat} (other : d.digits ≠ 0) : (stripZeros fuel d).digits ≠ 0 := by
  induction fuel generalizing d with
  | zero => exact other
  | succ fuel ih =>
    unfold stripZeros
    split
    next divisible =>
      apply ih
      change d.digits / 10 ≠ 0
      omega
    · exact other

theorem isProper_shortest (tie : Tie) (x : Magnitude) : (shortest tie x).IsProper := by
  unfold shortest
  split
  · exact fun _ => rfl
  next other =>
    have found : (((List.range 17).findSome? fun n =>
        candidate? tie x x.scale (n + 1)).getD x.exact).digits ≠ 0 := by
      cases search : (List.range 17).findSome? fun n => candidate? tie x x.scale (n + 1) with
      | none => exact digits_exact other
      | some d =>
        obtain ⟨n, _, candidate⟩ := List.exists_of_findSome?_eq_some search
        exact digits_of_candidate? other candidate
    -- Taking zeros from the end leaves the other digits.
    exact fun zero => absurd zero (digits_stripZeros found)

/-! ### Layouts -/

theorem isDigits_replicate_append (count : Nat) {s : List Char} (digits : IsDigits s) :
    IsDigits (List.replicate count '0' ++ s) := by
  refine ⟨by simp [digits.nonempty], ?_⟩
  intro c member
  rcases List.mem_append.mp member with zero | later
  · rw [List.eq_of_mem_replicate zero]
    decide
  · exact digits.digits c later

/-- A whole number has its zeros behind other digits. -/
theorem isWhole_append_zeros (proper : d.IsProper) :
    IsWhole (Nat.toDigits 10 d.digits ++ List.replicate d.exponent.toNat '0') := by
  by_cases zero : d.digits = 0
  · rw [proper zero, zero]
    exact isWhole_toDigits 0
  · obtain ⟨c, rest, digits, first⟩ := Text.exists_toDigits (Nat.pos_of_ne_zero zero)
    refine ⟨⟨by simp [digits], ?_⟩, Or.inr (by simp [digits, first])⟩
    intro c member
    rcases List.mem_append.mp member with earlier | zero
    · exact Text.isDigit_of_mem_toDigits earlier
    · rw [List.eq_of_mem_replicate zero]
      decide

/-- The digits of a decimal with so many zeros in front that one digit stands before the point. -/
def padded (places n : Nat) : List Char :=
  List.replicate (places + 1 - (Nat.toDigits 10 n).length) '0' ++ Nat.toDigits 10 n

theorem length_padded (places n : Nat) : places + 1 ≤ (padded places n).length := by
  simp only [padded, List.length_append, List.length_replicate]
  omega

/-- Zeros are put in front only if just one digit stands before the point. -/
theorem isWhole_take_padded (places n : Nat) :
    IsWhole ((padded places n).take ((padded places n).length - places)) := by
  have long := length_padded places n
  have digits := isDigits_replicate_append (places + 1 - (Nat.toDigits 10 n).length)
    (isDigits_toDigits n)
  have some : (padded places n).take ((padded places n).length - places) ≠ [] := by
    rw [← List.length_pos_iff, List.length_take]
    omega
  refine ⟨⟨some, fun c member => digits.digits c (List.mem_of_mem_take member)⟩, ?_⟩
  by_cases few : (Nat.toDigits 10 n).length ≤ places
  · -- The first of the zeros is all that stands before the point.
    left
    have zeros : places + 1 - (Nat.toDigits 10 n).length =
        (places - (Nat.toDigits 10 n).length) + 1 := by omega
    have one : (padded places n).length - places = 1 := by
      simp only [padded, List.length_append, List.length_replicate]
      omega
    rw [one, padded, zeros, List.replicate_succ]
    rfl
  · -- There are digits enough, and the first of them is zero only for zero itself.
    have unpadded : padded places n = Nat.toDigits 10 n := by
      rw [padded, Nat.sub_eq_zero_of_le (by omega)]
      rfl
    rw [unpadded] at some ⊢
    rcases (isWhole_toDigits n).first with zero | first
    · left
      rw [zero] at few ⊢
      obtain rfl : places = 0 := by simpa using few
      rfl
    · right
      rwa [List.head?_take, if_neg (by omega)]

theorem isDigits_drop_padded {places : Nat} (positive : 0 < places) (n : Nat) :
    IsDigits ((padded places n).drop ((padded places n).length - places)) := by
  have long := length_padded places n
  have digits := isDigits_replicate_append (places + 1 - (Nat.toDigits 10 n).length)
    (isDigits_toDigits n)
  refine ⟨?_, fun c member => digits.digits c (List.mem_of_mem_drop member)⟩
  rw [← List.length_pos_iff, List.length_drop]
  omega

theorem positional_parts (proper : d.IsProper) (negative : Bool) :
    ∃ parts : NumberParts, parts.WellFormed ∧
      (if negative then ['-'] else []) ++ (positional ".0" d).toList = parts.text := by
  by_cases up : 0 ≤ d.exponent
  · refine ⟨⟨negative, Nat.toDigits 10 d.digits ++ List.replicate d.exponent.toNat '0', some ['0'],
      none⟩, ⟨isWhole_append_zeros proper, ?_, ?_⟩, ?_⟩
    · rintro _ ⟨⟩
      exact isDigits_toDigits 0
    · rintro _ ⟨⟩
    · simp [positional, up, NumberParts.text, NumberParts.fractionText, NumberParts.exponentText]
  · have places : 0 < (-d.exponent).toNat := by omega
    let digits := padded (-d.exponent).toNat d.digits
    let point := digits.length - (-d.exponent).toNat
    refine ⟨⟨negative, digits.take point, some (digits.drop point), none⟩,
      ⟨isWhole_take_padded _ _, ?_, ?_⟩, ?_⟩
    · rintro _ ⟨⟩
      exact isDigits_drop_padded places d.digits
    · rintro _ ⟨⟩
    · have length : d.digits.repr.length = (Nat.toDigits 10 d.digits).length := by
        rw [← String.length_toList, Nat.toList_repr]
      simp [positional, up, NumberParts.text, NumberParts.fractionText, NumberParts.exponentText,
        digits, point, padded, length]

theorem scientific_parts (d : Scaled) (negative : Bool) :
    ∃ parts : NumberParts, parts.WellFormed ∧
      (if negative then ['-'] else []) ++ (scientific d).toList = parts.text := by
  obtain ⟨c, rest, digits⟩ := List.exists_cons_of_ne_nil (isDigits_toDigits d.digits).nonempty
  have member {other : Char} (member : other ∈ c :: rest) : other.isDigit = true :=
    Text.isDigit_of_mem_toDigits (n := d.digits) (digits ▸ member)
  obtain ⟨e, exponent⟩ : ∃ e, e = d.exponent + (c :: rest).length - 1 := ⟨_, rfl⟩
  have text : (scientific d).toList = c :: ((if rest.isEmpty then [] else '.' :: rest) ++
      'e' :: (if e < 0 then '-' else '+') :: Nat.toDigits 10 e.natAbs) := by
    rw [exponent]
    by_cases below : d.exponent + (c :: rest).length - 1 < 0 <;>
      simp only [scientific, digits, Nat.toString_eq_repr, Nat.toList_repr, below] <;>
      cases rest <;> simp
  refine ⟨⟨negative, [c], if rest.isEmpty then none else some rest,
    some (decide (e < 0), Nat.toDigits 10 e.natAbs)⟩, ⟨?whole, ?fraction, ?exponent⟩, ?text⟩
  case whole =>
    refine ⟨⟨by simp, by simpa using member List.mem_cons_self⟩, ?_⟩
    by_cases zero : c = '0'
    · exact Or.inl (by rw [zero])
    · exact Or.inr (by simpa using zero)
  case fraction =>
    intro fraction known
    cases rest with
    | nil => cases known
    | cons second more =>
      cases known
      exact ⟨by simp, fun other later => member (List.mem_cons_of_mem c later)⟩
  case exponent =>
    rintro _ ⟨⟩
    exact isDigits_toDigits _
  case text =>
    rw [text]
    cases rest <;> simp [NumberParts.text, NumberParts.fractionText, NumberParts.exponentText]

/-- The text of a float has the form of a number. -/
theorem jsonText_parts (x : Float) :
    ∃ parts : NumberParts, parts.WellFormed ∧ (jsonText x).toList = parts.text := by
  let d := shortest .toEven (Magnitude.ofFloat x)
  let leading := d.exponent + digitCount d.digits - 1
  have laidOut : jsonText x = (if isNegative x then "-" else "") ++
      (if d.digits = 0 ∨ (-5 ≤ leading ∧ leading < 16) then positional ".0" d else scientific d) := rfl
  have signed (text : String) : ((if isNegative x then "-" else "") ++ text).toList =
      (if isNegative x then ['-'] else []) ++ text.toList := by
    cases isNegative x <;> simp
  rw [laidOut, signed]
  by_cases plain : d.digits = 0 ∨ (-5 ≤ leading ∧ leading < 16)
  · rw [if_pos plain]
    exact positional_parts (isProper_shortest _ _) _
  · rw [if_neg plain]
    exact scientific_parts d _

end Decimal

end Geolocation
