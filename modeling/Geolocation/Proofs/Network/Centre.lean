import Geolocation.Network.Basic
import Geolocation.Proofs.FloatValue

/-!
# The centre of a group

The centre is the average of degrees, which is said here twice by one formula, as it runs on floats and
as it is exact on the numbers that these stand for. The exact average of latitudes lies between bounds
of them. Longitudes count modulo full turns, and of these the average knows nothing: it lies on an arc if
all members reach the arc by the same number of turns, and it is a share of a turn off if some reach it
across the antimeridian and others do not.

Main result: `Network.centre_on_arc`.
-/

namespace Geolocation

open FloatValue

/-! ### Averages -/

/-- A running sum of the numbers, divided by how many there are. -/
def average {α : Type} [Add α] [Div α] (zero : α) (ofNat : Nat → α) (numbers : List α) : α :=
  numbers.foldl (· + ·) zero / ofNat numbers.length

/-- The average without rounding. -/
def mean (numbers : List ℚ) : ℚ := average 0 Nat.cast numbers

/-- The sum has the value of the sum of values, one number after the other. -/
def AddsExactly (sum : Float) : List Float → Prop
  | [] => True
  | number :: rest =>
    value (sum + number) = value sum + value number ∧ AddsExactly (sum + number) rest

/-- No sum rounds in the average of floats, and its quotient does not. -/
structure Unrounded (numbers : List Float) : Prop where
  sums : AddsExactly 0.0 numbers
  quotient : value (average 0.0 Float.ofNat numbers) =
    value (numbers.foldl (· + ·) 0.0) / numbers.length

theorem mean_eq (numbers : List ℚ) : mean numbers = numbers.sum / numbers.length := by
  rw [mean, average, ← List.sum_eq_foldl]

theorem AddsExactly.value_foldl {sum : Float} {numbers : List Float}
    (exact : AddsExactly sum numbers) :
    value (numbers.foldl (· + ·) sum) = (numbers.map value).foldl (· + ·) (value sum) := by
  induction numbers generalizing sum with
  | nil => rfl
  | cons number rest ih =>
    obtain ⟨first, later⟩ := exact
    rw [List.foldl_cons, ih later, List.map_cons, List.foldl_cons, first]

theorem Unrounded.value_average {numbers : List Float} (unrounded : Unrounded numbers) :
    value (average 0.0 Float.ofNat numbers) = mean (numbers.map value) := by
  have zero : value 0.0 = 0 := by decide +kernel
  rw [unrounded.quotient, unrounded.sums.value_foldl, zero, mean, average, List.length_map]

section Mean

variable {numbers : List ℚ}

theorem cast_length_pos (some : numbers ≠ []) : (0 : ℚ) < numbers.length := by
  exact_mod_cast List.length_pos_iff.mpr some

theorem mean_between (some : numbers ≠ []) {low high : ℚ}
    (between : ∀ x ∈ numbers, low ≤ x ∧ x ≤ high) : low ≤ mean numbers ∧ mean numbers ≤ high := by
  have above := List.card_nsmul_le_sum numbers low fun x member => (between x member).1
  have below := List.sum_le_card_nsmul numbers high fun x member => (between x member).2
  rw [nsmul_eq_mul, mul_comm] at above below
  rw [mean_eq, le_div_iff₀ (cast_length_pos some), div_le_iff₀ (cast_length_pos some)]
  exact ⟨above, below⟩

theorem mean_map_add (shift : ℚ → ℚ) (factor : ℚ) :
    mean (numbers.map fun x => x + factor * shift x) = mean numbers + factor * mean (numbers.map shift) := by
  simp only [mean_eq, List.sum_map_add, List.sum_map_mul_left, List.map_id', List.length_map]
  ring

end Mean

/-! ### Arcs -/

/-- The longitude lies on the arc from `start` to `start + width` after these turns. -/
def Reaches (start width turns lon : ℚ) : Prop :=
  start ≤ lon + 360 * turns ∧ lon + 360 * turns ≤ start + width

instance (start width turns lon : ℚ) : Decidable (Reaches start width turns lon) :=
  inferInstanceAs (Decidable (_ ∧ _))

/-- The longitude lies on the arc modulo full turns. -/
def OnArc (start width lon : ℚ) : Prop := ∃ turns : ℤ, Reaches start width turns lon

section Arcs

variable {start width : ℚ} {lons : List ℚ}

/-- The mean reaches the arc by the mean of the turns that the longitudes need. -/
theorem reaches_mean (some : lons ≠ []) {turns : ℚ → ℚ}
    (reach : ∀ lon ∈ lons, Reaches start width (turns lon) lon) :
    Reaches start width (mean (lons.map turns)) (mean lons) := by
  have shifted : lons.map (fun lon => lon + 360 * turns lon) ≠ [] := by simpa using some
  rw [Reaches, ← mean_map_add]
  refine mean_between shifted fun x member => ?_
  obtain ⟨lon, present, rfl⟩ := List.mem_map.mp member
  exact reach lon present

theorem onArc_mean_of_same {turns : ℤ} (some : lons ≠ [])
    (reach : ∀ lon ∈ lons, Reaches start width turns lon) : OnArc start width (mean lons) := by
  have between (lon : ℚ) (member : lon ∈ lons) :
      start - 360 * turns ≤ lon ∧ lon ≤ start + width - 360 * turns := by
    obtain ⟨above, below⟩ := reach lon member
    constructor <;> linarith
  obtain ⟨above, below⟩ := mean_between some between
  exact ⟨turns, by linarith, by linarith⟩

/-- Whole numbers of which no two are more than one apart are all equal if their mean is whole. -/
theorem eq_of_sum_eq {turns : ℚ → ℤ} {whole : ℤ}
    (close : ∀ lon ∈ lons, ∀ other ∈ lons, turns lon ≤ turns other + 1)
    (sum : (lons.map turns).sum = lons.length * whole) : ∀ lon ∈ lons, turns lon = whole := by
  have constant : (lons.map fun _ => whole).sum = lons.length * whole := by simp
  intro lon member
  rcases lt_trichotomy (turns lon) whole with less | same | greater
  · -- The others are at most one more than this one, so that nothing makes up for it.
    have atMost : ∀ other ∈ lons, turns other ≤ whole := fun other present =>
      (close other present lon member).trans less
    have below := List.sum_lt_sum turns (fun _ => whole) atMost ⟨lon, member, less⟩
    omega
  · exact same
  · have atLeast : ∀ other ∈ lons, whole ≤ turns other := fun other present =>
      Int.le_of_lt_add_one (greater.trans_le (close lon member other present))
    have above := List.sum_lt_sum (fun _ => whole) turns atLeast ⟨lon, member, greater⟩
    omega

theorem mean_turns_mul_length (some : lons ≠ []) (turns : ℚ → ℤ) :
    mean (lons.map (turns ·)) * lons.length = ((lons.map turns).sum : ℤ) := by
  rw [mean_eq, List.length_map, div_mul_cancel₀ _ (cast_length_pos some).ne', Int.cast_list_sum,
    List.map_map]
  rfl

theorem turns_le_add_one {turns others : ℤ} {lon other : ℚ} (valid : -180 ≤ lon ∧ lon ≤ 180)
    (validToo : -180 ≤ other ∧ other ≤ 180) (narrow : width < 360)
    (reach : Reaches start width turns lon) (reachToo : Reaches start width others other) :
    turns ≤ others + 1 := by
  obtain ⟨west, east⟩ := valid
  obtain ⟨westToo, eastToo⟩ := validToo
  obtain ⟨above, below⟩ := reach
  obtain ⟨aboveToo, belowToo⟩ := reachToo
  -- The longitudes are at most one turn apart, and on the arc they are less than one apart.
  have apart : (turns : ℚ) < others + 2 := by linarith
  norm_cast at apart
  omega

/-- A mean that is on a short arc is there only if all longitudes need the same number of turns. -/
theorem same_of_onArc_mean (some : lons ≠ []) (valid : ∀ lon ∈ lons, -180 ≤ lon ∧ lon ≤ 180)
    (onArc : ∀ lon ∈ lons, OnArc start width lon) (short : width * lons.length < 360)
    (reached : OnArc start width (mean lons)) :
    ∃ turns : ℤ, ∀ lon ∈ lons, Reaches start width turns lon := by
  choose! turns reach using onArc
  obtain ⟨whole, above, below⟩ := reached
  obtain ⟨aboveToo, belowToo⟩ := reaches_mean some reach
  have count := cast_length_pos some
  -- The mean turns and the whole ones bring the mean to the same short arc, so they are close together.
  have within : |360 * (mean (lons.map (turns ·)) - whole)| ≤ width :=
    abs_le.mpr ⟨by linarith, by linarith⟩
  have narrow : width < 360 := by
    have one : (1 : ℚ) ≤ lons.length := by exact_mod_cast count
    exact (le_mul_of_one_le_right ((abs_nonneg _).trans within) one).trans_lt short
  have sum : (lons.map turns).sum - lons.length * whole = 0 := by
    have scaled : 360 * (((lons.map turns).sum - lons.length * whole : ℤ) : ℚ) =
        360 * (mean (lons.map (turns ·)) - whole) * lons.length := by
      rw [Int.cast_sub, ← mean_turns_mul_length some, Int.cast_mul, Int.cast_natCast]
      ring
    have less : |360 * (((lons.map turns).sum - lons.length * whole : ℤ) : ℚ)| < 360 := by
      rw [scaled, abs_mul, abs_of_pos count]
      exact (mul_le_mul_of_nonneg_right within count.le).trans_lt short
    rw [abs_mul, abs_of_pos (by norm_num), mul_lt_iff_lt_one_right (by norm_num)] at less
    exact Int.abs_lt_one_iff.mp (by exact_mod_cast less)
  have close : ∀ lon ∈ lons, ∀ other ∈ lons, turns lon ≤ turns other + 1 :=
    fun lon member other present => turns_le_add_one (valid lon member) (valid other present) narrow
      (reach lon member) (reach other present)
  refine ⟨whole, fun lon member => ?_⟩
  rw [← eq_of_sum_eq close (sub_eq_zero.mp sum) lon member]
  exact reach lon member

end Arcs

/-! ### Centres -/

theorem Coordinate.values_of_isValid {c : Coordinate} (valid : c.isValid = true) :
    (-90 ≤ value c.lat ∧ value c.lat ≤ 90) ∧ (-180 ≤ value c.lon ∧ value c.lon ≤ 180) := by
  simp only [isValid, Bool.and_eq_true, decide_eq_true_eq] at valid
  obtain ⟨⟨⟨finite, south⟩, north⟩, ⟨finiteToo, west⟩, east⟩ := valid
  have southern : value (-90.0) = -90 := by decide +kernel
  have northern : value 90.0 = 90 := by decide +kernel
  have western : value (-180.0) = -180 := by decide +kernel
  have eastern : value 180.0 = 180 := by decide +kernel
  rw [← southern, ← northern, ← western, ← eastern]
  exact ⟨⟨value_le_value (by decide) finite south, value_le_value finite (by decide) north⟩,
    value_le_value (by decide) finiteToo west, value_le_value finiteToo (by decide) east⟩

namespace Network

variable {members : List Network}

/-- Latitudes and longitudes are added up side by side. -/
theorem foldl_sum (places : List Coordinate) (sum : Coordinate) :
    places.foldl (fun sum c => (⟨sum.lat + c.lat, sum.lon + c.lon⟩ : Coordinate)) sum =
      ⟨(places.map (·.lat)).foldl (· + ·) sum.lat, (places.map (·.lon)).foldl (· + ·) sum.lon⟩ := by
  induction places generalizing sum with
  | nil => rfl
  | cons place rest ih => exact ih _

theorem centre_eq (some : members ≠ []) :
    centre members = .ok ⟨average 0.0 Float.ofNat (members.map (·.place.lat)),
      average 0.0 Float.ofNat (members.map (·.place.lon))⟩ := by
  have several : (members.map (·.place)).isEmpty = false := by simpa using some
  simp only [centre, Coordinate.mean?, several, foldl_sum, average, List.map_map, List.length_map,
    Bool.false_eq_true, if_false]
  rfl

/-- The centre is the average of its members, by one formula with floats that is exact if nothing rounds.
The exact latitude lies between bounds of the latitudes. The exact longitude is brought onto an arc by
the mean of the turns that bring the members there, so it is on the arc if these are the same for all
members. If the arc is short for the number of members it is there only then, and a group across the
antimeridian has its centre off the arc. -/
theorem centre_on_arc (some : members ≠ []) (valid : ∀ member ∈ members, member.place.isValid = true) :
    let lats := members.map (·.place.lat)
    let lons := members.map (·.place.lon)
    let latitude := mean (lats.map value)
    let longitude := mean (lons.map value)
    centre members = .ok ⟨average 0.0 Float.ofNat lats, average 0.0 Float.ofNat lons⟩ ∧
      (Unrounded lats → value (average 0.0 Float.ofNat lats) = latitude) ∧
      (Unrounded lons → value (average 0.0 Float.ofNat lons) = longitude) ∧
      (∀ south north, (∀ lat ∈ lats, south ≤ value lat ∧ value lat ≤ north) →
        south ≤ latitude ∧ latitude ≤ north) ∧
      ∀ start width,
        (∀ turns : ℚ → ℚ, (∀ lon ∈ lons, Reaches start width (turns (value lon)) (value lon)) →
          Reaches start width (mean ((lons.map value).map turns)) longitude) ∧
        ((∃ turns : ℤ, ∀ lon ∈ lons, Reaches start width turns (value lon)) →
          OnArc start width longitude) ∧
        ((∀ lon ∈ lons, OnArc start width (value lon)) → width * members.length < 360 →
          OnArc start width longitude →
          ∃ turns : ℤ, ∀ lon ∈ lons, Reaches start width turns (value lon)) := by
  intro lats lons latitude longitude
  have someLats : lats.map value ≠ [] := by simpa [lats] using some
  have someLons : lons.map value ≠ [] := by simpa [lons] using some
  refine ⟨centre_eq some, Unrounded.value_average, Unrounded.value_average, ?_, fun start width =>
    ⟨?_, ?_, ?_⟩⟩
  · exact fun south north between => mean_between someLats (List.forall_mem_map.mpr between)
  · exact fun turns reach => reaches_mean someLons (List.forall_mem_map.mpr reach)
  · exact fun ⟨turns, reach⟩ => onArc_mean_of_same someLons (List.forall_mem_map.mpr reach)
  · intro onArc short reached
    have onEarth : ∀ lon ∈ lons, -180 ≤ value lon ∧ value lon ≤ 180 :=
      List.forall_mem_map.mpr fun member present =>
        (Coordinate.values_of_isValid (valid member present)).2
    obtain ⟨turns, reach⟩ := same_of_onArc_mean someLons (List.forall_mem_map.mpr onEarth)
      (List.forall_mem_map.mpr onArc) (by simpa [lons] using short) reached
    exact ⟨turns, List.forall_mem_map.mp reach⟩

/-- Two access points that do not lie across the antimeridian have their centre between them. -/
theorem centre_west_of_antimeridian :
    let members : List Network :=
      [⟨"a408f51c337e", ⟨10.0, 179.5⟩, none⟩, ⟨"a408f51c337f", ⟨10.5, 179.0⟩, none⟩]
    centre members = .ok ⟨10.25, 179.25⟩ ∧ OnArc 179 (1 / 2) (value 179.25) := by
  intro members
  have some : members ≠ [] := List.cons_ne_nil _ _
  obtain ⟨computed, -, exactly, -, arcs⟩ := centre_on_arc some (by decide)
  have lon : average 0.0 Float.ofNat (members.map (·.place.lon)) = 179.25 := by decide +kernel
  have unrounded : Unrounded (members.map (·.place.lon)) :=
    ⟨⟨by decide +kernel, by decide +kernel, trivial⟩, by decide +kernel⟩
  rw [← lon, exactly unrounded]
  refine ⟨computed.trans (by decide +kernel), (arcs 179 (1 / 2)).2.1 ⟨0, ?_⟩⟩
  decide +kernel

/-- Two access points less than half a kilometer apart, one on either side of the antimeridian, have their
centre on the other side of the Earth. -/
theorem centre_across_antimeridian :
    let members : List Network := [⟨"a408f51c337e", ⟨10.0, 179.998046875⟩, none⟩,
      ⟨"a408f51c337f", ⟨10.0, -179.998046875⟩, none⟩]
    let lons := members.map (·.place.lon)
    (∀ member ∈ members, member.place.isValid = true) ∧
      (∀ lon ∈ lons, OnArc (180 - 1 / 512) (1 / 256) (value lon)) ∧ Unrounded lons ∧
      centre members = .ok ⟨10.0, 0.0⟩ ∧ ¬OnArc (180 - 1 / 512) (1 / 256) (value 0.0) := by
  intro members lons
  have east : OnArc (180 - 1 / 512) (1 / 256) (value 179.998046875) := ⟨0, by decide +kernel⟩
  have west : OnArc (180 - 1 / 512) (1 / 256) (value (-179.998046875)) := ⟨1, by decide +kernel⟩
  have onArc : ∀ lon ∈ lons, OnArc (180 - 1 / 512) (1 / 256) (value lon) :=
    List.forall_mem_cons.mpr ⟨east, List.forall_mem_singleton.mpr west⟩
  refine ⟨by decide, onArc, ?_, by decide +kernel, ?_⟩
  · exact ⟨⟨by decide +kernel, by decide +kernel, trivial⟩, by decide +kernel⟩
  · rintro ⟨turns, above, below⟩
    have zero : value 0.0 = 0 := by decide +kernel
    rw [zero] at above below
    have more : (0 : ℚ) < turns := by linarith
    have less : (turns : ℚ) < 1 := by linarith
    norm_cast at more less
    omega

end Network

end Geolocation
