import Geolocation.Proofs.Network.Estimate

/-!
# The radius covers the group

The radius around several networks is their greatest distance from the centre, or the minimum if that
is more. Distances that are not numbers give way to the others. The greatest of several lengths is told
here by two facts: it is zero or one of them, and none is greater. So it depends on the set of the
lengths alone, and more lengths never make it less. The running maximum starts at the positive zero
and is replaced only by what is greater, so that it cannot come out as either of two zeros.

Main result: `Network.radius_covers`.
-/

namespace Geolocation

namespace FloatOrder

/-! ### Numbers at one point -/

theorem unpacked_eq_of_point {a b : Float.Model.UnpackedFloat} (left : a.isNaN = false)
    (right : b.isNaN = false) (same : unpackedPoint a = unpackedPoint b)
    (nonzero : unpackedPoint a ≠ point 0 0 0) : a = b := by
  rcases a with (_ | _) | _ | _ | ⟨_ | _, m, e, _⟩ <;>
  rcases b with (_ | _) | _ | _ | ⟨_ | _, n, f, _⟩ <;>
  simp_all [unpackedPoint, point, Float.Model.UnpackedFloat.isNaN]

/-- Only the two zeros are different numbers at one point. -/
theorem eq_of_place {x y : Float} (left : x.isNaN = false) (right : y.isNaN = false)
    (same : place x = place y) (nonzero : place x ≠ place 0.0) : x = y := by
  have unpacked : x.toModel.unpack = y.toModel.unpack :=
    unpacked_eq_of_point left right same nonzero
  have packed : x.toModel = y.toModel := by
    rw [← FloatExact.pack_unpack x.toModel, unpacked, FloatExact.pack_unpack]
  exact congrArg Float.ofModel packed

end FloatOrder

open FloatOrder

/-! ### The greatest of several lengths -/

theorem larger_eq_or (a b : Float) : larger a b = a ∨ larger a b = b := by
  unfold larger
  split
  · exact Or.inr rfl
  · split
    · exact Or.inr rfl
    · exact Or.inl rfl

theorem le_larger_of_le {a b : Float} (atMost : a ≤ b) (c : Float) : a ≤ larger b c := by
  obtain ⟨left, right, places⟩ := (le_iff a b).mp atMost
  unfold larger
  rw [if_neg (Bool.eq_false_iff.mp right)]
  split
  next above =>
    obtain ⟨_, other, behind⟩ := (lt_iff b c).mp above
    exact (le_iff a c).mpr ⟨left, other, places.trans behind.le⟩
  · exact atMost

theorem larger_le_larger {a b minimum : Float} (atMost : a ≤ b) (number : minimum.isNaN = false) :
    larger a minimum ≤ larger b minimum := by
  rcases larger_eq_or a minimum with same | same
  · rw [same]
    exact le_larger_of_le atMost minimum
  · rw [same]
    exact le_larger number

/-- No length is greater, and it is zero or one of the lengths. -/
structure IsWidest (lengths : List Float) (widest : Float) : Prop where
  attained : widest = 0.0 ∨ 0.0 < widest ∧ widest ∈ lengths
  covers : ∀ length ∈ lengths, ¬ widest < length

namespace IsWidest

variable {lengths more : List Float} {widest wider : Float}

theorem number (isWidest : IsWidest lengths widest) : widest.isNaN = false := by
  rcases isWidest.attained with rfl | ⟨positive, -⟩
  · rfl
  · exact ((lt_iff _ _).mp positive).2.1

theorem nonneg (isWidest : IsWidest lengths widest) : ¬ widest < 0.0 := by
  rcases isWidest.attained with rfl | ⟨positive, -⟩
  · exact not_lt_self 0.0
  · exact fun negative => not_lt_self 0.0 (lt_trans positive negative)

/-- What one step of the running maximum preserves. -/
theorem append (isWidest : IsWidest lengths widest) (length : Float) :
    IsWidest (lengths ++ [length]) (larger widest length) := by
  unfold larger
  rw [if_neg (Bool.eq_false_iff.mp isWidest.number)]
  split
  next above =>
    have positive : 0.0 < length := by
      rcases isWidest.attained with rfl | ⟨positive, -⟩
      · exact above
      · exact lt_trans positive above
    refine ⟨Or.inr ⟨positive, by simp⟩, fun other member => ?_⟩
    rcases List.mem_append.mp member with old | new
    · exact fun less => isWidest.covers other old (lt_trans above less)
    · rw [List.mem_singleton.mp new]
      exact not_lt_self length
  next below =>
    constructor
    · exact isWidest.attained.imp_right fun ⟨positive, member⟩ =>
        ⟨positive, List.mem_append_left _ member⟩
    · intro other member
      rcases List.mem_append.mp member with old | new
      · exact isWidest.covers other old
      · rwa [List.mem_singleton.mp new]

theorem foldl_larger (isWidest : IsWidest lengths widest) (more : List Float) :
    IsWidest (lengths ++ more) (more.foldl larger widest) := by
  induction more generalizing lengths widest with
  | nil => simpa using isWidest
  | cons length rest ih =>
    have step := ih (isWidest.append length)
    rwa [List.append_assoc, List.singleton_append] at step

theorem le_of_subset (isWidest : IsWidest lengths widest) (other : IsWidest more wider)
    (subset : lengths ⊆ more) : widest ≤ wider := by
  refine le_of_not_lt other.number isWidest.number fun less => ?_
  rcases isWidest.attained with rfl | ⟨-, member⟩
  · exact other.nonneg less
  · exact other.covers widest (subset member) less

theorem unique (isWidest : IsWidest lengths widest) (other : IsWidest more wider)
    (same : ∀ length, length ∈ lengths ↔ length ∈ more) : widest = wider := by
  have left := isWidest.le_of_subset other fun length => (same length).mp
  have right := other.le_of_subset isWidest fun length => (same length).mpr
  have places : place widest = place wider :=
    le_antisymm ((le_iff _ _).mp left).2.2 ((le_iff _ _).mp right).2.2
  -- At zero both are the zero that the maximum starts with, and elsewhere a point is one number.
  rcases isWidest.attained with rfl | ⟨positive, -⟩
  · rcases other.attained with rfl | ⟨positive, -⟩
    · rfl
    · exact absurd ((lt_iff _ _).mp positive).2.2 (places ▸ lt_irrefl _)
  · have apart : place widest ≠ place 0.0 := ne_of_gt ((lt_iff _ _).mp positive).2.2
    exact eq_of_place isWidest.number other.number places apart

end IsWidest

namespace Network

variable {centre : Coordinate} {members others : List Network} {minimum : Float}

/-! ### The reach of a group -/

theorem isWidest_reach (centre : Coordinate) (members : List Network) :
    IsWidest (members.map (centre.haversine ·.place)) (reach centre members) := by
  have nothing : IsWidest [] 0.0 := ⟨Or.inl rfl, by simp⟩
  exact nothing.foldl_larger _

/-- The reach is that of the places, in any order. -/
theorem reach_eq_of_perm (same : (others.map (·.place)).Perm (members.map (·.place))) :
    reach centre others = reach centre members := by
  refine (isWidest_reach centre others).unique (isWidest_reach centre members) fun length => ?_
  have measured := (same.map centre.haversine).mem_iff (a := length)
  rwa [List.map_map, List.map_map] at measured

theorem reach_le_of_subset (subset : members ⊆ others) : reach centre members ≤ reach centre others :=
  (isWidest_reach centre members).le_of_subset (isWidest_reach centre others)
    (List.map_subset _ subset)

/-! ### The radius of a group -/

theorem misplaced_of_accuracy_iff : (∃ lat lon, accuracy centre members minimum =
      .error (.invalidCoordinate lat lon)) ↔
    2 ≤ members.length ∧
      (centre.isValid = false ∨ ∃ member ∈ members, member.place.isValid = false) := by
  constructor
  · rintro ⟨lat, lon, failed⟩
    rcases fault_of_accuracy failed with ⟨-, other⟩ | ⟨several, -⟩
    · cases other
    · refine ⟨several, ?_⟩
      by_contra onEarth
      simp only [not_or, not_exists, not_and, Bool.not_eq_false] at onEarth
      rw [accuracy_of_several_valid several onEarth.1 onEarth.2] at failed
      cases failed
  · rintro ⟨several, misplaced⟩
    cases estimated : accuracy centre members minimum with
    | ok radius =>
      obtain ⟨onEarth, valid⟩ := isValid_of_accuracy several estimated
      rcases misplaced with centre | ⟨member, present, invalid⟩
      · exact absurd (onEarth.symm.trans centre) (by decide)
      · exact absurd ((valid member present).symm.trans invalid) (by decide)
    | error fault =>
      rcases fault_of_accuracy estimated with ⟨rfl, -⟩ | ⟨-, place, -, rfl⟩
      · simp at several
      · exact ⟨place.lat, place.lon, rfl⟩

theorem emptyCluster_of_accuracy_iff :
    accuracy centre members minimum = .error .emptyCluster ↔ members = [] := by
  constructor
  · intro failed
    rcases fault_of_accuracy failed with ⟨nobody, -⟩ | ⟨-, _, -, other⟩
    · exact nobody
    · cases other
  · rintro rfl
    rfl

/-- No radius is found around nobody, or around several networks if the centre or one of them is not on
Earth. One network has its own range or the minimum. The radius around several is the minimum or more,
covers every member whose distance is a number, and is no larger than that takes. Only the places of the
members count, in any order, and one member more never makes it smaller. -/
theorem radius_covers (centre : Coordinate) {minimum : Float} (number : minimum.isNaN = false) :
    (∀ members, accuracy centre members minimum = .error .emptyCluster ↔ members = []) ∧
      (∀ members, (∃ lat lon, accuracy centre members minimum =
          .error (.invalidCoordinate lat lon)) ↔
        2 ≤ members.length ∧
          (centre.isValid = false ∨ ∃ member ∈ members, member.place.isValid = false)) ∧
      (∀ only : Network, accuracy centre [only] minimum =
        .ok (only.range.elim minimum fun range => larger range minimum)) ∧
      ∀ members, 2 ≤ members.length → centre.isValid = true →
        (∀ member ∈ members, member.place.isValid = true) →
        ∃ radius, accuracy centre members minimum = .ok radius ∧
          minimum ≤ radius ∧
          (∀ member ∈ members, ∃ meters, centre.distance member.place = .ok meters ∧
            (meters.isNaN = false → meters ≤ radius)) ∧
          (radius = minimum ∨ radius = 0.0 ∨
            ∃ member ∈ members, centre.distance member.place = .ok radius) ∧
          (∀ others : List Network, (others.map (·.place)).Perm (members.map (·.place)) →
            accuracy centre others minimum = .ok radius) ∧
          ∀ before added after, members = before ++ after → added.place.isValid = true →
            ∃ wider, accuracy centre (before ++ added :: after) minimum = .ok wider ∧
              radius ≤ wider := by
  refine ⟨fun _ => emptyCluster_of_accuracy_iff, fun _ => misplaced_of_accuracy_iff, fun _ => rfl, ?_⟩
  intro members several onEarth valid
  have computed : accuracy centre members minimum = .ok (larger (reach centre members) minimum) :=
    accuracy_of_several_valid several onEarth valid
  have isWidest := isWidest_reach centre members
  have measured (member : Network) (present : member ∈ members) :
      centre.distance member.place = .ok (centre.haversine member.place) :=
    Coordinate.distance_of_valid onEarth (valid member present)
  refine ⟨larger (reach centre members) minimum, computed, ?floor, ?covers, ?tight, ?places, ?wider⟩
  case floor => exact le_larger number
  case covers =>
    intro member present
    refine ⟨_, measured member present, fun numeric => ?_⟩
    have within : centre.haversine member.place ≤ reach centre members :=
      le_of_not_lt isWidest.number numeric (isWidest.covers _ (List.mem_map_of_mem present))
    exact le_larger_of_le within minimum
  case tight =>
    rcases larger_eq_or (reach centre members) minimum with same | same
    · rw [same]
      refine Or.inr (isWidest.attained.imp_right fun ⟨_, attained⟩ => ?_)
      obtain ⟨member, present, furthest⟩ := List.mem_map.mp attained
      exact ⟨member, present, furthest ▸ measured member present⟩
    · exact Or.inl same
  case places =>
    intro others same
    have length : others.length = members.length := by simpa using same.length_eq
    have validThere : ∀ other ∈ others, other.place.isValid = true := by
      intro other present
      obtain ⟨member, known, place⟩ := List.mem_map.mp (same.subset (List.mem_map_of_mem present))
      exact place ▸ valid member known
    rw [accuracy_of_several_valid (length ▸ several) onEarth validThere, reach_eq_of_perm same]
  case wider =>
    rintro before added after rfl new
    have more : 2 ≤ (before ++ added :: after).length := by
      simp only [List.length_append, List.length_cons] at several ⊢
      omega
    have validThere : ∀ member ∈ before ++ added :: after, member.place.isValid = true := by
      obtain ⟨earlier, later⟩ := List.forall_mem_append.mp valid
      exact List.forall_mem_append.mpr ⟨earlier, List.forall_mem_cons.mpr ⟨new, later⟩⟩
    refine ⟨_, accuracy_of_several_valid more onEarth validThere, larger_le_larger ?_ number⟩
    exact reach_le_of_subset ((List.sublist_cons_self added after).append_left before).subset

/-- Two networks have one radius from either side, and their ranges do not count as that of a single
one does. -/
theorem radius_of_pair :
    let centre : Coordinate := ⟨40.0, -3.0⟩
    let north : Network := ⟨"a408f51c337e", ⟨40.001, -3.0⟩, some 250.0⟩
    let south : Network := ⟨"a408f51c337f", ⟨39.999, -3.0⟩, some 250.0⟩
    accuracy centre [north] 100.0 = .ok 250.0 ∧
      ∃ radius, accuracy centre [north, south] 100.0 = .ok radius ∧ 100.0 ≤ radius ∧
        accuracy centre [south, { north with range := none }] 100.0 = .ok radius := by
  intro centre north south
  have number : (100.0 : Float).isNaN = false := by decide
  obtain ⟨-, -, single, several⟩ := radius_covers centre number
  obtain ⟨radius, computed, floor, -, -, places, -⟩ :=
    several [north, south] (by simp) (by decide) (by decide)
  refine ⟨(single north).trans (by decide), radius, computed, floor, places _ ?_⟩
  exact .swap _ _ []

end Network

end Geolocation
