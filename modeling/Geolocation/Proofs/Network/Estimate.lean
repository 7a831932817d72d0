import Geolocation.Proofs.FloatExact
import Geolocation.Proofs.FloatOrder
import Geolocation.Proofs.Network.SingleLinkage

/-!
# Estimates

What can be said of the centre of a group of networks and of the radius around it, whatever the
networks are. The radius is never below the minimum. The centre of several networks is a place on
Earth, because the distances from it could be measured; the centre of one network is the place of that
network, which nobody has checked.
-/

namespace Geolocation

open FloatOrder

/-! ### The larger of two lengths -/

theorem larger_number {a b : Float} (number : b.isNaN = false) : (larger a b).isNaN = false := by
  unfold larger
  split
  · exact number
  next other =>
    split
    · exact number
    · exact Bool.eq_false_iff.mpr other

theorem le_larger {a b : Float} (number : b.isNaN = false) : b ≤ larger a b := by
  unfold larger
  split
  · exact le_of_number number
  next other =>
    split
    · exact le_of_number number
    next above => exact le_of_not_lt (Bool.eq_false_iff.mpr other) number above

/-- The fault names a place that is not on Earth. -/
def Fault.IsMisplaced (fault : Fault) : Prop :=
  ∃ place : Coordinate, place.isValid = false ∧ fault = .invalidCoordinate place.lat place.lon

theorem Fault.IsMisplaced.noOutage {fault : Fault} (misplaced : fault.IsMisplaced) :
    fault.isOutage = false := by
  obtain ⟨_, _, rfl⟩ := misplaced
  rfl

namespace Coordinate

/-! ### Places on Earth -/

theorem isValid_of_check {c : Coordinate} {u : Unit} (checked : c.check = .ok u) :
    c.isValid = true := by
  unfold check at checked
  split at checked
  next valid => exact valid
  · cases checked

theorem isValid_of_distance {a b : Coordinate} {meters : Float}
    (measured : a.distance b = .ok meters) : a.isValid = true ∧ b.isValid = true := by
  obtain ⟨_, first, measured⟩ := ok_of_bind measured
  obtain ⟨_, second, _⟩ := ok_of_bind measured
  exact ⟨isValid_of_check first, isValid_of_check second⟩

theorem check_eq_error {c : Coordinate} {fault : Fault} (refused : c.check = .error fault) :
    c.isValid = false ∧ fault = .invalidCoordinate c.lat c.lon := by
  unfold check at refused
  split at refused
  · cases refused
  next invalid =>
    cases refused
    exact ⟨Bool.eq_false_iff.mpr invalid, rfl⟩

theorem misplaced_of_check {c : Coordinate} {fault : Fault} (refused : c.check = .error fault) :
    fault.IsMisplaced := ⟨c, check_eq_error refused⟩

theorem misplaced_of_distance {a b : Coordinate} {fault : Fault}
    (failed : a.distance b = .error fault) : fault.IsMisplaced := by
  rcases error_of_bind failed with first | ⟨_, _, failed⟩
  · exact misplaced_of_check first
  · rcases error_of_bind failed with second | ⟨_, _, measured⟩
    · exact misplaced_of_check second
    · cases measured

/-- A test that does not tell the two zeros apart has the same answer for the average of one float. -/
theorem test_average (test : Float → Bool) (zeros : test (-0.0) = test 0.0) (x : Float) :
    test ((0.0 + x) / Float.ofNat 1) = test x := by
  rw [FloatExact.div_one]
  rcases FloatExact.zero_add_or x with same | rfl
  · rw [same]
  · have sum : (0.0 : Float) + -0.0 = 0.0 := by decide
    rw [sum, zeros]

theorem isValid_mean_singleton {c mean : Coordinate} (averaged : mean? [c] = some mean) :
    mean.isValid = c.isValid := by
  have lat := test_average (fun x => x.isFinite && -90.0 ≤ x && x ≤ 90.0) (by decide) c.lat
  have lon := test_average (fun x => x.isFinite && -180.0 ≤ x && x ≤ 180.0) (by decide) c.lon
  cases averaged
  exact congrArg₂ (· && ·) lat lon

end Coordinate

namespace Network

variable {centre : Coordinate} {members : List Network} {minimum radius : Float}

theorem members_ne_nil (estimated : accuracy centre members minimum = .ok radius) :
    members ≠ [] := by
  rintro rfl
  cases estimated

/-- Takes the distance of one more member into the greatest distance from the centre. -/
def widen (centre : Coordinate) (widest : Float) (member : Network) : Except Fault Float := do
  return larger widest (← centre.distance member.place)

/-- The greatest distance of networks from the centre, those that are not numbers left out. -/
def reach (centre : Coordinate) (members : List Network) : Float :=
  (members.map (centre.haversine ·.place)).foldl larger 0.0

/-- The radius around several networks, from their greatest distance. -/
theorem accuracy_of_several (several : 2 ≤ members.length)
    (estimated : accuracy centre members minimum = .ok radius) :
    ∃ widest, members.foldlM (widen centre) 0.0 = .ok widest ∧ radius = larger widest minimum := by
  unfold accuracy at estimated
  split at estimated
  · simp at several
  · simp at several
  · obtain ⟨widest, folded, made⟩ := ok_of_bind estimated
    cases made
    exact ⟨widest, folded, rfl⟩

/-- A greatest distance is found only if all distances can be measured. -/
theorem isValid_of_widest {widest total : Float}
    (folded : members.foldlM (widen centre) widest = .ok total) :
    ∀ member ∈ members, centre.isValid = true ∧ member.place.isValid = true := by
  induction members generalizing widest with
  | nil => simp
  | cons first rest ih =>
    rw [List.foldlM_cons] at folded
    obtain ⟨wider, step, later⟩ := ok_of_bind folded
    obtain ⟨meters, measured, _⟩ := ok_of_bind step
    intro member present
    rcases List.mem_cons.mp present with rfl | behind
    · exact Coordinate.isValid_of_distance measured
    · exact ih later member behind

/-- Around several networks a radius is found only if the centre and all of them are on Earth. -/
theorem isValid_of_accuracy (several : 2 ≤ members.length)
    (estimated : accuracy centre members minimum = .ok radius) :
    centre.isValid = true ∧ ∀ member ∈ members, member.place.isValid = true := by
  obtain ⟨widest, folded, _⟩ := accuracy_of_several several estimated
  have valid := isValid_of_widest folded
  obtain ⟨first, present⟩ := List.exists_mem_of_length_pos (Nat.zero_lt_of_lt several)
  exact ⟨(valid first present).1, fun member known => (valid member known).2⟩

/-- The radius is never below the minimum, whatever the ranges and distances are. -/
theorem minimum_le_accuracy (number : minimum.isNaN = false)
    (estimated : accuracy centre members minimum = .ok radius) :
    radius.isNaN = false ∧ minimum ≤ radius := by
  match members, estimated with
  | [], estimated => cases estimated
  | [only], estimated =>
    cases estimated
    cases only.range with
    | none => exact ⟨number, le_of_number number⟩
    | some range => exact ⟨larger_number number, le_larger number⟩
  | first :: second :: rest, estimated =>
    obtain ⟨widest, _, rfl⟩ := accuracy_of_several (by simp) estimated
    exact ⟨larger_number number, le_larger number⟩

/-! ### Groups -/

/-- The members of a cluster stand in the list in the same order. -/
theorem sublist_of_mem_clusters {limit : Float} {networks : List Network} {places : List (List Network)}
    (clustered : clusters limit networks = .ok places) (member : members ∈ places) :
    members.Sublist networks := by
  obtain ⟨labelling, _, made⟩ := ok_of_bind clustered
  cases made
  rw [Component.Labelling.groups_eq] at member
  obtain ⟨part, present, rfl⟩ := List.mem_map.mp member
  obtain ⟨label, _, rfl⟩ := Component.Labelling.mem_parts.mp present
  have positions : (labelling.members label).Sublist (List.finRange networks.length) :=
    List.filter_sublist
  have whole := positions.map networks.get
  rwa [List.map_get_finRange] at whole

/-- Where there are several networks to split, each of them has been checked. -/
theorem isValid_of_clusters {limit : Float} {networks : List Network} {places : List (List Network)}
    (several : 2 ≤ networks.length) (clustered : clusters limit networks = .ok places) :
    ∀ network ∈ networks, network.place.isValid = true := by
  cases found : networks.find? (!·.place.isValid) with
  | none => simpa using found
  | some bad =>
    rw [clusters_of_invalid several found] at clustered
    cases clustered

/-- Every cluster has members, whatever the distances are. -/
theorem ne_nil_of_mem_clusters {limit : Float} {networks : List Network} {places : List (List Network)}
    (clustered : clusters limit networks = .ok places) (member : members ∈ places) :
    members ≠ [] := by
  have valid (several : 2 ≤ networks.length) := isValid_of_clusters several clustered
  obtain ⟨labelling, labelled, ordered, _⟩ :=
    Component.Labelling.ofTest_ok (answers_of_valid limit valid)
  rw [clusters, labelled] at clustered
  cases clustered
  rw [Component.Labelling.groups_eq] at member
  obtain ⟨part, present, rfl⟩ := List.mem_map.mp member
  have used := Component.Labelling.ne_nil_of_mem_parts ordered present
  simpa using used

/-- A network that is alone in its cluster has been checked, unless there was nothing to split. -/
theorem isValid_or_only_of_clusters {limit : Float} {networks : List Network}
    {places : List (List Network)} {network : Network} (clustered : clusters limit networks = .ok places)
    (alone : [network] ∈ places) : network.place.isValid = true ∨ networks = [network] := by
  have present : network ∈ networks :=
    (sublist_of_mem_clusters clustered alone).subset (List.mem_singleton_self network)
  by_cases several : 2 ≤ networks.length
  · exact Or.inl (isValid_of_clusters several clustered network present)
  · right
    obtain ⟨only, rfl⟩ : ∃ only, networks = [only] := by
      apply List.length_eq_one_iff.mp
      have positive := List.length_pos_of_mem present
      omega
    rw [List.mem_singleton.mp present]

/-! ### Faults

A failure to estimate points at bad data: at a place that is none on Earth, or at a group without
members. It is no outage. -/

theorem misplaced_of_widest {widest : Float} {fault : Fault}
    (stopped : members.foldlM (widen centre) widest = .error fault) : fault.IsMisplaced := by
  induction members generalizing widest with
  | nil => cases stopped
  | cons member rest ih =>
    rw [List.foldlM_cons] at stopped
    rcases error_of_bind stopped with here | ⟨wider, _, later⟩
    · rcases error_of_bind here with unmeasured | ⟨_, _, widened⟩
      · exact Coordinate.misplaced_of_distance unmeasured
      · cases widened
    · exact ih later

/-- The distances of places on Earth from one another can be measured. -/
theorem foldlM_widen_of_valid (onEarth : centre.isValid = true)
    (valid : ∀ member ∈ members, member.place.isValid = true) (widest : Float) :
    members.foldlM (widen centre) widest =
      .ok ((members.map (centre.haversine ·.place)).foldl larger widest) := by
  induction members generalizing widest with
  | nil => rfl
  | cons first rest ih =>
    have measured : widen centre widest first =
        .ok (larger widest (centre.haversine first.place)) := by
      rw [widen, Coordinate.distance_of_valid onEarth (valid first List.mem_cons_self)]
      rfl
    rw [List.foldlM_cons, measured]
    exact ih (fun member later => valid member (List.mem_cons_of_mem first later)) _

theorem fault_of_accuracy {fault : Fault}
    (failed : accuracy centre members minimum = .error fault) :
    members = [] ∧ fault = .emptyCluster ∨ 2 ≤ members.length ∧ fault.IsMisplaced := by
  match members, failed with
  | [], failed =>
    cases failed
    exact Or.inl ⟨rfl, rfl⟩
  | [only], failed => cases failed
  | first :: second :: rest, failed =>
    rcases error_of_bind failed with stopped | ⟨_, _, made⟩
    · exact Or.inr ⟨by simp, misplaced_of_widest stopped⟩
    · cases made

/-- Around several networks on Earth the radius is their greatest distance, or else the minimum. -/
theorem accuracy_of_several_valid (several : 2 ≤ members.length) (onEarth : centre.isValid = true)
    (valid : ∀ member ∈ members, member.place.isValid = true) :
    accuracy centre members minimum = .ok (larger (reach centre members) minimum) := by
  match members, several, valid with
  | first :: second :: rest, _, valid =>
    change (do
      let widest ← (first :: second :: rest).foldlM (widen centre) 0.0
      return larger widest minimum) = _
    rw [foldlM_widen_of_valid onEarth valid]
    rfl

/-- A group gets its radius if it has one member, or if the centre and all members are on Earth. -/
theorem accuracy_of_valid (some : members ≠ [])
    (valid : 2 ≤ members.length →
      centre.isValid = true ∧ ∀ member ∈ members, member.place.isValid = true) :
    ∃ radius, accuracy centre members minimum = .ok radius := by
  match members, some, valid with
  | [only], _, _ => exact ⟨_, rfl⟩
  | first :: second :: rest, _, valid =>
    obtain ⟨onEarth, valid⟩ := valid (by simp)
    exact ⟨_, accuracy_of_several_valid (by simp) onEarth valid⟩

/-- Splitting fails exactly if there are several networks and one of them is not on Earth. -/
theorem clusters_eq_error_iff {limit : Float} {networks : List Network} {fault : Fault} :
    clusters limit networks = .error fault ↔
      2 ≤ networks.length ∧ ∃ bad, networks.find? (!·.place.isValid) = some bad ∧
        fault = .invalidCoordinate bad.place.lat bad.place.lon := by
  constructor
  · intro failed
    have answered (valid : 2 ≤ networks.length → ∀ network ∈ networks, network.place.isValid = true) :
        False := by
      obtain ⟨labelling, labelled, _⟩ :=
        Component.Labelling.ofTest_ok (answers_of_valid limit valid)
      rw [clusters, labelled] at failed
      cases failed
    cases found : networks.find? (!·.place.isValid) with
    | none => exact (answered fun _ => by simpa using found).elim
    | some bad =>
      by_cases several : 2 ≤ networks.length
      · rw [clusters_of_invalid several found] at failed
        exact ⟨several, bad, rfl, (Except.error.inj failed).symm⟩
      · exact (answered fun enough => absurd enough several).elim
  · rintro ⟨several, bad, found, rfl⟩
    exact clusters_of_invalid several found

theorem misplaced_of_clusters {limit : Float} {networks : List Network} {fault : Fault}
    (failed : clusters limit networks = .error fault) : fault.IsMisplaced := by
  obtain ⟨_, bad, found, rfl⟩ := clusters_eq_error_iff.mp failed
  exact ⟨bad.place, by simpa using List.find?_some found, rfl⟩

theorem noOutage_of_accuracy {fault : Fault}
    (failed : accuracy centre members minimum = .error fault) : fault.isOutage = false := by
  rcases fault_of_accuracy failed with ⟨_, rfl⟩ | ⟨_, misplaced⟩
  · rfl
  · exact misplaced.noOutage

theorem noOutage_of_estimate {fault : Fault} (failed : estimate members minimum = .error fault) :
    fault.isOutage = false := by
  rcases error_of_bind failed with uncentred | ⟨_, _, failed⟩
  · unfold Network.centre at uncentred
    split at uncentred <;> cases uncentred
    rfl
  · rcases error_of_bind failed with unmeasured | ⟨_, _, made⟩
    · exact noOutage_of_accuracy unmeasured
    · cases made

end Network

end Geolocation
