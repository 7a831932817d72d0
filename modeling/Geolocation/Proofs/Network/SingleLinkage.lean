import Geolocation.Network.Basic
import Geolocation.Proofs.Network.Labelling

/-!
# Single linkage

The groups of networks are the connected components of closeness. Networks may agree in all fields,
so a group is described by the positions of its members in the list.

The labels give the parts directly: the part of a label is the positions that have it. What is proved
of labels becomes a statement about parts, and the groups hold the networks at these positions.

Main result: `Network.clusters_singleLinkage`.
-/

namespace Geolocation

namespace Component

variable {α : Type} {n : Nat}

/-- The division of all positions into the components of a relation. Positions rise within a part,
and parts are ordered by their first positions. -/
structure SingleLinkage (near : Fin n → Fin n → Prop) (parts : List (List (Fin n))) : Prop where
  nonempty : ∀ part ∈ parts, part ≠ []
  /-- Each position stands in one part, and there once. -/
  complete : parts.flatten.Perm (List.finRange n)
  rising : ∀ part ∈ parts, part.Pairwise (· < ·)
  ordered : parts.Pairwise fun earlier later => ∀ i ∈ earlier.head?, ∀ j ∈ later.head?, i < j
  joined : ∀ i j, (∃ part ∈ parts, i ∈ part ∧ j ∈ part) ↔ Relation.ReflTransGen near i j

namespace Labelling

/-! ### Groups by label -/

/-- The items with one label, in order. -/
def members (labelling : Labelling n) (label : Nat) : List (Fin n) :=
  (List.finRange n).filter fun i => labelling.labels.of i = some label

/-- The items of each label. -/
def parts (labelling : Labelling n) : List (List (Fin n)) :=
  (List.range labelling.count).map labelling.members

theorem mem_members {labelling : Labelling n} {label : Nat} {i : Fin n} :
    i ∈ labelling.members label ↔ labelling.labels.of i = some label := by
  simp [members]

theorem getElem?_place (groups : List (List α)) (labelled : α × Option Nat) (label : Nat) :
    (place groups labelled)[label]? =
      groups[label]?.map (· ++ ([labelled].filter (·.2 = some label)).map (·.1)) := by
  obtain ⟨item, found⟩ := labelled
  cases found with
  | none => simp [place]
  | some other =>
    rw [place, List.getElem?_modify]
    by_cases here : other = label <;> simp [here]

theorem getElem?_foldl_place (labelled : List (α × Option Nat)) (groups : List (List α))
    (label : Nat) :
    (labelled.foldl place groups)[label]? =
      groups[label]?.map (· ++ (labelled.filter (·.2 = some label)).map (·.1)) := by
  induction labelled generalizing groups with
  | nil => simp
  | cons first rest ih =>
    rw [List.foldl_cons, ih, getElem?_place, Option.map_map]
    congr 1
    funext group
    rw [Function.comp_apply, List.append_assoc, ← List.map_append, ← List.filter_append]
    rfl

/-- The groups hold the items at the positions of the parts. -/
theorem groups_eq (items : List α) (labelling : Labelling items.length) :
    labelling.groups items = labelling.parts.map (·.map items.get) := by
  have pairs : items.zip labelling.labels.toList =
      (List.finRange items.length).map fun i => (items.get i, labelling.labels.of i) := by
    apply List.ext_getElem
    · simp
    · intro i less _
      simp [Labels.of]
  apply List.ext_getElem?
  intro label
  rw [groups, getElem?_foldl_place, pairs, List.filter_map, List.map_map]
  by_cases less : label < labelling.count
  · simp [parts, members, less, Function.comp_def]
  · simp [parts, less]

/-! ### Parts are components -/

variable {labelling : Labelling n} {link : Fin n → Fin n → Bool}

theorem mem_parts {part : List (Fin n)} :
    part ∈ labelling.parts ↔ ∃ label < labelling.count, labelling.members label = part := by
  simp [parts]

theorem members_rising (label : Nat) : (labelling.members label).Pairwise (· < ·) :=
  (List.sortedLT_finRange n).pairwise.filter _

theorem head_le_of_mem_members {label : Nat} {i j : Fin n}
    (head : i ∈ (labelling.members label).head?) (member : j ∈ labelling.members label) :
    i ≤ j := by
  obtain ⟨rest, split⟩ := List.head?_eq_some_iff.mp (Option.mem_def.mp head)
  have sorted := labelling.members_rising label
  rw [split] at sorted member
  rcases List.mem_cons.mp member with rfl | later
  · exact le_refl j
  · exact le_of_lt (List.rel_of_pairwise_cons sorted later)

/-- Every position stands in the part of its label. -/
theorem exists_mem_members (ordered : Ordered (List.finRange n) labelling) (i : Fin n) :
    ∃ label, labelling.members label ∈ labelling.parts ∧ i ∈ labelling.members label := by
  obtain ⟨label, labelled⟩ :=
    Option.isSome_iff_exists.mp (ordered.labelled i (List.mem_finRange i))
  have less := ordered.bounded i label labelled
  exact ⟨label, mem_parts.mpr ⟨label, less, rfl⟩, mem_members.mpr labelled⟩

theorem parts_complete (ordered : Ordered (List.finRange n) labelling) :
    labelling.parts.flatten.Perm (List.finRange n) := by
  -- An item has one label, so that no two parts share it.
  have disjoint : labelling.parts.Pairwise List.Disjoint := by
    rw [parts, List.pairwise_map]
    apply List.nodup_range.imp
    intro label other different i first second
    have same := (mem_members.mp first).symm.trans (mem_members.mp second)
    exact different (Option.some.inj same)
  rw [List.perm_ext_iff_of_nodup _ (List.nodup_finRange n)]
  · intro i
    obtain ⟨label, here, member⟩ := exists_mem_members ordered i
    simp only [List.mem_finRange, iff_true, List.mem_flatten]
    exact ⟨_, here, member⟩
  · rw [List.nodup_flatten]
    refine ⟨?_, disjoint⟩
    intro part member
    obtain ⟨label, _, rfl⟩ := mem_parts.mp member
    exact (List.nodup_finRange n).filter _

theorem parts_ordered (ordered : Ordered (List.finRange n) labelling) :
    labelling.parts.Pairwise fun earlier later =>
      ∀ i ∈ earlier.head?, ∀ j ∈ later.head?, i < j := by
  rw [parts, List.pairwise_map]
  apply List.pairwise_lt_range.imp
  intro smaller label less i first j second
  have labelled := mem_members.mp (List.mem_of_mem_head? second)
  -- Some item before `j` has the smaller label, and `i` is the first of those.
  obtain ⟨k, before, used⟩ := ordered.first j label labelled smaller less
  exact lt_of_le_of_lt (head_le_of_mem_members first (mem_members.mpr used)) before

/-- No label is given out without being used. -/
theorem ne_nil_of_mem_parts {part : List (Fin n)} (ordered : Ordered (List.finRange n) labelling)
    (member : part ∈ labelling.parts) : part ≠ [] := by
  obtain ⟨label, less, rfl⟩ := mem_parts.mp member
  obtain ⟨i, _, used⟩ := ordered.used label less
  exact List.ne_nil_of_mem (mem_members.mpr used)

/-- Labels that are in order and exact give the components of the links. -/
theorem parts_singleLinkage (ordered : Ordered (List.finRange n) labelling)
    (exact : Exact link labelling) :
    SingleLinkage (fun i j => link i j = true) labelling.parts where
  nonempty _ member := ne_nil_of_mem_parts ordered member
  complete := parts_complete ordered
  rising := by
    intro part member
    obtain ⟨label, _, rfl⟩ := mem_parts.mp member
    exact members_rising label
  ordered := parts_ordered ordered
  joined := by
    intro i j
    constructor
    · rintro ⟨part, member, first, second⟩
      obtain ⟨label, _, rfl⟩ := mem_parts.mp member
      exact exact.joined i j label (mem_members.mp first) (mem_members.mp second)
    · intro joined
      obtain ⟨label, here, member⟩ := exists_mem_members ordered i
      refine ⟨labelling.members label, here, member, ?_⟩
      exact mem_members.mpr (exact.label_of_joined joined (mem_members.mp member))

end Labelling

end Component

theorem Coordinate.distance_of_valid {a b : Coordinate} (first : a.isValid) (second : b.isValid) :
    a.distance b = .ok (a.haversine b) := by
  rw [distance, check, if_pos first, check, if_pos second]
  rfl

namespace Network

variable {limit : Float} {networks : List Network} {a b : Network}

/-! ### Closeness -/

/-- Is one network of a list at most `limit` meters from another one? -/
def Near (limit : Float) (networks : List Network) (i j : Fin networks.length) : Prop :=
  ∃ meters, (networks.get i).place.distance (networks.get j).place = .ok meters ∧ meters ≤ limit

/-- Closeness of places that are known to be valid. -/
def near (limit : Float) (networks : List Network) (i j : Fin networks.length) : Bool :=
  (networks.get i).place.haversine (networks.get j).place ≤ limit

theorem within_of_valid (first : a.place.isValid) (second : b.place.isValid) :
    within limit a b = .ok (decide (a.place.haversine b.place ≤ limit)) := by
  rw [within, Coordinate.distance_of_valid first second]
  rfl

theorem within_of_first_invalid (first : ¬ a.place.isValid) :
    within limit a b = .error (.invalidCoordinate a.place.lat a.place.lon) := by
  rw [within, Coordinate.distance, Coordinate.check, if_neg first]
  rfl

theorem within_of_second_invalid (first : a.place.isValid) (second : ¬ b.place.isValid) :
    within limit a b = .error (.invalidCoordinate b.place.lat b.place.lon) := by
  rw [within, Coordinate.distance, Coordinate.check, if_pos first, Coordinate.check, if_neg second]
  rfl

theorem answers_of_valid (limit : Float)
    (valid : 2 ≤ networks.length → ∀ network ∈ networks, network.place.isValid) :
    Component.Answers (fun i j => within limit (networks.get i) (networks.get j))
      (near limit networks) := by
  intro i j different
  have several : 2 ≤ networks.length := by
    have := Fin.val_ne_of_ne different
    omega
  exact within_of_valid (valid several _ (List.get_mem ..)) (valid several _ (List.get_mem ..))

theorem eq_of_few (few : ¬ 2 ≤ networks.length) (i j : Fin networks.length) : i = j := by
  apply Fin.ext
  omega

/-- Chains of close networks are the same by either notion of closeness. -/
theorem joined_iff (valid : 2 ≤ networks.length → ∀ network ∈ networks, network.place.isValid)
    (i j : Fin networks.length) :
    Component.Joined (near limit networks) i j ↔
      Relation.ReflTransGen (Near limit networks) i j := by
  by_cases several : 2 ≤ networks.length
  · have same (i j : Fin networks.length) :
        near limit networks i j = true ↔ Near limit networks i j := by
      have measured := Coordinate.distance_of_valid (valid several (networks.get i) (List.get_mem ..))
        (valid several (networks.get j) (List.get_mem ..))
      rw [near, Near, measured, decide_eq_true_iff]
      constructor
      · intro close
        exact ⟨_, rfl, close⟩
      · rintro ⟨meters, equal, close⟩
        exact Except.ok.inj equal ▸ close
    simp only [Component.Joined, same]
  · -- A network alone is joined to itself only, whatever its distance from itself.
    obtain rfl := eq_of_few several i j
    exact ⟨fun _ => .refl, fun _ => .refl⟩

theorem near_symm (valid : 2 ≤ networks.length → ∀ network ∈ networks, network.place.isValid)
    (symmetric : ∀ a ∈ networks, ∀ b ∈ networks, ∀ meters,
      a.place.distance b.place = .ok meters → b.place.distance a.place = .ok meters)
    (i j : Fin networks.length) : near limit networks i j = near limit networks j i := by
  by_cases several : 2 ≤ networks.length
  · have validAt (k : Fin networks.length) := valid several (networks.get k) (List.get_mem ..)
    have there := Coordinate.distance_of_valid (validAt i) (validAt j)
    have back := Coordinate.distance_of_valid (validAt j) (validAt i)
    have same := symmetric _ (List.get_mem ..) _ (List.get_mem ..) _ there
    rw [near, near, Except.ok.inj (back.symm.trans same)]
  · obtain rfl := eq_of_few several i j
    rfl

/-! ### Clusters -/

theorem clusters_of_valid (limit : Float)
    (valid : 2 ≤ networks.length → ∀ network ∈ networks, network.place.isValid)
    (symmetric : ∀ a ∈ networks, ∀ b ∈ networks, ∀ meters,
      a.place.distance b.place = .ok meters → b.place.distance a.place = .ok meters) :
    ∃ parts, clusters limit networks = .ok (parts.map (·.map networks.get)) ∧
      Component.SingleLinkage (Near limit networks) parts := by
  obtain ⟨labelling, labelled, ordered, exact⟩ :=
    Component.Labelling.ofTest_ok (answers_of_valid limit valid)
  have linkage :=
    Component.Labelling.parts_singleLinkage ordered (exact (near_symm valid symmetric))
  refine ⟨labelling.parts, ?_, { linkage with joined := ?_ }⟩
  · rw [clusters, ← Component.Labelling.groups_eq, labelled]
    rfl
  · intro i j
    rw [← joined_iff valid]
    exact linkage.joined i j

/-- With an invalid network among several, some test of the first network fails. -/
theorem clusters_of_invalid {bad : Network} (several : 2 ≤ networks.length)
    (found : networks.find? (!·.place.isValid) = some bad) :
    clusters limit networks = .error (.invalidCoordinate bad.place.lat bad.place.lon) := by
  obtain ⟨invalid, k, bound, rfl, before⟩ := List.find?_eq_some_iff_getElem.mp found
  simp only [Bool.not_eq_true', Bool.not_not] at invalid before
  let first : Fin networks.length := ⟨0, by omega⟩
  have least (i : Fin networks.length) : first ≤ i := Nat.zero_le i
  suffices failed : Component.Labelling.ofTest
      (fun i j => within limit (networks.get i) (networks.get j)) = .error _ by
    rw [clusters, failed]
    rfl
  rcases Nat.eq_zero_or_pos k with rfl | later
  · -- An invalid first network shows when it is tested against the second.
    apply Component.Labelling.ofTest_error first ⟨1, several⟩ least
    · exact Fin.ne_of_val_ne Nat.one_ne_zero
    · intro j less different
      have low : j.val < 1 := less
      have positive : j.val ≠ 0 := Fin.val_ne_of_ne different
      omega
    · exact within_of_first_invalid (Bool.eq_false_iff.mp invalid)
  · -- Else the first network is tested against all networks up to the invalid one.
    apply Component.Labelling.ofTest_error first ⟨k, bound⟩ least
    · exact Fin.ne_of_val_ne (Nat.ne_of_gt later)
    · intro j less _
      exact ⟨_, within_of_valid (before 0 later) (before j less)⟩
    · exact within_of_second_invalid (before 0 later) (Bool.eq_false_iff.mp invalid)

/-- Clustering fails exactly if there are several networks and one of them has no valid place, and
then it reports the first of those. Otherwise the clusters are the components of closeness. -/
theorem clusters_singleLinkage (limit : Float) (networks : List Network)
    (symmetric : ∀ a ∈ networks, ∀ b ∈ networks, ∀ meters,
      a.place.distance b.place = .ok meters → b.place.distance a.place = .ok meters) :
    (∀ fault, clusters limit networks = .error fault ↔
      2 ≤ networks.length ∧ ∃ bad, networks.find? (!·.place.isValid) = some bad ∧
        fault = .invalidCoordinate bad.place.lat bad.place.lon) ∧
    ((networks.length < 2 ∨ ∀ network ∈ networks, network.place.isValid) →
      ∃ parts, clusters limit networks = .ok (parts.map (·.map networks.get)) ∧
        Component.SingleLinkage (Near limit networks) parts) := by
  constructor
  · intro fault
    constructor
    · intro failed
      -- A list without the flaw has clusters, and so no fault.
      have flawed (valid : 2 ≤ networks.length → ∀ network ∈ networks, network.place.isValid) :
          False := by
        obtain ⟨parts, returned, _⟩ := clusters_of_valid limit valid symmetric
        rw [returned] at failed
        cases failed
      cases found : networks.find? (!·.place.isValid) with
      | none =>
        simp only [List.find?_eq_none, Bool.not_eq_true', Bool.not_eq_false] at found
        exact (flawed fun _ => found).elim
      | some bad =>
        by_cases several : 2 ≤ networks.length
        · rw [clusters_of_invalid several found] at failed
          exact ⟨several, bad, rfl, (Except.error.inj failed).symm⟩
        · exact (flawed fun enough => absurd enough several).elim
    · rintro ⟨several, bad, found, rfl⟩
      exact clusters_of_invalid several found
  · intro valid
    refine clusters_of_valid limit ?_ symmetric
    intro several network member
    rcases valid with few | valid
    · omega
    · exact valid network member

/-- Two networks at one place: the distance between them is the same from either side. -/
theorem clusters_of_neighbours :
    let networks : List Network := [⟨"a", ⟨52.5, 13.4⟩, none⟩, ⟨"b", ⟨52.5, 13.4⟩, none⟩]
    ∃ parts, clusters 50.0 networks = .ok (parts.map (·.map networks.get)) ∧
      Component.SingleLinkage (Near 50.0 networks) parts := by
  intro networks
  have place : ∀ network ∈ networks, network.place = ⟨52.5, 13.4⟩ := by simp [networks]
  apply (clusters_singleLinkage 50.0 networks ?_).2
  · right
    intro network member
    rw [place network member]
    decide
  · intro a first b second meters measured
    rw [place a first, place b second] at *
    exact measured

end Network

end Geolocation
