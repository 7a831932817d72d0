import Geolocation.Proofs.Network.Estimate
import Geolocation.Proofs.Provider.Attempts
import Geolocation.Proofs.Query.CellText

/-!
# The estimate from cells

What the cells of a query come to. The store answers with networks that are told apart by their keys
alone, in any order, some of them perhaps not asked for and some of them twice. The key of a network
leads back to one asked cell, since different cells have different texts, and so to one area. The area
that most networks lead to is chosen, of several the one that is met first.

Main result: `Provider.cell_estimate`.
-/

namespace Geolocation

/-! ### Order of first appearance -/

theorem distinctBy_pairwise_findIdx {α κ : Type} [DecidableEq κ] (f : α → Option κ)
    (items : List α) :
    (distinctBy id (items.filterMap f)).Pairwise fun a b =>
      items.findIdx (f · = some a) < items.findIdx (f · = some b) := by
  induction items with
  | nil => exact List.Pairwise.nil
  | cons item rest ih =>
    cases keyed : f item with
    | none =>
      rw [List.filterMap_cons_none keyed]
      apply ih.imp
      intro a b earlier
      simpa [List.findIdx_cons, keyed] using earlier
    | some key =>
      -- The first key is met at once, and any other one is met where it is met in the rest.
      have later {other : κ} (different : other ≠ key) :
          (item :: rest).findIdx (f · = some other) = rest.findIdx (f · = some other) + 1 := by
        simp [List.findIdx_cons, keyed, different.symm]
      rw [List.filterMap_cons_some keyed, distinctBy, List.pairwise_cons]
      constructor
      · intro other member
        have different : other ≠ key := by simpa using (List.mem_filter.mp member).2
        rw [later different]
        simp [List.findIdx_cons, keyed]
      · apply (ih.filter _).imp_of_mem
        intro a b first second earlier
        rw [later (by simpa using (List.mem_filter.mp first).2),
          later (by simpa using (List.mem_filter.mp second).2)]
        omega

namespace Provider

variable {settings : Settings} {asked : List Cell} {found members : List Network}
  {area : CellArea} {network : Network}

/-! ### Networks of an area -/

/-- The key of the network is the text of an asked cell of the area. -/
def FromArea (asked : List Cell) (area : CellArea) (network : Network) : Prop :=
  ∃ cell ∈ asked, cell.text = network.key ∧ cell.area = area

instance (asked : List Cell) (area : CellArea) : DecidablePred (FromArea asked area) := fun network =>
  inferInstanceAs (Decidable (∃ cell ∈ asked, cell.text = network.key ∧ cell.area = area))

def ofArea (asked : List Cell) (found : List Network) (area : CellArea) : List Network :=
  found.filter (FromArea asked area ·)

theorem areaOf?_eq_some_iff : areaOf? asked network = some area ↔ FromArea asked area network := by
  rw [areaOf?, Option.map_eq_some_iff]
  constructor
  · rintro ⟨cell, first, rfl⟩
    exact ⟨cell, List.mem_of_find?_eq_some first, by simpa using List.find?_some first, rfl⟩
  · rintro ⟨cell, member, same, rfl⟩
    cases first : asked.find? fun cell => cell.text = network.key with
    | none => exact absurd same (by simpa using List.find?_eq_none.mp first cell member)
    | some other =>
      have key : other.text = network.key := by simpa using List.find?_some first
      exact ⟨other, rfl, congrArg Cell.area (Cell.eq_of_text (key.trans same.symm))⟩

theorem FromArea.unique {other : CellArea} (first : FromArea asked area network)
    (second : FromArea asked other network) : area = other :=
  Option.some.inj ((areaOf?_eq_some_iff.mpr first).symm.trans (areaOf?_eq_some_iff.mpr second))

theorem ofArea_eq_nil_iff :
    ofArea asked found area = [] ↔ ∀ network ∈ found, ¬ FromArea asked area network := by
  simp [ofArea]

/-- The area has most of the networks, and it is met before any other one that has as many. -/
structure IsLargestArea (asked : List Cell) (found : List Network) (area : CellArea) : Prop where
  occurs : ofArea asked found area ≠ []
  most : ∀ other, (ofArea asked found other).length ≤ (ofArea asked found area).length
  earliest : ∀ other ≠ area,
    (ofArea asked found other).length = (ofArea asked found area).length →
      found.findIdx (FromArea asked area ·) < found.findIdx (FromArea asked other ·)

theorem IsLargestArea.unique {other : CellArea} (first : IsLargestArea asked found area)
    (second : IsLargestArea asked found other) : area = other := by
  by_contra different
  have same := le_antisymm (second.most area) (first.most other)
  have before := first.earliest other (Ne.symm different) same.symm
  have behind := second.earliest area different same
  omega

/-! ### Groups -/

theorem groupByArea_eq (asked : List Cell) (found : List Network) :
    groupByArea asked found =
      (distinctBy id (found.filterMap (areaOf? asked))).map (ofArea asked found) := by
  simp only [groupByArea, areaOf?_eq_some_iff]
  rfl

theorem mem_areas_iff :
    area ∈ distinctBy id (found.filterMap (areaOf? asked)) ↔ ofArea asked found area ≠ [] := by
  have kept : area ∈ distinctBy id (found.filterMap (areaOf? asked)) ↔
      area ∈ found.filterMap (areaOf? asked) := by
    constructor
    · exact fun member => (distinctBy_sublist id _).subset member
    · intro member
      obtain ⟨other, present, same⟩ := exists_mem_distinctBy id member
      obtain rfl : other = area := same
      exact present
  simp [kept, ofArea_eq_nil_iff, areaOf?_eq_some_iff]

/-- The first of the largest groups is the group of the largest area. -/
theorem isLargestArea_of_largest? (largest : largest? (groupByArea asked found) = some members) :
    ∃ area, IsLargestArea asked found area ∧ members = ofArea asked found area := by
  obtain ⟨groupsBefore, groupsAfter, split, smaller, atMost⟩ := split_of_largest? largest
  rw [groupByArea_eq] at split
  obtain ⟨before, rest, areas, rfl, chosen⟩ := List.map_eq_append_iff.mp split
  obtain ⟨area, after, rfl, rfl, rfl⟩ := List.map_eq_cons_iff.mp chosen
  have ordered := distinctBy_pairwise_findIdx (areaOf? asked) found
  simp only [areaOf?_eq_some_iff, areas] at ordered
  have behind := (List.pairwise_cons.mp (List.pairwise_append.mp ordered).2.1).1
  -- An area that occurs stands before the chosen one, where groups are smaller, or behind it.
  have position (other : CellArea) (different : other ≠ area)
      (occurs : ofArea asked found other ≠ []) : other ∈ before ∨ other ∈ after := by
    have member := mem_areas_iff.mpr occurs
    rw [areas] at member
    simpa [different] using member
  refine ⟨area, ⟨?_, ?_, ?_⟩, rfl⟩
  · exact mem_areas_iff.mp (by simp [areas])
  · intro other
    by_cases same : other = area
    · rw [same]
    by_cases occurs : ofArea asked found other = []
    · simp [occurs]
    · rcases position other same occurs with earlier | later
      · exact le_of_lt (smaller _ (List.mem_map_of_mem earlier))
      · exact atMost _ (List.mem_map_of_mem later)
  · intro other different equal
    -- An area with as many networks cannot stand before the chosen one, where groups are smaller.
    have occurs : ofArea asked found other ≠ [] := by
      rw [← List.length_pos_iff, equal, List.length_pos_iff]
      exact mem_areas_iff.mp (by simp [areas])
    rcases position other different occurs with earlier | later
    · exact absurd equal (ne_of_lt (smaller _ (List.mem_map_of_mem earlier)))
    · exact behind other later

theorem largest?_groupByArea_eq_none_iff :
    largest? (groupByArea asked found) = none ↔
      ∀ network ∈ found, ∀ cell ∈ asked, cell.text ≠ network.key := by
  have nowhere : groupByArea asked found = [] ↔ ∀ area, ofArea asked found area = [] := by
    rw [groupByArea_eq, List.map_eq_nil_iff, List.eq_nil_iff_forall_not_mem]
    simp only [mem_areas_iff, not_not]
  rw [largest?_eq_none_iff, nowhere]
  simp only [ofArea_eq_nil_iff, FromArea]
  constructor
  · exact fun none network member cell present same =>
      none cell.area network member ⟨cell, present, same, rfl⟩
  · rintro none area network member ⟨cell, present, same, -⟩
    exact none network member cell present same

/-! ### The estimate -/

/-- The area is the largest one, with the centre of its networks and what the radius comes to. -/
structure EstimatesArea (settings : Settings) (asked : List Cell) (found : List Network)
    (area : CellArea) (centre : Coordinate) (estimated : Except Fault Float) : Prop where
  isLargest : IsLargestArea asked found area
  mean : Coordinate.mean? ((ofArea asked found area).map (·.place)) = some centre
  accuracy :
    Network.accuracy centre (ofArea asked found area) settings.accuracy.cell = estimated

theorem locateCells_of_unasked (settings : Settings)
    (none : ∀ network ∈ found, ∀ cell ∈ asked, cell.text ≠ network.key) :
    locateCells settings asked found = .ok (.empty true) := by
  rw [locateCells, largest?_groupByArea_eq_none_iff.mpr none]

/-- With networks that were asked for, the mean of those of one area is located, or a place that is
none on Earth is reported. -/
theorem locateCells_of_asked (settings : Settings)
    (some : ∃ network ∈ found, ∃ cell ∈ asked, cell.text = network.key) :
    ∃ area centre estimated, EstimatesArea settings asked found area centre estimated ∧
      ((∃ radius, estimated = .ok radius ∧
          locateCells settings asked found = .ok (.position ⟨centre, radius, ⟨.internal, none⟩⟩)) ∨
        ∃ lat lon, estimated = .error (.invalidCoordinate lat lon) ∧
          locateCells settings asked found = .error (.invalidCoordinate lat lon)) := by
  cases largest : largest? (groupByArea asked found) with
  | none =>
    -- Without a group nothing that was asked for has been found.
    obtain ⟨network, member, cell, present, same⟩ := some
    exact absurd same (largest?_groupByArea_eq_none_iff.mp largest network member cell present)
  | some members =>
    obtain ⟨area, isLargest, rfl⟩ := isLargestArea_of_largest? largest
    obtain ⟨centre, mean, estimated⟩ :=
      locateGroup_of_ne_nil cellProfile settings.accuracy.cell isLargest.occurs
    have located : locateCells settings asked found =
        locateGroup cellProfile settings.accuracy.cell (ofArea asked found area) := by
      rw [locateCells, largest]
    refine ⟨area, centre, _, ⟨isLargest, mean, rfl⟩, ?_⟩
    rw [located, estimated]
    cases outcome : Network.accuracy centre (ofArea asked found area) settings.accuracy.cell with
    | ok radius => exact Or.inl ⟨radius, rfl, rfl⟩
    | error fault =>
      rcases Network.fault_of_accuracy outcome with ⟨nobody, -⟩ | ⟨-, place, -, rfl⟩
      · exact absurd nobody isLargest.occurs
      · exact Or.inr ⟨place.lat, place.lon, rfl, rfl⟩

theorem locateCells_ne_unsearched (settings : Settings) :
    locateCells settings asked found ≠ .ok (.empty false) := by
  by_cases some : ∃ network ∈ found, ∃ cell ∈ asked, cell.text = network.key
  · obtain ⟨_, _, _, _, ⟨_, _, located⟩ | ⟨_, _, _, failed⟩⟩ := locateCells_of_asked settings some
    · simp [located]
    · simp [failed]
  · rw [locateCells_of_unasked settings (by simpa using some)]
    simp

end Provider

end Geolocation
