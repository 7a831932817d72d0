import Geolocation.Proofs.Provider.CellEstimate
import Geolocation.Search.Locator
import Mathlib.Data.List.Sublists

/-!
# Faults of providers

What the providers that ask the engine's own stores fail with, and when. Either the store has failed,
whatever its fault was, or a place that is none on Earth has been measured. Only among several networks
is anything measured, so that a cell area and an address never fail that way. That a group has no
members is ruled out by the ways in which groups are made.

Main result: `Provider.internal_faults`.
-/

namespace Geolocation

/-- The mean of some networks of a list is on Earth if each of them is. -/
def Network.MeansOnEarth (networks : List Network) : Prop :=
  ∀ (members : List Network) (centre : Coordinate), members.Sublist networks →
    (∀ member ∈ members, member.place.isValid = true) →
    Coordinate.mean? (members.map (·.place)) = some centre → centre.isValid = true

/-- Only finitely many groups can be formed of a list, so that their means can be checked. -/
instance (networks : List Network) : Decidable (Network.MeansOnEarth networks) :=
  decidable_of_iff (∀ members ∈ networks.sublists, (∀ member ∈ members, member.place.isValid = true) →
      ∀ centre ∈ Coordinate.mean? (members.map Network.place), centre.isValid = true)
    ⟨fun checked members centre taken valid mean =>
        checked members (List.mem_sublists.mpr taken) valid centre mean,
      fun means members taken valid centre mean =>
        means members centre (List.mem_sublists.mp taken) valid mean⟩

namespace Provider

variable {settings : Settings} {profile : Profile}

/-! ### What is made of an answer -/

/-- A location fails to be made under one condition, and then a place is named that is none on
Earth. -/
structure FailsIf (located : Except Fault Location) (misplaced : Prop) : Prop where
  only : ∀ fault, located = .error fault → fault.IsMisplaced
  iff : (∃ fault, located = .error fault) ↔ misplaced

theorem FailsIf.of_ok {located : Except Fault Location} {misplaced : Prop} {location : Location}
    (known : located = .ok location) (placed : ¬ misplaced) : FailsIf located misplaced := by
  subst known
  exact ⟨fun _ failed => (nomatch failed), iff_of_false (fun ⟨_, failed⟩ => nomatch failed) placed⟩

/-- Several of the networks have been found, not all of them on Earth. -/
def Misplaced (members : List Network) : Prop :=
  2 ≤ members.length ∧ ∃ member ∈ members, member.place.isValid = false

theorem Misplaced.of_sublist {members networks : List Network} (misplaced : Misplaced members)
    (taken : members.Sublist networks) : Misplaced networks := by
  obtain ⟨several, bad, member, invalid⟩ := misplaced
  exact ⟨several.trans taken.length_le, bad, taken.subset member, invalid⟩

theorem failsIf_locateGroup {members networks : List Network} (profile : Profile)
    (minimum : Float) (means : Network.MeansOnEarth networks) (taken : members.Sublist networks)
    (some : members ≠ []) : FailsIf (locateGroup profile minimum members) (Misplaced members) := by
  obtain ⟨centre, mean, located⟩ := locateGroup_of_ne_nil profile minimum some
  rw [located]
  cases estimated : Network.accuracy centre members minimum with
  | ok radius =>
    apply FailsIf.of_ok rfl
    rintro ⟨several, bad, member, invalid⟩
    have valid := (Network.isValid_of_accuracy several estimated).2 bad member
    exact absurd (valid.symm.trans invalid) (by decide)
  | error cause =>
    obtain ⟨nobody, -⟩ | ⟨several, misplaced⟩ := Network.fault_of_accuracy estimated
    · exact absurd nobody some
    · refine ⟨fun fault failed => Except.error.inj failed ▸ misplaced, iff_of_true ⟨cause, rfl⟩ ?_⟩
      refine ⟨several, ?_⟩
      -- Were all of them on Earth, then so were the centre, and all distances could be measured.
      by_contra nobody
      have valid : ∀ member ∈ members, member.place.isValid = true := by simpa using nobody
      have onEarth := means members centre taken valid mean
      obtain ⟨radius, measured⟩ : ∃ radius, Network.accuracy centre members minimum = .ok radius :=
        Network.accuracy_of_valid some fun _ => ⟨onEarth, valid⟩
      rw [measured] at estimated
      cases estimated

theorem failsIf_locateWifis {found : List Network} (means : Network.MeansOnEarth found) :
    FailsIf (locateWifis settings found) (Misplaced found) := by
  cases clustered : Network.clusters settings.wifi.linkDistance found with
  | error cause =>
    have located : locateWifis settings found = .error cause := by rw [locateWifis, clustered]; rfl
    obtain ⟨several, bad, first, rfl⟩ := Network.clusters_eq_error_iff.mp clustered
    rw [located]
    refine ⟨fun fault failed => ?_, iff_of_true ⟨_, rfl⟩ ?_⟩
    · exact Except.error.inj failed ▸ Network.misplaced_of_clusters clustered
    · exact ⟨several, bad, List.mem_of_find?_eq_some first, by simpa using List.find?_some first⟩
  | ok places =>
    -- What could be split is all on Earth, and then so is every part of it.
    have placed : ¬ Misplaced found := by
      rintro ⟨several, bad, member, invalid⟩
      have valid := Network.isValid_of_clusters several clustered bad member
      exact absurd (valid.symm.trans invalid) (by decide)
    cases chosen : largest?
        (places.filter fun members => settings.wifi.clusterMinimum ≤ members.length) with
    | none =>
      have located : locateWifis settings found = .ok (.empty true) := by
        simp only [locateWifis, clustered, bind, Except.bind, chosen]
        rfl
      exact .of_ok located placed
    | some members =>
      have located : locateWifis settings found =
          locateGroup wifiProfile settings.accuracy.wifi members := by
        simp only [locateWifis, clustered, bind, Except.bind, chosen]
      have member : members ∈ places := (List.mem_filter.mp (mem_of_largest? chosen)).1
      have taken := Network.sublist_of_mem_clusters clustered member
      have fails := failsIf_locateGroup wifiProfile settings.accuracy.wifi means taken
        (Network.ne_nil_of_mem_clusters clustered member)
      rw [located]
      refine ⟨fails.only, fails.iff.trans ⟨fun misplaced => ?_, fun misplaced => ?_⟩⟩
      · exact misplaced.of_sublist taken
      · exact absurd misplaced placed

theorem failsIf_locateCells {asked : List Cell} {found : List Network}
    (means : Network.MeansOnEarth found) :
    FailsIf (locateCells settings asked found)
      (∃ area, IsLargestArea asked found area ∧ Misplaced (ofArea asked found area)) := by
  cases chosen : largest? (groupByArea asked found) with
  | none =>
    have located : locateCells settings asked found = .ok (.empty true) := by
      rw [locateCells, chosen]
    apply FailsIf.of_ok located
    rintro ⟨area, isLargest, -⟩
    apply isLargest.occurs
    rw [ofArea_eq_nil_iff]
    rintro network member ⟨cell, present, same, -⟩
    exact largest?_groupByArea_eq_none_iff.mp chosen network member cell present same
  | some members =>
    obtain ⟨area, isLargest, rfl⟩ := isLargestArea_of_largest? chosen
    have located : locateCells settings asked found =
        locateGroup cellProfile settings.accuracy.cell (ofArea asked found area) := by
      rw [locateCells, chosen]
    have fails := failsIf_locateGroup cellProfile settings.accuracy.cell means
      List.filter_sublist isLargest.occurs
    rw [located]
    -- There is no other largest area that might be misplaced.
    refine ⟨fails.only, fails.iff.trans ⟨fun misplaced => ⟨area, isLargest, misplaced⟩, ?_⟩⟩
    rintro ⟨other, largest, misplaced⟩
    rwa [isLargest.unique largest]

theorem failsIf_locateArea (found : List Network) : FailsIf (locateArea settings found) False := by
  cases found with
  | nil => exact .of_ok rfl id
  | cons first others => exact .of_ok rfl id

theorem failsIf_locateAddress (yields : Yield) (ip : IpAddress) (record : Option AddressRecord) :
    FailsIf (locateAddress settings yields ip record) False := by
  cases record with
  | none => exact .of_ok rfl id
  | some record =>
    cases yields with
    | country => exact .of_ok rfl id
    | position =>
      simp only [locateAddress, positionOf]
      split
      · exact .of_ok rfl id
      · exact .of_ok rfl id

/-! ### What is made of a query -/

/-- The outcome is a fault only if the backend has answered with one, which is then an outage of the
provider, or if what it has answered leads to a place that is none on Earth. -/
structure FailsExactly {α : Type} (outcome : Except Fault Location) (name : String)
    (answered : Except Fault α → Prop) (misplaced : α → Prop) : Prop where
  only : ∀ fault, outcome = .error fault →
    (∃ reason, fault = .unavailable name reason) ∨ fault.IsMisplaced
  unavailable : ∀ reason, outcome = .error (.unavailable name reason) ↔
    ∃ cause, answered (.error cause) ∧ reason = cause.message
  invalid : (∃ lat lon, outcome = .error (.invalidCoordinate lat lon)) ↔
    ∃ found, answered (.ok found) ∧ misplaced found

section

variable {α : Type} {name : String} {answered : Except Fault α → Prop} {misplaced : α → Prop}

theorem failsExactly_of_now {location : Location} (unasked : ∀ answer, ¬ answered answer) :
    FailsExactly (Attempt.now location).outcome name answered misplaced where
  only := by simp [Attempt.now]
  unavailable := by simp [Attempt.now, unasked]
  invalid := by simp [Attempt.now, unasked]

theorem failsExactly_of_asking {reply : Reply α} {next : α → Except Fault Location}
    (asked : ∀ answer, answered answer ↔ reply.answer = answer)
    (fails : ∀ found, reply.answer = .ok found → FailsIf (next found) (misplaced found)) :
    FailsExactly (Attempt.asking profile reply next).outcome profile.name answered misplaced := by
  simp only [funext fun answer => propext (asked answer)]
  cases answer : reply.answer with
  | error cause =>
    -- The backend has failed, which is an outage whatever its fault is.
    rw [Attempt.outcome_asking_of_error answer]
    constructor
    · rintro _ ⟨⟩
      exact Or.inl ⟨_, rfl⟩
    · intro reason
      simp [Profile.unavailable, eq_comm]
    · simp [Profile.unavailable]
  | ok found =>
    -- The backend has answered, and what is made of the answer is no outage.
    have fails := fails found answer
    rw [Attempt.outcome_asking_of_ok answer]
    constructor
    · exact fun fault failed => Or.inr (fails.only fault failed)
    · intro reason
      constructor
      · intro failed
        obtain ⟨_, _, other⟩ := fails.only _ failed
        cases other
      · rintro ⟨_, other, _⟩
        cases other
    · constructor
      · rintro ⟨lat, lon, failed⟩
        exact ⟨found, rfl, fails.iff.mp ⟨_, failed⟩⟩
      · rintro ⟨_, same, bad⟩
        cases same
        obtain ⟨fault, failed⟩ := fails.iff.mpr bad
        obtain ⟨place, -, rfl⟩ := fails.only fault failed
        exact ⟨place.lat, place.lon, failed⟩

end

/-- If means of places on Earth are on Earth, the four providers fail with an outage under their own
names exactly if their backends fail, and with a place that is none on Earth exactly if access points,
or the cells of the largest area, are several and not all of them on Earth. -/
theorem internal_faults (settings : Settings) (backends : Backends) (query : Query)
    (wifiMeans : ∀ found, (backends.wifis query.wifiKeys).answer = .ok found →
      Network.MeansOnEarth found)
    (cellMeans : ∀ found, (backends.cells query.numberedCells).answer = .ok found →
      Network.MeansOnEarth found) :
    FailsExactly ((wifi settings backends.wifis).attempt query).outcome "wifi"
        (fun answer => max 1 settings.wifi.queryMinimum ≤ query.wifis.length ∧
          (backends.wifis query.wifiKeys).answer = answer)
        Misplaced ∧
      FailsExactly ((cell settings backends.cells).attempt query).outcome "cell"
        (fun answer => query.numberedCells ≠ [] ∧
          (backends.cells query.numberedCells).answer = answer)
        (fun found => ∃ area, IsLargestArea query.numberedCells found area ∧
          Misplaced (ofArea query.numberedCells found area)) ∧
      FailsExactly ((area settings backends.areas).attempt query).outcome "cell_lac"
        (fun answer => query.areas ≠ [] ∧ (backends.areas query.areas).answer = answer)
        (fun _ => False) ∧
      ∀ yields, FailsExactly ((address settings yields backends.address).attempt query).outcome "geoip"
        (fun answer => ∃ ip, query.ip = some ip ∧ (backends.address ip).answer = answer)
        (fun _ => False) := by
  refine ⟨?wifi, ?cell, ?area, fun yields => ?address⟩
  case wifi =>
    by_cases enough : max 1 settings.wifi.queryMinimum ≤ query.wifis.length
    · rw [attempt_wifi_of_enough backends.wifis enough]
      apply failsExactly_of_asking
      · exact fun answer => and_iff_right enough
      · exact fun found known => failsIf_locateWifis (wifiMeans found known)
    · rw [attempt_wifi_of_few backends.wifis (Nat.lt_of_not_le enough)]
      exact failsExactly_of_now fun _ asked => enough asked.1
  case cell =>
    by_cases nothing : query.numberedCells = []
    · rw [attempt_cell_of_nil settings backends.cells nothing]
      exact failsExactly_of_now fun _ asked => asked.1 nothing
    · rw [attempt_cell_of_some settings backends.cells nothing]
      apply failsExactly_of_asking
      · exact fun answer => and_iff_right nothing
      · exact fun found known => failsIf_locateCells (cellMeans found known)
  case area =>
    by_cases nothing : query.areas = []
    · rw [attempt_area_of_nil settings backends.areas nothing]
      exact failsExactly_of_now fun _ asked => asked.1 nothing
    · rw [attempt_area_of_some settings backends.areas nothing]
      apply failsExactly_of_asking
      · exact fun answer => and_iff_right nothing
      · exact fun found _ => failsIf_locateArea found
  case address =>
    cases parsed : query.ip with
    | none =>
      rw [attempt_address_of_none settings yields backends.address parsed]
      exact failsExactly_of_now fun _ ⟨_, asked, _⟩ => nomatch asked
    | some ip =>
      rw [attempt_address_of_some settings yields backends.address parsed]
      apply failsExactly_of_asking
      · simp
      · exact fun record _ => failsIf_locateAddress yields ip record

/-- One of three networks lies beyond the pole and so does the only cell of the area, and the other
backends are broken. -/
theorem faults_of_broken_backends :
    let beyond : Network := ⟨"gsm:262:1:5:1", ⟨95.0, 8.0⟩, none⟩
    let found : List Network :=
      [⟨"a408f51c337e", ⟨52.5, 13.4⟩, none⟩, ⟨"a408f51c337f", ⟨52.501, 13.401⟩, none⟩, beyond]
    let backends : Backends :=
      { wifis := fun _ => .now (.ok found)
        cells := fun _ => .now (.ok [beyond])
        areas := fun _ => .now (.error .emptyCluster)
        address := fun _ => .now (.error (.store "closed"))
        service := none }
    let query : Query := ⟨[⟨⟨.gsm, 262, 1, 5⟩, some 1, none⟩],
      [⟨⟨"a408f51c337e".toList, by decide⟩, none⟩, ⟨⟨"a408f51c337f".toList, by decide⟩, none⟩],
      some (.v4 1), none⟩
    (∃ lat lon, ((wifi {} backends.wifis).attempt query).outcome =
        .error (.invalidCoordinate lat lon)) ∧
      (¬ ∃ lat lon, ((cell {} backends.cells).attempt query).outcome =
        .error (.invalidCoordinate lat lon)) ∧
      ((area {} backends.areas).attempt query).outcome =
        .error (.unavailable "cell_lac" Fault.emptyCluster.message) ∧
      ((address {} .country backends.address).attempt query).outcome =
        .error (.unavailable "geoip" (Fault.store "closed").message) := by
  intro beyond found backends query
  have means : Network.MeansOnEarth found := by decide +kernel
  obtain ⟨wifis, cells, areas, address⟩ := internal_faults {} backends query
    (fun other known => Except.ok.inj known ▸ means)
    (fun other known members centre taken => means members centre (by
      cases known
      exact taken.trans ((List.sublist_cons_self _ _).trans (List.sublist_cons_self _ _))))
  refine ⟨wifis.invalid.mpr ?_, fun failed => ?_, (areas.unavailable _).mpr ?_,
    ((address .country).unavailable _).mpr ?_⟩
  · exact ⟨found, ⟨by decide, rfl⟩, by decide, beyond, by decide, by decide⟩
  · obtain ⟨other, ⟨_, known⟩, largest, _, several, _⟩ := cells.invalid.mp failed
    cases known
    have atMost : (ofArea query.numberedCells [beyond] largest).length ≤ 1 := List.length_filter_le _ _
    omega
  · exact ⟨.emptyCluster, ⟨by decide, rfl⟩, rfl⟩
  · exact ⟨.store "closed", ⟨_, rfl, rfl⟩, rfl⟩

end Provider

end Geolocation
