import Geolocation.Proofs.Search.Origin

/-!
# Places on Earth

Whether a position that a search gives is a place on Earth hangs on the single records it may rest on.
Several networks are compared with their centre and the answer of the external service is checked, so
neither can lead off the Earth. One record alone, be it the only known access point, the only known
cell of the largest group, a cell area or the block of an address, is taken over without a look at its
place.

Main result: `Locator.located_isValid_iff`.
-/

namespace Geolocation

/-- The position rests on one record alone, which puts it at this place. -/
inductive Locator.RestsOn (locator : Locator) (query : Query) (p : Position) : Coordinate → Prop where
  /-- The only access point that is known of those asked for. -/
  | wifi {record : Network} (known : (locator.backends.wifis query.wifiKeys).answer = .ok [record])
      (estimates : Provider.Estimates Provider.wifiProfile locator.settings.accuracy.wifi [record] p) :
      RestsOn locator query p record.place
  /-- The only cell in its group. -/
  | cell {found : List Network} {record : Network}
      (known : (locator.backends.cells query.numberedCells).answer = .ok found)
      (alone : [record] ∈ Provider.groupByArea query.numberedCells found)
      (estimates : Provider.Estimates Provider.cellProfile locator.settings.accuracy.cell [record] p) :
      RestsOn locator query p record.place
  | area {record : Network} {others : List Network}
      (known : (locator.backends.areas query.areas).answer = .ok (record :: others))
      (copies : Provider.Copies Provider.areaProfile locator.settings.accuracy.area record p) :
      RestsOn locator query p record.place
  | address {ip : IpAddress} {record : AddressRecord} {lat lon : Float} (asked : query.ip = some ip)
      (known : (locator.backends.address ip).answer = .ok (some record))
      (first : record.lat = some lat) (second : record.lon = some lon)
      (copies : Provider.Copies (Provider.addressProfile .position) locator.settings.accuracy.address
        (Provider.blockOf ip ⟨lat, lon⟩ record.radius) p) :
      RestsOn locator query p ⟨lat, lon⟩

namespace Provider

variable {profile : Profile} {minimum : Float} {members : List Network} {p : Position}

theorem Estimates.isValid_of_alone {record : Network}
    (estimates : Estimates profile minimum [record] p) :
    p.place.isValid = record.place.isValid := by
  have centre := estimates.centre
  unfold Network.centre at centre
  split at centre
  next mean averaged =>
    cases centre
    exact Coordinate.isValid_mean_singleton averaged
  · cases centre

theorem Estimates.isValid_or_alone (estimates : Estimates profile minimum members p) :
    p.place.isValid = true ∨ ∃ record, members = [record] := by
  have some := Network.members_ne_nil estimates.accuracy
  by_cases several : 2 ≤ members.length
  · exact Or.inl (Network.isValid_of_accuracy several estimates.accuracy).1
  · right
    apply List.length_eq_one_iff.mp
    have positive := List.length_pos_iff.mpr some
    omega

end Provider

namespace Locator

variable {locator : Locator} {query : Query} {p : Position}

/-- A position that rests on one record is on Earth exactly if the record is. -/
theorem RestsOn.isValid {place : Coordinate} (rests : locator.RestsOn query p place) :
    p.place.isValid = place.isValid := by
  cases rests with
  | wifi _ estimates => exact estimates.isValid_of_alone
  | cell _ _ estimates => exact estimates.isValid_of_alone
  | area _ copies => rw [copies.place]
  | address _ _ _ _ copies => rw [copies.place]; rfl

theorem isValid_or_rests {caller : Caller} {wanted : Yield} {provider : Provider}
    (member : provider ∈ locator.chain caller wanted)
    (answers : provider.Answers locator.settings.search query (.position p)) :
    p.place.isValid = true ∨ ∃ place, locator.RestsOn query p place := by
  have answered := answers.answered
  rcases provider_of_mem_chain member with rfl | rfl | rfl | ⟨yields, rfl⟩ | ⟨ask, _, rfl⟩
  · obtain ⟨found, places, members, known, clustered, chosen, estimates⟩ :=
      Provider.position_of_wifi answered
    rcases estimates.isValid_or_alone with valid | ⟨record, rfl⟩
    · exact Or.inl valid
    -- Splitting several access points has checked the one that is left alone, too.
    rcases Network.isValid_or_only_of_clusters clustered chosen with valid | rfl
    · exact Or.inl (estimates.isValid_of_alone.trans valid)
    · exact Or.inr ⟨_, .wifi known estimates⟩
  · obtain ⟨found, members, known, grouped, estimates⟩ := Provider.position_of_cell answered
    rcases estimates.isValid_or_alone with valid | ⟨record, rfl⟩
    · exact Or.inl valid
    · exact Or.inr ⟨_, .cell known grouped estimates⟩
  · obtain ⟨record, others, known, copies⟩ := Provider.position_of_area answered
    exact Or.inr ⟨_, .area known copies⟩
  · obtain ⟨_, ip, record, lat, lon, asked, known, first, second, copies⟩ :=
      Provider.position_of_address answered
    exact Or.inr ⟨_, .address asked known first second copies⟩
  · -- The answer of the service has been checked.
    obtain ⟨answer, _, valid, _, _, rfl⟩ := Provider.position_of_service answered
    exact Or.inl valid

/-- A position that a search gives is a place on Earth exactly if no record that it rests on alone is
off the Earth. -/
theorem located_isValid_iff (locator : Locator) (caller : Caller) (wanted : Yield) (query : Query)
    (p : Position) (located : (locator.locate caller wanted query).location = .position p) :
    p.place.isValid = true ↔ ∀ place, locator.RestsOn query p place → place.isValid = true := by
  constructor
  · intro valid place rests
    rw [← rests.isValid]
    exact valid
  · intro records
    obtain ⟨provider, member, answers⟩ := Search.answers_of_run located
    rcases isValid_or_rests member answers with valid | ⟨place, rests⟩
    · exact valid
    · rw [rests.isValid]
      exact records place rests

theorem located_in_area :
    let locator := knowingArea ⟨"gsm:262:1:5", ⟨50.0, 8.0⟩, none⟩
    let p : Position := ⟨⟨50.0, 8.0⟩, 10000.0, ⟨.internal, some "lacf"⟩⟩
    (locator.locate stranger .position towerSeen).location = .position p ∧
      (p.place.isValid = true ↔
        ∀ place, locator.RestsOn towerSeen p place → place.isValid = true) := by
  intro locator p
  have located : (locator.locate stranger .position towerSeen).location = .position p := by decide
  exact ⟨located, located_isValid_iff _ _ _ _ _ located⟩

/-- A record five degrees north of the pole is passed on. -/
theorem located_off_Earth :
    ¬ ∀ (locator : Locator) (caller : Caller) (wanted : Yield) (query : Query) (p : Position),
      (locator.locate caller wanted query).location = .position p → p.place.isValid = true := by
  intro always
  have located : ((knowingArea ⟨"gsm:262:1:5", ⟨95.0, 8.0⟩, none⟩).locate stranger .position
      towerSeen).location = .position ⟨⟨95.0, 8.0⟩, 10000.0, ⟨.internal, some "lacf"⟩⟩ := by decide
  have valid := always _ _ _ _ _ located
  revert valid
  decide

end Locator

end Geolocation
