import Geolocation.Proofs.Network.Estimate
import Geolocation.Proofs.Search.Visits
import Geolocation.Search.Locator

/-!
# Where a location comes from

A search makes up no location. The one that it gives was answered in time by a provider that ran, and
a provider answers a position only for what its backend knows: the members of one group, one record,
or the answer of the external service. Whatever holds of every position of every provider of a chain
therefore holds of what a search gives.
-/

namespace Geolocation

/-! ### Searches -/

/-- Only two empty locations merge to something that neither of them is. -/
theorem Location.eq_of_merge {best candidate location : Location}
    (merged : best.merge candidate = location) (found : ∀ searched, location ≠ .empty searched) :
    best = location ∨ candidate = location := by
  unfold merge at merged
  split at merged
  · exact Or.inr merged
  · split at merged
    · exact absurd merged.symm (found _)
    · exact Or.inl merged

/-- Nothing, or a position of which something holds. -/
inductive Location.PositionWith (holds : Position → Prop) : Location → Prop where
  | empty (searched : Bool) : PositionWith holds (.empty searched)
  | position {p : Position} (property : holds p) : PositionWith holds (.position p)

theorem Location.PositionWith.property {holds : Position → Prop} {p : Position}
    (known : PositionWith holds (.position p)) : holds p := by
  cases known with
  | position property => exact property

/-- The provider ran in a search and answered this in time. -/
structure Provider.Answers (provider : Provider) (settings : Settings.Search) (query : Query)
    (location : Location) : Prop where
  opened : ∃ best, (provider.gate query best).isOpen = true
  inTime : (provider.attempt query).delay ≤ provider.limitIn settings
  answered : (provider.attempt query).outcome = .ok location

theorem Verdict.ofOutcome_eq_answered {outcome : Except Fault Location} {location : Location}
    (answered : ofOutcome outcome = .answered location) : outcome = .ok location := by
  cases outcome with
  | ok other =>
    cases answered
    rfl
  | error fault =>
    simp only [ofOutcome] at answered
    split at answered <;> cases answered

namespace Search

variable {settings : Settings.Search} {query : Query}

theorem mem_of_foldl_merge {candidates : List Location} {best location : Location}
    (merged : candidates.foldl Location.merge best = location)
    (found : ∀ searched, location ≠ .empty searched) : best = location ∨ location ∈ candidates := by
  induction candidates generalizing best with
  | nil => exact Or.inl merged
  | cons candidate rest ih =>
    rcases ih merged with here | later
    · rcases Location.eq_of_merge here found with old | new
      · exact Or.inl old
      · exact Or.inr (new ▸ List.mem_cons_self)
    · exact Or.inr (List.mem_cons_of_mem _ later)

/-- A fault only ever puts up an empty location, so anything else that is put up was answered. -/
theorem verdict_of_candidate {visits : List Visit} {location : Location}
    (member : location ∈ candidates visits) (found : ∀ searched, location ≠ .empty searched) :
    ∃ visit ∈ visits, visit.verdict = .answered location := by
  obtain ⟨visit, visited, candidate⟩ := List.mem_filterMap.mp member
  refine ⟨visit, visited, ?_⟩
  cases verdict : visit.verdict with
  | answered other =>
    rw [verdict] at candidate
    exact congrArg Verdict.answered (Option.some.inj candidate)
  | skipped => simp [verdict, Verdict.candidate?] at candidate
  | unavailable fault => simp [verdict, Verdict.candidate?] at candidate
  | faulted fault =>
    rw [verdict] at candidate
    exact absurd (Option.some.inj candidate).symm (found true)

theorem answers_of_verdict {provider : Provider} {best location : Location}
    (verdict : (provider.visit settings query best).verdict = .answered location) :
    provider.Answers settings query location := by
  cases opened : (provider.gate query best).isOpen with
  | false =>
    rw [Provider.visit_of_closed opened] at verdict
    cases verdict
  | true =>
    rw [Provider.visit_of_open opened] at verdict
    have timely := Verdict.ofOutcome_eq_answered verdict
    unfold Provider.timely at timely
    split at timely
    · cases timely
    next inTime => exact ⟨⟨best, opened⟩, Nat.le_of_not_lt inTime, timely⟩

/-- What a search gives, unless it is empty, is what a provider of its chain answered. -/
theorem answers_of_found {caller : Caller} {chain : List Provider} {location : Location}
    (located : (run settings caller chain query).location = location)
    (found : ∀ searched, location ≠ .empty searched) :
    ∃ provider ∈ chain, provider.Answers settings query location := by
  have merged : (candidates (visits settings chain query)).foldl Location.merge (.empty false) =
      location := (locationOf_eq_foldl_merge _).symm.trans located
  rcases mem_of_foldl_merge merged found with nothing | member
  · exact absurd nothing.symm (found false)
  · obtain ⟨visit, visited, verdict⟩ := verdict_of_candidate member found
    obtain ⟨provider, present, current, rfl⟩ := provider_of_visit visited
    exact ⟨provider, present, answers_of_verdict verdict⟩

theorem answers_of_run {caller : Caller} {chain : List Provider} {p : Position}
    (located : (run settings caller chain query).location = .position p) :
    ∃ provider ∈ chain, provider.Answers settings query (.position p) :=
  answers_of_found located (by simp)

end Search

/-! ### Answers of the external service -/

namespace ServiceAnswer

/-- The answer can be used: its place is on Earth, and its accuracy is a positive number. -/
structure IsUsable (answer : ServiceAnswer) : Prop where
  onEarth : answer.place.isValid = true
  finite : answer.accuracy.isFinite = true
  positive : 0.0 < answer.accuracy

/-- The position that the answer tells, as one of the external service. -/
def position (answer : ServiceAnswer) : Position :=
  ⟨answer.place, answer.accuracy, ⟨.fallback, none⟩⟩

end ServiceAnswer

/-- An answer that can be used is passed on as it is, and any other is a fault. -/
theorem Provider.acceptAnswer_eq_ok_iff {answer : ServiceAnswer} {location : Location} :
    acceptAnswer answer = .ok location ↔ answer.IsUsable ∧ location = .position answer.position := by
  constructor
  · intro accepted
    obtain ⟨_, checked, accepted⟩ := ok_of_bind accepted
    split at accepted
    next usable =>
      have radius : answer.accuracy.isFinite = true ∧ 0.0 < answer.accuracy := by
        simpa using usable
      cases accepted
      exact ⟨⟨Coordinate.isValid_of_check checked, radius.1, radius.2⟩, rfl⟩
    · cases accepted
  · rintro ⟨usable, rfl⟩
    have checked : answer.place.check = .ok () := by
      rw [Coordinate.check, if_pos usable.onEarth]
    have radius : (answer.accuracy.isFinite && decide (0.0 < answer.accuracy)) = true := by
      simp [usable.finite, usable.positive]
    rw [acceptAnswer, checked]
    exact if_pos radius

/-! ### Providers -/

namespace Provider

variable {settings : Settings} {query : Query} {location : Location} {p : Position}

theorem outcome_asking {α : Type} {profile : Profile} {reply : Reply α}
    {next : α → Except Fault Location} {location : Location}
    (answered : (Attempt.asking profile reply next).outcome = .ok location) :
    ∃ answer, reply.answer = .ok answer ∧ next answer = .ok location := by
  unfold Attempt.asking at answered
  split at answered
  next answer known => exact ⟨answer, known, answered⟩
  · cases answered

/-- The position is the centre of the group, with the radius around it. -/
structure Estimates (profile : Profile) (minimum : Float) (members : List Network)
    (p : Position) : Prop where
  centre : Network.centre members = .ok p.place
  accuracy : Network.accuracy p.place members minimum = .ok p.accuracy
  provenance : p.provenance = profile.provenance

theorem estimates_of_locateGroup {profile : Profile} {minimum : Float} {members : List Network}
    (located : locateGroup profile minimum members = .ok location) :
    ∃ p, location = .position p ∧ Estimates profile minimum members p := by
  obtain ⟨⟨place, radius⟩, estimated, made⟩ := ok_of_bind located
  obtain ⟨centre, mean, estimated⟩ := ok_of_bind estimated
  obtain ⟨accuracy, widest, estimated⟩ := ok_of_bind estimated
  cases estimated
  cases made
  exact ⟨_, rfl, mean, widest, rfl⟩

theorem Estimates.mean {profile : Profile} {minimum : Float} {members : List Network} {p : Position}
    (estimates : Estimates profile minimum members p) :
    Coordinate.mean? (members.map (·.place)) = some p.place := by
  have centre := estimates.centre
  unfold Network.centre at centre
  split at centre
  next place mean =>
    cases centre
    exact mean
  · cases centre

/-- The position is that of one record, with the radius of the record. -/
structure Copies (profile : Profile) (minimum : Float) (record : Network) (p : Position) : Prop where
  place : p.place = record.place
  accuracy : Network.accuracy record.place [record] minimum = .ok p.accuracy
  provenance : p.provenance = profile.provenance

/-! Each provider answers nothing or a position that its backend accounts for. -/

theorem answer_of_wifi {lookup : List WifiKey → Reply (List Network)}
    (answered : ((wifi settings lookup).attempt query).outcome = .ok location) :
    location.PositionWith fun p =>
      ∃ found places members, (lookup query.wifiKeys).answer = .ok found ∧
        Network.clusters settings.wifi.linkDistance found = .ok places ∧ members ∈ places ∧
        Estimates wifiProfile settings.accuracy.wifi members p := by
  simp only [wifi] at answered
  split at answered
  · obtain ⟨found, known, located⟩ := outcome_asking answered
    obtain ⟨places, clustered, located⟩ := ok_of_bind located
    split at located
    · cases located
      exact .empty true
    next members largest =>
      have member := (List.mem_filter.mp (mem_of_largest? largest)).1
      obtain ⟨p, rfl, estimates⟩ := estimates_of_locateGroup located
      exact .position ⟨found, places, members, known, clustered, member, estimates⟩
  · cases answered
    exact .empty false

theorem position_of_wifi {lookup : List WifiKey → Reply (List Network)}
    (answered : ((wifi settings lookup).attempt query).outcome = .ok (.position p)) :
    ∃ found places members, (lookup query.wifiKeys).answer = .ok found ∧
      Network.clusters settings.wifi.linkDistance found = .ok places ∧ members ∈ places ∧
      Estimates wifiProfile settings.accuracy.wifi members p :=
  (answer_of_wifi answered).property

theorem answer_of_cell {lookup : List Cell → Reply (List Network)}
    (answered : ((cell settings lookup).attempt query).outcome = .ok location) :
    location.PositionWith fun p =>
      ∃ found members, (lookup query.numberedCells).answer = .ok found ∧
        members ∈ groupByArea query.numberedCells found ∧
        Estimates cellProfile settings.accuracy.cell members p := by
  simp only [cell] at answered
  split at answered
  · cases answered
    exact .empty false
  · obtain ⟨found, known, located⟩ := outcome_asking answered
    unfold locateCells at located
    split at located
    · cases located
      exact .empty true
    next members largest =>
      obtain ⟨p, rfl, estimates⟩ := estimates_of_locateGroup located
      exact .position ⟨found, members, known, mem_of_largest? largest, estimates⟩

theorem position_of_cell {lookup : List Cell → Reply (List Network)}
    (answered : ((cell settings lookup).attempt query).outcome = .ok (.position p)) :
    ∃ found members, (lookup query.numberedCells).answer = .ok found ∧
      members ∈ groupByArea query.numberedCells found ∧
      Estimates cellProfile settings.accuracy.cell members p :=
  (answer_of_cell answered).property

theorem answer_of_area {lookup : List CellArea → Reply (List Network)}
    (answered : ((area settings lookup).attempt query).outcome = .ok location) :
    location.PositionWith fun p =>
      ∃ record others, (lookup query.areas).answer = .ok (record :: others) ∧
        Copies areaProfile settings.accuracy.area record p := by
  simp only [area] at answered
  split at answered
  · cases answered
    exact .empty false
  · obtain ⟨found, known, located⟩ := outcome_asking answered
    unfold locateArea at located
    split at located
    · cases located
      exact .empty true
    next record others =>
      obtain ⟨radius, accuracy, located⟩ := ok_of_bind located
      cases located
      exact .position ⟨record, others, known, rfl, accuracy, rfl⟩

theorem position_of_area {lookup : List CellArea → Reply (List Network)}
    (answered : ((area settings lookup).attempt query).outcome = .ok (.position p)) :
    ∃ record others, (lookup query.areas).answer = .ok (record :: others) ∧
      Copies areaProfile settings.accuracy.area record p :=
  (answer_of_area answered).property

def blockOf (address : IpAddress) (place : Coordinate) (radius : Option Float) : Network :=
  ⟨address.text, place, radius⟩

/-- The position is the middle of the block of the address. -/
def Locates (settings : Settings) (ip : IpAddress) (record : AddressRecord) (p : Position) : Prop :=
  ∃ lat lon, record.lat = some lat ∧ record.lon = some lon ∧
    Copies (addressProfile .position) settings.accuracy.address
      (blockOf ip ⟨lat, lon⟩ record.radius) p

/-- The country is that of the block of the address. -/
structure Names (record : AddressRecord) (c : Country) : Prop where
  code : record.countryCode = some c.code
  coded : c.code ≠ ""
  provenance : c.provenance = (addressProfile .country).provenance

theorem locates_of_positionOf {ip : IpAddress} {record : AddressRecord}
    (located : positionOf settings ip record = .ok location) :
    location.PositionWith (Locates settings ip record) := by
  unfold positionOf at located
  split at located
  next lat lon first second =>
    obtain ⟨radius, accuracy, located⟩ := ok_of_bind located
    cases located
    exact .position ⟨lat, lon, first, second, rfl, accuracy, rfl⟩
  · cases located
    exact .empty true

theorem names_of_countryOf (record : AddressRecord) :
    countryOf record = .empty true ∨ ∃ c, countryOf record = .country c ∧ Names record c := by
  unfold countryOf
  split
  · exact Or.inl rfl
  next code known =>
    by_cases coded : code = ""
    · exact Or.inl (if_pos coded)
    · exact Or.inr ⟨_, if_neg coded, known, coded, rfl⟩

/-- What the block of the address tells, as the kind of location that is wanted. -/
inductive AddressAnswer (settings : Settings) (ip : IpAddress) (record : AddressRecord) :
    Yield → Location → Prop where
  | empty (yields : Yield) (searched : Bool) :
      AddressAnswer settings ip record yields (.empty searched)
  | position {p : Position} (locates : Locates settings ip record p) :
      AddressAnswer settings ip record .position (.position p)
  | country {c : Country} (names : Names record c) :
      AddressAnswer settings ip record .country (.country c)

theorem answer_of_address {yields : Yield} {lookup : IpAddress → Reply (Option AddressRecord)}
    (answered : ((address settings yields lookup).attempt query).outcome = .ok location) :
    (∃ searched, location = .empty searched) ∨
      ∃ ip record, query.ip = some ip ∧ (lookup ip).answer = .ok (some record) ∧
        AddressAnswer settings ip record yields location := by
  simp only [address] at answered
  split at answered
  · cases answered
    exact Or.inl ⟨false, rfl⟩
  next ip parsed =>
    obtain ⟨found, known, located⟩ := outcome_asking answered
    unfold locateAddress at located
    split at located
    · cases located
      exact Or.inl ⟨true, rfl⟩
    next record =>
      refine Or.inr ⟨ip, record, parsed, known, ?_⟩
      split at located
      · cases locates_of_positionOf located with
        | empty searched => exact .empty _ searched
        | position locates => exact .position locates
      · cases located
        rcases names_of_countryOf record with nothing | ⟨c, country, names⟩
        · rw [nothing]
          exact .empty _ true
        · rw [country]
          exact .country names

theorem position_of_address {yields : Yield} {lookup : IpAddress → Reply (Option AddressRecord)}
    (answered : ((address settings yields lookup).attempt query).outcome = .ok (.position p)) :
    yields = .position ∧ ∃ ip record lat lon, query.ip = some ip ∧
      (lookup ip).answer = .ok (some record) ∧ record.lat = some lat ∧ record.lon = some lon ∧
      Copies (addressProfile .position) settings.accuracy.address
        (blockOf ip ⟨lat, lon⟩ record.radius) p := by
  rcases answer_of_address answered with ⟨searched, nothing⟩ | ⟨ip, record, parsed, known, answer⟩
  · cases nothing
  · cases answer with
    | position locates =>
      obtain ⟨lat, lon, first, second, copies⟩ := locates
      exact ⟨rfl, ip, record, lat, lon, parsed, known, first, second, copies⟩

theorem answer_of_service {caller : Caller} {ask : Service}
    (answered : ((service settings caller ask).attempt query).outcome = .ok location) :
    location.PositionWith fun p => ∃ answer,
      (ask (.ofQuery query)).answer = .ok (some answer) ∧ answer.IsUsable ∧ p = answer.position := by
  simp only [service] at answered
  split at answered
  · cases answered
    exact .empty false
  · simp only [acceptReply] at answered
    split at answered
    · cases answered
    · cases answered
      exact .empty true
    next answer known =>
      obtain ⟨usable, rfl⟩ := acceptAnswer_eq_ok_iff.mp answered
      exact .position ⟨answer, known, usable, rfl⟩

/-- An answer of the service is passed on as it is, once it is checked. -/
theorem position_of_service {caller : Caller} {ask : Service}
    (answered : ((service settings caller ask).attempt query).outcome = .ok (.position p)) :
    ∃ answer, (ask (.ofQuery query)).answer = .ok (some answer) ∧ answer.place.isValid = true ∧
      answer.accuracy.isFinite = true ∧ 0.0 < answer.accuracy ∧
      p = ⟨answer.place, answer.accuracy, serviceProfile.provenance⟩ := by
  obtain ⟨answer, known, usable, rfl⟩ := (answer_of_service answered).property
  exact ⟨answer, known, usable.onEarth, usable.finite, usable.positive, rfl⟩

end Provider

/-! ### Chains -/

theorem Locator.provider_of_mem_chain {locator : Locator} {caller : Caller} {wanted : Yield}
    {provider : Provider} (member : provider ∈ locator.chain caller wanted) :
    provider = .wifi locator.settings locator.backends.wifis ∨
      provider = .cell locator.settings locator.backends.cells ∨
      provider = .area locator.settings locator.backends.areas ∨
      (∃ yields, provider = .address locator.settings yields locator.backends.address) ∨
      ∃ ask, locator.backends.service = some ask ∧
        provider = .service locator.settings caller ask := by
  cases wanted with
  | country => exact Or.inr (Or.inr (Or.inr (Or.inl ⟨.country, List.mem_singleton.mp member⟩)))
  | position =>
    rcases List.mem_append.mp member with internal | external
    · simp only [internalChain, List.mem_cons, List.not_mem_nil, or_false] at internal
      rcases internal with wifi | cell | area | address
      · exact Or.inl wifi
      · exact Or.inr (Or.inl cell)
      · exact Or.inr (Or.inr (Or.inl area))
      · exact Or.inr (Or.inr (Or.inr (Or.inl ⟨.position, address⟩)))
    · obtain ⟨ask, configured, rfl⟩ := List.mem_map.mp external
      exact Or.inr (Or.inr (Or.inr (Or.inr ⟨ask, Option.mem_toList.mp configured, rfl⟩)))

/-! ### A small world -/

namespace Locator

/-- Nothing is known but the record of one cell area. -/
def knowingArea (record : Network) : Locator where
  settings := {}
  backends :=
    { wifis := fun _ => .now (.ok [])
      cells := fun _ => .now (.ok [])
      areas := fun _ => .now (.ok [record])
      address := fun _ => .now (.ok none)
      service := none }

/-- One cell tower whose number is not known. -/
def towerSeen : Query := ⟨[⟨⟨.gsm, 262, 1, 5⟩, none, none⟩], [], none, none⟩

def stranger : Caller := ⟨"test", false, false⟩

end Locator

end Geolocation
