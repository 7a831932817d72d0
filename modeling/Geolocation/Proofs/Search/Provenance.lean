import Geolocation.Proofs.Search.Disclosure
import Geolocation.Proofs.Search.Noninterference

/-!
# What a stamp says

A location that is found bears the source it is from and the policy flag under which it was looked for.
Neither can be had otherwise: who bears the stamp of a flag was found while the flag did not forbid it,
from the evidence that belongs to the flag, and what is from the external service was found for a caller
who may use it.

A search gives what one provider of its chain answered. Each provider answers from its own backend
behind its own gate and stamps what it answers in one way, so the stamp tells which provider it was.

Main result: `Locator.located_provenance`.
-/

namespace Geolocation

namespace Locator

/-- How a search can have found a location. Each way leaves its own stamp. -/
inductive StemsFrom (locator : Locator) (caller : Caller) (query : Query) :
    Yield → Location → Prop where
  /-- From some of the access points, or some of the cells, that are known of those asked for. -/
  | networks {p : Position} {found members : List Network}
      (known : (locator.backends.wifis query.wifiKeys).answer = .ok found ∨
        (locator.backends.cells query.numberedCells).answer = .ok found)
      (chosen : members.Sublist found) (nonempty : members ≠ [])
      (mean : Coordinate.mean? (members.map (·.place)) = some p.place)
      (provenance : p.provenance = ⟨.internal, none⟩) :
      StemsFrom locator caller query .position (.position p)
  | area {p : Position} {found : List Network} {record : Network}
      (permitted : ¬ query.Forbids "lacf")
      (known : (locator.backends.areas query.areas).answer = .ok found) (member : record ∈ found)
      (place : p.place = record.place) (provenance : p.provenance = ⟨.internal, some "lacf"⟩) :
      StemsFrom locator caller query .position (.position p)
  | address {p : Position} {ip : IpAddress} {record : AddressRecord}
      (permitted : ¬ query.Forbids "ipf") (parsed : query.ip = some ip)
      (known : (locator.backends.address ip).answer = .ok (some record))
      (lat : record.lat = some p.place.lat) (lon : record.lon = some p.place.lon)
      (provenance : p.provenance = ⟨.internal, some "ipf"⟩) :
      StemsFrom locator caller query .position (.position p)
  | country {c : Country} {ip : IpAddress} {record : AddressRecord}
      (permitted : ¬ query.Forbids "ipf") (parsed : query.ip = some ip)
      (known : (locator.backends.address ip).answer = .ok (some record))
      (code : record.countryCode = some c.code) (coded : c.code ≠ "")
      (provenance : c.provenance = ⟨.internal, some "ipf"⟩) :
      StemsFrom locator caller query .country (.country c)
  | service {p : Position} (configured : locator.backends.service.isSome = true)
      (permitted : caller.mayAskService = true) (provenance : p.provenance = ⟨.fallback, none⟩) :
      StemsFrom locator caller query .position (.position p)

end Locator

/-! ### Providers -/

namespace Provider

theorem sublist_of_mem_groupByArea {asked : List Cell} {found members : List Network}
    (grouped : members ∈ groupByArea asked found) : members.Sublist found := by
  obtain ⟨area, _, rfl⟩ := List.mem_map.mp grouped
  exact List.filter_sublist

/-- A provider that ran was not forbidden by its flag. -/
theorem Answers.permitted {provider : Provider} {settings : Settings.Search} {query : Query}
    {location : Location} {name : String} (answers : provider.Answers settings query location)
    (flagged : provider.profile.flag = some name)
    (gated : ∀ best, provider.gate query best = provider.profile.policyGate query) :
    ¬ query.Forbids name := by
  obtain ⟨best, opened⟩ := answers.opened
  rw [gated best] at opened
  exact permitted_of_open flagged opened

end Provider

/-! ### Searches -/

namespace Locator

variable {locator : Locator} {caller : Caller} {wanted : Yield} {query : Query} {location : Location}

theorem yields_of_mem_chain {provider : Provider} (member : provider ∈ locator.chain caller wanted) :
    provider.profile.yields = wanted := by
  cases wanted with
  | country =>
    rw [List.mem_singleton.mp member]
    rfl
  | position =>
    rcases List.mem_append.mp member with internal | external
    · simp only [internalChain, List.mem_cons, List.not_mem_nil, or_false] at internal
      rcases internal with rfl | rfl | rfl | rfl <;> rfl
    · obtain ⟨ask, _, rfl⟩ := List.mem_map.mp external
      rfl

/-- What a provider of the chain answers is nothing, or it stems from that provider. -/
theorem stemsFrom_of_answers {provider : Provider} (member : provider ∈ locator.chain caller wanted)
    (answers : provider.Answers locator.settings.search query location) :
    (∃ searched, location = .empty searched) ∨ locator.StemsFrom caller query wanted location := by
  have yields := yields_of_mem_chain member
  have answered := answers.answered
  rcases provider_of_mem_chain member with rfl | rfl | rfl | ⟨kind, rfl⟩ | ⟨ask, configured, rfl⟩
  -- Access points.
  · subst yields
    cases Provider.answer_of_wifi answered with
    | empty searched => exact Or.inl ⟨searched, rfl⟩
    | position property =>
      obtain ⟨found, places, members, known, clustered, chosen, estimates⟩ := property
      exact Or.inr (.networks (Or.inl known) (Network.sublist_of_mem_clusters clustered chosen)
        (Network.members_ne_nil estimates.accuracy) estimates.mean estimates.provenance)
  -- Cells.
  · subst yields
    cases Provider.answer_of_cell answered with
    | empty searched => exact Or.inl ⟨searched, rfl⟩
    | position property =>
      obtain ⟨found, members, known, grouped, estimates⟩ := property
      exact Or.inr (.networks (Or.inr known) (Provider.sublist_of_mem_groupByArea grouped)
        (Network.members_ne_nil estimates.accuracy) estimates.mean estimates.provenance)
  -- Areas, behind the gate of their flag.
  · have permitted : ¬ query.Forbids "lacf" := answers.permitted rfl fun _ => rfl
    subst yields
    cases Provider.answer_of_area answered with
    | empty searched => exact Or.inl ⟨searched, rfl⟩
    | position property =>
      obtain ⟨record, others, known, copies⟩ := property
      exact Or.inr (.area permitted known List.mem_cons_self copies.place copies.provenance)
  -- Addresses, behind the gate of their flag.
  · have permitted : ¬ query.Forbids "ipf" := answers.permitted rfl fun _ => rfl
    subst yields
    rcases Provider.answer_of_address answered with nothing | ⟨ip, record, parsed, known, answer⟩
    · exact Or.inl nothing
    · cases answer with
      | empty _ searched => exact Or.inl ⟨searched, rfl⟩
      | position locates =>
        obtain ⟨lat, lon, first, second, copies⟩ := locates
        have place : _ = (⟨lat, lon⟩ : Coordinate) := copies.place
        refine Or.inr (.address permitted parsed known ?_ ?_ copies.provenance)
        · rw [first, place]
        · rw [second, place]
      | country names =>
        exact Or.inr (.country permitted parsed known names.code names.coded names.provenance)
  -- The service has no flag; its gate looks at the caller.
  · subst yields
    obtain ⟨best, opened⟩ := answers.opened
    have permitted := ((Provider.isOpen_service_gate _ caller ask query best).mp opened).1
    cases Provider.answer_of_service answered with
    | empty searched => exact Or.inl ⟨searched, rfl⟩
    | position property =>
      obtain ⟨answer, _, _, rfl⟩ := property
      exact Or.inr (.service (by rw [configured]; rfl) permitted rfl)

theorem stemsFrom_of_locate (located : (locator.locate caller wanted query).location = location) :
    (∃ searched, location = .empty searched) ∨ locator.StemsFrom caller query wanted location := by
  by_cases empty : ∃ searched, location = .empty searched
  · exact Or.inl empty
  · obtain ⟨provider, member, answers⟩ :=
      Search.answers_of_found located fun searched nothing => empty ⟨searched, nothing⟩
    exact stemsFrom_of_answers member answers

/-! ### Main result -/

/-- A search gives nothing or what is wanted, and the stamp of what it gives tells the truth: about the
flag that permitted it, the evidence that it rests on, and the caller for whom a service was asked. -/
theorem located_provenance (locator : Locator) (caller : Caller) (query : Query) :
    (∀ location, (locator.locate caller .country query).location = location →
        (∃ searched, location = .empty searched) ∨
          ∃ c ip record, location = .country c ∧ query.ip = some ip ∧
            (locator.backends.address ip).answer = .ok (some record) ∧
            record.countryCode = some c.code ∧ c.code ≠ "" ∧
            c.provenance = ⟨.internal, some "ipf"⟩) ∧
      (∀ location, (locator.locate caller .position query).location = location →
        (∃ searched, location = .empty searched) ∨ ∃ p, location = .position p) ∧
      ∀ wanted location provenance, (locator.locate caller wanted query).location = location →
        location.provenance? = some provenance →
          (provenance.flag = some "ipf" →
            ¬ query.Forbids "ipf" ∧ ∃ ip, query.ip = some ip ∧
              ∀ p, location = .position p → ∃ record,
                (locator.backends.address ip).answer = .ok (some record) ∧
                record.lat = some p.place.lat ∧ record.lon = some p.place.lon) ∧
          (provenance.flag = some "lacf" →
            ¬ query.Forbids "lacf" ∧ ∃ p found record, location = .position p ∧
              (locator.backends.areas query.areas).answer = .ok found ∧ record ∈ found ∧
              p.place = record.place) ∧
          (provenance.source = .fallback →
            locator.backends.service.isSome = true ∧ caller.mayAskService = true) ∧
          (provenance.source = .internal → provenance.flag = none →
            ∃ p found members, location = .position p ∧
              ((locator.backends.wifis query.wifiKeys).answer = .ok found ∨
                (locator.backends.cells query.numberedCells).answer = .ok found) ∧
              members.Sublist found ∧ members ≠ [] ∧
              Coordinate.mean? (members.map (·.place)) = some p.place) := by
  refine ⟨?_, ?_, ?_⟩
  · intro location located
    refine (stemsFrom_of_locate located).imp_right fun stems => ?_
    cases stems with
    | country _ parsed known code coded stamp =>
      exact ⟨_, _, _, rfl, parsed, known, code, coded, stamp⟩
  · intro location located
    refine (stemsFrom_of_locate located).imp_right fun stems => ?_
    cases stems with
    | networks | area | address | service => exact ⟨_, rfl⟩
  · intro wanted location provenance located stamped
    rcases stemsFrom_of_locate located with ⟨searched, rfl⟩ | stems
    · cases stamped
    -- Each way to a location leaves one stamp, and that is the premise of one of the four statements.
    · cases stems with
      | networks known chosen nonempty mean stamp =>
        cases stamped
        refine ⟨?_, ?_, ?_, fun _ _ => ⟨_, _, _, rfl, known, chosen, nonempty, mean⟩⟩ <;> simp [stamp]
      | area permitted known member place stamp =>
        cases stamped
        refine ⟨?_, fun _ => ⟨permitted, _, _, _, rfl, known, member, place⟩, ?_, ?_⟩ <;> simp [stamp]
      | address permitted parsed known lat lon stamp =>
        cases stamped
        refine ⟨fun _ => ⟨permitted, _, parsed, ?_⟩, ?_, ?_, ?_⟩
        · intro p same
          cases same
          exact ⟨_, known, lat, lon⟩
        all_goals simp [stamp]
      | country permitted parsed known code coded stamp =>
        cases stamped
        refine ⟨fun _ => ⟨permitted, _, parsed, ?_⟩, ?_, ?_, ?_⟩ <;> simp [stamp]
      | service configured permitted stamp =>
        cases stamped
        refine ⟨?_, ?_, fun _ => ⟨configured, permitted⟩, ?_⟩ <;> simp [stamp]

end Locator

end Geolocation
