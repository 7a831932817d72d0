import Geolocation.Proofs.Search.Visits
import Geolocation.Search.Locator

/-!
# What leaves for the external service

A search sends at most one request, and that is the one its query makes. Only the last provider of
the chain for positions sends anything, so what decides is whether the search comes to it, whether its
gate lets it run, and whether there is anything to ask for.
-/

namespace Geolocation

/-! ### Requests -/

/-- Has the query an access point, or a cell whose number is known? -/
def Query.HasEvidence (query : Query) : Prop :=
  query.wifis ≠ [] ∨ ∃ sighting ∈ query.cells, sighting.cid.isSome

theorem ServiceRequest.isEmpty_ofQuery (query : Query) :
    (ofQuery query).isEmpty = false ↔ query.HasEvidence := by
  have numbered : (ofQuery query).cells = [] ↔ ¬ ∃ sighting ∈ query.cells, sighting.cid.isSome := by
    simp [ofQuery, CellSighting.cell?]
  have keyed : (ofQuery query).wifis = [] ↔ query.wifis = [] := by
    simp [ofQuery]
  rw [isEmpty, Bool.and_eq_false_iff, ← Bool.not_eq_true, ← Bool.not_eq_true, List.isEmpty_iff,
    List.isEmpty_iff, numbered, keyed, Classical.not_not, or_comm]
  rfl

namespace Provider

/-- The provider sends nothing to the external service. -/
def IsSilent (provider : Provider) : Prop := ∀ query, (provider.attempt query).sent = []

theorem sent_asking {α : Type} (profile : Profile) (reply : Reply α)
    (next : α → Except Fault Location) : (Attempt.asking profile reply next).sent = [] := by
  unfold Attempt.asking
  split <;> rfl

theorem IsSilent.sent_visit {provider : Provider} (silent : provider.IsSilent)
    (settings : Settings.Search) (query : Query) (best : Location) :
    (provider.visit settings query best).sent = [] := by
  cases opened : (provider.gate query best).isOpen with
  | true =>
    rw [visit_of_open opened]
    exact silent query
  | false => rw [visit_of_closed opened]

theorem address_isSilent (settings : Settings) (yields : Yield)
    (lookup : IpAddress → Reply (Option AddressRecord)) :
    (address settings yields lookup).IsSilent := by
  intro query
  simp only [address]
  split
  · rfl
  · exact sent_asking _ _ _

/-- None of the engine's own providers sends anything. -/
theorem internalChain_isSilent (locator : Locator) :
    ∀ provider ∈ locator.internalChain, provider.IsSilent := by
  simp only [Locator.internalChain, List.forall_mem_cons, List.not_mem_nil, false_implies,
    implies_true, and_true]
  -- Each of the first three either asks its store or ends at once.
  refine ⟨fun query => ?_, fun query => ?_, fun query => ?_, address_isSilent _ _ _⟩
  · simp only [wifi]
    split
    · exact sent_asking _ _ _
    · rfl
  · simp only [cell]
    split
    · rfl
    · exact sent_asking _ _ _
  · simp only [area]
    split
    · rfl
    · exact sent_asking _ _ _

/-! ### The external service -/

theorem isAccurate_iff (settings : Settings) (best : Location) :
    isAccurate settings best = true ↔
      ∃ accuracy ∈ best.accuracy?, accuracy ≤ settings.service.threshold := by
  simp [isAccurate, Option.any_eq_true]

/-- The gate of the service is closed for callers who may not use it, and when the best location is
accurate enough. No policy flag has a say in it. -/
theorem isOpen_service_gate (settings : Settings) (caller : Caller) (ask : Service) (query : Query)
    (best : Location) :
    ((service settings caller ask).gate query best).isOpen = true ↔
      caller.mayAskService = true ∧
        ∀ accuracy ∈ best.accuracy?, ¬ accuracy ≤ settings.service.threshold := by
  have inaccurate : isAccurate settings best = false ↔
      ∀ accuracy ∈ best.accuracy?, ¬ accuracy ≤ settings.service.threshold := by
    rw [← Bool.not_eq_true, isAccurate_iff]
    simp
  rw [← inaccurate]
  cases permitted : caller.mayAskService <;> cases accurate : isAccurate settings best <;>
    simp [service, permitted, accurate, Profile.policyGate, serviceProfile]

/-- What the service is sent when the search comes to it. -/
theorem sent_service_visit (settings : Settings) (caller : Caller) (ask : Service) (query : Query)
    (best : Location) (sent : List ServiceRequest)
    (visited : ((service settings caller ask).visit settings.search query best).sent = sent) :
    (sent = [] ∨ sent = [.ofQuery query]) ∧
      (sent = [.ofQuery query] ↔ caller.mayAskService = true ∧ query.HasEvidence ∧
        ∀ accuracy ∈ best.accuracy?, ¬ accuracy ≤ settings.service.threshold) := by
  subst visited
  cases opened : ((service settings caller ask).gate query best).isOpen with
  | false =>
    -- A closed gate breaks one of the conditions.
    have closed := mt (isOpen_service_gate settings caller ask query best).mpr (by simp [opened])
    rw [visit_of_closed opened]
    refine ⟨.inl rfl, nofun, fun asks => absurd ⟨asks.1, asks.2.2⟩ closed⟩
  | true =>
    have permits := (isOpen_service_gate settings caller ask query best).mp opened
    rw [visit_of_open opened]
    cases empty : (ServiceRequest.ofQuery query).isEmpty with
    | true =>
      have nothing : ¬ query.HasEvidence := by
        rw [← ServiceRequest.isEmpty_ofQuery, empty]
        exact Bool.noConfusion
      have sent : ((service settings caller ask).attempt query).sent = [] := by
        simp [service, empty, Attempt.now]
      rw [sent]
      exact ⟨.inl rfl, nofun, fun asks => absurd asks.2.1 nothing⟩
    | false =>
      have sent : ((service settings caller ask).attempt query).sent = [.ofQuery query] := by
        simp [service, empty]
      rw [sent]
      have evidence := (ServiceRequest.isEmpty_ofQuery query).mp empty
      exact ⟨.inr rfl, fun _ => ⟨permits.1, evidence, permits.2⟩, fun _ => rfl⟩

end Provider

namespace Locator

/-- What the engine's own providers do in a search for a position. -/
def internalVisits (locator : Locator) (query : Query) : List Visit :=
  Search.visits locator.settings.search locator.internalChain query

/-- Does a search for a position end early among the engine's own providers? -/
def endsInternally (locator : Locator) (query : Query) : Bool :=
  Search.endsWithin locator.settings.search (.empty false) (locator.internalVisits query)

/-- When a search sends a request to the external service. -/
structure Asks (locator : Locator) (caller : Caller) (wanted : Yield) (query : Query) : Prop where
  position : wanted = .position
  configured : locator.backends.service.isSome
  permitted : caller.mayAskService
  evidence : query.HasEvidence
  /-- What the engine's own providers found is not accurate enough. -/
  inaccurate : ∀ accuracy ∈ (Search.locationOf (locator.internalVisits query)).accuracy?,
    ¬ accuracy ≤ locator.settings.service.threshold
  /-- The search did not end early among them. -/
  goesOn : locator.endsInternally query = false

theorem sent_visitsFrom_of_silent {settings : Settings.Search} {query : Query}
    {chain : List Provider} (silent : ∀ provider ∈ chain, provider.IsSilent) (best : Location) :
    (Search.visitsFrom settings query best chain).flatMap (·.sent) = [] := by
  induction chain generalizing best with
  | nil => rfl
  | cons provider rest ih =>
    obtain ⟨first, others⟩ := List.forall_mem_cons.mp silent
    have nothing := first.sent_visit settings query best
    cases ends : Search.endsWith settings best (provider.visit settings query best).verdict with
    | true => simp [Search.visitsFrom_cons_of_ends ends, nothing]
    | false =>
      rw [Search.visitsFrom_cons_of_goesOn ends, List.flatMap_cons, nothing, ih others]
      rfl

theorem sent_locate_country (locator : Locator) (caller : Caller) (query : Query) :
    (locator.locate caller .country query).sent = [] := by
  refine sent_visitsFrom_of_silent ?_ (.empty false)
  simp only [chain, List.forall_mem_singleton]
  exact Provider.address_isSilent _ _ _

/-- A search for a position comes to the service after the engine's own providers, unless it ends
early among them. -/
theorem visits_chain_position (locator : Locator) (caller : Caller) (query : Query) :
    Search.visits locator.settings.search (locator.chain caller .position) query =
      locator.internalVisits query ++
        if locator.endsInternally query then []
        else Search.visitsFrom locator.settings.search query
          (Search.locationOf (locator.internalVisits query))
          (locator.backends.service.toList.map (Provider.service locator.settings caller)) :=
  Search.visitsFrom_append _ _ _

theorem sent_locate_position (locator : Locator) (caller : Caller) (query : Query) :
    (locator.locate caller .position query).sent =
      if locator.endsInternally query then []
      else locator.backends.service.toList.flatMap fun ask =>
        ((Provider.service locator.settings caller ask).visit locator.settings.search query
          (Search.locationOf (locator.internalVisits query))).sent := by
  have silence : (locator.internalVisits query).flatMap (·.sent) = [] :=
    sent_visitsFrom_of_silent (Provider.internalChain_isSilent locator) (.empty false)
  have read : (locator.locate caller .position query).sent =
      (Search.visits locator.settings.search (locator.chain caller .position) query).flatMap
        (·.sent) := rfl
  rw [read, visits_chain_position, List.flatMap_append, silence, List.nil_append]
  cases locator.endsInternally query with
  | true => rfl
  | false =>
    cases locator.backends.service with
    | none => rfl
    | some ask =>
      simp only [Bool.false_eq_true, if_false, Option.toList_some, List.map_cons, List.map_nil,
        Search.visitsFrom_singleton, List.flatMap_cons, List.flatMap_nil]

/-- What is sent is the request of the query or nothing, and it is the request exactly when the
search asks the service. -/
theorem sent_locate (locator : Locator) (caller : Caller) (wanted : Yield) (query : Query) :
    ((locator.locate caller wanted query).sent = [] ∨
        (locator.locate caller wanted query).sent = [.ofQuery query]) ∧
      ((locator.locate caller wanted query).sent = [.ofQuery query] ↔
        locator.Asks caller wanted query) := by
  cases wanted with
  | country =>
    rw [sent_locate_country]
    exact ⟨.inl rfl, nofun, fun asks => nomatch asks.position⟩
  | position =>
    rw [sent_locate_position]
    cases ends : locator.endsInternally query with
    | true =>
      refine ⟨.inl rfl, nofun, fun asks => ?_⟩
      rw [asks.goesOn] at ends
      cases ends
    | false =>
      cases configured : locator.backends.service with
      | none =>
        refine ⟨.inl rfl, nofun, fun asks => ?_⟩
        have present := asks.configured
        simp [configured] at present
      | some ask =>
        simp only [Bool.false_eq_true, if_false, Option.toList_some, List.flatMap_cons,
          List.flatMap_nil, List.append_nil]
        obtain ⟨choice, asked⟩ := Provider.sent_service_visit locator.settings caller ask query
          (Search.locationOf (locator.internalVisits query)) _ rfl
        refine ⟨choice, asked.trans ⟨?_, ?_⟩⟩
        · rintro ⟨permitted, evidence, inaccurate⟩
          exact ⟨rfl, by simp [configured], permitted, evidence, inaccurate, ends⟩
        · intro asks
          exact ⟨asks.permitted, asks.evidence, asks.inaccurate⟩

/-- A search sends nothing but the request of its query, and that exactly when it asks the service.
The policy flags only matter for what the engine's own providers come to. -/
theorem sent_locate_iff (locator : Locator) (caller : Caller) (wanted : Yield) (query : Query) :
    let sent := (locator.locate caller wanted query).sent
    (sent = [] ∨ sent = [.ofQuery query]) ∧
      (sent = [.ofQuery query] ↔ locator.Asks caller wanted query) ∧
      ∀ policy,
        let other : Query := { query with policy }
        Search.locationOf (locator.internalVisits other) =
            Search.locationOf (locator.internalVisits query) →
          locator.endsInternally other = locator.endsInternally query →
          (locator.locate caller wanted other).sent = sent := by
  obtain ⟨choice, asked⟩ := sent_locate locator caller wanted query
  refine ⟨choice, asked, ?_⟩
  intro policy other sameBest sameEnd
  have sameAsks : locator.Asks caller wanted other ↔ locator.Asks caller wanted query := by
    constructor
    · rintro ⟨position, configured, permitted, evidence, inaccurate, goesOn⟩
      exact ⟨position, configured, permitted, evidence, sameBest ▸ inaccurate, sameEnd ▸ goesOn⟩
    · rintro ⟨position, configured, permitted, evidence, inaccurate, goesOn⟩
      exact ⟨position, configured, permitted, evidence, sameBest ▸ inaccurate, sameEnd ▸ goesOn⟩
  obtain ⟨otherChoice, otherAsked⟩ := sent_locate locator caller wanted other
  have sameRequest : ServiceRequest.ofQuery other = .ofQuery query := rfl
  rw [sameRequest] at otherChoice otherAsked
  by_cases asks : locator.Asks caller wanted query
  · exact (otherAsked.mpr (sameAsks.mpr asks)).trans (asked.mpr asks).symm
  · have silent := choice.resolve_right (mt asked.mp asks)
    exact (otherChoice.resolve_right (mt otherAsked.mp (mt sameAsks.mp asks))).trans silent.symm

end Locator

end Geolocation
