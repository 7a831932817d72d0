import Geolocation.Proofs.Provider.Attempts
import Geolocation.Proofs.Search.Disclosure
import Geolocation.Proofs.Search.Noninterference
import Geolocation.Proofs.Search.Outage

/-!
# Nothing to look for, and nothing found

A search that finds nothing tells whether there was anything to look for. There was, exactly if some
source was asked for evidence of the query and gave an answer in time, be it one that leads nowhere. A
source that is out of service, a flag that forbids it and evidence that is missing all count as nothing
to look for.

As long as nothing is found a search goes on, every gate decides as it does at the start, and each
candidate raises the flag of the best location or leaves it as it is. So the flag is raised by one of the
providers, each seen alone. A provider that gets an answer from its source finds something or puts up
that it searched; there is no third way.

Main result: `Locator.empty_searched_iff`.
-/

namespace Geolocation

/-- The reply is an answer that comes within so many milliseconds. -/
def Reply.Arrives {α : Type} (reply : Reply α) (limit : Nat) : Prop :=
  (∃ answer, reply.answer = .ok answer) ∧ reply.delay ≤ limit

/-! ### Candidates while nothing is found -/

theorem Location.merge_eq_empty_iff {best candidate : Location} {searched : Bool} :
    best.merge candidate = .empty searched ↔
      ∃ earlier, best = .empty earlier ∧ candidate.isFound = false ∧
        (searched = true ↔ earlier = true ∨ candidate = .empty true) := by
  cases best with
  | empty earlier =>
    cases candidate with
    | empty later => cases earlier <;> cases later <;> cases searched <;> simp [merge_empty_empty, isFound]
    | position p => simp [merge_empty_position, isFound]
    | country c =>
      rw [merge_empty_country]
      by_cases coded : c.code = "" <;> cases earlier <;> cases searched <;> simp [coded, isFound]
  | position p =>
    cases candidate with
    | empty later => simp [merge_position_empty]
    | position q =>
      rw [merge_position_position]
      split <;> simp
    | country c => simp [merge_position_country]
  | country c =>
    cases candidate with
    | empty later => simp [merge_country_empty]
    | position q => simp [merge_country_position]
    | country d =>
      rw [merge_country_country]
      split <;> simp

namespace Provider

/-- What the provider puts up for comparison when nothing has been found before it. -/
def firstCandidate? (provider : Provider) (settings : Settings.Search) (query : Query) :
    Option Location :=
  (provider.visit settings query (.empty false)).verdict.candidate?

/-- An empty best location, searched or not, makes no difference to the provider. -/
def IgnoresEmpty (provider : Provider) (query : Query) : Prop :=
  ∀ searched, provider.gate query (.empty searched) = provider.gate query (.empty false)

theorem IgnoresEmpty.visit {provider : Provider} {query : Query}
    (ignores : provider.IgnoresEmpty query) (settings : Settings.Search) (searched : Bool) :
    provider.visit settings query (.empty searched) = provider.visit settings query (.empty false) := by
  simp only [Provider.visit, ignores searched]

end Provider

namespace Search

variable {settings : Settings.Search} {query : Query}

theorem not_endsWith_of_empty {best : Location} {verdict : Verdict} {searched : Bool}
    (nothing : improve best verdict = .empty searched) : endsWith settings best verdict = false := by
  rw [endsWith, nothing, isEnough]
  simp [Location.source?, Location.provenance?]

theorem improve_eq_empty_iff {best : Location} {verdict : Verdict} {searched : Bool} :
    improve best verdict = .empty searched ↔
      ∃ earlier, best = .empty earlier ∧ (∀ candidate ∈ verdict.candidate?, candidate.isFound = false) ∧
        (searched = true ↔ earlier = true ∨ verdict.candidate? = some (.empty true)) := by
  unfold improve
  cases verdict.candidate? with
  | none => cases searched <;> simp
  | some candidate => simpa using Location.merge_eq_empty_iff

/-- What comes to be empty has been empty all along. -/
theorem empty_of_foldl_improve {visits : List Visit} {best : Location} {searched : Bool}
    (nothing : visits.foldl (fun best visit => improve best visit.verdict) best = .empty searched) :
    ∃ earlier, best = .empty earlier := by
  induction visits generalizing best with
  | nil => exact ⟨searched, nothing⟩
  | cons visit rest ih =>
    obtain ⟨middle, improved⟩ := ih nothing
    obtain ⟨earlier, empty, _⟩ := improve_eq_empty_iff.mp improved
    exact ⟨earlier, empty⟩

/-- A search that finds nothing makes all its visits, and it counts as searched if one of the providers
has it so. -/
theorem searched_of_visitsFrom {chain : List Provider} {earlier searched : Bool}
    (ignores : ∀ provider ∈ chain, provider.IgnoresEmpty query)
    (nothing : (visitsFrom settings query (.empty earlier) chain).foldl
      (fun best visit => improve best visit.verdict) (.empty earlier) = .empty searched) :
    (∀ provider ∈ chain, ∀ candidate ∈ provider.firstCandidate? settings query,
        candidate.isFound = false) ∧
      (searched = true ↔ earlier = true ∨
        ∃ provider ∈ chain, provider.firstCandidate? settings query = some (.empty true)) := by
  -- The flag of the best location is all that one visit hands on to the next.
  induction chain generalizing earlier with
  | nil =>
    cases nothing
    simp
  | cons provider rest ih =>
    obtain ⟨first, others⟩ := List.forall_mem_cons.mp ignores
    have visit := first.visit settings earlier
    -- An early end would need a position, which could not get lost again.
    have improved : ∃ middle,
        improve (.empty earlier) (provider.visit settings query (.empty earlier)).verdict =
          .empty middle := by
      rw [visitsFrom] at nothing
      split at nothing
      · exact ⟨searched, nothing⟩
      · exact empty_of_foldl_improve nothing
    obtain ⟨middle, improved⟩ := improved
    rw [visitsFrom_cons_of_goesOn (not_endsWith_of_empty improved), List.foldl_cons, improved] at nothing
    obtain ⟨unfound, flag⟩ := ih others nothing
    obtain ⟨_, same, unfoundHere, flagHere⟩ := improve_eq_empty_iff.mp improved
    cases same
    rw [visit] at unfoundHere flagHere
    refine ⟨List.forall_mem_cons.mpr ⟨unfoundHere, unfound⟩, ?_⟩
    rw [flag, flagHere, List.exists_mem_cons_iff, or_assoc]
    rfl

end Search

/-! ### Answers that lead nowhere -/

namespace Provider

/-- An outcome that finds something or shows that something was looked for. It is no outage. -/
inductive Conclusive : Except Fault Location → Prop where
  | nothing : Conclusive (.ok (.empty true))
  | found {location : Location} (found : location.isFound = true) : Conclusive (.ok location)
  | faulted {fault : Fault} (noOutage : fault.isOutage = false) : Conclusive (.error fault)

/-- A conclusive outcome in which nothing is found puts up that something was looked for. -/
theorem Conclusive.candidate {outcome : Except Fault Location} (conclusive : Conclusive outcome)
    (unfound : ∀ candidate ∈ (Verdict.ofOutcome outcome).candidate?, candidate.isFound = false) :
    (Verdict.ofOutcome outcome).candidate? = some (.empty true) := by
  cases conclusive with
  | nothing => rfl
  | @found location found =>
    rw [unfound location rfl] at found
    cases found
  | @faulted fault noOutage => simp [Verdict.ofOutcome, noOutage, Verdict.candidate?]

/-- Two steps are conclusive if the first one does not end in an outage and the second one is. -/
theorem Conclusive.bind {α : Type} {first : Except Fault α} {next : α → Except Fault Location}
    (noOutage : ∀ fault, first = .error fault → fault.isOutage = false)
    (conclusive : ∀ middle, Conclusive (next middle)) : Conclusive (first >>= next) := by
  cases first with
  | error fault => exact .faulted (noOutage fault rfl)
  | ok middle => exact conclusive middle

theorem conclusive_locateGroup (profile : Profile) (minimum : Float) (members : List Network) :
    Conclusive (locateGroup profile minimum members) := by
  apply Conclusive.bind
  · intro fault failed
    exact Network.noOutage_of_estimate failed
  · intro _
    exact .found rfl

theorem conclusive_locateWifis (settings : Settings) (found : List Network) :
    Conclusive (locateWifis settings found) := by
  apply Conclusive.bind
  · intro fault failed
    exact (Network.misplaced_of_clusters failed).noOutage
  · intro places
    split
    · exact .nothing
    · exact conclusive_locateGroup _ _ _

theorem conclusive_locateCells (settings : Settings) (asked : List Cell) (found : List Network) :
    Conclusive (locateCells settings asked found) := by
  unfold locateCells
  split
  · exact .nothing
  · exact conclusive_locateGroup _ _ _

theorem conclusive_locateArea (settings : Settings) (found : List Network) :
    Conclusive (locateArea settings found) := by
  unfold locateArea
  split
  · exact .nothing
  · apply Conclusive.bind
    · intro fault failed
      exact Network.noOutage_of_accuracy failed
    · intro _
      exact .found rfl

theorem conclusive_positionOf (settings : Settings) (ip : IpAddress) (record : AddressRecord) :
    Conclusive (positionOf settings ip record) := by
  unfold positionOf
  split
  · apply Conclusive.bind
    · intro fault failed
      exact Network.noOutage_of_accuracy failed
    · intro _
      exact .found rfl
  · exact .nothing

theorem conclusive_locateAddress (settings : Settings) (yields : Yield) (ip : IpAddress)
    (record : Option AddressRecord) : Conclusive (locateAddress settings yields ip record) := by
  cases record with
  | none => exact .nothing
  | some record =>
    cases yields with
    | position => exact conclusive_positionOf settings ip record
    | country =>
      rcases names_of_countryOf record with nothing | ⟨c, country, names⟩
      · simp only [locateAddress, nothing]
        exact .nothing
      · simp only [locateAddress, country]
        exact .found (by simpa [Location.isFound] using names.coded)

/-! ### Providers -/

variable {settings : Settings.Search} {query : Query} {provider : Provider}

theorem isOpen_policyGate_iff (profile : Profile) (query : Query) :
    (profile.policyGate query).isOpen = true ↔ ∀ name ∈ profile.flag, ¬ query.Forbids name := by
  cases flagged : profile.flag with
  | none => simp [Profile.policyGate, flagged]
  | some name =>
    constructor
    · rintro opened _ ⟨⟩
      exact permitted_of_open flagged opened
    · intro permitted
      unfold Profile.policyGate
      simp only [flagged]
      split
      next forbidden => exact absurd forbidden (permitted name rfl)
      · rfl
      · rfl

theorem firstCandidate_of_closed (closed : (provider.gate query (.empty false)).isOpen = false) :
    provider.firstCandidate? settings query = none := by
  rw [firstCandidate?, visit_of_closed closed]
  rfl

theorem firstCandidate_of_open (opened : (provider.gate query (.empty false)).isOpen = true) :
    provider.firstCandidate? settings query =
      (Verdict.ofOutcome (provider.timely settings (provider.attempt query))).candidate? := by
  rw [firstCandidate?, visit_of_open opened]

/-- A provider that has nothing to ask for puts up that nothing was looked for, if anything. -/
theorem firstCandidate_of_idle (idle : provider.attempt query = .now (.empty false)) :
    provider.firstCandidate? settings query ≠ some (.empty true) := by
  cases opened : (provider.gate query (.empty false)).isOpen with
  | false => simp [firstCandidate_of_closed opened]
  | true =>
    rw [firstCandidate_of_open opened, idle]
    simp [timely, Attempt.now, Verdict.ofOutcome, Verdict.candidate?]

/-- A provider that asks a source has searched exactly if it may run and the answer arrives. -/
theorem firstCandidate_of_asking {α : Type} {profile : Profile} {reply : Reply α}
    {next : α → Except Fault Location} (asks : provider.attempt query = .asking profile reply next)
    (conclusive : ∀ answer, Conclusive (next answer))
    (unfound : ∀ candidate ∈ provider.firstCandidate? settings query, candidate.isFound = false) :
    provider.firstCandidate? settings query = some (.empty true) ↔
      (provider.gate query (.empty false)).isOpen = true ∧ reply.Arrives (provider.limitIn settings) := by
  cases opened : (provider.gate query (.empty false)).isOpen with
  | false => simp [firstCandidate_of_closed opened]
  | true =>
    rw [firstCandidate_of_open opened, asks] at unfound ⊢
    have delay : (Attempt.asking profile reply next).delay = reply.delay := by
      unfold Attempt.asking
      split <;> rfl
    by_cases late : provider.limitIn settings < reply.delay
    · -- An attempt that is late is an outage, whatever comes of it.
      have absent : ¬ reply.Arrives (provider.limitIn settings) := fun arrives =>
        absurd arrives.2 (Nat.not_le.mpr late)
      have timedOut : provider.timely settings (.asking profile reply next) =
          .error (provider.timeout settings) := by
        rw [timely, delay, if_pos late]
      rw [timedOut]
      simp only [absent, and_false, iff_false]
      intro located
      cases located
    · rw [timely, delay, if_neg late] at unfound ⊢
      unfold Attempt.asking at unfound ⊢
      cases answered : reply.answer with
      | error fault => simp [Reply.Arrives, answered, Verdict.ofOutcome, Profile.unavailable,
          Fault.isOutage, Verdict.candidate?]
      | ok answer =>
        simp only [answered] at unfound ⊢
        simp [(conclusive answer).candidate unfound, Reply.Arrives, answered, Nat.le_of_not_lt late]

end Provider

/-! ### The sources of a search -/

namespace Locator

/-- The service says that it could not locate, or what it says is neither usable nor an outage. -/
inductive Unlocated : Except Fault (Option ServiceAnswer) → Prop where
  | nothing : Unlocated (.ok none)
  | offEarth {answer : ServiceAnswer} (invalid : answer.place.isValid = false) :
      Unlocated (.ok (some answer))
  | faulted {fault : Fault} (noOutage : ∀ name reason, fault ≠ .unavailable name reason) :
      Unlocated (.error fault)

/-- The address of the query may be looked up, and what is known about it arrives. -/
def SearchesAddress (locator : Locator) (query : Query) : Prop :=
  ∃ ip, query.ip = some ip ∧ ¬ query.Forbids "ipf" ∧
    (locator.backends.address ip).Arrives locator.settings.search.timeLimit

/-- Some source is asked for evidence of the query, and its answer arrives. -/
inductive Searches (locator : Locator) (caller : Caller) (query : Query) : Prop where
  | wifis (enough : max 1 locator.settings.wifi.queryMinimum ≤ query.wifis.length)
      (arrives : (locator.backends.wifis query.wifiKeys).Arrives locator.settings.search.timeLimit)
  | cells (numbered : ∃ sighting ∈ query.cells, sighting.cid.isSome = true)
      (arrives : (locator.backends.cells query.numberedCells).Arrives locator.settings.search.timeLimit)
  | areas (seen : query.cells ≠ []) (permitted : ¬ query.Forbids "lacf")
      (arrives : (locator.backends.areas query.areas).Arrives locator.settings.search.timeLimit)
  | address (searches : locator.SearchesAddress query)
  | service {ask : Service} (configured : locator.backends.service = some ask)
      (permitted : caller.mayAskService = true)
      (evidence : (ServiceRequest.ofQuery query).isEmpty = false)
      (inTime : (ask (.ofQuery query)).delay ≤ locator.settings.service.timeLimit)
      (unlocated : Unlocated (ask (.ofQuery query)).answer)

variable {locator : Locator} {caller : Caller} {query : Query}

/-! Each provider has searched exactly if its own source was asked and answered. -/

theorem searched_wifi
    (unfound : ∀ candidate ∈ (Provider.wifi locator.settings locator.backends.wifis).firstCandidate?
      locator.settings.search query, candidate.isFound = false) :
    (Provider.wifi locator.settings locator.backends.wifis).firstCandidate?
        locator.settings.search query = some (.empty true) ↔
      max 1 locator.settings.wifi.queryMinimum ≤ query.wifis.length ∧
        (locator.backends.wifis query.wifiKeys).Arrives locator.settings.search.timeLimit := by
  by_cases enough : max 1 locator.settings.wifi.queryMinimum ≤ query.wifis.length
  · rw [Provider.firstCandidate_of_asking (Provider.attempt_wifi_of_enough _ enough)
      (Provider.conclusive_locateWifis locator.settings) unfound]
    -- Access points have no flag.
    exact and_congr_left' ⟨fun _ => enough, fun _ => rfl⟩
  · have idle := Provider.attempt_wifi_of_few locator.backends.wifis (not_le.mp enough)
    simp [Provider.firstCandidate_of_idle idle, enough]

theorem searched_cell
    (unfound : ∀ candidate ∈ (Provider.cell locator.settings locator.backends.cells).firstCandidate?
      locator.settings.search query, candidate.isFound = false) :
    (Provider.cell locator.settings locator.backends.cells).firstCandidate?
        locator.settings.search query = some (.empty true) ↔
      (∃ sighting ∈ query.cells, sighting.cid.isSome = true) ∧
        (locator.backends.cells query.numberedCells).Arrives locator.settings.search.timeLimit := by
  by_cases numbered : ∃ sighting ∈ query.cells, sighting.cid.isSome = true
  · have some : query.numberedCells ≠ [] := fun nothing =>
      query.numberedCells_eq_nil_iff.mp nothing numbered
    rw [Provider.firstCandidate_of_asking (Provider.attempt_cell_of_some _ _ some)
      (Provider.conclusive_locateCells locator.settings query.numberedCells) unfound]
    exact and_congr_left' ⟨fun _ => numbered, fun _ => rfl⟩
  · have nothing := query.numberedCells_eq_nil_iff.mpr numbered
    have idle := Provider.attempt_cell_of_nil locator.settings locator.backends.cells nothing
    simp [Provider.firstCandidate_of_idle idle, numbered]

theorem searched_area
    (unfound : ∀ candidate ∈ (Provider.area locator.settings locator.backends.areas).firstCandidate?
      locator.settings.search query, candidate.isFound = false) :
    (Provider.area locator.settings locator.backends.areas).firstCandidate?
        locator.settings.search query = some (.empty true) ↔
      query.cells ≠ [] ∧ ¬ query.Forbids "lacf" ∧
        (locator.backends.areas query.areas).Arrives locator.settings.search.timeLimit := by
  by_cases seen : query.cells = []
  · have nothing := query.areas_eq_nil_iff.mpr seen
    have idle := Provider.attempt_area_of_nil locator.settings locator.backends.areas nothing
    simp [Provider.firstCandidate_of_idle idle, seen]
  · have some : query.areas ≠ [] := fun nothing => seen (query.areas_eq_nil_iff.mp nothing)
    rw [Provider.firstCandidate_of_asking (Provider.attempt_area_of_some _ _ some)
      (Provider.conclusive_locateArea locator.settings) unfound]
    have gate : ((Provider.area locator.settings locator.backends.areas).gate query
        (.empty false)).isOpen = true ↔ ¬ query.Forbids "lacf" :=
      (Provider.isOpen_policyGate_iff _ query).trans (by simp [Provider.areaProfile])
    rw [gate]
    exact (and_iff_right seen).symm

theorem searched_address (yields : Yield)
    (unfound : ∀ candidate ∈ (Provider.address locator.settings yields
      locator.backends.address).firstCandidate? locator.settings.search query,
        candidate.isFound = false) :
    (Provider.address locator.settings yields locator.backends.address).firstCandidate?
        locator.settings.search query = some (.empty true) ↔ locator.SearchesAddress query := by
  cases parsed : query.ip with
  | none =>
    have idle :=
      Provider.attempt_address_of_none locator.settings yields locator.backends.address parsed
    simp [Provider.firstCandidate_of_idle idle, SearchesAddress, parsed]
  | some ip =>
    rw [Provider.firstCandidate_of_asking (Provider.attempt_address_of_some _ _ _ parsed)
      (Provider.conclusive_locateAddress locator.settings yields ip) unfound]
    have gate : ((Provider.address locator.settings yields locator.backends.address).gate query
        (.empty false)).isOpen = true ↔ ¬ query.Forbids "ipf" :=
      (Provider.isOpen_policyGate_iff _ query).trans (by simp [Provider.addressProfile])
    rw [gate]
    simp [SearchesAddress, parsed, Provider.limitIn, Provider.address]

/-- An answer that is refused for its place is no outage; one refused for its accuracy is. -/
theorem isOutage_of_acceptAnswer {answer : ServiceAnswer} {fault : Fault}
    (refused : Provider.acceptAnswer answer = .error fault) :
    fault.isOutage = false ↔ answer.place.isValid = false := by
  rcases error_of_bind refused with offEarth | ⟨_, checked, unusable⟩
  · have invalid : answer.place.isValid = false := (Coordinate.check_eq_error offEarth).1
    simp [(Coordinate.misplaced_of_check offEarth).noOutage, invalid]
  · rw [Coordinate.isValid_of_check checked]
    split at unusable <;> cases unusable
    simp [Profile.unavailable, Fault.isOutage]

/-- What a reply of the service puts up, if it finds nothing. -/
theorem candidate_of_acceptReply {reply : Except Fault (Option ServiceAnswer)}
    (unfound : ∀ candidate ∈ (Verdict.ofOutcome (Provider.acceptReply reply)).candidate?,
      candidate.isFound = false) :
    (Verdict.ofOutcome (Provider.acceptReply reply)).candidate? = some (.empty true) ↔
      Unlocated reply := by
  have faulty (fault : Fault) : (Verdict.ofOutcome (.error fault)).candidate? = some (.empty true) ↔
      fault.isOutage = false := by
    cases outage : fault.isOutage <;> simp [Verdict.ofOutcome, outage, Verdict.candidate?]
  cases reply with
  | error fault =>
    rw [Provider.acceptReply, faulty, Fault.isOutage_eq_false_iff]
    constructor
    · exact .faulted
    · intro unlocated
      cases unlocated with
      | faulted noOutage => exact noOutage
  | ok told =>
    cases told with
    | none => exact ⟨fun _ => .nothing, fun _ => rfl⟩
    | some answer =>
      rw [Provider.acceptReply] at unfound ⊢
      cases outcome : Provider.acceptAnswer answer with
      | ok location =>
        -- An answer that is accepted is a position, which is found.
        obtain ⟨_, rfl⟩ := Provider.acceptAnswer_eq_ok_iff.mp outcome
        rw [outcome] at unfound
        cases unfound _ rfl
      | error fault =>
        rw [faulty, isOutage_of_acceptAnswer outcome]
        constructor
        · exact .offEarth
        · rintro ⟨⟩
          assumption

theorem searched_service {ask : Service}
    (unfound : ∀ candidate ∈ (Provider.service locator.settings caller ask).firstCandidate?
      locator.settings.search query, candidate.isFound = false) :
    (Provider.service locator.settings caller ask).firstCandidate? locator.settings.search query =
        some (.empty true) ↔
      caller.mayAskService = true ∧ (ServiceRequest.ofQuery query).isEmpty = false ∧
        (ask (.ofQuery query)).delay ≤ locator.settings.service.timeLimit ∧
        Unlocated (ask (.ofQuery query)).answer := by
  have gate := Provider.isOpen_service_gate locator.settings caller ask query (.empty false)
  cases permitted : caller.mayAskService with
  | false =>
    have closed : ((Provider.service locator.settings caller ask).gate query (.empty false)).isOpen =
        false := by
      rw [Bool.eq_false_iff, Ne, gate, permitted]
      simp
    simp [Provider.firstCandidate_of_closed closed]
  | true =>
    have opened : ((Provider.service locator.settings caller ask).gate query (.empty false)).isOpen =
        true := gate.mpr ⟨permitted, nofun⟩
    cases evidence : (ServiceRequest.ofQuery query).isEmpty with
    | true =>
      have idle : (Provider.service locator.settings caller ask).attempt query =
          .now (.empty false) := if_pos evidence
      simp [Provider.firstCandidate_of_idle idle]
    | false =>
      have asks : (Provider.service locator.settings caller ask).attempt query =
          ⟨Provider.acceptReply (ask (.ofQuery query)).answer, (ask (.ofQuery query)).delay,
            [.ofQuery query]⟩ := if_neg (by simp [evidence])
      have limit : (Provider.service locator.settings caller ask).limitIn locator.settings.search =
          locator.settings.service.timeLimit := rfl
      rw [Provider.firstCandidate_of_open opened, asks, Provider.timely, limit] at unfound ⊢
      by_cases late : locator.settings.service.timeLimit < (ask (.ofQuery query)).delay
      · have early : ¬ (ask (.ofQuery query)).delay ≤ locator.settings.service.timeLimit :=
          Nat.not_le.mpr late
        simp only [if_pos late, early, false_and, and_false, iff_false]
        intro located
        cases located
      · rw [if_neg late] at unfound ⊢
        rw [candidate_of_acceptReply unfound]
        simp [Nat.le_of_not_lt late]

/-! ### Main result -/

theorem ignoresEmpty_of_mem_chain {wanted : Yield} {provider : Provider}
    (member : provider ∈ locator.chain caller wanted) : provider.IgnoresEmpty query := by
  intro searched
  rcases provider_of_mem_chain member with rfl | rfl | rfl | ⟨yields, rfl⟩ | ⟨ask, _, rfl⟩ <;> rfl

/-- A search for a position that finds nothing has searched exactly if one of its sources was asked for
evidence of the query and answered in time; a search for a country, exactly if the address was looked
up. -/
theorem empty_searched_iff (locator : Locator) (caller : Caller) (query : Query) (searched : Bool) :
    ((locator.locate caller .position query).location = .empty searched →
        (searched = true ↔ locator.Searches caller query)) ∧
      ((locator.locate caller .country query).location = .empty searched →
        (searched = true ↔ locator.SearchesAddress query)) := by
  have apart {wanted : Yield} (nothing : (locator.locate caller wanted query).location = .empty searched) :
      (∀ provider ∈ locator.chain caller wanted,
        ∀ candidate ∈ provider.firstCandidate? locator.settings.search query,
          candidate.isFound = false) ∧
        (searched = true ↔ ∃ provider ∈ locator.chain caller wanted,
          provider.firstCandidate? locator.settings.search query = some (.empty true)) := by
    have ignores : ∀ provider ∈ locator.chain caller wanted, provider.IgnoresEmpty query :=
      fun _ => ignoresEmpty_of_mem_chain
    simpa using Search.searched_of_visitsFrom ignores nothing
  constructor
  · intro nothing
    obtain ⟨unfound, flag⟩ := apart nothing
    rw [flag]
    have wifi := searched_wifi (unfound _ (by simp [chain, internalChain]))
    have cell := searched_cell (unfound _ (by simp [chain, internalChain]))
    have area := searched_area (unfound _ (by simp [chain, internalChain]))
    have address := searched_address .position (unfound _ (by simp [chain, internalChain]))
    have service (ask : Service) (configured : locator.backends.service = some ask) :=
      searched_service (unfound (.service locator.settings caller ask)
        (by simp [chain, configured]))
    constructor
    · rintro ⟨provider, member, put⟩
      simp only [chain, internalChain, List.cons_append, List.nil_append, List.mem_cons,
        List.mem_map, Option.mem_toList] at member
      rcases member with rfl | rfl | rfl | rfl | ⟨ask, configured, rfl⟩
      · obtain ⟨enough, arrives⟩ := wifi.mp put
        exact .wifis enough arrives
      · obtain ⟨numbered, arrives⟩ := cell.mp put
        exact .cells numbered arrives
      · obtain ⟨seen, permitted, arrives⟩ := area.mp put
        exact .areas seen permitted arrives
      · exact .address (address.mp put)
      · obtain ⟨permitted, evidence, inTime, unlocated⟩ := (service ask configured).mp put
        exact .service configured permitted evidence inTime unlocated
    · intro searches
      cases searches with
      | wifis enough arrives =>
        exact ⟨_, by simp [chain, internalChain], wifi.mpr ⟨enough, arrives⟩⟩
      | cells numbered arrives =>
        exact ⟨_, by simp [chain, internalChain], cell.mpr ⟨numbered, arrives⟩⟩
      | areas seen permitted arrives =>
        exact ⟨_, by simp [chain, internalChain], area.mpr ⟨seen, permitted, arrives⟩⟩
      | address searches => exact ⟨_, by simp [chain, internalChain], address.mpr searches⟩
      | @service ask configured permitted evidence inTime unlocated =>
        exact ⟨.service locator.settings caller ask, by simp [chain, configured],
          (service ask configured).mpr ⟨permitted, evidence, inTime, unlocated⟩⟩
  · intro nothing
    obtain ⟨unfound, flag⟩ := apart nothing
    simp only [chain, List.mem_singleton, exists_eq_left] at flag
    exact flag.trans (searched_address .country (unfound _ (by simp [chain])))

/-- An area that is not known has been searched for; without an address there is no country to look
for. -/
theorem searched_unknown_area :
    let locator := Locator.mk {} (knowingCell (.now (.ok [])) (.now (.ok none)))
    (locator.locate stranger .position towerSeen).location = .empty true ∧
      locator.Searches stranger towerSeen ∧
      (locator.locate stranger .country towerSeen).location = .empty false ∧
      ¬ locator.SearchesAddress towerSeen := by
  intro locator
  have position : (locator.locate stranger .position towerSeen).location = .empty true := by decide
  have country : (locator.locate stranger .country towerSeen).location = .empty false := by decide
  exact ⟨position, ((empty_searched_iff _ _ _ _).1 position).mp rfl, country,
    fun searches => Bool.false_ne_true (((empty_searched_iff _ _ _ _).2 country).mpr searches)⟩

end Locator

end Geolocation
