import Geolocation.Proofs.Search.Visits

/-!
# Outages and skipped providers

A search is as if the providers that it skipped, and those that could not answer in time, had never
been in its chain. What they leave behind is a counter and a fault of their own, and what their
gates reported.

The proof runs the original chain and what is left of it side by side. A visit that contributes no
candidate changes neither the best location nor whether the search ends, so both runs meet every
other provider with the same best location, and end at the same one.
-/

namespace Geolocation

/-- Does the visit contribute a candidate, that is, did the provider run and was it no outage? -/
def Visit.contributes (visit : Visit) : Bool :=
  match visit.verdict with
  | .skipped | .unavailable _ => false
  | .faulted _ | .answered _ => true

theorem Visit.candidate?_eq_none {visit : Visit} (lost : visit.contributes = false) :
    visit.verdict.candidate? = none := by
  cases ended : visit.verdict <;> simp_all [contributes, Verdict.candidate?]

/-- The chain without the providers whose visits contributed nothing. Providers that were not
visited stay. -/
def Search.contributors : List Provider → List Visit → List Provider
  | chain, [] => chain
  | [], _ => []
  | provider :: chain, visit :: visits =>
    if visit.contributes then provider :: contributors chain visits else contributors chain visits

/-- The fault with which an attempt ends in an outage. -/
inductive Provider.Outage (provider : Provider) (settings : Settings.Search) (query : Query) :
    Fault → Prop where
  | late (late : provider.limit.getD settings.timeLimit < (provider.attempt query).delay) :
      Outage provider settings query (.unavailable provider.profile.name
        ("timed out after " ++ toString (provider.limit.getD settings.timeLimit) ++ "ms"))
  | failed {name reason : String}
      (inTime : (provider.attempt query).delay ≤ provider.limit.getD settings.timeLimit)
      (failed : (provider.attempt query).outcome = .error (.unavailable name reason)) :
      Outage provider settings query (.unavailable name reason)

/-- What a visit that contributes nothing leaves behind, given what its gate decided. -/
inductive Visit.Loss (settings : Settings.Search) (caller : Caller) (query : Query)
    (provider : Provider) (gate : Gate) (visit : Visit) : Prop where
  | skipped (closed : gate.isOpen = false) (metrics : visit.metrics caller = [])
      (faults : visit.faults = gate.fault.toList)
  | outage {fault : Fault} {metric : Metric} (opened : gate.isOpen = true)
      (outage : provider.Outage settings query fault) (metrics : visit.metrics caller = [metric])
      (named : metric.name = provider.profile.name ++ "_unavailable")
      (faults : visit.faults = gate.fault.toList ++ [fault])

namespace Search

variable {settings : Settings.Search} {query : Query}

/-! ### One visit -/

/-- Only a closed gate or an outage keeps a visit from contributing. -/
theorem loss_of_visit (caller : Caller) (provider : Provider) (best : Location)
    (lost : (provider.visit settings query best).contributes = false) :
    Visit.Loss settings caller query provider (provider.gate query best)
      (provider.visit settings query best) := by
  cases opened : (provider.gate query best).isOpen with
  | false =>
    rw [Provider.visit_of_closed opened]
    exact .skipped opened rfl (List.append_nil _)
  | true =>
    rw [Provider.visit_of_open opened] at lost ⊢
    have ended : provider.EndsIn settings query _ := provider.endsIn_timely
    generalize provider.timely settings (provider.attempt query) = result at lost ended ⊢
    cases ended with
    | late late => exact .outage opened (.late late) rfl rfl rfl
    | inTime inTime =>
      cases outcome : (provider.attempt query).outcome with
      | ok location => simp [outcome, Verdict.ofOutcome, Visit.contributes] at lost
      | error fault =>
        rw [outcome] at lost
        -- A fault that is no outage counts as a search that found nothing, and contributes that.
        cases outage : fault.isOutage with
        | false => simp [outage, Verdict.ofOutcome, Visit.contributes] at lost
        | true =>
          obtain ⟨name, reason, rfl⟩ := Fault.isOutage_iff.mp outage
          exact .outage opened (.failed inTime outcome) rfl rfl rfl

/-! ### The two runs -/

theorem improve_of_not_contributes {visit : Visit} (lost : visit.contributes = false)
    (best : Location) : improve best visit.verdict = best :=
  improve_of_none (Visit.candidate?_eq_none lost) best

/-- A visit that ends a search contributes. -/
theorem contributes_of_endsWith {visit : Visit} {best : Location}
    (ends : endsWith settings best visit.verdict = true) : visit.contributes = true := by
  cases lost : visit.contributes with
  | true => rfl
  | false => simp [endsWith, Visit.candidate?_eq_none lost] at ends

/-- What is left of a chain is visited as it was in the whole chain. -/
theorem visitsFrom_contributors (chain : List Provider) (best : Location) :
    visitsFrom settings query best (contributors chain (visitsFrom settings query best chain)) =
      (visitsFrom settings query best chain).filter Visit.contributes := by
  induction chain generalizing best with
  | nil => rfl
  | cons provider rest ih =>
    cases ends : endsWith settings best (provider.visit settings query best).verdict with
    | true =>
      have kept := contributes_of_endsWith ends
      rw [visitsFrom_cons_of_ends ends]
      simp [contributors, kept, visitsFrom_cons_of_ends ends]
    | false =>
      rw [visitsFrom_cons_of_goesOn ends]
      -- Either both runs make the visit, or it leaves the best location for the rest as it is.
      cases kept : (provider.visit settings query best).contributes with
      | true =>
        simp only [contributors, kept, if_true, List.filter_cons]
        rw [visitsFrom_cons_of_goesOn ends, ih]
      | false =>
        rw [improve_of_not_contributes kept]
        simp only [contributors, kept, Bool.false_eq_true, if_false, List.filter_cons]
        exact ih best

theorem candidates_filter_contributes (visits : List Visit) :
    candidates (visits.filter Visit.contributes) = candidates visits := by
  induction visits with
  | nil => rfl
  | cons visit rest ih =>
    simp only [candidates] at ih
    cases kept : visit.contributes with
    | true => simp [candidates, kept, List.filterMap_cons, ih]
    | false => simp [candidates, kept, ih, Visit.candidate?_eq_none kept]

theorem locationOf_filter_contributes (visits : List Visit) :
    locationOf (visits.filter Visit.contributes) = locationOf visits := by
  rw [locationOf_eq_foldl_merge, candidates_filter_contributes, ← locationOf_eq_foldl_merge]

end Search

/-! ### Reports of gates -/

theorem Query.eq_malformedPolicy_of_flag {query : Query} {name : String} {fault : Fault}
    (failed : query.flag name = .error fault) : ∃ text, fault = .malformedPolicy text := by
  unfold Query.flag at failed
  split at failed <;> cases failed
  exact ⟨_, rfl⟩

/-- The policy flags close a gate in silence. They are reported only for being malformed, and then
the gate is open. -/
theorem Profile.fault_policyGate {profile : Profile} {query : Query} {fault : Fault}
    (reported : (profile.policyGate query).fault = some fault) :
    (profile.policyGate query).isOpen = true ∧ ∃ text, fault = .malformedPolicy text := by
  unfold Profile.policyGate at reported ⊢
  split at reported
  · cases reported
  next name flagged =>
    split at reported
    · cases reported
    · cases reported
    next cause failed =>
      cases reported
      exact ⟨rfl, Query.eq_malformedPolicy_of_flag failed⟩

namespace Search

/-! ### Main result -/

/-- The providers that were skipped or out of service can be left out of a chain: the search gives
the same location, and its counters and faults are those of all visits but theirs. Each of theirs is
accounted for, and what the policy flags make a gate report is that they are malformed. All of the chain
is visited unless a position is found that is accurate enough. -/
theorem run_contributors (settings : Settings.Search) (caller : Caller) (chain : List Provider)
    (query : Query) :
    let original := visits settings chain query
    let rest := run settings caller (contributors chain original) query
    rest.location = (run settings caller chain query).location ∧
      (run settings caller chain query).metrics = original.flatMap (Visit.metrics caller) ∧
      rest.metrics = (original.filter Visit.contributes).flatMap (Visit.metrics caller) ∧
      (run settings caller chain query).faults = original.flatMap Visit.faults ∧
      rest.faults = (original.filter Visit.contributes).flatMap Visit.faults ∧
      (∀ pair ∈ chain.zip original, pair.2.contributes = false →
        ∃ best, Visit.Loss settings caller query pair.1 (pair.1.gate query best) pair.2) ∧
      (original.length = chain.length ∨ ∃ threshold, settings.earlyExit = some threshold ∧
        Suffices threshold (run settings caller chain query).location) ∧
      ∀ provider ∈ chain, ∀ best fault,
        provider.gate query best = provider.profile.policyGate query →
          (provider.gate query best).fault = some fault →
            (provider.gate query best).isOpen = true ∧ ∃ text, fault = .malformedPolicy text := by
  intro original rest
  have revisited : visits settings (contributors chain original) query =
      original.filter Visit.contributes := visitsFrom_contributors chain (.empty false)
  have rerun : rest = .ofVisits caller (original.filter Visit.contributes) := by
    simp only [rest, run, revisited]
  rw [rerun]
  refine ⟨locationOf_filter_contributes original, rfl, rfl, rfl, rfl, ?_,
    length_visits_or settings caller chain query, ?_⟩
  · rintro ⟨provider, visit⟩ member lost
    obtain ⟨best, rfl⟩ := visit_of_mem_zip member
    exact ⟨best, loss_of_visit caller provider best lost⟩
  · intro provider _ best fault policy reported
    rw [policy] at reported ⊢
    exact Profile.fault_policyGate reported

end Search

end Geolocation
