import Geolocation.Search.Basic

/-!
# Visits of a search

How the visits of a search come about: an attempt counts up to its time limit, a chain is visited as
its parts are, one after the other, unless the search ends early in the first part, and only visits that
leave a candidate change the best location.
-/

namespace Geolocation

variable {settings : Settings.Search} {query : Query}

/-! ### One visit -/

theorem Provider.visit_of_closed {provider : Provider} {best : Location}
    (closed : (provider.gate query best).isOpen = false) :
    provider.visit settings query best =
      ⟨provider.profile, (provider.gate query best).fault, .skipped, []⟩ := by
  simp [visit, closed]

theorem Provider.visit_of_open {provider : Provider} {best : Location}
    (opened : (provider.gate query best).isOpen = true) :
    provider.visit settings query best =
      ⟨provider.profile, (provider.gate query best).fault,
        .ofOutcome (provider.timely settings (provider.attempt query)),
        (provider.attempt query).sent⟩ := by
  simp [visit, opened]

/-- What an attempt of the provider ends in: its own outcome up to the limit, and behind that the outage
of being late. The provider's own limit counts before the one of all searches. -/
inductive Provider.EndsIn (provider : Provider) (settings : Settings.Search) (query : Query) :
    Except Fault Location → Prop where
  | inTime (inTime : (provider.attempt query).delay ≤ provider.limit.getD settings.timeLimit) :
      EndsIn provider settings query (provider.attempt query).outcome
  | late (late : provider.limit.getD settings.timeLimit < (provider.attempt query).delay) :
      EndsIn provider settings query (.error (.unavailable provider.profile.name
        ("timed out after " ++ toString (provider.limit.getD settings.timeLimit) ++ "ms")))

theorem Provider.endsIn_timely (provider : Provider) :
    provider.EndsIn settings query (provider.timely settings (provider.attempt query)) := by
  unfold timely
  split
  next late => exact .late late
  next inTime => exact .inTime (Nat.le_of_not_lt inTime)

theorem Provider.endsIn_iff {provider : Provider} {result : Except Fault Location} :
    provider.EndsIn settings query result ↔
      provider.timely settings (provider.attempt query) = result := by
  constructor
  · intro ended
    cases ended with
    | inTime inTime => exact if_neg (Nat.not_lt_of_le inTime)
    | late late => exact if_pos late
  · rintro rfl
    exact provider.endsIn_timely

theorem Provider.profile_visit (provider : Provider) (best : Location) :
    (provider.visit settings query best).profile = provider.profile := by
  cases opened : (provider.gate query best).isOpen with
  | false => rw [visit_of_closed opened]
  | true => rw [visit_of_open opened]

namespace Search

/-! ### Candidates -/

/-- The locations that visits put up for comparison, in order. -/
def candidates (visits : List Visit) : List Location := visits.filterMap (·.verdict.candidate?)

/-- The best location of visits is what their candidates merge to. -/
theorem foldl_improve (visits : List Visit) (best : Location) :
    visits.foldl (fun best visit => improve best visit.verdict) best =
      (candidates visits).foldl Location.merge best := by
  induction visits generalizing best with
  | nil => rfl
  | cons visit rest ih =>
    rw [List.foldl_cons, ih]
    cases found : visit.verdict.candidate? <;> simp [candidates, improve, found]

theorem locationOf_eq_foldl_merge (visits : List Visit) :
    locationOf visits = (candidates visits).foldl Location.merge (.empty false) :=
  foldl_improve visits (.empty false)

/-- A verdict without a candidate leaves the best location alone. -/
theorem improve_of_none {verdict : Verdict} (none : verdict.candidate? = none) (best : Location) :
    improve best verdict = best := by
  simp [improve, none]

/-! ### Chains -/

theorem visitsFrom_cons_of_ends {provider : Provider} {best : Location}
    (ends : endsWith settings best (provider.visit settings query best).verdict = true)
    (rest : List Provider) :
    visitsFrom settings query best (provider :: rest) = [provider.visit settings query best] := by
  simp [visitsFrom, ends]

theorem visitsFrom_cons_of_goesOn {provider : Provider} {best : Location}
    (goesOn : endsWith settings best (provider.visit settings query best).verdict = false)
    (rest : List Provider) :
    visitsFrom settings query best (provider :: rest) =
      provider.visit settings query best ::
        visitsFrom settings query
          (improve best (provider.visit settings query best).verdict) rest := by
  simp [visitsFrom, goesOn]

theorem visitsFrom_singleton (provider : Provider) (best : Location) :
    visitsFrom settings query best [provider] = [provider.visit settings query best] := by
  cases ends : endsWith settings best (provider.visit settings query best).verdict with
  | true => exact visitsFrom_cons_of_ends ends []
  | false => exact visitsFrom_cons_of_goesOn ends []

/-- Each visit of a search is one of its providers, with the best location of that moment. -/
theorem visit_of_mem_zip {chain : List Provider} {best : Location} {provider : Provider} {visit : Visit}
    (member : (provider, visit) ∈ chain.zip (visitsFrom settings query best chain)) :
    ∃ current, visit = provider.visit settings query current := by
  induction chain generalizing best with
  | nil => simp at member
  | cons first rest ih =>
    cases ends : endsWith settings best (first.visit settings query best).verdict with
    | true =>
      rw [visitsFrom_cons_of_ends ends, List.zip_cons_cons, List.zip_nil_right,
        List.mem_singleton] at member
      obtain ⟨rfl, rfl⟩ := Prod.mk.inj member
      exact ⟨best, rfl⟩
    | false =>
      rw [visitsFrom_cons_of_goesOn ends, List.zip_cons_cons, List.mem_cons] at member
      rcases member with here | later
      · obtain ⟨rfl, rfl⟩ := Prod.mk.inj here
        exact ⟨best, rfl⟩
      · exact ih later

/-- Visits follow the chain without gaps, each with the best location of the visits before it. -/
theorem visit_of_split {chain : List Provider} {best : Location} {before after : List Visit}
    {visit : Visit} (split : visitsFrom settings query best chain = before ++ visit :: after) :
    ∃ provider, chain[before.length]? = some provider ∧ visit = provider.visit settings query
      (before.foldl (fun best visit => improve best visit.verdict) best) := by
  -- The first visit moves from the chain to those before, along with what it does to the best location.
  induction chain generalizing best before with
  | nil => simp [visitsFrom] at split
  | cons provider rest ih =>
    cases ends : endsWith settings best (provider.visit settings query best).verdict with
    | true =>
      rw [visitsFrom_cons_of_ends ends] at split
      cases before with
      | nil => exact ⟨provider, rfl, (List.cons.inj split).1.symm⟩
      | cons earlier before => simp at split
    | false =>
      rw [visitsFrom_cons_of_goesOn ends] at split
      cases before with
      | nil => exact ⟨provider, rfl, (List.cons.inj split).1.symm⟩
      | cons earlier before =>
        obtain ⟨rfl, later⟩ := List.cons.inj split
        exact ih later

theorem provider_of_visit {chain : List Provider} {best : Location} {visit : Visit}
    (member : visit ∈ visitsFrom settings query best chain) :
    ∃ provider ∈ chain, ∃ current, visit = provider.visit settings query current := by
  obtain ⟨before, after, split⟩ := List.append_of_mem member
  obtain ⟨provider, present, visited⟩ := visit_of_split split
  exact ⟨provider, List.mem_of_getElem? present, _, visited⟩

/-- Providers are visited in the order of the chain, each at most once. -/
theorem profiles_sublist (chain : List Provider) (best : Location) :
    ((visitsFrom settings query best chain).map (·.profile)).Sublist (chain.map (·.profile)) := by
  induction chain generalizing best with
  | nil => exact List.Sublist.refl _
  | cons provider rest ih =>
    cases ends : endsWith settings best (provider.visit settings query best).verdict with
    | true =>
      rw [visitsFrom_cons_of_ends ends, List.map_cons, List.map_cons, Provider.profile_visit]
      exact (List.nil_sublist _).cons_cons _
    | false =>
      rw [visitsFrom_cons_of_goesOn ends, List.map_cons, List.map_cons, Provider.profile_visit]
      exact (ih _).cons_cons _

/-! ### Early ends -/

/-- The location is a position of the engine's own, at least as accurate as the threshold. -/
def Suffices (threshold : Float) (location : Location) : Prop :=
  ∃ p, location = .position p ∧ p.provenance.source = .internal ∧ p.accuracy ≤ threshold

theorem isEnough_iff {best : Location} :
    isEnough settings best = true ↔
      ∃ threshold, settings.earlyExit = some threshold ∧ Suffices threshold best := by
  unfold isEnough
  cases settings.earlyExit with
  | none => simp
  | some threshold =>
    cases best with
    | empty searched => simp [Suffices, Location.source?, Location.provenance?]
    | country c => cases source : c.provenance.source <;>
        simp [Suffices, Location.source?, Location.provenance?, Location.accuracy?, source]
    | position p => cases source : p.provenance.source <;>
        simp [Suffices, Location.source?, Location.provenance?, Location.accuracy?, source]

/-- A search that does not visit its whole chain ends with a location that is good enough. -/
theorem length_visitsFrom_or (chain : List Provider) (best : Location) :
    let visits := visitsFrom settings query best chain
    visits.length = chain.length ∨
      isEnough settings (visits.foldl (fun best visit => improve best visit.verdict) best) = true := by
  induction chain generalizing best with
  | nil => exact Or.inl rfl
  | cons provider rest ih =>
    cases ends : endsWith settings best (provider.visit settings query best).verdict with
    | true =>
      -- The search has ended for nothing but that.
      rw [visitsFrom_cons_of_ends ends]
      exact Or.inr (Bool.and_eq_true_iff.mp ends).2
    | false =>
      rw [visitsFrom_cons_of_goesOn ends]
      exact (ih _).imp_left (congrArg (· + 1))

theorem length_visits_or (settings : Settings.Search) (caller : Caller) (chain : List Provider)
    (query : Query) :
    (visits settings chain query).length = chain.length ∨ ∃ threshold,
      settings.earlyExit = some threshold ∧
        Suffices threshold (run settings caller chain query).location :=
  (length_visitsFrom_or chain (.empty false)).imp_right isEnough_iff.mp

/-- Does a search that has come to the best location end early in these visits? -/
def endsWithin (settings : Settings.Search) (best : Location) : List Visit → Bool
  | [] => false
  | visit :: rest =>
    endsWith settings best visit.verdict || endsWithin settings (improve best visit.verdict) rest

/-- A chain is visited as its first part is, and then as the rest is if the search goes on. -/
theorem visitsFrom_append (first second : List Provider) (best : Location) :
    visitsFrom settings query best (first ++ second) =
      let visits := visitsFrom settings query best first
      visits ++
        if endsWithin settings best visits then []
        else visitsFrom settings query
          (visits.foldl (fun best visit => improve best visit.verdict) best) second := by
  -- Each visit of the first part hands its best location on, so the induction is over all of them.
  induction first generalizing best with
  | nil => simp [visitsFrom, endsWithin]
  | cons provider rest ih =>
    cases ends : endsWith settings best (provider.visit settings query best).verdict with
    | true => simp [visitsFrom_cons_of_ends ends, endsWithin, ends]
    | false =>
      rw [List.cons_append, visitsFrom_cons_of_goesOn ends, visitsFrom_cons_of_goesOn ends, ih]
      simp [endsWithin, ends]

end Search

end Geolocation
