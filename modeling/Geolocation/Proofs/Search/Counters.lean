import Geolocation.Proofs.Search.CounterNames
import Geolocation.Proofs.Search.Visits
import Geolocation.Search.Locator
import Mathlib.Data.List.Forall2
import Mathlib.Data.List.Nodup

/-!
# Accounts of counters

Over any sequence of searches each counter says how often one thing happened: that a provider found a
location, that it was out of service, that it found one for a caller whose counters are kept, or that
it looked in vain for one. Nothing else is counted, and the names of callers and whether their counters
are kept change nothing but the counters.

In one search a provider is visited at most once, so a search adds at most one to a counter. Different
counters have different names, so what is counted under a name is counted by one counter.

Main result: `Locator.counted_accounts`.
-/

namespace Geolocation

/-! ### Counting -/

theorem count_filter_eq_if {α : Type} [BEq α] [LawfulBEq α] (keep : α → Bool) (item : α)
    (items : List α) :
    (items.filter keep).count item = if keep item then items.count item else 0 := by
  cases kept : keep item with
  | true => exact List.count_filter kept
  | false =>
    have absent : item ∉ items.filter keep := by simp [kept]
    exact List.count_eq_zero_of_not_mem absent

theorem count_flatMap_of_once {α β : Type} [BEq β] {parts : α → List β} {occurs : α → Bool} {b : β}
    {items : List α}
    (once : ∀ item ∈ items, (parts item).count b = if occurs item then 1 else 0) :
    (items.flatMap parts).count b = items.countP occurs := by
  induction items with
  | nil => rfl
  | cons item rest ih =>
    obtain ⟨here, later⟩ := List.forall_mem_cons.mp once
    rw [List.flatMap_cons, List.count_append, here, ih later, List.countP_cons, Nat.add_comm]

theorem find?_of_nodup {α κ : Type} [DecidableEq κ] {key : α → κ} {items : List α} {item : α}
    (nodup : (items.map key).Nodup) (member : item ∈ items) :
    items.find? (key · = key item) = some item := by
  obtain ⟨other, found⟩ : ∃ other, items.find? (key · = key item) = some other :=
    Option.isSome_iff_exists.mp (List.find?_isSome.mpr ⟨item, member, decide_eq_true rfl⟩)
  have same : key other = key item := by simpa using List.find?_some found
  rw [found, List.inj_on_of_nodup_map nodup (List.mem_of_find?_eq_some found) member same]

theorem countP_of_nodup {α κ : Type} [DecidableEq κ] {key : α → κ} {items : List α}
    (nodup : (items.map key).Nodup) (k : κ) (test : α → Bool) :
    (items.countP fun item => key item = k && test item) =
      if (items.find? (key · = k)).any test then 1 else 0 := by
  induction items with
  | nil => rfl
  | cons item rest ih =>
    rw [List.map_cons, List.nodup_cons] at nodup
    by_cases same : key item = k
    · -- No later item has the key again.
      have others : (rest.countP fun item => key item = k && test item) = 0 := by
        rw [List.countP_eq_zero]
        intro other member
        have different : key other ≠ k := by
          rintro again
          exact nodup.1 (same ▸ again ▸ List.mem_map_of_mem member)
        simp [different]
      simp [List.countP_cons, same, others]
    · simp [same, ih nodup.2]

/-! ### Results of attempts -/

def isHit : Except Fault Location → Bool
  | .ok location => location.isFound
  | .error _ => false

/-- The provider looked for a location and found none, or failed at it. -/
def isMiss : Except Fault Location → Bool
  | .ok location => !location.isFound && location.wasSearched
  | .error fault => !fault.isOutage

/-- Being too late counts as an outage, too. -/
def isLoss : Except Fault Location → Bool
  | .ok _ => false
  | .error fault => fault.isOutage

def Verdict.result? : Verdict → Option (Except Fault Location)
  | .skipped => none
  | .unavailable fault | .faulted fault => some (.error fault)
  | .answered location => some (.ok location)

theorem Verdict.result?_ofOutcome (outcome : Except Fault Location) :
    (ofOutcome outcome).result? = some outcome := by
  cases outcome with
  | ok location => rfl
  | error fault => cases outage : fault.isOutage <;> simp [ofOutcome, result?, outage]

theorem Provider.result?_visit {settings : Settings.Search} {query : Query} (provider : Provider)
    (best : Location) :
    (provider.visit settings query best).verdict.result? =
      if (provider.gate query best).isOpen then
        some (provider.timely settings (provider.attempt query))
      else none := by
  cases opened : (provider.gate query best).isOpen with
  | false =>
    rw [visit_of_closed opened]
    rfl
  | true =>
    rw [visit_of_open opened]
    exact Verdict.result?_ofOutcome _

/-! ### One visit -/

def Metric.tells : Metric → Except Fault Location → Bool
  | .hit _ | .callerHit _ _ => isHit
  | .unavailable _ => isLoss
  | .callerMiss _ _ => isMiss

/-- Does the counter count for all callers, or for this one? -/
def Metric.concerns (metric : Metric) (caller : Caller) : Bool :=
  metric.caller?.all fun name => caller.logged && caller.name = name

def Metric.counts (caller : Caller) (metric : Metric) (visit : Visit) : Bool :=
  metric.concerns caller &&
    (visit.profile.name = metric.provider && visit.verdict.result?.any metric.tells)

/-- All counters that a provider may add to in a search for the caller. -/
def Metric.all (caller : Caller) (provider : String) : List Metric :=
  [.hit provider, .callerHit caller.name provider, .unavailable provider,
    .callerMiss caller.name provider]

theorem Metric.count_all {metric : Metric} {caller : Caller} (concerns : metric.concerns caller = true)
    (provider : String) :
    (all caller provider).count metric = if provider = metric.provider then 1 else 0 := by
  cases metric <;>
    simp_all [all, Metric.concerns, Metric.caller?, Metric.provider, List.count_cons] <;> rfl

theorem Visit.metrics_of_ofOutcome {visit : Visit} {result : Except Fault Location}
    (ended : visit.verdict = .ofOutcome result) (caller : Caller) :
    visit.metrics caller = (Metric.all caller visit.profile.name).filter fun metric =>
      metric.concerns caller && metric.tells result := by
  rw [metrics, ended]
  -- What is counted hangs on the kind of the result and on whether the caller is logged.
  cases result with
  | ok location =>
    cases found : location.isFound <;> cases searched : location.wasSearched <;>
      cases logged : caller.logged <;>
        simp [Verdict.ofOutcome, Metric.all, Metric.concerns, Metric.caller?, Metric.tells, isHit,
          isMiss, isLoss, hitMetrics, missMetrics, found, searched, logged]
  | error fault =>
    cases outage : fault.isOutage <;> cases logged : caller.logged <;>
      simp [Verdict.ofOutcome, Metric.all, Metric.concerns, Metric.caller?, Metric.tells, isHit,
        isMiss, isLoss, missMetrics, outage, logged]

theorem Provider.metrics_visit {settings : Settings.Search} {query : Query} (provider : Provider)
    (best : Location) (caller : Caller) :
    let visit := provider.visit settings query best
    visit.metrics caller = (Metric.all caller provider.profile.name).filter fun metric =>
      metric.concerns caller && visit.verdict.result?.any metric.tells := by
  intro visit
  simp only [visit]
  cases opened : (provider.gate query best).isOpen with
  | false =>
    rw [visit_of_closed opened]
    simp [Visit.metrics, Verdict.result?]
  | true =>
    rw [visit_of_open opened, Visit.metrics_of_ofOutcome rfl]
    simp only [Verdict.result?_ofOutcome, Option.any_some]

/-- A visit adds at most one to a counter. -/
theorem Provider.count_metrics_visit {settings : Settings.Search} {query : Query}
    (provider : Provider) (best : Location) (caller : Caller) (metric : Metric) :
    ((provider.visit settings query best).metrics caller).count metric =
      if metric.counts caller (provider.visit settings query best) then 1 else 0 := by
  rw [metrics_visit, count_filter_eq_if, Metric.counts, profile_visit]
  cases concerned : metric.concerns caller with
  | false => rfl
  | true =>
    rw [Metric.count_all concerned]
    cases (provider.visit settings query best).verdict.result?.any metric.tells <;> simp

theorem Provider.name_of_mem_metrics {settings : Settings.Search} {query : Query}
    {provider : Provider} {best : Location} {caller : Caller} {metric : Metric}
    (member : metric ∈ (provider.visit settings query best).metrics caller) :
    metric.provider = provider.profile.name := by
  rw [metrics_visit] at member
  have present : metric ∈ Metric.all caller provider.profile.name := (List.mem_filter.mp member).1
  simp only [Metric.all, List.mem_cons, List.not_mem_nil, or_false] at present
  rcases present with rfl | rfl | rfl | rfl <;> rfl

namespace Locator

/-- The providers of the engine by their names in counters. -/
def providerNames : List String := ["wifi", "cell", "cell_lac", "geoip", "fallback"]

/-- One search of several, with the backends as they answer at its time. -/
structure Call where
  backends : Backends
  caller : Caller
  wanted : Yield
  query : Query

def Call.chain (settings : Settings) (call : Call) : List Provider :=
  (Locator.mk settings call.backends).chain call.caller call.wanted

def Call.outcome (settings : Settings) (call : Call) : Outcome :=
  (Locator.mk settings call.backends).locate call.caller call.wanted call.query

def Call.visits (settings : Settings) (call : Call) : List Visit :=
  Search.visits settings.search (call.chain settings) call.query

/-- What the provider of this name came to, if it ran for the call. -/
def Call.result? (settings : Settings) (call : Call) (provider : String) :
    Option (Except Fault Location) :=
  ((call.visits settings).find? (·.profile.name = provider)).bind (·.verdict.result?)

/-- The provider of this name was visited with its gate open, and its attempt ended in the result. -/
def Call.Ran (settings : Settings) (call : Call) (name : String) (result : Except Fault Location) :
    Prop :=
  ∃ provider ∈ call.chain settings, provider.profile.name = name ∧
    ∃ best, provider.visit settings.search call.query best ∈ call.visits settings ∧
      (provider.gate call.query best).isOpen = true ∧
        provider.EndsIn settings.search call.query result

def Call.isLoggedFor (call : Call) (name : String) : Bool :=
  call.caller.logged && call.caller.name = name

/-- The names of counters in the order in which they are counted. -/
def counted (settings : Settings) (calls : List Call) : List String :=
  calls.flatMap fun call => (call.outcome settings).metrics.map Metric.name

variable {settings : Settings}

namespace Call

theorem names_sublist_providerNames (call : Call) :
    ((call.visits settings).map (·.profile.name)).Sublist providerNames := by
  have visited : ((call.visits settings).map (·.profile)).Sublist
      ((call.chain settings).map (·.profile)) := Search.profiles_sublist _ _
  have named := visited.map (·.name)
  rw [List.map_map, List.map_map] at named
  refine named.trans ?_
  unfold chain Locator.chain
  cases call.wanted with
  | country =>
    have only : ["geoip"].Sublist providerNames := by decide
    exact only
  | position =>
    cases call.backends.service with
    | none =>
      have internal : ["wifi", "cell", "cell_lac", "geoip"].Sublist providerNames := by decide
      exact internal
    | some ask => exact List.Sublist.refl _

theorem nodup_names (call : Call) : ((call.visits settings).map (·.profile.name)).Nodup :=
  call.names_sublist_providerNames.nodup (by decide)

theorem any_result? (call : Call) (provider : String) (test : Except Fault Location → Bool) :
    (call.result? settings provider).any test =
      ((call.visits settings).find? (·.profile.name = provider)).any
        fun visit => visit.verdict.result?.any test := by
  unfold result?
  cases (call.visits settings).find? (·.profile.name = provider) <;> rfl

theorem result?_eq_some_iff (call : Call) (name : String) (result : Except Fault Location) :
    call.result? settings name = some result ↔ call.Ran settings name result := by
  constructor
  · intro ran
    obtain ⟨visit, found, ended⟩ := Option.bind_eq_some_iff.mp ran
    have visited : visit ∈ call.visits settings := List.mem_of_find?_eq_some found
    have named : visit.profile.name = name := by simpa using List.find?_some found
    obtain ⟨provider, member, best, rfl⟩ := Search.provider_of_visit visited
    rw [provider.profile_visit] at named
    rw [provider.result?_visit] at ended
    split at ended
    next opened =>
      have endsIn := Provider.endsIn_iff.mpr (Option.some.inj ended)
      exact ⟨provider, member, named, best, visited, opened, endsIn⟩
    · cases ended
  · rintro ⟨provider, _, named, best, visited, opened, endsIn⟩
    obtain rfl := Provider.endsIn_iff.mp endsIn
    have found := find?_of_nodup call.nodup_names visited
    rw [provider.profile_visit, named] at found
    rw [result?, found, Option.bind_some, provider.result?_visit, if_pos opened]

theorem count_metrics (call : Call) (metric : Metric) :
    (call.outcome settings).metrics.count metric =
      if metric.concerns call.caller && (call.result? settings metric.provider).any metric.tells
      then 1 else 0 := by
  -- Each visit adds at most one, and at most one visit is of the provider.
  have once : ∀ visit ∈ call.visits settings, (visit.metrics call.caller).count metric =
      if metric.counts call.caller visit then 1 else 0 := by
    intro visit member
    obtain ⟨provider, _, best, rfl⟩ := Search.provider_of_visit member
    exact provider.count_metrics_visit best call.caller metric
  have counts : (call.outcome settings).metrics.count metric =
      (call.visits settings).countP (metric.counts call.caller) := count_flatMap_of_once once
  have split : metric.counts call.caller = fun visit => metric.concerns call.caller &&
      (visit.profile.name = metric.provider && visit.verdict.result?.any metric.tells) := rfl
  rw [counts, split]
  cases metric.concerns call.caller with
  | false => simp
  | true =>
    simp only [Bool.true_and]
    rw [countP_of_nodup call.nodup_names, call.any_result?]

theorem provider_of_mem_metrics {call : Call} {metric : Metric}
    (member : metric ∈ (call.outcome settings).metrics) : metric.provider ∈ providerNames := by
  obtain ⟨visit, visited, counted⟩ := List.mem_flatMap.mp member
  have known := call.names_sublist_providerNames.subset (List.mem_map_of_mem visited)
  obtain ⟨provider, _, best, rfl⟩ := Search.provider_of_visit visited
  rw [provider.profile_visit] at known
  rwa [Provider.name_of_mem_metrics counted]

end Call

theorem dotless_of_mem_providerNames {name : String} (member : name ∈ providerNames) :
    '.' ∉ name.toList := by
  have dotless : ∀ name ∈ providerNames, '.' ∉ name.toList := by decide
  exact dotless name member

theorem count_counted (calls : List Call) (metric : Metric) (known : metric.provider ∈ providerNames) :
    (counted settings calls).count metric.name = calls.countP fun call =>
      metric.concerns call.caller && (call.result? settings metric.provider).any metric.tells := by
  refine count_flatMap_of_once fun call _ => ?_
  -- In one search the name stands for the counter, so counting names is counting counters.
  rw [← call.count_metrics, List.count_eq_countP, List.countP_map, List.count_eq_countP]
  refine List.countP_congr fun other member => ?_
  have named : other.name = metric.name ↔ other = metric := by
    constructor
    · have dotless := dotless_of_mem_providerNames (Call.provider_of_mem_metrics member)
      exact Metric.name_inj dotless (dotless_of_mem_providerNames known)
    · exact congrArg Metric.name
  simpa using named

/-! ### Who calls -/

/-- The calls differ at most in the names of their callers and in whether their counters are kept. -/
structure Call.Alike (call other : Call) : Prop where
  backends : call.backends = other.backends
  mayAskService : call.caller.mayAskService = other.caller.mayAskService
  wanted : call.wanted = other.wanted
  query : call.query = other.query

theorem Call.Alike.visits {call other : Call} (alike : call.Alike other) :
    call.visits settings = other.visits settings := by
  have services : Provider.service settings call.caller = Provider.service settings other.caller := by
    funext ask
    simp only [Provider.service, alike.mayAskService]
  have chains : call.chain settings = other.chain settings := by
    rw [Call.chain, Call.chain, alike.backends, alike.wanted]
    cases other.wanted with
    | country => rfl
    | position => rw [Locator.chain, Locator.chain, services]
  rw [Call.visits, Call.visits, chains, alike.query]

theorem map_visits_of_alike {calls others : List Call} (alike : List.Forall₂ Call.Alike calls others) :
    calls.map (Call.visits settings) = others.map (Call.visits settings) := by
  induction alike with
  | nil => rfl
  | cons here _ ih => rw [List.map_cons, List.map_cons, here.visits, ih]

/-! ### Main result -/

/-- Each counter is counted once in each search in which a provider came to the result that the counter
stands for, and for the counters of a caller only in searches for that caller. No other name is counted.
All providers are visited unless a position is found that is accurate enough. The names of the callers
and whether their counters are kept change nothing that the searches give, report or send. -/
theorem counted_accounts (settings : Settings) (calls : List Call) :
    (∀ (call : Call) provider result,
        call.result? settings provider = some result ↔ call.Ran settings provider result) ∧
      (∀ call : Call, (call.visits settings).length = (call.chain settings).length ∨ ∃ threshold,
        settings.search.earlyExit = some threshold ∧
          Search.Suffices threshold (call.outcome settings).location) ∧
      (∀ provider ∈ providerNames,
        (∀ caller,
          (counted settings calls).count ("api_log." ++ caller ++ "." ++ provider ++ "_hit") =
              calls.countP (fun call =>
                call.isLoggedFor caller && (call.result? settings provider).any isHit) ∧
            (counted settings calls).count ("api_log." ++ caller ++ "." ++ provider ++ "_miss") =
              calls.countP (fun call =>
                call.isLoggedFor caller && (call.result? settings provider).any isMiss)) ∧
          (counted settings calls).count (provider ++ "_hit") =
              calls.countP (fun call => (call.result? settings provider).any isHit) ∧
            (counted settings calls).count (provider ++ "_unavailable") =
              calls.countP (fun call => (call.result? settings provider).any isLoss)) ∧
      (∀ name ∈ counted settings calls, ∃ provider ∈ providerNames,
        name = provider ++ "_hit" ∨ name = provider ++ "_unavailable" ∨
          ∃ caller, name = "api_log." ++ caller ++ "." ++ provider ++ "_hit" ∨
            name = "api_log." ++ caller ++ "." ++ provider ++ "_miss") ∧
      ∀ others, List.Forall₂ Call.Alike calls others →
        calls.map (fun call => (call.outcome settings).location) =
            others.map (fun call => (call.outcome settings).location) ∧
          calls.map (fun call => (call.outcome settings).faults) =
            others.map (fun call => (call.outcome settings).faults) ∧
          calls.map (fun call => (call.outcome settings).sent) =
            others.map (fun call => (call.outcome settings).sent) := by
  refine ⟨Call.result?_eq_some_iff, fun call => Search.length_visits_or _ _ _ _, ?_, ?_, ?_⟩
  · intro provider known
    refine ⟨fun caller => ⟨?_, ?_⟩, ?_, ?_⟩
    · exact count_counted calls (.callerHit caller provider) known
    · exact count_counted calls (.callerMiss caller provider) known
    · exact count_counted calls (.hit provider) known
    · exact count_counted calls (.unavailable provider) known
  · intro name member
    obtain ⟨call, _, named⟩ := List.mem_flatMap.mp member
    obtain ⟨metric, added, rfl⟩ := List.mem_map.mp named
    refine ⟨metric.provider, Call.provider_of_mem_metrics added, ?_⟩
    cases metric with
    | hit provider => exact Or.inl rfl
    | unavailable provider => exact Or.inr (Or.inl rfl)
    | callerHit caller provider => exact Or.inr (Or.inr ⟨caller, Or.inl rfl⟩)
    | callerMiss caller provider => exact Or.inr (Or.inr ⟨caller, Or.inr rfl⟩)
  · intro others alike
    have visits : calls.map (Call.visits settings) = others.map (Call.visits settings) :=
      map_visits_of_alike alike
    -- All that a call gives but its counters is read off what the providers do.
    have read {α : Type} (of : List Visit → α) :
        calls.map (fun call => of (call.visits settings)) =
          others.map (fun call => of (call.visits settings)) := by
      have mapped := congrArg (List.map of) visits
      rwa [List.map_map, List.map_map] at mapped
    exact ⟨read Search.locationOf, read (List.flatMap Visit.faults), read (List.flatMap Visit.sent)⟩

end Locator

end Geolocation
