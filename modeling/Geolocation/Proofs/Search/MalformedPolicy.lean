import Geolocation.Proofs.Search.Noninterference

/-!
# Policy flags that forbid nothing

Policy flags do one thing, which is to close the gate of a provider whose flag is false. Where they do
not do that, a search goes as it would without any flags. Flags that are no object never do it; they are
reported by each provider with a flag that the search reaches, ahead of what else that provider reports.

The two searches, with flags and without, visit the same providers side by side. Their visits differ at
most in what the gates report, and nothing that a search does depends on that.

Main result: `Locator.locate_of_malformed`.
-/

namespace Geolocation

variable {query : Query} {policy : Option Json}

def Query.withPolicy (query : Query) (policy : Option Json) : Query := { query with policy }

/-! ### Gates -/

/-- The report that flags of this value are no object. -/
def malformedReport (value : Json) : Fault :=
  .malformedPolicy ("expected an object, got " ++ value.compact)

namespace Profile

theorem policyGate_without (profile : Profile) (query : Query) :
    profile.policyGate (query.withPolicy none) = ⟨true, none⟩ := by
  unfold policyGate
  split <;> rfl

/-- Flags that are no object leave every gate open, and are reported where a flag is looked up. -/
theorem policyGate_malformed (profile : Profile) (query : Query) {value : Json}
    (notNull : value ≠ .null) (noObject : ∀ fields, value ≠ .object fields) :
    profile.policyGate (query.withPolicy (some value)) =
      ⟨true, profile.flag.map fun _ => malformedReport value⟩ := by
  have failed (name : String) : (query.withPolicy (some value)).flag name =
      .error (malformedReport value) := by
    unfold Query.flag Query.withPolicy
    split
    next missing => cases missing
    next null => exact absurd (Option.some.inj null) notNull
    next fields object => exact absurd (Option.some.inj object) (noObject fields)
    next given =>
      cases given
      rfl
  unfold policyGate
  cases flagged : profile.flag with
  | none => rfl
  | some name => simp only [failed, Option.map_some]

/-- An object that does not map the flag to false leaves the gate open in silence. -/
theorem policyGate_object (profile : Profile) (query : Query) (fields : List (String × Json))
    (permitted : ∀ name ∈ profile.flag, Json.field? name fields ≠ some (.bool false)) :
    profile.policyGate (query.withPolicy (some (.object fields))) = ⟨true, none⟩ := by
  unfold policyGate
  cases flagged : profile.flag with
  | none => rfl
  | some name =>
    have looked : (query.withPolicy (some (.object fields))).flag name =
        .ok (Json.field? name fields) := rfl
    have other : Json.field? name fields ≠ some (.bool false) := permitted name flagged
    -- The lookup is none that the first pattern takes, so the gate is open.
    simp only [looked]

end Profile

/-! ### One visit -/

/-- The provider looks at the policy flags in its policy gate only, if it has such a gate at all. -/
structure Provider.HeedsFlagOnly (provider : Provider) : Prop where
  attempt : ∀ query policy, provider.attempt (query.withPolicy policy) = provider.attempt query
  gate : ∀ best, (∀ query, provider.gate query best = provider.profile.policyGate query) ∨
    provider.profile.flag = none ∧ ∀ query, provider.gate query best = ⟨false, none⟩

/-- What the gate of a visit reports, with these flags. -/
def Visit.reporting (query : Query) (policy : Option Json) (visit : Visit) : Visit :=
  { visit with gateFault := (visit.profile.policyGate (query.withPolicy policy)).fault }

namespace Provider

variable (settings : Settings.Search) {provider : Provider}

theorem visit_withPolicy (heeds : provider.HeedsFlagOnly)
    (opened : (provider.profile.policyGate (query.withPolicy policy)).isOpen = true)
    (best : Location) :
    provider.visit settings (query.withPolicy policy) best =
      (provider.visit settings (query.withPolicy none) best).reporting query policy := by
  have without := provider.profile.policyGate_without query
  rcases heeds.gate best with policyGate | ⟨flagless, closed⟩
  · have plain : (provider.gate (query.withPolicy none) best).isOpen = true := by
      rw [policyGate, without]
    have flagged : (provider.gate (query.withPolicy policy) best).isOpen = true := by
      rw [policyGate]
      exact opened
    rw [visit_of_open flagged, visit_of_open plain, heeds.attempt, heeds.attempt, policyGate]
    rfl
  · have shut (query : Query) : (provider.gate query best).isOpen = false := by
      rw [closed]
    rw [visit_of_closed (shut _), visit_of_closed (shut _), closed, closed]
    simp [Visit.reporting, Profile.policyGate, flagless]

/-- An object that does not forbid the provider is as good as no flags. -/
theorem visit_withObject (heeds : provider.HeedsFlagOnly) (fields : List (String × Json))
    (permitted : ∀ name ∈ provider.profile.flag, Json.field? name fields ≠ some (.bool false))
    (best : Location) :
    provider.visit settings (query.withPolicy (some (.object fields))) best =
        provider.visit settings (query.withPolicy none) best ∧
      (provider.visit settings (query.withPolicy none) best).gateFault = none := by
  have object := provider.profile.policyGate_object query fields permitted
  have without := provider.profile.policyGate_without query
  have flagged := visit_withPolicy settings heeds (by rw [object]) best
  have plain := visit_withPolicy settings heeds (by rw [without]) best
  have alike :
      (provider.visit settings (query.withPolicy none) best).reporting query
          (some (.object fields)) =
        (provider.visit settings (query.withPolicy none) best).reporting query none := by
    rw [Visit.reporting, Visit.reporting, profile_visit, object, without]
  have silent : (provider.visit settings (query.withPolicy none) best).gateFault = none := by
    rw [plain, Visit.reporting, profile_visit, without]
  exact ⟨flagged.trans (alike.trans plain.symm), silent⟩

end Provider

/-! ### Searches -/

namespace Search

variable {settings : Settings.Search}

theorem visitsFrom_withPolicy {chain : List Provider}
    (heed : ∀ provider ∈ chain, provider.HeedsFlagOnly)
    (opened : ∀ provider ∈ chain,
      (provider.profile.policyGate (query.withPolicy policy)).isOpen = true) (best : Location) :
    visitsFrom settings (query.withPolicy policy) best chain =
      (visitsFrom settings (query.withPolicy none) best chain).map (Visit.reporting query policy) := by
  induction chain generalizing best with
  | nil => rfl
  | cons provider rest ih =>
    obtain ⟨heeds, heedRest⟩ := List.forall_mem_cons.mp heed
    obtain ⟨permitted, permitRest⟩ := List.forall_mem_cons.mp opened
    have visited : provider.visit settings (query.withPolicy policy) best =
        (provider.visit settings (query.withPolicy none) best).reporting query policy :=
      Provider.visit_withPolicy settings heeds permitted best
    -- Both visits end alike, so both searches go on with one best location, or neither does.
    have ended : (provider.visit settings (query.withPolicy policy) best).verdict =
        (provider.visit settings (query.withPolicy none) best).verdict := by
      rw [visited]
      rfl
    cases ends : endsWith settings best
        (provider.visit settings (query.withPolicy none) best).verdict with
    | true =>
      rw [visitsFrom_cons_of_ends ends, visitsFrom_cons_of_ends (ended ▸ ends), visited]
      rfl
    | false =>
      rw [visitsFrom_cons_of_goesOn ends, visitsFrom_cons_of_goesOn (ended ▸ ends), ended,
        ih heedRest permitRest, visited]
      rfl

theorem locationOf_reporting (visits : List Visit) :
    locationOf (visits.map (Visit.reporting query policy)) = locationOf visits := by
  rw [locationOf, List.foldl_map]
  rfl

/-- Flags that close no gate add to the faults what the gates report, and change nothing else. -/
theorem run_withPolicy (settings : Settings.Search) (caller : Caller) {chain : List Provider}
    (query : Query) (policy : Option Json) (heed : ∀ provider ∈ chain, provider.HeedsFlagOnly)
    (opened : ∀ provider ∈ chain,
      (provider.profile.policyGate (query.withPolicy policy)).isOpen = true) :
    run settings caller chain (query.withPolicy policy) =
      { run settings caller chain (query.withPolicy none) with
        faults := (visits settings chain (query.withPolicy none)).flatMap fun visit =>
          (visit.profile.policyGate (query.withPolicy policy)).fault.toList ++
            visit.verdict.fault?.toList } := by
  have revisited : visits settings chain (query.withPolicy policy) =
      (visits settings chain (query.withPolicy none)).map (Visit.reporting query policy) :=
    visitsFrom_withPolicy heed opened (.empty false)
  rw [run, revisited]
  simp only [Outcome.ofVisits, locationOf_reporting, List.flatMap_map]
  rfl

theorem faults_run_withoutPolicy (settings : Settings.Search) (caller : Caller)
    {chain : List Provider} (query : Query)
    (heed : ∀ provider ∈ chain, provider.HeedsFlagOnly) :
    (run settings caller chain (query.withPolicy none)).faults =
      (visits settings chain (query.withPolicy none)).flatMap
        (fun visit => visit.verdict.fault?.toList) := by
  have opened : ∀ provider ∈ chain,
      (provider.profile.policyGate (query.withPolicy none)).isOpen = true := by
    intro provider _
    rw [provider.profile.policyGate_without]
  have same := congrArg Outcome.faults (run_withPolicy settings caller query none heed opened)
  simpa only [Profile.policyGate_without, Option.toList_none, List.nil_append] using same

end Search

namespace Locator

/-- No provider of a locator looks at the policy flags but in its policy gate. -/
theorem heedsFlagOnly_of_mem_chain {locator : Locator} {caller : Caller} {wanted : Yield}
    {provider : Provider} (member : provider ∈ locator.chain caller wanted) :
    provider.HeedsFlagOnly := by
  rcases provider_of_mem_chain member with rfl | rfl | rfl | ⟨yields, rfl⟩ | ⟨ask, _, rfl⟩
  · exact ⟨fun _ _ => rfl, fun _ => Or.inl fun _ => rfl⟩
  · exact ⟨fun _ _ => rfl, fun _ => Or.inl fun _ => rfl⟩
  · exact ⟨fun _ _ => rfl, fun _ => Or.inl fun _ => rfl⟩
  · exact ⟨fun _ _ => rfl, fun _ => Or.inl fun _ => rfl⟩
  · refine ⟨fun _ _ => rfl, fun best => ?_⟩
    cases asks : caller.mayAskService && !Provider.isAccurate locator.settings best with
    | true =>
      have opened (query : Query) : (if (caller.mayAskService &&
          !Provider.isAccurate locator.settings best) = true then
            Provider.serviceProfile.policyGate query else ⟨false, none⟩) =
          Provider.serviceProfile.policyGate query := if_pos asks
      exact Or.inl opened
    | false =>
      have closed (query : Query) : (if (caller.mayAskService &&
          !Provider.isAccurate locator.settings best) = true then
            Provider.serviceProfile.policyGate query else ⟨false, none⟩) =
          ⟨false, none⟩ := if_neg (Bool.eq_false_iff.mp asks)
      exact Or.inr ⟨rfl, closed⟩

/-- The providers with a flag are those for areas and for addresses. -/
theorem flag_of_mem_chain {locator : Locator} {caller : Caller} {wanted : Yield}
    {provider : Provider} (member : provider ∈ locator.chain caller wanted) :
    (provider.profile.name = "cell_lac" ∧ provider.profile.flag = some "lacf") ∨
      (provider.profile.name = "geoip" ∧ provider.profile.flag = some "ipf") ∨
      (provider.profile.name ≠ "cell_lac" ∧ provider.profile.name ≠ "geoip") ∧
        provider.profile.flag = none := by
  rcases provider_of_mem_chain member with rfl | rfl | rfl | ⟨yields, rfl⟩ | ⟨ask, _, rfl⟩
  · have other : "wifi" ≠ "cell_lac" ∧ "wifi" ≠ "geoip" := by decide
    exact Or.inr (Or.inr ⟨other, rfl⟩)
  · have other : "cell" ≠ "cell_lac" ∧ "cell" ≠ "geoip" := by decide
    exact Or.inr (Or.inr ⟨other, rfl⟩)
  · exact Or.inl ⟨rfl, rfl⟩
  · exact Or.inr (Or.inl ⟨rfl, rfl⟩)
  · have other : "fallback" ≠ "cell_lac" ∧ "fallback" ≠ "geoip" := by decide
    exact Or.inr (Or.inr ⟨other, rfl⟩)

theorem faults_of_malformed {locator : Locator} {caller : Caller} {wanted : Yield}
    {provider : Provider} (member : provider ∈ locator.chain caller wanted) (query : Query)
    {value : Json} (notNull : value ≠ .null) (noObject : ∀ fields, value ≠ .object fields) :
    (provider.profile.policyGate (query.withPolicy (some value))).fault.toList =
      if provider.profile.name = "cell_lac" ∨ provider.profile.name = "geoip" then
        [malformedReport value] else [] := by
  rw [provider.profile.policyGate_malformed query notNull noObject]
  rcases flag_of_mem_chain member with ⟨named, flagged⟩ | ⟨named, flagged⟩ | ⟨others, flagless⟩
  · rw [flagged, if_pos (Or.inl named)]
    rfl
  · rw [flagged, if_pos (Or.inr named)]
    rfl
  · rw [flagless, if_neg (not_or.mpr others)]
    rfl

/-- An object that maps neither flag to false is as good as no flags. -/
theorem locate_withObject (locator : Locator) (caller : Caller) (wanted : Yield) (query : Query)
    (fields : List (String × Json)) (areas : Json.field? "lacf" fields ≠ some (.bool false))
    (addresses : Json.field? "ipf" fields ≠ some (.bool false)) :
    locator.locate caller wanted (query.withPolicy (some (.object fields))) =
      locator.locate caller wanted (query.withPolicy none) := by
  have permitted {provider : Provider} (member : provider ∈ locator.chain caller wanted) :
      ∀ name ∈ provider.profile.flag, Json.field? name fields ≠ some (.bool false) := by
    intro name flag
    rcases flag_of_mem_chain member with ⟨_, lacf⟩ | ⟨_, ipf⟩ | ⟨_, flagless⟩
    · cases lacf.symm.trans flag
      exact areas
    · cases ipf.symm.trans flag
      exact addresses
    · cases flagless.symm.trans flag
  have agree : ∀ provider ∈ locator.chain caller wanted,
      Provider.Agree locator.settings.search (query.withPolicy (some (.object fields)))
        (query.withPolicy none) provider provider := by
    intro provider member best
    have heeds := heedsFlagOnly_of_mem_chain member
    exact (Provider.visit_withObject _ heeds fields (permitted member) best).1
  exact congrArg (Outcome.ofVisits caller)
    (Search.visitsFrom_of_agree (List.forall₂_same.mpr agree) (.empty false))

/-! ### Main result -/

/-- Flags that are no object change nothing but the faults: each provider with a flag that the search
reaches reports them once, ahead of its own fault. An object closes no provider whose flag it does not
map to false, and it changes nothing if it maps neither flag to false. -/
theorem locate_of_malformed (locator : Locator) (caller : Caller) (wanted : Yield) (query : Query) :
    let plain := query.withPolicy none
    let reached := Search.visits locator.settings.search (locator.chain caller wanted) plain
    (∀ value, value ≠ .null → (∀ fields, value ≠ .object fields) →
      let malformed := query.withPolicy (some value)
      let outcome := locator.locate caller wanted malformed
      outcome.location = (locator.locate caller wanted plain).location ∧
        outcome.metrics = (locator.locate caller wanted plain).metrics ∧
        outcome.sent = (locator.locate caller wanted plain).sent ∧
        (Search.visits locator.settings.search (locator.chain caller wanted) malformed).map
            (·.profile) = reached.map (·.profile) ∧
        (locator.locate caller wanted plain).faults =
          reached.flatMap (fun visit => visit.verdict.fault?.toList) ∧
        outcome.faults = reached.flatMap fun visit =>
          (if visit.profile.name = "cell_lac" ∨ visit.profile.name = "geoip" then
            [.malformedPolicy ("expected an object, got " ++ value.compact)] else []) ++
            visit.verdict.fault?.toList) ∧
      ∀ fields,
        let flagged := query.withPolicy (some (.object fields))
        (∀ provider ∈ locator.chain caller wanted,
          (∀ name ∈ provider.profile.flag, Json.field? name fields ≠ some (.bool false)) →
            ∀ best,
              provider.visit locator.settings.search flagged best =
                  provider.visit locator.settings.search plain best ∧
                (provider.visit locator.settings.search flagged best).gateFault = none) ∧
          (Json.field? "lacf" fields ≠ some (.bool false) →
            Json.field? "ipf" fields ≠ some (.bool false) →
              locator.locate caller wanted flagged = locator.locate caller wanted plain) := by
  intro plain reached
  have heed : ∀ provider ∈ locator.chain caller wanted, provider.HeedsFlagOnly :=
    fun _ => heedsFlagOnly_of_mem_chain
  have silent : (locator.locate caller wanted plain).faults =
      reached.flatMap (fun visit => visit.verdict.fault?.toList) :=
    Search.faults_run_withoutPolicy _ _ query heed
  refine ⟨?_, ?_⟩
  · intro value notNull noObject malformed outcome
    have gate (profile : Profile) : profile.policyGate malformed =
        ⟨true, profile.flag.map fun _ => malformedReport value⟩ :=
      profile.policyGate_malformed query notNull noObject
    have opened : ∀ provider ∈ locator.chain caller wanted,
        (provider.profile.policyGate malformed).isOpen = true := by
      intro provider _
      rw [gate]
    have revisited : Search.visits locator.settings.search (locator.chain caller wanted) malformed =
        reached.map (Visit.reporting query (some value)) :=
      Search.visitsFrom_withPolicy heed opened (.empty false)
    have same : outcome = _ :=
      Search.run_withPolicy locator.settings.search caller query (some value) heed opened
    refine ⟨by rw [same]; rfl, by rw [same]; rfl, by rw [same]; rfl, ?_, silent, ?_⟩
    · rw [revisited, List.map_map]
      rfl
    · rw [same]
      refine List.flatMap_congr fun visit visited => ?_
      -- A visit bears the profile of its provider.
      obtain ⟨provider, member, best, rfl⟩ := Search.provider_of_visit visited
      rw [provider.profile_visit, faults_of_malformed member query notNull noObject]
      rfl
  · intro fields flagged
    refine ⟨?_, locate_withObject locator caller wanted query fields⟩
    intro provider member permitted best
    obtain ⟨same, silent⟩ :=
      Provider.visit_withObject locator.settings.search (heed provider member) fields permitted best
    exact ⟨same, same ▸ silent⟩

/-- The provider for areas and the one for addresses report a list of flags. -/
theorem reported_by_both :
    let locator := knowingArea ⟨"gsm:262:1:5", ⟨50.0, 8.0⟩, none⟩
    let report : Fault := .malformedPolicy "expected an object, got []"
    Json.array [] ≠ .null ∧ (∀ fields, Json.array [] ≠ .object fields) ∧
      (locator.locate stranger .position (towerSeen.withPolicy (some (.array [])))).faults =
        [report, report] := by
  intro locator report
  have notNull : Json.array [] ≠ .null := by simp
  have noObject : ∀ fields, Json.array [] ≠ .object fields := by simp
  have reported := ((locate_of_malformed locator stranger .position towerSeen).1 (.array [])
    notNull noObject).2.2.2.2.2
  exact ⟨notNull, noObject, reported.trans (by decide)⟩

end Locator

end Geolocation
