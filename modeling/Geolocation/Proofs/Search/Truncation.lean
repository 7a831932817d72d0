import Geolocation.Proofs.Search.Visits

/-!
# Early ends

A threshold for ending early cuts the chain and does nothing else. The search visits the shortest part
of its chain after which the best location is good enough, as a search without a threshold would visit
just this part, and if no part is good enough it visits the whole chain.

The loop tests the best location after each visit that left a candidate. A visit without one leaves the
best location as it was, and the invariant of the loop is that this is not good enough, so nothing is
missed by not testing it again.

Main result: `Search.run_endingAt`.
-/

namespace Geolocation

namespace Settings.Search

def endingAt (settings : Settings.Search) (threshold : Float) : Settings.Search :=
  { settings with earlyExit := some threshold }

def neverEnding (settings : Settings.Search) : Settings.Search := { settings with earlyExit := none }

end Settings.Search

namespace Search

variable {settings : Settings.Search} {threshold : Float} {query : Query}

/-- The best location after the providers of a chain, if the search goes through all of them. -/
def bestAfter (settings : Settings.Search) (query : Query) (best : Location)
    (chain : List Provider) : Location :=
  (visitsFrom settings.neverEnding query best chain).foldl
    (fun best visit => improve best visit.verdict) best

/-- The shortest part of a chain after which the best location suffices, or the whole chain. -/
structure StopsAfter (settings : Settings.Search) (threshold : Float) (query : Query)
    (best : Location) (chain first : List Provider) : Prop where
  part : first <+: chain
  reached : first = chain ∨ Suffices threshold (bestAfter settings query best first)
  shortest : ∀ shorter, shorter <+: first → shorter ≠ first →
    ¬ Suffices threshold (bestAfter settings query best shorter)

/-! ### One visit -/

theorem isEnough_endingAt (best : Location) :
    isEnough (settings.endingAt threshold) best = true ↔ Suffices threshold best := by
  simp [isEnough_iff, Settings.Search.endingAt]

/-- While the best location does not suffice, a visit ends the search exactly if it makes it suffice. -/
theorem endsWith_endingAt {best : Location} (insufficient : ¬ Suffices threshold best)
    (verdict : Verdict) :
    endsWith (settings.endingAt threshold) best verdict = true ↔
      Suffices threshold (improve best verdict) := by
  cases candidate : verdict.candidate? with
  | none =>
    -- The best location stays as it was, and is not tested.
    rw [improve_of_none candidate]
    simp [endsWith, candidate, insufficient]
  | some location =>
    rw [endsWith, candidate, Option.isSome_some, Bool.true_and]
    exact isEnough_endingAt _

theorem endsWith_neverEnding (best : Location) (verdict : Verdict) :
    endsWith settings.neverEnding best verdict = false := by
  simp [endsWith, isEnough, Settings.Search.neverEnding]

theorem visitsFrom_cons_neverEnding (provider : Provider) (rest : List Provider) (best : Location) :
    let visit := provider.visit settings.neverEnding query best
    visitsFrom settings.neverEnding query best (provider :: rest) =
      visit :: visitsFrom settings.neverEnding query (improve best visit.verdict) rest :=
  visitsFrom_cons_of_goesOn (endsWith_neverEnding _ _) rest

theorem bestAfter_cons (provider : Provider) (rest : List Provider) (best : Location) :
    bestAfter settings query best (provider :: rest) =
      bestAfter settings query
        (improve best (provider.visit settings.neverEnding query best).verdict) rest := by
  rw [bestAfter, visitsFrom_cons_neverEnding]
  rfl

theorem length_visitsFrom_neverEnding (chain : List Provider) (best : Location) :
    (visitsFrom settings.neverEnding query best chain).length = chain.length := by
  induction chain generalizing best with
  | nil => rfl
  | cons provider rest ih => simp [visitsFrom_cons_neverEnding, ih]

/-! ### The part that is visited -/

theorem StopsAfter.nil (best : Location) : StopsAfter settings threshold query best [] [] where
  part := List.prefix_refl []
  reached := Or.inl rfl
  shortest := fun _ part other => absurd (List.prefix_nil.mp part) other

theorem StopsAfter.here {provider : Provider} {best : Location}
    (insufficient : ¬ Suffices threshold best)
    (enough : Suffices threshold
      (improve best (provider.visit settings.neverEnding query best).verdict))
    (rest : List Provider) :
    StopsAfter settings threshold query best (provider :: rest) [provider] where
  part := List.prefix_append [provider] rest
  reached := Or.inr (by rw [bestAfter_cons]; exact enough)
  shortest := by
    intro shorter part other
    have empty : shorter = [] := by
      rcases List.prefix_cons_iff.mp part with none | ⟨tail, cons, short⟩
      · exact none
      · exact absurd (by rw [cons, List.prefix_nil.mp short]) other
    rw [empty]
    exact insufficient

theorem StopsAfter.cons {provider : Provider} {best : Location} {rest first : List Provider}
    (insufficient : ¬ Suffices threshold best)
    (later : StopsAfter settings threshold query
      (improve best (provider.visit settings.neverEnding query best).verdict) rest first) :
    StopsAfter settings threshold query best (provider :: rest) (provider :: first) where
  part := List.cons_prefix_cons.mpr ⟨rfl, later.part⟩
  reached := by
    rw [bestAfter_cons]
    exact later.reached.imp_left (congrArg (provider :: ·))
  shortest := by
    intro shorter part other
    rcases List.prefix_cons_iff.mp part with rfl | ⟨tail, rfl, short⟩
    · exact insufficient
    · rw [bestAfter_cons]
      exact later.shortest tail short fun same => other (congrArg (provider :: ·) same)

/-- What is visited is the part after which the search stops, and this as if nothing could stop it. -/
theorem visitsFrom_endingAt (chain : List Provider) {best : Location}
    (insufficient : ¬ Suffices threshold best) :
    ∃ first, StopsAfter settings threshold query best chain first ∧
      visitsFrom (settings.endingAt threshold) query best chain =
        visitsFrom settings.neverEnding query best first := by
  -- The invariant over the chain is that the best location does not suffice yet.
  induction chain generalizing best with
  | nil => exact ⟨[], .nil best, rfl⟩
  | cons provider rest ih =>
    -- A threshold has no influence on what a provider does.
    have visited : provider.visit (settings.endingAt threshold) query best =
        provider.visit settings.neverEnding query best := rfl
    by_cases enough : Suffices threshold
        (improve best (provider.visit settings.neverEnding query best).verdict)
    · have ends : endsWith (settings.endingAt threshold) best
          (provider.visit (settings.endingAt threshold) query best).verdict = true := by
        rw [endsWith_endingAt insufficient, visited]
        exact enough
      refine ⟨[provider], .here insufficient enough rest, ?_⟩
      rw [visitsFrom_cons_of_ends ends, visitsFrom_singleton, visited]
    · have goesOn : endsWith (settings.endingAt threshold) best
          (provider.visit (settings.endingAt threshold) query best).verdict = false := by
        rw [← Bool.not_eq_true, endsWith_endingAt insufficient, visited]
        exact enough
      obtain ⟨first, stops, same⟩ := ih enough
      refine ⟨provider :: first, stops.cons insufficient, ?_⟩
      rw [visitsFrom_cons_of_goesOn goesOn, visitsFrom_cons_neverEnding, visited, same]

/-! ### Main result -/

/-- A search with a threshold is the search without one over the part of the chain after which it
stops: the outcome is the same, and so are the providers that are visited, one by one, with what their
visits come to. It only stops ahead of the end of the chain at a position of the engine's own that is
accurate enough. -/
theorem run_endingAt (settings : Settings.Search) (threshold : Float) (caller : Caller)
    (chain : List Provider) (query : Query) :
    let early := settings.endingAt threshold
    let patient := settings.neverEnding
    ∃ first, first <+: chain ∧
      (first = chain ∨ Suffices threshold (run patient caller first query).location) ∧
      (∀ shorter, shorter <+: first → shorter ≠ first →
        ¬ Suffices threshold (run patient caller shorter query).location) ∧
      run early caller chain query = run patient caller first query ∧
      chain.zip (visits early chain query) = first.zip (visits patient first query) ∧
      (visits early chain query).length = first.length := by
  intro early patient
  have nothing : ¬ Suffices threshold (.empty false) := by
    rintro ⟨p, position, _⟩
    cases position
  obtain ⟨first, stops, same⟩ : ∃ first, StopsAfter settings threshold query (.empty false) chain first ∧
      visits early chain query = visits patient first query := visitsFrom_endingAt chain nothing
  have length : (visits patient first query).length = first.length :=
    length_visitsFrom_neverEnding first _
  refine ⟨first, stops.part, stops.reached, stops.shortest, ?_, ?_, ?_⟩
  · rw [run, run, same]
  · obtain ⟨rest, rfl⟩ := stops.part
    rw [same]
    -- No visit is left for the rest of the chain.
    have zipped : (first ++ rest).zip (visits patient first query ++ []) =
        first.zip (visits patient first query) ++ rest.zip [] := List.zip_append length.symm
    rwa [List.append_nil, List.zip_nil_right, List.append_nil] at zipped
  · rw [same, length]

end Search

end Geolocation
