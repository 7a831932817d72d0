import Geolocation.Proofs.FloatOrder
import Geolocation.Proofs.Search.Visits

/-!
# The winner of a search

A search compares its candidates one by one with the best so far. What comes out does not depend on
that: it is the earliest of the most accurate positions, without a position the earliest country,
and without a country nothing. `Wins` says so of a whole list of candidates. The invariant of the
loop is that the best so far wins among the candidates so far; comparing one more candidate keeps it.
`PutsUp` says which candidate a provider leaves, if its gate is asked with the best so far.
-/

namespace Geolocation.Search

open FloatOrder

/-- No position among the candidates is strictly more accurate. -/
def Tightest (candidates : List Location) (p : Position) : Prop :=
  ∀ q, .position q ∈ candidates → ¬ q.accuracy < p.accuracy

/-- The location that wins among candidates. -/
inductive Wins (candidates : List Location) : Location → Prop where
  /-- The earliest of the most accurate positions. -/
  | position (before after : List Location) (p : Position)
      (split : candidates = before ++ .position p :: after) (tightest : Tightest candidates p)
      (earliest : ∀ q, .position q ∈ before → ¬ Tightest candidates q) : Wins candidates (.position p)
  /-- The earliest country that has a code, if there is no position. -/
  | country (before after : List Location) (c : Country)
      (split : candidates = before ++ .country c :: after) (coded : c.code ≠ "")
      (earliest : ∀ d, .country d ∈ before → d.code = "")
      (unplaced : ∀ p, .position p ∉ candidates) : Wins candidates (.country c)
  /-- Nothing, if there is neither. It counts as searched if some candidate does. -/
  | empty (searched : Bool) (flag : searched = true ↔ .empty true ∈ candidates)
      (uncoded : ∀ c, .country c ∈ candidates → c.code = "")
      (unplaced : ∀ p, .position p ∉ candidates) : Wins candidates (.empty searched)

/-- The accuracies of all candidates are numbers. -/
def Numbered (candidates : List Location) : Prop :=
  ∀ candidate ∈ candidates, ∀ accuracy ∈ candidate.accuracy?, accuracy.isNaN = false

instance (candidates : List Location) : Decidable (Numbered candidates) :=
  inferInstanceAs (Decidable (∀ candidate ∈ candidates, ∀ accuracy ∈ candidate.accuracy?,
    accuracy.isNaN = false))

theorem Numbered.position {candidates : List Location} (numbered : Numbered candidates)
    {p : Position} (member : .position p ∈ candidates) : p.accuracy.isNaN = false :=
  numbered _ member p.accuracy rfl

/-! ### One more candidate -/

variable {seen : List Location} {best : Location}

theorem Tightest.of_append {p : Position} {more : List Location}
    (tightest : Tightest (seen ++ more) p) : Tightest seen p :=
  fun q member => tightest q (List.mem_append_left more member)

/-- A candidate that is no position leaves the most accurate ones as they are. -/
theorem Tightest.append_other {p : Position} {candidate : Location} (tightest : Tightest seen p)
    (other : ∀ q, candidate ≠ .position q) : Tightest (seen ++ [candidate]) p := by
  intro q member
  rcases List.mem_append.mp member with old | new
  · exact tightest q old
  · exact absurd (List.mem_singleton.mp new).symm (other q)

/-- What is added behind a winning position does not move it. -/
theorem Wins.keep_position {p : Position} {candidate : Location} (wins : Wins seen (.position p))
    (tightest : Tightest (seen ++ [candidate]) p) : Wins (seen ++ [candidate]) (.position p) := by
  cases wins with
  | position before after _ split _ earliest =>
    refine .position before (after ++ [candidate]) _ ?_ tightest ?_
    · rw [split, List.append_assoc, List.cons_append]
    · exact fun q member rival => earliest q member rival.of_append

/-- Another empty candidate raises the flag of an empty best and changes no other best. -/
theorem Wins.add_empty (wins : Wins seen best) (searched : Bool) :
    Wins (seen ++ [.empty searched]) (best.merge (.empty searched)) := by
  cases wins with
  | position before after p split tightest earliest =>
    rw [Location.merge_position_empty]
    exact (Wins.position before after p split tightest earliest).keep_position
      (tightest.append_other nofun)
  | country before after c split coded earliest unplaced =>
    rw [Location.merge_country_empty]
    refine .country before (after ++ [.empty searched]) _ ?_ coded earliest ?_
    · rw [split, List.append_assoc, List.cons_append]
    · simpa using unplaced
  | empty earlier flag uncoded unplaced =>
    rw [Location.merge_empty_empty]
    refine .empty _ ?_ (by simpa using uncoded) (by simpa using unplaced)
    rw [Bool.or_eq_true, flag, List.mem_append, List.mem_singleton, Location.empty.injEq,
      eq_comm (a := true)]

/-- Another country only displaces an empty best, and only if it has a code. -/
theorem Wins.add_country (wins : Wins seen best) (d : Country) :
    Wins (seen ++ [.country d]) (best.merge (.country d)) := by
  cases wins with
  | position before after p split tightest earliest =>
    rw [Location.merge_position_country]
    exact (Wins.position before after p split tightest earliest).keep_position
      (tightest.append_other nofun)
  | country before after c split coded earliest unplaced =>
    rw [Location.merge_country_country, if_neg fun both => coded both.1]
    refine .country before (after ++ [.country d]) _ ?_ coded earliest ?_
    · rw [split, List.append_assoc, List.cons_append]
    · simpa using unplaced
  | empty searched flag uncoded unplaced =>
    rw [Location.merge_empty_country]
    by_cases coded : d.code = ""
    · rw [if_pos coded]
      refine .empty _ (by simpa using flag) ?_ (by simpa using unplaced)
      intro c member
      rcases List.mem_append.mp member with old | new
      · exact uncoded c old
      · rw [Location.country.inj (List.mem_singleton.mp new), coded]
    · rw [if_neg coded]
      exact .country seen [] d rfl coded uncoded (by simpa using unplaced)

/-- Another position displaces whatever is no position, and a position that is less accurate. -/
theorem Wins.add_position (wins : Wins seen best) {q : Position}
    (numbered : Numbered (seen ++ [.position q])) :
    Wins (seen ++ [.position q]) (best.merge (.position q)) := by
  have member_or {r : Position} (member : .position r ∈ seen ++ [Location.position q]) :
      .position r ∈ seen ∨ r = q := by
    simpa using member
  -- Without an earlier position the new one is the only one.
  have alone (unplaced : ∀ p, .position p ∉ seen) : Wins (seen ++ [.position q]) (.position q) := by
    refine .position seen [] q rfl ?_ (fun r member => absurd member (unplaced r))
    intro r member
    rcases member_or member with old | rfl
    · exact absurd old (unplaced r)
    · exact not_lt_self r.accuracy
  cases wins with
  | position before after p split tightest earliest =>
    have present : .position p ∈ seen := by simp [split]
    rw [Location.merge_position_position]
    by_cases closer : q.accuracy < p.accuracy
    · rw [if_pos closer]
      refine .position seen [] q rfl ?_ ?_
      · intro r member
        rcases member_or member with old | rfl
        · exact fun less => tightest r old (lt_trans less closer)
        · exact not_lt_self r.accuracy
      · -- A rival would be no less accurate than the new one and no more accurate than the old one.
        intro r old rival
        have number := numbered.position (List.mem_append_left _ old)
        rcases lt_or_lt closer number with above | below
        · exact rival q (by simp) above
        · exact tightest r old below
    · rw [if_neg closer]
      refine (Wins.position before after p split tightest earliest).keep_position ?_
      intro r member
      rcases member_or member with old | rfl
      · exact tightest r old
      · exact closer
  | country before after c split coded earliest unplaced =>
    rw [Location.merge_country_position]
    exact alone unplaced
  | empty searched flag uncoded unplaced =>
    rw [Location.merge_empty_position]
    exact alone unplaced

/-- What one step of the loop preserves. -/
theorem Wins.merge (wins : Wins seen best) {candidate : Location}
    (numbered : Numbered (seen ++ [candidate])) :
    Wins (seen ++ [candidate]) (Location.merge best candidate) := by
  cases candidate with
  | empty searched => exact wins.add_empty searched
  | position q => exact wins.add_position numbered
  | country d => exact wins.add_country d

/-! ### All candidates -/

theorem wins_foldl_merge (wins : Wins seen best) (rest : List Location)
    (numbered : Numbered (seen ++ rest)) : Wins (seen ++ rest) (rest.foldl Location.merge best) := by
  induction rest generalizing seen best with
  | nil => simpa using wins
  | cons candidate rest ih =>
    have whole : seen ++ candidate :: rest = seen ++ [candidate] ++ rest := by simp
    rw [whole] at numbered ⊢
    have step : Wins (seen ++ [candidate]) (best.merge candidate) :=
      wins.merge fun other member => numbered other (List.mem_append_left rest member)
    exact ih step numbered

theorem wins_nothing : Wins [] (.empty false) := .empty false (by simp) (by simp) (by simp)

/-! ### The winner is unique -/

/-- Two elements that are both the first with a property are the same. -/
private theorem first_unique {α : Type} (property : α → Prop) {before after before' after' : List α}
    {a b : α} (same : before ++ a :: after = before' ++ b :: after') (left : property a)
    (right : property b) (none_left : ∀ x ∈ before, ¬ property x)
    (none_right : ∀ x ∈ before', ¬ property x) : a = b := by
  classical
  have first : (before ++ a :: after).find? property = some a :=
    List.find?_eq_some_iff_append.mpr ⟨by simpa using left, before, after, rfl, by simpa using none_left⟩
  have second : (before ++ a :: after).find? property = some b :=
    List.find?_eq_some_iff_append.mpr
      ⟨by simpa using right, before', after', same, by simpa using none_right⟩
  exact Option.some.inj (first.symm.trans second)

theorem Wins.unique {all : List Location} {a b : Location} (left : Wins all a) (right : Wins all b) :
    a = b := by
  cases left with
  | position before after p split tightest earliest =>
    have present : .position p ∈ all := by simp [split]
    cases right with
    | position before' after' q split' tightest' earliest' =>
      refine first_unique (fun l => ∃ r, l = .position r ∧ Tightest all r)
        (split.symm.trans split') ⟨p, rfl, tightest⟩ ⟨q, rfl, tightest'⟩ ?_ ?_
      · rintro _ member ⟨r, rfl, rival⟩
        exact earliest r member rival
      · rintro _ member ⟨r, rfl, rival⟩
        exact earliest' r member rival
    | country _ _ _ _ _ _ unplaced => exact absurd present (unplaced p)
    | empty _ _ _ unplaced => exact absurd present (unplaced p)
  | country before after c split coded earliest unplaced =>
    cases right with
    | position _ _ q split' _ _ => exact absurd (by simp [split']) (unplaced q)
    | country before' after' d split' coded' earliest' _ =>
      refine first_unique (fun l => ∃ e, l = .country e ∧ e.code ≠ "")
        (split.symm.trans split') ⟨c, rfl, coded⟩ ⟨d, rfl, coded'⟩ ?_ ?_
      · rintro _ member ⟨e, rfl, rival⟩
        exact rival (earliest e member)
      · rintro _ member ⟨e, rfl, rival⟩
        exact rival (earliest' e member)
    | empty _ _ uncoded _ => exact absurd (uncoded c (by simp [split])) coded
  | empty _ flag uncoded unplaced =>
    cases right with
    | position _ _ q split' _ _ => exact absurd (by simp [split']) (unplaced q)
    | country _ _ d split' coded' _ _ => exact absurd (uncoded d (by simp [split'])) coded'
    | empty _ flag' _ _ => rw [Location.empty.injEq, Bool.eq_iff_iff, flag, flag']

/-! ### Candidates of providers -/

/-- The candidate that a provider leaves to a search which has come to the best location. -/
inductive PutsUp (settings : Settings.Search) (query : Query) (best : Location) (provider : Provider) :
    Option Location → Prop where
  | skipped (closed : (provider.gate query best).isOpen = false) :
      PutsUp settings query best provider none
  | outage {name reason : String} (opened : (provider.gate query best).isOpen = true)
      (ended : provider.EndsIn settings query (.error (.unavailable name reason))) :
      PutsUp settings query best provider none
  /-- Any other fault counts as a search that found nothing. -/
  | fault {fault : Fault} (opened : (provider.gate query best).isOpen = true)
      (ended : provider.EndsIn settings query (.error fault))
      (other : ∀ name reason, fault ≠ .unavailable name reason) :
      PutsUp settings query best provider (some (.empty true))
  | answer {location : Location} (opened : (provider.gate query best).isOpen = true)
      (ended : provider.EndsIn settings query (.ok location)) :
      PutsUp settings query best provider (some location)

theorem putsUp_visit (settings : Settings.Search) (query : Query) (best : Location)
    (provider : Provider) :
    PutsUp settings query best provider
      (provider.visit settings query best).verdict.candidate? := by
  cases opened : (provider.gate query best).isOpen with
  | false =>
    rw [Provider.visit_of_closed opened]
    exact .skipped opened
  | true =>
    rw [Provider.visit_of_open opened]
    have ended : provider.EndsIn settings query _ := provider.endsIn_timely
    cases result : provider.timely settings (provider.attempt query) with
    | ok location => exact .answer opened (result ▸ ended)
    | error fault =>
      rw [result] at ended
      cases outage : fault.isOutage with
      | true =>
        obtain ⟨name, reason, rfl⟩ := Fault.isOutage_iff.mp outage
        exact .outage opened ended
      | false =>
        simp only [Verdict.ofOutcome, outage]
        exact .fault opened ended (Fault.isOutage_eq_false_iff.mp outage)

/-! ### Main result -/

/-- A search gives the winner among its candidates, and nothing else wins. Its visits follow the chain
without gaps, to the end or to a position that is accurate enough, and the candidate of each one is what
the provider puts up, asked with the winner among the candidates before it. -/
theorem wins_iff_run_location (settings : Settings.Search) (caller : Caller) (chain : List Provider)
    (query : Query) (numbered : Numbered (candidates (visits settings chain query))) :
    (∀ location, Wins (candidates (visits settings chain query)) location ↔
      (run settings caller chain query).location = location) ∧
    ((visits settings chain query).length = chain.length ∨ ∃ threshold,
      settings.earlyExit = some threshold ∧
        Suffices threshold (run settings caller chain query).location) ∧
    ∀ before visit after, visits settings chain query = before ++ visit :: after →
      ∃ provider best, chain[before.length]? = some provider ∧ Wins (candidates before) best ∧
        PutsUp settings query best provider visit.verdict.candidate? := by
  have winner (seen : List Visit) (numbers : Numbered (candidates seen)) :
      Wins (candidates seen) (locationOf seen) := by
    rw [locationOf_eq_foldl_merge]
    exact wins_foldl_merge wins_nothing _ numbers
  refine ⟨?_, length_visits_or settings caller chain query, ?_⟩
  · intro location
    have wins : Wins (candidates (visits settings chain query))
        (run settings caller chain query).location := winner _ numbered
    constructor
    · exact fun other => wins.unique other
    · rintro rfl
      exact wins
  · intro before visit after split
    obtain ⟨provider, present, rfl⟩ := visit_of_split split
    have numbers : Numbered (candidates before) := by
      intro candidate member
      refine numbered candidate ?_
      rw [split, candidates, List.filterMap_append]
      exact List.mem_append_left _ member
    exact ⟨provider, locationOf before, present, winner before numbers, putsUp_visit _ _ _ _⟩

/-- A position on the equator. -/
def onEquator (lon accuracy : Float) : Location :=
  .position ⟨⟨0.0, lon⟩, accuracy, ⟨.internal, none⟩⟩

/-- An outage, the most accurate position after its time, a country and three positions in time, of
which two are equally accurate. -/
def tiedChain : List Provider :=
  let profile : Profile := ⟨"static", .position, none, .internal⟩
  [.fixed profile none (.error (profile.unavailable "down")) 0,
    .fixed profile (some 5) (.ok (onEquator 4.0 1.0)) 6,
    .fixed profile none (.ok (.country ⟨"GB", "United Kingdom", ⟨.internal, none⟩⟩)) 0,
    .fixed profile none (.ok (onEquator 1.0 50.0)) 0,
    .fixed profile none (.ok (onEquator 2.0 10.0)) 0,
    .fixed profile none (.ok (onEquator 3.0 10.0)) 0]

/-- Of two tied positions the earlier one wins, and the one that came too late is no candidate. -/
theorem earlier_of_tied_wins :
    Numbered (candidates (visits {} tiedChain ⟨[], [], none, none⟩)) ∧
      Wins (candidates (visits {} tiedChain ⟨[], [], none, none⟩)) (onEquator 2.0 10.0) :=
  ⟨by decide,
    ((wins_iff_run_location {} ⟨"test", true, true⟩ tiedChain ⟨[], [], none, none⟩ (by decide)).1
      (onEquator 2.0 10.0)).mpr (by decide)⟩

end Geolocation.Search
