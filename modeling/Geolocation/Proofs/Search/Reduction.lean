import Geolocation.Proofs.Search.Origin
import Geolocation.Proofs.Search.Winner

/-!
# Merging in any order

A search merges its candidates one after another, and that is only one of the ways to reduce them to
one location. If accuracies are numbers and countries have codes, merging is a monoid whose identity
is the empty location that was not searched for, so candidates may be merged in groups. They may also
change places, except for those of which the earlier one is kept: equally accurate positions, and
countries. Whatever the way, the location that is left is the winner among all candidates.

Main result: `Search.merge_independent`.
-/

namespace Geolocation

open FloatOrder

namespace Location

/-- The accuracy of a position is a number, and a country has its code. -/
def IsSound : Location → Prop
  | .empty _ => True
  | .position p => p.accuracy.isNaN = false
  | .country c => c.code ≠ ""

instance : DecidablePred IsSound
  | .empty _ => inferInstanceAs (Decidable True)
  | .position p => inferInstanceAs (Decidable (p.accuracy.isNaN = false))
  | .country c => inferInstanceAs (Decidable (c.code ≠ ""))

/-- Of the two locations the earlier one is kept: both are positions of equal accuracy, or both are
countries. -/
def TiedWith : Location → Location → Prop
  | .position p, .position q => ¬ p.accuracy < q.accuracy ∧ ¬ q.accuracy < p.accuracy
  | .country _, .country _ => True
  | _, _ => False

instance : DecidableRel TiedWith
  | .position p, .position q =>
    inferInstanceAs (Decidable (¬ p.accuracy < q.accuracy ∧ ¬ q.accuracy < p.accuracy))
  | .country _, .country _ => inferInstanceAs (Decidable True)
  | .empty _, _ | .position _, .empty _ | .position _, .country _ | .country _, .empty _
  | .country _, .position _ => inferInstanceAs (Decidable False)

/-! ### Merging two and three -/

variable {a b c : Location}

theorem IsSound.merge (first : a.IsSound) (second : b.IsSound) : (a.merge b).IsSound := by
  unfold Location.merge
  split
  · exact second
  · split
    · trivial
    · exact first

theorem IsSound.empty_or_found (sound : a.IsSound) : (∃ searched, a = empty searched) ∨ a.isFound := by
  cases a with
  | empty searched => exact Or.inl ⟨searched, rfl⟩
  | position p => exact Or.inr rfl
  | country c => exact Or.inr (decide_eq_true sound)

theorem empty_merge_of_found (searched : Bool) (found : b.isFound) : (empty searched).merge b = b :=
  if_pos (Bool.and_eq_true_iff.mpr ⟨found, rfl⟩)

theorem merge_empty_of_found (found : a.isFound) (searched : Bool) : a.merge (empty searched) = a := by
  cases a with
  | empty other => cases found
  | position p => rfl
  | country c => rfl

theorem merge_country_of_found (found : a.isFound) (d : Country) : a.merge (country d) = a := by
  cases a with
  | empty other => cases found
  | position p => exact merge_position_country p d
  | country c => rw [merge_country_country, if_neg fun both => of_decide_eq_true found both.1]

theorem isFound_merge (found : a.isFound) (b : Location) : (a.merge b).isFound := by
  unfold Location.merge
  split
  next better => exact (Bool.and_eq_true_iff.mp better).1
  · split
    · cases found
    · exact found

/-- Of three positions the tightest is kept, and the earliest of several that are equally tight,
whichever two are compared first. -/
theorem merge_assoc_position (p : Position) {q : Position} (number : q.accuracy.isNaN = false)
    (r : Position) :
    ((position p).merge (position q)).merge (position r) =
      (position p).merge ((position q).merge (position r)) := by
  simp only [merge_position_position]
  by_cases qp : q.accuracy < p.accuracy <;> by_cases rq : r.accuracy < q.accuracy
  · have rp := lt_trans rq qp
    simp [merge_position_position, qp, rq, rp]
  · simp [merge_position_position, qp, rq]
  · simp [merge_position_position, qp, rq]
  · -- The last is no tighter than the middle one, which is a number and no tighter than the first.
    have rp : ¬ r.accuracy < p.accuracy := fun closer => (lt_or_lt closer number).elim rq qp
    simp [merge_position_position, qp, rq, rp]

theorem merge_assoc_of_found (first : a.isFound) (second : b.isFound) (third : c.isFound)
    (sound : b.IsSound) : (a.merge b).merge c = a.merge (b.merge c) := by
  cases c with
  | empty z => cases third
  | country e => rw [merge_country_of_found (isFound_merge first b), merge_country_of_found second]
  | position r =>
    cases b with
    | empty y => cases second
    | country d => rw [merge_country_of_found first, merge_country_position]
    | position q =>
      cases a with
      | empty x => cases first
      | position p => exact merge_assoc_position p sound r
      | country c =>
        rw [merge_country_position, merge_position_position]
        split <;> rw [merge_country_position]

theorem merge_assoc (first : a.IsSound) (second : b.IsSound) (third : c.IsSound) :
    (a.merge b).merge c = a.merge (b.merge c) := by
  rcases first.empty_or_found with ⟨x, rfl⟩ | first
  · rcases second.empty_or_found with ⟨y, rfl⟩ | found
    · rcases third.empty_or_found with ⟨z, rfl⟩ | third
      · simp only [merge_empty_empty, Bool.or_assoc]
      · simp only [merge_empty_empty, empty_merge_of_found _ third]
    · rw [empty_merge_of_found x found, empty_merge_of_found x (isFound_merge found c)]
  · rcases second.empty_or_found with ⟨y, rfl⟩ | found
    · rw [merge_empty_of_found first]
      rcases third.empty_or_found with ⟨z, rfl⟩ | third
      · rw [merge_empty_empty, merge_empty_of_found first, merge_empty_of_found first]
      · rw [empty_merge_of_found y third]
    · rcases third.empty_or_found with ⟨z, rfl⟩ | third
      · rw [merge_empty_of_found (isFound_merge first b), merge_empty_of_found found]
      · exact merge_assoc_of_found first found third second

end Location

namespace Search

variable {candidates others : List Location} {location : Location}

/-! ### Candidates that change places -/

/-- The candidates are the same, and those of which the earlier one is kept are in the same order. -/
structure Reordered (candidates others : List Location) : Prop where
  permuted : candidates.Perm others
  ordered : ∀ location ∈ candidates,
    (candidates.filter (location.TiedWith ·)) = others.filter (location.TiedWith ·)

instance : Decidable (Reordered candidates others) :=
  decidable_of_iff (candidates.Perm others ∧ ∀ location ∈ candidates,
      (candidates.filter (location.TiedWith ·)) = others.filter (location.TiedWith ·))
    ⟨fun ⟨permuted, ordered⟩ => ⟨permuted, ordered⟩, fun ⟨permuted, ordered⟩ => ⟨permuted, ordered⟩⟩

/-- The first of the candidates that are tied stays the first of them. -/
theorem Reordered.first_tied (reordered : Reordered candidates others) {before after : List Location}
    (split : candidates = before ++ location :: after) (tied : location.TiedWith location)
    (first : ∀ earlier ∈ before, ¬ location.TiedWith earlier) :
    ∃ front back, others = front ++ location :: back ∧
      ∀ earlier ∈ front, ¬ location.TiedWith earlier := by
  have kept : candidates.filter (location.TiedWith ·) =
      location :: after.filter (location.TiedWith ·) := by
    rw [split, List.filter_append, List.filter_eq_nil_iff.mpr (by simpa using first), List.nil_append,
      List.filter_cons_of_pos (by simpa using tied)]
  rw [reordered.ordered location (by simp [split])] at kept
  obtain ⟨front, back, rfl, untied, -⟩ := List.filter_eq_cons_iff.mp kept
  exact ⟨front, back, rfl, by simpa using untied⟩

theorem Tightest.reordered {p : Position} (tightest : Tightest candidates p)
    (reordered : Reordered candidates others) : Tightest others p :=
  fun q member => tightest q (reordered.permuted.mem_iff.mpr member)

theorem Wins.reordered (wins : Wins candidates location)
    (sound : ∀ candidate ∈ candidates, candidate.IsSound) (reordered : Reordered candidates others) :
    Wins others location := by
  have same {candidate : Location} : candidate ∈ others ↔ candidate ∈ candidates :=
    reordered.permuted.mem_iff.symm
  cases wins with
  | position before after p split tightest earliest =>
    have number : p.accuracy.isNaN = false := sound (.position p) (by simp [split])
    -- A position that is tied with the winner is as tight, so there is none before the winner.
    have first : ∀ earlier ∈ before, ¬ (Location.position p).TiedWith earlier := by
      intro earlier member tied
      cases earlier with
      | empty searched => exact tied
      | country c => exact tied
      | position q =>
        refine earliest q member fun r present less => ?_
        exact (lt_or_lt less number).elim (tightest r present) tied.1
    obtain ⟨front, back, rfl, untied⟩ :=
      reordered.first_tied split ⟨not_lt_self p.accuracy, not_lt_self p.accuracy⟩ first
    have tightestThere := tightest.reordered reordered
    refine .position front back p rfl tightestThere fun q member rival => ?_
    exact untied _ member ⟨rival p (by simp), tightestThere q (by simp [member])⟩
  | country before after c split coded earliest unplaced =>
    have first : ∀ earlier ∈ before, ¬ (Location.country c).TiedWith earlier := by
      intro earlier member tied
      cases earlier with
      | empty searched => exact tied
      | position q => exact tied
      | country d => exact sound (.country d) (by simp [split, member]) (earliest d member)
    obtain ⟨front, back, rfl, untied⟩ := reordered.first_tied split trivial first
    refine .country front back c rfl coded (fun d member => ?_) fun p member => ?_
    · exact absurd trivial (untied (.country d) member)
    · exact unplaced p (same.mp member)
  | empty searched flag uncoded unplaced =>
    refine .empty searched (flag.trans same.symm) (fun c member => ?_) fun p member => ?_
    · exact uncoded c (same.mp member)
    · exact unplaced p (same.mp member)

/-! ### Ways to reduce candidates to one location -/

/-- A way to merge locations two by two. -/
inductive Reduction where
  | nothing
  | single (location : Location)
  | both (left right : Reduction)

namespace Reduction

/-- The locations that are merged, from left to right. -/
def leaves : Reduction → List Location
  | nothing => []
  | single location => [location]
  | both left right => left.leaves ++ right.leaves

def result : Reduction → Location
  | nothing => .empty false
  | single location => location
  | both left right => left.result.merge right.result

end Reduction

theorem isSound_unsearched : (Location.empty false).IsSound := trivial

theorem merge_unsearched (sound : location.IsSound) : location.merge (.empty false) = location := by
  rcases sound.empty_or_found with ⟨searched, rfl⟩ | found
  · rw [Location.merge_empty_empty, Bool.or_false]
  · exact Location.merge_empty_of_found found false

theorem unsearched_merge (sound : location.IsSound) : (Location.empty false).merge location = location := by
  rcases sound.empty_or_found with ⟨searched, rfl⟩ | found
  · rw [Location.merge_empty_empty, Bool.false_or]
  · exact Location.empty_merge_of_found false found

theorem isSound_foldl_merge {best : Location} (first : best.IsSound)
    (sound : ∀ candidate ∈ candidates, candidate.IsSound) :
    (candidates.foldl Location.merge best).IsSound := by
  induction candidates generalizing best with
  | nil => exact first
  | cons candidate rest ih =>
    exact ih (first.merge (sound candidate List.mem_cons_self))
      fun other member => sound other (List.mem_cons_of_mem candidate member)

/-- To merge candidates one after another into the best is to merge their own result into it. -/
theorem foldl_merge_eq {best : Location} (first : best.IsSound)
    (sound : ∀ candidate ∈ candidates, candidate.IsSound) :
    candidates.foldl Location.merge best =
      best.merge (candidates.foldl Location.merge (.empty false)) := by
  induction candidates generalizing best with
  | nil => exact (merge_unsearched first).symm
  | cons candidate rest ih =>
    have here : candidate.IsSound := sound candidate List.mem_cons_self
    have later : ∀ other ∈ rest, other.IsSound :=
      fun other member => sound other (List.mem_cons_of_mem candidate member)
    calc rest.foldl Location.merge (best.merge candidate)
        = (best.merge candidate).merge (rest.foldl Location.merge (.empty false)) :=
          ih (first.merge here) later
      _ = best.merge (candidate.merge (rest.foldl Location.merge (.empty false))) :=
          Location.merge_assoc first here (isSound_foldl_merge isSound_unsearched later)
      _ = best.merge (rest.foldl Location.merge ((Location.empty false).merge candidate)) := by
          rw [unsearched_merge here, ih here later]

theorem Reduction.result_eq_foldl (reduction : Reduction)
    (sound : ∀ location ∈ reduction.leaves, location.IsSound) :
    reduction.result = reduction.leaves.foldl Location.merge (.empty false) := by
  induction reduction with
  | nothing => rfl
  | single location => exact (unsearched_merge (sound location (List.mem_singleton_self location))).symm
  | both left right first second =>
    have before := fun location member => sound location (List.mem_append_left right.leaves member)
    have behind := fun location member => sound location (List.mem_append_right left.leaves member)
    rw [result, first before, second behind, leaves, List.foldl_append,
      foldl_merge_eq (isSound_foldl_merge isSound_unsearched before) behind]

theorem numbered_of_sound (sound : ∀ candidate ∈ candidates, candidate.IsSound) :
    Numbered candidates := by
  intro location member accuracy known
  cases location with
  | position p =>
    cases known
    exact sound (.position p) member
  | empty searched => cases known
  | country c => cases known

theorem Reduction.wins_result (reduction : Reduction)
    (sound : ∀ location ∈ reduction.leaves, location.IsSound) :
    Wins reduction.leaves reduction.result := by
  rw [reduction.result_eq_foldl sound]
  exact wins_foldl_merge wins_nothing reduction.leaves (numbered_of_sound sound)

/-! ### The engine's own providers -/

theorem coded_of_mem_chain {locator : Locator} {caller : Caller} {wanted : Yield} {query : Query}
    {provider : Provider} (member : provider ∈ locator.chain caller wanted) (c : Country)
    (answered : (provider.attempt query).outcome = .ok (.country c)) : c.code ≠ "" := by
  rcases Locator.provider_of_mem_chain member with
    rfl | rfl | rfl | ⟨yields, rfl⟩ | ⟨ask, -, rfl⟩
  · cases Provider.answer_of_wifi answered
  · cases Provider.answer_of_cell answered
  · cases Provider.answer_of_area answered
  · obtain ⟨_, nothing⟩ | ⟨_, _, -, -, answer⟩ := Provider.answer_of_address answered
    · cases nothing
    · cases answer with
      | country names => exact names.coded
  · cases Provider.answer_of_service answered

/-! ### Main result -/

/-- Merging is a monoid on sound locations. However candidates are grouped, and in whatever order they
come as long as tied ones keep theirs, what they are reduced to is the same, and it is what a search
gives that merges them one by one. No provider of the engine answers a country without a code. -/
theorem merge_independent :
    (∀ a b : Location, a.IsSound → b.IsSound → (a.merge b).IsSound) ∧
      (∀ a b c : Location, a.IsSound → b.IsSound → c.IsSound →
        (a.merge b).merge c = a.merge (b.merge c)) ∧
      (∀ a : Location, a.IsSound →
        (Location.empty false).merge a = a ∧ a.merge (.empty false) = a) ∧
      (∀ reduction other : Reduction, (∀ location ∈ reduction.leaves, location.IsSound) →
        Reordered reduction.leaves other.leaves → reduction.result = other.result) ∧
      (∀ (settings : Settings.Search) (caller : Caller) (chain : List Provider) (query : Query)
        (reduction : Reduction),
        (∀ candidate ∈ Search.candidates (visits settings chain query), candidate.IsSound) →
        Reordered (Search.candidates (visits settings chain query)) reduction.leaves →
          (run settings caller chain query).location = reduction.result) ∧
      ∀ (locator : Locator) (caller : Caller) (wanted : Yield) (query : Query),
        ∀ provider ∈ locator.chain caller wanted, ∀ c,
          (provider.attempt query).outcome = .ok (.country c) → c.code ≠ "" := by
  have reduced {all : List Location} {best : Location} {reduction : Reduction}
      (sound : ∀ location ∈ all, location.IsSound) (wins : Wins all best)
      (reordered : Reordered all reduction.leaves) : best = reduction.result := by
    have soundThere : ∀ location ∈ reduction.leaves, location.IsSound :=
      fun location member => sound location (reordered.permuted.mem_iff.mpr member)
    exact (wins.reordered sound reordered).unique (reduction.wins_result soundThere)
  refine ⟨fun a b => .merge, fun a b c => Location.merge_assoc, fun a sound => ?_, ?_, ?_, ?_⟩
  · exact ⟨unsearched_merge sound, merge_unsearched sound⟩
  · exact fun reduction other sound => reduced sound (reduction.wins_result sound)
  · intro settings caller chain query reduction sound
    have merged : (run settings caller chain query).location =
        (candidates (visits settings chain query)).foldl Location.merge (.empty false) :=
      locationOf_eq_foldl_merge _
    rw [merged]
    exact reduced sound (wins_foldl_merge wins_nothing _ (numbered_of_sound sound))
  · exact fun locator caller wanted query provider => coded_of_mem_chain

/-- The candidates of a search in two groups, the country behind two of the positions. -/
def twoGroups : Reduction :=
  .both (.both (.single (onEquator 2.0 10.0)) (.single (onEquator 1.0 50.0)))
    (.both (.single (onEquator 3.0 10.0))
      (.single (.country ⟨"GB", "United Kingdom", ⟨.internal, none⟩⟩)))

/-- The search gives what its candidates come to in two groups. -/
theorem run_tied_eq_twoGroups :
    (run {} ⟨"test", true, true⟩ tiedChain ⟨[], [], none, none⟩).location = twoGroups.result ∧
      twoGroups.result = onEquator 2.0 10.0 :=
  ⟨merge_independent.2.2.2.2.1 {} ⟨"test", true, true⟩ tiedChain ⟨[], [], none, none⟩ twoGroups
    (by decide) (by decide), by decide⟩

end Search

end Geolocation
