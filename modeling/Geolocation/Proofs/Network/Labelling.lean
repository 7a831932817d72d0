import Geolocation.Network.Component
import Mathlib.Data.List.Sort
import Mathlib.Logic.Relation

/-!
# Labels of connected components

What the labels of components mean when the test of links always comes to an answer, and that the
search fails with the first test of the first item that fails.

A step takes one item off the stack and labels the items that are linked from it.
`Filling.Invariant` is what such steps keep while one component is filled; `Labelling.Ordered` and
`Labelling.Exact` are what one component after the other keeps. Only `Exact` needs links to be
symmetric.
-/

namespace Geolocation.Component

variable {n : Nat} {ε : Type} {linked : Fin n → Fin n → Except ε Bool} {link : Fin n → Fin n → Bool}

/-- The answers of the test on different items. An item is never tested against itself. -/
def Answers (linked : Fin n → Fin n → Except ε Bool) (link : Fin n → Fin n → Bool) : Prop :=
  ∀ i j, i ≠ j → linked i j = .ok (link i j)

/-- A chain of links leads from one item to another. -/
def Joined (link : Fin n → Fin n → Bool) : Fin n → Fin n → Prop :=
  Relation.ReflTransGen fun i j => link i j = true

/-- The items before one item of a list of all of them are the smaller ones. -/
theorem mem_iff_lt_of_finRange {item : Fin n} {done rest : List (Fin n)}
    (split : List.finRange n = done ++ item :: rest) (i : Fin n) : i ∈ done ↔ i < item := by
  have sorted : (done ++ item :: rest).Pairwise (· < ·) :=
    split ▸ (List.sortedLT_finRange n).pairwise
  obtain ⟨_, later, between⟩ := List.pairwise_append.mp sorted
  constructor
  · intro member
    exact between i member item (List.mem_cons_self ..)
  · intro less
    have everywhere : i ∈ done ++ item :: rest := split ▸ List.mem_finRange i
    rcases List.mem_append.mp everywhere with member | member
    · exact member
    · rcases List.mem_cons.mp member with rfl | member
      · exact absurd less (lt_irrefl i)
      · exact absurd less (lt_asymm (List.rel_of_pairwise_cons later member))

namespace Filling

/-! ### Taking items in -/

theorem label_take (label : Nat) (filling : Filling n) (item k : Fin n) :
    (filling.take label item).labels.of k =
      if k = item then some label else filling.labels.of k := by
  simp [take]

/-- Takes several items into the component. -/
def takeAll (label : Nat) (filling : Filling n) (items : List (Fin n)) : Filling n :=
  items.foldl (take label) filling

theorem takeAll_cons (label : Nat) (filling : Filling n) (item : Fin n) (rest : List (Fin n)) :
    filling.takeAll label (item :: rest) = (filling.take label item).takeAll label rest := rfl

theorem label_takeAll (label : Nat) (filling : Filling n) (items : List (Fin n)) (k : Fin n) :
    (filling.takeAll label items).labels.of k =
      if k ∈ items then some label else filling.labels.of k := by
  induction items generalizing filling with
  | nil => simp [takeAll]
  | cons item rest ih =>
    rw [takeAll_cons, ih, label_take]
    by_cases later : k ∈ rest <;> by_cases here : k = item <;> simp [later, here]

theorem stack_takeAll (label : Nat) (filling : Filling n) (items : List (Fin n)) :
    (filling.takeAll label items).stack = items.reverse ++ filling.stack := by
  induction items generalizing filling with
  | nil => rfl
  | cons item rest ih =>
    rw [takeAll_cons, ih]
    simp [take]

/-! ### Following links -/

/-- The items that following the links of an item takes in. -/
def fresh (link : Fin n → Fin n → Bool) (labels : Labels n) (item : Fin n) (others : List (Fin n)) :
    List (Fin n) :=
  others.filter fun other => (labels.of other).isNone && link item other

theorem mem_fresh {labels : Labels n} {item other : Fin n} {others : List (Fin n)} :
    other ∈ fresh link labels item others ↔
      other ∈ others ∧ labels.of other = none ∧ link item other = true := by
  simp [fresh]

/-- Items that have a label keep it. -/
theorem label_takeAll_fresh {label : Nat} {filling : Filling n} {stack : List (Fin n)} {item k : Fin n}
    {others : List (Fin n)} (labelled : (filling.labels.of k).isSome) :
    (takeAll label ⟨filling.labels, stack⟩ (fresh link filling.labels item others)).labels.of k =
      filling.labels.of k := by
  rw [label_takeAll, if_neg]
  intro member
  simp [(mem_fresh.mp member).2.1] at labelled

theorem consider_of_labelled {label : Nat} {item other : Fin n} {filling : Filling n}
    (labelled : (filling.labels.of other).isSome) :
    consider linked label item filling other = .ok filling := by
  simp only [consider, labelled, if_true]

theorem consider_of_ok {label : Nat} {item other : Fin n} {filling : Filling n} {isLinked : Bool}
    (unlabelled : filling.labels.of other = none) (tested : linked item other = .ok isLinked) :
    consider linked label item filling other =
      .ok (if isLinked then filling.take label other else filling) := by
  simp only [consider, unlabelled, tested, Option.isSome_none, Bool.false_eq_true, if_false]

theorem consider_of_error {label : Nat} {item other : Fin n} {filling : Filling n} {fault : ε}
    (unlabelled : filling.labels.of other = none) (tested : linked item other = .error fault) :
    consider linked label item filling other = .error fault := by
  simp only [consider, unlabelled, tested, Option.isSome_none, Bool.false_eq_true, if_false]

/-- Following links from a labelled item takes in exactly the items that are linked from it and have
no label. -/
theorem foldlM_consider (answers : Answers linked link) (label : Nat) (item : Fin n)
    (others : List (Fin n)) (distinct : others.Nodup) (filling : Filling n)
    (labelled : (filling.labels.of item).isSome) :
    others.foldlM (consider linked label item) filling =
      .ok (filling.takeAll label (fresh link filling.labels item others)) := by
  induction others generalizing filling with
  | nil => rfl
  | cons other rest ih =>
    obtain ⟨new, distinct⟩ := List.nodup_cons.mp distinct
    rw [List.foldlM_cons]
    cases known : filling.labels.of other with
    | some _ =>
      rw [consider_of_labelled (by simp [known])]
      change rest.foldlM _ filling = _
      rw [ih distinct filling labelled]
      simp [fresh, known]
    | none =>
      have different : item ≠ other := by
        rintro rfl
        simp [known] at labelled
      rw [consider_of_ok known (answers item other different)]
      cases isLinked : link item other with
      | false =>
        change rest.foldlM _ filling = _
        rw [ih distinct filling labelled]
        simp [fresh, isLinked]
      | true =>
        change rest.foldlM _ (filling.take label other) = _
        have still : ((filling.take label other).labels.of item).isSome := by
          rw [label_take]
          split <;> simp_all
        -- Taking in `other` changes no label that is looked at later.
        have same : fresh link (filling.take label other).labels item rest =
            fresh link filling.labels item rest := by
          apply List.filter_congr
          intro later member
          have unequal : later ≠ other := fun equal => new (equal ▸ member)
          rw [label_take, if_neg unequal]
        rw [ih distinct _ still, same]
        simp [fresh, isLinked, known, takeAll]

/-- Following links fails with the first test that fails. -/
theorem foldlM_consider_error {label : Nat} {item bad : Fin n} {fault : ε}
    {before after : List (Fin n)} {filling : Filling n} (absent : bad ∉ before)
    (unlabelled : filling.labels.of bad = none)
    (passed : ∀ other ∈ before,
      (filling.labels.of other).isSome ∨ ∃ answer, linked item other = .ok answer)
    (failed : linked item bad = .error fault) :
    (before ++ bad :: after).foldlM (consider linked label item) filling = .error fault := by
  induction before generalizing filling with
  | nil =>
    rw [List.nil_append, List.foldlM_cons, consider_of_error unlabelled failed]
    rfl
  | cons other rest ih =>
    obtain ⟨different, absent⟩ := not_or.mp (List.mem_cons.not.mp absent)
    have restPassed := fun later member => passed later (List.mem_cons_of_mem other member)
    rw [List.cons_append, List.foldlM_cons]
    rcases passed other (List.mem_cons_self ..) with labelled | ⟨answer, tested⟩
    · rw [consider_of_labelled labelled]
      exact ih absent unlabelled restPassed
    · cases known : filling.labels.of other with
      | some _ =>
        rw [consider_of_labelled (by rw [known]; rfl)]
        exact ih absent unlabelled restPassed
      | none =>
        rw [consider_of_ok known tested]
        cases answer with
        | false => exact ih absent unlabelled restPassed
        | true =>
          apply ih absent
          · rw [if_pos rfl, label_take, if_neg different, unlabelled]
          · intro later member
            rw [if_pos rfl, label_take]
            split
            · exact .inl rfl
            · exact restPassed later member

theorem follow_eq (answers : Answers linked link) (label : Nat) (item : Fin n) (filling : Filling n)
    (labelled : (filling.labels.of item).isSome) :
    follow linked label item filling =
      .ok (filling.takeAll label (fresh link filling.labels item (List.finRange n))) :=
  foldlM_consider answers label item _ (List.nodup_finRange n) filling labelled

/-! ### Filling a component -/

/-- What holds while the component of a root is filled, given the labels known before. -/
structure Invariant (link : Fin n → Fin n → Bool) (known : Labels n) (label : Nat) (root : Fin n)
    (filling : Filling n) : Prop where
  /-- An item has its old label, or the new one because a chain of links leads to it. -/
  grown : ∀ k, filling.labels.of k = known.of k ∨
    known.of k = none ∧ filling.labels.of k = some label ∧ Joined link root k
  rooted : known.of root = none ∧ filling.labels.of root = some label
  stacked : ∀ i ∈ filling.stack, known.of i = none ∧ filling.labels.of i = some label
  /-- What is linked from a new item has a label once the item has left the stack. -/
  followed : ∀ i, known.of i = none → filling.labels.of i = some label → i ∉ filling.stack →
    ∀ j, link i j = true → (filling.labels.of j).isSome

variable {known : Labels n} {label : Nat} {root : Fin n} {filling : Filling n}

theorem Invariant.begin (unlabelled : known.of root = none) :
    Invariant link known label root (take label ⟨known, []⟩ root) := by
  have labels (k : Fin n) : (take label ⟨known, []⟩ root).labels.of k =
      if k = root then some label else known.of k := label_take label ⟨known, []⟩ root k
  refine ⟨?_, ⟨unlabelled, by rw [labels, if_pos rfl]⟩, ?_, ?_⟩
  · intro k
    rw [labels]
    by_cases here : k = root
    · subst here
      exact .inr ⟨unlabelled, if_pos rfl, .refl⟩
    · exact .inl (if_neg here)
  · intro i member
    obtain rfl : i = root := List.mem_singleton.mp member
    exact ⟨unlabelled, by rw [labels, if_pos rfl]⟩
  · intro i new labelled off
    rw [labels] at labelled
    split at labelled
    next here => exact absurd (List.mem_singleton.mpr here) off
    · rw [new] at labelled
      cases labelled

theorem Invariant.reached (invariant : Invariant link known label root filling) {k : Fin n}
    (new : known.of k = none) (labelled : filling.labels.of k = some label) :
    Joined link root k := by
  rcases invariant.grown k with old | ⟨_, _, reached⟩
  · rw [old, new] at labelled
    cases labelled
  · exact reached

theorem Invariant.unknown (invariant : Invariant link known label root filling) {k : Fin n}
    (unlabelled : filling.labels.of k = none) : known.of k = none := by
  rcases invariant.grown k with old | ⟨new, _, _⟩
  · rw [← old, unlabelled]
  · exact new

/-- Following the links of the item on top of the stack keeps the invariant. -/
theorem Invariant.follow {item : Fin n} {stack : List (Fin n)}
    (invariant : Invariant link known label root filling) (top : filling.stack = item :: stack) :
    Invariant link known label root (takeAll label ⟨filling.labels, stack⟩
      (fresh link filling.labels item (List.finRange n))) := by
  obtain ⟨itemNew, itemLabelled⟩ := invariant.stacked item (by simp [top])
  have reached := invariant.reached itemNew itemLabelled
  generalize taken : fresh link filling.labels item (List.finRange n) = items
  have mem_items (k : Fin n) : k ∈ items ↔ filling.labels.of k = none ∧ link item k = true := by
    rw [← taken, mem_fresh]
    simp
  have labels (k : Fin n) : (takeAll label ⟨filling.labels, stack⟩ items).labels.of k =
      if k ∈ items then some label else filling.labels.of k := label_takeAll label _ items k
  have stays (k : Fin n) (labelled : (filling.labels.of k).isSome) :
      (takeAll label ⟨filling.labels, stack⟩ items).labels.of k = filling.labels.of k := by
    rw [← taken]
    exact label_takeAll_fresh labelled
  refine ⟨?_, ⟨invariant.rooted.1, ?_⟩, ?_, ?_⟩
  · intro k
    rw [labels]
    by_cases member : k ∈ items
    · obtain ⟨unlabelled, isLinked⟩ := (mem_items k).mp member
      exact .inr ⟨invariant.unknown unlabelled, if_pos member, reached.tail isLinked⟩
    · rw [if_neg member]
      exact invariant.grown k
  · rw [stays root (by simp [invariant.rooted.2]), invariant.rooted.2]
  · intro i member
    rw [stack_takeAll, List.mem_append, List.mem_reverse] at member
    rcases member with new | old
    · exact ⟨invariant.unknown ((mem_items i).mp new).1, by rw [labels, if_pos new]⟩
    · obtain ⟨new, labelled⟩ := invariant.stacked i (by simp [top, old])
      exact ⟨new, by rw [stays i (by simp [labelled]), labelled]⟩
  · intro i new labelled off j isLinked
    rw [stack_takeAll, List.mem_append, List.mem_reverse, not_or] at off
    rw [labels, if_neg off.1] at labelled
    by_cases here : i = item
    · -- The links of the top item have just been followed.
      subst here
      rw [labels]
      by_cases member : j ∈ items
      · simp [member]
      · rw [if_neg member]
        apply Option.isSome_iff_ne_none.mpr
        intro unlabelled
        exact member ((mem_items j).mpr ⟨unlabelled, isLinked⟩)
    · have before := invariant.followed i new labelled (by simp [top, here, off.2]) j isLinked
      rw [stays j before]
      exact before

theorem fill_of_error {item : Fin n} {stack : List (Fin n)} {fault : ε}
    (top : filling.stack = item :: stack)
    (failed : Filling.follow linked label item ⟨filling.labels, stack⟩ = .error fault) :
    fill linked label filling = .error fault := by
  rw [fill]
  split
  next empty =>
    rw [top] at empty
    cases empty
  next other rest taken =>
    obtain ⟨rfl, rfl⟩ := List.cons.inj (top.symm.trans taken)
    split
    next reported =>
      rw [failed] at reported
      exact congrArg Except.error (Except.error.inj reported).symm
    next followed =>
      rw [failed] at followed
      cases followed

/-- Filling comes to an end with everything followed. -/
theorem fill_ok (answers : Answers linked link)
    (invariant : Invariant link known label root filling) :
    ∃ labels, fill linked label filling = .ok labels ∧
      Invariant link known label root ⟨labels, []⟩ := by
  fun_induction fill linked label filling with
  | case1 filling empty =>
    refine ⟨filling.labels, rfl, ?_⟩
    rw [← empty]
    exact invariant
  | case2 filling item stack top fault failed =>
    have labelled := (invariant.stacked item (by simp [top])).2
    rw [follow_eq answers label item ⟨filling.labels, stack⟩ (by simp [labelled])] at failed
    cases failed
  | case3 filling item stack top next followed ih =>
    have labelled := (invariant.stacked item (by simp [top])).2
    rw [follow_eq answers label item ⟨filling.labels, stack⟩ (by simp [labelled])] at followed
    obtain rfl := Except.ok.inj followed
    exact ih (invariant.follow top)

/-- After filling, an item has the label it had, or it had none and belongs to the root. -/
theorem Invariant.label_cases {labels : Labels n}
    (invariant : Invariant link known label root ⟨labels, []⟩) {k : Fin n} {l : Nat}
    (labelled : labels.of k = some l) :
    known.of k = some l ∨ known.of k = none ∧ l = label ∧ Joined link root k := by
  rcases invariant.grown k with old | ⟨new, same, reached⟩
  · exact .inl (old ▸ labelled)
  · exact .inr ⟨new, Option.some.inj (labelled.symm.trans same), reached⟩

theorem Invariant.keeps {labels : Labels n}
    (invariant : Invariant link known label root ⟨labels, []⟩) {k : Fin n} {l : Nat}
    (labelled : known.of k = some l) : labels.of k = some l := by
  rcases invariant.grown k with old | ⟨new, _, _⟩
  · exact old.trans labelled
  · rw [new] at labelled
    cases labelled

end Filling

namespace Labelling

/-! ### Order of labels -/

/-- What holds of the labels after some items have been taken in order, whatever the links are. -/
structure Ordered (done : List (Fin n)) (labelling : Labelling n) : Prop where
  bounded : ∀ (k : Fin n) (l : Nat), labelling.labels.of k = some l → l < labelling.count
  labelled : ∀ i ∈ done, (labelling.labels.of i).isSome
  used : ∀ l < labelling.count, ∃ i ∈ done, labelling.labels.of i = some l
  /-- Every smaller label is used by an earlier item. -/
  first : ∀ (j : Fin n) (l : Nat), labelling.labels.of j = some l →
    ∀ smaller < l, ∃ i : Fin n, i < j ∧ labelling.labels.of i = some smaller

variable {labelling : Labelling n} {labels : Labels n} {root : Fin n} {done : List (Fin n)}

theorem Ordered.blank : Ordered [] (blank n) := by
  refine ⟨?_, nofun, nofun, ?_⟩
  · intro k l labelled
    simp [Labelling.blank] at labelled
  · intro j l labelled
    simp [Labelling.blank] at labelled

theorem Ordered.skip (ordered : Ordered done labelling)
    (labelled : (labelling.labels.of root).isSome) : Ordered (done ++ [root]) labelling := by
  refine ⟨ordered.bounded, ?_, ?_, ordered.first⟩
  · intro i member
    rcases List.mem_append.mp member with old | new
    · exact ordered.labelled i old
    · rwa [List.mem_singleton.mp new]
  · intro l less
    obtain ⟨i, member, used⟩ := ordered.used l less
    exact ⟨i, List.mem_append_left _ member, used⟩

/-- A component that is filled from the next item keeps the order of labels. -/
theorem Ordered.fill (ordered : Ordered done labelling) (before : ∀ i, i ∈ done ↔ i < root)
    (invariant : Filling.Invariant link labelling.labels labelling.count root ⟨labels, []⟩) :
    Ordered (done ++ [root]) ⟨labels, labelling.count + 1⟩ := by
  refine ⟨?_, ?_, ?_, ?_⟩
  · intro k l labelled
    rcases invariant.label_cases labelled with old | ⟨_, rfl, _⟩
    · exact Nat.lt_succ_of_lt (ordered.bounded k l old)
    · exact Nat.lt_succ_self _
  · intro i member
    rcases List.mem_append.mp member with old | new
    · obtain ⟨l, known⟩ := Option.isSome_iff_exists.mp (ordered.labelled i old)
      rw [invariant.keeps known]
      rfl
    · rw [List.mem_singleton.mp new, invariant.rooted.2]
      rfl
  · intro l less
    rcases Nat.lt_succ_iff_lt_or_eq.mp less with old | rfl
    · obtain ⟨i, member, used⟩ := ordered.used l old
      exact ⟨i, List.mem_append_left _ member, invariant.keeps used⟩
    · exact ⟨root, by simp, invariant.rooted.2⟩
  · intro j l labelled smaller less
    rcases invariant.label_cases labelled with old | ⟨new, rfl, _⟩
    · obtain ⟨i, earlier, used⟩ := ordered.first j l old smaller less
      exact ⟨i, earlier, invariant.keeps used⟩
    · obtain ⟨i, member, used⟩ := ordered.used smaller less
      -- A new item cannot stand before the root, for all items there have old labels.
      have later : ¬ j < root := by
        intro earlier
        have old := ordered.labelled j ((before j).mpr earlier)
        simp [new] at old
      have earlier : i < j := lt_of_lt_of_le ((before i).mp member) (not_lt.mp later)
      exact ⟨i, earlier, invariant.keeps used⟩

/-! ### Meaning of labels -/

/-- Labels that tell which items are joined by chains of links. -/
structure Exact (link : Fin n → Fin n → Bool) (labelling : Labelling n) : Prop where
  closed : ∀ (i j : Fin n) (l : Nat), labelling.labels.of i = some l → link i j = true →
    labelling.labels.of j = some l
  joined : ∀ (i j : Fin n) (l : Nat), labelling.labels.of i = some l →
    labelling.labels.of j = some l → Joined link i j

theorem Exact.label_of_joined {labelling : Labelling n} {i j : Fin n} {l : Nat}
    (exact : Exact link labelling) (joined : Joined link i j)
    (labelled : labelling.labels.of i = some l) : labelling.labels.of j = some l := by
  induction joined with
  | refl => exact labelled
  | tail _ last ih => exact exact.closed _ _ l ih last

theorem Exact.blank : Exact link (blank n) := by
  constructor <;> intro i j l labelled <;> simp [Labelling.blank] at labelled

end Labelling

theorem Joined.symm (symmetric : ∀ i j, link i j = link j i) {i j : Fin n}
    (joined : Joined link i j) : Joined link j i := by
  induction joined with
  | refl => exact .refl
  | tail _ last ih => exact .head (by rw [symmetric]; exact last) ih

namespace Labelling

variable {labelling : Labelling n} {labels : Labels n} {root : Fin n} {done : List (Fin n)}

/-- A component that is filled is closed under symmetric links and joined to its root. -/
theorem Exact.fill (symmetric : ∀ i j, link i j = link j i) (ordered : Ordered done labelling)
    (exact : Exact link labelling)
    (invariant : Filling.Invariant link labelling.labels labelling.count root ⟨labels, []⟩) :
    Exact link ⟨labels, labelling.count + 1⟩ := by
  have stale {k : Fin n} (old : labelling.labels.of k = some labelling.count) : False :=
    Nat.lt_irrefl _ (ordered.bounded k _ old)
  constructor
  · intro i j l labelled isLinked
    rcases invariant.label_cases labelled with old | ⟨new, rfl, _⟩
    · exact invariant.keeps (exact.closed i j l old isLinked)
    · obtain ⟨other, found⟩ := Option.isSome_iff_exists.mp
        (invariant.followed i new labelled List.not_mem_nil j isLinked)
      rcases invariant.label_cases found with old | ⟨_, rfl, _⟩
      · -- Then the earlier component of `j` would have taken in `i`.
        have back := exact.closed j i other old (by rw [symmetric]; exact isLinked)
        rw [new] at back
        cases back
      · exact found
  · intro i j l first second
    rcases invariant.label_cases first with oldFirst | ⟨_, rfl, toFirst⟩ <;>
      rcases invariant.label_cases second with oldSecond | ⟨_, same, toSecond⟩
    · exact exact.joined i j l oldFirst oldSecond
    · exact (stale (same ▸ oldFirst)).elim
    · exact (stale oldSecond).elim
    · exact (toFirst.symm symmetric).trans toSecond

/-! ### Starting components in order -/

theorem start_of_labelled (labelled : (labelling.labels.of root).isSome) :
    start linked labelling root = .ok labelling := by
  simp only [start, labelled, if_true]

theorem start_of_unlabelled (answers : Answers linked link)
    (unlabelled : labelling.labels.of root = none) :
    ∃ labels, start linked labelling root = .ok ⟨labels, labelling.count + 1⟩ ∧
      Filling.Invariant link labelling.labels labelling.count root ⟨labels, []⟩ := by
  obtain ⟨labels, filled, invariant⟩ := Filling.fill_ok answers (Filling.Invariant.begin unlabelled)
  refine ⟨labels, ?_, invariant⟩
  simp only [start, unlabelled, Option.isSome_none, Bool.false_eq_true, if_false, filled]

/-- Taking the next item keeps the order of labels, and their meaning if links are symmetric. -/
theorem start_ok (answers : Answers linked link) (before : ∀ i, i ∈ done ↔ i < root)
    (ordered : Ordered done labelling)
    (exact : (∀ i j, link i j = link j i) → Exact link labelling) :
    ∃ next, start linked labelling root = .ok next ∧ Ordered (done ++ [root]) next ∧
      ((∀ i j, link i j = link j i) → Exact link next) := by
  cases known : labelling.labels.of root with
  | some label =>
    have labelled : (labelling.labels.of root).isSome := by rw [known]; rfl
    exact ⟨labelling, start_of_labelled labelled, ordered.skip labelled, exact⟩
  | none =>
    obtain ⟨labels, started, invariant⟩ := start_of_unlabelled answers known
    exact ⟨_, started, ordered.fill before invariant,
      fun symmetric => (exact symmetric).fill symmetric ordered invariant⟩

/-- Labelling comes to an end with labels in order, which tell what symmetric links join. -/
theorem ofTest_ok (answers : Answers linked link) :
    ∃ labelling, ofTest linked = .ok labelling ∧ Ordered (List.finRange n) labelling ∧
      ((∀ i j, link i j = link j i) → Exact link labelling) := by
  suffices general : ∀ rest done : List (Fin n), List.finRange n = done ++ rest →
      ∀ labelling, Ordered done labelling → ((∀ i j, link i j = link j i) → Exact link labelling) →
      ∃ final, rest.foldlM (start linked) labelling = .ok final ∧ Ordered (List.finRange n) final ∧
        ((∀ i j, link i j = link j i) → Exact link final) from
    general _ [] rfl (blank n) .blank fun _ => .blank
  intro rest
  induction rest with
  | nil =>
    intro done split labelling ordered exact
    rw [List.append_nil] at split
    exact ⟨labelling, rfl, split ▸ ordered, exact⟩
  | cons item rest ih =>
    intro done split labelling ordered exact
    obtain ⟨next, started, ordered, exact⟩ :=
      start_ok answers (mem_iff_lt_of_finRange split) ordered exact
    rw [List.foldlM_cons, started]
    exact ih (done ++ [item]) (by simp [split]) next ordered exact

/-- If the first item cannot be tested against some other one, labelling fails with the first such
test. -/
theorem ofTest_error (first bad : Fin n) {fault : ε} (least : ∀ i, first ≤ i)
    (different : bad ≠ first)
    (passed : ∀ j < bad, j ≠ first → ∃ answer, linked first j = .ok answer)
    (failed : linked first bad = .error fault) : ofTest linked = .error fault := by
  have started : start linked (blank n) first = .error fault := by
    have unlabelled : (blank n).labels.of first = none := by simp [blank]
    simp only [start, unlabelled, Option.isSome_none, Bool.false_eq_true, if_false]
    rw [Filling.fill_of_error rfl]
    obtain ⟨before, after, split⟩ := List.append_of_mem (List.mem_finRange bad)
    have smaller := mem_iff_lt_of_finRange split
    have labels (k : Fin n) : (Filling.take 0 ⟨(blank n).labels, []⟩ first).labels.of k =
        if k = first then some 0 else none := by
      rw [Filling.label_take]
      simp [blank]
    rw [Filling.follow, split]
    apply Filling.foldlM_consider_error (fun member => lt_irrefl bad ((smaller bad).mp member))
    · exact (labels bad).trans (if_neg different)
    · intro other member
      by_cases here : other = first
      · left
        exact (labels other).trans (if_pos here) ▸ rfl
      · exact .inr (passed other ((smaller other).mp member) here)
    · exact failed
  -- The first item stands at the head of all items.
  obtain ⟨before, after, split⟩ := List.append_of_mem (List.mem_finRange first)
  have empty : before = [] := List.eq_nil_iff_forall_not_mem.mpr fun i member =>
    absurd ((mem_iff_lt_of_finRange split i).mp member) (not_lt.mpr (least i))
  rw [ofTest, split, empty, List.nil_append, List.foldlM_cons, started]
  rfl

end Labelling

end Geolocation.Component
