import Geolocation.Proofs.Network.SingleLinkage
import Mathlib.Order.WellFounded

/-!
# Runs of the labelling

The rules below say step by step what the loops of the labelling do: which items a turn looks at, when
it tests a link, and when it puts an item on the stack. A run notes the items in the order in which
they are put there. Nothing is assumed of the test: it may answer differently either way round, and it
may fail.

A derivation by the rules is a run that comes to its end. There is one for every test, with the outcome
of `Labelling.ofTest`. `Records` is what each part of a run keeps: the items that it has noted had no
label before, have one now, and are the only ones to have got one. So no item is noted twice, and a run
that does not fail notes every item.

Main result: `Labelling.runs_safely`.
-/

namespace Geolocation.Component

variable {n : Nat} {ε : Type} {linked : Fin n → Fin n → Except ε Bool}

/-! ### Rules -/

namespace Filling

/-- A turn follows the links of an item to some others. It notes what it puts on the stack. -/
inductive Follows (linked : Fin n → Fin n → Except ε Bool) (label : Nat) (item : Fin n) :
    List (Fin n) → Filling n → List (Fin n) → Except ε (Filling n) → Prop
  | done {filling : Filling n} : Follows linked label item [] filling [] (.ok filling)
  | labelled {other : Fin n} {rest pushed : List (Fin n)} {filling : Filling n}
      {outcome : Except ε (Filling n)} (known : (filling.labels.of other).isSome)
      (later : Follows linked label item rest filling pushed outcome) :
      Follows linked label item (other :: rest) filling pushed outcome
  | apart {other : Fin n} {rest pushed : List (Fin n)} {filling : Filling n}
      {outcome : Except ε (Filling n)} (unlabelled : filling.labels.of other = none)
      (tested : linked item other = .ok false)
      (later : Follows linked label item rest filling pushed outcome) :
      Follows linked label item (other :: rest) filling pushed outcome
  -- The label is given when the item is put on the stack, not when it leaves it.
  | taken {other : Fin n} {rest pushed : List (Fin n)} {filling : Filling n}
      {outcome : Except ε (Filling n)} (unlabelled : filling.labels.of other = none)
      (tested : linked item other = .ok true)
      (later : Follows linked label item rest (filling.take label other) pushed outcome) :
      Follows linked label item (other :: rest) filling (other :: pushed) outcome
  | failed {other : Fin n} {rest : List (Fin n)} {filling : Filling n} {fault : ε}
      (unlabelled : filling.labels.of other = none) (tested : linked item other = .error fault) :
      Follows linked label item (other :: rest) filling [] (.error fault)

/-- Turns are made until the stack is empty, each for the item on top of it. -/
inductive Fills (linked : Fin n → Fin n → Except ε Bool) (label : Nat) :
    Filling n → List (Fin n) → Except ε (Labels n) → Prop
  | done {labels : Labels n} : Fills linked label ⟨labels, []⟩ [] (.ok labels)
  | turn {labels : Labels n} {item : Fin n} {stack pushed more : List (Fin n)} {next : Filling n}
      {outcome : Except ε (Labels n)}
      (followed : Follows linked label item (List.finRange n) ⟨labels, stack⟩ pushed (.ok next))
      (later : Fills linked label next more outcome) :
      Fills linked label ⟨labels, item :: stack⟩ (pushed ++ more) outcome
  | failed {labels : Labels n} {item : Fin n} {stack pushed : List (Fin n)} {fault : ε}
      (followed : Follows linked label item (List.finRange n) ⟨labels, stack⟩ pushed (.error fault)) :
      Fills linked label ⟨labels, item :: stack⟩ pushed (.error fault)

end Filling

namespace Labelling

/-- Items are taken in order. One without a label is put on the empty stack with a new label. -/
inductive Starts (linked : Fin n → Fin n → Except ε Bool) :
    List (Fin n) → Labelling n → List (Fin n) → Except ε (Labelling n) → Prop
  | done {labelling : Labelling n} : Starts linked [] labelling [] (.ok labelling)
  | labelled {item : Fin n} {rest pushed : List (Fin n)} {labelling : Labelling n}
      {outcome : Except ε (Labelling n)} (known : (labelling.labels.of item).isSome)
      (later : Starts linked rest labelling pushed outcome) :
      Starts linked (item :: rest) labelling pushed outcome
  | filled {item : Fin n} {rest pushed more : List (Fin n)} {labelling : Labelling n}
      {labels : Labels n} {outcome : Except ε (Labelling n)}
      (unlabelled : labelling.labels.of item = none)
      (fills : Filling.Fills linked labelling.count
        (Filling.take labelling.count ⟨labelling.labels, []⟩ item) pushed (.ok labels))
      (later : Starts linked rest ⟨labels, labelling.count + 1⟩ more outcome) :
      Starts linked (item :: rest) labelling (item :: (pushed ++ more)) outcome
  | failed {item : Fin n} {rest pushed : List (Fin n)} {labelling : Labelling n} {fault : ε}
      (unlabelled : labelling.labels.of item = none)
      (fills : Filling.Fills linked labelling.count
        (Filling.take labelling.count ⟨labelling.labels, []⟩ item) pushed (.error fault)) :
      Starts linked (item :: rest) labelling (item :: pushed) (.error fault)

/-- A whole run, with the items that are put on the stack and how it ends. -/
def Runs (linked : Fin n → Fin n → Except ε Bool) (pushed : List (Fin n))
    (outcome : Except ε (Labelling n)) : Prop :=
  Starts linked (List.finRange n) (blank n) pushed outcome

end Labelling

/-! ### Runs come to their end -/

namespace Filling

variable {label : Nat} {item : Fin n}

theorem exists_follows (others : List (Fin n)) (filling : Filling n) :
    ∃ pushed, Follows linked label item others filling pushed
      (others.foldlM (consider linked label item) filling) := by
  induction others generalizing filling with
  | nil => exact ⟨[], .done⟩
  | cons other rest ih =>
    rw [List.foldlM_cons]
    cases known : filling.labels.of other with
    | some _ =>
      have labelled : (filling.labels.of other).isSome := by rw [known]; rfl
      rw [consider_of_labelled labelled]
      obtain ⟨pushed, later⟩ := ih filling
      exact ⟨pushed, .labelled labelled later⟩
    | none =>
      cases tested : linked item other with
      | error fault =>
        rw [consider_of_error known tested]
        exact ⟨[], .failed known tested⟩
      | ok isLinked =>
        rw [consider_of_ok known tested]
        cases isLinked with
        | false =>
          obtain ⟨pushed, later⟩ := ih filling
          exact ⟨pushed, .apart known tested later⟩
        | true =>
          obtain ⟨pushed, later⟩ := ih (filling.take label other)
          exact ⟨other :: pushed, .taken known tested later⟩

theorem exists_turn (linked : Fin n → Fin n → Except ε Bool) (label : Nat) (item : Fin n)
    (filling : Filling n) : ∃ pushed, Follows linked label item (List.finRange n) filling pushed
      (follow linked label item filling) :=
  exists_follows (List.finRange n) filling

theorem Follows.outcome_eq {others pushed : List (Fin n)} {filling : Filling n}
    {outcome : Except ε (Filling n)}
    (follows : Follows linked label item others filling pushed outcome) :
    others.foldlM (consider linked label item) filling = outcome := by
  induction follows with
  | done => rfl
  | labelled known _ ih =>
    rw [List.foldlM_cons, consider_of_labelled known]
    exact ih
  | apart unlabelled tested _ ih =>
    rw [List.foldlM_cons, consider_of_ok unlabelled tested]
    exact ih
  | taken unlabelled tested _ ih =>
    rw [List.foldlM_cons, consider_of_ok unlabelled tested]
    exact ih
  | failed unlabelled tested =>
    rw [List.foldlM_cons, consider_of_error unlabelled tested]
    rfl

theorem fill_cons (labels : Labels n) (item : Fin n) (stack : List (Fin n)) :
    fill linked label ⟨labels, item :: stack⟩ =
      follow linked label item ⟨labels, stack⟩ >>= fill linked label := by
  rw [fill]
  split
  next empty => cases empty
  next other rest taken =>
    obtain ⟨rfl, rfl⟩ := List.cons.inj taken
    split
    next failed => rw [failed]; rfl
    next followed => rw [followed]; rfl

theorem exists_fills (linked : Fin n → Fin n → Except ε Bool) (label : Nat) (filling : Filling n) :
    ∃ pushed, Fills linked label filling pushed (fill linked label filling) := by
  fun_induction fill linked label filling with
  | case1 filling empty =>
    obtain ⟨labels, stack⟩ := filling
    obtain rfl : stack = [] := empty
    exact ⟨[], .done⟩
  | case2 filling item stack top fault failed =>
    obtain ⟨labels, whole⟩ := filling
    obtain rfl : whole = item :: stack := top
    obtain ⟨pushed, follows⟩ := exists_turn linked label item ⟨labels, stack⟩
    rw [failed] at follows
    exact ⟨pushed, .failed follows⟩
  | case3 filling item stack top next followed ih =>
    obtain ⟨labels, whole⟩ := filling
    obtain rfl : whole = item :: stack := top
    obtain ⟨pushed, follows⟩ := exists_turn linked label item ⟨labels, stack⟩
    rw [followed] at follows
    obtain ⟨more, later⟩ := ih
    exact ⟨pushed ++ more, .turn follows later⟩

theorem Fills.outcome_eq {pushed : List (Fin n)} {filling : Filling n}
    {outcome : Except ε (Labels n)} (fills : Fills linked label filling pushed outcome) :
    fill linked label filling = outcome := by
  induction fills with
  | done => rw [fill]
  | turn followed _ ih =>
    rw [fill_cons, follow, followed.outcome_eq]
    exact ih
  | failed followed =>
    rw [fill_cons, follow, followed.outcome_eq]
    rfl

end Filling

namespace Labelling

theorem start_eq_fill {labelling : Labelling n} {item : Fin n}
    (unlabelled : labelling.labels.of item = none) :
    start linked labelling item =
      (Filling.fill linked labelling.count
        (Filling.take labelling.count ⟨labelling.labels, []⟩ item)).map
          fun labels => ⟨labels, labelling.count + 1⟩ := by
  simp only [start, unlabelled, Option.isSome_none, Bool.false_eq_true, if_false]
  cases Filling.fill linked labelling.count
    (Filling.take labelling.count ⟨labelling.labels, []⟩ item) <;> rfl

theorem exists_starts (items : List (Fin n)) (labelling : Labelling n) :
    ∃ pushed, Starts linked items labelling pushed (items.foldlM (start linked) labelling) := by
  induction items generalizing labelling with
  | nil => exact ⟨[], .done⟩
  | cons item rest ih =>
    rw [List.foldlM_cons]
    cases known : labelling.labels.of item with
    | some _ =>
      have labelled : (labelling.labels.of item).isSome := by rw [known]; rfl
      rw [start_of_labelled labelled]
      obtain ⟨pushed, later⟩ := ih labelling
      exact ⟨pushed, .labelled labelled later⟩
    | none =>
      obtain ⟨pushed, fills⟩ := Filling.exists_fills linked labelling.count
        (Filling.take labelling.count ⟨labelling.labels, []⟩ item)
      rw [start_eq_fill known]
      cases filled : Filling.fill linked labelling.count
          (Filling.take labelling.count ⟨labelling.labels, []⟩ item) with
      | error fault =>
        rw [filled] at fills
        exact ⟨item :: pushed, .failed known fills⟩
      | ok labels =>
        rw [filled] at fills
        obtain ⟨more, later⟩ := ih ⟨labels, labelling.count + 1⟩
        exact ⟨item :: (pushed ++ more), .filled known fills later⟩

theorem Starts.outcome_eq {items pushed : List (Fin n)} {labelling : Labelling n}
    {outcome : Except ε (Labelling n)} (starts : Starts linked items labelling pushed outcome) :
    items.foldlM (start linked) labelling = outcome := by
  induction starts with
  | done => rfl
  | labelled known _ ih =>
    rw [List.foldlM_cons, start_of_labelled known]
    exact ih
  | filled unlabelled fills _ ih =>
    rw [List.foldlM_cons, start_eq_fill unlabelled, fills.outcome_eq]
    exact ih
  | failed unlabelled fills =>
    rw [List.foldlM_cons, start_eq_fill unlabelled, fills.outcome_eq]
    rfl

end Labelling

/-! ### What a run notes -/

/-- What has been noted between two states of the labels, the later of which may be missing. -/
structure Records (before : Labels n) (pushed : List (Fin n)) (outcome : Except ε (Labels n)) :
    Prop where
  once : pushed.Nodup
  fresh : ∀ item ∈ pushed, before.of item = none
  complete : ∀ after, outcome = .ok after → ∀ item,
    (after.of item).isSome ↔ (before.of item).isSome ∨ item ∈ pushed

namespace Records

variable {before middle : Labels n} {first second : List (Fin n)} {outcome : Except ε (Labels n)}

theorem unchanged (labels : Labels n) : Records labels [] (.ok labels : Except ε (Labels n)) := by
  refine ⟨List.nodup_nil, nofun, ?_⟩
  rintro _ ⟨⟩ item
  simp

theorem error (labels : Labels n) (fault : ε) : Records labels [] (.error fault) :=
  ⟨List.nodup_nil, nofun, nofun⟩

theorem take {item : Fin n} {filling : Filling n} (label : Nat)
    (unlabelled : filling.labels.of item = none) :
    Records filling.labels [item] (.ok (filling.take label item).labels : Except ε (Labels n)) := by
  refine ⟨List.nodup_singleton item, by simpa using unlabelled, ?_⟩
  rintro _ ⟨⟩ other
  rw [Filling.label_take, List.mem_singleton]
  by_cases here : other = item <;> simp [here]

/-- What has been noted in one part is labelled in the next, and so is not noted again there. -/
theorem append (early : Records before first (.ok middle : Except ε (Labels n)))
    (late : Records middle second outcome) : Records before (first ++ second) outcome := by
  have labelled := early.complete middle rfl
  refine ⟨?_, ?_, ?_⟩
  · refine early.once.append late.once ?_
    intro item inFirst inSecond
    have known := (labelled item).mpr (.inr inFirst)
    simp [late.fresh item inSecond] at known
  · intro item member
    rcases List.mem_append.mp member with inFirst | inSecond
    · exact early.fresh item inFirst
    · apply Option.not_isSome_iff_eq_none.mp
      intro known
      have still := (labelled item).mpr (.inl known)
      simp [late.fresh item inSecond] at still
  · intro after ended item
    rw [late.complete after ended, labelled, List.mem_append, or_assoc]

end Records

theorem Filling.Follows.records {label : Nat} {item : Fin n} {others pushed : List (Fin n)}
    {filling : Filling n} {outcome : Except ε (Filling n)}
    (follows : Follows linked label item others filling pushed outcome) :
    Records filling.labels pushed (outcome.map (·.labels)) := by
  induction follows with
  | done => exact .unchanged _
  | labelled _ _ ih => exact ih
  | apart _ _ _ ih => exact ih
  | taken unlabelled _ _ ih => exact (Records.take label unlabelled).append ih
  | failed => exact .error _ _

theorem Filling.Fills.records {label : Nat} {pushed : List (Fin n)} {filling : Filling n}
    {outcome : Except ε (Labels n)} (fills : Fills linked label filling pushed outcome) :
    Records filling.labels pushed outcome := by
  induction fills with
  | done => exact .unchanged _
  | turn followed _ ih => exact followed.records.append ih
  | failed followed => exact followed.records

namespace Labelling

theorem Starts.records {items pushed : List (Fin n)} {labelling : Labelling n}
    {outcome : Except ε (Labelling n)} (starts : Starts linked items labelling pushed outcome) :
    Records labelling.labels pushed (outcome.map (·.labels)) := by
  induction starts with
  | done => exact .unchanged _
  | labelled _ _ ih => exact ih
  | filled unlabelled fills _ ih =>
    -- The item itself comes first, then the rest of its component.
    have component := (Records.take _ unlabelled).append fills.records
    exact component.append ih
  | failed unlabelled fills => exact (Records.take _ unlabelled).append fills.records

end Labelling

/-! ### Failing tests

A run that does not fail has come across no test that fails, so it is also a run of a test that
answers everywhere. -/

/-- Where the test fails, two items are not linked. -/
def answerOf (linked : Fin n → Fin n → Except ε Bool) (i j : Fin n) : Bool :=
  match linked i j with
  | .ok isLinked => isLinked
  | .error _ => false

def lenient (linked : Fin n → Fin n → Except ε Bool) : Fin n → Fin n → Except ε Bool :=
  fun i j => .ok (answerOf linked i j)

theorem lenient_of_ok {i j : Fin n} {isLinked : Bool} (tested : linked i j = .ok isLinked) :
    lenient linked i j = .ok isLinked := by
  rw [lenient, answerOf, tested]

theorem answers_lenient (linked : Fin n → Fin n → Except ε Bool) :
    Answers (lenient linked) (answerOf linked) :=
  fun _ _ _ => rfl

theorem answers_of_passed (passed : ∀ i j, i ≠ j → ∃ answer, linked i j = .ok answer) :
    Answers linked (answerOf linked) := by
  intro i j different
  obtain ⟨answer, tested⟩ := passed i j different
  rw [answerOf, tested]

theorem Filling.Follows.lenient {label : Nat} {item : Fin n} {others pushed : List (Fin n)}
    {filling : Filling n} {outcome : Except ε (Filling n)}
    (follows : Follows linked label item others filling pushed outcome)
    (succeeds : ∀ fault, outcome ≠ .error fault) :
    Follows (lenient linked) label item others filling pushed outcome := by
  induction follows with
  | done => exact .done
  | labelled known _ ih => exact .labelled known (ih succeeds)
  | apart unlabelled tested _ ih => exact .apart unlabelled (lenient_of_ok tested) (ih succeeds)
  | taken unlabelled tested _ ih => exact .taken unlabelled (lenient_of_ok tested) (ih succeeds)
  | failed => exact absurd rfl (succeeds _)

theorem Filling.Fills.lenient {label : Nat} {pushed : List (Fin n)} {filling : Filling n}
    {outcome : Except ε (Labels n)} (fills : Fills linked label filling pushed outcome)
    (succeeds : ∀ fault, outcome ≠ .error fault) :
    Fills (lenient linked) label filling pushed outcome := by
  induction fills with
  | done => exact .done
  | turn followed _ ih => exact .turn (followed.lenient nofun) (ih succeeds)
  | failed => exact absurd rfl (succeeds _)

namespace Labelling

theorem Starts.lenient {items pushed : List (Fin n)} {labelling : Labelling n}
    {outcome : Except ε (Labelling n)} (starts : Starts linked items labelling pushed outcome)
    (succeeds : ∀ fault, outcome ≠ .error fault) :
    Starts (lenient linked) items labelling pushed outcome := by
  induction starts with
  | done => exact .done
  | labelled known _ ih => exact .labelled known (ih succeeds)
  | filled unlabelled fills _ ih => exact .filled unlabelled (fills.lenient nofun) (ih succeeds)
  | failed => exact absurd rfl (succeeds _)

/-! ### Labels at the end of a run -/

variable {pushed : List (Fin n)} {labelling : Labelling n}

theorem Runs.ordered (runs : Runs linked pushed (.ok labelling)) :
    Ordered (List.finRange n) labelling := by
  -- The labels are also those of a test that answers everywhere, of which their order is known.
  have answered : ofTest (lenient linked) = .ok labelling := (runs.lenient nofun).outcome_eq
  obtain ⟨final, labelled, ordered, _⟩ := ofTest_ok (answers_lenient linked)
  rw [labelled] at answered
  exact Except.ok.inj answered ▸ ordered

/-- A run that does not fail puts every item on the stack. -/
theorem Runs.perm (runs : Runs linked pushed (.ok labelling)) : pushed.Perm (List.finRange n) := by
  have records := runs.records
  rw [List.perm_ext_iff_of_nodup records.once (List.nodup_finRange n)]
  intro item
  have labelled := runs.ordered.labelled item (List.mem_finRange item)
  rcases (records.complete _ rfl item).mp labelled with before | noted
  · -- Nothing has a label before a run.
    simp [blank] at before
  · exact iff_of_true noted (List.mem_finRange item)

/-- The first item with a label. -/
def FirstUse (labelling : Labelling n) (label : Nat) (item : Fin n) : Prop :=
  labelling.labels.of item = some label ∧
    ∀ earlier < item, labelling.labels.of earlier ≠ some label

/-- Every item has a label, and the labels are the numbers below their count, by first use. -/
structure Orderly (labelling : Labelling n) : Prop where
  labelled : ∀ item, ∃ label < labelling.count, labelling.labels.of item = some label
  used : ∀ label < labelling.count, ∃ item, labelling.FirstUse label item
  rising : ∀ smaller label, smaller < label → ∀ first next,
    labelling.FirstUse smaller first → labelling.FirstUse label next → first < next

theorem exists_firstUse {item : Fin n} {label : Nat}
    (labelled : labelling.labels.of item = some label) : ∃ first, labelling.FirstUse label first := by
  obtain ⟨first, used, least⟩ :=
    wellFounded_lt.has_min {k : Fin n | labelling.labels.of k = some label} ⟨item, labelled⟩
  refine ⟨first, used, ?_⟩
  intro earlier less again
  exact least earlier again less

theorem Ordered.orderly (ordered : Ordered (List.finRange n) labelling) : labelling.Orderly := by
  refine ⟨?_, ?_, ?_⟩
  · intro item
    obtain ⟨label, labelled⟩ :=
      Option.isSome_iff_exists.mp (ordered.labelled item (List.mem_finRange item))
    exact ⟨label, ordered.bounded item label labelled, labelled⟩
  · intro label less
    obtain ⟨item, _, labelled⟩ := ordered.used label less
    exact exists_firstUse labelled
  · intro smaller label less first next firstUse nextUse
    obtain ⟨item, earlier, labelled⟩ := ordered.first next label nextUse.1 smaller less
    have notBefore : ¬ item < first := fun before => firstUse.2 item before labelled
    exact lt_of_le_of_lt (not_lt.mp notBefore) earlier

/-! ### Groups at the end of a run -/

variable {α : Type}

/-- Each item goes into a group that exists, none is passed over, and no group stays empty. -/
structure Files (items : List α) (labelling : Labelling items.length) : Prop where
  inBounds : ∀ before item found after,
    items.zip labelling.labels.toList = before ++ (item, found) :: after →
      ∃ label, found = some label ∧
        label < (before.foldl place (List.replicate labelling.count [])).length
  complete : (labelling.groups items).flatten.Perm items
  nonempty : ∀ group ∈ labelling.groups items, group ≠ []

theorem length_place (groups : List (List α)) (labelled : α × Option Nat) :
    (place groups labelled).length = groups.length := by
  obtain ⟨item, found⟩ := labelled
  cases found with
  | none => rfl
  | some label => exact List.length_modify ..

theorem length_foldl_place (labelled : List (α × Option Nat)) (groups : List (List α)) :
    (labelled.foldl place groups).length = groups.length := by
  induction labelled generalizing groups with
  | nil => rfl
  | cons first rest ih => rw [List.foldl_cons, ih, length_place]

theorem Ordered.files {items : List α} {labelling : Labelling items.length}
    (ordered : Ordered (List.finRange items.length) labelling) : labelling.Files items := by
  refine ⟨?_, ?_, ?_⟩
  · intro before item found after split
    have member : (item, found) ∈ items.zip labelling.labels.toList := by simp [split]
    obtain ⟨i, less, rfl⟩ := List.mem_iff_getElem.mp (List.of_mem_zip member).2
    obtain ⟨label, bounded, labelled⟩ := ordered.orderly.labelled ⟨i, by simpa using less⟩
    refine ⟨label, by simpa [Labels.of] using labelled, ?_⟩
    -- There are as many groups as labels from the first, and no group is added.
    rwa [length_foldl_place, List.length_replicate]
  · rw [groups_eq, ← List.map_flatten]
    have whole := (parts_complete ordered).map items.get
    rwa [List.map_get_finRange] at whole
  · intro group member
    rw [groups_eq] at member
    obtain ⟨part, present, rfl⟩ := List.mem_map.mp member
    simpa using ne_nil_of_mem_parts ordered present

/-- Whatever a test of links says, labelling comes to its end, and puts no item on the stack twice. It
fails only if the test fails for two different items. Otherwise it has put every item on the stack, all
items have labels below the count of groups, these are all used, for the first time in rising order,
and every item is put into its group. -/
theorem runs_safely (items : List α) (linked : Fin items.length → Fin items.length → Except ε Bool) :
    (∃ pushed, Runs linked pushed (ofTest linked)) ∧
    ((∀ i j, i ≠ j → ∃ answer, linked i j = .ok answer) →
      ∃ labelling, ofTest linked = .ok labelling) ∧
    ∀ pushed outcome, Runs linked pushed outcome →
      outcome = ofTest linked ∧ pushed.Nodup ∧
      ∀ labelling, outcome = .ok labelling →
        pushed.Perm (List.finRange items.length) ∧ labelling.Orderly ∧ labelling.Files items := by
  refine ⟨exists_starts _ _, ?_, ?_⟩
  · intro passed
    obtain ⟨labelling, labelled, _⟩ := ofTest_ok (answers_of_passed passed)
    exact ⟨labelling, labelled⟩
  · intro pushed outcome runs
    refine ⟨runs.outcome_eq.symm, runs.records.once, ?_⟩
    rintro labelling rfl
    exact ⟨runs.perm, runs.ordered.orderly, runs.ordered.files⟩

end Labelling

end Geolocation.Component
