/-!
# Keeping first occurrences

Of several items with one key only the first is kept. Items keep their order. A group of items is
chosen by its size, the earliest of several that are equally large.
-/

namespace Geolocation

/-- The items whose key no earlier item has. -/
def distinctBy {α κ : Type} [DecidableEq κ] (key : α → κ) : List α → List α
  | [] => []
  | item :: rest => item :: (distinctBy key rest).filter (key · ≠ key item)

theorem distinctBy_sublist {α κ : Type} [DecidableEq κ] (key : α → κ) (items : List α) :
    (distinctBy key items).Sublist items := by
  induction items with
  | nil => exact List.Sublist.refl _
  | cons item rest ih => exact (List.filter_sublist.trans ih).cons_cons item

/-- Nothing that is kept shares its key with another item that is kept. -/
theorem distinctBy_pairwise {α κ : Type} [DecidableEq κ] (key : α → κ) (items : List α) :
    (distinctBy key items).Pairwise (key · ≠ key ·) := by
  induction items with
  | nil => exact List.Pairwise.nil
  | cons item rest ih =>
    refine List.pairwise_cons.mpr ⟨fun other member => ?_, ih.filter _⟩
    simpa using (of_decide_eq_true (List.mem_filter.mp member).2).symm

theorem exists_mem_distinctBy {α κ : Type} [DecidableEq κ] (key : α → κ) {items : List α} {item : α}
    (member : item ∈ items) : ∃ kept ∈ distinctBy key items, key kept = key item := by
  induction items with
  | nil => cases member
  | cons first rest ih =>
    rcases List.mem_cons.mp member with rfl | later
    · exact ⟨item, List.mem_cons_self, rfl⟩
    · obtain ⟨kept, found, same⟩ := ih later
      by_cases equal : key kept = key first
      · exact ⟨first, List.mem_cons_self, equal.symm.trans same⟩
      · exact ⟨kept, List.mem_cons_of_mem _ (List.mem_filter.mpr ⟨found, by simpa using equal⟩), same⟩

theorem distinctBy_eq_self {α κ : Type} [DecidableEq κ] {key : α → κ} {items : List α}
    (apart : items.Pairwise (key · ≠ key ·)) : distinctBy key items = items := by
  induction items with
  | nil => rfl
  | cons item rest ih =>
    obtain ⟨first, later⟩ := List.pairwise_cons.mp apart
    rw [distinctBy, ih later, List.filter_eq_self.mpr]
    intro other member
    simpa using (first other member).symm

theorem distinctBy_append {α κ : Type} [DecidableEq κ] (key : α → κ) (items more : List α) :
    distinctBy key (items ++ more) = distinctBy key items ++
      (distinctBy key more).filter fun item => ∀ earlier ∈ items, key earlier ≠ key item := by
  induction items with
  | nil =>
    rw [List.nil_append, List.filter_eq_self.mpr (by simp)]
    rfl
  | cons first rest ih =>
    rw [List.cons_append, distinctBy, distinctBy, ih, List.filter_append, List.filter_filter,
      List.cons_append]
    congr 3
    funext item
    simp [eq_comm (a := key item)]

theorem distinctBy_concat {α κ : Type} [DecidableEq κ] {key : α → κ} {items : List α} {item : α}
    (unseen : ∀ earlier ∈ items, key earlier ≠ key item) :
    distinctBy key (items ++ [item]) = distinctBy key items ++ [item] := by
  rw [distinctBy_append, distinctBy, distinctBy, List.filter_nil, List.filter_cons_of_pos,
    List.filter_nil]
  exact decide_eq_true unseen

/-- What shares its key with something before it may as well be missing. -/
theorem distinctBy_insert {α κ : Type} [DecidableEq κ] {key : α → κ} {items more : List α}
    {earlier item : α} (member : earlier ∈ items) (same : key earlier = key item) :
    distinctBy key (items ++ item :: more) = distinctBy key (items ++ more) := by
  rw [distinctBy_append, distinctBy_append, distinctBy, List.filter_cons_of_neg, List.filter_filter]
  · congr 2
    funext other
    rw [Bool.and_eq_left_iff_imp]
    intro unseen
    have apart : key earlier ≠ key other := of_decide_eq_true unseen earlier member
    exact decide_eq_true fun equal => apart (same.trans equal.symm)
  · simpa using ⟨earlier, member, same⟩

/-- The longest of several groups, the first of several that are equally long. -/
def largest? {α : Type} : List (List α) → Option (List α)
  | [] => none
  | group :: rest =>
    match largest? rest with
    | none => some group
    | some other => some (if group.length < other.length then other else group)

theorem largest?_eq_none_iff {α : Type} {groups : List (List α)} :
    largest? groups = none ↔ groups = [] := by
  cases groups with
  | nil => simp [largest?]
  | cons group rest =>
    simp only [largest?]
    split <;> simp

/-- Groups before the largest one are smaller, and those behind it are no larger. -/
theorem split_of_largest? {α : Type} {groups : List (List α)} {group : List α}
    (largest : largest? groups = some group) :
    ∃ before after, groups = before ++ group :: after ∧
      (∀ other ∈ before, other.length < group.length) ∧
      ∀ other ∈ after, other.length ≤ group.length := by
  induction groups generalizing group with
  | nil => cases largest
  | cons first rest ih =>
    simp only [largest?] at largest
    split at largest
    next nothing =>
      cases largest
      obtain rfl := largest?_eq_none_iff.mp nothing
      exact ⟨[], [], rfl, by simp, by simp⟩
    next other found =>
      obtain ⟨before, after, rfl, smaller, atMost⟩ := ih found
      cases largest
      by_cases less : first.length < other.length
      · rw [if_pos less]
        refine ⟨first :: before, after, rfl, ?_, atMost⟩
        intro group member
        rcases List.mem_cons.mp member with rfl | later
        · exact less
        · exact smaller group later
      · rw [if_neg less]
        refine ⟨[], before ++ other :: after, rfl, by simp, ?_⟩
        intro group member
        rcases List.mem_append.mp member with earlier | later
        · have below := smaller group earlier
          omega
        · rcases List.mem_cons.mp later with rfl | later
          · exact Nat.le_of_not_lt less
          · have below := atMost group later
            omega

theorem mem_of_largest? {α : Type} {groups : List (List α)} {group : List α}
    (largest : largest? groups = some group) : group ∈ groups := by
  obtain ⟨before, after, rfl, _⟩ := split_of_largest? largest
  exact List.mem_append_right before List.mem_cons_self

/-- Renaming the members of groups does not change which group is chosen. -/
theorem largest?_map {α β : Type} (rename : α → β) (groups : List (List α)) :
    largest? (groups.map (List.map rename)) = (largest? groups).map (List.map rename) := by
  induction groups with
  | nil => rfl
  | cons first rest ih =>
    rw [List.map_cons, largest?, largest?, ih]
    cases largest? rest with
    | none => rfl
    | some other =>
      simp only [Option.map_some, List.length_map]
      split <;> rfl

end Geolocation
