import Geolocation.Distinct
import Mathlib.Data.List.Forall2
import Mathlib.Data.List.Induction
import Mathlib.Logic.Relation

/-!
# First occurrences

Entries are read as items, some of them as none, and of several items with one key the first is kept.
That is said here by positions: an item is kept exactly if some entry reads as it and no entry before
that one reads as an item with its key. Reading and keeping do this for entries of every kind. What
they give stays the same when entries are inserted that are not read or come too late.
-/

namespace Geolocation

variable {ε α κ : Type}

/-- The entry at this position reads as the item, and no earlier entry as one with its key. -/
def FirstAt (Reads : ε → α → Prop) (key : α → κ) (entries : List ε) (i : Nat) (item : α) : Prop :=
  (∃ entry, entries[i]? = some entry ∧ Reads entry item) ∧
    ∀ earlier ∈ entries.take i, ∀ other, Reads earlier other → key other ≠ key item

/-- All first occurrences are kept and nothing else, in the order of their entries. -/
def KeepsFirsts (Reads : ε → α → Prop) (key : α → κ) (entries : List ε) (kept : List α) : Prop :=
  ∃ positions : List Nat, positions.Pairwise (· < ·) ∧
    List.Forall₂ (FirstAt Reads key entries) positions kept ∧
    ∀ i item, FirstAt Reads key entries i item → i ∈ positions

/-- An entry is inserted that is not read, or that is read as an item whose key an earlier entry has. -/
def Inserts (Reads : ε → α → Prop) (key : α → κ) (entries more : List ε) : Prop :=
  ∃ before entry after, entries = before ++ after ∧ more = before ++ entry :: after ∧
    ((∀ item, ¬Reads entry item) ∨
      ∃ earlier ∈ before, ∃ item other, Reads earlier item ∧ Reads entry other ∧ key item = key other)

variable {Reads : ε → α → Prop} {key : α → κ} {entries : List ε}

/-! ### One entry more at the end -/

theorem FirstAt.lt_length {i : Nat} {item : α} (first : FirstAt Reads key entries i item) :
    i < entries.length := by
  obtain ⟨⟨entry, there, -⟩, -⟩ := first
  exact (List.getElem?_eq_some_iff.mp there).1

theorem firstAt_append_iff {more : List ε} {i : Nat} {item : α} (inside : i < entries.length) :
    FirstAt Reads key (entries ++ more) i item ↔ FirstAt Reads key entries i item := by
  rw [FirstAt, FirstAt, List.getElem?_append_left inside,
    List.take_append_of_le_length (Nat.le_of_lt inside)]

theorem firstAt_length_iff {last : ε} {item : α} :
    FirstAt Reads key (entries ++ [last]) entries.length item ↔
      Reads last item ∧ ∀ entry ∈ entries, ∀ other, Reads entry other → key other ≠ key item := by
  simp [FirstAt]

/-- The new entry is no first occurrence, and the old ones stay. -/
theorem KeepsFirsts.append_late {kept : List α} {last : ε} (keeps : KeepsFirsts Reads key entries kept)
    (late : ∀ item, ¬FirstAt Reads key (entries ++ [last]) entries.length item) :
    KeepsFirsts Reads key (entries ++ [last]) kept := by
  obtain ⟨positions, rising, firsts, all⟩ := keeps
  refine ⟨positions, rising, firsts.imp fun i item first =>
    (firstAt_append_iff first.lt_length).mpr first, ?_⟩
  intro i item first
  have inside : i < entries.length + 1 := by simpa using first.lt_length
  rcases Nat.lt_succ_iff_lt_or_eq.mp inside with earlier | rfl
  · exact all i item ((firstAt_append_iff earlier).mp first)
  · exact absurd first (late item)

/-- The new entry is a first occurrence. -/
theorem KeepsFirsts.append_first {kept : List α} {last : ε} {item : α}
    (keeps : KeepsFirsts Reads key entries kept)
    (first : FirstAt Reads key (entries ++ [last]) entries.length item) :
    KeepsFirsts Reads key (entries ++ [last]) (kept ++ [item]) := by
  obtain ⟨positions, rising, firsts, all⟩ := keeps
  have inside : ∀ i ∈ positions, i < entries.length :=
    ((List.forall₂_and_left positions kept).mp
      (firsts.imp fun i item first => ⟨first.lt_length, first⟩)).1
  refine ⟨positions ++ [entries.length], ?_, ?_, ?_⟩
  · rw [List.pairwise_append]
    refine ⟨rising, List.pairwise_singleton _ _, ?_⟩
    intro i member last isLast
    rw [List.mem_singleton.mp isLast]
    exact inside i member
  · refine List.rel_append (firsts.imp fun i item first => ?_) (.cons first .nil)
    exact (firstAt_append_iff first.lt_length).mpr first
  · intro i item first
    have inside : i < entries.length + 1 := by simpa using first.lt_length
    rw [List.mem_append, List.mem_singleton]
    rcases Nat.lt_succ_iff_lt_or_eq.mp inside with earlier | last
    · exact Or.inl (all i item ((firstAt_append_iff earlier).mp first))
    · exact Or.inr last

/-! ### Reading and keeping -/

section Reading

variable [DecidableEq κ] {read? : ε → Option α}
  (reads : ∀ entry item, read? entry = some item ↔ Reads entry item)

include reads

theorem keepsFirsts_distinctBy (entries : List ε) :
    KeepsFirsts Reads key entries (distinctBy key (entries.filterMap read?)) := by
  -- What the last entry adds depends on those before it, so the induction is on them.
  induction entries using List.reverseRecOn with
  | nil => exact ⟨[], List.Pairwise.nil, .nil, by simp [FirstAt]⟩
  | append_singleton entries last ih =>
    rw [List.filterMap_append]
    cases read : read? last with
    | none =>
      rw [List.filterMap_cons_none read, List.filterMap_nil, List.append_nil]
      refine ih.append_late fun item first => ?_
      have readLast := (reads last item).mpr (firstAt_length_iff.mp first).1
      rw [read] at readLast
      cases readLast
    | some item =>
      rw [List.filterMap_cons_some read, List.filterMap_nil]
      by_cases seen : ∃ earlier ∈ entries.filterMap read?, key earlier = key item
      · -- The key of the last entry has an earlier entry, so that it is no first occurrence.
        obtain ⟨earlier, member, same⟩ := seen
        rw [distinctBy_insert member same, List.append_nil]
        refine ih.append_late fun other first => ?_
        obtain ⟨readLast, unseen⟩ := firstAt_length_iff.mp first
        obtain ⟨entry, present, readEarlier⟩ := List.mem_filterMap.mp member
        apply unseen entry present earlier ((reads entry earlier).mp readEarlier)
        rw [same, Option.some.inj (read.symm.trans ((reads last other).mpr readLast))]
      · rw [distinctBy_concat fun earlier member same => seen ⟨earlier, member, same⟩]
        apply ih.append_first
        refine firstAt_length_iff.mpr ⟨(reads last item).mp read, ?_⟩
        intro entry present other readEarlier same
        exact seen ⟨other, List.mem_filterMap.mpr ⟨entry, present, (reads entry other).mpr readEarlier⟩,
          same⟩

/-- Items with keys of their own are all kept. -/
theorem distinctBy_filterMap_of_reads {items : List α}
    (each : List.Forall₂ Reads entries items) (apart : items.Pairwise (key · ≠ key ·)) :
    distinctBy key (entries.filterMap read?) = items := by
  have all : entries.filterMap read? = items := by
    clear apart
    induction each with
    | nil => rfl
    | cons first _ ih => rw [List.filterMap_cons_some ((reads _ _).mpr first), ih]
  rw [all, distinctBy_eq_self apart]

theorem distinctBy_filterMap_inserts {more : List ε}
    (inserts : Inserts Reads key entries more) :
    distinctBy key (entries.filterMap read?) = distinctBy key (more.filterMap read?) := by
  obtain ⟨before, entry, after, rfl, rfl, unread | ⟨earlier, member, item, other, first, late, same⟩⟩ :=
    inserts
  · have none : read? entry = none := by
      cases read : read? entry with
      | none => rfl
      | some item => exact absurd ((reads entry item).mp read) (unread item)
    simp [none]
  · rw [List.filterMap_append, List.filterMap_append, List.filterMap_cons,
      (reads entry other).mpr late]
    have kept : item ∈ before.filterMap read? :=
      List.mem_filterMap.mpr ⟨earlier, member, (reads earlier item).mpr first⟩
    exact (distinctBy_insert kept same).symm

theorem distinctBy_filterMap_insertions {more : List ε}
    (insertions : Relation.ReflTransGen (Inserts Reads key) entries more) :
    distinctBy key (entries.filterMap read?) = distinctBy key (more.filterMap read?) := by
  induction insertions with
  | refl => rfl
  | tail _ last ih => exact ih.trans (distinctBy_filterMap_inserts reads last)

end Reading

end Geolocation
