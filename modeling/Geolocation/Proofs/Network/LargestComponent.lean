import Geolocation.Distinct
import Geolocation.Proofs.Network.SingleLinkage
import Mathlib.Data.List.Pairwise

/-!
# The largest component

Which component of closeness is chosen among those that have enough members. A component is described
by what is in it and not by how it is found: its items are joined by chains of close items, and nothing
else is joined to them. Of the components with most items the one that begins first is chosen.

The parts of a division by single linkage are exactly the components, and they come in the order of
their first items. So the first of the longest parts is the component that is wanted.
-/

namespace Geolocation.Component

variable {n : Nat} {near : Fin n → Fin n → Prop} {part : List (Fin n)} {parts : List (List (Fin n))}

/-- The items that are joined to one of them, in order. -/
structure IsComponent (near : Fin n → Fin n → Prop) (part : List (Fin n)) : Prop where
  nonempty : part ≠ []
  rising : part.Pairwise (· < ·)
  joined : ∀ i ∈ part, ∀ j, j ∈ part ↔ Relation.ReflTransGen near i j

/-- No component has more items, and none that has as many begins earlier. -/
structure IsLargest (near : Fin n → Fin n → Prop) (part : List (Fin n)) : Prop
    extends IsComponent near part where
  most : ∀ other, IsComponent near other → other.length ≤ part.length
  earliest : ∀ other, IsComponent near other → other.length = part.length →
    ∀ i ∈ part.head?, ∀ j ∈ other.head?, i ≤ j

/-- Two lists in order are equal if they have the same items. -/
theorem eq_of_rising {first second : List (Fin n)} (left : first.Pairwise (· < ·))
    (right : second.Pairwise (· < ·)) (same : ∀ i, i ∈ first ↔ i ∈ second) : first = second := by
  have perm : first.Perm second :=
    (List.perm_ext_iff_of_nodup (left.imp ne_of_lt) (right.imp ne_of_lt)).mpr same
  exact perm.eq_of_pairwise' left right

theorem IsComponent.length_pos (component : IsComponent near part) : 1 ≤ part.length :=
  List.length_pos_iff.mpr component.nonempty

/-- Where no items are close, each one is a component. -/
theorem isComponent_iff_of_apart (apart : ∀ i j, ¬near i j) :
    IsComponent near part ↔ ∃ i, part = [i] := by
  have joined (i j : Fin n) : Relation.ReflTransGen near i j ↔ j = i := by
    constructor
    · intro chain
      obtain rfl | ⟨k, link, -⟩ := chain.cases_head
      · rfl
      · exact absurd link (apart i k)
    · rintro rfl
      exact .refl
  constructor
  · intro component
    obtain ⟨i, here⟩ := List.exists_mem_of_ne_nil part component.nonempty
    refine ⟨i, eq_of_rising component.rising (List.pairwise_singleton _ i) fun j => ?_⟩
    rw [component.joined i here, joined, List.mem_singleton]
  · rintro ⟨i, rfl⟩
    refine ⟨List.cons_ne_nil i [], List.pairwise_singleton _ i, fun k here j => ?_⟩
    rw [joined, List.mem_singleton, List.mem_singleton.mp here]

namespace SingleLinkage

/-- An item stands in one part only. -/
theorem eq_of_mem (linkage : SingleLinkage near parts) {other : List (Fin n)} {i : Fin n}
    (first : part ∈ parts) (second : other ∈ parts) (here : i ∈ part) (there : i ∈ other) :
    part = other := by
  have distinct : parts.flatten.Nodup := linkage.complete.nodup_iff.mpr (List.nodup_finRange n)
  have symmetric : Std.Symm (List.Disjoint (α := Fin n)) := ⟨fun _ _ => List.disjoint_symm⟩
  by_contra different
  exact (List.nodup_flatten.mp distinct).2.forall first second different here there

theorem mem_iff_isComponent (linkage : SingleLinkage near parts) :
    part ∈ parts ↔ IsComponent near part := by
  constructor
  · intro member
    refine ⟨linkage.nonempty part member, linkage.rising part member, ?_⟩
    intro i here j
    rw [← linkage.joined i j]
    constructor
    · intro there
      exact ⟨part, member, here, there⟩
    · rintro ⟨other, present, first, second⟩
      rwa [linkage.eq_of_mem member present here first]
  · intro component
    obtain ⟨i, here⟩ := List.exists_mem_of_ne_nil part component.nonempty
    obtain ⟨other, present, there, _⟩ := (linkage.joined i i).mpr .refl
    suffices same : part = other by rwa [same]
    apply eq_of_rising component.rising (linkage.rising other present)
    intro j
    rw [component.joined i here, ← linkage.joined i j]
    constructor
    · rintro ⟨third, found, first, second⟩
      rwa [linkage.eq_of_mem present found there first]
    · intro second
      exact ⟨other, present, there, second⟩

theorem exists_isComponent (linkage : SingleLinkage near parts) (i : Fin n) :
    ∃ part, IsComponent near part ∧ i ∈ part := by
  obtain ⟨part, member, here, _⟩ := (linkage.joined i i).mpr .refl
  exact ⟨part, linkage.mem_iff_isComponent.mp member, here⟩

/-- No part is long enough exactly if no component is. -/
theorem largest?_eq_none_iff (linkage : SingleLinkage near parts) (least : Nat) :
    largest? (parts.filter fun part => least ≤ part.length) = none ↔
      ∀ part, IsComponent near part → part.length < max 1 least := by
  simp only [Geolocation.largest?_eq_none_iff, List.filter_eq_nil_iff, decide_eq_true_eq, not_le,
    linkage.mem_iff_isComponent]
  constructor
  · intro small part component
    have below := small part component
    omega
  · intro small part component
    have below := small part component
    have positive := component.length_pos
    omega

/-- The first of the longest parts is the largest component. -/
theorem isLargest_of_largest? (linkage : SingleLinkage near parts) {least : Nat}
    (largest : largest? (parts.filter fun part => least ≤ part.length) = some part) :
    IsLargest near part ∧ max 1 least ≤ part.length := by
  have kept := List.mem_filter.mp (mem_of_largest? largest)
  have enough : least ≤ part.length := by simpa using kept.2
  have component := linkage.mem_iff_isComponent.mp kept.1
  obtain ⟨before, after, split, smaller, atMost⟩ := split_of_largest? largest
  -- A component that is no shorter than the chosen one is long enough, and so it is a candidate.
  have candidate (other : List (Fin n)) (found : IsComponent near other)
      (long : part.length ≤ other.length) : other = part ∨ other ∈ after := by
    have member : other ∈ before ++ part :: after := by
      rw [← split, List.mem_filter]
      exact ⟨linkage.mem_iff_isComponent.mpr found, decide_eq_true (enough.trans long)⟩
    rcases List.mem_append.mp member with earlier | later
    · have below := smaller other earlier
      omega
    · exact List.mem_cons.mp later
  refine ⟨⟨component, ?_, ?_⟩, max_le component.length_pos enough⟩
  · intro other found
    by_contra longer
    rcases candidate other found (by omega) with rfl | later
    · exact longer le_rfl
    · exact longer (atMost other later)
  · intro other found equal i first j second
    rcases candidate other found (by omega) with rfl | later
    · exact le_of_eq (Option.mem_unique first second)
    · have ordered : (before ++ part :: after).Pairwise fun earlier later =>
          ∀ i ∈ earlier.head?, ∀ j ∈ later.head?, i < j := split ▸ linkage.ordered.filter _
      have behind := List.rel_of_pairwise_cons (List.pairwise_append.mp ordered).2.1 later
      exact le_of_lt (behind i first j second)

end SingleLinkage

end Geolocation.Component
