/-!
# Splitting text

Splitting at every occurrence of a character, or at the first one. There is one more part than there
are separators.
-/

namespace Geolocation.Text

/-- The parts of a text between the separators, in order. -/
def splitOn (separator : Char) : List Char → List (List Char)
  | [] => [[]]
  | c :: rest =>
    if c = separator then [] :: splitOn separator rest
    else
      match splitOn separator rest with
      | [] => [[c]]
      | part :: parts => (c :: part) :: parts

theorem splitOn_ne_nil (separator : Char) (s : List Char) : splitOn separator s ≠ [] := by
  cases s with
  | nil => simp [splitOn]
  | cons c rest =>
    simp only [splitOn]
    split
    · simp
    · split <;> simp

theorem splitOn_eq (separator : Char) (s : List Char) : splitOn separator s = s.splitOn separator := by
  induction s with
  | nil => rfl
  | cons c rest ih =>
    rw [splitOn, List.splitOn_cons_eq_if_modifyHead, ih]
    by_cases here : c = separator
    · simp [here]
    · rw [if_neg here, if_neg (by simpa using here)]
      have some := List.splitOn_ne_nil separator rest
      generalize rest.splitOn separator = parts at some ⊢
      cases parts with
      | nil => contradiction
      | cons part parts => rfl

/-- Splitting takes apart what has been joined, if the parts do not contain the separator. -/
theorem splitOn_intercalate {separator : Char} {parts : List (List Char)}
    (apart : ∀ part ∈ parts, separator ∉ part) (some : parts ≠ []) :
    splitOn separator ([separator].intercalate parts) = parts := by
  rw [splitOn_eq]
  exact List.splitOn_intercalate separator apart some

theorem mem_intercalate {separator c : Char} {parts : List (List Char)}
    (member : c ∈ [separator].intercalate parts) : c = separator ∨ ∃ part ∈ parts, c ∈ part := by
  induction parts with
  | nil => cases member
  | cons part rest ih =>
    cases rest with
    | nil => exact Or.inr ⟨part, List.mem_cons_self, by simpa using member⟩
    | cons next rest =>
      rw [List.intercalate_cons_cons, List.append_assoc, List.mem_append, List.mem_append,
        List.mem_singleton] at member
      rcases member with here | between | later
      · exact Or.inr ⟨part, List.mem_cons_self, here⟩
      · exact Or.inl between
      · exact (ih later).imp id fun ⟨other, present, c⟩ => ⟨other, List.mem_cons_of_mem _ present, c⟩

/-- Splitting loses nothing but separators. -/
theorem mem_splitOn (separator : Char) {c : Char} {s : List Char} (member : c ∈ s) :
    c = separator ∨ ∃ part ∈ splitOn separator s, c ∈ part := by
  rw [splitOn_eq]
  apply mem_intercalate
  rw [List.intercalate_splitOn]
  exact member

theorem notMem_of_mem_splitOn {separator : Char} {s part : List Char}
    (member : part ∈ splitOn separator s) : separator ∉ part := by
  induction s generalizing part with
  | nil =>
    rw [List.mem_singleton.mp member]
    exact List.not_mem_nil
  | cons c rest ih =>
    simp only [splitOn] at member
    split at member
    next here =>
      rcases List.mem_cons.mp member with rfl | later
      · exact List.not_mem_nil
      · exact ih later
    next apart =>
      split at member
      next none => exact absurd none (splitOn_ne_nil separator rest)
      next first others split =>
        rw [split] at ih
        rcases List.mem_cons.mp member with rfl | later
        · exact List.not_mem_cons_of_ne_of_not_mem (Ne.symm apart) (ih List.mem_cons_self)
        · exact ih (List.mem_cons_of_mem _ later)

/-- The parts are told by what they are joined to, as none of them contains the separator. -/
theorem splitOn_eq_iff {separator : Char} {s : List Char} {parts : List (List Char)} :
    splitOn separator s = parts ↔
      parts ≠ [] ∧ (∀ part ∈ parts, separator ∉ part) ∧ [separator].intercalate parts = s := by
  constructor
  · rintro rfl
    refine ⟨splitOn_ne_nil separator s, fun part => notMem_of_mem_splitOn, ?_⟩
    rw [splitOn_eq, List.intercalate_splitOn]
  · rintro ⟨some, apart, rfl⟩
    exact splitOn_intercalate apart some

/-- The parts before and after the first separator, if there is one. -/
def splitOnce (separator : Char) : List Char → Option (List Char × List Char)
  | [] => none
  | c :: rest =>
    if c = separator then some ([], rest)
    else (splitOnce separator rest).map fun (before, after) => (c :: before, after)

theorem splitOnce_eq_some_iff {separator : Char} {s before after : List Char} :
    splitOnce separator s = some (before, after) ↔
      separator ∉ before ∧ s = before ++ separator :: after := by
  induction s generalizing before with
  | nil => simp [splitOnce]
  | cons c rest ih =>
    rw [splitOnce]
    by_cases here : c = separator
    · rw [if_pos here]
      constructor
      · rintro ⟨⟩
        exact ⟨List.not_mem_nil, by rw [here]; rfl⟩
      · rintro ⟨absent, split⟩
        cases before with
        | nil =>
          cases split
          rfl
        | cons first others =>
          cases split
          exact absurd (here ▸ List.mem_cons_self) absent
    · rw [if_neg here]
      cases before with
      | nil =>
        simp [here]
      | cons first others =>
        simp only [Option.map_eq_some_iff, Prod.mk.injEq, List.cons_append, List.cons.injEq, Prod.exists]
        constructor
        · rintro ⟨before, after, split, ⟨rfl, rfl⟩, rfl⟩
          obtain ⟨absent, rfl⟩ := ih.mp split
          exact ⟨List.not_mem_cons_of_ne_of_not_mem (Ne.symm here) absent, rfl, rfl⟩
        · rintro ⟨absent, rfl, rfl⟩
          exact ⟨others, after, ih.mpr ⟨fun member => absent (List.mem_cons_of_mem _ member), rfl⟩,
            ⟨rfl, rfl⟩, rfl⟩

end Geolocation.Text
