import Geolocation.IpAddress
import Geolocation.Proofs.Text.Digits
import Geolocation.Text.Blank

/-!
# IP addresses that are written and read again

Reading the text of an address gives the address back, for both versions and for mapped addresses. A
text of version 6 is never taken for one of version 4, since it contains a colon. The two colons stand
for the longest run of zero groups, and the groups that are left over tell how many it were.
-/

namespace Geolocation.IpAddress

open Text

/-! ### Numbers between separators -/

theorem splitOn_toDigits {separator : Char} {base : Nat} {numbers : List Nat}
    (other : isHexDigit separator = false) (more : 1 < base) (few : base ≤ 16)
    (some : numbers ≠ []) :
    splitOn separator ([separator].intercalate (numbers.map (Nat.toDigits base)))
      = numbers.map (Nat.toDigits base) := by
  refine splitOn_intercalate ?_ (by simpa using some)
  intro part member
  obtain ⟨number, -, rfl⟩ := List.mem_map.mp member
  exact notMem_toDigits other more few

theorem mem_intercalate_toDigits {separator c : Char} {base : Nat} {numbers : List Nat}
    (more : 1 < base) (few : base ≤ 16)
    (member : c ∈ [separator].intercalate (numbers.map (Nat.toDigits base))) :
    isHexDigit c = true ∨ c = separator := by
  rcases mem_intercalate member with between | ⟨part, present, digit⟩
  · exact Or.inr between
  · obtain ⟨number, -, rfl⟩ := List.mem_map.mp present
    exact Or.inl (isHexDigit_of_mem_toDigits more few digit)

/-! ### Version 4 -/

theorem octet?_toDigits {n : Nat} (small : n < 256) : octet? (Nat.toDigits 10 n) = some n := by
  revert n
  decide +kernel

theorem toList_dottedText (n : Nat) : (dottedText n).toList = ['.'].intercalate
    ([n / 0x1000000, n / 0x10000 % 256, n / 256 % 256, n % 256].map (Nat.toDigits 10)) := by
  simp [dottedText, Nat.repr]

theorem readV4?_dottedText {n : Nat} (small : n < 0x100000000) :
    readV4? (dottedText n).toList = some n := by
  have split : splitOn '.' (dottedText n).toList
      = [n / 0x1000000, n / 0x10000 % 256, n / 256 % 256, n % 256].map (Nat.toDigits 10) := by
    rw [toList_dottedText]
    exact splitOn_toDigits (by decide) (by decide) (by decide) (by simp)
  -- Only the highest octet needs the bound; the others are remainders.
  have highest : n / 0x1000000 < 256 := by omega
  have octet (m : Nat) : octet? (Nat.toDigits 10 (m % 256)) = some (m % 256) :=
    octet?_toDigits (Nat.mod_lt _ (by decide))
  simp only [readV4?, split, List.map_cons, List.map_nil, List.mapM_cons, List.mapM_nil,
    octet?_toDigits highest, octet]
  simp only [Option.bind_eq_bind, Option.pure_def, Option.bind_some, Option.map_some, joinDigits,
    List.foldl_cons, List.foldl_nil, Option.some.injEq]
  omega

theorem isDigit_of_octet? {s : List Char} {n : Nat} (read : octet? s = some n) {c : Char}
    (member : c ∈ s) : c.isDigit = true := by
  unfold octet? at read
  split at read
  · cases read
  next digits =>
    simp only [not_or, Bool.not_eq_true', Bool.not_eq_false] at digits
    exact List.all_eq_true.mp digits.2.2 c member

theorem readV4?_of_colon {s : List Char} (colon : ':' ∈ s) : readV4? s = none := by
  rcases mem_splitOn '.' colon with dot | ⟨part, present, here⟩
  · cases dot
  · -- The part with the colon is no octet, whichever of the four it is.
    have refused : octet? part = none := by
      cases read : octet? part with
      | none => rfl
      | some n => exact absurd (isDigit_of_octet? read here) (by decide)
    unfold readV4?
    split
    next a b c d split =>
      rw [split] at present
      simp only [List.mem_cons, List.not_mem_nil, or_false] at present
      rcases present with rfl | rfl | rfl | rfl <;> simp [refused]
    · rfl

theorem readV4?_of_no_dot {s : List Char} (plain : '.' ∉ s) : readV4? s = none := by
  have whole : splitOn '.' (['.'].intercalate [s]) = [s] :=
    splitOn_intercalate (by simpa using plain) (by simp)
  rw [List.intercalate_singleton] at whole
  simp [readV4?, whole]

/-! ### Groups -/

theorem group?_toDigits {g : Nat} (small : g < 0x10000) : group? (Nat.toDigits 16 g) = some g := by
  have short : (Nat.toDigits 16 g).length ≤ 4 :=
    (Nat.length_toDigits_le_iff (by decide) (by decide)).mpr small
  rw [group?, if_neg, hexNumber_toDigits]
  simp only [List.isEmpty_iff, Nat.toDigits_ne_nil, false_or]
  omega

theorem toList_groupsText (groups : List Nat) :
    (groupsText groups).toList = [':'].intercalate (groups.map (Nat.toDigits 16)) := by
  simp [groupsText, Function.comp_def]

theorem groupsText_cons (first : Nat) (rest : List Nat) :
    ∃ tail, (groupsText (first :: rest)).toList = Nat.toDigits 16 first ++ tail := by
  rw [toList_groupsText]
  cases rest with
  | nil => exact ⟨[], by simp⟩
  | cons second rest => exact ⟨_, List.intercalate_cons_cons.trans (List.append_assoc _ _ _)⟩

theorem groupsText_cons_cons (first second : Nat) (rest : List Nat) :
    (groupsText (first :: second :: rest)).toList
      = Nat.toDigits 16 first ++ ':' :: (groupsText (second :: rest)).toList := by
  simp [toList_groupsText]

theorem mapM_group?_toDigits {groups : List Nat} (small : ∀ g ∈ groups, g < 0x10000) :
    (groups.map (Nat.toDigits 16)).mapM group? = some groups := by
  induction groups with
  | nil => rfl
  | cons g rest ih =>
    obtain ⟨head, tail⟩ := List.forall_mem_cons.mp small
    simp [group?_toDigits head, ih tail]

theorem groups?_groupsText (dotted : Bool) {groups : List Nat} (small : ∀ g ∈ groups, g < 0x10000) :
    groups? dotted (groupsText groups).toList = some groups := by
  by_cases some : groups = []
  · subst some
    rfl
  · -- The last part has no dot, so it is a group also where an address of version 4 may stand.
    have last : (if dotted then
        (groups.map (Nat.toDigits 16)).getLast?.bind readV4? else none) = none := by
      cases dotted with
      | false => rfl
      | true =>
        have plain (g : Nat) : readV4? (Nat.toDigits 16 g) = none :=
          readV4?_of_no_dot (notMem_toDigits (by decide) (by decide) (by decide))
        simp [List.getLast?_map, Option.bind_map, plain]
    have written : (groupsText groups).toList.isEmpty = false := by
      cases groups with
      | nil => contradiction
      | cons first rest =>
        obtain ⟨tail, starts⟩ := groupsText_cons first rest
        simp [starts, Nat.toDigits_ne_nil]
    have split : splitOn ':' (groupsText groups).toList = groups.map (Nat.toDigits 16) := by
      rw [toList_groupsText]
      exact splitOn_toDigits (by decide) (by decide) (by decide) some
    simp only [groups?, written, split, last]
    exact mapM_group?_toDigits small

/-! ### Gaps -/

theorem splitGap_append {part : List Char} (apart : ':' ∉ part) (rest : List Char) :
    splitGap (part ++ rest) = (splitGap rest).map fun (before, after) => (part ++ before, after) := by
  induction part with
  | nil => simp
  | cons c part ih =>
    rw [List.mem_cons, not_or] at apart
    rw [List.cons_append, splitGap, ih apart.2, Option.map_map]
    · rfl
    · intro other colon
      exact absurd colon (Ne.symm apart.1)

theorem splitGap_colon {rest : List Char} (apart : rest.head? ≠ some ':') :
    splitGap (':' :: rest) = (splitGap rest).map fun (before, after) => (':' :: before, after) := by
  rw [splitGap]
  intro other colon continues
  simp [continues] at apart

/-- Groups have no gap, so that the first one is behind them. -/
theorem splitGap_groupsText (groups : List Nat) (rest : List Char) :
    splitGap ((groupsText groups).toList ++ rest)
      = (splitGap rest).map fun (before, after) => ((groupsText groups).toList ++ before, after) := by
  have apart (g : Nat) : ':' ∉ Nat.toDigits 16 g :=
    notMem_toDigits (by decide) (by decide) (by decide)
  induction groups with
  | nil => simp [toList_groupsText]
  | cons first groups ih =>
    cases groups with
    | nil => simpa [toList_groupsText] using splitGap_append (apart first) rest
    | cons second groups =>
      -- A digit follows the colon between two groups, and no second colon.
      have digit : ((groupsText (second :: groups)).toList ++ rest).head? ≠ some ':' := by
        obtain ⟨tail, starts⟩ := groupsText_cons second groups
        obtain ⟨c, digits, written⟩ :=
          List.exists_cons_of_ne_nil (Nat.toDigits_ne_nil (b := 16) (n := second))
        rw [starts, written]
        intro head
        apply apart second
        rw [written]
        exact List.mem_cons.mpr (Or.inl (Option.some.inj head).symm)
      rw [groupsText_cons_cons, List.append_assoc, splitGap_append (apart first), List.cons_append,
        splitGap_colon digit, ih]
      simp [Function.comp_def]

/-- A run of zero groups: where it starts, and how long it is. -/
def IsGap (groups : List Nat) (gap : Nat × Nat) : Prop :=
  gap.1 + gap.2 ≤ groups.length ∧ (groups.drop gap.1).take gap.2 = List.replicate gap.2 0

theorem longestGap_isGap (groups : List Nat) : IsGap groups (longestGap groups) := by
  unfold longestGap
  -- Every candidate is a run of zeros, so the longest of those looked at so far is one.
  apply List.foldlRecOn
  · exact ⟨by simp, rfl⟩
  · intro longest isGap start inside
    have within := List.mem_range.mp inside
    dsimp only
    split
    · have run := List.takeWhile_prefix (· = 0) (l := groups.drop start)
      constructor
      · have := run.length_le
        rw [List.length_drop] at this
        dsimp only
        omega
      · rw [← List.prefix_iff_eq_take.mp run]
        apply List.eq_replicate_of_mem
        intro g member
        simpa using List.all_eq_true.mp List.all_takeWhile g member
    · exact isGap

theorem IsGap.eq {groups : List Nat} {gap : Nat × Nat} (isGap : IsGap groups gap) :
    groups.take gap.1 ++ List.replicate gap.2 0 ++ groups.drop (gap.1 + gap.2) = groups := by
  rw [← isGap.2, ← List.drop_drop, List.append_assoc, List.take_append_drop, List.take_append_drop]

/-! ### Version 6 -/

theorem length_groupsOf (n : Nat) : (groupsOf n).length = 8 := by
  simp [groupsOf]

theorem small_of_mem_groupsOf {n g : Nat} (member : g ∈ groupsOf n) : g < 0x10000 := by
  obtain ⟨i, -, rfl⟩ := List.mem_map.mp member
  exact Nat.mod_lt _ (by decide)

theorem joinDigits_groupsOf {n : Nat} (small : n < 0x100000000000000000000000000000000) :
    joinDigits 0x10000 (groupsOf n) = n := by
  simp only [joinDigits, groupsOf, Nat.shiftRight_eq_div_pow, List.range, List.range.loop,
    List.map_cons, List.map_nil, List.foldl_cons, List.foldl_nil]
  omega

theorem readV6?_groupsText {groups : List Nat} (small : ∀ g ∈ groups, g < 0x10000)
    (eight : groups.length = 8) : readV6? (groupsText groups).toList = some groups := by
  have gapless : splitGap (groupsText groups).toList = none := by
    simpa [splitGap] using splitGap_groupsText groups []
  simp [readV6?, gapless, groups?_groupsText true small, eight]

/-- The groups on both sides of a gap tell how many zero groups there are between them. -/
theorem readV6?_gap {groups : List Nat} (small : ∀ g ∈ groups, g < 0x10000)
    (eight : groups.length = 8) {gap : Nat × Nat} (isGap : IsGap groups gap) (some : 0 < gap.2) :
    readV6? ((groupsText (groups.take gap.1)).toList ++ ':' :: ':' ::
      (groupsText (groups.drop (gap.1 + gap.2))).toList) = .some groups := by
  have before : groups? false (groupsText (groups.take gap.1)).toList = .some (groups.take gap.1) :=
    groups?_groupsText false fun g member => small g (List.mem_of_mem_take member)
  have after : groups? true (groupsText (groups.drop (gap.1 + gap.2))).toList
      = .some (groups.drop (gap.1 + gap.2)) :=
    groups?_groupsText true fun g member => small g (List.mem_of_mem_drop member)
  have within : gap.1 + gap.2 ≤ 8 := eight ▸ isGap.1
  have atMost : (groups.take gap.1).length + (groups.drop (gap.1 + gap.2)).length ≤ 7 := by
    rw [List.length_take, List.length_drop]
    omega
  have missing : 8 - (groups.take gap.1).length - (groups.drop (gap.1 + gap.2)).length = gap.2 := by
    rw [List.length_take, List.length_drop]
    omega
  simp only [readV6?, splitGap_groupsText, splitGap, Option.map_some, List.append_nil, before, after]
  simp only [Option.bind_eq_bind, Option.bind_some, if_pos atMost, missing, isGap.eq]
  rfl

/-- An address of version 4 behind the colons makes the last two groups. -/
theorem readV6?_mapped {s : List Char} {n : Nat} (read : readV4? s = some n) :
    readV6? (':' :: ':' :: (['f', 'f', 'f', 'f'] ++ ':' :: s))
      = some [0, 0, 0, 0, 0, 0xffff, n / 0x10000, n % 0x10000] := by
  have colon : ':' ∉ s := by
    intro member
    simp [readV4?_of_colon member] at read
  have split : splitOn ':' (['f', 'f', 'f', 'f'] ++ ':' :: s) = [['f', 'f', 'f', 'f'], s] := by
    have joined : ['f', 'f', 'f', 'f'] ++ ':' :: s = [':'].intercalate [['f', 'f', 'f', 'f'], s] := by
      simp
    rw [joined]
    exact splitOn_intercalate (by simp [colon]) (by simp)
  have before : groups? false [] = some [] := rfl
  have after : groups? true (['f', 'f', 'f', 'f'] ++ ':' :: s)
      = some [0xffff, n / 0x10000, n % 0x10000] := by
    have group : group? ['f', 'f', 'f', 'f'] = some 0xffff := by decide
    rw [groups?, split]
    simp [read, group]
  simp only [readV6?, splitGap, before, after]
  rfl

/-- The text of an address of version 6 contains a colon and is read as groups that make its number. -/
theorem readV6?_text (bits : BitVec 128) : ':' ∈ (text (.v6 bits)).toList ∧
    ∃ groups, readV6? (text (.v6 bits)).toList = some groups ∧
      joinDigits 0x10000 groups = bits.toNat := by
  have small (g : Nat) (member : g ∈ groupsOf bits.toNat) : g < 0x10000 := small_of_mem_groupsOf member
  have eight := length_groupsOf bits.toNat
  have joined := joinDigits_groupsOf bits.isLt
  have isGap := longestGap_isGap (groupsOf bits.toNat)
  simp only [text]
  split
  next mapped =>
    have read := readV6?_mapped (readV4?_dottedText (Nat.mod_lt bits.toNat (by decide)))
    refine ⟨by simp, _, by simpa using read, ?_⟩
    simp only [joinDigits, List.foldl_cons, List.foldl_nil]
    omega
  next =>
    split
    next wide =>
      refine ⟨by simp, groupsOf bits.toNat, ?_, joined⟩
      simpa using readV6?_gap small eight isGap (Nat.lt_of_succ_lt wide)
    next narrow =>
      refine ⟨?_, groupsOf bits.toNat, readV6?_groupsText small eight, joined⟩
      simp [groupsOf, List.range, List.range.loop, groupsText_cons_cons]

theorem read?_text (ip : IpAddress) : read? ip.text = some ip := by
  cases ip with
  | v4 bits => simp [text, read?, readV4?_dottedText bits.isLt]
  | v6 bits =>
    obtain ⟨colon, groups, read, joined⟩ := readV6?_text bits
    simp [read?, readV4?_of_colon colon, read, joined]

/-! ### White space -/

theorem mem_toList_dottedText {n : Nat} {c : Char} (member : c ∈ (dottedText n).toList) :
    isHexDigit c = true ∨ c = '.' := by
  rw [toList_dottedText] at member
  exact mem_intercalate_toDigits (by decide) (by decide) member

theorem mem_toList_groupsText {groups : List Nat} {c : Char}
    (member : c ∈ (groupsText groups).toList) : isHexDigit c = true ∨ c = ':' := by
  rw [toList_groupsText] at member
  exact mem_intercalate_toDigits (by decide) (by decide) member

theorem mem_toList_text {ip : IpAddress} {c : Char} (member : c ∈ ip.text.toList) :
    isHexDigit c = true ∨ c = ':' ∨ c = '.' := by
  cases ip with
  | v4 bits => exact (mem_toList_dottedText member).imp_right Or.inr
  | v6 bits =>
    simp only [text] at member
    split at member
    · rw [String.toList_append, List.mem_append] at member
      rcases member with front | dotted
      · have all : ("::ffff:".toList.all fun c => isHexDigit c || c = ':') = true := by decide
        have kind := List.all_eq_true.mp all c front
        rw [Bool.or_eq_true, decide_eq_true_eq] at kind
        exact kind.imp_right Or.inl
      · exact (mem_toList_dottedText dotted).imp_right Or.inr
    · split at member
      · rw [String.toList_append, String.toList_append, List.mem_append, List.mem_append] at member
        rcases member with (before | gap) | after
        · exact (mem_toList_groupsText before).imp_right Or.inl
        · exact Or.inr (Or.inl (by simpa using gap))
        · exact (mem_toList_groupsText after).imp_right Or.inl
      · exact (mem_toList_groupsText member).imp_right Or.inl

theorem trim_text (ip : IpAddress) : trim ip.text = ip.text := by
  apply trim_eq_self
  intro c member
  rcases mem_toList_text member with digit | rfl | rfl
  · rw [isHexDigit_iff] at digit
    simp [isBlank, inRanges, blankRanges]
    omega
  · decide
  · decide

end Geolocation.IpAddress
