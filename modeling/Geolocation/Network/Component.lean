/-!
# Connected components

Items are joined by links that a test decides; the test may also fail, and then so does the whole. Each
item gets the label of its component. The items are taken in order, and one that has no label yet
starts a new component. A stack holds the labelled items whose links have not been followed. An item is
labelled when it is put on the stack, so that it gets there once, and the search ends whatever the test
says: it need be neither symmetric nor consistent.
-/

namespace Geolocation.Component

variable {n : Nat} {ε : Type}

abbrev Labels (n : Nat) : Type := Vector (Option Nat) n

namespace Labels

def of (labels : Labels n) (item : Fin n) : Option Nat := labels[item]

@[simp]
theorem of_set (labels : Labels n) (item k : Fin n) (label : Option Nat) :
    of (labels.set item label) k = if k = item then label else labels.of k := by
  simp only [of, Fin.getElem_fin, Vector.getElem_set, Fin.ext_iff, eq_comm (a := k.val)]

@[simp]
theorem of_replicate (label : Option Nat) (k : Fin n) : of (Vector.replicate n label) k = label := by
  simp [of]

end Labels

/-! ### One component -/

/-- A component that is being filled. -/
structure Filling (n : Nat) where
  labels : Labels n
  /-- The items whose links have not been followed. -/
  stack : List (Fin n)

namespace Filling

def take (label : Nat) (filling : Filling n) (item : Fin n) : Filling n :=
  ⟨filling.labels.set item (some label), item :: filling.stack⟩

/-- What is left to do: each item without a label may still get onto the stack, and each item on the
stack has to leave it. -/
def weight (filling : Filling n) : Nat := filling.labels.count none + filling.stack.length

/-- Takes another item in if it has no label and is linked from this one. Only then is the test
made. -/
def consider (linked : Fin n → Fin n → Except ε Bool) (label : Nat) (item : Fin n)
    (filling : Filling n) (other : Fin n) : Except ε (Filling n) :=
  if (filling.labels.of other).isSome then .ok filling
  else
    match linked item other with
    | .error fault => .error fault
    | .ok isLinked => .ok (if isLinked then filling.take label other else filling)

def follow (linked : Fin n → Fin n → Except ε Bool) (label : Nat) (item : Fin n)
    (filling : Filling n) : Except ε (Filling n) :=
  (List.finRange n).foldlM (consider linked label item) filling

/-- Taking in an item that has no label leaves as much to do as before. -/
theorem weight_take (label : Nat) (filling : Filling n) (item : Fin n)
    (fresh : filling.labels.of item = none) : (filling.take label item).weight = filling.weight := by
  have counted : 0 < filling.labels.count none := by
    rw [Vector.count_pos_iff, Vector.mem_iff_getElem]
    exact ⟨item, item.isLt, fresh⟩
  simp only [weight, take, List.length_cons]
  rw [Vector.count_set]
  simp only [Labels.of, Fin.getElem_fin] at fresh
  simp [fresh]
  omega

theorem weight_consider {linked : Fin n → Fin n → Except ε Bool} {label : Nat} {item other : Fin n}
    {filling next : Filling n} (considered : consider linked label item filling other = .ok next) :
    next.weight = filling.weight := by
  unfold consider at considered
  split at considered
  · cases considered
    rfl
  next unlabelled =>
    split at considered
    · cases considered
    · cases considered
      split
      · exact weight_take label filling other (by simpa using unlabelled)
      · rfl

theorem weight_follow {linked : Fin n → Fin n → Except ε Bool} {label : Nat} {item : Fin n}
    {filling next : Filling n} (followed : follow linked label item filling = .ok next) :
    next.weight = filling.weight := by
  suffices general : ∀ others : List (Fin n), ∀ filling : Filling n,
      others.foldlM (consider linked label item) filling = .ok next →
      next.weight = filling.weight from general _ _ followed
  intro others
  induction others with
  | nil =>
    intro filling followed
    cases followed
    rfl
  | cons other rest ih =>
    intro filling followed
    rw [List.foldlM_cons] at followed
    cases considered : consider linked label item filling other with
    | error fault => rw [considered] at followed; cases followed
    | ok middle =>
      rw [considered] at followed
      exact (ih middle followed).trans (weight_consider considered)

/-- Follows links until nothing is left on the stack, from the item that was put there last. -/
def fill (linked : Fin n → Fin n → Except ε Bool) (label : Nat) (filling : Filling n) :
    Except ε (Labels n) :=
  match _stacked : filling.stack with
  | [] => .ok filling.labels
  -- The items that are taken in here come before what is left of the stack.
  | item :: stack =>
    match _followed : follow linked label item ⟨filling.labels, stack⟩ with
    | .error fault => .error fault
    | .ok next => fill linked label next
termination_by filling.weight
decreasing_by
  have kept := weight_follow _followed
  simp only [weight, _stacked, List.length_cons] at kept ⊢
  omega

end Filling

/-! ### All components -/

/-- The labels of items, and the number of components that have been started. -/
structure Labelling (n : Nat) where
  labels : Labels n
  count : Nat

namespace Labelling

def blank (n : Nat) : Labelling n := ⟨Vector.replicate n none, 0⟩

/-- Starts a component with an item that has no label. -/
def start (linked : Fin n → Fin n → Except ε Bool) (labelling : Labelling n) (item : Fin n) :
    Except ε (Labelling n) :=
  if (labelling.labels.of item).isSome then .ok labelling
  else
    match Filling.fill linked labelling.count (Filling.take labelling.count ⟨labelling.labels, []⟩ item) with
    | .error fault => .error fault
    | .ok labels => .ok ⟨labels, labelling.count + 1⟩

def ofTest (linked : Fin n → Fin n → Except ε Bool) : Except ε (Labelling n) :=
  (List.finRange n).foldlM (start linked) (blank n)

end Labelling

/-- Puts an item into the group of its label. -/
def place {α : Type} (groups : List (List α)) (labelled : α × Option Nat) : List (List α) :=
  match labelled.2 with
  | none => groups
  | some label => groups.modify label (· ++ [labelled.1])

/-- The groups of items with one label. -/
def Labelling.groups {α : Type} (items : List α) (labelling : Labelling items.length) :
    List (List α) :=
  (items.zip labelling.labels.toList).foldl place (List.replicate labelling.count [])

end Geolocation.Component
