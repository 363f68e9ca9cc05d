import Mathlib.Data.List.Pairwise
import Mathlib.Data.List.Sort

/-!
# Ordered sets

An executable model of a B-tree set: the elements in strictly ascending order.
The order of the list is the iteration order of the collection, so `range`
queries are filters of the list and the last element of a range is its greatest
member.
-/

namespace Collections

open List

universe u

/-- A finite set kept as its strictly ascending list of elements. -/
structure BTreeSet (α : Type u) [LinearOrder α] where
  elems : List α
  sorted : elems.Pairwise (· < ·)

namespace BTreeSet

variable {α : Type u} [LinearOrder α]

instance : Membership α (BTreeSet α) where
  mem set value := value ∈ set.elems

instance (value : α) (set : BTreeSet α) : Decidable (value ∈ set) :=
  inferInstanceAs (Decidable (value ∈ set.elems))

variable {set : BTreeSet α} {value other : α}

theorem mem_def :
    value ∈ set ↔ value ∈ set.elems := .rfl

def empty : BTreeSet α := ⟨[], .nil⟩

@[simp] theorem not_mem_empty (value : α) : value ∉ (empty : BTreeSet α) := by
  simp [mem_def, empty]

def singleton (value : α) : BTreeSet α := ⟨[value], by simp⟩

@[simp] theorem mem_singleton : value ∈ singleton other ↔ value = other := by
  simp [mem_def, singleton]

/-- Insert a value at its place in the order. A present value is kept. -/
def insert (set : BTreeSet α) (value : α) : BTreeSet α where
  elems := set.elems.filter (· < value) ++ value :: set.elems.filter (value < ·)
  sorted := by
    refine List.pairwise_append.mpr ⟨set.sorted.filter _, ?_, ?_⟩
    · refine List.pairwise_cons.mpr ⟨?_, set.sorted.filter _⟩
      intro other membership
      simpa using (List.mem_filter.mp membership).2
    · intro below belowMem above aboveMem
      have belowLt : below < value := by simpa using (List.mem_filter.mp belowMem).2
      rcases List.mem_cons.mp aboveMem with rfl | aboveMem
      · exact belowLt
      · have aboveGt : value < above := by simpa using (List.mem_filter.mp aboveMem).2
        exact belowLt.trans aboveGt

@[simp] theorem mem_insert : other ∈ set.insert value ↔ other = value ∨ other ∈ set := by
  simp only [mem_def, insert, mem_append, mem_filter, mem_cons, decide_eq_true_eq]
  constructor
  · rintro (⟨mem, -⟩ | rfl | ⟨mem, -⟩)
    · exact .inr mem
    · exact .inl rfl
    · exact .inr mem
  · rintro (rfl | mem)
    · exact .inr (.inl rfl)
    · rcases lt_trichotomy other value with below | rfl | above
      · exact .inl ⟨mem, below⟩
      · exact .inr (.inl rfl)
      · exact .inr (.inr ⟨mem, above⟩)

/-- Remove a value; an absent value leaves the set as it is. -/
def remove (set : BTreeSet α) (value : α) : BTreeSet α :=
  ⟨set.elems.filter (· ≠ value), set.sorted.filter _⟩

@[simp] theorem mem_remove : other ∈ set.remove value ↔ other ∈ set ∧ other ≠ value := by
  simp [mem_def, remove]

theorem length_remove_lt (mem : value ∈ set) :
    (set.remove value).elems.length < set.elems.length := by
  refine length_filter_lt_length_iff_exists.mpr ⟨value, mem, ?_⟩
  simp

/-- Remove and return a value, when it is present. -/
def take (set : BTreeSet α) (value : α) : Option (α × BTreeSet α) :=
  if value ∈ set then some (value, set.remove value) else none

theorem take_eq_some {rest : BTreeSet α} {taken : α} :
    set.take value = some (taken, rest) ↔
      value ∈ set ∧ taken = value ∧ rest = set.remove value := by
  unfold take
  split
  next mem =>
    simp only [Option.some.injEq, Prod.mk.injEq, mem, true_and]
    exact ⟨fun ⟨left, right⟩ => ⟨left.symm, right.symm⟩,
      fun ⟨left, right⟩ => ⟨left.symm, right.symm⟩⟩
  next absent => simp [absent]

theorem take_eq_none : set.take value = none ↔ value ∉ set := by
  unfold take
  split <;> simp_all

/-- The members in the inclusive range from `low` to `high`, ascending. -/
def range (set : BTreeSet α) (low high : α) : List α :=
  set.elems.filter fun value => low ≤ value ∧ value ≤ high

variable {high : α}

@[simp] theorem mem_range {low : α} :
    value ∈ set.range low high ↔ value ∈ set ∧ low ≤ value ∧ value ≤ high := by
  simp [range, mem_def]

/-- The members up to and including `high`, ascending. -/
def rangeTo (set : BTreeSet α) (high : α) : List α :=
  set.elems.filter (· ≤ high)

@[simp] theorem mem_rangeTo : value ∈ set.rangeTo high ↔ value ∈ set ∧ value ≤ high := by
  simp [rangeTo, mem_def]

theorem le_getLast_of_sorted {values : List α} {last : α}
    (sorted : values.Pairwise (· < ·)) (isLast : values.getLast? = some last) :
    ∀ value ∈ values, value ≤ last := by
  intro value mem
  have le := (sorted.imp le_of_lt).rel_getLast mem
  rwa [(getLast_eq_iff_getLast?_eq_some _).mpr isLast] at le

/-- The greatest member up to `high`, found at the end of the range. -/
theorem rangeTo_getLast?_eq_some {last : α} (isLast : (set.rangeTo high).getLast? = some last) :
    last ∈ set ∧ last ≤ high ∧ ∀ value ∈ set, value ≤ high → value ≤ last := by
  have lastMem := mem_rangeTo.mp (mem_of_getLast? isLast)
  refine ⟨lastMem.1, lastMem.2, ?_⟩
  intro value mem valueLe
  exact le_getLast_of_sorted (set.sorted.filter _) isLast value
    (mem_rangeTo.mpr ⟨mem, valueLe⟩)

theorem rangeTo_getLast?_eq_none :
    (set.rangeTo high).getLast? = none ↔ ∀ value ∈ set, ¬ value ≤ high := by
  rw [List.getLast?_eq_none_iff, rangeTo, filter_eq_nil_iff]
  simp [mem_def]

/-! ## Loops over a set -/

theorem eq_of_mem_iff {left right : BTreeSet α} (same : ∀ value, value ∈ left ↔ value ∈ right) :
    left = right := by
  cases left with
  | mk left leftSorted =>
    cases right with
    | mk right rightSorted =>
      have elems : left = right := leftSorted.eq_of_mem_iff rightSorted same
      subst elems
      rfl

variable {β : Type*} (value : β → α)

theorem mem_foldl_insert (items : List β) (set : BTreeSet α) :
    other ∈ items.foldl (fun set item => set.insert (value item)) set ↔
      other ∈ set ∨ other ∈ items.map value := by
  induction items generalizing set with
  | nil => simp
  | cons item items ih =>
    rw [foldl_cons, ih, mem_insert, map_cons, mem_cons, or_assoc, or_left_comm]

theorem mem_foldl_remove (items : List β) (set : BTreeSet α) :
    other ∈ items.foldl (fun set item => set.remove (value item)) set ↔
      other ∈ set ∧ other ∉ items.map value := by
  induction items generalizing set with
  | nil => simp
  | cons item items ih =>
    rw [foldl_cons, ih, mem_remove, map_cons, mem_cons, not_or, and_assoc]

end BTreeSet

end Collections
