import Mathlib.Data.List.Rotate
import Mathlib.Tactic.Linarith

/-!
# Searching past intervals

Lists of inclusive intervals of natural numbers, the first number of a range that they
do not cover, and the search through a range in cyclic order.
-/

namespace Intervals

open List

def Covers (intervals : List (Nat × Nat)) (index : Nat) : Prop :=
  ∃ interval ∈ intervals, interval.1 ≤ index ∧ index ≤ interval.2

theorem not_covers_nil (index : Nat) : ¬ Covers [] index := by
  rintro ⟨interval, mem, -⟩
  cases mem

variable {interval : Nat × Nat} {intervals : List (Nat × Nat)} {start : Nat}

theorem covers_cons {index : Nat} :
    Covers (interval :: intervals) index ↔
      (interval.1 ≤ index ∧ index ≤ interval.2) ∨ Covers intervals index := by
  simp only [Covers, mem_cons, exists_eq_or_imp]

theorem not_covers_of_lt {index : Nat}
    (sorted : (interval :: intervals).Pairwise fun left right => left.1 ≤ right.1)
    (less : index < interval.1) : ¬ Covers (interval :: intervals) index := by
  rintro ⟨other, mem, start, -⟩
  rcases mem_cons.mp mem with rfl | later
  · omega
  · have := rel_of_pairwise_cons sorted later
    omega

variable {last : Nat}

/-- A gap begins at the start of a range or right after an interval, so a range is covered
as soon as those places of it are. -/
theorem forall_covers_iff :
    (∀ index, start ≤ index → index ≤ last → Covers intervals index) ↔
      ∀ index ∈ start :: intervals.map (fun interval => interval.2 + 1),
        start ≤ index → index ≤ last → Covers intervals index := by
  constructor
  · intro covered index _ lower upper
    exact covered index lower upper
  · intro starts index lower upper
    induction index, lower using Nat.le_induction with
    | base => exact starts start mem_cons_self (Nat.le_refl start) upper
    | succ index lower ih =>
      obtain ⟨interval, mem, begins, ends⟩ := ih (by omega)
      by_cases inside : index + 1 ≤ interval.2
      · exact ⟨interval, mem, by omega, inside⟩
      · -- the interval that covers the number before ends there
        have next : index + 1 = interval.2 + 1 := by omega
        refine starts (index + 1) (mem_cons_of_mem _ ?_) (by omega) upper
        exact mem_map.mpr ⟨interval, mem, next.symm⟩

/-- The outcome of a search through an inclusive range for the first number without a
property. -/
def FirstWithout (property : Nat → Prop) (start last : Nat) : Option Nat → Prop
  | some index => start ≤ index ∧ index ≤ last ∧ ¬ property index ∧
      ∀ lower, start ≤ lower → lower < index → property lower
  | none => ∀ index, start ≤ index → index ≤ last → property index

variable {outcome : Option Nat}

/-- The outcome of a search can be read with a property that is the same on the range. -/
theorem FirstWithout.congr {property other : Nat → Prop}
    (search : FirstWithout property start last outcome)
    (same : ∀ index, index ≤ last → (property index ↔ other index)) :
    FirstWithout other start last outcome := by
  cases outcome with
  | none =>
    intro index after before
    exact (same index before).mp (search index after before)
  | some index =>
    obtain ⟨after, before, without, lower⟩ := search
    refine ⟨after, before, fun held => without ((same index before).mpr held), ?_⟩
    intro below belowAfter less
    exact (same below (by omega)).mp (lower below belowAfter less)

/-- A search that goes past one interval is a search past all of them when the interval
covers what is skipped and ends before the search goes on. -/
theorem FirstWithout.cons {rest : List (Nat × Nat)} {next : Nat}
    (search : FirstWithout (Covers rest) next last outcome) (le : start ≤ next)
    (skipped : ∀ index, start ≤ index → index < next → interval.1 ≤ index ∧ index ≤ interval.2)
    (ended : interval.2 < next) :
    FirstWithout (Covers (interval :: rest)) start last outcome := by
  have covered : ∀ index, start ≤ index → (next ≤ index → Covers rest index) →
      Covers (interval :: rest) index := by
    intro index after later
    rw [covers_cons]
    by_cases reached : next ≤ index
    · exact .inr (later reached)
    · exact .inl (skipped index after (by omega))
  cases outcome with
  | none =>
    intro index after before
    exact covered index after fun reached => search index reached before
  | some index =>
    obtain ⟨after, before, without, lower⟩ := search
    refine ⟨le.trans after, before, ?_, ?_⟩
    · rw [covers_cons]
      rintro (⟨-, within⟩ | later)
      · omega
      · exact without later
    · intro below belowAfter less
      exact covered below belowAfter fun reached => lower below reached less

theorem rotate_range {count : Nat} (le : start ≤ count) :
    (range count).rotate start = range' start (count - start) ++ range start := by
  rw [rotate_eq_drop_append_take (by simpa using le), take_range, Nat.min_eq_left le,
    range_eq_range', drop_range']
  simp

/-- The first number below a count without a property, in the cyclic order from a start. -/
def FirstInCycle (property : Nat → Prop) (count start : Nat) : Option Nat → Prop
  | some index => index < count ∧ ¬ property index ∧ ∃ passed rest,
      (range count).rotate start = passed ++ index :: rest ∧ ∀ other ∈ passed, property other
  | none => ∀ index, index < count → property index

/-- A search from the start to the end of a range and then through its beginning. -/
theorem cyclic_search {property : Nat → Prop} {count : Nat} {upper lower : Option Nat}
    (inside : start < count) (upperSearch : FirstWithout property start (count - 1) upper)
    (lowerSearch : 1 ≤ start → FirstWithout property 0 (start - 1) lower)
    (noLower : start = 0 → lower = none) :
    FirstInCycle property count start (upper.or lower) := by
  cases upper with
  | some index =>
    obtain ⟨after, before, without, passed⟩ := upperSearch
    refine ⟨by omega, without, range' start (index - start),
      range' (index + 1) (count - index - 1) ++ range start, ?_, ?_⟩
    · have split : count - start = (index - start) + (1 + (count - index - 1)) := by omega
      have middle : start + (index - start) = index := by omega
      rw [rotate_range inside.le, split, ← range'_append_1, ← range'_append_1, middle]
      simp
    · intro other mem
      rw [mem_range'_1] at mem
      exact passed other mem.1 (by omega)
  | none =>
    have upperAll : ∀ index, start ≤ index → index < count → property index :=
      fun index after before => upperSearch index after (by omega)
    cases lower with
    | some index =>
      have pos : 1 ≤ start := by
        by_contra zero
        cases noLower (by omega)
      obtain ⟨-, before, without, passed⟩ := lowerSearch pos
      refine ⟨by omega, without, range' start (count - start) ++ range index,
        range' (index + 1) (start - index - 1), ?_, ?_⟩
      · have split : start = index + (1 + (start - index - 1)) := by omega
        have spread : range start =
            range index ++ index :: range' (index + 1) (start - index - 1) := by
          rw [range_eq_range', range_eq_range', split, ← range'_append_1, ← range'_append_1]
          simp
        rw [rotate_range inside.le, spread, append_assoc]
      · intro other mem
        rcases mem_append.mp mem with high | low
        · rw [mem_range'_1] at high
          exact upperAll other high.1 (by omega)
        · exact passed other bot_le (mem_range.mp low)
    | none =>
      intro index before
      by_cases after : start ≤ index
      · exact upperAll index after before
      · exact lowerSearch (by omega) index bot_le (by omega)

end Intervals
