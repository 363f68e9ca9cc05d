import Mathlib.Data.List.GetD
import Mathlib.Tactic.Linarith

/-!
# Consecutive blocks of given sizes
-/

namespace Blocks

open List

/-- The index of the block of each position, from a first index on. -/
def indices : (first : Nat) → (sizes : List Nat) → List Nat
  | _, [] => []
  | first, size :: sizes => .replicate size first ++ indices (first + 1) sizes

variable {sizes : List Nat}

theorem le_of_mem_indices {first index : Nat}
    (indexMem : index ∈ indices first sizes) : first ≤ index := by
  induction sizes generalizing first with
  | nil => cases indexMem
  | cons size sizes ih =>
    obtain here | later := mem_append.mp indexMem
    · exact (eq_of_mem_replicate here).ge
    · exact (Nat.le_succ first).trans (ih later)

theorem pairwise_indices (first : Nat) (sizes : List Nat) :
    (indices first sizes).Pairwise (· ≤ ·) := by
  induction sizes generalizing first with
  | nil => exact .nil
  | cons size sizes ih =>
    refine pairwise_append.mpr ⟨pairwise_replicate.mpr (.inr le_rfl), ih _, ?_⟩
    intro left leftMem right rightMem
    rw [eq_of_mem_replicate leftMem]
    exact (Nat.le_succ first).trans (le_of_mem_indices rightMem)

theorem count_indices (first index : Nat) (sizes : List Nat) :
    (indices first sizes).count (first + index) = sizes.getD index 0 := by
  induction sizes generalizing first index with
  | nil => rfl
  | cons size sizes ih =>
    rw [indices, count_append, count_replicate]
    cases index with
    | zero =>
      have absent : first ∉ indices (first + 1) sizes := by
        intro firstMem
        exact absurd (le_of_mem_indices firstMem) (Nat.not_succ_le_self first)
      simp [count_eq_zero_of_not_mem absent]
    | succ index =>
      have shift : first + (index + 1) = first + 1 + index := by omega
      have ne : ¬first = first + 1 + index := by omega
      rw [shift, ih, getD_cons_succ]
      simp only [beq_iff_eq, ne, if_false, zero_add]

theorem mem_indices_iff (pos : ∀ size ∈ sizes, 0 < size) {index : Nat} :
    index ∈ indices 0 sizes ↔ index < sizes.length := by
  have count := count_indices 0 index sizes
  rw [zero_add] at count
  rw [← count_pos_iff, count]
  constructor
  · intro filled
    by_contra outside
    rw [getD_eq_default _ _ (not_lt.mp outside)] at filled
    exact Nat.lt_irrefl 0 filled
  · intro inside
    rw [getD_eq_getElem _ _ inside]
    exact pos _ (getElem_mem inside)

end Blocks
