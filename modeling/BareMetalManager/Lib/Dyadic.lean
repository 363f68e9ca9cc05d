import Mathlib.Data.Nat.Bitwise
import Mathlib.Tactic.Ring

/-!
# Dyadic blocks

A dyadic block is a set of `2 ^ level` consecutive naturals whose position is a multiple of its
size: the numbers with one common quotient by `2 ^ level`. Any two blocks are nested or disjoint.
This module develops parents, siblings and halves, and that a disjoint family without siblings
covers a block only through a single member.
-/

namespace Dyadic

/-- The block of naturals whose quotient by `2 ^ level` is `index`. -/
structure Block where
  level : Nat
  index : Nat
  deriving DecidableEq, Repr

namespace Block

instance : Membership Nat Block where
  mem block value := value / 2 ^ block.level = block.index

variable {block left right : Block} {value : Nat}

theorem mem_def :
    value ∈ block ↔ value / 2 ^ block.level = block.index := .rfl

instance (value : Nat) (block : Block) : Decidable (value ∈ block) :=
  inferInstanceAs (Decidable (_ = _))

instance : HasSubset Block where
  Subset left right := ∀ value, value ∈ left → value ∈ right

@[refl] theorem Subset.refl (block : Block) : block ⊆ block := fun _ mem => mem

theorem Subset.trans {middle : Block}
    (first : left ⊆ middle) (second : middle ⊆ right) : left ⊆ right :=
  fun value mem => second value (first value mem)

def first (block : Block) : Nat := block.index * 2 ^ block.level

def last (block : Block) : Nat := block.first + (2 ^ block.level - 1)

theorem mem_iff_bounds : value ∈ block ↔ block.first ≤ value ∧ value ≤ block.last := by
  have pos : 0 < 2 ^ block.level := Nat.two_pow_pos _
  rw [mem_def, Nat.div_eq_iff pos]
  simp only [first, last]
  omega

theorem first_mem (block : Block) : block.first ∈ block := by
  simp only [mem_iff_bounds, last]
  omega

theorem last_mem (block : Block) : block.last ∈ block := by
  simp only [mem_iff_bounds, last]
  omega

theorem subset_iff_bounds : left ⊆ right ↔ right.first ≤ left.first ∧ left.last ≤ right.last := by
  constructor
  · intro subset
    exact ⟨(mem_iff_bounds.mp (subset _ left.first_mem)).1,
      (mem_iff_bounds.mp (subset _ left.last_mem)).2⟩
  · intro bounds value mem
    rw [mem_iff_bounds] at mem ⊢
    omega

instance (left right : Block) : Decidable (left ⊆ right) :=
  decidable_of_iff _ subset_iff_bounds.symm

theorem subset_of_level_le (levels : left.level ≤ right.level)
    (inLeft : value ∈ left) (inRight : value ∈ right) : left ⊆ right := by
  intro other inLeft'
  rw [mem_def] at *
  obtain ⟨gap, levelEq⟩ := Nat.exists_eq_add_of_le levels
  rw [levelEq, pow_add, ← Nat.div_div_eq_div_mul, inLeft']
  rwa [levelEq, pow_add, ← Nat.div_div_eq_div_mul, inLeft] at inRight

theorem subset_or_subset_of_mem (inLeft : value ∈ left) (inRight : value ∈ right) :
    left ⊆ right ∨ right ⊆ left := by
  rcases Nat.le_total left.level right.level with levels | levels
  · exact .inl (subset_of_level_le levels inLeft inRight)
  · exact .inr (subset_of_level_le levels inRight inLeft)

theorem level_le_of_subset (subset : left ⊆ right) : left.level ≤ right.level := by
  have bounds := subset_iff_bounds.mp subset
  have rightPositive : 0 < 2 ^ right.level := Nat.two_pow_pos _
  simp only [last] at bounds
  exact (Nat.pow_le_pow_iff_right (by omega)).mp (by omega : 2 ^ left.level ≤ 2 ^ right.level)

theorem eq_of_level_eq (levels : left.level = right.level)
    (inLeft : value ∈ left) (inRight : value ∈ right) : left = right := by
  rw [mem_def] at inLeft inRight
  cases left
  cases right
  simp_all

theorem Subset.antisymm (forward : left ⊆ right) (backward : right ⊆ left) : left = right :=
  eq_of_level_eq (Nat.le_antisymm (level_le_of_subset forward) (level_le_of_subset backward))
    left.first_mem (forward _ left.first_mem)

/-! ## Parents and siblings -/

/-- The block of the next level that contains this one. -/
def parent (block : Block) : Block := ⟨block.level + 1, block.index / 2⟩

/-- The other half of the parent. -/
def sibling (block : Block) : Block := ⟨block.level, block.index ^^^ 1⟩

theorem xor_one_div_two (value : Nat) : (value ^^^ 1) / 2 = value / 2 := by
  rw [Nat.xor_div_two]
  simp

theorem xor_one_ne (value : Nat) : value ^^^ 1 ≠ value := by
  intro equality
  have bits := congrArg (fun number => number.testBit 0) equality
  simp at bits
  omega

@[simp] theorem sibling_sibling (block : Block) : block.sibling.sibling = block := by
  simp [sibling]

@[simp] theorem parent_sibling (block : Block) : block.sibling.parent = block.parent := by
  simp [parent, sibling, xor_one_div_two]

theorem sibling_ne (block : Block) : block.sibling ≠ block := by
  intro equality
  exact xor_one_ne block.index (congrArg Block.index equality)

theorem mem_parent : value ∈ block.parent ↔ value ∈ block ∨ value ∈ block.sibling := by
  simp only [mem_def, parent, sibling, pow_succ, ← Nat.div_div_eq_div_mul]
  constructor
  · intro halves
    by_cases equality : value / 2 ^ block.level = block.index
    · exact .inl equality
    · right
      have parity := xor_one_div_two block.index
      have ne := xor_one_ne block.index
      omega
  · rintro (equality | equality)
    · rw [equality]
    · rw [equality, xor_one_div_two]

theorem not_mem_sibling (mem : value ∈ block) : value ∉ block.sibling := by
  intro inSibling
  exact xor_one_ne block.index (inSibling.symm.trans mem)

theorem subset_parent (block : Block) : block ⊆ block.parent :=
  fun _ mem => mem_parent.mpr (.inl mem)

theorem sibling_subset_parent (block : Block) : block.sibling ⊆ block.parent :=
  fun _ mem => mem_parent.mpr (.inr mem)

theorem parent_subset (subset : left ⊆ right) (ne : left ≠ right) : left.parent ⊆ right := by
  have levels := level_le_of_subset subset
  have levelsNe : left.level ≠ right.level := by
    intro equality
    exact ne (eq_of_level_eq equality left.first_mem (subset _ left.first_mem))
  refine subset_of_level_le ?_ (left.subset_parent _ left.first_mem)
    (subset _ left.first_mem)
  simp only [parent]
  omega

/-- A block meeting the parent of another meets that block or its sibling. -/
theorem subset_parent_cases {other : Block} (subset : other ⊆ block.parent)
    (ne : other ≠ block.parent) : other ⊆ block ∨ other ⊆ block.sibling := by
  have levels := level_le_of_subset (parent_subset subset ne)
  simp only [parent] at levels
  rcases mem_parent.mp (subset _ other.first_mem) with inBlock | inSibling
  · exact .inl (subset_of_level_le (by omega) other.first_mem inBlock)
  · exact .inr (subset_of_level_le (by simp only [sibling]; omega) other.first_mem inSibling)

/-! ## Covers -/

/-- A family of blocks that are pairwise disjoint and contain no block together
with its sibling. -/
structure Reduced (family : Set Block) : Prop where
  disjoint : ∀ left ∈ family, ∀ right ∈ family, ∀ value,
    value ∈ left → value ∈ right → left = right
  siblingFree : ∀ block ∈ family, block.sibling ∉ family

/-- A block that a reduced family covers lies inside one of its members: a smallest member strictly
inside the block would need its sibling covered too, and only the sibling itself does that. -/
theorem Reduced.exists_superset {family : Set Block} (reduced : Reduced family)
    (covered : ∀ value ∈ block, ∃ member ∈ family, value ∈ member) :
    ∃ member ∈ family, block ⊆ member := by
  by_contra uncovered
  push Not at uncovered
  have inside : ∀ member ∈ family, ∀ value ∈ block, value ∈ member →
      member ⊆ block ∧ member ≠ block := by
    intro member memberIn value inBlock inMember
    constructor
    · rcases subset_or_subset_of_mem inMember inBlock with subset | subset
      · exact subset
      · exact absurd subset (uncovered member memberIn)
    · rintro rfl
      exact uncovered member memberIn (Subset.refl member)
  have exists_inside : ∃ level, ∃ member ∈ family, member ⊆ block ∧ member ≠ block ∧
      member.level = level := by
    obtain ⟨member, memberIn, inMember⟩ := covered _ block.first_mem
    obtain ⟨subset, ne⟩ := inside member memberIn _ block.first_mem inMember
    exact ⟨_, member, memberIn, subset, ne, rfl⟩
  classical
  obtain ⟨smallest, smallestIn, subset, ne, levelEq⟩ := Nat.find_spec exists_inside
  have minimal : ∀ member ∈ family, member ⊆ block → member ≠ block →
      smallest.level ≤ member.level := by
    intro member memberIn memberSubset memberNe
    rw [levelEq]
    exact Nat.find_le ⟨member, memberIn, memberSubset, memberNe, rfl⟩
  have siblingInside : smallest.sibling ⊆ block :=
    Subset.trans smallest.sibling_subset_parent (parent_subset subset ne)
  have siblingPoint := smallest.sibling.first_mem
  obtain ⟨cover, coverIn, inCover⟩ := covered _ (siblingInside _ siblingPoint)
  obtain ⟨coverSubset, coverNe⟩ :=
    inside cover coverIn _ (siblingInside _ siblingPoint) inCover
  have siblingSubset : smallest.sibling ⊆ cover :=
    subset_of_level_le (minimal cover coverIn coverSubset coverNe) siblingPoint inCover
  have siblingNe : smallest.sibling ≠ cover := by
    rintro rfl
    exact reduced.siblingFree smallest smallestIn coverIn
  have parentSubset := parent_subset siblingSubset siblingNe
  rw [parent_sibling] at parentSubset
  have same : smallest = cover := reduced.disjoint smallest smallestIn cover coverIn _
    smallest.first_mem (parentSubset _ (smallest.subset_parent _ smallest.first_mem))
  subst same
  exact not_mem_sibling inCover siblingPoint

end Block

end Dyadic
