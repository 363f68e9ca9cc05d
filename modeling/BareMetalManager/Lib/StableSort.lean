import Mathlib.Data.List.MinMax
import Mathlib.Data.List.Sort

/-!
# Stable sorting by a key

Sorting by a key keeps the elements with one key in their order. So a sorted list is the
list of its classes, one for each key in ascending order.
-/

namespace StableSort

open List

variable {α β κ : Type*} [LinearOrder κ] (key : α → κ)

/-- Sort by a key; elements with one key stay in their order. -/
def sortBy (items : List α) : List α :=
  items.insertionSort fun left right => key left ≤ key right

variable (wanted : κ) (items : List α)

abbrev tied : List α := items.filter (key · = wanted)

theorem sortBy_perm : (sortBy key items).Perm items :=
  perm_insertionSort _ items

theorem pairwise_sortBy : (sortBy key items).Pairwise fun left right => key left ≤ key right :=
  have : Std.Total fun left right : α => key left ≤ key right := ⟨fun _ _ => le_total _ _⟩
  have : IsTrans α fun left right : α => key left ≤ key right := ⟨fun _ _ _ => le_trans⟩
  pairwise_insertionSort _ items

theorem tied_sortBy : tied key wanted (sortBy key items) = tied key wanted items := by
  have tiedSorted : (tied key wanted items).Pairwise fun left right => key left ≤ key right := by
    refine pairwise_of_forall_mem_list fun left leftMem right rightMem => ?_
    rw [mem_filter, decide_eq_true_eq] at leftMem rightMem
    rw [leftMem.2, rightMem.2]
  have inSorted : (tied key wanted items).Sublist (sortBy key items) :=
    sublist_insertionSort tiedSorted filter_sublist
  have inTied := inSorted.filter (key · = wanted)
  rw [filter_filter] at inTied
  simp only [Bool.and_self] at inTied
  have sameLength : (tied key wanted items).length = (tied key wanted (sortBy key items)).length :=
    ((sortBy_perm key items).filter _).length_eq.symm
  exact (inTied.eq_of_length sameLength).symm

variable {key}

variable {left right : List α}

/-- Lists with the same keys, up to their order, have the same keys in the same order when they
are sorted. -/
theorem map_sortBy_eq_of_perm (perm : (left.map key).Perm (right.map key)) :
    (sortBy key left).map key = (sortBy key right).map key := by
  have sorted (items : List α) : ((sortBy key items).map key).Pairwise (· ≤ ·) :=
    pairwise_map.mpr (pairwise_sortBy key items)
  refine List.Perm.eq_of_pairwise (fun _ _ _ _ => le_antisymm) (sorted left) (sorted right) ?_
  calc ((sortBy key left).map key).Perm (left.map key) := (sortBy_perm key left).map key
    _ |>.Perm (right.map key) := perm
    _ |>.Perm ((sortBy key right).map key) := ((sortBy_perm key right).map key).symm

theorem eq_tied_append {items : List α} {least : κ}
    (sorted : items.Pairwise fun left right => key left ≤ key right)
    (isLeast : ∀ item ∈ items, least ≤ key item) :
    items = tied key least items ++ items.filter (key · ≠ least) := by
  induction items with
  | nil => rfl
  | cons item items ih =>
    obtain ⟨below, sorted⟩ := pairwise_cons.mp sorted
    have restLeast : ∀ other ∈ items, least ≤ key other :=
      fun other otherMem => isLeast other (mem_cons_of_mem _ otherMem)
    by_cases same : key item = least
    · rw [tied, filter_cons_of_pos (by simpa using same),
        filter_cons_of_neg (by simpa using same), cons_append, ← ih sorted restLeast]
    · -- no later element has the least key, since the first one is above it
      have above : least < key item :=
        lt_of_le_of_ne (isLeast item mem_cons_self) (.symm same)
      have others : ∀ other ∈ item :: items, key other ≠ least := by
        refine forall_mem_cons.mpr ⟨same, fun other otherMem => ?_⟩
        exact (above.trans_le (below other otherMem)).ne'
      rw [tied, filter_eq_nil_iff.mpr (by simpa using others),
        filter_eq_self.mpr (by simpa using others), nil_append]

theorem tied_filter_ne (wanted removed : κ) (items : List α) :
    tied key wanted (items.filter (key · ≠ removed)) =
      if wanted = removed then [] else tied key wanted items := by
  rw [tied, filter_filter]
  split
  next same =>
    subst same
    refine filter_eq_nil_iff.mpr fun item _ => ?_
    simp
  next ne =>
    refine filter_congr fun item _ => ?_
    by_cases isWanted : key item = wanted
    · simp [isWanted, ne]
    · simp [isWanted]

/-- Two sorted lists whose classes have texts of the same lengths have the same text if and
only if each class has. -/
theorem flatMap_eq_iff {text : α → List β}
    (leftSorted : left.Pairwise fun first second => key first ≤ key second)
    (rightSorted : right.Pairwise fun first second => key first ≤ key second)
    (lengths : ∀ wanted, ((tied key wanted left).flatMap text).length =
      ((tied key wanted right).flatMap text).length) :
    left.flatMap text = right.flatMap text ↔
      ∀ wanted, (tied key wanted left).flatMap text = (tied key wanted right).flatMap text := by
  -- the class of the least key is split off both lists
  induction isSize : left.length + right.length using Nat.strong_induction_on
    generalizing left right with
  | _ size ih =>
    cases found : (left ++ right).argmin key with
    | none =>
      obtain ⟨rfl, rfl⟩ := append_eq_nil_iff.mp (argmin_eq_none.mp found)
      exact ⟨fun _ _ => rfl, fun _ => rfl⟩
    | some first =>
      have isLeast : ∀ item ∈ left ++ right, key first ≤ key item :=
        fun item itemMem => le_of_mem_argmin itemMem found
      have leftSplit := eq_tied_append leftSorted fun item itemMem =>
        isLeast item (mem_append_left _ itemMem)
      have rightSplit := eq_tied_append rightSorted fun item itemMem =>
        isLeast item (mem_append_right _ itemMem)
      have smaller : (left.filter (key · ≠ key first)).length +
          (right.filter (key · ≠ key first)).length < size := by
        rw [← length_append, ← filter_append, ← isSize, ← length_append]
        exact length_filter_lt_length_iff_exists.mpr
          ⟨first, argmin_mem found, by simp⟩
      have restLengths (wanted : κ) :
          ((tied key wanted (left.filter (key · ≠ key first))).flatMap text).length =
            ((tied key wanted (right.filter (key · ≠ key first))).flatMap text).length := by
        rw [tied_filter_ne, tied_filter_ne]
        split
        · rfl
        · exact lengths wanted
      have rest := ih _ smaller (leftSorted.filter _) (rightSorted.filter _) restLengths rfl
      have cut : left.flatMap text = right.flatMap text ↔ (tied key (key first) left).flatMap text =
              (tied key (key first) right).flatMap text ∧
            (left.filter (key · ≠ key first)).flatMap text =
              (right.filter (key · ≠ key first)).flatMap text := by
        conv_lhs => rw [leftSplit, rightSplit, flatMap_append, flatMap_append]
        exact ⟨fun same => append_inj same (lengths _),
          fun ⟨same, sameRest⟩ => by rw [same, sameRest]⟩
      rw [cut, rest]
      constructor
      · rintro ⟨same, sameRest⟩ wanted
        by_cases isFirst : wanted = key first
        · rwa [isFirst]
        · have := sameRest wanted
          rwa [tied_filter_ne, tied_filter_ne, if_neg isFirst, if_neg isFirst] at this
      · intro each
        refine ⟨each _, fun wanted => ?_⟩
        rw [tied_filter_ne, tied_filter_ne]
        split
        · rfl
        · exact each wanted

end StableSort
