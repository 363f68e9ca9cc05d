import BareMetalManager.Lib.Text

/-!
# The order of event fields

`crates/logfmt/src/lib.rs` writes the fields of an event as `key=value` tokens, in the order of
their bytes. The comparator looks at keys and values and never builds a token.
-/

namespace Logfmt

open List Std OrientedOrd

/-- The byte `=`. -/
def equals : UInt8 := 61

/-- The key as it is written, and the bytes after the `=`. -/
structure RenderedField where
  key : Bytes
  value : Bytes

namespace RenderedField

def emitOrder (field other : RenderedField) : Ordering :=
  match compare field.key other.key with
  | .eq => compare field.value other.value
  | ord =>
    if longer : field.key.length < other.key.length ∧ field.key <+: other.key then
      (compare equals other.key[field.key.length]).then
        (compare field.value (other.key.drop (field.key.length + 1) ++ equals :: other.value))
    else if shorter : other.key.length < field.key.length ∧ other.key <+: field.key then
      (compare field.key[other.key.length] equals).then
        (compare (field.key.drop (other.key.length + 1) ++ equals :: field.value) other.value)
    else ord

def token (field : RenderedField) : Bytes := field.key ++ equals :: field.value

/-- What `write_event_data` writes of the fields: their tokens, sorted, each with a space. -/
def writeFields (fields : List RenderedField) : Bytes :=
  (fields.mergeSort fun field other => (field.emitOrder other).isLE).flatMap (·.token ++ [32])

theorem compare_append_left (start left right : Bytes) :
    compare (start ++ left) (start ++ right) = compare left right := by
  induction start with
  | nil => rfl
  | cons byte start ih =>
    rw [cons_append, cons_append, List.compare_cons_cons, ReflOrd.compare_self, ih]
    rfl

theorem compare_append_of_not_isPrefix {left right : Bytes} (notBelow : ¬left <+: right)
    (notAbove : ¬right <+: left) (leftRest rightRest : Bytes) :
    compare (left ++ leftRest) (right ++ rightRest) = compare left right := by
  induction left generalizing right with
  | nil => exact absurd nil_prefix notBelow
  | cons first left ih =>
    cases right with
    | nil => exact absurd nil_prefix notAbove
    | cons second right =>
      rw [cons_append, cons_append, List.compare_cons_cons, List.compare_cons_cons]
      by_cases same : first = second
      · subst same
        rw [cons_prefix_cons, and_iff_right rfl] at notBelow notAbove
        rw [ih notBelow notAbove]
      · have differ : compare first second ≠ .eq := fun equal =>
          same (LawfulEqOrd.eq_of_compare equal)
        cases found : compare first second with
        | eq => exact absurd found differ
        | lt | gt => rfl

/-- The `=` behind a key competes with the next byte of a longer one. -/
theorem compare_of_isPrefix {key longer : Bytes} (length : key.length < longer.length)
    (isPrefix : key <+: longer) (value rest : Bytes) :
    compare (key ++ equals :: value) (longer ++ rest) = (compare equals longer[key.length]).then
        (compare value (longer.drop (key.length + 1) ++ rest)) := by
  have parts : longer = key ++ longer[key.length] :: longer.drop (key.length + 1) := by
    obtain ⟨tail, rfl⟩ := isPrefix
    rw [getElem_cons_drop, drop_left]
  conv_lhs => rw [parts, append_assoc, cons_append, compare_append_left, List.compare_cons_cons]

theorem emitOrder_eq_compare (field other : RenderedField) :
    field.emitOrder other = compare field.token other.token := by
  unfold emitOrder token
  split
  next sameKeys =>
    rw [LawfulEqOrd.eq_of_compare sameKeys, compare_append_left, List.compare_cons_cons,
      ReflOrd.compare_self]
    rfl
  next ord differ =>
    have keysNe : field.key ≠ other.key := fun same => differ (same ▸ ReflOrd.compare_self)
    split
    next longer => exact (compare_of_isPrefix longer.1 longer.2 _ _).symm
    next notLonger =>
      split
      next shorter =>
        refine .trans ?_ eq_swap.symm
        rw [compare_of_isPrefix shorter.1 shorter.2, Ordering.swap_then,
          ← eq_swap, ← eq_swap]
      next notShorter =>
        refine (compare_append_of_not_isPrefix ?_ ?_ _ _).symm
        · intro below
          exact notLonger ⟨below.length_le.lt_of_ne fun same => keysNe (below.eq_of_length same),
            below⟩
        · intro above
          exact notShorter ⟨above.length_le.lt_of_ne fun same =>
            keysNe (above.eq_of_length same).symm, above⟩

/-- Two fields compare as their tokens do, byte by byte. So the comparator is a total preorder
for which fields of one rank have one token, and what is written does not depend on the order
in which the fields were recorded. -/
theorem emitOrder_laws :
    (∀ field other, emitOrder field other = compare field.token other.token) ∧
      Std.TransCmp emitOrder ∧
      ∀ fields others, fields.Perm others → writeFields fields = writeFields others := by
  have trans : Std.TransCmp emitOrder :=
    { eq_swap := by
        intro field other
        rw [emitOrder_eq_compare, emitOrder_eq_compare, eq_swap]
      isLE_trans := by
        intro first second third
        simp only [emitOrder_eq_compare]
        exact TransOrd.isLE_trans }
  have total (field other : RenderedField) :
      ((field.emitOrder other).isLE || (other.emitOrder field).isLE) = true := by
    rw [trans.eq_swap (a := other)]
    cases field.emitOrder other <;> rfl
  have sorted (fields : List RenderedField) :
      ((fields.mergeSort fun field other => (field.emitOrder other).isLE).map token).Pairwise
        fun left right => (compare left right).isLE := by
    rw [pairwise_map]
    simp only [← emitOrder_eq_compare]
    refine pairwise_mergeSort (fun _ _ _ => ?_) total fields
    exact trans.isLE_trans
  refine ⟨emitOrder_eq_compare, trans, fun fields others perm => ?_⟩
  have tokens := Perm.eq_of_pairwise (fun _ _ _ _ below above =>
      LawfulEqOrd.eq_of_compare (OrientedCmp.isLE_antisymm below above))
    (sorted fields) (sorted others)
    (((mergeSort_perm _ _).trans (perm.trans (mergeSort_perm _ _).symm)).map token)
  have written := congrArg (flatMap (· ++ [32])) tokens
  rwa [flatMap_map, flatMap_map] at written

end RenderedField

end Logfmt
