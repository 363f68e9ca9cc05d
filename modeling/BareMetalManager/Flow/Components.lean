import BareMetalManager.Flow.Task
import BareMetalManager.Lib.Checked
import Mathlib.Data.List.Sort

/-!
# Component sets

`ComponentsByType` of `rest-api/flow/internal/operation/component.go`: the components that a rack
execution target operates on, by type. Go maps become functions: `c[ct]` of a type without an
entry is the empty list. The text of a UUID has a fixed width, so texts are ordered as numbers
are. `Merge` may report any of several conflicts, in the order of a Go map; here it is that of
`ComponentTypes`.
-/

namespace Flow

open Checked Function List ComponentType

/-- `ComponentTypeToString`. -/
def ComponentType.name : ComponentType → String
  | unknown => "Unknown"
  | compute => "Compute"
  | nvSwitch => "NVSwitch"
  | powerShelf => "PowerShelf"
  | torSwitch => "ToRSwitch"
  | ums => "UMS"
  | cdu => "CDU"

def ComponentType.sorted : List ComponentType :=
  [cdu, compute, nvSwitch, powerShelf, torSwitch, ums, unknown]

theorem ComponentType.mem_sorted (type : ComponentType) : type ∈ sorted := by
  cases type <;> decide

/-- `SortComponentUUIDs`. -/
def sortComponentUUIDs (ids : List Uuid) : List Uuid := ids.insertionSort (· ≤ ·)

variable {id : Uuid}

@[simp] theorem mem_sortComponentUUIDs {ids : List Uuid} : id ∈ sortComponentUUIDs ids ↔ id ∈ ids :=
  mem_insertionSort _

/-! ## Duplicates -/

/-- The loop of `Normalize` over the ids of one type. -/
def firstOccurrences : (seen : List Uuid) → List Uuid → List Uuid
  | _, [] => []
  | seen, id :: ids =>
    if id ∈ seen then firstOccurrences seen ids else id :: firstOccurrences (id :: seen) ids

theorem mem_firstOccurrences {seen ids : List Uuid} :
    id ∈ firstOccurrences seen ids ↔ id ∈ ids ∧ id ∉ seen := by
  induction ids generalizing seen with
  | nil => simp [firstOccurrences]
  | cons head ids ih =>
    unfold firstOccurrences
    split
    next known =>
      rw [ih, mem_cons]
      refine ⟨fun ⟨idMem, unseen⟩ => ⟨.inr idMem, unseen⟩, fun ⟨idMem, unseen⟩ => ⟨?_, unseen⟩⟩
      exact idMem.resolve_left fun equal => unseen (equal ▸ known)
    next fresh =>
      rw [mem_cons, ih, mem_cons, mem_cons]
      by_cases same : id = head
      · simp [same, fresh]
      · simp [same]

theorem nodup_firstOccurrences (seen ids : List Uuid) : (firstOccurrences seen ids).Nodup := by
  induction ids generalizing seen with
  | nil => exact .nil
  | cons head ids ih =>
    unfold firstOccurrences
    split
    next => exact ih seen
    next =>
      refine nodup_cons.mpr ⟨fun headMem => ?_, ih _⟩
      exact (mem_firstOccurrences.mp headMem).2 mem_cons_self

/-- The loop of `UniqueComponentUUIDs` over sorted ids. -/
def dropRepeats : List Uuid → List Uuid
  | [] => []
  | [id] => [id]
  | first :: second :: ids =>
    if first = second then dropRepeats (second :: ids) else first :: dropRepeats (second :: ids)

theorem mem_dropRepeats {ids : List Uuid} : id ∈ dropRepeats ids ↔ id ∈ ids := by
  fun_induction dropRepeats ids with
  | case1 | case2 => rfl
  | case3 first ids ih =>
    rw [ih]
    simp only [mem_cons, or_self_left]
  | case4 first second ids ne ih => rw [mem_cons, ih, mem_cons (b := first)]

theorem nodup_dropRepeats {ids : List Uuid} (sorted : ids.Pairwise (· ≤ ·)) :
    (dropRepeats ids).Nodup := by
  fun_induction dropRepeats ids with
  | case1 => exact .nil
  | case2 => exact nodup_singleton _
  | case3 first ids ih => exact ih sorted.of_cons
  | case4 first second ids ne ih =>
    refine nodup_cons.mpr ⟨fun firstMem => ne ?_, ih sorted.of_cons⟩
    have before : first ≤ second := rel_of_pairwise_cons sorted mem_cons_self
    obtain equal | later := mem_cons.mp (mem_dropRepeats.mp firstMem)
    · exact equal
    · exact le_antisymm before (rel_of_pairwise_cons sorted.of_cons later)

def uniqueComponentUUIDs (ids : List Uuid) : List Uuid := dropRepeats (sortComponentUUIDs ids)

@[simp] theorem mem_uniqueComponentUUIDs {ids : List Uuid} :
    id ∈ uniqueComponentUUIDs ids ↔ id ∈ ids :=
  mem_dropRepeats.trans mem_sortComponentUUIDs

theorem nodup_uniqueComponentUUIDs (ids : List Uuid) : (uniqueComponentUUIDs ids).Nodup :=
  nodup_dropRepeats (pairwise_insertionSort _ ids)

/-! ## Maps -/

abbrev ComponentsByType := ComponentType → Option (List Uuid)

namespace ComponentsByType

variable (components : ComponentsByType) (type : ComponentType)

def ids : List Uuid :=
  (components type).getD []

/-- `len(c) == 0`. -/
def isEmpty : Bool :=
  all.all fun type => (components type).isNone

variable {components} in
theorem isEmpty_iff : components.isEmpty ↔ ∀ type, components type = none := by
  simp only [isEmpty, all_eq_true, Option.isNone_iff_eq_none]
  exact ⟨fun empty type => empty type type.mem_all, fun empty type _ => empty type⟩

/-- `Clone`. -/
def clone : ComponentsByType :=
  fun type => (components type).map sortComponentUUIDs

def sortedComponentTypes : List ComponentType :=
  sorted.filter fun type => (components type).isSome

/-- The inner loop of `Validate`, with `seenComponents`. -/
def validateIds (type : ComponentType) :
    (seenComponents : List (Uuid × ComponentType)) → List Uuid →
      Except String (List (Uuid × ComponentType))
  | seenComponents, [] => .ok seenComponents
  | seenComponents, id :: ids =>
    if id = 0 then .error (type.name ++ " contains empty component UUID")
    else
      match seenComponents.lookup id with
      | some existingType =>
        if existingType = type then
          .error (type.name ++ " duplicates component " ++ toString id)
        else
          .error ("component " ++ toString id ++ " appears under both " ++
            existingType.name ++ " and " ++ type.name)
      | none => validateIds type ((id, type) :: seenComponents) ids

/-- The body of the outer loop of `Validate`. -/
def validateType (seenComponents : List (Uuid × ComponentType)) (type : ComponentType) :
    Except String (List (Uuid × ComponentType)) :=
  if type = .unknown then .error "ComponentsByType contains unknown component type"
  else if (components.ids type).isEmpty then
    .error (type.name ++ " must include at least one component")
  else validateIds type seenComponents (components.ids type)

def validate : Except String Unit :=
  if components.isEmpty then .error "Non-empty ComponentsByType is required"
  else do
    let _ ← components.sortedComponentTypes.foldlM components.validateType []
    return ()

/-- `Normalize`. -/
def normalize : Except String ComponentsByType := do
  let normalized : ComponentsByType := fun type => (components type).map (firstOccurrences [])
  validate normalized
  return normalized

/-- The check of one id in `Merge`, against the types of the ids so far. -/
def noteType (componentTypesByID : Uuid → Option ComponentType)
    (id : Uuid) : Except String (Uuid → Option ComponentType) :=
  match componentTypesByID id with
  | some existingType =>
    if existingType = type then .ok (update componentTypesByID id (some type))
    else
      .error ("components_by_type component " ++ toString id ++ " appears under both " ++
        existingType.name ++ " and " ++ type.name)
  | none => .ok (update componentTypesByID id (some type))

/-- One round of the loop of `Merge`. -/
def mergeType (next : ComponentsByType)
    (state : ComponentsByType × (Uuid → Option ComponentType)) (type : ComponentType) :
    Except String (ComponentsByType × (Uuid → Option ComponentType)) :=
  match next type with
  | none => .ok state
  | some ids => do
      let componentTypesByID ← ids.foldlM (noteType type) state.2
      let unique := uniqueComponentUUIDs (state.1.ids type ++ ids)
      return (update state.1 type (some unique), componentTypesByID)

/-- `Merge`. -/
def merge (left right : ComponentsByType) : Except String ComponentsByType := do
  let merged ← left.normalize
  let next ← right.normalize
  let componentTypesByID id := all.find? fun type => id ∈ merged.ids type
  let state ← all.foldlM (mergeType next) (merged, componentTypesByID)
  return state.1

/-- `Subtract`, with an empty map for `nil`. -/
def subtract (components exclude : ComponentsByType) : ComponentsByType := fun type =>
  match components type with
  | none | some [] => none
  | some ids =>
    if (exclude.ids type).isEmpty then some ids
    else
      let filtered := ids.filter fun id => id ∉ exclude.ids type
      if filtered.isEmpty then none else some filtered

/-! ## Laws -/

/-- No empty map, no empty list, no id twice. -/
structure Normal : Prop where
  present : ∃ type, components type ≠ none
  filled : ∀ type, components type ≠ some []
  nodup : ∀ type, (components.ids type).Nodup

variable {components type}

theorem Normal.exists_mem_of_ne_none (normal : Normal components) (present : components type ≠ none)
    : ∃ id, id ∈ components.ids type := by
  unfold ids
  cases entry : components type with
  | none => exact absurd entry present
  | some ids =>
    refine exists_mem_of_ne_nil ids fun none => normal.filled type ?_
    rw [entry, none]

theorem Normal.exists_mem (normal : Normal components) : ∃ type id, id ∈ components.ids type := by
  obtain ⟨type, present⟩ := normal.present
  exact ⟨type, normal.exists_mem_of_ne_none present⟩

theorem filled_of_validate (valid : components.validate = .ok ()) :
    (∃ type, components type ≠ none) ∧ ∀ type, components type ≠ some [] := by
  unfold validate at valid
  split at valid
  next => cases valid
  next notEmpty =>
    refine ⟨by simpa only [isEmpty_iff, not_forall] using notEmpty, fun type entry => ?_⟩
    obtain ⟨result, looped, -⟩ := bind_eq_ok.mp valid
    have typeMem : type ∈ components.sortedComponentTypes := by
      rw [sortedComponentTypes, mem_filter, entry]
      exact ⟨type.mem_sorted, rfl⟩
    obtain ⟨state, next, passed⟩ := exists_step_of_foldlM looped typeMem
    simp only [validateType, ids, entry, Option.getD_some, isEmpty_nil, if_true] at passed
    split at passed <;> cases passed

section Normalize

variable {normalized : ComponentsByType}

variable (done : components.normalize = .ok normalized)
include done

theorem normalize_eq :
    normalized = (fun type => (components type).map (firstOccurrences [])) ∧
      normalized.validate = .ok () := by
  obtain ⟨_, valid, result⟩ := bind_eq_ok.mp done
  cases result
  exact ⟨rfl, valid⟩

theorem ids_normalize (type : ComponentType) :
    normalized.ids type = firstOccurrences [] (components.ids type) := by
  rw [(normalize_eq done).1, ids, ids]
  cases components type <;> rfl

theorem mem_ids_normalize : id ∈ normalized.ids type ↔ id ∈ components.ids type := by
  rw [ids_normalize done, mem_firstOccurrences]
  exact and_iff_left not_mem_nil

theorem normal_normalize : Normal normalized := by
  obtain ⟨present, filled⟩ := filled_of_validate (normalize_eq done).2
  refine ⟨present, filled, fun type => ?_⟩
  rw [ids_normalize done]
  exact nodup_firstOccurrences _ _

end Normalize

section Merge

variable {left right merged next : ComponentsByType}
  {state after : ComponentsByType × (Uuid → Option ComponentType)}

theorem mergeType_eq (stepped : mergeType next state type = .ok after) :
    next type = none ∧ after = state ∨
      next type ≠ none ∧ after.1 = update state.1 type
        (some (uniqueComponentUUIDs (state.1.ids type ++ next.ids type))) := by
  unfold mergeType at stepped
  cases entry : next type with
  | none =>
    rw [entry] at stepped
    cases stepped
    exact .inl ⟨rfl, rfl⟩
  | some ids =>
    rw [entry] at stepped
    obtain ⟨types, -, result⟩ := bind_eq_ok.mp stepped
    cases result
    refine .inr ⟨Option.some_ne_none ids, ?_⟩
    rw [ComponentsByType.ids, ComponentsByType.ids, entry]
    rfl

theorem mem_ids_mergeType (stepped : mergeType next state type = .ok after)
    {other : ComponentType} :
    id ∈ after.1.ids other ↔
      id ∈ state.1.ids other ∨ other = type ∧ id ∈ next.ids other := by
  obtain ⟨absent, rfl⟩ | ⟨-, updated⟩ := mergeType_eq stepped
  · refine ⟨.inl, fun either => either.resolve_right fun ⟨same, idMem⟩ => ?_⟩
    rw [same, ids, absent] at idMem
    cases idMem
  · rw [ids, updated]
    obtain rfl | ne := eq_or_ne other type
    · simp [ids]
    · simp [ne, ids]

theorem mem_ids_foldlM {types : List ComponentType}
    (looped : types.foldlM (mergeType next) state = .ok after) :
    id ∈ after.1.ids type ↔ id ∈ state.1.ids type ∨ type ∈ types ∧ id ∈ next.ids type := by
  induction types generalizing state with
  | nil =>
    cases looped
    simp
  | cons head types ih =>
    obtain ⟨middle, stepped, rest⟩ := bind_eq_ok.mp looped
    rw [ih rest, mem_ids_mergeType stepped, mem_cons]
    tauto

/-- `Merge` is the union. -/
theorem mem_ids_merge (done : left.merge right = .ok merged) :
    id ∈ merged.ids type ↔ id ∈ left.ids type ∨ id ∈ right.ids type := by
  obtain ⟨start, leftDone, done⟩ := bind_eq_ok.mp done
  obtain ⟨next, rightDone, done⟩ := bind_eq_ok.mp done
  obtain ⟨state, looped, result⟩ := bind_eq_ok.mp done
  cases result
  rw [mem_ids_foldlM looped, mem_ids_normalize leftDone, mem_ids_normalize rightDone]
  simp only [type.mem_all, true_and]

theorem normal_mergeType (nextNormal : Normal next) (normal : Normal state.1)
    (stepped : mergeType next state type = .ok after) :
    Normal after.1 := by
  obtain ⟨-, rfl⟩ | ⟨present, updated⟩ := mergeType_eq stepped
  · exact normal
  · rw [updated]
    refine ⟨⟨type, by simp⟩, fun other => ?_, fun other => ?_⟩
    · obtain rfl | ne := eq_or_ne other type
      · rw [update_self]
        intro none
        obtain ⟨id, idMem⟩ := nextNormal.exists_mem_of_ne_none present
        have member := mem_uniqueComponentUUIDs.mpr (mem_append_right (state.1.ids other) idMem)
        rw [Option.some.inj none] at member
        cases member
      · rw [update_of_ne ne]
        exact normal.filled other
    · rw [ids]
      obtain rfl | ne := eq_or_ne other type
      · rw [update_self]
        exact nodup_uniqueComponentUUIDs _
      · rw [update_of_ne ne]
        exact normal.nodup other

theorem normal_merge (done : left.merge right = .ok merged) : Normal merged := by
  obtain ⟨start, leftDone, done⟩ := bind_eq_ok.mp done
  obtain ⟨next, rightDone, done⟩ := bind_eq_ok.mp done
  obtain ⟨state, looped, result⟩ := bind_eq_ok.mp done
  cases result
  exact foldlM_induction (fun state => Normal state.1)
    (fun _ _ _ _ normal stepped => normal_mergeType (normal_normalize rightDone) normal stepped)
    (normal_normalize leftDone) looped

end Merge

section Subtract

variable {exclude : ComponentsByType}

theorem subtract_eq (type : ComponentType) :
    components.subtract exclude type =
      match (components.ids type).filter fun id => id ∉ exclude.ids type with
      | [] => none
      | id :: ids => some (id :: ids) := by
  unfold subtract
  cases entry : components type with
  | none => simp [ids, entry]
  | some ids =>
    cases ids with
    | nil => simp [ComponentsByType.ids, entry]
    | cons first ids =>
      have listed : components.ids type = first :: ids := by rw [ComponentsByType.ids, entry]; rfl
      rw [listed]
      generalize exclude.ids type = excluded
      cases excluded with
      | nil => simp
      | cons excluded excludedIds =>
        simp only [isEmpty_cons, Bool.false_eq_true, if_false]
        cases (first :: ids).filter fun id => id ∉ excluded :: excludedIds <;> rfl

theorem ids_subtract (type : ComponentType) :
    (components.subtract exclude).ids type =
      (components.ids type).filter fun id => id ∉ exclude.ids type := by
  rw [ids, subtract_eq]
  cases (components.ids type).filter fun id => id ∉ exclude.ids type <;> rfl

/-- `Subtract` is the difference, type by type. -/
theorem mem_ids_subtract :
    id ∈ (components.subtract exclude).ids type ↔
      id ∈ components.ids type ∧ id ∉ exclude.ids type := by
  rw [ids_subtract, mem_filter, decide_eq_true_eq]

theorem subtract_ne_some_nil (type : ComponentType) :
    components.subtract exclude type ≠ some [] := by
  rw [subtract_eq]
  cases (components.ids type).filter fun id => id ∉ exclude.ids type <;> simp

theorem normal_subtract (normal : Normal components)
    (notEmpty : ¬(components.subtract exclude).isEmpty) : Normal (components.subtract exclude) where
  present := by simpa only [isEmpty_iff, not_forall] using notEmpty
  filled := subtract_ne_some_nil
  nodup type := by
    rw [ids_subtract]
    exact (normal.nodup type).filter _

end Subtract

theorem ids_clone (components : ComponentsByType) (type : ComponentType) :
    components.clone.ids type = sortComponentUUIDs (components.ids type) := by
  simp only [ids, clone]
  cases components type <;> rfl

theorem Normal.clone (normal : Normal components) : Normal components.clone where
  present := by
    obtain ⟨type, present⟩ := normal.present
    exact ⟨type, by simpa only [ComponentsByType.clone, ne_eq, Option.map_eq_none_iff]⟩
  filled type := by
    intro none
    obtain ⟨ids, entry, sorted⟩ := Option.map_eq_some_iff.mp none
    have length := length_insertionSort (· ≤ ·) ids
    rw [sortComponentUUIDs] at sorted
    rw [sorted, length_nil] at length
    exact normal.filled type (entry.trans (by rw [length_eq_zero_iff.mp length.symm]))
  nodup type := by
    rw [ids_clone]
    exact (perm_insertionSort _ _).nodup_iff.mpr (normal.nodup type)

end ComponentsByType

end Flow
