import BareMetalManager.Lib.BTreeSet

/-!
# Ordered maps

An executable model of a B-tree map: the entries in strictly ascending order of their keys, which
is the iteration order of the collection. A map is determined by what it has at each key.
-/

namespace Collections

open List

/-- Entries with strictly ascending keys. -/
structure BTreeMap (κ ν : Type*) [LinearOrder κ] where
  entries : List (κ × ν)
  sorted : (entries.map Prod.fst).Pairwise (· < ·)

namespace BTreeMap

variable {κ ν : Type*} [LinearOrder κ]

theorem sorted_nil : (([] : List (κ × ν)).map Prod.fst).Pairwise (· < ·) := .nil

def empty : BTreeMap κ ν := ⟨[], sorted_nil⟩

variable (map : BTreeMap κ ν)

def values : List ν := map.entries.map Prod.snd

def get? (key : κ) : Option ν :=
  (map.entries.find? (·.1 = key)).map Prod.snd

def insert (key : κ) (value : ν) : BTreeMap κ ν where
  entries := map.entries.filter (·.1 < key) ++ (key, value) :: map.entries.filter (key < ·.1)
  sorted := by
    have sublist (test : κ × ν → Bool) :
        ((map.entries.filter test).map Prod.fst).Pairwise (· < ·) :=
      map.sorted.sublist ((filter_sublist).map _)
    rw [map_append, map_cons]
    refine pairwise_append.mpr ⟨sublist _, pairwise_cons.mpr ⟨?_, sublist _⟩, ?_⟩
    · refine forall_mem_map.mpr fun entry entryMem => ?_
      simpa using (mem_filter.mp entryMem).2
    · intro below belowMem above aboveMem
      obtain ⟨entry, entryMem, rfl⟩ := mem_map.mp belowMem
      have belowLt : entry.1 < key := by simpa using (mem_filter.mp entryMem).2
      rcases mem_cons.mp aboveMem with rfl | aboveMem
      · exact belowLt
      · obtain ⟨other, otherMem, rfl⟩ := mem_map.mp aboveMem
        have aboveGt : key < other.1 := by simpa using (mem_filter.mp otherMem).2
        exact belowLt.trans aboveGt

/-- Write a value at a vacant key, or combine it with the present one. -/
def upsert (combine : ν → ν → ν) (map : BTreeMap κ ν) (key : κ) (value : ν) : BTreeMap κ ν :=
  map.insert key ((map.get? key).elim value fun present => combine present value)

/-! ## Lookup -/

theorem nodup_keys : (map.entries.map Prod.fst).Nodup :=
  map.sorted.imp fun below => below.ne

variable {map} {value : ν} {key : κ}

theorem get?_eq_some_iff : map.get? key = some value ↔ (key, value) ∈ map.entries := by
  rw [get?, Option.map_eq_some_iff]
  constructor
  · rintro ⟨entry, found, rfl⟩
    have isKey : entry.1 = key := by simpa using find?_some found
    rw [← isKey]
    exact mem_of_find?_eq_some found
  · intro entryMem
    cases found : map.entries.find? (·.1 = key) with
    | none => simpa using find?_eq_none.mp found _ entryMem
    | some entry =>
      have isKey : entry.1 = key := by simpa using find?_some found
      have same := inj_on_of_nodup_map map.nodup_keys
        (mem_of_find?_eq_some found) entryMem isKey
      exact ⟨entry, rfl, congrArg Prod.snd same⟩

@[simp] theorem get?_empty (key : κ) : (empty : BTreeMap κ ν).get? key = none := rfl

theorem mem_insert {other : κ} {found : ν} :
    (other, found) ∈ (map.insert key value).entries ↔
      other = key ∧ found = value ∨ other ≠ key ∧ (other, found) ∈ map.entries := by
  simp only [insert, mem_append, mem_filter, mem_cons, Prod.mk.injEq,
    decide_eq_true_eq]
  constructor
  · rintro (⟨entryMem, below⟩ | isNew | ⟨entryMem, above⟩)
    · exact .inr ⟨below.ne, entryMem⟩
    · exact .inl isNew
    · exact .inr ⟨above.ne', entryMem⟩
  · rintro (isNew | ⟨otherKey, entryMem⟩)
    · exact .inr (.inl isNew)
    · rcases lt_or_gt_of_ne otherKey with below | above
      · exact .inl ⟨entryMem, below⟩
      · exact .inr (.inr ⟨entryMem, above⟩)

theorem get?_insert (map : BTreeMap κ ν) (key other : κ) (value : ν) :
    (map.insert key value).get? other = if other = key then some value else map.get? other := by
  apply Option.ext
  intro found
  rw [get?_eq_some_iff, mem_insert]
  split
  next isKey => simp [isKey, eq_comm]
  next otherKey => simp [otherKey, get?_eq_some_iff]

theorem eq_of_get?_eq {left right : BTreeMap κ ν}
    (same : ∀ key, left.get? key = right.get? key) : left = right := by
  have sameEntries (entry : κ × ν) : entry ∈ left.entries ↔ entry ∈ right.entries := by
    rw [← get?_eq_some_iff, ← get?_eq_some_iff, same]
  cases left with
  | mk left leftSorted =>
    cases right with
    | mk right rightSorted =>
      have entries : left = right :=
        (pairwise_map.mp leftSorted).eq_of_mem_iff (pairwise_map.mp rightSorted)
          sameEntries
      subst entries
      rfl

/-! ## Entries -/

/-- What holds of all entries and of a new value holds after it was written or combined with
the present one. -/
theorem forall_upsert {combine : ν → ν → ν} (holds : κ → ν → Prop)
    (before : ∀ entry ∈ map.entries, holds entry.1 entry.2) (fresh : holds key value)
    (combined : ∀ present, holds key present → holds key (combine present value)) :
    ∀ entry ∈ (map.upsert combine key value).entries, holds entry.1 entry.2 := by
  intro entry entryMem
  rcases mem_insert.mp entryMem with ⟨isKey, isValue⟩ | ⟨-, inMap⟩
  · rw [isKey, isValue]
    cases found : map.get? key with
    | none => exact fresh
    | some present => exact combined present (before _ (get?_eq_some_iff.mp found))
  · exact before entry inMap

def popFirst : BTreeMap κ ν → Option ((κ × ν) × BTreeMap κ ν)
  | ⟨[], _⟩ => none
  | ⟨first :: rest, sorted⟩ => some (first, ⟨rest, (pairwise_cons.mp sorted).2⟩)

variable {rest : BTreeMap κ ν} {first : κ × ν}

theorem entries_of_popFirst (popped : map.popFirst = some (first, rest)) :
    map.entries = first :: rest.entries := by
  obtain ⟨entries, sorted⟩ := map
  cases entries with
  | nil => cases popped
  | cons head tail =>
    cases popped
    rfl

theorem lt_of_popFirst (popped : map.popFirst = some (first, rest)) :
    ∀ entry ∈ rest.entries, first.1 < entry.1 := by
  intro entry entryMem
  have sorted := map.sorted
  rw [entries_of_popFirst popped, map_cons, pairwise_cons] at sorted
  exact sorted.1 entry.1 (mem_map_of_mem entryMem)

section Loops

variable (combine : ν → ν → ν) (key : ν → κ)

/-- Every value is at its own key. -/
def Keyed (map : BTreeMap κ ν) : Prop := ∀ entry ∈ map.entries, key entry.2 = entry.1

variable {key} in
theorem Keyed.upsert (keyed : map.Keyed key)
    (keepsKey : ∀ present value, key (combine present value) = key present) (value : ν) :
    (map.upsert combine (key value) value).Keyed key := by
  refine forall_upsert (fun wanted value => key value = wanted) keyed rfl fun present isKey => ?_
  rw [keepsKey, isKey]

variable {key} in
theorem Keyed.foldl_upsert (keyed : map.Keyed key)
    (keepsKey : ∀ present value, key (combine present value) = key present) (items : List ν) :
    (items.foldl (fun map item => map.upsert combine (key item) item) map).Keyed key := by
  induction items generalizing map with
  | nil => exact keyed
  | cons item items ih => exact ih (keyed.upsert combine keepsKey item)

/-- A key collects its items in order. -/
theorem get?_foldl_upsert (items : List ν) (map : BTreeMap κ ν) (wanted : κ) :
    (items.foldl (fun map item => map.upsert combine (key item) item) map).get? wanted =
      (items.filter (key · = wanted)).foldl
        (fun present item => some (present.elim item fun present => combine present item))
        (map.get? wanted) := by
  induction items generalizing map with
  | nil => rfl
  | cons item items ih =>
    rw [foldl_cons, ih, upsert, get?_insert]
    by_cases isWanted : key item = wanted
    · rw [if_pos isWanted.symm, filter_cons_of_pos (by simpa using isWanted), foldl_cons, isWanted]
    · rw [if_neg fun same => isWanted same.symm, filter_cons_of_neg (by simpa using isWanted)]

theorem insert_eq_upsert (map : BTreeMap κ ν) (wanted : κ) (value : ν) :
    map.insert wanted value = map.upsert (fun _ value => value) wanted value := by
  rw [upsert]
  cases map.get? wanted <;> rfl

variable {key} in
theorem Keyed.map_values (keyed : map.Keyed key) :
    map.values.map key = map.entries.map Prod.fst := by
  rw [values, map_map]
  exact map_congr_left keyed

variable {key} in
variable {wanted : κ}

theorem Keyed.get?_eq_some_iff (keyed : map.Keyed key) :
    map.get? wanted = some value ↔ value ∈ map.values ∧ key value = wanted := by
  rw [BTreeMap.get?_eq_some_iff, values, mem_map]
  constructor
  · intro entryMem
    exact ⟨⟨_, entryMem, rfl⟩, keyed _ entryMem⟩
  · rintro ⟨⟨entry, entryMem, rfl⟩, isKey⟩
    rwa [← isKey, keyed entry entryMem]

omit [LinearOrder κ] in
variable {key} in
theorem filter_eq_singleton [DecidableEq κ] {values : List ν} (nodup : (values.map key).Nodup)
    (valueMem : value ∈ values) (isKey : key value = wanted) :
    values.filter (key · = wanted) = [value] := by
  have filtered : (values.filter (key · = wanted)).Nodup := nodup.of_map.filter _
  refine perm_singleton.mp
    ((perm_ext_iff_of_nodup filtered (nodup_singleton value)).mpr fun other => ?_)
  rw [mem_filter, mem_singleton, decide_eq_true_eq]
  constructor
  · rintro ⟨otherMem, isOther⟩
    exact inj_on_of_nodup_map nodup otherMem valueMem (isOther.trans isKey.symm)
  · rintro rfl
    exact ⟨valueMem, isKey⟩

variable {key} in
theorem Keyed.foldl_insert_values (keyed : map.Keyed key) :
    map.values.foldl (fun map value => map.insert (key value) value) empty = map := by
  simp only [insert_eq_upsert]
  apply eq_of_get?_eq
  intro wanted
  rw [get?_foldl_upsert]
  have nodup : (map.values.map key).Nodup := by
    rw [keyed.map_values]
    exact map.nodup_keys
  cases found : map.get? wanted with
  | none =>
    have none : map.values.filter (key · = wanted) = [] := by
      rw [filter_eq_nil_iff]
      intro value valueMem isKey
      have present := keyed.get?_eq_some_iff.mpr ⟨valueMem, of_decide_eq_true isKey⟩
      rw [found] at present
      cases present
    rw [none]
    rfl
  | some value =>
    obtain ⟨valueMem, isKey⟩ := keyed.get?_eq_some_iff.mp found
    rw [filter_eq_singleton nodup valueMem isKey]
    rfl

end Loops

def mapValues {μ : Type*} (change : ν → μ) (map : BTreeMap κ ν) : BTreeMap κ μ where
  entries := map.entries.map fun entry => (entry.1, change entry.2)
  sorted := by
    rw [map_map]
    exact map.sorted

variable {μ : Type*}

theorem get?_mapValues (change : ν → μ) (map : BTreeMap κ ν) (wanted : κ) :
    (map.mapValues change).get? wanted = (map.get? wanted).map change := by
  simp only [get?, mapValues, find?_map, Function.comp_def, Option.map_map]

theorem values_mapValues (change : ν → μ) (map : BTreeMap κ ν) :
    (map.mapValues change).values = map.values.map change := by
  simp only [values, mapValues, map_map, Function.comp_def]

/-! ## Loops that change values -/

section Accumulate

variable {σ : Type*} (step : σ → κ → ν → σ × ν)

/-- A loop over entries that changes their values in place. -/
def accumulateEntries : σ → List (κ × ν) → σ × List (κ × ν)
  | state, [] => (state, [])
  | state, (key, value) :: entries =>
    let stepped := step state key value
    let rest := accumulateEntries stepped.1 entries
    (rest.1, (key, stepped.2) :: rest.2)

variable (state : σ) (entries : List (κ × ν))

omit [LinearOrder κ] in
theorem keys_accumulateEntries :
    (accumulateEntries step state entries).2.map Prod.fst = entries.map Prod.fst := by
  induction entries generalizing state with
  | nil => rfl
  | cons entry entries ih => exact congrArg (entry.1 :: ·) (ih _)

omit [LinearOrder κ] in
theorem state_accumulateEntries :
    (accumulateEntries step state entries).1 =
      entries.foldl (fun state entry => (step state entry.1 entry.2).1) state := by
  induction entries generalizing state with
  | nil => rfl
  | cons entry entries ih => exact ih _

def accumulate (map : BTreeMap κ ν) : σ × BTreeMap κ ν :=
  let result := accumulateEntries step state map.entries
  (result.1, ⟨result.2, by rw [keys_accumulateEntries]; exact map.sorted⟩)

theorem accumulate_state (map : BTreeMap κ ν) :
    (map.accumulate step state).1 =
      map.entries.foldl (fun state entry => (step state entry.1 entry.2).1) state :=
  state_accumulateEntries step state map.entries

end Accumulate

end BTreeMap

end Collections
