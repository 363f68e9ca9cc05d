import BareMetalManager.ApiDb.ResourcePool

/-!
# Ownership of the values of a pool

Any number of transactions populate one pool, allocate from it and release to it, one statement a
step. Each value has one row and at most one owner in every view, and a statement that does not
succeed changes nothing, except for an `allocate` whose row does not parse: it fails after it has
written the row.
-/

namespace ApiDb.ResourcePool

open Option RowStore Table Entry List

/-! ## Runs -/

/-- The statements of the transactions on one pool. The pool is populated with values of
type `S` and allocated with values of type `T`. -/
inductive Action (S T τ : Type*) where
  | insertFree (txn : τ) (value : S) (autoAssign : Bool)
  | allocate (txn : τ) (now : Nat) (owner : Owner) (requested : Option T) (picked : Option Text)
  | allocateExact (txn : τ) (now : Nat) (owner : Owner) (requested : T) (missed : Bool)
  | release (txn : τ) (value : T) (owner : Owner) (missed : Bool)
  | commit (txn : τ)
  | rollback (txn : τ)

/-- The number of parameters that one statement may bind. -/
def bindLimit : Nat := 32768

/-- `populate`: the rows that it inserts, one statement for each chunk. -/
def populate {S T τ : Type*} (txn : τ) (values : List S) (autoAssign : Bool) :
    List (Action S T τ) :=
  (values.toChunks (bindLimit / 6)).flatMap fun chunk =>
    chunk.map fun value => .insertFree txn value autoAssign

variable {S T τ : Type*} [ToStr S] [ToStr T] [FromStr T] [DecidableEq τ]

/-- One statement of a transaction, or its end. -/
def step (name : Text) : Action S T τ → Store τ → Option (Store τ)
  | .insertFree txn value autoAssign, store => insertFree store name txn value autoAssign
  | .allocate txn now owner requested picked, store =>
    (allocate store name txn now owner requested picked).map Prod.snd
  | .allocateExact txn now owner requested missed, store =>
    (allocateExact store name txn now owner requested missed).map Prod.snd
  | .release txn value owner missed, store =>
    (release store name txn value owner missed).map Prod.snd
  | .commit txn, store => some (store.commit txn)
  | .rollback txn, store => some (store.rollback txn)

def transactions (name : Text) : Machine (Action S T τ) (Store τ) := ⟨step name⟩

/-- The condition on a statement: a value that is put into the pool can be read as a value
of the type with which the pool is allocated. -/
def Readable : Action S T τ → Prop
  | .insertFree _ value _ => ∃ parsed : T, fromStr (toStr value) = .ok parsed
  | _ => True

instance : DecidablePred (Readable : Action S T τ → Prop)
  | .insertFree _ value _ =>
    inferInstanceAs (Decidable (∃ parsed : T, fromStr (toStr value) = .ok parsed))
  | .allocate .. | .allocateExact .. | .release .. | .commit _ | .rollback _ => .isTrue trivial

/-! ## Ownership -/

/-- The owners of a value in the view of a transaction, or in the committed rows. -/
def owners (store : Store τ) (view : Option τ) (name value : Text) : List EntryState :=
  store.rows.filterMap fun row =>
    if row.key = (name, value) then
      let seen := match view with
        | some txn => row.seenBy txn
        | none => row.committed
      (seen.map state).filter fun state => state ≠ .free
    else none

/-- A value is free for a transaction: it sees the value as free, and no other transaction
has an open change of it. -/
def FreeFor (store : Store τ) (txn : τ) (name value : Text) : Prop :=
  (lookup store txn name value).map state = some .free ∧
    isLocked store txn name value = false

/-- What holds of a pool at any time, and of the next statement on it. -/
structure Owned (S T : Type*) [ToStr S] [ToStr T] [FromStr T] (name : Text) (store : Store τ) :
    Prop where
  oneRow : ∀ left ∈ store.rows, ∀ right ∈ store.rows, left.key = right.key → left = right
  oneOwner : ∀ view value, (owners store view name value).length ≤ 1
  /-- `allocate` returns a value that was free, and writes the owner into its row. -/
  allocated : ∀ txn now owner (requested : Option T) picked value next,
    allocate store name txn now owner requested picked = some (.ok value, next) →
      ∃ text, fromStr text = .ok value ∧ FreeFor store txn name text ∧
        (lookup next txn name text).map state = some owner.state
  /-- `allocate_exact` returns a value that was free, and writes the owner into its row. -/
  allocatedExact : ∀ txn now owner (requested : T) missed value next,
    allocateExact store name txn now owner requested missed = some (.ok value, next) →
      FreeFor store txn name (toStr value) ∧
        (lookup next txn name (toStr value)).map state = some owner.state
  /-- A failed `allocate` changes nothing. -/
  allocateFailed : ∀ txn now owner (requested : Option T) picked error next,
    allocate store name txn now owner requested picked = some (.error error, next) →
      next = store
  /-- A failed `allocate_exact` changes nothing. -/
  allocateExactFailed : ∀ txn now owner (requested : T) missed error next,
    allocateExact store name txn now owner requested missed = some (.error error, next) →
      next = store
  releaseRefused : ∀ txn (value : T) owner missed result next,
    release store name txn value owner missed = some (result, next) →
      (lookup store txn name (toStr value)).map state ≠ some owner.state →
        result = .notApplied ∧ next = store
  /-- `populate` keeps every row as it is, and adds free rows for new values only. -/
  populated : ∀ txn values autoAssign next,
    (transactions name).run (populate txn values autoAssign : List (Action S T τ)) store =
        some next →
      (∀ row ∈ store.rows, row ∈ next.rows) ∧
        ∀ row ∈ next.rows, row ∈ store.rows ∨
          row.uncommitted = some (txn, ⟨autoAssign, .free, none⟩) ∧
            ∀ old ∈ store.rows, old.key ≠ row.key

/-! ## The statements -/

variable {value : Text} {now : Nat}

section Statements

omit [ToStr T] [FromStr T]

theorem owners_length_le_one (store : Store τ) (view : Option τ) (name value : Text) :
    (owners store view name value).length ≤ 1 := by
  have counted := store.countP_key_le_one (name, value)
  rw [owners, length_filterMap_eq_countP]
  refine le_trans (countP_mono_left ?_) counted
  intro row _ owned
  by_contra other
  rw [if_neg (by simpa using other)] at owned
  cases owned

variable {store : Store τ} {name : Text} {txn : τ}

theorem lookup_write {entry version : Entry} (found : lookup store txn name value = some entry) :
    lookup (store.write txn (name, value) version) txn name value = some version := by
  obtain ⟨row, rowFound, -⟩ := bind_eq_some_iff.mp found
  have sameKey := key_of_find? rowFound
  rw [lookup, RowStore.write, find?_modify, rowFound, map_some, if_pos sameKey]
  simp [RowVersions.seenBy]

variable {owner : Owner}

theorem state_setAllocated (free : (lookup store txn name value).map state = some .free) :
    (lookup (setAllocated store name txn now owner value) txn name value).map state =
      some owner.state := by
  obtain ⟨entry, found, -⟩ := map_eq_some_iff.mp free
  rw [setAllocated, found]
  rw [lookup_write found, map_some]

theorem freeFor_of_allocatable {requested : Option Text}
    (allocatable : Allocatable store name txn requested value) :
    FreeFor store txn name value := by
  obtain ⟨unlocked, entry, found, free, -⟩ := allocatable
  refine ⟨?_, unlocked⟩
  rw [mem_def.mp found, map_some, free]

theorem exists_key_of_mem_setAllocated {row : RowVersions (Text × Text) Entry τ}
    (rowMem : row ∈ (setAllocated store name txn now owner value).rows) :
    ∃ old ∈ store.rows, old.key = row.key := by
  rw [setAllocated] at rowMem
  split at rowMem
  next => exact exists_key_of_mem_write rowMem
  next => exact ⟨row, rowMem, rfl⟩

end Statements

variable {name : Text} {next store : Store τ} {owner : Owner} {txn : τ} {requested : Option T}
  {picked : Option Text} {result : Except AllocateError T}

/-- What `allocate` can do. -/
theorem allocate_cases
    (returned : allocate store name txn now owner requested picked = some (result, next)) :
    (∃ value, Allocatable store name txn (requested.map toStr) value ∧
      result = parseAllocated name owner value ∧
      next = setAllocated store name txn now owner value) ∨
    result = .error (noRowError store name txn (requested.map toStr)) ∧ next = store := by
  cases picked with
  | some value =>
    simp only [allocate] at returned
    split at returned
    next allocatable =>
      cases returned
      exact .inl ⟨value, allocatable, rfl, rfl⟩
    next => cases returned
  | none =>
    cases returned
    exact .inr ⟨rfl, rfl⟩

variable {missed : Bool}

omit [FromStr T] in
/-- What `allocate_exact` can do. -/
theorem allocateExact_cases {requested : T}
    (returned : allocateExact store name txn now owner requested missed = some (result, next)) :
    FreeFor store txn name (toStr requested) ∧ result = .ok requested ∧
      next = setAllocated store name txn now owner (toStr requested) ∨
    result = .error (.failedPrecondition (notAvailable (toStr requested) name)) ∧
      next = store := by
  simp only [allocateExact] at returned
  split at returned
  next free =>
    split at returned
    next => cases returned
    next unlocked =>
      cases returned
      exact .inl ⟨⟨free.2, by simpa using unlocked⟩, rfl, rfl⟩
  next =>
    cases returned
    exact .inr ⟨rfl, rfl⟩

omit [FromStr T] in
/-- What `release` can do. -/
theorem release_cases {value : T} {result : ConditionalWrite}
    (returned : release store name txn value owner missed = some (result, next)) :
    (∃ entry, lookup store txn name (toStr value) = some entry ∧ entry.state = owner.state ∧
      next = store.write txn (name, toStr value)
        { entry with state := .free, allocated := none }) ∨
    result = .notApplied ∧ next = store := by
  simp only [release] at returned
  split at returned
  next entry found =>
    split at returned
    next owned =>
      split at returned
      next => cases returned
      next =>
        cases returned
        exact .inl ⟨entry, found, owned.2, rfl⟩
    next =>
      cases returned
      exact .inr ⟨rfl, rfl⟩
  next =>
    cases returned
    exact .inr ⟨rfl, rfl⟩

omit [ToStr T] in
theorem exists_ok_of_parseAllocated {parsed : T}
    (returned : parseAllocated name owner value = .ok parsed) : fromStr value = .ok parsed := by
  rw [parseAllocated] at returned
  split at returned
  next parsed read =>
    cases returned
    exact read
  next => cases returned

/-! ## What the run keeps -/

/-- Every value in the pool can be read as one of the type that callers ask for. -/
def Parses (T : Type*) [FromStr T] (name : Text) (store : Store τ) : Prop :=
  ∀ row ∈ store.rows, row.key.1 = name → ∃ parsed : T, fromStr row.key.2 = .ok parsed

omit [ToStr T] [DecidableEq τ] in
theorem Parses.of_keys (parses : Parses T name store)
    (keys : ∀ row ∈ next.rows, ∃ old ∈ store.rows, old.key = row.key) : Parses T name next := by
  intro row rowMem inPool
  obtain ⟨old, oldMem, sameKey⟩ := keys row rowMem
  rw [← sameKey] at inPool ⊢
  exact parses old oldMem inPool

variable {action : Action S T τ}

/-- A statement that meets the condition leaves only values that can be read. -/
theorem Parses.step (parses : Parses T name store) (readable : Readable action)
    (moved : step name action store = some next) : Parses T name next := by
  cases action with
  | insertFree txn value autoAssign =>
    intro row rowMem inPool
    obtain old | ⟨rfl, -⟩ := (mem_of_insertNew? moved).mp rowMem
    · exact parses row old inPool
    · exact readable
  | allocate txn now owner requested picked =>
    obtain ⟨⟨result, after⟩, returned, rfl⟩ := map_eq_some_iff.mp moved
    obtain ⟨value, -, -, rfl⟩ | ⟨-, rfl⟩ := allocate_cases returned
    · exact parses.of_keys fun row rowMem => exists_key_of_mem_setAllocated rowMem
    · exact parses
  | allocateExact txn now owner requested missed =>
    obtain ⟨⟨result, after⟩, returned, rfl⟩ := map_eq_some_iff.mp moved
    obtain ⟨-, -, rfl⟩ | ⟨-, rfl⟩ := allocateExact_cases returned
    · exact parses.of_keys fun row rowMem => exists_key_of_mem_setAllocated rowMem
    · exact parses
  | release txn value owner missed =>
    obtain ⟨⟨result, after⟩, returned, rfl⟩ := map_eq_some_iff.mp moved
    obtain ⟨entry, -, -, rfl⟩ | ⟨-, rfl⟩ := release_cases returned
    · exact parses.of_keys fun row rowMem => exists_key_of_mem_write rowMem
    · exact parses
  | commit txn =>
    cases moved
    exact parses.of_keys fun row rowMem => exists_key_of_mem_commit rowMem
  | rollback txn =>
    cases moved
    exact parses.of_keys fun row rowMem => exists_key_of_mem_rollback rowMem

/-- A failed `allocate` changes nothing where every value can be read. -/
theorem Parses.allocate_failed {error : AllocateError} (parses : Parses T name store)
    (returned : allocate store name txn now owner requested picked = some (.error error, next)) :
    next = store := by
  obtain ⟨value, ⟨-, entry, found, -⟩, failed, -⟩ | ⟨-, same⟩ := allocate_cases returned
  · obtain ⟨row, rowFound, -⟩ := bind_eq_some_iff.mp found
    obtain ⟨rowMem, sameKey⟩ := find?_eq_some_iff.mp rowFound
    obtain ⟨parsed, read⟩ := parses row rowMem (by rw [sameKey])
    rw [sameKey] at read
    rw [parseAllocated, read] at failed
    cases failed
  · exact same

/-- What populating keeps: the old rows, and new rows only for new values. -/
structure Populated (txn : τ) (autoAssign : Bool) (store next : Store τ) : Prop where
  kept : ∀ row ∈ store.rows, row ∈ next.rows
  added : ∀ row ∈ next.rows, row ∈ store.rows ∨
    row.uncommitted = some (txn, ⟨autoAssign, .free, none⟩) ∧
      ∀ old ∈ store.rows, old.key ≠ row.key

variable {autoAssign : Bool} {middle : Store τ}

theorem Populated.insertFree {value : S} (populated : Populated txn autoAssign store middle)
    (moved : insertFree middle name txn value autoAssign = some next) :
    Populated txn autoAssign store next := by
  constructor
  · intro row rowMem
    exact (mem_of_insertNew? moved).mpr (.inl (populated.kept row rowMem))
  · intro row rowMem
    obtain old | ⟨rfl, fresh⟩ := (mem_of_insertNew? moved).mp rowMem
    · exact populated.added row old
    · refine .inr ⟨rfl, ?_⟩
      intro old oldMem
      exact fresh old (populated.kept old oldMem)

theorem Populated.run {actions : List (Action S T τ)}
    (inserts : ∀ action ∈ actions, ∃ value, action = .insertFree txn value autoAssign)
    (populated : Populated txn autoAssign store middle)
    (ran : (transactions name).run actions middle = some next) :
    Populated txn autoAssign store next := by
  induction actions generalizing middle with
  | nil =>
    cases ran
    exact populated
  | cons action actions ih =>
    obtain ⟨after, moved, rest⟩ := (Machine.run_cons_eq_some _).mp ran
    obtain ⟨value, rfl⟩ := inserts action mem_cons_self
    apply ih _ (populated.insertFree moved) rest
    intro other otherMem
    exact inserts other (mem_cons_of_mem _ otherMem)

omit [ToStr S] [ToStr T] [FromStr T] [DecidableEq τ] in
theorem exists_eq_insertFree_of_mem_populate {values : List S}
    (actionMem : action ∈ populate txn values autoAssign) :
    ∃ value, action = .insertFree txn value autoAssign := by
  obtain ⟨chunk, -, inChunk⟩ := mem_flatMap.mp actionMem
  obtain ⟨value, -, rfl⟩ := mem_map.mp inChunk
  exact ⟨value, rfl⟩

/-- Where every value can be read, the pool is owned as it should be. -/
theorem Parses.owned (parses : Parses T name store) : Owned S T name store where
  oneRow left leftMem right rightMem sameKey := store.eq_of_key_eq leftMem rightMem sameKey
  oneOwner view value := owners_length_le_one store view name value
  allocated := by
    intro txn now owner requested picked value next returned
    obtain ⟨text, allocatable, parsed, rfl⟩ | ⟨failed, -⟩ := allocate_cases returned
    · have free := freeFor_of_allocatable allocatable
      exact ⟨text, exists_ok_of_parseAllocated parsed.symm, free, state_setAllocated free.1⟩
    · cases failed
  allocatedExact := by
    intro txn now owner requested missed value next returned
    obtain ⟨free, same, rfl⟩ | ⟨failed, -⟩ := allocateExact_cases returned
    · cases same
      exact ⟨free, state_setAllocated free.1⟩
    · cases failed
  allocateFailed := by
    intro txn now owner requested picked error next returned
    exact parses.allocate_failed returned
  allocateExactFailed := by
    intro txn now owner requested missed error next returned
    obtain ⟨-, failed, -⟩ | ⟨-, same⟩ := allocateExact_cases returned
    · cases failed
    · exact same
  releaseRefused := by
    intro txn value owner missed result next returned notOwned
    obtain ⟨entry, found, owned, -⟩ | refused := release_cases returned
    · rw [found, map_some, owned] at notOwned
      exact absurd rfl notOwned
    · exact refused
  populated := by
    intro txn values autoAssign next ran
    have start : Populated txn autoAssign store store :=
      ⟨fun _ rowMem => rowMem, fun _ rowMem => .inl rowMem⟩
    have populated := start.run (fun _ => exists_eq_insertFree_of_mem_populate) ran
    exact ⟨populated.kept, populated.added⟩

/-- In every state that transactions on an empty pool reach, each value has one row and at most one
owner, and the next statement changes only what it may, provided that every value put into the
pool can be read as one of the type that callers ask for. -/
theorem owned_of_run {name : Text} {actions : List (Action S T τ)} {final : Store τ}
    (meets : (transactions name).Meets (fun _ action => Readable action) actions empty)
    (ran : (transactions name).run actions empty = some final) :
    Owned S T name final := by
  have parses : Parses T name final := by
    refine Machine.run_induction (Parses T name) ?_ ?_ meets ran
    · intro action store next parses readable moved
      exact parses.step readable moved
    · nofun
  exact parses.owned

/-! ## The pool of autonomous system numbers

Integer pools are populated with values of type `i64`. The pool `fnn-asn` is allocated with
values of type `u32`.
-/

instance : ToStr Int := ⟨.signedDecimal⟩

instance : ToStr UInt32 := ⟨fun number => .decimal number.toNat⟩

instance : FromStr UInt32 where
  fromStr text := match Text.parseUnsigned 32 text with
    | some number => .ok (.ofNat number)
    | none => .error (Text.parseIntError 32 text)

def fnnAsn : Text := "fnn-asn".toList

def dpu : Owner := ⟨.machine, "fm100d".toList⟩

/-- Two transactions populate the pool with overlapping ranges, and a third one allocates. -/
def populatedTwice : List (Action Int UInt32 Nat) :=
  populate 1 [65000, 65001] true ++ [.commit 1] ++ populate 2 [65000, 65001, 65002] true ++
    [.allocate 3 10 dpu none (some "65001".toList), .commit 2, .commit 3]

theorem owned_of_populatedTwice :
    (transactions fnnAsn).Meets (fun _ action => Readable action) populatedTwice empty ∧
      ∃ final, (transactions fnnAsn).run populatedTwice empty = some final ∧
        owners final none fnnAsn "65001".toList = [dpu.state] ∧ Owned Int UInt32 fnnAsn final := by
  have meets : (transactions fnnAsn).Meets (fun _ action => Readable action) populatedTwice
      empty := by decide +kernel
  obtain ⟨final, ran, owner⟩ : ∃ final ∈ (transactions fnnAsn).run populatedTwice empty,
      owners final none fnnAsn "65001".toList = [dpu.state] := by decide +kernel
  exact ⟨meets, final, ran, owner, owned_of_run meets ran⟩

def largeNumber : Text := "4294967296".toList

def populatedLarge : List (Action Int UInt32 Nat) := [.insertFree 1 4294967296 true, .commit 1]

/-- The value cannot be read as one of 32 bits: `allocate` fails, and the value has an owner
when its transaction commits, as that of a new machine does. -/
theorem changed_of_failedAllocate :
    ∃ store error next, (transactions fnnAsn).run populatedLarge empty = some store ∧
      allocate store fnnAsn 2 10 dpu (none : Option UInt32) (some largeNumber) =
        some (.error error, next) ∧
      owners store none fnnAsn largeNumber = [] ∧
      owners (next.commit 2) none fnnAsn largeNumber = [dpu.state] := by
  obtain ⟨store, ran, before, ⟨error | value, next⟩, returned, failed, after⟩ :
      ∃ store ∈ (transactions fnnAsn).run populatedLarge empty,
        owners store none fnnAsn largeNumber = [] ∧
          ∃ result ∈ allocate store fnnAsn 2 10 dpu (none : Option UInt32) (some largeNumber),
            result.1.isOk = false ∧
              owners (result.2.commit 2) none fnnAsn largeNumber = [dpu.state] := by
    decide +kernel
  · exact ⟨store, error, next, ran, returned, before, after⟩
  · cases failed

end ApiDb.ResourcePool
