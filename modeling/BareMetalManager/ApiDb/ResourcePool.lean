import BareMetalManager.Lib.ReadCommitted
import BareMetalManager.Lib.Text
import BareMetalManager.Lib.Transition

/-!
# Resource pools

`api-db/src/resource_pool.rs`. A pool is the rows of the table `resource_pool` with its name.
`populate` inserts values as free rows, `allocate` and `allocateExact` write an owner into a free
row, and `release` takes it out again.

Each is called in a transaction of its caller, read committed, and a statement is one step. Its
snapshot may be older than the state in which it takes the lock of a row: a row that qualifies now
may be missed, and one that qualified before is checked again. The row that `ORDER BY random()`
puts first and what a snapshot misses are part of the step.
-/

namespace ApiDb.ResourcePool

/-- `ToString`. -/
class ToStr (α : Type*) where
  toStr : α → Text

/-- `FromStr`, with the text of the error. -/
class FromStr (α : Type*) where
  fromStr : Text → Except Text α

export ToStr (toStr)
export FromStr (fromStr)

inductive OwnerType where
  | machine
  | networkSegment
  | ibPartition
  | vpc
  | spxPartition
  deriving DecidableEq, Repr

def OwnerType.toText : OwnerType → Text
  | .machine => "machine".toList
  | .networkSegment => "network_segment".toList
  | .ibPartition => "ib_partition".toList
  | .vpc => "vpc".toList
  | .spxPartition => "spx_partition".toList

/-- `ResourcePoolEntryState`. -/
inductive EntryState where
  | free
  | allocated (owner ownerType : Text)
  deriving DecidableEq, Repr

/-- The owner of an allocation as its caller gives it. -/
structure Owner where
  ownerType : OwnerType
  ownerId : Text
  deriving DecidableEq, Repr

def Owner.state (owner : Owner) : EntryState := .allocated owner.ownerId owner.ownerType.toText

/-- The columns of a row beside its name and value. -/
structure Entry where
  autoAssign : Bool
  state : EntryState
  allocated : Option Nat
  deriving DecidableEq, Repr

/-- The table `resource_pool`, with the unique key (name, value). -/
abbrev Store (τ : Type*) := RowStore (Text × Text) Entry τ

/-- The errors of `allocate`. -/
inductive AllocateError where
  | empty
  | failedPrecondition (message : Text)
  | rowNotFound
  | parse (error value poolName ownerType ownerId : Text)
  deriving DecidableEq, Repr

inductive ConditionalWrite where
  | applied
  | notApplied
  deriving DecidableEq, Repr

variable {τ : Type*} [DecidableEq τ]

/-- The text of the error for a value that cannot be had. -/
def notAvailable (value poolName : Text) : Text :=
  "`".toList ++ value ++ "` not an available value for resource-pool `".toList ++ poolName ++
    "`".toList

variable (store : Store τ) (txn : τ) (name value : Text)

def lookup : Option Entry :=
  (store.find? (name, value)).bind (RowVersions.seenBy txn)

def isLocked : Bool :=
  (store.find? (name, value)).any (RowVersions.lockedFor txn)

/-- `stats`: the number of free values of a partition of the pool. -/
def freeCount (autoAssign : Bool) : Nat :=
  store.rows.countP fun row =>
    decide (row.key.1 = name) &&
      (row.seenBy txn).any fun entry => entry.state = .free ∧ entry.autoAssign = autoAssign

section Statements

variable {S T : Type*} [ToStr S] [ToStr T] [FromStr T]

variable (store : Store τ) (name : Text) (txn : τ)

/-- One row of the `INSERT` of `populate`. Nothing means that the statement waits. -/
def insertFree (value : S) (autoAssign : Bool) : Option (Store τ) :=
  store.insertNew? txn (name, toStr value) ⟨autoAssign, .free, none⟩

variable (requested : Option Text) (value : Text)

/-- The statement of `allocate` may take the row with a value: the version its transaction
sees qualifies, and no other transaction has the lock. -/
def Allocatable : Prop :=
  isLocked store txn name value = false ∧
    ∃ entry ∈ lookup store txn name value, entry.state = .free ∧
      entry.autoAssign = requested.isNone ∧ (entry.autoAssign = true ∨ some value = requested)

instance : Decidable (Allocatable store name txn requested value) :=
  inferInstanceAs (Decidable (_ ∧ _))

/-- The error of `allocate` when its statement has found no row. -/
def noRowError : AllocateError :=
  if freeCount store txn name requested.isNone = 0 then .empty
  else match requested with
    | some value => .failedPrecondition (notAvailable value name)
    | none => .rowNotFound

def parseAllocated (owner : Owner) (value : Text) : Except AllocateError T :=
  match fromStr value with
  | .ok parsed => .ok parsed
  | .error error => .error (.parse error value name owner.ownerType.toText owner.ownerId)

variable (now : Nat) (owner : Owner)

/-- The transaction writes the owner into the row with a value. -/
def setAllocated (value : Text) : Store τ :=
  match lookup store txn name value with
  | some entry =>
    store.write txn (name, value) { entry with state := owner.state, allocated := some now }
  | none => store

/-- `allocate`, with the row that its statement has picked. The text of the row is parsed
when it has been written. -/
def allocate (requested : Option T) (picked : Option Text) :
    Option (Except AllocateError T × Store τ) :=
  let requestedText := requested.map toStr
  match picked with
  | some value =>
    if Allocatable store name txn requestedText value then
      some (parseAllocated name owner value, setAllocated store name txn now owner value)
    else none
  | none => some (.error (noRowError store name txn requestedText), store)

/-- `allocate_exact`. Nothing means that the statement waits for the lock of the row. -/
def allocateExact (requested : T) (missed : Bool) : Option (Except AllocateError T × Store τ) :=
  let text := toStr requested
  if missed = false ∧ (lookup store txn name text).map Entry.state = some .free then
    if isLocked store txn name text then none
    else some (.ok requested, setAllocated store name txn now owner text)
  else some (.error (.failedPrecondition (notAvailable text name)), store)

/-- `release`. Nothing means that the statement waits for the lock of the row. -/
def release (value : T) (owner : Owner) (missed : Bool) : Option (ConditionalWrite × Store τ) :=
  let text := toStr value
  match lookup store txn name text with
  | some entry =>
    if missed = false ∧ entry.state = owner.state then
      if isLocked store txn name text then none
      else some (.applied,
        store.write txn (name, text) { entry with state := .free, allocated := none })
    else some (.notApplied, store)
  | none => some (.notApplied, store)

end Statements

end ApiDb.ResourcePool
