import BareMetalManager.Lib.Table

/-!
# Rows under transactions

The rows of a table with a unique key, as concurrent transactions at the level read committed see
them. A row has the version that was committed last and, while a transaction that has changed it
is open, that transaction's version. The writer holds the lock of the row until it ends, so no
second transaction changes the row; all others read the committed version.
-/

/-- A row with its key, its committed version and the version of the transaction that has
changed it and is still open. -/
structure RowVersions (κ ρ τ : Type*) where
  key : κ
  committed : Option ρ
  uncommitted : Option (τ × ρ)

namespace RowVersions

variable {κ ρ τ : Type*} [DecidableEq τ]

variable (txn : τ) (row : RowVersions κ ρ τ)

def seenBy : Option ρ :=
  match row.uncommitted with
  | some (writer, version) => if writer = txn then some version else row.committed
  | none => row.committed

def lockedFor : Bool :=
  row.uncommitted.any fun (writer, _) => writer ≠ txn

def commit : RowVersions κ ρ τ :=
  match row.uncommitted with
  | some (writer, version) => if writer = txn then ⟨row.key, some version, none⟩ else row
  | none => row

def rollback : RowVersions κ ρ τ :=
  match row.uncommitted with
  | some (writer, _) => if writer = txn then ⟨row.key, row.committed, none⟩ else row
  | none => row

omit [DecidableEq τ] in
def isLive : Bool := row.committed.isSome || row.uncommitted.isSome

@[simp] theorem key_commit : (row.commit txn).key = row.key := by
  rw [commit]
  split
  next => split <;> rfl
  next => rfl

@[simp] theorem key_rollback : (row.rollback txn).key = row.key := by
  rw [rollback]
  split
  next => split <;> rfl
  next => rfl

end RowVersions

/-- The rows of a table with a unique key under transactions. -/
abbrev RowStore (κ ρ τ : Type*) :=
  Table (RowVersions.key : RowVersions κ ρ τ → κ)

namespace RowStore

variable {κ ρ τ : Type*} [DecidableEq κ] [DecidableEq τ]

variable (store : RowStore κ ρ τ) (txn : τ) (key : κ) (version : ρ)

/-- `INSERT .. ON CONFLICT DO NOTHING` of one row. It waits while another transaction has
a version of a row with this key, and then leaves the row as it is. -/
def insertNew? : Option (RowStore κ ρ τ) :=
  match store.find? key with
  | some row => if row.lockedFor txn then none else some store
  | none => store.insert? ⟨key, none, some (txn, version)⟩

def write : RowStore κ ρ τ :=
  store.modify
    (fun row => if row.key = key then ⟨row.key, row.committed, some (txn, version)⟩ else row)
    (fun row => by split <;> rfl)

def commit : RowStore κ ρ τ :=
  store.modify (.commit txn) (RowVersions.key_commit txn)

/-- End a transaction and drop its versions, with the rows it has inserted. -/
def rollback : RowStore κ ρ τ :=
  (store.modify (.rollback txn) (RowVersions.key_rollback txn)).filter
    RowVersions.isLive

variable {store txn key version} {next : RowStore κ ρ τ} {row : RowVersions κ ρ τ}

/-- An insertion keeps every row, and adds one exactly if its key was new. -/
theorem mem_of_insertNew? (inserted : store.insertNew? txn key version = some next) :
    row ∈ next.rows ↔ row ∈ store.rows ∨
      row = ⟨key, none, some (txn, version)⟩ ∧ ∀ old ∈ store.rows, old.key ≠ key := by
  rw [insertNew?] at inserted
  split at inserted
  next old found =>
    obtain ⟨oldMem, sameKey⟩ := Table.find?_eq_some_iff.mp found
    split at inserted
    next => cases inserted
    next =>
      cases inserted
      constructor
      · exact .inl
      · rintro (rowMem | ⟨-, fresh⟩)
        · exact rowMem
        · exact absurd sameKey (fresh old oldMem)
  next absent =>
    have fresh : ∀ old ∈ store.rows, old.key ≠ key := by
      intro old oldMem sameKey
      rw [Table.find?_eq_some_iff.mpr ⟨oldMem, sameKey⟩] at absent
      cases absent
    rw [Table.mem_of_insert? inserted]
    constructor
    · rintro (rowMem | new)
      · exact .inl rowMem
      · exact .inr ⟨new, fresh⟩
    · rintro (rowMem | ⟨new, -⟩)
      · exact .inl rowMem
      · exact .inr new

omit [DecidableEq κ] in
/-- Every row after a transaction has moved was there before, under the same key. -/
theorem exists_key_of_mem_rollback (rowMem : row ∈ (store.rollback txn).rows) :
    ∃ old ∈ store.rows, old.key = row.key := by
  obtain ⟨old, oldMem, rfl⟩ := Table.mem_modify.mp (Table.mem_filter.mp rowMem).1
  exact ⟨old, oldMem, (old.key_rollback txn).symm⟩

omit [DecidableEq κ] in
theorem exists_key_of_mem_commit (rowMem : row ∈ (store.commit txn).rows) :
    ∃ old ∈ store.rows, old.key = row.key := by
  obtain ⟨old, oldMem, rfl⟩ := Table.mem_modify.mp rowMem
  exact ⟨old, oldMem, (old.key_commit txn).symm⟩

omit [DecidableEq τ] in
theorem exists_key_of_mem_write (rowMem : row ∈ (store.write txn key version).rows) :
    ∃ old ∈ store.rows, old.key = row.key := by
  obtain ⟨old, oldMem, rfl⟩ := Table.mem_modify.mp rowMem
  refine ⟨old, oldMem, ?_⟩
  split <;> rfl

end RowStore
