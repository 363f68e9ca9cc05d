import Mathlib.Data.List.Nodup
import Mathlib.Tactic.Linarith

/-!
# Tables with a primary key

A table holds its rows in the order of insertion, no two of them with one key. A
statement changes rows in place and leaves their keys alone, or deletes rows.
-/

/-- Rows with distinct keys, oldest first. -/
structure Table {ρ κ : Type*} (key : ρ → κ) where
  rows : List ρ
  keysNodup : (rows.map key).Nodup

namespace Table

open List

variable {ρ κ : Type*} {key : ρ → κ}

def empty : Table key := ⟨[], .nil⟩

theorem eq_of_key_eq (table : Table key) {left right : ρ} (leftMem : left ∈ table.rows)
    (rightMem : right ∈ table.rows) (sameKey : key left = key right) : left = right :=
  inj_on_of_nodup_map table.keysNodup leftMem rightMem sameKey

/-! ## Changing rows in place -/

def modify (table : Table key) (change : ρ → ρ) (keepsKey : ∀ row, key (change row) = key row) :
    Table key where
  rows := table.rows.map change
  keysNodup := by
    have sameKeys : key ∘ change = key := funext keepsKey
    rw [map_map, sameKeys]
    exact table.keysNodup

variable {table : Table key} {row : ρ}

theorem mem_modify {change : ρ → ρ} {keepsKey : ∀ row, key (change row) = key row} :
    row ∈ (table.modify change keepsKey).rows ↔ ∃ old ∈ table.rows, change old = row :=
  mem_map

def filter (table : Table key) (keep : ρ → Bool) : Table key where
  rows := table.rows.filter keep
  keysNodup := table.keysNodup.sublist (filter_sublist.map key)

theorem mem_filter {keep : ρ → Bool} :
    row ∈ (table.filter keep).rows ↔ row ∈ table.rows ∧ keep row = true :=
  List.mem_filter

section Lookup

variable [DecidableEq κ]

/-! ## Lookup and insertion by key -/

def find? (table : Table key) (wanted : κ) : Option ρ :=
  table.rows.find? fun row => key row = wanted

theorem key_of_find? {wanted : κ} (found : table.find? wanted = some row) : key row = wanted := by
  simpa only [decide_eq_true_eq] using find?_some found

theorem find?_eq_some_iff {wanted : κ} :
    table.find? wanted = some row ↔ row ∈ table.rows ∧ key row = wanted := by
  constructor
  · intro found
    exact ⟨mem_of_find?_eq_some found, key_of_find? found⟩
  · rintro ⟨rowMem, rfl⟩
    cases found : table.find? (key row) with
    | none =>
      have noKey := find?_eq_none.mp found row rowMem
      simp only [decide_true, not_true_eq_false] at noKey
    | some other =>
      have otherMem : other ∈ table.rows := mem_of_find?_eq_some found
      rw [table.eq_of_key_eq otherMem rowMem (key_of_find? found)]

theorem countP_key_le_one (table : Table key) (wanted : κ) :
    (table.rows.countP fun row => key row = wanted) ≤ 1 := by
  have counted := nodup_iff_count_le_one.mp table.keysNodup wanted
  rwa [count_eq_countP, countP_map] at counted

theorem find?_modify (table : Table key) (change : ρ → ρ)
    (keepsKey : ∀ row, key (change row) = key row) (wanted : κ) :
    (table.modify change keepsKey).find? wanted = (table.find? wanted).map change := by
  simp only [find?, modify, find?_map, Function.comp_def, keepsKey]

/-- Insert a row, unless its key is taken. -/
def insert? (table : Table key) (row : ρ) : Option (Table key) :=
  if taken : key row ∈ table.rows.map key then none
  else
    some
      { rows := table.rows ++ [row]
        keysNodup := by
          rw [map_append, map_singleton]
          refine nodup_append.mpr ⟨table.keysNodup, nodup_singleton _, ?_⟩
          intro old oldMem new newMem same
          rw [same, mem_singleton.mp newMem] at oldMem
          exact taken oldMem }

variable {next : Table key}

theorem rows_of_insert? (inserted : table.insert? row = some next) :
    next.rows = table.rows ++ [row] := by
  unfold insert? at inserted
  split at inserted
  next => cases inserted
  next => exact congrArg rows (Option.some.inj inserted).symm

theorem mem_of_insert? (inserted : table.insert? row = some next) {other : ρ} :
    other ∈ next.rows ↔ other ∈ table.rows ∨ other = row := by
  rw [rows_of_insert? inserted, mem_append, mem_singleton]

end Lookup

end Table
