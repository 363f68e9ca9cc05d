import BareMetalManager.ApiDb.WorkLockManager
import Mathlib.Data.List.Nodup

/-!
# Lease safety

The table has one row for each work key. A keepalive or a release changes it only while
the row still names the worker, and a lock is granted only if there is no row or its
last keepalive is too old. A worker that has lost its lease never gets it back, because
worker ids are fresh.
-/

namespace ApiDb.WorkLockManager

open List State

variable {κ ν μ χ : Type} [DecidableEq κ] [DecidableEq ν]

/-! ## The statements -/

variable {row : WorkLockRow κ ν}

section Statements

variable {table : List (WorkLockRow κ ν)} {workKey : κ} {workerId generated : ν}
  {now keepaliveTimeout : Nat}

def OneRowPerKey (table : List (WorkLockRow κ ν)) : Prop :=
  (table.map WorkLockRow.workKey).Nodup

section

variable (oneRow : OneRowPerKey table)
include oneRow

omit [DecidableEq κ] [DecidableEq ν] in
theorem OneRowPerKey.eq_of_mem {other : WorkLockRow κ ν} (mem : row ∈ table)
    (otherIn : other ∈ table) (sameKey : row.workKey = other.workKey) : row = other :=
  inj_on_of_nodup_map oneRow mem otherIn sameKey

omit [DecidableEq κ] [DecidableEq ν] in
theorem OneRowPerKey.map {update : WorkLockRow κ ν → WorkLockRow κ ν}
    (keeps : ∀ row, (update row).workKey = row.workKey) : OneRowPerKey (table.map update) := by
  have sameKeys : (table.map update).map WorkLockRow.workKey = table.map WorkLockRow.workKey := by
    rw [map_map]
    exact map_congr_left fun row _ => keeps row
  rwa [OneRowPerKey, sameKeys]

omit oneRow in
theorem names_iff :
    names workKey workerId row = true ↔ row.workKey = workKey ∧ row.workerId = workerId := by
  simp [names]

theorem OneRowPerKey.releaseLock : OneRowPerKey (releaseLock table workKey workerId) :=
  oneRow.sublist (filter_sublist.map _)

theorem OneRowPerKey.keepLockAlive : OneRowPerKey (keepLockAlive now table workKey workerId).1 := by
  apply oneRow.map
  intro row
  split <;> rfl

omit [DecidableEq ν] in
theorem OneRowPerKey.tryAcquireLock :
    OneRowPerKey (tryAcquireLock now keepaliveTimeout table workKey generated).1 := by
  unfold WorkLockManager.tryAcquireLock
  split
  next absent =>
    rw [OneRowPerKey, map_append]
    apply List.Nodup.append oneRow (nodup_singleton _)
    intro key mem isNew
    obtain ⟨row, rowIn, rfl⟩ := mem_map.mp mem
    have differs := List.find?_eq_none.mp absent row rowIn
    exact differs (decide_eq_true (mem_singleton.mp isNew))
  next row found =>
    split
    next =>
      apply oneRow.map
      intro row
      split
      next sameKey => exact sameKey.symm
      next => rfl
    next => exact oneRow

end

theorem mem_releaseLock :
    row ∈ releaseLock table workKey workerId ↔
      row ∈ table ∧ ¬ (row.workKey = workKey ∧ row.workerId = workerId) := by
  rw [releaseLock, mem_filter, ← names_iff]
  simp

theorem mem_keepLockAlive (mem : row ∈ (keepLockAlive now table workKey workerId).1) :
    ∃ old ∈ table, old.workKey = row.workKey ∧ old.workerId = row.workerId := by
  obtain ⟨old, oldIn, rfl⟩ := mem_map.mp mem
  refine ⟨old, oldIn, ?_⟩
  split <;> exact ⟨rfl, rfl⟩

omit [DecidableEq ν] in
/-- The rows after an acquisition are old ones, or the new one; then the rows of the key
before were too old. -/
theorem mem_tryAcquireLock (oneRow : OneRowPerKey table)
    (mem : row ∈ (tryAcquireLock now keepaliveTimeout table workKey generated).1) :
    row ∈ table ∨ row = ⟨workKey, generated, now, now⟩ ∧
      ∀ old ∈ table, old.workKey = workKey → old.lastKeepalive + keepaliveTimeout < now := by
  unfold WorkLockManager.tryAcquireLock at mem
  split at mem
  next absent =>
    rcases mem_append.mp mem with old | isNew
    · exact .inl old
    · refine .inr ⟨mem_singleton.mp isNew, fun old oldIn sameKey => ?_⟩
      exact absurd (decide_eq_true sameKey) (List.find?_eq_none.mp absent old oldIn)
  next holder found =>
    split at mem
    next expired =>
      obtain ⟨old, oldIn, rfl⟩ := mem_map.mp mem
      split
      next sameKey =>
        refine .inr ⟨rfl, fun other otherIn otherKey => ?_⟩
        have holderKey : holder.workKey = workKey := by simpa using List.find?_some found
        have same := oneRow.eq_of_mem otherIn (mem_of_find?_eq_some found)
          (otherKey.trans holderKey.symm)
        rwa [same]
      next => exact .inl oldIn
    next => exact .inl mem

end Statements

/-! ## Steps -/

variable [DecidableEq μ] [DecidableEq χ]

/-- How a step may change the table and the generated worker ids: not at all, or by the
statement for the next command of a manager. -/
inductive Change (keepaliveTimeout : μ → Nat) (state : State κ ν μ χ) :
    Action κ ν μ χ → State κ ν μ χ → Prop where
  | untouched {action : Action κ ν μ χ} {next : State κ ν μ χ}
      (table : next.table = state.table) (generated : next.generated = state.generated) :
      Change keepaliveTimeout state action next
  | acquired {manager : μ} {fresh : ν} {next : State κ ν μ χ} {workKey : κ} {replyTx : χ}
      {queue : List (Command κ ν χ)}
      (queued : state.queues manager = some (.acquireLock workKey replyTx :: queue))
      (isFresh : fresh ∉ state.generated)
      (table : next.table = (tryAcquireLock state.now (keepaliveTimeout manager) state.table
        workKey fresh).1)
      (generated : next.generated = fresh :: state.generated) :
      Change keepaliveTimeout state (.process manager fresh false) next
  | released {manager : μ} {unused : ν} {next : State κ ν μ χ} {workKey : κ} {workerId : ν}
      {queue : List (Command κ ν χ)}
      (queued : state.queues manager = some (.releaseLock workKey workerId :: queue))
      (table : next.table = releaseLock state.table workKey workerId)
      (generated : next.generated = state.generated) :
      Change keepaliveTimeout state (.process manager unused false) next
  | keptAlive {manager : μ} {unused : ν} {next : State κ ν μ χ} {workKey : κ} {workerId : ν}
      {queue : List (Command κ ν χ)}
      (queued : state.queues manager = some (.keepLockAlive workKey workerId :: queue))
      (table : next.table = (keepLockAlive state.now state.table workKey workerId).1)
      (generated : next.generated = state.generated) :
      Change keepaliveTimeout state (.process manager unused false) next

section Steps

variable {keepaliveTimeout : μ → Nat} {state next : State κ ν μ χ} {action : Action κ ν μ χ}
  {manager : μ}

omit [DecidableEq κ] [DecidableEq ν] [DecidableEq χ] in
theorem send_eq_some {command : Command κ ν χ} (sent : state.send manager command = some next) :
    next.table = state.table ∧ next.generated = state.generated := by
  unfold send at sent
  split at sent
  next =>
    split at sent <;> cases sent
    exact ⟨rfl, rfl⟩
  next => cases sent

omit [DecidableEq κ] [DecidableEq ν] [DecidableEq χ] in
theorem getD_send {command : Command κ ν χ} :
    ((state.send manager command).getD state).table = state.table ∧
      ((state.send manager command).getD state).generated = state.generated := by
  cases sent : state.send manager command with
  | none => exact ⟨rfl, rfl⟩
  | some next => exact send_eq_some sent

theorem change_of_process {generated : ν} {fails : Bool}
    (moved : state.step keepaliveTimeout (.process manager generated fails) = some next) :
    Change keepaliveTimeout state (.process manager generated fails) next := by
  simp only [step] at moved
  split at moved
  next command queue queued =>
    cases command with
    | acquireLock workKey replyTx =>
      simp only [execute] at moved
      split at moved
      next request _ =>
        split at moved
        next =>
          cases moved
          exact .untouched rfl rfl
        next =>
          cases fails with
          | true =>
            cases moved
            exact .untouched rfl rfl
          | false =>
            simp only [Bool.false_eq_true, ↓reduceIte, Option.ite_none_left_eq_some] at moved
            obtain ⟨isFresh, ⟨⟩⟩ := moved
            exact .acquired queued isFresh rfl rfl
      next =>
        cases moved
        exact .untouched rfl rfl
    | releaseLock workKey workerId =>
      cases fails <;> cases moved
      · exact .released queued rfl rfl
      · exact .untouched rfl rfl
    | keepLockAlive workKey workerId =>
      cases fails <;> cases moved
      · exact .keptAlive queued rfl rfl
      · exact .untouched rfl rfl
  next => cases moved

theorem change_of_step (moved : state.step keepaliveTimeout action = some next) :
    Change keepaliveTimeout state action next := by
  cases action with
  | process manager generated fails => exact change_of_process moved
  | advance duration | shutDown manager =>
    cases moved
    exact .untouched rfl rfl
  | requestLock replyTx manager workKey =>
    simp only [step] at moved
    split at moved
    next => cases moved
    next =>
      obtain ⟨sent, sentEq, rfl⟩ := Option.map_eq_some_iff.mp moved
      exact .untouched (send_eq_some sentEq).1 (send_eq_some sentEq).2
  | cancel replyTx =>
    obtain ⟨request, -, rfl⟩ := Option.map_eq_some_iff.mp moved
    exact .untouched rfl rfl
  | receive replyTx | tick workerId =>
    simp only [step] at moved
    split at moved <;> cases moved
    exact .untouched rfl rfl
  | sendKeepalive workerId | drop workerId =>
    simp only [step] at moved
    split at moved <;> cases moved
    exact .untouched getD_send.1 getD_send.2

theorem OneRowPerKey.step (oneRow : OneRowPerKey state.table)
    (moved : state.step keepaliveTimeout action = some next) : OneRowPerKey next.table := by
  cases change_of_step moved with
  | untouched table => exact table ▸ oneRow
  | acquired _ _ table => exact table ▸ oneRow.tryAcquireLock
  | released _ table => exact table ▸ oneRow.releaseLock
  | keptAlive _ table => exact table ▸ oneRow.keepLockAlive

structure Lost (state : State κ ν μ χ) (workerId : ν) : Prop where
  generated : workerId ∈ state.generated
  unnamed : ∀ row ∈ state.table, row.workerId ≠ workerId

theorem Lost.step {workerId : ν} (lost : Lost state workerId) (oneRow : OneRowPerKey state.table)
    (moved : state.step keepaliveTimeout action = some next) : Lost next workerId := by
  cases change_of_step moved with
  | untouched table generated =>
    exact ⟨generated ▸ lost.generated, table ▸ lost.unnamed⟩
  | acquired queued isFresh table generated =>
    refine ⟨generated ▸ mem_cons_of_mem _ lost.generated, ?_⟩
    rw [table]
    intro row mem
    rcases mem_tryAcquireLock oneRow mem with old | ⟨rfl, -⟩
    · exact lost.unnamed row old
    · rintro rfl
      exact isFresh lost.generated
  | released queued table generated =>
    refine ⟨generated ▸ lost.generated, ?_⟩
    rw [table]
    exact fun row mem => lost.unnamed row (mem_releaseLock.mp mem).1
  | keptAlive queued table generated =>
    refine ⟨generated ▸ lost.generated, ?_⟩
    rw [table]
    intro row mem
    obtain ⟨old, oldIn, -, sameWorker⟩ := mem_keepLockAlive mem
    exact sameWorker ▸ lost.unnamed old oldIn

/-! ## Safety -/

end Steps

end ApiDb.WorkLockManager
