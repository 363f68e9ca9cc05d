import BareMetalManager.Lib.Table

/-!
# Flow tasks

The tasks of `rest-api/flow/internal/task/task/task.go` and the statements on their table in
`rest-api/flow/internal/db/model/task.go`. UUIDs, execution ids and times are numbers, an empty
execution id or idempotency key is `none`. Columns that no function of the model reads (time
stamps, report, executor type, rule, trigger) are left out.
-/

namespace Flow

abbrev Uuid := Nat

abbrev Time := Nat

/-- `TaskStatus` of `internal/task/common/common.go`. -/
inductive TaskStatus where
  | unknown
  | waiting
  | pending
  | running
  | completed
  | failed
  | terminated
  deriving DecidableEq, Repr

namespace TaskStatus

def isFinished : TaskStatus → Bool
  | completed | failed | terminated => true
  | unknown | waiting | pending | running => false

/-- The statuses that `ListActiveTasksForRack` selects. -/
def isActive : TaskStatus → Bool
  | pending | running => true
  | unknown | waiting | completed | failed | terminated => false

theorem not_isActive_of_isFinished {status : TaskStatus} (finished : status.isFinished) :
    ¬status.isActive := by
  cases status <;> first | exact Bool.false_ne_true | cases finished

/-- `ForStatus` of `internal/task/message/message.go`. -/
def message : TaskStatus → String
  | waiting => "Queued: waiting for rack to become available"
  | pending => "Pending"
  | running => "Running"
  | completed => "Succeeded"
  | failed => "Failed"
  | terminated => "Terminated"
  | unknown => ""

end TaskStatus

inductive TaskType where
  | unknown
  | injectExpectation
  | powerControl
  | firmwareControl
  | bringUp
  | decommission
  deriving DecidableEq, Repr

/-- `ComponentType` of `pkg/common/devicetypes/component.go`. -/
inductive ComponentType where
  | unknown
  | compute
  | nvSwitch
  | powerShelf
  | torSwitch
  | ums
  | cdu
  deriving DecidableEq, Repr

/-- `ComponentTypes`. -/
def ComponentType.all : List ComponentType :=
  [unknown, compute, nvSwitch, powerShelf, torSwitch, ums, cdu]

theorem ComponentType.mem_all (type : ComponentType) : type ∈ all := by
  cases type <;> decide

/-- `operation.Wrapper` without the payload. -/
structure Operation where
  type : TaskType
  code : String
  deriving DecidableEq, Repr

/-- The components that a task targets. A type without an entry has none. -/
structure TaskAttributes where
  componentsByType : ComponentType → List Uuid

def TaskAttributes.allComponentUUIDs (attributes : TaskAttributes) : List Uuid :=
  ComponentType.all.flatMap attributes.componentsByType

structure Task where
  id : Uuid
  operation : Operation
  rackId : Uuid
  attributes : TaskAttributes
  executionId : Option Nat
  status : TaskStatus
  message : String
  /-- The deadline of a wait before execution. -/
  queueExpiresAt : Option Time
  idempotencyKey : Option Nat

namespace Task

def isScheduled (task : Task) : Bool := task.executionId.isSome

/-- Two versions of a row: the columns that no statement changes agree. -/
structure SameWork (left right : Task) : Prop where
  id : left.id = right.id
  operation : left.operation = right.operation
  rackId : left.rackId = right.rackId
  attributes : left.attributes = right.attributes

theorem SameWork.refl (task : Task) : task.SameWork task := ⟨rfl, rfl, rfl, rfl⟩

theorem SameWork.symm {left right : Task} (same : left.SameWork right) : right.SameWork left :=
  ⟨same.id.symm, same.operation.symm, same.rackId.symm, same.attributes.symm⟩

theorem SameWork.trans {left middle right : Task} (first : left.SameWork middle)
    (second : middle.SameWork right) : left.SameWork right :=
  ⟨first.id.trans second.id, first.operation.trans second.operation,
    first.rackId.trans second.rackId, first.attributes.trans second.attributes⟩

end Task

/-- `TaskStatusUpdate` without the report. -/
structure TaskStatusUpdate where
  id : Uuid
  status : TaskStatus
  message : String
  queueExpiresAt : Option Time := none

namespace TaskStatusUpdate

variable (update : TaskStatusUpdate) (task : Task)

/-- `UpdateTaskStatus`: a finished status clears the deadline, any other status leaves it
unless the update brings one. The row is selected by its id alone. -/
def apply : Task :=
  if task.id = update.id then
    { task with
      status := update.status
      message := update.message
      queueExpiresAt :=
        if update.status.isFinished then none else update.queueExpiresAt.or task.queueExpiresAt }
  else task

theorem sameWork_apply : task.SameWork (update.apply task) := by
  unfold apply
  split <;> exact ⟨rfl, rfl, rfl, rfl⟩

variable (updates : List TaskStatusUpdate) (task : Task)

def applyAll : Task :=
  updates.foldl (fun task update => update.apply task) task

theorem sameWork_applyAll : task.SameWork (applyAll updates task) := by
  induction updates generalizing task with
  | nil => exact .refl task
  | cons update updates ih => exact (update.sameWork_apply task).trans (ih (update.apply task))

/-- After a list of updates a row has its old status or that of an update to it. -/
theorem status_applyAll :
    (applyAll updates task).status = task.status ∨
      ∃ update ∈ updates, update.id = task.id ∧ (applyAll updates task).status = update.status := by
  induction updates generalizing task with
  | nil => exact .inl rfl
  | cons update updates ih =>
    have unfolded : applyAll (update :: updates) task = applyAll updates (update.apply task) := rfl
    rw [unfolded]
    obtain same | ⟨later, laterMem, idEq, statusEq⟩ := ih (update.apply task)
    · by_cases targeted : task.id = update.id
      · refine .inr ⟨update, List.mem_cons_self, targeted.symm, ?_⟩
        rw [same, apply, if_pos targeted]
      · refine .inl ?_
        rw [same, apply, if_neg targeted]
    · refine .inr ⟨later, List.mem_cons_of_mem _ laterMem, ?_, statusEq⟩
      rw [idEq, (update.sameWork_apply task).id]

end TaskStatusUpdate

/-! ## The table of tasks -/

abbrev TaskTable := Table Task.id

variable {task : Task}

namespace TaskTable

variable (table : TaskTable) (rackId : Uuid)

/-- `ListTasksForRackByStatus`, oldest first. -/
def listTasksForRack (selected : TaskStatus → Bool) : List Task :=
  table.rows.filter fun task => decide (task.rackId = rackId) && selected task.status

def listActiveTasksForRack : List Task :=
  table.listTasksForRack rackId TaskStatus.isActive

def listWaitingTasksForRack : List Task :=
  table.listTasksForRack rackId (· = .waiting)

def countWaitingTasksForRack : Nat :=
  (table.listWaitingTasksForRack rackId).length

def getTaskByIdempotencyKey (key : Nat) : Option Task :=
  table.rows.find? fun task => task.idempotencyKey = some key

def Stored (task : Task) : Prop :=
  ∃ row ∈ table.rows, task.SameWork row

variable {table}

theorem mem_listTasksForRack {rackId : Uuid} {selected : TaskStatus → Bool} :
    task ∈ table.listTasksForRack rackId selected ↔
      task ∈ table.rows ∧ task.rackId = rackId ∧ selected task.status := by
  simp only [listTasksForRack, List.mem_filter, Bool.and_eq_true, decide_eq_true_eq]

theorem Stored.of_mem (taskMem : task ∈ table.rows) : table.Stored task :=
  ⟨task, taskMem, .refl task⟩

theorem Stored.sameWork {row : Task} (stored : table.Stored task) (rowMem : row ∈ table.rows)
    (sameId : task.id = row.id) : task.SameWork row := by
  obtain ⟨version, versionMem, same⟩ := stored
  rwa [table.eq_of_key_eq rowMem versionMem (sameId.symm.trans same.id)]

end TaskTable

/-! ## Committed writes -/

inductive Write where
  | create (task : Task)
  | updateStatus (updates : List TaskStatusUpdate)
  | updateScheduled (id : Uuid) (executionId : Nat)

namespace Write

variable (id : Uuid) (executionId : Nat) (task : Task)

/-- `UpdateScheduledTask` on a row. -/
def schedule : Task :=
  if task.id = id then { task with executionId := some executionId } else task

theorem sameWork_schedule : task.SameWork (schedule id executionId task) := by
  unfold schedule
  split <;> exact ⟨rfl, rfl, rfl, rfl⟩

theorem status_schedule : (schedule id executionId task).status = task.status := by
  unfold schedule
  split <;> rfl

variable {task}

/-- Commit to the table. The ids and the idempotency keys of the rows are unique, and
scheduling a task that has no row is an error. -/
def commit : Write → TaskTable → Option TaskTable
  | create task, table =>
    if task.idempotencyKey.any fun key => (table.getTaskByIdempotencyKey key).isSome then none
    else table.insert? task
  | updateStatus updates, table =>
    some (table.modify (TaskStatusUpdate.applyAll updates) fun task =>
      (TaskStatusUpdate.sameWork_applyAll updates task).id.symm)
  | updateScheduled id executionId, table =>
    if (table.find? id).isSome then
      some (table.modify (schedule id executionId) fun task =>
        (sameWork_schedule id executionId task).id.symm)
    else none

def updates : Write → List TaskStatusUpdate
  | updateStatus updates => updates
  | create _ | updateScheduled _ _ => []

/-- What a write can make of a row: its work stays, and its status changes only by an
update to it. -/
structure Revises (write : Write) (old row : Task) : Prop where
  sameWork : old.SameWork row
  status : row.status = old.status ∨
    ∃ update ∈ write.updates, update.id = old.id ∧ row.status = update.status

variable {write : Write} {table next : TaskTable}

variable (committed : write.commit table = some next)
include committed

/-- A commit either adds the created row or revises every row in place. -/
theorem commit_cases :
    (∃ task, write = create task ∧ table.insert? task = some next) ∨
      ∃ change keepsKey, next = table.modify change keepsKey ∧
        ∀ old, write.Revises old (change old) := by
  cases write with
  | create task =>
    simp only [commit] at committed
    split at committed
    next => cases committed
    next => exact .inl ⟨task, rfl, committed⟩
  | updateStatus updates =>
    cases committed
    exact .inr ⟨_, _, rfl, fun old =>
      ⟨TaskStatusUpdate.sameWork_applyAll updates old,
        TaskStatusUpdate.status_applyAll updates old⟩⟩
  | updateScheduled id executionId =>
    simp only [commit] at committed
    split at committed
    next =>
      cases committed
      exact .inr ⟨_, _, rfl, fun old =>
        ⟨sameWork_schedule id executionId old, .inl (status_schedule id executionId old)⟩⟩
    next => cases committed

omit committed in
theorem Revises.refl (write : Write) (task : Task) : write.Revises task task :=
  ⟨.refl task, .inl rfl⟩

theorem exists_revision {old : Task} (oldMem : old ∈ table.rows) :
    ∃ row ∈ next.rows, write.Revises old row := by
  obtain ⟨task, rfl, inserted⟩ | ⟨change, keepsKey, rfl, revises⟩ := commit_cases committed
  · exact ⟨old, (Table.mem_of_insert? inserted).mpr (.inl oldMem), .refl _ old⟩
  · exact ⟨change old, Table.mem_modify.mpr ⟨old, oldMem, rfl⟩, revises old⟩

theorem eq_create_or_exists_revises {row : Task} (rowMem : row ∈ next.rows) :
    write = create row ∨ ∃ old ∈ table.rows, write.Revises old row := by
  obtain ⟨task, rfl, inserted⟩ | ⟨change, keepsKey, rfl, revises⟩ := commit_cases committed
  · obtain oldMem | rfl := (Table.mem_of_insert? inserted).mp rowMem
    · exact .inr ⟨row, oldMem, .refl _ row⟩
    · exact .inl rfl
  · obtain ⟨old, oldMem, rfl⟩ := Table.mem_modify.mp rowMem
    exact .inr ⟨old, oldMem, revises old⟩

theorem stored_of_commit (stored : table.Stored task) : next.Stored task := by
  obtain ⟨version, versionMem, same⟩ := stored
  obtain ⟨row, rowMem, revises⟩ := exists_revision committed versionMem
  exact ⟨row, rowMem, same.trans revises.sameWork⟩

end Write

end Flow
