import BareMetalManager.Lib.Transition
import Mathlib.Data.Fintype.Basic

/-!
# State processors

The loop of `crates/state-controller/src/controller/processor.rs`, for any number of processors
that share one table of queued objects. In every iteration a processor claims objects, dispatches
a handler task for each, waits for completions, and finalizes the completed objects. The completed
objects survive a failed transaction and are finalized later.

Statements and transactions are atomic, all clocks agree, and the processors interleave freely.
-/

namespace StateController

/-! ## The table of queued objects

The statements of `crates/state-controller/src/controller/db.rs` on the table of
objects that wait for their state handler. A row is claimed by a processor for a
limited time; a claim that is older may be taken over. -/

structure QueuedObject (π : Type) where
  processedBy : Option π
  processingStartedAt : Nat
  deriving DecidableEq, Repr

/-- The table, keyed by the object. -/
abbrev QueuedObjects (ι π : Type) := ι → Option (QueuedObject π)

namespace QueuedObjects

variable {ι π : Type} [DecidableEq ι]

variable (now : Nat) (table : QueuedObjects ι π)

/-- `INSERT … ON CONFLICT (object_id) DO NOTHING`, for one object. -/
def queueObject (object : ι) : QueuedObjects ι π :=
  match table object with
  | some _ => table
  | none => Function.update table object (some ⟨none, now⟩)

/-- Enqueue objects. The source sorts them to avoid deadlocks; the rows are the same
in any order. -/
def queueObjects (objects : List ι) : QueuedObjects ι π :=
  objects.foldl (queueObject now) table

def claimable (now maxOutdated : Nat) (row : QueuedObject π) : Bool :=
  row.processedBy.isNone || decide (row.processingStartedAt + maxOutdated < now)

/-- Claim up to `count` objects. Rows that other transactions have locked are skipped,
so that any claimable rows may be the ones that the subquery yields. -/
def acquireQueuedObjects (count : Nat) (processor : π) (maxOutdated : Nat) (dequeuedIds : List ι) :
    Option (QueuedObjects ι π) :=
  if dequeuedIds.Nodup ∧ dequeuedIds.length ≤ count ∧
      ∀ object ∈ dequeuedIds, (table object).any (claimable now maxOutdated) = true then
    some fun object =>
      if object ∈ dequeuedIds then some ⟨some processor, now⟩ else table object
  else none

def deleteQueuedObjects [DecidableEq π] (table : QueuedObjects ι π) (objects : List ι)
    (processor : π) : QueuedObjects ι π :=
  fun object =>
    (table object).filter fun row =>
      !(decide (object ∈ objects) && decide (row.processedBy = some processor))

variable {now table} {object : ι} {row : QueuedObject π}

theorem queueObject_eq_some {inserted : ι} (present : table object = some row) :
    queueObject now table inserted object = some row := by
  cases found : table inserted with
  | some _ => simpa only [queueObject, found] using present
  | none =>
    have differs : object ≠ inserted := by
      intro same
      rw [same, found] at present
      cases present
    simpa only [queueObject, found, Function.update_of_ne differs] using present

variable {objects : List ι}

theorem queueObjects_eq_some (present : table object = some row) :
    queueObjects now table objects object = some row := by
  induction objects generalizing table with
  | nil => exact present
  | cons inserted objects ih => exact ih (queueObject_eq_some present)

theorem acquireQueuedObjects_eq_some {claimed : QueuedObjects ι π} {count : Nat} {processor : π}
    {maxOutdated : Nat} {dequeuedIds : List ι} :
    acquireQueuedObjects now table count processor maxOutdated dequeuedIds = some claimed ↔
      (dequeuedIds.Nodup ∧ dequeuedIds.length ≤ count ∧
        ∀ object ∈ dequeuedIds, ∃ row, table object = some row ∧
          claimable now maxOutdated row = true) ∧
      (fun object =>
        if object ∈ dequeuedIds then some ⟨some processor, now⟩ else table object) = claimed := by
  simp only [acquireQueuedObjects, Option.ite_none_right_eq_some, Option.some.injEq,
    Option.any_eq_true]

theorem deleteQueuedObjects_eq_some [DecidableEq π] {processor : π} :
    deleteQueuedObjects table objects processor object = some row ↔
      table object = some row ∧ ¬ (object ∈ objects ∧ row.processedBy = some processor) := by
  simp only [deleteQueuedObjects, Option.filter_eq_some_iff, Bool.not_eq_true',
    Bool.and_eq_false_iff, decide_eq_false_iff_not, not_and_or]

end QueuedObjects

/-! ## Processors -/

structure IterationConfig where
  maxConcurrency : Nat
  maxObjectHandlingTime : Nat

/-- What the metrics of a finished task say about another run: it has reached a next
state, or its iteration was invalidated. -/
structure TaskResult where
  nextState : Bool
  iterationInvalidated : Bool
  deriving DecidableEq, Repr

inductive TaskStatus where
  | running
  | finished (result : TaskResult)
  deriving DecidableEq, Repr

/-- A handler task of the join set. -/
structure Task (ι : Type) where
  object : ι
  deadline : Nat
  status : TaskStatus
  deriving DecidableEq, Repr

def Task.isRunning {ι : Type} (task : Task ι) : Bool :=
  match task.status with
  | .running => true
  | .finished _ => false

def Task.finishedResult {ι : Type} (task : Task ι) : Option (ι × TaskResult) :=
  match task.status with
  | .running => none
  | .finished result => some (task.object, result)

def Task.spawned {ι : Type} (deadline : Nat) (object : ι) : Task ι :=
  ⟨object, deadline, .running⟩

inductive Phase (ι : Type) where
  | idle
  /-- The deadline of the claim is fixed, and its transaction has begun. -/
  | claiming (deadline : Nat)
  /-- The claim has been committed and answered. -/
  | claimed (deadline : Nat) (objects : List ι)
  | waiting
  | finalizing
  /-- Stopping: waiting for all tasks. -/
  | draining
  | stopped
  deriving DecidableEq, Repr

structure StateProcessor (ι : Type) where
  phase : Phase ι
  objectTasks : List (Task ι)
  completedObjects : List ι
  requeueObjects : List ι
  deriving DecidableEq, Repr

namespace StateProcessor

variable {ι : Type}

def new : StateProcessor ι := ⟨.idle, [], [], []⟩

variable (processor : StateProcessor ι)

def runningTasks : List (Task ι) :=
  processor.objectTasks.filter Task.isRunning

def runningObjects : List ι :=
  processor.runningTasks.map Task.object

variable (config : IterationConfig) (processor : StateProcessor ι)

def remainingCapacity : Nat :=
  config.maxConcurrency - processor.objectTasks.length

/-- The most objects that a claim asks for, a 32-bit number. -/
def claimCount : Nat :=
  min (processor.remainingCapacity config) (2 ^ 32 - 1)

/-- Begin an iteration: without capacity, nothing is claimed. -/
def beginDequeue (now : Nat) (processor : StateProcessor ι) : StateProcessor ι :=
  { processor with
    phase :=
      if processor.remainingCapacity config = 0 then .waiting
      else .claiming (now + config.maxObjectHandlingTime) }

/-- Dispatch the claimed objects, unless the deadline of the claim has passed; then
the iteration ends with an error. -/
def dispatch (now deadline : Nat) (objects : List ι) (processor : StateProcessor ι) :
    StateProcessor ι :=
  if now ≥ deadline then { processor with phase := .idle }
  else
    { processor with
      phase := .waiting
      objectTasks := processor.objectTasks ++ objects.map (.spawned deadline) }

variable [DecidableEq ι]

def processObjectHandlingTaskResult (allowRequeue : Bool) (processor : StateProcessor ι)
    (taskResult : ι × TaskResult) : StateProcessor ι :=
  { processor with
    completedObjects := processor.completedObjects.insert taskResult.1
    requeueObjects :=
      if allowRequeue && (taskResult.2.nextState || taskResult.2.iterationInvalidated) then
        processor.requeueObjects.insert taskResult.1
      else processor.requeueObjects }

/-- Take all finished tasks out of the join set and process their results. -/
def joinMany (allowRequeue : Bool) (processor : StateProcessor ι) : StateProcessor ι :=
  (processor.objectTasks.filterMap Task.finishedResult).foldl
    (processObjectHandlingTaskResult allowRequeue)
    { processor with objectTasks := processor.runningTasks }

end StateProcessor

/-! ## The system -/

/-- How a transaction ends for its client: committed, committed without the client
learning about it, or rolled back. -/
inductive TxnOutcome where
  | committed
  | unanswered
  | failed
  deriving DecidableEq, Repr

/-- The clock, the table and the processors, whose globally unique ids are `π`. -/
structure System (ι π : Type) where
  now : Nat
  queued : QueuedObjects ι π
  processors : π → StateProcessor ι

inductive Action (ι π : Type) where
  /-- Time passes. A task is cancelled at its deadline, so no task outlives it. -/
  | advance (duration : Nat)
  | enqueue (objects : List ι)
  | beginDequeue (processor : π)
  /-- The transaction of a claim ends. -/
  | acquire (processor : π) (dequeuedIds : List ι) (outcome : TxnOutcome)
  | dispatch (processor : π)
  /-- A task ends: its handler has returned or was cancelled at the deadline. -/
  | finishTask (processor : π) (index : Nat) (result : TaskResult)
  /-- No task has completed in the time of the iteration. -/
  | waitTimeout (processor : π)
  | joinMany (processor : π) (allowRequeue : Bool)
  /-- The transaction that finalizes the completed objects ends. -/
  | finalize (processor : π) (outcome : TxnOutcome)
  | stop (processor : π)
  deriving DecidableEq, Repr

namespace System

variable {ι π : Type} [DecidableEq ι] [DecidableEq π]

/-- The system when its processors start, over a table that earlier processors left. -/
def start (now : Nat) (queued : QueuedObjects ι π) : System ι π :=
  ⟨now, queued, fun _ => .new⟩

def setProcessor (system : System ι π) (id : π) (processor : StateProcessor ι) :
    System ι π :=
  { system with processors := Function.update system.processors id processor }

variable (config : IterationConfig) (system : System ι π) (id : π)

/-- The transaction of a claim, with a lease of three handling times. -/
def acquire (deadline : Nat) (dequeuedIds : List ι) (outcome : TxnOutcome) : Option (System ι π) :=
  let processor := system.processors id
  let acquired := QueuedObjects.acquireQueuedObjects system.now system.queued
    (processor.claimCount config) id (config.maxObjectHandlingTime * 3) dequeuedIds
  match outcome with
  | .failed => some (system.setProcessor id { processor with phase := .idle })
  | .unanswered => acquired.map fun queued =>
    { system with queued }.setProcessor id { processor with phase := .idle }
  | .committed => acquired.map fun queued =>
    { system with queued }.setProcessor id
      { processor with phase := .claimed deadline dequeuedIds }

def finishTask (index : Nat) (result : TaskResult) : Option (System ι π) :=
  let processor := system.processors id
  match processor.objectTasks[index]? with
  | some task =>
    if task.isRunning then
      some (system.setProcessor id
        { processor with
          objectTasks := processor.objectTasks.set index
            { task with status := .finished result } })
    else none
  | none => none

/-- The table after the completed objects of a processor are finalized. -/
def finalizedTable : QueuedObjects ι π :=
  let processor := system.processors id
  (system.queued.deleteQueuedObjects processor.completedObjects id).queueObjects system.now
    processor.requeueObjects

/-- The transaction that finalizes the completed objects. A failure leaves the sets
for the next attempt. -/
def finalizeCompletedObjects (next : Phase ι) (outcome : TxnOutcome) : System ι π :=
  let processor := system.processors id
  if processor.completedObjects = [] then
    system.setProcessor id { processor with phase := next }
  else
    match outcome with
    | .failed => system.setProcessor id { processor with phase := next }
    | .unanswered =>
      { system with queued := system.finalizedTable id }.setProcessor id
        { processor with phase := next }
    | .committed =>
      { system with queued := system.finalizedTable id }.setProcessor id
        { processor with phase := next, completedObjects := [], requeueObjects := [] }

variable [Fintype π]

/-- Time does not pass the deadline of a running task. -/
def step (config : IterationConfig) (action : Action ι π) (system : System ι π) :
    Option (System ι π) :=
  match action with
  | .advance duration =>
    if ∀ id, ∀ task ∈ (system.processors id).runningTasks,
        system.now + duration ≤ task.deadline then
      some { system with now := system.now + duration }
    else none
  | .enqueue objects =>
    some { system with queued := system.queued.queueObjects system.now objects }
  | .beginDequeue id =>
    match (system.processors id).phase with
    | .idle =>
      some (system.setProcessor id ((system.processors id).beginDequeue config system.now))
    | _ => none
  | .acquire id dequeuedIds outcome =>
    match (system.processors id).phase with
    | .claiming deadline => system.acquire config id deadline dequeuedIds outcome
    | _ => none
  | .dispatch id =>
    match (system.processors id).phase with
    | .claimed deadline objects =>
      some (system.setProcessor id
        ((system.processors id).dispatch system.now deadline objects))
    | _ => none
  | .finishTask id index result => system.finishTask id index result
  | .waitTimeout id =>
    match (system.processors id).phase with
    | .waiting =>
      some (system.setProcessor id { system.processors id with phase := .finalizing })
    | _ => none
  | .joinMany id allowRequeue =>
    -- The join waits for a completion, unless there is no task at all.
    if (system.processors id).objectTasks = [] ∨
        (system.processors id).runningTasks ≠ (system.processors id).objectTasks then
      match (system.processors id).phase with
      | .waiting =>
        some (system.setProcessor id
          { (system.processors id).joinMany allowRequeue with phase := .finalizing })
      | .draining =>
        some (system.setProcessor id ((system.processors id).joinMany allowRequeue))
      | _ => none
    else none
  | .finalize id outcome =>
    match (system.processors id).phase with
    | .finalizing => some (system.finalizeCompletedObjects id .idle outcome)
    | .draining =>
      if (system.processors id).objectTasks = [] then
        some (system.finalizeCompletedObjects id .stopped outcome)
      else none
    | _ => none
  | .stop id =>
    match (system.processors id).phase with
    | .idle => some (system.setProcessor id { system.processors id with phase := .draining })
    | _ => none

def machine (config : IterationConfig) : Machine (Action ι π) (System ι π) := ⟨step config⟩

end System

end StateController
