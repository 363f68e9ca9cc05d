import BareMetalManager.Flow.Conflict
import BareMetalManager.Lib.Locks
import BareMetalManager.Lib.Transition

/-!
# The task manager

Submission, promotion, execution and cancellation of tasks, from `manager/manager.go` and
`conflict/promoter.go` of `rest-api/flow/internal/task`, with any number of calls at once.
Transactions are read committed: a read sees what is committed at that moment, writes take effect
at the commit, and advisory locks are held until then. An updated row is locked, so no other write
falls between an update and its commit.

A call is a process at a `Point` of the code. The environment chooses which process moves, what
the clock, the inventory and the executor answer, and when a call breaks off.
-/

namespace Flow

abbrev ProcId := Nat

def defaultMaxWaitingPerRack : Nat := 5

/-- One hour, in seconds. -/
def defaultQueueTimeout : Nat := 3600

/-- The limits of a `ManagerImpl`. -/
structure ManagerConfig where
  maxWaitingPerRack : Nat := defaultMaxWaitingPerRack
  queueTimeout : Nat := defaultQueueTimeout

inductive ConflictStrategy where
  | reject
  | queue
  deriving DecidableEq, Repr

/-- A request whose targets were resolved to one rack. -/
structure Request where
  operation : Operation
  rackId : Uuid
  components : ComponentType → List Uuid
  conflictStrategy : ConflictStrategy := .reject
  /-- Zero stands for the default of the server. -/
  queueTimeout : Nat := 0
  requiredRackId : Option Uuid := none
  idempotencyKey : Option Nat := none

/-- The new task has no status until its conflicts are resolved. -/
def newTaskForRack (req : Request) (id : Uuid) : Task where
  id := id
  operation := req.operation
  rackId := req.rackId
  attributes := ⟨req.components⟩
  executionId := none
  status := .unknown
  message := ""
  queueExpiresAt := none
  idempotencyKey := req.idempotencyKey

def getReqExpiresAt (config : ManagerConfig) (req : Request) (now : Time) : Time :=
  now + if req.queueTimeout = 0 then config.queueTimeout else req.queueTimeout

/-- `validateIdempotentTaskRack`. -/
def Request.rackMatches (req : Request) (existing : Task) : Bool :=
  req.requiredRackId == some existing.rackId

/-- The FIFO loop of `processRack`: the candidates up to the first that conflicts with the
active tasks or with a candidate before it. -/
def promotable (workingActive : List Task) : List Task → List Task
  | [] => []
  | candidate :: candidates =>
    if builtinRule.conflicts candidate workingActive then []
    else candidate :: promotable (workingActive ++ [candidate]) candidates

open List in
/-- Each promoted task was compared with all that is active before it. -/
theorem promotable_spec (workingActive candidates : List Task) :
    promotable workingActive candidates ⊆ candidates ∧
      (∀ task ∈ promotable workingActive candidates, ∀ active ∈ workingActive,
        ¬task.Conflicting active) ∧
      (promotable workingActive candidates).Pairwise fun earlier later =>
        ¬later.Conflicting earlier := by
  induction candidates generalizing workingActive with
  | nil => exact ⟨.refl _, forall_mem_nil _, .nil⟩
  | cons candidate candidates ih =>
    obtain ⟨subset, clear, pairwise⟩ := ih (workingActive ++ [candidate])
    unfold promotable
    split
    next => exact ⟨nil_subset _, forall_mem_nil _, .nil⟩
    next noConflict =>
      refine ⟨cons_subset_cons _ subset, forall_mem_cons.mpr ⟨?_, ?_⟩, .cons ?_ pairwise⟩
      · intro active activeMem
        exact not_conflicting_of_not_conflicts (Bool.eq_false_iff.mpr noConflict) activeMem
      · intro task promoted active activeMem
        exact clear task promoted active (mem_append_left _ activeMem)
      · intro later promoted
        exact clear later promoted candidate mem_concat_self

def promotion (candidate : Task) : TaskStatusUpdate where
  id := candidate.id
  status := .pending
  message := "Promoted: no conflicting active tasks"

/-! ## Points of the calls -/

/-- The transaction that surrounds an execution. -/
inductive Scope where
  /-- None: every statement commits. The promoter has still to execute `rest`. -/
  | outside (rest : List Task)
  /-- An idempotent submission that inserted the task. -/
  | inserted
  /-- An idempotent submission that found the task. -/
  | persisted

/-- Where a call stands: what it does next. -/
inductive Point where
  | idle
  /-- The lookup at the head of `SubmitTask`. -/
  | submit (req : Request) (task : Task)
  | lockIdempotencyKey (key : Nat) (req : Request) (task : Task)
  | getTaskByIdempotencyKey (key : Nat) (req : Request) (task : Task)
  | lockRack (req : Request) (task : Task)
  | hasConflict (req : Request) (task : Task)
  | countWaiting (req : Request) (task : Task)
  | createTask (task : Task)
  /-- `resolveAndExecuteTaskWithTransaction`. -/
  | execute (scope : Scope) (task : Task)
  | deferUnlinked (scope : Scope) (task : Task) (deadline : Time) (unlinked : String)
  /-- The count of `persistWaiting`, under the lock of the rack. -/
  | countDeferred (scope : Scope) (task : Task) (deadline : Time) (unlinked : String)
  | updateScheduled (scope : Scope) (task : Task) (executionId : Nat)
  /-- The end of an idempotent submission. If it executed the task, `executed` says
  whether the task was persisted before. -/
  | commit (write : Write) (executed : Option (Uuid × Bool))
  /-- `handleSchedulingPersistenceFailure`. -/
  | compensate (rest : List Task) (id : Uuid) (taskAlreadyPersisted : Bool)
  | markFailed (rest : List Task) (id : Uuid) (summary : String)
  /-- The loop of `processRack` over the waiting tasks. -/
  | splitExpired (rackId : Uuid) (now : Time) (waiting candidates : List Task)
  /-- The commit of a promotion that read the active tasks. -/
  | promote (rackId : Uuid) (active toExecute : List Task)
  | promoteFunc (toExecute : List Task)
  /-- `CancelTask` after it has loaded the task. -/
  | cancelTask (task : Task)

open Point

/-- What `resolveAndExecuteTaskWithTransaction` meets before its result is stored. -/
inductive Execution where
  | unresolved
  /-- The targets or the rule are not valid. -/
  | invalid (summary : String)
  /-- Some targets are not linked to actual devices. -/
  | unlinked (components : String)
  /-- `executor.Execute` fails. -/
  | refused (summary : String)
  /-- `executor.Execute` succeeds. -/
  | started (executionId : Nat)

/-- The execution gets as far as `executor.Execute`. -/
def Execution.callsExecutor : Execution → Bool
  | refused _ | started _ => true
  | unresolved | invalid _ | unlinked _ => false

/-- What the environment answers to a step. -/
structure Env where
  now : Time := 0
  execution : Execution := .unresolved
  /-- The statement or call with a handled error succeeds. -/
  ok : Bool := true
  summary : String := ""

inductive LockKey where
  | rack (id : Uuid)
  | idempotency (key : Nat)
  deriving DecidableEq, Repr

inductive Locking where
  | keep
  | acquire (key : LockKey)
  | release

structure Move where
  next : Point
  write : Option Write := none
  locking : Locking := .keep
  /-- The task that is handed to `executor.Execute`. -/
  executes : Option Uuid := none
  /-- The task for which `CancelTask` returns success. -/
  cancels : Option Uuid := none
  /-- The task of a workflow that did not start or was terminated. -/
  stops : Option Uuid := none

/-! ## The code between two points -/

/-- Return an error from an execution. A surrounding transaction is rolled back. -/
def Scope.fail : Scope → Move
  | outside rest => { next := .promoteFunc rest }
  | inserted | persisted => { next := .idle, locking := .release }

variable (task : Task)

/-- A failed execution. Within a transaction the update of the status is rolled back
together with everything else. -/
def Scope.failTask (summary : String) : Scope → Move
  | outside rest => { next := .markFailed rest task.id summary }
  | inserted | persisted => { next := .idle, locking := .release }

def Scope.deferTask (update : TaskStatusUpdate) : Scope → Move
  | outside rest =>
    { next := .promoteFunc rest, write := some (.updateStatus [update]), locking := .release }
  | inserted => { next := .commit (.create (update.apply task)) (some (task.id, false)) }
  | persisted => { next := .commit (.updateStatus [update]) (some (task.id, true)) }

/-- `UpdateScheduledTask`, or the error that makes the caller terminate the execution. -/
def Scope.schedule (executionId : Nat) (ok : Bool) : Scope → Move
  | outside rest =>
    if ok then
      { next := .promoteFunc rest, write := some (.updateScheduled task.id executionId) }
    else { next := .compensate rest task.id true }
  | inserted =>
    if ok then
      { next := .commit (.create { task with executionId := some executionId })
          (some (task.id, false)) }
    else { next := .compensate [] task.id false, locking := .release }
  | persisted =>
    if ok then
      { next := .commit (.updateScheduled task.id executionId) (some (task.id, true)) }
    else { next := .compensate [] task.id true, locking := .release }

variable (config : ManagerConfig)

/-- `resolveAndExecuteTaskWithTransaction` up to the result of the execution. -/
def executeTask (env : Env) (scope : Scope) (task : Task) : Move :=
  match env.execution with
  | .unresolved => scope.fail
  | .invalid summary => scope.failTask task summary
  | .unlinked components =>
    let timeout := if config.queueTimeout = 0 then defaultQueueTimeout else config.queueTimeout
    { next := .deferUnlinked scope task (task.queueExpiresAt.getD (env.now + timeout)) components }
  | .refused summary =>
    { scope.failTask task summary with executes := some task.id, stops := some task.id }
  | .started executionId =>
    { next := .updateScheduled scope task executionId, executes := some task.id }

/-- The update of `deferUnlinkedTask` after the deadline. -/
def expiredLinkage (unlinked : String) : TaskStatusUpdate where
  id := task.id
  status := .terminated
  message := "Expired: target linkage unavailable before queue timeout: " ++ unlinked

/-- The limit of `deferUnlinkedTask` on the waiting tasks of a rack. -/
def ManagerConfig.limit : Nat :=
  if config.maxWaitingPerRack = 0 then defaultMaxWaitingPerRack else config.maxWaitingPerRack

variable (count : Nat) (task : Task) (deadline : Time) (unlinked : String)

/-- The update of `persistWaiting`. -/
def deferredUpdate : TaskStatusUpdate :=
  if config.limit ≤ count then
    { id := task.id
      status := .terminated
      message := "Terminated: rack waiting queue is full while target linkage is unavailable (" ++
        toString count ++ "/" ++ toString config.limit ++ " tasks): " ++ unlinked }
  else
    { id := task.id
      status := .waiting
      message := "Waiting for target linkage: " ++ unlinked
      queueExpiresAt := some deadline }

theorem id_deferredUpdate : (deferredUpdate config count task deadline unlinked).id = task.id := by
  unfold deferredUpdate
  split <;> rfl

theorem not_isActive_deferredUpdate :
    ¬(deferredUpdate config count task deadline unlinked).status.isActive := by
  unfold deferredUpdate
  split <;> exact Bool.false_ne_true

/-- The conflict check of `lockRackAndResolveConflict` on the active tasks of the rack. -/
def resolveConflict (req : Request) (task : Task) (activeTasks : List Task) : Move :=
  if builtinRule.conflicts task activeTasks then
    if req.conflictStrategy = .queue then { next := .countWaiting req task }
    else { next := .idle, locking := .release }
  else
    { next := .createTask { task with status := .pending, message := TaskStatus.pending.message } }

/-- `CreateTask`. Without an idempotency key the transaction commits here. -/
def admission : Move :=
  match task.idempotencyKey with
  | none =>
    { next := if task.status = .waiting then .idle else .execute (.outside []) task
      write := some (.create task)
      locking := .release }
  | some _ =>
    { next := if task.status = .waiting then .commit (.create task) none
        else .execute .inserted task }

def expireOrKeep (rackId : Uuid) (now : Time) (ok : Bool) (task : Task)
    (waiting candidates : List Task) : Move :=
  if task.queueExpiresAt.any (· < now) then
    { next := .splitExpired rackId now waiting candidates
      write := if ok then
          some (.updateStatus [⟨task.id, .terminated, "Expired: queue timeout reached", none⟩])
        else none }
  else { next := .splitExpired rackId now waiting (candidates ++ [task]) }

/-- The update of `CancelTask`. -/
def cancellation : TaskStatusUpdate where
  id := task.id
  status := .terminated
  message := "Cancelled by user"

variable (env : Env) (table : TaskTable)

/-- The next statement of a call, with the answers of its environment. -/
def Point.advance : Point → Option Move
  | .idle => none
  | .submit req task =>
    match req.idempotencyKey with
    | none => some { next := .lockRack req task }
    | some key =>
      match table.getTaskByIdempotencyKey key with
      | none => some { next := .lockIdempotencyKey key req task }
      | some existing =>
        if req.rackMatches existing && !existing.isScheduled &&
            existing.status ≠ .waiting then
          some { next := .lockIdempotencyKey key req task }
        else some { next := .idle }
  | .lockIdempotencyKey key req task =>
    some { next := .getTaskByIdempotencyKey key req task, locking := .acquire (.idempotency key) }
  | .getTaskByIdempotencyKey key req task =>
    match table.getTaskByIdempotencyKey key with
    | none => some { next := .lockRack req task }
    | some existing =>
      if req.rackMatches existing && !existing.isScheduled && existing.status ≠ .waiting then
        some { next := .execute .persisted existing }
      else some { next := .idle, locking := .release }
  | .lockRack req task =>
    some { next := .hasConflict req task, locking := .acquire (.rack task.rackId) }
  | .hasConflict req task =>
    some (resolveConflict req task (table.listActiveTasksForRack task.rackId))
  | .countWaiting req task =>
    if config.maxWaitingPerRack ≤ table.countWaitingTasksForRack task.rackId then
      some { next := .idle, locking := .release }
    else
      some { next := .createTask
              { task with
                status := .waiting
                message := TaskStatus.waiting.message
                queueExpiresAt := some (getReqExpiresAt config req env.now) } }
  | .createTask task => some (admission task)
  | .execute scope task => some (executeTask config env scope task)
  | .deferUnlinked scope task deadline unlinked =>
    if env.now < deadline then
      some { next := .countDeferred scope task deadline unlinked
             locking := .acquire (.rack task.rackId) }
    else some (scope.deferTask task (expiredLinkage task unlinked))
  | .countDeferred scope task deadline unlinked =>
    let count := table.countWaitingTasksForRack task.rackId
    some (scope.deferTask task (deferredUpdate config count task deadline unlinked))
  | .updateScheduled scope task executionId => some (scope.schedule task executionId env.ok)
  | .commit write executed =>
    if env.ok then some { next := .idle, write := some write, locking := .release }
    else
      match executed with
      | none => some { next := .idle, locking := .release }
      | some (id, taskAlreadyPersisted) =>
        some { next := .compensate [] id taskAlreadyPersisted, locking := .release }
  | .compensate rest id taskAlreadyPersisted =>
    -- `env.ok` says whether `executor.TerminateTask` succeeds.
    if env.ok then
      some { next := if taskAlreadyPersisted then .markFailed rest id env.summary
               else .promoteFunc rest
             stops := some id }
    else some { next := .promoteFunc rest }
  | .markFailed rest id summary =>
    some { next := .promoteFunc rest
           write := some (.updateStatus [⟨id, .failed, summary, none⟩]) }
  | .splitExpired rackId now (task :: waiting) candidates =>
    some (expireOrKeep rackId now env.ok task waiting candidates)
  | .splitExpired _ _ [] [] => some { next := .idle }
  | .splitExpired rackId _ [] candidates =>
    let active := table.listActiveTasksForRack rackId
    some { next := .promote rackId active (promotable active candidates) }
  | .promote _ _ toExecute =>
    some { next := .promoteFunc toExecute
           write := some (.updateStatus (toExecute.map promotion)) }
  | .promoteFunc [] => some { next := .idle }
  | .promoteFunc (task :: rest) =>
    -- `promoteTask` loads the task and its rack again.
    match table.find? task.id with
    | some task =>
      if env.ok then some { next := .execute (.outside rest) task }
      else some { next := .promoteFunc rest }
    | none => some { next := .promoteFunc rest }
  | .cancelTask task =>
    if task.isScheduled && !env.ok then some { next := .idle }
    else
      some { next := .idle
             write := some (.updateStatus [cancellation task])
             cancels := some task.id
             stops := if task.isScheduled then some task.id else none }

inductive Call where
  | submitTask (req : Request) (id : Uuid)
  | processRack (rackId : Uuid)
  | cancelTask (id : Uuid)

/-- The start of a call: `processRack` lists the waiting tasks and reads the clock,
`CancelTask` loads the task. -/
def Call.begin : Call → Move
  | submitTask req id => { next := .submit req (newTaskForRack req id) }
  | processRack rackId =>
    { next := .splitExpired rackId env.now (table.listWaitingTasksForRack rackId) [] }
  | cancelTask id =>
    match table.find? id with
    | none => { next := .idle }
    | some task =>
      if task.status = .terminated then { next := .idle, cancels := some id }
      else if task.status.isFinished then { next := .idle }
      else { next := .cancelTask task }

theorem Call.begin_quiet (call : Call) :
    (call.begin env table).write = none ∧ (call.begin env table).executes = none := by
  cases call with
  | submitTask | processRack => exact ⟨rfl, rfl⟩
  | cancelTask id =>
    simp only [Call.begin]
    repeat' split
    all_goals exact ⟨rfl, rfl⟩

/-! ## What the calls write -/

/-- The writes of a step, by the point it starts from. Most of them finish a task. -/
inductive Point.Writes (config : ManagerConfig) : Point → Write → Prop where
  | create (task : Task) : Point.Writes config (.createTask task) (.create task)
  | commit (write : Write) (executed : Option (Uuid × Bool)) :
      Point.Writes config (.commit write executed) write
  | promote (rackId : Uuid) (active toExecute : List Task) :
      Point.Writes config (.promote rackId active toExecute)
        (.updateStatus (toExecute.map promotion))
  | defer (rest : List Task) (task : Task) (deadline : Time) (unlinked : String) (count : Nat) :
      Point.Writes config (.countDeferred (.outside rest) task deadline unlinked)
        (.updateStatus [deferredUpdate config count task deadline unlinked])
  | schedule (point : Point) (id : Uuid) (executionId : Nat) :
      Point.Writes config point (.updateScheduled id executionId)
  | finish (point : Point) (update : TaskStatusUpdate) (finished : update.status.isFinished) :
      Point.Writes config point (.updateStatus [update])

/-- What a step does to the table and outside the process: its write, the task it hands to
the executor, and the task whose cancellation it reports. -/
inductive Point.Effect (config : ManagerConfig) (env : Env) :
    Point → Option Write → Option Uuid → Option Uuid → Prop where
  | quiet (point : Point) : Point.Effect config env point none none none
  | write {point : Point} {write : Write} (writes : point.Writes config write) :
      Point.Effect config env point (some write) none none
  | execute (scope : Scope) (task : Task) (calls : env.execution.callsExecutor) :
      Point.Effect config env (.execute scope task) none (some task.id) none
  | cancel (task : Task) :
      Point.Effect config env (.cancelTask task) (some (.updateStatus [cancellation task])) none
        (some task.id)

variable {move : Move}

def Point.cancelling : Point → Option Task
  | .cancelTask task => some task
  | _ => none

variable {config env} {point : Point}

theorem Point.advance_spec {table : TaskTable}
    (advanced : point.advance config env table = some move) :
    point.Effect config env move.write move.executes move.cancels ∧
      move.next.cancelling = none := by
  cases point with
  | idle => cases advanced
  | createTask task =>
    simp only [advance, admission] at advanced
    split at advanced <;> cases advanced
    · exact ⟨.write (.create task), by dsimp only; split <;> rfl⟩
    · exact ⟨.quiet _, by dsimp only; split <;> rfl⟩
  | execute scope task =>
    simp only [advance, executeTask] at advanced
    split at advanced
    next => cases scope <;> cases advanced <;> exact ⟨.quiet _, rfl⟩
    next => cases scope <;> cases advanced <;> exact ⟨.quiet _, rfl⟩
    next =>
      cases advanced
      exact ⟨.quiet _, rfl⟩
    next refused =>
      cases scope <;> cases advanced <;> exact ⟨.execute _ task (by rw [refused]; rfl), rfl⟩
    next started =>
      cases advanced
      exact ⟨.execute _ task (by rw [started]; rfl), rfl⟩
  | deferUnlinked scope task deadline unlinked =>
    simp only [advance] at advanced
    split at advanced
    next =>
      cases advanced
      exact ⟨.quiet _, rfl⟩
    next =>
      cases scope <;> cases advanced
      · exact ⟨.write (.finish _ _ rfl), rfl⟩
      all_goals exact ⟨.quiet _, rfl⟩
  | countDeferred scope task deadline unlinked =>
    cases scope <;> cases advanced
    · exact ⟨.write (.defer ..), rfl⟩
    all_goals exact ⟨.quiet _, rfl⟩
  | updateScheduled scope task executionId =>
    cases scope <;> simp only [advance, Scope.schedule] at advanced <;>
      split at advanced <;> cases advanced
    · exact ⟨.write (.schedule ..), rfl⟩
    all_goals exact ⟨.quiet _, rfl⟩
  | commit pending executed =>
    simp only [advance] at advanced
    repeat' split at advanced
    all_goals cases advanced
    · exact ⟨.write (.commit ..), rfl⟩
    all_goals exact ⟨.quiet _, rfl⟩
  | markFailed rest id summary =>
    cases advanced
    exact ⟨.write (.finish _ _ rfl), rfl⟩
  | splitExpired rackId now waiting candidates =>
    cases waiting with
    | nil => cases candidates <;> cases advanced <;> exact ⟨.quiet _, rfl⟩
    | cons task waiting =>
      simp only [advance, expireOrKeep] at advanced
      split at advanced <;> cases advanced
      · refine ⟨?_, rfl⟩
        split
        · exact .write (.finish _ _ rfl)
        · exact .quiet _
      · exact ⟨.quiet _, rfl⟩
  | promote rackId active toExecute =>
    cases advanced
    exact ⟨.write (.promote ..), rfl⟩
  | promoteFunc toExecute =>
    cases toExecute <;> simp only [advance] at advanced
    all_goals
      repeat' split at advanced
      all_goals
        cases advanced
        exact ⟨.quiet _, rfl⟩
  | cancelTask task =>
    simp only [advance] at advanced
    split at advanced <;> cases advanced
    · exact ⟨.quiet _, rfl⟩
    · exact ⟨.cancel task, rfl⟩
  | _ =>
    -- The other points read, lock and decide.
    simp only [advance, resolveConflict] at advanced
    repeat' split at advanced
    all_goals
      cases advanced
      exact ⟨.quiet _, rfl⟩

theorem Point.Effect.writes {write : Write} {executes cancels : Option Uuid}
    (effect : point.Effect config env (some write) executes cancels) :
    point.Writes config write := by
  cases effect with
  | write writes => exact writes
  | cancel task => exact .finish _ _ rfl

/-! ## Interleaved calls -/

namespace TaskManager

/-- The database, the calls in progress and what they have done outside the database. -/
structure State where
  table : TaskTable
  locks : Locks LockKey ProcId
  points : ProcId → Point
  /-- The tasks handed to `executor.Execute`, latest first. -/
  executions : List Uuid
  /-- The tasks for which `CancelTask` has returned success. -/
  cancelled : List Uuid
  /-- The tasks of the workflows that were started, were not terminated, and have not
  reported yet that they run. -/
  starting : List Uuid
  /-- The processes that have begun a call. -/
  calls : List ProcId

def State.initial : State where
  table := .empty
  locks := .free
  points := fun _ => .idle
  executions := []
  cancelled := []
  starting := []
  calls := []

/-- The locks after a step. A lock that another call holds blocks the step. -/
def Locking.after (locks : Locks LockKey ProcId) (proc : ProcId) :
    Locking → Option (Locks LockKey ProcId)
  | .keep => some locks
  | .acquire key => locks.acquire? proc key
  | .release => some (locks.release proc)

def tableAfter (table : TaskTable) : Option Write → Option TaskTable
  | none => some table
  | some write => write.commit table

/-- The state after a move, with the locks and the table that it leaves. -/
def State.after (state : State) (proc : ProcId) (move : Move) (locks : Locks LockKey ProcId)
    (table : TaskTable) : State where
  table := table
  locks := locks
  points := Function.update state.points proc move.next
  executions := move.executes.toList ++ state.executions
  cancelled := move.cancels.toList ++ state.cancelled
  starting := (move.executes.toList ++ state.starting).diff move.stops.toList
  calls := state.calls.insert proc

/-- A move that needs a lock waits for it. -/
def State.perform (state : State) (proc : ProcId) (move : Move) : Option State :=
  (Locking.after state.locks proc move.locking).bind fun locks =>
    (tableAfter state.table move.write).map (state.after proc move locks)

/-- The state after a workflow has reported. -/
def State.afterReport (state : State) (update : TaskStatusUpdate) (table : TaskTable) : State :=
  { state with
    table
    starting := state.starting.diff (if update.status = .running then [update.id] else []) }

inductive Action where
  | begin (proc : ProcId) (call : Call) (env : Env)
  | advance (proc : ProcId) (env : Env)
  /-- A call breaks off: a statement fails, its context ends, or the service stops. The
  open transaction is rolled back. -/
  | abort (proc : ProcId)
  | reportStatus (update : TaskStatusUpdate)

/-- The statuses that workflows report: `updateRunningTaskStatus` and
`updateFinishedTaskStatus`. -/
def reported : TaskStatus → Bool
  | .running | .completed | .failed => true
  | .unknown | .waiting | .pending | .terminated => false

/-- One statement of a call, its begin or end, or a report. -/
def step (config : ManagerConfig) : Action → State → Option State
  | .begin proc call env, state =>
    match state.points proc with
    | .idle => state.perform proc (call.begin env state.table)
    | _ => none
  | .advance proc env, state =>
    ((state.points proc).advance config env state.table).bind (state.perform proc)
  | .abort proc, state => state.perform proc { next := .idle, locking := .release }
  | .reportStatus update, state =>
    if update.id ∈ state.executions ∧ reported update.status then
      (tableAfter state.table (some (.updateStatus [update]))).map (state.afterReport update)
    else none

def machine (config : ManagerConfig) : Machine Action State := ⟨step config⟩

def advances (proc : ProcId) (count : Nat) : List Action :=
  .replicate count (.advance proc {})

/-! ## What a step can do -/

inductive Takes (config : ManagerConfig) (state : State) (proc : ProcId) :
    Action → Move → Prop where
  | begin {call : Call} {env : Env} (idle : state.points proc = .idle) :
      Takes config state proc (.begin proc call env) (call.begin env state.table)
  | advance {env : Env} {move : Move}
      (advanced : (state.points proc).advance config env state.table = some move) :
      Takes config state proc (.advance proc env) move
  | abort : Takes config state proc (.abort proc) { next := .idle, locking := .release }

variable {state next : State} {action : Action}

theorem step_cases (moved : step config action state = some next) :
    (∃ proc move, Takes config state proc action move ∧ state.perform proc move = some next) ∨
      ∃ update table, action = .reportStatus update ∧
        (Write.updateStatus [update]).commit state.table = some table ∧
          next = state.afterReport update table := by
  cases action with
  | begin proc call env =>
    simp only [step] at moved
    split at moved
    next idle => exact .inl ⟨proc, _, .begin idle, moved⟩
    next => cases moved
  | advance proc env =>
    obtain ⟨move, advanced, performed⟩ := Option.bind_eq_some_iff.mp moved
    exact .inl ⟨proc, move, .advance advanced, performed⟩
  | abort proc => exact .inl ⟨proc, _, .abort, moved⟩
  | reportStatus update =>
    simp only [step] at moved
    split at moved
    next =>
      obtain ⟨table, committed, rfl⟩ := Option.map_eq_some_iff.mp moved
      exact .inr ⟨update, table, rfl, committed, rfl⟩
    next => cases moved

variable {proc : ProcId}

theorem Takes.writes {write : Write} (takes : Takes config state proc action move)
    (wrote : move.write = some write) :
    (∃ env, action = .advance proc env) ∧ (state.points proc).Writes config write := by
  cases takes with
  | begin idle => cases (Call.begin_quiet ..).1.symm.trans wrote
  | @advance env move advanced => exact ⟨⟨env, rfl⟩, (wrote ▸ (advance_spec advanced).1).writes⟩
  | abort => cases wrote

theorem perform_cases (performed : state.perform proc move = some next) :
    ∃ locks table, Locking.after state.locks proc move.locking = some locks ∧
      tableAfter state.table move.write = some table ∧
        next = state.after proc move locks table := by
  obtain ⟨locks, locked, performed⟩ := Option.bind_eq_some_iff.mp performed
  obtain ⟨table, committed, rfl⟩ := Option.map_eq_some_iff.mp performed
  exact ⟨locks, table, locked, committed, rfl⟩

theorem stored_of_tableAfter {table next : TaskTable} {write : Option Write} {task : Task}
    (committed : tableAfter table write = some next) (stored : table.Stored task) :
    next.Stored task := by
  cases write with
  | none =>
    cases committed
    exact stored
  | some write => exact Write.stored_of_commit committed stored

theorem Locking.holds_after {locking : Locking} {locks newLocks : Locks LockKey ProcId}
    {other : ProcId} {key : LockKey} (locked : Locking.after locks proc locking = some newLocks)
    (ne : other ≠ proc) (holds : locks key = some other) : newLocks key = some other := by
  cases locking with
  | keep =>
    cases locked
    exact holds
  | acquire wanted => exact Locks.holds_of_acquire? locked holds
  | release =>
    cases locked
    exact Locks.holds_release ne holds

end TaskManager

end Flow
