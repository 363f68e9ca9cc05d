import BareMetalManager.Flow.DispatchSteps

/-!
# Dispatchers, operators and child tasks at once

Any number of dispatchers and operators work on one operation run while its child tasks proceed.
The transactions of attempts and controls lock the row of the run, and attempts lock the targets
of the current phase, so each is one step. Submissions and the writes of their results follow the
commit, one by one. An attempt reads the child tasks one after the other; a status that has
changed since then is one that was not finished.

The calls have identities of type `π`.
-/

namespace Flow.OperationRunManager

/-- Where a call stands: what it does next. -/
inductive Point where
  | idle
  /-- `again` is set for the first of the two attempts of `dispatchRun`. -/
  | dispatchRunAttempt (now : Time) (again : Bool)
  | submit (now : Time) (again retryDispatch : Bool) (claimed : List OperationRunTarget)
  /-- A claimed target was submitted. `target` is to be written. -/
  | updateTargetAfterSubmit (now : Time) (again retryDispatch : Bool)
      (claim target : OperationRunTarget) (startedActiveTask : Bool)
      (rest : List OperationRunTarget)
  /-- `cancelTasks`, after the transaction of `Cancel`. -/
  | listTargets
  | cancelTasks (targets : List OperationRunTarget)
  deriving DecidableEq

/-- The database, the clock, the calls in progress and what they have done outside the
database. -/
structure State (π : Type) where
  clock : Time
  run : OperationRun
  targets : TargetTable
  tasks : Uuid → TaskStatus
  points : π → Point
  /-- The targets of the calls of `SubmitTask`, latest first. -/
  calls : List Uuid
  /-- The tasks that `SubmitTask` has returned. -/
  submitted : List Uuid
  /-- The tasks that were passed to the canceller. -/
  passed : List Uuid

/-- `Create` counts the phases of the planned targets. -/
def phaseCount (targets : List OperationRunTarget) : Nat :=
  targets.foldl (fun totalPhases target => max totalPhases (target.phaseIndex + 1)) 0

def State.created {π : Type} (totalPhases : Nat) (targets : TargetTable) : State π where
  clock := 0
  run :=
    { status := .pending
      statusReason := .none
      statusMessage := ""
      currentPhaseIndex := 0
      totalPhases
      startedAt := none
      finishedAt := none }
  targets
  tasks := fun _ => .unknown
  points := fun _ => .idle
  calls := []
  submitted := []
  passed := []

inductive Action (π : Type) where
  | tick (elapsed : Nat)
  | updateTaskStatus (taskId : Uuid) (status : TaskStatus)
  | dispatchRun (proc : π)
  | dispatchRunAttempt (proc : π) (getTask : Uuid → TaskStatus × String)
  | submitTask (proc : π) (result : SubmitResult)
  | updateTargetAfterSubmit (proc : π) (ok : Bool)
  | endAttempt (proc : π)
  | pause
  | continueRun (continuation : Continuation)
  | cancel (proc : π) (reason : String)
  | listTargets (proc : π) (ok : Bool)
  | cancelTask (proc : π)
  | abort (proc : π)

variable (tasks : Uuid → TaskStatus) (targets : List OperationRunTarget)
    (getTask : Uuid → TaskStatus × String)

/-- `GetTask` returned statuses that the child tasks had: finished ones are final. -/
def Truthful : Prop :=
  ∀ target ∈ targets, ∀ taskId ∈ target.taskId,
    (getTask taskId).1.isFinished → (getTask taskId).1 = tasks taskId

instance : Decidable (Truthful tasks targets getTask) :=
  inferInstanceAs (Decidable (∀ target ∈ targets, _))

variable {π : Type} [DecidableEq π]

def State.goto (state : State π) (proc : π) (point : Point) : State π :=
  { state with points := Function.update state.points proc point }

/-- A property of where the calls are, when one of them goes on. -/
@[elab_as_elim]
theorem State.forall_goto {state : State π} {proc : π} {point : Point} {motive : π → Point → Prop}
    (mine : motive proc point) (others : ∀ other ≠ proc, motive other (state.points other))
    (other : π) : motive other ((state.goto proc point).points other) :=
  (Function.forall_update_iff state.points motive).mpr ⟨mine, others⟩ other

/-- The child task that `cancelTasks` passes to the canceller for a target. -/
def taskToCancel (target : OperationRunTarget) : Option Uuid :=
  if target.status.isTerminal then none else target.taskId

variable (settings : RunSettings)

/-- The transaction of an attempt. A run that is not runnable any more is left alone. -/
def attempt (state : State π) (proc : π) (now : Time) (again : Bool)
    (getTask : Uuid → TaskStatus × String) : Option (State π) :=
  if state.run.status.isRunnable then
    if Truthful state.tasks (state.targets.ofPhase state.run.currentPhaseIndex) getTask then
      let dispatched :=
        dispatchRunInTransaction settings getTask now state.run state.targets
      some
        ({ state with
            run := dispatched.run
            targets := state.targets.update dispatched.targets }.goto proc
          (.submit now again false dispatched.claimed))
    else none
  else some (state.goto proc .idle)

/-- One statement of a dispatcher, or a task that moves on. -/
def step : Action π → State π → Option (State π)
  | .tick elapsed, state => some { state with clock := state.clock + elapsed }
  | .updateTaskStatus taskId status, state =>
    if (state.tasks taskId).isFinished then none
    else some { state with tasks := Function.update state.tasks taskId status }
  | .dispatchRun proc, state =>
    match state.points proc with
    | .idle => some (state.goto proc (.dispatchRunAttempt state.clock true))
    | _ => none
  | .dispatchRunAttempt proc getTask, state =>
    match state.points proc with
    | .dispatchRunAttempt now again => attempt settings state proc now again getTask
    | _ => none
  | .submitTask proc result, state =>
    match state.points proc, settings.options with
    | .submit now again retryDispatch (claim :: rest), .ok options =>
      if result.isSingle then
        let (target, started) := submitTarget options.conflictPolicy claim now result
        some
          ({ state with
              calls := claim.id :: state.calls
              submitted := result.tasks ++ state.submitted }.goto proc
            (.updateTargetAfterSubmit now again retryDispatch claim target started rest))
      else none
    | _, _ => none
  | .updateTargetAfterSubmit proc ok, state =>
    match state.points proc with
    | .updateTargetAfterSubmit now again retryDispatch _ target started rest =>
      some
        ({ state with
            targets := if ok then state.targets.update [target] else state.targets }.goto proc
          (.submit now again (retryDispatch || ok && !started) rest))
    | _ => none
  | .endAttempt proc, state =>
    match state.points proc with
    | .submit now again retryDispatch [] =>
      some (state.goto proc
        (if again && retryDispatch then .dispatchRunAttempt now false else .idle))
    | _ => none
  | .pause, state =>
    match pauseRun state.run with
    | .ok run => some { state with run }
    | .error _ => some state
  | .continueRun continuation, state =>
    match continueOperationRun continuation state.clock state.run state.targets with
    | .ok run => some { state with run }
    | .error _ => some state
  | .cancel proc reason, state =>
    match state.points proc with
    | .idle =>
      if state.run.status.isTerminal then some state
      else
        some ({ state with run := cancelRun reason state.clock state.run }.goto proc
          .listTargets)
    | _ => none
  | .listTargets proc ok, state =>
    match state.points proc with
    | .listTargets =>
      some (state.goto proc
        (if ok then .cancelTasks (state.targets.ofPhase state.run.currentPhaseIndex)
          else .idle))
    | _ => none
  | .cancelTask proc, state =>
    match state.points proc with
    | .cancelTasks [] => some (state.goto proc .idle)
    | .cancelTasks (target :: targets) =>
      some
        ({ state with passed := (taskToCancel target).toList ++ state.passed }.goto proc
          (.cancelTasks targets))
    | _ => none
  | .abort proc, state => some (state.goto proc .idle)

def machine : Machine (Action π) (State π) := ⟨step settings⟩

/-! ## What a step can do -/

inductive Takes (settings : RunSettings) (state : State π) : Action π → State π → Prop where
  | tick (elapsed : Nat) :
      Takes settings state (.tick elapsed) { state with clock := state.clock + elapsed }
  | updateTaskStatus {taskId : Uuid} {status : TaskStatus}
      (unfinished : ¬(state.tasks taskId).isFinished) :
      Takes settings state (.updateTaskStatus taskId status)
        { state with tasks := Function.update state.tasks taskId status }
  | pause {run : OperationRun} (paused : pauseRun state.run = .ok run) :
      Takes settings state .pause { state with run }
  | continueRun {continuation : Continuation} {run : OperationRun}
      (continued : continueOperationRun continuation state.clock state.run state.targets =
        .ok run) :
      Takes settings state (.continueRun continuation) { state with run }
  /-- A control is refused, or finds nothing to do. -/
  | refuse {action : Action π} : Takes settings state action state
  | dispatchRun {proc : π} (idle : state.points proc = .idle) :
      Takes settings state (.dispatchRun proc)
        (state.goto proc (.dispatchRunAttempt state.clock true))
  | attempt {proc : π} {getTask : Uuid → TaskStatus × String} {now : Time} {again : Bool}
      (atPoint : state.points proc = .dispatchRunAttempt now again)
      (runnable : state.run.status.isRunnable)
      (truthful : Truthful state.tasks (state.targets.ofPhase state.run.currentPhaseIndex)
        getTask) :
      Takes settings state (.dispatchRunAttempt proc getTask)
        ({ state with
            run := (dispatchRunInTransaction settings getTask now state.run state.targets).run
            targets := state.targets.update
              (dispatchRunInTransaction settings getTask now state.run state.targets).targets }.goto
          proc (.submit now again false
            (dispatchRunInTransaction settings getTask now state.run state.targets).claimed))
  | skip {proc : π} {getTask : Uuid → TaskStatus × String} {now : Time} {again : Bool}
      (atPoint : state.points proc = .dispatchRunAttempt now again) :
      Takes settings state (.dispatchRunAttempt proc getTask) (state.goto proc .idle)
  | submitTask {proc : π} {result : SubmitResult} {now : Time} {again retryDispatch : Bool}
      {claim : OperationRunTarget} {rest : List OperationRunTarget} (policy : ConflictRetryPolicy)
      (atPoint : state.points proc = .submit now again retryDispatch (claim :: rest))
      (single : result.isSingle) :
      Takes settings state (.submitTask proc result)
        ({ state with
            calls := claim.id :: state.calls
            submitted := result.tasks ++ state.submitted }.goto proc
          (.updateTargetAfterSubmit now again retryDispatch claim
            (submitTarget policy claim now result).1 (submitTarget policy claim now result).2 rest))
  | updateTargetAfterSubmit {proc : π} {ok : Bool} {now : Time} {again retryDispatch : Bool}
      {claim target : OperationRunTarget} {started : Bool} {rest : List OperationRunTarget}
      (atPoint : state.points proc =
        .updateTargetAfterSubmit now again retryDispatch claim target started rest) :
      Takes settings state (.updateTargetAfterSubmit proc ok)
        ({ state with
            targets := if ok then state.targets.update [target] else state.targets }.goto proc
          (.submit now again (retryDispatch || ok && !started) rest))
  | endAttempt {proc : π} {now : Time} {again retryDispatch : Bool}
      (atPoint : state.points proc = .submit now again retryDispatch []) :
      Takes settings state (.endAttempt proc)
        (state.goto proc
          (if again && retryDispatch then .dispatchRunAttempt now false else .idle))
  | cancel {proc : π} {reason : String} (idle : state.points proc = .idle)
      (active : ¬state.run.status.isTerminal) :
      Takes settings state (.cancel proc reason)
        ({ state with run := cancelRun reason state.clock state.run }.goto proc .listTargets)
  | listTargets {proc : π} {ok : Bool} (atPoint : state.points proc = .listTargets) :
      Takes settings state (.listTargets proc ok)
        (state.goto proc
          (if ok then .cancelTasks (state.targets.ofPhase state.run.currentPhaseIndex) else .idle))
  | cancelTask {proc : π} {target : OperationRunTarget} {targets : List OperationRunTarget}
      (atPoint : state.points proc = .cancelTasks (target :: targets)) :
      Takes settings state (.cancelTask proc)
        ({ state with passed := (taskToCancel target).toList ++ state.passed }.goto proc
          (.cancelTasks targets))
  | endCancel {proc : π} (atPoint : state.points proc = .cancelTasks []) :
      Takes settings state (.cancelTask proc) (state.goto proc .idle)
  | abort (proc : π) : Takes settings state (.abort proc) (state.goto proc .idle)

theorem takes_of_step {settings : RunSettings} {state next : State π} {action : Action π}
    (moved : step settings action state = some next) : Takes settings state action next := by
  cases action
  all_goals simp only [step] at moved
  case tick elapsed =>
    cases moved
    exact .tick elapsed
  case updateTaskStatus taskId status =>
    obtain ⟨unfinished, ⟨⟩⟩ := Option.ite_none_left_eq_some.mp moved
    exact .updateTaskStatus unfinished
  case dispatchRun proc =>
    split at moved <;> cases moved
    next idle => exact .dispatchRun idle
  case dispatchRunAttempt proc getTask =>
    split at moved
    next now again atPoint =>
      unfold attempt at moved
      split at moved
      next runnable =>
        obtain ⟨truthful, ⟨⟩⟩ := Option.ite_none_right_eq_some.mp moved
        exact .attempt atPoint runnable truthful
      next =>
        cases moved
        exact .skip atPoint
    next => cases moved
  case submitTask proc result =>
    split at moved
    next now again retryDispatch claim rest options atPoint _ =>
      obtain ⟨single, ⟨⟩⟩ := Option.ite_none_right_eq_some.mp moved
      exact .submitTask options.conflictPolicy atPoint single
    next => cases moved
  case updateTargetAfterSubmit proc ok =>
    split at moved <;> cases moved
    next atPoint => exact .updateTargetAfterSubmit atPoint
  case endAttempt proc =>
    split at moved <;> cases moved
    next atPoint => exact .endAttempt atPoint
  case pause =>
    split at moved <;> cases moved
    next run paused => exact .pause paused
    next => exact .refuse
  case continueRun continuation =>
    split at moved <;> cases moved
    next run continued => exact .continueRun continued
    next => exact .refuse
  case cancel proc reason =>
    split at moved
    next idle =>
      split at moved <;> cases moved
      next => exact .refuse
      next active => exact .cancel idle active
    next => cases moved
  case listTargets proc ok =>
    split at moved <;> cases moved
    next atPoint => exact .listTargets atPoint
  case cancelTask proc =>
    split at moved <;> cases moved
    next atPoint => exact .endCancel atPoint
    next atPoint => exact .cancelTask atPoint
  case abort proc =>
    cases moved
    exact .abort proc

end Flow.OperationRunManager
