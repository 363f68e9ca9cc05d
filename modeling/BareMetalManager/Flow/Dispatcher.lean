import BareMetalManager.Flow.OperationRun
import BareMetalManager.Lib.Transition

/-!
# The dispatcher of operation runs

One attempt of the dispatcher on a run, from `operationrun/manager/dispatcher` of
`rest-api/flow/internal`: a transaction reconciles the targets of the current phase with their
child tasks, decides the next transition of the run and claims targets, and after the commit each
claimed target is submitted and its result written. The operator's controls are those of
`operationrun/manager/manual_controls.go`.
-/

namespace Flow

open List

abbrev TargetTable := Table OperationRunTarget.id

/-- What the dispatcher knows of a run besides its lifecycle columns. -/
structure RunSettings where
  /-- The decoded options, or the error of `decodeRunConfiguration` or a policy. -/
  options : Except String RunOptions
  /-- The error of `operationRequestForTarget`, which depends on the template only. -/
  requestError : Option String := none
  claimLease : Nat := 30 * second

/-! ## Rows -/

/-- `UpdateTargetState` on a row. -/
def OperationRunTarget.withState (row target : OperationRunTarget) : OperationRunTarget :=
  { row with
    taskId := target.taskId
    status := target.status
    message := target.message
    retryAfter := target.retryAfter
    retryState := target.retryState }

variable (targets : List OperationRunTarget) (row : OperationRunTarget)

/-- The updates of `persistDispatchState` on a row. Targets that the transaction did not
change are written as they were read. -/
def applyStates : OperationRunTarget :=
  targets.foldl (fun row target => if row.id = target.id then row.withState target else row) row

theorem id_applyStates : (applyStates targets row).id = row.id := by
  induction targets generalizing row with
  | nil => rfl
  | cons target targets ih =>
    rw [applyStates, foldl_cons, ← applyStates, ih]
    split <;> rfl

theorem phaseIndex_applyStates : (applyStates targets row).phaseIndex = row.phaseIndex := by
  induction targets generalizing row with
  | nil => rfl
  | cons target targets ih =>
    rw [applyStates, foldl_cons, ← applyStates, ih]
    split <;> rfl

variable {targets row} {target : OperationRunTarget}

theorem applyStates_of_forall_ne (ne : ∀ target ∈ targets, target.id ≠ row.id) :
    applyStates targets row = row := by
  induction targets with
  | nil => rfl
  | cons target targets ih =>
    rw [applyStates, foldl_cons, ← applyStates, if_neg (ne target mem_cons_self).symm]
    exact ih fun other otherMem => ne other (mem_cons_of_mem _ otherMem)

theorem applyStates_of_mem (nodup : (targets.map OperationRunTarget.id).Nodup)
    (targetMem : target ∈ targets) (sameId : target.id = row.id) :
    applyStates targets row = row.withState target := by
  induction targets with
  | nil => cases targetMem
  | cons head targets ih =>
    rw [map_cons, nodup_cons] at nodup
    rw [applyStates, foldl_cons, ← applyStates]
    obtain rfl | targetMem := mem_cons.mp targetMem
    · rw [if_pos sameId.symm]
      refine applyStates_of_forall_ne fun other otherMem same => nodup.1 ?_
      exact mem_map.mpr ⟨other, otherMem, same.trans sameId.symm⟩
    · have ne : row.id ≠ head.id := by
        intro same
        exact nodup.1 (mem_map.mpr ⟨target, targetMem, sameId.trans same⟩)
      rw [if_neg ne]
      exact ih nodup.2 targetMem

namespace TargetTable

/-- `LockOperationRunTargets`. -/
def ofPhase (table : TargetTable) (phaseIndex : Nat) : List OperationRunTarget :=
  table.rows.filter fun target => target.phaseIndex = phaseIndex

variable {table : TargetTable} {phaseIndex : Nat}

theorem mem_ofPhase :
    target ∈ table.ofPhase phaseIndex ↔ target ∈ table.rows ∧ target.phaseIndex = phaseIndex := by
  simp only [ofPhase, mem_filter, decide_eq_true_eq]

theorem nodup_ofPhase (table : TargetTable) (phaseIndex : Nat) :
    ((table.ofPhase phaseIndex).map OperationRunTarget.id).Nodup :=
  table.keysNodup.sublist (filter_sublist.map _)

/-- `GetTargetPhaseAggregate`: the outcome counts of the earlier phases. -/
def completedStats (table : TargetTable) (currentPhaseIndex : Nat) : PhaseStats :=
  ({ phaseIndex := currentPhaseIndex - 1 } : PhaseStats).addTargets
    (table.rows.filter fun target => target.phaseIndex < currentPhaseIndex)

def update (table : TargetTable) (targets : List OperationRunTarget) : TargetTable :=
  table.modify (applyStates targets) (id_applyStates targets)

theorem ofPhase_update (table : TargetTable) (targets : List OperationRunTarget)
    (phaseIndex : Nat) :
    (table.update targets).ofPhase phaseIndex =
      (table.ofPhase phaseIndex).map (applyStates targets) := by
  simp only [ofPhase, update, Table.modify, filter_map, Function.comp_def, phaseIndex_applyStates]

theorem mem_ofPhase_update :
    target ∈ (table.update targets).ofPhase phaseIndex ↔
      ∃ row ∈ table.ofPhase phaseIndex, applyStates targets row = target := by
  rw [ofPhase_update, mem_map]

def summary (table : TargetTable) (run : OperationRun) : TargetPhaseSummary :=
  .new run.currentPhaseIndex run.totalPhases (table.completedStats run.currentPhaseIndex)
    (table.ofPhase run.currentPhaseIndex)

end TargetTable

/-! ## Reconciliation -/

/-- Copy what `GetTask` returned for the child task into the target. -/
def reconcileTarget (getTask : Uuid → TaskStatus × String) (target : OperationRunTarget) :
    OperationRunTarget :=
  match target.taskId with
  | none => target
  | some taskId =>
    if target.status.isTerminal then target
    else
      { target with
        status := .fromTaskStatus (getTask taskId).1
        message := (getTask taskId).2 }

/-! ## Conflict policy -/

/-- `conflictRetryTimedOut`: a target has been blocked for the whole retry window. -/
def conflictRetryTimedOut (targets : List OperationRunTarget) (policy : ConflictRetryPolicy)
    (now : Time) : Option String :=
  (targets.find? fun target =>
    target.status == .blocked &&
      ((target.retryState.getD {}).blockedSince.any fun since =>
        since + policy.retryTimeout ≤ now)).map fun target =>
    "target " ++ toString target.id ++ " blocked by rack conflict for " ++
      toString policy.retryTimeout

/-- The back-off after another block: the first delay, then twice the last one up to the
largest. -/
def ConflictRetryState.next (policy : ConflictRetryPolicy) (now : Time)
    (state : ConflictRetryState) : ConflictRetryState where
  blockedSince := some (state.blockedSince.getD now)
  attempts := state.attempts + 1
  lastRetryDelaySeconds :=
    if state.lastRetryDelaySeconds = 0 then policy.initialRetryDelay / second
    else min (state.lastRetryDelaySeconds * 2) (policy.maxRetryDelay / second)

def blockTarget (target : OperationRunTarget) (policy : ConflictRetryPolicy) (now : Time)
    (message : String) : OperationRunTarget :=
  let state := (target.retryState.getD {}).next policy now
  target.block message (now + state.lastRetryDelaySeconds * second) state

/-! ## Decision -/

inductive RunTransition where
  | fail (message : String)
  | complete (message : String)
  | completeWithFailures (message : String)
  | pause (reason : OperationRunStatusReason) (message : String)
  | start (message : String)

def RunTransition.apply (run : OperationRun) (now : Time) : RunTransition → OperationRun
  | fail message => run.fail now message
  | complete message => run.complete now message
  | completeWithFailures message => run.completeWithFailures now message
  | pause reason message => run.pause reason message
  | start message => run.start now message

inductive DispatchDecision where
  | stop (transition : RunTransition)
  /-- Move on to the next phase, whose targets are claimed by the next pass. -/
  | advance (transition : RunTransition)
  | claim (transition : RunTransition)

def outcomeTransition : OperationRunStatus → RunTransition
  | .failed => .fail OperationRunStatus.failed.message
  | .completedWithFailures =>
    .completeWithFailures OperationRunStatus.completedWithFailures.message
  | status => .complete status.message

/-- `phasePolicyRuntime.evaluate`. -/
def phaseDecision (autoAdvance : Bool) (summary : TargetPhaseSummary) : DispatchDecision :=
  if !summary.currentPhaseTerminal || !summary.hasNextPhase then .claim (.start "")
  else if autoAdvance then .advance (.start "advanced to next phase")
  else .stop (.pause .phaseGate "waiting for phase advance")

/-- `decide` on a run with a valid configuration. The run is not terminal: `LockRunnable`
selects pending and running runs. -/
def decideDispatch (options : RunOptions) (run : OperationRun) (summary : TargetPhaseSummary)
    (now : Time) : DispatchDecision :=
  if summary.currentPhaseEmpty && 0 < run.totalPhases then
    .stop (.fail ("operation run phase " ++ toString run.currentPhaseIndex ++
      " has no targets; persisted phase plan is invalid"))
  else if summary.selectedTargetCount = 0 then .stop (.fail "operation run has no targets")
  else
    match summary.terminalRunStatus with
    | some status => .stop (outcomeTransition status)
    | none =>
      match conflictRetryTimedOut summary.currentPhaseTargets options.conflictPolicy now with
      | some message => .stop (.pause .conflictRetryTimeout message)
      | none =>
        match summary.evaluateSafetyGates options.gates with
        | some message => .stop (.pause .safetyGate message)
        | none => phaseDecision options.autoAdvance summary

/-! ## Claims -/

def targetConsumesQuota (target : OperationRunTarget) (now : Time) : Bool :=
  match target.status with
  | .submitted => target.taskId.isSome
  | .claimed => target.retryAfter.any fun lease => now < lease
  | .pending | .blocked | .completed | .failed | .terminated | .skipped => false

def targetReadyForSubmission (target : OperationRunTarget) (now : Time) : Bool :=
  match target.status with
  | .pending => true
  | .blocked | .claimed => target.retryAfter.all fun retryAfter => retryAfter ≤ now
  | .submitted => target.taskId.isNone
  | .completed | .failed | .terminated | .skipped => false

/-- The loop of `claim` over the candidates: the targets afterwards, and the claimed ones.
Targets that are not ready are passed over. -/
def claimTargets (settings : RunSettings) (now : Time) :
    (available : Nat) → List OperationRunTarget → List OperationRunTarget × List OperationRunTarget
  | _, [] => ([], [])
  | available, target :: targets =>
    if 0 < available && targetReadyForSubmission target now then
      match settings.requestError with
      | some message =>
        let (after, claimed) := claimTargets settings now available targets
        (target.fail message :: after, claimed)
      | none =>
        let leased := target.claim (now + settings.claimLease) "claimed for submission"
        let (after, claimed) := claimTargets settings now (available - 1) targets
        (leased :: after, leased :: claimed)
    else
      let (after, claimed) := claimTargets settings now available targets
      (target :: after, claimed)

/-- `submittedStatusMessage`, `waitingTargetsStatusMessage` and `claimStatusMessage`. -/
def claimStatusMessage (submitted blocked : Nat) : String :=
  let submittedMsg :=
    match submitted with
    | 0 => ""
    | 1 => "submitted 1 operation run target"
    | count => "submitted " ++ toString count ++ " operation run targets"
  let blockedMsg :=
    match blocked with
    | 0 => ""
    | 1 => "1 target waiting on rack conflicts"
    | count => toString count ++ " targets waiting on rack conflicts"
  if submittedMsg ≠ "" ∧ blockedMsg ≠ "" then submittedMsg ++ "; " ++ blockedMsg
  else if submittedMsg ≠ "" then submittedMsg
  else blockedMsg

/-- What the transaction of an attempt commits, and the targets to submit after it. -/
structure Dispatched where
  run : OperationRun
  targets : List OperationRunTarget
  claimed : List OperationRunTarget

/-- `claim`. -/
def claim (settings : RunSettings) (options : RunOptions) (run : OperationRun)
    (targets : List OperationRunTarget) (now : Time) : Dispatched :=
  let active := targets.countP fun target => targetConsumesQuota target now
  let blocked := targets.countP fun target =>
    !targetReadyForSubmission target now && target.status == .blocked
  if options.maxConcurrentTargets ≤ active then
    { run := { run with statusMessage := "waiting for active targets quota" }
      targets
      claimed := [] }
  else
    let (after, claimed) :=
      claimTargets settings now (options.maxConcurrentTargets - active) targets
    let message := claimStatusMessage claimed.length blocked
    { run := if message = "" then run else { run with statusMessage := message }
      targets := after
      claimed }

/-- `dispatchRunInTransaction` on a runnable run, with what `GetTask` returned for the child
tasks. -/
def dispatchRunInTransaction (settings : RunSettings) (getTask : Uuid → TaskStatus × String)
    (now : Time) (run : OperationRun) (table : TargetTable) : Dispatched :=
  match settings.options with
  | .error message =>
    { run := run.fail now ("invalid operation run configuration: " ++ message)
      targets := []
      claimed := [] }
  | .ok options =>
    let targets := (table.ofPhase run.currentPhaseIndex).map (reconcileTarget getTask)
    let summary :=
      .new run.currentPhaseIndex run.totalPhases
        (table.completedStats run.currentPhaseIndex) targets
    match decideDispatch options run summary now with
    | .stop transition => { run := transition.apply run now, targets, claimed := [] }
    | .advance transition =>
      { run :=
          transition.apply { run with currentPhaseIndex := run.currentPhaseIndex + 1 } now
        targets
        claimed := [] }
    | .claim transition => claim settings options (transition.apply run now) targets now

/-! ## Submission -/

/-- What `SubmitTask` returns. -/
inductive SubmitResult where
  | taskIds (ids : List Uuid)
  | rackConflict (message : String)
  | error (message : String)
  deriving DecidableEq, Repr

/-- `uuid.Nil`. -/
def nilUuid : Uuid := 0

def SubmitResult.tasks : SubmitResult → List Uuid
  | taskIds ids => ids
  | rackConflict _ | error _ => []

/-- The request names its rack, so that `SubmitTask` returns one task or an error. -/
def SubmitResult.isSingle : SubmitResult → Bool
  | taskIds [taskId] => taskId ≠ nilUuid
  | taskIds _ => false
  | rackConflict _ | error _ => true

/-- The target after `submit`, and whether it started an active task. -/
def submitTarget (policy : ConflictRetryPolicy) (target : OperationRunTarget) (now : Time) :
    SubmitResult → OperationRunTarget × Bool
  | .taskIds [taskId] =>
    if taskId = nilUuid then
      (target.fail "task submission did not return exactly one task", false)
    else (target.submit taskId "submitted", true)
  | .taskIds _ => (target.fail "task submission did not return exactly one task", false)
  | .rackConflict message => (blockTarget target policy now message, false)
  | .error message => (target.fail message, false)

/-! ## Controls -/

inductive ControlError where
  | terminalState
  | notPaused
  | atPhaseGate
  | cannotResume
  | notAtPhaseGate
  | phaseNotComplete
  | finalPhase
  | unexpectedPhase
  deriving DecidableEq, Repr

/-- `Pause`: a paused run keeps its reason. -/
def pauseRun (run : OperationRun) : Except ControlError OperationRun :=
  if !run.canPause then .error .terminalState
  else if run.status = .paused then .ok run
  else .ok (run.pause .operatorPaused "operation run paused by operator")

/-- The two callers of `continueOperationRun`. -/
inductive Continuation where
  | resume
  /-- Zero stands for no expected phase. -/
  | advancePhase (expectedPhaseIndex : Nat)
  deriving DecidableEq, Repr

def ensureCanContinueRun (run : OperationRun) : Continuation → Except ControlError Unit
  | .resume =>
    if run.canResume then .ok ()
    else if run.status ≠ .paused then .error .notPaused
    else if run.statusReason = .phaseGate then .error .atPhaseGate
    else .error .cannotResume
  | .advancePhase _ => if run.canAdvancePhase then .ok () else .error .notAtPhaseGate

def ensurePhaseCanAdvance (summary : TargetPhaseSummary) (expectedPhaseIndex : Nat) :
    Except ControlError Unit :=
  if !summary.currentPhaseTerminal then .error .phaseNotComplete
  else if !summary.hasNextPhase then .error .finalPhase
  else if 0 < expectedPhaseIndex ∧
      expectedPhaseIndex ≠ summary.currentPhaseStats.phaseIndex + 1 then
    .error .unexpectedPhase
  else .ok ()

/-- `continueOperationRun`, on the targets as they are stored. -/
def continueOperationRun (continuation : Continuation) (now : Time) (run : OperationRun)
    (table : TargetTable) : Except ControlError OperationRun :=
  (ensureCanContinueRun run continuation).bind fun _ =>
    let summary :=
      TargetPhaseSummary.new run.currentPhaseIndex run.totalPhases
        (table.completedStats run.currentPhaseIndex) (table.ofPhase run.currentPhaseIndex)
    match summary.terminalRunStatus with
    | some status => .ok ((outcomeTransition status).apply run now)
    | none =>
      match continuation with
      | .resume => .ok (run.start now "operation run resumed")
      | .advancePhase expectedPhaseIndex =>
        (ensurePhaseCanAdvance summary expectedPhaseIndex).map fun _ =>
          { run with currentPhaseIndex := run.currentPhaseIndex + 1 }.start now
            ("advanced to phase " ++ toString (run.currentPhaseIndex + 1))

/-- The transaction of `Cancel`: terminal runs stay as they are. -/
def cancelRun (reason : String) (now : Time) (run : OperationRun) : OperationRun :=
  if run.status.isTerminal then run
  else
    run.cancel now
      ("operation run cancelled" ++ if reason = "" then "" else ": " ++ reason)

end Flow
