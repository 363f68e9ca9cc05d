import BareMetalManager.Flow.Task

/-!
# Operation runs

An operation run takes a list of racks through an operation, phase by phase. The domain model of
`rest-api/flow/internal/operationrun`: the run, its targets and their transitions
(`operationrun.go`), the outcome counts (`stats.go`), the summary of the current phase
(`progress.go`) and the options of the dispatcher (`configuration.go`). Times are in nanoseconds.
-/

namespace Flow

def second : Nat := 10 ^ 9

inductive OperationRunStatus where
  | pending
  | running
  | paused
  | completed
  | completedWithFailures
  | cancelled
  | failed
  deriving DecidableEq, Repr

namespace OperationRunStatus

def isTerminal : OperationRunStatus → Bool
  | completed | completedWithFailures | cancelled | failed => true
  | pending | running | paused => false

/-- The statuses that `LockRunnable` selects. -/
def isRunnable : OperationRunStatus → Bool
  | pending | running => true
  | paused | completed | completedWithFailures | cancelled | failed => false

theorem not_isTerminal_of_isRunnable {status : OperationRunStatus} (runnable : status.isRunnable) :
    ¬status.isTerminal := by
  cases status with
  | pending | running => nofun
  | paused | completed | completedWithFailures | cancelled | failed => cases runnable

def message : OperationRunStatus → String
  | pending => "operation run pending"
  | running => "operation run running"
  | paused => "operation run paused"
  | completed => "operation run completed"
  | completedWithFailures => "operation run completed with failed targets"
  | cancelled => "operation run cancelled"
  | failed => "operation run failed"

end OperationRunStatus

inductive OperationRunStatusReason where
  | none
  | operatorPaused
  | phaseGate
  | safetyGate
  | conflictRetryTimeout
  deriving DecidableEq, Repr

inductive OperationRunTargetStatus where
  | pending
  | claimed
  | blocked
  | submitted
  | completed
  | failed
  | terminated
  | skipped
  deriving DecidableEq, Repr

namespace OperationRunTargetStatus

def isTerminal : OperationRunTargetStatus → Bool
  | completed | failed | terminated | skipped => true
  | pending | claimed | blocked | submitted => false

def isFailedOrTerminated : OperationRunTargetStatus → Bool
  | failed | terminated => true
  | pending | claimed | blocked | submitted | completed | skipped => false

/-- `OperationRunTargetStatusFromTaskStatus`. -/
def fromTaskStatus : TaskStatus → OperationRunTargetStatus
  | .completed => completed
  | .failed => failed
  | .terminated => terminated
  | .unknown | .waiting | .pending | .running => submitted

end OperationRunTargetStatus

/-! ## Runs -/

/-- The lifecycle columns of a run. -/
structure OperationRun where
  status : OperationRunStatus
  statusReason : OperationRunStatusReason
  statusMessage : String
  currentPhaseIndex : Nat
  totalPhases : Nat
  startedAt : Option Time
  finishedAt : Option Time
  deriving DecidableEq, Repr

namespace OperationRun

variable (run : OperationRun)

def canPause : Bool := !run.status.isTerminal

def canResume : Bool := run.status == .paused && run.statusReason != .phaseGate

def canAdvancePhase : Bool := run.status == .paused && run.statusReason == .phaseGate

/-- Only the first start of a pending run is recorded. An empty message leaves the last
one. -/
def start (now : Time) (message : String) : OperationRun :=
  { run with
    startedAt :=
      if run.status = .pending ∧ run.startedAt = none then some now else run.startedAt
    status := .running
    statusReason := .none
    statusMessage := if message = "" then run.statusMessage else message }

def pause (reason : OperationRunStatusReason) (message : String) : OperationRun :=
  { run with status := .paused, statusReason := reason, statusMessage := message }

variable (status : OperationRunStatus) (now : Time) (message : String)

/-- `Fail`, `Complete`, `CompleteWithFailures` and `Cancel`, with their status. -/
def finish : OperationRun :=
  { run with
    status := status
    statusReason := .none
    statusMessage := message
    finishedAt := some now }

def fail : OperationRun := run.finish .failed now message

def complete : OperationRun := run.finish .completed now message

def completeWithFailures : OperationRun :=
  run.finish .completedWithFailures now message

def cancel : OperationRun := run.finish .cancelled now message

/-- The outcome that a run is marked with. A run that failed for another reason than its
targets has another message. -/
def outcome? : Option OperationRunStatus :=
  match run.status with
  | .completed => some .completed
  | .completedWithFailures => some .completedWithFailures
  | .failed =>
    if run.statusMessage = OperationRunStatus.failed.message then some .failed else none
  | .pending | .running | .paused | .cancelled => none

end OperationRun

/-! ## Targets -/

/-- The back-off of a blocked target. A zero `BlockedSince` is `none`. -/
structure ConflictRetryState where
  blockedSince : Option Time := none
  attempts : Nat := 0
  lastRetryDelaySeconds : Nat := 0
  deriving DecidableEq, Repr

/-- A target of a run, without the rack and the components that go into the request. -/
structure OperationRunTarget where
  id : Uuid
  phaseIndex : Nat
  taskId : Option Uuid
  status : OperationRunTargetStatus
  message : String
  retryAfter : Option Time
  retryState : Option ConflictRetryState
  deriving DecidableEq, Repr

namespace OperationRunTarget

variable (target : OperationRunTarget)

variable (leaseExpiresAt : Time) (message : String)

def claim : OperationRunTarget :=
  { target with
    taskId := none
    status := .claimed
    message := message
    retryAfter := some leaseExpiresAt
    retryState := none }

def block (retryAfter : Time) (retryState : ConflictRetryState) : OperationRunTarget :=
  { target with
    taskId := none
    status := .blocked
    message := message
    retryAfter := some retryAfter
    retryState := some retryState }

def submit (taskId : Uuid) (message : String) : OperationRunTarget :=
  { target with
    taskId := some taskId
    status := .submitted
    message := message
    retryAfter := none
    retryState := none }

def fail : OperationRunTarget :=
  { target with status := .failed, message := message, retryAfter := none, retryState := none }

end OperationRunTarget

/-! ## Outcome counts -/

structure TargetStatusCounts where
  completed : Nat := 0
  failed : Nat := 0
  terminated : Nat := 0
  skipped : Nat := 0
  deriving DecidableEq, Repr

def TargetStatusCounts.add (counts : TargetStatusCounts) :
    OperationRunTargetStatus → TargetStatusCounts
  | .completed => { counts with completed := counts.completed + 1 }
  | .failed => { counts with failed := counts.failed + 1 }
  | .terminated => { counts with terminated := counts.terminated + 1 }
  | .skipped => { counts with skipped := counts.skipped + 1 }
  | .pending | .claimed | .blocked | .submitted => counts

structure PhaseStats where
  phaseIndex : Nat := 0
  selectedTargets : Nat := 0
  statusCounts : TargetStatusCounts := {}
  deriving DecidableEq, Repr

namespace PhaseStats

variable (stats : PhaseStats)

def addTarget (target : OperationRunTarget) : PhaseStats where
  phaseIndex := max stats.phaseIndex target.phaseIndex
  selectedTargets := stats.selectedTargets + 1
  statusCounts := stats.statusCounts.add target.status

def addTargets (targets : List OperationRunTarget) : PhaseStats :=
  targets.foldl addTarget stats

/-- `Add`. -/
def merge (stats other : PhaseStats) : PhaseStats where
  phaseIndex := max stats.phaseIndex other.phaseIndex
  selectedTargets := stats.selectedTargets + other.selectedTargets
  statusCounts :=
    { completed := stats.statusCounts.completed + other.statusCounts.completed
      failed := stats.statusCounts.failed + other.statusCounts.failed
      terminated := stats.statusCounts.terminated + other.statusCounts.terminated
      skipped := stats.statusCounts.skipped + other.statusCounts.skipped }

def failurePercent : Nat :=
  if stats.selectedTargets = 0 then 0 else stats.statusCounts.failed * 100 / stats.selectedTargets

def terminalTargets : Nat :=
  stats.statusCounts.completed + stats.statusCounts.failed + stats.statusCounts.terminated +
    stats.statusCounts.skipped

def allTargetsTerminal : Bool :=
  0 < stats.selectedTargets && stats.terminalTargets == stats.selectedTargets

def failedOrTerminatedTargets : Nat :=
  stats.statusCounts.failed + stats.statusCounts.terminated

variable (targets : List OperationRunTarget)

theorem count_addTargets (count : PhaseStats → Nat) (counted : OperationRunTarget → Bool)
    (each : ∀ stats target, count (stats.addTarget target) =
      count stats + if counted target then 1 else 0) :
    count (stats.addTargets targets) = count stats + targets.countP counted := by
  induction targets generalizing stats with
  | nil => rfl
  | cons target targets ih =>
    rw [addTargets, List.foldl_cons, ← addTargets, ih, each, List.countP_cons]
    omega

theorem selectedTargets_addTargets :
    (stats.addTargets targets).selectedTargets = stats.selectedTargets + targets.length := by
  rw [← List.countP_true]
  exact count_addTargets stats targets selectedTargets _ fun _ _ => rfl

theorem terminalTargets_addTargets :
    (stats.addTargets targets).terminalTargets =
      stats.terminalTargets + targets.countP fun target => target.status.isTerminal := by
  refine count_addTargets stats targets terminalTargets _ fun stats target => ?_
  cases status : target.status <;>
    simp only [addTarget, terminalTargets, status, TargetStatusCounts.add,
      OperationRunTargetStatus.isTerminal, Bool.false_eq_true, ↓reduceIte] <;>
    omega

theorem failedOrTerminatedTargets_addTargets :
    (stats.addTargets targets).failedOrTerminatedTargets = stats.failedOrTerminatedTargets +
        targets.countP fun target => target.status.isFailedOrTerminated := by
  refine count_addTargets stats targets failedOrTerminatedTargets _ fun stats target => ?_
  cases status : target.status <;>
    simp only [addTarget, failedOrTerminatedTargets, status, TargetStatusCounts.add,
      OperationRunTargetStatus.isFailedOrTerminated, Bool.false_eq_true, ↓reduceIte] <;>
    omega

variable {stats targets}

theorem phaseIndex_addTargets
    (within : ∀ target ∈ targets, target.phaseIndex ≤ stats.phaseIndex) :
    (stats.addTargets targets).phaseIndex = stats.phaseIndex := by
  refine List.foldlRecOn (motive := fun added : PhaseStats => added.phaseIndex = stats.phaseIndex)
    targets _ rfl fun added same target targetMem => ?_
  rw [addTarget, same]
  exact Nat.max_eq_left (within target targetMem)

end PhaseStats

/-! ## Progress -/

/-- The counts of a list of targets. -/
def PhaseStats.tally (phaseIndex : Nat) (targets : List OperationRunTarget) : PhaseStats where
  phaseIndex
  selectedTargets := targets.length
  statusCounts :=
    let count (status : OperationRunTargetStatus) := targets.countP (·.status = status)
    ⟨count .completed, count .failed, count .terminated, count .skipped⟩

structure ProgressStats where
  currentPhase : PhaseStats := {}
  cumulative : PhaseStats := {}
  deriving DecidableEq, Repr

namespace ProgressStats

open List

variable (stats : ProgressStats) (phaseIndex : Nat)

/-- A phase above all earlier ones becomes the current one, without counts. -/
def enterPhase : ProgressStats :=
  if stats.cumulative.phaseIndex < phaseIndex then
    { currentPhase := { phaseIndex }, cumulative := { stats.cumulative with phaseIndex } }
  else stats

def addTarget (target : OperationRunTarget) : ProgressStats :=
  let stats := stats.enterPhase target.phaseIndex
  { currentPhase :=
      if target.phaseIndex = stats.currentPhase.phaseIndex then
        stats.currentPhase.addTarget target
      else stats.currentPhase
    cumulative := stats.cumulative.addTarget target }

variable (targets : List OperationRunTarget)

def addTargets : ProgressStats :=
  targets.foldl addTarget stats

/-- The targets of a phase, and all targets. -/
def tally : ProgressStats where
  currentPhase := .tally phaseIndex (targets.filter (·.phaseIndex = phaseIndex))
  cumulative := .tally phaseIndex targets

variable {targets phaseIndex} {seen others : List OperationRunTarget} {target : OperationRunTarget}

theorem enterPhase_tally (within : ∀ target ∈ seen, target.phaseIndex ≤ phaseIndex)
    (nextIndex : Nat) :
    (tally phaseIndex seen).enterPhase nextIndex = tally (max phaseIndex nextIndex) seen := by
  rw [enterPhase]
  split
  next above =>
    have above : phaseIndex < nextIndex := above
    have noneYet : seen.filter (·.phaseIndex = nextIndex) = [] := by
      refine filter_eq_nil_iff.mpr fun target mem => ?_
      have := within target mem
      grind
    rw [max_eq_right above.le, tally, tally, noneYet]
    rfl
  next notAbove => exact congrArg (tally · seen) (max_eq_left (not_lt.mp notAbove)).symm

theorem addTarget_phaseTally (within : target.phaseIndex ≤ phaseIndex) :
    (PhaseStats.tally phaseIndex seen).addTarget target =
      .tally phaseIndex (seen ++ [target]) := by
  have same : max phaseIndex target.phaseIndex = phaseIndex := max_eq_left within
  cases status : target.status <;>
    simp [PhaseStats.tally, PhaseStats.addTarget, TargetStatusCounts.add, same, status]

theorem addTarget_tally (within : ∀ target ∈ seen, target.phaseIndex ≤ phaseIndex) :
    (tally phaseIndex seen).addTarget target =
      tally (max phaseIndex target.phaseIndex) (seen ++ [target]) := by
  rw [addTarget, enterPhase_tally within]
  have within := le_max_right phaseIndex target.phaseIndex
  generalize max phaseIndex target.phaseIndex = phaseIndex at within ⊢
  simp only [tally, addTarget_phaseTally within, filter_append]
  congr 1
  split
  next isCurrent =>
    obtain rfl : target.phaseIndex = phaseIndex := isCurrent
    simp
  next notCurrent =>
    have notCurrent : target.phaseIndex ≠ phaseIndex := notCurrent
    simp [notCurrent]

/-- The stats count the targets seen so far. -/
theorem addTargets_tally (within : ∀ target ∈ seen, target.phaseIndex ≤ phaseIndex) :
    (tally phaseIndex seen).addTargets targets =
      tally ((targets.map (·.phaseIndex)).foldl max phaseIndex) (seen ++ targets) := by
  induction targets generalizing seen phaseIndex with
  | nil => rw [append_nil, addTargets, foldl_nil, map_nil, foldl_nil]
  | cons target targets ih =>
    rw [addTargets, foldl_cons, ← addTargets, addTarget_tally within, ih (by grind),
      append_assoc, singleton_append, map_cons, foldl_cons]

/-- The highest phase of the targets, or 0 if there are none. -/
def highestPhase (targets : List OperationRunTarget) : Nat :=
  (targets.map (·.phaseIndex)).foldl max 0

/-- The stats do not depend on the order of the targets: those of the highest phase are
current, and all of them are counted. -/
theorem addTargets_of_perm (perm : others.Perm targets) :
    addTargets {} others = addTargets {} targets ∧
      addTargets {} targets = tally (highestPhase targets) targets := by
  have counted (targets : List OperationRunTarget) :
      addTargets {} targets = tally (highestPhase targets) targets :=
    addTargets_tally (forall_mem_nil _)
  have highest : highestPhase others = highestPhase targets :=
    (perm.map _).foldl_eq' (by omega) 0
  refine ⟨?_, counted targets⟩
  simp only [counted, tally, highest, PhaseStats.tally, perm.length_eq, perm.countP_eq,
    (perm.filter _).length_eq, (perm.filter _).countP_eq]

theorem addTargets_of_swap :
    let target (phaseIndex : Nat) (status : OperationRunTargetStatus) : OperationRunTarget :=
      ⟨1, phaseIndex, none, status, "", none, none⟩
    addTargets {} [target 1 .failed, target 0 .completed] =
      ⟨⟨1, 1, ⟨0, 1, 0, 0⟩⟩, ⟨1, 2, ⟨1, 1, 0, 0⟩⟩⟩ := by
  intro target
  have swapped := addTargets_of_perm (.swap (target 0 .completed) (target 1 .failed) [])
  exact swapped.1.trans swapped.2

end ProgressStats

/-! ## Options -/

/-- An empty scope counts as the current phase. -/
inductive SafetyGateScope where
  | unset
  | currentPhase
  | cumulativeRun
  deriving DecidableEq, Repr

def SafetyGateScope.name : SafetyGateScope → String
  | unset | currentPhase => "current_phase"
  | cumulativeRun => "cumulative_run"

inductive SafetyGate where
  | failureRate (scope : SafetyGateScope) (failureThresholdPercent : Nat)
  | failureCount (scope : SafetyGateScope) (failureThresholdCount : Nat)
  deriving DecidableEq, Repr

namespace SafetyGate

def scope : SafetyGate → SafetyGateScope
  | failureRate scope _ | failureCount scope _ => scope

def isTripped (failed total : Nat) : SafetyGate → Bool
  | failureRate _ percent => 0 < total && percent * total ≤ failed * 100
  | failureCount _ count => count ≤ failed

/-- `SafetyGateTrippedMessage`. -/
def trippedMessage (stats : PhaseStats) (gate : SafetyGate) : String :=
  let failed := toString stats.statusCounts.failed ++ "/" ++ toString stats.selectedTargets
  match gate with
  | failureRate scope percent =>
    "failure_rate safety gate tripped for " ++ scope.name ++ ": " ++ failed ++
      " targets failed (" ++ toString stats.failurePercent ++ "%, threshold " ++
        toString percent ++ "%)"
  | failureCount scope count =>
    "failure_count safety gate tripped for " ++ scope.name ++ ": " ++ failed ++
      " targets failed (threshold " ++ toString count ++ ")"

end SafetyGate

structure ConflictRetryPolicy where
  retryTimeout : Nat
  initialRetryDelay : Nat
  maxRetryDelay : Nat
  deriving DecidableEq, Repr

structure RunOptions where
  maxConcurrentTargets : Nat
  gates : List SafetyGate
  conflictPolicy : ConflictRetryPolicy
  autoAdvance : Bool
  deriving DecidableEq, Repr

/-! ## The summary of the current phase -/

structure TargetPhaseSummary where
  totalPhases : Nat
  currentPhaseTargets : List OperationRunTarget
  completedPhaseStats : PhaseStats
  currentPhaseStats : PhaseStats
  deriving DecidableEq, Repr

/-- `NewTargetPhaseSummary`. -/
def TargetPhaseSummary.new (currentPhaseIndex totalPhases : Nat) (completed : PhaseStats)
    (currentPhaseTargets : List OperationRunTarget) : TargetPhaseSummary where
  totalPhases := totalPhases
  currentPhaseTargets := currentPhaseTargets
  completedPhaseStats := completed
  currentPhaseStats :=
    ({ phaseIndex := currentPhaseIndex } : PhaseStats).addTargets currentPhaseTargets

namespace TargetPhaseSummary

variable (summary : TargetPhaseSummary)

def currentPhaseTerminal : Bool := summary.currentPhaseStats.allTargetsTerminal

def currentPhaseEmpty : Bool := summary.currentPhaseStats.selectedTargets == 0

def hasNextPhase : Bool := summary.currentPhaseStats.phaseIndex + 1 < summary.totalPhases

def isAllTerminal : Bool := !summary.hasNextPhase && summary.currentPhaseTerminal

def selectedTargetCount : Nat :=
  summary.completedPhaseStats.selectedTargets + summary.currentPhaseStats.selectedTargets

def failedOrTerminatedTargetCount : Nat :=
  summary.completedPhaseStats.failedOrTerminatedTargets +
    summary.currentPhaseStats.failedOrTerminatedTargets

def terminalRunStatus : Option OperationRunStatus :=
  if summary.selectedTargetCount = 0 then none
  else if !summary.isAllTerminal then none
  else if summary.failedOrTerminatedTargetCount = summary.selectedTargetCount then some .failed
  else if 0 < summary.failedOrTerminatedTargetCount then some .completedWithFailures
  else some .completed

def statsForSafetyScope (scope : SafetyGateScope) : PhaseStats :=
  if scope = .cumulativeRun then summary.currentPhaseStats.merge summary.completedPhaseStats
  else summary.currentPhaseStats

/-- `EvaluateSafetyGates`: the message of the first gate that is tripped. -/
def evaluateSafetyGates (gates : List SafetyGate) : Option String :=
  (gates.find? fun gate =>
    let stats := summary.statsForSafetyScope gate.scope
    gate.isTripped stats.statusCounts.failed stats.selectedTargets).map fun gate =>
      gate.trippedMessage (summary.statsForSafetyScope gate.scope)

variable {summary}

theorem isTerminal_of_currentPhaseTerminal {currentPhaseIndex totalPhases : Nat}
    {completed : PhaseStats} {targets : List OperationRunTarget}
    (terminal : (new currentPhaseIndex totalPhases completed targets).currentPhaseTerminal)
    {target : OperationRunTarget} (targetMem : target ∈ targets) : target.status.isTerminal := by
  simp only [currentPhaseTerminal, new, PhaseStats.allTargetsTerminal, Bool.and_eq_true,
    decide_eq_true_eq, beq_iff_eq, PhaseStats.terminalTargets_addTargets,
    PhaseStats.selectedTargets_addTargets] at terminal
  have all : targets.countP (fun target => target.status.isTerminal) = targets.length := by
    have none : ({ phaseIndex := currentPhaseIndex } : PhaseStats).terminalTargets = 0 := rfl
    omega
  exact List.countP_eq_length.mp all target targetMem

end TargetPhaseSummary

end Flow
