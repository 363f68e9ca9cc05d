import BareMetalManager.Flow.OperationRun
import Mathlib.Algebra.BigOperators.Ring.Finset
import Mathlib.Tactic.Ring

/-!
# The time budget of a step

A step of an operation rule runs as a child workflow with a time budget, and its main operation as
an activity with a timeout and retries. `temporalworkflow/workflow/helpers.go` of
`rest-api/flow/internal/task/executor` derives both from the step, with different defaults.
Durations are in nanoseconds and do not overflow.
-/

namespace Flow

open Finset

def minute : Nat := 60 * second

/-- The actions of `actionExecutorRegistry`. -/
inductive ActionName where
  | sleep
  | powerControl
  | verifyPowerStatus
  | verifyReachability
  | getPowerStatus
  | firmwareControl
  | bringUpControl
  | waitBringUp
  | injectExpectation
  | verifyFirmwareConsistency
  | decommissionControl
  | waitDecommissioned
  /-- A name without an executor. -/
  | unregistered
  deriving DecidableEq, Repr

def ActionName.batchByMaxParallel : ActionName → Bool
  | powerControl | verifyPowerStatus | getPowerStatus | firmwareControl | bringUpControl
  | waitBringUp | injectExpectation | decommissionControl | waitDecommissioned => true
  | sleep | verifyReachability | verifyFirmwareConsistency | unregistered => false

/-- The timeout of an action is not validated, and may be negative. -/
structure ActionConfig where
  name : ActionName
  timeout : Int

/-- A retry policy that `Validate` accepts, with a whole coefficient. The attempts are converted
to an `int32`. -/
structure RetryPolicy where
  maxAttempts : Nat
  initialInterval : Nat
  backoffCoefficient : Nat
  /-- Zero if it is not set. -/
  maxInterval : Nat
  attemptsPos : 1 ≤ maxAttempts
  attemptsFit : maxAttempts < 2 ^ 31
  intervalPos : 0 < initialInterval
  coefficientPos : 1 ≤ backoffCoefficient

structure SequenceStep where
  maxParallel : Nat
  /-- Zero if it is not set. -/
  timeout : Nat
  retryPolicy : Option RetryPolicy
  preOperation : List ActionConfig
  mainOperation : ActionConfig
  postOperation : List ActionConfig

def actionBatchCount (action : ActionConfig) (maxParallel componentCount : Nat) : Nat :=
  if !action.name.batchByMaxParallel ∨ maxParallel = 0 ∨ componentCount ≤ maxParallel then 1
  else (componentCount + maxParallel - 1) / maxParallel

/-! ## Activities -/

structure ActivityOptions where
  startToCloseTimeout : Nat
  maximumAttempts : Nat
  initialInterval : Nat
  backoffCoefficient : Nat
  /-- Zero if it is not set. -/
  maximumInterval : Nat

open ActivityOptions

def buildActivityOptions (step : SequenceStep) : ActivityOptions :=
  let startToCloseTimeout := if 0 < step.timeout then step.timeout else 20 * minute
  match step.retryPolicy with
  | some policy =>
    { startToCloseTimeout
      maximumAttempts := policy.maxAttempts
      initialInterval := if policy.initialInterval = 0 then second else policy.initialInterval
      backoffCoefficient := policy.backoffCoefficient
      maximumInterval := policy.maxInterval }
  | none =>
    { startToCloseTimeout
      maximumAttempts := 3
      initialInterval := second
      backoffCoefficient := 2
      maximumInterval := minute }

namespace ActivityOptions

/-- The wait of Temporal before a retry. Its largest interval is 100 times the first one where
none is set. -/
def backOff (options : ActivityOptions) (retry : Nat) : Nat :=
  min (options.initialInterval * options.backoffCoefficient ^ retry)
    (if options.maximumInterval = 0 then 100 * options.initialInterval
      else options.maximumInterval)

/-- Every attempt takes its whole timeout. -/
def worstCase (options : ActivityOptions) : Nat :=
  options.maximumAttempts * options.startToCloseTimeout +
    ∑ retry ∈ range (options.maximumAttempts - 1), options.backOff retry

end ActivityOptions

/-! ## The child workflow -/

namespace RetryPolicy

variable (policy : RetryPolicy)

/-- The back-off that the budget counts for each retry. -/
def maxBackoff : Nat :=
  if 0 < policy.maxInterval then policy.maxInterval else policy.initialInterval

/-- How much longer the back-off is. Without a largest interval it grows. -/
def excess (retry : Nat) : Int :=
  if 0 < policy.maxInterval then
    min (policy.initialInterval * policy.backoffCoefficient ^ retry : Nat) policy.maxInterval -
      policy.maxInterval
  else policy.initialInterval * (min (policy.backoffCoefficient ^ retry : Nat) 100 - 1)

end RetryPolicy

namespace SequenceStep

variable (step : SequenceStep)

/-- The attempts and the back-off that the budget counts with. -/
def budgetedRetries : Nat × Nat :=
  match step.retryPolicy with
  | some policy =>
    if 1 < policy.maxAttempts then (policy.maxAttempts, policy.maxBackoff) else (1, 0)
  | none => (1, 0)

/-- `mainBudget` of one batch. -/
def mainBudget : Nat :=
  (if step.timeout = 0 then 30 * minute else step.timeout) * step.budgetedRetries.1 +
    step.budgetedRetries.2 * (step.budgetedRetries.1 - 1)

def actionBudget (componentCount : Nat) : Int :=
  ((step.preOperation ++ step.postOperation).map fun action =>
    action.timeout * actionBatchCount action step.maxParallel componentCount).sum

/-- `childWorkflowExecutionTimeout`. -/
def childWorkflowExecutionTimeout (componentCount : Nat) : Int :=
  (step.mainBudget * actionBatchCount step.mainOperation step.maxParallel componentCount : Nat) +
    step.actionBudget componentCount + 2 * minute

/-- What the budget of one batch lacks. Without a policy there are three attempts where one is
counted. Only the default timeout leaves something over. -/
def shortfall : Int :=
  match step.retryPolicy with
  | none => if step.timeout = 0 then 30 * minute + 3 * second else 2 * step.timeout + 3 * second
  | some policy =>
    ∑ retry ∈ range (policy.maxAttempts - 1), policy.excess retry -
      if step.timeout = 0 then 10 * minute * policy.maxAttempts else 0

variable {step} {policy : RetryPolicy}

theorem mainBudget_eq (hasPolicy : step.retryPolicy = some policy) :
    step.mainBudget = (if step.timeout = 0 then 30 * minute else step.timeout) *
      policy.maxAttempts + policy.maxBackoff * (policy.maxAttempts - 1) := by
  simp only [mainBudget, budgetedRetries, hasPolicy]
  by_cases more : 1 < policy.maxAttempts
  · rw [if_pos more]
  · have one : policy.maxAttempts = 1 := by
      have pos := policy.attemptsPos
      omega
    rw [if_neg more, one, Nat.sub_self, mul_zero, mul_zero]

theorem backOff_eq (hasPolicy : step.retryPolicy = some policy) (retry : Nat) :
    ((buildActivityOptions step).backOff retry : Int) =
      policy.maxBackoff + policy.excess retry := by
  simp only [buildActivityOptions, hasPolicy, backOff, policy.intervalPos.ne',
    RetryPolicy.maxBackoff, RetryPolicy.excess, ↓reduceIte]
  by_cases unset : policy.maxInterval = 0
  · rw [if_pos unset, if_neg (by omega), if_neg (by omega), mul_comm 100,
      Nat.mul_min_mul_left, Nat.cast_mul, Nat.cast_min]
    ring
  · rw [if_neg unset, if_pos (by omega), if_pos (by omega), Nat.cast_min]
    ring

theorem worstCase_eq (step : SequenceStep) :
    ((buildActivityOptions step).worstCase : Int) = step.mainBudget + step.shortfall := by
  cases hasPolicy : step.retryPolicy with
  | none =>
    have waits : ∑ retry ∈ range (3 - 1), min (second * 2 ^ retry)
        (if minute = 0 then 100 * second else minute) = 3 * second := by decide
    simp only [buildActivityOptions, worstCase, backOff, mainBudget,
      budgetedRetries, shortfall, hasPolicy, waits]
    by_cases unset : step.timeout = 0
    · simp only [unset]
      decide
    · simp only [pos_of_ne_zero unset, unset, ↓reduceIte]
      push_cast
      ring
  | some policy =>
    have attempts : (buildActivityOptions step).maximumAttempts = policy.maxAttempts := by
      simp only [buildActivityOptions, hasPolicy]
    have timeout : (buildActivityOptions step).startToCloseTimeout =
        if 0 < step.timeout then step.timeout else 20 * minute := by
      simp only [buildActivityOptions, hasPolicy]
    rw [worstCase, mainBudget_eq hasPolicy, shortfall, hasPolicy, attempts, timeout]
    push_cast
    simp only [backOff_eq hasPolicy, sum_add_distrib, sum_const, card_range, nsmul_eq_mul]
    by_cases unset : step.timeout = 0
    · rw [if_neg (by omega), if_pos unset, if_pos unset]
      ring
    · rw [if_pos (by omega), if_neg unset, if_neg unset]
      ring

/-- The budget covers the worst case of the main operation exactly where the times of the other
actions and the two minutes make up for what it lacks. -/
theorem covers_worstCase_iff (step : SequenceStep) (componentCount : Nat) :
    ((buildActivityOptions step).worstCase *
        actionBatchCount step.mainOperation step.maxParallel componentCount : Nat) ≤
        step.childWorkflowExecutionTimeout componentCount ↔
      step.shortfall * actionBatchCount step.mainOperation step.maxParallel componentCount ≤
        step.actionBudget componentCount + 2 * minute := by
  rw [childWorkflowExecutionTimeout, Nat.cast_mul, Nat.cast_mul, worstCase_eq, add_mul]
  constructor <;> intro <;> linarith

end SequenceStep

/-- A step with nothing but its main operation. -/
def plainStep : SequenceStep := ⟨0, 0, none, [], ⟨.powerControl, 0⟩, []⟩

/-- Three attempts of 20 minutes do not fit into 32 minutes. -/
theorem not_covers_plainStep :
    ¬ (((buildActivityOptions plainStep).worstCase *
        actionBatchCount plainStep.mainOperation plainStep.maxParallel 1 : Nat) ≤
      plainStep.childWorkflowExecutionTimeout 1) := by
  decide

/-- A second attempt after a minute. -/
def oneRetry : RetryPolicy := ⟨2, minute, 1, 0, by decide, by decide, by decide, by decide⟩

example : (buildActivityOptions { plainStep with retryPolicy := some oneRetry }).worstCase =
    41 * minute := by decide

end Flow
