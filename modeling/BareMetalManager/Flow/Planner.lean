import BareMetalManager.Flow.Components
import BareMetalManager.Flow.OperationRun

/-!
# The planner of operation runs

`Plan` of `rest-api/flow/internal/operationrun/manager/planner`: the candidate racks of a run are
looked up, a percentage of them is selected and ordered, and these are frozen into the rows of
consecutive phases. The lookups of inventory and earlier runs and SHA-256 are parameters, a stored
configuration is its decoding. Configured numbers are natural: a negative one is refused wherever
zero is.
-/

namespace Flow

/-- `RackExecutionTarget` of `internal/operation/target.go`. -/
structure RackExecutionTarget where
  rackId : Uuid
  componentsByType : ComponentsByType

/-! ## Configuration -/

structure PercentageSelector where
  percentage : Nat
  seed : String
  deriving DecidableEq, Repr

def PercentageSelector.validate (selector : PercentageSelector) : Except String Unit :=
  if selector.percentage < 1 ∨ 100 < selector.percentage then
    .error "percentage selector must be between 1 and 100"
  else if selector.seed = "" then .error "percentage selector seed is required"
  else .ok ()

/-- `OrderingPolicyPayload`, with the strategy of a physical ordering as its text. -/
inductive OrderingPolicy where
  | random (seed : String)
  | physicalLocation (strategy : String)
  deriving DecidableEq, Repr

def OrderingPolicy.validate : OrderingPolicy → Except String Unit
  | random seed => if seed = "" then .error "random ordering seed is required" else .ok ()
  | physicalLocation strategy =>
    if strategy = "row_by_row" ∨ strategy = "one_per_row_round_robin" then .ok ()
    else .error ("unsupported physical_location ordering strategy \"" ++ strategy ++ "\"")

inductive PhasePlan where
  | equal (phaseCount : Nat)
  | percentage (phases : List Nat)
  | count (phases : List Nat)
  deriving DecidableEq, Repr

/-- `PhasePlanKind`. -/
def PhasePlan.kind : PhasePlan → String
  | equal _ => "equal"
  | percentage _ => "percentage"
  | count _ => "count"

def PhasePlan.validate : PhasePlan → Except String Unit
  | equal phaseCount =>
    if phaseCount = 0 then .error "equal phase_count must be greater than 0" else .ok ()
  | percentage phases =>
    if phases.isEmpty then .error "percentage phase policy must include at least one phase"
    else if phases.any fun percentage => percentage < 1 || 100 < percentage then
      .error "percentage phase percentages must be between 1 and 100"
    else if phases.sum ≠ 100 then .error "percentage phase percentages must sum to 100"
    else .ok ()
  | count phases =>
    if phases.isEmpty then .error "count phase policy must include at least one phase"
    else if phases.any (· = 0) then .error "count phase counts must be greater than 0"
    else .ok ()

def SafetyGate.validate : SafetyGate → Except String Unit
  | failureRate _ percent =>
    if percent < 1 ∨ 100 < percent then
      .error "failure_threshold_percent must be between 1 and 100"
    else .ok ()
  | failureCount _ count =>
    if count = 0 then .error "failure_threshold_count must be greater than 0" else .ok ()

def ConflictRetryPolicy.validate (policy : ConflictRetryPolicy) : Except String Unit :=
  if policy.retryTimeout = 0 then .error "retry_timeout must be greater than 0"
  else if policy.initialRetryDelay = 0 then .error "initial_retry_delay must be greater than 0"
  else if policy.maxRetryDelay = 0 then .error "max_retry_delay must be greater than 0"
  else if policy.maxRetryDelay < policy.initialRetryDelay then
    .error "max_retry_delay must be greater than or equal to initial_retry_delay"
  else .ok ()

/-- `Options`: those of the dispatcher, and the policies that the planner reads. -/
structure PlannedOptions extends RunOptions where
  orderingPolicy : OrderingPolicy
  phasePlan : Option PhasePlan
  deriving DecidableEq, Repr

/-- `SafetyPolicy.Validate`, from the index of the first gate on. -/
def validateGates : (idx : Nat) → List SafetyGate → Except String Unit
  | _, [] => .ok ()
  | idx, gate :: gates => do
      gate.validate.mapError ("safety gate " ++ toString idx ++ ": " ++ ·)
      validateGates (idx + 1) gates

def PlannedOptions.validate (options : PlannedOptions) : Except String Unit :=
  if options.maxConcurrentTargets = 0 then .error "max_concurrent_targets must be greater than 0"
  else do
    (validateGates 0 options.gates).mapError ("safety_policy: " ++ ·)
    options.conflictPolicy.validate.mapError ("conflict_policy: " ++ ·)
    options.orderingPolicy.validate.mapError ("ordering_policy: " ++ ·)
    match options.phasePlan with
    | none => .ok ()
    | some plan => plan.validate.mapError ("phase_policy: " ++ ·)

/-- The parts of an operation template that the planner reads. -/
structure OperationScope (σ : Type) where
  targetSpec : Option σ
  excludedOperationRunIDs : List Uuid

/-- The stored configuration of a run. Selector and options are decoded, the operation is
decoded and valid. -/
structure RunConfiguration (σ : Type) where
  operation : Except String (OperationScope σ)
  selector : Except String PercentageSelector
  options : Except String PlannedOptions

namespace RunConfiguration

variable {σ : Type}

def decodedSelector (run : RunConfiguration σ) : Except String PercentageSelector := do
  let selector ← run.selector.mapError ("unmarshal operation run selector: " ++ ·)
  selector.validate.mapError ("validate operation run selector: " ++ ·)
  return selector

def decodedOptions (run : RunConfiguration σ) : Except String PlannedOptions := do
  let options ← run.options.mapError ("unmarshal operation run options: " ++ ·)
  options.validate.mapError ("validate operation run options: " ++ ·)
  return options

end RunConfiguration

namespace Planner

/-! ## Execution targets -/

/-- Merge a target into the row of its rack, or append it. The rows are counted for the error,
which names the row and not the target. -/
def mergeTarget (target : RackExecutionTarget) :
    (idx : Nat) → List RackExecutionTarget → Except String (List RackExecutionTarget)
  | _, [] => .ok [target]
  | idx, row :: rows =>
    if row.rackId = target.rackId then do
      let merged ← (row.componentsByType.merge target.componentsByType).mapError
        ("targets[" ++ toString idx ++ "].components_by_type: " ++ ·)
      return { row with componentsByType := merged } :: rows
    else do
      let rows ← mergeTarget target (idx + 1) rows
      return row :: rows

/-- The loop of `normalize`. -/
def normalizeFrom : (idx : Nat) → (normalized : List RackExecutionTarget) →
    List RackExecutionTarget → Except String (List RackExecutionTarget)
  | _, normalized, [] => .ok normalized
  | idx, normalized, target :: targets =>
    if target.rackId = 0 then .error ("targets[" ++ toString idx ++ "].rack_id is required")
    else do
      let components ← target.componentsByType.normalize.mapError
        ("targets[" ++ toString idx ++ "].components_by_type: " ++ ·)
      let normalized ← mergeTarget { target with componentsByType := components } 0 normalized
      normalizeFrom (idx + 1) normalized targets

/-- `normalize`. -/
def normalize (targets : List RackExecutionTarget) : Except String (List RackExecutionTarget) :=
  normalizeFrom 0 [] targets

variable (excluded : Uuid → Option ComponentsByType)

/-- What `exclude` keeps of a target. -/
def excludeTarget (target : RackExecutionTarget) : Option RackExecutionTarget :=
  match excluded target.rackId with
  | none => some target
  | some excludedComponents =>
    let remaining := target.componentsByType.subtract excludedComponents
    if remaining.isEmpty then none else some { target with componentsByType := remaining }

variable (targets : List RackExecutionTarget)

/-- `exclude`. A map without entries keeps every target. -/
def exclude : List RackExecutionTarget :=
  targets.filterMap (excludeTarget excluded)

/-- The loop of `componentsByRackID`. -/
def componentsByRackIDFrom : (idx : Nat) → (result : Uuid → Option ComponentsByType) →
    List RackExecutionTarget → Except String (Uuid → Option ComponentsByType)
  | _, result, [] => .ok result
  | idx, result, target :: targets => do
      let components ← .mapError ("targets[" ++ toString idx ++ "].components_by_type: " ++ ·)
        (match result target.rackId with
        | some existing => existing.merge target.componentsByType
        | none => target.componentsByType.normalize)
      componentsByRackIDFrom (idx + 1) (Function.update result target.rackId (some components))
        targets

def componentsByRackID : Except String (Uuid → Option ComponentsByType) :=
  componentsByRackIDFrom 0 (fun _ => none) targets

/-- `sortBySeedScore`, where `targetScore` is the SHA-256 of the seed and the rack. -/
def sortBySeedScore (targetScore : String → Uuid → Nat) (seed : String)
    (targets : List RackExecutionTarget) : List RackExecutionTarget :=
  targets.insertionSort fun left right =>
    targetScore seed left.rackId < targetScore seed right.rackId ∨
      targetScore seed left.rackId = targetScore seed right.rackId ∧ left.rackId ≤ right.rackId

/-! ## Phases -/

/-- The errors of `Plan`. An index out of range is a panic. -/
inductive PlanError where
  | failed (message : String)
  | phaseHasNoTargets (message : String)
  | outOfRange
  deriving DecidableEq, Repr

/-- `ceilDiv`. -/
def ceilDiv (n d : Nat) : Nat := if d = 0 then 0 else (n + d - 1) / d

def equalPhaseTargetCounts (total phaseCount : Nat) : List Nat :=
  (List.range phaseCount).map fun i =>
    ceilDiv (total * (i + 1)) phaseCount - ceilDiv (total * i) phaseCount

/-- The loop of `percentagePhaseTargetCounts`. -/
def percentagePhaseTargetCountsFrom (total : Nat) : (sum lastEnd : Nat) → List Nat → List Nat
  | _, _, [] => []
  | sum, lastEnd, percentage :: phases =>
    let stop := ceilDiv (total * (sum + percentage)) 100
    (stop - lastEnd) :: percentagePhaseTargetCountsFrom total (sum + percentage) stop phases

def percentagePhaseTargetCounts (total : Nat) (phases : List Nat) : List Nat :=
  percentagePhaseTargetCountsFrom total 0 0 phases

/-- The loop of `countPhaseTargetCounts`, with the remainder as the final phase. -/
def countPhaseTargetCountsFrom (total : Nat) : (assigned : Nat) → List Nat →
    Except String (List Nat)
  | assigned, [] => .ok (if assigned < total then [total - assigned] else [])
  | assigned, count :: phases =>
    if total < assigned + count then .error "count phase counts exceed selected target count"
    else do
      let counts ← countPhaseTargetCountsFrom total (assigned + count) phases
      return count :: counts

def countPhaseTargetCounts (total : Nat) (phases : List Nat) : Except String (List Nat) :=
  countPhaseTargetCountsFrom total 0 phases

def phaseTargetCounts (total : Nat) (plan : Option PhasePlan) : Except String (List Nat) :=
  if total = 0 then .ok []
  else
    match plan with
    | none => .ok [total]
    | some (.equal phaseCount) => .ok (equalPhaseTargetCounts total phaseCount)
    | some (.percentage phases) => .ok (percentagePhaseTargetCounts total phases)
    | some (.count phases) => countPhaseTargetCounts total phases

/-- The `OperationRunTarget` that the planner returns, before it is stored. -/
structure PlannedTarget where
  rackId : Uuid
  sequenceIndex : Nat
  phaseIndex : Nat
  componentsByType : ComponentsByType
  status : OperationRunTargetStatus

/-- The rows of one phase, from a sequence index on. -/
def phaseTargets (ordered : List RackExecutionTarget) (phaseIdx : Nat) :
    (phaseSize seqIdx : Nat) → Except PlanError (List PlannedTarget)
  | 0, _ => .ok []
  | phaseSize + 1, seqIdx =>
    match ordered[seqIdx]? with
    | none => .error .outOfRange
    | some target => do
        let rest ← phaseTargets ordered phaseIdx phaseSize (seqIdx + 1)
        return ⟨target.rackId, seqIdx, phaseIdx, target.componentsByType.clone, .pending⟩ :: rest

/-- The loop of `phasedExecutionTargets`. -/
def phasedExecutionTargetsFrom (kind : String) (ordered : List RackExecutionTarget) :
    (phaseIdx seqIdx : Nat) → (phaseCounts : List Nat) → Except PlanError (List PlannedTarget)
  | _, _, [] => .ok []
  | phaseIdx, seqIdx, phaseSize :: phaseCounts =>
    if phaseSize = 0 then
      .error <| .phaseHasNoTargets <| "configured operation run phase has no targets: " ++ kind ++
        " phase " ++ toString (phaseIdx + 1) ++ " resolves to zero targets for " ++
          toString ordered.length ++ " selected targets"
    else do
      let targets ← phaseTargets ordered phaseIdx phaseSize seqIdx
      let rest ← phasedExecutionTargetsFrom kind ordered (phaseIdx + 1) (seqIdx + phaseSize)
        phaseCounts
      return targets ++ rest

/-- `phasedExecutionTargets`. A run without a plan has no empty phase to report. -/
def phasedExecutionTargets (ordered : List RackExecutionTarget) (plan : Option PhasePlan) :
    Except PlanError (List PlannedTarget) := do
  let phaseCounts ← (phaseTargetCounts ordered.length plan).mapError .failed
  phasedExecutionTargetsFrom ((plan.map PhasePlan.kind).getD "") ordered 0 0 phaseCounts

/-! ## The plan -/

structure TargetLookupOptions where
  maxTargets : Nat

/-- `TargetLookup`. -/
structure TargetLookup (σ : Type) where
  targetsFromDefaultScope : OperationScope σ → TargetLookupOptions →
    Except String (List RackExecutionTarget)
  targetsFromSpec : σ → TargetLookupOptions → Except String (List RackExecutionTarget)
  targetsFromRuns : List Uuid → TargetLookupOptions → Except String (List RackExecutionTarget)

variable {σ : Type}

variable (lookup : TargetLookup σ) (operation : OperationScope σ) (options : TargetLookupOptions)

def buildTargetScope : String × Except String (List RackExecutionTarget) :=
  match operation.targetSpec with
  | some spec => ("target_spec scope", lookup.targetsFromSpec spec options)
  | none => ("default scope", lookup.targetsFromDefaultScope operation options)

def baseCandidateScope : Except String (List RackExecutionTarget) := do
  let (source, scope) := buildTargetScope lookup operation options
  let targets ← scope.mapError ("build " ++ source ++ ": " ++ ·)
  (normalize targets).mapError ("normalize " ++ source ++ ": " ++ ·)

def excludedTargets : Except String (List RackExecutionTarget) :=
  if operation.excludedOperationRunIDs.isEmpty then .ok []
  else
    (lookup.targetsFromRuns operation.excludedOperationRunIDs options).mapError
      ("resolve excluded operation runs " ++ toString operation.excludedOperationRunIDs ++
        ": " ++ ·)

def excludedCandidateScope : Except String (Uuid → Option ComponentsByType) := do
  let excluded ← excludedTargets lookup operation options
  componentsByRackID excluded

def candidates (run : RunConfiguration σ) : Except String (List RackExecutionTarget) := do
  let operation ← run.operation
  let base ← baseCandidateScope lookup operation options
  if base.isEmpty then return base
  let excluded ← excludedCandidateScope lookup operation options
  return exclude excluded base

variable (targetScore : String → Uuid → Nat)

/-- `selectPercentageTargets`, where the slice expression is checked. -/
def selectPercentageTargets (candidates : List RackExecutionTarget) (selector : PercentageSelector)
    : Except PlanError (List RackExecutionTarget) :=
  let ordered := sortBySeedScore targetScore selector.seed candidates
  let selectedCount := ceilDiv (ordered.length * selector.percentage) 100
  if selectedCount ≤ ordered.length then .ok (ordered.take selectedCount) else .error .outOfRange

def selectedTargets (run : RunConfiguration σ) (candidates : List RackExecutionTarget) :
    Except PlanError (List RackExecutionTarget) :=
  if candidates.isEmpty then .ok []
  else do
    let selector ← run.decodedSelector.mapError .failed
    selectPercentageTargets targetScore candidates selector

def orderExecutionTargets (targets : List RackExecutionTarget) :
    OrderingPolicy → Except PlanError (List RackExecutionTarget)
  | .random seed => .ok (sortBySeedScore targetScore seed targets)
  | .physicalLocation _ => .error (.failed "physical_location ordering is not supported yet")

def plannedTargets (run : RunConfiguration σ) (selected : List RackExecutionTarget) :
    Except PlanError (List PlannedTarget) :=
  if selected.isEmpty then .ok []
  else do
    let options ← run.decodedOptions.mapError .failed
    let ordered ← orderExecutionTargets targetScore selected options.orderingPolicy
    phasedExecutionTargets ordered options.phasePlan

/-- `Plan`. -/
def plan (lookup : TargetLookup σ) (options : TargetLookupOptions) (run : RunConfiguration σ) :
    Except PlanError (List PlannedTarget) := do
  let candidates ← (candidates lookup options run).mapError .failed
  let selected ← selectedTargets targetScore run candidates
  plannedTargets targetScore run selected

end Planner

end Flow
