import BareMetalManager.Flow.ClaimLease
import Mathlib.Data.List.Induction

/-!
# Rollout invariants

Whatever dispatchers, operators and child tasks do at once, a run has no more active targets
than its quota, works on its phases one after the other, and is marked with an outcome only
when all its targets have one. Results are written before the leases of their claims expire.
-/

namespace Flow

open List TargetTable TargetPhaseSummary Bool

/-! ## Outcomes -/

/-- All targets are terminal, and the status says whether none, some or all of them failed or
were terminated. -/
def HasOutcome (targets : List OperationRunTarget) (status : OperationRunStatus) : Prop :=
  (∀ target ∈ targets, target.status.isTerminal) ∧
    match status with
    | .completed => ∀ target ∈ targets, ¬target.status.isFailedOrTerminated
    | .completedWithFailures =>
      (∃ target ∈ targets, target.status.isFailedOrTerminated) ∧
        ∃ target ∈ targets, ¬target.status.isFailedOrTerminated
    | .failed => ∀ target ∈ targets, target.status.isFailedOrTerminated
    | .pending | .running | .paused | .cancelled => False

variable {status : OperationRunStatus}

namespace TargetTable

variable {table : TargetTable} {run : OperationRun}

section

variable (upTo : ∀ row ∈ table.rows, row.phaseIndex ≤ run.currentPhaseIndex)
include upTo

theorem countP_eq_add (property : OperationRunTarget → Bool) :
    table.rows.countP property =
      (table.rows.filter fun row => row.phaseIndex < run.currentPhaseIndex).countP property +
        (table.ofPhase run.currentPhaseIndex).countP property := by
  rw [countP_eq_countP_filter_add table.rows property
    fun row => row.phaseIndex < run.currentPhaseIndex]
  congr 2
  refine filter_congr fun row rowMem => ?_
  have bound := upTo row rowMem
  simp only [← decide_not, not_lt, decide_eq_decide]
  omega

theorem selectedTargetCount_eq : (table.summary run).selectedTargetCount = table.rows.length := by
  have split := countP_eq_add upTo fun _ => true
  simp only [countP_true] at split
  simp only [selectedTargetCount, summary, new, completedStats,
    PhaseStats.selectedTargets_addTargets]
  omega

theorem failedOrTerminatedTargetCount_eq :
    (table.summary run).failedOrTerminatedTargetCount =
      table.rows.countP fun target => target.status.isFailedOrTerminated := by
  rw [countP_eq_add upTo]
  simp only [failedOrTerminatedTargetCount, summary, new,
    completedStats, PhaseStats.failedOrTerminatedTargets_addTargets]
  simp only [PhaseStats.failedOrTerminatedTargets]
  omega

end

theorem le_of_not_hasNextPhase (bounded : ∀ row ∈ table.rows, row.phaseIndex < run.totalPhases)
    (last : ¬(table.summary run).hasNextPhase) :
    ∀ row ∈ table.rows, row.phaseIndex ≤ run.currentPhaseIndex := by
  have phaseIndex : (table.summary run).currentPhaseStats.phaseIndex = run.currentPhaseIndex :=
    PhaseStats.phaseIndex_addTargets fun target targetMem => (mem_ofPhase.mp targetMem).2.le
  simp only [hasNextPhase, phaseIndex, decide_eq_true_eq] at last
  intro row rowMem
  have bound := bounded row rowMem
  have total : (table.summary run).totalPhases = run.totalPhases := rfl
  omega

theorem hasOutcome_of_terminalRunStatus
    (bounded : ∀ row ∈ table.rows, row.phaseIndex < run.totalPhases)
    (below : ∀ row ∈ table.rows, row.phaseIndex < run.currentPhaseIndex → row.status.isTerminal)
    (terminal : (table.summary run).terminalRunStatus = some status) :
    HasOutcome table.rows status := by
  unfold terminalRunStatus at terminal
  split at terminal
  next => cases terminal
  split at terminal
  next => cases terminal
  next allTerminal =>
    simp only [isAllTerminal, not_eq_true', not_eq_false, and_eq_true] at allTerminal
    obtain ⟨last, currentTerminal⟩ := allTerminal
    have upTo := le_of_not_hasNextPhase bounded (eq_false_iff.mp last)
    rw [selectedTargetCount_eq upTo, failedOrTerminatedTargetCount_eq upTo] at terminal
    have everyTerminal : ∀ row ∈ table.rows, row.status.isTerminal := by
      intro row rowMem
      obtain before | current := (upTo row rowMem).lt_or_eq
      · exact below row rowMem before
      · exact isTerminal_of_currentPhaseTerminal currentTerminal
          (mem_ofPhase.mpr ⟨rowMem, current⟩)
    refine ⟨everyTerminal, ?_⟩
    split at terminal
    next all =>
      cases terminal
      exact countP_eq_length.mp all
    next notAll =>
      split at terminal
      next some =>
        cases terminal
        refine ⟨countP_pos_iff.mp some, ?_⟩
        by_contra none
        push Not at none
        exact notAll (countP_eq_length.mpr none)
      next none =>
        cases terminal
        exact countP_eq_zero.mp (Nat.eq_zero_of_not_pos none)

end TargetTable

/-! ## The quota -/

variable {target : OperationRunTarget} {now : Time} {settings : RunSettings}

theorem targetConsumesQuota_of_le {earlier later : Time}
    (le : earlier ≤ later) (consumes : targetConsumesQuota target later) :
    targetConsumesQuota target earlier := by
  unfold targetConsumesQuota at consumes ⊢
  split at consumes
  next => exact consumes
  next => exact OperationRunTarget.isLeased_of_le le consumes
  all_goals cases consumes

theorem consumes_of_isLeased (claimed : target.status = .claimed) (leased : target.isLeased now) :
    targetConsumesQuota target now := by
  simp only [targetConsumesQuota, claimed]
  exact leased

section Claim

variable (settings : RunSettings) (now : Time)

variable (available : Nat) (targets : List OperationRunTarget)

theorem length_claimed_le : (claimTargets settings now available targets).2.length ≤ available := by
  induction targets generalizing available with
  | nil => exact Nat.zero_le available
  | cons target targets ih =>
    unfold claimTargets
    split
    next ready =>
      rw [and_eq_true, decide_eq_true_eq] at ready
      split
      · exact ih available
      · have rest := ih (available - 1)
        simp only [length_cons]
        omega
    next => exact ih available

/-- Only claims make targets active. -/
theorem countP_claimTargets_le :
    (claimTargets settings now available targets).1.countP (targetConsumesQuota · now) ≤
      targets.countP (targetConsumesQuota · now) +
        (claimTargets settings now available targets).2.length := by
  induction targets generalizing available with
  | nil => exact Nat.zero_le _
  | cons target targets ih =>
    unfold claimTargets
    split
    next ready =>
      split
      next message _ =>
        have rest := ih available
        have inactive : targetConsumesQuota (target.fail message) now = false := rfl
        simp only [countP_cons, inactive, false_eq_true, ↓reduceIte]
        omega
      next =>
        have rest := ih (available - 1)
        simp only [countP_cons, length_cons]
        split <;> omega
    next =>
      have rest := ih available
      simp only [countP_cons]
      omega

end Claim

/-- Only submitted and terminal targets have a child task. -/
def Tasked (target : OperationRunTarget) : Prop :=
  target.taskId = none ∨ target.status = .submitted ∨ target.status.isTerminal

theorem Tasked.reconcileTarget (tasked : Tasked target)
    (getTask : Uuid → TaskStatus × String) : Tasked (reconcileTarget getTask target) := by
  unfold Flow.reconcileTarget
  split
  · exact tasked
  · split
    · exact tasked
    · right
      cases (getTask _).1 with
      | unknown | waiting | pending | running => exact .inl rfl
      | completed | failed | terminated => exact .inr rfl

theorem Tasked.claimStep {next : OperationRunTarget}
    (tasked : Tasked target) (step : ClaimStep settings now target next) : Tasked next := by
  cases step with
  | keep => exact tasked
  | fail message ready => exact .inr (.inr rfl)
  | claim ready => exact .inl rfl

variable {getTask : Uuid → TaskStatus × String}

/-- Reconciliation makes no target active. -/
theorem consumes_of_reconcileTarget (tasked : Tasked target)
    (consumes : targetConsumesQuota (reconcileTarget getTask target) now) :
    targetConsumesQuota target now := by
  unfold reconcileTarget at consumes
  split at consumes
  next => exact consumes
  next taskId hasTask =>
    split at consumes
    next => exact consumes
    next isOpen =>
      obtain none | submitted | terminal := tasked
      · rw [none] at hasTask
        cases hasTask
      · simp only [targetConsumesQuota, submitted, hasTask, Option.isSome_some]
      · exact absurd terminal isOpen

variable {targets : List OperationRunTarget} {options : RunOptions} {run : OperationRun}
  {clock : Time}

theorem countP_reconcile_le (tasked : ∀ target ∈ targets, Tasked target)
    (getTask : Uuid → TaskStatus × String) (now : Time) :
    (targets.map (reconcileTarget getTask)).countP (targetConsumesQuota · now) ≤
      targets.countP (targetConsumesQuota · now) := by
  rw [countP_map]
  exact countP_mono_left fun target targetMem consumes =>
    consumes_of_reconcileTarget (tasked target targetMem) consumes

theorem countP_claim_le (startedAt : now ≤ clock)
    (within : targets.countP (targetConsumesQuota · clock) ≤ options.maxConcurrentTargets) :
    (claim settings options run targets now).targets.countP (targetConsumesQuota · clock) ≤
      options.maxConcurrentTargets := by
  unfold claim
  simp only
  split
  next => exact within
  next free =>
    have fewer (after : List OperationRunTarget) :
        after.countP (targetConsumesQuota · clock) ≤ after.countP (targetConsumesQuota · now) :=
      countP_mono_left fun _ _ => targetConsumesQuota_of_le startedAt
    refine (fewer _).trans ((countP_claimTargets_le settings now _ targets).trans ?_)
    have length := length_claimed_le settings now
      (options.maxConcurrentTargets - targets.countP (targetConsumesQuota · now)) targets
    omega

/-- An attempt keeps the active targets of the phase within the quota. -/
theorem countP_dispatch_le {table : TargetTable} {dispatched : Dispatched}
    (ran : dispatchRunInTransaction settings getTask now run table = dispatched)
    (valid : settings.options = .ok options)
    (startedAt : now ≤ clock) (tasked : ∀ row ∈ table.rows, Tasked row)
    (within : (table.ofPhase run.currentPhaseIndex).countP (targetConsumesQuota · clock) ≤
      options.maxConcurrentTargets) :
    dispatched.targets.countP (targetConsumesQuota · clock) ≤ options.maxConcurrentTargets := by
  subst ran
  have reconciled := (countP_reconcile_le
    (fun target targetMem => tasked target (mem_ofPhase.mp targetMem).1) getTask
    clock).trans within
  unfold dispatchRunInTransaction
  rw [valid]
  simp only
  split
  · exact reconciled
  · exact reconciled
  · exact countP_claim_le startedAt reconciled

/-! ## Phases -/

/-- The rows of a run in its current phase: earlier phases are terminal, later ones have not
begun, and the quota holds. -/
structure Phased (settings : RunSettings) (clock : Time) (run : OperationRun)
    (table : TargetTable) : Prop where
  below : ∀ row ∈ table.rows, row.phaseIndex < run.currentPhaseIndex → row.status.isTerminal
  above : ∀ row ∈ table.rows, run.currentPhaseIndex < row.phaseIndex → row.status = .pending
  bounded : ∀ row ∈ table.rows, row.phaseIndex < run.totalPhases
  tasked : ∀ row ∈ table.rows, Tasked row
  quota : ∀ options, settings.options = .ok options →
    (table.ofPhase run.currentPhaseIndex).countP (targetConsumesQuota · clock) ≤
      options.maxConcurrentTargets

variable {claim : OperationRunTarget}

namespace Phased

variable {table : TargetTable}

variable (phased : Phased settings clock run table)
include phased

theorem tick {later : Time} (le : clock ≤ later) : Phased settings later run table where
  __ := phased
  quota options valid :=
    (countP_mono_left fun _ _ => targetConsumesQuota_of_le le).trans
      (phased.quota options valid)

variable {next : OperationRun}

theorem of_samePhase (samePhase : next.currentPhaseIndex = run.currentPhaseIndex)
    (totalPhases : next.totalPhases = run.totalPhases) : Phased settings clock next table where
  below := samePhase ▸ phased.below
  above := samePhase ▸ phased.above
  bounded := totalPhases ▸ phased.bounded
  tasked := phased.tasked
  quota := samePhase ▸ phased.quota

/-- The step of a run to the next phase leaves only terminal targets behind. -/
theorem proceed (proceeds : run.Proceeds table next) : Phased settings clock next table := by
  obtain samePhase | nextPhase := proceeds.phaseCases
  · exact phased.of_samePhase samePhase proceeds.totalPhases
  · have terminal : ∀ row ∈ table.rows, row.phaseIndex = run.currentPhaseIndex →
        row.status.isTerminal := by
      intro row rowMem inPhase
      by_contra isOpen
      have same := proceeds.phase row (mem_ofPhase.mpr ⟨rowMem, inPhase⟩) isOpen
      omega
    constructor
    · intro row rowMem before
      obtain earlier | current : row.phaseIndex < run.currentPhaseIndex ∨
          row.phaseIndex = run.currentPhaseIndex := by omega
      · exact phased.below row rowMem earlier
      · exact terminal row rowMem current
    · intro row rowMem after
      exact phased.above row rowMem (by omega)
    · rw [proceeds.totalPhases]
      exact phased.bounded
    · exact phased.tasked
    · intro options valid
      have inactive : (table.ofPhase next.currentPhaseIndex).countP
          (targetConsumesQuota · clock) = 0 := by
        refine countP_eq_zero.mpr fun row rowMem => ?_
        obtain ⟨rowMem, inPhase⟩ := mem_ofPhase.mp rowMem
        have pending := phased.above row rowMem (by omega)
        simp only [targetConsumesQuota, pending, false_eq_true, not_false_eq_true]
      omega

theorem update
    (elsewhere : ∀ row ∈ table.rows, row.phaseIndex ≠ run.currentPhaseIndex →
      applyStates targets row = row)
    (tasked : ∀ row ∈ table.ofPhase run.currentPhaseIndex, Tasked (applyStates targets row))
    (quota : ∀ options, settings.options = .ok options → ((table.update targets).ofPhase
      run.currentPhaseIndex).countP (targetConsumesQuota · clock) ≤ options.maxConcurrentTargets) :
    Phased settings clock run (table.update targets) := by
  constructor
  · refine forall_mem_map.mpr fun row rowMem before => ?_
    rw [phaseIndex_applyStates] at before
    rw [elsewhere row rowMem before.ne]
    exact phased.below row rowMem before
  · refine forall_mem_map.mpr fun row rowMem later => ?_
    rw [phaseIndex_applyStates] at later
    rw [elsewhere row rowMem later.ne']
    exact phased.above row rowMem later
  · refine forall_mem_map.mpr fun row rowMem => ?_
    rw [phaseIndex_applyStates]
    exact phased.bounded row rowMem
  · refine forall_mem_map.mpr fun row rowMem => ?_
    by_cases inPhase : row.phaseIndex = run.currentPhaseIndex
    · exact tasked row (mem_ofPhase.mpr ⟨rowMem, inPhase⟩)
    · rw [elsewhere row rowMem inPhase]
      exact phased.tasked row rowMem
  · exact quota

theorem dispatch {dispatched : Dispatched}
    (ran : dispatchRunInTransaction settings getTask now run table = dispatched)
    (startedAt : now ≤ clock) : Phased settings clock run (table.update dispatched.targets) := by
  apply phased.update
  · intro row rowMem elsewhere
    obtain same | ⟨inPhase, -⟩ := dispatch_row ran rowMem
    · exact same
    · exact absurd inPhase elsewhere
  · intro row rowMem
    obtain ⟨rowMem, -⟩ := mem_ofPhase.mp rowMem
    obtain same | ⟨-, step⟩ := dispatch_row ran rowMem
    · rw [same]
      exact phased.tasked row rowMem
    · exact ((phased.tasked row rowMem).reconcileTarget getTask).claimStep step
  · intro options valid
    obtain ⟨noTargets, -⟩ | steps := dispatch_steps ran
    · rw [noTargets, ofPhase_update]
      exact (map_id' _).symm ▸ phased.quota options valid
    · rw [steps.ofPhase_update]
      exact countP_dispatch_le ran valid startedAt phased.tasked (phased.quota options valid)

theorem submit (claimMem : claim ∈ table.ofPhase run.currentPhaseIndex)
    (active : targetConsumesQuota claim clock) (sameId : target.id = claim.id)
    (tasked : Tasked target) : Phased settings clock run (table.update [target]) := by
  have rowCases {row : OperationRunTarget} (rowMem : row ∈ table.rows) :
      applyStates [target] row = row ∨ row = claim ∧
        applyStates [target] row = row.withState target := by
    by_cases same : row.id = target.id
    · exact .inr ⟨table.eq_of_key_eq rowMem (mem_ofPhase.mp claimMem).1
        (same.trans sameId), if_pos same⟩
    · exact .inl (if_neg same)
  apply phased.update
  · intro row rowMem elsewhere
    obtain unchanged | ⟨rfl, -⟩ := rowCases rowMem
    · exact unchanged
    · exact absurd (mem_ofPhase.mp claimMem).2 elsewhere
  · intro row rowMem
    obtain ⟨rowMem, -⟩ := mem_ofPhase.mp rowMem
    obtain unchanged | ⟨-, written⟩ := rowCases rowMem
    · rw [unchanged]
      exact phased.tasked row rowMem
    · rwa [written]
  · intro options valid
    rw [ofPhase_update, countP_map]
    refine (countP_mono_left fun row rowMem consumes => ?_).trans (phased.quota options valid)
    obtain unchanged | ⟨rfl, -⟩ := rowCases (mem_ofPhase.mp rowMem).1
    · rwa [Function.comp_apply, unchanged] at consumes
    · exact active

end Phased

namespace OperationRunManager

variable {π : Type}

/-! ## Every step -/

/-- The invariant of a run: its rows are phased, and a marked outcome is that of its
targets. -/
structure Rolling (settings : RunSettings) (state : State π) : Prop where
  leases : Leases state
  phased : Phased settings state.clock state.run state.targets
  outcome : ∀ status, state.run.outcome? = some status → HasOutcome state.targets.rows status

variable {proc : π}

namespace Rolling

variable {state next : State π}

theorem outcome_of_proceeds {next : OperationRun} {table : TargetTable}
    (phased : Phased settings clock run table) (proceeds : run.Proceeds table next)
    (marked : next.outcome? = some status) :
    HasOutcome table.rows status :=
  hasOutcome_of_terminalRunStatus phased.bounded phased.below
    (proceeds.outcome status marked)

theorem not_holds_of_outcome (rolling : Rolling settings state)
    (marked : state.run.outcome? = some status) :
    ¬state.Holds proc claim := by
  intro holds
  have claimMem := (mem_ofPhase.mp (rolling.leases.owned proc claim holds)).1
  exact rolling.leases.isOpen holds.1 ((rolling.outcome status marked).1 claim claimMem)

/-- Only the targets of the current phase have begun and are not over. -/
theorem phase_eq (rolling : Rolling settings state) (targetMem : target ∈ state.targets.rows)
    (begun : target.status ≠ .pending) (isOpen : ¬target.status.isTerminal) :
    target.phaseIndex = state.run.currentPhaseIndex := by
  obtain before | current | after := Nat.lt_trichotomy target.phaseIndex
    state.run.currentPhaseIndex
  · exact absurd (rolling.phased.below target targetMem before) isOpen
  · exact current
  · exact absurd (rolling.phased.above target targetMem after) begun

end Rolling

section Invariant

variable {state : State π} {started : Bool} {rest : List OperationRunTarget}

theorem Rolling.submit (rolling : Rolling settings state) {again retryDispatch : Bool}
    (atPoint : state.points proc = .updateTargetAfterSubmit now again retryDispatch claim target
      started rest)
    (holds : state.Holds proc claim) :
    Phased settings state.clock state.run (state.targets.update [target]) := by
  obtain ⟨claimed, noTask⟩ := rolling.leases.claimed proc claim holds.1
  obtain ⟨-, policy, result, single, targetEq⟩ := rolling.leases.valid_of atPoint
  have sameId : target.id = claim.id := targetEq ▸ id_submitTarget policy claim now result
  have tasked : Tasked target := by
    rw [targetEq]
    obtain ⟨-, none | submitted⟩ := submitTarget_cases single noTask
    · exact .inl none
    · exact .inr (.inl submitted)
  exact rolling.phased.submit (rolling.leases.owned proc claim holds)
    (consumes_of_isLeased claimed holds.2) sameId tasked

theorem holds_of_inTime {again retryDispatch ok : Bool}
    (atPoint : state.points proc = .updateTargetAfterSubmit now again retryDispatch claim target
      started rest)
    (inTime : InTime state (.updateTargetAfterSubmit proc ok)) : state.Holds proc claim := by
  have claims : (state.points proc).claims = claim :: rest := congrArg Point.claims atPoint
  refine ⟨claims ▸ mem_cons_self, inTime claim ?_⟩
  rw [claims]
  rfl

theorem phaseCount_append_singleton (targets : List OperationRunTarget)
    (target : OperationRunTarget) :
    phaseCount (targets ++ [target]) = max (phaseCount targets) (target.phaseIndex + 1) := by
  simp only [phaseCount, foldl_append, foldl_cons, foldl_nil]

theorem lt_phaseCount (targetMem : target ∈ targets) : target.phaseIndex < phaseCount targets := by
  induction targets using List.reverseRecOn with
  | nil => cases targetMem
  | append_singleton targets last ih =>
    rw [phaseCount_append_singleton, lt_max_iff]
    obtain earlier | isLast := mem_append.mp targetMem
    · exact .inl (ih earlier)
    · rw [mem_singleton.mp isLast]
      exact .inr (Nat.lt_succ_self _)

theorem rolling_created {targets : TargetTable}
    (planned : ∀ target ∈ targets.rows, target.status = .pending ∧ target.taskId = none) :
    Rolling settings (.created (phaseCount targets.rows) targets : State π) where
  leases := created_leases _ _
  phased := by
    constructor
    · intro row _ before
      exact absurd before (Nat.not_lt_zero _)
    · intro row rowMem _
      exact (planned row rowMem).1
    · intro row rowMem
      exact lt_phaseCount rowMem
    · intro row rowMem
      exact .inl (planned row rowMem).2
    · intro options _
      refine le_of_eq_of_le (countP_eq_zero.mpr fun row rowMem => ?_) bot_le
      have pending := (planned row (mem_ofPhase.mp rowMem).1).1
      simp only [targetConsumesQuota, pending, false_eq_true, not_false_eq_true]
  outcome := by
    nofun

end Invariant

section Steps

variable [DecidableEq π] {state next : State π} {action : Action π}

section Step

variable (rolling : Rolling settings state) (inTime : InTime state action)
  (takes : Takes settings state action next)
include rolling inTime takes

theorem phased_step : Phased settings next.clock next.run next.targets := by
  cases takes with
  | tick elapsed => exact rolling.phased.tick le_self_add
  | pause paused => exact rolling.phased.proceed (pauseRun_proceeds paused)
  | continueRun continued =>
    exact rolling.phased.proceed (continueOperationRun_proceeds continued)
  | attempt atPoint runnable truthful =>
    exact (rolling.phased.dispatch rfl (rolling.leases.valid_of atPoint)).proceed
      (dispatch_spec rfl runnable).1
  | @updateTargetAfterSubmit proc ok now again retryDispatch claim target started rest atPoint =>
    cases ok with
    | false => exact rolling.phased
    | true => exact rolling.submit atPoint (holds_of_inTime atPoint inTime)
  | cancel idle active =>
    exact rolling.phased.of_samePhase (phase_cancelRun _ _ _).1 (phase_cancelRun _ _ _).2
  | _ => exact rolling.phased

theorem outcome_step (marked : next.run.outcome? = some status) :
    HasOutcome next.targets.rows status := by
  cases takes with
  | pause paused =>
    exact Rolling.outcome_of_proceeds rolling.phased (pauseRun_proceeds paused) marked
  | continueRun continued =>
    exact Rolling.outcome_of_proceeds rolling.phased (continueOperationRun_proceeds continued)
      marked
  | attempt atPoint runnable truthful =>
    exact Rolling.outcome_of_proceeds
      (rolling.phased.dispatch rfl (rolling.leases.valid_of atPoint))
      (dispatch_spec rfl runnable).1 marked
  | updateTargetAfterSubmit atPoint =>
    exact absurd (holds_of_inTime atPoint inTime) (rolling.not_holds_of_outcome marked)
  | cancel idle active =>
    simp only [State.goto, outcome?_cancelRun active, reduceCtorEq] at marked
  | _ => exact rolling.outcome status marked

theorem rolling_step : Rolling settings next where
  leases := leases_step rolling.leases inTime takes
  phased := phased_step rolling inTime takes
  outcome _ marked := outcome_step rolling inTime takes marked

end Step

/-- Without automatic advance only `AdvancePhase` moves a run to another phase. -/
theorem advancePhase_of_takes (valid : settings.options = .ok options)
    (manual : options.autoAdvance = false) (takes : Takes settings state action next)
    (moved : next.run.currentPhaseIndex ≠ state.run.currentPhaseIndex) :
    ∃ expectedPhaseIndex, action = .continueRun (.advancePhase expectedPhaseIndex) := by
  cases takes with
  | pause paused => exact absurd (currentPhaseIndex_of_pauseRun paused) moved
  | @continueRun continuation run continued =>
    cases continuation with
    | resume => exact absurd (currentPhaseIndex_of_resume continued) moved
    | advancePhase expectedPhaseIndex => exact ⟨expectedPhaseIndex, rfl⟩
  | attempt atPoint runnable truthful =>
    exact absurd ((dispatch_spec rfl runnable).2 options valid manual) moved
  | cancel idle active => exact absurd (phase_cancelRun _ _ _).1 moved
  | _ => exact absurd rfl moved

/-! ## Every run -/

structure Rollout (settings : RunSettings) (state : State π) : Prop where
  /-- The active targets are within the quota. -/
  quota : ∀ options, settings.options = .ok options →
    state.targets.rows.countP (targetConsumesQuota · state.clock) ≤ options.maxConcurrentTargets
  /-- A phase begins when the earlier ones are over. -/
  order : ∀ target ∈ state.targets.rows, target.status = .claimed ∨ target.status = .submitted →
    ∀ lower ∈ state.targets.rows, lower.phaseIndex < target.phaseIndex →
      lower.status.isTerminal
  /-- Without automatic advance the phase grows through `AdvancePhase` only. -/
  manual : ∀ options, settings.options = .ok options → options.autoAdvance = false →
    ∀ action next, (machine settings).step action state = some next →
      state.run.currentPhaseIndex < next.run.currentPhaseIndex →
        ∃ expectedPhaseIndex, action = .continueRun (.advancePhase expectedPhaseIndex)
  /-- The marked outcome is that of all targets. -/
  outcome : ∀ status, state.run.outcome? = some status → HasOutcome state.targets.rows status

theorem Rolling.rollout (rolling : Rolling settings state) : Rollout settings state := by
  constructor
  · intro options valid
    refine le_trans (le_of_eq ?_) (rolling.phased.quota options valid)
    rw [TargetTable.ofPhase, countP_filter]
    refine countP_congr fun target targetMem => ?_
    rw [and_eq_true, decide_eq_true_eq]
    refine ⟨fun consumes => ⟨consumes, ?_⟩, And.left⟩
    cases status : target.status with
    | claimed | submitted =>
      apply rolling.phase_eq targetMem <;> rw [status] <;> decide
    | pending | blocked | completed | failed | terminated | skipped =>
      simp only [targetConsumesQuota, status, false_eq_true] at consumes
  · intro target targetMem active lower lowerMem before
    refine rolling.phased.below lower lowerMem (lt_of_lt_of_eq before ?_)
    apply rolling.phase_eq targetMem
    all_goals
      obtain status | status := active
      all_goals
        rw [status]
        decide
  · intro options valid manual action next moved grows
    exact advancePhase_of_takes valid manual (takes_of_step moved) grows.ne'
  · exact rolling.outcome

/-- Every run of an operation run whose results are written in time. -/
theorem rollout_of_run (settings : RunSettings) {targets : TargetTable}
    (planned : ∀ target ∈ targets.rows, target.status = .pending ∧ target.taskId = none)
    {actions : List (Action π)} {state : State π}
    (ran : (machine settings).run actions (.created (phaseCount targets.rows) targets) = some state)
    (inTime : (machine settings).Meets InTime actions
      (.created (phaseCount targets.rows) targets)) :
    Rollout settings state :=
  Rolling.rollout <| Machine.run_induction (Rolling settings)
    (fun _ _ _ rolling inTime moved => rolling_step rolling inTime (takes_of_step moved))
    (rolling_created planned) inTime ran

end Steps

/-- One target at a time, phases are advanced by hand. -/
def stepByStep : RunSettings where
  options := .ok
    { maxConcurrentTargets := 1
      gates := []
      conflictPolicy := ⟨3600 * second, 10 * second, 60 * second⟩
      autoAdvance := false }

def twoPhases : TargetTable where
  rows := [⟨7, 0, none, .pending, "", none, none⟩, ⟨8, 1, none, .pending, "", none, none⟩]
  keysNodup := by decide

/-- The first target is submitted, its task is done, the run is paused for the operator and
advanced, and the second target is claimed. -/
def advancedByHand : List (Action Unit) :=
  [.dispatchRun (), .dispatchRunAttempt () fun _ => (.unknown, ""),
    .submitTask () (.taskIds [100]), .updateTargetAfterSubmit () true, .endAttempt (),
    .updateTaskStatus 100 .completed, .dispatchRun (),
    .dispatchRunAttempt () fun _ => (.completed, ""), .endAttempt (),
    .continueRun (.advancePhase 0), .dispatchRun (), .dispatchRunAttempt () fun _ =>
      (.completed, "")]

theorem rollout_of_advancedByHand :
    ∃ state, (machine stepByStep).run advancedByHand
      (.created (phaseCount twoPhases.rows) twoPhases) =
        some state ∧
      state.targets.rows.map (·.status) = [.completed, .claimed] ∧ Rollout stepByStep state := by
  have planned : ∀ target ∈ twoPhases.rows, target.status = .pending ∧ target.taskId = none := by
    decide
  have inTime : (machine stepByStep).Meets InTime advancedByHand
      (.created (phaseCount twoPhases.rows) twoPhases) := by decide
  exact ⟨_, rfl, by decide, rollout_of_run stepByStep planned rfl inTime⟩

end OperationRunManager

end Flow
