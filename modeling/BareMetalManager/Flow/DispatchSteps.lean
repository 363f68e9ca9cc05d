import BareMetalManager.Flow.Dispatcher
import BareMetalManager.Lib.Checked

/-!
# What an attempt and a control do

The transaction of an attempt reconciles each target of the current phase, and fails or
claims some of those that are ready. Neither it nor a control moves a run out of a phase that
has an open target.
-/

namespace Flow

open List OperationRun OperationRunStatus TargetTable TargetPhaseSummary

/-! ## One target -/

/-- What `claim` does to a reconciled target. -/
inductive ClaimStep (settings : RunSettings) (now : Time) (target : OperationRunTarget) :
    OperationRunTarget → Prop where
  | keep : ClaimStep settings now target target
  | fail (message : String) (ready : targetReadyForSubmission target now) :
      ClaimStep settings now target (target.fail message)
  | claim (ready : targetReadyForSubmission target now) :
      ClaimStep settings now target
        (target.claim (now + settings.claimLease) "claimed for submission")

namespace ClaimStep

variable {settings : RunSettings} {now : Time} {target next : OperationRunTarget}

variable (step : ClaimStep settings now target next)
include step

theorem id_eq : next.id = target.id := by
  cases step <;> rfl

/-- The columns that `UpdateTargetState` does not write stay as they are. -/
theorem withState_eq : target.withState next = next := by
  cases step <;> rfl

theorem eq_of_not_ready (waits : targetReadyForSubmission target now = false) : next = target := by
  cases step with
  | keep => rfl
  | fail message ready | claim ready => exact absurd ready (Bool.eq_false_iff.mp waits)

end ClaimStep

variable (getTask : Uuid → TaskStatus × String)

theorem id_reconcileTarget (target : OperationRunTarget) :
    (reconcileTarget getTask target).id = target.id := by
  unfold reconcileTarget
  split
  · rfl
  · split <;> rfl

theorem withState_reconcileTarget (target next : OperationRunTarget) :
    (reconcileTarget getTask target).withState next = target.withState next := by
  unfold reconcileTarget
  split
  · rfl
  · split <;> rfl

/-! ## The loop of `claim` -/

section Claim

variable (settings : RunSettings) (now : Time)

/-- Every target takes a step, and a claimed one was ready and has a lease now. -/
theorem claimTargets_spec (available : Nat) (targets : List OperationRunTarget) :
    List.Forall₂ (ClaimStep settings now) targets (claimTargets settings now available targets).1 ∧
      List.Sublist (claimTargets settings now available targets).2
        (claimTargets settings now available targets).1 ∧
      ∀ claimed ∈ (claimTargets settings now available targets).2, ∃ target ∈ targets,
        targetReadyForSubmission target now ∧
          claimed = target.claim (now + settings.claimLease) "claimed for submission" := by
  induction targets generalizing available with
  | nil => exact ⟨.nil, .slnil, nofun⟩
  | cons target targets ih =>
    obtain ⟨steps, sublist, claimed⟩ := ih available
    have later claim claimMem :=
      exists_mem_cons_of_exists (a := target) (claimed claim claimMem)
    unfold claimTargets
    split
    next ready =>
      rw [Bool.and_eq_true] at ready
      split
      · exact ⟨.cons (.fail _ ready.2) steps, sublist.cons _, later⟩
      · obtain ⟨steps, sublist, claimed⟩ := ih (available - 1)
        refine ⟨.cons (.claim ready.2) steps, sublist.cons_cons _, forall_mem_cons.mpr ⟨?_, ?_⟩⟩
        · exact ⟨target, mem_cons_self, ready.2, rfl⟩
        · exact fun claim claimMem => exists_mem_cons_of_exists (claimed claim claimMem)
    next => exact ⟨.cons .keep steps, sublist.cons _, later⟩

end Claim

/-! ## The transaction of an attempt -/

/-- What the transaction of an attempt does to the targets of the current phase. -/
structure Dispatched.Steps (settings : RunSettings) (getTask : Uuid → TaskStatus × String)
    (now : Time) (targets : List OperationRunTarget) (dispatched : Dispatched) : Prop where
  steps : List.Forall₂ (ClaimStep settings now) (targets.map (reconcileTarget getTask))
    dispatched.targets
  sublist : dispatched.claimed.Sublist dispatched.targets
  claimed : ∀ claimed ∈ dispatched.claimed, ∃ target ∈ targets,
    targetReadyForSubmission (reconcileTarget getTask target) now ∧
      claimed = (reconcileTarget getTask target).claim (now + settings.claimLease)
        "claimed for submission"

/-- Lists of targets with the same ids are equal if the targets of one occur in the other. -/
theorem eq_of_map_id_eq {left right : List OperationRunTarget}
    (sameIds : left.map OperationRunTarget.id = right.map OperationRunTarget.id)
    (nodup : (right.map OperationRunTarget.id).Nodup) (subset : left ⊆ right) : left = right := by
  have length : left.length = right.length := by simpa using congrArg List.length sameIds
  refine ext_getElem length fun index inLeft inRight => ?_
  refine inj_on_of_nodup_map nodup (subset (getElem_mem inLeft))
    (getElem_mem inRight) ?_
  have same := congrArg (·[index]?) sameIds
  simpa [inLeft, inRight] using same

variable {settings : RunSettings} {getTask} {now : Time} {run next : OperationRun}
  {table : TargetTable} {row : OperationRunTarget} {dispatched : Dispatched}

namespace Dispatched.Steps

variable {targets : List OperationRunTarget}

theorem of_reconcile (same : dispatched.targets = targets.map (reconcileTarget getTask))
    (none : dispatched.claimed = []) : dispatched.Steps settings getTask now targets where
  steps := same ▸ forall₂_same.mpr fun _ _ => .keep
  sublist := none ▸ nil_sublist _
  claimed claimed claimedMem := by
    rw [none] at claimedMem
    cases claimedMem

theorem map_id (steps : dispatched.Steps settings getTask now targets) :
    dispatched.targets.map OperationRunTarget.id = targets.map OperationRunTarget.id := by
  have sameIds := rel_map (R := ClaimStep settings now) (P := (· = ·))
    (fun _ _ step => step.id_eq.symm) steps.steps
  rw [forall₂_eq_eq_eq, map_map] at sameIds
  rw [← sameIds]
  exact map_congr_left fun target _ => id_reconcileTarget getTask target

theorem exists_mem (steps : dispatched.Steps settings getTask now targets)
    {target : OperationRunTarget} (targetMem : target ∈ targets) :
    ∃ next ∈ dispatched.targets, ClaimStep settings now (reconcileTarget getTask target) next := by
  obtain ⟨index, bound, isTarget⟩ :=
    getElem_of_mem (mem_map_of_mem (f := reconcileTarget getTask) targetMem)
  have step := steps.steps.get bound (steps.steps.length_eq ▸ bound)
  rw [get_eq_getElem, isTarget] at step
  exact ⟨_, getElem_mem _, step⟩

variable {phaseIndex : Nat}

variable (steps : dispatched.Steps settings getTask now (table.ofPhase phaseIndex))
include steps

theorem applyStates_ofPhase (rowMem : row ∈ table.ofPhase phaseIndex) :
    ClaimStep settings now (reconcileTarget getTask row) (applyStates dispatched.targets row) ∧
      applyStates dispatched.targets row ∈ dispatched.targets := by
  obtain ⟨next, nextMem, step⟩ := steps.exists_mem rowMem
  have nodup : (dispatched.targets.map OperationRunTarget.id).Nodup :=
    steps.map_id ▸ table.nodup_ofPhase phaseIndex
  have sameId : next.id = row.id := step.id_eq.trans (id_reconcileTarget getTask row)
  rw [applyStates_of_mem nodup nextMem sameId, ← withState_reconcileTarget getTask,
    step.withState_eq]
  exact ⟨step, nextMem⟩

theorem applyStates_of_ne (rowMem : row ∈ table.rows) (elsewhere : row.phaseIndex ≠ phaseIndex) :
    applyStates dispatched.targets row = row := by
  refine applyStates_of_forall_ne fun target targetMem sameId => elsewhere ?_
  have idMem : target.id ∈ (table.ofPhase phaseIndex).map OperationRunTarget.id :=
    steps.map_id ▸ mem_map_of_mem targetMem
  obtain ⟨other, otherMem, otherId⟩ := mem_map.mp idMem
  obtain ⟨otherRow, otherPhase⟩ := mem_ofPhase.mp otherMem
  rwa [← table.eq_of_key_eq otherRow rowMem (otherId.trans sameId)]

theorem ofPhase_update :
    (table.update dispatched.targets).ofPhase phaseIndex = dispatched.targets := by
  rw [TargetTable.ofPhase_update]
  apply eq_of_map_id_eq
  · rw [map_map, steps.map_id]
    exact map_congr_left fun row _ => id_applyStates _ row
  · rw [steps.map_id]
    exact table.nodup_ofPhase phaseIndex
  · refine forall_mem_map.mpr fun row rowMem => ?_
    exact (steps.applyStates_ofPhase rowMem).2

omit steps in
/-- The summary of the rows afterwards is the summary that the attempt decides on. -/
theorem summary_update
    (steps : dispatched.Steps settings getTask now (table.ofPhase run.currentPhaseIndex)) :
    (table.update dispatched.targets).summary run =
      .new run.currentPhaseIndex run.totalPhases (table.completedStats run.currentPhaseIndex)
        dispatched.targets := by
  have completed : (table.update dispatched.targets).completedStats run.currentPhaseIndex =
      table.completedStats run.currentPhaseIndex := by
    simp only [completedStats, update, Table.modify, filter_map,
      Function.comp_def, phaseIndex_applyStates]
    congr 1
    refine (map_congr_left fun row rowMem => ?_).trans (List.map_id _)
    rw [mem_filter, decide_eq_true_eq] at rowMem
    exact steps.applyStates_of_ne rowMem.1 rowMem.2.ne
  rw [summary, completed, steps.ofPhase_update]

end Dispatched.Steps

theorem steps_claim (settings : RunSettings) (options : RunOptions) (run : OperationRun)
    (getTask : Uuid → TaskStatus × String) (targets : List OperationRunTarget) (now : Time) :
    (claim settings options run (targets.map (reconcileTarget getTask)) now).Steps settings
      getTask now targets := by
  unfold claim
  simp only
  split
  · exact .of_reconcile rfl rfl
  · obtain ⟨steps, sublist, ready⟩ := claimTargets_spec settings now _
      (targets.map (reconcileTarget getTask))
    refine ⟨steps, sublist, fun claimed claimedMem => ?_⟩
    obtain ⟨target, targetMem, ready⟩ := ready claimed claimedMem
    obtain ⟨old, oldMem, rfl⟩ := mem_map.mp targetMem
    exact ⟨old, oldMem, ready⟩

/-- A run that goes on, or ends on its own: it stays in its phase while a target of the phase is
open, and has an outcome only if its targets have it. The rows are those after the step. -/
structure OperationRun.Proceeds (table : TargetTable) (run next : OperationRun) : Prop where
  active : ¬run.status.isTerminal
  notCancelled : next.status ≠ .cancelled
  phase : ∀ target ∈ table.ofPhase run.currentPhaseIndex, ¬target.status.isTerminal →
    next.currentPhaseIndex = run.currentPhaseIndex
  phaseCases : next.currentPhaseIndex = run.currentPhaseIndex ∨
    next.currentPhaseIndex = run.currentPhaseIndex + 1
  totalPhases : next.totalPhases = run.totalPhases
  outcome : ∀ status, next.outcome? = some status →
    (table.summary run).terminalRunStatus = some status

theorem OperationRun.Proceeds.of_same (active : ¬run.status.isTerminal)
    (notCancelled : next.status ≠ .cancelled)
    (samePhase : next.currentPhaseIndex = run.currentPhaseIndex)
    (totalPhases : next.totalPhases = run.totalPhases) (noOutcome : next.outcome? = none) :
    run.Proceeds table next where
  active := active
  notCancelled := notCancelled
  phase _ _ _ := samePhase
  phaseCases := .inl samePhase
  totalPhases := totalPhases
  outcome status marked := by
    rw [noOutcome] at marked
    cases marked

theorem OperationRun.Proceeds.of_next (active : ¬run.status.isTerminal)
    (running : next.status = .running)
    (nextPhase : next.currentPhaseIndex = run.currentPhaseIndex + 1)
    (totalPhases : next.totalPhases = run.totalPhases)
    (terminal : ∀ target ∈ table.ofPhase run.currentPhaseIndex, target.status.isTerminal) :
    run.Proceeds table next where
  active := active
  notCancelled := by simp only [running, ne_eq, reduceCtorEq, not_false_eq_true]
  phase target targetMem isOpen := absurd (terminal target targetMem) isOpen
  phaseCases := .inr nextPhase
  totalPhases := totalPhases
  outcome status marked := by
    simp only [outcome?, running, reduceCtorEq] at marked

theorem outcome?_fail {message : String} (other : message ≠ failed.message) :
    (run.fail now message).outcome? = none := if_neg other

variable {status : OperationRunStatus}

theorem outcome?_outcomeTransition {summary : TargetPhaseSummary}
    (terminal : summary.terminalRunStatus = some status) (run : OperationRun) (now : Time) :
    ((outcomeTransition status).apply run now).outcome? = some status := by
  unfold terminalRunStatus at terminal
  repeat' split at terminal
  all_goals cases terminal
  all_goals rfl

/-- A run whose targets are all terminal is marked with their outcome. -/
theorem OperationRun.Proceeds.of_outcome (active : ¬run.status.isTerminal)
    (terminal : (table.summary run).terminalRunStatus = some status) (now : Time) :
    run.Proceeds table ((outcomeTransition status).apply run now) where
  active := active
  notCancelled := by
    cases status <;> simp [outcomeTransition, RunTransition.apply, fail,
      complete, completeWithFailures, finish]
  phase _ _ _ := by cases status <;> rfl
  phaseCases := .inl (by cases status <;> rfl)
  totalPhases := by cases status <;> rfl
  outcome marked isMarked := by
    rw [outcome?_outcomeTransition terminal] at isMarked
    rw [terminal, isMarked]

/-! ## Decisions -/

inductive Decided (options : RunOptions) (summary : TargetPhaseSummary) :
    DispatchDecision → Prop where
  | fail {message : String} (other : message ≠ failed.message) :
      Decided options summary (.stop (.fail message))
  | outcome {status : OperationRunStatus} (terminal : summary.terminalRunStatus = some status) :
      Decided options summary (.stop (outcomeTransition status))
  | pause (reason : OperationRunStatusReason) (message : String) :
      Decided options summary (.stop (.pause reason message))
  | advance {message : String} (auto : options.autoAdvance)
      (terminal : summary.currentPhaseTerminal) :
      Decided options summary (.advance (.start message))
  | claim (message : String) : Decided options summary (.claim (.start message))

theorem decided_phaseDecision (options : RunOptions) (summary : TargetPhaseSummary) :
    Decided options summary (phaseDecision options.autoAdvance summary) := by
  unfold phaseDecision
  split
  next => exact .claim _
  next stays =>
    rw [Bool.or_eq_true, not_or, Bool.not_eq_true', Bool.not_eq_false] at stays
    split
    next auto => exact .advance auto stays.1
    next => exact .pause _ _

theorem decided_decideDispatch (options : RunOptions) (run : OperationRun)
    (summary : TargetPhaseSummary) (now : Time) :
    Decided options summary (decideDispatch options run summary now) := by
  unfold decideDispatch
  split
  · refine .fail fun same => ?_
    have character := congrArg (fun text => text.toList[14]?) same
    simp [message, String.toList_append] at character
  · split
    · exact .fail (by decide)
    · split
      next status terminal => exact .outcome terminal
      next =>
        split
        · exact .pause _ _
        · split
          · exact .pause _ _
          · exact decided_phaseDecision options summary

section Attempt

variable (ran : dispatchRunInTransaction settings getTask now run table = dispatched)
include ran

theorem dispatch_steps :
    dispatched.targets = [] ∧ dispatched.claimed = [] ∨
      dispatched.Steps settings getTask now (table.ofPhase run.currentPhaseIndex) := by
  subst ran
  unfold dispatchRunInTransaction
  split
  · exact .inl ⟨rfl, rfl⟩
  · right
    simp only
    split
    · exact .of_reconcile rfl rfl
    · exact .of_reconcile rfl rfl
    · exact steps_claim ..

/-- A row afterwards: one of the current phase has been reconciled and perhaps claimed. -/
theorem dispatch_row (rowMem : row ∈ table.rows) :
    applyStates dispatched.targets row = row ∨ row.phaseIndex = run.currentPhaseIndex ∧
        ClaimStep settings now (reconcileTarget getTask row)
          (applyStates dispatched.targets row) := by
  obtain ⟨noTargets, -⟩ | steps := dispatch_steps ran
  · rw [noTargets]
    exact .inl rfl
  · by_cases inPhase : row.phaseIndex = run.currentPhaseIndex
    · exact .inr ⟨inPhase, (steps.applyStates_ofPhase (mem_ofPhase.mpr ⟨rowMem, inPhase⟩)).1⟩
    · exact .inl (steps.applyStates_of_ne rowMem inPhase)

theorem dispatch_claimed {claimed : OperationRunTarget}
    (claimedMem : claimed ∈ dispatched.claimed) :
    ∃ row ∈ table.ofPhase run.currentPhaseIndex,
      targetReadyForSubmission (reconcileTarget getTask row) now ∧
        claimed = (reconcileTarget getTask row).claim (now + settings.claimLease)
          "claimed for submission" ∧
        applyStates dispatched.targets row = claimed := by
  obtain ⟨-, none⟩ | steps := dispatch_steps ran
  · rw [none] at claimedMem
    cases claimedMem
  · obtain ⟨row, rowMem, ready, claimedEq⟩ := steps.claimed claimed claimedMem
    have sameId : claimed.id = row.id := by
      rw [claimedEq]
      exact id_reconcileTarget getTask row
    have nodup := steps.map_id ▸ table.nodup_ofPhase run.currentPhaseIndex
    refine ⟨row, rowMem, ready, claimedEq, ?_⟩
    rw [applyStates_of_mem nodup (steps.sublist.subset claimedMem) sameId,
      ← withState_reconcileTarget getTask, claimedEq]
    rfl

theorem dispatch_nodup : (dispatched.claimed.map OperationRunTarget.id).Nodup := by
  obtain ⟨-, none⟩ | steps := dispatch_steps ran
  · rw [none]
    exact .nil
  · have nodup := steps.map_id ▸ table.nodup_ofPhase run.currentPhaseIndex
    exact nodup.sublist (steps.sublist.map OperationRunTarget.id)

/-- A run goes on, and only one with automatic advance is moved to the next phase. -/
theorem dispatch_spec (runnable : run.status.isRunnable) :
    run.Proceeds (table.update dispatched.targets) dispatched.run ∧
      ∀ options, settings.options = .ok options → options.autoAdvance = false →
        dispatched.run.currentPhaseIndex = run.currentPhaseIndex := by
  subst ran
  have active := not_isTerminal_of_isRunnable runnable
  unfold dispatchRunInTransaction
  split
  next message _ =>
    refine ⟨.of_same active (by nofun) rfl rfl (outcome?_fail fun same => ?_), fun _ _ _ => rfl⟩
    have character := congrArg (fun text => text.toList[0]?) same
    simp [OperationRunStatus.message, String.toList_append] at character
  next options valid =>
    have steps : Dispatched.Steps settings getTask now (table.ofPhase run.currentPhaseIndex)
        ⟨run, (table.ofPhase run.currentPhaseIndex).map (reconcileTarget getTask), []⟩ :=
      .of_reconcile rfl rfl
    have summaryEq := steps.summary_update
    have decided := decided_decideDispatch options run
      (.new run.currentPhaseIndex run.totalPhases (table.completedStats run.currentPhaseIndex)
        ((table.ofPhase run.currentPhaseIndex).map (reconcileTarget getTask))) now
    simp only
    generalize decideDispatch options run _ now = decision at decided ⊢
    cases decided with
    | fail other =>
      exact ⟨.of_same active (by nofun) rfl rfl (outcome?_fail other), fun _ _ _ => rfl⟩
    | @outcome status terminal =>
      refine ⟨.of_outcome active (summaryEq ▸ terminal) now, fun _ _ _ => ?_⟩
      cases status <;> rfl
    | pause reason message =>
      exact ⟨.of_same active (by nofun) rfl rfl rfl, fun _ _ _ => rfl⟩
    | advance auto terminal =>
      refine ⟨.of_next active rfl rfl rfl fun target targetMem => ?_,
        fun same sameValid manual => ?_⟩
      · rw [steps.ofPhase_update] at targetMem
        exact isTerminal_of_currentPhaseTerminal terminal targetMem
      · cases valid.symm.trans sameValid
        cases manual.symm.trans auto
    | claim message =>
      unfold claim
      simp only
      split
      · exact ⟨.of_same active (by nofun) rfl rfl rfl, fun _ _ _ => rfl⟩
      · split <;> exact ⟨.of_same active (by nofun) rfl rfl rfl, fun _ _ _ => rfl⟩

end Attempt

/-! ## Controls -/

theorem pauseRun_proceeds (paused : pauseRun run = .ok next) : run.Proceeds table next := by
  unfold pauseRun at paused
  split at paused
  next => cases paused
  next canPause =>
    have active : ¬run.status.isTerminal := by
      simpa only [OperationRun.canPause, Bool.not_not, Bool.not_eq_true] using canPause
    split at paused
    next isPaused =>
      cases paused
      refine .of_same active ?_ rfl rfl ?_
      · simp [isPaused]
      · simp only [outcome?, isPaused]
    next =>
      cases paused
      exact .of_same active (by nofun) rfl rfl rfl

theorem currentPhaseIndex_of_pauseRun (paused : pauseRun run = .ok next) :
    next.currentPhaseIndex = run.currentPhaseIndex := by
  unfold pauseRun at paused
  repeat' split at paused
  all_goals cases paused
  all_goals rfl

theorem phase_cancelRun (reason : String) (now : Time) (run : OperationRun) :
    (cancelRun reason now run).currentPhaseIndex = run.currentPhaseIndex ∧
      (cancelRun reason now run).totalPhases = run.totalPhases := by
  unfold cancelRun
  split <;> exact ⟨rfl, rfl⟩

theorem outcome?_cancelRun (active : ¬run.status.isTerminal) (reason : String) (now : Time) :
    (cancelRun reason now run).outcome? = none := by
  unfold cancelRun
  rw [if_neg active]
  rfl

variable {continuation : Continuation}

theorem status_of_ensureCanContinueRun (can : ensureCanContinueRun run continuation = .ok ()) :
    run.status = .paused := by
  cases continuation with
  | resume =>
    simp only [ensureCanContinueRun] at can
    split at can
    next canResume =>
      simp only [OperationRun.canResume, Bool.and_eq_true, beq_iff_eq] at canResume
      exact canResume.1
    next =>
      repeat' split at can
      all_goals cases can
  | advancePhase expectedPhaseIndex =>
    simp only [ensureCanContinueRun] at can
    split at can
    next canAdvance =>
      simp only [OperationRun.canAdvancePhase, Bool.and_eq_true, beq_iff_eq] at canAdvance
      exact canAdvance.1
    next => cases can

theorem currentPhaseTerminal_of_ensurePhaseCanAdvance {summary : TargetPhaseSummary}
    {expectedPhaseIndex : Nat} (can : ensurePhaseCanAdvance summary expectedPhaseIndex = .ok ()) :
    summary.currentPhaseTerminal := by
  unfold ensurePhaseCanAdvance at can
  split at can
  next => cases can
  next terminal => simpa only [Bool.not_eq_true', Bool.not_eq_false] using terminal

theorem continueOperationRun_proceeds
    (continued : continueOperationRun continuation now run table = .ok next) :
    run.Proceeds table next := by
  obtain ⟨_, can, continued⟩ := Checked.bind_eq_ok.mp continued
  have active : ¬run.status.isTerminal := by
    rw [status_of_ensureCanContinueRun can]
    nofun
  simp only at continued
  split at continued
  next status terminal =>
    cases continued
    exact .of_outcome active terminal now
  next =>
    cases continuation with
    | resume =>
      cases continued
      exact .of_same active (by nofun) rfl rfl rfl
    | advancePhase expectedPhaseIndex =>
      simp only at continued
      generalize summaryEq : new _ _ _ _ = summary at continued
      cases canAdvance : ensurePhaseCanAdvance summary expectedPhaseIndex with
      | error error =>
        rw [canAdvance] at continued
        cases continued
      | ok _ =>
        rw [canAdvance] at continued
        cases continued
        refine .of_next active rfl rfl rfl fun target targetMem => ?_
        have terminal := currentPhaseTerminal_of_ensurePhaseCanAdvance canAdvance
        rw [← summaryEq] at terminal
        exact isTerminal_of_currentPhaseTerminal terminal targetMem

theorem currentPhaseIndex_of_resume
    (resumed : continueOperationRun .resume now run table = .ok next) :
    next.currentPhaseIndex = run.currentPhaseIndex := by
  obtain ⟨_, -, resumed⟩ := Checked.bind_eq_ok.mp resumed
  simp only at resumed
  split at resumed
  next status _ =>
    cases resumed
    cases status <;> rfl
  next =>
    cases resumed
    rfl

end Flow
