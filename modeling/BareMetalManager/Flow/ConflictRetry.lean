import BareMetalManager.Flow.DispatchSteps

/-!
# Retries after rack conflicts

A target that is rejected with a rack conflict is blocked and claimed again after a delay; a run
with a target that was blocked for the whole retry window is paused. The back-off is kept in the
row of the target. A claim clears it, so every block is a first one, and a resumed run is paused
again because the row of the blocked target stays as it is.
-/

namespace Flow

open List TargetPhaseSummary

def OperationRunTarget.Expired (policy : ConflictRetryPolicy) (now : Time)
    (target : OperationRunTarget) : Prop :=
  target.status = .blocked ∧
    ∃ since ∈ (target.retryState.getD {}).blockedSince, since + policy.retryTimeout ≤ now

/-- The run is paused with the reason `conflict_retry_timeout`. -/
def OperationRun.TimedOut (run : OperationRun) : Prop :=
  run.status = .paused ∧ run.statusReason = .conflictRetryTimeout

/-- The ready targets in their order, as far as the free slots go. -/
def toClaim (settings : RunSettings) (options : RunOptions) (now : Time)
    (targets : List OperationRunTarget) : List OperationRunTarget :=
  ((targets.filter (targetReadyForSubmission · now)).take
    (options.maxConcurrentTargets - targets.countP (targetConsumesQuota · now))).map
      (·.claim (now + settings.claimLease) "claimed for submission")

variable (getTask : Uuid → TaskStatus × String) (run : OperationRun) (table : TargetTable)

/-- The targets of the current phase, as an attempt decides on them. -/
def reconciled : List OperationRunTarget :=
  (table.ofPhase run.currentPhaseIndex).map (reconcileTarget getTask)

def reconciledSummary : TargetPhaseSummary :=
  .new run.currentPhaseIndex run.totalPhases (table.completedStats run.currentPhaseIndex)
    (reconciled getTask run table)

variable {settings : RunSettings} {options : RunOptions} {policy : ConflictRetryPolicy}
  {now : Time} {getTask : Uuid → TaskStatus × String} {row target : OperationRunTarget}
  {targets : List OperationRunTarget} {run : OperationRun} {table : TargetTable}

/-! ## Targets -/

theorem conflictRetryTimedOut_eq_none :
    conflictRetryTimedOut targets policy now = none ↔
      ∀ target ∈ targets, ¬target.Expired policy now := by
  simp only [conflictRetryTimedOut, Option.map_eq_none_iff, List.find?_eq_none, Bool.and_eq_true,
    beq_iff_eq, Option.any_eq_true, decide_eq_true_eq, OperationRunTarget.Expired, Option.mem_def]

/-- Only a target without a child task stays blocked. -/
theorem expired_reconcileTarget :
    (reconcileTarget getTask row).Expired policy now ↔
      row.taskId = none ∧ row.Expired policy now := by
  unfold reconcileTarget
  split
  next noTask => simp only [noTask, true_and]
  next taskId hasTask =>
    rw [hasTask]
    refine iff_of_false (fun expired => ?_) nofun
    have blocked := expired.1
    split at blocked
    next terminal => simp [blocked, OperationRunTargetStatus.isTerminal] at terminal
    next => cases status : (getTask taskId).1 <;> rw [status] at blocked <;> cases blocked

theorem not_ready_of_isTerminal (terminal : target.status.isTerminal) :
    ¬targetReadyForSubmission target now := by
  unfold targetReadyForSubmission
  cases status : target.status with
  | pending | claimed | blocked | submitted =>
    rw [status] at terminal
    cases terminal
  | completed | failed | terminated | skipped => exact Bool.false_ne_true

theorem toClaim_of_terminal (terminal : ∀ target ∈ targets, target.status.isTerminal) :
    toClaim settings options now targets = [] := by
  have noneReady : targets.filter (targetReadyForSubmission · now) = [] :=
    filter_eq_nil_iff.mpr fun target targetMem =>
      not_ready_of_isTerminal (terminal target targetMem)
  rw [toClaim, noneReady, take_nil, map_nil]

theorem claimTargets_snd (available : Nat) (targets : List OperationRunTarget) :
    (claimTargets settings now available targets).2 =
      if settings.requestError = none then
        ((targets.filter (targetReadyForSubmission · now)).take available).map
          (·.claim (now + settings.claimLease) "claimed for submission")
      else [] := by
  induction targets generalizing available with
  | nil => simp [claimTargets]
  | cons target targets ih =>
    by_cases ready : targetReadyForSubmission target now
    · cases available with
      | zero => simp [claimTargets, ih]
      | succ available => cases template : settings.requestError <;> simp_all [claimTargets]
    · simp [claimTargets, ready, ih]

theorem claim_spec (settings : RunSettings) (options : RunOptions) (run : OperationRun)
    (targets : List OperationRunTarget) (now : Time) :
    (claim settings options run targets now).run.status = run.status ∧
      (claim settings options run targets now).claimed =
        if settings.requestError = none then toClaim settings options now targets else [] := by
  unfold claim toClaim
  simp only
  split
  next full =>
    rw [Nat.sub_eq_zero_of_le full, take_zero, map_nil, ite_self]
    exact ⟨rfl, rfl⟩
  next =>
    refine ⟨?_, claimTargets_snd ..⟩
    split <;> rfl

/-! ## Attempts -/

/-- The current phase has nothing left to do. -/
def TargetPhaseSummary.IsOver (summary : TargetPhaseSummary) : Prop :=
  summary.currentPhaseStats.selectedTargets = 0 ∨ summary.currentPhaseTerminal

theorem isTerminal_of_isOver (isOver : (reconciledSummary getTask run table).IsOver)
    (targetMem : target ∈ reconciled getTask run table) : target.status.isTerminal := by
  obtain none | terminal := isOver
  · simp only [reconciledSummary, new, PhaseStats.selectedTargets_addTargets,
      zero_add, length_eq_zero_iff] at none
    rw [none] at targetMem
    cases targetMem
  · exact isTerminal_of_currentPhaseTerminal terminal targetMem

section Decision

variable {summary : TargetPhaseSummary}

theorem isOver_of_terminalRunStatus {status : OperationRunStatus}
    (terminal : summary.terminalRunStatus = some status) : summary.IsOver := by
  by_contra working
  simp only [TargetPhaseSummary.IsOver, not_or, Bool.not_eq_true] at working
  simp [terminalRunStatus, isAllTerminal, working.2]
    at terminal

/-- While the phase goes on, the conflict policy decides first. -/
theorem decide_of_timedOut {message : String} (working : ¬summary.IsOver)
    (timedOut : conflictRetryTimedOut summary.currentPhaseTargets options.conflictPolicy now =
      some message) :
    decideDispatch options run summary now = .stop (.pause .conflictRetryTimeout message) := by
  have running : summary.terminalRunStatus = none :=
    Option.eq_none_iff_forall_ne_some.mpr fun _ terminal =>
      working (isOver_of_terminalRunStatus terminal)
  simp only [TargetPhaseSummary.IsOver, not_or] at working
  rw [decideDispatch, if_neg, if_neg, running]
  · simp only [timedOut]
  · simp only [selectedTargetCount]
    omega
  · simp [currentPhaseEmpty, working.1]

/-- Without a conflict that lasts too long, and without a tripped gate, an attempt claims unless
the phase is over. -/
theorem decide_of_inTime (run : OperationRun)
    (inTime : conflictRetryTimedOut summary.currentPhaseTargets options.conflictPolicy now = none)
    (noGate : summary.evaluateSafetyGates options.gates = none) :
    decideDispatch options run summary now = .claim (.start "") ∨ summary.IsOver ∧
      ∃ transition, (decideDispatch options run summary now = .stop transition ∨
          decideDispatch options run summary now = .advance transition) ∧
        ∀ before : OperationRun, ¬(transition.apply before now).TimedOut := by
  unfold decideDispatch
  simp only [inTime, noGate]
  split
  next isEmpty =>
    simp only [currentPhaseEmpty, Bool.and_eq_true, beq_iff_eq] at isEmpty
    exact .inr ⟨.inl isEmpty.1, _, .inl rfl, fun _ timedOut => nomatch timedOut.1⟩
  next =>
    split
    next isEmpty =>
      exact .inr ⟨.inl (Nat.eq_zero_of_add_eq_zero_left isEmpty), _, .inl rfl,
        fun _ timedOut => nomatch timedOut.1⟩
    next =>
      split
      next status terminal =>
        refine .inr ⟨isOver_of_terminalRunStatus terminal, _, .inl rfl, fun before timedOut => ?_⟩
        have reason : ((outcomeTransition status).apply before now).statusReason = .none := by
          cases status <;> rfl
        cases reason.symm.trans timedOut.2
      next =>
        unfold phaseDecision
        split
        next => exact .inl rfl
        next terminal =>
          rw [Bool.or_eq_true, not_or, Bool.not_eq_true', Bool.not_eq_false] at terminal
          split
          next => exact .inr ⟨.inr terminal.1, _, .inr rfl, fun _ timedOut => nomatch timedOut.1⟩
          next => exact .inr ⟨.inr terminal.1, _, .inl rfl, fun _ timedOut => nomatch timedOut.2⟩

end Decision

section Attempt

variable (valid : settings.options = .ok options)
include valid

theorem timedOut_of_expired (targetMem : target ∈ reconciled getTask run table)
    (expired : target.Expired options.conflictPolicy now) :
    (dispatchRunInTransaction settings getTask now run table).run.TimedOut := by
  have working : ¬(reconciledSummary getTask run table).IsOver := fun isOver => by
    have terminal := isTerminal_of_isOver isOver targetMem
    rw [expired.1] at terminal
    cases terminal
  obtain ⟨message, timedOut⟩ := Option.ne_none_iff_exists'.mp fun none =>
    conflictRetryTimedOut_eq_none.mp none target targetMem expired
  rw [dispatchRunInTransaction, valid]
  simp only
  rw [← reconciled, ← reconciledSummary, decide_of_timedOut working timedOut]
  exact ⟨rfl, rfl⟩

theorem claimed_of_unexpired
    (unexpired : ∀ target ∈ reconciled getTask run table,
      ¬target.Expired options.conflictPolicy now)
    (noGate : (reconciledSummary getTask run table).evaluateSafetyGates options.gates = none) :
    ¬(dispatchRunInTransaction settings getTask now run table).run.TimedOut ∧
      (dispatchRunInTransaction settings getTask now run table).claimed =
        if settings.requestError = none then
          toClaim settings options now (reconciled getTask run table)
        else [] := by
  rw [dispatchRunInTransaction, valid]
  simp only
  rw [← reconciled, ← reconciledSummary]
  obtain isClaim | ⟨isOver, transition, stops, goesOn⟩ :=
    decide_of_inTime run (conflictRetryTimedOut_eq_none.mpr unexpired) noGate
  · rw [isClaim]
    obtain ⟨status, claimed⟩ := claim_spec settings options
      (RunTransition.apply run now (.start ""))
      (reconciled getTask run table) now
    refine ⟨fun timedOut => ?_, claimed⟩
    cases status.symm.trans timedOut.1
  · rw [toClaim_of_terminal fun _ => isTerminal_of_isOver isOver, ite_self]
    obtain stop | advance := stops
    · rw [stop]
      exact ⟨goesOn run, rfl⟩
    · rw [advance]
      exact ⟨goesOn _, rfl⟩

end Attempt

/-! ## Conflicts in a row -/

/-- One claim of a target whose submission is rejected with a rack conflict. -/
structure ConflictRound where
  claimedAt : Time
  blockedAt : Time
  message : String

/-- The row of a target through claims and rejections, with what `claim` and `submit` do. -/
def conflictRounds (policy : ConflictRetryPolicy) (claimLease : Nat) :
    Machine ConflictRound OperationRunTarget where
  step round target :=
    if targetReadyForSubmission target round.claimedAt ∧ round.claimedAt ≤ round.blockedAt then
      some (submitTarget policy
        (target.claim (round.claimedAt + claimLease) "claimed for submission") round.blockedAt
          (.rackConflict round.message)).1
    else none

/-- The delays double up to the largest one, and the retry window begins with the first block. -/
structure BacksOff (policy : ConflictRetryPolicy) (first : ConflictRound)
    (rest : List ConflictRound) (blocked : OperationRunTarget) : Prop where
  retryAfter : blocked.retryAfter = some (((first :: rest).getLast
    (List.cons_ne_nil _ _)).blockedAt +
    min (policy.initialRetryDelay * 2 ^ rest.length) policy.maxRetryDelay)
  blockedSince : ∃ state, blocked.retryState = some state ∧
    state.blockedSince = some first.blockedAt
  timesOut : ∀ settings options getTask now run table, settings.options = .ok options →
    options.conflictPolicy = policy → blocked ∈ reconciled getTask run table →
      first.blockedAt + policy.retryTimeout ≤ now →
        (dispatchRunInTransaction settings getTask now run table).run.TimedOut

/-- `Validate`, and the delays are whole seconds. -/
structure ConflictRetryPolicy.Valid (policy : ConflictRetryPolicy) : Prop where
  timeout : 0 < policy.retryTimeout
  initial : 0 < policy.initialRetryDelay
  max : policy.initialRetryDelay ≤ policy.maxRetryDelay
  wholeInitial : second ∣ policy.initialRetryDelay
  wholeMax : second ∣ policy.maxRetryDelay

section Rounds

variable {claimLease : Nat} {first round : ConflictRound} {rest rounds : List ConflictRound}
  {blocked : OperationRunTarget} (valid : policy.Valid)
include valid

/-- Each block is a first one. -/
theorem blocked_of_round
    (stepped : (conflictRounds policy claimLease).step round target = some blocked) :
    round.claimedAt ≤ round.blockedAt ∧ blocked.status = .blocked ∧
      blocked.retryAfter = some (round.blockedAt + policy.initialRetryDelay) ∧ blocked.retryState =
        some ⟨some round.blockedAt, 1, policy.initialRetryDelay / second⟩ := by
  obtain ⟨⟨-, inOrder⟩, isBlocked⟩ := Option.ite_none_right_eq_some.mp stepped
  cases isBlocked
  refine ⟨inOrder, rfl, ?_, rfl⟩
  exact congrArg (fun delay => some (round.blockedAt + delay))
    (Nat.div_mul_cancel valid.wholeInitial)

/-- After more conflicts the window begins with the last block, behind the earlier delays. -/
theorem blockedSince_of_run {retryAfter : Time} (isBlocked : target.status = .blocked)
    (delayed : target.retryAfter = some retryAfter) (more : rounds ≠ [])
    (ran : (conflictRounds policy claimLease).run rounds target = some blocked) :
    ∃ state since, blocked.retryState = some state ∧ state.blockedSince = some since ∧
      retryAfter ≤ since := by
  induction rounds generalizing target retryAfter with
  | nil => exact absurd rfl more
  | cons round rounds ih =>
    obtain ⟨next, stepped, ran⟩ := (Machine.run_cons_eq_some _).mp ran
    obtain ⟨⟨ready, -⟩, -⟩ := Option.ite_none_right_eq_some.mp stepped
    obtain ⟨inOrder, nextBlocked, nextDelayed, nextState⟩ := blocked_of_round valid stepped
    have reclaimed : retryAfter ≤ round.blockedAt := by
      refine le_trans ?_ inOrder
      simpa [targetReadyForSubmission, isBlocked, delayed] using ready
    cases rounds with
    | nil =>
      cases ran
      exact ⟨_, _, nextState, rfl, reclaimed⟩
    | cons later rounds =>
      obtain ⟨state, since, isState, isSince, after⟩ :=
        ih nextBlocked nextDelayed (cons_ne_nil _ _) ran
      exact ⟨state, since, isState, isSince, reclaimed.trans (le_self_add.trans after)⟩

/-- The back-off is right after one conflict and after no more. -/
theorem backsOff_iff_once
    (ran : (conflictRounds policy claimLease).run (first :: rest) target = some blocked) :
    BacksOff policy first rest blocked ↔ rest = [] := by
  obtain ⟨middle, stepped, ran⟩ := (Machine.run_cons_eq_some _).mp ran
  obtain ⟨-, isBlocked, retryAfter, retryState⟩ := blocked_of_round valid stepped
  constructor
  · intro backsOff
    by_contra more
    obtain ⟨state, since, isState, isSince, after⟩ :=
      blockedSince_of_run valid isBlocked retryAfter more ran
    obtain ⟨_, sameState, isFirst⟩ := backsOff.blockedSince
    cases isState.symm.trans sameState
    cases isSince.symm.trans isFirst
    exact absurd valid.initial (Nat.not_lt.mpr (by simpa using after))
  · rintro rfl
    cases ran
    refine ⟨?_, ⟨_, retryState, rfl⟩, ?_⟩
    · rwa [length_nil, Nat.pow_zero, mul_one, min_eq_left valid.max]
    · rintro settings options getTask now run table isValid rfl targetMem expired
      refine timedOut_of_expired isValid targetMem ⟨isBlocked, first.blockedAt, ?_, expired⟩
      rw [retryState]
      rfl

end Rounds

/-- Retries for one minute, with delays of 10 and then at most 30 seconds. -/
def minuteOfRetries : RunOptions where
  maxConcurrentTargets := 1
  gates := []
  conflictPolicy := ⟨60 * second, 10 * second, 30 * second⟩
  autoAdvance := false

theorem valid_minuteOfRetries : minuteOfRetries.conflictPolicy.Valid :=
  ⟨by decide, by decide, by decide, ⟨10, by decide⟩, ⟨30, by decide⟩⟩

def pendingTarget : OperationRunTarget := ⟨1, 0, none, .pending, "", none, none⟩

/-- After the second conflict, ten seconds after the first, the delay is 10 seconds again, and
the window begins anew. -/
theorem not_backsOff_twice :
    ∃ blocked, (conflictRounds minuteOfRetries.conflictPolicy 30).run
        [⟨0, 0, "busy"⟩, ⟨10 * second, 10 * second, "busy"⟩] pendingTarget = some blocked ∧
      ¬BacksOff minuteOfRetries.conflictPolicy ⟨0, 0, "busy"⟩
        [⟨10 * second, 10 * second, "busy"⟩] blocked := by
  refine ⟨_, rfl, fun backsOff => ?_⟩
  have retryAfter := backsOff.retryAfter
  revert retryAfter
  decide

theorem backsOff_once :
    ∃ blocked, (conflictRounds minuteOfRetries.conflictPolicy 30).run [⟨0, 0, "busy"⟩]
        pendingTarget = some blocked ∧
      BacksOff minuteOfRetries.conflictPolicy ⟨0, 0, "busy"⟩ [] blocked := by
  obtain ⟨blocked, ran⟩ : ∃ blocked, (conflictRounds minuteOfRetries.conflictPolicy 30).run
      [⟨0, 0, "busy"⟩] pendingTarget = some blocked := ⟨_, rfl⟩
  exact ⟨blocked, ran, (backsOff_iff_once valid_minuteOfRetries ran).mpr rfl⟩

/-! ## Resuming -/

/-- A run that was paused for a blocked target is resumed and goes on. -/
structure Resumed (resumedAt : Time) (table : TargetTable) (run next : OperationRun) : Prop where
  timedOut : run.TimedOut
  resumed : continueOperationRun .resume resumedAt run table = .ok next
  active : ¬next.status.isTerminal

/-- What the first attempt on a resumed run is for. -/
structure Retries (settings : RunSettings) (options : RunOptions) (now : Time)
    (targets : List OperationRunTarget) (dispatched : Dispatched) : Prop where
  notPaused : ¬dispatched.run.TimedOut
  claimed : dispatched.claimed = toClaim settings options now targets

/-- The first attempt on a resumed run claims what is ready if and only if no row of the phase was
blocked for the whole retry window, and the template gives a request if something is ready. -/
theorem retries_iff {resumedAt : Time} {before : TargetTable} {next : OperationRun}
    (resumed : Resumed resumedAt before run next) (valid : settings.options = .ok options)
    (noGate : (reconciledSummary getTask next table).evaluateSafetyGates options.gates = none) :
    Retries settings options now (reconciled getTask next table)
        (dispatchRunInTransaction settings getTask now next table) ↔
      (∀ row ∈ table.ofPhase run.currentPhaseIndex, row.taskId = none →
          ¬row.Expired options.conflictPolicy now) ∧
        (settings.requestError ≠ none →
          toClaim settings options now (reconciled getTask next table) = []) := by
  have unexpired_iff : (∀ row ∈ table.ofPhase run.currentPhaseIndex, row.taskId = none →
        ¬row.Expired options.conflictPolicy now) ↔
      ∀ target ∈ reconciled getTask next table, ¬target.Expired options.conflictPolicy now := by
    rw [reconciled, currentPhaseIndex_of_resume resumed.resumed, forall_mem_map]
    simp only [expired_reconcileTarget, not_and]
  rw [unexpired_iff]
  constructor
  · intro retries
    have unexpired : ∀ target ∈ reconciled getTask next table,
        ¬target.Expired options.conflictPolicy now := fun target targetMem expired =>
      retries.notPaused (timedOut_of_expired valid targetMem expired)
    refine ⟨unexpired, fun error => ?_⟩
    rw [← retries.claimed, (claimed_of_unexpired valid unexpired noGate).2, if_neg error]
  · rintro ⟨unexpired, template⟩
    obtain ⟨notPaused, claimed⟩ := claimed_of_unexpired valid unexpired noGate
    refine ⟨notPaused, claimed.trans ?_⟩
    split
    next => rfl
    next error => exact (template error).symm

def minuteSettings : RunSettings := { options := .ok minuteOfRetries }

/-- A run with one target, which has been blocked for ten seconds or more. -/
def blockedTable (since : Time) : TargetTable where
  rows := [⟨1, 0, none, .blocked, "", some (since + 10 * second), some ⟨some since, 1, 10⟩⟩]
  keysNodup := List.nodup_singleton _

def timedOutRun : OperationRun where
  status := .paused
  statusReason := .conflictRetryTimeout
  statusMessage := ""
  currentPhaseIndex := 0
  totalPhases := 1
  startedAt := some 0
  finishedAt := none

def resumedRun : OperationRun := timedOutRun.start (100 * second) "operation run resumed"

theorem resumed_timedOutRun : Resumed (100 * second) (blockedTable 0) timedOutRun resumedRun :=
  ⟨⟨rfl, rfl⟩, by decide, by decide⟩

def noTask (_ : Uuid) : TaskStatus × String := (.unknown, "")

/-- One second after the run is resumed it is paused again, with the same reason. -/
theorem not_retries_timedOutRun :
    ¬Retries minuteSettings minuteOfRetries (101 * second)
      (reconciled noTask resumedRun (blockedTable 0))
      (dispatchRunInTransaction minuteSettings noTask (101 * second) resumedRun (blockedTable 0)) :=
  fun retries => retries.notPaused ⟨by decide, by decide⟩

theorem retries_of_laterBlock :
    Retries minuteSettings minuteOfRetries (101 * second)
      (reconciled noTask resumedRun (blockedTable (90 * second)))
      (dispatchRunInTransaction minuteSettings noTask (101 * second) resumedRun
        (blockedTable (90 * second))) := by
  refine (retries_iff resumed_timedOutRun rfl rfl).mpr ⟨fun row rowMem _ expired => ?_, nofun⟩
  rw [mem_singleton.mp rowMem] at expired
  obtain ⟨-, since, isSince, expired⟩ := expired
  cases isSince
  revert expired
  decide

end Flow
