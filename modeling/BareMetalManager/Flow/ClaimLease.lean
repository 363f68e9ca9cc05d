import BareMetalManager.Flow.RunExecution

/-!
# Claims and their leases

An attempt submits the targets that it has claimed after its transaction, while other
attempts run. A claim whose lease has not expired is still in its row, and no other attempt
holds it, as long as every result is written before the lease of its claim expires.
-/

namespace Flow

open List TargetTable OperationRunTarget

def OperationRunTarget.isLeased (target : OperationRunTarget) (now : Time) : Bool :=
  target.retryAfter.any fun lease => now < lease

variable {target : OperationRunTarget} {now : Time}

theorem OperationRunTarget.isLeased_of_le {earlier later : Time} (le : earlier ≤ later)
    (leased : target.isLeased later) : target.isLeased earlier := by
  obtain ⟨lease, leaseEq, before⟩ := (Option.any_eq_true _ _).mp leased
  refine (Option.any_eq_true _ _).mpr ⟨lease, leaseEq, ?_⟩
  simp only [decide_eq_true_eq] at before ⊢
  exact Nat.lt_of_le_of_lt le before

theorem not_ready_of_isLeased (claimed : target.status = .claimed) (leased : target.isLeased now) :
    targetReadyForSubmission target now = false := by
  obtain ⟨lease, leaseEq, before⟩ := (Option.any_eq_true _ _).mp leased
  simp only [decide_eq_true_eq] at before
  simp only [targetReadyForSubmission, claimed, leaseEq, Option.all_some, decide_eq_false_iff_not]
  exact Nat.not_le.mpr before

variable {getTask : Uuid → TaskStatus × String}

theorem reconcileTarget_of_none (noTask : target.taskId = none) :
    reconcileTarget getTask target = target := by
  unfold reconcileTarget
  rw [noTask]

theorem id_submitTarget (policy : ConflictRetryPolicy) (target : OperationRunTarget) (now : Time)
    (result : SubmitResult) : (submitTarget policy target now result).1.id = target.id := by
  unfold submitTarget
  split
  · split <;> rfl
  all_goals rfl

variable {claim : OperationRunTarget}

theorem submitTarget_cases {policy : ConflictRetryPolicy} {result : SubmitResult}
    (single : result.isSingle) (noTask : claim.taskId = none) :
    result.tasks = (submitTarget policy claim now result).1.taskId.toList ∧
      ((submitTarget policy claim now result).1.taskId = none ∨
        (submitTarget policy claim now result).1.status = .submitted) := by
  cases result with
  | taskIds ids =>
    match ids, single with
    | [created], single =>
      simp only [SubmitResult.isSingle, ne_eq, decide_eq_true_eq] at single
      simp only [submitTarget, if_neg single]
      exact ⟨rfl, .inr rfl⟩
  | rackConflict message => exact ⟨rfl, .inl rfl⟩
  | error message =>
    have noTaskAfter : (claim.fail message).taskId = none := noTask
    simp only [SubmitResult.tasks, submitTarget, noTaskAfter, Option.toList_none]
    exact ⟨trivial, .inl trivial⟩

namespace OperationRunManager

/-- The claims of an attempt whose results are not written yet. -/
def Point.claims : Point → List OperationRunTarget
  | submit _ _ _ claimed => claimed
  | updateTargetAfterSubmit _ _ _ claim _ _ rest => claim :: rest
  | idle | dispatchRunAttempt _ _ | listTargets | cancelTasks _ => []

/-- An attempt works with the time at which its dispatch began, and writes what came out of
the submission. -/
def Point.Valid (clock : Time) : Point → Prop
  | dispatchRunAttempt now _ | submit now _ _ _ => now ≤ clock
  | updateTargetAfterSubmit now _ _ claim target _ _ =>
    now ≤ clock ∧
      ∃ policy result, result.isSingle ∧ target = (submitTarget policy claim now result).1
  | idle | listTargets | cancelTasks _ => True

theorem Point.Valid.of_le {earlier later : Time} (le : earlier ≤ later) :
    {point : Point} → point.Valid earlier → point.Valid later
  | idle, _ | listTargets, _ | cancelTasks _, _ => trivial
  | dispatchRunAttempt _ _, started | submit _ _ _ _, started => le_trans started le
  | updateTargetAfterSubmit _ _ _ _ _ _ _, ⟨started, outcome⟩ =>
    ⟨le_trans started le, outcome⟩

variable {π : Type}

def State.Holds (state : State π) (proc : π) (claim : OperationRunTarget) : Prop :=
  claim ∈ (state.points proc).claims ∧ claim.isLeased state.clock

/-- Claims that have not expired are the stored rows, each of one call. -/
structure Leases (state : State π) : Prop where
  valid : ∀ proc, (state.points proc).Valid state.clock
  nodup : ∀ proc, ((state.points proc).claims.map OperationRunTarget.id).Nodup
  claimed : ∀ proc, ∀ claim ∈ (state.points proc).claims,
    claim.status = .claimed ∧ claim.taskId = none
  owned : ∀ proc claim, state.Holds proc claim →
    claim ∈ state.targets.ofPhase state.run.currentPhaseIndex
  exclusive : ∀ left right leftClaim rightClaim, state.Holds left leftClaim →
    state.Holds right rightClaim → leftClaim.id = rightClaim.id → left = right

namespace Leases

variable {state next : State π}

section

variable (leases : Leases state)
include leases

theorem valid_of {proc : π} {point : Point} (atPoint : state.points proc = point) :
    point.Valid state.clock :=
  atPoint ▸ leases.valid proc

theorem isOpen {proc : π} (claimMem : claim ∈ (state.points proc).claims) :
    ¬claim.status.isTerminal := by
  rw [(leases.claimed proc claim claimMem).1]
  nofun

theorem of_sublist (later : state.clock ≤ next.clock)
    (valid : ∀ proc, (next.points proc).Valid next.clock)
    (fewer : ∀ proc, (next.points proc).claims.Sublist (state.points proc).claims)
    (owned : ∀ proc claim, next.Holds proc claim → state.Holds proc claim →
      claim ∈ next.targets.ofPhase next.run.currentPhaseIndex)
    : Leases next := by
  have held {proc : π} {claim : OperationRunTarget} (holds : next.Holds proc claim) :
      state.Holds proc claim :=
    ⟨(fewer proc).subset holds.1, isLeased_of_le later holds.2⟩
  constructor
  · exact valid
  · exact fun proc => (leases.nodup proc).sublist ((fewer proc).map _)
  · exact fun proc claim claimMem => leases.claimed proc claim ((fewer proc).subset claimMem)
  · exact fun proc claim holds => owned proc claim holds (held holds)
  · exact fun left right leftClaim rightClaim leftHolds rightHolds =>
      leases.exclusive left right leftClaim rightClaim (held leftHolds) (held rightHolds)

theorem tick (elapsed : Nat) : Leases { state with clock := state.clock + elapsed } :=
  leases.of_sublist le_self_add
    (fun proc => (leases.valid proc).of_le le_self_add) (fun _ => .refl _)
    fun proc claim _ holds => leases.owned proc claim holds

theorem log (tasks : Uuid → TaskStatus) (calls submitted passed : List Uuid) :
    Leases { state with tasks, calls, submitted, passed } :=
  ⟨leases.valid, leases.nodup, leases.claimed, leases.owned, leases.exclusive⟩

theorem cancelRun (reason : String) (now : Time) :
    Leases { state with run := Flow.cancelRun reason now state.run } := by
  refine leases.of_sublist le_rfl leases.valid (fun _ => .refl _) ?_
  intro proc claim _ holds
  simp only [phase_cancelRun]
  exact leases.owned proc claim holds

/-- A claimed target is open, so the run stays in its phase. -/
theorem proceed {run : OperationRun} (proceeds : state.run.Proceeds state.targets run) :
    Leases { state with run } := by
  refine leases.of_sublist le_rfl leases.valid (fun _ => .refl _) ?_
  intro proc claim _ holds
  have claimMem := leases.owned proc claim holds
  rwa [proceeds.phase claim claimMem (leases.isOpen holds.1)]

theorem update (free : ∀ other claim, state.Holds other claim → claim.id ≠ target.id) :
    Leases { state with targets := state.targets.update [target] } := by
  refine leases.of_sublist le_rfl leases.valid (fun _ => .refl _) ?_
  intro other claim _ holds
  refine mem_ofPhase_update.mpr ⟨claim, leases.owned other claim holds, ?_⟩
  exact if_neg (free other claim holds)

end

variable {other : π}

section Dispatch

variable {settings : RunSettings} {dispatched : Dispatched}
  (ran : dispatchRunInTransaction settings getTask now state.run state.targets = dispatched)

/-- The row of an open target is in the current phase of the run after the attempt. -/
theorem mem_ofPhase_dispatch {row after : OperationRunTarget}
    (proceeds : state.run.Proceeds (state.targets.update dispatched.targets) dispatched.run)
    (rowMem : row ∈ state.targets.ofPhase state.run.currentPhaseIndex)
    (rowAfter : applyStates dispatched.targets row = after) (isOpen : ¬after.status.isTerminal) :
    after ∈ (state.targets.update dispatched.targets).ofPhase dispatched.run.currentPhaseIndex := by
  have afterMem := mem_ofPhase_update.mpr ⟨row, rowMem, rowAfter⟩
  rwa [proceeds.phase after afterMem isOpen]

include ran

theorem applyStates_dispatch (leases : Leases state) (startedAt : now ≤ state.clock)
    (holds : state.Holds other claim) : applyStates dispatched.targets claim = claim := by
  obtain ⟨claimed, noTask⟩ := leases.claimed other claim holds.1
  obtain ⟨rowMem, -⟩ := mem_ofPhase.mp (leases.owned other claim holds)
  obtain same | ⟨-, step⟩ := dispatch_row ran rowMem
  · exact same
  · rw [reconcileTarget_of_none noTask] at step
    exact step.eq_of_not_ready
      (not_ready_of_isLeased claimed (isLeased_of_le startedAt holds.2))

theorem not_holds_of_dispatch (leases : Leases state) (startedAt : now ≤ state.clock)
    {held : OperationRunTarget} (claimMem : claim ∈ dispatched.claimed)
    (holds : state.Holds other held) : held.id ≠ claim.id := by
  intro sameId
  obtain ⟨row, rowMem, ready, claimEq, -⟩ := dispatch_claimed ran claimMem
  have claimId : claim.id = row.id := by
    rw [claimEq]
    exact id_reconcileTarget getTask row
  obtain ⟨claimed, noTask⟩ := leases.claimed other held holds.1
  have heldMem := (mem_ofPhase.mp (leases.owned other held holds)).1
  have heldEq : held = row :=
    state.targets.eq_of_key_eq heldMem (mem_ofPhase.mp rowMem).1
      (sameId.trans claimId)
  rw [← heldEq, reconcileTarget_of_none noTask,
    not_ready_of_isLeased claimed (isLeased_of_le startedAt holds.2)] at ready
  cases ready

end Dispatch

section Goto

variable [DecidableEq π] {proc : π} {point : Point}

theorem holds_goto (holds : (state.goto proc point).Holds other claim) :
    other = proc ∧ claim ∈ point.claims ∨ other ≠ proc ∧ state.Holds other claim := by
  obtain ⟨claimMem, leased⟩ := holds
  simp only [State.goto] at claimMem leased
  by_cases same : other = proc
  · rw [same, Function.update_self] at claimMem
    exact .inl ⟨same, claimMem⟩
  · rw [Function.update_of_ne same] at claimMem
    exact .inr ⟨same, claimMem, leased⟩

theorem goto (leases : Leases state) (valid : point.Valid state.clock)
    (fewer : point.claims.Sublist (state.points proc).claims) :
    Leases (state.goto proc point) := by
  refine leases.of_sublist le_rfl (fun other => ?_) (fun other => ?_)
    fun other claim _ holds => leases.owned other claim holds
  · exact State.forall_goto valid (fun other _ => leases.valid other) other
  · exact State.forall_goto fewer (fun _ _ => .refl _) other

/-- The call that writes a result in time is the only one that holds the claim. -/
theorem updateTargetAfterSubmit (leases : Leases state) {again retryDispatch started : Bool}
    {rest : List OperationRunTarget} (atPoint : state.points proc =
      .updateTargetAfterSubmit now again retryDispatch claim target started rest)
    (leased : claim.isLeased state.clock) (ok retry : Bool) :
    Leases
      ({ state with
          targets := if ok then state.targets.update [target] else state.targets }.goto proc
        (.submit now again retry rest)) := by
  obtain ⟨startedAt, policy, result, -, targetEq⟩ := leases.valid_of atPoint
  have claims : (state.points proc).claims = claim :: rest := by rw [atPoint]; rfl
  have dropped : Leases (state.goto proc (.submit now again retry rest)) :=
    leases.goto startedAt (claims ▸ sublist_cons_self claim rest)
  cases ok with
  | false => exact dropped
  | true =>
    refine dropped.update fun other otherClaim holds sameId => ?_
    rw [targetEq, id_submitTarget] at sameId
    have holdsClaim : state.Holds proc claim := ⟨claims ▸ mem_cons_self, leased⟩
    obtain ⟨-, otherMem⟩ | ⟨ne, otherHolds⟩ := holds_goto holds
    · have nodup := leases.nodup proc
      rw [claims, map_cons, nodup_cons] at nodup
      exact nodup.1 (mem_map.mpr ⟨otherClaim, otherMem, sameId⟩)
    · exact ne
        (leases.exclusive other proc otherClaim claim otherHolds holdsClaim sameId)

theorem attempt (leases : Leases state) {settings : RunSettings} {dispatched : Dispatched}
    (ran : dispatchRunInTransaction settings getTask now state.run state.targets = dispatched)
    {again : Bool} (retry : Bool) (atPoint : state.points proc = .dispatchRunAttempt now again)
    (runnable : state.run.status.isRunnable) :
    Leases
      ({ state with
          run := dispatched.run
          targets := state.targets.update dispatched.targets }.goto
        proc (.submit now again retry dispatched.claimed)) := by
  have startedAt := leases.valid_of atPoint
  obtain ⟨proceeds, -⟩ := dispatch_spec ran runnable
  constructor
  · exact fun other => State.forall_goto startedAt (fun other _ => leases.valid other) other
  · exact fun other => State.forall_goto (dispatch_nodup ran) (fun other _ => leases.nodup other)
      other
  · refine fun other => State.forall_goto ?_ (fun other _ => leases.claimed other) other
    intro claim claimMem
    obtain ⟨row, -, -, rfl, -⟩ := dispatch_claimed ran claimMem
    exact ⟨rfl, rfl⟩
  · intro other claim holds
    obtain ⟨rfl, claimMem⟩ | ⟨ne, holds⟩ := holds_goto holds
    · obtain ⟨row, rowMem, -, claimEq, rowAfter⟩ := dispatch_claimed ran claimMem
      exact mem_ofPhase_dispatch proceeds rowMem rowAfter (claimEq ▸ nofun)
    · exact mem_ofPhase_dispatch proceeds (leases.owned other claim holds)
        (leases.applyStates_dispatch ran startedAt holds) (leases.isOpen holds.1)
  · intro left right leftClaim rightClaim leftHolds rightHolds sameId
    obtain ⟨rfl, leftMem⟩ | ⟨-, leftHeld⟩ := holds_goto leftHolds <;>
      obtain ⟨rfl, rightMem⟩ | ⟨-, rightHeld⟩ := holds_goto rightHolds
    · rfl
    · exact absurd sameId.symm (leases.not_holds_of_dispatch ran startedAt leftMem rightHeld)
    · exact absurd sameId (leases.not_holds_of_dispatch ran startedAt rightMem leftHeld)
    · exact leases.exclusive left right leftClaim rightClaim leftHeld rightHeld sameId

end Goto

end Leases

/-! ## Every step -/

theorem created_leases (totalPhases : Nat) (targets : TargetTable) :
    Leases (State.created totalPhases targets : State π) where
  valid _ := trivial
  nodup _ := .nil
  claimed _ _ claimMem := (not_mem_nil claimMem).elim
  owned _ _ holds := (not_mem_nil holds.1).elim
  exclusive _ _ _ _ holds := (not_mem_nil holds.1).elim

/-- A result is written before the lease of its claim expires. -/
def InTime (state : State π) : Action π → Prop
  | .updateTargetAfterSubmit proc _ =>
    ∀ claim ∈ (state.points proc).claims.head?, claim.isLeased state.clock
  | _ => True

instance (state : State π) : (action : Action π) → Decidable (InTime state action)
  | .updateTargetAfterSubmit _ _ => inferInstanceAs (Decidable (∀ _ ∈ _, _))
  | .tick _ | .updateTaskStatus _ _ | .dispatchRun _ | .dispatchRunAttempt _ _ | .submitTask _ _
  | .endAttempt _ | .pause | .continueRun _ | .cancel _ _ | .listTargets _ _ | .cancelTask _
  | .abort _ => .isTrue trivial

theorem leases_step [DecidableEq π] {settings : RunSettings} {state next : State π}
    {action : Action π} (leases : Leases state) (inTime : InTime state action)
    (takes : Takes settings state action next) : Leases next := by
  cases takes with
  | tick elapsed => exact leases.tick elapsed
  | updateTaskStatus unfinished => exact leases.log _ _ _ _
  | pause paused => exact leases.proceed (pauseRun_proceeds paused)
  | continueRun continued => exact leases.proceed (continueOperationRun_proceeds continued)
  | refuse => exact leases
  | dispatchRun idle => exact leases.goto le_rfl (nil_sublist _)
  | attempt atPoint runnable truthful => exact leases.attempt rfl false atPoint runnable
  | skip atPoint => exact leases.goto trivial (nil_sublist _)
  | submitTask policy atPoint single =>
    have startedAt := leases.valid_of atPoint
    exact (leases.log _ _ _ _).goto ⟨startedAt, policy, _, single, rfl⟩
      (atPoint ▸ .refl _)
  | updateTargetAfterSubmit atPoint =>
    refine leases.updateTargetAfterSubmit atPoint (inTime _ ?_) _ _
    rw [atPoint]
    rfl
  | endAttempt atPoint =>
    have startedAt := leases.valid_of atPoint
    split
    · exact leases.goto startedAt (nil_sublist _)
    · exact leases.goto trivial (nil_sublist _)
  | cancel idle active =>
    exact (leases.cancelRun _ _).goto trivial (nil_sublist _)
  | listTargets atPoint =>
    split
    · exact leases.goto trivial (nil_sublist _)
    · exact leases.goto trivial (nil_sublist _)
  | cancelTask atPoint =>
    exact (leases.log _ _ _ _).goto trivial (nil_sublist _)
  | endCancel | abort => exact leases.goto trivial (nil_sublist _)

end OperationRunManager

end Flow
