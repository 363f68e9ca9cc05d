import BareMetalManager.Flow.ClaimLease
import Mathlib.Data.Fintype.Basic

/-!
# A cancelled run starts no more work

`Cancel` does not wait for attempts that have claimed targets and not yet submitted them, and its
clean-up passes over targets without a child task. A run that is cancelled while no claim is
outstanding starts no more child tasks, and each of them has finished or is passed to the
canceller, as long as no created task is lost on its way to its row.
-/

namespace Flow.OperationRunManager

open Function List TargetTable Point

/-- The child tasks that a call is about to record or to cancel. -/
def Point.tasksInHand : Point → List Uuid
  | updateTargetAfterSubmit _ _ _ _ target _ _ => target.taskId.toList
  | cancelTasks targets => targets.filterMap taskToCancel
  | idle | dispatchRunAttempt _ _ | submit _ _ _ _ | listTargets => []

/-- The call is in the clean-up of `Cancel`. -/
def Point.cleansUp : Point → Bool
  | listTargets | cancelTasks _ => true
  | idle | dispatchRunAttempt _ _ | submit _ _ _ _ | updateTargetAfterSubmit _ _ _ _ _ _ _ => false

variable {π : Type}

/-- The run is cancelled while no claim is outstanding, results are written before their
leases expire, and neither a created task nor the clean-up is lost. -/
def Coordinated (state : State π) : Action π → Prop
  | .cancel _ _ => ¬state.run.status.isTerminal → ∀ proc, (state.points proc).claims = []
  | .updateTargetAfterSubmit proc ok =>
    (∀ claim ∈ (state.points proc).claims.head?, claim.isLeased state.clock) ∧
      ((state.points proc).tasksInHand ≠ [] → ok)
  | .listTargets _ ok => ok
  | .abort proc => (state.points proc).tasksInHand = [] ∧ state.points proc ≠ .listTargets
  | .tick _ | .updateTaskStatus _ _ | .dispatchRun _ | .dispatchRunAttempt _ _ | .submitTask _ _
  | .endAttempt _ | .pause | .continueRun _ | .cancelTask _ => True

instance [Fintype π] (state : State π) :
    (action : Action π) → Decidable (Coordinated state action)
  | .cancel _ _ => inferInstanceAs (Decidable (_ → ∀ _, _))
  | .updateTargetAfterSubmit _ _ => inferInstanceAs (Decidable ((∀ _ ∈ _, _) ∧ (_ → _)))
  | .listTargets _ ok => inferInstanceAs (Decidable (ok = true))
  | .abort _ => inferInstanceAs (Decidable (_ ∧ _))
  | .tick _ | .updateTaskStatus _ _ | .dispatchRun _ | .dispatchRunAttempt _ _ | .submitTask _ _
  | .endAttempt _ | .pause | .continueRun _ | .cancelTask _ => .isTrue trivial

theorem Coordinated.inTime {state : State π} {action : Action π}
    (coordinated : Coordinated state action) : InTime state action := by
  cases action with
  | updateTargetAfterSubmit proc ok => exact coordinated.1
  | _ => trivial

/-! ## Where a child task is -/

variable (state : State π) (taskId : Uuid)

/-- The task is in the row of a target of the current phase. Once the run is cancelled, the
clean-up has still to read the rows. -/
def Recorded : Prop :=
  (∃ row ∈ state.targets.ofPhase state.run.currentPhaseIndex,
    row.status = .submitted ∧ row.taskId = some taskId) ∧
      (state.run.status = .cancelled → ∃ proc, state.points proc = .listTargets)

/-- A child task has finished, or is passed to the canceller, or will still be found. -/
inductive Accounted : Prop where
  | finished (finished : (state.tasks taskId).isFinished)
  | passed (passed : taskId ∈ state.passed)
  | recorded (recorded : Recorded state taskId)
  | inHand (proc : π) (inHand : taskId ∈ (state.points proc).tasksInHand)

/-- No child task is lost, and a cancelled run has no claims. -/
structure Children : Prop where
  accounted : ∀ taskId ∈ state.submitted, Accounted state taskId
  quiet : state.run.status = .cancelled → ∀ proc, (state.points proc).claims = []

variable {state taskId}

theorem Accounted.of_points {next : State π} (accounted : Accounted state taskId)
    (points : next.points = state.points)
    (finished : (state.tasks taskId).isFinished → (next.tasks taskId).isFinished)
    (passed : state.passed ⊆ next.passed)
    (recorded : Recorded state taskId → Accounted next taskId) : Accounted next taskId := by
  cases accounted with
  | finished isFinished => exact .finished (finished isFinished)
  | passed isPassed => exact .passed (passed isPassed)
  | recorded isRecorded => exact recorded isRecorded
  | inHand proc inHand =>
    refine .inHand proc ?_
    rwa [points]

variable {proc : π} {claim : OperationRunTarget} {rest : List OperationRunTarget}

theorem Children.status_ne (children : Children state)
    (claims : (state.points proc).claims = claim :: rest) :
    state.run.status ≠ .cancelled := by
  intro cancelled
  rw [children.quiet cancelled proc] at claims
  cases claims

section Goto

variable [DecidableEq π] {point left : Point}

theorem Accounted.goto (accounted : Accounted state taskId)
    (keeps : taskId ∈ (state.points proc).tasksInHand → taskId ∈ point.tasksInHand)
    (notListing : state.points proc ≠ .listTargets) :
    Accounted (state.goto proc point) taskId := by
  cases accounted with
  | finished finished => exact .finished finished
  | passed passed => exact .passed passed
  | recorded recorded =>
    refine .recorded ⟨recorded.1, fun cancelled => ?_⟩
    obtain ⟨lister, listing⟩ := recorded.2 cancelled
    have ne : lister ≠ proc := by
      rintro rfl
      exact notListing listing
    exact ⟨lister, (update_of_ne ne _ _).trans listing⟩
  | inHand holder inHand =>
    refine .inHand holder ?_
    revert inHand
    exact State.forall_goto keeps (fun _ _ => id) holder

theorem Accounted.goto_of_nil (accounted : Accounted state taskId)
    (atPoint : state.points proc = left) (empty : left.tasksInHand = [])
    (notListing : left ≠ .listTargets) : Accounted (state.goto proc point) taskId := by
  subst atPoint
  refine accounted.goto (fun inHand => ?_) notListing
  rw [empty] at inHand
  cases inHand

theorem quiet_goto (children : Children state) (noClaims : point.claims = [])
    (cancelled : state.run.status = .cancelled) (other : π) :
    ((state.goto proc point).points other).claims = [] :=
  State.forall_goto noClaims (fun other _ => children.quiet cancelled other) other

theorem Children.goto_of_nil (children : Children state)
    (atPoint : state.points proc = left) (empty : left.tasksInHand = [])
    (notListing : left ≠ .listTargets) (noClaims : point.claims = []) :
    Children (state.goto proc point) where
  accounted taskId submitted :=
    (children.accounted taskId submitted).goto_of_nil atPoint empty notListing
  quiet := quiet_goto children noClaims

end Goto

/-! ## Attempts and controls -/

variable {run : OperationRun}

theorem Recorded.proceed (recorded : Recorded state taskId)
    (proceeds : state.run.Proceeds state.targets run) : Recorded { state with run } taskId := by
  obtain ⟨⟨row, rowMem, status, task⟩, -⟩ := recorded
  have isOpen : ¬row.status.isTerminal := by
    rw [status]
    nofun
  refine ⟨⟨row, ?_, status, task⟩, fun cancelled => absurd cancelled proceeds.notCancelled⟩
  rwa [proceeds.phase row rowMem isOpen]

theorem Children.proceed (children : Children state)
    (proceeds : state.run.Proceeds state.targets run) : Children { state with run } where
  accounted taskId submitted :=
    (children.accounted taskId submitted).of_points rfl id (.refl _) fun recorded =>
      .recorded (recorded.proceed proceeds)
  quiet cancelled := absurd cancelled proceeds.notCancelled

variable {getTask : Uuid → TaskStatus × String} {target : OperationRunTarget}

theorem reconcileTarget_of_unfinished (status : target.status = .submitted)
    (task : target.taskId = some taskId) (unfinished : ¬(getTask taskId).1.isFinished) :
    (reconcileTarget getTask target).status = .submitted ∧
      (reconcileTarget getTask target).taskId = some taskId := by
  simp only [reconcileTarget, task, status, OperationRunTargetStatus.isTerminal,
    Bool.false_eq_true, ↓reduceIte, and_true]
  cases read : (getTask taskId).1 with
  | unknown | waiting | pending | running => rfl
  | completed | failed | terminated =>
    rw [read] at unfinished
    exact absurd rfl unfinished

variable {now : Time}

theorem not_ready_of_task (status : target.status = .submitted)
    (task : target.taskId = some taskId) :
    targetReadyForSubmission target now = false := by
  simp only [targetReadyForSubmission, status, task, Option.isNone_some]

section Attempt

variable {settings : RunSettings} {dispatched : Dispatched}
  (ran : dispatchRunInTransaction settings getTask now state.run state.targets = dispatched)
include ran

theorem Recorded.attempt (recorded : Recorded state taskId) (runnable : state.run.status.isRunnable)
    (truthful : Truthful state.tasks (state.targets.ofPhase state.run.currentPhaseIndex) getTask) :
    Accounted
      { state with
        run := dispatched.run
        targets := state.targets.update dispatched.targets } taskId := by
  obtain ⟨⟨row, rowMem, status, task⟩, -⟩ := recorded
  obtain ⟨proceeds, -⟩ := dispatch_spec ran runnable
  by_cases finished : (getTask taskId).1.isFinished
  · refine .finished ?_
    rwa [← truthful row rowMem taskId task finished]
  -- the row is not ready, so the attempt at most reconciles it
  · obtain ⟨statusAfter, taskAfter⟩ := reconcileTarget_of_unfinished status task finished
    obtain ⟨after, rowAfter, afterStatus, afterTask⟩ : ∃ after,
        applyStates dispatched.targets row = after ∧ after.status = .submitted ∧
          after.taskId = some taskId := by
      obtain same | ⟨-, step⟩ := dispatch_row ran (mem_ofPhase.mp rowMem).1
      · exact ⟨row, same, status, task⟩
      · exact ⟨_, step.eq_of_not_ready (not_ready_of_task statusAfter taskAfter), statusAfter,
          taskAfter⟩
    have isOpen : ¬after.status.isTerminal := by
      rw [afterStatus]
      nofun
    exact .recorded
      ⟨⟨after, Leases.mem_ofPhase_dispatch proceeds rowMem rowAfter isOpen, afterStatus, afterTask⟩,
        fun cancelled => absurd cancelled proceeds.notCancelled⟩

theorem Children.attempt [DecidableEq π] (children : Children state) {again : Bool} (retry : Bool)
    (atPoint : state.points proc = .dispatchRunAttempt now again)
    (runnable : state.run.status.isRunnable)
    (truthful : Truthful state.tasks (state.targets.ofPhase state.run.currentPhaseIndex) getTask) :
    Children
      ({ state with
          run := dispatched.run
          targets := state.targets.update dispatched.targets }.goto
        proc (.submit now again retry dispatched.claimed)) where
  accounted taskId submitted := by
    refine .goto_of_nil ?_ atPoint rfl nofun
    exact (children.accounted taskId submitted).of_points rfl id (.refl _)
      fun recorded => recorded.attempt ran runnable truthful
  quiet cancelled := absurd cancelled (dispatch_spec ran runnable).1.notCancelled

end Attempt

/-! ## Submissions -/

theorem Recorded.update (recorded : Recorded state taskId) (leases : Leases state)
    (holds : state.Holds proc claim) (sameId : target.id = claim.id) :
    Recorded { state with targets := state.targets.update [target] } taskId := by
  obtain ⟨⟨row, rowMem, status, task⟩, listing⟩ := recorded
  refine ⟨⟨row, mem_ofPhase_update.mpr ⟨row, rowMem, ?_⟩, status, task⟩, listing⟩
  refine if_neg fun same => ?_
  have claimMem := (mem_ofPhase.mp (leases.owned proc claim holds)).1
  have rowEq := state.targets.eq_of_key_eq (mem_ofPhase.mp rowMem).1 claimMem
    (same.trans sameId)
  rw [rowEq, (leases.claimed proc claim holds.1).2] at task
  cases task

theorem exists_row_of_update (leases : Leases state) (holds : state.Holds proc claim)
    (sameId : target.id = claim.id) (status : target.status = .submitted)
    (task : target.taskId = some taskId) :
    ∃ row ∈ (state.targets.update [target]).ofPhase state.run.currentPhaseIndex,
      row.status = .submitted ∧ row.taskId = some taskId := by
  have rowAfter : applyStates [target] claim = claim.withState target := if_pos sameId.symm
  have rowMem := mem_ofPhase_update.mpr ⟨claim, leases.owned proc claim holds, rowAfter⟩
  exact ⟨claim.withState target, rowMem, status, task⟩

section Calls

variable [DecidableEq π]

variable (children : Children state)
include children

theorem Children.submitTask (leases : Leases state) {result : SubmitResult}
    {again retryDispatch : Bool} {policy : ConflictRetryPolicy}
    (atPoint : state.points proc = .submit now again retryDispatch (claim :: rest))
    (single : result.isSingle) (calls : List Uuid) (started : Bool) :
    Children
      ({ state with calls, submitted := result.tasks ++ state.submitted }.goto proc
        (.updateTargetAfterSubmit now again retryDispatch claim
          (submitTarget policy claim now result).1 started rest)) where
  accounted taskId submitted := by
    have noTask : claim.taskId = none :=
      (leases.claimed proc claim (atPoint ▸ mem_cons_self)).2
    obtain created | before := mem_append.mp submitted
    · refine .inHand proc ?_
      simp only [State.goto, update_self, tasksInHand]
      rwa [← (submitTarget_cases single noTask).1]
    · have logged : Accounted
          { state with calls, submitted := result.tasks ++ state.submitted } taskId :=
        (children.accounted taskId before).of_points rfl id (.refl _)
          fun recorded => .recorded recorded
      exact logged.goto_of_nil atPoint rfl (by simp)
  quiet cancelled := (children.status_ne (congrArg claims atPoint) cancelled).elim

theorem Children.updateTargetAfterSubmit (leases : Leases state)
    {again retryDispatch started : Bool}
    (atPoint : state.points proc =
      .updateTargetAfterSubmit now again retryDispatch claim target started rest)
    (leased : claim.isLeased state.clock) {ok : Bool} (writes : target.taskId.toList ≠ [] → ok)
    (retry : Bool) :
    Children
      ({ state with
          targets := if ok then state.targets.update [target] else state.targets }.goto proc
        (.submit now again retry rest)) where
  accounted taskId submitted := by
    have claims : (state.points proc).claims = claim :: rest := congrArg claims atPoint
    have holds : state.Holds proc claim := ⟨claims ▸ mem_cons_self, leased⟩
    obtain ⟨-, policy, result, single, targetEq⟩ := leases.valid_of atPoint
    have sameId : target.id = claim.id := targetEq ▸ id_submitTarget policy claim now result
    by_cases created : target.taskId = some taskId
    · have notEmpty : target.taskId.toList ≠ [] := by
        rw [created]
        nofun
      have status : target.status = .submitted := by
        have noTask := (leases.claimed proc claim holds.1).2
        obtain ⟨-, none | status⟩ := submitTarget_cases single noTask
        · rw [targetEq, none] at created
          cases created
        · rw [targetEq, status]
      rw [writes notEmpty]
      exact .recorded ⟨exists_row_of_update leases holds sameId status created,
        fun cancelled => (children.status_ne claims cancelled).elim⟩
    · have written : Accounted
          { state with targets := if ok then state.targets.update [target] else state.targets }
          taskId := by
        refine (children.accounted taskId submitted).of_points rfl id (.refl _)
          fun recorded => .recorded ?_
        cases ok with
        | false => exact recorded
        | true => exact recorded.update leases holds sameId
      refine written.goto (fun inHand => absurd ?_ created) (atPoint ▸ nofun)
      rw [atPoint] at inHand
      exact Option.mem_toList.mp inHand
  quiet cancelled := (children.status_ne (congrArg claims atPoint) cancelled).elim

/-! ## Cancellation -/

theorem Children.cancel (idle : state.points proc = .idle)
    (noClaims : ∀ other, (state.points other).claims = []) (reason : String) :
    Children
      ({ state with run := cancelRun reason state.clock state.run }.goto proc .listTargets) where
  accounted taskId submitted := by
    have waiting : Accounted (state.goto proc .listTargets) taskId :=
      (children.accounted taskId submitted).goto_of_nil idle rfl nofun
    refine waiting.of_points rfl id (.refl _) fun ⟨recorded, _⟩ =>
      .recorded ⟨?_, fun _ => ⟨proc, ?_⟩⟩
    · simp only [State.goto, phase_cancelRun] at recorded ⊢
      exact recorded
    · exact update_self proc _ _
  quiet _ other := State.forall_goto rfl (fun other _ => noClaims other) other

/-- The clean-up reads the rows: every recorded task is in hand. -/
theorem Children.listTargets (atPoint : state.points proc = .listTargets) :
    Children (state.goto proc
      (.cancelTasks (state.targets.ofPhase state.run.currentPhaseIndex))) where
  accounted taskId submitted := by
    cases children.accounted taskId submitted with
    | finished finished => exact .finished finished
    | passed passed => exact .passed passed
    | recorded recorded =>
      obtain ⟨⟨row, rowMem, status, task⟩, -⟩ := recorded
      refine .inHand proc ?_
      simp only [State.goto, update_self, tasksInHand]
      refine mem_filterMap.mpr ⟨row, rowMem, ?_⟩
      simp only [taskToCancel, status, task, OperationRunTargetStatus.isTerminal,
        Bool.false_eq_true, ↓reduceIte]
    | inHand holder inHand =>
      refine .inHand holder ?_
      revert inHand
      refine State.forall_goto (fun inHand => ?_) (fun _ _ => id) holder
      rw [atPoint] at inHand
      cases inHand
  quiet := quiet_goto children rfl

theorem Children.cancelTask {targets : List OperationRunTarget}
    (atPoint : state.points proc = .cancelTasks (target :: targets)) :
    Children
      ({ state with passed := (taskToCancel target).toList ++ state.passed }.goto proc
        (.cancelTasks targets)) where
  accounted taskId submitted := by
    by_cases head : taskToCancel target = some taskId
    · exact .passed (mem_append_left _ (Option.mem_toList.mpr head))
    · have logged : Accounted
          { state with passed := (taskToCancel target).toList ++ state.passed } taskId :=
        (children.accounted taskId submitted).of_points rfl id (subset_append_right _ _)
          fun recorded => .recorded recorded
      refine logged.goto (fun inHand => ?_) (atPoint ▸ nofun)
      rw [atPoint] at inHand
      obtain ⟨row, rowMem, toCancel⟩ := mem_filterMap.mp inHand
      obtain rfl | rowMem := mem_cons.mp rowMem
      · exact absurd toCancel head
      · exact mem_filterMap.mpr ⟨row, rowMem, toCancel⟩
  quiet := quiet_goto children rfl

end Calls

/-! ## Every run -/

/-- Once the clean-up of a cancelled run is over, its child tasks have finished or were
passed to the canceller. -/
theorem Children.finished_or_passed (children : Children state)
    (cancelled : state.run.status = .cancelled)
    (cleanedUp : ∀ proc, ¬(state.points proc).cleansUp) (submitted : taskId ∈ state.submitted) :
    (state.tasks taskId).isFinished ∨ taskId ∈ state.passed := by
  cases children.accounted taskId submitted with
  | finished finished => exact .inl finished
  | passed passed => exact .inr passed
  | recorded recorded =>
    obtain ⟨lister, listing⟩ := recorded.2 cancelled
    exact absurd (congrArg cleansUp listing) (cleanedUp lister)
  | inHand holder inHand =>
    have noClaims := children.quiet cancelled holder
    have notCleaning := cleanedUp holder
    cases atPoint : state.points holder with
    | idle | dispatchRunAttempt | submit | listTargets =>
      rw [atPoint] at inHand
      cases inHand
    | updateTargetAfterSubmit =>
      rw [atPoint] at noClaims
      cases noClaims
    | cancelTasks targets =>
      rw [atPoint] at notCleaning
      exact absurd rfl notCleaning

theorem created_children (totalPhases : Nat) (targets : TargetTable) :
    Children (.created totalPhases targets : State π) where
  accounted _ submitted := (not_mem_nil submitted).elim
  quiet _ _ := rfl

section Runs

variable [DecidableEq π] {settings : RunSettings} {next : State π} {action : Action π}

theorem children_step (children : Children state) (leases : Leases state)
    (coordinated : Coordinated state action) (takes : Takes settings state action next) :
    Children next := by
  cases takes with
  | tick elapsed =>
    refine ⟨fun taskId submitted => ?_, children.quiet⟩
    exact (children.accounted taskId submitted).of_points rfl id (.refl _)
      fun recorded => .recorded recorded
  | @updateTaskStatus changed status unfinished =>
    refine ⟨fun taskId submitted => ?_, children.quiet⟩
    refine (children.accounted taskId submitted).of_points rfl (fun finished => ?_)
      (.refl _) fun recorded => .recorded recorded
    have ne : taskId ≠ changed := by
      rintro rfl
      exact unfinished finished
    simp only [update_of_ne ne]
    exact finished
  | pause paused => exact children.proceed (pauseRun_proceeds paused)
  | continueRun continued => exact children.proceed (continueOperationRun_proceeds continued)
  | refuse => exact children
  | dispatchRun idle =>
    exact children.goto_of_nil idle rfl nofun rfl
  | attempt atPoint runnable truthful => exact children.attempt rfl false atPoint runnable truthful
  | skip atPoint | endCancel atPoint =>
    exact children.goto_of_nil atPoint rfl nofun rfl
  | submitTask policy atPoint single => exact children.submitTask leases atPoint single _ _
  | @updateTargetAfterSubmit proc ok now again retryDispatch claim target started rest atPoint =>
    obtain ⟨inTime, writes⟩ := coordinated
    rw [atPoint] at inTime writes
    exact children.updateTargetAfterSubmit leases atPoint (inTime claim rfl) writes _
  | endAttempt atPoint =>
    refine children.goto_of_nil atPoint rfl nofun ?_
    split <;> rfl
  | cancel idle active => exact children.cancel idle (coordinated active) _
  | @listTargets proc ok atPoint =>
    have listed : ok = true := coordinated
    rw [if_pos listed]
    exact children.listTargets atPoint
  | cancelTask atPoint => exact children.cancelTask atPoint
  | abort proc => exact children.goto_of_nil rfl coordinated.1 coordinated.2 rfl

theorem cancelled_step (children : Children state) (cancelled : state.run.status = .cancelled)
    (takes : Takes settings state action next) :
    next.run.status = .cancelled ∧ next.calls = state.calls := by
  have terminal : state.run.status.isTerminal := by
    rw [cancelled]
    rfl
  cases takes with
  | pause paused =>
    exact absurd terminal (@pauseRun_proceeds state.run _ state.targets paused).active
  | continueRun continued =>
    exact absurd terminal (continueOperationRun_proceeds continued).active
  | attempt atPoint runnable truthful =>
    exact absurd terminal (OperationRunStatus.not_isTerminal_of_isRunnable runnable)
  | submitTask policy atPoint single =>
    exact absurd cancelled (children.status_ne (congrArg claims atPoint))
  | cancel idle active => exact absurd terminal active
  | _ => exact ⟨cancelled, rfl⟩

/-- What holds of a run that was cancelled in an earlier state. -/
structure SinceCancel (earlier state : State π) : Prop where
  leases : Leases state
  children : Children state
  cancelled : state.run.status = .cancelled
  calls : state.calls = earlier.calls

theorem sinceCancel_step {earlier : State π} (since : SinceCancel earlier state)
    (coordinated : Coordinated state action) (takes : Takes settings state action next) :
    SinceCancel earlier next := by
  obtain ⟨cancelled, calls⟩ := cancelled_step since.children since.cancelled takes
  constructor
  · exact leases_step since.leases coordinated.inTime takes
  · exact children_step since.children since.leases coordinated takes
  · exact cancelled
  · exact calls.trans since.calls

/-- After a coordinated run has been cancelled no target is submitted, and when no clean-up is in
progress every child task has finished or was passed to the canceller. -/
theorem no_work_of_run (settings : RunSettings) {totalPhases : Nat} {targets : TargetTable}
    {before after : List (Action π)} {earlier later : State π}
    (ranBefore : (machine settings).run before (.created totalPhases targets) = some earlier)
    (ranAfter : (machine settings).run after earlier = some later)
    (coordinated : (machine settings).Meets Coordinated (before ++ after)
      (.created totalPhases targets))
    (cancelled : earlier.run.status = .cancelled) :
    later.calls = earlier.calls ∧
      ((∀ proc, ¬(later.points proc).cleansUp) → ∀ taskId ∈ later.submitted,
        (later.tasks taskId).isFinished ∨ taskId ∈ later.passed) := by
  obtain ⟨coordinatedBefore, coordinatedAfter⟩ := Machine.meets_append coordinated ranBefore
  obtain ⟨leases, children⟩ : Leases earlier ∧ Children earlier :=
    Machine.run_induction (fun state => Leases state ∧ Children state)
      (fun _ _ _ ⟨leases, children⟩ coordinated moved =>
        ⟨leases_step leases coordinated.inTime (takes_of_step moved),
          children_step children leases coordinated (takes_of_step moved)⟩)
      ⟨created_leases totalPhases targets, created_children totalPhases targets⟩
      coordinatedBefore ranBefore
  have since : SinceCancel earlier later :=
    Machine.run_induction (SinceCancel earlier)
      (fun _ _ _ since coordinated moved => sinceCancel_step since coordinated
        (takes_of_step moved))
      ⟨leases, children, cancelled, rfl⟩ coordinatedAfter ranAfter
  exact ⟨since.calls, fun cleanedUp taskId submitted =>
    since.children.finished_or_passed since.cancelled cleanedUp submitted⟩

end Runs

/-! ## A target is submitted for a cancelled run -/

/-- One target at a time, phases advance on their own. -/
def oneAtATime : RunSettings where
  options := .ok
    { maxConcurrentTargets := 1
      gates := []
      conflictPolicy := ⟨3600 * second, 10 * second, 60 * second⟩
      autoAdvance := true }

def oneTarget : TargetTable where
  rows := [⟨7, 0, none, .pending, "", none, none⟩]
  keysNodup := by decide

/-- A dispatcher, the call `false`, claims the target. The run is cancelled by the call `true`,
and its clean-up finds no task. -/
def cancelledAfterClaim : List (Action Bool) :=
  [.dispatchRun false, .dispatchRunAttempt false fun _ => (.unknown, ""),
    .cancel true "maintenance",
    .listTargets true true, .cancelTask true, .cancelTask true]

/-- The dispatcher goes on with the claimed target. -/
def submittedAfterwards : List (Action Bool) :=
  [.submitTask false (.taskIds [100]), .updateTargetAfterSubmit false true, .endAttempt false]

theorem submittedAfterwards_works :
    ∃ earlier later, (machine oneAtATime).run cancelledAfterClaim (.created 1 oneTarget) =
        some earlier ∧
      (machine oneAtATime).run submittedAfterwards earlier = some later ∧
        earlier.run.status = .cancelled ∧ later.calls ≠ earlier.calls ∧
          (∀ proc, ¬(later.points proc).cleansUp) ∧ 100 ∈ later.submitted ∧
            ¬(later.tasks 100).isFinished ∧ 100 ∉ later.passed :=
  ⟨_, _, rfl, rfl, by decide, by decide, by decide, by decide, by decide, by decide⟩

/-- The dispatcher has recorded the task of the target when the run is cancelled. -/
def cancelledAfterSubmission : List (Action Bool) :=
  [.dispatchRun false, .dispatchRunAttempt false fun _ => (.unknown, ""),
    .submitTask false (.taskIds [100]), .updateTargetAfterSubmit false true, .endAttempt false,
    .cancel true "maintenance"]

/-- The clean-up, and another pass of the dispatcher. -/
def cleanedUp : List (Action Bool) :=
  [.listTargets true true, .dispatchRun false, .cancelTask true,
    .dispatchRunAttempt false fun _ => (.running, ""), .cancelTask true]

theorem no_work_of_cleanedUp :
    ∃ earlier later, (machine oneAtATime).run cancelledAfterSubmission (.created 1 oneTarget) =
        some earlier ∧
      (machine oneAtATime).run cleanedUp earlier = some later ∧
        later.calls = earlier.calls ∧ (∀ proc, ¬(later.points proc).cleansUp) ∧
          100 ∈ later.submitted ∧ ((later.tasks 100).isFinished ∨ 100 ∈ later.passed) := by
  have coordinated : (machine oneAtATime).Meets Coordinated (cancelledAfterSubmission ++ cleanedUp)
      (.created 1 oneTarget) := by decide
  have settled := no_work_of_run oneAtATime rfl rfl coordinated rfl
  exact ⟨_, _, rfl, rfl, settled.1, by decide, by decide, settled.2 (by decide) 100 (by decide)⟩

end Flow.OperationRunManager
