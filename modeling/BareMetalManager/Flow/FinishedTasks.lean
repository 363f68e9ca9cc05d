import BareMetalManager.Flow.TaskManager

/-!
# Finished tasks stay finished

Statuses are written without a look at the stored one, and a promoted or retried task is
executed without a look at its status. So a call relies on what it has read: it has a task
in hand from the read on, until it has executed or written it for the last time, and the
workflow that it starts has the task until it has reported that it runs. If nothing else
finishes a task meanwhile, a finished task stays finished, and a cancelled task is not
executed again.
-/

namespace Flow

open List

variable {id : Uuid} {task : Task}

namespace TaskTable

variable (table : TaskTable)

/-- The stored status of the task is completed, failed or terminated. -/
def Finished (id : Uuid) : Prop :=
  ∃ row ∈ table.rows, row.id = id ∧ row.status.isFinished

instance (id : Uuid) : Decidable (table.Finished id) :=
  inferInstanceAs (Decidable (∃ row ∈ table.rows, _))

variable {table next : TaskTable}

/-- A write whose updates to other statuses meet unfinished tasks keeps finished tasks. -/
theorem Finished.of_commit {write : Write} (finished : table.Finished id)
    (committed : write.commit table = some next)
    (respects : ∀ update ∈ write.updates, ¬update.status.isFinished →
      ¬table.Finished update.id) :
    next.Finished id := by
  obtain ⟨row, rowMem, idEq, rowFinished⟩ := finished
  obtain ⟨newRow, newRowMem, revises⟩ := Write.exists_revision committed rowMem
  refine ⟨newRow, newRowMem, revises.sameWork.id.symm.trans idEq, ?_⟩
  obtain same | ⟨update, updateMem, targets, statusEq⟩ := revises.status
  · rwa [same]
  · rw [statusEq]
    by_contra unfinished
    exact respects update updateMem unfinished ⟨row, rowMem, targets.symm, rowFinished⟩

theorem finished_of_update {update : TaskStatusUpdate}
    (committed : (Write.updateStatus [update]).commit table = some next)
    (stored : table.Stored task) (targets : update.id = task.id)
    (finished : update.status.isFinished) : next.Finished task.id := by
  obtain ⟨row, rowMem, same⟩ := stored
  cases committed
  refine ⟨update.apply row, Table.mem_modify.mpr ⟨row, rowMem, rfl⟩, ?_, ?_⟩
  · rw [← (update.sameWork_apply row).id, same.id]
  · rwa [TaskStatusUpdate.apply, if_pos (same.id.symm.trans targets.symm)]

end TaskTable

/-! ## Tasks in hand -/

/-- The tasks that the promoter has still to execute. -/
def Scope.rest : Scope → List Task
  | outside rest => rest
  | inserted | persisted => []

/-- The tasks that a call has made or read and has not yet executed or written for the last
time. A cancellation is not among them: it finishes its task in any case. -/
def Point.hand : Point → List Uuid
  | submit _ task | lockIdempotencyKey _ _ task | getTaskByIdempotencyKey _ _ task
  | lockRack _ task | hasConflict _ task | countWaiting _ task | createTask task => [task.id]
  | execute scope task | deferUnlinked scope task _ _ | countDeferred scope task _ _ =>
    task.id :: scope.rest.map Task.id
  | updateScheduled scope _ _ => scope.rest.map Task.id
  | commit write _ => write.updates.map TaskStatusUpdate.id
  | compensate rest _ _ | markFailed rest _ _ => rest.map Task.id
  | splitExpired _ _ waiting candidates => (waiting ++ candidates).map Task.id
  | promote _ _ toExecute | promoteFunc toExecute => toExecute.map Task.id
  | idle | cancelTask _ => []

/-- The lookup of an idempotent submission under the lock of its key. -/
def Point.looksUp : Point → Bool
  | getTaskByIdempotencyKey _ _ _ => true
  | _ => false

variable {config : ManagerConfig} {point : Point} {env : Env} {table : TaskTable} {move : Move}

/-- Between its begin and its end a call takes a task in hand only by the lookup. -/
theorem Point.hand_of_advance (advanced : point.advance config env table = some move)
    (inHand : id ∈ move.next.hand) : id ∈ point.hand ∨ point.looksUp := by
  cases point with
  | idle => cases advanced
  | getTaskByIdempotencyKey => exact .inr rfl
  | splitExpired rackId now waiting candidates =>
    cases waiting with
    | nil =>
      cases candidates with
      | nil =>
        cases advanced
        cases inHand
      | cons candidate candidates =>
        cases advanced
        exact .inl (map_subset _ (promotable_spec _ _).1 inHand)
    | cons task waiting =>
      simp only [advance, expireOrKeep] at advanced
      split at advanced <;> cases advanced
      · exact .inl (mem_cons_of_mem _ inHand)
      · rw [hand, ← append_assoc] at inHand
        exact .inl (((perm_append_singleton task _).map _).mem_iff.mp inHand)
  | promoteFunc toExecute =>
    left
    cases toExecute <;> simp only [advance] at advanced
    all_goals
      repeat' split at advanced
      all_goals
        cases advanced
        simp_all [hand, Scope.rest, Table.find?_eq_some_iff]
  | _ =>
    -- The other points keep to the one task and the rest of the promoted tasks.
    left
    simp only [advance, resolveConflict, admission, executeTask, Scope.fail, Scope.failTask,
      Scope.deferTask, Scope.schedule] at advanced
    repeat' split at advanced
    all_goals
      cases advanced
      simp_all [hand, Scope.rest, Write.updates, expiredLinkage, id_deferredUpdate]

theorem Point.Writes.hand {write : Write} (writes : point.Writes config write)
    {update : TaskStatusUpdate} (updateMem : update ∈ write.updates)
    (unfinished : ¬update.status.isFinished) :
    update.id ∈ point.hand := by
  cases writes with
  | create task => cases updateMem
  | commit write executed => exact mem_map_of_mem updateMem
  | promote rackId active toExecute =>
    obtain ⟨task, taskMem, rfl⟩ := mem_map.mp updateMem
    exact mem_map_of_mem taskMem
  | defer rest task deadline unlinked count =>
    rw [mem_singleton.mp updateMem, id_deferredUpdate]
    exact mem_cons_self
  | schedule point id executionId => cases updateMem
  | finish point update finished =>
    rw [mem_singleton.mp updateMem] at unfinished
    exact absurd finished unfinished

variable {write : Option Write}

theorem Point.Effect.hand {cancels : Option Uuid}
    (effect : point.Effect config env write (some id) cancels) : id ∈ point.hand := by
  cases effect with
  | execute scope task calls => exact mem_cons_self

theorem Point.Effect.cancels {executes : Option Uuid}
    (effect : point.Effect config env write executes (some id)) :
    ∃ task, point = .cancelTask task ∧ id = task.id ∧
      write = some (.updateStatus [cancellation task]) := by
  cases effect with
  | cancel task => exact ⟨task, rfl, rfl, rfl⟩

namespace TaskManager

/-- The tasks in the hand of a call, and those of the workflows that have still to report. -/
def State.held (state : State) : List Uuid :=
  state.starting ++ state.calls.flatMap fun proc => (state.points proc).hand

/-- A new task has a new id, the lookup of a retry does not go on with a finished task, and
only a workflow that is starting reports that it runs. -/
def TakesUnfinished (state next : State) : Action → Prop
  | .begin _ (.submitTask _ id) _ => ∀ row ∈ state.table.rows, row.id ≠ id
  | .advance proc _ =>
    (state.points proc).looksUp → ∀ id ∈ (next.points proc).hand, ¬state.table.Finished id
  | .reportStatus update => ¬update.status.isFinished → update.id ∈ state.starting
  | .begin _ _ _ | .abort _ => True

/-- No task finishes in a step and is still held after it. -/
def Undisturbed (state next : State) : Prop :=
  ∀ row ∈ next.table.rows, row.status.isFinished → ¬state.table.Finished row.id →
    row.id ∉ next.held

/-- The condition on a step of a run. -/
def Orderly (config : ManagerConfig) (state : State) (action : Action) : Prop :=
  ∀ next ∈ step config action state, TakesUnfinished state next action ∧ Undisturbed state next

instance (state next : State) : (action : Action) → Decidable (TakesUnfinished state next action)
  | .begin _ (.submitTask _ _) _ => inferInstanceAs (Decidable (∀ row ∈ state.table.rows, _))
  | .advance _ _ | .reportStatus _ => inferInstanceAs (Decidable (_ → _))
  | .begin _ (.processRack _) _ | .begin _ (.cancelTask _) _ | .abort _ => .isTrue trivial

instance (state next : State) : Decidable (Undisturbed state next) :=
  inferInstanceAs (Decidable (∀ row ∈ next.table.rows, _))

instance (config : ManagerConfig) (state : State) (action : Action) :
    Decidable (Orderly config state action) :=
  inferInstanceAs (Decidable (∀ next ∈ step config action state, _))

variable {state next : State} {action : Action} {proc : ProcId}

theorem Undisturbed.unfinished (undisturbed : Undisturbed state next)
    (unfinished : ¬state.table.Finished id) (held : id ∈ next.held) : ¬next.table.Finished id := by
  rintro ⟨row, rowMem, rfl, finished⟩
  exact undisturbed row rowMem finished unfinished held

/-- What the calls rely on: the tasks held have not finished. Cancelled tasks have, and a task
that is being cancelled is stored. -/
structure Settled (state : State) : Prop where
  cancelled : ∀ id ∈ state.cancelled, state.table.Finished id
  cancelling : ∀ proc task, state.points proc = .cancelTask task → state.table.Stored task
  idle : ∀ proc, proc ∉ state.calls → state.points proc = .idle
  held : ∀ id ∈ state.held, ¬state.table.Finished id

theorem Settled.hand (settled : Settled state) (inHand : id ∈ (state.points proc).hand) :
    ¬state.table.Finished id := by
  by_cases called : proc ∈ state.calls
  · exact settled.held id (mem_append_right _ (mem_flatMap.mpr ⟨proc, called, inHand⟩))
  · rw [settled.idle proc called] at inHand
    cases inHand

/-! ## What a call does -/

/-- A cancellation that succeeds at once meets a finished task, any other has loaded it. -/
theorem begin_cancels (call : Call) (env : Env) :
    (∀ id, (call.begin env table).cancels = some id → table.Finished id) ∧
      ∀ task, (call.begin env table).next = .cancelTask task → table.Stored task := by
  cases call with
  | submitTask | processRack => exact ⟨by simp [Call.begin], by simp [Call.begin]⟩
  | cancelTask id =>
    simp only [Call.begin]
    split
    next => simp
    next task found =>
      obtain ⟨taskMem, idEq⟩ := Table.find?_eq_some_iff.mp found
      split
      next terminated => simpa using ⟨task, taskMem, idEq, terminated ▸ rfl⟩
      next =>
        split
        next => simp
        next => simpa using .of_mem taskMem

section Takes

variable (takes : Takes config state proc action move)
include takes

theorem finished_of_takes (settled : Settled state)
    (committed : tableAfter state.table move.write = some table)
    (finished : state.table.Finished id) : table.Finished id := by
  cases wrote : move.write with
  | none =>
    rw [wrote] at committed
    cases committed
    exact finished
  | some write =>
    rw [wrote] at committed
    obtain ⟨-, writes⟩ := takes.writes wrote
    refine finished.of_commit committed fun update updateMem unfinished => ?_
    exact settled.hand (writes.hand updateMem unfinished)

theorem hand_of_executes (executes : move.executes = some id) :
    id ∈ (state.points proc).hand := by
  cases takes with
  | begin idle => cases (Call.begin_quiet ..).2.symm.trans executes
  | @advance env move advanced =>
    have effect := (Point.advance_spec advanced).1
    rw [executes] at effect
    exact effect.hand
  | abort => cases executes

/-- What a call has in hand after a step had not finished before it. -/
theorem unfinished_of_hand {locks : Locks LockKey ProcId} (settled : Settled state)
    (takesUnfinished : TakesUnfinished state (state.after proc move locks table) action)
    (inHand : id ∈ move.next.hand) : ¬state.table.Finished id := by
  cases takes with
  | @begin call env idle =>
    rintro ⟨row, rowMem, rfl, finished⟩
    cases call with
    | submitTask req new => exact takesUnfinished row rowMem (mem_singleton.mp inHand)
    | processRack rackId =>
      obtain ⟨task, taskMem, sameId⟩ := mem_map.mp inHand
      rw [append_nil] at taskMem
      obtain ⟨taskMem, -, waiting⟩ := TaskTable.mem_listTasksForRack.mp taskMem
      rw [← state.table.eq_of_key_eq taskMem rowMem sameId, of_decide_eq_true waiting] at finished
      cases finished
    | cancelTask new =>
      revert inHand
      simp only [Call.begin]
      repeat' split
      all_goals simp [Point.hand]
  | advance advanced =>
    obtain inHandBefore | looksUp := Point.hand_of_advance advanced inHand
    · exact settled.hand inHandBefore
    · refine takesUnfinished looksUp id ?_
      simpa only [State.after, Function.update_self] using inHand
  | abort => cases inHand

theorem unfinished_of_held {locks : Locks LockKey ProcId} (settled : Settled state)
    (takesUnfinished : TakesUnfinished state (state.after proc move locks table) action)
    (held : id ∈ (state.after proc move locks table).held) : ¬state.table.Finished id := by
  obtain starting | called := mem_append.mp held
  · obtain now | before := mem_append.mp (diff_subset _ _ starting)
    · exact settled.hand (hand_of_executes takes (Option.mem_toList.mp now))
    · exact settled.held id (mem_append_left _ before)
  · obtain ⟨other, -, inHand⟩ := mem_flatMap.mp called
    by_cases same : other = proc
    · simp only [same, State.after, Function.update_self] at inHand
      exact unfinished_of_hand takes settled takesUnfinished inHand
    · simp only [State.after, Function.update_of_ne same] at inHand
      exact settled.hand inHand

theorem finished_of_cancels (settled : Settled state)
    (committed : tableAfter state.table move.write = some table) (cancels : move.cancels = some id)
    : table.Finished id := by
  cases takes with
  | begin idle =>
    rw [(Call.begin_quiet ..).1] at committed
    cases committed
    exact (begin_cancels ..).1 id cancels
  | @advance env move advanced =>
    have effect := (Point.advance_spec advanced).1
    rw [cancels] at effect
    obtain ⟨task, atPoint, rfl, wrote⟩ := effect.cancels
    rw [wrote] at committed
    exact TaskTable.finished_of_update committed (settled.cancelling proc task atPoint) rfl rfl
  | abort => cases cancels

theorem stored_of_next (next : move.next = .cancelTask task) : state.table.Stored task := by
  cases takes with
  | begin idle => exact (begin_cancels ..).2 task next
  | advance advanced => cases next ▸ (Point.advance_spec advanced).2
  | abort => cases next

end Takes

/-! ## Steps -/

/-- What holds of the tasks that had finished in an earlier state. -/
structure Since (earlier state : State) : Prop where
  settled : Settled state
  finished : ∀ id, earlier.table.Finished id → state.table.Finished id
  executions : ∀ id, earlier.table.Finished id →
    state.executions.count id = earlier.executions.count id

theorem Since.trans {earlier : State} (first : Since earlier state) (second : Since state next) :
    Since earlier next where
  settled := second.settled
  finished id finished := second.finished id (first.finished id finished)
  executions id finished :=
    (second.executions id (first.finished id finished)).trans (first.executions id finished)

theorem since_of_takes {locks : Locks LockKey ProcId}
    (takes : Takes config state proc action move)
    (committed : tableAfter state.table move.write = some table)
    (takesUnfinished : TakesUnfinished state (state.after proc move locks table) action)
    (undisturbed : Undisturbed state (state.after proc move locks table))
    (settled : Settled state) : Since state (state.after proc move locks table) := by
  have keeps (id : Uuid) : state.table.Finished id → table.Finished id :=
    finished_of_takes takes settled committed
  refine ⟨⟨?cancelled, ?cancelling, ?idle, ?held⟩, keeps, ?executions⟩
  case cancelled =>
    intro id cancelled
    obtain now | before := mem_append.mp cancelled
    · exact finished_of_cancels takes settled committed (Option.mem_toList.mp now)
    · exact keeps id (settled.cancelled id before)
  case cancelling =>
    refine (Function.forall_update_iff state.points fun other point =>
      ∀ task, point = .cancelTask task → table.Stored task).mpr ⟨fun task next => ?_, ?_⟩
    · exact stored_of_tableAfter committed (stored_of_next takes next)
    · exact fun other _ task atPoint =>
        stored_of_tableAfter committed (settled.cancelling other task atPoint)
  case idle =>
    intro other uncalled
    obtain ⟨ne, uncalled⟩ := not_or.mp (mt mem_insert_iff.mpr uncalled)
    exact (Function.update_of_ne ne ..).trans (settled.idle other uncalled)
  case held =>
    intro id held
    exact undisturbed.unfinished (unfinished_of_held takes settled takesUnfinished held) held
  case executions =>
    intro id finished
    refine count_append.trans (Nat.add_eq_right.mpr (count_eq_zero.mpr fun executes => ?_))
    exact settled.hand (hand_of_executes takes (Option.mem_toList.mp executes)) finished

theorem since_of_report {update : TaskStatusUpdate}
    (committed : (Write.updateStatus [update]).commit state.table = some table)
    (starting : ¬update.status.isFinished → update.id ∈ state.starting)
    (undisturbed : Undisturbed state (state.afterReport update table)) (settled : Settled state) :
    Since state (state.afterReport update table) := by
  have keeps (id : Uuid) (finished : state.table.Finished id) : table.Finished id := by
    refine finished.of_commit committed fun other otherMem unfinished => ?_
    rw [mem_singleton.mp otherMem] at unfinished ⊢
    exact settled.held update.id (mem_append_left _ (starting unfinished))
  refine ⟨⟨?_, ?_, settled.idle, fun id held => ?_⟩, keeps, fun _ _ => rfl⟩
  · exact fun id cancelled => keeps id (settled.cancelled id cancelled)
  · exact fun proc task atPoint => Write.stored_of_commit committed
      (settled.cancelling proc task atPoint)
  · refine undisturbed.unfinished (settled.held id ?_) held
    exact mem_append.mpr ((mem_append.mp held).imp_left fun starting => diff_subset _ _ starting)

theorem since_of_step (orderly : Orderly config state action)
    (moved : (machine config).step action state = some next) (settled : Settled state) :
    Since state next := by
  obtain ⟨takesUnfinished, undisturbed⟩ := orderly next moved
  obtain ⟨proc, move, takes, performed⟩ | ⟨update, table, rfl, committed, rfl⟩ := step_cases moved
  · obtain ⟨locks, table, -, committed, rfl⟩ := perform_cases performed
    exact since_of_takes takes committed takesUnfinished undisturbed settled
  · exact since_of_report committed takesUnfinished undisturbed settled

/-! ## Every run -/

theorem settled_initial : Settled .initial where
  cancelled _ cancelled := (not_mem_nil cancelled).elim
  cancelling _ _ atPoint := by cases atPoint
  idle _ _ := rfl
  held _ held := (not_mem_nil held).elim

/-- In every run in which nothing held finishes, a finished task stays finished, and a task whose
cancellation has succeeded is not handed to the executor after it. -/
theorem finished_of_run (config : ManagerConfig) {before after : List Action}
    {earlier later : State} (ranBefore : (machine config).run before .initial = some earlier)
    (ranAfter : (machine config).run after earlier = some later)
    (orderly : (machine config).Meets (Orderly config) (before ++ after) .initial) :
    (∀ id, earlier.table.Finished id → later.table.Finished id) ∧
      ∀ id ∈ earlier.cancelled, later.executions.count id = earlier.executions.count id := by
  obtain ⟨orderlyBefore, orderlyAfter⟩ := Machine.meets_append orderly ranBefore
  have settled : Settled earlier :=
    Machine.run_induction Settled
      (fun _ _ _ settled orderly moved => (since_of_step orderly moved settled).settled)
      settled_initial orderlyBefore ranBefore
  have since : Since earlier later :=
    Machine.run_induction (Since earlier)
      (fun _ _ _ since orderly moved => since.trans (since_of_step orderly moved since.settled))
      ⟨settled, fun _ finished => finished, fun _ _ => rfl⟩ orderlyAfter ranAfter
  exact ⟨since.finished, fun id cancelled => since.executions id (settled.cancelled id cancelled)⟩

/-! ## A retry revives a cancelled task -/

def decommissionRequest (idempotencyKey : Option Nat) : Request where
  operation := ⟨.decommission, "decommission"⟩
  rackId := 1
  components := fun _ => []
  conflictStrategy := .queue
  requiredRackId := some 1
  idempotencyKey := idempotencyKey

/-- Task 1 is executed, task 2 with the idempotency key 7 queues behind it and is
cancelled. -/
def queuedAndCancelled : List Action :=
  .begin 0 (.submitTask (decommissionRequest none) 1) {} :: advances 0 4 ++
    .advance 0 { execution := .started 100 } :: advances 0 2 ++
      .begin 1 (.submitTask (decommissionRequest (some 7)) 2) {} :: advances 1 8 ++
        .begin 2 (.cancelTask 2) {} :: advances 2 1

/-- The submission is retried with the same key, and the workflow that it starts reports
that it runs. -/
def retried : List Action :=
  .begin 3 (.submitTask (decommissionRequest (some 7)) 3) {} :: advances 3 3 ++
    .advance 3 { execution := .started 101 } :: advances 3 2 ++
      [.reportStatus ⟨2, .running, "Running", none⟩]

theorem retried_revives :
    ∃ earlier later, (machine {}).run queuedAndCancelled .initial = some earlier ∧
      (machine {}).run retried earlier = some later ∧ 2 ∈ earlier.cancelled ∧
        earlier.table.Finished 2 ∧ ¬later.table.Finished 2 ∧
          later.executions.count 2 ≠ earlier.executions.count 2 :=
  ⟨_, _, rfl, rfl, by decide, by decide, by decide, by decide⟩

/-- Task 3 queues, too. Task 1 runs and completes, and the promoter executes task 3. -/
def promotedAfterwards : List Action :=
  .begin 3 (.submitTask (decommissionRequest none) 3) {} :: advances 3 5 ++
    .reportStatus ⟨1, .running, "Running", none⟩ ::
      .reportStatus ⟨1, .completed, "Succeeded", none⟩ ::
        .begin 4 (.processRack 1) {} :: advances 4 4 ++
          .advance 4 { execution := .started 101 } :: advances 4 2 ++
            [.reportStatus ⟨3, .running, "Running", none⟩]

theorem finished_of_promotedAfterwards :
    ∃ earlier later, (machine {}).run queuedAndCancelled .initial = some earlier ∧
      (machine {}).run promotedAfterwards earlier = some later ∧ 2 ∈ earlier.cancelled ∧
        3 ∈ later.executions ∧ (∀ id, earlier.table.Finished id → later.table.Finished id) ∧
          ∀ id ∈ earlier.cancelled, later.executions.count id = earlier.executions.count id := by
  have orderly : (machine {}).Meets (Orderly {}) (queuedAndCancelled ++ promotedAfterwards)
      .initial := by decide
  exact ⟨_, _, rfl, rfl, by decide, by decide, finished_of_run {} rfl rfl orderly⟩

end TaskManager

end Flow
