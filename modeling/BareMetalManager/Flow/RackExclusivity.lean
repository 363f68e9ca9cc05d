import BareMetalManager.Flow.TaskManager
import Mathlib.Data.List.Pairwise

/-!
# Rack exclusivity of tasks

Two tasks that conflict are not to be active on one rack. Admissions check under the lock of the
rack, so they exclude each other. A promotion checks without it: it stays safe only if it commits
while nobody holds the lock and nothing that conflicts with it has become active since it listed
the active tasks. A workflow that reports `running` checks nothing, and stays safe only if its
task is active already.
-/

namespace Flow

open List TaskTable

variable {write : Write} {task : Task}

namespace TaskTable

def Exclusive (table : TaskTable) : Prop :=
  ∀ left ∈ table.rows, ∀ right ∈ table.rows, left.id ≠ right.id → left.rackId = right.rackId →
    left.status.isActive → right.status.isActive → ¬left.Conflicting right

/-- The task conflicts with no other active task of its rack. -/
def Clear (table : TaskTable) (task : Task) : Prop :=
  ∀ row ∈ table.rows, row.id ≠ task.id → row.rackId = task.rackId → row.status.isActive →
    ¬task.Conflicting row

/-- Besides the new tasks, everything active in the next table is active in this one. -/
def Activates (table next : TaskTable) (new : List Task) : Prop :=
  ∀ row ∈ next.rows, row.status.isActive →
    (∃ old ∈ table.rows, old.status.isActive ∧ old.SameWork row) ∨ ∃ task ∈ new, task.SameWork row

variable {table next : TaskTable} {new : List Task}

theorem Activates.refl (table : TaskTable) : table.Activates table [] :=
  fun row rowMem active => .inl ⟨row, rowMem, active, .refl row⟩

/-- What a write activates: a created task, and the tasks with an update to an active
status that were not active. -/
theorem activates_of_commit (committed : write.commit table = some next)
    (creates : ∀ task, write = .create task → task.status.isActive → task ∈ new)
    (updates : ∀ update ∈ write.updates, update.status.isActive → ∀ old ∈ table.rows,
      update.id = old.id → old.status.isActive ∨ ∃ task ∈ new, task.SameWork old) :
    table.Activates next new := by
  intro row rowMem active
  obtain created | ⟨old, oldMem, revises⟩ := Write.eq_create_or_exists_revises committed rowMem
  · exact .inr ⟨row, creates row created active, .refl row⟩
  · obtain same | ⟨update, updateMem, idEq, statusEq⟩ := revises.status
    · exact .inl ⟨old, oldMem, same ▸ active, revises.sameWork⟩
    · rw [statusEq] at active
      obtain oldActive | ⟨task, taskMem, same⟩ := updates update updateMem active old oldMem idEq
      · exact .inl ⟨old, oldMem, oldActive, revises.sameWork⟩
      · exact .inr ⟨task, taskMem, same.trans revises.sameWork⟩

/-- A task stays clear while only tasks of other racks become active. -/
theorem Clear.of_activates (clear : table.Clear task) (activates : table.Activates next new)
    (elsewhere : ∀ other ∈ new, other.rackId ≠ task.rackId) :
    next.Clear task := by
  intro row rowMem ne sameRack active conflicting
  obtain ⟨old, oldMem, oldActive, same⟩ | ⟨other, otherMem, same⟩ := activates row rowMem active
  · refine clear old oldMem (same.id ▸ ne) (same.rackId ▸ sameRack) oldActive ?_
    exact conflicting.of_sameWork (.refl task) same.symm
  · exact elsewhere other otherMem (same.rackId.trans sameRack)

/-- Activating clear tasks that do not conflict among themselves keeps exclusivity. -/
theorem Exclusive.of_activates (exclusive : table.Exclusive)
    (activates : table.Activates next new) (clear : ∀ task ∈ new, table.Clear task)
    (compatible : new.Pairwise fun earlier later => ¬later.Conflicting earlier) :
    next.Exclusive := by
  intro left leftMem right rightMem ne sameRack leftActive rightActive conflicting
  obtain ⟨oldLeft, oldLeftMem, oldLeftActive, sameLeft⟩ | ⟨newLeft, newLeftMem, sameLeft⟩ :=
      activates left leftMem leftActive <;>
    obtain ⟨oldRight, oldRightMem, oldRightActive, sameRight⟩ |
      ⟨newRight, newRightMem, sameRight⟩ :=
      activates right rightMem rightActive <;>
    rw [← sameLeft.id, ← sameRight.id] at ne <;>
    rw [← sameLeft.rackId, ← sameRight.rackId] at sameRack <;>
    replace conflicting := conflicting.of_sameWork sameLeft.symm sameRight.symm
  · exact exclusive oldLeft oldLeftMem oldRight oldRightMem ne sameRack oldLeftActive
      oldRightActive conflicting
  · exact clear newRight newRightMem oldLeft oldLeftMem ne sameRack oldLeftActive
      conflicting.symm
  · exact clear newLeft newLeftMem oldRight oldRightMem ne.symm sameRack.symm
      oldRightActive conflicting
  · have symmetric : Std.Symm fun earlier later : Task => ¬later.Conflicting earlier :=
      ⟨fun _ _ compatible conflicting => compatible conflicting.symm⟩
    have distinct : newLeft ≠ newRight := fun same => ne (congrArg Task.id same)
    exact compatible.forall newLeftMem newRightMem distinct conflicting.symm

end TaskTable

/-! ## Calls that have checked -/

variable (table : TaskTable) (locks : Locks LockKey ProcId) (proc : ProcId)

/-- A task that an open transaction has checked and not committed. The lock of its rack
keeps it clear. -/
structure Reserved (task : Task) : Prop where
  locked : locks (.rack task.rackId) = some proc
  clear : task.status.isActive → table.Clear task

/-- The tasks that a promotion is about to commit, and the active tasks it has read. -/
structure Examined (rackId : Uuid) (active toExecute : List Task) : Prop where
  activeStored : ∀ task ∈ active, table.Stored task
  stored : ∀ task ∈ toExecute, table.Stored task
  sameRack : ∀ task ∈ toExecute, task.rackId = rackId
  compatible : ∀ task ∈ toExecute, ∀ other ∈ active, ¬task.Conflicting other
  pairwise : toExecute.Pairwise fun earlier later => ¬later.Conflicting earlier

def Scope.Sound (task : Task) : Scope → Prop
  | inserted => Reserved table locks proc task
  | outside _ | persisted => True

def Point.Sound : Point → Prop
  | hasConflict _ task | countWaiting _ task => locks (.rack task.rackId) = some proc
  | createTask task => Reserved table locks proc task
  | execute scope task => scope.Sound table locks proc task
  | deferUnlinked scope task _ _ => scope.Sound table locks proc task
  | countDeferred scope task _ _ => scope.Sound table locks proc task
  | updateScheduled scope task _ => scope.Sound table locks proc task
  | commit write _ =>
    (∀ update ∈ write.updates, ¬update.status.isActive) ∧
      ∀ task, write = .create task → Reserved table locks proc task
  | splitExpired rackId _ waiting candidates =>
    ∀ task ∈ waiting ++ candidates, table.Stored task ∧ task.rackId = rackId
  | promote rackId active toExecute => Examined table rackId active toExecute
  | idle | submit _ _ | lockIdempotencyKey _ _ _ | getTaskByIdempotencyKey _ _ _ | lockRack _ _
  | compensate _ _ _ | markFailed _ _ _ | promoteFunc _ | cancelTask _ => True

variable {rackId : Uuid} {scope : Scope} {point : Point}

section Mono

variable {table locks proc} {next : TaskTable} {newLocks : Locks LockKey ProcId}

theorem Reserved.of_sameWork {newTask : Task} (reserved : Reserved table locks proc task)
    (same : task.SameWork newTask) (active : newTask.status.isActive → task.status.isActive) :
    Reserved table locks proc newTask where
  locked := same.rackId ▸ reserved.locked
  clear newActive row rowMem ne sameRack rowActive conflicting :=
    reserved.clear (active newActive) row rowMem (same.id ▸ ne) (same.rackId ▸ sameRack)
      rowActive (conflicting.of_sameWork same.symm (.refl row))

theorem Examined.mono {active toExecute : List Task}
    (examined : Examined table rackId active toExecute)
    (keepsRows : ∀ task, table.Stored task → next.Stored task) :
    Examined next rackId active toExecute :=
  { examined with
    activeStored := fun task taskMem => keepsRows task (examined.activeStored task taskMem)
    stored := fun task taskMem => keepsRows task (examined.stored task taskMem) }

variable (keepsLocks : ∀ key, locks key = some proc → newLocks key = some proc)
  (keepsClear : ∀ task : Task, locks (.rack task.rackId) = some proc → table.Clear task →
    next.Clear task)
include keepsLocks keepsClear

/-- A checked task stays reserved while its lock is held and it stays clear. -/
theorem Reserved.mono (reserved : Reserved table locks proc task) :
    Reserved next newLocks proc task where
  locked := keepsLocks _ reserved.locked
  clear active := keepsClear task reserved.locked (reserved.clear active)

theorem Scope.Sound.mono (sound : scope.Sound table locks proc task) :
    scope.Sound next newLocks proc task := by
  cases scope with
  | inserted => exact .mono keepsLocks keepsClear sound
  | outside | persisted => trivial

theorem Point.Sound.mono (sound : point.Sound table locks proc)
    (keepsRows : ∀ task, table.Stored task → next.Stored task) :
    point.Sound next newLocks proc := by
  cases point with
  | hasConflict | countWaiting => exact keepsLocks _ sound
  | createTask task => exact .mono keepsLocks keepsClear sound
  | execute scope task | deferUnlinked scope task | countDeferred scope task
  | updateScheduled scope task => exact .mono keepsLocks keepsClear sound
  | commit write executed =>
    exact ⟨sound.1, fun task created => (sound.2 task created).mono keepsLocks keepsClear⟩
  | splitExpired rackId now waiting candidates =>
    exact fun task taskMem => ⟨keepsRows task (sound task taskMem).1, (sound task taskMem).2⟩
  | promote rackId active toExecute => exact .mono sound keepsRows
  | _ => trivial

end Mono

/-! ## What a step establishes -/

namespace TaskManager

variable {move : Move}

section Advance

variable {config : ManagerConfig} {env : Env} {table locks proc} {next : TaskTable}
  {newLocks : Locks LockKey ProcId}

/-- A call that makes the move keeps to what it has established. -/
def Establishes (table : TaskTable) (locks : Locks LockKey ProcId) (proc : ProcId) (move : Move) :
    Prop :=
  ∀ ⦃newLocks next⦄, Locking.after locks proc move.locking = some newLocks →
    tableAfter table move.write = some next → move.next.Sound next newLocks proc

/-- The conflict check under the lock of the rack reserves the task. -/
theorem sound_resolveConflict {req : Request} (holds : locks (.rack task.rackId) = some proc)
    (resolved : resolveConflict req task (table.listActiveTasksForRack task.rackId) = move) :
    Establishes table locks proc move := by
  intro newLocks next locked committed
  unfold resolveConflict at resolved
  split at resolved
  next =>
    split at resolved <;> cases resolved <;> cases locked
    · exact holds
    · trivial
  next noConflict =>
    cases resolved
    cases locked
    cases committed
    refine ⟨holds, fun _ row rowMem _ sameRack active conflicting => ?_⟩
    have listed : row ∈ table.listActiveTasksForRack task.rackId :=
      mem_listTasksForRack.mpr ⟨rowMem, sameRack, active⟩
    exact not_conflicting_of_not_conflicts (Bool.eq_false_iff.mpr noConflict) listed conflicting

theorem Reserved.sound_commit (reserved : Reserved table locks proc task)
    (executed : Option (Uuid × Bool)) :
    (Point.commit (.create task) executed).Sound table locks proc := by
  refine ⟨fun _ updateMem => (not_mem_nil updateMem).elim, fun created equal => ?_⟩
  cases equal
  exact reserved

/-- The new row is committed, or stays reserved in the open transaction. -/
theorem sound_admission (reserved : Reserved table locks proc task)
    (admitted : admission task = move) : Establishes table locks proc move := by
  intro newLocks next locked committed
  unfold admission at admitted
  split at admitted <;> cases admitted
  · split <;> trivial
  · cases locked
    cases committed
    split
    · exact Reserved.sound_commit reserved _
    · exact reserved

theorem sound_executeTask (sound : scope.Sound table locks proc task)
    (executed : executeTask config env scope task = move) :
    Establishes table locks proc move := by
  intro newLocks next locked committed
  unfold executeTask at executed
  split at executed
  case h_3 | h_5 =>
    cases executed
    cases locked
    cases committed
    exact sound
  all_goals cases scope <;> cases executed <;> trivial

theorem sound_deferTask {update : TaskStatusUpdate} (sound : scope.Sound table locks proc task)
    (targets : update.id = task.id) (inactive : ¬update.status.isActive) :
    Establishes table locks proc (scope.deferTask task update) := by
  intro newLocks next locked committed
  cases scope with
  | outside rest => trivial
  | inserted =>
    cases locked
    cases committed
    refine Reserved.sound_commit (.of_sameWork sound
      (update.sameWork_apply task) fun active => ?_) _
    rw [TaskStatusUpdate.apply, if_pos targets.symm] at active
    exact absurd active inactive
  | persisted =>
    cases locked
    cases committed
    refine ⟨fun other otherMem => ?_, by simp⟩
    rwa [mem_singleton.mp otherMem]

variable {ok : Bool}

theorem sound_schedule {executionId : Nat} (sound : scope.Sound table locks proc task) :
    Establishes table locks proc (scope.schedule task executionId ok) := by
  intro newLocks next locked committed
  cases ok with
  | false => cases scope <;> trivial
  | true =>
    cases scope with
    | outside rest => trivial
    | inserted =>
      cases locked
      cases committed
      apply Reserved.sound_commit
      exact .of_sameWork sound ⟨rfl, rfl, rfl, rfl⟩ id
    | persisted =>
      exact ⟨fun _ updateMem => (not_mem_nil updateMem).elim, nofun⟩

variable {candidates : List Task}

theorem sound_expireOrKeep {now : Time} {waiting : List Task}
    (sound : (Point.splitExpired rackId now (task :: waiting) candidates).Sound table locks proc) :
    Establishes table locks proc (expireOrKeep rackId now ok task waiting candidates) := by
  intro newLocks next _ committed
  have keeps : ∀ other ∈ task :: waiting ++ candidates, next.Stored other ∧ other.rackId = rackId :=
    fun other otherMem => (sound other otherMem).imp_left (stored_of_tableAfter committed)
  unfold expireOrKeep
  split
  next => exact fun other otherMem => keeps other (mem_cons_of_mem _ otherMem)
  next =>
    intro other otherMem
    refine keeps other ?_
    simp only [mem_append, mem_cons, not_mem_nil, or_false] at otherMem ⊢
    tauto

/-- The promotion has compared its tasks with the active ones it read. -/
theorem examined_promotable
    (candidatesSound : ∀ task ∈ candidates, table.Stored task ∧ task.rackId = rackId) :
    Examined table rackId (table.listActiveTasksForRack rackId)
      (promotable (table.listActiveTasksForRack rackId) candidates) := by
  obtain ⟨subset, compatible, pairwise⟩ :=
    promotable_spec (table.listActiveTasksForRack rackId) candidates
  exact
    { activeStored := fun _ taskMem => .of_mem (mem_listTasksForRack.mp taskMem).1
      stored := fun task promoted => (candidatesSound task (subset promoted)).1
      sameRack := fun task promoted => (candidatesSound task (subset promoted)).2
      compatible
      pairwise }

end Advance

variable {proc table locks}

theorem sound_advance {config : ManagerConfig} {env : Env} (sound : point.Sound table locks proc)
    (advanced : point.advance config env table = some move) :
    Establishes table locks proc move := by
  intro newLocks next locked committed
  cases point with
  | idle => cases advanced
  | submit | getTaskByIdempotencyKey | commit | compensate | cancelTask =>
    simp only [Point.advance] at advanced
    repeat' split at advanced
    all_goals
      cases advanced
      trivial
  | lockIdempotencyKey | markFailed | promote =>
    cases advanced
    trivial
  | lockRack req task =>
    cases advanced
    exact Locks.acquire?_holds locked
  | hasConflict req task =>
    exact sound_resolveConflict sound (Option.some.inj advanced) locked committed
  | countWaiting req task =>
    simp only [Point.advance] at advanced
    split at advanced <;> cases advanced
    · trivial
    · cases locked
      exact ⟨sound, fun active => by cases active⟩
  | createTask task =>
    exact sound_admission sound (Option.some.inj advanced) locked committed
  | execute scope task =>
    exact sound_executeTask sound (Option.some.inj advanced) locked committed
  | deferUnlinked scope task deadline unlinked =>
    simp only [Point.advance] at advanced
    split at advanced <;> cases advanced
    · cases committed
      exact Scope.Sound.mono (fun _ holds => Locks.holds_of_acquire? locked holds)
        (fun _ _ clear => clear) sound
    · refine sound_deferTask sound rfl ?_ locked committed
      exact Bool.false_ne_true
  | countDeferred scope task deadline unlinked =>
    cases advanced
    exact sound_deferTask sound (id_deferredUpdate ..)
      (not_isActive_deferredUpdate _ _ _ _ _) locked committed
  | updateScheduled scope task executionId =>
    cases advanced
    exact sound_schedule sound locked committed
  | splitExpired rackId now waiting candidates =>
    cases waiting with
    | nil =>
      cases candidates with
      | nil =>
        cases advanced
        trivial
      | cons candidate candidates =>
        cases advanced
        cases committed
        exact examined_promotable sound
    | cons task waiting =>
      cases advanced
      exact sound_expireOrKeep sound locked committed
  | promoteFunc toExecute =>
    cases toExecute with
    | nil =>
      cases advanced
      trivial
    | cons task rest =>
      simp only [Point.advance] at advanced
      repeat' split at advanced
      all_goals
        cases advanced
        trivial

/-! ## Exclusivity of every run -/

def promotion? : Point → Option (Uuid × List Task × List Task)
  | .promote rackId active toExecute => some (rackId, active, toExecute)
  | _ => none

variable (state : State)

/-- A promotion commits while nobody holds the lock of the rack, and no task that became
active on the rack after the promotion read its active tasks conflicts with a promoted one. -/
def PromotesSafely (point : Point) : Prop :=
  ∀ promoted ∈ promotion? point, ∀ task ∈ promoted.2.2,
    state.locks (.rack promoted.1) = none ∧
      ∀ row ∈ state.table.listActiveTasksForRack promoted.1,
        (∀ read ∈ promoted.2.1, read.id ≠ row.id) → row.id ≠ task.id → ¬task.Conflicting row

/-- Promotions are safe, and a workflow that reports its task as running finds it active. -/
def ActivatesSafely : Action → Prop
  | .advance proc _ => PromotesSafely state (state.points proc)
  | .reportStatus update =>
    update.status.isActive → ∀ row ∈ state.table.rows, row.id = update.id → row.status.isActive
  | .begin _ _ _ | .abort _ => True

instance (point : Point) : Decidable (PromotesSafely state point) :=
  inferInstanceAs (Decidable (∀ promoted ∈ promotion? point, _))

instance : (action : Action) → Decidable (ActivatesSafely state action)
  | .advance proc _ => inferInstanceAs (Decidable (PromotesSafely state (state.points proc)))
  | .reportStatus _ => inferInstanceAs (Decidable (_ → _))
  | .begin _ _ _ | .abort _ => .isTrue trivial

/-- The racks are exclusive, and what the calls have checked still holds. -/
structure Guarded : Prop where
  exclusive : state.table.Exclusive
  sound : ∀ proc, (state.points proc).Sound state.table state.locks proc

/-- A call may move a table on: the tasks it activates are clear and compatible, and no
other call holds the lock of their racks. -/
def Admits (table : TaskTable) (locks : Locks LockKey ProcId) (proc : ProcId) (next : TaskTable) :
    Prop :=
  ∃ new, table.Activates next new ∧ (∀ task ∈ new, table.Clear task) ∧
    (∀ task ∈ new, ∀ other, locks (.rack task.rackId) = some other → other = proc) ∧
      new.Pairwise fun earlier later => ¬later.Conflicting earlier

section Admits

variable {next : TaskTable}

theorem Admits.refl : Admits table locks proc table :=
  ⟨[], .refl table, by simp, by simp, .nil⟩

theorem admits_of_inactive (committed : write.commit table = some next)
    (creates : ∀ task, write ≠ .create task)
    (inactive : ∀ update ∈ write.updates, ¬update.status.isActive) :
    Admits table locks proc next := by
  refine ⟨[], activates_of_commit committed ?_ ?_, by simp, by simp, .nil⟩
  · intro task created
    exact absurd created (creates task)
  · intro update updateMem active
    exact absurd active (inactive update updateMem)

theorem admits_create (reserved : Reserved table locks proc task)
    (committed : (Write.create task).commit table = some next) :
    Admits table locks proc next := by
  refine ⟨[task].filter (·.status.isActive), activates_of_commit committed ?_ ?_, ?_, ?_,
    (pairwise_singleton _ task).filter _⟩
  · intro created equal active
    cases equal
    exact mem_filter.mpr ⟨mem_singleton_self task, active⟩
  · nofun
  · intro created createdMem
    obtain ⟨isTask, active⟩ := mem_filter.mp createdMem
    cases mem_singleton.mp isTask
    exact reserved.clear active
  · intro created createdMem other holds
    cases mem_singleton.mp (mem_of_mem_filter createdMem)
    exact Option.some.inj (holds.symm.trans reserved.locked)

theorem admits_promote {state : State} {active toExecute : List Task}
    (examined : Examined state.table rackId active toExecute)
    (safe : PromotesSafely state (.promote rackId active toExecute))
    (committed : (Write.updateStatus (toExecute.map promotion)).commit state.table = some next) :
    Admits state.table state.locks proc next := by
  have safely := safe (rackId, active, toExecute) rfl
  refine ⟨toExecute, activates_of_commit committed ?_ ?_, ?_, ?_, examined.pairwise⟩
  · nofun
  · intro update updateMem _ old oldMem idEq
    obtain ⟨task, taskMem, rfl⟩ := mem_map.mp updateMem
    exact .inr ⟨task, taskMem, (examined.stored task taskMem).sameWork oldMem idEq⟩
  · -- A row that was read is compared in the loop, any other by the condition.
    intro task taskMem row rowMem ne sameRack rowActive conflicting
    rw [examined.sameRack task taskMem] at sameRack
    have listed : row ∈ state.table.listActiveTasksForRack rackId :=
      mem_listTasksForRack.mpr ⟨rowMem, sameRack, rowActive⟩
    by_cases wasRead : ∃ read ∈ active, read.id = row.id
    · obtain ⟨read, readMem, idEq⟩ := wasRead
      have same := (examined.activeStored read readMem).sameWork rowMem idEq
      exact examined.compatible task taskMem read readMem
        (conflicting.of_sameWork (.refl task) same.symm)
    · exact (safely task taskMem).2 row listed
        (fun read readMem idEq => wasRead ⟨read, readMem, idEq⟩) ne conflicting
  · intro task taskMem other holds
    rw [examined.sameRack task taskMem, (safely task taskMem).1] at holds
    cases holds

end Admits

theorem admits_of_writes {config : ManagerConfig} {state : State} {next : TaskTable}
    (sound : point.Sound state.table state.locks proc) (safe : PromotesSafely state point)
    (writes : point.Writes config write) (committed : write.commit state.table = some next) :
    Admits state.table state.locks proc next := by
  cases writes with
  | create task => exact admits_create sound committed
  | commit write executed =>
    cases write with
    | create task => exact admits_create (sound.2 task rfl) committed
    | updateStatus | updateScheduled => exact admits_of_inactive committed (by simp) sound.1
  | promote rackId active toExecute => exact admits_promote sound safe committed
  | defer rest task deadline unlinked count =>
    refine admits_of_inactive committed (by simp) fun update updateMem => ?_
    rw [mem_singleton.mp updateMem]
    exact not_isActive_deferredUpdate _ _ _ _ _
  | schedule point id executionId =>
    exact admits_of_inactive committed (by simp) nofun
  | finish point update finished =>
    refine admits_of_inactive committed (by simp) fun other otherMem => ?_
    rw [mem_singleton.mp otherMem]
    exact TaskStatus.not_isActive_of_isFinished finished

variable {config : ManagerConfig} {state next : State}

theorem sound_of_admits {other : ProcId} (sound : point.Sound state.table state.locks other)
    (ne : other ≠ proc) (admits : Admits state.table state.locks proc table)
    (keepsRows : ∀ task, state.table.Stored task → table.Stored task)
    (keepsLocks : ∀ key, state.locks key = some other → locks key = some other) :
    point.Sound table locks other := by
  obtain ⟨new, activates, -, unlocked, -⟩ := admits
  refine sound.mono keepsLocks (fun task holds clear => ?_) keepsRows
  refine clear.of_activates activates fun activated activatedMem sameRack => ne ?_
  exact unlocked activated activatedMem other (sameRack ▸ holds)

variable {action : Action}

theorem guarded_takes (guarded : Guarded state) (safe : ActivatesSafely state action)
    (takes : Takes config state proc action move)
    (performed : state.perform proc move = some next) :
    Guarded next := by
  obtain ⟨locks, table, locked, committed, rfl⟩ := perform_cases performed
  have admits : Admits state.table state.locks proc table := by
    cases wrote : move.write with
    | none =>
      rw [wrote] at committed
      cases committed
      exact .refl
    | some write =>
      rw [wrote] at committed
      obtain ⟨⟨env, rfl⟩, writes⟩ := takes.writes wrote
      exact admits_of_writes (guarded.sound proc) safe writes committed
  refine ⟨?_, (Function.forall_update_iff state.points fun other point =>
    point.Sound table locks other).mpr ⟨?_, fun other ne => ?_⟩⟩
  · obtain ⟨new, activates, clear, -, compatible⟩ := admits
    exact guarded.exclusive.of_activates activates clear compatible
  · cases takes with
    | @begin call env idle =>
      cases call with
      | submitTask req id => trivial
      | processRack rackId =>
        cases committed
        intro task taskMem
        rw [append_nil] at taskMem
        obtain ⟨rowMem, sameRack, -⟩ := mem_listTasksForRack.mp taskMem
        exact ⟨.of_mem rowMem, sameRack⟩
      | cancelTask id =>
        simp only [Call.begin]
        repeat' split
        all_goals trivial
    | advance advanced => exact sound_advance (guarded.sound proc) advanced locked committed
    | abort => trivial
  · exact sound_of_admits (guarded.sound other) ne admits
      (fun _ => stored_of_tableAfter committed) fun key => Locking.holds_after locked ne

theorem guarded_report {update : TaskStatusUpdate} (guarded : Guarded state)
    (safe : ActivatesSafely state (.reportStatus update))
    (committed : (Write.updateStatus [update]).commit state.table = some table) :
    Guarded (state.afterReport update table) := by
  have activates : state.table.Activates table [] := by
    refine activates_of_commit committed nofun ?_
    intro other otherMem active old oldMem idEq
    cases mem_singleton.mp otherMem
    exact .inl (safe active old oldMem idEq.symm)
  refine ⟨guarded.exclusive.of_activates activates (by simp) .nil, fun proc => ?_⟩
  exact (guarded.sound proc).mono (fun _ holds => holds)
    (fun task _ clear => clear.of_activates activates (by simp))
    fun task => Write.stored_of_commit committed

theorem guarded_step (guarded : Guarded state) (safe : ActivatesSafely state action)
    (moved : (machine config).step action state = some next) :
    Guarded next := by
  obtain ⟨proc, move, takes, performed⟩ | ⟨update, table, rfl, committed, rfl⟩ := step_cases moved
  · exact guarded_takes guarded safe takes performed
  · exact guarded_report guarded safe committed

theorem guarded_initial : Guarded .initial where
  exclusive _ leftMem := (not_mem_nil leftMem).elim
  sound _ := trivial

/-- In every run whose promotions and reports are safe, no two active tasks of a rack
conflict. -/
theorem exclusive_of_run (config : ManagerConfig) {actions : List Action}
    (ran : (machine config).run actions .initial = some next)
    (safely : (machine config).Meets ActivatesSafely actions .initial) : next.table.Exclusive := by
  have guarded : Guarded next :=
    Machine.run_induction Guarded
      (fun _ _ _ guarded safe moved => guarded_step guarded safe moved) guarded_initial safely ran
  exact guarded.exclusive

/-! ## A promotion races with an admission -/

def bringUpRequest (conflictStrategy : ConflictStrategy) : Request where
  operation := ⟨.bringUp, "bring_up"⟩
  rackId := 1
  components := fun _ => []
  conflictStrategy := conflictStrategy

def powerOnRequest : Request where
  operation := ⟨.powerControl, "power_on"⟩
  rackId := 1
  components := fun _ => []

/-- Task 1 brings the rack up and completes. Task 2 has queued behind it, and a pass of the
promoter lists it as waiting and then finds no active task. -/
def promoterHasRead : List Action :=
  .begin 0 (.submitTask (bringUpRequest .reject) 1) {} :: advances 0 4 ++
    .advance 0 { execution := .started 100 } :: advances 0 2 ++
      .begin 1 (.submitTask (bringUpRequest .queue) 2) {} :: advances 1 5 ++
        .reportStatus ⟨1, .completed, "Succeeded", none⟩ ::
          .begin 2 (.processRack 1) {} :: advances 2 2

/-- Task 3 powers the rack on: its admission takes the lock of the rack, finds no active
task and commits. -/
def admitPowerOn : List Action :=
  .begin 3 (.submitTask powerOnRequest 3) {} :: advances 3 4

/-- The promotion commits last and does not see task 3. -/
theorem racingAdmission_not_exclusive :
    ∃ state, (machine {}).run (promoterHasRead ++ admitPowerOn ++ advances 2 1) .initial =
      some state ∧ ¬state.table.Exclusive := by
  refine ⟨_, rfl, fun exclusive => ?_⟩
  refine exclusive _ (.tail _ (.head _)) _ (.tail _ (.tail _ (.head _))) ?_ rfl rfl rfl rfl
  decide

/-- The promotion commits first, and the admission finds task 2 active and is rejected. -/
def promotionFirst : List Action :=
  promoterHasRead ++ advances 2 1 ++ .begin 3 (.submitTask powerOnRequest 3) {} :: advances 3 3

theorem exclusive_of_promotionFirst :
    (machine {}).Meets ActivatesSafely promotionFirst .initial ∧
      ∃ state, (machine {}).run promotionFirst .initial = some state ∧ state.table.Exclusive := by
  have safely : (machine {}).Meets ActivatesSafely promotionFirst .initial := by decide
  exact ⟨safely, _, rfl, exclusive_of_run {} rfl safely⟩

end TaskManager

end Flow
