import BareMetalManager.StateController.RunWrites

/-!
# Atomic, gap-free transitions

A run of `process_object` commits all its writes in one transaction, or nothing but the record of
a failure. The lock on the row keeps the observed version current from the conditional update
until the commit, so every committed version follows the one that its writer has observed.
-/

namespace StateController.ProcessObject

open Function List Option Versions

variable {ι σ ω ρ : Type}

/-! ## The invariant of a run -/

variable (db : Database ι σ ω ρ) (locks : ι → Option ρ) (id : ρ)

/-- A transaction that deletes the object, or that has updated its controller state, has
locked the row; in the second case the observed version is still current. -/
structure Secured (object : ι) (handled : Handled σ ω) : Prop where
  deletes : handled.success.deletesObject = true → locks object = some id
  transition : ∀ next, handled.success.outcome = .transition next →
    locks object = some id ∧ handled.success.deletesObject = false ∧
      db.isCurrent object handled.controllerState.version

/-- The transaction of a run holds the writes that belong to its phase. -/
def RunValid (run : Run ι σ ω ρ) : Prop :=
  match run.phase with
  | .loading | .handling _ _ | .failing _ => run.committed = []
  | .applying remaining txn =>
    run.committed = [] ∧ ∃ handled applied, run.handled = some handled ∧
      handled.success.pendingDbWrites = applied ++ remaining ∧
      txn = handlerWrites run.object handled.success ++ batchWrites applied ∧
      (handled.success.deletesObject = true → locks run.object = some id)
  | .recording version next txn =>
    run.committed = [] ∧ ∃ handled now, run.handled = some handled ∧
      handled.success.outcome = .transition next ∧
      version = handled.controllerState.version.next now ∧
      txn = handlerWrites run.object handled.success ++
        batchWrites handled.success.pendingDbWrites ++
        [stateWrite id run.object handled.controllerState.version now next] ∧
      Secured db locks id run.object handled
  | .storing txn =>
    run.committed = [] ∧ ∃ handled now, run.handled = some handled ∧
      txn = handlerWrites run.object handled.success ++
        batchWrites handled.success.pendingDbWrites ++
        transitionWrites id run.object handled now ∧
      Secured db locks id run.object handled
  | .committing txn =>
    run.committed = [] ∧ ∃ handled now, run.handled = some handled ∧
      txn = bundle id run.object handled now ∧ Secured db locks id run.object handled
  | .done => Committed db id run

section RunValid

variable {db changed : Database ι σ ω ρ} {locks relocked : ι → Option ρ} {id : ρ}
  {run next : Run ι σ ω ρ} {handled : Handled σ ω} {object : ι}

/-- What other transactions do leaves the locked rows of a run alone, and the log. -/
structure Undisturbed (db changed : Database ι σ ω ρ) (locks relocked : ι → Option ρ)
    (id : ρ) : Prop where
  locked : ∀ object, locks object = some id → relocked object = some id
  current : ∀ object version, locks object = some id → db.isCurrent object version →
    changed.isCurrent object version
  logged : ∀ object, db.transitions object ⊆ changed.transitions object

theorem Secured.frame (secured : Secured db locks id object handled)
    (undisturbed : Undisturbed db changed locks relocked id) :
    Secured changed relocked id object handled where
  deletes deletes := undisturbed.locked object (secured.deletes deletes)
  transition next isTransition :=
    have ⟨locked, keeps, current⟩ := secured.transition next isTransition
    ⟨undisturbed.locked object locked, keeps, undisturbed.current _ _ locked current⟩

theorem Committed.frame (committed : Committed db id run)
    (undisturbed : Undisturbed db changed locks relocked id) : Committed changed id run := by
  cases committed with
  | nothing committed => exact .nothing committed
  | failure record committed => exact .failure record committed
  | everything handled now returned committed logged =>
    exact .everything handled now returned committed fun next isTransition =>
      undisturbed.logged _ (logged next isTransition)

theorem RunValid.frame (valid : RunValid db locks id run)
    (undisturbed : Undisturbed db changed locks relocked id) :
    RunValid changed relocked id run := by
  unfold RunValid at valid ⊢
  cases phase : run.phase with
  | loading | handling | failing => simpa only [phase] using valid
  | applying remaining txn =>
    simp only [phase] at valid ⊢
    obtain ⟨fresh, handled, applied, returned, split, txnEq, deletes⟩ := valid
    exact ⟨fresh, handled, applied, returned, split, txnEq, fun isDeleting =>
      undisturbed.locked _ (deletes isDeleting)⟩
  | recording version next txn =>
    simp only [phase] at valid ⊢
    obtain ⟨fresh, handled, now, returned, isTransition, versionEq, txnEq, secured⟩ := valid
    exact ⟨fresh, handled, now, returned, isTransition, versionEq, txnEq, secured.frame undisturbed⟩
  | storing txn | committing txn =>
    simp only [phase] at valid ⊢
    obtain ⟨fresh, handled, now, returned, txnEq, secured⟩ := valid
    exact ⟨fresh, handled, now, returned, txnEq, secured.frame undisturbed⟩
  | done =>
    simp only [phase] at valid ⊢
    exact valid.frame undisturbed

theorem RunValid.committed_eq_nil (valid : RunValid db locks id run)
    (active : run.phase ≠ .done) : run.committed = [] := by
  unfold RunValid at valid
  cases phase : run.phase with
  | loading | handling | failing => simpa only [phase] using valid
  | applying | recording | storing | committing =>
    simp only [phase] at valid
    exact valid.1
  | done => exact absurd phase active

variable [DecidableEq ι]

/-- What an event of a valid run may do: keep or extend its transaction, end it without
a trace, or commit a record of its failure or all of its writes. -/
def EffectValid (db : Database ι σ ω ρ) (locks : ι → Option ρ) (id : ρ) (next : Run ι σ ω ρ) :
    Effect ι σ ω ρ → Prop
  | .keep => RunValid db locks id next
  | .lock => RunValid db (update locks next.object (some id)) id next
  | .rollback =>
    next.committed = [] ∧ (next.phase = .done ∨ ∃ err, next.phase = .failing err)
  | .commit writes =>
    next.phase = .done ∧ next.committed = writes ∧
      ((∃ record, writes = [.outcome next.object record]) ∨
        ∃ handled now, next.handled = some handled ∧
          writes = bundle id next.object handled now ∧
          Secured db locks id next.object handled)

theorem RunValid.step {unlocked : Bool} {event : Event σ ω} {effect : Effect ι σ ω ρ}
    (valid : RunValid db locks id run)
    (moved : run.step id db unlocked event = some (next, effect)) :
    next.object = run.object ∧ EffectValid db locks id next effect ∧
      (effect = .lock → unlocked = true) := by
  have ended (active : run.phase ≠ .done) {phase : Phase ι σ ω ρ}
      (ends : phase = .done ∨ ∃ err, phase = .failing err)
      (moved : some ({ run with phase }, .rollback) = some (next, effect)) :
      next.object = run.object ∧ EffectValid db locks id next effect ∧
        (effect = .lock → unlocked = true) := by
    cases moved
    exact ⟨rfl, ⟨valid.committed_eq_nil active, ends⟩, by simp⟩
  unfold Run.step at moved
  split at moved
  next aboveSla phase =>
    have active : run.phase ≠ .done := by simp [phase]
    split at moved
    next row _ =>
      cases moved
      exact ⟨rfl, valid.committed_eq_nil active, by simp⟩
    next => exact ended active (.inl rfl) moved
  next controllerState aboveSla success phase =>
    have fresh := valid.committed_eq_nil (by simp [phase])
    split at moved
    next => cases moved
    next unlockedIfDeleting =>
      cases moved
      by_cases deletes : success.deletesObject = true
      · refine ⟨rfl, ?_, fun _ => by simpa [deletes] using unlockedIfDeleting⟩
        simp only [deletes, ↓reduceIte, EffectValid, RunValid]
        refine ⟨fresh, _, [], rfl, rfl, ?_, fun _ => update_self ..⟩
        simp [batchWrites]
      · refine ⟨rfl, ?_, by simp [deletes]⟩
        simp only [deletes, Bool.false_eq_true, ↓reduceIte, EffectValid, RunValid]
        refine ⟨fresh, _, [], rfl, rfl, ?_, fun isDeleting => absurd isDeleting deletes⟩
        simp [batchWrites]
  next phase => exact ended (by simp [phase]) (.inl rfl) moved
  next err _ phase => exact ended (by simp [phase]) (.inr ⟨err, rfl⟩) moved
  next operation remaining txn phase =>
    cases moved
    simp only [RunValid, phase] at valid
    obtain ⟨fresh, handled, applied, returned, split, rfl, deletes⟩ := valid
    refine ⟨rfl, ⟨fresh, handled, applied ++ [operation], returned, ?_, ?_, deletes⟩, by simp⟩
    · rw [split, append_assoc]
      rfl
    · simp [batchWrites]
  next phase => exact ended (by simp [phase]) (.inl rfl) moved
  next err _ phase => exact ended (by simp [phase]) (.inr ⟨err, rfl⟩) moved
  next txn now phase =>
    have active : run.phase ≠ .done := by simp [phase]
    simp only [RunValid, phase] at valid
    obtain ⟨fresh, handled, applied, returned, split, rfl, deletes⟩ := valid
    rw [append_nil] at split
    subst split
    rw [returned] at moved
    simp only at moved
    split at moved
    next target isTransition =>
      split at moved
      next => cases moved
      next isUnlocked =>
        split at moved
        next current =>
          cases moved
          obtain ⟨keeps, current⟩ := isCurrent_applyAll_own.mp current
          refine ⟨rfl, ⟨fresh, handled, now, rfl, isTransition, rfl, rfl, ?_, ?_⟩,
            fun _ => by simpa using isUnlocked⟩
          · exact fun _ => update_self ..
          · exact fun _ _ => ⟨update_self .., keeps, current⟩
        next => exact ended active (.inl rfl) moved
    next stays =>
      cases moved
      refine ⟨rfl, ⟨fresh, handled, now, rfl, ?_, deletes, fun target isTransition =>
        absurd isTransition (stays target)⟩, by simp⟩
      rw [transitionWrites_eq_nil stays, append_nil]
  next version target txn phase =>
    cases moved
    simp only [RunValid, phase] at valid
    obtain ⟨fresh, handled, now, returned, isTransition, rfl, rfl, secured⟩ := valid
    refine ⟨rfl, ⟨fresh, handled, now, returned, ?_, secured⟩, by simp⟩
    simp [transitionWrites, isTransition]
  next txn phase =>
    simp only [RunValid, phase] at valid
    obtain ⟨fresh, handled, now, returned, rfl, secured⟩ := valid
    rw [returned] at moved
    cases moved
    exact ⟨rfl, ⟨fresh, handled, now, rfl, rfl, secured⟩, by simp⟩
  next txn phase =>
    cases moved
    simp only [RunValid, phase] at valid
    obtain ⟨fresh, handled, now, returned, rfl, secured⟩ := valid
    exact ⟨rfl, ⟨rfl, rfl, .inr ⟨handled, now, returned, rfl, secured⟩⟩, by simp⟩
  next err phase =>
    cases moved
    exact ⟨rfl, ⟨rfl, rfl, .inl ⟨_, rfl⟩⟩, by simp⟩
  next => cases moved
  next active => exact ended active (.inl rfl) moved
  next => cases moved

end RunValid

/-! ## The invariant of the system -/

structure Valid (initial : Database ι σ ω ρ) (state : State ι σ ω ρ) : Prop where
  runs : ∀ id run, state.runs id = some run → RunValid state.db state.locks id run
  log : ∀ object row, initial.rows object = some row →
    LogValid row.controllerState state.db object
  history : ∀ object, HistoryValid (initial.history object) state.db object

section System

variable [DecidableEq ρ] {initial : Database ι σ ω ρ} {state : State ι σ ω ρ} {id : ρ}
  {next : Run ι σ ω ρ}

/-- A step of one run that does not disturb the others. -/
theorem Valid.setRun {changed : Database ι σ ω ρ} {relocked : ι → Option ρ}
    (valid : Valid initial state) (undisturbed : ∀ other, other ≠ id →
      Undisturbed state.db changed state.locks relocked other)
    (own : RunValid changed relocked id next) (log : ∀ object row, initial.rows object = some row →
      LogValid row.controllerState changed object)
    (history : ∀ object, HistoryValid (initial.history object) changed object) :
    Valid initial (.setRun ⟨changed, relocked, state.runs⟩ id next) where
  runs other run found := by
    by_cases same : other = id
    · subst same
      simp only [State.setRun, update_self, some.injEq] at found
      subst found
      exact own
    · simp only [State.setRun, update_of_ne same] at found
      exact (valid.runs other run found).frame (undisturbed other same)
  log := log
  history := history

variable {other : ρ} {object : ι}

theorem released_eq_some (differs : other ≠ id) (locked : state.locks object = some other) :
    state.released id object = some other := by
  have notMine : state.locks object ≠ some id := by
    rw [locked]
    exact fun same => differs (some.inj same)
  rwa [State.released, if_neg notMine]

variable [DecidableEq ι]

theorem undisturbed_of_plain {writes : List (DbWrite ι σ ω ρ)} (differs : other ≠ id)
    (plain : ∀ write ∈ writes, isPlain write = true) :
    Undisturbed state.db (state.db.applyAll writes) state.locks (state.released id) other where
  locked _ := released_eq_some differs
  current object version _ current := by
    rwa [isCurrent_iff, (sameStates_applyAll plain).states, ← isCurrent_iff]
  logged _ := transitions_subset_applyAll

/-- A committed run disturbs nobody: it holds the lock on the row, if it changes its
controller state. -/
theorem undisturbed_of_bundle {handled : Handled σ ω} {now : DateTime} (differs : other ≠ id)
    (secured : Secured state.db state.locks id object handled) :
    Undisturbed state.db (state.db.applyAll (bundle id object handled now)) state.locks
      (state.released id) other where
  locked _ := released_eq_some differs
  current object' version locked current := by
    by_cases same : object' = object
    · subst same
      have notMine : state.locks object' ≠ some id := by
        rw [locked]
        exact fun same => differs (some.inj same)
      have keeps : handled.success.deletesObject = false := by
        rw [← Bool.not_eq_true]
        exact fun deletes => notMine (secured.deletes deletes)
      have stays : ∀ next, handled.success.outcome ≠ .transition next :=
        fun next isTransition => notMine (secured.transition next isTransition).1
      exact (undisturbed_of_plain differs fun _ mem =>
        isPlain_of_mem_bundle mem stays keeps).current _ _ locked current
    · rwa [isCurrent_iff, rows_applyAll_of_ne fun _ mem =>
        rowObject_of_mem_bundle mem same, ← isCurrent_iff]
  logged _ := transitions_subset_applyAll

theorem Valid.perform {effect : Effect ι σ ω ρ} (valid : Valid initial state)
    (effectValid : EffectValid state.db state.locks id next effect) (unlocked : effect = .lock →
      state.locks next.object = none ∨ state.locks next.object = some id) :
    Valid initial (state.perform id next effect) := by
  cases effect with
  | keep =>
    exact valid.setRun (fun _ _ => ⟨fun _ locked => locked, fun _ _ _ current => current,
      fun _ _ mem => mem⟩) effectValid valid.log valid.history
  | lock =>
    refine valid.setRun (fun other differs => ⟨fun object locked => ?_,
      fun _ _ _ current => current, fun _ _ mem => mem⟩) effectValid valid.log
      valid.history
    have elsewhere : object ≠ next.object := by
      rintro rfl
      rcases unlocked rfl with isFree | isMine
      · rw [isFree] at locked
        cases locked
      · rw [isMine] at locked
        exact differs (some.inj locked).symm
    rwa [update_of_ne elsewhere]
  | rollback =>
    obtain ⟨fresh, phases⟩ := effectValid
    refine valid.setRun (fun other differs => ⟨fun _ => released_eq_some differs,
      fun _ _ _ current => current, fun _ _ mem => mem⟩) ?_ valid.log
      valid.history
    rcases phases with isDone | ⟨err, isFailing⟩
    · simpa only [RunValid, isDone] using .nothing fresh
    · simpa only [RunValid, isFailing] using fresh
  | commit writes =>
    obtain ⟨isDone, committed, ⟨record, rfl⟩ | ⟨handled, now, returned, rfl, secured⟩⟩ :=
      effectValid
    · have plain : ∀ write ∈ [.outcome next.object record],
          isPlain (write : DbWrite ι σ ω ρ) = true := by simp [isPlain]
      refine valid.setRun (fun other differs => undisturbed_of_plain differs plain) ?_ ?_ ?_
      · simpa only [RunValid, isDone] using .failure record committed
      · exact fun object row present => (valid.log object row present).applyAll (by
          simp [Increments])
      · intro object
        have same : SameStates state.db (state.db.applyAll [.outcome next.object record]) :=
          sameStates_applyAll plain
        unfold HistoryValid
        exact valid.history object
    · refine valid.setRun (fun other differs => undisturbed_of_bundle differs secured) ?_ ?_ ?_
      · simp only [RunValid, isDone]
        refine .everything handled now returned committed fun target isTransition => ?_
        obtain ⟨-, keeps, current⟩ := secured.transition target isTransition
        rw [(applyAll_bundle_of_transition id now keeps isTransition current).1, update_self]
        exact mem_concat_self
      · exact fun object row present => (valid.log object row present).applyAll
          fun _ mem => increments_of_mem_bundle mem
      · exact fun object => (valid.history object).commit fun target isTransition =>
          (secured.transition target isTransition).2

omit [DecidableEq ρ] in
/-- Another writer updates a row that no run has locked. -/
theorem Valid.otherUpdate {observed : ConfigVersion} {now : DateTime} {value : σ}
    (valid : Valid initial state) (isFree : state.locks object = none) :
    Valid initial { state with
      db := state.db.apply
        (.controllerState object none observed (observed.next now) value) } where
  runs id run found := by
    refine (valid.runs id run found).frame ⟨fun _ locked => locked, ?_, fun _ =>
      transitions_subset_apply⟩
    intro object' version locked current
    have elsewhere : object ≠ object' := by
      rintro rfl
      rw [isFree] at locked
      cases locked
    rw [isCurrent_iff, rows_apply_of_ne (by simpa [rowObject] using elsewhere), ← isCurrent_iff]
    exact current
  log object' row present := by
    have increments : Increments (.controllerState object none observed
        (observed.next now) value : DbWrite ι σ ω ρ) := ⟨now, rfl⟩
    exact (valid.log object' row present).apply increments
  history object' := (valid.history object').otherUpdate

theorem Valid.step {action : Action ι σ ω ρ} {after : State ι σ ω ρ}
    (valid : Valid initial state) (moved : state.step action = some after) :
    Valid initial after := by
  cases action with
  | start id object =>
    simp only [State.step] at moved
    split at moved
    next =>
      cases moved
      have loading : EffectValid state.db state.locks id ⟨object, .loading, none, []⟩ .keep := rfl
      exact valid.perform loading nofun
    next => cases moved
  | event id event =>
    obtain ⟨run, found, moved⟩ := bind_eq_some_iff.mp moved
    obtain ⟨⟨next, effect⟩, stepped, performed⟩ := bind_eq_some_iff.mp moved
    cases performed
    obtain ⟨sameObject, effectValid, locks⟩ := (valid.runs id run found).step stepped
    apply valid.perform effectValid
    intro isLock
    rw [sameObject]
    exact of_decide_eq_true (locks isLock)
  | otherUpdate object observed now value =>
    simp only [State.step, ite_none_right_eq_some] at moved
    obtain ⟨isFree, moved⟩ := moved
    cases moved
    exact valid.otherUpdate isFree

end System

/-! ## Runs -/

/-- Each run has committed all of its writes or nothing but a record of its failure, and the
transitions of each object have no gap, each made from the version before it, with one history
record for each that a run has made, up to the limit of the history. -/
structure Atomic (initial : Database ι σ ω ρ) (state : State ι σ ω ρ) : Prop where
  committed : ∀ id run, state.runs id = some run → Committed state.db id run
  log : ∀ object row, initial.rows object = some row →
    LogValid row.controllerState state.db object
  numbers : ∀ object row, initial.rows object = some row →
    let first := row.controllerState.version.versionNr
    let transitions := state.db.transitions object
    first + transitions.length < 2 ^ 64 →
      transitions.map (·.version.versionNr) = range' (first + 1) transitions.length
  history : ∀ object, HistoryValid (initial.history object) state.db object

/-- Below the wrap, the numbers of consecutive versions count up by one. -/
theorem Consecutive.versionNr_eq {version : ConfigVersion} {transitions : List (Transition σ ρ)}
    (consecutive : Consecutive version transitions)
    (small : version.versionNr + transitions.length < 2 ^ 64) :
    transitions.map (·.version.versionNr) =
      range' (version.versionNr + 1) transitions.length := by
  induction transitions generalizing version with
  | nil => rfl
  | cons transition transitions ih =>
    obtain ⟨-, ⟨now, incremented⟩, rest⟩ := consecutive
    rw [length_cons] at small
    have nr : transition.version.versionNr = version.versionNr + 1 := by
      rw [incremented]
      exact ConfigVersion.versionNr_next (by omega)
    rw [map_cons, ih rest (by omega), nr, length_cons, range'_succ]

/-- For any runs of `process_object` on any objects, interleaved with updates of other
writers from the versions that they have observed. -/
theorem atomic_of_run [DecidableEq ι] [DecidableEq ρ] (rows : ι → Option (Row σ))
    (history : ι → StateHistory σ) (data : List ω) (actions : List (Action ι σ ω ρ))
    (state : State ι σ ω ρ)
    (ran : State.machine.run actions (.start (.initial rows history data)) = some state) :
    Atomic (.initial rows history data) state := by
  have initially : Valid (.initial rows history data)
      (.start (.initial rows history data) : State ι σ ω ρ) := by
    refine ⟨nofun, fun object row present => ⟨trivial, ?_⟩, fun object => ?_⟩
    · intro found foundPresent
      exact congrArg Row.controllerState (some.inj (foundPresent.symm.trans present))
    · exact (take_of_length_le (history object).bounded).symm
  have valid : Valid (.initial rows history data) state :=
    Machine.run_invariant _ (fun _ _ _ valid moved => valid.step moved) initially ran
  refine ⟨?_, valid.log, ?_, valid.history⟩
  · intro id run found
    have runValid := valid.runs id run found
    by_cases isDone : run.phase = .done
    · simpa only [RunValid, isDone] using runValid
    · exact .nothing (runValid.committed_eq_nil isDone)
  · intro object row present
    exact (valid.log object row present).consecutive.versionNr_eq

/-- One object in state `false`, at version one. -/
def oneObject : Database Unit Bool Nat Nat :=
  .initial (fun _ => some ⟨⟨false, ⟨1, 0, 0⟩⟩, none⟩) (fun _ => ⟨[], Nat.zero_le _⟩) []

/-- Two runs observe the same version and want a transition. The second one finds its
version replaced and is rolled back. -/
def race : List (Action Unit Bool Nat Nat) :=
  [.start 0 (), .start 1 (), .event 0 (.load false), .event 1 (.load false),
    .event 1 (.handlerReturns (.ok ⟨.transition false, [3], false, []⟩)),
    .event 0 (.handlerReturns (.ok ⟨.transition true, [1], false, [[2]]⟩)),
    .event 0 (.applyWrite (.ok ())), .event 0 (.persistControllerState ⟨10, 0⟩),
    .event 0 .persistStateHistory, .event 0 .persistOutcome, .event 0 .commit,
    .event 1 (.persistControllerState ⟨11, 0⟩)]

/-- The race ends with the transition and the writes of the first run. -/
theorem atomic_of_race :
    ∃ state, State.machine.run race (.start oneObject) = some state ∧
      state.db.transitions () = [⟨⟨1, 0, 0⟩, ⟨2, 10, 0⟩, true, some 0⟩] ∧
      state.db.data = [1, 2] ∧ Atomic oneObject state :=
  ⟨_, rfl, rfl, rfl, atomic_of_run _ _ _ race _ rfl⟩

/-- The run has committed a transition with all of its writes, or at most a record of
its outcome. -/
def TransitionOrNothing (run : Run ι σ ω ρ) : Prop :=
  (∀ write ∈ run.committed, ∃ record, write = .outcome run.object record) ∨
    ∃ handled now next, run.handled = some handled ∧
      handled.success.outcome = .transition next ∧
      run.committed = bundle id run.object handled now

/-- A handler waits; its transaction and its queued operation have a write each. -/
def waitingRun : List (Action Unit Bool Nat Nat) :=
  [.start 0 (), .event 0 (.load false),
    .event 0 (.handlerReturns (.ok ⟨.wait "not yet", [1], false, [[2]]⟩)),
    .event 0 (.applyWrite (.ok ())), .event 0 (.persistControllerState ⟨10, 0⟩),
    .event 0 .persistOutcome, .event 0 .commit]

/-- A run without a transition commits the writes of its handler. -/
theorem waitingRun_commits_writes :
    ¬ ∀ state, State.machine.run waitingRun (.start oneObject) = some state →
      ∀ id run, state.runs id = some run → TransitionOrNothing id run := by
  intro always
  obtain onlyOutcome | ⟨handled, now, next, isHandled, isTransition, -⟩ := always _ rfl 0 _ rfl
  · obtain ⟨_, isOutcome⟩ := onlyOutcome (.data 1) mem_cons_self
    cases isOutcome
  · cases isHandled
    cases isTransition

end StateController.ProcessObject
