import BareMetalManager.StateController.ProcessObject

/-!
# The writes of a run

What the writes of a run of `process_object` do to the controller states, to the log of
transitions and to the histories, once they are committed together.
-/

namespace StateController.ProcessObject

open Function List Versions Database

variable {ι σ ω ρ : Type}

/-! ## What a run commits -/

def bundle (id : ρ) (object : ι) (handled : Handled σ ω) (now : DateTime) :
    List (DbWrite ι σ ω ρ) :=
  handlerWrites object handled.success ++ batchWrites handled.success.pendingDbWrites ++
    transitionWrites id object handled now ++ outcomeWrites object handled

/-- What a run has committed: nothing, a separate record of its failure, or all of its
writes together. In the last case the log has its transition, if it made one. -/
inductive Committed (db : Database ι σ ω ρ) (id : ρ) (run : Run ι σ ω ρ) : Prop where
  | nothing (committed : run.committed = [])
  | failure (record : PersistentStateHandlerOutcome)
      (committed : run.committed = [.outcome run.object record])
  | everything (handled : Handled σ ω) (now : DateTime) (returned : run.handled = some handled)
      (committed : run.committed = bundle id run.object handled now)
      (logged : ∀ next, handled.success.outcome = .transition next →
        ⟨handled.controllerState.version, handled.controllerState.version.next now, next,
          some id⟩ ∈ db.transitions run.object)

/-- Each transition was made from the version before it, to the next version. -/
def Consecutive (version : ConfigVersion) : List (Transition σ ρ) → Prop
  | [] => True
  | transition :: transitions =>
    transition.observed = version ∧ (∃ now, transition.version = version.next now) ∧
      Consecutive transition.version transitions

def currentState (initial : Versioned σ) (transitions : List (Transition σ ρ)) : Versioned σ :=
  transitions.foldl (fun _ transition => ⟨transition.state, transition.version⟩) initial

def historyRecord (transition : Transition σ ρ) : Option (StateHistoryRecord σ) :=
  transition.writer.map fun _ => ⟨transition.version, transition.state⟩

/-- The log of an object starts at its initial state, has no gaps, and ends at the
state of the row. -/
structure LogValid (initial : Versioned σ) (db : Database ι σ ω ρ) (object : ι) : Prop where
  consecutive : Consecutive initial.version (db.transitions object)
  current : ∀ row, db.rows object = some row →
    row.controllerState = currentState initial (db.transitions object)

/-- The history of an object has one record for each transition that a run has made,
newest first, up to the limit. -/
def HistoryValid (initial : StateHistory σ) (db : Database ι σ ω ρ) (object : ι) : Prop :=
  (db.history object).records =
    (((db.transitions object).filterMap historyRecord).reverse ++ initial.records).take
      stateHistoryLimit

theorem take_cons_take {α : Type} (count : Nat) (first : α) (rest : List α) :
    (first :: rest.take count).take count = (first :: rest).take count := by
  cases count with
  | zero => rfl
  | succ count => simp [take_take]

variable {initial : Versioned σ}

theorem consecutive_append {transitions : List (Transition σ ρ)} {last : Transition σ ρ} :
    Consecutive initial.version (transitions ++ [last]) ↔ Consecutive initial.version transitions ∧
        last.observed = (currentState initial transitions).version ∧
        ∃ now, last.version = (currentState initial transitions).version.next now := by
  induction transitions generalizing initial with
  | nil => simp [Consecutive, currentState]
  | cons transition transitions ih =>
    have tail := @ih ⟨transition.state, transition.version⟩
    simp only [cons_append, Consecutive, tail, and_assoc]
    rfl

/-! ## Writes -/

def rowObject : DbWrite ι σ ω ρ → Option ι
  | .deleteObject object | .controllerState object .. | .outcome object _ => some object
  | .data _ | .stateHistory .. => none

/-- A write that leaves controller states and histories alone. -/
def isPlain : DbWrite ι σ ω ρ → Bool
  | .data _ | .outcome .. => true
  | _ => false

/-- A conditional update goes to the next version. -/
def Increments : DbWrite ι σ ω ρ → Prop
  | .controllerState _ _ expected new _ => ∃ now, new = expected.next now
  | _ => True

section Writes

variable {db : Database ι σ ω ρ} {write : DbWrite ι σ ω ρ} {writes : List (DbWrite ι σ ω ρ)}
  {object : ι}

theorem isCurrent_iff {version : ConfigVersion} :
    db.isCurrent object version ↔
      ∃ state, (db.rows object).map Row.controllerState = some state ∧ state.version = version := by
  simp [isCurrent]

variable [DecidableEq ι]

theorem rows_apply_of_ne (other : rowObject write ≠ some object) :
    (db.apply write).rows object = db.rows object := by
  cases write with
  | data | stateHistory => rfl
  | deleteObject changed | outcome changed =>
    have differs : object ≠ changed := fun same => other (congrArg some same.symm)
    simp only [apply, update_of_ne differs]
  | controllerState changed =>
    have differs : object ≠ changed := fun same => other (congrArg some same.symm)
    simp only [apply]
    split
    · simp only [update_of_ne differs]
    · rfl

@[elab_as_elim]
theorem applyAll_induction {motive : Database ι σ ω ρ → Prop} (db : Database ι σ ω ρ)
    (writes : List (DbWrite ι σ ω ρ)) (base : motive db)
    (step : ∀ changed, motive changed → ∀ write ∈ writes, motive (changed.apply write)) :
    motive (db.applyAll writes) :=
  List.foldlRecOn writes _ base step

theorem rows_applyAll_of_ne (others : ∀ write ∈ writes, rowObject write ≠ some object) :
    (db.applyAll writes).rows object = db.rows object := by
  refine applyAll_induction db writes rfl fun changed same write mem => ?_
  exact (rows_apply_of_ne (others write mem)).trans same

structure SameStates (db changed : Database ι σ ω ρ) : Prop where
  states : ∀ object,
    (changed.rows object).map Row.controllerState = (db.rows object).map Row.controllerState
  transitions : changed.transitions = db.transitions
  history : changed.history = db.history

theorem sameStates_apply (plain : isPlain write = true) : SameStates db (db.apply write) := by
  cases write with
  | data => exact ⟨fun _ => rfl, rfl, rfl⟩
  | outcome changed record =>
    refine ⟨fun object => ?_, rfl, rfl⟩
    by_cases same : object = changed
    · subst same
      simp only [apply, update_self, Option.map_map]
      rfl
    · simp only [apply, update_of_ne same]
  | deleteObject | controllerState | stateHistory => cases plain

theorem sameStates_applyAll (plain : ∀ write ∈ writes, isPlain write = true) :
    SameStates db (db.applyAll writes) := by
  refine applyAll_induction db writes ⟨fun _ => rfl, rfl, rfl⟩ fun changed all write mem => ?_
  have one : SameStates changed (changed.apply write) := sameStates_apply (plain write mem)
  exact ⟨fun object => (one.states object).trans (all.states object),
    one.transitions.trans all.transitions, one.history.trans all.history⟩

/-- Conditional updates to the next version extend the log without a gap. -/
theorem LogValid.apply (valid : LogValid initial db object) (increments : Increments write) :
    LogValid initial (db.apply write) object := by
  cases write with
  | data | stateHistory => exact ⟨valid.consecutive, valid.current⟩
  | deleteObject changed =>
    refine ⟨valid.consecutive, fun row present => ?_⟩
    by_cases same : object = changed
    · subst same
      simp only [apply, update_self] at present
      cases present
    · simp only [apply, update_of_ne same] at present
      exact valid.current row present
  | outcome changed record =>
    refine ⟨valid.consecutive, fun row present => ?_⟩
    by_cases same : object = changed
    · subst same
      simp only [apply, update_self] at present
      obtain ⟨old, oldPresent, rfl⟩ := Option.map_eq_some_iff.mp present
      exact valid.current old oldPresent
    · simp only [apply, update_of_ne same] at present
      exact valid.current row present
  | controllerState changed writer expected new state =>
    by_cases current : db.isCurrent changed expected
    · simp only [apply, current, ↓reduceIte]
      by_cases same : object = changed
      · subst same
        obtain ⟨old, oldPresent, isExpected⟩ := current
        obtain ⟨now, rfl⟩ := increments
        have reached := valid.current old oldPresent
        constructor
        · simp only [update_self]
          rw [consecutive_append, ← reached, isExpected]
          exact ⟨valid.consecutive, rfl, now, rfl⟩
        · intro row present
          simp only [update_self, oldPresent, Option.map_some, Option.some.injEq] at present
          subst present
          simp only [update_self, currentState, foldl_append, foldl_cons, foldl_nil]
      · constructor
        · simpa only [update_of_ne same] using valid.consecutive
        · simpa only [update_of_ne same] using valid.current
    · simpa only [apply, current, ↓reduceIte] using valid

theorem LogValid.applyAll (valid : LogValid initial db object)
    (increments : ∀ write ∈ writes, Increments write) :
    LogValid initial (db.applyAll writes) object :=
  applyAll_induction db writes valid fun _ valid write mem => valid.apply (increments write mem)

/-- A write that leaves the log and the histories alone. -/
def isQuiet : DbWrite ι σ ω ρ → Bool
  | .data _ | .outcome .. | .deleteObject _ => true
  | _ => false

theorem applyAll_of_quiet (quiet : ∀ write ∈ writes, isQuiet write = true) :
    (db.applyAll writes).transitions = db.transitions ∧
      (db.applyAll writes).history = db.history := by
  refine applyAll_induction db writes ⟨rfl, rfl⟩ fun changed same write mem => ?_
  have isQuiet := quiet write mem
  cases write with
  | data | outcome | deleteObject => exact same
  | controllerState | stateHistory => cases isQuiet

/-- The log never forgets. -/
theorem transitions_subset_apply : db.transitions object ⊆ (db.apply write).transitions object := by
  cases write with
  | data | outcome | deleteObject | stateHistory => exact fun _ mem => mem
  | controllerState changed writer expected new state =>
    simp only [apply]
    split
    · by_cases same : object = changed
      · subst same
        simp only [update_self]
        exact subset_append_left ..
      · simp only [update_of_ne same]
        exact fun _ mem => mem
    · exact fun _ mem => mem

theorem transitions_subset_applyAll :
    db.transitions object ⊆ (db.applyAll writes).transitions object :=
  applyAll_induction db writes (.refl _) fun _ kept _ _ =>
    List.Subset.trans kept transitions_subset_apply

end Writes

/-! ## The writes of a run -/

section Bundle

variable {id : ρ} {object : ι} {handled : Handled σ ω} {now : DateTime} {write : DbWrite ι σ ω ρ}
  {success : HandlerSuccess σ ω} {operations : List (List ω)}

theorem mem_handlerWrites :
    write ∈ handlerWrites object success ↔ (∃ data ∈ success.txnWrites, write = .data data) ∨
        success.deletesObject = true ∧ write = .deleteObject object := by
  unfold handlerWrites
  split
  next deletes => simp [deletes, eq_comm]
  next keeps => simp [keeps, eq_comm]

theorem mem_batchWrites :
    write ∈ batchWrites (ι := ι) (σ := σ) (ρ := ρ) operations ↔
      ∃ data ∈ operations.flatten, write = .data data := by
  simp only [batchWrites, mem_map, eq_comm]

theorem mem_outcomeWrites (mem : write ∈ outcomeWrites object handled) :
    ∃ record, write = .outcome object record := by
  obtain ⟨record, -, rfl⟩ := mem_map.mp mem
  exact ⟨record, rfl⟩

section Members

variable (mem : write ∈ bundle id object handled now)
include mem

theorem mem_bundle :
    (∃ data, write = .data data) ∨
    handled.success.deletesObject = true ∧ write = .deleteObject object ∨
    (∃ record, write = .outcome object record) ∨
    ∃ next, handled.success.outcome = .transition next ∧
      (write = stateWrite id object handled.controllerState.version now next ∨
        write = .stateHistory object (handled.controllerState.version.next now) next) := by
  simp only [bundle, mem_append] at mem
  rcases mem with ((own | batch) | transition) | outcome
  · rcases mem_handlerWrites.mp own with ⟨data, -, rfl⟩ | ⟨deletes, rfl⟩
    · exact .inl ⟨data, rfl⟩
    · exact .inr (.inl ⟨deletes, rfl⟩)
  · obtain ⟨data, -, rfl⟩ := mem_batchWrites.mp batch
    exact .inl ⟨data, rfl⟩
  · unfold transitionWrites at transition
    split at transition
    next next isTransition =>
      refine .inr (.inr (.inr ⟨next, isTransition, ?_⟩))
      simpa using transition
    next => cases transition
  · exact .inr (.inr (.inl (mem_outcomeWrites outcome)))

variable {other : ι}

theorem rowObject_of_mem_bundle (differs : other ≠ object) : rowObject write ≠ some other := by
  intro same
  rcases mem_bundle mem with ⟨_, rfl⟩ | ⟨-, rfl⟩ | ⟨_, rfl⟩ | ⟨_, -, rfl | rfl⟩
  · cases same
  · exact differs (Option.some.inj same).symm
  · exact differs (Option.some.inj same).symm
  · exact differs (Option.some.inj same).symm
  · cases same

theorem increments_of_mem_bundle : Increments write := by
  rcases mem_bundle mem with ⟨_, rfl⟩ | ⟨-, rfl⟩ | ⟨_, rfl⟩ | ⟨_, -, rfl | rfl⟩
  · trivial
  · trivial
  · trivial
  · exact ⟨now, rfl⟩
  · trivial

theorem isQuiet_of_mem_bundle (stays : ∀ next, handled.success.outcome ≠ .transition next) :
    isQuiet write = true := by
  rcases mem_bundle mem with ⟨_, rfl⟩ | ⟨-, rfl⟩ | ⟨_, rfl⟩ | ⟨next, isTransition, -⟩
  · rfl
  · rfl
  · rfl
  · exact absurd isTransition (stays next)

theorem isPlain_of_mem_bundle (stays : ∀ next, handled.success.outcome ≠ .transition next)
    (keeps : handled.success.deletesObject = false) : isPlain write = true := by
  rcases mem_bundle mem with ⟨_, rfl⟩ | ⟨deletes, -⟩ | ⟨_, rfl⟩ | ⟨next, isTransition, -⟩
  · rfl
  · rw [keeps] at deletes
    cases deletes
  · rfl
  · exact absurd isTransition (stays next)

end Members

/-- The writes before the conditional update of a transition are plain. -/
theorem isPlain_of_mem_own (keeps : success.deletesObject = false)
    (mem : write ∈ handlerWrites object success ++ batchWrites operations) :
    isPlain write = true := by
  rcases mem_append.mp mem with own | batch
  · rcases mem_handlerWrites.mp own with ⟨_, -, rfl⟩ | ⟨deletes, -⟩
    · rfl
    · rw [keeps] at deletes
      cases deletes
  · obtain ⟨_, -, rfl⟩ := mem_batchWrites.mp batch
    rfl

theorem transitionWrites_eq_nil (stays : ∀ next, handled.success.outcome ≠ .transition next) :
    transitionWrites id object handled now = [] := by
  unfold transitionWrites
  split
  next next isTransition => exact absurd isTransition (stays next)
  next => rfl

variable [DecidableEq ι] {db : Database ι σ ω ρ}

/-- A transaction with the writes of the handler sees the version of the object, unless
the handler has deleted it. -/
theorem isCurrent_applyAll_own {version : ConfigVersion} :
    (db.applyAll (handlerWrites object success ++ batchWrites operations)).isCurrent
        object version ↔ success.deletesObject = false ∧ db.isCurrent object version := by
  cases deletes : success.deletesObject with
  | false =>
    have same : SameStates db
        (db.applyAll (handlerWrites object success ++ batchWrites operations)) :=
      sameStates_applyAll fun _ mem => isPlain_of_mem_own deletes mem
    rw [isCurrent_iff, same.states, ← isCurrent_iff]
    simp
  | true =>
    let deleted := db.applyAll (success.txnWrites.map .data ++ [.deleteObject object])
    have gone : deleted.rows object = none := by
      simp [deleted, applyAll, apply]
    have same : SameStates deleted (deleted.applyAll (batchWrites operations)) := by
      apply sameStates_applyAll
      intro write mem
      obtain ⟨_, -, rfl⟩ := mem_batchWrites.mp mem
      rfl
    have sequence :
        db.applyAll (handlerWrites object success ++ batchWrites operations) =
          deleted.applyAll (batchWrites operations) := by
      simp [deleted, applyAll, handlerWrites, deletes]
    rw [sequence, isCurrent_iff, same.states, gone]
    simp

/-- A transition from the current version extends the log and the history of its
object by one entry each. -/
theorem applyAll_bundle_of_transition (id : ρ) (now : DateTime) {next : σ}
    (keeps : handled.success.deletesObject = false)
    (isTransition : handled.success.outcome = .transition next)
    (current : db.isCurrent object handled.controllerState.version) :
    (db.applyAll (bundle id object handled now)).transitions =
        update db.transitions object (db.transitions object ++
          [⟨handled.controllerState.version, handled.controllerState.version.next now, next,
            some id⟩]) ∧
      (db.applyAll (bundle id object handled now)).history =
        update db.history object ((db.history object).insert
          ⟨handled.controllerState.version.next now, next⟩) := by
  let own : List (DbWrite ι σ ω ρ) := handlerWrites object handled.success ++
    batchWrites handled.success.pendingDbWrites
  have same : SameStates db (db.applyAll own) :=
    sameStates_applyAll fun _ mem => isPlain_of_mem_own keeps mem
  have stillCurrent : (db.applyAll own).isCurrent object handled.controllerState.version := by
    rwa [isCurrent_iff, same.states, ← isCurrent_iff]
  have outcome : SameStates
      ((db.applyAll own).applyAll (transitionWrites id object handled now))
      (((db.applyAll own).applyAll (transitionWrites id object handled now)).applyAll
        (outcomeWrites object handled)) := by
    apply sameStates_applyAll
    intro write mem
    obtain ⟨record, rfl⟩ := mem_outcomeWrites mem
    rfl
  have sequence : db.applyAll (bundle id object handled now) =
      ((db.applyAll own).applyAll (transitionWrites id object handled now)).applyAll
        (outcomeWrites object handled) := by
    simp only [applyAll, bundle, own, foldl_append]
  rw [sequence, outcome.transitions, outcome.history, ← same.transitions, ← same.history]
  generalize db.applyAll own = middle at stillCurrent
  simp only [transitionWrites, isTransition, applyAll, foldl_cons, foldl_nil,
    stateWrite, apply, stillCurrent, ↓reduceIte, and_self]

variable {initial : StateHistory σ}

/-- The history keeps up with the log. -/
theorem HistoryValid.commit (valid : HistoryValid initial db other)
    (ready : ∀ next, handled.success.outcome = .transition next →
      handled.success.deletesObject = false ∧ db.isCurrent object handled.controllerState.version) :
    HistoryValid initial (db.applyAll (bundle id object handled now)) other := by
  unfold HistoryValid at valid ⊢
  by_cases stays : ∀ next, handled.success.outcome ≠ .transition next
  · obtain ⟨transitions, history⟩ : (db.applyAll (bundle id object handled now)).transitions =
        db.transitions ∧ (db.applyAll (bundle id object handled now)).history = db.history :=
      applyAll_of_quiet fun _ mem => isQuiet_of_mem_bundle mem stays
    rwa [transitions, history]
  · simp only [not_forall, not_not] at stays
    obtain ⟨next, isTransition⟩ := stays
    obtain ⟨keeps, current⟩ := ready next isTransition
    obtain ⟨transitions, history⟩ :=
      applyAll_bundle_of_transition id now keeps isTransition current
    rw [transitions, history]
    by_cases same : other = object
    · subst same
      simp only [update_self, StateHistory.insert, valid, take_cons_take,
        filterMap_append, filterMap_cons, filterMap_nil, historyRecord,
        Option.map_some, reverse_append, reverse_cons, reverse_nil, nil_append, cons_append]
    · simpa only [update_of_ne same] using valid

/-- The updates of other writers have no history record. -/
theorem HistoryValid.otherUpdate {expected new : ConfigVersion}
    {value : σ} (valid : HistoryValid initial db other) :
    HistoryValid initial (db.apply (.controllerState object none expected new value)) other := by
  unfold HistoryValid at valid ⊢
  simp only [apply]
  split
  next =>
    by_cases same : other = object
    · subst same
      simpa only [update_self, filterMap_append, filterMap_cons, historyRecord,
        Option.map_none, filterMap_nil, append_nil] using valid
    · simpa only [update_of_ne same] using valid
  next => exact valid

end Bundle

end StateController.ProcessObject
