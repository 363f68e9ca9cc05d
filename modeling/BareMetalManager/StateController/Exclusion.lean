import BareMetalManager.StateController.Processor

/-!
# One handler per object

A handler in flight is protected by the row of its object, which names the processor and has a
lease beyond the deadline of the task. Only a processor's own finalization can take the row away
early, when it has claimed an object again that is still in its set of completed objects.
-/

namespace StateController

open List QueuedObjects StateProcessor StateController.Task

variable {ι π : Type}

/-- No two handlers for one object are in flight. -/
structure ExclusiveHandlers (system : System ι π) : Prop where
  within : ∀ id, (system.processors id).runningObjects.Nodup
  across : ∀ first second, first ≠ second → ∀ object ∈ (system.processors first).runningObjects,
    object ∉ (system.processors second).runningObjects

/-- A finalization that commits finds no object both completed and again in flight. -/
def FinalizesSettled (system : System ι π) : Action ι π → Prop
  | .finalize id outcome =>
    outcome = .failed ∨ ∀ object ∈ (system.processors id).completedObjects,
      object ∉ (system.processors id).runningObjects
  | _ => True

instance [DecidableEq ι] (system : System ι π) (action : Action ι π) :
    Decidable (FinalizesSettled system action) := by
  unfold FinalizesSettled
  split <;> infer_instance

/-! ## Leases -/

/-- The row of the object is claimed by the processor, and its claim is fresh at the
deadline. -/
def Holds (config : IterationConfig) (queued : QueuedObjects ι π) (id : π) (object : ι)
    (deadline : Nat) : Prop :=
  ∃ row, queued object = some row ∧ row.processedBy = some id ∧
    deadline ≤ row.processingStartedAt + config.maxObjectHandlingTime

/-- The unexpired claims of the processor are kept by a change of the table. -/
def HoldsStill (config : IterationConfig) (now : Nat) (queued changed : QueuedObjects ι π)
    (id : π) : Prop :=
  ∀ object deadline, now ≤ deadline → Holds config queued id object deadline →
    Holds config changed id object deadline

variable {objects dequeuedIds : List ι} {claimed : QueuedObjects ι π} {count : Nat}

namespace Holds

variable {config : IterationConfig} {queued : QueuedObjects ι π} {id : π} {object : ι}
  {deadline : Nat}

variable (holds : Holds config queued id object deadline)
include holds

theorem unique {other : π} {otherDeadline : Nat}
    (otherHolds : Holds config queued other object otherDeadline) : id = other := by
  obtain ⟨row, present, owned, -⟩ := holds
  obtain ⟨otherRow, otherPresent, otherOwned, -⟩ := otherHolds
  rw [present] at otherPresent
  cases otherPresent
  rw [owned] at otherOwned
  exact Option.some.inj otherOwned

variable {now : Nat}

theorem not_claimable {row : QueuedObject π} (intime : now ≤ deadline)
    (present : queued object = some row) :
    claimable now (config.maxObjectHandlingTime * 3) row = false := by
  obtain ⟨held, heldPresent, owned, fresh⟩ := holds
  rw [present] at heldPresent
  cases heldPresent
  simp only [claimable, owned, Option.isNone_some, Bool.false_or,
    decide_eq_false_iff_not]
  omega

variable [DecidableEq ι]

theorem queueObjects : Holds config (queued.queueObjects now objects) id object deadline := by
  obtain ⟨row, present, owned, fresh⟩ := holds
  exact ⟨row, queueObjects_eq_some present, owned, fresh⟩

theorem acquire {claimer : π} (intime : now ≤ deadline)
    (acquired : acquireQueuedObjects now queued count claimer
      (config.maxObjectHandlingTime * 3) dequeuedIds = some claimed) :
    Holds config claimed id object deadline := by
  obtain ⟨⟨-, -, free⟩, rfl⟩ := acquireQueuedObjects_eq_some.mp acquired
  have skipped : object ∉ dequeuedIds := by
    intro taken
    obtain ⟨row, present, isClaimable⟩ := free object taken
    rw [holds.not_claimable intime present] at isClaimable
    cases isClaimable
  obtain ⟨row, present, owned, fresh⟩ := holds
  exact ⟨row, by simp only [skipped, ↓reduceIte, present], owned, fresh⟩

omit holds in
theorem of_acquire
    (acquired : acquireQueuedObjects now queued count id
      (config.maxObjectHandlingTime * 3) dequeuedIds = some claimed)
    (early : deadline ≤ now + config.maxObjectHandlingTime) (taken : object ∈ dequeuedIds) :
    Holds config claimed id object deadline := by
  obtain ⟨-, rfl⟩ := acquireQueuedObjects_eq_some.mp acquired
  exact ⟨⟨some id, now⟩, by simp only [taken, ↓reduceIte], rfl, early⟩

/-- A deletion leaves the rows of other processors and of other objects. -/
theorem deleteQueuedObjects [DecidableEq π] {deleter : π}
    (spared : id ≠ deleter ∨ object ∉ objects) :
    Holds config (queued.deleteQueuedObjects objects deleter) id object deadline := by
  obtain ⟨row, present, owned, fresh⟩ := holds
  refine ⟨row, deleteQueuedObjects_eq_some.mpr ⟨present, ?_⟩, owned, fresh⟩
  intro ⟨listed, byDeleter⟩
  rw [owned] at byDeleter
  rcases spared with differs | unlisted
  · exact differs (Option.some.inj byDeleter)
  · exact unlisted listed

end Holds

/-! ## Tasks in flight -/

namespace StateProcessor

theorem filter_isRunning_append_spawned (tasks : List (Task ι)) (objects : List ι)
    (deadline : Nat) :
    (tasks ++ objects.map (spawned deadline)).filter isRunning =
      tasks.filter isRunning ++ objects.map (spawned deadline) := by
  rw [filter_append]
  congr 1
  rw [filter_eq_self]
  refine forall_mem_map.mpr fun object _ => ?_
  rfl

theorem filter_isRunning_set_sublist (tasks : List (Task ι)) (index : Nat) (task : Task ι)
    (ended : task.isRunning = false) :
    ((tasks.set index task).filter isRunning).Sublist (tasks.filter isRunning) := by
  induction tasks generalizing index with
  | nil => exact .refl _
  | cons head tasks ih =>
    cases index with
    | zero =>
      rw [set_cons_zero, filter_cons_of_neg (by simp [ended])]
      exact (sublist_cons_self head tasks).filter _
    | succ index =>
      rw [set_cons_succ, filter_cons, filter_cons]
      split
      · exact (ih index).cons_cons head
      · exact ih index

variable [DecidableEq ι]

theorem joinMany_spec (allowRequeue : Bool) (processor : StateProcessor ι) :
    (processor.joinMany allowRequeue).runningTasks = processor.runningTasks ∧
      (processor.joinMany allowRequeue).phase = processor.phase := by
  refine List.foldlRecOn (motive := fun joined : StateProcessor ι =>
    joined.runningTasks = processor.runningTasks ∧ joined.phase = processor.phase)
    _ _ ⟨?_, rfl⟩ fun _ kept _ _ => kept
  simp only [runningTasks, filter_filter, Bool.and_self]

end StateProcessor

/-! ## The invariant -/

/-- The processor is not between the begin of a claim and its dispatch. -/
def Phase.isQuiet : Phase ι → Bool
  | .claiming _ | .claimed _ _ => false
  | _ => true

/-- The handlers of a processor, and the objects that it is about to dispatch, are
protected by their rows. -/
structure Protected (config : IterationConfig) (now : Nat) (queued : QueuedObjects ι π)
    (id : π) (processor : StateProcessor ι) : Prop where
  running : ∀ task ∈ processor.runningTasks,
    now ≤ task.deadline ∧ Holds config queued id task.object task.deadline
  distinct : processor.runningObjects.Nodup
  claiming : ∀ deadline, processor.phase = .claiming deadline →
    deadline ≤ now + config.maxObjectHandlingTime
  claimed : ∀ deadline objects, processor.phase = .claimed deadline objects →
    now < deadline → objects.Nodup ∧ ∀ object ∈ objects,
      Holds config queued id object deadline ∧ object ∉ processor.runningObjects

variable {deadline : Nat}

namespace Protected

variable {config : IterationConfig} {now : Nat} {queued : QueuedObjects ι π} {id : π}
  {processor : StateProcessor ι}

variable (guarded : Protected config now queued id processor)
include guarded

theorem holds_of_running {object : ι} (inFlight : object ∈ processor.runningObjects) :
    ∃ deadline, now ≤ deadline ∧ Holds config queued id object deadline := by
  obtain ⟨task, mem, rfl⟩ := mem_map.mp inFlight
  exact ⟨task.deadline, guarded.running task mem⟩

theorem table {changed : QueuedObjects ι π} (kept : HoldsStill config now queued changed id) :
    Protected config now changed id processor where
  running task mem :=
    have ⟨intime, holds⟩ := guarded.running task mem
    ⟨intime, kept _ _ intime holds⟩
  distinct := guarded.distinct
  claiming := guarded.claiming
  claimed deadline objects inPhase intime :=
    have ⟨nodup, held⟩ := guarded.claimed deadline objects inPhase intime
    ⟨nodup, fun object mem =>
      ⟨kept _ _ intime.le (held object mem).1, (held object mem).2⟩⟩

theorem advance {later : Nat} (passes : now ≤ later)
    (intime : ∀ task ∈ processor.runningTasks, later ≤ task.deadline) :
    Protected config later queued id processor where
  running task mem := ⟨intime task mem, (guarded.running task mem).2⟩
  distinct := guarded.distinct
  claiming deadline inPhase := (guarded.claiming deadline inPhase).trans (by omega)
  claimed deadline objects inPhase before :=
    guarded.claimed deadline objects inPhase (by omega)

theorem shrink {changed : StateProcessor ι}
    (fewer : changed.runningTasks.Sublist processor.runningTasks)
    (phases : changed.phase = processor.phase ∨ changed.phase.isQuiet = true) :
    Protected config now queued id changed where
  running task mem := guarded.running task (fewer.subset mem)
  distinct := guarded.distinct.sublist (fewer.map object)
  claiming deadline inPhase := by
    rcases phases with same | quiet
    · exact guarded.claiming deadline (same ▸ inPhase)
    · rw [inPhase] at quiet
      cases quiet
  claimed deadline objects inPhase intime := by
    rcases phases with same | quiet
    · obtain ⟨nodup, held⟩ := guarded.claimed deadline objects (same ▸ inPhase) intime
      refine ⟨nodup, fun object mem => ⟨(held object mem).1, ?_⟩⟩
      intro inFlight
      exact (held object mem).2 ((fewer.map Task.object).subset inFlight)
    · rw [inPhase] at quiet
      cases quiet

theorem beginDequeue : Protected config now queued id (processor.beginDequeue config now) where
  running := guarded.running
  distinct := guarded.distinct
  claiming deadline inPhase := by
    simp only [StateProcessor.beginDequeue] at inPhase
    split at inPhase
    · cases inPhase
    · cases inPhase
      exact le_rfl
  claimed deadline objects inPhase := by
    simp only [StateProcessor.beginDequeue] at inPhase
    split at inPhase <;> cases inPhase

/-- A committed claim protects its objects: they were not in flight, because a row in
use is not claimable. -/
theorem acquire [DecidableEq ι] (inPhase : processor.phase = .claiming deadline)
    (acquired : acquireQueuedObjects now queued count id (config.maxObjectHandlingTime
      * 3) dequeuedIds = some claimed) :
    Protected config now claimed id
      { processor with phase := .claimed deadline dequeuedIds } where
  running task mem :=
    have ⟨intime, holds⟩ := guarded.running task mem
    ⟨intime, holds.acquire intime acquired⟩
  distinct := guarded.distinct
  claiming _ impossible := by cases impossible
  claimed _ _ samePhase _ := by
    cases samePhase
    have ⟨⟨nodup, _, free⟩, _⟩ := acquireQueuedObjects_eq_some.mp acquired
    refine ⟨nodup, fun object taken => ⟨?_, ?_⟩⟩
    · exact .of_acquire acquired (guarded.claiming deadline inPhase) taken
    · intro inFlight
      obtain ⟨_, intime, holds⟩ := guarded.holds_of_running inFlight
      obtain ⟨row, present, isClaimable⟩ := free object taken
      rw [holds.not_claimable intime present] at isClaimable
      cases isClaimable

theorem dispatch (inPhase : processor.phase = .claimed deadline objects) :
    Protected config now queued id (processor.dispatch now deadline objects) := by
  unfold StateProcessor.dispatch
  split
  next => exact guarded.shrink (.refl _) (.inr rfl)
  next intime =>
    obtain ⟨nodup, held⟩ := guarded.claimed deadline objects inPhase (by omega)
    have tasks := filter_isRunning_append_spawned processor.objectTasks objects deadline
    refine ⟨?_, ?_, by rintro _ ⟨⟩, by rintro _ _ ⟨⟩⟩
    · rw [runningTasks, tasks]
      refine forall_mem_append.mpr ⟨guarded.running, ?_⟩
      refine forall_mem_map.mpr fun object dispatched => ?_
      exact ⟨Nat.le_of_not_le intime, (held object dispatched).1⟩
    · have objectsEq : (objects.map (spawned deadline)).map object = objects := by
        rw [map_map]
        exact map_id objects
      rw [runningObjects, runningTasks, tasks, map_append, objectsEq, nodup_append]
      refine ⟨guarded.distinct, nodup, ?_⟩
      intro object inFlight other dispatched same
      exact (held other dispatched).2 (same ▸ inFlight)

end Protected

def AllProtected (config : IterationConfig) (system : System ι π) : Prop :=
  ∀ id, Protected config system.now system.queued id (system.processors id)

namespace AllProtected

variable {config : IterationConfig} {system : System ι π}

variable (guarded : AllProtected config system)
include guarded

/-- A protected handler holds the row of its object, and one processor holds a row. -/
theorem exclusiveHandlers : ExclusiveHandlers system where
  within id := (guarded id).distinct
  across _ _ differ object inFirst inSecond := by
    obtain ⟨_, -, firstHolds⟩ := (guarded _).holds_of_running inFirst
    obtain ⟨_, -, secondHolds⟩ := (guarded _).holds_of_running inSecond
    exact differ (firstHolds.unique secondHolds)

variable [DecidableEq π] {id : π} {processor : StateProcessor ι}

/-- A step of one processor that keeps the rows of the others. -/
theorem setProcessor {queued : QueuedObjects ι π}
    (kept : ∀ other ≠ id, HoldsStill config system.now system.queued queued other)
    (own : Protected config system.now queued id processor) :
    AllProtected config ({ system with queued }.setProcessor id processor) := by
  refine (Function.forall_update_iff system.processors fun other processor =>
    Protected config system.now queued other processor).mpr ⟨own, fun other differs => ?_⟩
  exact (guarded other).table (kept other differs)

/-- A step of one processor that leaves the table alone. -/
theorem setProcessor_same (own : Protected config system.now system.queued id processor) :
    AllProtected config (system.setProcessor id processor) :=
  guarded.setProcessor (fun _ _ _ _ _ holds => holds) own

variable {next : System ι π}

theorem finishTask {index : Nat} {result : TaskResult}
    (moved : system.finishTask id index result = some next) : AllProtected config next := by
  simp only [System.finishTask] at moved
  split at moved
  next task _ =>
    split at moved
    next =>
      cases moved
      apply guarded.setProcessor_same
      refine (guarded id).shrink ?_ (.inl rfl)
      exact filter_isRunning_set_sublist _ _ _ rfl
    next => cases moved
  next => cases moved

variable [DecidableEq ι] {outcome : TxnOutcome}

theorem acquire (inPhase : (system.processors id).phase = .claiming deadline)
    (moved : system.acquire config id deadline dequeuedIds outcome = some next) :
    AllProtected config next := by
  cases outcome with
  | failed =>
    cases moved
    exact guarded.setProcessor_same ((guarded id).shrink (.refl _) (.inr rfl))
  | unanswered =>
    obtain ⟨claimed, acquired, rfl⟩ := Option.map_eq_some_iff.mp moved
    have kept (other : π) : HoldsStill config system.now system.queued claimed other :=
      fun _ _ intime holds => holds.acquire intime acquired
    apply guarded.setProcessor fun other _ => kept other
    exact ((guarded id).table (kept id)).shrink (.refl _) (.inr rfl)
  | committed =>
    obtain ⟨claimed, acquired, rfl⟩ := Option.map_eq_some_iff.mp moved
    apply guarded.setProcessor fun _ _ _ _ intime holds => holds.acquire intime acquired
    exact (guarded id).acquire inPhase acquired

/-- Finalizing deletes no row of a handler in flight, unless its object is also in the
set of completed objects. -/
theorem finalizeCompletedObjects {quiet : Phase ι} (isQuiet : quiet.isQuiet = true)
    (wasQuiet : (system.processors id).phase.isQuiet = true)
    (settled : FinalizesSettled system (.finalize id outcome)) :
    AllProtected config (system.finalizeCompletedObjects id quiet outcome) := by
  have unchanged : AllProtected config
      (system.setProcessor id { system.processors id with phase := quiet }) :=
    guarded.setProcessor_same ((guarded id).shrink (.refl _) (.inr isQuiet))
  have kept : ∀ other ≠ id,
      HoldsStill config system.now system.queued (system.finalizedTable id) other :=
    fun _ differs _ _ _ holds => (holds.deleteQueuedObjects (.inl differs)).queueObjects
  have own (settled : ∀ object ∈ (system.processors id).completedObjects,
      object ∉ (system.processors id).runningObjects) :
      Protected config system.now (system.finalizedTable id) id (system.processors id) := by
    refine ⟨?_, (guarded id).distinct, (guarded id).claiming, ?_⟩
    · intro task mem
      obtain ⟨intime, holds⟩ := (guarded id).running task mem
      refine ⟨intime, (holds.deleteQueuedObjects (.inr ?_)).queueObjects⟩
      intro completed
      exact settled _ completed (mem_map_of_mem mem)
    · intro deadline objects inPhase
      rw [inPhase] at wasQuiet
      cases wasQuiet
  simp only [System.finalizeCompletedObjects]
  split
  next => exact unchanged
  next =>
    cases outcome with
    | failed => exact unchanged
    | unanswered | committed =>
      apply guarded.setProcessor kept
      exact (own (Or.resolve_left settled nofun)).shrink (.refl _) (.inr isQuiet)

theorem step [Fintype π] {action : Action ι π} (settled : FinalizesSettled system action)
    (moved : system.step config action = some next) :
    AllProtected config next := by
  cases action with
  | advance duration =>
    obtain ⟨intime, ⟨⟩⟩ := Option.ite_none_right_eq_some.mp moved
    exact fun id => (guarded id).advance (Nat.le_add_right ..) (intime id)
  | enqueue objects =>
    cases moved
    exact fun id => (guarded id).table fun _ _ _ holds => holds.queueObjects
  | beginDequeue id =>
    simp only [System.step] at moved
    split at moved
    · cases moved
      exact guarded.setProcessor_same (guarded id).beginDequeue
    · cases moved
  | acquire id dequeuedIds outcome =>
    simp only [System.step] at moved
    split at moved
    next deadline inPhase => exact guarded.acquire inPhase moved
    next => cases moved
  | dispatch id =>
    simp only [System.step] at moved
    split at moved
    next deadline objects inPhase =>
      cases moved
      exact guarded.setProcessor_same ((guarded id).dispatch inPhase)
    next => cases moved
  | finishTask id index result => exact guarded.finishTask moved
  | waitTimeout id | stop id =>
    simp only [System.step] at moved
    split at moved
    · cases moved
      exact guarded.setProcessor_same ((guarded id).shrink (.refl _) (.inr rfl))
    · cases moved
  | joinMany id allowRequeue =>
    simp only [System.step, Option.ite_none_right_eq_some] at moved
    obtain ⟨same, samePhase⟩ := joinMany_spec allowRequeue (system.processors id)
    split at moved
    · cases moved.2
      apply guarded.setProcessor_same
      exact (guarded id).shrink (same ▸ .refl _) (.inr rfl)
    · cases moved.2
      apply guarded.setProcessor_same
      exact (guarded id).shrink (same ▸ .refl _) (.inl samePhase)
    · cases moved.2
  | finalize id outcome =>
    simp only [System.step] at moved
    split at moved
    next inPhase =>
      cases moved
      exact guarded.finalizeCompletedObjects rfl (by rw [inPhase]; rfl) settled
    next inPhase =>
      rw [Option.ite_none_right_eq_some] at moved
      cases moved.2
      exact guarded.finalizeCompletedObjects rfl (by rw [inPhase]; rfl) settled
    next => cases moved

end AllProtected

/-! ## Runs -/

theorem allProtected_start (config : IterationConfig) (now : Nat) (queued : QueuedObjects ι π) :
    AllProtected config (.start now queued) :=
  fun _ => ⟨nofun, .nil, nofun, nofun⟩

/-- One handler per object, in every state that is reached while each committed
finalization finds no object both completed and again in flight. -/
theorem exclusiveHandlers_of_run [DecidableEq ι] [DecidableEq π] [Fintype π]
    (config : IterationConfig) (now : Nat) (queued : QueuedObjects ι π)
    (actions : List (Action ι π)) (state : System ι π)
    (settled : (System.machine config).Meets FinalizesSettled actions (.start now queued))
    (ran : (System.machine config).run actions (.start now queued) = some state) :
    ExclusiveHandlers state := by
  have guarded : AllProtected config state :=
    Machine.run_induction _ (fun _ _ _ guarded settled moved => guarded.step settled moved)
      (allProtected_start config now queued) settled ran
  exact guarded.exclusiveHandlers

/-- One handler at a time, with a handling time of one. -/
def shortConfig : IterationConfig := ⟨1, 1⟩

/-- A handler ends with a transition, its object is finalized, and the other processor
takes over. -/
def handover : List (Action Unit (Fin 2)) :=
  [.enqueue [()], .beginDequeue 0, .acquire 0 [()] .committed, .dispatch 0,
    .finishTask 0 0 ⟨true, false⟩, .joinMany 0 true, .finalize 0 .committed,
    .beginDequeue 1, .acquire 1 [()] .committed, .dispatch 1]

/-- The hand-over meets the condition and ends with one handler, of processor `1`. -/
theorem exclusiveHandlers_of_handover :
    ∃ state, (System.machine shortConfig).run handover (.start 0 fun _ => none) = some state ∧
      (state.processors 1).runningObjects = [()] ∧ ExclusiveHandlers state := by
  have settled : (System.machine shortConfig).Meets FinalizesSettled handover
      (.start 0 fun _ => none) := by decide
  exact ⟨_, rfl, by decide, exclusiveHandlers_of_run shortConfig 0 _ handover _ settled rfl⟩

/-- The finalization of the first run of a handler fails after the lease has expired. The processor
claims the object again, and its next finalization deletes and enqueues the row of the handler in
flight, which the other processor then claims. -/
def staleCompletion : List (Action Unit (Fin 2)) :=
  [.enqueue [()], .beginDequeue 0, .acquire 0 [()] .committed, .dispatch 0,
    .finishTask 0 0 ⟨true, false⟩, .joinMany 0 true, .advance 4, .finalize 0 .failed,
    .beginDequeue 0, .acquire 0 [()] .committed, .dispatch 0, .waitTimeout 0,
    .finalize 0 .committed,
    .beginDequeue 1, .acquire 1 [()] .committed, .dispatch 1]

/-- Two handlers for one object are in flight. -/
theorem staleCompletion_not_exclusive :
    ¬ ∀ state, (System.machine shortConfig).run staleCompletion (.start 0 fun _ => none) =
      some state → ExclusiveHandlers state := by
  intro exclusive
  exact (exclusive _ rfl).across 0 1 (by decide) () (by decide) (by decide)

end StateController
