import BareMetalManager.Lib.Transition
import BareMetalManager.StateController.ControllerStore

/-!
# Runs of `process_object`

`process_object` of `crates/state-controller/src/controller/processor.rs`, one statement at a
time, so that the runs of any processors and the updates of other writers interleave. The writes
of a transaction take effect when it commits. A row that it updates or deletes stays locked until
it ends. A database error, a timeout or a panic may end a run before any of its statements, and
its transaction is then rolled back.
-/

namespace StateController.ProcessObject

open Versions

variable {ι σ ω ρ : Type}

inductive StateHandlerOutcome (σ : Type) where
  | wait (reason : String)
  | transition (next : σ)
  | doNothing
  | deleted
  deriving DecidableEq, Repr

inductive StateHandlerError where
  | iterationInvalidated
  | timeInStateAboveSla (handlerOutcome : String)
  | other (message : String)
  deriving DecidableEq, Repr

def StateHandlerError.text : StateHandlerError → String
  | iterationInvalidated => "controller iteration invalidated"
  | timeInStateAboveSla handlerOutcome =>
    "the object is in the state for longer than defined by the SLA. handler outcome: " ++
      handlerOutcome
  | other message => message

/-- A handler that returned successfully: its outcome, the writes of its transaction and whether
that deletes the object, and the operations that it has queued, each with its writes. -/
structure HandlerSuccess (σ ω : Type) where
  outcome : StateHandlerOutcome σ
  txnWrites : List ω
  deletesObject : Bool
  pendingDbWrites : List (List ω)
  deriving DecidableEq, Repr

/-- What the handler returned, with the controller state that it was given and
whether the object has been in that state for longer than its SLA allows. -/
structure Handled (σ ω : Type) where
  controllerState : Versioned σ
  timeInStateAboveSla : Bool
  success : HandlerSuccess σ ω
  deriving DecidableEq, Repr

/-- An outcome that keeps the object in its state for too long counts as an error. -/
def checkSla (aboveSla : Bool) :
    StateHandlerOutcome σ → Except StateHandlerError (StateHandlerOutcome σ)
  | .wait reason =>
    if aboveSla then .error (.timeInStateAboveSla ("Wait(\"" ++ reason ++ "\")"))
    else .ok (.wait reason)
  | .doNothing =>
    if aboveSla then .error (.timeInStateAboveSla "DoNothing") else .ok .doNothing
  | outcome => .ok outcome

/-- The record of a result; a deleted object has none. -/
def outcomeRecord :
    Except StateHandlerError (StateHandlerOutcome σ) → Option PersistentStateHandlerOutcome
  | .ok (.wait reason) => some (.wait reason)
  | .ok (.transition _) => some .transition
  | .ok .doNothing => some .doNothing
  | .ok .deleted => none
  | .error err => some (.error err.text)

/-! ## The writes of a run -/

def handlerWrites (object : ι) (success : HandlerSuccess σ ω) : List (DbWrite ι σ ω ρ) :=
  success.txnWrites.map .data ++ if success.deletesObject then [.deleteObject object] else []

def batchWrites (operations : List (List ω)) : List (DbWrite ι σ ω ρ) :=
  operations.flatten.map .data

/-- The conditional update of the controller state, from the observed version. -/
def stateWrite (run : ρ) (object : ι) (observed : ConfigVersion) (now : DateTime) (next : σ) :
    DbWrite ι σ ω ρ :=
  .controllerState object (some run) observed (observed.next now) next

variable (run : ρ) (object : ι) (handled : Handled σ ω)

/-- The controller state with its history record, if the handler wants a transition. -/
def transitionWrites (now : DateTime) : List (DbWrite ι σ ω ρ) :=
  match handled.success.outcome with
  | .transition next =>
    let observed := handled.controllerState.version
    [stateWrite run object observed now next, .stateHistory object (observed.next now) next]
  | _ => []

def outcomeWrites : List (DbWrite ι σ ω ρ) :=
  (outcomeRecord (checkSla handled.timeInStateAboveSla handled.success.outcome)).toList.map
    (.outcome object)

/-! ## The steps of a run -/

/-- Where a run is. The phases from `applying` on have a transaction with writes. -/
inductive Phase (ι σ ω ρ : Type) where
  | loading
  | handling (controllerState : Versioned σ) (aboveSla : Bool)
  | applying (remaining : List (List ω)) (txn : List (DbWrite ι σ ω ρ))
  /-- The controller state has been written, its history has not. -/
  | recording (version : ConfigVersion) (next : σ) (txn : List (DbWrite ι σ ω ρ))
  | storing (txn : List (DbWrite ι σ ω ρ))
  | committing (txn : List (DbWrite ι σ ω ρ))
  /-- The handler or one of its operations failed, and the transaction is rolled back:
  only the outcome is still to be stored, in a transaction of its own. -/
  | failing (err : StateHandlerError)
  | done
  deriving DecidableEq, Repr

/-- A run for an object. The field `committed` is what the run has committed so far;
no code reads it. -/
structure Run (ι σ ω ρ : Type) where
  object : ι
  phase : Phase ι σ ω ρ
  handled : Option (Handled σ ω)
  committed : List (DbWrite ι σ ω ρ)
  deriving DecidableEq, Repr

/-- The results of the calls that a run makes. -/
inductive Event (σ ω : Type) where
  | load (aboveSla : Bool)
  | handlerReturns (output : Except StateHandlerError (HandlerSuccess σ ω))
  /-- The next queued operation is applied. -/
  | applyWrite (result : Except StateHandlerError Unit)
  /-- The controller state is persisted, if there is a transition. -/
  | persistControllerState (now : DateTime)
  | persistStateHistory
  | persistOutcome
  | commit
  | storeFailure
  /-- A call fails, or the run is cancelled at its deadline. -/
  | abort
  deriving DecidableEq, Repr

/-- What an event does to the database: nothing, lock the row of the object, end the
transaction without a trace, or commit writes. -/
inductive Effect (ι σ ω ρ : Type) where
  | keep
  | lock
  | rollback
  | commit (writes : List (DbWrite ι σ ω ρ))

namespace Run

def finish (run : Run ι σ ω ρ) : Run ι σ ω ρ := { run with phase := .done }

variable [DecidableEq ι]

/-- One event of a run, with what it does to the database. The flag `unlocked` says
that no other transaction has locked the row of the object. An event that the phase
does not await, or that waits for the lock, has no result. -/
def step (id : ρ) (db : Database ι σ ω ρ) (unlocked : Bool) (run : Run ι σ ω ρ)
    (event : Event σ ω) : Option (Run ι σ ω ρ × Effect ι σ ω ρ) :=
  match run.phase, event with
  | .loading, .load aboveSla =>
    match db.rows run.object with
    | some row => some ({ run with phase := .handling row.controllerState aboveSla }, .keep)
    | none => some (run.finish, .rollback)
  | .handling controllerState aboveSla, .handlerReturns (.ok success) =>
    if success.deletesObject && !unlocked then none
    else
      some
        ({ run with
            phase := .applying success.pendingDbWrites (handlerWrites run.object success)
            handled := some ⟨controllerState, aboveSla, success⟩ },
          if success.deletesObject then .lock else .keep)
  | .handling _ _, .handlerReturns (.error .iterationInvalidated) => some (run.finish, .rollback)
  | .handling _ _, .handlerReturns (.error err) =>
    some ({ run with phase := .failing err }, .rollback)
  | .applying (operation :: remaining) txn, .applyWrite (.ok ()) =>
    some ({ run with phase := .applying remaining (txn ++ operation.map .data) }, .keep)
  | .applying (_ :: _) _, .applyWrite (.error .iterationInvalidated) =>
    some (run.finish, .rollback)
  | .applying (_ :: _) _, .applyWrite (.error err) =>
    some ({ run with phase := .failing err }, .rollback)
  | .applying [] txn, .persistControllerState now =>
    match run.handled with
    | some handled =>
      match handled.success.outcome with
      | .transition next =>
        let observed := handled.controllerState.version
        if !unlocked then none
        else if (db.applyAll txn).isCurrent run.object observed then
          some
            ({ run with
                phase := .recording (observed.next now) next
                  (txn ++ [stateWrite id run.object observed now next]) },
              .lock)
        else some (run.finish, .rollback)
      | _ => some ({ run with phase := .storing txn }, .keep)
    | none => none
  | .recording version next txn, .persistStateHistory =>
    some ({ run with phase := .storing (txn ++ [.stateHistory run.object version next]) }, .keep)
  | .storing txn, .persistOutcome =>
    match run.handled with
    | some handled =>
      some ({ run with phase := .committing (txn ++ outcomeWrites run.object handled) }, .keep)
    | none => none
  | .committing txn, .commit => some ({ run.finish with committed := txn }, .commit txn)
  | .failing err, .storeFailure =>
    let record := .outcome run.object (.error err.text)
    some ({ run.finish with committed := [record] }, .commit [record])
  | .done, _ => none
  | _, .abort => some (run.finish, .rollback)
  | _, _ => none

end Run

/-! ## The system -/

/-- The database, the locked rows with the runs that hold them, and the runs. -/
structure State (ι σ ω ρ : Type) where
  db : Database ι σ ω ρ
  locks : ι → Option ρ
  runs : ρ → Option (Run ι σ ω ρ)

inductive Action (ι σ ω ρ : Type) where
  | start (id : ρ) (object : ι)
  | event (id : ρ) (event : Event σ ω)
  /-- Another writer updates the controller state that it has observed. -/
  | otherUpdate (object : ι) (observed : ConfigVersion) (now : DateTime) (state : σ)
  deriving DecidableEq, Repr

namespace State

variable [DecidableEq ρ]

def start (db : Database ι σ ω ρ) : State ι σ ω ρ := ⟨db, fun _ => none, fun _ => none⟩

variable (state : State ι σ ω ρ) (id : ρ)

def setRun (run : Run ι σ ω ρ) : State ι σ ω ρ :=
  { state with runs := Function.update state.runs id (some run) }

def released : ι → Option ρ :=
  fun object => if state.locks object = some id then none else state.locks object

variable [DecidableEq ι]

def perform (state : State ι σ ω ρ) (id : ρ) (run : Run ι σ ω ρ) :
    Effect ι σ ω ρ → State ι σ ω ρ
  | .keep => state.setRun id run
  | .lock => { state with locks := Function.update state.locks run.object (some id) }.setRun id run
  | .rollback => { state with locks := state.released id }.setRun id run
  | .commit writes =>
    { state with db := state.db.applyAll writes, locks := state.released id }.setRun id run

/-- One event of a run, or a write of others to an unlocked object. -/
def step (action : Action ι σ ω ρ) (state : State ι σ ω ρ) : Option (State ι σ ω ρ) :=
  match action with
  | .start id object =>
    match state.runs id with
    | none => some (state.setRun id ⟨object, .loading, none, []⟩)
    | some _ => none
  | .event id event => do
      let run ← state.runs id
      let unlocked := decide (state.locks run.object = none ∨ state.locks run.object = some id)
      let (next, effect) ← run.step id state.db unlocked event
      return state.perform id next effect
  | .otherUpdate object observed now value =>
    if state.locks object = none then
      some { state with
        db := state.db.apply
          (.controllerState object none observed (observed.next now) value) }
    else none

def machine : Machine (Action ι σ ω ρ) (State ι σ ω ρ) := ⟨step⟩

end State

end StateController.ProcessObject
