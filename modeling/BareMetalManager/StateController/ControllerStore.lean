import BareMetalManager.ConfigVersion
import Mathlib.Tactic.Linarith

/-!
# Controller state in the database

The rows that state controllers own, their history, and the writes of a run of `process_object`.
The conditional update is `try_update_controller_state` of `crates/api-db/src/network_segment.rs`,
and triggers keep the newest history records of an object.
-/

namespace StateController

open Function Versions

variable (σ : Type)

structure Versioned where
  value : σ
  version : ConfigVersion
  deriving DecidableEq, Repr

/-- The stored form of a handler's outcome. -/
inductive PersistentStateHandlerOutcome where
  | wait (reason : String)
  | error (err : String)
  | transition
  | doNothing
  deriving DecidableEq, Repr

structure Row where
  controllerState : Versioned σ
  outcome : Option PersistentStateHandlerOutcome
  deriving DecidableEq, Repr

structure StateHistoryRecord where
  stateVersion : ConfigVersion
  state : σ
  deriving DecidableEq, Repr

/-- The records of an object that the trigger of a history table keeps. -/
def stateHistoryLimit : Nat := 250

/-- The history of an object, newest record first. -/
structure StateHistory where
  records : List (StateHistoryRecord σ)
  bounded : records.length ≤ stateHistoryLimit

/-- Insert a record; the trigger then deletes the oldest beyond the limit. -/
def StateHistory.insert {σ : Type} (history : StateHistory σ) (record : StateHistoryRecord σ) :
    StateHistory σ where
  records := (record :: history.records).take stateHistoryLimit
  bounded := List.length_take_le _ _

/-- A controller state that was replaced: the version that its writer had observed,
what it wrote, and the run that wrote it, if it was one. -/
structure Transition (σ ρ : Type) where
  observed : ConfigVersion
  version : ConfigVersion
  state : σ
  writer : Option ρ
  deriving DecidableEq, Repr

/-- The database. The field `transitions` is the log of the applied updates of each
controller state; no code reads it. -/
structure Database (ι σ ω ρ : Type) where
  rows : ι → Option (Row σ)
  history : ι → StateHistory σ
  data : List ω
  transitions : ι → List (Transition σ ρ)

/-- The writes of a transaction. Writes to other tables are of type `ω`. -/
inductive DbWrite (ι σ ω ρ : Type) where
  | data (write : ω)
  | deleteObject (object : ι)
  /-- `UPDATE … SET controller_state_version, controller_state … WHERE id AND
  controller_state_version = expected`. -/
  | controllerState (object : ι) (writer : Option ρ) (expected new : ConfigVersion) (state : σ)
  | stateHistory (object : ι) (version : ConfigVersion) (state : σ)
  | outcome (object : ι) (record : PersistentStateHandlerOutcome)
  deriving DecidableEq, Repr

namespace Database

variable {ι σ ω ρ : Type}

def initial (rows : ι → Option (Row σ)) (history : ι → StateHistory σ) (data : List ω) :
    Database ι σ ω ρ :=
  ⟨rows, history, data, fun _ => []⟩

variable (db : Database ι σ ω ρ) (object : ι) (version : ConfigVersion)

def isCurrent : Prop :=
  ∃ row, db.rows object = some row ∧ row.controllerState.version = version

instance : Decidable (db.isCurrent object version) :=
  match found : db.rows object with
  | some row =>
    decidable_of_iff (row.controllerState.version = version) (by simp [isCurrent, found])
  | none => .isFalse (by simp [isCurrent, found])

variable [DecidableEq ι]

def apply (db : Database ι σ ω ρ) : DbWrite ι σ ω ρ → Database ι σ ω ρ
  | .data write => { db with data := db.data ++ [write] }
  | .deleteObject object => { db with rows := update db.rows object none }
  | .controllerState object writer expected new state =>
    if db.isCurrent object expected then
      { db with
        rows := update db.rows object
          ((db.rows object).map fun row => { row with controllerState := ⟨state, new⟩ })
        transitions := update db.transitions object
          (db.transitions object ++ [⟨expected, new, state, writer⟩]) }
    else db
  | .stateHistory object version state =>
    { db with
      history := update db.history object
        ((db.history object).insert ⟨version, state⟩) }
  | .outcome object record =>
    { db with
      rows := update db.rows object
        ((db.rows object).map fun row => { row with outcome := some record }) }

def applyAll (db : Database ι σ ω ρ) (writes : List (DbWrite ι σ ω ρ)) : Database ι σ ω ρ :=
  writes.foldl apply db

end Database

end StateController
