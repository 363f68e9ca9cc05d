import BareMetalManager.Lib.Text

/-!
# The records of credential rotation

`api-db/src/credential_rotation.rs` for one device and one credential type: the row of the device
in `device_credential_rotation`, the site-wide target in `sitewide_credential_rotation`, and the
statements that write them.

Each function executes one statement, which its caller commits at once. A statement holds the
lock of the row of the device, and the one that stages a target also that of the target, so each
is one step. The time that `now()` gives is a parameter.
-/

namespace CredentialRotation

structure DeviceRow where
  currentVersion : Option Int
  rotatingToVersion : Option Int
  rotateJobId : Option Text
  rotateAttempts : Int
  rotateLastAttemptAt : Option Nat
  rotateLastErrorRedacted : Option Text
  rotateQuarantinedUntil : Option Nat
  deriving DecidableEq, Repr

/-- The row that `record_device_enrolled` inserts. -/
def DeviceRow.enrolled (appliedVersion : Option Int) : DeviceRow where
  currentVersion := appliedVersion
  rotatingToVersion := none
  rotateJobId := none
  rotateAttempts := 0
  rotateLastAttemptAt := none
  rotateLastErrorRedacted := none
  rotateQuarantinedUntil := none

/-- The two tables, for one device and one credential type. -/
structure Records where
  targetVersion : Option Int
  device : Option DeviceRow
  deriving DecidableEq, Repr

inductive DatabaseError where
  | invalidArgument (message : Text)
  /-- The database refuses the statement: a number is out of the range of its column. -/
  | query
  deriving DecidableEq, Repr

inductive ConditionalWrite (α : Type) where
  | applied (value : α)
  | notApplied
  deriving DecidableEq, Repr

abbrev Written (α : Type) := ConditionalWrite α × Records

/-- The next number in a column of type `integer`. -/
def nextInteger (number : Int) : Except DatabaseError Int :=
  if number + 1 < 2 ^ 31 then .ok (number + 1) else .error .query

theorem nextInteger_eq_ok {number next : Int} (returned : nextInteger number = .ok next) :
    next = number + 1 := by
  rw [nextInteger] at returned
  split at returned
  next =>
    cases returned
    rfl
  next => cases returned

variable (row : DeviceRow) (now : Nat)

/-- The backoff window of a row is over. -/
def DeviceRow.Eligible : Prop :=
  ∀ quarantinedUntil ∈ row.rotateQuarantinedUntil, quarantinedUntil ≤ now

instance : Decidable (row.Eligible now) :=
  inferInstanceAs (Decidable (∀ quarantinedUntil ∈ _, _))

/-! ## The target -/

/-- `set_initial_target_version`. -/
def setInitialTargetVersion (records : Records) : Except DatabaseError (Written Int) :=
  match records.targetVersion with
  | some _ => .ok (.notApplied, records)
  | none => .ok (.applied 0, { records with targetVersion := some 0 })

/-- `set_next_target_version`. -/
def setNextTargetVersion (records : Records) (expectedCurrent : Int) :
    Except DatabaseError (Written Int) :=
  if records.targetVersion = some expectedCurrent then do
    let next ← nextInteger expectedCurrent
    return (.applied next, { records with targetVersion := some next })
  else .ok (.notApplied, records)

/-! ## Rotation by jobs -/

/-- The row that `record_device_rotation_started` inserts. -/
def DeviceRow.inserted (toVersion : Int) (now : Nat) : DeviceRow where
  currentVersion := none
  rotatingToVersion := some toVersion
  rotateJobId := none
  rotateAttempts := 1
  rotateLastAttemptAt := some now
  rotateLastErrorRedacted := none
  rotateQuarantinedUntil := none

variable (row : DeviceRow) (toVersion : Int) (now : Nat)

/-- The `WHERE` of `record_device_rotation_started` on the row it would replace: nothing is
staged, or a lower target that was rejected before it had a job; the device is behind the
target; and the backoff window is over. -/
def DeviceRow.Startable : Prop :=
  (row.rotatingToVersion = none ∧ row.rotateLastErrorRedacted = none ∨
    (∃ staged ∈ row.rotatingToVersion, staged < toVersion) ∧
      row.rotateLastErrorRedacted ≠ none ∧ row.rotateJobId = none) ∧
  (∀ current ∈ row.currentVersion, current < toVersion) ∧ row.Eligible now

instance : Decidable (row.Startable toVersion now) :=
  inferInstanceAs (Decidable ((_ ∨ _) ∧ _ ∧ _))

/-- `record_device_rotation_started`. -/
def recordDeviceRotationStarted (records : Records) (toVersion : Int) (now : Nat) :
    Except DatabaseError (Written Int) :=
  if toVersion < 0 then
    .error (.invalidArgument ("rotating_to_version must be non-negative, got ".toList ++
      .signedDecimal toVersion))
  else if records.targetVersion = some toVersion then
    match records.device with
    | none => .ok (.applied 1, { records with device := some (.inserted toVersion now) })
    | some row =>
      if row.Startable toVersion now then do
        let attempt ← nextInteger row.rotateAttempts
        return (.applied attempt, { records with
          device := some { row with
            rotatingToVersion := some toVersion
            rotateJobId := none
            rotateAttempts := attempt
            rotateLastAttemptAt := some now
            rotateLastErrorRedacted := none
            rotateQuarantinedUntil := none } })
      else .ok (.notApplied, records)
  else .ok (.notApplied, records)

/-- The row has the target and the attempt that a writer expects, and no terminal error. -/
def DeviceRow.Expected (toVersion attempt : Int) : Prop :=
  row.rotatingToVersion = some toVersion ∧ row.rotateAttempts = attempt ∧
    row.rotateLastErrorRedacted = none

instance (toVersion attempt : Int) : Decidable (row.Expected toVersion attempt) :=
  inferInstanceAs (Decidable (_ ∧ _ ∧ _))

def emptyJobError : DatabaseError :=
  .invalidArgument "rotation job ID must not be empty".toList

variable (records : Records) (toVersion attempt : Int) (jobId : Text)

/-- `record_device_rotation_submitted`. -/
def recordDeviceRotationSubmitted : Except DatabaseError (Written Unit) :=
  if jobId = [] then .error emptyJobError
  else match records.device with
    | none => .ok (.notApplied, records)
    | some row =>
      if row.Expected toVersion attempt ∧
          (row.rotateJobId = none ∨ row.rotateJobId = some jobId) then
        .ok (.applied (), { records with device := some { row with rotateJobId := some jobId } })
      else .ok (.notApplied, records)

/-- `record_device_rotation_retry_started`. -/
def recordDeviceRotationRetryStarted (jobId : Option Text) (now : Nat) :
    Except DatabaseError (Written Int) :=
  match records.device with
  | none => .ok (.notApplied, records)
  | some row =>
    if row.Expected toVersion attempt ∧ row.rotateJobId = jobId ∧ row.Eligible now then do
      let next ← nextInteger row.rotateAttempts
      return (.applied next, { records with
        device := some { row with
          rotateJobId := none
          rotateAttempts := next
          rotateLastAttemptAt := some now
          rotateLastErrorRedacted := none
          rotateQuarantinedUntil := none } })
    else .ok (.notApplied, records)

/-- `record_device_rotation_failed`. -/
def recordDeviceRotationFailed (errorRedacted : Text) : Except DatabaseError (Written Unit) :=
  match records.device with
  | none => .ok (.notApplied, records)
  | some row =>
    if row.Expected toVersion attempt ∧ row.rotateJobId = none then
      .ok (.applied (), { records with
        device := some { row with rotateLastErrorRedacted := some errorRedacted } })
    else .ok (.notApplied, records)

/-- `record_device_rotation_succeeded`. -/
def recordDeviceRotationSucceeded : Except DatabaseError (Written Unit) :=
  if jobId = [] then .error emptyJobError
  else match records.device with
    | none => .ok (.notApplied, records)
    | some row =>
      if row.Expected toVersion attempt ∧ row.rotateJobId = some jobId then
        .ok (.applied (), { records with
          device := some { row with
            currentVersion := row.rotatingToVersion
            rotatingToVersion := none
            rotateJobId := none
            rotateLastErrorRedacted := none
            rotateQuarantinedUntil := none } })
      else .ok (.notApplied, records)

/-! ## Rotation in one step -/

/-- `mark_device_rotating_to_version`. -/
def markDeviceRotatingToVersion : Records :=
  match records.device with
  | none =>
    { records with
      device := some { DeviceRow.enrolled none with rotatingToVersion := some toVersion } }
  | some row => { records with device := some { row with rotatingToVersion := some toVersion } }

/-- `promote_rotating_to_current`. -/
def promoteRotatingToCurrent : ConditionalWrite Unit × Records :=
  match records.device with
  | none => (.notApplied, records)
  | some row =>
    match row.rotatingToVersion with
    | none => (.notApplied, records)
    | some version =>
      (.applied (), { records with
        device := some { row with
          currentVersion := some version
          rotatingToVersion := none
          rotateAttempts := 0
          rotateLastErrorRedacted := none
          rotateQuarantinedUntil := none } })

/-- `increment_rotate_attempt`. -/
def incrementRotateAttempt (errorRedacted : Text) (quarantinedUntil now : Nat) :
    Except DatabaseError Records :=
  match records.device with
  | none => .ok records
  | some row => do
      let attempts ← nextInteger row.rotateAttempts
      return { records with
        device := some { row with
          rotateAttempts := attempts
          rotateLastAttemptAt := some now
          rotateLastErrorRedacted := some errorRedacted
          rotateQuarantinedUntil := some quarantinedUntil } }

/-- `backoff_until`: the end of the backoff window after a number of failed attempts. -/
def backoffUntil (priorAttempts : Int) (now : Nat) : Nat :=
  now + min (900 * 2 ^ priorAttempts.toNat) 3600

/-- What the rotation engine reads of `device_rotation_status`. -/
structure DeviceRotationStatus where
  targetVersion : Int
  converged : Bool
  quarantined : Bool
  quarantinedUntil : Option Nat
  rotateAttempts : Int
  deriving DecidableEq, Repr

/-- `device_rotation_status` of a credential type other than NVOS. -/
def deviceRotationStatus (records : Records) (now : Nat) : Option DeviceRotationStatus := do
  let target ← records.targetVersion
  let row ← records.device
  return {
    targetVersion := target
    converged := row.currentVersion.any fun current => target ≤ current
    quarantined := row.rotateQuarantinedUntil.any fun quarantinedUntil => now < quarantinedUntil
    quarantinedUntil := row.rotateQuarantinedUntil
    rotateAttempts := row.rotateAttempts }

end CredentialRotation
