import BareMetalManager.CredentialRotation.Records
import BareMetalManager.Lib.Transition

/-!
# Attempts as fencing tokens

Any number of workers rotate the credential of one device by jobs. A worker calls the writers with
whatever target, attempt and job it has, and these may be stale. The number of the attempt grows
with every attempt, so a write that belongs to an earlier attempt, target or job no longer finds
the row it expects.
-/

namespace CredentialRotation

open List Records Option

inductive Call where
  | publishInitial
  | publishNext (expectedCurrent : Int)
  | started (toVersion : Int) (now : Nat)
  | submitted (toVersion attempt : Int) (jobId : Text)
  | retryStarted (toVersion attempt : Int) (jobId : Option Text) (now : Nat)
  | failed (toVersion attempt : Int) (errorRedacted : Text)
  | succeeded (toVersion attempt : Int) (jobId : Text)

inductive Event where
  | started (toVersion attempt : Int)
  | retried (toVersion attempt : Int)
  | submitted (toVersion attempt : Int) (jobId : Text)
  | succeeded (toVersion attempt : Int) (jobId : Text)
  deriving DecidableEq, Repr

def Event.granted? : Event → Option Int
  | .started _ attempt | .retried _ attempt => some attempt
  | .submitted .. | .succeeded .. => none

structure Ledger where
  records : Records
  log : List Event

/-- The records and the events after the result of a statement. An error leaves the records
as they were. -/
def outcome {α : Type} (records : Records) (result : Except DatabaseError (Written α))
    (event : α → Option Event) : Records × List Event :=
  match result with
  | .ok (.applied value, after) => (after, (event value).toList)
  | .ok (.notApplied, after) => (after, [])
  | .error _ => (records, [])

def Call.perform (records : Records) : Call → Records × List Event
  | .publishInitial => outcome records (setInitialTargetVersion records) fun _ => none
  | .publishNext expectedCurrent =>
    outcome records (setNextTargetVersion records expectedCurrent) fun _ => none
  | .started toVersion now =>
    outcome records (recordDeviceRotationStarted records toVersion now) fun attempt =>
      some (.started toVersion attempt)
  | .submitted toVersion attempt jobId =>
    outcome records (recordDeviceRotationSubmitted records toVersion attempt jobId) fun _ =>
      some (.submitted toVersion attempt jobId)
  | .retryStarted toVersion attempt jobId now =>
    outcome records (recordDeviceRotationRetryStarted records toVersion attempt jobId now)
      fun next => some (.retried toVersion next)
  | .failed toVersion attempt errorRedacted =>
    outcome records (recordDeviceRotationFailed records toVersion attempt errorRedacted)
      fun _ => none
  | .succeeded toVersion attempt jobId =>
    outcome records (recordDeviceRotationSucceeded records toVersion attempt jobId) fun _ =>
      some (.succeeded toVersion attempt jobId)

def workers : Machine Call Ledger where
  step call ledger :=
    let (records, events) := call.perform ledger.records
    some ⟨records, ledger.log ++ events⟩

/-! ## What a call can do -/

/-- The row of the device, or the one from which its first row is made. -/
def Records.row (records : Records) : DeviceRow := records.device.getD (.enrolled none)

inductive Moved (records : Records) : Call → Records → List Event → Prop where
  | unchanged (call : Call) : Moved records call records []
  | publishedInitial (target : Option Int) :
      Moved records .publishInitial { records with targetVersion := target } []
  | publishedNext (expectedCurrent : Int) (target : Option Int) :
      Moved records (.publishNext expectedCurrent) { records with targetVersion := target } []
  | started {toVersion : Int} {now : Nat} (published : records.targetVersion = some toVersion)
      (startable : records.row.Startable toVersion now) :
      Moved records (.started toVersion now)
        { records with
          device := some { records.row with
            rotatingToVersion := some toVersion
            rotateJobId := none
            rotateAttempts := records.row.rotateAttempts + 1
            rotateLastAttemptAt := some now
            rotateLastErrorRedacted := none
            rotateQuarantinedUntil := none } }
        [.started toVersion (records.row.rotateAttempts + 1)]
  | submitted {toVersion attempt : Int} {jobId : Text}
      (expected : records.row.Expected toVersion attempt)
      (sameJob : records.row.rotateJobId = none ∨ records.row.rotateJobId = some jobId) :
      Moved records (.submitted toVersion attempt jobId)
        { records with device := some { records.row with rotateJobId := some jobId } }
        [.submitted toVersion attempt jobId]
  | retried {toVersion attempt : Int} {jobId : Option Text} {now : Nat}
      (expected : records.row.Expected toVersion attempt)
      (sameJob : records.row.rotateJobId = jobId) :
      Moved records (.retryStarted toVersion attempt jobId now)
        { records with
          device := some { records.row with
            rotateJobId := none
            rotateAttempts := records.row.rotateAttempts + 1
            rotateLastAttemptAt := some now
            rotateLastErrorRedacted := none
            rotateQuarantinedUntil := none } }
        [.retried toVersion (records.row.rotateAttempts + 1)]
  | failed {toVersion attempt : Int} {errorRedacted : Text}
      (expected : records.row.Expected toVersion attempt)
      (noJob : records.row.rotateJobId = none) :
      Moved records (.failed toVersion attempt errorRedacted)
        { records with
          device := some { records.row with rotateLastErrorRedacted := some errorRedacted } } []
  | succeeded {toVersion attempt : Int} {jobId : Text}
      (expected : records.row.Expected toVersion attempt)
      (sameJob : records.row.rotateJobId = some jobId) :
      Moved records (.succeeded toVersion attempt jobId)
        { records with
          device := some { records.row with
            currentVersion := some toVersion
            rotatingToVersion := none
            rotateJobId := none
            rotateLastErrorRedacted := none
            rotateQuarantinedUntil := none } }
        [.succeeded toVersion attempt jobId]

variable {records : Records} {call : Call} {ledger : Ledger} {events : List Event}
  {toVersion : Int} {enrolledVersion : Option Int}

theorem Records.row_eq {row : DeviceRow} (found : records.device = some row) :
    records.row = row := by
  rw [Records.row, found, getD_some]

theorem moved_perform (records : Records) (call : Call) :
    Moved records call (call.perform records).1 (call.perform records).2 := by
  cases call with
  | publishInitial =>
    simp only [Call.perform, setInitialTargetVersion]
    split
    next => exact .unchanged _
    next => exact .publishedInitial _
  | publishNext expectedCurrent =>
    simp only [Call.perform, setNextTargetVersion]
    split
    next =>
      cases nextInteger expectedCurrent with
      | error => exact .unchanged _
      | ok next => exact .publishedNext expectedCurrent _
    next => exact .unchanged _
  | started toVersion now =>
    simp only [Call.perform, recordDeviceRotationStarted]
    split
    next => exact .unchanged _
    next =>
      split
      next published =>
        split
        next absent =>
          have row : records.row = .enrolled none := by
            rw [row, absent, getD_none]
          have startable : records.row.Startable toVersion now := by
            rw [row]
            simp [DeviceRow.Startable, DeviceRow.enrolled, DeviceRow.Eligible]
          have moved := Moved.started published startable
          rwa [row] at moved
        next row found =>
          obtain rfl := row_eq found
          split
          next startable =>
            cases returned : nextInteger records.row.rotateAttempts with
            | error => exact .unchanged _
            | ok next =>
              cases nextInteger_eq_ok returned
              exact .started published startable
          next => exact .unchanged _
      next => exact .unchanged _
  | submitted toVersion attempt jobId =>
    simp only [Call.perform, recordDeviceRotationSubmitted]
    repeat' split
    all_goals try exact .unchanged _
    next row found guards =>
      obtain rfl := row_eq found
      exact .submitted guards.1 guards.2
  | retryStarted toVersion attempt jobId now =>
    simp only [Call.perform, recordDeviceRotationRetryStarted]
    repeat' split
    all_goals try exact .unchanged _
    next row found guards =>
      obtain rfl := row_eq found
      cases returned : nextInteger records.row.rotateAttempts with
      | error => exact .unchanged _
      | ok next =>
        cases nextInteger_eq_ok returned
        exact .retried guards.1 guards.2.1
  | failed toVersion attempt errorRedacted =>
    simp only [Call.perform, recordDeviceRotationFailed]
    repeat' split
    all_goals try exact .unchanged _
    next row found guards =>
      obtain rfl := row_eq found
      exact .failed guards.1 guards.2
  | succeeded toVersion attempt jobId =>
    simp only [Call.perform, recordDeviceRotationSucceeded]
    repeat' split
    all_goals try exact .unchanged _
    next row found guards =>
      obtain rfl := row_eq found
      have moved := Moved.succeeded guards.1 guards.2
      rwa [← guards.1.1] at moved

theorem moved_of_step {next : Ledger} (moved : workers.step call ledger = some next) :
    ∃ events, Moved ledger.records call next.records events ∧ next.log = ledger.log ++ events := by
  have same : some (.mk (call.perform ledger.records).1
      (ledger.log ++ (call.perform ledger.records).2)) = some next := moved
  cases same
  exact ⟨_, moved_perform ledger.records call, rfl⟩

/-! ## What every run keeps -/

def Granted (log : List Event) (toVersion attempt : Int) : Prop :=
  .started toVersion attempt ∈ log ∨ .retried toVersion attempt ∈ log

structure Agree (enrolledVersion : Option Int) (ledger : Ledger) : Prop where
  increasing : (ledger.log.filterMap Event.granted?).Pairwise (· < ·)
  bounded : ∀ attempt ∈ ledger.log.filterMap Event.granted?,
    attempt ≤ ledger.records.row.rotateAttempts
  submitted : ∀ toVersion attempt jobId, .submitted toVersion attempt jobId ∈ ledger.log →
    attempt ≤ ledger.records.row.rotateAttempts ∧
      (attempt = ledger.records.row.rotateAttempts →
        ledger.records.row.rotatingToVersion = none ∨
          ledger.records.row.rotatingToVersion = some toVersion ∧
            ledger.records.row.rotateJobId = some jobId)
  oneJob : ∀ toVersion attempt jobId otherVersion otherJob,
    .submitted toVersion attempt jobId ∈ ledger.log →
    .submitted otherVersion attempt otherJob ∈ ledger.log →
      toVersion = otherVersion ∧ jobId = otherJob
  staged : ∀ toVersion ∈ ledger.records.row.rotatingToVersion,
    Granted ledger.log toVersion ledger.records.row.rotateAttempts ∧
      ∀ current ∈ ledger.records.row.currentVersion, current < toVersion
  job : ∀ jobId ∈ ledger.records.row.rotateJobId,
    ∃ toVersion ∈ ledger.records.row.rotatingToVersion,
      .submitted toVersion ledger.records.row.rotateAttempts jobId ∈ ledger.log
  current : ∀ version ∈ ledger.records.row.currentVersion, enrolledVersion = some version ∨
    ∃ attempt jobId, Granted ledger.log version attempt ∧
      .submitted version attempt jobId ∈ ledger.log ∧
      .succeeded version attempt jobId ∈ ledger.log

variable {log : List Event} {attempt : Int}

theorem Granted.append (granted : Granted log toVersion attempt) :
    Granted (log ++ events) toVersion attempt :=
  granted.imp (mem_append_left _) (mem_append_left _)

section

variable (agree : Agree enrolledVersion ledger)
include agree

/-- What is known of the current version stays known when the log grows. -/
theorem Agree.current_append (events : List Event) :
    ∀ version ∈ ledger.records.row.currentVersion, enrolledVersion = some version ∨
      ∃ attempt jobId, Granted (ledger.log ++ events) version attempt ∧
        .submitted version attempt jobId ∈ ledger.log ++ events ∧
        .succeeded version attempt jobId ∈ ledger.log ++ events := by
  intro version versionMem
  obtain enrolled | ⟨attempt, jobId, granted, submitted, succeeded⟩ :=
    agree.current version versionMem
  · exact .inl enrolled
  · exact .inr ⟨attempt, jobId, granted.append, mem_append_left _ submitted,
      mem_append_left _ succeeded⟩

variable {event : Event} {jobId : Text}

omit agree in
theorem submitted_of_append {version : Int}
    (noJob : ∀ version attempt jobId, event ≠ .submitted version attempt jobId)
    (mem : .submitted version attempt jobId ∈ log ++ [event]) :
    .submitted version attempt jobId ∈ log := by
  obtain old | new := mem_append.mp mem
  · exact old
  · exact absurd (mem_singleton.mp new).symm (noJob version attempt jobId)

/-- A new attempt keeps the log and the row in agreement: no event of an earlier attempt has
its number. -/
theorem Agree.grant (granted : event.granted? = some (ledger.records.row.rotateAttempts + 1))
    (granting : Granted [event] toVersion (ledger.records.row.rotateAttempts + 1))
    (attempts : records.row.rotateAttempts = ledger.records.row.rotateAttempts + 1)
    (rotating : records.row.rotatingToVersion = some toVersion)
    (job : records.row.rotateJobId = none)
    (sameCurrent : records.row.currentVersion = ledger.records.row.currentVersion)
    (behind : ∀ current ∈ ledger.records.row.currentVersion, current < toVersion) :
    Agree enrolledVersion ⟨records, ledger.log ++ [event]⟩ := by
  have notSubmitted : ∀ version attempt jobId, event ≠ .submitted version attempt jobId := by
    rintro version attempt jobId rfl
    cases granted
  have fromLog {version attempt jobId} := @submitted_of_append ledger.log attempt event jobId
    version notSubmitted
  have grantsEq : (ledger.log ++ [event]).filterMap Event.granted? =
      ledger.log.filterMap Event.granted? ++ [ledger.records.row.rotateAttempts + 1] := by
    rw [filterMap_append, filterMap_cons_some granted, filterMap_nil]
  refine ⟨?_, ?_, ?_, ?_, ?_, ?_, ?_⟩
  · rw [grantsEq]
    refine pairwise_append.mpr ⟨agree.increasing, pairwise_singleton _ _, ?_⟩
    intro old oldMem new newMem
    have below := agree.bounded old oldMem
    rw [mem_singleton.mp newMem]
    omega
  · intro attempt attemptMem
    rw [grantsEq] at attemptMem
    rw [attempts]
    obtain old | new := mem_append.mp attemptMem
    · have below := agree.bounded attempt old
      omega
    · rw [mem_singleton.mp new]
  · intro version attempt jobId mem
    have below := (agree.submitted version attempt jobId (fromLog mem)).1
    rw [attempts]
    exact ⟨by omega, by omega⟩
  · intro version attempt jobId otherVersion otherJob mem otherMem
    exact agree.oneJob version attempt jobId otherVersion otherJob (fromLog mem)
      (fromLog otherMem)
  · intro version versionMem
    rw [rotating] at versionMem
    cases versionMem
    rw [attempts, sameCurrent]
    refine ⟨?_, behind⟩
    exact granting.imp (mem_append_right _) (mem_append_right _)
  · intro jobId jobMem
    rw [job] at jobMem
    cases jobMem
  · rw [sameCurrent]
    exact agree.current_append [event]

omit agree in
/-- An event that grants no attempt leaves the granted attempts as they are. -/
theorem filterMap_granted?_append (notGranting : event.granted? = none) :
    (log ++ [event]).filterMap Event.granted? = log.filterMap Event.granted? := by
  rw [filterMap_append, filterMap_cons_none notGranting, filterMap_nil, append_nil]

/-- A job that is recorded for the current attempt is its only one. -/
theorem Agree.submit (expected : ledger.records.row.Expected toVersion attempt)
    (sameJob : ledger.records.row.rotateJobId = none ∨ ledger.records.row.rotateJobId = some jobId)
    (row : records.row = { ledger.records.row with rotateJobId := some jobId }) :
    Agree enrolledVersion ⟨records, ledger.log ++ [.submitted toVersion attempt jobId]⟩ := by
  obtain ⟨rotating, attempts, -⟩ := expected
  have current : ∀ version other, .submitted version attempt other ∈ ledger.log →
      version = toVersion ∧ other = jobId := by
    intro version other mem
    obtain none | ⟨sameVersion, hasJob⟩ := (agree.submitted version attempt other mem).2
      attempts.symm
    · rw [rotating] at none
      cases none
    · rw [rotating] at sameVersion
      rw [hasJob] at sameJob
      obtain impossible | sameJob := sameJob
      · cases impossible
      · exact ⟨(some.inj sameVersion).symm, some.inj sameJob⟩
  have known : ∀ version number other,
      .submitted version number other ∈ ledger.log ++ [.submitted toVersion attempt jobId] →
        number = attempt ∧ version = toVersion ∧ other = jobId ∨
          .submitted version number other ∈ ledger.log := by
    intro version number other mem
    obtain old | new := mem_append.mp mem
    · exact .inr old
    · cases mem_singleton.mp new
      exact .inl ⟨rfl, rfl, rfl⟩
  refine ⟨?_, ?_, ?_, ?_, ?_, ?_, ?_⟩
  · rw [filterMap_granted?_append rfl]
    exact agree.increasing
  · rw [filterMap_granted?_append rfl, row]
    exact agree.bounded
  · intro version number other mem
    rw [row]
    obtain ⟨rfl, rfl, rfl⟩ | old := known version number other mem
    · exact ⟨attempts.ge, fun _ => .inr ⟨rotating, rfl⟩⟩
    · refine ⟨(agree.submitted version number other old).1, ?_⟩
      intro same
      have isCurrent : number = attempt := same.trans attempts
      subst isCurrent
      obtain ⟨rfl, rfl⟩ := current version other old
      exact .inr ⟨rotating, rfl⟩
  · intro version number other otherVersion otherJob mem otherMem
    obtain ⟨rfl, rfl, rfl⟩ | old := known version number other mem
    · obtain ⟨-, rfl, rfl⟩ | otherOld := known otherVersion number otherJob otherMem
      · exact ⟨rfl, rfl⟩
      · obtain ⟨rfl, rfl⟩ := current otherVersion otherJob otherOld
        exact ⟨rfl, rfl⟩
    · obtain ⟨rfl, rfl, rfl⟩ | otherOld := known otherVersion number otherJob otherMem
      · exact current version other old
      · exact agree.oneJob version number other otherVersion otherJob old otherOld
  · rw [row]
    intro version versionMem
    obtain ⟨granted, behind⟩ := agree.staged version versionMem
    exact ⟨granted.append, behind⟩
  · rw [row]
    intro other otherMem
    cases otherMem
    refine ⟨toVersion, rotating, mem_append_right _ ?_⟩
    rw [attempts]
    exact mem_singleton_self _
  · rw [row]
    exact agree.current_append _

theorem Agree.succeed (expected : ledger.records.row.Expected toVersion attempt)
    (sameJob : ledger.records.row.rotateJobId = some jobId)
    (attempts : records.row.rotateAttempts = ledger.records.row.rotateAttempts)
    (current : records.row.currentVersion = some toVersion)
    (rotating : records.row.rotatingToVersion = none) (job : records.row.rotateJobId = none) :
    Agree enrolledVersion ⟨records, ledger.log ++ [.succeeded toVersion attempt jobId]⟩ := by
  have fromLog {version number other} := @submitted_of_append ledger.log number
    (.succeeded toVersion attempt jobId) other version (fun _ _ _ => nofun)
  refine ⟨?_, ?_, ?_, ?_, ?_, ?_, ?_⟩
  · rw [filterMap_granted?_append rfl]
    exact agree.increasing
  · rw [filterMap_granted?_append rfl, attempts]
    exact agree.bounded
  · intro version number other mem
    rw [attempts]
    exact ⟨(agree.submitted version number other (fromLog mem)).1, fun _ => .inl rotating⟩
  · intro version number other otherVersion otherJob mem otherMem
    exact agree.oneJob version number other otherVersion otherJob (fromLog mem)
      (fromLog otherMem)
  · intro version versionMem
    rw [rotating] at versionMem
    cases versionMem
  · intro other otherMem
    rw [job] at otherMem
    cases otherMem
  · intro version versionMem
    rw [current] at versionMem
    cases versionMem
    obtain ⟨granted, -⟩ := agree.staged toVersion expected.1
    obtain ⟨staged, stagedMem, submitted⟩ := agree.job jobId sameJob
    cases expected.1.symm.trans stagedMem
    rw [expected.2.1] at granted submitted
    exact .inr ⟨attempt, jobId, granted.append, mem_append_left _ submitted, mem_concat_self⟩

theorem Agree.moved (moved : Moved ledger.records call records events) :
    Agree enrolledVersion ⟨records, ledger.log ++ events⟩ := by
  cases moved with
  | unchanged | publishedInitial | publishedNext | failed =>
    rw [append_nil]
    exact { agree with }
  | started published startable =>
    exact agree.grant rfl (.inl mem_cons_self) rfl rfl rfl rfl startable.2.1
  | retried expected sameJob =>
    have behind := (agree.staged _ expected.1).2
    exact agree.grant rfl (.inr mem_cons_self) rfl expected.1 rfl rfl behind
  | submitted expected sameJob => exact agree.submit expected sameJob rfl
  | succeeded expected sameJob => exact agree.succeed expected sameJob rfl rfl rfl rfl

end

/-! ## Fencing -/

/-- A write that carries another target, attempt or job than the row has. A target is started
only while it is the published one. -/
def Call.Stale (records : Records) : Call → Prop
  | .publishInitial | .publishNext _ => False
  | .started toVersion _ => records.targetVersion ≠ some toVersion
  | .submitted toVersion attempt jobId =>
    records.row.rotatingToVersion ≠ some toVersion ∨ records.row.rotateAttempts ≠ attempt ∨
      ∃ other ∈ records.row.rotateJobId, other ≠ jobId
  | .retryStarted toVersion attempt jobId _ =>
    records.row.rotatingToVersion ≠ some toVersion ∨ records.row.rotateAttempts ≠ attempt ∨
      records.row.rotateJobId ≠ jobId
  | .failed toVersion attempt _ =>
    records.row.rotatingToVersion ≠ some toVersion ∨ records.row.rotateAttempts ≠ attempt ∨
      records.row.rotateJobId ≠ none
  | .succeeded toVersion attempt jobId =>
    records.row.rotatingToVersion ≠ some toVersion ∨ records.row.rotateAttempts ≠ attempt ∨
      records.row.rotateJobId ≠ some jobId

/-- What holds of the log at any time, and of the next call. -/
structure Fenced (enrolledVersion : Option Int) (ledger : Ledger) : Prop where
  /-- The attempts that were returned grow, so none repeats. -/
  attempts : (ledger.log.filterMap Event.granted?).Pairwise (· < ·)
  oneJob : ∀ toVersion attempt jobId otherVersion otherJob,
    .submitted toVersion attempt jobId ∈ ledger.log →
    .submitted otherVersion attempt otherJob ∈ ledger.log → jobId = otherJob
  /-- The current version is the one of the enrollment, or one that was staged for an attempt
  whose job has succeeded. -/
  current : ∀ version ∈ ledger.records.row.currentVersion, enrolledVersion = some version ∨
    ∃ attempt jobId, Granted ledger.log version attempt ∧
      .submitted version attempt jobId ∈ ledger.log ∧
      .succeeded version attempt jobId ∈ ledger.log
  stale : ∀ call next, workers.step call ledger = some next → call.Stale ledger.records →
    next = ledger
  monotone : ∀ call next, workers.step call ledger = some next →
    ∀ version ∈ ledger.records.row.currentVersion,
      ∃ later ∈ next.records.row.currentVersion, version ≤ later
  /-- The current version changes only to the staged target, by the success of the job of the
  current attempt. -/
  takesStaged : ∀ call next, workers.step call ledger = some next →
    next.records.row.currentVersion ≠ ledger.records.row.currentVersion →
      ∃ toVersion attempt jobId, call = .succeeded toVersion attempt jobId ∧
        ledger.records.row.rotatingToVersion = some toVersion ∧
        ledger.records.row.rotateAttempts = attempt ∧
        ledger.records.row.rotateJobId = some jobId ∧
        next.records.row.currentVersion = some toVersion
  /-- A staged target with a job or without a terminal error stays staged until it has
  succeeded. -/
  keepsTarget : ∀ call next, workers.step call ledger = some next →
    ∀ toVersion ∈ ledger.records.row.rotatingToVersion,
      ledger.records.row.rotateJobId ≠ none ∨
          ledger.records.row.rotateLastErrorRedacted = none →
        next.records.row.rotatingToVersion = some toVersion ∨
          next.records.row.currentVersion = some toVersion ∧
            ∃ attempt jobId, call = .succeeded toVersion attempt jobId

variable {after : Records}

theorem Moved.eq_of_stale (moved : Moved records call after events) (stale : call.Stale records) :
    after = records ∧ events = [] := by
  cases moved with
  | unchanged => exact ⟨rfl, rfl⟩
  | publishedInitial | publishedNext => exact stale.elim
  | started published => exact absurd published stale
  | submitted expected sameJob =>
    obtain otherVersion | otherAttempt | ⟨other, hasJob, otherJob⟩ := stale
    · exact absurd expected.1 otherVersion
    · exact absurd expected.2.1 otherAttempt
    · rw [hasJob] at sameJob
      obtain impossible | sameJob := sameJob
      · cases impossible
      · exact absurd (some.inj sameJob) otherJob
  | retried expected sameJob | failed expected sameJob | succeeded expected sameJob =>
    obtain otherVersion | otherAttempt | otherJob := stale
    · exact absurd expected.1 otherVersion
    · exact absurd expected.2.1 otherAttempt
    · exact absurd sameJob otherJob

theorem Moved.current (moved : Moved records call after events) :
    after.row.currentVersion = records.row.currentVersion ∨
      ∃ toVersion attempt jobId, call = .succeeded toVersion attempt jobId ∧
        records.row.rotatingToVersion = some toVersion ∧ records.row.rotateAttempts = attempt ∧
        records.row.rotateJobId = some jobId ∧ after.row.currentVersion = some toVersion := by
  cases moved with
  | unchanged | publishedInitial | publishedNext | started | submitted | retried | failed =>
    exact .inl rfl
  | @succeeded toVersion attempt jobId expected sameJob =>
    exact .inr ⟨toVersion, attempt, jobId, rfl, expected.1, expected.2.1, sameJob, rfl⟩

/-- What a call does to a staged target with a job or without a terminal error. -/
theorem Moved.keepsTarget (moved : Moved records call after events)
    (staged : records.row.rotatingToVersion = some toVersion)
    (unresolved : records.row.rotateJobId ≠ none ∨ records.row.rotateLastErrorRedacted = none) :
    after.row.rotatingToVersion = some toVersion ∨ after.row.currentVersion = some toVersion ∧
        ∃ attempt jobId, call = .succeeded toVersion attempt jobId := by
  cases moved with
  | unchanged | publishedInitial | publishedNext | submitted | retried | failed =>
    exact .inl staged
  | started published startable =>
    obtain ⟨nothing, -⟩ | ⟨-, hasError, noJob⟩ := startable.1
    · rw [staged] at nothing
      cases nothing
    · obtain hasJob | noError := unresolved
      · exact absurd noJob hasJob
      · exact absurd noError hasError
  | succeeded expected sameJob =>
    cases staged.symm.trans expected.1
    exact .inr ⟨rfl, _, _, rfl⟩

theorem Agree.fenced (agree : Agree enrolledVersion ledger) : Fenced enrolledVersion ledger where
  attempts := agree.increasing
  oneJob toVersion attempt jobId otherVersion otherJob mem otherMem :=
    (agree.oneJob toVersion attempt jobId otherVersion otherJob mem otherMem).2
  current := agree.current
  stale := by
    intro call next stepped stale
    obtain ⟨events, moved, log⟩ := moved_of_step stepped
    obtain ⟨sameRecords, rfl⟩ := moved.eq_of_stale stale
    obtain ⟨records, nextLog⟩ := next
    rw [append_nil] at log
    cases sameRecords
    cases log
    rfl
  monotone := by
    intro call next stepped version versionMem
    obtain ⟨events, moved, -⟩ := moved_of_step stepped
    obtain same | ⟨toVersion, _, _, -, staged, -, -, taken⟩ := moved.current
    · rw [same]
      exact ⟨version, versionMem, le_rfl⟩
    · exact ⟨toVersion, taken, ((agree.staged toVersion staged).2 version versionMem).le⟩
  takesStaged := by
    intro call next stepped changed
    obtain ⟨events, moved, -⟩ := moved_of_step stepped
    obtain same | taken := moved.current
    · exact absurd same changed
    · exact taken
  keepsTarget := by
    intro call next stepped toVersion staged unresolved
    obtain ⟨events, moved, -⟩ := moved_of_step stepped
    exact moved.keepsTarget staged unresolved

/-- The records of a device that has no row yet, or the row of its enrollment. -/
def Records.AtEnrollment (records : Records) (enrolledVersion : Option Int) : Prop :=
  records.row = .enrolled enrolledVersion

theorem Agree.initial
    (enrolled : records.AtEnrollment enrolledVersion) : Agree enrolledVersion ⟨records, []⟩ := by
  rw [Records.AtEnrollment, DeviceRow.enrolled] at enrolled
  constructor <;> simp_all

/-- In every state that workers and publications reach, in any order and with any arguments,
attempts are fenced. -/
theorem fenced_of_run {records : Records} {enrolledVersion : Option Int} {calls : List Call}
    {final : Ledger} (enrolled : records.AtEnrollment enrolledVersion)
    (ran : workers.run calls ⟨records, []⟩ = some final) : Fenced enrolledVersion final := by
  refine (Machine.run_invariant (Agree enrolledVersion) ?_ (.initial enrolled) ran).fenced
  intro call ledger next agree stepped
  obtain ⟨events, moved, log⟩ := moved_of_step stepped
  have agreed := agree.moved moved
  rwa [← log] at agreed

/-- A target is staged, its first job is lost, the attempt is tried again, and a late report
of the first job is refused. -/
def lateReport : List Call :=
  [.publishInitial, .started 0 10, .submitted 0 1 "job-1".toList,
    .retryStarted 0 1 (some "job-1".toList) 20, .submitted 0 2 "job-2".toList,
    .succeeded 0 1 "job-1".toList, .succeeded 0 2 "job-2".toList]

theorem fenced_of_lateReport :
    ∃ final, workers.run lateReport ⟨⟨none, none⟩, []⟩ = some final ∧
      final.records.row.currentVersion = some 0 ∧
      final.log = [.started 0 1, .submitted 0 1 "job-1".toList, .retried 0 2,
        .submitted 0 2 "job-2".toList, .succeeded 0 2 "job-2".toList] ∧
      Fenced none final := by
  obtain ⟨final, ran, current, log⟩ : ∃ final ∈ workers.run lateReport ⟨⟨none, none⟩, []⟩,
      final.records.row.currentVersion = some 0 ∧
      final.log = [.started 0 1, .submitted 0 1 "job-1".toList, .retried 0 2,
        .submitted 0 2 "job-2".toList, .succeeded 0 2 "job-2".toList] := by decide +kernel
  have enrolled : Records.AtEnrollment ⟨none, none⟩ none := rfl
  exact ⟨final, ran, current, log, fenced_of_run enrolled ran⟩

end CredentialRotation
