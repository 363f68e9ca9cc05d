import BareMetalManager.CredentialRotation.Records
import BareMetalManager.Lib.Transition

/-!
# The rotation engine for BMC passwords

`rotate_bmc` of `credential-rotation/src/lib.rs` for one device. Three stores change one after
another: the hardware, the secret store and the database. A call is a tick, cut at its await
points: at each of them an operation of a store succeeds, or fails, or takes effect and still
reports an error, or the process crashes.

A publication of a site-wide target writes its versioned secret first, so it is one step. The
texts of errors are chosen by the environment.
-/

namespace CredentialRotation

/-- `Credentials::UsernamePassword`. -/
structure Credentials where
  username : Text
  password : Text
  deriving DecidableEq, Repr

/-- What a tick knows after it has entered: the version to which it rotates, and the failed
attempts before it. -/
structure Entry where
  version : Int
  rotateAttempts : Int
  deriving DecidableEq, Repr

/-- What a tick knows once it has read the secrets. -/
structure Change where
  entry : Entry
  rotateFrom : Credentials
  newPassword : Text
  deriving DecidableEq, Repr

/-- The credentials after the change. The username is that of the device. -/
def Change.rotateTo (change : Change) : Credentials :=
  ⟨change.rotateFrom.username, change.newPassword⟩

/-- The await points of a tick, named after the operation that is under way. -/
inductive Phase where
  | idle
  /-- `device_rotation_status`. -/
  | readingStatus (force : Bool)
  /-- `mark_device_rotating_to_version`. -/
  | marking (entry : Entry)
  | readingDeviceSecret (entry : Entry)
  | readingTargetSecret (entry : Entry) (rotateFrom : Credentials)
  /-- `probe_bmc_vendor` with the first of the candidates that are left. -/
  | probing (change : Change) (candidate : Credentials) (others : List Credentials)
  /-- `set_bmc_root_password`. -/
  | changing (change : Change)
  /-- `bmc_credentials_valid`, after the change has failed. -/
  | verifying (change : Change)
  /-- `set_credentials` of the per-device secret. -/
  | persisting (change : Change)
  /-- `bmc_redfish_session::delete_by_mac`. -/
  | flushing
  /-- `promote_rotating_to_current`. -/
  | promoting
  /-- `increment_rotate_attempt` after a fault of the device. -/
  | recordingFault (entry : Entry)
  deriving DecidableEq, Repr

structure Site where
  records : Records
  secrets : Int → Option Text
  perDevice : Option Credentials
  bmc : Credentials
  /-- The caller leaves it to the engine to probe the vendor. -/
  probes : Bool
  phase : Phase

def Change.first (change : Change) (probes : Bool) : Phase :=
  if probes then .probing change change.rotateFrom [change.rotateTo] else .changing change

variable (site : Site) (now : Nat)

def Site.effect (errorRedacted : Text) : Site :=
  match site.phase with
  | .marking entry =>
    { site with records := markDeviceRotatingToVersion site.records entry.version }
  | .changing change =>
    -- A wrong password is rejected before anything changes.
    if site.bmc = change.rotateFrom then { site with bmc := change.rotateTo } else site
  | .persisting change => { site with perDevice := some change.rotateTo }
  | .promoting => { site with records := (promoteRotatingToCurrent site.records).2 }
  | .recordingFault entry =>
    match incrementRotateAttempt site.records errorRedacted
        (backoffUntil entry.rotateAttempts now) now with
    | .ok records => { site with records := records }
    | .error _ => site
  | .idle | .readingStatus _ | .readingDeviceSecret _ | .readingTargetSecret .. | .probing ..
  | .verifying _ | .flushing => site

/-- The next await point of a tick whose operation has returned without an error. -/
def Site.onSuccess : Phase :=
  match site.phase with
  | .idle => .idle
  | .readingStatus force =>
    match deviceRotationStatus site.records now with
    | none => .idle
    | some status =>
      if status.converged then .idle
      else if status.quarantined && !force then .idle
      else if status.targetVersion < 0 then .idle
      else .marking ⟨status.targetVersion, status.rotateAttempts⟩
  | .marking entry => .readingDeviceSecret entry
  | .readingDeviceSecret entry =>
    match site.perDevice with
    | some rotateFrom => .readingTargetSecret entry rotateFrom
    | none => .recordingFault entry
  | .readingTargetSecret entry rotateFrom =>
    match site.secrets entry.version with
    | some newPassword => Change.first ⟨entry, rotateFrom, newPassword⟩ site.probes
    | none => .recordingFault entry
  | .probing change _ _ => .changing change
  | .changing change => .persisting change
  | .verifying change =>
    if site.bmc = change.rotateTo then .persisting change else .recordingFault change.entry
  | .persisting _ => .flushing
  | .flushing => .promoting
  | .promoting | .recordingFault _ => .idle

/-- The next await point of a tick whose operation has returned an error. -/
def Site.onFailure : Phase :=
  match site.phase with
  | .readingDeviceSecret entry => .recordingFault entry
  | .readingTargetSecret entry _ => .recordingFault entry
  | .probing change _ (candidate :: others) => .probing change candidate others
  | .probing change _ [] => .recordingFault change.entry
  | .changing change => .verifying change
  | .verifying change => .recordingFault change.entry
  | .idle | .readingStatus _ | .marking _ | .persisting _ | .flushing | .promoting
  | .recordingFault _ => .idle

/-- The BMC refuses the credentials of the operation that is under way. -/
def Site.refused : Bool :=
  match site.phase with
  | .probing _ candidate _ => site.bmc ≠ candidate
  | .changing change => site.bmc ≠ change.rotateFrom
  | _ => false

inductive Reply where
  | ok
  | failed
  | failedAfterEffect
  deriving DecidableEq, Repr

inductive Action where
  /-- A call of `rotate_bmc`. -/
  | start (force : Bool)
  | advance (reply : Reply) (now : Nat) (errorRedacted : Text)
  /-- The process crashes, before or after the operation that is under way has taken
  effect. -/
  | crash (effected : Bool) (now : Nat) (errorRedacted : Text)
  /-- A new site-wide target with its secret. -/
  | publish (secret : Text)

/-- The secret of the next version is written, and then `set_next_target_version`. -/
def Site.publish (site : Site) (secret : Text) : Site :=
  match site.records.targetVersion with
  | none => site
  | some target =>
    match setNextTargetVersion site.records target with
    | .ok (.applied next, records) =>
      { site with
        records := records
        secrets := Function.update site.secrets next (some secret) }
    | _ => site

/-- The operation that is under way ends: its effect, and the next await point. -/
def Site.advance (site : Site) (reply : Reply) (now : Nat) (errorRedacted : Text) : Site :=
  let after := if reply = .failed then site else site.effect now errorRedacted
  let next := if reply = .ok ∧ site.refused = false then site.onSuccess now else site.onFailure
  { after with phase := next }

def engine : Machine Action Site where
  step
    | .start force, site =>
      if site.phase = .idle then some { site with phase := .readingStatus force } else none
    | .advance reply now errorRedacted, site =>
      if site.phase = .idle then none else some (site.advance reply now errorRedacted)
    | .crash effected now errorRedacted, site =>
      let after := if effected then site.effect now errorRedacted else site
      some { after with phase := .idle }
    | .publish secret, site => some (site.publish secret)

/-! ## The effect at each await point -/

variable {site now} {errorRedacted : Text}

theorem Site.effect_marking {entry : Entry} (phase : site.phase = .marking entry) :
    site.effect now errorRedacted =
      { site with records := markDeviceRotatingToVersion site.records entry.version } := by
  simp only [Site.effect, phase]

variable {change : Change}

theorem Site.effect_changing (phase : site.phase = .changing change) :
    site.effect now errorRedacted =
      if site.bmc = change.rotateFrom then { site with bmc := change.rotateTo } else site := by
  simp only [Site.effect, phase]

theorem Site.effect_persisting (phase : site.phase = .persisting change) :
    site.effect now errorRedacted = { site with perDevice := some change.rotateTo } := by
  simp only [Site.effect, phase]

theorem Site.effect_promoting (phase : site.phase = .promoting) :
    site.effect now errorRedacted =
      { site with records := (promoteRotatingToCurrent site.records).2 } := by
  simp only [Site.effect, phase]

theorem Site.effect_recordingFault {entry : Entry} (phase : site.phase = .recordingFault entry) :
    site.effect now errorRedacted = site ∨
      ∃ records, incrementRotateAttempt site.records errorRedacted
          (backoffUntil entry.rotateAttempts now) now = .ok records ∧
        site.effect now errorRedacted = { site with records := records } := by
  cases recorded : incrementRotateAttempt site.records errorRedacted
      (backoffUntil entry.rotateAttempts now) now with
  | ok records => exact .inr ⟨records, rfl, by simp only [Site.effect, phase, recorded]⟩
  | error => exact .inl (by simp only [Site.effect, phase, recorded])

end CredentialRotation
