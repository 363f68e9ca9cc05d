import BareMetalManager.CredentialRotation.Engine

/-!
# What the stores know of each other

The invariant of the rotation engine. The marker is set before the hardware is touched and
cleared after the secret store has followed it, so without a marker the three stores agree.
It holds for every crash and every error, and for every order of publications.
-/

namespace CredentialRotation

open Function Site

/-! ## What is known at any time -/

variable (site : Site) (target : Int) (row : DeviceRow) (stored : Credentials)

/-- What is known of the stores, whatever the tick is doing. -/
structure Known : Prop where
  published : site.records.targetVersion = some target
  nonneg : 0 ≤ target
  secret : ∃ password, site.secrets target = some password
  device : site.records.device = some row
  perDevice : site.perDevice = some stored
  username : stored.username = site.bmc.username
  current : ∀ version ∈ row.currentVersion, version ≤ target
  staged : ∀ version ∈ row.rotatingToVersion,
    version ≤ target ∧ ∀ current ∈ row.currentVersion, current < version
  settled : row.rotatingToVersion = none → stored = site.bmc ∧
    ∀ version ∈ row.currentVersion, site.secrets version = some site.bmc.password

structure ChangeKnown (change : Change) : Prop where
  marker : row.rotatingToVersion = some change.entry.version
  rotateFrom : stored = change.rotateFrom
  newPassword : site.secrets change.entry.version = some change.newPassword

def PhaseKnown : Phase → Prop
  | .idle | .readingStatus _ | .recordingFault _ => True
  | .marking entry => entry.version ≤ target ∧ ∀ current ∈ row.currentVersion,
      current < entry.version
  | .readingDeviceSecret entry => row.rotatingToVersion = some entry.version
  | .readingTargetSecret entry rotateFrom =>
    row.rotatingToVersion = some entry.version ∧ stored = rotateFrom
  | .probing change _ _ | .changing change | .verifying change =>
    ChangeKnown site row stored change
  | .persisting change => ChangeKnown site row stored change ∧ site.bmc = change.rotateTo
  | .flushing | .promoting => stored = site.bmc ∧ ∃ version,
      row.rotatingToVersion = some version ∧ site.secrets version = some site.bmc.password

def Consistent : Prop :=
  ∃ target row stored, Known site target row stored ∧
    PhaseKnown site target row stored site.phase

variable {site target row stored}

/-! ## What the operations leave -/

theorem update_of_le {secrets : Int → Option Text} {version : Int} (below : version ≤ target)
    (secret : Option Text) :
    update secrets (target + 1) secret version = secrets version :=
  update_of_ne (by omega) _ _

section

variable (known : Known site target row stored)
include known

theorem Known.withPhase (phase : Phase) : Known { site with phase := phase } target row stored :=
  { known with }

omit known in
theorem ChangeKnown.of_secrets {change : Change} {other : Site}
    (known : ChangeKnown site row stored change) (same : other.secrets = site.secrets) :
    ChangeKnown other row stored change :=
  ⟨known.marker, known.rotateFrom, same ▸ known.newPassword⟩

omit known in
theorem PhaseKnown.withPhase {phase other : Phase}
    (phaseKnown : PhaseKnown site target row stored phase) :
    PhaseKnown { site with phase := other } target row stored phase := by
  cases phase with
  | probing | changing | verifying => exact phaseKnown.of_secrets rfl
  | persisting change =>
    obtain ⟨changeKnown, changed⟩ := phaseKnown
    exact ⟨changeKnown.of_secrets rfl, changed⟩
  | idle | readingStatus | marking | readingDeviceSecret | readingTargetSecret | flushing
  | promoting | recordingFault => exact phaseKnown

/-- The marker is set before the hardware is touched. -/
theorem Known.mark (entry : Entry) (below : entry.version ≤ target)
    (behind : ∀ current ∈ row.currentVersion, current < entry.version) :
    Known { site with records := markDeviceRotatingToVersion site.records entry.version } target
      { row with rotatingToVersion := some entry.version } stored where
  __ := known
  published := by
    rw [markDeviceRotatingToVersion, known.device]
    exact known.published
  device := by rw [markDeviceRotatingToVersion, known.device]
  staged := by
    intro version versionMem
    cases versionMem
    exact ⟨below, behind⟩
  settled := by
    nofun

/-- The password of the BMC changes only while the marker is set. -/
theorem Known.change {change : Change} (changeKnown : ChangeKnown site row stored change) :
    Known { site with bmc := change.rotateTo } target row stored where
  __ := known
  username := by rw [changeKnown.rotateFrom, Change.rotateTo]
  settled := by
    intro none
    rw [changeKnown.marker] at none
    cases none

/-- The per-device secret follows the hardware. -/
theorem Known.persist {change : Change} (changeKnown : ChangeKnown site row stored change)
    (changed : site.bmc = change.rotateTo) :
    Known { site with perDevice := some change.rotateTo } target row change.rotateTo where
  __ := known
  perDevice := rfl
  username := by rw [changed]
  settled := by
    intro none
    rw [changeKnown.marker] at none
    cases none

/-- The marker becomes the current version once hardware and secret store agree. -/
theorem Known.promote {version : Int} (marker : row.rotatingToVersion = some version)
    (persisted : stored = site.bmc) (secret : site.secrets version = some site.bmc.password) :
    Known { site with records := (promoteRotatingToCurrent site.records).2 } target
      { row with
        currentVersion := some version
        rotatingToVersion := none
        rotateAttempts := 0
        rotateLastErrorRedacted := none
        rotateQuarantinedUntil := none } stored where
  __ := known
  published := by
    simp only [promoteRotatingToCurrent, known.device, marker]
    exact known.published
  device := by simp only [promoteRotatingToCurrent, known.device, marker]
  current := by
    intro other otherMem
    cases otherMem
    exact (known.staged version marker).1
  staged := by
    nofun
  settled := by
    intro _
    refine ⟨persisted, ?_⟩
    intro other otherMem
    cases otherMem
    exact secret

theorem Known.recordFault {errorRedacted : Text} {quarantinedUntil now : Nat} {records : Records}
    (recorded : incrementRotateAttempt site.records errorRedacted quarantinedUntil now =
      .ok records) :
    ∃ row, Known { site with records := records } target row stored := by
  rw [incrementRotateAttempt, known.device] at recorded
  obtain ⟨attempts, -, made⟩ := Checked.bind_eq_ok.mp recorded
  cases made
  exact ⟨_, { known with device := rfl }⟩

theorem Known.effect (phaseKnown : PhaseKnown site target row stored site.phase) (now : Nat)
    (errorRedacted : Text) :
    ∃ row stored, Known (site.effect now errorRedacted) target row stored := by
  generalize phase : site.phase = current at phaseKnown
  cases current with
  | marking entry =>
    rw [effect_marking phase]
    exact ⟨_, _, known.mark entry phaseKnown.1 phaseKnown.2⟩
  | changing change =>
    rw [effect_changing phase]
    split
    next accepted => exact ⟨_, _, known.change phaseKnown⟩
    next => exact ⟨_, _, known⟩
  | persisting change =>
    rw [effect_persisting phase]
    exact ⟨_, _, known.persist phaseKnown.1 phaseKnown.2⟩
  | promoting =>
    rw [effect_promoting phase]
    obtain ⟨persisted, version, marker, secret⟩ := phaseKnown
    exact ⟨_, _, known.promote marker persisted secret⟩
  | recordingFault entry =>
    obtain same | ⟨records, recorded, effect⟩ := effect_recordingFault phase
    · rw [same]
      exact ⟨_, _, known⟩
    · obtain ⟨row, known⟩ := known.recordFault recorded
      rw [effect]
      exact ⟨row, stored, known⟩
  | idle | readingStatus | readingDeviceSecret | readingTargetSecret | probing | verifying
  | flushing =>
    rw [Site.effect, phase]
    exact ⟨_, _, known⟩

/-! ## What a step leaves -/

theorem consistent_of_phaseKnown {phase : Phase}
    (phaseKnown : PhaseKnown site target row stored phase) :
    Consistent { site with phase := phase } :=
  ⟨target, row, stored, known.withPhase phase, phaseKnown.withPhase⟩

theorem Known.status (now : Nat) :
    deviceRotationStatus site.records now = some
      { targetVersion := target
        converged := row.currentVersion.any fun current => target ≤ current
        quarantined := row.rotateQuarantinedUntil.any fun quarantinedUntil =>
          now < quarantinedUntil
        quarantinedUntil := row.rotateQuarantinedUntil
        rotateAttempts := row.rotateAttempts } := by
  rw [deviceRotationStatus, known.published, known.device]
  rfl

theorem Known.publish (secret : Text) :
    Known
      { site with
        records := { site.records with targetVersion := some (target + 1) }
        secrets := update site.secrets (target + 1) (some secret) }
      (target + 1) row stored where
  __ := known
  published := rfl
  nonneg := by
    have nonneg := known.nonneg
    omega
  secret := ⟨secret, update_self ..⟩
  current := by
    intro version versionMem
    have below := known.current version versionMem
    omega
  staged := by
    intro version versionMem
    obtain ⟨below, behind⟩ := known.staged version versionMem
    exact ⟨by omega, behind⟩
  settled := by
    intro none
    obtain ⟨persisted, recorded⟩ := known.settled none
    refine ⟨persisted, ?_⟩
    intro version versionMem
    exact (update_of_le (known.current version versionMem) _).trans (recorded version versionMem)

end

theorem Change.first_known {change : Change} (changeKnown : ChangeKnown site row stored change)
    (probes : Bool) : PhaseKnown site target row stored (change.first probes) := by
  rw [Change.first]
  split
  next => exact changeKnown
  next => exact changeKnown

theorem behind_of_not_any {current : Option Int}
    (behind : ¬ (current.any fun version => target ≤ version) = true) :
    ∀ version ∈ current, version < target := by
  rintro version rfl
  simpa using behind

theorem Site.publish_cases (published : site.records.targetVersion = some target) (secret : Text) :
    site.publish secret = site ∨ site.publish secret =
        { site with
          records := { site.records with targetVersion := some (target + 1) }
          secrets := update site.secrets (target + 1) (some secret) } := by
  rw [Site.publish, published]
  dsimp only
  rw [setNextTargetVersion, if_pos published]
  cases returned : nextInteger target with
  | error => exact .inl rfl
  | ok next =>
    cases nextInteger_eq_ok returned
    exact .inr rfl

variable (consistent : Consistent site) (now : Nat) (errorRedacted : Text)
include consistent

/-- A tick may end at any await point. -/
theorem Consistent.effect_idle :
    Consistent { site.effect now errorRedacted with phase := .idle } := by
  obtain ⟨target, row, stored, known, phaseKnown⟩ := consistent
  obtain ⟨row, stored, known⟩ := known.effect phaseKnown now errorRedacted
  exact consistent_of_phaseKnown known trivial

theorem Consistent.idle : Consistent { site with phase := .idle } := by
  obtain ⟨target, row, stored, known, -⟩ := consistent
  exact consistent_of_phaseKnown known trivial

theorem Consistent.failure : Consistent { site with phase := site.onFailure } := by
  obtain ⟨target, row, stored, known, phaseKnown⟩ := consistent
  apply consistent_of_phaseKnown known
  rw [Site.onFailure]
  generalize site.phase = current at phaseKnown
  cases current with
  | probing change candidate others =>
    cases others with
    | nil => trivial
    | cons next others => exact phaseKnown
  | changing change => exact phaseKnown
  | idle | readingStatus | marking | readingDeviceSecret | readingTargetSecret | verifying
  | persisting | flushing | promoting | recordingFault => trivial

theorem Consistent.effect_failure :
    Consistent { site.effect now errorRedacted with phase := site.onFailure } := by
  cases phase : site.phase with
  | changing change =>
    obtain ⟨target, row, stored, known, phaseKnown⟩ := consistent
    rw [phase] at phaseKnown
    have next : site.onFailure = .verifying change := by simp only [Site.onFailure, phase]
    rw [next, effect_changing phase]
    split
    next accepted =>
      have changed := known.change phaseKnown
      exact consistent_of_phaseKnown changed (phaseKnown.of_secrets rfl)
    next => exact consistent_of_phaseKnown known phaseKnown
  | idle | readingStatus | readingDeviceSecret | readingTargetSecret | probing | verifying
  | flushing =>
    have failed := consistent.failure
    simp only [Site.effect, phase] at failed ⊢
    exact failed
  | marking | persisting | promoting | recordingFault =>
    have idle := consistent.effect_idle now errorRedacted
    simp only [Site.onFailure, phase]
    exact idle

theorem Consistent.success (accepted : site.refused = false) :
    Consistent { site.effect now errorRedacted with phase := site.onSuccess now } := by
  obtain ⟨target, row, stored, known, phaseKnown⟩ := consistent
  have effect_idle := Consistent.effect_idle ⟨target, row, stored, known, phaseKnown⟩ now
    errorRedacted
  generalize phase : site.phase = current at phaseKnown
  cases current with
  | idle =>
    simp only [Site.effect, Site.onSuccess, phase]
    exact consistent_of_phaseKnown known trivial
  | readingStatus force =>
    simp only [Site.effect, Site.onSuccess, phase, known.status]
    apply consistent_of_phaseKnown known
    split
    next => trivial
    next behind =>
      split
      next => trivial
      next =>
        split
        next => trivial
        next => exact ⟨le_rfl, behind_of_not_any behind⟩
  | marking entry =>
    have next : site.onSuccess now = .readingDeviceSecret entry := by
      simp only [Site.onSuccess, phase]
    rw [next, effect_marking phase]
    exact consistent_of_phaseKnown (known.mark entry phaseKnown.1 phaseKnown.2) rfl
  | readingDeviceSecret entry =>
    have next : site.onSuccess now = .readingTargetSecret entry stored := by
      simp only [Site.onSuccess, phase, known.perDevice]
    have same : site.effect now errorRedacted = site := by simp only [Site.effect, phase]
    rw [next, same]
    have read : PhaseKnown site target row stored (.readingTargetSecret entry stored) :=
      ⟨phaseKnown, rfl⟩
    exact consistent_of_phaseKnown known read
  | readingTargetSecret entry rotateFrom =>
    simp only [Site.effect, Site.onSuccess, phase]
    apply consistent_of_phaseKnown known
    split
    next newPassword found =>
      exact Change.first_known ⟨phaseKnown.1, phaseKnown.2, found⟩ site.probes
    next => trivial
  | changing change =>
    have authenticated : site.bmc = change.rotateFrom := by
      simpa [Site.refused, phase] using accepted
    have next : site.onSuccess now = .persisting change := by
      simp only [Site.onSuccess, phase]
    rw [next, effect_changing phase, if_pos authenticated]
    have changed := known.change phaseKnown
    exact consistent_of_phaseKnown changed ⟨phaseKnown.of_secrets rfl, rfl⟩
  | verifying change =>
    simp only [Site.effect, Site.onSuccess, phase]
    apply consistent_of_phaseKnown known
    split
    next changed => exact ⟨phaseKnown, changed⟩
    next => trivial
  | persisting change =>
    obtain ⟨changeKnown, changed⟩ := phaseKnown
    have next : site.onSuccess now = .flushing := by simp only [Site.onSuccess, phase]
    rw [next, effect_persisting phase]
    refine consistent_of_phaseKnown (known.persist changeKnown changed)
      ⟨changed.symm, change.entry.version, changeKnown.marker, ?_⟩
    rw [changeKnown.newPassword]
    exact congrArg (some ∘ Credentials.password) changed.symm
  | probing | flushing =>
    simp only [Site.effect, Site.onSuccess, phase]
    exact consistent_of_phaseKnown known phaseKnown
  | promoting | recordingFault =>
    simp only [Site.onSuccess, phase]
    exact effect_idle

theorem Consistent.advance (reply : Reply) :
    Consistent (site.advance reply now errorRedacted) := by
  rw [Site.advance]
  cases reply with
  | ok =>
    cases refused : site.refused with
    | false => exact consistent.success now errorRedacted refused
    | true => exact consistent.effect_failure now errorRedacted
  | failed => exact consistent.failure
  | failedAfterEffect => exact consistent.effect_failure now errorRedacted

theorem Consistent.publish (secret : Text) :
    Consistent (site.publish secret) := by
  obtain ⟨target, row, stored, known, phaseKnown⟩ := consistent
  obtain same | published := publish_cases known.published secret
  · rw [same]
    exact ⟨target, row, stored, known, phaseKnown⟩
  · rw [published]
    refine ⟨target + 1, row, stored, known.publish secret, ?_⟩
    have keepsChange : ∀ change, ChangeKnown site row stored change →
        update site.secrets (target + 1) (some secret) change.entry.version =
          some change.newPassword := by
      intro change changeKnown
      exact (update_of_le (known.staged _ changeKnown.marker).1 _).trans changeKnown.newPassword
    generalize site.phase = current at phaseKnown
    cases current with
    | idle | readingStatus | recordingFault | readingDeviceSecret | readingTargetSecret =>
      exact phaseKnown
    | marking entry =>
      obtain ⟨below, behind⟩ := phaseKnown
      exact ⟨by omega, behind⟩
    | probing change | changing change | verifying change =>
      exact ⟨phaseKnown.marker, phaseKnown.rotateFrom, keepsChange change phaseKnown⟩
    | persisting change =>
      obtain ⟨changeKnown, changed⟩ := phaseKnown
      exact ⟨⟨changeKnown.marker, changeKnown.rotateFrom, keepsChange change changeKnown⟩, changed⟩
    | flushing | promoting =>
      obtain ⟨persisted, version, marker, secretKnown⟩ := phaseKnown
      exact ⟨persisted, version, marker,
        (update_of_le (known.staged version marker).1 _).trans secretKnown⟩

theorem Consistent.step {next : Site} {action : Action}
    (stepped : engine.step action site = some next) : Consistent next := by
  cases action with
  | start force =>
    obtain ⟨-, ⟨⟩⟩ := Option.ite_none_right_eq_some.mp stepped
    obtain ⟨target, row, stored, known, -⟩ := consistent
    exact consistent_of_phaseKnown known trivial
  | advance reply now errorRedacted =>
    obtain ⟨-, ⟨⟩⟩ := Option.ite_none_left_eq_some.mp stepped
    exact consistent.advance now errorRedacted reply
  | crash effected now errorRedacted =>
    cases stepped
    cases effected with
    | false => exact consistent.idle
    | true => exact consistent.effect_idle now errorRedacted
  | publish secret =>
    cases stepped
    exact consistent.publish secret

end CredentialRotation
