import BareMetalManager.CredentialRotation.Consistency

/-!
# Access to the BMC during rotation

A tick tries two passwords: the stored per-device secret and the secret of the version to which it
rotates. The BMC stays accessible while its password is one of the two that the next tick tries.
Every crash and error between the three stores keeps that for one target. A target that is
published while the hardware is ahead of the secret store does not: the marker of the old target
is overwritten, and its secret is never tried again.
-/

namespace CredentialRotation

open Site Option

variable (site : Site)

def Site.nextSecret : Option Text :=
  site.records.targetVersion.bind site.secrets

/-- The next tick has the password of the BMC. -/
def Site.Tried : Prop :=
  ∃ stored ∈ site.perDevice, site.bmc = stored ∨
    site.bmc.username = stored.username ∧ site.nextSecret = some site.bmc.password

def Site.Converged : Prop :=
  ∃ target row, site.records.targetVersion = some target ∧ site.records.device = some row ∧
    row.currentVersion = some target ∧ row.rotatingToVersion = none ∧
    site.secrets target = some site.bmc.password ∧ site.perDevice = some site.bmc ∧
    site.phase = .idle

/-! ## A tick that nothing disturbs -/

/-- The reply of stores that can be reached. Some BMCs reject a change to the same
password. -/
def Site.healthyReply (rejectsSame : Bool) : Reply :=
  match site.phase with
  | .changing change =>
    if rejectsSame ∧ change.rotateFrom.password = change.newPassword then .failed else .ok
  | _ => .ok

/-- The rest of a tick, up to a number of await points. -/
def Site.tick (rejectsSame : Bool) (now : Nat) : Nat → Site → Site
  | 0, site => site
  | steps + 1, site =>
    if site.phase = .idle then site
    else tick rejectsSame now steps (site.advance (site.healthyReply rejectsSame) now [])

/-- What holds of a device that NICo has not locked itself out of. -/
structure Accessible : Prop where
  /-- The password of the BMC is the stored secret or the one that the next tick will try. -/
  tried : site.Tried
  /-- Without a marker, the recorded version is the one on the hardware. -/
  recorded : ∀ row ∈ site.records.device, row.rotatingToVersion = none →
    ∀ version ∈ row.currentVersion, site.secrets version = some site.bmc.password
  /-- The next tick converges the device when all stores can be reached and the backoff
  window is over, or the tick is forced. -/
  converges : site.phase = .idle → ∀ force now rejectsSame,
    (force = true ∨ ∀ row ∈ site.records.device, row.Eligible now) →
      ∃ steps, (tick rejectsSame now steps
        { site with phase := .readingStatus force }).Converged

/-! ## The condition -/

def Phase.change? : Phase → Option Change
  | .changing change => some change
  | _ => none

/-- A password change that would take effect now sets the stored secret or the secret of the
target that is published now. -/
def Site.ChangesToNext : Prop :=
  ∀ change ∈ site.phase.change?, site.bmc = change.rotateFrom →
    site.perDevice = some change.rotateTo ∨ site.nextSecret = some change.newPassword

instance : Decidable site.ChangesToNext :=
  inferInstanceAs (Decidable (∀ change ∈ _, _))

/-- The condition on a step: a target is published while the BMC has the stored secret (or
the new one), and a password change takes effect while its target is the published one. -/
def Steady : Action → Prop
  | .start _ => True
  | .advance reply _ _ => reply = .failed ∨ site.ChangesToNext
  | .crash effected _ _ => effected = false ∨ site.ChangesToNext
  | .publish secret => site.perDevice = some site.bmc ∨ site.bmc.password = secret

instance : DecidablePred (Steady site)
  | .start _ => .isTrue trivial
  | .advance reply _ _ => inferInstanceAs (Decidable (reply = .failed ∨ site.ChangesToNext))
  | .crash effected _ _ => inferInstanceAs (Decidable (effected = false ∨ site.ChangesToNext))
  | .publish secret =>
    inferInstanceAs (Decidable (site.perDevice = some site.bmc ∨ site.bmc.password = secret))

variable {site} {target : Int} {row : DeviceRow} {stored : Credentials}

/-! ## The password stays one of the two -/

theorem Known.tried_iff (known : Known site target row stored) :
    site.Tried ↔ site.bmc = stored ∨ site.secrets target = some site.bmc.password := by
  have next : site.nextSecret = site.secrets target := by
    rw [nextSecret, known.published, bind_some]
  constructor
  · rintro ⟨other, otherMem, tried⟩
    cases known.perDevice.symm.trans otherMem
    rw [next] at tried
    exact tried.imp_right And.right
  · intro tried
    refine ⟨stored, known.perDevice, ?_⟩
    rw [next]
    exact tried.imp_right (.intro known.username.symm)

theorem Site.Tried.withPhase (tried : site.Tried) (phase : Phase) :
    ({ site with phase := phase } : Site).Tried := tried

/-- The effect of an operation keeps the password among the two, provided that a change goes
to one of them. -/
theorem Site.Tried.effect (tried : site.Tried) (consistent : Consistent site)
    (changesToNext : site.ChangesToNext) (now : Nat) (errorRedacted : Text) :
    (site.effect now errorRedacted).Tried := by
  obtain ⟨target, row, stored, known, phaseKnown⟩ := consistent
  have triedOne := known.tried_iff.mp tried
  generalize phase : site.phase = current at phaseKnown
  cases current with
  | marking entry =>
    rw [effect_marking phase]
    exact (known.mark entry phaseKnown.1 phaseKnown.2).tried_iff.mpr triedOne
  | changing change =>
    rw [effect_changing phase]
    split
    next accepted =>
      refine (known.change phaseKnown).tried_iff.mpr ?_
      have underWay : change ∈ site.phase.change? := by rw [phase]; rfl
      obtain same | next := changesToNext change underWay accepted
      · exact .inl (some.inj (same.symm.trans known.perDevice))
      · rw [nextSecret, known.published, bind_some] at next
        exact .inr next
    next => exact tried
  | persisting change =>
    obtain ⟨changeKnown, changed⟩ := phaseKnown
    rw [effect_persisting phase]
    exact (known.persist changeKnown changed).tried_iff.mpr (.inl changed)
  | promoting =>
    obtain ⟨persisted, version, marker, secret⟩ := phaseKnown
    rw [effect_promoting phase]
    exact (known.promote marker persisted secret).tried_iff.mpr triedOne
  | recordingFault entry =>
    obtain same | ⟨records, recorded, effect⟩ := effect_recordingFault phase
    · rwa [same]
    · obtain ⟨row, known⟩ := known.recordFault recorded
      rw [effect]
      exact known.tried_iff.mpr triedOne
  | idle | readingStatus | readingDeviceSecret | readingTargetSecret | probing | verifying
  | flushing =>
    rwa [Site.effect, phase]

/-- A publication keeps the password among the two exactly if it is the stored one or the new
one. -/
theorem Site.Tried.publish {secret : Text} (tried : site.Tried) (consistent : Consistent site)
    (steady : site.perDevice = some site.bmc ∨ site.bmc.password = secret) :
    (site.publish secret).Tried := by
  obtain ⟨target, row, stored, known, -⟩ := consistent
  obtain same | published := Site.publish_cases known.published secret
  · rwa [same]
  · rw [published]
    refine (known.publish secret).tried_iff.mpr ?_
    obtain persisted | new := steady
    · exact .inl (some.inj (persisted.symm.trans known.perDevice))
    · exact .inr ((Function.update_self ..).trans (congrArg some new.symm))

theorem Site.Tried.step {next : Site} {action : Action} (tried : site.Tried)
    (consistent : Consistent site) (steady : Steady site action)
    (stepped : engine.step action site = some next) : next.Tried := by
  cases action with
  | start force =>
    obtain ⟨-, ⟨⟩⟩ := ite_none_right_eq_some.mp stepped
    exact tried.withPhase _
  | advance reply now errorRedacted =>
    obtain ⟨-, ⟨⟩⟩ := ite_none_left_eq_some.mp stepped
    rw [Site.advance]
    by_cases failed : reply = .failed
    · rw [if_pos failed]
      exact tried.withPhase _
    · rw [if_neg failed]
      have changesToNext := steady.resolve_left failed
      exact (tried.effect consistent changesToNext now errorRedacted).withPhase _
  | crash effected now errorRedacted =>
    cases stepped
    cases effected with
    | false => exact tried.withPhase _
    | true =>
      obtain impossible | changesToNext := steady
      · cases impossible
      · exact (tried.effect consistent changesToNext now errorRedacted).withPhase _
  | publish secret =>
    cases stepped
    exact tried.publish consistent steady

/-! ## The next tick converges -/

def Reaches (rejectsSame : Bool) (now : Nat) (site : Site) : Prop :=
  ∃ steps, (Site.tick rejectsSame now steps site).Converged

section Tick

variable {rejectsSame : Bool} {now : Nat}

attribute [local simp] Site.advance Site.healthyReply Site.refused Site.onSuccess Site.onFailure
  Site.effect

theorem reaches_of_advance {next : Site} (busy : site.phase ≠ .idle)
    (advanced : site.advance (site.healthyReply rejectsSame) now [] = next)
    (rest : Reaches rejectsSame now next) : Reaches rejectsSame now site := by
  obtain ⟨steps, converged⟩ := rest
  refine ⟨steps + 1, ?_⟩
  rwa [Site.tick, if_neg busy, advanced]

variable (known : Known site target row stored)
include known

theorem reaches_promoting (marker : row.rotatingToVersion = some target)
    (persisted : stored = site.bmc) (secret : site.secrets target = some site.bmc.password) :
    Reaches rejectsSame now { site with phase := .promoting } := by
  have promoted := known.promote marker persisted secret
  have converged : Site.Converged
      { site with records := (promoteRotatingToCurrent site.records).2, phase := .idle } :=
    ⟨target, _, promoted.published, promoted.device, rfl, rfl, secret,
      known.perDevice.trans (congrArg some persisted), rfl⟩
  exact reaches_of_advance (by simp) (by simp) ⟨0, converged⟩

theorem reaches_flushing (marker : row.rotatingToVersion = some target)
    (persisted : stored = site.bmc) (secret : site.secrets target = some site.bmc.password) :
    Reaches rejectsSame now { site with phase := .flushing } :=
  reaches_of_advance (by simp) (by simp) (reaches_promoting known marker persisted secret)

section Change

variable {change : Change} (changeKnown : ChangeKnown site row stored change)
  (live : change.entry.version = target)
include changeKnown live

theorem reaches_persisting (changed : site.bmc = change.rotateTo) :
    Reaches rejectsSame now { site with phase := .persisting change } := by
  subst live
  have secret : site.secrets change.entry.version = some site.bmc.password := by
    rw [changed]
    exact changeKnown.newPassword
  exact reaches_of_advance (by simp) (by simp)
    (reaches_flushing (known.persist changeKnown changed) changeKnown.marker changed.symm secret)

theorem reaches_verifying (changed : site.bmc = change.rotateTo) :
    Reaches rejectsSame now { site with phase := .verifying change } := by
  exact reaches_of_advance (by simp) (by simp [changed])
    (reaches_persisting known changeKnown live changed)

variable (either : site.bmc = change.rotateFrom ∨ site.bmc = change.rotateTo)
include either

/-- The BMC has one of the two passwords that a change has read. -/
theorem reaches_changing : Reaches rejectsSame now { site with phase := .changing change } := by
  by_cases rejected : rejectsSame ∧ change.rotateFrom.password = change.newPassword
  · -- The two passwords are the same, and the BMC rejects the change.
    have same : change.rotateFrom = change.rotateTo := by
      rw [Change.rotateTo, ← rejected.2]
    exact reaches_of_advance (by simp) (by simp [rejected])
      (reaches_verifying known changeKnown live (either.elim (·.trans same) id))
  · by_cases accepted : site.bmc = change.rotateFrom
    · exact reaches_of_advance (by simp) (by simp [accepted, if_neg rejected])
        (reaches_persisting (known.change changeKnown) (changeKnown.of_secrets rfl) live rfl)
    · exact reaches_of_advance (by simp) (by simp [accepted, if_neg rejected])
        (reaches_verifying known changeKnown live (either.resolve_left accepted))

theorem reaches_probing {candidate : Credentials} {others : List Credentials}
    (accepts : site.bmc ∈ candidate :: others) :
    Reaches rejectsSame now { site with phase := .probing change candidate others } := by
  induction others generalizing candidate with
  | nil =>
    exact reaches_of_advance (by simp) (by simp [List.mem_singleton.mp accepts])
      (reaches_changing known changeKnown live either)
  | cons next others ih =>
    by_cases accepted : site.bmc = candidate
    · exact reaches_of_advance (by simp) (by simp [accepted])
        (reaches_changing known changeKnown live either)
    · exact reaches_of_advance (by simp) (by simp [accepted])
        (ih (List.mem_of_ne_of_mem accepted accepts))

theorem reaches_first :
    Reaches rejectsSame now { site with phase := change.first site.probes } := by
  rw [Change.first]
  split
  next =>
    refine reaches_probing known changeKnown live either ?_
    rwa [List.mem_cons, List.mem_singleton]
  next => exact reaches_changing known changeKnown live either

end Change

variable (tried : site.bmc = stored ∨ site.secrets target = some site.bmc.password)
include tried

theorem reaches_readingDeviceSecret {entry : Entry}
    (marker : row.rotatingToVersion = some entry.version) (live : entry.version = target) :
    Reaches rejectsSame now { site with phase := .readingDeviceSecret entry } := by
  obtain ⟨newPassword, found⟩ := known.secret
  rw [← live] at found
  have changeKnown : ChangeKnown site row stored ⟨entry, stored, newPassword⟩ :=
    ⟨marker, rfl, found⟩
  have either : site.bmc = stored ∨ site.bmc = ⟨stored.username, newPassword⟩ := by
    refine tried.imp_right fun secret => ?_
    rw [← live, found] at secret
    rw [known.username, some.inj secret]
  have readTarget : Reaches rejectsSame now
      { site with phase := .readingTargetSecret entry stored } := by
    exact reaches_of_advance (by simp) (by simp [found])
      (reaches_first known changeKnown live either)
  exact reaches_of_advance (by simp) (by simp [known.perDevice]) readTarget

/-- A tick that reads the status of a device whose backoff window is over, or that is
forced. -/
theorem reaches_readingStatus {force : Bool} (attempted : force = true ∨ row.Eligible now) :
    Reaches rejectsSame now { site with phase := .readingStatus force } := by
  have notSkipped : ((row.rotateQuarantinedUntil.any fun quarantinedUntil =>
      now < quarantinedUntil) && !force) = false := by
    obtain rfl | eligible := attempted
    · exact Bool.and_false _
    · cases quarantine : row.rotateQuarantinedUntil with
      | none => rfl
      | some quarantinedUntil =>
        have elapsed := eligible quarantinedUntil quarantine
        simp [Nat.not_lt.mpr elapsed]
  have nonneg : ¬ target < 0 := not_lt.mpr known.nonneg
  by_cases converged : (row.currentVersion.any fun current => target ≤ current) = true
  · -- The device is at the target already, so nothing is staged.
    obtain ⟨version, current, above⟩ := (any_eq_true _ _).mp converged
    have atTarget : version = target :=
      le_antisymm (known.current version current) (of_decide_eq_true above)
    subst atTarget
    have settled : row.rotatingToVersion = none := by
      cases marker : row.rotatingToVersion with
      | none => rfl
      | some staged =>
        obtain ⟨below, behind⟩ := known.staged staged marker
        exact absurd (behind version current) (not_lt.mpr below)
    obtain ⟨persisted, recorded⟩ := known.settled settled
    have stays : Site.Converged { site with phase := .idle } :=
      ⟨version, row, known.published, known.device, current, settled, recorded version current,
        known.perDevice.trans (congrArg some persisted), rfl⟩
    exact reaches_of_advance (by simp) (by simp [known.status, converged]) ⟨0, stays⟩
  · have marking : Reaches rejectsSame now
        { site with phase := .marking ⟨target, row.rotateAttempts⟩ } := by
      exact reaches_of_advance (by simp) (by simp)
        (reaches_readingDeviceSecret (known.mark ⟨target, row.rotateAttempts⟩ le_rfl
          (behind_of_not_any converged)) tried rfl rfl)
    exact reaches_of_advance (by simp) (by simp [known.status, converged, notSkipped, nonneg])
      marking

end Tick

theorem Consistent.accessible (consistent : Consistent site) (tried : site.Tried) :
    Accessible site := by
  obtain ⟨target, row, stored, known, -⟩ := consistent
  refine ⟨tried, ?_, ?_⟩
  · intro other otherMem settled
    cases known.device.symm.trans otherMem
    exact (known.settled settled).2
  · intro _ force now rejectsSame attempted
    refine reaches_readingStatus known (known.tried_iff.mp tried) ?_
    exact attempted.imp_right fun eligible => eligible row known.device

/-- A device at its enrollment: the BMC has the stored secret, which is the one of the
applied version if that is known, and a target with its secret is published. -/
structure Site.Enrolled (site : Site) : Prop where
  idle : site.phase = .idle
  perDevice : site.perDevice = some site.bmc
  published : ∃ target, site.records.targetVersion = some target ∧ 0 ≤ target ∧
    (∃ password, site.secrets target = some password) ∧
    ∃ appliedVersion, site.records.device = some (.enrolled appliedVersion) ∧
      ∀ version ∈ appliedVersion, version ≤ target ∧
        site.secrets version = some site.bmc.password

theorem Site.Enrolled.consistent (enrolled : site.Enrolled) : Consistent site := by
  obtain ⟨target, published, nonneg, secret, appliedVersion, device, applied⟩ :=
    enrolled.published
  refine ⟨target, .enrolled appliedVersion, site.bmc, ?_, ?_⟩
  · refine ⟨published, nonneg, secret, device, enrolled.perDevice, rfl, ?_, ?_, ?_⟩
    · exact fun version versionMem => (applied version versionMem).1
    · nofun
    · exact fun _ => ⟨rfl, fun version versionMem => (applied version versionMem).2⟩
  · rw [enrolled.idle]
    trivial

/-- Whatever crashes and fails, ticks and publications keep an enrolled device accessible, provided
that a target is published only while the BMC has the stored secret or the new one, and a password
change takes effect only while it goes to the stored secret or to the published target. -/
theorem accessible_of_run {actions : List Action} {final : Site} (enrolled : site.Enrolled)
    (meets : engine.Meets Steady actions site) (ran : engine.run actions site = some final) :
    Accessible final := by
  have kept : Consistent final ∧ final.Tried := by
    refine Machine.run_induction (fun site => Consistent site ∧ site.Tried) ?_ ?_ meets ran
    · intro action before after held steady stepped
      exact ⟨held.1.step stepped, held.2.step held.1 steady stepped⟩
    · exact ⟨enrolled.consistent, site.bmc, enrolled.perDevice, .inl rfl⟩
  exact kept.1.accessible kept.2

/-- Without these provisos a status that says `converged` is still true of all three stores. -/
theorem agrees_of_converged {actions : List Action} {final : Site} {now : Nat}
    {status : DeviceRotationStatus} (enrolled : site.Enrolled)
    (ran : engine.run actions site = some final)
    (reported : deviceRotationStatus final.records now = some status)
    (converged : status.converged) :
    final.perDevice = some final.bmc ∧ final.nextSecret = some final.bmc.password := by
  obtain ⟨target, row, stored, known, -⟩ := Machine.run_invariant Consistent
    (fun _ _ _ consistent stepped => consistent.step stepped) enrolled.consistent ran
  cases (known.status now).symm.trans reported
  obtain ⟨version, current, above⟩ := (any_eq_true _ _).mp converged
  have atTarget := le_antisymm (known.current version current) (of_decide_eq_true above)
  have settled : row.rotatingToVersion = none := by
    rw [eq_none_iff_forall_ne_some]
    intro staged marker
    obtain ⟨below, behind⟩ := known.staged staged marker
    exact absurd (behind version current) (atTarget ▸ not_lt.mpr below)
  obtain ⟨persisted, recorded⟩ := known.settled settled
  refine ⟨persisted ▸ known.perDevice, ?_⟩
  rw [nextSecret, known.published, ← atTarget]
  exact recorded version current

/-! ## One device -/

def root (password : Text) : Credentials := ⟨"root".toList, password⟩

/-- A device that was enrolled with version 0. -/
def enrolledSite : Site where
  records := ⟨some 0, some (.enrolled (some 0))⟩
  secrets := fun version => if version = 0 then some "p0".toList else none
  perDevice := some (root "p0".toList)
  bmc := root "p0".toList
  probes := false
  phase := .idle

theorem enrolledSite_enrolled : enrolledSite.Enrolled where
  idle := rfl
  perDevice := rfl
  published := by
    refine ⟨0, rfl, le_rfl, ⟨_, rfl⟩, some 0, rfl, ?_⟩
    rintro version ⟨⟩
    exact ⟨le_rfl, rfl⟩

/-- A tick up to its password change, which takes effect before the process crashes. -/
def crashedTick : List Action :=
  [.start false, .advance .ok 10 [], .advance .ok 11 [], .advance .ok 12 [], .advance .ok 13 [],
    .crash true 14 []]

/-- A tick that finds the BMC at the new password. -/
def recoveringTick : List Action :=
  .start false :: .replicate 9 (.advance .ok 20 [])

/-- The next target is published when the device has converged to the one before. -/
def steadyRun : List Action :=
  .publish "p1".toList :: crashedTick ++ recoveringTick ++ [.publish "p2".toList]

theorem accessible_of_steadyRun :
    enrolledSite.Enrolled ∧ engine.Meets Steady steadyRun enrolledSite ∧
      ∃ final, engine.run steadyRun enrolledSite = some final ∧
        final.bmc = root "p1".toList ∧ final.records.targetVersion = some 2 ∧
        Accessible final := by
  have meets : engine.Meets Steady steadyRun enrolledSite := by decide +kernel
  obtain ⟨final, ran, password, target⟩ : ∃ final ∈ engine.run steadyRun enrolledSite,
      final.bmc = root "p1".toList ∧ final.records.targetVersion = some 2 := by decide +kernel
  exact ⟨enrolledSite_enrolled, meets, final, ran, password, target,
    accessible_of_run enrolledSite_enrolled meets ran⟩

/-- A tick that crashes after its password change, and the one that follows. -/
def recovery : List Action := .publish "p1".toList :: crashedTick ++ recoveringTick

theorem agrees_of_recovery :
    enrolledSite.Enrolled ∧ ∃ final ∈ engine.run recovery enrolledSite,
      ∃ status ∈ deviceRotationStatus final.records 30,
        status.converged ∧ final.perDevice = some final.bmc := by
  obtain ⟨final, ran, status, reported, converged⟩ : ∃ final ∈ engine.run recovery enrolledSite,
      ∃ status ∈ deviceRotationStatus final.records 30, status.converged := by decide +kernel
  exact ⟨enrolledSite_enrolled, final, ran, status, reported, converged,
    (agrees_of_converged enrolledSite_enrolled ran reported converged).1⟩

/-- The second target is published before a tick has seen that the BMC has the password of
the first one. -/
def supersededRun : List Action :=
  .publish "p1".toList :: crashedTick ++ [.publish "p2".toList]

/-- The BMC has a password that no later tick will try. -/
theorem not_accessible_of_supersededRun :
    enrolledSite.Enrolled ∧ ∃ final, engine.run supersededRun enrolledSite = some final ∧
        final.bmc = root "p1".toList ∧ final.perDevice = some (root "p0".toList) ∧
        final.nextSecret = some "p2".toList ∧ ¬ Accessible final := by
  obtain ⟨final, ran, password, stored, next⟩ : ∃ final ∈ engine.run supersededRun enrolledSite,
      final.bmc = root "p1".toList ∧ final.perDevice = some (root "p0".toList) ∧
        final.nextSecret = some "p2".toList := by decide +kernel
  refine ⟨enrolledSite_enrolled, final, ran, password, stored, next, ?_⟩
  intro accessible
  obtain ⟨other, otherMem, tried⟩ := accessible.tried
  cases stored.symm.trans otherMem
  rw [password, next] at tried
  exact absurd tried (by decide)

end CredentialRotation
