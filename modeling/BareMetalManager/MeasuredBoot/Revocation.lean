import BareMetalManager.MeasuredBoot.Statements

/-!
# Revoked bundles

`update_state_for_bundle_id` is the last line of defense against moving a bundle out of the
revoked state, but `set_state_for_bundle_id` calls it with the flag that skips the check. All
other requests leave the states of the stored bundles alone.
-/

namespace MeasuredBoot

open Database Txn

section Requests

/-- The service, where each request is a transaction. -/
def service [Names] : Machine Request Database := ⟨fun request db => some (request.txn.commit db)⟩

variable (bundleId : MeasurementBundleId) (db : Database)

def bundleState : Option MeasurementBundleState :=
  (db.bundles.find? (·.bundleId = bundleId)).map (·.state)

structure StatesKept (before after : Database) : Prop where
  submissions : before.submissions ⊆ after.submissions
  states : ∀ bundleId state, bundleState bundleId before = some state →
    bundleState bundleId after = some state

def LeavesRevoked : Request → Prop
  | .updateBundle bundleId state => bundleState bundleId db = some .revoked → state = .revoked
  | _ => True

/-! ## Requests -/

theorem statesKept_of_bundles {before after : Database}
    (submissions : before.submissions ⊆ after.submissions)
    (same : after.bundles = before.bundles) : StatesKept before after := by
  refine ⟨submissions, fun bundleId state stored => ?_⟩
  rwa [bundleState, same]

theorem statesKept_append (bundle : MeasurementBundle) (clock : Nat) :
    StatesKept db { db with clock, bundles := db.bundles ++ [bundle] } := by
  refine ⟨.refl _, fun bundleId state stored => ?_⟩
  obtain ⟨row, found, rfl⟩ := Option.map_eq_some_iff.mp stored
  rw [bundleState, List.find?_append, found]
  rfl

theorem stable_statesKept : Txn.Stable StatesKept where
  refl _ := statesKept_of_bundles (.refl _) rfl
  trans first second :=
    ⟨List.Subset.trans first.submissions second.submissions, fun bundleId state stored =>
      second.states bundleId state (first.states bundleId state stored)⟩

theorem respected_statesKept : Respected StatesKept where
  stable := stable_statesKept
  submissions _ _ kept := kept.submissions
  discover _ _ := statesKept_of_bundles (.refl _) rfl
  tick _ := statesKept_of_bundles (.refl _) rfl
  insertProfile name attrs db profile after ran := by
    rw [of_run_insertMeasurementProfile ran]
    exact statesKept_of_bundles (.refl _) rfl
  insertBundle profileId name state values db bundle after ran := by
    rw [of_run_insertMeasurementBundle ran]
    exact statesKept_append db bundle _
  insertReport machineId values db report after ran := by
    rw [(run_insertMeasurementReport_eq_ok.mp ran).2.2.2.2]
    exact statesKept_of_bundles submissions_append rfl
  updateReport reportId db report after ran := by
    obtain ⟨found, -, -, rfl⟩ := run_updateReportTstamp_eq_ok.mp ran
    refine statesKept_of_bundles ?_ rfl
    rw [submissions_touchReport]
    exact .refl _
  insertJournal machineId reportId profileId bundleId state db row after ran _ := by
    rw [(run_insertMeasurementJournal_eq_ok.mp ran).2.2]
    exact statesKept_of_bundles (.refl _) rfl
  updateJournal reportId profileId bundleId state db row after ran := by
    rw [(run_updateMeasurementJournal_eq_ok.mp ran).1]
    exact statesKept_of_bundles (.refl _) rfl
  approvals _ _ _ := statesKept_of_bundles (.refl _) rfl

variable {bundleId db} {state : MeasurementBundleState}

/-- The flag that `set_state_for_bundle_id` passes: the update looks at the id only. -/
theorem of_run_setStateForBundleId {after : Database} {bundle : MeasurementBundle}
    (ran : (setStateForBundleId bundleId state).run db = .ok (bundle, after)) :
    after = { db with
      bundles := db.bundles.map fun row =>
        if row.bundleId = bundleId then { row with state } else row } := by
  simp only [setStateForBundleId, updateStateForBundleId, bind_assoc, run_bind_eq_ok,
    run_read_eq_ok, run_write_eq_ok] at ran
  obtain ⟨updated, _, ⟨isUpdated, rfl⟩, _, _, rfl, _, _, returned, ran⟩ := ran
  obtain ⟨rfl, rfl⟩ := run_pure_eq_ok.mp returned
  cases updated with
  | some row =>
    obtain ⟨-, rfl⟩ := run_pure_eq_ok.mp ran
    simp only [decide_eq_true_eq]
  | none =>
    -- A bundle that is not found and one that is not updated both end in an error.
    obtain ⟨existing, _, -, ran⟩ := run_bind_eq_ok.mp ran
    cases existing with
    | none => cases ran
    | some existingBundle =>
      simp only at ran
      split at ran
      next => cases ran
      next => cases ran

variable {changed : MeasurementBundleId}

theorem revoked_setState
    (leaves : LeavesRevoked db (.updateBundle changed state))
    (revoked : bundleState bundleId db = some .revoked) :
    bundleState bundleId { db with
      bundles := db.bundles.map fun row =>
        if row.bundleId = changed then { row with state } else row } = some .revoked := by
  obtain ⟨row, found, isRevoked⟩ := Option.map_eq_some_iff.mp revoked
  have sameId (other : MeasurementBundle) :
      (if other.bundleId = changed then { other with state } else other).bundleId =
        other.bundleId := by
    split <;> rfl
  have isRow : row.bundleId = bundleId := by simpa using List.find?_some found
  rw [bundleState, List.find?_map]
  simp only [Function.comp_def, sameId]
  rw [found, Option.map_some, Option.map_some]
  split
  next isChanged =>
    cases isRow.symm.trans isChanged
    rw [leaves revoked]
  next => rw [isRevoked]

variable [Names]

theorem revoked_updateBundle
    (leaves : LeavesRevoked db (.updateBundle changed state))
    (revoked : bundleState bundleId db = some .revoked) :
    bundleState bundleId ((Request.updateBundle changed state).txn.commit db) = some .revoked := by
  unfold commit
  split
  next served =>
    obtain ⟨_, _, stateSet, returned⟩ := run_bind_eq_ok.mp served
    obtain ⟨-, rfl⟩ := run_pure_eq_ok.mp returned
    obtain ⟨bundle, middle, updated, ran⟩ := run_bind_eq_ok.mp stateSet
    obtain ⟨_, _, journaled, returned⟩ := run_bind_eq_ok.mp ran
    obtain ⟨-, rfl⟩ := run_pure_eq_ok.mp returned
    apply (keeps_updateJournal respected_statesKept bundle _ _ _ journaled).states
    rw [of_run_setStateForBundleId updated]
    exact revoked_setState leaves revoked
  next => exact revoked

theorem revoked_request {request : Request} (leaves : LeavesRevoked db request)
    (revoked : bundleState bundleId db = some .revoked) :
    bundleState bundleId (request.txn.commit db) = some .revoked := by
  cases request with
  | updateBundle changed state => exact revoked_updateBundle leaves revoked
  | _ =>
    apply (Txn.Keeps.commit stable_statesKept (keeps_request respected_statesKept ?_) db).states
    · exact revoked
    · nofun

/-- A bundle that is revoked stays revoked. -/
theorem revoked_of_run {earlier later : List Request} {middle final : Database}
    {bundleId : MeasurementBundleId}
    (leaves : service.Meets LeavesRevoked (earlier ++ later) empty)
    (ranEarlier : service.run earlier empty = some middle)
    (revoked : bundleState bundleId middle = some .revoked)
    (ranLater : service.run later middle = some final) :
    bundleState bundleId final = some .revoked := by
  obtain ⟨-, leavesLater⟩ := Machine.meets_append leaves ranEarlier
  refine Machine.run_induction (fun db => bundleState bundleId db = some .revoked) ?_ revoked
    leavesLater ranLater
  intro request db next revoked leaves served
  cases served
  exact revoked_request leaves revoked

end Requests

/-! ## A revoked bundle that is activated -/

instance strokes : Names := ⟨fun now => .ofList (.replicate now 'n')⟩

instance instDecidableLeavesRevoked (db : Database) :
    (request : Request) → Decidable (LeavesRevoked db request)
  | .updateBundle bundleId state =>
    inferInstanceAs (Decidable (bundleState bundleId db = some .revoked → state = .revoked))
  | .discover .. | .createProfile .. | .createBundle .. | .createReport .. | .promoteReport ..
  | .revokeReport .. | .addTrustedMachine .. | .addTrustedProfile .. | .removeTrustedMachine ..
  | .removeTrustedProfile .. => .isTrue trivial

/-- A machine reports its registers, and an operator revokes the report. -/
def revocation : List Request :=
  [.discover 7 ⟨some ⟨some ⟨"vendor", "product", "1.0"⟩⟩⟩, .createReport 7 [⟨0, "aa"⟩, ⟨1, "bb"⟩],
    .revokeReport 0 none]

theorem revoked_of_revocation :
    ∃ middle final, service.run revocation empty = some middle ∧
      bundleState 5 middle = some .revoked ∧
      service.run [.createReport 7 [⟨1, "bb"⟩, ⟨0, "aa"⟩], .updateBundle 5 .revoked] middle =
        some final ∧
      bundleState 5 final = some .revoked := by
  obtain ⟨middle, ran, revoked⟩ : ∃ middle ∈ service.run revocation empty,
      bundleState 5 middle = some .revoked := by decide +kernel
  obtain ⟨final, ranLater⟩ : ∃ final,
      service.run [.createReport 7 [⟨1, "bb"⟩, ⟨0, "aa"⟩], .updateBundle 5 .revoked] middle =
        some final := ⟨_, rfl⟩
  exact ⟨middle, final, ran, revoked, ranLater,
    revoked_of_run (by decide +kernel) ran revoked ranLater⟩

/-- The update of a revoked bundle to active succeeds, and the machine is measured again. -/
theorem active_of_revocation :
    ∃ middle final, service.run revocation empty = some middle ∧
      bundleState 5 middle = some .revoked ∧
      getMeasurementMachineState 7 middle = .measuringFailed ∧
      service.run [.updateBundle 5 .active] middle = some final ∧
      bundleState 5 final = some .active ∧
      getMeasurementMachineState 7 final = .measured := by
  obtain ⟨middle, ran, revoked, failed, final, ranLater, activated⟩ :
      ∃ middle ∈ service.run revocation empty, bundleState 5 middle = some .revoked ∧
      getMeasurementMachineState 7 middle = .measuringFailed ∧
      ∃ final ∈ service.run [.updateBundle 5 .active] middle, bundleState 5 final = some .active ∧
        getMeasurementMachineState 7 final = .measured := by decide +kernel
  exact ⟨middle, final, ran, revoked, failed, ranLater, activated⟩

end MeasuredBoot
