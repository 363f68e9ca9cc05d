import BareMetalManager.MeasuredBoot.Records
import Mathlib.Data.List.MinMax

/-!
# Profiles, bundles and reports

`profile.rs`, `machine.rs`, `bundle.rs` and `report.rs`. The profile of a machine is found by its
discovery attributes or created. A new bundle or a new state of one is written to the journal of
the machines whose latest report matches it. A machine submits the values of its registers, which
are matched against the bundles of its profile; where none matches, an auto-approval turns the
report into an active bundle. Each request of the service is one transaction.
-/

namespace MeasuredBoot

open Txn

/-- The generated names, by the time at which they are drawn. -/
class Names where
  generateName : Nat → String

variable [Names]

def nameOrGenerated : Option String → Db String
  | some name => pure name
  | none => return Names.generateName (← tick)

def latest {ρ : Type} (ts : ρ → Nat) (rows : List ρ) : Option ρ := rows.argmax ts

/-! ## Profiles -/

/-- `intersects_with`. -/
def MeasurementSystemProfile.intersectsWith (profile : MeasurementSystemProfile)
    (machineAttrs : List (String × String)) : Bool :=
  profile.attrs.length ≤ machineAttrs.length &&
    profile.attrs.all fun (key, value) => machineAttrs.lookup key == some value

/-- The most specific of several matches, where `size` says how specific one is. -/
def mostSpecific {ρ : Type} (size : ρ → Nat) (conflict : DatabaseError) (matching : List ρ) :
    Except DatabaseError (Option ρ) :=
  match matching.insertionSort fun left right => size right ≤ size left with
  | [] => .ok none
  | [only] => .ok (some only)
  | first :: second :: _ => if size first = size second then .error conflict else .ok (some first)

variable (attrs : List (String × String)) (db : Database)

/-- `match_profile`. -/
def matchProfile : Except DatabaseError (Option MeasurementSystemProfile) :=
  mostSpecific (·.attrs.length) (.internal "cannot determine most specific profile match")
    (db.profiles.filter (·.intersectsWith attrs))

/-- `get_measurement_profile_id_by_attrs`: keys and values are counted apart. -/
def getMeasurementProfileByAttrs : Except DatabaseError (Option MeasurementSystemProfile) :=
  if attrs = [] then .error (.query "get_measurement_profile_id_by_attrs")
  else
    .ok <| db.profiles.find? fun profile =>
      let pairs := profile.attrs.filter (· ∈ attrs)
      (pairs.map Prod.fst).dedup.length = attrs.length ∧
        (pairs.map Prod.snd).dedup.length = attrs.length ∧
        profile.attrs.length = attrs.length

variable (name : String) (attrs : List (String × String))

/-- `create_measurement_profile`. -/
def createMeasurementProfile : Db MeasurementSystemProfile := do
  match ← readResult (getMeasurementProfileByAttrs attrs) with
  | some existing => fail (.alreadyFound "MeasurementSystemProfile" existing.name)
  | none => insertMeasurementProfile name attrs

/-- `profile::new`. -/
def newProfile (name : Option String) (attrs : List (String × String)) :
    Db MeasurementSystemProfile := do
  createMeasurementProfile (← nameOrGenerated name) attrs

/-- `match_from_attrs_or_new`. -/
def matchFromAttrsOrNew : Db MeasurementSystemProfile := do
  match ← readResult (matchProfile attrs) with
  | some profile => pure profile
  | none => newProfile none attrs

/-! ## Machines -/

/-- `filter_machine_discovery_attrs`. -/
def filterMachineDiscoveryAttrs : List (String × String) :=
  attrs.filter fun (key, _) => key ∈ ["sys_vendor", "product_name", "bios_version"]

variable (machineId : MachineId) (db : Database)

/-- The discovery attributes of `machine::from_id`. -/
def discoveryAttributes : Except DatabaseError (List (String × String)) :=
  match (db.machines machineId).bind (·.topology) with
  | none => .error (.notFound "CandidateMachine")
  | some ⟨none⟩ => .error (.internal "machine missing dmi data")
  | some ⟨some dmi⟩ => .ok <| filterMachineDiscoveryAttrs
      [("sys_vendor", dmi.sysVendor), ("product_name", dmi.productName),
        ("bios_version", dmi.biosVersion)]

def profileOfMachine : Db MeasurementSystemProfile := do
  matchFromAttrsOrNew (← readResult (discoveryAttributes machineId))

/-- `bundle_state_to_machine_state`. -/
def bundleStateToMachineState : MeasurementBundleState → MeasurementMachineState
  | .active => .measured
  | .obsolete => .measured
  | .retired => .measuringFailed
  | .revoked => .measuringFailed
  | .pending => .pendingBundle

/-- `get_latest_journal_for_id`. -/
def getLatestJournalForId : Option MeasurementJournal :=
  latest (·.ts) (db.journal.filter (·.machineId = machineId))

/-- `get_measurement_machine_state`. -/
def getMeasurementMachineState : MeasurementMachineState :=
  (getLatestJournalForId machineId db).elim .discovered (·.state)

/-! ## Bundles -/

/-- `intersects`. -/
def intersects (bundle : MeasurementBundle) (values : List PcrRegisterValue) :
    Except DatabaseError Bool := do
  let registerMap ← pcrRegisterValuesToMap values
  return bundle.values.all fun record =>
    (registerMap.find? (·.pcrRegister = record.pcrRegister)).any (·.shaAny = record.shaAny)

/-- `get_active_bundles`. -/
def getActiveBundles (bundles : List MeasurementBundle) : List MeasurementBundle :=
  bundles.filter fun bundle => bundle.state ∈ [.active, .obsolete]

/-- `get_matching_bundles`. -/
def getMatchingBundles (allBundles : List MeasurementBundle) (values : List PcrRegisterValue) :
    Except DatabaseError (List MeasurementBundle) :=
  (getActiveBundles allBundles).foldlM (fun matching bundle => do
    return if ← intersects bundle values then matching ++ [bundle] else matching) []

variable (profileId : MeasurementSystemProfileId) (values : List PcrRegisterValue) (db : Database)

/-- `match_from_values` with `match_bundle`. -/
def matchFromValues : Except DatabaseError (Option MeasurementBundle) := do
  let matching ← getMatchingBundles (db.bundles.filter (·.profileId = profileId)) values
  mostSpecific (·.values.length) (.internal "cannot determine most specific bundle match") matching

/-- `has_exact_from_values`. -/
def hasExactFromValues : Except DatabaseError Bool :=
  (matchFromValues profileId values db).map fun bundle =>
    bundle.any (·.values.length = values.length)

/-- `match_latest_reports`. The number of values is cast to 16 bits. -/
def matchLatestReports : Except DatabaseError (List MeasurementReport) :=
  if values = [] then .error (.query "match_latest_reports")
  else
    .ok <| db.reports.filter fun report =>
      latest (·.ts) (db.reports.filter (·.machineId = report.machineId)) = some report ∧
        ((report.values.filter (· ∈ values)).length : Int) = .bmod values.length (2 ^ 16)

/-- `update_journal`. -/
def updateJournal (bundle : MeasurementBundle) : Db Unit := do
  let machineState := bundleStateToMachineState bundle.state
  let reports ← readResult (matchLatestReports bundle.values)
  reports.forM fun report => do
    let profile ← profileOfMachine report.machineId
    if profile.profileId = bundle.profileId then
      let _ ← insertMeasurementJournal report.machineId report.reportId (some profile.profileId)
        (some bundle.bundleId) machineState
    else pure ()

/-- `bundle::new`. -/
def newBundle (name : Option String) (values : List PcrRegisterValue)
    (state : Option MeasurementBundleState) : Db MeasurementBundle := do
  if ← readResult (hasExactFromValues profileId values) then
    fail (.alreadyFound "MeasurementBundle" "(with same bundle values)")
  else
    let bundle ← insertMeasurementBundle profileId (← nameOrGenerated name) state values
    updateJournal bundle
    return bundle

variable (bundleId : MeasurementBundleId) (state : MeasurementBundleState)

/-- `update_state_for_bundle_id`. -/
def updateStateForBundleId (allowFromRevoked : Bool) : Db (Option MeasurementBundle) := do
  let chosen (bundle : MeasurementBundle) : Bool :=
    match allowFromRevoked with
    | true => bundle.bundleId = bundleId ∧ bundle.state ≠ .revoked
    | false => bundle.bundleId = bundleId
  let updated ← read fun db => db.bundles.find? chosen
  write fun db =>
    { db with
      bundles := db.bundles.map fun bundle =>
        if chosen bundle then { bundle with state } else bundle }
  return updated.map fun bundle => { bundle with state }

/-- `set_state_for_bundle_id`. -/
def setStateForBundleId : Db MeasurementBundle := do
  match ← updateStateForBundleId bundleId state false with
  | some record => pure record
  | none =>
    match ← read fun db => db.bundles.find? (·.bundleId = bundleId) with
    | none => fail (.notFound "MeasurementBundleRecord")
    | some existingBundle =>
      if existingBundle.state = .revoked then
        fail (.internal "bundle cannot be moved from revoked state")
      else fail (.internal "totally unknown reason why this happened for bundle")

/-- `set_state_for_id`. -/
def setStateForId : Db MeasurementBundle := do
  let bundle ← setStateForBundleId bundleId state
  updateJournal bundle
  return bundle

/-! ## Reports -/

variable (machineId : MachineId) (values : List PcrRegisterValue)

/-- Whether the values are those of the report of the latest journal entry, up to order. -/
def sameAsPreviousOne (db : Database) : Except DatabaseError (Option MeasurementReportId) :=
  match getLatestJournalForId machineId db with
  | none => .ok none
  | some latestJournal =>
    match db.reports.find? (·.reportId = latestJournal.reportId) with
    | none => .error (.notFound "MeasurementReport")
    | some latestReport =>
      let sorted (values : List PcrRegisterValue) :=
        values.insertionSort fun left right => left.pcrRegister ≤ right.pcrRegister
      .ok (if sorted values = sorted latestReport.values then some latestJournal.reportId
        else none)

structure JournalData where
  state : MeasurementMachineState
  bundleId : Option MeasurementBundleId
  profileId : Option MeasurementSystemProfileId

/-- `JournalData::new_from_values`. -/
def JournalData.newFromValues : Db JournalData := do
  let profile ← profileOfMachine machineId
  match ← readResult (matchFromValues profile.profileId values) with
  | some bundle =>
    pure ⟨bundleStateToMachineState bundle.state, some bundle.bundleId, some profile.profileId⟩
  | none => pure ⟨.pendingBundle, none, some profile.profileId⟩

/-- The values of a new bundle: all of a report, or those of a set of registers. -/
def selectValues (report : MeasurementReport) :
    Option (List Int) → Except DatabaseError (List PcrRegisterValue)
  | none => do
      let _ ← pcrRegisterValuesToMap report.values
      return report.values
  | some pcrSet => do
      let registerMap ← pcrRegisterValuesToMap report.values
      pcrSet.mapM fun register =>
        (registerMap.find? (·.pcrRegister = register)).elim (.error (.notFound "PcrRegisterValue"))
          .ok

/-- `create_bundle_with_state`. -/
def createBundleWithState (report : MeasurementReport) (state : MeasurementBundleState)
    (pcrSet : Option (List Int)) : Db MeasurementBundle := do
  let profile ← profileOfMachine report.machineId
  let values ← readResult fun _ => selectValues report pcrSet
  newBundle profile.profileId none values (some state)

def parsePcrRegisters : Option String → Except DatabaseError (Option (List Int))
  | none => .ok none
  | some text => (parsePcrIndexInput text).elim (.error (.internal "parse_pcr_index_input"))
      fun pcrSet => .ok (some pcrSet)

/-- An approval turns a report into an active bundle, and is removed if it is for one shot. -/
def approve {κ : Type} (approval : Approval κ) (remove : Nat → Db Unit)
    (report : MeasurementReport) : Db Unit := do
  let pcrSet ← readResult fun _ => parsePcrRegisters approval.pcrRegisters
  let _ ← createBundleWithState report .active pcrSet
  if approval.approvalType = .oneshot then remove approval.approvalId else pure ()

/-- `remove_from_approved_machines_by_approval_id`. -/
def removeFromApprovedMachines (approvalId : Nat) : Db Unit := do
  require (.query "remove_from_approved_machines_by_approval_id") fun db =>
    db.approvedMachines.any (·.approvalId = approvalId)
  write fun db =>
    { db with approvedMachines := db.approvedMachines.filter (·.approvalId ≠ approvalId) }

/-- `remove_from_approved_profiles_by_approval_id`. -/
def removeFromApprovedProfiles (approvalId : Nat) : Db Unit := do
  require (.query "remove_from_approved_profiles_by_approval_id") fun db =>
    db.approvedProfiles.any (·.approvalId = approvalId)
  write fun db =>
    { db with approvedProfiles := db.approvedProfiles.filter (·.approvalId ≠ approvalId) }

/-- `get_approval_for_machine_id`. -/
def getApprovalForMachineId (machineId : TrustedMachineId) (db : Database) :
    Option (Approval TrustedMachineId) :=
  db.approvedMachines.find? (·.approved = machineId)

variable (profileId : MeasurementSystemProfileId)

/-- `get_approval_for_profile_id`. -/
def getApprovalForProfileId (db : Database) : Option (Approval MeasurementSystemProfileId) :=
  db.approvedProfiles.find? (·.approved = profileId)

variable (report : MeasurementReport)

/-- `maybe_auto_approve_machine`: the machine, or any machine. -/
def maybeAutoApproveMachine : Db Bool := do
  match ← read (getApprovalForMachineId (.machineId report.machineId)) with
  | some approval =>
    approve approval removeFromApprovedMachines report
    return true
  | none =>
    match ← read (getApprovalForMachineId .any) with
    | some approval =>
      approve approval removeFromApprovedMachines report
      return true
    | none => return false

/-- `maybe_auto_approve_profile`. -/
def maybeAutoApproveProfile : Db Bool := do
  match ← read (getApprovalForProfileId profileId) with
  | some approval =>
    approve approval removeFromApprovedProfiles report
    return true
  | none => return false

/-- The report of a submission, and whether it is a new one. -/
def storeReport (machineId : MachineId) (values : List PcrRegisterValue) :
    Db (MeasurementReport × Bool) := do
  match ← readResult (sameAsPreviousOne machineId values) with
  | some reportId => return (← updateReportTstamp reportId, false)
  | none => return (← insertMeasurementReport machineId values, true)

/-- The journal entry of a submission: a new one, or those of the report. -/
def storeJournal (newReportCreated : Bool) (data : JournalData) : Db MeasurementJournal :=
  if newReportCreated then
    insertMeasurementJournal report.machineId report.reportId data.profileId data.bundleId
      data.state
  else updateMeasurementJournal report.reportId data.profileId data.bundleId data.state

/-- `create_measurement_report`. -/
def createMeasurementReport (machineId : MachineId) (values : List PcrRegisterValue) :
    Db MeasurementReport := do
  let (report, newReportCreated) ← storeReport machineId values
  let journalData ← JournalData.newFromValues report.machineId report.values
  let journal ← storeJournal report newReportCreated journalData
  match journal.profileId with
  | none => fail (.missingArgument "journal.profile_id")
  | some profileId =>
    if journal.bundleId = none then
      if ← maybeAutoApproveMachine report then return report
      else
        let _ ← maybeAutoApproveProfile profileId report
        return report
    else return report

/-! ## Requests -/

/-- The requests of the service: machines are discovered, profiles, bundles and approvals are
created by operators, reports come from machines. -/
inductive Request where
  | discover (machineId : MachineId) (machine : CandidateMachine)
  | createProfile (name : Option String) (attrs : List (String × String))
  | createBundle (profileId : MeasurementSystemProfileId) (name : Option String)
      (values : List PcrRegisterValue) (state : MeasurementBundleState)
  | updateBundle (bundleId : MeasurementBundleId) (state : MeasurementBundleState)
  | createReport (machineId : MachineId) (values : List PcrRegisterValue)
  | promoteReport (reportId : MeasurementReportId) (pcrRegisters : Option String)
  | revokeReport (reportId : MeasurementReportId) (pcrRegisters : Option String)
  | addTrustedMachine (machineId : TrustedMachineId) (approvalType : MeasurementApprovedType)
      (pcrRegisters : Option String)
  | addTrustedProfile (profileId : MeasurementSystemProfileId)
      (approvalType : MeasurementApprovedType) (pcrRegisters : Option String)
  | removeTrustedMachine (approvalId : Nat)
  | removeTrustedProfile (approvalId : Nat)

def bundleFromReport (reportId : MeasurementReportId) (pcrRegisters : Option String)
    (state : MeasurementBundleState) : Db Unit := do
  let pcrSet ← readResult fun _ => parsePcrRegisters pcrRegisters
  let report ← readResult fun db => (db.reports.find? (·.reportId = reportId)).elim
    (.error (.notFound "MeasurementReport")) .ok
  let _ ← createBundleWithState report state pcrSet

/-- `insert_into_approved_machines`. -/
def insertIntoApprovedMachines (machineId : TrustedMachineId)
    (approvalType : MeasurementApprovedType) (pcrRegisters : Option String) : Db Unit := do
  require (.query "insert_into_approved_machines") fun db =>
    db.approvedMachines.all (·.approved ≠ machineId)
  let approval : Approval TrustedMachineId := ⟨← tick, machineId, approvalType, pcrRegisters⟩
  write fun db => { db with approvedMachines := db.approvedMachines ++ [approval] }

/-- `insert_into_approved_profiles`. -/
def insertIntoApprovedProfiles (profileId : MeasurementSystemProfileId)
    (approvalType : MeasurementApprovedType) (pcrRegisters : Option String) : Db Unit := do
  require (.query "insert_into_approved_profiles") fun db =>
    db.approvedProfiles.all (·.approved ≠ profileId) && db.profiles.any (·.profileId = profileId)
  let approval : Approval MeasurementSystemProfileId :=
    ⟨← tick, profileId, approvalType, pcrRegisters⟩
  write fun db => { db with approvedProfiles := db.approvedProfiles ++ [approval] }

def Request.txn : Request → Db Unit
  | discover machineId machine =>
    write fun db => { db with machines := Function.update db.machines machineId machine }
  | createProfile name attrs => do
      let _ ← newProfile name attrs
  | createBundle profileId name values state => do
      let _ ← newBundle profileId name values (some state)
  | updateBundle bundleId state => do
      let _ ← setStateForId bundleId state
  | createReport machineId values => do
      let _ ← createMeasurementReport machineId values
  | promoteReport reportId pcrRegisters => bundleFromReport reportId pcrRegisters .active
  | revokeReport reportId pcrRegisters => bundleFromReport reportId pcrRegisters .revoked
  | addTrustedMachine machineId approvalType pcrRegisters =>
    insertIntoApprovedMachines machineId approvalType pcrRegisters
  | addTrustedProfile profileId approvalType pcrRegisters =>
    insertIntoApprovedProfiles profileId approvalType pcrRegisters
  | removeTrustedMachine approvalId => removeFromApprovedMachines approvalId
  | removeTrustedProfile approvalId => removeFromApprovedProfiles approvalId

end MeasuredBoot
