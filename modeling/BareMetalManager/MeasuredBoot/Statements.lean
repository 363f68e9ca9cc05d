import BareMetalManager.MeasuredBoot.Report
import BareMetalManager.Lib.Transition

/-!
# What the statements keep

Every request other than a change of a bundle's state is made of a few statements. What each of
them keeps is kept by the requests.
-/

namespace MeasuredBoot

open List Txn Database

def Database.submissions (db : Database) : List (MeasurementReportId × MachineId) :=
  db.reports.map fun report => (report.reportId, report.machineId)

/-- A relation that is kept by all statements other than the change of a bundle's state. Journal
entries are only written for stored reports. -/
structure Respected (related : Database → Database → Prop) : Prop where
  stable : Stable related
  submissions : ∀ before after, related before after → before.submissions ⊆ after.submissions
  discover : ∀ db machines, related db { db with machines }
  tick : ∀ db, related db { db with clock := db.clock + 1 }
  insertProfile : ∀ name attrs, (insertMeasurementProfile name attrs).Keeps related
  insertBundle : ∀ profileId name state values,
    (insertMeasurementBundle profileId name state values).Keeps related
  insertReport : ∀ machineId values, (insertMeasurementReport machineId values).Keeps related
  updateReport : ∀ reportId, (updateReportTstamp reportId).Keeps related
  insertJournal : ∀ machineId reportId profileId bundleId state,
    (insertMeasurementJournal machineId reportId profileId bundleId state).Keeps
      fun before after => (reportId, machineId) ∈ before.submissions → related before after
  updateJournal : ∀ reportId profileId bundleId state,
    (updateMeasurementJournal reportId profileId bundleId state).Keeps related
  approvals : ∀ db approvedMachines approvedProfiles,
    related db { db with approvedMachines, approvedProfiles }

variable {report : MeasurementReport} {db : Database}

theorem mem_submissions (stored : report ∈ db.reports) :
    (report.reportId, report.machineId) ∈ db.submissions :=
  mem_map.mpr ⟨report, stored, rfl⟩

theorem submissions_append {clock : Nat} :
    db.submissions ⊆
      submissions { db with clock, reports := db.reports ++ [report] } := by
  intro submission submissionMem
  rw [submissions, map_append]
  exact mem_append_left _ submissionMem

theorem submissions_touchReport (db : Database) (reportId : MeasurementReportId) :
    (db.touchReport reportId).submissions = db.submissions := by
  rw [submissions, submissions, touchReport, map_map]
  apply map_congr_left
  intro report _
  rw [Function.comp_apply]
  split <;> rfl

variable {values : List PcrRegisterValue}

theorem mem_of_matchLatestReports
    {reports : List MeasurementReport} (matched : matchLatestReports values db = .ok reports)
    (mem : report ∈ reports) : report ∈ db.reports := by
  unfold matchLatestReports at matched
  split at matched
  next => cases matched
  next =>
    cases matched
    exact mem_of_mem_filter mem

theorem mem_submissions_of_storeReport {machineId : MachineId}
    {after : Database} {newReportCreated : Bool}
    (ran : (storeReport machineId values).run db = .ok ((report, newReportCreated), after)) :
    (report.reportId, report.machineId) ∈ after.submissions := by
  obtain ⟨same, _, found, ran⟩ := run_bind_eq_ok.mp ran
  apply mem_submissions
  cases same with
  | none =>
    obtain ⟨_, _, inserted, returned⟩ := run_bind_eq_ok.mp ran
    obtain ⟨isReport, rfl⟩ := run_pure_eq_ok.mp returned
    cases isReport
    obtain ⟨-, -, -, -, rfl⟩ := run_insertMeasurementReport_eq_ok.mp inserted
    exact mem_append_right _ mem_cons_self
  | some reportId =>
    obtain ⟨_, _, touched, returned⟩ := run_bind_eq_ok.mp ran
    obtain ⟨isReport, rfl⟩ := run_pure_eq_ok.mp returned
    cases isReport
    obtain ⟨stored, isStored, rfl, rfl⟩ := run_updateReportTstamp_eq_ok.mp touched
    have isReport : stored.reportId = reportId := by simpa using List.find?_some isStored
    refine mem_map.mpr ⟨stored, mem_of_find?_eq_some isStored, ?_⟩
    rw [if_pos isReport]

section Keeps

variable {related : Database → Database → Prop} (respected : Respected related)
include respected

theorem keeps_tick : tick.Keeps related := by
  have stable := respected.stable
  apply Keeps.bind stable (.read stable _)
  intro now
  exact .bind_pure stable (.write respected.tick) _

variable (name : Option String) (report : MeasurementReport)
    (profileId : MeasurementSystemProfileId)
  (machineId : MachineId) (values : List PcrRegisterValue) (pcrRegisters : Option String)

theorem keeps_removeFromApprovedMachines (approvalId : Nat) :
    (removeFromApprovedMachines approvalId).Keeps related := by
  have stable := respected.stable
  apply Keeps.bind stable (.require stable _ _)
  intro _
  apply Keeps.write
  intro db
  exact respected.approvals db _ _

theorem keeps_removeFromApprovedProfiles (approvalId : Nat) :
    (removeFromApprovedProfiles approvalId).Keeps related := by
  have stable := respected.stable
  apply Keeps.bind stable (.require stable _ _)
  intro _
  apply Keeps.write
  intro db
  exact respected.approvals db _ _

theorem keeps_storeReport : (storeReport machineId values).Keeps related := by
  have stable := respected.stable
  apply Keeps.bind stable (.readResult stable _)
  intro same
  cases same with
  | some reportId =>
    exact .bind_pure stable (respected.updateReport reportId) _
  | none =>
    exact .bind_pure stable (respected.insertReport machineId values) _

theorem keeps_storeJournal (newReportCreated : Bool) (data : JournalData) :
    (storeJournal report newReportCreated data).Keeps fun before after =>
      (report.reportId, report.machineId) ∈ before.submissions → related before after := by
  unfold storeJournal
  split
  next => exact respected.insertJournal _ _ _ _ _
  next => exact (respected.updateJournal _ _ _ _).assuming _

theorem keeps_insertIntoApprovedMachines (machineId : TrustedMachineId)
    (approvalType : MeasurementApprovedType) :
    (insertIntoApprovedMachines machineId approvalType pcrRegisters).Keeps related := by
  have stable := respected.stable
  apply Keeps.bind stable (.require stable _ _)
  intro _
  apply Keeps.bind stable (keeps_tick respected)
  intro now
  apply Keeps.write
  intro db
  exact respected.approvals db _ _

theorem keeps_insertIntoApprovedProfiles (approvalType : MeasurementApprovedType) :
    (insertIntoApprovedProfiles profileId approvalType pcrRegisters).Keeps related := by
  have stable := respected.stable
  apply Keeps.bind stable (.require stable _ _)
  intro _
  apply Keeps.bind stable (keeps_tick respected)
  intro now
  apply Keeps.write
  intro db
  exact respected.approvals db _ _

variable [Names]

theorem keeps_nameOrGenerated : (nameOrGenerated name).Keeps related := by
  have stable := respected.stable
  cases name with
  | some name => exact .pure stable name
  | none =>
    exact .bind_pure stable (keeps_tick respected) _

theorem keeps_newProfile (attrs : List (String × String)) :
    (newProfile name attrs).Keeps related := by
  have stable := respected.stable
  apply Keeps.bind stable (keeps_nameOrGenerated respected name)
  intro profileName
  apply Keeps.bind stable (.readResult stable _)
  intro existing
  cases existing with
  | none => exact respected.insertProfile profileName attrs
  | some existing => exact .fail _

theorem keeps_profileOfMachine : (profileOfMachine machineId).Keeps related := by
  have stable := respected.stable
  apply Keeps.bind stable (.readResult stable _)
  intro attrs
  apply Keeps.bind stable (.readResult stable _)
  intro profile
  cases profile with
  | none => exact keeps_newProfile respected none attrs
  | some profile => exact .pure stable profile

theorem keeps_updateJournal (bundle : MeasurementBundle) :
    (updateJournal bundle).Keeps related := by
  intro before value after ran
  obtain ⟨reports, _, found, ran⟩ := run_bind_eq_ok.mp ran
  obtain ⟨matched, rfl⟩ := run_readResult_eq_ok.mp found
  -- The reports are stored when they are read, and stay stored while the journal is written.
  have stable := respected.stable.assuming
    (fun db => ∀ report ∈ reports, (report.reportId, report.machineId) ∈ db.submissions) (by
      intro before after kept recorded report reportMem
      exact respected.submissions before after kept (recorded report reportMem))
  refine Keeps.forM stable ?_ _ _ _ ran ?_
  · intro report reportMem
    apply Keeps.bind stable ((keeps_profileOfMachine respected _).assuming _)
    intro profile
    split
    next =>
      apply Keeps.bind stable
      · intro before value after ran recorded
        exact respected.insertJournal _ _ _ _ _ _ _ _ ran (recorded report reportMem)
      · intro _
        exact .pure stable _
    next => exact .pure stable _
  · intro report reportMem
    exact mem_submissions (mem_of_matchLatestReports matched reportMem)

theorem keeps_newBundle (state : Option MeasurementBundleState) :
    (newBundle profileId name values state).Keeps related := by
  have stable := respected.stable
  apply Keeps.bind stable (.readResult stable _)
  intro exists_
  split
  next => exact .fail _
  next =>
    apply Keeps.bind stable (keeps_nameOrGenerated respected name)
    intro bundleName
    apply Keeps.bind stable (respected.insertBundle _ _ _ _)
    intro bundle
    exact .bind_pure stable (keeps_updateJournal respected bundle) _

theorem keeps_createBundleWithState (state : MeasurementBundleState) (pcrSet : Option (List Int)) :
    (createBundleWithState report state pcrSet).Keeps related := by
  have stable := respected.stable
  apply Keeps.bind stable (keeps_profileOfMachine respected _)
  intro profile
  apply Keeps.bind stable (.readResult stable _)
  intro values
  exact keeps_newBundle respected _ _ _ _

theorem keeps_approve {κ : Type} (approval : Approval κ) {remove : Nat → Db Unit}
    (removes : ∀ approvalId, (remove approvalId).Keeps related) :
    (approve approval remove report).Keeps related := by
  have stable := respected.stable
  apply Keeps.bind stable (.readResult stable _)
  intro pcrSet
  apply Keeps.bind stable (keeps_createBundleWithState respected _ _ _)
  intro _
  split
  next => exact removes _
  next => exact .pure stable _

theorem keeps_maybeAutoApproveMachine : (maybeAutoApproveMachine report).Keeps related := by
  have stable := respected.stable
  have approves (approval : Approval TrustedMachineId) :
      (do
        approve approval removeFromApprovedMachines report
        return true : Db Bool).Keeps related := by
    exact .bind_pure stable
      (keeps_approve respected report approval (keeps_removeFromApprovedMachines respected)) _
  apply Keeps.bind stable (.read stable _)
  intro ofMachine
  cases ofMachine with
  | some approval => exact approves approval
  | none =>
    apply Keeps.bind stable (.read stable _)
    intro ofAny
    cases ofAny with
    | some approval => exact approves approval
    | none => exact .pure stable false

theorem keeps_maybeAutoApproveProfile :
    (maybeAutoApproveProfile profileId report).Keeps related := by
  have stable := respected.stable
  apply Keeps.bind stable (.read stable _)
  intro ofProfile
  cases ofProfile with
  | some approval =>
    exact .bind_pure stable
      (keeps_approve respected report approval (keeps_removeFromApprovedProfiles respected)) _
  | none => exact .pure stable false

theorem keeps_journalData : (JournalData.newFromValues machineId values).Keeps related := by
  have stable := respected.stable
  apply Keeps.bind stable (keeps_profileOfMachine respected _)
  intro profile
  apply Keeps.bind stable (.readResult stable _)
  intro bundle
  cases bundle <;> exact .pure stable _

theorem keeps_autoApprove :
    (do
      if ← maybeAutoApproveMachine report then return report
      else
        let _ ← maybeAutoApproveProfile profileId report
        return report : Db MeasurementReport).Keeps related := by
  have stable := respected.stable
  apply Keeps.bind stable (keeps_maybeAutoApproveMachine respected report)
  intro approved
  split
  next => exact .pure stable report
  next =>
    exact .bind_pure stable (keeps_maybeAutoApproveProfile respected report _) _

theorem keeps_createMeasurementReport :
    (createMeasurementReport machineId values).Keeps related := by
  intro before value after ran
  obtain ⟨⟨report, newReportCreated⟩, middle, stored, ran⟩ := run_bind_eq_ok.mp ran
  have stable := respected.stable.assuming
    (fun db => (report.reportId, report.machineId) ∈ db.submissions) (by
      intro before after kept recorded
      exact respected.submissions before after kept recorded)
  apply respected.stable.trans (keeps_storeReport respected machineId values _ _ _ stored)
  refine Keeps.bind stable ((keeps_journalData respected _ _).assuming _) ?_ _ _ _ ran
    (mem_submissions_of_storeReport stored)
  intro journalData
  apply Keeps.bind stable (keeps_storeJournal respected _ _ _)
  intro journal
  apply Keeps.assuming
  split
  next => exact .fail _
  next profileId _ =>
    split
    next => exact keeps_autoApprove respected report profileId
    next => exact .pure respected.stable report

theorem keeps_bundleFromReport (reportId : MeasurementReportId) (state : MeasurementBundleState) :
    (bundleFromReport reportId pcrRegisters state).Keeps related := by
  have stable := respected.stable
  apply Keeps.bind stable (.readResult stable _)
  intro pcrSet
  apply Keeps.bind stable (.readResult stable _)
  intro report
  exact .bind_pure stable (keeps_createBundleWithState respected _ _ _) _

theorem keeps_request {request : Request}
    (other : ∀ bundleId state, request ≠ .updateBundle bundleId state) :
    request.txn.Keeps related := by
  have stable := respected.stable
  cases request with
  | discover machineId machine =>
    apply Keeps.write
    intro db
    exact respected.discover db _
  | createProfile name attrs =>
    exact .bind_pure stable (keeps_newProfile respected name attrs) _
  | createBundle profileId name values state =>
    exact .bind_pure stable (keeps_newBundle respected name profileId values _) _
  | updateBundle bundleId state => exact absurd rfl (other bundleId state)
  | createReport machineId values =>
    exact .bind_pure stable (keeps_createMeasurementReport respected machineId values) _
  | promoteReport | revokeReport => exact keeps_bundleFromReport respected _ _ _
  | addTrustedMachine machineId approvalType pcrRegisters =>
    exact keeps_insertIntoApprovedMachines respected _ _ _
  | addTrustedProfile profileId approvalType pcrRegisters =>
    exact keeps_insertIntoApprovedProfiles respected _ _ _
  | removeTrustedMachine approvalId => exact keeps_removeFromApprovedMachines respected _
  | removeTrustedProfile approvalId => exact keeps_removeFromApprovedProfiles respected _

end Keeps

end MeasuredBoot
