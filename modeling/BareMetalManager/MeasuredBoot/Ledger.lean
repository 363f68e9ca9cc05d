import BareMetalManager.MeasuredBoot.Revocation

/-!
# Reports and the journal

What holds of the stored reports and of the journal after any requests: reports have distinct
ids and registers, and an entry of the journal is for a stored report of its machine.
-/

namespace MeasuredBoot

open List Txn.Keeps Database Nat

/-- What holds of the reports and the journal. -/
structure Ledger (db : Database) : Prop where
  reportIds : (db.reports.map (·.reportId)).Nodup
  reportsPast : ∀ report ∈ db.reports, report.reportId < db.clock
  registers : ∀ report ∈ db.reports,
    report.values ≠ [] ∧ (report.values.map (·.pcrRegister)).Nodup
  journalPast : ∀ row ∈ db.journal, row.ts < db.clock
  journalReports : ∀ row ∈ db.journal, (row.reportId, row.machineId) ∈ db.submissions

/-- The reports stay, and the ledger stays in order. -/
structure LedgerKept (before after : Database) : Prop where
  submissions : before.submissions ⊆ after.submissions
  ledger : Ledger before → Ledger after

theorem ledger_empty : Ledger empty where
  reportIds := nodup_nil
  reportsPast := nofun
  registers := nofun
  journalPast := nofun
  journalReports := nofun

theorem ledgerKept_of_same {before after : Database} (reports : after.reports = before.reports)
    (journal : after.journal = before.journal) (clock : before.clock ≤ after.clock) :
    LedgerKept before after := by
  have submissions : after.submissions = before.submissions := by
    rw [submissions, reports, submissions]
  refine ⟨by rw [submissions]; exact .refl _, fun ledger => ?_⟩
  constructor
  · rw [reports]
    exact ledger.reportIds
  · rw [reports]
    intro report reportMem
    exact (ledger.reportsPast report reportMem).trans_le clock
  · rw [reports]
    exact ledger.registers
  · rw [journal]
    intro row rowMem
    exact (ledger.journalPast row rowMem).trans_le clock
  · rw [journal, submissions]
    exact ledger.journalReports

variable (db : Database)

theorem ledgerKept_insertReport {machineId : MachineId} {values : List PcrRegisterValue}
    (nonempty : values ≠ []) (distinct : (values.map (·.pcrRegister)).Nodup) :
    LedgerKept db { db with
      clock := db.clock + 1
      reports := db.reports ++ [⟨db.clock, machineId, db.clock, values⟩] } := by
  refine ⟨submissions_append, fun ledger => ?_⟩
  constructor
  · rw [map_append]
    apply List.Nodup.append ledger.reportIds (nodup_singleton _)
    apply disjoint_singleton.mpr
    intro taken
    obtain ⟨report, reportMem, isClock⟩ := mem_map.mp taken
    exact (ledger.reportsPast report reportMem).ne isClock
  · rw [forall_mem_append, forall_mem_singleton]
    exact ⟨fun report reportMem => lt_succ_of_lt (ledger.reportsPast report reportMem),
      lt_succ_self _⟩
  · rw [forall_mem_append, forall_mem_singleton]
    exact ⟨ledger.registers, nonempty, distinct⟩
  · intro row rowMem
    exact lt_succ_of_lt (ledger.journalPast row rowMem)
  · intro row rowMem
    exact submissions_append (ledger.journalReports row rowMem)

variable (reportId : MeasurementReportId)

theorem ledgerKept_touchReport : LedgerKept db (db.touchReport reportId) := by
  have submissions := submissions_touchReport db reportId
  refine ⟨by rw [submissions]; exact .refl _, fun ledger => ?_⟩
  have touched : ∀ report ∈ (db.touchReport reportId).reports, ∃ old ∈ db.reports,
      report.reportId = old.reportId ∧ report.values = old.values := by
    refine forall_mem_map.mpr fun old oldMem => ?_
    refine ⟨old, oldMem, ?_⟩
    split <;> exact ⟨rfl, rfl⟩
  have ids (other : Database) :
      other.reports.map (·.reportId) = other.submissions.map Prod.fst := by
    rw [Database.submissions, map_map]
    rfl
  constructor
  · rw [ids, submissions, ← ids]
    exact ledger.reportIds
  · intro report reportMem
    obtain ⟨old, oldMem, sameId, -⟩ := touched report reportMem
    rw [sameId]
    exact lt_succ_of_lt (ledger.reportsPast old oldMem)
  · intro report reportMem
    obtain ⟨old, oldMem, -, sameValues⟩ := touched report reportMem
    rw [sameValues]
    exact ledger.registers old oldMem
  · intro row rowMem
    exact lt_succ_of_lt (ledger.journalPast row rowMem)
  · rw [submissions]
    exact ledger.journalReports

theorem ledgerKept_insertJournal {row : MeasurementJournal} (now : row.ts = db.clock)
    (stored : (row.reportId, row.machineId) ∈ db.submissions) :
    LedgerKept db { db with clock := db.clock + 1, journal := db.journal ++ [row] } := by
  refine ⟨.refl _, fun ledger => ?_⟩
  constructor
  · exact ledger.reportIds
  · intro report reportMem
    exact lt_succ_of_lt (ledger.reportsPast report reportMem)
  · exact ledger.registers
  · rw [forall_mem_append, forall_mem_singleton, now]
    exact ⟨fun row rowMem => lt_succ_of_lt (ledger.journalPast row rowMem), lt_succ_self _⟩
  · rw [forall_mem_append, forall_mem_singleton]
    exact ⟨ledger.journalReports, stored⟩

theorem ledgerKept_rewriteJournal (profileId : Option MeasurementSystemProfileId)
    (bundleId : Option MeasurementBundleId) (state : MeasurementMachineState) :
    LedgerKept db (db.rewriteJournal reportId profileId bundleId state) := by
  refine ⟨.refl _, fun ledger => ?_⟩
  constructor
  · exact ledger.reportIds
  · intro report reportMem
    exact lt_succ_of_lt (ledger.reportsPast report reportMem)
  · exact ledger.registers
  · refine forall_mem_map.mpr fun old oldMem => ?_
    split
    next => exact lt_succ_self _
    next => exact lt_succ_of_lt (ledger.journalPast old oldMem)
  · refine forall_mem_map.mpr fun old oldMem => ?_
    split <;> exact ledger.journalReports old oldMem

theorem stable_ledgerKept : Txn.Stable LedgerKept where
  refl _ := ledgerKept_of_same rfl rfl le_rfl
  trans first second :=
    ⟨List.Subset.trans first.submissions second.submissions,
      fun ledger => second.ledger (first.ledger ledger)⟩

theorem respected_ledgerKept : Respected LedgerKept where
  stable := stable_ledgerKept
  submissions _ _ kept := kept.submissions
  discover _ _ := ledgerKept_of_same rfl rfl le_rfl
  tick _ := ledgerKept_of_same rfl rfl (le_succ _)
  insertProfile name attrs db profile after ran := by
    rw [of_run_insertMeasurementProfile ran]
    exact ledgerKept_of_same rfl rfl (le_succ _)
  insertBundle profileId name state values db bundle after ran := by
    rw [of_run_insertMeasurementBundle ran]
    exact ledgerKept_of_same rfl rfl (le_succ _)
  insertReport machineId values db report after ran := by
    obtain ⟨-, nonempty, distinct, rfl, rfl⟩ := run_insertMeasurementReport_eq_ok.mp ran
    exact ledgerKept_insertReport db nonempty distinct
  updateReport reportId db report after ran := by
    obtain ⟨found, -, -, rfl⟩ := run_updateReportTstamp_eq_ok.mp ran
    exact ledgerKept_touchReport db reportId
  insertJournal machineId reportId profileId bundleId state db row after ran stored := by
    obtain ⟨-, rfl, rfl⟩ := run_insertMeasurementJournal_eq_ok.mp ran
    exact ledgerKept_insertJournal db rfl stored
  updateJournal reportId profileId bundleId state db row after ran := by
    rw [(run_updateMeasurementJournal_eq_ok.mp ran).1]
    exact ledgerKept_rewriteJournal db reportId profileId bundleId state
  approvals _ _ _ := ledgerKept_of_same rfl rfl le_rfl

section Requests

variable [Names]

theorem keeps_updateBundle_ledger (bundleId : MeasurementBundleId)
    (state : MeasurementBundleState) :
    (Request.updateBundle bundleId state).txn.Keeps LedgerKept := by
  have stable := stable_ledgerKept
  refine bind stable (bind stable ?_ ?_) ?_
  · intro before bundle after ran
    rw [of_run_setStateForBundleId ran]
    exact ledgerKept_of_same rfl rfl le_rfl
  · intro bundle
    apply bind stable (keeps_updateJournal respected_ledgerKept bundle)
    intro _
    exact pure stable bundle
  · intro _
    exact pure stable _

theorem ledger_of_run {requests : List Request} {db : Database}
    (ran : service.run requests .empty = some db) : Ledger db := by
  refine Machine.run_invariant Ledger ?_ ledger_empty ran
  intro request before after ledger served
  cases served
  have keeps : request.txn.Keeps LedgerKept := by
    cases request with
    | updateBundle bundleId state => exact keeps_updateBundle_ledger bundleId state
    | _ => exact keeps_request respected_ledgerKept nofun
  exact (commit stable_ledgerKept keeps before).ledger ledger

end Requests

end MeasuredBoot
