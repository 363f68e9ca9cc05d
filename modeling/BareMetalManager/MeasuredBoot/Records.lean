import BareMetalManager.Lib.Txn
import Mathlib.Data.List.Sort

/-!
# Measured boot records

The tables of `crates/api-db/src/measured_boot` with the statements that write them. A bundle
has the register values that machines of a profile should report; a report has those that a
machine did report; the journal has the verdicts. Statements check the constraints of the
schema. Row ids and timestamps come from one clock, which no two statements read alike.
-/

namespace MeasuredBoot

open Txn

abbrev MachineId := Nat
abbrev MeasurementSystemProfileId := Nat
abbrev MeasurementBundleId := Nat
abbrev MeasurementReportId := Nat

inductive MeasurementBundleState where
  | pending
  | active
  | obsolete
  | retired
  | revoked
  deriving DecidableEq, Repr

inductive MeasurementMachineState where
  | discovered
  | pendingBundle
  | measured
  | measuringFailed
  deriving DecidableEq, Repr

inductive MeasurementApprovedType where
  | oneshot
  | persist
  deriving DecidableEq, Repr

structure PcrRegisterValue where
  pcrRegister : Int
  shaAny : String
  deriving DecidableEq, Repr

/-! ## Rows -/

structure DmiData where
  sysVendor : String
  productName : String
  biosVersion : String

structure Topology where
  dmiData : Option DmiData

structure CandidateMachine where
  topology : Option Topology

structure MeasurementSystemProfile where
  profileId : MeasurementSystemProfileId
  name : String
  attrs : List (String × String)

/-- A row of `measurement_bundles` with its rows of `measurement_bundles_values`. -/
structure MeasurementBundle where
  bundleId : MeasurementBundleId
  profileId : MeasurementSystemProfileId
  name : String
  state : MeasurementBundleState
  values : List PcrRegisterValue

/-- A row of `measurement_reports` with its rows of `measurement_reports_values`. -/
structure MeasurementReport where
  reportId : MeasurementReportId
  machineId : MachineId
  ts : Nat
  values : List PcrRegisterValue
  deriving DecidableEq

structure MeasurementJournal where
  journalId : Nat
  machineId : MachineId
  reportId : MeasurementReportId
  profileId : Option MeasurementSystemProfileId
  bundleId : Option MeasurementBundleId
  state : MeasurementMachineState
  ts : Nat

/-- One machine, or any. -/
inductive TrustedMachineId where
  | machineId (id : MachineId)
  | any
  deriving DecidableEq

/-- An auto-approval of machines or profiles. -/
structure Approval (κ : Type) where
  approvalId : Nat
  approved : κ
  approvalType : MeasurementApprovedType
  pcrRegisters : Option String

structure Database where
  machines : MachineId → Option CandidateMachine
  profiles : List MeasurementSystemProfile
  bundles : List MeasurementBundle
  reports : List MeasurementReport
  journal : List MeasurementJournal
  approvedMachines : List (Approval TrustedMachineId)
  approvedProfiles : List (Approval MeasurementSystemProfileId)
  clock : Nat

def Database.empty : Database := ⟨fun _ => none, [], [], [], [], [], [], 0⟩

/-- The errors, without the ids in them. A query error has the name of its operation. -/
inductive DatabaseError where
  | alreadyFound (kind id : String)
  | notFound (kind : String)
  | missingArgument (name : String)
  | internal (message : String)
  | query (operation : String)
  deriving DecidableEq, Repr

abbrev Db (α : Type) := Txn Database DatabaseError α

/-! ## Register indexes -/

variable (text : List Char)

/-- A number without a sign, or with a plus sign. -/
def parseNumber : Option Nat :=
  let digits := match text with
    | '+' :: digits => digits
    | digits => digits
  if digits = [] ∨ ¬digits.all Char.isDigit then none
  else some (digits.foldl (fun number digit => 10 * number + (digit.toNat - '0'.toNat)) 0)

def i16Max : Nat := 32767

/-- `parse_range`. -/
def parseRange : Option (Nat × Nat) :=
  match (text.splitOn '-').mapM parseNumber with
  | some [first, last] =>
    if first ≤ i16Max ∧ last ≤ i16Max ∧ first ≤ last then some (first, last) else none
  | _ => none

def parseGroup : Option (List Int) :=
  if '-' ∈ text then
    (parseRange text).map fun (first, last) => (List.range' first (last + 1 - first)).map .ofNat
  else
    (parseNumber text).bind fun number => if number ≤ i16Max then some [(number : Int)] else none

/-- `parse_pcr_index_input`: groups and ranges, sorted without duplicates. -/
def parsePcrIndexInput (text : String) : Option (List Int) :=
  ((text.toList.splitOn ',').mapM parseGroup).map fun groups =>
    groups.flatten.dedup.insertionSort (· ≤ ·)

example : parsePcrIndexInput "4,2,4,2-3" = some [2, 3, 4] := by decide

/-- `pcr_register_values_to_map`: the values, with distinct registers. -/
def pcrRegisterValuesToMap (values : List PcrRegisterValue) :
    Except DatabaseError (List PcrRegisterValue) :=
  if (values.map (·.pcrRegister)).Nodup then .ok values
  else .error (.internal "detected pcr_register collision in input bundle values")

/-! ## Statements -/

/-- The value of the clock, which goes on. -/
def tick : Db Nat := do
  let now ← read (·.clock)
  write fun db => { db with clock := db.clock + 1 }
  return now

theorem run_tick_eq_ok {db after : Database} {now : Nat} :
    tick.run db = .ok (now, after) ↔
      db.clock = now ∧ { db with clock := db.clock + 1 } = after := by
  simp only [tick, run_bind_eq_ok, run_read_eq_ok, run_write_eq_ok, run_pure_eq_ok]
  constructor
  · rintro ⟨_, _, ⟨rfl, rfl⟩, _, _, rfl, rfl, rfl⟩
    exact ⟨rfl, rfl⟩
  · rintro ⟨rfl, rfl⟩
    exact ⟨_, _, ⟨rfl, rfl⟩, (), _, rfl, rfl, rfl⟩

/-- `insert_measurement_profile_record` and `insert_measurement_profile_attr_records`. -/
def insertMeasurementProfile (name : String) (attrs : List (String × String)) :
    Db MeasurementSystemProfile := do
  require (.alreadyFound "MeasurementSystemProfile" name) fun db =>
    db.profiles.all (·.name ≠ name)
  require (.query "insert_measurement_profile_attr_record") fun _ =>
    (attrs.map Prod.fst).Nodup
  let profile : MeasurementSystemProfile := ⟨← tick, name, attrs⟩
  write fun db => { db with profiles := db.profiles ++ [profile] }
  return profile

/-- `insert_measurement_bundle_record` and `insert_measurement_bundle_value_records`. -/
def insertMeasurementBundle (profileId : MeasurementSystemProfileId) (name : String)
    (state : Option MeasurementBundleState) (values : List PcrRegisterValue) :
    Db MeasurementBundle := do
  require (.alreadyFound "MeasurementBundle" name) fun db => db.bundles.all (·.name ≠ name)
  require (.query "MeasurementBundle.new db_err") fun db =>
    db.profiles.any (·.profileId = profileId)
  require (.query "insert_measurement_bundle_value_record") fun _ =>
    (values.map (·.pcrRegister)).Nodup
  let bundle : MeasurementBundle := ⟨← tick, profileId, name, state.getD .pending, values⟩
  write fun db => { db with bundles := db.bundles ++ [bundle] }
  return bundle

/-- `insert_measurement_report_record` and `insert_measurement_report_value_records`. -/
def insertMeasurementReport (machineId : MachineId) (values : List PcrRegisterValue) :
    Db MeasurementReport := do
  require (.query "insert_measurement_report_record") fun db => (db.machines machineId).isSome
  require (.query "match_latest_reports") fun _ => !values.isEmpty
  require (.query "insert_measurement_report_value_record") fun _ =>
    (values.map (·.pcrRegister)).Nodup
  let now ← tick
  let report : MeasurementReport := ⟨now, machineId, now, values⟩
  write fun db => { db with reports := db.reports ++ [report] }
  return report

/-- `update_report_tstamp`, and the values of the report. -/
def updateReportTstamp (reportId : MeasurementReportId) : Db MeasurementReport := do
  let now ← tick
  let report ← readResult fun db =>
    ((db.reports.find? (·.reportId = reportId)).elim (.error (.query "update_report_tstamp")) .ok)
  write fun db =>
    { db with
      reports := db.reports.map fun report =>
        if report.reportId = reportId then { report with ts := now } else report }
  return { report with ts := now }

variable (machineId : MachineId) (reportId : MeasurementReportId)
    (profileId : Option MeasurementSystemProfileId) (bundleId : Option MeasurementBundleId)
    (state : MeasurementMachineState)

/-- `insert_measurement_journal_record`. -/
def insertMeasurementJournal : Db MeasurementJournal := do
  require (.query "insert_measurement_journal_record") fun db =>
    db.reports.any (·.reportId = reportId) &&
      profileId.all (fun id => db.profiles.any (·.profileId = id)) &&
      bundleId.all (fun id => db.bundles.any (·.bundleId = id))
  let now ← tick
  let row : MeasurementJournal := ⟨now, machineId, reportId, profileId, bundleId, state, now⟩
  write fun db => { db with journal := db.journal ++ [row] }
  return row

/-- `update_measurement_journal_record`, which writes all rows of a report and returns the
first one. -/
def updateMeasurementJournal : Db MeasurementJournal := do
  let now ← tick
  write fun db =>
    { db with
      journal := db.journal.map fun row =>
        if row.reportId = reportId then { row with profileId, bundleId, state, ts := now }
        else row }
  readResult fun db =>
    (db.journal.find? (·.reportId = reportId)).elim
      (.error (.query "update_measurement_journal_record")) .ok

/-! ## Written rows -/

section Run

variable {db after : Database} {name : String}

theorem of_run_insertMeasurementProfile {attrs : List (String × String)}
    {profile : MeasurementSystemProfile}
    (ran : (insertMeasurementProfile name attrs).run db = .ok (profile, after)) :
    after = { db with clock := db.clock + 1, profiles := db.profiles ++ [profile] } := by
  simp only [insertMeasurementProfile, run_bind_eq_ok, run_require_eq_ok, run_tick_eq_ok,
    run_write_eq_ok, run_pure_eq_ok] at ran
  obtain ⟨_, _, ⟨-, rfl⟩, _, _, ⟨-, rfl⟩, _, _, ⟨rfl, rfl⟩, _, _, rfl, rfl, rfl⟩ := ran
  rfl

variable {values : List PcrRegisterValue}

theorem of_run_insertMeasurementBundle {profileId : MeasurementSystemProfileId}
    {state : Option MeasurementBundleState} {bundle : MeasurementBundle}
    (ran : (insertMeasurementBundle profileId name state values).run db = .ok (bundle, after)) :
    after = { db with clock := db.clock + 1, bundles := db.bundles ++ [bundle] } := by
  simp only [insertMeasurementBundle, run_bind_eq_ok, run_require_eq_ok, run_tick_eq_ok,
    run_write_eq_ok, run_pure_eq_ok] at ran
  obtain ⟨_, _, ⟨-, rfl⟩, _, _, ⟨-, rfl⟩, _, _, ⟨-, rfl⟩, _, _, ⟨rfl, rfl⟩, _, _, rfl, rfl, rfl⟩ :=
    ran
  rfl

variable {machineId} {report : MeasurementReport}

theorem run_insertMeasurementReport_eq_ok :
    (insertMeasurementReport machineId values).run db = .ok (report, after) ↔
      (db.machines machineId).isSome ∧ values ≠ [] ∧ (values.map (·.pcrRegister)).Nodup ∧
        report = ⟨db.clock, machineId, db.clock, values⟩ ∧
        after = { db with clock := db.clock + 1, reports := db.reports ++ [report] } := by
  simp only [insertMeasurementReport, run_bind_eq_ok, run_require_eq_ok, run_tick_eq_ok,
    run_write_eq_ok, run_pure_eq_ok]
  constructor
  · rintro ⟨_, _, ⟨known, rfl⟩, _, _, ⟨nonempty, rfl⟩, _, _, ⟨distinct, rfl⟩, _, _,
      ⟨rfl, rfl⟩, _, _,
      rfl, rfl, rfl⟩
    exact ⟨known, by simpa using nonempty, by simpa using distinct, rfl, rfl⟩
  · rintro ⟨known, nonempty, distinct, rfl, rfl⟩
    exact ⟨(), _, ⟨known, rfl⟩, (), _, ⟨by simpa using nonempty, rfl⟩, (), _,
      ⟨by simpa using distinct, rfl⟩, _, _, ⟨rfl, rfl⟩, (), _, rfl, rfl, rfl⟩

/-- The reports after a timestamp is updated. -/
def Database.touchReport (db : Database) (reportId : MeasurementReportId) : Database :=
  { db with
    clock := db.clock + 1
    reports := db.reports.map fun report =>
      if report.reportId = reportId then { report with ts := db.clock } else report }

theorem elim_eq_ok {ρ : Type} {found : Option ρ} {err : DatabaseError} {row : ρ} :
    found.elim (Except.error err) .ok = .ok row ↔ found = some row := by
  cases found <;> simp

variable {reportId}

theorem run_updateReportTstamp_eq_ok :
    (updateReportTstamp reportId).run db = .ok (report, after) ↔
      ∃ found, db.reports.find? (·.reportId = reportId) = some found ∧
        report = { found with ts := db.clock } ∧ after = db.touchReport reportId := by
  simp only [updateReportTstamp, run_bind_eq_ok, run_tick_eq_ok, run_readResult_eq_ok,
    run_write_eq_ok, run_pure_eq_ok, elim_eq_ok]
  constructor
  · rintro ⟨_, _, ⟨rfl, rfl⟩, found, _, ⟨search, rfl⟩, _, _, rfl, rfl, rfl⟩
    exact ⟨found, search, rfl, rfl⟩
  · rintro ⟨found, search, rfl, rfl⟩
    exact ⟨_, _, ⟨rfl, rfl⟩, found, _, ⟨search, rfl⟩, (), _, rfl, rfl, rfl⟩

variable {profileId bundleId state} {row : MeasurementJournal}

theorem run_insertMeasurementJournal_eq_ok :
    (insertMeasurementJournal machineId reportId profileId bundleId state).run db =
        .ok (row, after) ↔
      (db.reports.any (·.reportId = reportId) &&
        profileId.all (fun id => db.profiles.any (·.profileId = id)) &&
        bundleId.all (fun id => db.bundles.any (·.bundleId = id))) ∧
      row = ⟨db.clock, machineId, reportId, profileId, bundleId, state, db.clock⟩ ∧
      after = { db with clock := db.clock + 1, journal := db.journal ++ [row] } := by
  simp only [insertMeasurementJournal, run_bind_eq_ok, run_require_eq_ok, run_tick_eq_ok,
    run_write_eq_ok, run_pure_eq_ok]
  constructor
  · rintro ⟨_, _, ⟨known, rfl⟩, _, _, ⟨rfl, rfl⟩, _, _, rfl, rfl, rfl⟩
    exact ⟨known, rfl, rfl⟩
  · rintro ⟨known, rfl, rfl⟩
    exact ⟨(), _, ⟨known, rfl⟩, _, _, ⟨rfl, rfl⟩, (), _, rfl, rfl, rfl⟩

/-- The journal after the rows of a report are updated. -/
def Database.rewriteJournal (db : Database) (reportId : MeasurementReportId)
    (profileId : Option MeasurementSystemProfileId) (bundleId : Option MeasurementBundleId)
    (state : MeasurementMachineState) : Database :=
  { db with
    clock := db.clock + 1
    journal := db.journal.map fun row =>
      if row.reportId = reportId then { row with profileId, bundleId, state, ts := db.clock }
      else row }

theorem run_updateMeasurementJournal_eq_ok :
    (updateMeasurementJournal reportId profileId bundleId state).run db = .ok (row, after) ↔
      after = db.rewriteJournal reportId profileId bundleId state ∧
        after.journal.find? (·.reportId = reportId) = some row := by
  simp only [updateMeasurementJournal, run_bind_eq_ok, run_tick_eq_ok, run_readResult_eq_ok,
    run_write_eq_ok, elim_eq_ok]
  constructor
  · rintro ⟨_, _, ⟨rfl, rfl⟩, _, _, rfl, search, rfl⟩
    exact ⟨rfl, search⟩
  · rintro ⟨rfl, search⟩
    exact ⟨_, _, ⟨rfl, rfl⟩, (), _, rfl, search, rfl⟩

end Run

end MeasuredBoot
