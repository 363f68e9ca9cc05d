import BareMetalManager.MeasuredBoot.Ledger
import BareMetalManager.Lib.Table

/-!
# Reports with the values of a revoked bundle

A report is matched against the active and the obsolete bundles of the machine's profile, so a
revoked bundle with exactly its values is not seen, neither by the match nor by the duplicate
check of an auto-approval. Without another bundle and without an approval the machine waits for
a bundle.
-/

namespace MeasuredBoot

open List Txn Database

def matchedProfile (machineId : MachineId) (db : Database) : Option MeasurementSystemProfile :=
  match discoveryAttributes machineId db with
  | .error _ => none
  | .ok attrs =>
    match matchProfile attrs db with
    | .error _ => none
    | .ok profile => profile

variable (machineId : MachineId) (values : List PcrRegisterValue) (db : Database)

/-- A machine submits its latest report again, up to order, and a revoked bundle of its profile
has exactly the values of the report. -/
def Resubmits : Prop :=
  ∃ report ∈ latest (·.ts) (db.reports.filter (·.machineId = machineId)),
    values.Perm report.values ∧
    ∃ profile ∈ matchedProfile machineId db, ∃ bundle ∈ db.bundles,
      bundle.profileId = profile.profileId ∧ bundle.state = .revoked ∧
        bundle.values.Perm report.values

/-- No bundle in use has its values among those of the machine, and no auto-approval is for the
machine, for any machine or for its profile. -/
structure Unvouched : Prop where
  bundles : ∀ profile ∈ matchedProfile machineId db,
    ∀ bundle ∈ getActiveBundles (db.bundles.filter (·.profileId = profile.profileId)),
      ¬bundle.values ⊆ values
  machine : getApprovalForMachineId (.machineId machineId) db = none
  anyMachine : getApprovalForMachineId .any db = none
  profile : ∀ profile ∈ matchedProfile machineId db,
    getApprovalForProfileId profile.profileId db = none

/-! ## The match -/

variable {values db machineId}

theorem mem_of_mostSpecific {ρ : Type} {size : ρ → Nat} {conflict : DatabaseError}
    {matching : List ρ} {found : ρ} (specific : mostSpecific size conflict matching =
      .ok (some found)) :
    found ∈ matching := by
  rw [← mem_insertionSort fun left right => size right ≤ size left]
  unfold mostSpecific at specific
  split at specific
  next => cases specific
  next only sorted =>
    cases specific
    rw [sorted]
    exact mem_cons_self
  next first second rest sorted =>
    split at specific
    next => cases specific
    next =>
      cases specific
      rw [sorted]
      exact mem_cons_self

variable {profileId : MeasurementSystemProfileId} {profile : MeasurementSystemProfile}

theorem of_mem_matchedProfile (has : profile ∈ matchedProfile machineId db) :
    ∃ attrs, discoveryAttributes machineId db = .ok attrs ∧
      matchProfile attrs db = .ok (some profile) ∧ profile ∈ db.profiles := by
  unfold matchedProfile at has
  split at has
  next => cases has
  next attrs discovered =>
    split at has
    next => cases has
    next profile matched =>
      cases has
      exact ⟨attrs, discovered, matched, mem_of_mem_filter (mem_of_mostSpecific matched)⟩

section Distinct

variable (distinct : (values.map (·.pcrRegister)).Nodup)
include distinct

theorem intersects_of_distinct (bundle : MeasurementBundle) :
    intersects bundle values = .ok (bundle.values.all (· ∈ values)) := by
  have found (record : PcrRegisterValue) :
      (values.find? (·.pcrRegister = record.pcrRegister)).any (·.shaAny = record.shaAny) =
        decide (record ∈ values) := by
    let table : Table PcrRegisterValue.pcrRegister := ⟨values, distinct⟩
    rw [Bool.eq_iff_iff, Option.any_eq_true, decide_eq_true_eq]
    constructor
    · rintro ⟨other, isFound, sameSha⟩
      have sameRegister := table.key_of_find? isFound
      have : other = record := by
        cases other
        cases record
        simp only [decide_eq_true_eq] at sameSha sameRegister
        rw [sameSha, sameRegister]
      rw [← this]
      exact mem_of_find?_eq_some isFound
    · intro recordMem
      exact ⟨record, table.find?_eq_some_iff.mpr ⟨recordMem, rfl⟩, decide_eq_true rfl⟩
  rw [intersects, pcrRegisterValuesToMap, if_pos distinct]
  exact congrArg (fun test => Except.ok (bundle.values.all test)) (funext found)

theorem getMatchingBundles_eq_nil {bundles : List MeasurementBundle}
    (unmatched : ∀ bundle ∈ getActiveBundles bundles, ¬bundle.values ⊆ values) :
    getMatchingBundles bundles values = .ok [] := by
  unfold getMatchingBundles
  generalize getActiveBundles bundles = active at unmatched ⊢
  induction active with
  | nil => rfl
  | cons bundle bundles ih =>
    have outside : bundle.values.all (· ∈ values) = false := by
      rw [all_eq_false]
      have notContained := unmatched bundle mem_cons_self
      rw [subset_def] at notContained
      push Not at notContained
      obtain ⟨record, recordMem, missing⟩ := notContained
      exact ⟨record, recordMem, by simpa using missing⟩
    rw [foldlM_cons, intersects_of_distinct distinct bundle, outside]
    exact ih fun other otherMem => unmatched other (mem_cons_of_mem _ otherMem)

theorem matchFromValues_eq_none
    (unmatched : ∀ bundle ∈ getActiveBundles (db.bundles.filter (·.profileId = profileId)),
      ¬bundle.values ⊆ values) :
    matchFromValues profileId values db = .ok none := by
  rw [matchFromValues, getMatchingBundles_eq_nil distinct unmatched]
  rfl

theorem run_newFromValues [Names] (has : profile ∈ matchedProfile machineId db)
    (unmatched : ∀ bundle ∈ getActiveBundles (db.bundles.filter (·.profileId = profile.profileId)),
      ¬bundle.values ⊆ values) :
    (JournalData.newFromValues machineId values).run db =
      .ok (⟨.pendingBundle, none, some profile.profileId⟩, db) := by
  obtain ⟨attrs, discovered, matched, -⟩ := of_mem_matchedProfile has
  have found : (profileOfMachine machineId).run db = .ok (profile, db) := by
    refine (run_bind_of_ok (run_readResult_eq_ok.mpr ⟨discovered, rfl⟩) _).trans ?_
    exact run_bind_of_ok (run_readResult_eq_ok.mpr ⟨matched, rfl⟩) _
  refine (run_bind_of_ok found _).trans ?_
  have none := matchFromValues_eq_none distinct unmatched
  exact run_bind_of_ok (run_readResult_eq_ok.mpr ⟨none, rfl⟩) _

end Distinct

/-! ## The report -/

/-- What the match and the approvals read. -/
structure SameSite (before after : Database) : Prop where
  machines : after.machines = before.machines
  profiles : after.profiles = before.profiles
  bundles : after.bundles = before.bundles
  approvedMachines : after.approvedMachines = before.approvedMachines
  approvedProfiles : after.approvedProfiles = before.approvedProfiles

theorem matchedProfile_of_sameSite {before after : Database} (same : SameSite before after)
    (machineId : MachineId) : matchedProfile machineId after = matchedProfile machineId before := by
  unfold matchedProfile discoveryAttributes matchProfile
  rw [same.machines, same.profiles]

variable {row : MeasurementJournal}

/-- The report of the latest journal entry of a machine is one of the machine. -/
theorem find_of_ledger (ledger : Ledger db) (rowMem : row ∈ db.journal) :
    ∃ report, db.reports.find? (·.reportId = row.reportId) = some report ∧
      report.machineId = row.machineId := by
  obtain ⟨report, reportMem, same⟩ := mem_map.mp (ledger.journalReports row rowMem)
  obtain ⟨sameId, sameMachine⟩ := Prod.mk.inj same
  let table : Table MeasurementReport.reportId := ⟨db.reports, ledger.reportIds⟩
  exact ⟨report, table.find?_eq_some_iff.mpr ⟨reportMem, sameId⟩, sameMachine⟩

theorem mem_of_getLatestJournalForId (isLatest : getLatestJournalForId machineId db = some row) :
    row ∈ db.journal ∧ row.machineId = machineId := by
  have rowMem := argmax_mem isLatest
  simpa using mem_filter.mp rowMem

/-- The two outcomes of the comparison with the report of the latest journal entry. -/
theorem sameAsPreviousOne_cases (ledger : Ledger db) (machineId : MachineId)
    (values : List PcrRegisterValue) :
    sameAsPreviousOne machineId values db = .ok none ∨
      ∃ row ∈ db.journal, row.machineId = machineId ∧ ∃ report,
        db.reports.find? (·.reportId = row.reportId) = some report ∧
        report.machineId = machineId ∧ values.Perm report.values ∧
        sameAsPreviousOne machineId values db = .ok (some row.reportId) := by
  unfold sameAsPreviousOne
  cases isLatest : getLatestJournalForId machineId db with
  | none => exact .inl rfl
  | some row =>
    obtain ⟨rowMem, ofMachine⟩ := mem_of_getLatestJournalForId isLatest
    obtain ⟨report, found, sameMachine⟩ := find_of_ledger ledger rowMem
    simp only [found]
    split
    next sameValues =>
      refine .inr ⟨row, rowMem, ofMachine, report, found, sameMachine.trans ofMachine, ?_, rfl⟩
      calc
        values.Perm _ := (perm_insertionSort _ values).symm
        List.Perm _ report.values := by
          rw [sameValues]
          exact perm_insertionSort _ report.values
    next => exact .inl rfl

theorem run_storeReport (ledger : Ledger db) (known : (db.machines machineId).isSome)
    (nonempty : values ≠ []) (distinct : (values.map (·.pcrRegister)).Nodup) :
    ∃ report newReportCreated middle,
      (storeReport machineId values).run db = .ok ((report, newReportCreated), middle) ∧
      SameSite db middle ∧ report.machineId = machineId ∧ values.Perm report.values ∧
      (newReportCreated = false →
        ∃ row ∈ middle.journal, row.reportId = report.reportId ∧ row.machineId = machineId) := by
  rcases sameAsPreviousOne_cases ledger machineId values with
    other | ⟨row, rowMem, ofMachine, report, found, sameMachine, sameValues, same⟩
  · let report : MeasurementReport := ⟨db.clock, machineId, db.clock, values⟩
    refine ⟨report, true, { db with clock := db.clock + 1, reports := db.reports ++ [report] }, ?_,
      ⟨rfl, rfl, rfl, rfl, rfl⟩, rfl, .refl _, nofun⟩
    refine (run_bind_of_ok (run_readResult_eq_ok.mpr ⟨other, rfl⟩) _).trans ?_
    exact run_bind_of_ok
      (run_insertMeasurementReport_eq_ok.mpr ⟨known, nonempty, distinct, rfl, rfl⟩) _
  · have sameId : report.reportId = row.reportId := by simpa using List.find?_some found
    refine ⟨{ report with ts := db.clock }, false, db.touchReport row.reportId, ?_,
      ⟨rfl, rfl, rfl, rfl, rfl⟩, sameMachine, sameValues,
      fun _ => ⟨row, rowMem, sameId.symm, ofMachine⟩⟩
    refine (run_bind_of_ok (run_readResult_eq_ok.mpr ⟨same, rfl⟩) _).trans ?_
    exact run_bind_of_ok (run_updateReportTstamp_eq_ok.mpr ⟨report, found, rfl, rfl⟩) _

/-! ## The journal -/

/-- The state of a machine is that of the rows that are written last. -/
theorem getMeasurementMachineState_of_written {now : Nat}
    {state : MeasurementMachineState} (past : ∀ row ∈ db.journal, row.ts ≤ now)
    (written : ∃ row ∈ db.journal, row.machineId = machineId ∧ row.ts = now)
    (states : ∀ row ∈ db.journal, row.ts = now → row.state = state) :
    getMeasurementMachineState machineId db = state := by
  obtain ⟨row, rowMem, ofMachine, isNow⟩ := written
  have candidate : row ∈ db.journal.filter (·.machineId = machineId) :=
    mem_filter.mpr ⟨rowMem, decide_eq_true ofMachine⟩
  rw [getMeasurementMachineState]
  cases isLatest : getLatestJournalForId machineId db with
  | none =>
    rw [argmax_eq_none.mp isLatest] at candidate
    cases candidate
  | some last =>
    obtain ⟨lastMem, -⟩ := mem_of_getLatestJournalForId isLatest
    apply states last lastMem
    apply Nat.le_antisymm (past last lastMem)
    rw [← isNow]
    exact le_of_mem_argmax candidate isLatest

/-- A journal entry without a bundle is stored, and the machine waits for one. -/
def StoresPending (db : Database) (report : MeasurementReport) (newReportCreated : Bool)
    (profileId : MeasurementSystemProfileId) : Prop :=
  ∃ row after, (storeJournal report newReportCreated
    ⟨.pendingBundle, none, some profileId⟩).run db =
      .ok (row, after) ∧
    row.profileId = some profileId ∧ row.bundleId = none ∧ SameSite db after ∧
    getMeasurementMachineState report.machineId after = .pendingBundle

section Journal

variable (ledger : Ledger db) {report : MeasurementReport}
include ledger

theorem run_storeJournal_new (stored : (report.reportId, report.machineId) ∈ db.submissions)
    (known : db.profiles.any (·.profileId = profileId)) :
    StoresPending db report true profileId := by
  let row : MeasurementJournal :=
    ⟨db.clock, report.machineId, report.reportId, some profileId, none, .pendingBundle, db.clock⟩
  let after : Database := { db with clock := db.clock + 1, journal := db.journal ++ [row] }
  have ran : (storeJournal report true ⟨.pendingBundle, none, some profileId⟩).run db =
      .ok (row, after) := by
    apply run_insertMeasurementJournal_eq_ok.mpr
    refine ⟨?_, rfl, rfl⟩
    obtain ⟨other, otherMem, same⟩ := mem_map.mp stored
    have isStored : db.reports.any (·.reportId = report.reportId) :=
      any_eq_true.mpr ⟨other, otherMem, decide_eq_true (Prod.mk.inj same).1⟩
    rw [isStored, Option.all_some, known]
    rfl
  have past : ∀ row ∈ after.journal, row.ts ≤ db.clock := by
    rw [forall_mem_append, forall_mem_singleton]
    exact ⟨fun row rowMem => (ledger.journalPast row rowMem).le, le_rfl⟩
  refine ⟨row, after, ran, rfl, rfl, ⟨rfl, rfl, rfl, rfl, rfl⟩,
    getMeasurementMachineState_of_written past ?_ ?_⟩
  · exact ⟨row, mem_append_right _ mem_cons_self, rfl, rfl⟩
  · rw [forall_mem_append, forall_mem_singleton]
    refine ⟨fun row rowMem isNow => ?_, fun _ => rfl⟩
    exact absurd isNow (ledger.journalPast row rowMem).ne

theorem run_storeJournal_again {old : MeasurementJournal} (oldMem : old ∈ db.journal)
    (sameReport : old.reportId = report.reportId) (sameMachine : old.machineId = report.machineId) :
    StoresPending db report false profileId := by
  let after := db.rewriteJournal report.reportId (some profileId) none .pendingBundle
  let new : MeasurementJournal :=
    { old with
      profileId := some profileId, bundleId := none, state := .pendingBundle, ts := db.clock }
  have newMem : new ∈ after.journal := mem_map.mpr ⟨old, oldMem, if_pos sameReport⟩
  have isRewritten : ∀ row ∈ after.journal,
      row.reportId = report.reportId ∧ row.profileId = some profileId ∧ row.bundleId = none ∧
        row.state = .pendingBundle ∧ row.ts = db.clock ∨
      row.reportId ≠ report.reportId ∧ row.ts < db.clock := by
    refine forall_mem_map.mpr fun previous previousMem => ?_
    split
    next isReport => exact .inl ⟨isReport, rfl, rfl, rfl, rfl⟩
    next other => exact .inr ⟨other, ledger.journalPast previous previousMem⟩
  have past : ∀ row ∈ after.journal, row.ts ≤ db.clock := by
    intro row rowMem
    rcases isRewritten row rowMem with ⟨-, -, -, -, isNow⟩ | ⟨-, before⟩
    · exact isNow.le
    · exact before.le
  cases found : after.journal.find? (·.reportId = report.reportId) with
  | none => exact absurd (decide_eq_true sameReport) (List.find?_eq_none.mp found new newMem)
  | some row =>
    have isReport : row.reportId = report.reportId := by simpa using List.find?_some found
    have rowMem := mem_of_find?_eq_some found
    rcases isRewritten row rowMem with ⟨-, isProfile, noBundle, -⟩ | ⟨other, -⟩
    · refine ⟨row, after, run_updateMeasurementJournal_eq_ok.mpr ⟨rfl, found⟩, isProfile, noBundle,
        ⟨rfl, rfl, rfl, rfl, rfl⟩, getMeasurementMachineState_of_written past ?_ ?_⟩
      · exact ⟨new, newMem, sameMachine, rfl⟩
      · intro written writtenMem isNow
        rcases isRewritten written writtenMem with ⟨-, -, -, pending, -⟩ | ⟨-, before⟩
        · exact pending
        · exact absurd isNow before.ne
    · exact absurd isReport other

end Journal

/-! ## The submission -/

section Submission

variable [Names]

omit [Names] in
theorem isSome_of_discoveryAttributes {attrs : List (String × String)}
    (discovered : discoveryAttributes machineId db = .ok attrs) :
    (db.machines machineId).isSome := by
  unfold discoveryAttributes at discovered
  cases isMachine : db.machines machineId with
  | none =>
    rw [isMachine] at discovered
    cases discovered
  | some machine => rfl

variable {report : MeasurementReport}

theorem run_maybeAutoApproveMachine
    (noMachine : getApprovalForMachineId (.machineId report.machineId) db = none)
    (noAny : getApprovalForMachineId .any db = none) :
    (maybeAutoApproveMachine report).run db = .ok (false, db) := by
  refine (run_bind_of_ok (run_read_eq_ok.mpr ⟨noMachine, rfl⟩) _).trans ?_
  exact run_bind_of_ok (run_read_eq_ok.mpr ⟨noAny, rfl⟩) _

theorem run_maybeAutoApproveProfile (noProfile : getApprovalForProfileId profileId db = none) :
    (maybeAutoApproveProfile profileId report).run db = .ok (false, db) :=
  run_bind_of_ok (run_read_eq_ok.mpr ⟨noProfile, rfl⟩) _

/-- A submission that nothing vouches for leaves the machine waiting for a bundle. -/
theorem run_createMeasurementReport (ledger : Ledger db)
    (has : profile ∈ matchedProfile machineId db) (nonempty : values ≠ [])
    (distinct : (values.map (·.pcrRegister)).Nodup) (unvouched : Unvouched machineId values db) :
    ∃ report after, (createMeasurementReport machineId values).run db = .ok (report, after) ∧
      getMeasurementMachineState machineId after = .pendingBundle := by
  obtain ⟨attrs, discovered, -, profileMem⟩ := of_mem_matchedProfile has
  have known := isSome_of_discoveryAttributes discovered
  obtain ⟨report, newReportCreated, middle, stored, same, rfl, sameValues, journaled⟩ :=
    run_storeReport ledger known nonempty distinct
  have middleLedger : Ledger middle :=
    (keeps_storeReport respected_ledgerKept _ values _ _ _ stored).ledger ledger
  have submitted := mem_submissions_of_storeReport stored
  have matched : (JournalData.newFromValues report.machineId report.values).run middle =
      .ok (⟨.pendingBundle, none, some profile.profileId⟩, middle) := by
    apply run_newFromValues
    · exact (sameValues.map _).nodup_iff.mp distinct
    · rwa [matchedProfile_of_sameSite same]
    · rw [same.bundles]
      intro bundle bundleMem contained
      apply unvouched.bundles profile has bundle bundleMem
      exact List.Subset.trans contained sameValues.symm.subset
  have profileKnown : middle.profiles.any (·.profileId = profile.profileId) := by
    rw [same.profiles]
    exact any_eq_true.mpr ⟨profile, profileMem, decide_eq_true rfl⟩
  obtain ⟨row, after, journalStored, isProfile, noBundle, sameAfter, pending⟩ :
      StoresPending middle report newReportCreated profile.profileId := by
    cases newReportCreated with
    | true => exact run_storeJournal_new middleLedger submitted profileKnown
    | false =>
      obtain ⟨old, oldMem, sameReport, sameMachine⟩ := journaled rfl
      exact run_storeJournal_again middleLedger oldMem sameReport sameMachine
  have noMachine : (maybeAutoApproveMachine report).run after = .ok (false, after) := by
    apply run_maybeAutoApproveMachine
    · rw [getApprovalForMachineId, sameAfter.approvedMachines, same.approvedMachines]
      exact unvouched.machine
    · rw [getApprovalForMachineId, sameAfter.approvedMachines, same.approvedMachines]
      exact unvouched.anyMachine
  have noProfile : (maybeAutoApproveProfile profile.profileId report).run after =
      .ok (false, after) := by
    apply run_maybeAutoApproveProfile
    rw [getApprovalForProfileId, sameAfter.approvedProfiles, same.approvedProfiles]
    exact unvouched.profile profile has
  refine ⟨report, after, ?_, pending⟩
  refine (run_bind_of_ok stored _).trans ?_
  refine (run_bind_of_ok matched _).trans ?_
  refine (run_bind_of_ok journalStored _).trans ?_
  simp only [isProfile, noBundle, if_pos]
  refine (run_bind_of_ok noMachine _).trans ?_
  exact run_bind_of_ok noProfile _

/-- A machine that submits the values of a revoked bundle again is not measured. -/
theorem not_measured_of_resubmission {requests : List Request} {db : Database}
    {machineId : MachineId} {values : List PcrRegisterValue}
    (ran : service.run requests empty = some db)
    (resubmits : Resubmits machineId values db) (unvouched : Unvouched machineId values db) :
    getMeasurementMachineState machineId ((Request.createReport machineId values).txn.commit db) ≠
      .measured := by
  have ledger := ledger_of_run ran
  obtain ⟨report, isLatest, sameValues, profile, has, -⟩ := resubmits
  have reportMem : report ∈ db.reports := mem_of_mem_filter (argmax_mem isLatest)
  obtain ⟨nonempty, distinct⟩ := ledger.registers report reportMem
  have valuesNonempty : values ≠ [] := by
    intro empty
    rw [empty] at sameValues
    exact nonempty sameValues.nil_eq.symm
  have valuesDistinct := (sameValues.map _).nodup_iff.mpr distinct
  obtain ⟨stored, after, submitted, pending⟩ :=
    run_createMeasurementReport ledger has valuesNonempty valuesDistinct unvouched
  have served : (Request.createReport machineId values).txn.run db = .ok ((), after) :=
    run_bind_of_ok submitted _
  rw [commit_of_ok served, pending]
  nofun

end Submission

instance instDecidableResubmits (machineId : MachineId) (values : List PcrRegisterValue)
    (db : Database) : Decidable (Resubmits machineId values db) := by
  unfold Resubmits
  infer_instance

/-- The report of the revoked bundle is submitted again. -/
theorem not_measured_of_revocation :
    ∃ db, service.run revocation empty = some db ∧ Resubmits 7 [⟨1, "bb"⟩, ⟨0, "aa"⟩] db ∧
      getMeasurementMachineState 7
        ((Request.createReport 7 [⟨1, "bb"⟩, ⟨0, "aa"⟩]).txn.commit db) ≠ .measured := by
  obtain ⟨db, ran, resubmits, bundles, machine, anyMachine, profile⟩ :
      ∃ db ∈ service.run revocation empty, Resubmits 7 [⟨1, "bb"⟩, ⟨0, "aa"⟩] db ∧
      (∀ profile ∈ matchedProfile 7 db,
        ∀ bundle ∈ getActiveBundles (db.bundles.filter (·.profileId = profile.profileId)),
          ¬bundle.values ⊆ [⟨1, "bb"⟩, ⟨0, "aa"⟩]) ∧
      (getApprovalForMachineId (.machineId 7) db).isNone ∧
      (getApprovalForMachineId .any db).isNone ∧ ∀ profile ∈ matchedProfile 7 db,
        (getApprovalForProfileId profile.profileId db).isNone := by decide +kernel
  have unvouched : Unvouched 7 [⟨1, "bb"⟩, ⟨0, "aa"⟩] db :=
    ⟨bundles, Option.isNone_iff_eq_none.mp machine, Option.isNone_iff_eq_none.mp anyMachine,
      fun found has => Option.isNone_iff_eq_none.mp (profile found has)⟩
  exact ⟨db, ran, resubmits, not_measured_of_resubmission ran resubmits unvouched⟩

/-- Any machine is approved, and the bundle of an approved report is revoked. -/
def revokedApproval : List Request :=
  [.discover 7 ⟨some ⟨some ⟨"vendor", "product", "1.0"⟩⟩⟩, .addTrustedMachine .any .persist none,
    .createReport 7 [⟨0, "aa"⟩, ⟨1, "bb"⟩], .updateBundle 6 .revoked]

/-- The approval turns the next report of the revoked values into an active bundle. -/
theorem measured_of_revokedApproval :
    ∃ db, service.run revokedApproval empty = some db ∧ Resubmits 7 [⟨0, "aa"⟩, ⟨1, "bb"⟩] db ∧
      getMeasurementMachineState 7 db = .measuringFailed ∧ getMeasurementMachineState 7
        ((Request.createReport 7 [⟨0, "aa"⟩, ⟨1, "bb"⟩]).txn.commit db) = .measured := by
  decide +kernel

end MeasuredBoot
