import BareMetalManager.Health.Report
import Mathlib.Data.List.Induction

/-!
# Merging reports in any order

The reports merged into an empty one are summarised probe by probe: an alert gathers all alerts
that the reports have raised for its probe, and a success is one that no report has an alert for.
Only the order of the messages depends on the order of the reports.
-/

namespace Health

open Collections List BTreeSet HealthReport BTreeMap

/-! ## The alerts of one probe -/

/-- An alert that stands for a list of alerts of one probe. -/
structure Gathers (raised : List HealthProbeAlert) (alert : HealthProbeAlert) : Prop where
  classifications : ∀ classification, classification ∈ alert.classifications ↔
    ∃ entry ∈ raised, classification ∈ entry.classifications
  inAlertSince : alert.inAlertSince = (raised.filterMap (·.inAlertSince)).min?
  message : alert.message = "\n".intercalate ((raised.map (·.message)).filter (· ≠ ""))
  tenantMessage : alert.tenantMessage =
    if raised.filterMap (·.tenantMessage) = [] then none
    else some ("\n".intercalate (raised.filterMap (·.tenantMessage)))

theorem mem_foldl_insert_id (items : List HealthAlertClassification)
    (set : BTreeSet HealthAlertClassification) (classification : HealthAlertClassification) :
    classification ∈ items.foldl .insert set ↔
      classification ∈ set ∨ classification ∈ items := by
  have inserted : classification ∈ items.foldl .insert set ↔
      classification ∈ set ∨ classification ∈ items.map id :=
    mem_foldl_insert id items set
  rwa [map_id] at inserted

theorem mem_mergeClassifications {left right : List HealthAlertClassification}
    {classification : HealthAlertClassification} :
    classification ∈ mergeClassifications left right ↔
      classification ∈ left ∨ classification ∈ right := by
  rw [mergeClassifications, ← mem_def, mem_foldl_insert_id, mem_foldl_insert_id]
  simp only [not_mem_empty, false_or]

theorem earlier_min? (times : List Timestamp) (time : Option Timestamp) :
    earlier time times.min? = (times ++ time.toList).min? := by
  cases times with
  | nil => cases time <;> rfl
  | cons first rest =>
    cases time with
    | none =>
      rw [Option.toList_none, append_nil]
      rfl
    | some time =>
      simp only [Option.toList_some, cons_append, List.min?_cons', earlier,
        foldl_append, foldl_cons, foldl_nil, min_comm]

theorem intercalate_eq_empty_iff {lines : List String} (present : ∀ line ∈ lines, line ≠ "") :
    "\n".intercalate lines = "" ↔ lines = [] := by
  cases lines with
  | nil => simp
  | cons first rest =>
    cases rest with
    | nil => simpa using present first mem_cons_self
    | cons second rest => simp [String.intercalate_cons_cons]

theorem intercalate_message (messages : List String) (message : String) :
    (if "\n".intercalate (messages.filter (· ≠ "")) = "" then message
      else if message ≠ "" then
        "\n".intercalate (messages.filter (· ≠ "")) ++ "\n" ++ message
      else "\n".intercalate (messages.filter (· ≠ ""))) =
    "\n".intercalate ((messages ++ [message]).filter (· ≠ "")) := by
  have present : ∀ line ∈ messages.filter (· ≠ ""), line ≠ "" := by
    intro line lineMem
    simpa using (mem_filter.mp lineMem).2
  rw [filter_append]
  generalize messages.filter (· ≠ "") = lines at present ⊢
  by_cases silent : message = ""
  · simp [silent]
  · rw [filter_cons_of_pos (by simpa using silent), filter_nil]
    split
    next empty => rw [(intercalate_eq_empty_iff present).mp empty, nil_append,
      String.intercalate_singleton]
    next nonempty =>
      have linesNonempty : lines ≠ [] := fun none => nonempty (by rw [none]; rfl)
      rw [String.intercalate_append_of_ne_nil linesNonempty (by simp), String.intercalate_singleton]

theorem gathers_singleton (alert : HealthProbeAlert) : Gathers [alert] alert where
  classifications := by simp
  inAlertSince := by
    cases since : alert.inAlertSince <;> simp [since]
  message := by
    by_cases silent : alert.message = "" <;> simp [silent]
  tenantMessage := by
    cases tenant : alert.tenantMessage <;> simp [tenant]

section Gather

variable {raised : List HealthProbeAlert} {alert : HealthProbeAlert} {probe : Probe}

theorem Gathers.merge (gathers : Gathers raised alert) (entry : HealthProbeAlert) :
    Gathers (raised ++ [entry]) (alert.merge entry) where
  classifications := by
    intro classification
    rw [HealthProbeAlert.merge, mem_mergeClassifications, gathers.classifications]
    simp only [mem_append, mem_singleton, or_and_right, exists_or, exists_eq_left]
  inAlertSince := by
    rw [HealthProbeAlert.merge, gathers.inAlertSince, earlier_min?, filterMap_append]
    cases since : entry.inAlertSince <;> simp [since]
  message := by
    rw [HealthProbeAlert.merge, gathers.message, map_append]
    exact intercalate_message _ _
  tenantMessage := by
    rw [HealthProbeAlert.merge, gathers.tenantMessage, filterMap_append]
    generalize raised.filterMap (·.tenantMessage) = messages
    cases tenant : entry.tenantMessage with
    | none => cases messages <;> simp [tenant]
    | some message =>
      cases messages with
      | nil => simp [tenant]
      | cons first rest =>
        have joined := String.intercalate_append_of_ne_nil (l := first :: rest)
          (m := [message]) (s := "\n") (by simp) (by simp)
        rw [String.intercalate_singleton] at joined
        simp [tenant, ← joined]

/-- The alerts of one probe, merged in order. -/
def gather (raised : List HealthProbeAlert) : Option HealthProbeAlert :=
  raised.foldl (fun present entry => some (present.elim entry fun present => present.merge entry))
    none

theorem gather_append (raised : List HealthProbeAlert) (entry : HealthProbeAlert) :
    gather (raised ++ [entry]) =
      some ((gather raised).elim entry fun present => present.merge entry) := by
  rw [gather, foldl_append]
  rfl

theorem gather_eq_none_iff : gather raised = none ↔ raised = [] := by
  induction raised using List.reverseRecOn with
  | nil => simp [gather]
  | append_singleton raised entry ih => simp [gather_append]

/-- What holds of one alert and is kept by merging the next holds of the gathered alert. -/
theorem gather_induction {motive : List HealthProbeAlert → HealthProbeAlert → Prop}
    (single : ∀ entry, motive [entry] entry)
    (merge : ∀ {raised present}, motive raised present → ∀ entry,
      motive (raised ++ [entry]) (present.merge entry))
    (gathered : gather raised = some alert) : motive raised alert := by
  induction raised using List.reverseRecOn generalizing alert with
  | nil => cases gathered
  | append_singleton raised entry ih =>
    rw [gather_append] at gathered
    cases before : gather raised with
    | none =>
      cases gathered
      rw [gather_eq_none_iff.mp before]
      exact single entry
    | some present =>
      rw [before] at gathered
      cases gathered
      exact merge (ih before) entry

theorem gathers_of_gather : gather raised = some alert → Gathers raised alert :=
  gather_induction gathers_singleton .merge

/-! ## The order of the alerts -/

def HealthProbeAlert.quiet (alert : HealthProbeAlert) : HealthProbeAlert :=
  { alert with message := "", tenantMessage := none }

theorem min?_of_perm {left right : List Timestamp} (perm : left.Perm right) :
    left.min? = right.min? := by
  apply Option.ext
  intro time
  simp only [List.min?_eq_some_iff, perm.mem_iff]

theorem probe_of_gather (gathered : gather raised = some alert)
    (ofProbe : ∀ entry ∈ raised, entry.probe = probe) :
    alert.probe = probe := by
  refine gather_induction (motive := fun raised alert =>
    (∀ entry ∈ raised, entry.probe = probe) → alert.probe = probe) ?_ ?_ gathered ofProbe
  · intro entry ofProbe
    exact ofProbe entry mem_cons_self
  · intro raised present isProbe entry ofProbe
    exact isProbe fun other otherMem => ofProbe other (mem_append_left _ otherMem)

theorem sorted_classifications_of_gather (gathered : gather raised = some alert)
    (several : 1 < raised.length) : alert.classifications.Pairwise (· < ·) := by
  refine gather_induction (motive := fun raised alert =>
    1 < raised.length → alert.classifications.Pairwise (· < ·)) ?_ ?_ gathered several
  · intro entry several
    exact absurd several (by simp)
  · intro raised present _ entry _
    exact BTreeSet.sorted _

/-- The gathered alert does not depend on the order but for its messages. -/
theorem gather_quiet_of_perm {left right : List HealthProbeAlert} (perm : left.Perm right)
    (ofProbe : ∀ entry ∈ left, entry.probe = probe) :
    (gather left).map .quiet = (gather right).map HealthProbeAlert.quiet := by
  cases leftGathered : gather left with
  | none =>
    rw [gather_eq_none_iff.mp leftGathered] at perm
    rw [perm.nil_eq.symm]
    rfl
  | some alert =>
    cases rightGathered : gather right with
    | none =>
      rw [gather_eq_none_iff.mp rightGathered] at perm
      rw [perm.eq_nil] at leftGathered
      cases leftGathered
    | some other =>
      have isProbe := probe_of_gather leftGathered ofProbe
      have otherProbe := probe_of_gather rightGathered fun entry entryMem =>
        ofProbe entry (perm.mem_iff.mpr entryMem)
      have sameProbe := toLex.injective (isProbe.trans otherProbe.symm)
      have gathers := gathers_of_gather leftGathered
      have otherGathers := gathers_of_gather rightGathered
      have sameSince : alert.inAlertSince = other.inAlertSince := by
        rw [gathers.inAlertSince, otherGathers.inAlertSince]
        exact min?_of_perm (perm.filterMap _)
      have sameClassifications : alert.classifications = other.classifications := by
        by_cases several : 1 < left.length
        · apply (sorted_classifications_of_gather leftGathered several).eq_of_mem_iff
            (sorted_classifications_of_gather rightGathered (perm.length_eq ▸ several))
          intro classification
          rw [gathers.classifications, otherGathers.classifications]
          simp only [perm.mem_iff]
        · -- One alert is copied as it is, with its classifications in their order.
          cases left with
          | nil => cases leftGathered
          | cons entry rest =>
            cases rest with
            | nil =>
              rw [← perm.singleton_eq, leftGathered] at rightGathered
              cases rightGathered
              rfl
            | cons second rest => exact absurd several (by simp)
      simp only [Option.map_some, HealthProbeAlert.quiet, sameSince, sameClassifications,
        (Prod.mk.inj sameProbe).1, (Prod.mk.inj sameProbe).2]

end Gather

/-! ## Merged reports -/

variable (reports : List HealthReport) (probe : Probe)

def Alerted : Prop :=
  ∃ report ∈ reports, probe ∈ report.alerts.map HealthProbeAlert.probe

def Succeeded : Prop :=
  ∃ report ∈ reports, probe ∈ report.successes.map HealthProbeSuccess.probe

variable {reports probe} {report : HealthReport}

theorem alerted_append :
    Alerted (reports ++ [report]) probe ↔
      Alerted reports probe ∨ probe ∈ report.alerts.map HealthProbeAlert.probe := by
  simp only [Alerted, mem_append, mem_singleton, or_and_right, exists_or, exists_eq_left]

theorem succeeded_append :
    Succeeded (reports ++ [report]) probe ↔
      Succeeded reports probe ∨ probe ∈ report.successes.map HealthProbeSuccess.probe := by
  simp only [Succeeded, mem_append, mem_singleton, or_and_right, exists_or, exists_eq_left]

/-- The alerts of a probe, in the order of the reports. -/
def raised (reports : List HealthReport) (probe : Probe) : List HealthProbeAlert :=
  (reports.flatMap (·.alerts)).filter (·.probe = probe)

def alertMap (reports : List HealthReport) : BTreeMap Probe HealthProbeAlert :=
  (reports.flatMap (·.alerts)).foldl
    (fun map alert => map.upsert .merge alert.probe alert) empty

theorem keyed_alertMap (reports : List HealthReport) :
    (alertMap reports).Keyed HealthProbeAlert.probe := by
  apply BTreeMap.Keyed.foldl_upsert
  · nofun
  · intro present alert
    rfl

theorem get?_alertMap (reports : List HealthReport) (probe : Probe) :
    (alertMap reports).get? probe = gather (raised reports probe) :=
  get?_foldl_upsert _ _ _ _ _

theorem alerted_iff : Alerted reports probe ↔ raised reports probe ≠ [] := by
  simp only [Alerted, raised, ne_eq, filter_eq_nil_iff, mem_flatMap, mem_map]
  push Not
  constructor
  · rintro ⟨report, reportMem, alert, alertMem, isProbe⟩
    exact ⟨alert, ⟨report, reportMem, alertMem⟩, decide_eq_true isProbe⟩
  · rintro ⟨alert, ⟨report, reportMem, alertMem⟩, isProbe⟩
    exact ⟨report, reportMem, alert, alertMem, of_decide_eq_true isProbe⟩

theorem mem_values_alertMap :
    probe ∈ (alertMap reports).values.map HealthProbeAlert.probe ↔ Alerted reports probe := by
  rw [alerted_iff, ne_eq, ← gather_eq_none_iff, ← get?_alertMap, mem_map, ← ne_eq,
    Option.ne_none_iff_exists']
  simp only [(keyed_alertMap reports).get?_eq_some_iff]

theorem foldl_pair {α σ τ : Type} (left : σ → α → σ) (right : τ → α → τ) (items : List α)
    (state : σ × τ) :
    items.foldl (fun state item => (left state.1 item, right state.2 item)) state =
      (items.foldl left state.1, items.foldl right state.2) := by
  induction items generalizing state with
  | nil => rfl
  | cons item items ih => exact ih _

theorem merge_eq (self other : HealthReport) :
    self.merge other = { self with
      observedAt := earlier self.observedAt other.observedAt
      successes := ((self.alerts ++ other.alerts).foldl (fun set alert => set.remove alert.probe)
        ((self.successes ++ other.successes).foldl (fun set success => set.insert success.probe)
          BTreeSet.empty)).elems.map .ofProbe
      alerts := (other.alerts.foldl (fun map alert => map.upsert .merge alert.probe alert)
        (self.alerts.foldl (fun map alert => map.insert alert.probe alert)
          BTreeMap.empty)).values } := by
  rw [HealthReport.merge,
    foldl_pair (fun (set : BTreeSet Probe) (alert : HealthProbeAlert) => set.remove alert.probe)
      (fun (map : BTreeMap Probe HealthProbeAlert) alert => map.insert alert.probe alert),
    foldl_pair (fun (set : BTreeSet Probe) (alert : HealthProbeAlert) => set.remove alert.probe)
      (fun (map : BTreeMap Probe HealthProbeAlert) alert => map.upsert .merge alert.probe alert),
    foldl_append, foldl_append]

variable (now : Timestamp) (source : String)

/-- What reports merged into an empty one have. -/
structure Accumulated (reports : List HealthReport) (merged : HealthReport) : Prop where
  source : merged.source = source
  triggeredBy : merged.triggeredBy = none
  observedAt : merged.observedAt = (now :: reports.filterMap (·.observedAt)).min?
  alerts : merged.alerts = (alertMap reports).values
  successes : ∃ set : BTreeSet Probe, merged.successes = set.elems.map .ofProbe ∧
    ∀ probe, probe ∈ set ↔ Succeeded reports probe ∧ ¬Alerted reports probe

theorem accumulated_empty : Accumulated now source [] (.empty now source) where
  source := rfl
  triggeredBy := rfl
  observedAt := rfl
  alerts := rfl
  successes := ⟨.empty, rfl, by simp [Succeeded]⟩

theorem earlier_comm (left right : Option Timestamp) : earlier left right = earlier right left := by
  cases left <;> cases right <;> simp [earlier, min_comm]

theorem map_ofProbe_probe (probes : List Probe) :
    (probes.map .ofProbe).map HealthProbeSuccess.probe = probes := by
  rw [map_map]
  exact map_id probes

variable {now source} {merged : HealthReport}

theorem Accumulated.merge (accumulated : Accumulated now source reports merged)
    (report : HealthReport) :
    Accumulated now source (reports ++ [report]) (merged.merge report) where
  source := accumulated.source
  triggeredBy := accumulated.triggeredBy
  observedAt := by
    rw [merge_eq, accumulated.observedAt, earlier_comm, earlier_min?, filterMap_append]
    cases observed : report.observedAt <;> simp [observed]
  alerts := by
    simp only [merge_eq, accumulated.alerts, (keyed_alertMap reports).foldl_insert_values]
    rw [alertMap, alertMap, flatMap_append, foldl_append, flatMap_singleton]
  successes := by
    obtain ⟨set, isSet, mem⟩ := accumulated.successes
    rw [merge_eq]
    refine ⟨_, rfl, fun probe => ?_⟩
    rw [mem_foldl_remove, mem_foldl_insert, map_append, map_append,
      mem_append, mem_append, isSet, map_ofProbe_probe, ← mem_def, mem,
      accumulated.alerts, mem_values_alertMap]
    rw [alerted_append, succeeded_append, iff_false_intro (not_mem_empty probe), false_or]
    tauto

theorem accumulated_mergeAll (now : Timestamp) (source : String) (reports : List HealthReport) :
    Accumulated now source reports ((empty now source).mergeAll reports) := by
  induction reports using List.reverseRecOn with
  | nil => exact accumulated_empty now source
  | append_singleton reports report ih =>
    rw [mergeAll, foldl_append]
    exact ih.merge report

/-! ## Any order -/

/-- What reports in any order have in common. -/
structure Summarises (reports : List HealthReport) (merged : HealthReport) : Prop where
  alertProbes : (merged.alerts.map HealthProbeAlert.probe).Nodup
  alerted : ∀ probe, probe ∈ merged.alerts.map HealthProbeAlert.probe ↔ Alerted reports probe
  gathers : ∀ alert ∈ merged.alerts, Gathers (raised reports alert.probe) alert
  successProbes : (merged.successes.map HealthProbeSuccess.probe).Nodup
  succeeded : ∀ probe, probe ∈ merged.successes.map HealthProbeSuccess.probe ↔
    Succeeded reports probe ∧ ¬Alerted reports probe

def HealthReport.quiet (report : HealthReport) : HealthReport :=
  { report with alerts := report.alerts.map .quiet }

theorem Accumulated.summarises (accumulated : Accumulated now source reports merged) :
    Summarises reports merged := by
  have keyed := keyed_alertMap reports
  obtain ⟨set, isSet, mem⟩ := accumulated.successes
  constructor
  · rw [accumulated.alerts, keyed.map_values]
    exact (alertMap reports).nodup_keys
  · intro probe
    rw [accumulated.alerts]
    exact mem_values_alertMap
  · intro alert alertMem
    rw [accumulated.alerts] at alertMem
    apply gathers_of_gather
    rw [← get?_alertMap]
    exact keyed.get?_eq_some_iff.mpr ⟨alertMem, rfl⟩
  · rw [isSet, map_ofProbe_probe]
    exact set.sorted.imp fun below => below.ne
  · intro probe
    rw [isSet, map_ofProbe_probe]
    exact mem probe

variable {others : List HealthReport}

theorem alertMap_quiet_of_perm (perm : reports.Perm others) :
    (alertMap reports).mapValues .quiet =
      (alertMap others).mapValues HealthProbeAlert.quiet := by
  apply eq_of_get?_eq
  intro probe
  rw [get?_mapValues, get?_mapValues, get?_alertMap, get?_alertMap]
  apply gather_quiet_of_perm ((perm.flatMap_right _).filter _)
  intro entry entryMem
  exact of_decide_eq_true (mem_filter.mp entryMem).2

theorem Accumulated.quiet_of_perm {other : HealthReport}
    (accumulated : Accumulated now source reports merged)
    (otherAccumulated : Accumulated now source others other) (perm : reports.Perm others) :
    merged.quiet = other.quiet := by
  obtain ⟨set, isSet, mem⟩ := accumulated.successes
  obtain ⟨otherSet, isOther, otherMembership⟩ := otherAccumulated.successes
  have sameSet : set = otherSet := by
    apply eq_of_mem_iff
    intro probe
    rw [mem, otherMembership]
    simp only [Succeeded, Alerted, perm.mem_iff]
  have sameAlerts : merged.alerts.map .quiet =
      other.alerts.map HealthProbeAlert.quiet := by
    rw [accumulated.alerts, otherAccumulated.alerts, ← values_mapValues,
      ← values_mapValues, alertMap_quiet_of_perm perm]
  have sameTime : merged.observedAt = other.observedAt := by
    rw [accumulated.observedAt, otherAccumulated.observedAt]
    exact min?_of_perm ((perm.filterMap _).cons now)
  simp only [quiet, sameAlerts, sameTime, isSet, isOther, sameSet, accumulated.source,
    otherAccumulated.source, accumulated.triggeredBy, otherAccumulated.triggeredBy]

/-- Reports merged into an empty one: the result is their summary, and another order of the
reports changes the order of the messages of an alert only. -/
theorem summarises_of_perm {reports others : List HealthReport} (perm : reports.Perm others)
    (now : Timestamp) (source : String) :
    Summarises reports ((empty now source).mergeAll reports) ∧
      Summarises others ((empty now source).mergeAll others) ∧
      ((empty now source).mergeAll reports).quiet = ((empty now source).mergeAll others).quiet ∧
      ∀ probe, (raised reports probe).Perm (raised others probe) := by
  have accumulated := accumulated_mergeAll now source reports
  have otherAccumulated := accumulated_mergeAll now source others
  refine ⟨accumulated.summarises, otherAccumulated.summarises,
    accumulated.quiet_of_perm otherAccumulated perm, ?_⟩
  intro probe
  exact (perm.flatMap_right _).filter _

/-- A fan alert that is raised twice, and a success that it hides. -/
def fanReports : List HealthReport :=
  [⟨"dpu", none, some 5, [⟨"Fan", some "fan0"⟩, ⟨"Disk", none⟩], []⟩, ⟨"host", none, none, [],
      [⟨"Fan", some "fan0", some 7, "slow", none, ["Hardware"]⟩,
        ⟨"Fan", some "fan0", some 3, "", some "degraded", ["PreventAllocations", "Hardware"]⟩]⟩]

theorem summarises_of_fanReports :
    Summarises fanReports ((empty 9 "merged").mergeAll fanReports) ∧
      ((empty 9 "merged").mergeAll fanReports).quiet =
        ((empty 9 "merged").mergeAll fanReports.reverse).quiet ∧
      (empty 9 "merged").mergeAll fanReports =
        ⟨"merged", none, some 5, [⟨"Disk", none⟩],
          [⟨"Fan", some "fan0", some 3, "slow", some "degraded",
            ["Hardware", "PreventAllocations"]⟩]⟩ := by
  have laws := summarises_of_perm (reverse_perm fanReports).symm 9 "merged"
  exact ⟨laws.1, laws.2.2.1, by decide +kernel⟩

end Health
