import BareMetalManager.Health.MergeLaws

/-!
# Alerts that prevent allocations

The aggregate health is the merge of a list of reports, so it has an alert of a classification
exactly if one of them has. Which reports these are depends on the state of the host and on the
configuration of the hardware health, which does not apply to the reports of the rack.
-/

namespace Health

open Collections List HealthReport ManagedHostStateSnapshot BTreeMap

/-! ## Merged classifications -/

theorem hasClassification_iff {report : HealthReport} {classification : HealthAlertClassification} :
    report.hasClassification classification ↔
      ∃ alert ∈ report.alerts, classification ∈ alert.classifications := by
  simp [hasClassification, findAlertByClassification]

/-- No classification is lost, and none is added. -/
theorem hasClassification_mergeAll (now : Timestamp) (source : String)
    (reports : List HealthReport) (classification : HealthAlertClassification) :
    ((empty now source).mergeAll reports).hasClassification classification ↔
      ∃ report ∈ reports, report.hasClassification classification := by
  have summary := (accumulated_mergeAll now source reports).summarises
  simp only [hasClassification_iff]
  constructor
  · rintro ⟨alert, alertMem, classified⟩
    obtain ⟨entry, entryMem, classified⟩ :=
      ((summary.gathers alert alertMem).classifications classification).mp classified
    obtain ⟨report, reportMem, entryMem⟩ :=
      mem_flatMap.mp (mem_of_mem_filter entryMem)
    exact ⟨report, reportMem, entry, entryMem, classified⟩
  · rintro ⟨report, reportMem, entry, entryMem, classified⟩
    have alerted : Alerted reports entry.probe :=
      ⟨report, reportMem, mem_map_of_mem entryMem⟩
    obtain ⟨alert, alertMem, sameProbe⟩ := mem_map.mp ((summary.alerted _).mpr alerted)
    refine ⟨alert, alertMem,
      ((summary.gathers alert alertMem).classifications classification).mpr ?_⟩
    refine ⟨entry, mem_filter.mpr ⟨?_, decide_eq_true sameProbe.symm⟩, classified⟩
    exact mem_flatMap.mpr ⟨report, reportMem, entryMem⟩

/-! ## The reports that are merged -/

/-- The report of a source as it is merged. -/
def overrideReports (config : HardwareHealthReportsConfig) (source : String)
    (report : HealthReport) : List HealthReport :=
  if isHardwareHealthOverrideSource source then
    match config with
    | .disabled => []
    | .monitorOnly => [report.clearClassifications]
    | .enabled => [report]
  else [report]

def dpuReports (site : Site) (config : HostHealthConfig) (suppressDpuAlerts : Bool)
    (dpu : DpuMachine) : List HealthReport :=
  match dpu.healthReports.replace with
  | some overriding => overrideReports config.hardwareHealthReports overriding.source overriding
  | none =>
    (dpu.networkStatusObservation.bind fun observation =>
      observation.expiredVersionHealthReport site config.dpuAgentVersionStalenessThreshold
        config.preventAllocationsOnStaleDpuAgentVersion).toList ++
    [(if suppressDpuAlerts then dpu.dpuAgentHealthReport.map clearClassifications
      else dpu.dpuAgentHealthReport).getD
        (.heartbeatTimeout site.now "" "forge-dpu-agent" "" true false)] ++
    dpu.healthReports.merges.entries.flatMap fun entry =>
      if entry.1 ≠ dpuAgentSource then
        overrideReports config.hardwareHealthReports entry.1 entry.2
      else []

section Output

variable {α : Type} (output : HealthReport)

section Override

variable (source : String) (report : HealthReport) (config : HardwareHealthReportsConfig)

theorem mergeOverride_output :
    (mergeOverrideReportWithHwHealth output source report config).1 =
      output.mergeAll (overrideReports config source report) := by
  unfold mergeOverrideReportWithHwHealth overrideReports
  split
  next => cases config <;> rfl
  next => rfl

theorem mergeOverride_isHardware :
    (mergeOverrideReportWithHwHealth output source report config).2.2 =
      isHardwareHealthOverrideSource source := by
  unfold mergeOverrideReportWithHwHealth
  split
  next isHardware =>
    rw [isHardware]
    cases config <;> rfl
  next other =>
    rw [Bool.not_eq_true] at other
    rw [other]

end Override

theorem mergeAll_append (left right : List HealthReport) :
    output.mergeAll (left ++ right) = (output.mergeAll left).mergeAll right :=
  foldl_append

theorem mergeAll_flatMap (reports : α → List HealthReport) (items : List α) :
    output.mergeAll (items.flatMap reports) =
      items.foldl (fun output item => output.mergeAll (reports item)) output := by
  induction items generalizing output with
  | nil => rfl
  | cons item items ih =>
    rw [flatMap_cons, mergeAll_append, ih]
    rfl

theorem elim_merge (report : Option HealthReport) :
    report.elim output output.merge = output.mergeAll report.toList := by
  cases report <;> rfl

theorem mergeOrTimeout_eq (now : Timestamp) (input : Option HealthReport) (target : String) :
    mergeOrTimeout now output input target =
      output.mergeAll [input.getD (.heartbeatTimeout now "" target "" true false)] := by
  cases input <;> rfl

variable (site : Site) (config : HostHealthConfig) (suppressDpuAlerts : Bool)

theorem mergeDpu_output (dpu : DpuMachine) :
    (mergeDpu site config suppressDpuAlerts output dpu).1 =
      output.mergeAll (dpuReports site config suppressDpuAlerts dpu) := by
  unfold mergeDpu dpuReports
  cases dpu.healthReports.replace with
  | some overriding => exact mergeOverride_output _ _ _ _
  | none =>
    simp only [mergeAll_append, mergeAll_flatMap, accumulate_state, mergeOrTimeout_eq, elim_merge]
    congr 1
    funext output entry
    split
    next => exact mergeOverride_output _ _ _ _
    next => rfl

theorem mergeDpus_output (dpus : List DpuMachine) :
    (mergeDpus site config suppressDpuAlerts output dpus).1 =
      output.mergeAll (dpus.flatMap (dpuReports site config suppressDpuAlerts)) := by
  induction dpus generalizing output with
  | nil => rfl
  | cons dpu dpus ih =>
    rw [flatMap_cons, mergeAll_append, ← mergeDpu_output]
    exact ih _

def HostMachine.hasHardwareHealth (host : HostMachine) : Bool :=
  host.healthReports.merges.entries.any fun entry => isHardwareHealthOverrideSource entry.1

theorem foldl_or (test : α → Bool) (items : List α) (flag : Bool) :
    items.foldl (fun flag item => flag || test item) flag = (flag || items.any test) := by
  induction items generalizing flag with
  | nil => simp
  | cons item items ih => rw [foldl_cons, ih, any_cons, Bool.or_assoc]

theorem mergeHost_output (host : HostMachine) :
    (mergeHost config output host).1 =
      (output.mergeAll (host.healthReports.merges.entries.flatMap fun entry =>
        overrideReports config.hardwareHealthReports entry.1 entry.2), host.hasHardwareHealth) := by
  rw [mergeHost]
  simp only [accumulate_state, mergeOverride_output, mergeOverride_isHardware]
  rw [foldl_pair (fun (output : HealthReport) (entry : String × HealthReport) =>
      output.mergeAll (overrideReports config.hardwareHealthReports entry.1 entry.2))
    (fun flag entry => flag || isHardwareHealthOverrideSource entry.1), foldl_or, mergeAll_flatMap,
    Bool.false_or]
  rfl

theorem mergeRack_eq (rack : Option HealthReportSources) :
    mergeRack output rack = output.mergeAll
      (rack.elim [] fun overrides => overrides.replace.toList ++ overrides.merges.values) := by
  cases rack with
  | none => rfl
  | some overrides =>
    rw [Option.elim_some, mergeAll_append, ← elim_merge]
    rfl

end Output

variable (site : Site) (config : HostHealthConfig)

def ManagedHostStateSnapshot.mergedReports (snapshot : ManagedHostStateSnapshot) :
    List HealthReport :=
  snapshot.dpuSnapshots.flatMap
      (dpuReports site config snapshot.managedState.suppressDpuAlerts) ++
    (snapshot.hostSnapshot.healthReports.merges.entries.flatMap fun entry =>
      overrideReports config.hardwareHealthReports entry.1 entry.2) ++
    (if config.hardwareHealthReports = .enabled ∧ ¬snapshot.hostSnapshot.hasHardwareHealth then
      [.heartbeatTimeout site.now "" "hardware-health" "" true false] else []) ++
    snapshot.rackHealthOverrides.elim [] fun overrides =>
      overrides.replace.toList ++ overrides.merges.values

variable {snapshot : ManagedHostStateSnapshot}

theorem alerts_aggregateHealth (noReplace : snapshot.hostSnapshot.healthReports.replace = none) :
    (snapshot.deriveAggregateHealth site config).aggregateHealth.alerts =
      ((empty site.now "").mergeAll (snapshot.mergedReports site config)).alerts := by
  simp only [deriveAggregateHealth, noReplace,
    mergedReports, mergeAll_append, mergeRack_eq, mergeHost_output,
    mergeDpus_output, mergeOrTimeout_eq, Option.getD_none]
  split <;> rfl

/-! ## The sources of an alert -/

def HealthReport.Blocks (report : HealthReport) : Prop :=
  report.hasClassification preventAllocations

/-- Sources of the hardware health count when it is enabled. -/
def Counts (config : HardwareHealthReportsConfig) (source : String) : Prop :=
  isHardwareHealthOverrideSource source → config = .enabled

/-- A DPU's replace override, or else its stale version, its agent's report unless it is
suppressed, its merge reports, or the absence of its agent's report. -/
def DpuBlocks (site : Site) (config : HostHealthConfig) (suppressDpuAlerts : Bool)
    (dpu : DpuMachine) : Prop :=
  match dpu.healthReports.replace with
  | some overriding => Counts config.hardwareHealthReports overriding.source ∧ overriding.Blocks
  | none =>
    (∃ observation ∈ dpu.networkStatusObservation,
      ∃ report ∈ observation.expiredVersionHealthReport site
        config.dpuAgentVersionStalenessThreshold
        config.preventAllocationsOnStaleDpuAgentVersion, report.Blocks) ∨
    (∃ report ∈ dpu.dpuAgentHealthReport, suppressDpuAlerts = false ∧ report.Blocks) ∨
    (∃ entry ∈ dpu.healthReports.merges.entries, entry.1 ≠ dpuAgentSource ∧
      Counts config.hardwareHealthReports entry.1 ∧ entry.2.Blocks) ∨
    dpu.dpuAgentHealthReport = none

/-- A rack's replace or merge report, among the sources that count. -/
def RackBlocks (counts : String → Prop) (overrides : HealthReportSources) : Prop :=
  (∃ report ∈ overrides.replace, counts report.source ∧ report.Blocks) ∨
    ∃ entry ∈ overrides.merges.entries, counts entry.1 ∧ entry.2.Blocks

/-- One of the sources prevents allocations, where `rackCounts` are the sources of the rack that
count. -/
def Blocked (site : Site) (config : HostHealthConfig) (rackCounts : String → Prop)
    (snapshot : ManagedHostStateSnapshot) : Prop :=
  (∃ dpu ∈ snapshot.dpuSnapshots,
    DpuBlocks site config snapshot.managedState.suppressDpuAlerts dpu) ∨
  (∃ entry ∈ snapshot.hostSnapshot.healthReports.merges.entries,
    Counts config.hardwareHealthReports entry.1 ∧ entry.2.Blocks) ∨
  (config.hardwareHealthReports = .enabled ∧ ¬snapshot.hostSnapshot.hasHardwareHealth) ∨
  ∃ overrides ∈ snapshot.rackHealthOverrides, RackBlocks rackCounts overrides

instance (report : HealthReport) : Decidable report.Blocks :=
  inferInstanceAs (Decidable (report.hasClassification preventAllocations = true))

instance (config : HardwareHealthReportsConfig) (source : String) :
    Decidable (Counts config source) :=
  inferInstanceAs (Decidable (_ → _))

instance (site : Site) (config : HostHealthConfig) (suppressDpuAlerts : Bool) (dpu : DpuMachine) :
    Decidable (DpuBlocks site config suppressDpuAlerts dpu) := by
  unfold DpuBlocks
  cases dpu.healthReports.replace <;> infer_instance

instance (counts : String → Prop) [DecidablePred counts] (overrides : HealthReportSources) :
    Decidable (RackBlocks counts overrides) :=
  inferInstanceAs (Decidable (_ ∨ _))

instance (site : Site) (config : HostHealthConfig) (rackCounts : String → Prop)
    [DecidablePred rackCounts] (snapshot : ManagedHostStateSnapshot) :
    Decidable (Blocked site config rackCounts snapshot) :=
  inferInstanceAs (Decidable (_ ∨ _ ∨ _ ∨ _))

theorem exists_mem_flatMap {α : Type} {items : List α} {reports : α → List HealthReport} :
    (∃ report ∈ items.flatMap reports, report.Blocks) ↔
      ∃ item ∈ items, ∃ report ∈ reports item, report.Blocks := by
  simp only [mem_flatMap]
  constructor
  · rintro ⟨report, ⟨item, itemMem, reportMem⟩, blocks⟩
    exact ⟨item, itemMem, report, reportMem, blocks⟩
  · rintro ⟨item, itemMem, report, reportMem, blocks⟩
    exact ⟨report, ⟨item, itemMem, reportMem⟩, blocks⟩

theorem not_blocks_clearClassifications (report : HealthReport) :
    ¬report.clearClassifications.Blocks := by
  rw [HealthReport.Blocks, hasClassification_iff]
  rintro ⟨alert, alertMem, classified⟩
  obtain ⟨original, -, rfl⟩ := mem_map.mp alertMem
  cases classified

theorem blocks_heartbeatTimeout (now : Timestamp) (target : String) :
    (heartbeatTimeout now "" target "" true false).Blocks :=
  hasClassification_iff.mpr ⟨_, mem_cons_self, mem_cons_self⟩

theorem overrideReports_block {config : HardwareHealthReportsConfig} {source : String}
    {report : HealthReport} :
    (∃ merged ∈ overrideReports config source report, merged.Blocks) ↔
      Counts config source ∧ report.Blocks := by
  unfold overrideReports Counts
  split
  next isHardware =>
    cases config with
    | disabled => simp [isHardware]
    | monitorOnly => simp [isHardware, not_blocks_clearClassifications]
    | enabled => simp
  next other => simp [other]

variable {site} {suppressDpuAlerts : Bool}

theorem agentReport_blocks {report : Option HealthReport} :
    ((if suppressDpuAlerts then report.map clearClassifications else report).getD
        (.heartbeatTimeout site.now "" "forge-dpu-agent" "" true false)).Blocks ↔
      (∃ found ∈ report, suppressDpuAlerts = false ∧ found.Blocks) ∨ report = none := by
  cases report with
  | none => simp [blocks_heartbeatTimeout]
  | some report => cases suppressDpuAlerts <;> simp [not_blocks_clearClassifications]

variable {config}

theorem dpuReports_block {dpu : DpuMachine} :
    (∃ report ∈ dpuReports site config suppressDpuAlerts dpu, report.Blocks) ↔
      DpuBlocks site config suppressDpuAlerts dpu := by
  unfold dpuReports DpuBlocks
  cases dpu.healthReports.replace with
  | some overriding => exact overrideReports_block
  | none =>
    have merged (entry : String × HealthReport) :
        (∃ report ∈ if entry.1 ≠ dpuAgentSource then
            overrideReports config.hardwareHealthReports entry.1 entry.2 else [],
          report.Blocks) ↔
        entry.1 ≠ dpuAgentSource ∧ Counts config.hardwareHealthReports entry.1 ∧
          entry.2.Blocks := by
      split
      next other => simp only [other, ne_eq, not_false_eq_true, true_and, overrideReports_block]
      next isAgent => simp [isAgent]
    simp only [mem_append, or_and_right, exists_or, mem_singleton, exists_eq_left,
      agentReport_blocks, exists_mem_flatMap, merged, Option.mem_toList, Option.mem_def,
      Option.bind_eq_some_iff]
    constructor
    · rintro ((⟨report, ⟨observation, observed, expired⟩, blocks⟩ | agent | absent) | merge)
      · exact .inl ⟨observation, observed, report, expired, blocks⟩
      · exact .inr (.inl agent)
      · exact .inr (.inr (.inr absent))
      · exact .inr (.inr (.inl merge))
    · rintro (⟨observation, observed, report, expired, blocks⟩ | agent | merge | absent)
      · exact .inl (.inl ⟨report, ⟨observation, observed, expired⟩, blocks⟩)
      · exact .inl (.inr (.inl agent))
      · exact .inr merge
      · exact .inl (.inr (.inr absent))

theorem rackReports_block {overrides : HealthReportSources} :
    (∃ report ∈ overrides.replace.toList ++ overrides.merges.values, report.Blocks) ↔
      RackBlocks (fun _ => True) overrides := by
  simp only [mem_append, or_and_right, exists_or, Option.mem_toList, Option.mem_def,
    RackBlocks, true_and, values, mem_map, exists_exists_and_eq_and]

theorem mergedReports_block :
    (∃ report ∈ snapshot.mergedReports site config, report.Blocks) ↔
      Blocked site config (fun _ => True) snapshot := by
  have timeout : (∃ report ∈ if config.hardwareHealthReports = .enabled ∧
        ¬snapshot.hostSnapshot.hasHardwareHealth then
        [heartbeatTimeout site.now "" "hardware-health" "" true false] else [],
        report.Blocks) ↔
      config.hardwareHealthReports = .enabled ∧ ¬snapshot.hostSnapshot.hasHardwareHealth := by
    split
    next absent => simp [absent, blocks_heartbeatTimeout]
    next other => exact iff_of_false (by simp) other
  have rack : (∃ report ∈ snapshot.rackHealthOverrides.elim [] fun overrides =>
        overrides.replace.toList ++ overrides.merges.values, report.Blocks) ↔
      ∃ overrides ∈ snapshot.rackHealthOverrides, RackBlocks (fun _ => True) overrides := by
    cases snapshot.rackHealthOverrides with
    | none => simp
    | some overrides => simp only [Option.elim_some, rackReports_block, Option.mem_def,
        Option.some.injEq, exists_eq_left']
  unfold mergedReports Blocked
  simp only [mem_append, or_and_right, exists_or, exists_mem_flatMap, dpuReports_block,
    overrideReports_block, timeout, rack, or_assoc]

/-! ## The aggregate -/

theorem not_usable_of_blocks (blocks : snapshot.aggregateHealth.Blocks) :
    snapshot.isUsableAsInstance false ≠ .ok () := by
  unfold isUsableAsInstance
  cases found : snapshot.aggregateHealth.findAlertByClassification preventAllocations with
  | none =>
    rw [HealthReport.Blocks, hasClassification, found] at blocks
    cases blocks
  | some alert =>
    simp only [Bool.false_eq_true, if_false]
    intro usable
    repeat (split at usable; · cases usable)
    cases usable

/-- The aggregate health of a host without a replace override prevents allocations exactly if one
of the sources does, all reports of the rack among them, and then the host is not usable. -/
theorem blocks_iff_blocked {site : Site} {config : HostHealthConfig}
    {snapshot : ManagedHostStateSnapshot}
    (noReplace : snapshot.hostSnapshot.healthReports.replace = none) :
    ((snapshot.deriveAggregateHealth site config).aggregateHealth.Blocks ↔
      Blocked site config (fun _ => True) snapshot) ∧
    (Blocked site config (fun _ => True) snapshot →
      (snapshot.deriveAggregateHealth site config).isUsableAsInstance false ≠ .ok ()) := by
  have exactly : (snapshot.deriveAggregateHealth site config).aggregateHealth.Blocks ↔
      Blocked site config (fun _ => True) snapshot := by
    rw [← mergedReports_block, HealthReport.Blocks, hasClassification_iff,
      alerts_aggregateHealth site config noReplace, ← hasClassification_iff,
      hasClassification_mergeAll]
    rfl
  exact ⟨exactly, fun blocked => not_usable_of_blocks (exactly.mpr blocked)⟩

/-- The aggregate prevents allocations exactly if a source that counts does, and then the host is
not usable. -/
def AggregatesCounted (site : Site) (config : HostHealthConfig)
    (snapshot : ManagedHostStateSnapshot) : Prop :=
  ((snapshot.deriveAggregateHealth site config).aggregateHealth.Blocks ↔
    Blocked site config (Counts config.hardwareHealthReports) snapshot) ∧
  (Blocked site config (Counts config.hardwareHealthReports) snapshot →
    (snapshot.deriveAggregateHealth site config).isUsableAsInstance false ≠ .ok ())

theorem rackBlocks_or_not (counts : String → Prop) {overrides : HealthReportSources} :
    RackBlocks (fun _ => True) overrides ↔
      RackBlocks counts overrides ∨ RackBlocks (fun source => ¬ counts source) overrides := by
  unfold RackBlocks
  grind

/-- This holds exactly if a rack whose source does not count prevents allocations only where
another source does. -/
theorem aggregatesCounted_iff {site : Site} {config : HostHealthConfig}
    {snapshot : ManagedHostStateSnapshot}
    (noReplace : snapshot.hostSnapshot.healthReports.replace = none) :
    AggregatesCounted site config snapshot ↔ ∀ overrides ∈ snapshot.rackHealthOverrides,
      RackBlocks (fun source => ¬ Counts config.hardwareHealthReports source) overrides →
        Blocked site config (Counts config.hardwareHealthReports) snapshot := by
  obtain ⟨exactly, unusable⟩ := @blocks_iff_blocked site config _ noReplace
  have all : Blocked site config (fun _ => True) snapshot ↔
      Blocked site config (Counts config.hardwareHealthReports) snapshot ∨
        ∃ overrides ∈ snapshot.rackHealthOverrides,
          RackBlocks (fun source => ¬ Counts config.hardwareHealthReports source) overrides := by
    simp only [Blocked, rackBlocks_or_not (Counts config.hardwareHealthReports),
      and_or_left, exists_or, or_assoc]
  rw [AggregatesCounted, exactly]
  constructor
  · rintro ⟨same, -⟩ overrides found blocks
    exact same.mp (all.mpr (.inr ⟨overrides, found, blocks⟩))
  · intro condition
    refine ⟨⟨fun blocked => ?_, fun counted => all.mpr (.inl counted)⟩,
      fun counted => unusable (all.mpr (.inl counted))⟩
    obtain counted | ⟨overrides, found, blocks⟩ := all.mp blocked
    · exact counted
    · exact condition overrides found blocks

def plainSite : Site := ⟨100, "v2", fun _ => "time"⟩

/-- A ready host with one DPU and a leak in its rack. -/
def leakingRack : ManagedHostStateSnapshot where
  hostSnapshot := ⟨⟨none, empty⟩, false, none, none, ["dpu0"]⟩
  dpuSnapshots := [⟨⟨none, empty.insert dpuAgentSource (.empty 90 dpuAgentSource)⟩,
    some ⟨"dpu0", some "v2", none⟩⟩]
  instanceId := none
  managedState := .ready
  aggregateHealth := .empty 0 ""
  rackHealthOverrides := some ⟨none,
    empty.insert "hardware-health.rack-leak-detection"
      ⟨"hardware-health.rack-leak-detection", none, some 95, [],
        [⟨"BmcLeakDetection", some "tray-1", none, "leak", none,
          [preventAllocations, "Hardware"]⟩]⟩⟩

theorem aggregatesCounted_leakingRack :
    Blocked plainSite ⟨.enabled, 60, true⟩ (Counts .enabled) leakingRack ∧
      AggregatesCounted plainSite ⟨.enabled, 60, true⟩ leakingRack := by
  have blocked : Blocked plainSite ⟨.enabled, 60, true⟩ (Counts .enabled) leakingRack := by
    decide +kernel
  exact ⟨blocked, (aggregatesCounted_iff rfl).mpr fun _ _ _ => blocked⟩

/-- The rack's report of the hardware health prevents allocations while the hardware health is
disabled. -/
theorem not_blocked_of_leakingRack :
    leakingRack.hostSnapshot.healthReports.replace = none ∧
      (leakingRack.deriveAggregateHealth plainSite ⟨.disabled, 60, true⟩).aggregateHealth.Blocks ∧
      ¬Blocked plainSite ⟨.disabled, 60, true⟩ (Counts .disabled) leakingRack :=
  ⟨rfl, by decide +kernel, by decide +kernel⟩

end Health
