import BareMetalManager.Lib.BTreeMap
import Mathlib.Data.Prod.Lex
import Mathlib.Data.String.Basic
import Mathlib.Order.WithBot

/-!
# Health reports and the aggregate health of a host

`health-report/src/lib.rs`: a report lists the probes that succeeded and the alerts that probes
have raised. Two reports are merged by the id and the target of the probe. `machine/mod.rs`: the
reports of the DPUs, the host and the rack are merged into the aggregate health, from which
`is_usable_as_instance` reads whether the host may be allocated.
-/

namespace Health

open Collections

/-- Nanoseconds. -/
abbrev Timestamp := Int

abbrev HealthProbeId := String

abbrev HealthAlertClassification := String

def preventAllocations : HealthAlertClassification := "PreventAllocations"

def preventHostStateChanges : HealthAlertClassification := "PreventHostStateChanges"

def suppressExternalAlerting : HealthAlertClassification := "SuppressExternalAlerting"

/-- The id and the target of a probe. An absent target comes first. -/
abbrev Probe := HealthProbeId ×ₗ WithBot String

structure HealthProbeSuccess where
  id : HealthProbeId
  target : Option String
  deriving DecidableEq, Repr

structure HealthProbeAlert where
  id : HealthProbeId
  target : Option String
  inAlertSince : Option Timestamp
  message : String
  tenantMessage : Option String
  classifications : List HealthAlertClassification
  deriving DecidableEq, Repr

structure HealthReport where
  source : String
  triggeredBy : Option String
  observedAt : Option Timestamp
  successes : List HealthProbeSuccess
  alerts : List HealthProbeAlert
  deriving DecidableEq, Repr

def HealthProbeSuccess.probe (success : HealthProbeSuccess) : Probe :=
  toLex (success.id, success.target)

def HealthProbeAlert.probe (alert : HealthProbeAlert) : Probe := toLex (alert.id, alert.target)

def HealthProbeSuccess.ofProbe (probe : Probe) : HealthProbeSuccess :=
  ⟨(ofLex probe).1, (ofLex probe).2⟩

/-! ## Alerts -/

/-- `HealthProbeAlert::heartbeat_timeout`. -/
def HealthProbeAlert.heartbeatTimeout (now : Timestamp) (target message : String)
    (preventsAllocations suppressesExternalAlerting : Bool) : HealthProbeAlert where
  id := "HeartbeatTimeout"
  target := some target
  inAlertSince := some now
  message := message
  tenantMessage := none
  classifications := (if preventsAllocations then [preventAllocations] else []) ++
    [preventHostStateChanges] ++
    if suppressesExternalAlerting then [suppressExternalAlerting] else []

/-- `HealthProbeAlert::stale_agent_version`. -/
def HealthProbeAlert.staleAgentVersion (now : Timestamp) (dpuId message : String)
    (preventsAllocations : Bool) : HealthProbeAlert where
  id := "StaleAgentVersion"
  target := some dpuId
  inAlertSince := some now
  message := message
  tenantMessage := none
  classifications := if preventsAllocations then [preventAllocations] else []

/-- The earlier of two times, where one may be absent. -/
def earlier : Option Timestamp → Option Timestamp → Option Timestamp
  | some left, some right => some (min left right)
  | some left, none => some left
  | none, some right => some right
  | none, none => none

/-- `merge_classifications`. -/
def mergeClassifications (left right : List HealthAlertClassification) :
    List HealthAlertClassification :=
  let set := left.foldl .insert .empty
  (right.foldl BTreeSet.insert set).elems

/-- `HealthProbeAlert::merge`. -/
def HealthProbeAlert.merge (self other : HealthProbeAlert) : HealthProbeAlert where
  id := self.id
  target := self.target
  classifications := mergeClassifications self.classifications other.classifications
  message :=
    if self.message = "" then other.message
    else if other.message ≠ "" then self.message ++ "\n" ++ other.message
    else self.message
  tenantMessage :=
    match self.tenantMessage, other.tenantMessage with
    | some left, some right => some (left ++ "\n" ++ right)
    | some left, none => some left
    | none, some right => some right
    | none, none => none
  inAlertSince := earlier other.inAlertSince self.inAlertSince

/-! ## Reports -/

variable (now : Timestamp)

/-- `HealthReport::empty`. -/
def HealthReport.empty (source : String) : HealthReport :=
  ⟨source, none, some now, [], []⟩

/-- `HealthReport::heartbeat_timeout`. -/
def HealthReport.heartbeatTimeout (source target message : String)
    (preventsAllocations suppressesExternalAlerting : Bool) : HealthReport :=
  ⟨source, none, some now, [],
    [.heartbeatTimeout now target message preventsAllocations suppressesExternalAlerting]⟩

/-- `HealthReport::stale_agent_version`. -/
def HealthReport.staleAgentVersion (source dpuId message : String) (preventsAllocations : Bool) :
    HealthReport :=
  ⟨source, none, some now, [], [.staleAgentVersion now dpuId message preventsAllocations]⟩

variable (self : HealthReport) (classification : HealthAlertClassification)

/-- `find_alert_by_classification`. -/
def HealthReport.findAlertByClassification : Option HealthProbeAlert :=
  self.alerts.find? fun alert => classification ∈ alert.classifications

/-- `has_classification`. -/
def HealthReport.hasClassification : Bool :=
  (self.findAlertByClassification classification).isSome

/-- The alerts of `self` are written over each other, those of `other` are merged. An alert takes
precedence over a success. -/
def HealthReport.merge (self other : HealthReport) : HealthReport :=
  let successes := self.successes.foldl (fun set success => set.insert success.probe) BTreeSet.empty
  let successes := other.successes.foldl (fun set success => set.insert success.probe) successes
  let maps := self.alerts.foldl
    (fun maps alert => (maps.1.remove alert.probe, maps.2.insert alert.probe alert))
    (successes, BTreeMap.empty)
  let maps := other.alerts.foldl
    (fun maps alert => (maps.1.remove alert.probe, maps.2.upsert .merge alert.probe alert)) maps
  { self with
    observedAt := earlier self.observedAt other.observedAt
    successes := maps.1.elems.map .ofProbe
    alerts := maps.2.values }

def HealthReport.mergeAll (others : List HealthReport) : HealthReport :=
  others.foldl .merge self

/-! ## Snapshots -/

inductive HardwareHealthReportsConfig where
  | disabled
  | monitorOnly
  | enabled
  deriving DecidableEq, Repr

structure HostHealthConfig where
  hardwareHealthReports : HardwareHealthReportsConfig
  dpuAgentVersionStalenessThreshold : Int
  preventAllocationsOnStaleDpuAgentVersion : Bool

structure HealthReportSources where
  replace : Option HealthReport
  merges : BTreeMap String HealthReport

/-- The states, without what no decision here reads. -/
inductive ManagedHostState where
  | dpuDiscoveringState
  | dpuInit
  | hostInit
  | validation
  | ready
  | decommissioning
  | reset
  | bootConfiguring
  | maintenance
  | assigned
  | waitingForCleanup
  | forceDeletion
  | created
  | configureAstra
  | failed
  | dpuReprovision
  | hostReprovision
  | rotatingBmc
  | rotatingHostUefi
  | rotatingDpuUefi
  | rotatingNicLockdown
  | measuring
  | postAssignedMeasuring
  | preAssignedMeasuring
  | startAssignmentCycle
  | bomValidating
  deriving DecidableEq, Repr

structure MachineNetworkStatusObservation where
  machineId : String
  agentVersion : Option String
  agentVersionSupersededAt : Option Timestamp

structure DpuMachine where
  healthReports : HealthReportSources
  networkStatusObservation : Option MachineNetworkStatusObservation

structure HostMachine where
  healthReports : HealthReportSources
  machineMaintenanceRequested : Bool
  desiredBootInterfaceVersion : Option Nat
  observedBootInterfaceVersion : Option Nat
  associatedDpuMachineIds : List String

structure ManagedHostStateSnapshot where
  hostSnapshot : HostMachine
  dpuSnapshots : List DpuMachine
  instanceId : Option String
  managedState : ManagedHostState
  aggregateHealth : HealthReport
  rackHealthOverrides : Option HealthReportSources

inductive NotAllocatableReason where
  | invalidState (state : ManagedHostState)
  | pendingInstanceCreation
  | pendingBootConfiguration
  | noDpuSnapshots
  | maintenanceMode
  | healthAlert (alert : HealthProbeAlert)

/-- The time, the version of the build and how times are written. -/
structure Site where
  now : Timestamp
  buildVersion : String
  toRfc3339 : Timestamp → String

/-! ## Sources -/

def dpuAgentSource : String := "forge-dpu-agent"

/-- `is_hardware_health_override_source`. -/
def isHardwareHealthOverrideSource (source : String) : Bool :=
  "hardware-health.".toList.isPrefixOf source.toList

/-- `suppress_dpu_alerts`. -/
def ManagedHostState.suppressDpuAlerts : ManagedHostState → Bool
  | dpuDiscoveringState | dpuInit | dpuReprovision => true
  | _ => false

/-- `dpu_agent_health_report`. -/
def DpuMachine.dpuAgentHealthReport (dpu : DpuMachine) : Option HealthReport :=
  dpu.healthReports.merges.get? dpuAgentSource

/-- `expired_version_health_report`. -/
def MachineNetworkStatusObservation.expiredVersionHealthReport (site : Site)
    (observation : MachineNetworkStatusObservation) (stalenessThreshold : Int)
    (preventsAllocations : Bool) : Option HealthReport :=
  match observation.agentVersion with
  | none => some (.staleAgentVersion site.now "forge-dpu-agent" observation.machineId
      "Agent version is not known" preventsAllocations)
  | some agentVersion =>
    if agentVersion = site.buildVersion then none
    else
      match observation.agentVersionSupersededAt with
      | none => none
      | some supersededAt =>
        if site.now - supersededAt > stalenessThreshold then
          some (.staleAgentVersion site.now "forge-dpu-agent" observation.machineId
            ("Agent version is " ++ agentVersion ++ ", which is out of date since " ++
              site.toRfc3339 supersededAt) preventsAllocations)
        else none

def HealthReport.clearClassifications (report : HealthReport) : HealthReport :=
  { report with alerts := report.alerts.map fun alert => { alert with classifications := [] } }

/-! ## Aggregation -/

/-- `merge_override_report_with_hw_health`: the output, the report as it is left, and whether it
is one of the hardware health. -/
def mergeOverrideReportWithHwHealth (output : HealthReport) (source : String)
    (report : HealthReport) (config : HardwareHealthReportsConfig) :
    HealthReport × HealthReport × Bool :=
  if isHardwareHealthOverrideSource source then
    match config with
    | .disabled => (output, report, true)
    | .monitorOnly =>
      let report := report.clearClassifications
      (output.merge report, report, true)
    | .enabled => (output.merge report, report, true)
  else (output.merge report, report, false)

def mergeOrTimeout (now : Timestamp) (output : HealthReport) (input : Option HealthReport)
    (target : String) : HealthReport :=
  match input with
  | some input => output.merge input
  | none => output.merge (.heartbeatTimeout now "" target "" true false)

/-- The part of the loop over the DPUs for one DPU, which is left with its reports changed. -/
def mergeDpu (site : Site) (config : HostHealthConfig) (suppressDpuAlerts : Bool)
    (output : HealthReport) (dpu : DpuMachine) : HealthReport × DpuMachine :=
  match dpu.healthReports.replace with
  | some overriding =>
    let merged := mergeOverrideReportWithHwHealth output overriding.source overriding
      config.hardwareHealthReports
    (merged.1, { dpu with healthReports := { dpu.healthReports with replace := merged.2.1 } })
  | none =>
    let healthReport := if suppressDpuAlerts then
        dpu.dpuAgentHealthReport.map .clearClassifications
      else dpu.dpuAgentHealthReport
    let expired := dpu.networkStatusObservation.bind fun observation =>
      observation.expiredVersionHealthReport site config.dpuAgentVersionStalenessThreshold
        config.preventAllocationsOnStaleDpuAgentVersion
    let output := expired.elim output output.merge
    let output := mergeOrTimeout site.now output healthReport "forge-dpu-agent"
    let merged := dpu.healthReports.merges.accumulate (fun output source overriding =>
      if source ≠ dpuAgentSource then
        let merged := mergeOverrideReportWithHwHealth output source overriding
          config.hardwareHealthReports
        (merged.1, merged.2.1)
      else (output, overriding)) output
    (merged.1, { dpu with healthReports := { dpu.healthReports with merges := merged.2 } })

def mergeDpus (site : Site) (config : HostHealthConfig) (suppressDpuAlerts : Bool) :
    HealthReport → List DpuMachine → HealthReport × List DpuMachine
  | output, [] => (output, [])
  | output, dpu :: dpus =>
    let merged := mergeDpu site config suppressDpuAlerts output dpu
    let rest := mergeDpus site config suppressDpuAlerts merged.1 dpus
    (rest.1, merged.2 :: rest.2)

/-- The loop over the reports of the host, with whether one is of the hardware health. -/
def mergeHost (config : HostHealthConfig) (output : HealthReport) (host : HostMachine) :
    (HealthReport × Bool) × HostMachine :=
  let merged := host.healthReports.merges.accumulate (fun state source overriding =>
    let merged := mergeOverrideReportWithHwHealth state.1 source overriding
      config.hardwareHealthReports
    ((merged.1, state.2 || merged.2.2), merged.2.1)) (output, false)
  (merged.1, { host with healthReports := { host.healthReports with merges := merged.2 } })

def mergeRack (output : HealthReport) : Option HealthReportSources → HealthReport
  | none => output
  | some rackOverrides =>
    let output := rackOverrides.replace.elim output output.merge
    rackOverrides.merges.values.foldl .merge output

/-- `derive_aggregate_health`. -/
def ManagedHostStateSnapshot.deriveAggregateHealth (site : Site) (config : HostHealthConfig)
    (snapshot : ManagedHostStateSnapshot) : ManagedHostStateSnapshot :=
  match snapshot.hostSnapshot.healthReports.replace with
  | some overriding =>
    { snapshot with
      aggregateHealth :=
        { overriding with source := "aggregate-host-health", observedAt := some site.now } }
  | none =>
    let dpus := mergeDpus site config snapshot.managedState.suppressDpuAlerts
      (.empty site.now "") snapshot.dpuSnapshots
    let host := mergeHost config dpus.1 snapshot.hostSnapshot
    let output :=
      if config.hardwareHealthReports = .enabled ∧ ¬host.1.2 then
        mergeOrTimeout site.now host.1.1 none "hardware-health"
      else host.1.1
    let output := mergeRack output snapshot.rackHealthOverrides
    { snapshot with
      hostSnapshot := host.2
      dpuSnapshots := dpus.2
      aggregateHealth :=
        { output with source := "aggregate-host-health", observedAt := some site.now } }

/-! ## Allocation -/

/-- `maintenance_override`, or rather whether there is one. -/
def HealthReportSources.hasMaintenanceOverride (sources : HealthReportSources) : Bool :=
  (sources.merges.get? "maintenance").any fun overriding =>
    overriding.alerts.any (·.id = "Maintenance")

/-- `pending_boot_interface_config_version`. -/
def HostMachine.pendingBootInterfaceConfigVersion (host : HostMachine) : Option Nat :=
  host.desiredBootInterfaceVersion.filter fun version =>
    some version ≠ host.observedBootInterfaceVersion

/-- `is_usable_as_instance`. -/
def ManagedHostStateSnapshot.isUsableAsInstance (snapshot : ManagedHostStateSnapshot)
    (allowUnhealthy : Bool) : Except NotAllocatableReason Unit :=
  if snapshot.managedState ≠ .ready then .error (.invalidState snapshot.managedState)
  else if snapshot.instanceId.isSome then .error .pendingInstanceCreation
  else if snapshot.hostSnapshot.machineMaintenanceRequested ∨
      snapshot.hostSnapshot.healthReports.hasMaintenanceOverride then .error .maintenanceMode
  else if snapshot.hostSnapshot.pendingBootInterfaceConfigVersion.isSome then
    .error .pendingBootConfiguration
  else if snapshot.dpuSnapshots = [] ∧ snapshot.hostSnapshot.associatedDpuMachineIds ≠ [] then
    .error .noDpuSnapshots
  else
    match snapshot.aggregateHealth.findAlertByClassification preventAllocations with
    | some alert => if allowUnhealthy then .ok () else .error (.healthAlert alert)
    | none => .ok ()

end Health
