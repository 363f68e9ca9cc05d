import BareMetalManager.ApiModel.Instance.NetworkConfig
import BareMetalManager.ConfigVersion
import BareMetalManager.Lib.StableSort

/-!
# The network status of an instance

How `crates/api-model/src/instance/status/network.rs` derives the status that a tenant sees from
the configuration and from what the agents on the DPUs have observed. The maps of the source are
lists of entries; the observations are in the order in which the used DPUs are iterated.
-/

namespace ApiModel.Instance

open Network ApiCore ApiCore.Instance Versions List InterfaceConfig

abbrev DpuMachineId := Nat

inductive SyncState where
  | synced
  | pending
  deriving DecidableEq

structure InterfaceStatus where
  functionId : InterfaceFunctionId
  macAddress : Option MacAddress
  addresses : List IpAddr
  prefixes : List IpNet
  gateways : List IpNet
  vpcId : Option VpcId
  resolvedVpcPrefixes : Option ResolvedVpcPrefixes
  device : Option String
  deviceInstance : Nat
  deriving DecidableEq

structure InstanceNetworkStatus where
  interfaces : List InterfaceStatus
  configsSynced : SyncState
  deriving DecidableEq

/-- What an agent reports about one interface. -/
structure InterfaceStatusObservation where
  functionId : InterfaceFunctionId
  macAddress : Option MacAddress
  addresses : List IpAddr
  prefixes : List IpNet
  gateways : List IpNet
  deriving DecidableEq

structure InstanceNetworkStatusObservation where
  configVersion : ConfigVersion
  interfaces : List InterfaceStatusObservation
  deriving DecidableEq

abbrev Observations := List (DpuMachineId × InstanceNetworkStatusObservation)

abbrev DeviceMap := String → Option (List DpuMachineId)

/-! ## The parts of a status -/

namespace InterfaceConfig

variable (interface : InterfaceConfig)

def unobservedStatus : InterfaceStatus where
  functionId := interface.functionId
  macAddress := none
  addresses := []
  prefixes := []
  gateways := []
  vpcId := interface.vpcId
  resolvedVpcPrefixes := interface.resolvedVpcPrefixes
  device := interface.deviceLocator.map DeviceLocator.device
  deviceInstance := (interface.deviceLocator.map DeviceLocator.deviceInstance).getD 0

def observedStatus (observed : InterfaceStatusObservation) : InterfaceStatus :=
  { interface.unobservedStatus with
    macAddress := observed.macAddress
    addresses := observed.addresses
    prefixes := observed.prefixes
    gateways := observed.gateways }

section Inband

variable [Ipnetwork]

/-- The prefix of a host address: that of the interface, or else that of the gateway. -/
def hostPrefix (interface : InterfaceConfig) (id : NetworkPrefixId) : Option IpNet :=
  interface.interfacePrefixes.lookup id <|>
    (interface.networkSegmentGateways.lookup id).bind fun gateway =>
      IpNet.new (Ipnetwork.network gateway) gateway.prefixLen

def fromHostInbandInterface (interface : InterfaceConfig) : InterfaceStatus :=
  let entries := StableSort.sortBy
    (fun entry => toLex (decide (entry.2.addressFamily = .ipv6), entry.2.bits)) interface.ipAddrs
  { functionId := interface.functionId
    macAddress := interface.hostInbandMacAddress
    addresses := entries.map Prod.snd
    prefixes := (entries.mapM fun entry => interface.hostPrefix entry.1).getD []
    gateways := entries.filterMap fun entry => interface.networkSegmentGateways.lookup entry.1
    vpcId := interface.vpcId
    resolvedVpcPrefixes := interface.resolvedVpcPrefixes
    device := none
    deviceInstance := 0 }

end Inband

end InterfaceConfig

def dpuOfLocator (devices : DeviceMap) (locator : DeviceLocator) : Option DpuMachineId :=
  (devices locator.device).bind fun ids => ids[locator.deviceInstance]?

namespace InstanceNetworkStatusObservation

def find? (observation : InstanceNetworkStatusObservation) (functionId : InterfaceFunctionId) :
    Option InterfaceStatusObservation :=
  observation.interfaces.find? fun observed => observed.functionId = functionId

end InstanceNetworkStatusObservation

/-! ## The status -/

def usedObservations (observations : Observations) : Observations :=
  observations.filter fun entry => !entry.2.interfaces.isEmpty

def unsynchronizedForConfig (interfaces : List InterfaceConfig) : InstanceNetworkStatus :=
  ⟨interfaces.map unobservedStatus, .pending⟩

/-- The status of an interface with what was observed about it, if anything, and the state of
the result. -/
def InterfaceConfig.contribution (interface : InterfaceConfig) (unobserved : SyncState)
    (observed : Option InterfaceStatusObservation) : InterfaceStatus × SyncState :=
  observed.elim (interface.unobservedStatus, unobserved)
    fun observed => (interface.observedStatus observed, .synced)

/-- The contribution of one interface. `none` stands for the return from the whole
function. -/
def interfaceContribution (devices : DeviceMap) (interfaces : List InterfaceConfig)
    (observations : Observations) (interface : InterfaceConfig) :
    Option (InterfaceStatus × SyncState) :=
  match interface.deviceLocator.bind (dpuOfLocator devices) with
  | some dpu =>
    match observations.lookup dpu with
    | some observation =>
      some (interface.contribution .pending (observation.find? interface.functionId))
    | none => some (interface.unobservedStatus, .pending)
  | none =>
    if 1 < interfaces.countP (fun other => other.functionId = .physical) then none
    else
      match observations with
      | [] => none
      | (_, observation) :: _ =>
        -- nothing observed is reported, but the state of the result is not touched
        some (interface.contribution .synced (observation.find? interface.functionId))

def collectStatus (contribution : InterfaceConfig → Option (InterfaceStatus × SyncState)) :
    List InterfaceConfig → InstanceNetworkStatus → Option InstanceNetworkStatus
  | [], status => some status
  | interface :: rest, status =>
    match contribution interface with
    | none => none
    | some (interfaceStatus, state) =>
      collectStatus contribution rest
        ⟨status.interfaces ++ [interfaceStatus],
          if state = .pending then .pending else status.configsSynced⟩

section Status

variable [Ipnetwork]

def synchronizedFromHostInterfaces (interfaces : List InterfaceConfig) : InstanceNetworkStatus :=
  ⟨interfaces.map fromHostInbandInterface, .synced⟩

def fromConfigAndObservations (devices : DeviceMap) (version : ConfigVersion)
    (interfaces : List InterfaceConfig) (observations : Observations)
    (isNetworkConfigRequestPending : Bool) : InstanceNetworkStatus :=
  if isNetworkConfigRequestPending then unsynchronizedForConfig interfaces
  else if observations.any fun entry => entry.2.configVersion ≠ version then
    unsynchronizedForConfig interfaces
  else
    -- a DPU without interfaces is not in use
    let used := usedObservations observations
    if used.isEmpty then
      if interfaces.all isHostInband then synchronizedFromHostInterfaces interfaces
      else unsynchronizedForConfig interfaces
    else
      (collectStatus (interfaceContribution devices interfaces used) interfaces
        ⟨[], .synced⟩).getD (unsynchronizedForConfig interfaces)

end Status

/-! ## Honesty -/

variable (primaryDpu : Option DpuMachineId) (devices : DeviceMap) (observations : Observations)
  (interface : InterfaceConfig)

/-- The DPU that an interface is located on. Without a locator it is the primary DPU. -/
def locatedOn : Option DpuMachineId :=
  match interface.deviceLocator with
  | some locator => dpuOfLocator devices locator
  | none => primaryDpu

def observedOn (functionId : InterfaceFunctionId) (dpu : DpuMachineId) :
    Option InterfaceStatusObservation :=
  ((usedObservations observations).lookup dpu).bind fun observation =>
    observation.find? functionId

def observedFor : Option InterfaceStatusObservation :=
  (locatedOn primaryDpu devices interface).bind (observedOn observations interface.functionId)

structure InterfaceStatus.Copies (status : InterfaceStatus)
    (observed : InterfaceStatusObservation) :
    Prop where
  macAddress : status.macAddress = observed.macAddress
  addresses : status.addresses = observed.addresses
  prefixes : status.prefixes = observed.prefixes
  gateways : status.gateways = observed.gateways

variable (version : ConfigVersion) (interfaces : List InterfaceConfig)

/-- The interface was observed where it is located, and the status copies what was observed. -/
def ShowsObserved (status : InterfaceStatus) : Prop :=
  ∃ observed, observedFor primaryDpu devices observations interface = some observed ∧
    status.Copies observed

/-- A status is honest: it lists the configured interfaces, is synchronized only if nothing is
pending, everything was observed for this version and every interface has what was observed about
it, and is pending as soon as an interface, other than those of the host, was not observed. -/
structure Honest (observations : Observations) (requestPending : Bool)
    (status : InstanceNetworkStatus) : Prop where
  functions : status.interfaces.map InterfaceStatus.functionId =
    interfaces.map functionId
  synced : status.configsSynced = .synced → requestPending = false ∧
    (∀ entry ∈ observations, entry.2.configVersion = version) ∧
    (interfaces.all isHostInband = false →
      List.Forall₂ (ShowsObserved primaryDpu devices observations) interfaces status.interfaces)
  unobserved : interfaces.all isHostInband = false →
    (∃ interface ∈ interfaces, observedFor primaryDpu devices observations interface = none) →
      status.configsSynced = .pending

/-- The DPU that the locator of an interface leads to, if there is one. -/
def resolvedDpu : Option DpuMachineId :=
  interface.deviceLocator.bind (dpuOfLocator devices)

/-- The status comes to depend on interfaces without a usable locator: nothing else keeps it
from being synchronized. -/
structure DependsOnUnlocated (observations : Observations) (requestPending : Bool) : Prop where
  notPending : requestPending = false
  versions : ∀ entry ∈ observations, entry.2.configVersion = version
  used : usedObservations observations ≠ []
  notInband : interfaces.all isHostInband = false
  located : ∀ interface ∈ interfaces, ∀ dpu ∈ resolvedDpu devices interface,
    (observedOn observations interface.functionId dpu).isSome = true
  onePhysical : (∃ interface ∈ interfaces, resolvedDpu devices interface = none) →
    interfaces.countP (fun other => other.functionId = .physical) ≤ 1

/-- The status of an interface with what was observed on the DPU that its locator leads to, or
else on the DPU in use that comes first. -/
def shownStatus : InterfaceStatus :=
  (interface.contribution .synced
    (((resolvedDpu devices interface).or ((usedObservations observations).head?.map Prod.fst)).bind
      (observedOn observations interface.functionId))).1

/-! ## The loop -/

section Loop

variable {contribution : InterfaceConfig → Option (InterfaceStatus × SyncState)}
  {interfaces : List InterfaceConfig} {status result : InstanceNetworkStatus}

theorem functions_collectStatus
    (keeps : ∀ interface part, contribution interface = some part →
      part.1.functionId = interface.functionId)
    (collected : collectStatus contribution interfaces status = some result) :
    result.interfaces.map InterfaceStatus.functionId =
      status.interfaces.map InterfaceStatus.functionId ++ interfaces.map functionId := by
  induction interfaces generalizing status with
  | nil =>
    cases collected
    simp
  | cons interface rest ih =>
    rw [collectStatus] at collected
    split at collected
    next => cases collected
    next part state contributed =>
      have same : part.functionId = interface.functionId := keeps interface _ contributed
      simp [ih collected, same]

/-- An interface that contributes a pending state leaves the result pending. -/
theorem synced_of_collectStatus
    (collected : collectStatus contribution interfaces status = some result)
    (synced : result.configsSynced = .synced) :
    status.configsSynced = .synced ∧
      ∀ interface ∈ interfaces, ∃ part, contribution interface = some (part, .synced) := by
  induction interfaces generalizing status with
  | nil =>
    cases collected
    exact ⟨synced, by simp⟩
  | cons interface rest ih =>
    rw [collectStatus] at collected
    split at collected
    next => cases collected
    next part state contributed =>
      obtain ⟨before, later⟩ := ih collected
      cases state with
      | pending => cases before
      | synced => exact ⟨before, forall_mem_cons.mpr ⟨⟨part, contributed⟩, later⟩⟩

theorem collectStatus_eq_some {shown : InterfaceConfig → InterfaceStatus}
    (contributes : ∀ interface ∈ interfaces,
      contribution interface = some (shown interface, .synced)) :
    collectStatus contribution interfaces status =
      some ⟨status.interfaces ++ interfaces.map shown, status.configsSynced⟩ := by
  induction interfaces generalizing status with
  | nil => simp [collectStatus]
  | cons interface rest ih =>
    obtain ⟨here, later⟩ := forall_mem_cons.mp contributes
    simp [collectStatus, here, ih later]

end Loop

section Contribution

variable {devices interfaces observations interface}

@[simp] theorem functionId_contribution (unobserved : SyncState)
    (observed : Option InterfaceStatusObservation) :
    (interface.contribution unobserved observed).1.functionId = interface.functionId := by
  cases observed <;> rfl

theorem functionId_of_contribution {used : Observations} {part : InterfaceStatus × SyncState}
    (contributed : interfaceContribution devices interfaces used interface = some part) :
    part.1.functionId = interface.functionId := by
  revert contributed
  fun_cases interfaceContribution devices interfaces used interface
  all_goals
    intro contributed
    first
    | obtain rfl := Option.some.inj contributed
    | cases contributed
  all_goals first | rfl | exact functionId_contribution _ _

/-- When an interface does not keep the result from being synchronized, and what it contributes.
One without a usable locator ends the function if there are several physical interfaces. -/
theorem contribution_synced_iff (used : usedObservations observations ≠ [])
    {status : InterfaceStatus} :
    interfaceContribution devices interfaces (usedObservations observations) interface =
        some (status, .synced) ↔
      shownStatus devices observations interface = status ∧
      (∀ dpu ∈ resolvedDpu devices interface,
        (observedOn observations interface.functionId dpu).isSome = true) ∧
      (resolvedDpu devices interface = none →
        interfaces.countP (fun other => other.functionId = .physical) ≤ 1) := by
  unfold shownStatus interfaceContribution observedOn
  cases resolved : resolvedDpu devices interface with
  | some dpu =>
    rw [resolvedDpu] at resolved
    cases observed : (usedObservations observations).lookup dpu with
    | none => simp [resolved, observed]
    | some observation =>
      cases found : observation.find? interface.functionId <;>
        simp [resolved, observed, found, contribution]
  | none =>
    rw [resolvedDpu] at resolved
    cases usedEq : usedObservations observations with
    | nil => exact absurd usedEq used
    | cons first rest =>
      obtain ⟨dpu, observation⟩ := first
      cases found : observation.find? interface.functionId <;>
        simp [resolved, found, contribution, and_comm]

end Contribution

section Status

variable [Ipnetwork] {primaryDpu : Option DpuMachineId} {devices : DeviceMap}
  {version : ConfigVersion} {interfaces : List InterfaceConfig} {observations : Observations}
  {requestPending : Bool}

omit [Ipnetwork] in
theorem functions_unsynchronizedForConfig (interfaces : List InterfaceConfig) :
    (unsynchronizedForConfig interfaces).interfaces.map InterfaceStatus.functionId =
      interfaces.map functionId := by
  simp [unsynchronizedForConfig, unobservedStatus]

theorem functions_fromConfigAndObservations :
    (fromConfigAndObservations devices version interfaces observations
        requestPending).interfaces.map InterfaceStatus.functionId =
      interfaces.map functionId := by
  have unsynchronized := functions_unsynchronizedForConfig interfaces
  rw [fromConfigAndObservations]
  split
  · exact unsynchronized
  split
  · exact unsynchronized
  simp only
  split
  · split
    · simp [synchronizedFromHostInterfaces, fromHostInbandInterface]
    · exact unsynchronized
  cases collected : collectStatus
      (interfaceContribution devices interfaces (usedObservations observations)) interfaces
      ⟨[], .synced⟩ with
  | none => exact unsynchronized
  | some result =>
    exact functions_collectStatus (fun _ _ => functionId_of_contribution) collected

/-- A synchronized status was not pending and its observations are of its version. -/
theorem of_synced (synced : (fromConfigAndObservations devices version interfaces observations
      requestPending).configsSynced = .synced) :
    requestPending = false ∧ ∀ entry ∈ observations, entry.2.configVersion = version := by
  rw [fromConfigAndObservations] at synced
  split at synced
  · cases synced
  · rename_i notPending
    split at synced
    · cases synced
    · rename_i agree
      exact ⟨by simpa using notPending, by simpa using agree⟩

/-- The status when nothing is pending, the versions agree and DPUs are in use. -/
theorem fromConfigAndObservations_of_used (notPending : requestPending = false)
    (versions : ∀ entry ∈ observations, entry.2.configVersion = version)
    (used : usedObservations observations ≠ []) :
    fromConfigAndObservations devices version interfaces observations requestPending =
      (collectStatus (interfaceContribution devices interfaces (usedObservations observations))
        interfaces ⟨[], .synced⟩).getD (unsynchronizedForConfig interfaces) := by
  have agree : (observations.any fun entry => decide (entry.2.configVersion ≠ version)) =
    false := by
    simpa using versions
  have someUsed : (usedObservations observations).isEmpty = false := by simpa using used
  simp only [fromConfigAndObservations, notPending, agree, someUsed, Bool.false_eq_true, if_false]

theorem fromConfigAndObservations_of_depends
    (depends : DependsOnUnlocated devices version interfaces observations requestPending) :
    fromConfigAndObservations devices version interfaces observations requestPending =
      ⟨interfaces.map (shownStatus devices observations), .synced⟩ := by
  rw [fromConfigAndObservations_of_used depends.notPending depends.versions depends.used,
    collectStatus_eq_some fun interface mem => (contribution_synced_iff depends.used).mpr
      ⟨rfl, depends.located interface mem,
        fun unlocated => depends.onePhysical ⟨interface, mem, unlocated⟩⟩]
  rfl

/-- Unless all interfaces are interfaces of the host, the status is synchronized only when it
depends on nothing but interfaces without a usable locator. -/
theorem depends_of_synced (notInband : interfaces.all isHostInband = false)
    (synced : (fromConfigAndObservations devices version interfaces observations
      requestPending).configsSynced = .synced) :
    DependsOnUnlocated devices version interfaces observations requestPending := by
  obtain ⟨notPending, versions⟩ := of_synced synced
  have used : usedObservations observations ≠ [] := by
    intro unused
    simp [fromConfigAndObservations, notPending, unused, notInband, unsynchronizedForConfig]
      at synced
  rw [fromConfigAndObservations_of_used notPending versions used] at synced
  cases collected : collectStatus
      (interfaceContribution devices interfaces (usedObservations observations)) interfaces
      ⟨[], .synced⟩ with
  | none =>
    rw [collected] at synced
    cases synced
  | some result =>
    rw [collected] at synced
    have contributes := (synced_of_collectStatus collected synced).2
    refine ⟨notPending, versions, used, notInband, ?_, ?_⟩
    · intro interface mem
      obtain ⟨_, contributed⟩ := contributes interface mem
      exact ((contribution_synced_iff used).mp contributed).2.1
    · rintro ⟨interface, mem, unlocated⟩
      obtain ⟨_, contributed⟩ := contributes interface mem
      exact ((contribution_synced_iff used).mp contributed).2.2 unlocated

omit [Ipnetwork] in
theorem showsObserved_of_resolved {interface : InterfaceConfig} {dpu : DpuMachineId}
    (resolved : resolvedDpu devices interface = some dpu)
    (observed : (observedOn observations interface.functionId dpu).isSome = true) :
    ShowsObserved primaryDpu devices observations interface
      (shownStatus devices observations interface) := by
  obtain ⟨found, isFound⟩ := Option.isSome_iff_exists.mp observed
  obtain ⟨locator, isLocator, isDpu⟩ := Option.bind_eq_some_iff.mp resolved
  rw [shownStatus, resolved, Option.some_or, Option.bind_some, isFound]
  refine ⟨found, ?_, rfl, rfl, rfl, rfl⟩
  simp only [observedFor, locatedOn, isLocator, isDpu, Option.bind_some, isFound]

/-- A status is honest exactly when, as soon as nothing but interfaces without a usable locator
is left to decide, each of these was observed where it is located, with what is shown for it. -/
theorem honest_iff_unlocated_observed :
    Honest primaryDpu devices version interfaces observations requestPending
        (fromConfigAndObservations devices version interfaces observations requestPending) ↔
      (DependsOnUnlocated devices version interfaces observations requestPending →
        ∀ interface ∈ interfaces, resolvedDpu devices interface = none →
          ShowsObserved primaryDpu devices observations interface
            (shownStatus devices observations interface)) := by
  constructor
  · intro honest depends interface mem _
    have status := fromConfigAndObservations_of_depends depends
    have shows := (honest.synced (by rw [status])).2.2 depends.notInband
    rw [status, forall₂_map_right_iff, forall₂_same] at shows
    exact shows interface mem
  · intro unlocated
    have shows (notInband : interfaces.all isHostInband = false)
        (synced : (fromConfigAndObservations devices version interfaces observations
          requestPending).configsSynced = .synced) :
        ∀ interface ∈ interfaces, ShowsObserved primaryDpu devices observations interface
          (shownStatus devices observations interface) := by
      intro interface mem
      have depends := depends_of_synced notInband synced
      cases resolved : resolvedDpu devices interface with
      | none => exact unlocated depends interface mem resolved
      | some dpu =>
        exact showsObserved_of_resolved resolved (depends.located interface mem dpu resolved)
    refine ⟨functions_fromConfigAndObservations, ?_, ?_⟩
    · intro synced
      obtain ⟨notPending, versions⟩ := of_synced synced
      refine ⟨notPending, versions, fun notInband => ?_⟩
      have depends := depends_of_synced notInband synced
      rw [fromConfigAndObservations_of_depends depends, forall₂_map_right_iff, forall₂_same]
      exact shows notInband synced
    · rintro notInband ⟨interface, mem, unobserved⟩
      cases state : (fromConfigAndObservations devices version interfaces observations
        requestPending).configsSynced with
      | pending => rfl
      | synced =>
        obtain ⟨_, found, -⟩ := shows notInband state interface mem
        rw [unobserved] at found
        cases found

end Status

/-! ## A status that claims too much -/

def unlocatedInterface (functionId : InterfaceFunctionId) : InterfaceConfig where
  networkDetails := none
  vpcSelection := none
  networkSegmentId := some 0
  ipAddrs := []
  requestedIpAddr := none
  ipv6InterfaceConfig := none
  interfacePrefixes := []
  vpcId := none
  functionId := functionId
  routingProfile := none
  networkSegmentGateways := []
  hostInbandMacAddress := none
  deviceLocator := none
  internalUuid := 0

def initialVersion : ConfigVersion := ⟨1, ⟨0, 0⟩⟩

/-- The only DPU has reported the physical function. -/
def physicalObserved : Observations :=
  [(0, ⟨initialVersion, [⟨.physical, some 1, [], [], []⟩]⟩)]

/-- A virtual function without a locator has not been observed, and the status is
synchronized. -/
theorem not_honest_virtual_unobserved :
    letI := Ipnetwork.reference
    ¬ Honest (some 0) (fun _ => none) initialVersion
      [unlocatedInterface .physical, unlocatedInterface (.virtual' 1)] physicalObserved false
      (fromConfigAndObservations (fun _ => none) initialVersion
        [unlocatedInterface .physical, unlocatedInterface (.virtual' 1)] physicalObserved
        false) := by
  let := Ipnetwork.reference
  intro honest
  have pending := honest.unobserved (by decide)
    ⟨unlocatedInterface (.virtual' 1), by decide +kernel, by decide +kernel⟩
  revert pending
  decide +kernel

end ApiModel.Instance
