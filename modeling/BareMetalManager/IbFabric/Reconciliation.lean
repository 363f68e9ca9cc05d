import BareMetalManager.IbFabric.StatusObservation

/-!
# A pass of the fabric monitor

`check_ib_fabrics_and_apply_changes` of `crates/ib-fabric/src/lib.rs` evaluates all hosts against
what UFM reports, reads the records of retired memberships, and changes UFM: it takes back
memberships that should stay retired, and then binds and unbinds what the evaluations found. These
are made from snapshots that may be stale, so a retired membership is first looked up again under
a lock.
-/

namespace IbFabric

/-! ## Calls -/

/-- What a pass reads under a lock, and what it changes at UFM. -/
inductive PassEvent where
  | readRetired (memberships : List IbMembership)
  /-- A retired membership was looked up under the lock of a host. -/
  | reread (machine : MachineId) (membership : IbMembership) (needed : Except IbError Bool)
  | unbind (membership : IbMembership)
  | bind (fabric : FabricId) (pkey : BitVec 16) (guid : Guid)

/-- What the load of a fabric answers. -/
structure FabricLoad where
  client : Except IbError Unit
  health : Except IbError Unit
  ports : Except IbError (HashMap Guid IBPort)
  partitions : Except IbError (HashMap (BitVec 16) IBNetwork)

/-- What the transaction of a locked look-up reads. -/
structure Reread where
  start : Except IbError Unit
  machineExists : Except IbError Bool
  snapshot : Except IbError (Option HostSnapshot)
  pkeyOfPartition : IbPartitionId → Except IbError (Option (BitVec 16))
  commit : Except IbError Unit

/-- The configuration of the monitor, and what all calls of a pass answer. -/
structure Environment where
  disabled : Bool
  fabrics : HashMap FabricId IbFabricDefinition
  snapshots : Except IbError (HashMap MachineId HostSnapshot)
  tenantPartitions : Except IbError (HashMap IbPartitionId IBPartition)
  load : FabricId → FabricLoad
  skuInactiveCache : Except IbError (HashMap Text (Option (List Nat)))
  outcomes : MachineId → Outcomes
  /-- Whether there is a record of a retired membership when the records are read. -/
  recorded : Except IbError (IbMembership → Bool)
  /-- `ORDER BY fabric, pkey, guid` in the collation of the database. -/
  orderBy : List IbMembership → List IbMembership
  orderBy_perm : ∀ memberships, (orderBy memberships).Perm memberships
  reread : MachineId → IbMembership → Reread
  /-- Another attempt to build a client. -/
  newClient : FabricId → Except IbError Unit
  succeeds : PassEvent → Bool
  toLowercase : Text → Text

/-! ## Loading -/

/-- The data of a fabric and whether there is a client; a failure ends the load. -/
def loadSingleFabricData (load : FabricLoad) : FabricData × Bool :=
  match load.client, load.health, load.ports, load.partitions with
  | .error _, _, _, _ => (⟨none, none⟩, false)
  | .ok _, .error _, _, _ => (⟨none, none⟩, true)
  | .ok _, .ok _, .error _, _ => (⟨none, none⟩, true)
  | .ok _, .ok _, .ok ports, .error _ => (⟨some ports, none⟩, true)
  | .ok _, .ok _, .ok ports, .ok partitions => (⟨some ports, some partitions⟩, true)

def partitionIdsByPkey (partitions : HashMap IbPartitionId IBPartition) :
    HashMap PartitionKey IbPartitionId :=
  partitions.entries.foldl
    (fun map entry => entry.2.pkey.elim map fun pkey => map.insert pkey entry.1) ∅

/-- The unique owner of each key; none for a key with several. -/
def uniqueOwners {κ ν : Type} [DecidableEq κ] [DecidableEq ν] (claims : List (κ × ν)) :
    HashMap κ (Option ν) :=
  claims.foldl
    (fun map claim => map.insert claim.1 ((map.lookup claim.1).elim (some claim.2) fun current =>
      if current = some claim.2 then current else none)) ∅

def machineIdsByIbGuid (snapshots : HashMap MachineId HostSnapshot) :
    HashMap Guid (Option MachineId) :=
  uniqueOwners (snapshots.entries.flatMap fun entry =>
    (entry.2.hardwareInfo.getD []).map fun interface => (interface.guid, entry.1))

variable (dataByFabric : HashMap FabricId FabricData)

def currentFabricsByIbGuid : HashMap Guid (Option FabricId) :=
  uniqueOwners (dataByFabric.entries.flatMap fun entry =>
    entry.2.portsByGuid.elim [] fun ports => ports.keys.map fun guid => (guid, entry.1))

def membershipsInFabricData : List IbMembership :=
  dataByFabric.entries.flatMap fun entry =>
    entry.2.partitionIdsByGuid.elim [] fun byGuid => byGuid.entries.flatMap fun listed =>
      (listed.2.filterMap PartitionKey.tryFrom).map fun pkey => ⟨entry.1, pkey, listed.1⟩

/-- The candidates of which there is a record, each once. -/
def findRecordedCandidates (env : Environment) (candidates : List IbMembership) :
    Except IbError (List IbMembership) :=
  if candidates = [] then .ok []
  else env.recorded.map fun recorded => env.orderBy (candidates.filter recorded).dedup

/-! ## The locked look-up -/

/-- A snapshot identifies a membership: the hardware has the GUID, and it was observed on the
fabric. A host that is deleted by force is not managed any more. -/
def membershipMayBeReused (membership : IbMembership) (host : HostSnapshot) : Bool :=
  !host.forceDeletion
    && (host.hardwareInfo.getD []).any (·.guid = membership.guid)
    && (host.statusObservation.getD []).any fun interface =>
      interface.guid = membership.guid && interface.fabricId = membership.fabric

/-- Whether an interface of the instance has the GUID and, by now, the key. -/
def stillLive (pkeyOfPartition : IbPartitionId → Except IbError (Option (BitVec 16)))
    (membership : IbMembership) : List InstanceIbInterface → Except IbError Bool
  | [] => .ok false
  | interface :: interfaces =>
    if interface.guid = some membership.guid then
      (pkeyOfPartition interface.ibPartitionId).bind fun pkey =>
        if pkey.bind PartitionKey.tryFrom = some membership.pkey then .ok true
        else stillLive pkeyOfPartition membership interfaces
    else stillLive pkeyOfPartition membership interfaces

def liveInstance (membership : IbMembership) (snapshot : Option HostSnapshot) : Option IbInstance :=
  ((snapshot.filter fun host => membershipMayBeReused membership host &&
    !host.usesAdminNetwork).bind
    (·.hostInstance)).filter fun hostInstance => !hostInstance.deleted

def membershipIsStillNeeded (reread : Reread) (membership : IbMembership) :
    Except IbError Bool := do
  reread.start
  if ← reread.machineExists then
    let snapshot ← reread.snapshot
    let needed ← (liveInstance membership snapshot).elim (.ok false) fun hostInstance =>
      stillLive reread.pkeyOfPartition membership hostInstance.ibInterfaces
    reread.commit
    return needed
  else
    reread.commit
    return false

/-! ## Reconciliation -/

/-- What the reconciliation of retired memberships keeps track of. -/
structure Reconciliation where
  fabricClients : List FabricId
  numChanges : Nat
  membershipsToSuppress : List IbMembership
  liveMemberships : List IbMembership
  reports : List MachineIbStatusEvaluation

def clientForFabric (env : Environment) (clients : List FabricId) (fabric : FabricId) :
    Except IbError (List FabricId) :=
  if clients.contains fabric then .ok clients
  else (env.newClient fabric).map fun _ => fabric :: clients

def MachineIbStatusEvaluation.suppressAcrossFabrics (guid : Guid) (pkey : PartitionKey)
    (report : MachineIbStatusEvaluation) : MachineIbStatusEvaluation :=
  let keep (membership : IbMembership) : Bool := membership.guid ≠ guid || membership.pkey ≠ pkey
  { report with
    missingGuidPkeys := report.missingGuidPkeys.filter keep
    unexpectedGuidPkeys := report.unexpectedGuidPkeys.filter keep }

variable (currentFabrics : HashMap Guid (Option FabricId))
    (machineIds : HashMap Guid (Option MachineId))

/-- Several fabrics or several hosts claim a GUID. -/
def isDuplicate (guid : Guid) : Bool :=
  currentFabrics.lookup guid = some none || machineIds.lookup guid = some none

/-- The host under whose lock a membership is to be looked up: none if the GUID is known to be on
another fabric, or of no host. -/
def rereadHost (membership : IbMembership) : Option MachineId :=
  if ((currentFabrics.lookup membership.guid).bind id).any (· ≠ membership.fabric) then none
  else (machineIds.lookup membership.guid).bind id

variable (env : Environment)

def rereadMembership (membership : IbMembership) :
    Option MachineId → Traced IbError PassEvent (Except IbError Bool)
  | none => pure (.ok false)
  | some machine => do
      let needed := membershipIsStillNeeded (env.reread machine membership) membership
      .call (.reread machine membership needed)
      return needed

/-- Make a change at UFM; its failure is only reported. -/
def change (event : PassEvent) : Traced IbError PassEvent Nat := do
  .call event
  return if env.succeeds event then 1 else 0

variable (state : Reconciliation) (membership : IbMembership)

def unbindRetired : Traced IbError PassEvent Reconciliation := do
  let clients ← .ofExcept (clientForFabric env state.fabricClients membership.fabric)
  let changes ← change env (.unbind membership)
  return { state with
    fabricClients := clients
    numChanges := state.numChanges + changes
    membershipsToSuppress := state.membershipsToSuppress ++ [membership] }

def Reconciliation.suppress : Reconciliation :=
  { state with membershipsToSuppress := state.membershipsToSuppress ++ [membership] }

def reconcileRetired (membershipsInUfm : List IbMembership)
    (machineIds : HashMap Guid (Option MachineId)) (currentFabrics : HashMap Guid (Option FabricId))
    (state : Reconciliation) (membership : IbMembership) :
    Traced IbError PassEvent Reconciliation :=
  if !isManaged env.fabrics membership.fabric membership.pkey then
    -- an unconfigured fabric, or a key that is not ours
    pure (state.suppress membership)
  else if isDuplicate currentFabrics machineIds membership.guid then
    pure { state with
      reports := state.reports.map (·.suppressAcrossFabrics membership.guid membership.pkey) }
  else do
    let needed ← rereadMembership env membership (rereadHost currentFabrics machineIds membership)
    match needed with
    | .error _ => pure (state.suppress membership)
    | .ok true => pure { state with liveMemberships := state.liveMemberships ++ [membership] }
    | .ok false =>
      if membershipsInUfm.contains membership then unbindRetired env state membership
      else pure (state.suppress membership)

def MachineIbStatusEvaluation.retain (toSuppress live : List IbMembership)
    (report : MachineIbStatusEvaluation) : MachineIbStatusEvaluation :=
  { report with
    missingGuidPkeys := report.missingGuidPkeys.filter fun membership =>
      !toSuppress.contains membership
    unexpectedGuidPkeys := report.unexpectedGuidPkeys.filter fun membership =>
      !live.contains membership && !toSuppress.contains membership }

variable (fabricClients : List FabricId) (membershipsInUfm : List IbMembership)
    (machineIds : HashMap Guid (Option MachineId)) (currentFabrics : HashMap Guid (Option FabricId))

/-- The changes so far, the clients and the remaining changes of the reports. -/
def reconcileRetiredMemberships (retired : List IbMembership)
    (reports : List MachineIbStatusEvaluation) :
    Traced IbError PassEvent (Nat × List FabricId × List MachineIbStatusEvaluation) := do
  let state ← retired.foldlM (reconcileRetired env membershipsInUfm machineIds currentFabrics)
    ⟨fabricClients, 0, [], [], reports⟩
  return (state.numChanges, state.fabricClients,
    state.reports.map (·.retain state.membershipsToSuppress state.liveMemberships))

/-! ## Changes -/

def IBPartition.networkPkey (partition : IBPartition) : BitVec 16 :=
  (partition.pkey.map (·.value)).getD 0#16

variable (tenantPartitions : HashMap IbPartitionId IBPartition)
    (idsByPkey : HashMap PartitionKey IbPartitionId) (state : Nat × List FabricId)
    (membership : IbMembership)

/-- Bind a missing membership, if its partition is still known. -/
def applyMissing : Traced IbError PassEvent (Nat × List FabricId) :=
  match (idsByPkey.lookup membership.pkey).bind tenantPartitions.lookup with
  | none => pure state
  | some partition => do
      let clients ← .ofExcept (clientForFabric env state.2 membership.fabric)
      let changes ← change env (.bind membership.fabric partition.networkPkey membership.guid)
      return (state.1 + changes, clients)

/-- Unbind an unexpected membership, if its key is managed. -/
def applyUnexpected : Traced IbError PassEvent (Nat × List FabricId) :=
  if isManaged env.fabrics membership.fabric membership.pkey then do
    let clients ← .ofExcept (clientForFabric env state.2 membership.fabric)
    let changes ← change env (.unbind membership)
    return (state.1 + changes, clients)
  else pure state

def applyReport (report : MachineIbStatusEvaluation) :
    Traced IbError PassEvent (Nat × List FabricId) := do
  let state ← report.missingGuidPkeys.foldlM (applyMissing env tenantPartitions idsByPkey) state
  report.unexpectedGuidPkeys.foldlM (applyUnexpected env) state

def applyGuidPkeyChanges (reports : List MachineIbStatusEvaluation) :
    Traced IbError PassEvent Nat := do
  let state ← reports.foldlM (applyReport env tenantPartitions idsByPkey) (0, fabricClients)
  return state.1

/-- The changes of a pass at UFM, once the records of retired memberships are read. -/
def changeFabrics (retired : List IbMembership) (reports : List MachineIbStatusEvaluation) :
    Traced IbError PassEvent Nat := do
  let reconciled ← reconcileRetiredMemberships env fabricClients membershipsInUfm machineIds
    currentFabrics retired reports
  let membershipChanges ← applyGuidPkeyChanges env reconciled.2.1 tenantPartitions
    (partitionIdsByPkey tenantPartitions) reconciled.2.2
  return reconciled.1 + membershipChanges

def checkIbFabricsAndApplyChanges : Traced IbError PassEvent Nat :=
  if env.disabled then pure 0
  else do
    let snapshots ← .ofExcept env.snapshots
    let tenantPartitions ← .ofExcept env.tenantPartitions
    let loaded := env.fabrics.keys.map fun fabric =>
      (fabric, loadSingleFabricData (env.load fabric))
    let fabricClients := (loaded.filter (·.2.2)).map (·.1)
    let fabricData : HashMap FabricId FabricData :=
      loaded.foldl (fun map entry => map.insert entry.1 entry.2.1) ∅
    let pass : PassData := ⟨tenantPartitions, partitionIdsByPkey tenantPartitions, fabricData,
      env.skuInactiveCache.toOption.getD ∅, env.toLowercase⟩
    let reports := snapshots.entries.filterMap fun entry =>
      (recordMachineInfinibandStatusObservation pass (env.outcomes entry.1) entry.2).result.toOption
    let membershipsInUfm := membershipsInFabricData fabricData
    let candidates := (membershipsInUfm ++ reports.flatMap (·.neededMemberships)).dedup
    let retired ← .ofExcept (findRecordedCandidates env candidates)
    .call (.readRetired retired)
    changeFabrics env fabricClients membershipsInUfm (machineIdsByIbGuid snapshots)
      (currentFabricsByIbGuid fabricData) tenantPartitions retired reports

end IbFabric
