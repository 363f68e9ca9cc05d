import BareMetalManager.Lib.Replace
import BareMetalManager.Lib.StableSort
import BareMetalManager.Lib.Text
import BareMetalManager.Lib.Traced
import Mathlib.Data.Char
import Mathlib.Data.Finset.Dedup
import Mathlib.Data.List.AList
import Mathlib.Data.List.Lex
import Mathlib.Data.Prod.Lex

/-!
# The InfiniBand status of a host

What the fabric monitor of `crates/ib-fabric/src/lib.rs` knows about a fabric: the ports and
partitions that UFM has reported, each of which may be missing, and the ranges of the partition
keys that this site manages. `record_machine_infiniband_status_observation` compares the
partitions of the GUIDs of a host with those that its instance expects, reports the differences,
and maintains two health alerts. `IbCleanupPending` is raised when an instance ends while its
ports cannot be observed, and keeps the host from being allocated until the monitor clears it.

A `HashMap` is a list of entries with distinct keys, iterated in the order of the list.
-/

namespace IbFabric

open List

abbrev HashMap (κ ν : Type) := AList fun _ : κ => ν

abbrev Guid := Text

abbrev FabricId := Text

abbrev IbPartitionId := Nat

/-! ## Partition keys -/

/-- A partition key without the membership bit. -/
structure PartitionKey where
  value : BitVec 16
  masked : value = value &&& 0x7fff#16
  deriving DecidableEq

def PartitionKey.tryFrom (pkey : BitVec 16) : Option PartitionKey :=
  if masked : pkey = pkey &&& 0x7fff#16 then some ⟨pkey, masked⟩ else none

theorem PartitionKey.tryFrom_value (pkey : PartitionKey) : tryFrom pkey.value = some pkey :=
  dif_pos pkey.masked

theorem PartitionKey.tryFrom_eq_some {value : BitVec 16} {pkey : PartitionKey} :
    tryFrom value = some pkey ↔ value = pkey.value := by
  constructor
  · intro converted
    rw [tryFrom] at converted
    split at converted
    · cases converted
      rfl
    · cases converted
  · rintro rfl
    exact pkey.tryFrom_value

/-- A range of a resource pool as it is configured. -/
structure PoolRange where
  start : Text
  stop : Text

structure IbFabricDefinition where
  pkeys : List PoolRange

def hexDigit? (char : Char) : Option Nat :=
  if char.isDigit then some (char.toNat - '0'.toNat)
  else if 'a' ≤ char ∧ char ≤ 'f' then some (char.toNat - 'a'.toNat + 10)
  else if 'A' ≤ char ∧ char ≤ 'F' then some (char.toNat - 'A'.toNat + 10)
  else none

/-- `u64::from_str_radix` with radix 16. -/
def fromStrRadix16 (text : Text) : Option Nat :=
  let digits := Text.withoutPlus text
  (digits.mapM hexDigit?).bind fun values =>
    let value := values.foldl (fun value digit => value * 16 + digit) 0
    if digits ≠ [] ∧ value < 2 ^ 64 then some value else none

/-- A number in hexadecimal or decimal format. -/
def parseNum (input : Text) : Option Nat :=
  match Text.stripPrefix input ['0', 'x'] with
  | some hex => fromStrRadix16 hex
  | none => Text.parseUnsigned 64 input

/-- Whether a range contains a key; a range whose ends are no numbers contains none. -/
def PoolRange.contains (range : PoolRange) (value : Nat) : Bool :=
  match parseNum range.start, parseNum range.stop with
  | some start, some stop => start ≤ value && value < stop
  | _, _ => false

def isPkeyInManagedRange (pkey : PartitionKey) (definition : IbFabricDefinition) : Bool :=
  definition.pkeys.any fun range => range.contains pkey.value.toNat

/-- A GUID in a partition of a fabric. -/
structure IbMembership where
  fabric : FabricId
  pkey : PartitionKey
  guid : Guid
  deriving DecidableEq

def isManaged (fabrics : HashMap FabricId IbFabricDefinition) (fabric : FabricId)
    (pkey : PartitionKey) : Bool :=
  ((fabrics.lookup fabric).map (isPkeyInManagedRange pkey)).getD false

/-! ## Fabric data -/

inductive IBPortState where
  | active
  | down
  | initialize'
  | armed
  deriving DecidableEq

structure IBPort where
  lid : Int
  state : Option IBPortState
  deriving DecidableEq

/-- A partition as UFM reports it; its GUIDs may not have been returned. -/
structure IBNetwork where
  associatedGuids : Option (List Guid)
  deriving DecidableEq

structure FabricData where
  portsByGuid : Option (HashMap Guid IBPort)
  partitions : Option (HashMap (BitVec 16) IBNetwork)

namespace FabricData

variable (map : HashMap Guid (List (BitVec 16)))

/-- The partitions of a GUID in a map from GUIDs. -/
def pkeysAt (guid : Guid) : List (BitVec 16) :=
  (map.lookup guid).getD []

def addGuid (pkey : BitVec 16) (map : HashMap Guid (List (BitVec 16))) (guid : Guid) :
    HashMap Guid (List (BitVec 16)) :=
  map.insert guid ((pkeysAt map guid).insert pkey)

def addPartition (pkey : BitVec 16) (partition : IBNetwork) :
    Option (HashMap Guid (List (BitVec 16))) :=
  partition.associatedGuids.map fun guids => guids.foldl (addGuid pkey) map

/-- The partitions by GUID, unless the GUIDs of some partition are not known. -/
def partitionIdsByGuid (data : FabricData) : Option (HashMap Guid (List (BitVec 16))) :=
  data.partitions.bind fun partitions =>
    partitions.entries.foldlM (fun map entry => addPartition map entry.1 entry.2) ∅

def port? (data : FabricData) (guid : Guid) : Option IBPort :=
  data.portsByGuid.bind (·.lookup guid)

variable (data : FabricData) (partitions : HashMap (BitVec 16) IBNetwork)

def Complete : Prop :=
  data.partitions = some partitions ∧
    ∀ entry ∈ partitions.entries, entry.2.associatedGuids.isSome = true

def Lists (pkey : BitVec 16) (guid : Guid) : Prop :=
  ∃ entry ∈ partitions.entries, entry.1 = pkey ∧
    ∃ guids, entry.2.associatedGuids = some guids ∧ guid ∈ guids

variable {map} {pkey : BitVec 16}

variable {other : BitVec 16}

theorem mem_pkeysAt_addGuid {guid wanted : Guid} :
    other ∈ pkeysAt (addGuid pkey map guid) wanted ↔
      other ∈ pkeysAt map wanted ∨ other = pkey ∧ wanted = guid := by
  rw [addGuid, pkeysAt]
  by_cases same : wanted = guid
  · subst same
    simp [or_comm]
  · rw [AList.lookup_insert_ne same, ← pkeysAt]
    simp [same]

theorem mem_pkeysAt_foldl_addGuid {wanted : Guid} (guids : List Guid)
    (map : HashMap Guid (List (BitVec 16))) :
    other ∈ pkeysAt (guids.foldl (addGuid pkey) map) wanted ↔
      other ∈ pkeysAt map wanted ∨ other = pkey ∧ wanted ∈ guids := by
  induction guids generalizing map with
  | nil => simp
  | cons guid guids ih =>
    rw [foldl_cons, ih, mem_pkeysAt_addGuid, mem_cons, or_assoc, ← and_or_left]

variable {entries : List (Sigma fun _ : BitVec 16 => IBNetwork)}

/-- The partitions are noted one by one, as long as their GUIDs are known. -/
theorem foldlM_addPartition_eq_some {result : HashMap Guid (List (BitVec 16))} :
    entries.foldlM (fun map entry => addPartition map entry.1 entry.2) map = some result →
      (∀ entry ∈ entries, entry.2.associatedGuids.isSome = true) ∧
        ∀ pkey guid, pkey ∈ pkeysAt result guid ↔
          pkey ∈ pkeysAt map guid ∨ ∃ entry ∈ entries, entry.1 = pkey ∧
            ∃ guids, entry.2.associatedGuids = some guids ∧ guid ∈ guids := by
  induction entries generalizing map with
  | nil =>
    rintro ⟨⟩
    simp
  | cons entry entries ih =>
    intro folded
    obtain ⟨next, added, rest⟩ := Option.bind_eq_some_iff.mp folded
    obtain ⟨guids, known, rfl⟩ := Option.map_eq_some_iff.mp added
    obtain ⟨complete, iff⟩ := ih rest
    refine ⟨forall_mem_cons.mpr ⟨by rw [known]; rfl, complete⟩, fun pkey guid => ?_⟩
    rw [iff, mem_pkeysAt_foldl_addGuid, exists_mem_cons_iff, known]
    simp only [Option.some.injEq, exists_eq_left', or_assoc, eq_comm]

theorem exists_foldlM_addPartition (map : HashMap Guid (List (BitVec 16)))
    (complete : ∀ entry ∈ entries, entry.2.associatedGuids.isSome = true) :
    (entries.foldlM (fun map entry => addPartition map entry.1 entry.2) map).isSome = true := by
  induction entries generalizing map with
  | nil => rfl
  | cons entry entries ih =>
    obtain ⟨guids, known⟩ := Option.isSome_iff_exists.mp (complete entry mem_cons_self)
    rw [foldlM_cons, addPartition, known]
    exact ih _ fun other member => complete other (mem_cons_of_mem _ member)

variable {data : FabricData}

/-- The map from GUIDs exists exactly when the partitions are complete. -/
theorem isSome_partitionIdsByGuid :
    data.partitionIdsByGuid.isSome = true ↔ ∃ partitions, data.Complete partitions := by
  rw [partitionIdsByGuid]
  cases loaded : data.partitions with
  | none => simp [Complete, loaded]
  | some partitions =>
    simp only [Option.bind_some, Complete, loaded, Option.some.injEq, exists_eq_left']
    constructor
    · intro isSome
      obtain ⟨result, folded⟩ := Option.isSome_iff_exists.mp isSome
      exact (foldlM_addPartition_eq_some folded).1
    · exact exists_foldlM_addPartition ∅

theorem mem_pkeysAt {partitions : HashMap (BitVec 16) IBNetwork}
    (loaded : data.partitions = some partitions) (derived : data.partitionIdsByGuid = some map)
    {guid : Guid} :
    pkey ∈ pkeysAt map guid ↔ Lists partitions pkey guid := by
  rw [partitionIdsByGuid, loaded, Option.bind_some] at derived
  rw [(foldlM_addPartition_eq_some derived).2 pkey guid]
  simp [pkeysAt, Lists]

end FabricData

/-- The fabric on which the port of a GUID is found first, with its data. -/
def findPort (dataByFabric : HashMap FabricId FabricData) (guid : Guid) :
    Option (FabricId × FabricData × IBPort) :=
  dataByFabric.entries.findSome? fun entry =>
    (entry.2.port? guid).map fun port => (entry.1, entry.2, port)

/-! ## Hosts -/

structure InfinibandInterface where
  guid : Guid
  slot : Option Text

structure InstanceIbInterface where
  ibPartitionId : IbPartitionId
  guid : Option Guid

structure IbInstance where
  ibInterfaces : List InstanceIbInterface
  deleted : Bool

structure HealthProbeAlert where
  id : Text
  message : Text

/-- What was observed of one interface. Sets are compared as sets. -/
structure InterfaceStatus where
  guid : Guid
  lid : BitVec 16
  fabricId : FabricId
  associatedPkeys : Option (Finset PartitionKey)
  associatedPartitionIds : Option (Finset IbPartitionId)
  deriving DecidableEq

abbrev MachineId := Nat

/-- The parts of a host snapshot that the monitor reads. -/
structure HostSnapshot where
  hardwareInfo : Option (List InfinibandInterface)
  hwSku : Option Text
  hostInstance : Option IbInstance
  useAdminNetwork : Option Bool
  alerts : List HealthProbeAlert
  statusObservation : Option (List InterfaceStatus)
  forceDeletion : Bool

/-- The host has to be detached from tenant networks. -/
def HostSnapshot.usesAdminNetwork (host : HostSnapshot) : Bool := host.useAdminNetwork.getD true

/-- A partition of a tenant with its key, once it has one. -/
structure IBPartition where
  pkey : Option PartitionKey

/-- What a pass has loaded for all hosts. -/
structure PassData where
  tenantPartitions : HashMap IbPartitionId IBPartition
  tenantPartitionIdsByPkey : HashMap PartitionKey IbPartitionId
  dataByFabric : HashMap FabricId FabricData
  skuInactiveCache : HashMap Text (Option (List Nat))
  /-- `str::to_lowercase` -/
  toLowercase : Text → Text

/-! ## Expectations -/

variable (partitions : HashMap IbPartitionId IBPartition)

/-- The key that an interface of an instance asks for, with its GUID. -/
def expectedPkey (interface : InstanceIbInterface) : Option (Guid × PartitionKey) :=
  interface.guid.bind fun guid =>
    ((partitions.lookup interface.ibPartitionId).bind (·.pkey)).map fun pkey => (guid, pkey)

/-- The keys that the GUIDs of a host should have; none on the admin network. -/
def expectedPkeys (host : HostSnapshot) : HashMap Guid PartitionKey :=
  match host.usesAdminNetwork, host.hostInstance with
  | false, some hostInstance =>
    (hostInstance.ibInterfaces.filterMap (expectedPkey partitions)).foldl
      (fun map expected => map.insert expected.1 expected.2) ∅
  | _, _ => ∅

def getExpectedInactiveDevicesFromCache (cache : HashMap Text (Option (List Nat)))
    (hwSku : Option Text) : Option (List Nat) :=
  hwSku.bind fun sku => (cache.lookup sku).bind id

/-- The position of each GUID among the interfaces by slot and GUID. -/
def guidToIndex (interfaces : List InfinibandInterface) : HashMap Guid Nat :=
  let sorted := StableSort.sortBy
    (fun interface : InfinibandInterface => toLex (interface.slot.getD [],
      interface.guid)) interfaces
  sorted.zipIdx.foldl (fun map entry => map.insert entry.1.guid (entry.2 % 2 ^ 32)) ∅

/-- Whether a port that is down is worth an alert: by the SKU, or else by the instance. -/
def shouldTrackPortAsDown (toLowercase : Text → Text) (guid : Guid) (indices : HashMap Guid Nat)
    (expectedInactiveDevices : Option (List Nat)) (instanceGuids : Option (List Guid)) : Bool :=
  match expectedInactiveDevices, instanceGuids with
  | some expectedInactive, _ => !expectedInactive.contains ((indices.lookup guid).getD (2 ^ 32 - 1))
  | none, some guids => guids.contains (toLowercase guid)
  | none, none => false

/-! ## Evaluation -/

/-- What is to be changed, and what was found, in a pass. -/
structure MachineIbStatusEvaluation where
  missingGuidPkeys : List IbMembership
  unexpectedGuidPkeys : List IbMembership
  unknownGuidPkeys : List IbMembership
  downPortGuids : List Guid
  neededMemberships : List IbMembership

/-- The partition keys of a GUID on its fabric; none if the partitions are not known. -/
def associatedPkeys (data : FabricData) (guid : Guid) : Option (List PartitionKey) :=
  data.partitionIdsByGuid.map fun map =>
    (FabricData.pkeysAt map guid).filterMap PartitionKey.tryFrom

variable (pass : PassData) (host : HostSnapshot) (interfaces : List InfinibandInterface)

def evaluateGuid (guid : Guid) : MachineIbStatusEvaluation × InterfaceStatus :=
  let tracked := shouldTrackPortAsDown pass.toLowercase guid (guidToIndex interfaces)
    (getExpectedInactiveDevicesFromCache pass.skuInactiveCache host.hwSku)
    (host.hostInstance.map fun hostInstance =>
      hostInstance.ibInterfaces.filterMap fun interface => interface.guid.map pass.toLowercase)
  match findPort pass.dataByFabric guid with
  | some (fabric, data, port) =>
    let expected := (expectedPkeys pass.tenantPartitions host).lookup guid
    let pkeys := associatedPkeys data guid
    let isActive := decide (port.state = some .active)
    let membership pkey : IbMembership := ⟨fabric, pkey, guid⟩
    ({ missingGuidPkeys :=
        (expected.toList.filter fun pkey => pkeys.any fun known => !known.contains pkey).map
          membership
       unexpectedGuidPkeys :=
        ((pkeys.getD []).filter fun pkey => expected ≠ some pkey).map membership
       unknownGuidPkeys :=
        ((pkeys.getD []).filter fun pkey =>
          pass.tenantPartitionIdsByPkey.lookup pkey = none).map membership
       downPortGuids := if !isActive && tracked then [guid] else []
       neededMemberships := expected.toList.map membership },
     { guid
       lid := if isActive then .ofInt 16 port.lid else 0xffff#16
       fabricId := fabric
       associatedPkeys := pkeys.map List.toFinset
       associatedPartitionIds := pkeys.map fun known =>
        (known.filterMap pass.tenantPartitionIdsByPkey.lookup).toFinset })
  | none =>
    -- nothing is looked up for a port that no fabric reports
    (⟨[], [], [], if tracked then [guid] else [], []⟩, ⟨guid, 0xffff#16, [], none, none⟩)

/-- The evaluation of a host: what its GUIDs contribute, one after the other. -/
def evaluate : MachineIbStatusEvaluation :=
  let findings := interfaces.map fun interface =>
    (evaluateGuid pass host interfaces interface.guid).1
  { missingGuidPkeys := findings.flatMap (·.missingGuidPkeys)
    unexpectedGuidPkeys := findings.flatMap (·.unexpectedGuidPkeys)
    unknownGuidPkeys := findings.flatMap (·.unknownGuidPkeys)
    downPortGuids := findings.flatMap (·.downPortGuids)
    neededMemberships := findings.flatMap (·.neededMemberships) }

/-! ## Alerts -/

/-- The text before the GUIDs in the message of a cleanup alert. -/
def cleanupText : Text := "IB port cleanup pending - IB Monitor will unbind. GUIDs: ".toList

/-- The message of the alert that the termination of an instance raises. -/
def cleanupMessage (guids : List Guid) : Text := cleanupText ++ [';', ' '].intercalate guids

def parseGuidsFromAlert (message : Text) : List Guid :=
  match Text.stripPrefix message cleanupText with
  | none => []
  | some guids =>
    ((Replace.splitAll [';', ' '] guids).map (Text.trimMatches Text.isWhiteSpace)).filter (· ≠ [])

def MachineIbStatusEvaluation.reports (result : MachineIbStatusEvaluation) (guid : Guid) : Bool :=
  result.missingGuidPkeys.any (·.guid = guid) || result.unexpectedGuidPkeys.any (·.guid = guid)
    || result.unknownGuidPkeys.any (·.guid = guid)

def HostSnapshot.alert? (id : Text) : Option HealthProbeAlert :=
  host.alerts.find? (·.id = id)

def ibCleanupPending : Text := "IbCleanupPending".toList

def ibPortDown : Text := "IbPortDown".toList

inductive MonitorWrite where
  | setIbPortDownAlert (downPortGuids : List Guid) (totalPorts : Nat)
  | clearIbPortDownAlert
  | clearIbCleanupAlert
  | updateInfinibandStatusObservation (status : List InterfaceStatus)

structure IbError where
  message : Text

/-- The database, by the outcome of each write. -/
abbrev Outcomes := MonitorWrite → Except IbError Unit

variable (outcomes : Outcomes)

/-- Write, and stop if that fails. -/
def attempt (write : MonitorWrite) : Traced IbError MonitorWrite Unit := do
  .call write
  .ofExcept (outcomes write)

/-- Raise the alert about ports that are down, or clear it. -/
def updatePortDownAlert (host : HostSnapshot) (interfaces : List InfinibandInterface)
    (downPortGuids : List Guid) : Traced IbError MonitorWrite Unit :=
  if downPortGuids ≠ [] then
    attempt outcomes (.setIbPortDownAlert downPortGuids interfaces.length)
  else if (host.alert? ibPortDown).isSome then attempt outcomes .clearIbPortDownAlert
  else pure ()

/-- Clear the alert about pending cleanup if nothing is reported about its GUIDs. -/
def updateCleanupAlert (host : HostSnapshot) (result : MachineIbStatusEvaluation) :
    Traced IbError MonitorWrite Unit :=
  match host.alert? ibCleanupPending with
  | some alert =>
    if (parseGuidsFromAlert alert.message).all fun guid => !result.reports guid then
      attempt outcomes .clearIbCleanupAlert
    else pure ()
  | none => pure ()

/-- Store the status of the interfaces if it has changed. -/
def updateObservation (host : HostSnapshot) (current : List InterfaceStatus) :
    Traced IbError MonitorWrite Unit :=
  if host.statusObservation.getD [] ≠ current then
    attempt outcomes (.updateInfinibandStatusObservation current)
  else pure ()

def recordMachineInfinibandStatusObservation
    (host : HostSnapshot) : Traced IbError MonitorWrite MachineIbStatusEvaluation :=
  match host.hardwareInfo with
  | none => pure ⟨[], [], [], [], []⟩
  | some interfaces => do
      let result := evaluate pass host interfaces
      let current := interfaces.map fun interface =>
        (evaluateGuid pass host interfaces interface.guid).2
      updatePortDownAlert outcomes host interfaces result.downPortGuids
      updateCleanupAlert outcomes host result
      updateObservation outcomes host current
      return result

/-! ## What an evaluation reports -/

variable {data : FabricData} {partitions : HashMap (BitVec 16) IBNetwork}

/-- The keys of a GUID are known exactly when the partitions are complete, and are then those of
the partitions that list it. -/
theorem associatedPkeys_cases (data : FabricData) (guid : Guid) :
    associatedPkeys data guid = none ∧ (∀ partitions, ¬ data.Complete partitions) ∨
      ∃ pkeys partitions, associatedPkeys data guid = some pkeys ∧ data.Complete partitions ∧
        ∀ pkey : PartitionKey, pkey ∈ pkeys ↔ FabricData.Lists partitions pkey.value guid := by
  cases derived : data.partitionIdsByGuid with
  | none =>
    refine .inl ⟨by rw [associatedPkeys, derived]; rfl, fun partitions complete => ?_⟩
    have isSome := FabricData.isSome_partitionIdsByGuid.mpr ⟨partitions, complete⟩
    rw [derived] at isSome
    cases isSome
  | some map =>
    obtain ⟨partitions, complete⟩ : ∃ partitions, data.Complete partitions :=
      FabricData.isSome_partitionIdsByGuid.mp (by rw [derived]; rfl)
    refine .inr ⟨_, partitions, by rw [associatedPkeys, derived]; rfl, complete, fun pkey => ?_⟩
    simp only [mem_filterMap, PartitionKey.tryFrom_eq_some, exists_eq_right,
      FabricData.mem_pkeysAt complete.1 derived]

/-- The fabric of a GUID has its partitions, and they are not what is expected of it: it lacks
the expected one, it is in another one, or it is in one that no tenant has. -/
def Outstanding (guid : Guid) : Prop :=
  ∃ fabric data port partitions, findPort pass.dataByFabric guid = some (fabric, data, port) ∧
    data.Complete partitions ∧
    ∃ pkey : PartitionKey,
      ¬ (FabricData.Lists partitions pkey.value guid ↔
        (expectedPkeys pass.tenantPartitions host).lookup guid = some pkey) ∨
      FabricData.Lists partitions pkey.value guid ∧ pass.tenantPartitionIdsByPkey.lookup pkey = none

section Evaluation

variable {pass host interfaces} {guid : Guid}

theorem guid_of_findings {membership : IbMembership}
    (found : membership ∈ (evaluateGuid pass host interfaces guid).1.missingGuidPkeys ∨
      membership ∈ (evaluateGuid pass host interfaces guid).1.unexpectedGuidPkeys ∨
      membership ∈ (evaluateGuid pass host interfaces guid).1.unknownGuidPkeys) :
    membership.guid = guid := by
  rw [evaluateGuid] at found
  split at found
  · simp only [mem_map] at found
    rcases found with ⟨_, _, rfl⟩ | ⟨_, _, rfl⟩ | ⟨_, _, rfl⟩ <;> rfl
  · simp at found

theorem findings_eq_nil_iff (interfaces : List InfinibandInterface) :
    ((evaluateGuid pass host interfaces guid).1.missingGuidPkeys = [] ∧
      (evaluateGuid pass host interfaces guid).1.unexpectedGuidPkeys = [] ∧
      (evaluateGuid pass host interfaces guid).1.unknownGuidPkeys = []) ↔
      ¬ Outstanding pass host guid := by
  rw [evaluateGuid]
  cases found : findPort pass.dataByFabric guid with
  | none => simp [Outstanding, found]
  | some result =>
    obtain ⟨fabric, data, port⟩ := result
    rcases associatedPkeys_cases data guid with
      ⟨unknown, incomplete⟩ | ⟨pkeys, partitions, known, complete, lists⟩
    · simp [Outstanding, found, unknown, incomplete]
    · have same (other : HashMap (BitVec 16) IBNetwork) : data.Complete other ↔
          other = partitions :=
        ⟨fun isComplete => Option.some.inj (isComplete.1.symm.trans complete.1),
          fun isSame => isSame ▸ complete⟩
      simp [Outstanding, found, known, same, lists]
      grind

theorem reports_iff :
    (evaluate pass host interfaces).reports guid = true ↔
      guid ∈ interfaces.map (·.guid) ∧ Outstanding pass host guid := by
  have reported (select : MachineIbStatusEvaluation → List IbMembership)
      (ofGuid : ∀ {other membership}, membership ∈ select
        (evaluateGuid pass host interfaces other).1 →
        membership.guid = other) :
      (((interfaces.map fun interface => (evaluateGuid pass host interfaces
        interface.guid).1).flatMap
        select).any (·.guid = guid) = true) ↔
        guid ∈ interfaces.map (·.guid) ∧ select
          (evaluateGuid pass host interfaces guid).1 ≠ [] := by
    simp only [any_eq_true, mem_flatMap, mem_map, decide_eq_true_eq]
    constructor
    · rintro ⟨membership, ⟨_, ⟨interface, member, rfl⟩, found⟩, same⟩
      have eq : interface.guid = guid := (ofGuid found).symm.trans same
      rw [eq] at found
      exact ⟨⟨interface, member, eq⟩, ne_nil_of_mem found⟩
    · rintro ⟨⟨interface, member, rfl⟩, nonempty⟩
      obtain ⟨membership, found⟩ := exists_mem_of_ne_nil _ nonempty
      exact ⟨membership, ⟨_, ⟨interface, member, rfl⟩, found⟩, ofGuid found⟩
  rw [MachineIbStatusEvaluation.reports, Bool.or_eq_true, Bool.or_eq_true, evaluate,
    reported (·.missingGuidPkeys) (fun found => guid_of_findings (.inl found)),
    reported (·.unexpectedGuidPkeys) (fun found => guid_of_findings (.inr (.inl found))),
    reported (·.unknownGuidPkeys) (fun found => guid_of_findings (.inr (.inr found))),
    ← and_or_left, ← and_or_left]
  refine and_congr_right fun _ => ?_
  rw [← not_iff_not, ← findings_eq_nil_iff interfaces, not_or, not_or, and_assoc]
  simp only [ne_eq, not_not]

end Evaluation

end IbFabric
