import BareMetalManager.IbFabric.StatusObservation

/-!
# Clearing the cleanup alert

The alert `IbCleanupPending` is cleared when the evaluation of the host reports nothing about
the GUIDs that the alert names. That is also the case when the monitor knows nothing about
them: a port that no fabric lists, or a fabric without partition data, contributes no finding.
-/

namespace IbFabric

open List Text

/-! ## The GUIDs of an alert -/

/-- A GUID contains neither separators nor white space. -/
def IsGuid (guid : Guid) : Prop :=
  guid ≠ [] ∧ guid.all (fun char => char ≠ ';' && !isWhiteSpace char) = true

variable {guid : Guid}

theorem IsGuid.of_mem (isGuid : IsGuid guid) {char : Char} (member : char ∈ guid) :
    char ≠ ';' ∧ isWhiteSpace char = false := by
  simpa using all_eq_true.mp isGuid.2 char member

def HealthProbeAlert.Names (alert : HealthProbeAlert) (guid : Guid) : Prop :=
  ∃ guids, (∀ other ∈ guids, IsGuid other) ∧ alert.message = cleanupMessage guids ∧ guid ∈ guids

theorem stripPrefix_append (beginning rest : Text) :
    stripPrefix (beginning ++ rest) beginning = some rest := by
  induction beginning with
  | nil =>
    cases rest <;> rfl
  | cons char beginning ih =>
    rwa [cons_append, stripPrefix, if_pos rfl]

theorem trim_of_isGuid (isGuid : IsGuid guid) : trimMatches isWhiteSpace guid = guid := by
  have nonempty := isGuid.1
  exact trimMatches_eq_self (List.head?_eq_some_head nonempty)
    (List.getLast?_eq_some_getLast nonempty) (isGuid.of_mem (head_mem nonempty)).2
    (isGuid.of_mem (getLast_mem nonempty)).2

theorem parseGuidsFromAlert_cleanupMessage {guids : List Guid}
    (areGuids : ∀ guid ∈ guids, IsGuid guid) :
    parseGuidsFromAlert (cleanupMessage guids) = guids := by
  rw [parseGuidsFromAlert, cleanupMessage, stripPrefix_append]
  by_cases empty : guids = []
  · subst empty
    rfl
  · have parts : Replace.splitAll [';', ' '] ([';', ' '].intercalate guids) = guids :=
      Replace.splitAll_intercalate empty fun guid member separator =>
        ((areGuids guid member).of_mem separator).1 rfl
    have trimmed : guids.map (trimMatches isWhiteSpace) = guids :=
      (map_congr_left fun guid member => trim_of_isGuid (areGuids guid member)).trans
        (map_id' guids)
    simp only [parts, trimmed]
    exact filter_eq_self.mpr fun guid member => by simp [(areGuids guid member).1]

/-- An alert that names a GUID is read as the list of the GUIDs it names. -/
theorem mem_parseGuidsFromAlert {alert : HealthProbeAlert} (named : alert.Names guid) (other : Guid)
    : other ∈ parseGuidsFromAlert alert.message ↔ alert.Names other := by
  obtain ⟨guids, areGuids, message, -⟩ := named
  constructor
  · intro member
    rw [message, parseGuidsFromAlert_cleanupMessage areGuids] at member
    exact ⟨guids, areGuids, message, member⟩
  · rintro ⟨others, areOthers, otherMessage, member⟩
    rwa [otherMessage, parseGuidsFromAlert_cleanupMessage areOthers]

/-! ## When the alert is cleared -/

/-- A pass clears the cleanup alert, given the outcomes of its writes. -/
def Clears (pass : PassData) (outcomes : Outcomes) (host : HostSnapshot) : Prop :=
  .clearIbCleanupAlert ∈ (recordMachineInfinibandStatusObservation pass outcomes host).calls

variable (outcomes : Outcomes)

@[simp] theorem attempt_calls (write : MonitorWrite) :
    (attempt outcomes write).calls = [write] := rfl

@[simp] theorem attempt_result (write : MonitorWrite) :
    (attempt outcomes write).result = outcomes write := rfl

section Clearing

variable {pass : PassData} {outcomes} {host : HostSnapshot}

variable (interfaces : List InfinibandInterface)

theorem clear_not_mem_updatePortDownAlert (downPortGuids : List Guid) :
    .clearIbCleanupAlert ∉ (updatePortDownAlert outcomes host interfaces downPortGuids).calls := by
  rw [updatePortDownAlert]
  split
  · simp
  · split
    · simp
    · exact not_mem_nil

theorem clear_not_mem_updateObservation (current : List InterfaceStatus) :
    .clearIbCleanupAlert ∉ (updateObservation outcomes host current).calls := by
  rw [updateObservation]
  split
  · simp
  · exact not_mem_nil

theorem clear_mem_updateCleanupAlert {result : MachineIbStatusEvaluation} :
    .clearIbCleanupAlert ∈ (updateCleanupAlert outcomes host result).calls ↔
      ∃ alert, host.alert? ibCleanupPending = some alert ∧
        ∀ guid ∈ parseGuidsFromAlert alert.message, result.reports guid = false := by
  rw [updateCleanupAlert]
  cases host.alert? ibCleanupPending with
  | none => exact iff_of_false not_mem_nil (by simp)
  | some alert =>
    simp only [Option.some.injEq, exists_eq_left', all_eq_true, Bool.not_eq_true']
    split
    · rename_i silent
      simpa using silent
    · rename_i reported
      exact iff_of_false not_mem_nil reported

/-- The alert is cleared if the alert of ports that are down was written, and nothing is reported
about the GUIDs of the alert. -/
theorem clears_iff :
    Clears pass outcomes host ↔ ∃ interfaces, host.hardwareInfo = some interfaces ∧
      (updatePortDownAlert outcomes host interfaces
        (evaluate pass host interfaces).downPortGuids).result = .ok () ∧
      ∃ alert, host.alert? ibCleanupPending = some alert ∧
        ∀ guid ∈ parseGuidsFromAlert alert.message,
          (evaluate pass host interfaces).reports guid = false := by
  rw [Clears, recordMachineInfinibandStatusObservation]
  cases host.hardwareInfo with
  | none => exact iff_of_false not_mem_nil (by simp)
  | some interfaces =>
    simp only [Option.some.injEq, exists_eq_left', Traced.mem_bind_calls,
      clear_not_mem_updatePortDownAlert, clear_not_mem_updateObservation,
      clear_mem_updateCleanupAlert, false_or]
    constructor
    · rintro ⟨⟨⟩, written, cleared | ⟨_, -, _, -, ended⟩⟩
      · exact ⟨written, cleared⟩
      · cases ended
    · rintro ⟨written, cleared⟩
      exact ⟨(), written, .inl cleared⟩

/-- A database in which every write succeeds. -/
def allWritten : Outcomes := fun _ => .ok ()

theorem updatePortDownAlert_allWritten (downPortGuids : List Guid) :
    (updatePortDownAlert allWritten host interfaces downPortGuids).result = .ok () := by
  rw [updatePortDownAlert]
  split
  · rfl
  · split <;> rfl

end Clearing

/-! ## What the fabric data shows -/

variable (fabrics : HashMap FabricId IbFabricDefinition)

/-- All fabrics of the site have reported all their partitions, and no managed one of them has the
GUID. -/
def ShowsUnmanaged (dataByFabric : HashMap FabricId FabricData) (guid : Guid) : Prop :=
  ∀ fabric ∈ fabrics, ∃ data partitions, dataByFabric.lookup fabric = some data ∧
    data.Complete partitions ∧
    ∀ pkey : PartitionKey, FabricData.Lists partitions pkey.value guid →
      isManaged fabrics fabric pkey = false

variable (pass : PassData) (host : HostSnapshot)

/-- A pass clears the cleanup alert only if the fabric data shows that none of its GUIDs is in a
managed partition. -/
def ClearsConfirmed : Prop :=
  ∀ outcomes, Clears pass outcomes host →
    ∀ alert ∈ host.alert? ibCleanupPending, ∀ guid, alert.Names guid →
      ShowsUnmanaged fabrics pass.dataByFabric guid

/-- All fabrics of the site have reported all their partitions. On the fabric of its port, a GUID
of the host is meant to be in no managed one of them; elsewhere, what is listed has to be looked
at. -/
def Vouched (interfaces : List InfinibandInterface) (guid : Guid) : Prop :=
  ∀ fabric ∈ fabrics, ∃ data partitions, pass.dataByFabric.lookup fabric = some data ∧
    data.Complete partitions ∧
    ∀ pkey : PartitionKey,
      (if guid ∈ interfaces.map (·.guid) ∧
          (findPort pass.dataByFabric guid).map Prod.fst = some fabric then
        (expectedPkeys pass.tenantPartitions host).lookup guid = some pkey
      else FabricData.Lists partitions pkey.value guid) →
      isManaged fabrics fabric pkey = false

theorem lookup_of_findPort {dataByFabric : HashMap FabricId FabricData} {fabric : FabricId}
    {data : FabricData} {port : IBPort}
    (found : findPort dataByFabric guid = some (fabric, data, port)) :
    dataByFabric.lookup fabric = some data := by
  obtain ⟨entry, member, isPort⟩ := exists_of_findSome?_eq_some found
  obtain ⟨_, -, ⟨⟩⟩ := Option.map_eq_some_iff.mp isPort
  exact AList.mem_lookup_iff.mpr member

/-- For a GUID that is not outstanding, what is expected is what the fabric of its port lists. -/
theorem showsUnmanaged_iff_vouched {fabrics : HashMap FabricId IbFabricDefinition} {pass : PassData}
    {host : HostSnapshot} {interfaces : List InfinibandInterface}
    (settled : ¬ (guid ∈ interfaces.map (·.guid) ∧ Outstanding pass host guid)) :
    ShowsUnmanaged fabrics pass.dataByFabric guid ↔ Vouched fabrics pass host interfaces guid := by
  refine forall₂_congr fun fabric _ => exists_congr fun data => exists_congr fun partitions =>
    and_congr_right fun loaded => and_congr_right fun complete => ?_
  refine forall_congr' fun pkey => imp_congr_left ?_
  split
  next atPort =>
    obtain ⟨⟨_, other, port⟩, found, rfl⟩ := Option.map_eq_some_iff.mp atPort.2
    have same : other = data := Option.some.inj ((lookup_of_findPort found).symm.trans loaded)
    subst same
    by_contra differs
    exact settled ⟨atPort.1, _, _, port, partitions, found, complete, pkey, .inl differs⟩
  next => rfl

/-- The fabric data confirm the clearing of the cleanup alert if and only if one of its GUIDs is a
port of the host with other partitions than the expected ones, which keeps the alert, or all
partitions are known and each GUID is neither expected nor listed in a managed one. -/
theorem clearsConfirmed_iff_vouched (fabrics : HashMap FabricId IbFabricDefinition)
    (pass : PassData) (host : HostSnapshot) :
    ClearsConfirmed fabrics pass host ↔
      ∀ interfaces ∈ host.hardwareInfo, ∀ alert ∈ host.alert? ibCleanupPending,
        (∃ guid, alert.Names guid ∧ guid ∈ interfaces.map (·.guid) ∧ Outstanding pass host guid) ∨
          ∀ guid, alert.Names guid → Vouched fabrics pass host interfaces guid := by
  constructor
  · intro confirmed interfaces hardware alert raised
    rw [or_iff_not_imp_left]
    intro noneOutstanding guid named
    have settled (other : Guid) (otherNamed : alert.Names other) :
        ¬ (other ∈ interfaces.map (·.guid) ∧ Outstanding pass host other) := fun outstanding =>
      noneOutstanding ⟨other, otherNamed, outstanding⟩
    have clears : Clears pass allWritten host := by
      refine clears_iff.mpr ⟨interfaces, hardware, updatePortDownAlert_allWritten _ _,
        alert, raised,
        fun other member => ?_⟩
      rw [← Bool.not_eq_true, reports_iff]
      exact settled other ((mem_parseGuidsFromAlert named other).mp member)
    exact (showsUnmanaged_iff_vouched (settled guid named)).mp
      (confirmed allWritten clears alert raised guid named)
  · intro condition outcomes clears alert raised guid named
    obtain ⟨interfaces, hardware, -, other, otherRaised, silent⟩ := clears_iff.mp clears
    have same : other = alert := Option.some.inj (otherRaised.symm.trans raised)
    subst same
    have settled (candidate : Guid) (candidateNamed : other.Names candidate) :
        ¬ (candidate ∈ interfaces.map (·.guid) ∧ Outstanding pass host candidate) := by
      rw [← reports_iff, Bool.not_eq_true]
      exact silent candidate ((mem_parseGuidsFromAlert named candidate).mpr candidateNamed)
    rcases condition interfaces hardware other raised with
      ⟨candidate, candidateNamed, outstanding⟩ |
      vouched
    · exact absurd outstanding (settled candidate candidateNamed)
    · exact (showsUnmanaged_iff_vouched (settled guid named)).mpr (vouched guid named)

def sampleGuid : Guid := "946dae03006104f8".toList

def samplePkey : PartitionKey := ⟨0x101#16, by decide⟩

/-- A fabric that manages the keys from 0x100 to 0x1ff. -/
def sampleFabrics : HashMap FabricId IbFabricDefinition :=
  .insert "default".toList ⟨[⟨"0x100".toList, "0x200".toList⟩]⟩ ∅

/-- The fabric does not list the port of the GUID, which is in its partition 0x101. -/
def unlistedPort : PassData where
  tenantPartitions := .insert 1 ⟨some samplePkey⟩ ∅
  tenantPartitionIdsByPkey := .insert samplePkey 1 ∅
  dataByFabric := .insert "default".toList
    ⟨some ∅, some (.insert samplePkey.value ⟨some [sampleGuid]⟩ ∅)⟩ ∅
  skuInactiveCache := ∅
  toLowercase := .map .toLower

/-- A host without an instance whose cleanup is pending. -/
def pendingHost : HostSnapshot where
  hardwareInfo := some [⟨sampleGuid, none⟩]
  hwSku := none
  hostInstance := none
  useAdminNetwork := some true
  alerts := [⟨ibCleanupPending, cleanupMessage [sampleGuid]⟩]
  statusObservation := none
  forceDeletion := false

/-- The alert is cleared while the fabric data has the GUID in a managed partition, because its
port is not listed. -/
theorem not_clearsConfirmed_unlistedPort :
    Clears unlistedPort allWritten pendingHost ∧
      (∀ alert ∈ pendingHost.alert? ibCleanupPending, alert.Names sampleGuid) ∧
      (∀ entry ∈ unlistedPort.dataByFabric.entries, ∀ partitions ∈ entry.2.partitions,
        FabricData.Lists partitions samplePkey.value sampleGuid ∧
          isManaged sampleFabrics entry.1 samplePkey = true) ∧
      ¬ ClearsConfirmed sampleFabrics unlistedPort pendingHost := by
  have clears : Clears unlistedPort allWritten pendingHost := by
    refine clears_iff.mpr ⟨_, rfl, updatePortDownAlert_allWritten _ _, _, rfl, ?_⟩
    decide +kernel
  have isGuid : IsGuid sampleGuid := by
    constructor <;> decide +kernel
  have named : HealthProbeAlert.Names ⟨ibCleanupPending, cleanupMessage [sampleGuid]⟩ sampleGuid :=
    ⟨[sampleGuid], forall_mem_singleton.mpr isGuid, rfl, mem_singleton.mpr rfl⟩
  refine ⟨clears, ?_, ?_, fun confirmed => ?_⟩
  · rintro alert ⟨⟩
    exact named
  · rintro entry member partitions loaded
    rw [mem_singleton.mp member] at loaded ⊢
    cases loaded
    exact ⟨⟨_, mem_singleton.mpr rfl, rfl, _, rfl, mem_singleton.mpr rfl⟩, by decide +kernel⟩
  · obtain ⟨_, _, ⟨⟩, ⟨⟨⟩, -⟩, unmanaged⟩ :=
      confirmed allWritten clears _ rfl sampleGuid named "default".toList (mem_singleton.mpr rfl)
    have managed : isManaged sampleFabrics "default".toList samplePkey = true := by decide +kernel
    rw [unmanaged samplePkey ⟨_, mem_singleton.mpr rfl, rfl, _, rfl, mem_singleton.mpr rfl⟩]
      at managed
    cases managed

end IbFabric
