import BareMetalManager.ApiModel.Instance.NetworkConfig

/-!
# Resources across a network update

An update of the network of an instance keeps the resources of the interfaces that it does not
change, allocates for the others, and later releases what the new configuration does not keep:
`copy_existing_resources` of `api-model/src/instance/config/network.rs`, the update handler of
`api-core/src/handlers/instance.rs` and the state `ReleaseOldResources` of
`machine-controller/src/handler.rs`. What is kept is computed twice: before the allocation, and
at the release from the stored configurations.
-/

namespace ApiModel.Instance

open Network ApiCore ApiCore.Instance Option InterfaceConfig

namespace InterfaceConfig

/-! ## Copying -/

variable (interface existing : InterfaceConfig)

/-- An unresolved request may inherit any resolution; a resolved one only its own. -/
def requestedResolutionMatches : Bool :=
  match interface.resolvedVpcPrefixes with
  | none => true
  | some requested =>
    existing.resolvedVpcPrefixes = some requested
      && existing.generatedNetworkSegmentId = interface.generatedNetworkSegmentId

def hasFamilyShape (mode : InstanceInterfaceIpFamilyMode) (resolved : ResolvedVpcPrefixes) :
    Bool :=
  match mode with
  | .ipv4Only => resolved.ipv4VpcPrefixId.isSome && resolved.ipv6VpcPrefixId.isNone
  | .ipv6Only => resolved.ipv4VpcPrefixId.isNone && resolved.ipv6VpcPrefixId.isSome
  | .dualStack => resolved.ipv4VpcPrefixId.isSome && resolved.ipv6VpcPrefixId.isSome

/-- Whether a requested interface asks for the network of an existing one. -/
def isNetworkSame : Bool :=
  match interface.vpcSelection, existing.vpcSelection with
  | some requested, some selected =>
    requested = selected && interface.requestedResolutionMatches existing
  | some requested, none =>
    existing.vpcId = some requested.vpcId
      && existing.resolvedVpcPrefixes.any (hasFamilyShape requested.familyMode)
      && interface.requestedResolutionMatches existing
  | none, _ =>
    if interface.networkDetails.isSome then
      existing.networkDetails = interface.networkDetails
        && existing.ipv6InterfaceConfig = interface.ipv6InterfaceConfig
    else
      interface.networkSegmentId.isSome
        && existing.networkSegmentId = interface.networkSegmentId

def keeps : Bool :=
  interface.isNetworkSame existing
    && (interface.functionId = existing.functionId
      && interface.deviceLocator = existing.deviceLocator)

def copyNetwork : InterfaceConfig :=
  if interface.vpcSelection.isSome then
    { interface with
      networkDetails := existing.networkDetails
      requestedIpAddr := none
      ipv6InterfaceConfig := existing.ipv6InterfaceConfig.map fun ipv6 => ⟨ipv6.vpcPrefixId, none⟩ }
  else
    { interface with
      requestedIpAddr := existing.requestedIpAddr
      ipv6InterfaceConfig := existing.ipv6InterfaceConfig }

def copyResources : InterfaceConfig :=
  let copied := interface.copyNetwork existing
  { copied with
    ipAddrs := existing.ipAddrs
    interfacePrefixes := existing.interfacePrefixes
    networkSegmentGateways := existing.networkSegmentGateways
    hostInbandMacAddress := existing.hostInbandMacAddress
    networkSegmentId :=
      if copied.networkDetails.isSome then existing.networkSegmentId
      else interface.networkSegmentId
    vpcId := existing.vpcId }

/-- A requested interface with the resources of the one that it keeps, if any. -/
def copied (current : List InterfaceConfig) (interface : InterfaceConfig) : InterfaceConfig :=
  ((current.find? interface.keeps).map interface.copyResources).getD interface

end InterfaceConfig

/-- The requested interfaces with the resources they keep, and the interfaces that they keep. -/
def copyExistingResources (requested current : List InterfaceConfig) :
    List InterfaceConfig × List InterfaceConfig :=
  (requested.map (copied current),
    requested.filterMap fun interface => current.find? interface.keeps)

/-! ## Release -/

inductive ReleaseError where
  /-- "instance i has allocated addresses without a network segment" -/
  | addressWithoutSegment
  deriving DecidableEq

/-- The old interfaces that the stored new configuration does not keep. -/
def resourcesToBeReleased (old new : List InterfaceConfig) : List InterfaceConfig :=
  old.filter fun interface => !(copyExistingResources new old).2.contains interface

def InterfaceConfig.addresses (interface : InterfaceConfig) :
    List (Option NetworkSegmentId × IpAddr) :=
  interface.ipAddrs.map fun entry => (interface.networkSegmentId, entry.2)

variable (interfaces : List InterfaceConfig)

def releasedAddresses : Except ReleaseError (List (NetworkSegmentId × IpAddr)) :=
  (interfaces.flatMap addresses).mapM fun (segmentId, address) =>
    match segmentId with
    | some segment => .ok (segment, address)
    | none => .error .addressWithoutSegment

def releasedSegments : List NetworkSegmentId :=
  interfaces.filterMap generatedNetworkSegmentId

/-! ## Configurations of an update -/

variable (interface : InterfaceConfig)

def InterfaceConfig.identity : InterfaceFunctionId × Option DeviceLocator :=
  (interface.functionId, interface.deviceLocator)

/-- A segment in the details of an interface is the segment of the interface, as the
conversion of a request writes both. -/
def InterfaceConfig.NamesOneSegment : Prop :=
  ∀ segment, interface.networkDetails = some (.networkSegment segment) →
    interface.networkSegmentId = some segment

/-- A configuration in use: every interface has its own segment and what was allocated in it,
and an automatic selection was resolved to a VPC prefix. -/
structure CurrentConfig where
  interfaces : List InterfaceConfig
  identities : (interfaces.map identity).Nodup
  segments : (interfaces.map fun interface => interface.networkSegmentId).Nodup
  hasSegment : ∀ interface ∈ interfaces, interface.networkSegmentId.isSome = true
  allocated : ∀ interface ∈ interfaces,
    interfaceNeedsPrefixAllocation interface.toInstanceInterfaceConfig = false
  resolved : ∀ interface ∈ interfaces, interface.vpcSelection.isSome = true →
    interface.resolvedVpcPrefixes.isSome = true
  namesOneSegment : ∀ interface ∈ interfaces, interface.NamesOneSegment

/-- A configuration as a caller requests it: nothing is allocated. -/
structure RequestedConfig where
  interfaces : List InterfaceConfig
  identities : (interfaces.map identity).Nodup
  segments : (interfaces.filterMap fun interface => interface.networkSegmentId).Nodup
  unallocated : ∀ interface ∈ interfaces,
    interfaceNeedsPrefixAllocation interface.toInstanceInterfaceConfig = true
  namesOneSegment : ∀ interface ∈ interfaces, interface.NamesOneSegment

namespace InterfaceConfig

/-- Whether an interface is to be placed in a VPC prefix, its own or one that is selected. -/
def wantsPrefix (interface : InterfaceConfig) : Bool :=
  interface.vpcSelection.isSome || (interface.networkDetails.bind (·.vpcPrefix?)).isSome

/-- What the allocation may do to an interface: it generates a segment where a VPC prefix is wanted
and nothing was copied, and it assigns addresses where there are none, each new to the current
configuration. -/
structure AllocatedFrom (current : List InterfaceConfig) (copied stored : InterfaceConfig) :
    Prop where
  identity : stored.identity = copied.identity
  vpcSelection : stored.vpcSelection = copied.vpcSelection
  placed : copied.wantsPrefix = true →
    interfaceNeedsPrefixAllocation copied.toInstanceInterfaceConfig = true →
      (stored.networkDetails.bind (·.vpcPrefix?)).isSome = true ∧
        stored.networkSegmentId.isSome = true ∧
        ∀ existing ∈ current, existing.networkSegmentId ≠ stored.networkSegmentId
  unplaced : copied.wantsPrefix = false ∨
      interfaceNeedsPrefixAllocation copied.toInstanceInterfaceConfig = false →
    stored.networkSegmentId = copied.networkSegmentId
  network : copied.vpcSelection = none ∨
      interfaceNeedsPrefixAllocation copied.toInstanceInterfaceConfig = false →
    stored.networkDetails = copied.networkDetails ∧
      stored.ipv6InterfaceConfig = copied.ipv6InterfaceConfig
  assigned : copied.ipAddrs ≠ [] → stored.ipAddrs = copied.ipAddrs
  unassigned : copied.ipAddrs = [] →
    ∀ existing ∈ current, ∀ address ∈ stored.addresses, address ∉ existing.addresses

end InterfaceConfig

def StoredFor (current requested stored : List InterfaceConfig) : Prop :=
  List.Forall₂ (InterfaceConfig.AllocatedFrom current) (copyExistingResources requested current).1
    stored

def UsesAddress (interfaces : List InterfaceConfig) (address : NetworkSegmentId × IpAddr) : Prop :=
  ∃ interface ∈ interfaces, (some address.1, address.2) ∈ interface.addresses

def UsesSegment (interfaces : List InterfaceConfig) (segment : NetworkSegmentId) : Prop :=
  ∃ interface ∈ interfaces, interface.networkSegmentId = some segment

/-- The release after an update gives back exactly what the update does not keep. -/
structure ReleasesExactly (current requested stored : List InterfaceConfig) : Prop where
  sameKept : (copyExistingResources stored current).2 = (copyExistingResources requested current).2
  addresses : ∃ released, releasedAddresses (resourcesToBeReleased current stored) = .ok released ∧
    (∀ address ∈ released, ¬ UsesAddress stored address) ∧
    ∀ address, UsesAddress current address → ¬ UsesAddress stored address → address ∈ released
  segmentsUnused : ∀ segment ∈ releasedSegments (resourcesToBeReleased current stored),
    ¬ UsesSegment stored segment
  segmentsReleased : ∀ segment ∈ releasedSegments current, ¬ UsesSegment stored segment →
    segment ∈ releasedSegments (resourcesToBeReleased current stored)

/-- A request names a generated segment of the current configuration only while it keeps the
interface that the segment was generated for. -/
def NamesKeptSegments (current requested : List InterfaceConfig) : Prop :=
  ∀ existing ∈ current, ∀ segment ∈ existing.generatedNetworkSegmentId,
    ∀ interface ∈ requested, interface.wantsPrefix = false →
      interface.networkSegmentId = some segment → ∃ other ∈ requested, other.keeps existing = true

namespace InterfaceConfig

/-! ## One interface -/

section Interface

variable {interface existing stored : InterfaceConfig}

theorem keeps_iff :
    interface.keeps existing = true ↔
      interface.isNetworkSame existing = true ∧ interface.identity = existing.identity := by
  simp [keeps, identity]

/-- Whether an existing interface is what an automatic selection asks for, whatever it was
resolved to. -/
def selectedBy (existing : InterfaceConfig) (selection : InstanceInterfaceVpcSelection) : Bool :=
  match existing.vpcSelection with
  | some selected => selection = selected
  | none =>
    existing.vpcId = some selection.vpcId
      && existing.resolvedVpcPrefixes.any (hasFamilyShape selection.familyMode)

variable {selection : InstanceInterfaceVpcSelection}

theorem isNetworkSame_of_selection (selects : interface.vpcSelection = some selection) :
    interface.isNetworkSame existing =
      (existing.selectedBy selection && interface.requestedResolutionMatches existing) := by
  rw [isNetworkSame, selectedBy, selects]
  cases existing.vpcSelection <;> rfl

theorem isNetworkSame_of_no_selection (selects : interface.vpcSelection = none) :
    interface.isNetworkSame existing =
      if interface.networkDetails.isSome then
        decide (existing.networkDetails = interface.networkDetails)
          && decide (existing.ipv6InterfaceConfig = interface.ipv6InterfaceConfig)
      else
        interface.networkSegmentId.isSome
          && decide (existing.networkSegmentId = interface.networkSegmentId) := by
  rw [isNetworkSame, selects]

theorem generatedNetworkSegmentId_eq (resolved : interface.resolvedVpcPrefixes.isSome = true) :
    interface.generatedNetworkSegmentId = interface.networkSegmentId := by
  obtain ⟨prefixes, eq⟩ := isSome_iff_exists.mp resolved
  rw [generatedNetworkSegmentId, eq, bind_some]

/-- What an automatic selection resolves to depends on the stored prefixes alone. -/
theorem resolvedVpcPrefixes_of_selection {primary : VpcPrefixId}
    (selects : interface.vpcSelection = some selection)
    (details : interface.networkDetails = some (.vpcPrefixId primary)) :
    interface.resolvedVpcPrefixes =
      some (prefixesOfMode primary (interface.ipv6InterfaceConfig.map (·.vpcPrefixId))
        selection.familyMode) := by
  rw [resolvedVpcPrefixes, details, selects]

/-- A resolution of the families of a mode is what the mode makes of its prefixes. -/
theorem resolvedVpcPrefixes_of_shape {mode : InstanceInterfaceIpFamilyMode}
    (selects : existing.vpcSelection = none)
    (shape : existing.resolvedVpcPrefixes.any (hasFamilyShape mode) = true) :
    ∃ primary, existing.networkDetails = some (.vpcPrefixId primary) ∧
      existing.resolvedVpcPrefixes =
        some (prefixesOfMode primary (existing.ipv6InterfaceConfig.map (·.vpcPrefixId)) mode) := by
  obtain ⟨resolved, eq, shaped⟩ := (any_eq_true _ _).mp shape
  obtain ⟨primary, details⟩ :=
    isSome_resolvedVpcPrefixes.mp (isSome_of_eq_some eq)
  refine ⟨primary, details, eq.trans (congrArg some ?_)⟩
  rw [resolvedVpcPrefixes, details, selects] at eq
  cases secondary : existing.ipv6InterfaceConfig.map Ipv6InterfaceConfig.vpcPrefixId with
  | some id =>
    simp only [secondary, isSome_some, if_true, Option.some.injEq] at eq
    subst eq
    cases mode <;> simp_all [hasFamilyShape, prefixesOfMode]
  | none =>
    simp only [secondary, isSome_none, Bool.false_eq_true, if_false] at eq
    split at eq <;> cases eq <;> cases mode <;> simp_all [hasFamilyShape, prefixesOfMode]

theorem copyResources_identity :
    (interface.copyResources existing).identity = interface.identity := by
  simp only [copyResources, copyNetwork, identity]
  split <;> rfl

theorem copyResources_vpcSelection :
    (interface.copyResources existing).vpcSelection = interface.vpcSelection := by
  simp only [copyResources, copyNetwork]
  split <;> rfl

theorem copyResources_networkDetails :
    (interface.copyResources existing).networkDetails =
      if interface.vpcSelection.isSome then existing.networkDetails
      else interface.networkDetails := by
  simp only [copyResources, copyNetwork]
  split <;> rfl

theorem copyResources_ipv6InterfaceConfig :
    (interface.copyResources existing).ipv6InterfaceConfig =
      if interface.vpcSelection.isSome then
        existing.ipv6InterfaceConfig.map fun ipv6 => ⟨ipv6.vpcPrefixId, none⟩
      else existing.ipv6InterfaceConfig := by
  simp only [copyResources, copyNetwork]
  split <;> rfl

section Resolved

variable
  (resolved : existing.vpcSelection.isSome = true → existing.resolvedVpcPrefixes.isSome = true)
include resolved

/-- A selected interface is resolved, to what the selection makes of its prefixes. -/
theorem resolvedVpcPrefixes_of_selectedBy
    (selected : existing.selectedBy selection = true) :
    ∃ primary, existing.networkDetails = some (.vpcPrefixId primary) ∧
      existing.resolvedVpcPrefixes =
        some (prefixesOfMode primary (existing.ipv6InterfaceConfig.map (·.vpcPrefixId))
          selection.familyMode) := by
  rw [selectedBy] at selected
  cases selects : existing.vpcSelection with
  | none =>
    rw [selects] at selected
    simp only [Bool.and_eq_true] at selected
    exact resolvedVpcPrefixes_of_shape selects selected.2
  | some other =>
    rw [selects] at selected
    obtain rfl : selection = other := of_decide_eq_true selected
    obtain ⟨primary, details⟩ :=
      isSome_resolvedVpcPrefixes.mp (resolved (by rw [selects]; rfl))
    exact ⟨primary, details, resolvedVpcPrefixes_of_selection selects details⟩

theorem copyResources_networkSegmentId
    (same : interface.isNetworkSame existing = true) :
    (interface.copyResources existing).networkSegmentId = existing.networkSegmentId := by
  have eq : (interface.copyResources existing).networkSegmentId =
      if (interface.copyResources existing).networkDetails.isSome then existing.networkSegmentId
      else interface.networkSegmentId := rfl
  rw [eq, copyResources_networkDetails]
  cases selects : interface.vpcSelection with
  | some selection =>
    rw [isNetworkSame_of_selection selects, Bool.and_eq_true] at same
    obtain ⟨primary, details, -⟩ := resolvedVpcPrefixes_of_selectedBy resolved same.1
    simp [details]
  | none =>
    rw [isNetworkSame_of_no_selection selects] at same
    cases details : interface.networkDetails with
    | some named => simp
    | none => simp_all

/-- What is stored for a kept interface keeps it again. -/
theorem isNetworkSame_of_copyResources
    (same : interface.isNetworkSame existing = true)
    (selection : stored.vpcSelection = interface.vpcSelection)
    (segment : stored.networkSegmentId = existing.networkSegmentId)
    (details : stored.networkDetails = (interface.copyResources existing).networkDetails)
    (sidecar : stored.ipv6InterfaceConfig =
      (interface.copyResources existing).ipv6InterfaceConfig) :
    stored.isNetworkSame existing = true := by
  rw [copyResources_networkDetails] at details
  rw [copyResources_ipv6InterfaceConfig] at sidecar
  cases selects : interface.vpcSelection with
  | some wanted =>
    rw [isNetworkSame_of_selection selects, Bool.and_eq_true] at same
    obtain ⟨primary, named, resolution⟩ := resolvedVpcPrefixes_of_selectedBy resolved same.1
    simp only [selects, isSome_some, if_true] at selection details sidecar
    have stays : stored.resolvedVpcPrefixes = existing.resolvedVpcPrefixes := by
      rw [resolvedVpcPrefixes_of_selection selection (details.trans named), resolution, sidecar,
        map_map]
      rfl
    rw [isNetworkSame_of_selection selection, same.1, Bool.true_and, requestedResolutionMatches,
      stays, resolution]
    simp [generatedNetworkSegmentId, stays, segment]
  | none =>
    rw [isNetworkSame_of_no_selection selects] at same
    simp only [selects, isSome_none, Bool.false_eq_true, if_false] at selection details sidecar
    rw [isNetworkSame_of_no_selection selection, details, segment, sidecar]
    split at same <;> simp_all

end Resolved

/-- What is stored for an interface that keeps nothing does not keep an existing interface
either: a new segment is not a segment of its. -/
theorem isNetworkSame_eq_false_of_fresh {wanted : InstanceInterfaceVpcSelection}
    (selection : stored.vpcSelection = some wanted)
    (placed : (stored.networkDetails.bind (·.vpcPrefix?)).isSome = true)
    (hasSegment : stored.networkSegmentId.isSome = true)
    (fresh : existing.networkSegmentId ≠ stored.networkSegmentId) :
    stored.isNetworkSame existing = false := by
  have resolved : stored.resolvedVpcPrefixes.isSome = true := by
    rw [isSome_resolvedVpcPrefixes]
    cases details : stored.networkDetails with
    | none => simp [details] at placed
    | some named =>
      cases named with
      | networkSegment segment => simp [details, NetworkDetails.vpcPrefix?] at placed
      | vpcPrefixId primary => exact ⟨primary, rfl⟩
  obtain ⟨prefixes, eq⟩ := isSome_iff_exists.mp resolved
  obtain ⟨segment, ofStored⟩ := isSome_iff_exists.mp hasSegment
  have differs : existing.generatedNetworkSegmentId ≠ stored.generatedNetworkSegmentId := by
    rw [generatedNetworkSegmentId_eq resolved, ofStored, generatedNetworkSegmentId]
    rw [ofStored] at fresh
    cases existing.resolvedVpcPrefixes with
    | none => simp
    | some other => simpa using fresh
  rw [isNetworkSame_of_selection selection, requestedResolutionMatches, eq]
  simp [differs]

end Interface

/-! ## One interface of an update -/

section Update

variable {current : CurrentConfig} {interface existing stored : InterfaceConfig}

theorem find?_keeps :
    current.interfaces.find? interface.keeps = some existing ↔
      existing ∈ current.interfaces ∧ interface.keeps existing = true := by
  constructor
  · intro found
    exact ⟨List.mem_of_find?_eq_some found, List.find?_some found⟩
  · rintro ⟨member, keeps⟩
    cases found : current.interfaces.find? interface.keeps with
    | none => exact absurd keeps (List.find?_eq_none.mp found existing member)
    | some other =>
      have same : other.identity = existing.identity :=
        (keeps_iff.mp (List.find?_some found)).2.symm.trans (keeps_iff.mp keeps).2
      rw [List.inj_on_of_nodup_map current.identities (List.mem_of_find?_eq_some found) member same]

theorem copied_of_keeps (member : existing ∈ current.interfaces)
    (keeps : interface.keeps existing = true) :
    interface.copied current.interfaces = interface.copyResources existing := by
  rw [copied, find?_keeps.mpr ⟨member, keeps⟩]
  rfl

theorem copied_of_keeps_none
    (keepsNone : ∀ existing ∈ current.interfaces, interface.keeps existing = false) :
    interface.copied current.interfaces = interface := by
  have none : current.interfaces.find? interface.keeps = none :=
    List.find?_eq_none.mpr fun existing member => by simp [keepsNone existing member]
  rw [copied, none]
  rfl

theorem copyResources_allocated (member : existing ∈ current.interfaces) :
    interfaceNeedsPrefixAllocation (interface.copyResources existing).toInstanceInterfaceConfig =
      false :=
  current.allocated existing member

section Kept

variable (member : existing ∈ current.interfaces) (keeps : interface.keeps existing = true)
  (allocated : AllocatedFrom current.interfaces (interface.copied current.interfaces) stored)
include member keeps allocated

theorem networkSegmentId_of_keeps : stored.networkSegmentId = existing.networkSegmentId := by
  rw [copied_of_keeps member keeps] at allocated
  rw [allocated.unplaced (Or.inr (copyResources_allocated member)),
    copyResources_networkSegmentId (current.resolved existing member) (keeps_iff.mp keeps).1]

theorem addresses_of_keeps (nonempty : existing.ipAddrs ≠ []) :
    stored.addresses = existing.addresses := by
  rw [addresses, addresses, networkSegmentId_of_keeps member keeps allocated]
  rw [copied_of_keeps member keeps] at allocated
  rw [allocated.assigned nonempty]
  rfl

theorem isNetworkSame_of_keeps : stored.isNetworkSame existing = true := by
  have segment := networkSegmentId_of_keeps member keeps allocated
  rw [copied_of_keeps member keeps] at allocated
  obtain ⟨details, sidecar⟩ := allocated.network (.inr (copyResources_allocated member))
  exact isNetworkSame_of_copyResources (current.resolved existing member) (keeps_iff.mp keeps).1
    (allocated.vpcSelection.trans copyResources_vpcSelection) segment details sidecar

end Kept

section Unkept

variable (unallocated :
    interfaceNeedsPrefixAllocation interface.toInstanceInterfaceConfig = true)
  (keepsNone : ∀ existing ∈ current.interfaces, interface.keeps existing = false)
  (allocated : AllocatedFrom current.interfaces (interface.copied current.interfaces) stored)
include keepsNone allocated

/-- An interface that keeps nothing and wants no VPC prefix is stored with the segment it
names. -/
theorem networkSegmentId_of_not_wantsPrefix (direct : interface.wantsPrefix = false) :
    stored.networkSegmentId = interface.networkSegmentId := by
  rw [copied_of_keeps_none keepsNone] at allocated
  exact allocated.unplaced (.inl direct)

include unallocated

/-- An interface that keeps nothing and wants a VPC prefix is stored with a new segment. -/
theorem networkSegmentId_of_wantsPrefix (wants : interface.wantsPrefix = true)
    (member : existing ∈ current.interfaces) :
    existing.networkSegmentId ≠ stored.networkSegmentId := by
  rw [copied_of_keeps_none keepsNone] at allocated
  exact (allocated.placed wants unallocated).2.2 existing member

theorem isNetworkSame_of_keeps_none (member : existing ∈ current.interfaces)
    (differs : interface.isNetworkSame existing = false) :
    stored.isNetworkSame existing = false := by
  have segmentOfDirect := networkSegmentId_of_not_wantsPrefix keepsNone allocated
  rw [copied_of_keeps_none keepsNone] at allocated
  cases selects : interface.vpcSelection with
  | some wanted =>
    have wants : interface.wantsPrefix = true := by simp [wantsPrefix, selects]
    obtain ⟨placed, hasSegment, fresh⟩ := allocated.placed wants unallocated
    exact isNetworkSame_eq_false_of_fresh (allocated.vpcSelection.trans selects) placed hasSegment
      (fresh existing member)
  | none =>
    obtain ⟨details, sidecar⟩ := allocated.network (.inl selects)
    rw [isNetworkSame_of_no_selection selects] at differs
    rw [isNetworkSame_of_no_selection (allocated.vpcSelection.trans selects), details, sidecar]
    split
    · rwa [if_pos ‹_›] at differs
    · rename_i unnamed
      rw [if_neg unnamed] at differs
      have direct : interface.wantsPrefix = false := by
        have noDetails : interface.networkDetails = none := by simpa using unnamed
        simp [wantsPrefix, selects, noDetails]
      rwa [segmentOfDirect direct]

end Unkept

/-- An interface that names its segment directly keeps only an interface of that segment. -/
theorem networkSegmentId_eq_of_direct (direct : interface.wantsPrefix = false)
    (oneSegment : interface.NamesOneSegment) (existingOneSegment : existing.NamesOneSegment)
    (same : interface.isNetworkSame existing = true) :
    existing.networkSegmentId = interface.networkSegmentId := by
  simp only [wantsPrefix, Bool.or_eq_false_iff] at direct
  have selects : interface.vpcSelection = none := by simpa using direct.1
  rw [isNetworkSame_of_no_selection selects] at same
  cases details : interface.networkDetails with
  | none => simp_all
  | some named =>
    cases named with
    | vpcPrefixId primary => simp [details, NetworkDetails.vpcPrefix?] at direct
    | networkSegment segment =>
      simp only [details, isSome_some, if_true, Bool.and_eq_true, decide_eq_true_eq] at same
      rw [oneSegment segment details, existingOneSegment segment same.1]

/-- What is stored for a requested interface keeps what the requested interface keeps. -/
theorem keeps_stored
    (unallocated : interfaceNeedsPrefixAllocation interface.toInstanceInterfaceConfig = true)
    (allocated : AllocatedFrom current.interfaces (interface.copied current.interfaces) stored)
    (member : existing ∈ current.interfaces) :
    stored.keeps existing = interface.keeps existing := by
  have sameIdentity : stored.identity = interface.identity := by
    rw [allocated.identity, copied]
    cases current.interfaces.find? interface.keeps with
    | none => rfl
    | some other => exact copyResources_identity
  by_cases identified : interface.identity = existing.identity
  · -- the only current interface that can be kept, before and after
    rw [Bool.eq_iff_iff, keeps_iff, keeps_iff, sameIdentity]
    refine and_congr_left fun _ => ?_
    cases keeps : interface.keeps existing with
    | true =>
      exact iff_of_true (isNetworkSame_of_keeps member keeps allocated) (keeps_iff.mp keeps).1
    | false =>
      have differs : interface.isNetworkSame existing = false := by
        rw [← Bool.not_eq_true]
        intro same
        rw [keeps_iff.mpr ⟨same, identified⟩] at keeps
        cases keeps
      have keepsNone : ∀ other ∈ current.interfaces, interface.keeps other = false := by
        intro other otherMember
        by_contra kept
        have otherKeeps := (Bool.not_eq_false _).mp kept
        have same := (keeps_iff.mp otherKeeps).2.symm.trans identified
        rw [List.inj_on_of_nodup_map current.identities otherMember member same,
          keeps] at otherKeeps
        cases otherKeeps
      rw [isNetworkSame_of_keeps_none unallocated keepsNone allocated member differs, differs]
  · have unkept (candidate : InterfaceConfig) (same : candidate.identity = interface.identity) :
        candidate.keeps existing = false := by
      rw [← Bool.not_eq_true, keeps_iff, same]
      exact fun kept => identified kept.2
    rw [unkept stored sameIdentity, unkept interface rfl]

end Update

end InterfaceConfig

end ApiModel.Instance
