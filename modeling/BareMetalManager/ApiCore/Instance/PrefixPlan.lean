import BareMetalManager.ApiCore.PrefixAllocator
import BareMetalManager.Lib.BTreeMap

/-!
# Planning prefix allocations for instances

The interfaces of a batch of instances ask for linknets, out of VPC prefixes that the caller names
or out of any prefix of a VPC. Planning, as in `crates/api-core/src/instance/mod.rs`, validates
the requests against what was read from the database and turns each interface and family into a
work item with the VPC prefixes that may serve it. A `HashMap` is modelled as an ordered map.
-/

namespace ApiCore.Instance

open Checked Network Collections

abbrev NetworkSegmentId := Nat
abbrev NetworkPrefixId := Nat

/-- The address family of an allocation group, IPv4 before IPv6. -/
inductive AllocationAddressFamily where
  | ipv4
  | ipv6

open AllocationAddressFamily

namespace AllocationAddressFamily

/-- The position in the declaration of the source, which orders the families. -/
def position : AllocationAddressFamily → Nat
  | ipv4 => 0
  | ipv6 => 1

theorem position_injective : Function.Injective position := by
  intro left right same
  cases left <;> cases right <;> first | rfl | cases same

instance : LinearOrder AllocationAddressFamily := .lift' position position_injective

def ofIpAddressFamily : IpAddressFamily → AllocationAddressFamily
  | .ipv4 => ipv4
  | .ipv6 => ipv6

def fromNetwork (net : IpNet) : AllocationAddressFamily := ofIpAddressFamily net.addressFamily

def fromAddress (address : IpAddr) : AllocationAddressFamily :=
  ofIpAddressFamily address.addressFamily

def ipAddressFamily : AllocationAddressFamily → IpAddressFamily
  | ipv4 => .ipv4
  | ipv6 => .ipv6

end AllocationAddressFamily

/-- The group in which an allocation is executed. -/
abbrev Group := VpcId ×ₗ AllocationAddressFamily

inductive VpcVirtualizationType where
  | ethernetVirtualizer
  | ethernetVirtualizerWithNvue
  | fnn
  | flat
  deriving DecidableEq

namespace VpcVirtualizationType

def supportsIpv4Prefix : VpcVirtualizationType → Bool
  | ethernetVirtualizer | ethernetVirtualizerWithNvue | fnn | flat => true

def supportsIpv6Prefix : VpcVirtualizationType → Bool
  | ethernetVirtualizer | ethernetVirtualizerWithNvue => false
  | fnn | flat => true

end VpcVirtualizationType

structure Vpc where
  id : VpcId
  tenantOrganizationId : String
  networkVirtualizationType : VpcVirtualizationType
  slaacEnabled : Bool

structure VpcPrefix where
  id : VpcPrefixId
  vpcId : VpcId
  net : IpNet
  lastUsedPrefix : Option IpNet
  markedAsDeleted : Bool

def VpcPrefix.group (vpcPrefix : VpcPrefix) : Group :=
  toLex (vpcPrefix.vpcId, .fromNetwork vpcPrefix.net)

inductive InstanceInterfaceIpFamilyMode where
  | ipv4Only
  | ipv6Only
  | dualStack
  deriving DecidableEq

structure InstanceInterfaceVpcSelection where
  vpcId : VpcId
  familyMode : InstanceInterfaceIpFamilyMode

inductive NetworkDetails where
  | networkSegment (id : NetworkSegmentId)
  | vpcPrefixId (id : VpcPrefixId)

structure Ipv6InterfaceConfig where
  vpcPrefixId : VpcPrefixId
  requestedIpAddr : Option (BitVec 128)

/-- The fields of an interface that the allocation of prefixes reads or writes. -/
structure InstanceInterfaceConfig where
  networkDetails : Option NetworkDetails
  vpcSelection : Option InstanceInterfaceVpcSelection
  networkSegmentId : Option NetworkSegmentId
  ipAddrs : List (NetworkPrefixId × IpAddr)
  requestedIpAddr : Option IpAddr
  ipv6InterfaceConfig : Option Ipv6InterfaceConfig
  interfacePrefixes : List (NetworkPrefixId × IpNet)
  vpcId : Option VpcId

/-- The network configuration of one instance, and its tenant. -/
structure NetworkAllocationTarget where
  interfaces : List InstanceInterfaceConfig
  tenantOrganizationId : String

structure DatabaseError where
  constraint : Option String

/-- The errors of the allocation of prefixes, with the data of their messages. -/
inductive AllocationError where
  /-- "prefix-allocation context is missing automatically selected VPC v" -/
  | missingSelectedVpc (vpcId : VpcId)
  /-- "VPC v selected for automatic VPC-prefix allocation does not exist or is deleted" -/
  | selectedVpcNotFound (vpcId : VpcId)
  /-- "VPC prefix p references VPC v, which does not exist or is deleted" -/
  | prefixVpcNotFound (vpcPrefixId : VpcPrefixId) (vpcId : VpcId)
  /-- "VPC v is not owned by tenant t" -/
  | vpcNotOwned (vpcId : VpcId) (tenant : String)
  /-- "automatic VPC-prefix selection requires an FNN VPC; VPC v uses t" -/
  | requiresFnn (vpcId : VpcId) (virtualizationType : VpcVirtualizationType)
  /-- "VPC v does not support f prefixes" -/
  | familyNotSupported (vpcId : VpcId) (family : AllocationAddressFamily)
  /-- "explicit IP requests, incompatible IPv6 configuration, and explicit network segments
  are invalid with automatic VPC-prefix selection" -/
  | incompatibleSelection
  /-- "VPC v has no eligible f VPC prefix" -/
  | noEligiblePrefix (vpcId : VpcId) (family : AllocationAddressFamily)
  /-- "VPC prefix p does not exist" -/
  | prefixNotFound (vpcPrefixId : VpcPrefixId)
  /-- "prefix-allocation context is missing VPC v referenced by VPC prefix p" -/
  | missingReferencedVpc (vpcId : VpcId) (vpcPrefixId : VpcPrefixId)
  /-- "VPC prefix p belongs to VPC v, which is not owned by tenant t" -/
  | prefixVpcNotOwned (vpcPrefixId : VpcPrefixId) (vpcId : VpcId) (tenant : String)
  /-- "requested IP address a does not match VPC prefix p" -/
  | requestedAddressMismatch (address : IpAddr) (vpcPrefixId : VpcPrefixId)
  /-- "requested IPv6 address a is invalid because VPC v has SLAAC enabled" -/
  | requestedAddressWithSlaac (address : IpAddr) (vpcId : VpcId)
  /-- "vpc_prefix_id points to an IPv6 prefix but ipv6_interface_config is also set -- use one
  or the other for IPv6" -/
  | ipv6ConfiguredTwice
  /-- "ipv6_interface_config VPC prefix p is not IPv6" -/
  | prefixNotIpv6 (vpcPrefixId : VpcPrefixId)
  /-- "dual-stack VPC prefixes must belong to the same VPC: …" -/
  | dualStackVpcsDiffer (primaryPrefixId : VpcPrefixId) (primaryVpcId : VpcId)
      (ipv6PrefixId : VpcPrefixId) (ipv6VpcId : VpcId)
  /-- "VPC prefix p (n) cannot contain a /l interface prefix" -/
  | prefixTooSmall (vpcPrefixId : VpcPrefixId) (net : IpNet) (allocationPrefixLen : Nat)
  /-- "requested IP address must not have final host bit of 0: a" -/
  | requestedHostBitZero (address : IpAddr)
  /-- "unable to create IP network for a: …" -/
  | networkNotCreated (address : IpAddr)
  /-- "validated IPv6 allocation lost its interface configuration" -/
  | lostInterfaceConfiguration
  /-- "interface config selects prefixes from multiple VPCs, which is only supported when all
  VPCs use FNN: …" -/
  | multipleVpcs (vpcs : List (VpcId × VpcVirtualizationType))
  /-- "VPC prefix p is marked for deletion and cannot be used for allocation" -/
  | markedForDeletion (vpcPrefixId : VpcPrefixId)
  /-- "prefix allocation work index i is out of bounds" -/
  | workIndexOutOfBounds (workIndex : Nat)
  /-- "prefix allocation work i has no candidates" -/
  | noCandidates (workIndex : Nat)
  /-- "network allocation target index i is out of bounds" -/
  | targetIndexOutOfBounds (targetIndex : Nat)
  /-- "network interface index i is out of bounds for allocation target t" -/
  | interfaceIndexOutOfBounds (interfaceIndex targetIndex : Nat)
  /-- "IPv6 allocation ran before its primary segment was created" -/
  | primarySegmentMissing
  /-- "primary VPC-prefix allocation did not create a network segment" -/
  | segmentNotCreated
  /-- "VPC prefix p no longer belongs to the requested f allocation group in VPC v" -/
  | leftAllocationGroup (vpcPrefixId : VpcPrefixId) (family : AllocationAddressFamily)
      (vpcId : VpcId)
  /-- "allocation from f VPC prefix p repeatedly raced with an overlapping network-prefix
  write; retry the request" -/
  | repeatedlyRaced (family : AllocationAddressFamily) (vpcPrefixId : VpcPrefixId)
  /-- "no eligible f VPC prefix in VPC v could allocate an interface linknet" -/
  | candidatesExhausted (family : AllocationAddressFamily) (vpcId : VpcId)
  /-- "VPC prefix candidate order moved backward from c to n" -/
  | movedBackward (currentCandidate nextCandidate : VpcPrefixId)
  /-- "p is not contained within n" -/
  | notContained (requested net : IpNet)
  | alreadyFound (requested : IpNet)
  | allocator (error : CarbideError)
  | database (error : DatabaseError)

/-- Selects the operation on the database and the fields of the interface. -/
inductive PrefixAllocationSlot where
  | primary
  | secondaryIpv6

/-- One interface and family that still needs a linknet, with the VPC prefixes that may
serve it. -/
structure PrefixAllocationWork where
  targetIndex : Nat
  interfaceIndex : Nat
  vpcId : VpcId
  family : AllocationAddressFamily
  allocationPrefixLen : Nat
  candidates : List VpcPrefixId
  candidateIndex : Nat
  slot : PrefixAllocationSlot
  requestedPrefix : Option IpNet
  automatic : Bool

def PrefixAllocationWork.group (work : PrefixAllocationWork) : Group :=
  toLex (work.vpcId, work.family)

structure PrefixAllocationContext where
  explicitPrefixes : BTreeMap VpcPrefixId VpcPrefix
  automaticCandidates : BTreeMap Group (List VpcPrefixId)
  vpcs : BTreeMap VpcId Vpc

/-! ## Discovery -/

structure DiscoveryReads where
  /-- `get_for_allocation_by_ids` -/
  explicitPrefixes : Except DatabaseError (List VpcPrefix)
  /-- `find_allocation_candidates` -/
  automaticPrefixes : Except DatabaseError (List VpcPrefix)
  /-- `vpc::find_by` -/
  vpcs : Except DatabaseError (List Vpc)

def requestedFamilies : InstanceInterfaceIpFamilyMode → List AllocationAddressFamily
  | .ipv4Only => [.ipv4]
  | .ipv6Only => [.ipv6]
  | .dualStack => [.ipv4, .ipv6]

def interfaceNeedsPrefixAllocation (interface : InstanceInterfaceConfig) : Bool :=
  interface.ipAddrs.isEmpty && interface.interfacePrefixes.isEmpty

def vpcSupportsFamily (virtualizationType : VpcVirtualizationType) :
    AllocationAddressFamily → Bool
  | .ipv4 => virtualizationType.supportsIpv4Prefix
  | .ipv6 => virtualizationType.supportsIpv6Prefix

def instancePrefixLen : IpAddressFamily → (slaacEnabled : Bool) → Nat
  | .ipv4, _ => 31
  | .ipv6, true => 64
  | .ipv6, false => 127

def NetworkDetails.vpcPrefix? : NetworkDetails → Option VpcPrefixId
  | networkSegment _ => none
  | vpcPrefixId id => some id

def explicitPrefixIds (interface : InstanceInterfaceConfig) : List VpcPrefixId :=
  if interface.vpcSelection.isSome then []
  else (interface.networkDetails.bind (·.vpcPrefix?)).toList ++
    (interface.ipv6InterfaceConfig.map (·.vpcPrefixId)).toList

/-- Add a VPC prefix to the candidates of its group, if it can contain an interface prefix. -/
def freezeCandidate (vpcs : BTreeMap VpcId Vpc)
    (candidates : BTreeMap Group (List VpcPrefixId)) (vpcPrefix : VpcPrefix) :
    BTreeMap Group (List VpcPrefixId) :=
  match vpcs.get? vpcPrefix.vpcId with
  | none => candidates
  | some vpc =>
    let family := fromNetwork vpcPrefix.net
    if vpcPrefixCanAllocateInterfacePrefix family.ipAddressFamily vpcPrefix.net.prefixLen
        (instancePrefixLen family.ipAddressFamily vpc.slaacEnabled) then
      candidates.upsert (· ++ ·) vpcPrefix.group [vpcPrefix.id]
    else candidates

def selectedVpcIds (interfaces : List InstanceInterfaceConfig) : BTreeSet VpcId :=
  (interfaces.filterMap fun interface => interface.vpcSelection.map (·.vpcId)).foldl
    .insert .empty

def readUnless (skipped : Bool) (rows : Except DatabaseError (List VpcPrefix)) :
    Except AllocationError (List VpcPrefix) :=
  if skipped then .ok [] else rows.mapError .database

/-- Load what planning needs; there is nothing to plan where no interface names a VPC or a
VPC prefix. -/
def loadPrefixAllocationContext (targets : List NetworkAllocationTarget)
    (reads : DiscoveryReads) : Except AllocationError (Option PrefixAllocationContext) :=
  let interfaces := targets.flatMap (·.interfaces)
  let explicitIds := (interfaces.flatMap explicitPrefixIds).foldl BTreeSet.insert .empty
  let automaticVpcIds := selectedVpcIds interfaces
  let candidateVpcIds := selectedVpcIds (interfaces.filter interfaceNeedsPrefixAllocation)
  if explicitIds.elems.isEmpty && automaticVpcIds.elems.isEmpty then .ok none
  else do
    let explicitRows ← readUnless explicitIds.elems.isEmpty reads.explicitPrefixes
    let explicitPrefixes : BTreeMap VpcPrefixId VpcPrefix :=
      explicitRows.foldl (fun map row => map.insert row.id row) .empty
    explicitIds.elems.forM fun id => do
      let vpcPrefix ← okOr (.prefixNotFound id) (explicitPrefixes.get? id)
      rejectIf vpcPrefix.markedAsDeleted (.markedForDeletion id)
    let automaticPrefixes ← readUnless candidateVpcIds.elems.isEmpty reads.automaticPrefixes
    let vpcRows ← reads.vpcs.mapError .database
    let vpcs : BTreeMap VpcId Vpc := vpcRows.foldl (fun map row => map.insert row.id row) .empty
    automaticVpcIds.elems.forM fun id =>
      rejectIf (vpcs.get? id).isNone (.selectedVpcNotFound id)
    explicitPrefixes.values.forM fun vpcPrefix =>
      rejectIf (vpcs.get? vpcPrefix.vpcId).isNone
        (.prefixVpcNotFound vpcPrefix.id vpcPrefix.vpcId)
    return some
      { explicitPrefixes, vpcs
        automaticCandidates := automaticPrefixes.foldl (freezeCandidate vpcs) .empty }

/-! ## Planning -/

/-- `IpAddr::to_canonical`: an IPv4-mapped IPv6 address is its IPv4 address. -/
def toCanonical : IpAddr → IpAddr
  | .v4 address => .v4 address
  | .v6 address =>
    if address.toNat / 2 ^ 32 = 0xffff then .v4 (.ofNat 32 address.toNat)
    else .v6 address

/-- The network of a requested address, which must be at the end of the linknet that the
host uses. -/
def buildRequestedLinknetPrefix (address : IpAddr) (linknetPrefixLen : Nat) :
    Except AllocationError IpNet := do
  rejectIf (address.bits % 2 = 0) (.requestedHostBitZero address)
  okOr (.networkNotCreated address) (IpNet.new (toCanonical address) linknetPrefixLen)

def requestedPrefix (requested : Option IpAddr) (linknetPrefixLen : Nat) :
    Except AllocationError (Option IpNet) :=
  requested.elim (.ok none) fun address =>
    (buildRequestedLinknetPrefix address linknetPrefixLen).map some

def validateVpcPrefixAllocationCapacity (vpcPrefix : VpcPrefix)
    (family : AllocationAddressFamily) (allocationPrefixLen : Nat) :
    Except AllocationError Unit :=
  rejectIf (!vpcPrefixCanAllocateInterfacePrefix family.ipAddressFamily
      vpcPrefix.net.prefixLen allocationPrefixLen)
    (.prefixTooSmall vpcPrefix.id vpcPrefix.net allocationPrefixLen)

structure Coordinates where
  targetIndex : Nat
  interfaceIndex : Nat

/-- The request is not one for automatic selection: it has an address, a network segment
or an IPv6 configuration that the mode does not have. -/
def hasIncompatibleSelection (interface : InstanceInterfaceConfig)
    (selection : InstanceInterfaceVpcSelection) : Bool :=
  interface.requestedIpAddr.isSome ||
    interface.ipv6InterfaceConfig.any (·.requestedIpAddr.isSome) ||
    (interface.networkDetails.isNone && interface.ipv6InterfaceConfig.isSome) ||
    (decide (selection.familyMode ≠ .dualStack) && interface.ipv6InterfaceConfig.isSome) ||
    interface.networkDetails.any (·.vpcPrefix?.isNone)

variable (context : PrefixAllocationContext) (coordinates : Coordinates)
    (selection : InstanceInterfaceVpcSelection) (vpc : Vpc)

/-- The work of one family of an interface that selects a VPC. -/
def automaticWork (family : AllocationAddressFamily) :
    Except AllocationError PrefixAllocationWork := do
  let candidates :=
    (context.automaticCandidates.get? (toLex (selection.vpcId, family))).getD []
  rejectIf candidates.isEmpty (.noEligiblePrefix selection.vpcId family)
  return {
    targetIndex := coordinates.targetIndex
    interfaceIndex := coordinates.interfaceIndex
    vpcId := selection.vpcId
    family
    allocationPrefixLen := instancePrefixLen family.ipAddressFamily vpc.slaacEnabled
    candidates
    candidateIndex := 0
    slot := if (requestedFamilies selection.familyMode).length = 2 ∧ family = .ipv6 then
      .secondaryIpv6 else .primary
    requestedPrefix := none
    automatic := true }

/-- The work of an interface that selects a VPC, if it needs any. -/
def automaticWorks (interface : InstanceInterfaceConfig) (selection : InstanceInterfaceVpcSelection)
    (vpc : Vpc) : Except AllocationError (List PrefixAllocationWork) :=
  if interfaceNeedsPrefixAllocation interface then
    (requestedFamilies selection.familyMode).mapM
      (automaticWork context coordinates selection vpc)
  else .ok []

def planAutomatic (tenant : String) (coordinates : Coordinates)
    (interface : InstanceInterfaceConfig) (selection : InstanceInterfaceVpcSelection) :
    Except AllocationError (VpcId × List PrefixAllocationWork) := do
  let vpc ← okOr (.missingSelectedVpc selection.vpcId)
    (context.vpcs.get? selection.vpcId)
  rejectIf (vpc.tenantOrganizationId ≠ tenant) (.vpcNotOwned vpc.id tenant)
  rejectIf (vpc.networkVirtualizationType ≠ .fnn)
    (.requiresFnn vpc.id vpc.networkVirtualizationType)
  (requestedFamilies selection.familyMode).forM fun family =>
    rejectIf (!vpcSupportsFamily vpc.networkVirtualizationType family)
      (.familyNotSupported vpc.id family)
  rejectIf (hasIncompatibleSelection interface selection) .incompatibleSelection
  let works ← automaticWorks context coordinates interface selection vpc
  return (vpc.id, works)

variable (primaryPrefixId : VpcPrefixId) (primaryPrefix : VpcPrefix) (primaryVpc : Vpc)

def secondaryPrefix (ipv6 : Ipv6InterfaceConfig) : Except AllocationError VpcPrefix := do
  rejectIf (fromNetwork primaryPrefix.net ≠ .ipv4)
    .ipv6ConfiguredTwice
  let vpcPrefix ← okOr (.prefixNotFound ipv6.vpcPrefixId)
    (context.explicitPrefixes.get? ipv6.vpcPrefixId)
  rejectIf (vpcPrefix.net.addressFamily ≠ .ipv6) (.prefixNotIpv6 ipv6.vpcPrefixId)
  rejectIf (vpcPrefix.vpcId ≠ primaryPrefix.vpcId) (.dualStackVpcsDiffer
    primaryPrefixId primaryPrefix.vpcId ipv6.vpcPrefixId vpcPrefix.vpcId)
  ipv6.requestedIpAddr.elim (.ok ()) fun address =>
    rejectIf primaryVpc.slaacEnabled
      (.requestedAddressWithSlaac (.v6 address) primaryVpc.id)
  return vpcPrefix

/-- The checks of the address that a caller requests from the primary prefix. -/
def checkRequestedAddress (primaryFamily : AllocationAddressFamily) (address : IpAddr) :
    Except AllocationError Unit := do
  rejectIf (fromAddress address ≠ primaryFamily)
    (.requestedAddressMismatch address primaryPrefixId)
  rejectIf (primaryVpc.slaacEnabled && decide (primaryFamily = .ipv6))
    (.requestedAddressWithSlaac address primaryVpc.id)

def explicitWork (vpcPrefixId : VpcPrefixId) (vpcPrefix : VpcPrefix)
    (family : AllocationAddressFamily) (slot : PrefixAllocationSlot) (requested : Option IpAddr) :
    Except AllocationError PrefixAllocationWork := do
  let allocationPrefixLen := instancePrefixLen family.ipAddressFamily vpc.slaacEnabled
  validateVpcPrefixAllocationCapacity vpcPrefix family allocationPrefixLen
  let requestedPrefix ← requestedPrefix requested allocationPrefixLen
  return {
    targetIndex := coordinates.targetIndex
    interfaceIndex := coordinates.interfaceIndex
    vpcId := vpcPrefix.vpcId
    family
    allocationPrefixLen
    candidates := [vpcPrefixId]
    candidateIndex := 0
    slot
    requestedPrefix
    automatic := false }

def secondaryWork (interface : InstanceInterfaceConfig) (vpc : Vpc) (vpcPrefix : VpcPrefix) :
    Except AllocationError PrefixAllocationWork := do
  let ipv6 ← okOr .lostInterfaceConfiguration interface.ipv6InterfaceConfig
  explicitWork coordinates vpc vpcPrefix.id vpcPrefix .ipv6 .secondaryIpv6
    (ipv6.requestedIpAddr.map .v6)

/-- The VPC and the work of an interface that names a VPC prefix. -/
def planExplicit (tenant : String) (coordinates : Coordinates) (interface : InstanceInterfaceConfig)
    (primaryPrefixId : VpcPrefixId) :
    Except AllocationError (VpcId × List PrefixAllocationWork) := do
  let primaryPrefix ← okOr (.prefixNotFound primaryPrefixId)
    (context.explicitPrefixes.get? primaryPrefixId)
  let primaryVpc ← okOr (.missingReferencedVpc primaryPrefix.vpcId primaryPrefixId)
    (context.vpcs.get? primaryPrefix.vpcId)
  rejectIf (primaryVpc.tenantOrganizationId ≠ tenant)
    (.prefixVpcNotOwned primaryPrefixId primaryVpc.id tenant)
  let primaryFamily := fromNetwork primaryPrefix.net
  interface.requestedIpAddr.elim (.ok ())
    (checkRequestedAddress primaryPrefixId primaryVpc primaryFamily)
  let secondary ← interface.ipv6InterfaceConfig.elim (.ok none) fun ipv6 =>
    (secondaryPrefix context primaryPrefixId primaryPrefix primaryVpc ipv6).map some
  if interfaceNeedsPrefixAllocation interface then
    let primaryWork ← explicitWork coordinates primaryVpc primaryPrefixId primaryPrefix
      primaryFamily .primary interface.requestedIpAddr
    let secondaryWork ← secondary.elim (.ok none) fun vpcPrefix =>
      (secondaryWork coordinates interface primaryVpc vpcPrefix).map some
    return (primaryVpc.id, primaryWork :: secondaryWork.toList)
  else
    return (primaryVpc.id, [])

/-- The VPC and the work of an interface. One on a network segment needs no work. -/
def planInterface (tenant : String) (coordinates : Coordinates)
    (interface : InstanceInterfaceConfig) :
    Except AllocationError (Option (VpcId × List PrefixAllocationWork)) :=
  match interface.vpcSelection with
  | some selection =>
    (planAutomatic context tenant coordinates interface selection).map some
  | none =>
    (interface.networkDetails.bind (·.vpcPrefix?)).elim (.ok none) fun primaryPrefixId =>
      (planExplicit context tenant coordinates interface primaryPrefixId).map some

/-- The work of one instance. Several VPCs are safe only where all of them use FNN. -/
def planTarget (indexed : NetworkAllocationTarget × Nat) :
    Except AllocationError (List PrefixAllocationWork) := do
  let (target, targetIndex) := indexed
  let planned ← target.interfaces.zipIdx.mapM fun (interface, interfaceIndex) =>
    planInterface context target.tenantOrganizationId ⟨targetIndex, interfaceIndex⟩ interface
  let vpcIds := ((planned.filterMap id).map Prod.fst).foldl BTreeSet.insert .empty
  let vpcTypes := vpcIds.elems.map fun vpcId =>
    (vpcId, (context.vpcs.get? vpcId).map (·.networkVirtualizationType))
  rejectIf (decide (1 < vpcIds.elems.length) && vpcTypes.any (·.2 ≠ some .fnn))
    (.multipleVpcs (vpcTypes.filterMap fun (vpcId, type) => type.map fun type => (vpcId, type)))
  return (planned.filterMap id).flatMap Prod.snd

variable (targets : List NetworkAllocationTarget)

def planPrefixAllocations (context : PrefixAllocationContext) :
    Except AllocationError (List PrefixAllocationWork) := do
  let works ← targets.zipIdx.mapM (planTarget context)
  return works.flatten

/-- The work of a batch, with nothing to do where there is no context. -/
def planNetworks (reads : DiscoveryReads) : Except AllocationError (List PrefixAllocationWork) := do
  let context ← loadPrefixAllocationContext targets reads
  context.elim (.ok []) (planPrefixAllocations targets)

end ApiCore.Instance
