import BareMetalManager.ApiCore.PrefixOverlap.Receivers
import BareMetalManager.Lib.Transition

/-!
# Admission of VPC prefixes and peerings

The writers of `crates/api-core/src/handlers/vpc_prefix.rs` and `vpc_peering.rs` take the overlap
lock first, so they run one after another. A request that fails changes nothing. What the writers
read outside the tables of this model, and the steps that can only refuse a request, are given
with the request.
-/

namespace ApiCore.PrefixOverlap

open Checked Network
open Instance (VpcVirtualizationType)

/-- PostgreSQL's `&&` is decided by the ranges of the networks. -/
instance (left right : IpNet) : Decidable (IpNet.Overlap left right) :=
  decidable_of_iff _ IpNet.overlap_iff_bounds.symm

/-- PostgreSQL's `>>=`. -/
def containsOrEquals (root net : IpNet) : Bool :=
  root.addressFamily = net.addressFamily && decide (net.block ⊆ root.block)

/-! ## Stored overlaps -/

/-- The retained prefixes of some VPCs, deleting ones included. -/
def getRetainedPrefixesByVpcs (state : State) (vpcIds : List VpcId) : List (VpcId × IpNet) :=
  (state.vpcPrefixes.rows.filter fun row => row.vpcId ∈ vpcIds).map fun row => (row.vpcId, row.net)

variable (site : Site)

def tenantManaged (row : VpcPrefix) : Bool :=
  (row.sitePrefixId.bind site.sitePrefixes.find?).any fun sitePrefix =>
    sitePrefix.authority = .tenantManaged

variable (state : State) (includeLegacy : Bool)

/-- A prefix overlaps one of another VPC, and one of the two is tenant-managed. -/
def usesDuplicateSpace (row : VpcPrefix) : Bool :=
  state.vpcPrefixes.rows.any fun other =>
    row.vpcId ≠ other.vpcId && decide (IpNet.Overlap row.net other.net)
      && (includeLegacy || tenantManaged site row || tenantManaged site other)

def findDuplicateVpcIds : List VpcId :=
  ((state.vpcPrefixes.rows.filter (usesDuplicateSpace site state includeLegacy)).map
    VpcPrefix.vpcId).dedup

def vpcsUseDuplicateSpace (vpcIds : List VpcId) : Bool :=
  state.vpcPrefixes.rows.any fun row =>
    decide (row.vpcId ∈ vpcIds) && usesDuplicateSpace site state false row

/-- Admission stays active after the gate is closed while some prefix is reused. -/
def checksRequired : Bool :=
  (runtimeConfig site state).tenantPrefixOverlapEnabled
    || !(findDuplicateVpcIds site state false).isEmpty

/-! ## What a request brings along -/

inductive VniPool where
  | vpcVni
  | externalVpcVni

/-- What a request reads elsewhere: the VNIs that a VPC owns in the pools, whether the instances of
some receivers permit the change, and the outcome of the adoption of segment prefixes, the
validation of the metadata, the constraints of the database and the updates of the hosts. -/
structure Environment where
  findOwnedAllocation : VniPool → VpcId → Except PrefixOverlapError (Option Nat)
  validateAffectedInstances : List VpcId → Except PrefixOverlapError Unit
  otherSteps : Except PrefixOverlapError Unit

/-! ## Receivers -/

section Writers

variable [Ipnetwork] (site : Site) (state : State)

/-- A receiver has no two sources that own the same address. -/
def validateReceiver (candidate : Option (VpcId × IpNet)) (receiverId : VpcId) :
    Except PrefixOverlapError Unit := do
  let receiver ← okOr .ineligibleOverlap (site.findVpc receiverId)
  let sources ← receiverSources site state receiver
  let added := (candidate.filter fun entry => entry.1 ∈ sources).toList
  rejectIf (prefixesOverlapAcrossVpcs (getRetainedPrefixesByVpcs state sources ++ added))
    .ineligibleOverlap

def validateReceiverPrefixes (receiverIds : List VpcId) (candidate : Option (VpcId × IpNet)) :
    Except PrefixOverlapError Unit :=
  if (effectivePolicy site.config).isNone then .ok ()
  else receiverIds.forM (validateReceiver site state candidate)

/-- A new prefix against the VPCs that would receive it. -/
def validatePrefixAttachment (environment : Environment) (vpcId : VpcId) (net : IpNet) :
    Except PrefixOverlapError Unit :=
  if !checksRequired site state then .ok ()
  else do
    let receivers := getVpcPeerIds state vpcId ++ [vpcId]
    validateReceiverPrefixes site state receivers (some (vpcId, net))
    environment.validateAffectedInstances receivers

/-! ## Prefixes -/

structure NewVpcPrefix where
  id : VpcPrefixId
  vpcId : VpcId
  sitePrefixId : Option SitePrefixId
  net : IpNet

/-- The root of a new prefix: the one that is named, or else the only operator-managed root
that contains it. -/
def selectSitePrefix (request : NewVpcPrefix) : Except PrefixOverlapError (Option SitePrefix) :=
  match request.sitePrefixId with
  | some sitePrefixId =>
    some <$> okOr (.sitePrefixNotFound sitePrefixId) (site.sitePrefixes.find? sitePrefixId)
  | none =>
    match site.sitePrefixes.rows.filter fun root =>
      root.authority = .operatorManaged && containsOrEquals root.net request.net with
    | [] => do
        let vpc ← okOr (.vpcNotFound request.vpcId) (site.findVpc request.vpcId)
        let tenantManaged := site.sitePrefixes.rows.filter fun root =>
          root.authority = .tenantManaged && containsOrEquals root.net request.net
            && root.tenantOrganizationId = some vpc.tenantOrganizationId
        rejectIf (!tenantManaged.isEmpty) (.containedByTenantManaged request.net)
        return none
    | [root] => .ok (some root)
    | candidates => .error (.severalOperatorManaged request.net candidates.length)

def validateSitePrefixAttachment (sitePrefix : SitePrefix) (vpc : Vpc) (net : IpNet) :
    Except PrefixOverlapError Unit := do
  rejectIf (sitePrefix.authority = .tenantManaged
      && sitePrefix.tenantOrganizationId ≠ some vpc.tenantOrganizationId)
    (.sitePrefixNotOwned sitePrefix.id)
  rejectIf (sitePrefix.lifecycleState ≠ .ready) (.sitePrefixNotReady sitePrefix.id)
  rejectIf (sitePrefix.routingScope ≠ .datacenterOnly)
    (.unsupportedRoutingScope sitePrefix.id)
  rejectIf (!containsPrefix sitePrefix.net net)
    (.notWithinSitePrefix net sitePrefix.id sitePrefix.net)
  rejectIf (sitePrefix.authority = .tenantManaged && vpc.networkVirtualizationType ≠ .fnn)
    .requiresFnn

/-- A new prefix lies within its root, or within the site fabric if it has none. -/
def validateParent (selected : Option SitePrefix) (vpc : Vpc) (net : IpNet) :
    Except PrefixOverlapError Unit :=
  match selected with
  | some sitePrefix => validateSitePrefixAttachment sitePrefix vpc net
  | none =>
    rejectIf (!site.config.siteFabricPrefixes.isEmpty
        && !site.config.siteFabricPrefixes.any fun root => root.subnetInFamily net)
      (.notWithinSiteFabric net)

/-- The stored prefixes that share an address with a new one, deleting ones included. -/
def probe (net : IpNet) : List VpcPrefix :=
  state.vpcPrefixes.rows.filter fun row => decide (IpNet.Overlap row.net net)

variable (environment : Environment)

/-- A VPC owns exactly one VNI, and it is the one in use. -/
def validateOverlapVni (vpc : Vpc) : Except PrefixOverlapError Unit := do
  let vpcVni ← environment.findOwnedAllocation .vpcVni vpc.id
  let externalVpcVni ← environment.findOwnedAllocation .externalVpcVni vpc.id
  rejectIf (vpcVni.isSome && externalVpcVni.isSome) .ineligibleOverlap
  let allocation := externalVpcVni.or vpcVni
  rejectIf (allocation.isNone || allocation ≠ vpc.vni) .ineligibleOverlap

variable [Ipnet 32] [Ipnet 128]

/-- A new prefix and a stored one may use the same addresses. -/
def validatePair (candidate : VpcPrefix) (candidateVpc : Vpc) (candidateSitePrefix : SitePrefix)
    (existing : VpcPrefix) : Except PrefixOverlapError Unit := do
  let existingVpc ← okOr .ineligibleOverlap (site.findVpc existing.vpcId)
  let existingSitePrefix ← okOr .ineligibleOverlap
    (existing.sitePrefixId.bind site.sitePrefixes.find?)
  let eligible ← (pairIsEligible (runtimeConfig site state)
    ⟨candidate.net, false, candidateVpc, candidateSitePrefix⟩
    ⟨existing.net, existing.deleted, existingVpc, existingSitePrefix⟩).mapError .panic
  rejectIf (!eligible) .ineligibleOverlap

/-- Refuse a new prefix unless it may share its addresses with every stored one that
overlaps it. -/
def validateVpcPrefixOverlaps (environment : Environment) (candidate : VpcPrefix)
    (candidateVpc : Vpc) (selected : Option SitePrefix) (overlaps : List VpcPrefix) :
    Except PrefixOverlapError Unit :=
  if overlaps.isEmpty then .ok ()
  else do
    -- a row that was stored for the whole site stays so
    rejectIf (candidate.overlapVpcId ≠ some candidate.vpcId
        || overlaps.any fun existing => existing.overlapVpcId ≠ some existing.vpcId)
      .ineligibleOverlap
    let candidateSitePrefix ← okOr .ineligibleOverlap selected
    rejectIf (overlaps.any fun existing => existing.sitePrefixId.isNone) .ineligibleOverlap
    overlaps.forM (validatePair site state candidate candidateVpc candidateSitePrefix)
    (candidateVpc :: (overlaps.filterMap fun existing => site.findVpc existing.vpcId).dedup).forM
      (validateOverlapVni environment)

def createVpcPrefix (environment : Environment) (request : NewVpcPrefix) :
    Except PrefixOverlapError State := do
  rejectIf (!decide (IsCanonical request.net)) (.notCanonical request.net)
  let selected ← selectSitePrefix site request
  let vpc ← okOr (.vpcNotFound request.vpcId) (site.findVpc request.vpcId)
  validateParent site selected vpc request.net
  rejectIf (!request.net.isIpv4 && !vpc.networkVirtualizationType.supportsIpv6Prefix)
    (.ipv6Unsupported vpc.networkVirtualizationType)
  let row : VpcPrefix :=
    { id := request.id
      vpcId := request.vpcId
      sitePrefixId := selected.map SitePrefix.id
      net := request.net
      deleted := false
      overlapVpcId := selected.bind fun sitePrefix =>
        vpcPrefixOverlapScope (runtimeConfig site state) sitePrefix vpc request.net }
  validateVpcPrefixOverlaps site state environment row vpc selected (probe state request.net)
  validatePrefixAttachment site state environment request.vpcId request.net
  environment.otherSteps
  let vpcPrefixes ← okOr (.prefixExists request.id) (state.vpcPrefixes.insert? row)
  return { state with vpcPrefixes }

/-! ## Peerings -/

def receiverSourcesBeforeChange (receiverIds : List VpcId) :
    Except PrefixOverlapError (List (VpcId × List VpcId)) :=
  receiverIds.mapM fun receiverId => do
    let receiver ← okOr .ineligibleOverlap (site.findVpc receiverId)
    let sources ← receiverSources site state receiver
    return (receiverId, sources)

/-- A new peering is compared with the sources before it only while the gate is closed. -/
def sourcesBeforePeering (checks : Bool) (receiverIds : List VpcId) :
    Except PrefixOverlapError (List (VpcId × List VpcId)) :=
  if checks && !(runtimeConfig site state).tenantPrefixOverlapEnabled then
    receiverSourcesBeforeChange site state receiverIds
  else .ok []

/-- While the gate is closed no receiver gains a source with reused addresses. -/
def validateGateOffImports (previousSources : List (VpcId × List VpcId)) :
    Except PrefixOverlapError Unit :=
  previousSources.forM fun (receiverId, previous) => do
    let receiver ← okOr .ineligibleOverlap (site.findVpc receiverId)
    let sources ← receiverSources site state receiver
    let gained := sources.filter fun source => source ∉ previous
    rejectIf (vpcsUseDuplicateSpace site state gained) .ineligibleOverlap

variable (vpcId peerVpcId : VpcId) (id : VpcPeeringId)

/-- Store a peering, the smaller id first. -/
def insertPeering : Except PrefixOverlapError State := do
  rejectIf (vpcId = peerVpcId) .sameVpc
  let row : VpcPeering :=
    { id, vpcId := min vpcId peerVpcId, peerVpcId := max vpcId peerVpcId, deleting := false }
  rejectIf (state.peerings.rows.any fun peering =>
      peering.vpcId = row.vpcId && peering.peerVpcId = row.peerVpcId) (.peeringExists id)
  let peerings ← okOr (.peeringExists id) (state.peerings.insert? row)
  return { state with peerings }

/-- The checks of a peering after it was stored. Only its two ends gain a source. -/
def validatePeering (checks : Bool) (previousSources : List (VpcId × List VpcId))
    (receiverIds : List VpcId) : Except PrefixOverlapError Unit :=
  if checks then do
    validateGateOffImports site state previousSources
    validateReceiverPrefixes site state receiverIds none
    environment.validateAffectedInstances receiverIds
  else .ok ()

def createVpcPeering : Except PrefixOverlapError State := do
  let checks := checksRequired site state
  let vpc ← okOr (.vpcNotFound vpcId) (site.findVpc vpcId)
  let peer ← okOr (.vpcNotFound peerVpcId) (site.findVpc peerVpcId)
  rejectIf
    (peer.networkVirtualizationType ∉ vpc.networkVirtualizationType.peersWith)
    (.peeringIncompatible vpc.networkVirtualizationType peer.networkVirtualizationType)
  rejectIf
    (site.config.vpcPeeringPolicy = none || site.config.vpcPeeringPolicy = some .none)
    .peeringDisabled
  let previousSources ← sourcesBeforePeering site state checks [vpcId, peerVpcId]
  let next ← insertPeering state vpcId peerVpcId id
  validatePeering site next environment checks previousSources [vpcId, peerVpcId]
  environment.otherSteps
  return next

/-! ## Deletions -/

/-- Mark a prefix as deleted. Its row keeps the addresses. -/
def deleteVpcPrefix (id : VpcPrefixId) : Except PrefixOverlapError State := do
  let row ← okOr (.prefixNotFound id)
    ((state.vpcPrefixes.find? id).filter fun row => !row.deleted)
  let _ ← okOr (.vpcNotFound row.vpcId) (site.findVpc row.vpcId)
  environment.otherSteps
  return { state with
    vpcPrefixes := state.vpcPrefixes.modify
      (fun other => { other with deleted := other.deleted || other.id = id }) fun _ => rfl }

/-- Remove the row of a prefix once nothing depends on it. -/
def finalDeleteVpcPrefix (id : VpcPrefixId) : Except PrefixOverlapError State := do
  let _ ← okOr (.prefixNotFound id) (state.vpcPrefixes.find? id)
  return { state with vpcPrefixes := state.vpcPrefixes.filter fun row => row.id ≠ id }

/-- Mark a peering as deleting. A repeated request changes nothing. -/
def deleteVpcPeering (id : VpcPeeringId) : Except PrefixOverlapError State := do
  let _ ← okOr (.peeringNotFound id) (state.peerings.find? id)
  environment.otherSteps
  return { state with
    peerings := state.peerings.modify
      (fun other => { other with deleting := other.deleting || other.id = id }) fun _ => rfl }

/-- Remove the row of a deleting peering once its receivers have acknowledged. -/
def finalDeleteVpcPeering (id : VpcPeeringId) : Except PrefixOverlapError State :=
  .ok { state with
    peerings := state.peerings.filter fun row => row.id ≠ id || !row.deleting }

end Writers

/-! ## Runs -/

/-- A request, or a change of the gate by the operator. -/
inductive Action where
  | setGate (enabled : Bool)
  | createPrefix (environment : Environment) (request : NewVpcPrefix)
  | createPeering (environment : Environment) (vpcId peerVpcId : VpcId) (id : VpcPeeringId)
  | deletePrefix (environment : Environment) (id : VpcPrefixId)
  | finalDeletePrefix (id : VpcPrefixId)
  | deletePeering (environment : Environment) (id : VpcPeeringId)
  | finalDeletePeering (id : VpcPeeringId)

section Machine

variable [Ipnetwork] [Ipnet 32] [Ipnet 128] (site : Site)

def perform (state : State) : Action → Except PrefixOverlapError State
  | .setGate enabled => .ok { state with tenantPrefixOverlapEnabled := enabled }
  | .createPrefix environment request => createVpcPrefix site state environment request
  | .createPeering environment vpcId peerVpcId id =>
    createVpcPeering site state environment vpcId peerVpcId id
  | .deletePrefix environment id => deleteVpcPrefix site state environment id
  | .finalDeletePrefix id => finalDeleteVpcPrefix state id
  | .deletePeering environment id => deleteVpcPeering state environment id
  | .finalDeletePeering id => finalDeleteVpcPeering state id

/-- A request that fails is rolled back. -/
def apply (action : Action) (state : State) : State :=
  match perform site state action with
  | .ok next => next
  | .error _ => state

def machine : Machine Action State where
  step action state := some (apply site action state)

end Machine

end ApiCore.PrefixOverlap
