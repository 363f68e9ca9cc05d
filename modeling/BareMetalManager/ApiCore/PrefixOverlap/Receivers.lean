import BareMetalManager.ApiCore.PrefixOverlap.Eligibility
import Mathlib.Data.List.Dedup

/-!
# What a VPC receives from its peers

A VPC receives the prefixes of the VPCs it is peered with, as far as the peering policy of
the site and the types of the two VPCs allow. No two sources of a receiver may own the same
address. `crates/api-core/src/handlers/vpc_peering.rs` checks this for the receivers that a
change affects.
-/

namespace ApiCore

open Dyadic.Block List

/-! ## Virtualization types -/

namespace Instance.VpcVirtualizationType

def all : List VpcVirtualizationType :=
  [ethernetVirtualizer, ethernetVirtualizerWithNvue, fnn, flat]

def peersWith : VpcVirtualizationType → List VpcVirtualizationType
  | ethernetVirtualizer | ethernetVirtualizerWithNvue =>
    [ethernetVirtualizer, ethernetVirtualizerWithNvue, flat]
  | fnn => [fnn, flat]
  | flat => [ethernetVirtualizer, ethernetVirtualizerWithNvue, fnn, flat]

def importsPeerVnisIntoOverlay : VpcVirtualizationType → Bool
  | fnn => true
  | ethernetVirtualizer | ethernetVirtualizerWithNvue | flat => false

def vniAdvertisedToPeers : VpcVirtualizationType → Bool
  | fnn | flat => true
  | ethernetVirtualizer | ethernetVirtualizerWithNvue => false

end Instance.VpcVirtualizationType

namespace PrefixOverlap

open Network
open Instance (VpcVirtualizationType)

abbrev VpcPeeringId := Nat

/-- A stored VPC prefix. Its row stays while it is being deleted. -/
structure VpcPrefix where
  id : VpcPrefixId
  vpcId : VpcId
  sitePrefixId : Option SitePrefixId
  net : IpNet
  deleted : Bool
  overlapVpcId : Option VpcId
  deriving DecidableEq

/-- A stored peering. Its row stays while it is being deleted. -/
structure VpcPeering where
  id : VpcPeeringId
  vpcId : VpcId
  peerVpcId : VpcId
  deleting : Bool
  deriving DecidableEq

/-- What does not change: the configuration up to the gate, the VPCs and the site
prefixes. -/
structure Site where
  config : CarbideConfig
  vpcs : Table Vpc.id
  sitePrefixes : Table SitePrefix.id

structure State where
  tenantPrefixOverlapEnabled : Bool
  vpcPrefixes : Table VpcPrefix.id
  peerings : Table VpcPeering.id

inductive PrefixOverlapError where
  | panic (reason : Panic)
  /-- "the requested prefix overlaps address space that is not eligible for reuse" -/
  | ineligibleOverlap
  /-- "IP prefixes must be in canonical format. …" -/
  | notCanonical (net : IpNet)
  | vpcNotFound (vpcId : VpcId)
  | sitePrefixNotFound (sitePrefixId : SitePrefixId)
  /-- "the VPC prefix p is contained by a tenant-managed SitePrefix; specify site_prefix_id
  explicitly" -/
  | containedByTenantManaged (net : IpNet)
  /-- "the VPC prefix p has n containing operator-managed SitePrefixes; specify
  site_prefix_id explicitly" -/
  | severalOperatorManaged (net : IpNet) (count : Nat)
  /-- "SitePrefix s is not owned by the VPC tenant" -/
  | sitePrefixNotOwned (sitePrefixId : SitePrefixId)
  /-- "SitePrefix s is not ready for new VPC prefixes" -/
  | sitePrefixNotReady (sitePrefixId : SitePrefixId)
  /-- "SitePrefix s has an unsupported routing scope" -/
  | unsupportedRoutingScope (sitePrefixId : SitePrefixId)
  /-- "the VPC prefix p is not contained within SitePrefix s (n)" -/
  | notWithinSitePrefix (net : IpNet) (sitePrefixId : SitePrefixId) (root : IpNet)
  /-- "tenant-managed SitePrefixes can only be used by FNN VPCs" -/
  | requiresFnn
  /-- "the VPC prefix p is not contained within the site fabric prefixes" -/
  | notWithinSiteFabric (net : IpNet)
  /-- "t VPCs do not support IPv6 network prefixes" -/
  | ipv6Unsupported (virtualizationType : VpcVirtualizationType)
  /-- "a and b VPCs cannot be peered" -/
  | peeringIncompatible (left right : VpcVirtualizationType)
  /-- "VPC peering is disabled at this site" -/
  | peeringDisabled
  /-- "Cannot create a peering between the same VPC" -/
  | sameVpc
  | peeringExists (id : VpcPeeringId)
  | peeringNotFound (id : VpcPeeringId)
  | prefixExists (id : VpcPrefixId)
  | prefixNotFound (id : VpcPrefixId)
  /-- A stored value that cannot be read, or a statement that failed. -/
  | database (message : String)
  deriving DecidableEq

namespace Site

variable (site : Site)

def findVpc (vpcId : VpcId) : Option Vpc :=
  (site.vpcs.find? vpcId).filter fun vpc => !vpc.deleted

variable {site}

theorem mem_of_findVpc {vpcId : VpcId} {vpc : Vpc} (found : site.findVpc vpcId = some vpc) :
    vpc ∈ site.vpcs.rows ∧ vpc.id = vpcId :=
  Table.find?_eq_some_iff.mp (Option.filter_eq_some_iff.mp found).1

end Site

def runtimeConfig (site : Site) (state : State) : CarbideConfig :=
  { site.config with tenantPrefixOverlapEnabled := state.tenantPrefixOverlapEnabled }

/-! ## Sources -/

def VpcPeering.other? (peering : VpcPeering) (vpcId : VpcId) : Option VpcId :=
  if peering.vpcId = vpcId then some peering.peerVpcId
  else if peering.peerVpcId = vpcId then some peering.vpcId
  else none

def getVpcPeerIds (state : State) (vpcId : VpcId) : List VpcId :=
  state.peerings.rows.filterMap fun peering => peering.other? vpcId

variable {left right : VpcId}

theorem other?_symm {peering : VpcPeering}
    (across : peering.other? left = some right) : peering.other? right = some left := by
  unfold VpcPeering.other? at across ⊢
  grind

theorem mem_getVpcPeerIds_symm {state : State}
    (peered : right ∈ getVpcPeerIds state left) : left ∈ getVpcPeerIds state right := by
  obtain ⟨peering, stored, across⟩ := mem_filterMap.mp peered
  exact mem_filterMap.mpr ⟨peering, stored, other?_symm across⟩

variable (site : Site) (state : State) (vpcId : VpcId)
    (virtualizationTypes : List VpcVirtualizationType)

def peersOfTypes : List Vpc :=
  ((getVpcPeerIds state vpcId).filterMap site.vpcs.find?).filter fun vpc =>
    vpc.networkVirtualizationType ∈ virtualizationTypes

/-- The peers of the given types with their VNIs, for admission. A peer without a VNI cannot
be read. -/
def getVpcPeerVnis : Except PrefixOverlapError (List (VpcId × Nat)) :=
  (peersOfTypes site state vpcId virtualizationTypes).mapM fun vpc =>
    (vpc.id, ·) <$> Checked.okOr (.database "unexpected null; try decoding as an Option") vpc.vni

/-- The policy for the peerings that exist. -/
def effectivePolicy (config : CarbideConfig) : Option VpcPeeringPolicy :=
  config.vpcPeeringPolicyOnExisting.or config.vpcPeeringPolicy

/-- The types of the peers that a receiver takes prefixes from and of those that it takes VNIs
from. -/
def importedTypes (policy : VpcPeeringPolicy) (receiver : VpcVirtualizationType) :
    List (List VpcVirtualizationType) :=
  match policy with
  | .none => []
  | .exclusive | .mixed =>
    receiver.peersWith ::
      if receiver.importsPeerVnisIntoOverlay then
        [VpcVirtualizationType.all.filter VpcVirtualizationType.vniAdvertisedToPeers]
      else []

/-- The VPCs whose prefixes or VNIs are reserved for a receiver, itself included. -/
def receiverSources (receiver : Vpc) :
    Except PrefixOverlapError (List VpcId) :=
  match effectivePolicy site.config with
  | none => .ok [receiver.id]
  | some policy => do
    let peers ← (importedTypes policy receiver.networkVirtualizationType).mapM
      (getVpcPeerVnis site state receiver.id)
    return ((peers.flatten.map Prod.fst ++ [receiver.id]).insertionSort (· ≤ ·)).dedup

/-- A VPC is a source of a receiver: it is the receiver itself or a peer from which the
receiver imports. -/
def IsSource (site : Site) (state : State) (receiver : Vpc) (vpcId : VpcId) : Prop :=
  vpcId = receiver.id ∨ ∃ policy ∈ effectivePolicy site.config,
    ∃ types ∈ importedTypes policy receiver.networkVirtualizationType,
      ∃ peer ∈ peersOfTypes site state receiver.id types, peer.id = vpcId

section Sources

variable {site state vpcId} {receiver : Vpc} {sources : List VpcId}
  {types : List VpcVirtualizationType}

theorem mem_peersOfTypes {peer : Vpc} :
    peer ∈ peersOfTypes site state vpcId types ↔
      peer ∈ site.vpcs.rows ∧ peer.id ∈ getVpcPeerIds state vpcId ∧
        peer.networkVirtualizationType ∈ types := by
  simp only [peersOfTypes, mem_filter, mem_filterMap, decide_eq_true_eq, Table.find?_eq_some_iff]
  constructor
  · rintro ⟨⟨id, peered, stored, rfl⟩, typed⟩
    exact ⟨stored, peered, typed⟩
  · rintro ⟨stored, peered, typed⟩
    exact ⟨⟨peer.id, peered, stored, rfl⟩, typed⟩

theorem map_fst_getVpcPeerVnis {peers : List (VpcId × Nat)}
    (done : getVpcPeerVnis site state vpcId types = .ok peers) :
    peers.map Prod.fst = (peersOfTypes site state vpcId types).map Vpc.id := by
  refine Checked.map_of_mapM_eq_ok (fun peer read isRead => ?_) done
  cases vni : peer.vni <;> rw [vni] at isRead <;> cases isRead
  rfl

theorem mem_receiverSources (done : receiverSources site state receiver = .ok sources) :
    vpcId ∈ sources ↔ IsSource site state receiver vpcId := by
  unfold receiverSources at done
  split at done
  next noPolicy =>
    cases done
    simp [IsSource, noPolicy]
  next policy isPolicy =>
    obtain ⟨peers, read, done⟩ := Checked.bind_eq_ok.mp done
    cases done
    have ids : peers.flatten.map Prod.fst =
        ((importedTypes policy receiver.networkVirtualizationType).map fun types =>
          (peersOfTypes site state receiver.id types).map Vpc.id).flatten := by
      rw [map_flatten, Checked.map_of_mapM_eq_ok (fun _ _ => map_fst_getVpcPeerVnis) read]
    simp [ids, IsSource, isPolicy, or_comm]

theorem eq_of_isSource_of_no_policy (noPolicy : effectivePolicy site.config = none)
    (source : IsSource site state receiver vpcId) : vpcId = receiver.id := by
  simpa [IsSource, noPolicy] using source

theorem IsSource.eq_or_mem (source : IsSource site state receiver vpcId) :
    vpcId = receiver.id ∨ vpcId ∈ getVpcPeerIds state receiver.id := by
  rcases source with own | ⟨_, _, _, _, peer, isPeer, rfl⟩
  · exact .inl own
  · exact .inr (mem_peersOfTypes.mp isPeer).2.1

theorem IsSource.mono {next : State} (source : IsSource site next receiver vpcId)
    (peers : ∀ peer ∈ getVpcPeerIds next receiver.id, peer ∈ getVpcPeerIds state receiver.id) :
    IsSource site state receiver vpcId := by
  rcases source with own | ⟨policy, isPolicy, types, isType, peer, isPeer, same⟩
  · exact .inl own
  · rw [mem_peersOfTypes] at isPeer
    refine .inr ⟨policy, isPolicy, types, isType, peer, ?_, same⟩
    exact mem_peersOfTypes.mpr ⟨isPeer.1, peers _ isPeer.2.1, isPeer.2.2⟩

theorem IsSource.mem_receivers (source : IsSource site state receiver vpcId) :
    receiver.id ∈ getVpcPeerIds state vpcId ++ [vpcId] := by
  rcases source.eq_or_mem with own | peered
  · exact mem_append_right _ (mem_singleton.mpr own.symm)
  · exact mem_append_left _ (mem_getVpcPeerIds_symm peered)

end Sources

/-! ## Collisions -/

section Collisions

variable [Ipnetwork]

variable (left right : VpcId × IpNet)

def collides : Bool :=
  left.1 ≠ right.1 && (containsPrefix left.2 right.2 || containsPrefix right.2 left.2)

def prefixesOverlapAcrossVpcs : List (VpcId × IpNet) → Bool
  | [] => false
  | entry :: rest => rest.any (collides entry) || prefixesOverlapAcrossVpcs rest

theorem collides_comm : collides left right = collides right left := by
  simp only [collides, ne_comm (a := left.1), Bool.or_comm]

variable {entries : List (VpcId × IpNet)}

theorem pairwise_of_prefixesOverlapAcrossVpcs (apart : prefixesOverlapAcrossVpcs entries = false) :
    entries.Pairwise fun left right => collides left right = false := by
  induction entries with
  | nil => exact .nil
  | cons entry rest ih =>
    rw [prefixesOverlapAcrossVpcs, Bool.or_eq_false_iff, any_eq_false] at apart
    refine .cons (fun other otherMem => ?_) (ih apart.2)
    exact Bool.eq_false_iff.mpr (apart.1 other otherMem)

theorem not_collides_of_mem (apart : prefixesOverlapAcrossVpcs entries = false)
    {left right : VpcId × IpNet} (leftMem : left ∈ entries) (rightMem : right ∈ entries) :
    collides left right = false := by
  have symmetric : Std.Symm fun left right : VpcId × IpNet => collides left right = false :=
    ⟨fun left right apart => collides_comm left right ▸ apart⟩
  by_cases same : left = right
  · simp [collides, same]
  · exact (pairwise_of_prefixesOverlapAcrossVpcs apart).forall leftMem rightMem same

def IsCanonical (net : IpNet) : Prop := Ipnetwork.network net = net.ip

instance (net : IpNet) : Decidable (IsCanonical net) := inferInstanceAs (Decidable (_ = _))

theorem IsCanonical.ip_bits {net : IpNet} (canonical : IsCanonical net) :
    net.ip.bits = net.block.first := by
  rw [← canonical, Ipnetwork.network_bits]

/-- Canonical prefixes that share an address contain one another. -/
theorem containsPrefix_of_overlap {left right : IpNet} (leftCanonical : IsCanonical left)
    (rightCanonical : IsCanonical right) (overlap : IpNet.Overlap left right) :
    containsPrefix left right = true ∨ containsPrefix right left = true := by
  obtain ⟨addr, inLeft, inRight⟩ := overlap
  have families := inLeft.1.symm.trans inRight.1
  simp only [containsPrefix, IpNet.subnetInFamily_iff, leftCanonical.ip_bits,
    rightCanonical.ip_bits]
  rcases subset_or_subset_of_mem inLeft.2 inRight.2 with subset | subset
  · have first := mem_iff_bounds.mp (subset _ left.block.first_mem)
    have last := mem_iff_bounds.mp (subset _ left.block.last_mem)
    exact .inr ⟨families, first.1, last.2⟩
  · have first := mem_iff_bounds.mp (subset _ right.block.first_mem)
    have last := mem_iff_bounds.mp (subset _ right.block.last_mem)
    exact .inl ⟨families.symm, first.1, last.2⟩

end Collisions

end PrefixOverlap

end ApiCore
