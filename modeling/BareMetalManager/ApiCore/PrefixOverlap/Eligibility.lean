import BareMetalManager.ApiCore.Instance.PrefixPlan
import BareMetalManager.ApiCore.RoutingProfile
import BareMetalManager.Lib.Table
import BareMetalManager.Network.IpSet

/-!
# Which VPC prefixes may reuse address space

Tenants may bring their own address space to a site, and two VPCs may then use the same
prefix. `crates/api-core/src/handlers/tenant_prefix_overlap.rs` decides which prefixes
qualify: the site must keep its VPCs apart, both prefixes must belong to tenant-managed
site prefixes, and the routing profiles of both VPCs must be isolated.
-/

namespace ApiCore.PrefixOverlap

open Network FnnRoutingProfileConfig
open Instance (VpcVirtualizationType)

abbrev SitePrefixId := Nat

structure Vpc where
  id : VpcId
  tenantOrganizationId : String
  networkVirtualizationType : VpcVirtualizationType
  routingProfileType : Option String
  routingProfileOverrides : Option VpcRoutingProfileOverrides
  vni : Option Nat
  deleted : Bool
  deriving DecidableEq

inductive SitePrefixAuthority where
  | operatorManaged
  | tenantManaged
  deriving DecidableEq

inductive SitePrefixRoutingScope where
  | datacenterOnly
  deriving DecidableEq

inductive SitePrefixLifecycleState where
  | provisioning
  | ready
  | deleting
  | error
  deriving DecidableEq

structure SitePrefix where
  id : SitePrefixId
  net : IpNet
  authority : SitePrefixAuthority
  tenantOrganizationId : Option String
  routingScope : SitePrefixRoutingScope
  lifecycleState : SitePrefixLifecycleState
  deriving DecidableEq

/-! ## Routing profiles -/

inductive RoutingProfileLookupError where
  /-- "tenant routing profile type not found in VPC record" -/
  | typeNotSet
  /-- "routing_profile_type not found: t" -/
  | notFound (profileType : String)
  deriving DecidableEq

/-- The named profile of a VPC with the values that the VPC sets itself. -/
def resolveVpcRoutingProfile (fnn : FnnConfig) (vpc : Vpc) :
    Except RoutingProfileLookupError FnnRoutingProfileConfig := do
  let profileType ← Checked.okOr .typeNotSet vpc.routingProfileType
  let baseProfile ← Checked.okOr (.notFound profileType) (fnn.routingProfiles profileType)
  return vpc.routingProfileOverrides.elim baseProfile fun overrides =>
    { baseProfile with
      routeTargetImports := overrides.routeTargetImports.or baseProfile.routeTargetImports
      routeTargetsOnExports :=
        overrides.routeTargetsOnExports.or baseProfile.routeTargetsOnExports
      leakDefaultRouteFromUnderlay :=
        overrides.leakDefaultRouteFromUnderlay.or baseProfile.leakDefaultRouteFromUnderlay
      leakTenantHostRoutesToUnderlay :=
        overrides.leakTenantHostRoutesToUnderlay.or baseProfile.leakTenantHostRoutesToUnderlay
      tenantLeakCommunitiesAccepted :=
        overrides.tenantLeakCommunitiesAccepted.or baseProfile.tenantLeakCommunitiesAccepted
      acceptedLeaksFromUnderlay :=
        overrides.acceptedLeaksFromUnderlay.or baseProfile.acceptedLeaksFromUnderlay
      allowedAnycastPrefixes :=
        overrides.allowedAnycastPrefixes.or baseProfile.allowedAnycastPrefixes }

def profilePasses (config : CarbideConfig) (test : FnnRoutingProfileConfig → Bool) (vpc : Vpc) :
    Bool :=
  config.fnn.any fun fnn => (resolveVpcRoutingProfile fnn vpc).toOption.any test

/-! ## The site -/

/-- No route of the site connects VPCs that are otherwise isolated. -/
def sitePolicyIsIsolated (config : CarbideConfig) : Bool :=
  config.vpcIsolationBehavior = .mutualIsolation
    && config.siteGlobalVpcVni.isNone
    && config.anycastSitePrefixes.isEmpty
    && config.dpuConfig.serviceVpcSlotCount = 0
    && config.fnn.any fun fnn =>
      fnn.commonInternalRouteTarget.isNone && fnn.additionalRouteTargetImports.isEmpty

section Routes

variable [Ipnet 32] [Ipnet 128]

/-- `IpNet::contains` of the `ipnet` crate. -/
def ipNetContains : IpNet → IpNet → Bool
  | .v4 route, .v4 net => Ipnet.contains route net
  | .v6 route, .v6 net => Ipnet.contains route net
  | _, _ => false

/-- A blackhole route protects a prefix that it contains. -/
def prefixHasIsolationRoute (isolationRoutes : List IpNet) (net : IpNet) : Bool :=
  isolationRoutes.any fun route => ipNetContains route net

variable [Ipnetwork]

def normalized (net : IpNet) : Checked IpNet :=
  .unwrap (IpNet.new (Ipnetwork.network net) net.prefixLen)

/-- The blackhole routes of the site: those of the configuration, or else the address space
of the site fabric and of the given roots. The source also sorts them by their text. -/
def resolvedSiteFabricNullRoutes (config : CarbideConfig)
    (retainedOperatorRoots tenantRoots : List IpNet) : Checked (List IpNet) :=
  match config.siteFabricNullRoutes with
  | some configured => .dedup <$> configured.mapM normalized
  | none => do
      let roots ← (config.siteFabricPrefixes ++ retainedOperatorRoots ++
        tenantRoots).mapM normalized
      let aggregated ← IpSet.aggregatePrefixes roots
      -- an aggregated prefix has no bits set after its length
      return (aggregated.map IpPrefix.intoInner).dedup

end Routes

/-! ## Prefixes -/

section Prefixes

variable [Ipnetwork]

/-- What a site prefix must be for a VPC prefix under it to be reused. A deleting root still
counts while its routes drain. -/
def sitePrefixIsEligible (sitePrefix : SitePrefix) (vpc : Vpc) (net : IpNet) : Bool :=
  sitePrefix.authority = .tenantManaged
    && sitePrefix.tenantOrganizationId = some vpc.tenantOrganizationId
    && sitePrefix.routingScope = .datacenterOnly
    && containsPrefix sitePrefix.net net
    && (sitePrefix.lifecycleState = .ready || sitePrefix.lifecycleState = .deleting)

variable {sitePrefix : SitePrefix} {vpc : Vpc} {net : IpNet}

theorem tenantManaged_of_sitePrefixIsEligible
    (eligible : sitePrefixIsEligible sitePrefix vpc net = true) :
    sitePrefix.authority = .tenantManaged := by
  simp only [sitePrefixIsEligible, Bool.and_eq_true, decide_eq_true_eq] at eligible
  exact eligible.1.1.1.1

variable [Ipnet 32] [Ipnet 128]

/-- The scope in which a new prefix has to be unique: its own VPC if it may be reused, and
the whole site otherwise. -/
def vpcPrefixOverlapScope (config : CarbideConfig) (sitePrefix : SitePrefix) (vpc : Vpc)
    (net : IpNet) : Option VpcId :=
  if !config.tenantPrefixOverlapEnabled
      || !net.isIpv4
      || vpc.networkVirtualizationType ≠ .fnn
      || sitePrefix.lifecycleState ≠ .ready
      || !sitePrefixIsEligible sitePrefix vpc net
      || !sitePolicyIsIsolated config
      || config.siteFabricNullRoutes.any fun routes => !prefixHasIsolationRoute routes net
  then none
  else if profilePasses config isEligibleForTenantPrefixOverlap vpc then
    some vpc.id
  else none

variable {config : CarbideConfig}

/-- Only a prefix of a tenant-managed root gets the scope of its VPC, and only while the gate
is open. -/
theorem of_vpcPrefixOverlapScope {scope : VpcId}
    (isScoped : vpcPrefixOverlapScope config sitePrefix vpc net = some scope) :
    config.tenantPrefixOverlapEnabled = true ∧ sitePrefix.authority = .tenantManaged := by
  unfold vpcPrefixOverlapScope at isScoped
  split at isScoped
  next => cases isScoped
  next eligible =>
    simp only [Bool.or_eq_true, Bool.not_eq_eq_eq_not, Bool.not_true, not_or,
      Bool.not_eq_false] at eligible
    obtain ⟨⟨⟨⟨⟨⟨gate, -⟩, -⟩, -⟩, root⟩, -⟩, -⟩ := eligible
    exact ⟨gate, tenantManaged_of_sitePrefixIsEligible root⟩

structure VpcPrefixParticipant where
  net : IpNet
  isDeleted : Bool
  vpc : Vpc
  sitePrefix : SitePrefix

/-- The routes of two equal prefixes do not meet. -/
def retainedPairIsIsolated (config : CarbideConfig) (isolationRoutes : List IpNet)
    (candidate existing : VpcPrefixParticipant) : Bool :=
  sitePolicyIsIsolated config
    && prefixHasIsolationRoute isolationRoutes candidate.net
    && candidate.net = existing.net
    && candidate.vpc.id ≠ existing.vpc.id
    && candidate.vpc.networkVirtualizationType = .fnn
    && existing.vpc.networkVirtualizationType = .fnn
    && sitePrefixIsEligible candidate.sitePrefix candidate.vpc candidate.net
    && sitePrefixIsEligible existing.sitePrefix existing.vpc existing.net
    && (candidate.vpc.vni.any fun candidateVni =>
      existing.vpc.vni.any fun existingVni => candidateVni ≠ existingVni)
    && profilePasses config isIsolatedForTenantPrefixes candidate.vpc
    && profilePasses config isIsolatedForTenantPrefixes existing.vpc

def pairIsEligible (config : CarbideConfig) (candidate existing : VpcPrefixParticipant) :
    Checked Bool := do
  let isolationRoutes ← resolvedSiteFabricNullRoutes config []
    [candidate.sitePrefix.net, existing.sitePrefix.net]
  return config.tenantPrefixOverlapEnabled
    && !candidate.isDeleted
    && !existing.isDeleted
    && candidate.sitePrefix.lifecycleState = .ready
    && ([candidate.vpc, existing.vpc].all
      (profilePasses config tenantPrefixOverlapEligible))
    && retainedPairIsIsolated config isolationRoutes candidate existing

theorem of_pairIsEligible {candidate existing : VpcPrefixParticipant}
    (eligible : pairIsEligible config candidate existing = .ok true) :
    candidate.net = existing.net ∧ candidate.vpc.id ≠ existing.vpc.id := by
  obtain ⟨routes, -, eligible⟩ := Checked.bind_eq_ok.mp eligible
  have passed := Except.ok.inj eligible
  simp only [retainedPairIsIsolated, Bool.and_eq_true, decide_eq_true_eq] at passed
  obtain ⟨-, ⟨⟨⟨⟨⟨⟨⟨⟨⟨-, sameNet⟩, otherVpc⟩, -⟩, -⟩, -⟩, -⟩, -⟩, -⟩, -⟩⟩ := passed
  exact ⟨sameNet, otherVpc⟩

end Prefixes

end ApiCore.PrefixOverlap
