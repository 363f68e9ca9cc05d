import BareMetalManager.Lib.Checked
import BareMetalManager.Network.Coverage

/-!
# Routing profiles and their narrowing

The part of `crates/api-core/src/cfg/file.rs` that decides what the VPCs of a site can reach. A
setting that is absent takes its default where it is read. An interface profile is checked against
that of its VPC in `crates/api-core/src/ethernet_virtualization.rs`, and a changed profile against
its predecessor in `crates/api-core/src/handlers/tenant_prefix_overlap.rs`. Both checks are meant
to accept only what the earlier profile allowed, and compare prefixes with `is_subnet_of`, which
looks at the address of a prefix as it was written.
-/

namespace ApiCore

open Network List

/-- A BGP route target. -/
structure RouteTargetConfig where
  asn : Nat
  vni : Nat
  deriving DecidableEq

/-- An entry of a prefix list policy. The prefix may have bits set behind its length. -/
structure PrefixFilterPolicyEntry where
  net : IpNet
  deriving DecidableEq

structure FnnRoutingProfileConfig where
  routeTargetImports : Option (List RouteTargetConfig) := none
  routeTargetsOnExports : Option (List RouteTargetConfig) := none
  internal : Option Bool := none
  tenantPrefixOverlapEligible : Bool := false
  leakDefaultRouteFromUnderlay : Option Bool := none
  leakTenantHostRoutesToUnderlay : Option Bool := none
  tenantLeakCommunitiesAccepted : Option Bool := none
  acceptedLeaksFromUnderlay : Option (List PrefixFilterPolicyEntry) := none
  allowedAnycastPrefixes : Option (List PrefixFilterPolicyEntry) := none
  accessTier : Option Nat := none
  deriving DecidableEq

namespace FnnRoutingProfileConfig

variable (profile : FnnRoutingProfileConfig)

/-- The routing is safe for prefixes that other tenants use as well, whatever the opt-in
says. -/
def isIsolatedForTenantPrefixes : Bool :=
  profile.internal = some true
    && profile.routeTargetImports.all isEmpty
    && profile.routeTargetsOnExports.all isEmpty
    && !profile.leakDefaultRouteFromUnderlay.getD false
    && !profile.leakTenantHostRoutesToUnderlay.getD false
    && !profile.tenantLeakCommunitiesAccepted.getD false
    && profile.acceptedLeaksFromUnderlay.all isEmpty
    && profile.allowedAnycastPrefixes.all isEmpty

def isEligibleForTenantPrefixOverlap : Bool :=
  profile.tenantPrefixOverlapEligible && profile.isIsolatedForTenantPrefixes

/-- The effective values of the settings of a profile. -/
def imports : List RouteTargetConfig := profile.routeTargetImports.getD []

def exports : List RouteTargetConfig := profile.routeTargetsOnExports.getD []

def leaks : List PrefixFilterPolicyEntry := profile.acceptedLeaksFromUnderlay.getD []

def anycast : List PrefixFilterPolicyEntry := profile.allowedAnycastPrefixes.getD []

/-- What isolation means for the effective settings. -/
structure Isolated : Prop where
  imports : profile.imports = []
  exports : profile.exports = []
  leakDefaultRoute : profile.leakDefaultRouteFromUnderlay.getD false = false
  leakTenantHostRoutes : profile.leakTenantHostRoutesToUnderlay.getD false = false
  leakCommunities : profile.tenantLeakCommunitiesAccepted.getD false = false
  leaks : profile.leaks = []
  anycast : profile.anycast = []

variable {profile}

private theorem getD_nil_of_all_isEmpty {α : Type} {setting : Option (List α)}
    (empty : setting.all isEmpty = true) : setting.getD [] = [] := by
  cases setting with
  | none => rfl
  | some values => exact isEmpty_iff.mp empty

theorem isolated_of_isIsolated (isolated : profile.isIsolatedForTenantPrefixes = true) :
    profile.Isolated := by
  simp only [isIsolatedForTenantPrefixes, Bool.and_eq_true, Bool.not_eq_true'] at isolated
  obtain ⟨⟨⟨⟨⟨⟨⟨-, imports⟩, exports⟩, default⟩, hosts⟩, communities⟩, leaks⟩, anycast⟩ := isolated
  exact ⟨getD_nil_of_all_isEmpty imports, getD_nil_of_all_isEmpty exports, default, hosts,
    communities, getD_nil_of_all_isEmpty leaks, getD_nil_of_all_isEmpty anycast⟩

theorem isolated_of_isEligible (eligible : profile.isEligibleForTenantPrefixOverlap = true) :
    profile.Isolated :=
  isolated_of_isIsolated ((Bool.and_eq_true _ _).mp eligible).2

end FnnRoutingProfileConfig

/-- The values of a profile that a VPC sets itself. -/
structure VpcRoutingProfileOverrides where
  routeTargetImports : Option (List RouteTargetConfig)
  routeTargetsOnExports : Option (List RouteTargetConfig)
  leakDefaultRouteFromUnderlay : Option Bool
  leakTenantHostRoutesToUnderlay : Option Bool
  tenantLeakCommunitiesAccepted : Option Bool
  acceptedLeaksFromUnderlay : Option (List PrefixFilterPolicyEntry)
  allowedAnycastPrefixes : Option (List PrefixFilterPolicyEntry)
  deriving DecidableEq

/-- The overlay network of the site. -/
structure FnnConfig where
  commonInternalRouteTarget : Option RouteTargetConfig
  additionalRouteTargetImports : List RouteTargetConfig
  routingProfiles : String → Option FnnRoutingProfileConfig

inductive VpcIsolationBehaviorType where
  | mutualIsolation
  | open'
  deriving DecidableEq

inductive VpcPeeringPolicy where
  | exclusive
  | mixed
  | none
  deriving DecidableEq

structure DpuConfig where
  serviceVpcSlotCount : Nat

structure CarbideConfig where
  siteFabricPrefixes : List IpNet
  siteFabricNullRoutes : Option (List IpNet)
  tenantPrefixOverlapEnabled : Bool
  anycastSitePrefixes : List (Net 32)
  vpcIsolationBehavior : VpcIsolationBehaviorType
  vpcPeeringPolicy : Option VpcPeeringPolicy
  vpcPeeringPolicyOnExisting : Option VpcPeeringPolicy
  siteGlobalVpcVni : Option Nat
  dpuConfig : DpuConfig
  fnn : Option FnnConfig

/-! ## Narrowing -/

open Ipnetwork

structure InstanceInterfaceRoutingProfile where
  allowedAnycastPrefixes : List IpNet
  deriving DecidableEq

inductive RoutingProfileError where
  /-- "instance interface routing_profile.allowed_anycast_prefixes entry n is not within the
  owning VPC routing profile" -/
  | entryNotWithinVpcProfile (net : IpNet)
  deriving DecidableEq

section Checks

variable [Ipnetwork]

/-- Whether a candidate is equal to or narrower than an allowed prefix. -/
def prefixContains (allowed candidate : IpNet) : Bool := allowed.subnetInFamily candidate

/-- Whether a parent contains a child of the same family. -/
def containsPrefix (parent child : IpNet) : Bool := parent.subnetInFamily child

/-- Checks that an interface profile only narrows the profile of the owning VPC. -/
def validateInterfaceRoutingProfile (vpcProfile : FnnRoutingProfileConfig)
    (interfaceProfile : InstanceInterfaceRoutingProfile) : Except RoutingProfileError Unit :=
  interfaceProfile.allowedAnycastPrefixes.forM fun net =>
    Checked.rejectIf (!vpcProfile.anycast.any fun allowed => prefixContains allowed.net net)
      (.entryNotWithinVpcProfile net)

/-- Accepts a safe final profile or a restriction of the effective settings. -/
def routingProfileIsNonexpanding (runtimeConfig : CarbideConfig)
    (previous candidate : FnnRoutingProfileConfig) : Bool :=
  -- an empty IPv4 list exposes the list of the site
  if !runtimeConfig.anycastSitePrefixes.isEmpty && previous.anycast.any
    (fun entry => entry.net.isIpv4)
      && !candidate.anycast.any (fun entry => entry.net.isIpv4) then false
  else if candidate.isEligibleForTenantPrefixOverlap then true
  else
    candidate.internal.getD false = previous.internal.getD false
      && candidate.tenantPrefixOverlapEligible = previous.tenantPrefixOverlapEligible
      && candidate.imports.all (fun target => previous.imports.contains target)
      && candidate.exports.all (fun target => previous.exports.contains target)
      && (!candidate.leakDefaultRouteFromUnderlay.getD false
        || previous.leakDefaultRouteFromUnderlay.getD false)
      && (!candidate.leakTenantHostRoutesToUnderlay.getD false
        || previous.leakTenantHostRoutesToUnderlay.getD false)
      && candidate.tenantLeakCommunitiesAccepted.getD false
        = previous.tenantLeakCommunitiesAccepted.getD false
      && candidate.leaks.all (fun entry =>
        previous.leaks.any fun allowed => containsPrefix allowed.net entry.net)
      && candidate.anycast.all (fun entry =>
        previous.anycast.any fun allowed => containsPrefix allowed.net entry.net)

end Checks

/-! ## What the checks guarantee -/

def networks (entries : List PrefixFilterPolicyEntry) : List IpNet :=
  entries.map PrefixFilterPolicyEntry.net

variable (nets allowed : List IpNet)

/-- Every address of the networks of one list is covered by the other. -/
def WithinNetworks : Prop :=
  ∀ net ∈ nets, ∀ addr ∈ net, IpNet.Covers allowed addr

/-- No gap of the other list begins inside a network of the list before the address that the
network was written with. -/
def GaplessIn : Prop := ∀ net ∈ nets, IpNet.Gapless allowed net

instance : Decidable (GaplessIn nets allowed) :=
  inferInstanceAs (Decidable (∀ net ∈ nets, _))

variable {profile origin : FnnRoutingProfileConfig}

namespace FnnRoutingProfileConfig

/-- A profile has only settings of another: route targets, and leaks that are switched on
there. -/
structure SettingsWithin (profile origin : FnnRoutingProfileConfig) : Prop where
  imports : ∀ target ∈ profile.imports, target ∈ origin.imports
  exports : ∀ target ∈ profile.exports, target ∈ origin.exports
  leakDefaultRoute : profile.leakDefaultRouteFromUnderlay.getD false = true →
    origin.leakDefaultRouteFromUnderlay.getD false = true
  leakTenantHostRoutes : profile.leakTenantHostRoutesToUnderlay.getD false = true →
    origin.leakTenantHostRoutesToUnderlay.getD false = true
  leakCommunities : profile.tenantLeakCommunitiesAccepted.getD false = true →
    origin.tenantLeakCommunitiesAccepted.getD false = true

/-- A profile allows nothing that another does not: its settings are within the other's,
and so are the addresses that its leak and anycast entries cover. -/
structure Within (profile origin : FnnRoutingProfileConfig) : Prop where
  settings : SettingsWithin profile origin
  leaks : WithinNetworks (networks profile.leaks) (networks origin.leaks)
  anycast : WithinNetworks (networks profile.anycast) (networks origin.anycast)

theorem SettingsWithin.refl (profile : FnnRoutingProfileConfig) : SettingsWithin profile profile :=
  ⟨fun _ => id, fun _ => id, id, id, id⟩

theorem SettingsWithin.trans {middle : FnnRoutingProfileConfig}
    (first : SettingsWithin profile middle) (second : SettingsWithin middle origin) :
    SettingsWithin profile origin where
  imports target mem := second.imports target (first.imports target mem)
  exports target mem := second.exports target (first.exports target mem)
  leakDefaultRoute leak := second.leakDefaultRoute (first.leakDefaultRoute leak)
  leakTenantHostRoutes leak := second.leakTenantHostRoutes (first.leakTenantHostRoutes leak)
  leakCommunities leak := second.leakCommunities (first.leakCommunities leak)

theorem Isolated.settingsWithin (isolated : profile.Isolated) (origin : FnnRoutingProfileConfig) :
    SettingsWithin profile origin where
  imports := by simp [isolated.imports]
  exports := by simp [isolated.exports]
  leakDefaultRoute := by simp [isolated.leakDefaultRoute]
  leakTenantHostRoutes := by simp [isolated.leakTenantHostRoutes]
  leakCommunities := by simp [isolated.leakCommunities]

end FnnRoutingProfileConfig

open FnnRoutingProfileConfig

section Guarantees

variable [Ipnetwork]

def AdmittedBy (nets allowed : List IpNet) : Prop := ∀ net ∈ nets, IpNet.Admits allowed net

theorem AdmittedBy.refl (nets : List IpNet) : AdmittedBy nets nets :=
  fun net mem => ⟨net, mem, IpNet.subnetInFamily_refl net⟩

theorem AdmittedBy.trans {nets middle allowed : List IpNet} (first : AdmittedBy nets middle)
    (second : AdmittedBy middle allowed) : AdmittedBy nets allowed := by
  intro net mem
  obtain ⟨between, inMiddle, firstSubnet⟩ := first net mem
  obtain ⟨outer, inAllowed, secondSubnet⟩ := second between inMiddle
  exact ⟨outer, inAllowed, IpNet.subnetInFamily_trans secondSubnet firstSubnet⟩

theorem AdmittedBy.withinNetworks_iff {nets allowed : List IpNet}
    (admitted : AdmittedBy nets allowed) : WithinNetworks nets allowed ↔ GaplessIn nets allowed :=
  forall₂_congr fun net mem => (admitted net mem).forall_covers_iff

theorem admittedBy_networks {entries allowed : List PrefixFilterPolicyEntry}
    (contained : ∀ entry ∈ entries,
      (allowed.any fun other => containsPrefix other.net entry.net) = true) :
    AdmittedBy (networks entries) (networks allowed) := by
  refine forall_mem_map.mpr fun entry inEntries => ?_
  obtain ⟨other, inAllowed, subnet⟩ := any_eq_true.mp (contained entry inEntries)
  exact ⟨other.net, mem_map_of_mem inAllowed, subnet⟩

theorem admittedBy_of_validate {vpcProfile : FnnRoutingProfileConfig}
    {interfaceProfile : InstanceInterfaceRoutingProfile}
    (accepted : validateInterfaceRoutingProfile vpcProfile interfaceProfile = .ok ()) :
    AdmittedBy interfaceProfile.allowedAnycastPrefixes (networks vpcProfile.anycast) := by
  rw [validateInterfaceRoutingProfile] at accepted
  generalize interfaceProfile.allowedAnycastPrefixes = nets at accepted ⊢
  induction nets with
  | nil => exact fun net mem => absurd mem not_mem_nil
  | cons first rest ih =>
    obtain ⟨⟨⟩, passed, remaining⟩ := Checked.bind_eq_ok.mp accepted
    refine forall_mem_cons.mpr ⟨?_, ih remaining⟩
    simp only [Checked.rejectIf] at passed
    split at passed
    · cases passed
    rename_i allowed
    simp only [Bool.not_eq_true', Bool.not_eq_false, any_eq_true] at allowed
    obtain ⟨entry, mem, subnet⟩ := allowed
    exact ⟨entry.net, mem_map_of_mem mem, subnet⟩

/-- What an accepted change guarantees about the new profile: its settings are those of its
predecessor, and its entries are admitted by the entries of its predecessor. -/
structure Narrowed (profile origin : FnnRoutingProfileConfig) : Prop where
  settings : SettingsWithin profile origin
  leaks : AdmittedBy (networks profile.leaks) (networks origin.leaks)
  anycast : AdmittedBy (networks profile.anycast) (networks origin.anycast)

theorem Narrowed.refl (profile : FnnRoutingProfileConfig) : Narrowed profile profile :=
  ⟨.refl profile, .refl _, .refl _⟩

theorem Narrowed.trans {middle : FnnRoutingProfileConfig} (first : Narrowed profile middle)
    (second : Narrowed middle origin) :
    Narrowed profile origin :=
  ⟨first.settings.trans second.settings, first.leaks.trans second.leaks,
    first.anycast.trans second.anycast⟩

theorem narrowed_of_isolated (isolated : profile.Isolated) (origin : FnnRoutingProfileConfig) :
    Narrowed profile origin where
  settings := isolated.settingsWithin origin
  leaks := by simp [AdmittedBy, networks, isolated.leaks]
  anycast := by simp [AdmittedBy, networks, isolated.anycast]

theorem narrowed_of_nonexpanding {runtimeConfig : CarbideConfig}
    {previous candidate : FnnRoutingProfileConfig}
    (accepted : routingProfileIsNonexpanding runtimeConfig previous candidate = true) :
    Narrowed candidate previous := by
  rw [routingProfileIsNonexpanding] at accepted
  split at accepted
  · cases accepted
  split at accepted
  case isTrue eligible =>
    exact narrowed_of_isolated (isolated_of_isEligible eligible) previous
  simp only [Bool.and_eq_true, Bool.or_eq_true, Bool.not_eq_true', all_eq_true,
    contains_iff_mem, decide_eq_true_eq] at accepted
  obtain ⟨⟨⟨⟨⟨⟨⟨-, imports⟩, exports⟩, default⟩, hosts⟩, communities⟩, leaks⟩, anycast⟩ :=
    accepted
  refine ⟨⟨imports, exports, ?_, ?_, fun leak => communities ▸ leak⟩,
    admittedBy_networks leaks, admittedBy_networks anycast⟩
  · exact fun leak => default.resolve_left (by simp [leak])
  · exact fun leak => hosts.resolve_left (by simp [leak])

/-- One accepted change of a profile, under any configuration of the site. -/
def Accepted (previous candidate : FnnRoutingProfileConfig) : Prop :=
  ∃ runtimeConfig, routingProfileIsNonexpanding runtimeConfig previous candidate = true

theorem narrowed_of_chain (chain : Relation.ReflTransGen Accepted origin profile) :
    Narrowed profile origin := by
  induction chain with
  | refl => exact .refl origin
  | tail _ step ih =>
    obtain ⟨runtimeConfig, accepted⟩ := step
    exact (narrowed_of_nonexpanding accepted).trans ih

/-- The addresses of an accepted interface profile lie in the entries of its VPC exactly when no
gap of the latter begins inside an entry before the address that the entry was written with. The
last profile of a chain of accepted changes is eligible for prefix reuse or within the first one
exactly when it is eligible or no gap of the first one's entries begins in that way inside its
entries: the other settings never widen. -/
theorem narrowing_iff_gapless :
    (∀ vpcProfile interfaceProfile,
      validateInterfaceRoutingProfile vpcProfile interfaceProfile = .ok () →
        (WithinNetworks interfaceProfile.allowedAnycastPrefixes (networks vpcProfile.anycast) ↔
          GaplessIn interfaceProfile.allowedAnycastPrefixes (networks vpcProfile.anycast))) ∧
    ∀ origin profile, Relation.ReflTransGen Accepted origin profile →
      ((profile.isEligibleForTenantPrefixOverlap = true ∨ Within profile origin) ↔
        (profile.isEligibleForTenantPrefixOverlap = true ∨
          (GaplessIn (networks profile.leaks) (networks origin.leaks) ∧
            GaplessIn (networks profile.anycast) (networks origin.anycast)))) := by
  constructor
  · intro vpcProfile interfaceProfile accepted
    exact (admittedBy_of_validate accepted).withinNetworks_iff
  · intro origin profile chain
    have narrowed := narrowed_of_chain chain
    refine or_congr_right ?_
    rw [← narrowed.leaks.withinNetworks_iff, ← narrowed.anycast.withinNetworks_iff]
    constructor
    · exact fun within => ⟨within.leaks, within.anycast⟩
    · exact fun ⟨leaks, anycast⟩ => ⟨narrowed.settings, leaks, anycast⟩

end Guarantees

/-! ## An entry that is wider than what admits it -/

/-- 10.0.128.0/17 -/
def upperHalf : IpNet := .v4 ⟨0x0A008000#32, 17, by decide⟩

/-- 10.0.200.0/16, a network that begins at 10.0.0.0 -/
def wholeFromUpperHalf : IpNet := .v4 ⟨0x0A00C800#32, 16, by decide⟩

/-- 10.0.0.0/17 -/
def lowerHalf : IpNet := .v4 ⟨0x0A000000#32, 17, by decide⟩

def anycastProfile : FnnRoutingProfileConfig :=
  { allowedAnycastPrefixes := some (nets.map .mk) }

def plainSite : CarbideConfig where
  siteFabricPrefixes := []
  siteFabricNullRoutes := none
  tenantPrefixOverlapEnabled := false
  anycastSitePrefixes := []
  vpcIsolationBehavior := .mutualIsolation
  vpcPeeringPolicy := none
  vpcPeeringPolicyOnExisting := none
  siteGlobalVpcVni := none
  dpuConfig := ⟨0⟩
  fnn := none

/-- The network 10.0.200.0/16 ends where 10.0.128.0/17 ends and was written with an address
behind the start of the latter, so both checks accept it. Its first half is not allowed. -/
theorem not_within_wholeFromUpperHalf :
    letI := reference
    (validateInterfaceRoutingProfile (anycastProfile [upperHalf]) ⟨[wholeFromUpperHalf]⟩ = .ok () ∧
      ¬ WithinNetworks [wholeFromUpperHalf] (networks (anycastProfile [upperHalf]).anycast)) ∧
    Relation.ReflTransGen Accepted (anycastProfile [upperHalf])
        (anycastProfile [wholeFromUpperHalf]) ∧
      ¬ ((anycastProfile [wholeFromUpperHalf]).isEligibleForTenantPrefixOverlap = true ∨
        Within (anycastProfile [wholeFromUpperHalf]) (anycastProfile [upperHalf])) := by
  let := reference
  have accepted : validateInterfaceRoutingProfile (anycastProfile [upperHalf])
      ⟨[wholeFromUpperHalf]⟩ = .ok () := by decide +kernel
  have wider : ¬ WithinNetworks [wholeFromUpperHalf]
      (networks (anycastProfile [upperHalf]).anycast) := by
    rw [(admittedBy_of_validate accepted).withinNetworks_iff]
    decide +kernel
  refine ⟨⟨accepted, wider⟩, ?_, ?_⟩
  · exact .single ⟨plainSite, by decide +kernel⟩
  · rintro (eligible | within)
    · cases eligible
    · exact wider within.anycast

/-- With both halves allowed the same network is within the allowed ones. -/
theorem narrowing_iff_gapless_halves :
    letI := reference
    validateInterfaceRoutingProfile (anycastProfile [upperHalf, lowerHalf])
        ⟨[wholeFromUpperHalf]⟩ = .ok () ∧
      WithinNetworks [wholeFromUpperHalf]
        (networks (anycastProfile [upperHalf, lowerHalf]).anycast) := by
  let := reference
  have accepted : validateInterfaceRoutingProfile (anycastProfile [upperHalf, lowerHalf])
      ⟨[wholeFromUpperHalf]⟩ = .ok () := by decide +kernel
  exact ⟨accepted, (narrowing_iff_gapless.1 _ _ accepted).mpr (by decide +kernel)⟩

end ApiCore
