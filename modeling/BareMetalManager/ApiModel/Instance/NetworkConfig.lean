import BareMetalManager.ApiCore.Instance.PrefixPlan
import BareMetalManager.ApiCore.RoutingProfile

/-!
# The network configuration of an instance

The interface configuration of `crates/api-model/src/instance/config/network.rs`, with what
an interface has been resolved to. It extends the fields that the allocation of prefixes
works on by the identity of the interface and the rest of its resources.
-/

namespace ApiCore.Instance

deriving instance DecidableEq for NetworkDetails, InstanceInterfaceVpcSelection,
  Ipv6InterfaceConfig, InstanceInterfaceConfig

end ApiCore.Instance

namespace ApiModel.Instance

open Network ApiCore ApiCore.Instance

inductive InterfaceFunctionId where
  | physical
  | virtual' (id : Nat)
  deriving DecidableEq

structure DeviceLocator where
  device : String
  deviceInstance : Nat
  deriving DecidableEq

abbrev MacAddress := Nat

structure InterfaceConfig extends InstanceInterfaceConfig where
  functionId : InterfaceFunctionId
  routingProfile : Option InstanceInterfaceRoutingProfile
  networkSegmentGateways : List (NetworkPrefixId × IpNet)
  hostInbandMacAddress : Option MacAddress
  deviceLocator : Option DeviceLocator
  internalUuid : Nat
  deriving DecidableEq

structure ResolvedVpcPrefixes where
  ipv4VpcPrefixId : Option VpcPrefixId
  ipv6VpcPrefixId : Option VpcPrefixId
  deriving DecidableEq

namespace InterfaceConfig

variable (interface : InterfaceConfig)

/-- Whether the stored resources of an interface are of IPv6 without exception. An explicit
address decides alone. -/
def primaryIsIpv6 : Bool :=
  match interface.requestedIpAddr with
  | some address => address.addressFamily = .ipv6
  | none =>
    let familyEvidence :=
      interface.ipAddrs.map (fun entry => decide (entry.2.addressFamily = .ipv6))
        ++ interface.interfacePrefixes.map (fun entry => decide (entry.2.addressFamily = .ipv6))
        ++ interface.networkSegmentGateways.map
          (fun entry => decide (entry.2.addressFamily = .ipv6))
    !familyEvidence.isEmpty && familyEvidence.all id

/-- The VPC prefixes of an automatic selection, given the stored primary and secondary one. -/
def prefixesOfMode (primary : VpcPrefixId) (secondary : Option VpcPrefixId) :
    InstanceInterfaceIpFamilyMode → ResolvedVpcPrefixes
  | .ipv4Only => ⟨some primary, none⟩
  | .ipv6Only => ⟨none, some primary⟩
  | .dualStack => ⟨some primary, secondary⟩

def resolvedVpcPrefixes : Option ResolvedVpcPrefixes :=
  match interface.networkDetails with
  | some (.vpcPrefixId primary) =>
    let secondary := interface.ipv6InterfaceConfig.map Ipv6InterfaceConfig.vpcPrefixId
    match interface.vpcSelection with
    | some selection => some (prefixesOfMode primary secondary selection.familyMode)
    | none =>
      if secondary.isSome then some ⟨some primary, secondary⟩
      else if interface.primaryIsIpv6 then some ⟨none, some primary⟩
      else some ⟨some primary, none⟩
  | some (.networkSegment _) | none => none

def generatedNetworkSegmentId : Option NetworkSegmentId :=
  interface.resolvedVpcPrefixes.bind fun _ => interface.networkSegmentId

def isHostInband : Bool := interface.hostInbandMacAddress.isSome

theorem isSome_resolvedVpcPrefixes {interface : InterfaceConfig} :
    interface.resolvedVpcPrefixes.isSome = true ↔
      ∃ primary, interface.networkDetails = some (.vpcPrefixId primary) := by
  rw [resolvedVpcPrefixes]
  cases interface.networkDetails with
  | none => simp
  | some details =>
    cases details with
    | networkSegment id => simp
    | vpcPrefixId primary =>
      simp only [Option.some.injEq, NetworkDetails.vpcPrefixId.injEq, exists_eq', iff_true]
      cases interface.vpcSelection with
      | some selection => rfl
      | none =>
        simp only
        split
        · rfl
        · split <;> rfl

end InterfaceConfig

end ApiModel.Instance
