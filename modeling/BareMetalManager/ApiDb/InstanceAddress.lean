import BareMetalManager.ApiDb.IpAllocator
import BareMetalManager.Lib.Transition

/-!
# Addresses on a tenant segment

The instance addresses of `crates/api-db/src/instance_address.rs` and the SVI addresses of
`crates/api-db/src/network_segment.rs`, on one tenant segment. An operation first locks the table
`instance_addresses`, so the operations on a segment happen one after the other, and one that
fails or panics is rolled back. A configuration names a segment for one of its interfaces only, so
an allocation is modelled for that interface.
-/

namespace ApiDb

open Network IpAllocator

abbrev InstanceId := Nat

variable (ι : Type)

/-- The prefixes of a tenant segment. The primary key of `network_prefixes` keeps
their ids apart, and the index `network_prefix_family` keeps their families apart. -/
structure TenantSegment where
  prefixes : List (SegmentPrefix ι)
  ids : (prefixes.map (·.id)).Nodup
  families : (prefixes.map (·.net.addressFamily)).Nodup

/-- A row of `instance_addresses` on the segment. -/
structure InstanceAddress where
  instanceId : InstanceId
  address : IpAddr
  net : IpNet
  deriving DecidableEq

/-- What the database stores about a segment: the column `svi_ip` of its prefixes and
its instance addresses. -/
structure SegmentRows where
  sviIps : ι → Option IpAddr
  addresses : List InstanceAddress

/-- The interface of a configuration on the segment: the addresses that it has
already, and the addresses that it asks for. -/
structure InstanceInterfaceConfig where
  ipAddrs : List (ι × IpAddr)
  requestedIpAddr : Option IpAddr
  ipv6RequestedIpAddr : Option IpAddr
  deriving DecidableEq

inductive AddressError where
  | panic (reason : Panic)
  | allocator (err : DatabaseError ι)
  | findOneReturnedNoResults
  /-- "requested IPv6 address is invalid because VPC has SLAAC enabled" -/
  | requestedWithSlaac (addr : IpAddr)
  /-- "no viable host IP found in network: net" -/
  | noViableHostIp (net : IpNet)
  /-- "tenant instance network size unsupported: n" -/
  | unsupportedNetworkSize (prefixLen : Nat)
  /-- "Prefix id does not have 3 valid IPs." -/
  | noThirdIp (id : ι)
  /-- "Unable to allocate SVI IP for : No free IPs in segment." -/
  | noFreeIps
  /-- The segment has no prefix to give an SVI address to. -/
  | notFound
  deriving DecidableEq

namespace TenantSegment

variable {ι} [Ipnetwork]

/-- The outcome of a step of the allocator. -/
def allocated : Checked (Except (DatabaseError ι) IpNet) → Except (AddressError ι) IpNet
  | .error reason => .error (.panic reason)
  | .ok (.error err) => .error (.allocator err)
  | .ok (.ok net) => .ok net

def getHostIp (network : IpNet) : Except (AddressError ι) IpAddr :=
  let nth (index : Nat) :=
    match (Ipnetwork.iter network)[index]? with
    | some addr => .ok addr
    | none => .error (.noViableHostIp network)
  match network.prefixLen with
  | 32 | 128 => .ok (ip network)
  | 31 | 127 => nth 1
  | 30 => nth 3
  | prefixLen => .error (.unsupportedNetworkSize prefixLen)

/-- The networks in use: the resolver of instance addresses reads their column
`prefix` only. The SVI addresses that `allocate` gives it as busy are left out. -/
def usedPrefixes (rows : SegmentRows ι) : List IpNet := rows.addresses.map (·.net)

/-- The allocator of the next single address. -/
def newAllocator (rows : SegmentRows ι) (prefixes : List (SegmentPrefix ι)) : IpAllocator ι where
  prefixes := prefixes
  usedIps := usedPrefixes rows
  addressStrategy := .nextAvailableIp

/-- Visit the prefixes of the allocator in order. A prefix that instances configure
by SLAAC is skipped. -/
def assignIpsFrom (rows : SegmentRows ι) (slaacEnabled : Bool) :
    List (SegmentPrefix ι) → Except (AddressError ι) (List IpNet)
  | [] => .ok []
  | visited :: rest =>
    let found := (newAllocator rows rest).allocate visited
    if slaacEnabled ∧ visited.net.addressFamily = .ipv6 then
      match found with
      | .error reason => .error (.panic reason)
      | .ok _ => assignIpsFrom rows slaacEnabled rest
    else do
      let allocatedPrefix ← allocated found
      let hostIp ← getHostIp allocatedPrefix
      let address ← (newNetwork hostIp allocatedPrefix.prefixLen).mapError .allocator
      return address :: (← assignIpsFrom rows slaacEnabled rest)

def addressRow (instanceId : InstanceId) (address : IpNet) :
    Except (AddressError ι) InstanceAddress := do
  let net ← (newNetwork (Ipnetwork.network address) address.prefixLen).mapError
    .allocator
  return { instanceId, address := ip address, net }

omit [Ipnetwork] in
def requestedIpv6Address (iface : InstanceInterfaceConfig ι) : Option IpAddr :=
  (iface.requestedIpAddr.filter fun addr => addr.addressFamily = .ipv6).or
    iface.ipv6RequestedIpAddr

def allocate (segment : TenantSegment ι) (instanceId : InstanceId)
    (iface : InstanceInterfaceConfig ι) (slaacEnabled : Bool) (rows : SegmentRows ι) :
    Except (AddressError ι) (SegmentRows ι) :=
  if iface.ipAddrs ≠ [] then .ok rows
  else if segment.prefixes = [] then .error .findOneReturnedNoResults
  else
    match if slaacEnabled then requestedIpv6Address iface else none with
    | some addr => .error (.requestedWithSlaac addr)
    | none => do
        let assigned ← assignIpsFrom rows slaacEnabled segment.prefixes
        let added ← assigned.mapM (addressRow instanceId)
        return { rows with addresses := rows.addresses ++ added }

variable (rows : SegmentRows ι) (visited : SegmentPrefix ι)

/-- The next free address of a prefix, for its SVI. -/
def nextSviIp : Except (AddressError ι) IpAddr :=
  match (newAllocator rows [visited]).next with
  | .error reason => .error (.panic reason)
  | .ok (some (_, .ok address), _) => .ok (ip address)
  | .ok (some (_, .error err), _) => .error (.allocator err)
  | .ok (none, _) => .error .noFreeIps

/-- The SVI address for a prefix without one: the third address when it is reserved,
and otherwise the next free one. -/
def sviIpOf : Except (AddressError ι) IpAddr :=
  if 3 ≤ visited.numReserved then
    match (Ipnetwork.iter visited.net)[2]? with
    | some addr => .ok addr
    | none => .error (.noThirdIp visited.id)
  else nextSviIp rows visited

section Machine

variable [DecidableEq ι]

/-- Give an SVI address to each of the prefixes that has none, and return the first
SVI address of all of them. -/
def allocateSviIps (rows : SegmentRows ι) : List (SegmentPrefix ι) → (ι → Option IpAddr) →
    Option IpAddr → Except (AddressError ι) ((ι → Option IpAddr) × Option IpAddr)
  | [], sviIps, firstSviIp => .ok (sviIps, firstSviIp)
  | visited :: rest, sviIps, firstSviIp =>
    match rows.sviIps visited.id with
    | some stored => allocateSviIps rows rest sviIps (firstSviIp.or (some stored))
    | none => do
        let sviIp ← sviIpOf rows visited
        allocateSviIps rows rest (Function.update sviIps visited.id (some sviIp))
          (firstSviIp.or (some sviIp))

variable (segment : TenantSegment ι) (rows : SegmentRows ι)

def allocateSviIp : Except (AddressError ι) (IpAddr × SegmentRows ι) := do
  let (sviIps, firstSviIp) ← allocateSviIps rows segment.prefixes rows.sviIps none
  match firstSviIp with
  | some sviIp => return (sviIp, { rows with sviIps })
  | none => .error .notFound

inductive Operation (ι : Type) where
  | allocate (instanceId : InstanceId) (iface : InstanceInterfaceConfig ι) (slaacEnabled : Bool)
  | delete (instanceId : InstanceId)
  | deleteAddresses (instanceId : InstanceId) (released : List IpAddr)
  | allocateSviIp

omit [DecidableEq ι] [Ipnetwork] in
/-- A transaction that does not return is rolled back. -/
def commit : Except (AddressError ι) (SegmentRows ι) → SegmentRows ι
  | .ok next => next
  | .error _ => rows

def step : Operation ι → SegmentRows ι → SegmentRows ι
  | .allocate instanceId iface slaacEnabled, rows =>
    commit rows (segment.allocate instanceId iface slaacEnabled rows)
  | .delete instanceId, rows =>
    { rows with addresses := rows.addresses.filter fun row => row.instanceId ≠ instanceId }
  | .deleteAddresses instanceId released, rows =>
    { rows with
      addresses := rows.addresses.filter fun row =>
        ¬ (row.instanceId = instanceId ∧ row.address ∈ released) }
  | .allocateSviIp, rows => commit rows ((segment.allocateSviIp rows).map Prod.snd)

/-- The operations on a segment, in the order in which they get the lock. -/
def machine : Machine (Operation ι) (SegmentRows ι) :=
  ⟨fun operation rows => some (segment.step operation rows)⟩

end Machine

end TenantSegment

end ApiDb
