import BareMetalManager.Lib.BTreeSet
import BareMetalManager.Lib.Checked
import BareMetalManager.Network.Net

/-!
# The IP allocator

The `IpAllocator` of `crates/api-db/src/ip_allocator.rs`. For each prefix of a network segment it
collects the networks that are taken already, collapses them into a smaller list, and scans the
prefix for the first free network of the requested length. A step of the iterator may panic where
the source does checked arithmetic: in the shift that gives the size of a network, and in the step
to the next candidate.
-/

namespace ApiDb

open Collections Dyadic Network Ipnetwork

inductive AddressSelectionStrategy where
  | nextAvailableIp
  | automatic
  | nextAvailablePrefix (len : UInt8)
  | staticAddress (addr : IpAddr)
  deriving DecidableEq

structure SegmentPrefix (ι : Type) where
  id : ι
  net : IpNet
  gateway : Option IpAddr
  numReserved : Int
  deriving DecidableEq

/-- The errors of an allocation, with the data of their messages. -/
inductive DatabaseError (ι : Type) where
  /-- "network prefix id has negative reservation count n" -/
  | negativeReservationCount (id : ι) (count : Int)
  | invalidPrefix
  /-- "failed to get allocated IPs for prefix: net (err: e)" -/
  | failedToGetAllocated (net : IpNet) (err : DatabaseError ι)
  /-- "StaticAddress cannot be allocated by the DHCP allocator" -/
  | staticAddress
  /-- "requested prefix length (n) must be greater than the network segment prefix
  length (m)" -/
  | prefixLengthNotGreater (requested segment : Nat)
  /-- "failed to get next available for prefix: net (err: e)" -/
  | failedToGetNextAvailable (net : IpNet) (err : DatabaseError ι)
  /-- "prefix: addr has exhausted all address space" -/
  | prefixExhausted (addr : IpAddr)
  deriving DecidableEq

/-- The allocator: the prefixes still to visit, the networks in use, and the
requested kind of address. -/
structure IpAllocator (ι : Type) where
  prefixes : List (SegmentPrefix ι)
  usedIps : List IpNet
  addressStrategy : AddressSelectionStrategy
  deriving DecidableEq

/-- The bounds and the step of a scan. The step comes from a shifted one. -/
structure NetworkDetails where
  baseIp : Nat
  broadcastIp : Nat
  networkSize : Nat
  networkSize_pos : 0 < networkSize

namespace IpAllocator

variable {ι : Type}

/-- `IpNetwork::new`, with its error as a database error. -/
def newNetwork (addr : IpAddr) (prefixLen : Nat) : Except (DatabaseError ι) IpNet :=
  match IpNet.new addr prefixLen with
  | some net => .ok net
  | none => .error .invalidPrefix

/-- The address of a network as it was written, host bits included. -/
def ip : IpNet → IpAddr
  | .v4 net => .v4 net.addr
  | .v6 net => .v6 net.addr

/-- Segments with distinct network and broadcast addresses keep them back. -/
def shouldReserveNetworkBroadcast : IpNet → Bool
  | .v4 net => net.prefixLen < 31
  | .v6 net => net.prefixLen < 127

/-- The step of an IPv4 scan: the literal is a 32-bit signed integer, which the
cast to 128 bits sign-extends. -/
def ipv4NetworkSize (shift : Nat) : Nat := ((1#32 <<< shift).signExtend 128).toNat

theorem ipv4NetworkSize_pos {shift : Nat} (bound : shift < 32) : 0 < ipv4NetworkSize shift := by
  have all : ∀ shift < 32, 0 < ((1#32 <<< shift).signExtend 128).toNat := by decide
  exact all shift bound

section Operations

variable [Ipnetwork]

variable (segment : SegmentPrefix ι)

/-- The gateway, when it lies in the segment prefix. -/
def gatewayAddrs : List IpAddr :=
  match segment.gateway with
  | some gateway => if contains segment.net gateway then [gateway] else []
  | none => []

/-- The first addresses of the segment prefix, which are reserved. -/
def reservedAddrs : List IpAddr :=
  (iter segment.net).take segment.numReserved.toNat

/-- The network and broadcast addresses, when they are kept back. -/
def endAddrs : List IpAddr :=
  if shouldReserveNetworkBroadcast segment.net then
    [network segment.net, broadcast segment.net]
  else []

/-- The networks already taken in a segment prefix: the gateway, the reserved
addresses, the network and broadcast addresses, and the used networks inside it. -/
def buildAllocatedNetworks (usedIps : List IpNet) : Except (DatabaseError ι) (List IpNet) :=
  if segment.numReserved < 0 then
    .error (.negativeReservationCount segment.id segment.numReserved)
  else do
    let addresses ← (gatewayAddrs segment ++ reservedAddrs segment ++ endAddrs segment).mapM
      fun addr => newNetwork addr addr.addressFamily.interfacePrefixLen
    return addresses ++ usedIps.filter fun allocated =>
      contains segment.net (network allocated)

/-- One step of the collapse: insert a network unless an existing one contains
its network address. -/
def collapseInsert (set : BTreeSet IpNet) (this : IpNet) : BTreeSet IpNet :=
  if set.elems.any fun existing => contains existing (network this) then set
  else set.insert this

/-- Collapse a list of networks, visiting long prefixes first. -/
def collapseAllocatedNetworks (networks : List IpNet) : List IpNet :=
  ((networks.insertionSort fun left right => right.prefixLen ≤ left.prefixLen).foldl
    collapseInsert .empty).elems

def getAllocated (allocator : IpAllocator ι) (segment : SegmentPrefix ι) :
    Except (DatabaseError ι) (List IpNet) :=
  return collapseAllocatedNetworks (← buildAllocatedNetworks segment allocator.usedIps)

/-- The bounds of a scan of a segment for networks of the given length. -/
def getNetworkDetails (segment : IpNet) (prefixLength : Nat) : Checked NetworkDetails :=
  match segment with
  | .v4 _ =>
    if bound : prefixLength ≤ 32 ∧ 32 - prefixLength < 32 then
      .ok {
        baseIp := (network segment).bits
        broadcastIp := (broadcast segment).bits
        networkSize := ipv4NetworkSize (32 - prefixLength)
        networkSize_pos := ipv4NetworkSize_pos bound.2 }
    else .error .overflow
  | .v6 _ =>
    if bound : prefixLength ≤ 128 ∧ 128 - prefixLength < 128 then
      .ok {
        baseIp := (network segment).bits
        broadcastIp := (broadcast segment).bits
        networkSize := (1#128 <<< (128 - prefixLength)).toNat
        networkSize_pos := by
          rw [Net.toNat_one_shiftLeft bound.2]
          exact Nat.two_pow_pos _ }
    else .error .overflow

def buildCandidateSubnet (segment : IpNet) (currentIp prefixLength : Nat) :
    Except (DatabaseError ι) IpNet :=
  newNetwork (segment.addrAt currentIp) prefixLength

def isAllocated (allocated : List IpNet) (candidate : IpNet) : Bool :=
  allocated.any fun network =>
    contains network (Ipnetwork.network candidate) ||
      contains candidate (Ipnetwork.network network)

/-- Scan from the current address up to the broadcast address. -/
def scan (segment : IpNet) (prefixLength : Nat) (allocated : List IpNet)
    (details : NetworkDetails) (currentIp : Nat) :
    Checked (Except (DatabaseError ι) (Option IpNet)) :=
  if currentIp ≤ details.broadcastIp then
    match buildCandidateSubnet segment currentIp prefixLength with
    | .error err => .ok (.error err)
    | .ok candidate =>
      if isAllocated allocated candidate then
        if currentIp + details.networkSize < 2 ^ 128 then
          scan segment prefixLength allocated details (currentIp + details.networkSize)
        else .error .overflow
      else .ok (.ok (some candidate))
  else .ok (.ok none)
termination_by details.broadcastIp + 1 - currentIp
decreasing_by
  have := details.networkSize_pos
  omega

/-- The first network of the given length in the segment that is not related to an
allocated one. A single IPv6 address is checked directly. -/
def nextAvailablePrefix (segment : IpNet) (prefixLength : Nat) (allocated : List IpNet) :
    Checked (Except (DatabaseError ι) (Option IpNet)) :=
  if segment.prefixLen = 128 ∧ prefixLength = 128 then
    if allocated.any fun network =>
        contains network (Ipnetwork.network segment) then
      .ok (.ok none)
    else .ok (.ok (some segment))
  else if prefixLength ≤ segment.prefixLen then
    .ok (.error (.prefixLengthNotGreater prefixLength segment.prefixLen))
  else do
    let details ← getNetworkDetails segment prefixLength
    scan segment prefixLength allocated details details.baseIp

def requestedLength (strategy : AddressSelectionStrategy) (segment : IpNet) : Option Nat :=
  match strategy with
  | .nextAvailableIp | .automatic => some segment.addressFamily.interfacePrefixLen
  | .nextAvailablePrefix len => some len.toNat
  | .staticAddress _ => none

def allocate (allocator : IpAllocator ι) (segment : SegmentPrefix ι) :
    Checked (Except (DatabaseError ι) IpNet) :=
  match allocator.getAllocated segment with
  | .error err => .ok (.error (.failedToGetAllocated segment.net err))
  | .ok allocated =>
    match requestedLength allocator.addressStrategy segment.net with
    | none => .ok (.error .staticAddress)
    | some prefixLength => do
        match ← nextAvailablePrefix segment.net prefixLength allocated with
        | .error err => return .error (.failedToGetNextAvailable segment.net err)
        | .ok none => return .error (.prefixExhausted (ip segment.net))
        | .ok (some network) => return .ok network

/-- One step of the iterator: visit the first remaining prefix. -/
def next (allocator : IpAllocator ι) :
    Checked (Option (ι × Except (DatabaseError ι) IpNet) × IpAllocator ι) :=
  match allocator.prefixes with
  | [] => .ok (none, allocator)
  | segment :: rest => do
      let rest := { allocator with prefixes := rest }
      return (some (segment.id, ← rest.allocate segment), rest)

end Operations

end IpAllocator

end ApiDb
