import BareMetalManager.Lib.Checked
import BareMetalManager.Network.Net
import Mathlib.Data.List.Sort

/-!
# The linknet allocator of a VPC prefix

The `PrefixAllocator` of `crates/api-core/src/network_segment/allocate.rs` with the intervals of
`crates/api-db/src/network_prefix.rs` selects the next free child of a VPC prefix, behind the
child that was used last. The children are numbered, and a stored prefix becomes the interval of
the numbers that it touches. Arithmetic is that of 128-bit integers with overflow checks.

VPCs may use the same addresses. A prefix is then stored with the VPC as its scope, and without
one it is global.
-/

namespace ApiCore

abbrev VpcId := Nat

abbrev VpcPrefixId := Nat

end ApiCore

namespace ApiDb.NetworkPrefix

open Network Ipnetwork ApiCore

/-- A row of `network_prefixes`. -/
structure NetworkPrefixRow where
  net : IpNet
  overlapVpcId : Option VpcId

structure Tables where
  networkPrefixes : List NetworkPrefixRow
  /-- The column `overlap_vpc_id` of `network_vpc_prefixes`. -/
  overlapVpcId : VpcPrefixId → Option (Option VpcId)

/-- The stored prefixes that count for a VPC prefix: those of its scope, and all of them where one
of the two is global. A VPC prefix without a row is joined with none. -/
def Tables.inScope (tables : Tables) (vpcPrefixId : VpcPrefixId) : List IpNet :=
  (tables.overlapVpcId vpcPrefixId).elim [] fun scope =>
    (tables.networkPrefixes.filter fun row =>
      row.overlapVpcId = none || scope = none || row.overlapVpcId = scope).map (·.net)

variable [Ipnetwork]

/-- The prefixes in scope that overlap the VPC prefix, as the operator `&&` of the database
selects them. -/
def findAllocationOccupancy (tables : Tables) (vpcPrefixId : VpcPrefixId) (vpcPrefix : IpNet) :
    List IpNet :=
  (tables.inScope vpcPrefixId).filter fun net =>
    contains net (network vpcPrefix) ||
      contains vpcPrefix (network net)

/-- The interval of child indexes that a prefix of the same family touches. Both ends
are computed before the emptiness of the range is looked at. -/
def occupiedInterval (parent : IpNet) (childSize : Nat) (occupied : IpNet) :
    Checked (Option (Nat × Nat)) := do
  let parentStart := (network parent).bits
  let parentEnd := (broadcast parent).bits
  let occupiedStart := max (network occupied).bits parentStart
  let occupiedEnd := min (broadcast occupied).bits parentEnd
  let firstOffset ← Checked.sub occupiedStart parentStart
  let lastOffset ← Checked.sub occupiedEnd parentStart
  return if occupiedStart ≤ occupiedEnd then
    some (firstOffset / childSize, lastOffset / childSize)
  else none

/-- The intervals of child indexes that the occupied prefixes touch, sorted but not
merged. -/
def occupiedPrefixIntervals (parent : IpNet) (childPrefixLength : Nat)
    (occupiedPrefixes : List IpNet) : Checked (List (Nat × Nat)) := do
  let shift ← Checked.sub parent.addressFamily.interfacePrefixLen childPrefixLength
  let childSize ← Checked.oneShiftLeft 128 shift
  let intervals ← (occupiedPrefixes.filter fun net =>
    net.addressFamily = parent.addressFamily).mapM (occupiedInterval parent childSize)
  return (intervals.filterMap id).insertionSort fun left right => toLex left ≤ toLex right

end ApiDb.NetworkPrefix

namespace ApiCore

open Network ApiDb.NetworkPrefix

/-- The errors of the allocator, with the data of their messages. -/
inductive CarbideError where
  /-- "prefix length n exceeds maximum for address family (m)" -/
  | prefixLengthExceedsMaximum (prefixLen maxBits : Nat)
  /-- "prefix length n must be greater than VPC prefix length m, except for an IPv4 /31" -/
  | prefixLengthNotGreater (prefixLen vpcPrefixLen : Nat)
  /-- "unable to represent the number of /n linknets in VPC prefix net" -/
  | linknetCountNotRepresentable (prefixLen : Nat) (vpcPrefix : IpNet)
  /-- "unable to represent a /n linknet address range" -/
  | linknetSizeNotRepresentable (prefixLen : Nat)
  /-- "VPC prefix id (net) has no available /n linknets" -/
  | resourceExhausted (vpcPrefixId : VpcPrefixId) (vpcPrefix : IpNet) (prefixLen : Nat)
  /-- "allocated linknet index i overflowed VPC prefix net" -/
  | linknetIndexOverflowed (freeIndex : Nat) (vpcPrefix : IpNet)
  /-- "unable to construct allocated linknet in VPC prefix net" -/
  | linknetNotConstructed (vpcPrefix : IpNet)
  deriving DecidableEq

/-- Whether a VPC prefix can contain an interface prefix: a longer one, or as an exception
an IPv4 /31 in itself. -/
def vpcPrefixCanAllocateInterfacePrefix (family : IpAddressFamily)
    (parentPrefixLen interfacePrefixLen : Nat) : Bool :=
  parentPrefixLen < interfacePrefixLen ||
    (family, parentPrefixLen, interfacePrefixLen) = (.ipv4, 31, 31)

/-- An allocator of child prefixes of one length. Its fields pass the checks of `new`. -/
structure PrefixAllocator where
  vpcPrefixId : VpcPrefixId
  vpcPrefix : IpNet
  lastUsedPrefix : Option IpNet
  prefixLen : Nat
  fits : prefixLen ≤ vpcPrefix.addressFamily.interfacePrefixLen
  allocatable : vpcPrefixCanAllocateInterfacePrefix vpcPrefix.addressFamily
    vpcPrefix.prefixLen prefixLen = true

/-- The first index of an inclusive range, from a candidate on, that no interval covers.
The intervals are sorted by their start. -/
def firstUnoccupiedFrom (rangeEnd : Nat) : List (Nat × Nat) → (candidate : Nat) → Option Nat
  | [], candidate => some candidate
  | (occupiedStart, occupiedEnd) :: rest, candidate =>
    if occupiedEnd < candidate then firstUnoccupiedFrom rangeEnd rest candidate
    else if candidate < occupiedStart then some candidate
    else
      -- the addition saturates
      let next := min (occupiedEnd + 1) (2 ^ 128 - 1)
      if rangeEnd < next then none else firstUnoccupiedFrom rangeEnd rest next

/-- The first unoccupied index in an inclusive search range. -/
def firstUnoccupiedIndex (occupied : List (Nat × Nat)) (rangeStart rangeEnd : Nat) :
    Option Nat :=
  if rangeEnd < rangeStart then none else firstUnoccupiedFrom rangeEnd occupied rangeStart

namespace PrefixAllocator

def new (vpcPrefixId : VpcPrefixId) (vpcPrefix : IpNet) (lastUsedPrefix : Option IpNet)
    (prefixLen : Nat) : Except CarbideError PrefixAllocator :=
  if fits : prefixLen ≤ vpcPrefix.addressFamily.interfacePrefixLen then
    if allocatable : vpcPrefixCanAllocateInterfacePrefix vpcPrefix.addressFamily
        vpcPrefix.prefixLen prefixLen = true then
      .ok { vpcPrefixId, vpcPrefix, lastUsedPrefix, prefixLen, fits, allocatable }
    else .error (.prefixLengthNotGreater prefixLen vpcPrefix.prefixLen)
  else .error (.prefixLengthExceedsMaximum prefixLen
    vpcPrefix.addressFamily.interfacePrefixLen)

/-- An address of the family from its number. An IPv4 number is cut to 32 bits. -/
def u128ToIp (value : Nat) : IpAddressFamily → IpAddr
  | .ipv4 => .v4 (BitVec.ofNat 32 value)
  | .ipv6 => .v6 (BitVec.ofNat 128 value)

/-- `1u128.checked_shl`. -/
def checkedShl (shift : Nat) : Option Nat := if shift < 128 then some (2 ^ shift) else none

/-- `checked_mul` and `checked_add` of 128-bit integers. -/
def checkedMul (left right : Nat) : Option Nat :=
  if left * right < 2 ^ 128 then some (left * right) else none

@[inherit_doc checkedMul]
def checkedAdd (left right : Nat) : Option Nat :=
  if left + right < 2 ^ 128 then some (left + right) else none

section Operations

variable [Ipnetwork]

variable (allocator : PrefixAllocator)

/-- The index behind the child with the last address of the cursor, cyclically. A cursor
of another family or outside the VPC prefix is not used. -/
def startIndex (linknetSize totalNetworkPossible : Nat) : Checked Nat :=
  let vpcStart := (Ipnetwork.network allocator.vpcPrefix).bits
  let vpcEnd := (Ipnetwork.broadcast allocator.vpcPrefix).bits
  match allocator.lastUsedPrefix with
  | none => .ok 0
  | some cursor =>
    let prefixEnd := (Ipnetwork.broadcast cursor).bits
    if cursor.addressFamily = allocator.vpcPrefix.addressFamily ∧
        vpcStart ≤ prefixEnd ∧ prefixEnd ≤ vpcEnd then do
      let offset ← Checked.sub prefixEnd vpcStart
      let next ← Checked.add 128 (offset / linknetSize) 1
      return next % totalNetworkPossible
    else .ok 0

/-- The first unoccupied index from the start on, and otherwise before it. -/
def freeIndex (occupied : List (Nat × Nat)) (start last : Nat) : Option Nat :=
  (firstUnoccupiedIndex occupied start last).or
    (if 1 ≤ start then firstUnoccupiedIndex occupied 0 (start - 1) else none)

def linknetAt (linknetSize index : Nat) : Except CarbideError IpNet :=
  match (checkedMul index linknetSize).bind
      (checkedAdd (Ipnetwork.network allocator.vpcPrefix).bits) with
  | none => .error (.linknetIndexOverflowed index allocator.vpcPrefix)
  | some address =>
    match IpNet.new (u128ToIp address allocator.vpcPrefix.addressFamily)
        allocator.prefixLen with
    | none => .error (.linknetNotConstructed allocator.vpcPrefix)
    | some net => .ok net

/-- The child prefix with a free index, if there is one. -/
def selected (linknetSize : Nat) : Option Nat → Except (Failure CarbideError) IpNet
  | none => .error (.error (.resourceExhausted allocator.vpcPrefixId allocator.vpcPrefix
      allocator.prefixLen))
  | some index => (allocator.linknetAt linknetSize index).mapError .error

def nextFreePrefix (tables : Tables) : Except (Failure CarbideError) IpNet := do
  let usedPrefixes := findAllocationOccupancy tables allocator.vpcPrefixId allocator.vpcPrefix
  let prefixDelta ← (Checked.sub allocator.prefixLen allocator.vpcPrefix.prefixLen).mapError
    .panic
  match checkedShl prefixDelta with
  | none => .error (.error (.linknetCountNotRepresentable allocator.prefixLen
      allocator.vpcPrefix))
  | some totalNetworkPossible =>
    let hostBits ← (Checked.sub allocator.vpcPrefix.addressFamily.interfacePrefixLen
      allocator.prefixLen).mapError .panic
    match checkedShl hostBits with
    | none => .error (.error (.linknetSizeNotRepresentable allocator.prefixLen))
    | some linknetSize =>
      let occupied ← (occupiedPrefixIntervals allocator.vpcPrefix allocator.prefixLen
        usedPrefixes).mapError .panic
      let start ← (allocator.startIndex linknetSize totalNetworkPossible).mapError .panic
      let last ← (Checked.sub totalNetworkPossible 1).mapError .panic
      allocator.selected linknetSize (freeIndex occupied start last)

end Operations

end PrefixAllocator

end ApiCore
