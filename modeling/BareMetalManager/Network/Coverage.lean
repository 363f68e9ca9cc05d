import BareMetalManager.Lib.Intervals
import BareMetalManager.Network.Net

/-!
# Lists of networks as sets of addresses

The containment test of the `ipnetwork` crate and the addresses that a list of networks
covers. The test compares the address of a network and not its first address, so it says
something about inclusion only as far as the bits after the prefix allow.
-/

namespace Network

open Dyadic Block

def IpNet.ip : IpNet → IpAddr
  | v4 net => .v4 net.addr
  | v6 net => .v6 net.addr

def IpNet.isIpv4 (net : IpNet) : Bool := net.addressFamily = .ipv4

namespace IpNet

theorem ip_mem (net : IpNet) : net.ip ∈ net := by
  cases net with
  | v4 net | v6 net => exact ⟨rfl, net.addr_mem⟩

section Subnet

variable [Ipnetwork]

/-- `is_subnet_of` of the networks of one family: the addresses are compared as written
and the broadcast addresses as computed. -/
def isSubnetOf (net other : IpNet) : Bool :=
  other.ip.bits ≤ net.ip.bits && (Ipnetwork.broadcast net).bits ≤ (Ipnetwork.broadcast other).bits

/-- `is_subnet_of` between networks of one family; networks of different families are not
contained in each other. -/
def subnetInFamily (parent child : IpNet) : Bool :=
  match parent, child with
  | v4 _, v4 _ => child.isSubnetOf parent
  | v6 _, v6 _ => child.isSubnetOf parent
  | _, _ => false

theorem subnetInFamily_iff {parent child : IpNet} :
    parent.subnetInFamily child = true ↔ child.addressFamily = parent.addressFamily ∧
      parent.ip.bits ≤ child.ip.bits ∧ child.block.last ≤ parent.block.last := by
  cases parent <;> cases child <;>
    simp [subnetInFamily, isSubnetOf, addressFamily, Ipnetwork.broadcast_bits]

theorem subnetInFamily_refl (net : IpNet) : net.subnetInFamily net = true :=
  subnetInFamily_iff.mpr ⟨rfl, le_rfl, le_rfl⟩

theorem subnetInFamily_trans {parent middle child : IpNet}
    (first : parent.subnetInFamily middle = true) (second : middle.subnetInFamily child = true) :
    parent.subnetInFamily child = true := by
  rw [subnetInFamily_iff] at first second ⊢
  exact ⟨second.1.trans first.1, first.2.1.trans second.2.1, second.2.2.trans first.2.2⟩

end Subnet

/-! ## Coverage -/

def Covers (networks : List IpNet) (addr : IpAddr) : Prop := ∃ net ∈ networks, addr ∈ net

def ranges (networks : List IpNet) (family : IpAddressFamily) : List (Nat × Nat) :=
  (networks.filter fun net => net.addressFamily = family).map
    fun net => (net.block.first, net.block.last)

variable {networks : List IpNet}

theorem covers_iff {addr : IpAddr} :
    Covers networks addr ↔ Intervals.Covers (ranges networks addr.addressFamily) addr.bits := by
  simp only [Covers, Intervals.Covers, ranges, List.mem_map, List.mem_filter, decide_eq_true_eq]
  constructor
  · rintro ⟨net, mem, family, inside⟩
    exact ⟨_, ⟨net, ⟨mem, family.symm⟩, rfl⟩, mem_iff_bounds.mp inside⟩
  · rintro ⟨_, ⟨net, ⟨mem, family⟩, rfl⟩, bounds⟩
    exact ⟨net, mem, family.symm, mem_iff_bounds.mpr bounds⟩

/-- No gap of the list begins inside a network before the address that it was written with: that
part of it is covered at its first address and at every address that follows the last one of a
network of the list. Without bits set after the prefix there is no such part. -/
def Gapless (networks : List IpNet) (net : IpNet) : Prop :=
  ∀ start ∈ net.block.first ::
      (ranges networks net.addressFamily).map (fun range => range.2 + 1),
    net.block.first ≤ start → start < net.ip.bits →
      Intervals.Covers (ranges networks net.addressFamily) start

instance (networks : List IpNet) (net : IpNet) : Decidable (Gapless networks net) :=
  have (intervals : List (Nat × Nat)) (index : Nat) :
      Decidable (Intervals.Covers intervals index) :=
    inferInstanceAs (Decidable (∃ interval ∈ intervals, interval.1 ≤ index ∧ index ≤ interval.2))
  inferInstanceAs (Decidable (∀ start ∈ _, _ → _ → _))

section Admitted

variable [Ipnetwork]

/-- Some network of the list has a network as a subnet, as `is_subnet_of` sees it. -/
def Admits (networks : List IpNet) (net : IpNet) : Prop :=
  ∃ allowed ∈ networks, allowed.subnetInFamily net = true

/-- An admitted network is covered from the address on that it was written with. -/
theorem Admits.covers {net : IpNet} (admits : Admits networks net) {value : Nat}
    (lower : net.ip.bits ≤ value) (upper : value ≤ net.block.last) :
    Intervals.Covers (ranges networks net.addressFamily) value := by
  obtain ⟨allowed, mem, subnet⟩ := admits
  obtain ⟨families, starts, ends⟩ := subnetInFamily_iff.mp subnet
  have inAllowed := mem_iff_bounds.mp allowed.ip_mem.2
  refine ⟨(allowed.block.first, allowed.block.last), ?_, ?_, ?_⟩
  · exact List.mem_map.mpr ⟨allowed, List.mem_filter.mpr ⟨mem, decide_eq_true families.symm⟩, rfl⟩
  · exact inAllowed.1.trans (starts.trans lower)
  · exact upper.trans ends

/-- The addresses of an admitted network are covered exactly when no gap begins before the
address that it was written with. -/
theorem Admits.forall_covers_iff {net : IpNet} (admits : Admits networks net) :
    (∀ addr ∈ net, Covers networks addr) ↔ Gapless networks net := by
  have ipLe := (mem_iff_bounds.mp net.ip_mem.2).2
  have inRange : (∀ addr ∈ net, Covers networks addr) ↔
      ∀ value, net.block.first ≤ value → value ≤ net.block.last →
        Intervals.Covers (ranges networks net.addressFamily) value := by
    constructor
    · intro covered value lower upper
      obtain ⟨addr, mem, rfl⟩ := exists_addr (mem_iff_bounds.mpr ⟨lower, upper⟩)
      have := covers_iff.mp (covered addr mem)
      rwa [mem.1] at this
    · intro covered addr mem
      obtain ⟨lower, upper⟩ := mem_iff_bounds.mp mem.2
      rw [covers_iff, mem.1]
      exact covered addr.bits lower upper
  rw [inRange, Intervals.forall_covers_iff]
  constructor
  · intro covered start mem lower upper
    exact covered start mem lower (by omega)
  · intro gapless start mem lower upper
    by_cases before : start < net.ip.bits
    · exact gapless start mem lower before
    · exact admits.covers (not_lt.mp before) upper

end Admitted

end IpNet

end Network
