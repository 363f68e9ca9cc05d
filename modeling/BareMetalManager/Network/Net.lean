import BareMetalManager.Lib.Dyadic
import Mathlib.Data.Prod.Lex

/-!
# Networks and addresses

Addresses and networks of both families, as the `ipnet` and `ipnetwork` crates
have them: a network is an address with a prefix length, and stands for the
dyadic block of the addresses that agree with it on the prefix.
-/

namespace Network

open Dyadic BitVec Block List

/-- A network of one family: an address with a prefix length. The address bits
after the prefix are arbitrary. -/
structure Net (w : Nat) where
  addr : BitVec w
  prefixLen : Nat
  prefixLen_le : prefixLen ≤ w
  deriving DecidableEq

variable {value : Nat}

namespace Net

variable {w : Nat}

/-- The addresses that agree with a network on its leading `prefixLen` bits. -/
def block (net : Net w) : Block :=
  ⟨w - net.prefixLen, net.addr.toNat / 2 ^ (w - net.prefixLen)⟩

instance : Membership (BitVec w) (Net w) where
  mem net addr := addr.toNat ∈ net.block

theorem mem_def {net : Net w} {addr : BitVec w} :
    addr ∈ net ↔ addr.toNat ∈ net.block := .rfl

/-- The bits after the prefix are all zero. -/
def Canonical (net : Net w) : Prop := net.addr.toNat % 2 ^ (w - net.prefixLen) = 0

instance (net : Net w) : Decidable net.Canonical := inferInstanceAs (Decidable (_ = _))

variable (net : Net w)

theorem addr_mem : net.addr ∈ net := rfl

theorem Canonical.addr_eq {net : Net w} (canonical : net.Canonical) :
    net.addr.toNat = net.block.first :=
  (Nat.div_mul_cancel (Nat.dvd_of_mod_eq_zero canonical)).symm

theorem last_lt : net.block.last < 2 ^ w := by
  have size : 2 ^ w = 2 ^ net.prefixLen * 2 ^ (w - net.prefixLen) := by
    rw [← pow_add, Nat.add_sub_cancel' net.prefixLen_le]
  have quotient : net.addr.toNat / 2 ^ (w - net.prefixLen) < 2 ^ net.prefixLen := by
    rw [Nat.div_lt_iff_lt_mul (Nat.two_pow_pos _), ← size]
    exact net.addr.isLt
  have bound := Nat.mul_le_mul_right (2 ^ (w - net.prefixLen)) (Nat.succ_le_of_lt quotient)
  have pos : 0 < 2 ^ (w - net.prefixLen) := Nat.two_pow_pos _
  simp only [last, first, block]
  rw [Nat.succ_mul] at bound
  omega

theorem lt_of_mem (mem : value ∈ net.block) : value < 2 ^ w :=
  Nat.lt_of_le_of_lt (mem_iff_bounds.mp mem).2 net.last_lt

/-- Inclusion of blocks is inclusion of the addresses of the networks. -/
theorem subset_iff {left right : Net w} :
    left.block ⊆ right.block ↔ ∀ addr : BitVec w, addr ∈ left → addr ∈ right := by
  constructor
  · intro subset addr mem
    exact subset _ mem
  · intro members value mem
    have small := left.lt_of_mem mem
    have result := members (.ofNat w value)
    simp only [mem_def, toNat_ofNat, Nat.mod_eq_of_lt small] at result
    exact result mem


def clearHostBits : Net w :=
  ⟨.ofNat w net.block.first, net.prefixLen, net.prefixLen_le⟩

theorem clearHostBits_toNat : net.clearHostBits.addr.toNat = net.block.first := by
  exact Nat.mod_eq_of_lt (net.lt_of_mem net.block.first_mem)

theorem clearHostBits_canonical : net.clearHostBits.Canonical := by
  rw [Canonical, clearHostBits_toNat]
  exact Nat.mul_mod_left _ _

theorem clearHostBits_block : net.clearHostBits.block = net.block := by
  have firsts := net.clearHostBits_toNat
  have aligned := net.clearHostBits_canonical.addr_eq
  refine eq_of_level_eq rfl net.clearHostBits.block.first_mem ?_
  rw [← aligned, firsts]
  exact net.block.first_mem

theorem toNat_one_shiftLeft {shift : Nat} (bound : shift < w) :
    (1#w <<< shift).toNat = 2 ^ shift := by
  have one : (1#w).toNat = 1 := by
    exact Nat.mod_eq_of_lt (Nat.one_lt_two_pow (by omega))
  rw [toNat_shiftLeft, one, Nat.shiftLeft_eq, Nat.one_mul]
  exact Nat.mod_eq_of_lt (Nat.pow_lt_pow_right (by omega) bound)

/-- The order of networks: by address, then by prefix length. -/
def key : Nat ×ₗ Nat := toLex (net.addr.toNat, net.prefixLen)

theorem key_injective : Function.Injective (key (w := w)) := by
  intro left right equality
  have pair := toLex.injective equality
  rw [Prod.mk.injEq] at pair
  obtain ⟨rightAddr, rightLen, rightLe⟩ := right
  obtain ⟨addrs, rfl⟩ := pair
  obtain rfl := eq_of_toNat_eq addrs
  rfl

end Net

/-! ## Both families -/

/-- The two address families, IPv4 before IPv6. -/
inductive IpAddressFamily where
  | ipv4
  | ipv6
  deriving DecidableEq, Repr

inductive IpAddr where
  | v4 (addr : BitVec 32)
  | v6 (addr : BitVec 128)
  deriving DecidableEq

inductive IpNet where
  | v4 (net : Net 32)
  | v6 (net : Net 128)
  deriving DecidableEq

/-- The prefix length of a single address. -/
def IpAddressFamily.interfacePrefixLen : IpAddressFamily → Nat
  | ipv4 => 32
  | ipv6 => 128

theorem IpAddressFamily.interfacePrefixLen_le (family : IpAddressFamily) :
    family.interfacePrefixLen ≤ 128 := by
  cases family <;> decide

namespace IpAddr

def addressFamily : IpAddr → IpAddressFamily
  | v4 _ => .ipv4
  | v6 _ => .ipv6

def bits : IpAddr → Nat
  | v4 addr => addr.toNat
  | v6 addr => addr.toNat

end IpAddr

variable {net : IpNet}

namespace IpNet

def addressFamily : IpNet → IpAddressFamily
  | v4 _ => .ipv4
  | v6 _ => .ipv6

def block : IpNet → Block
  | v4 net => net.block
  | v6 net => net.block

def prefixLen : IpNet → Nat
  | v4 net => net.prefixLen
  | v6 net => net.prefixLen

/-- The addresses of a network are those of its family inside its block. -/
instance : Membership IpAddr IpNet where
  mem net addr := addr.addressFamily = net.addressFamily ∧ addr.bits ∈ net.block

variable {addr : IpAddr}

theorem mem_def :
    addr ∈ net ↔ addr.addressFamily = net.addressFamily ∧ addr.bits ∈ net.block := .rfl

theorem exists_addr (mem : value ∈ net.block) : ∃ addr ∈ net, addr.bits = value := by
  cases net with
  | v4 net =>
    refine ⟨.v4 (.ofNat 32 value), ⟨rfl, ?_⟩, ?_⟩ <;>
      simp only [IpAddr.bits, toNat_ofNat, Nat.mod_eq_of_lt (net.lt_of_mem mem)]
    exact mem
  | v6 net =>
    refine ⟨.v6 (.ofNat 128 value), ⟨rfl, ?_⟩, ?_⟩ <;>
      simp only [IpAddr.bits, toNat_ofNat, Nat.mod_eq_of_lt (net.lt_of_mem mem)]
    exact mem

variable {left right : IpNet}

theorem forall_mem_iff :
    (∀ addr ∈ left, addr ∈ right) ↔
      left.addressFamily = right.addressFamily ∧ left.block ⊆ right.block := by
  constructor
  · intro members
    obtain ⟨addr, mem, -⟩ := exists_addr left.block.first_mem
    refine ⟨mem.1.symm.trans (members addr mem).1, ?_⟩
    intro value inLeft
    obtain ⟨addr, mem, rfl⟩ := exists_addr inLeft
    exact (members addr mem).2
  · rintro ⟨families, subset⟩ addr mem
    exact ⟨mem.1.trans families, subset _ mem.2⟩

/-- IPv4 networks come before IPv6 networks; within a family the order is by
address, then by prefix length. -/
def key : IpNet → Nat ×ₗ (Nat ×ₗ Nat)
  | v4 net => toLex (0, net.key)
  | v6 net => toLex (1, net.key)

theorem key_injective : Function.Injective key := by
  intro left right equality
  cases left <;> cases right <;>
    simp only [key, EmbeddingLike.apply_eq_iff_eq, Prod.mk.injEq] at equality
  case v4.v4 => exact congrArg v4 (Net.key_injective equality.2)
  case v6.v6 => exact congrArg v6 (Net.key_injective equality.2)
  all_goals omega

instance : LinearOrder IpNet := .lift' key key_injective

theorem prefixLen_le (net : IpNet) : net.prefixLen ≤ net.addressFamily.interfacePrefixLen := by
  cases net with
  | v4 net | v6 net => exact net.prefixLen_le

theorem level_eq (net : IpNet) :
    net.block.level = net.addressFamily.interfacePrefixLen - net.prefixLen := by
  cases net <;> rfl

theorem lt_of_mem (mem : value ∈ net.block) : value < 2 ^ 128 := by
  cases net with
  | v4 net =>
    refine Nat.lt_of_lt_of_le (net.lt_of_mem mem) ?_
    exact Nat.pow_le_pow_right (by decide) (by decide)
  | v6 net => exact net.lt_of_mem mem

theorem first_lt (net : IpNet) : net.block.first < 2 ^ 128 := lt_of_mem net.block.first_mem

/-- A network built from an address; too long a prefix is refused. -/
def new (addr : IpAddr) (prefixLen : Nat) : Option IpNet :=
  match addr with
  | .v4 addr => if bound : prefixLen ≤ 32 then some (v4 ⟨addr, prefixLen, bound⟩) else none
  | .v6 addr => if bound : prefixLen ≤ 128 then some (v6 ⟨addr, prefixLen, bound⟩) else none

def host : IpAddr → IpNet
  | .v4 addr => v4 ⟨addr, 32, Nat.le_refl 32⟩
  | .v6 addr => v6 ⟨addr, 128, Nat.le_refl 128⟩

theorem new_interfacePrefixLen (addr : IpAddr) :
    new addr addr.addressFamily.interfacePrefixLen = some (host addr) := by
  cases addr <;> rfl

@[simp] theorem host_addressFamily (addr : IpAddr) :
    (host addr).addressFamily = addr.addressFamily := by
  cases addr <;> rfl

@[simp] theorem host_block (addr : IpAddr) : (host addr).block = ⟨0, addr.bits⟩ := by
  cases addr <;> simp [host, block, Net.block, IpAddr.bits]

theorem mem_host {other : IpAddr} : other ∈ host addr ↔ other = addr := by
  rw [mem_def, host_addressFamily, host_block, Block.mem_def]
  cases addr <;> cases other <;>
    simp [IpAddr.addressFamily, IpAddr.bits, toNat_inj]

def Overlap (left right : IpNet) : Prop := ∃ addr, addr ∈ left ∧ addr ∈ right

theorem Overlap.symm (overlap : Overlap left right) : Overlap right left := by
  obtain ⟨addr, inLeft, inRight⟩ := overlap
  exact ⟨addr, inRight, inLeft⟩

/-- Overlapping networks are nested, so that the first address of one of them lies
in the other. -/
theorem overlap_iff :
    Overlap left right ↔ left.addressFamily = right.addressFamily ∧
      (left.block.first ∈ right.block ∨ right.block.first ∈ left.block) := by
  constructor
  · rintro ⟨addr, inLeft, inRight⟩
    refine ⟨inLeft.1.symm.trans inRight.1, ?_⟩
    rcases subset_or_subset_of_mem inLeft.2 inRight.2 with subset | subset
    · exact .inl (subset _ left.block.first_mem)
    · exact .inr (subset _ right.block.first_mem)
  · rintro ⟨families, inRight | inLeft⟩
    · obtain ⟨addr, mem, bitsEq⟩ := exists_addr left.block.first_mem
      exact ⟨addr, mem, mem.1.trans families, bitsEq ▸ inRight⟩
    · obtain ⟨addr, mem, bitsEq⟩ := exists_addr right.block.first_mem
      exact ⟨addr, ⟨mem.1.trans families.symm, bitsEq ▸ inLeft⟩, mem⟩

theorem overlap_iff_bounds :
    Overlap left right ↔ left.addressFamily = right.addressFamily ∧
      left.block.first ≤ right.block.last ∧ right.block.first ≤ left.block.last := by
  have leftRange := mem_iff_bounds.mp left.block.first_mem
  have rightRange := mem_iff_bounds.mp right.block.first_mem
  rw [overlap_iff, mem_iff_bounds, mem_iff_bounds]
  refine and_congr_right fun _ => ?_
  omega

theorem overlap_host : Overlap net (host addr) ↔ addr ∈ net := by
  constructor
  · rintro ⟨other, mem, isHost⟩
    rw [mem_host] at isHost
    exact isHost ▸ mem
  · intro mem
    exact ⟨addr, mem, mem_host.mpr rfl⟩

end IpNet

/-- The operations of the `ipnetwork` crate on networks of both families, with the
behaviour that its documentation gives them. -/
class Ipnetwork where
  network : IpNet → IpAddr
  broadcast : IpNet → IpAddr
  contains : IpNet → IpAddr → Bool
  iter : IpNet → List IpAddr
  /-- The network address is the first address of the network. -/
  network_family : ∀ net, (network net).addressFamily = net.addressFamily
  network_bits : ∀ net, (network net).bits = net.block.first
  /-- The broadcast address is the last address of the network. -/
  broadcast_family : ∀ net, (broadcast net).addressFamily = net.addressFamily
  broadcast_bits : ∀ net, (broadcast net).bits = net.block.last
  contains_iff : ∀ net addr, contains net addr = true ↔ addr ∈ net
  /-- The iterator yields all addresses of the network in ascending order. -/
  mem_iter : ∀ net addr, addr ∈ iter net ↔ addr ∈ net
  iter_sorted : ∀ net, (iter net).Pairwise fun left right => left.bits < right.bits

/-- The address of the family of a network with the given number. -/
def IpNet.addrAt : IpNet → Nat → IpAddr
  | v4 _, value => .v4 (.ofNat 32 value)
  | v6 _, value => .v6 (.ofNat 128 value)

theorem IpNet.addrAt_family (net : IpNet) (value : Nat) :
    (net.addrAt value).addressFamily = net.addressFamily := by
  cases net <;> rfl

theorem IpNet.addrAt_bits (mem : value ∈ net.block) : (net.addrAt value).bits = value := by
  cases net with
  | v4 net | v6 net =>
    exact Nat.mod_eq_of_lt (net.lt_of_mem mem)

theorem IpAddr.ext_bits {left right : IpAddr}
    (families : left.addressFamily = right.addressFamily) (bits : left.bits = right.bits) :
    left = right := by
  cases left <;> cases right
  case v4.v4 => exact congrArg IpAddr.v4 (eq_of_toNat_eq bits)
  case v6.v6 => exact congrArg IpAddr.v6 (eq_of_toNat_eq bits)
  all_goals cases families

namespace IpNet

theorem first_add_mem {offset : Nat} (bound : offset < 2 ^ net.block.level) :
    net.block.first + offset ∈ net.block := by
  rw [mem_iff_bounds, last]
  omega

theorem mem_map_addrAt (net : IpNet) (addr : IpAddr) :
    addr ∈ (range (2 ^ net.block.level)).map
        (fun offset => net.addrAt (net.block.first + offset)) ↔ addr ∈ net := by
  simp only [mem_map, mem_range]
  constructor
  · rintro ⟨offset, bound, rfl⟩
    refine ⟨net.addrAt_family _, ?_⟩
    rw [addrAt_bits (first_add_mem bound)]
    exact first_add_mem bound
  · rintro ⟨family, mem⟩
    have bounds := mem_iff_bounds.mp mem
    have pos : 0 < 2 ^ net.block.level := Nat.two_pow_pos _
    simp only [last] at bounds
    refine ⟨addr.bits - net.block.first, by omega, ?_⟩
    rw [Nat.add_sub_cancel' bounds.1]
    exact IpAddr.ext_bits ((net.addrAt_family _).trans family.symm) (addrAt_bits mem)

theorem pairwise_map_addrAt (net : IpNet) :
    ((range (2 ^ net.block.level)).map
      (fun offset => net.addrAt (net.block.first + offset))).Pairwise
        (fun left right => left.bits < right.bits) := by
  refine pairwise_map.mpr ?_
  refine .imp_of_mem ?_ (pairwise_lt_range (n := 2 ^ net.block.level))
  intro left right leftIn rightIn less
  rw [mem_range] at leftIn rightIn
  rw [addrAt_bits (first_add_mem leftIn), addrAt_bits (first_add_mem rightIn)]
  omega

end IpNet

/-- The crate's operations computed from the blocks of the networks. -/
@[reducible] def Ipnetwork.reference : Ipnetwork where
  network net := net.addrAt net.block.first
  broadcast net := net.addrAt net.block.last
  contains net addr :=
    decide (addr.addressFamily = net.addressFamily) && decide (addr.bits ∈ net.block)
  iter net :=
    (range (2 ^ net.block.level)).map fun offset => net.addrAt (net.block.first + offset)
  network_family net := net.addrAt_family _
  network_bits net := IpNet.addrAt_bits net.block.first_mem
  broadcast_family net := net.addrAt_family _
  broadcast_bits net := IpNet.addrAt_bits net.block.last_mem
  contains_iff net addr := by simp [IpNet.mem_def]
  mem_iter := IpNet.mem_map_addrAt
  iter_sorted := IpNet.pairwise_map_addrAt

end Network
