import BareMetalManager.Network.Prefix
import BareMetalManager.Lib.Reservation
import Mathlib.Data.Finset.Basic

/-!
# Addresses and prefixes of the Go libraries

What the IPAM of `rest-api/ipam` uses of `net/netip` and `go4.org/netipx`. Texts stay
abstract: the parsers accept many spellings of a prefix or an address, and printing gives one
that parses back. Sets of addresses behave as documented.
-/

namespace Ipam

open Network IpPrefix

/-- `netip.Addr`. -/
structure Addr where
  ip : IpAddr
  zone : Option String
  deriving DecidableEq

/-- `Prefix.Masked`. -/
def masked : IpNet → IpPrefix
  | .v4 net => .v4 ⟨net.clearHostBits, net.clearHostBits_canonical⟩
  | .v6 net => .v6 ⟨net.clearHostBits, net.clearHostBits_canonical⟩

def Inside (left right : IpPrefix) : Prop := ∀ addr ∈ left, addr ∈ right

def Overlaps (left right : IpPrefix) : Prop := ∃ addr, addr ∈ left ∧ addr ∈ right

/-- `IPSetBuilder` with one added prefix and removed ones: the addresses of the set. -/
def InSet (added : IpPrefix) (removed : Finset IpPrefix) (addr : IpAddr) : Prop :=
  addr ∈ added ∧ ∀ gone ∈ removed, addr ∉ gone

/-- The libraries over a type of texts. -/
class Netip (τ : Type) where
  empty : τ
  parsePrefix : τ → Option IpNet
  /-- `Prefix.String` of a masked prefix. -/
  prefixString : IpPrefix → τ
  parseAddr : τ → Option Addr
  addrString : Addr → τ
  /-- `IPSet.ContainsPrefix`. -/
  containsPrefix : (added : IpPrefix) → (removed : Finset IpPrefix) → IpPrefix → Bool
  /-- `IPSet.RemoveFreePrefix`. -/
  removeFreePrefix : (added : IpPrefix) → (removed : Finset IpPrefix) → (bitLen : Nat) →
    Option IpPrefix
  parsePrefix_empty : parsePrefix empty = none
  parsePrefix_prefixString : ∀ p, parsePrefix (prefixString p) = some p.intoInner
  parseAddr_addrString : ∀ addr, parseAddr (addrString addr) = some addr
  containsPrefix_iff : ∀ added removed p,
    containsPrefix added removed p = true ↔ ∀ addr ∈ p, InSet added removed addr
  removeFreePrefix_spec : ∀ {added removed bitLen p},
    removeFreePrefix added removed bitLen = some p →
      p.prefixLength = bitLen ∧ ∀ addr ∈ p, InSet added removed addr

open Netip

export Netip (parsePrefix prefixString parseAddr addrString)

/-! ## Prefixes -/

theorem masked_intoInner (p : IpPrefix) : masked p.intoInner = p := by
  cases p with
  | v4 p => exact congrArg v4 (Prefix.block_injective (Net.clearHostBits_block p.net))
  | v6 p => exact congrArg v6 (Prefix.block_injective (Net.clearHostBits_block p.net))

section Inside

variable {left right other : IpPrefix}

theorem inside_iff : Inside left right ↔
    left.addressFamily = right.addressFamily ∧ left.block ⊆ right.block :=
  forall_mem_iff

instance : Decidable (Inside left right) := decidable_of_iff _ inside_iff.symm

theorem overlaps_iff : Overlaps left right ↔ Inside left right ∨ Inside right left := by
  constructor
  · rintro ⟨addr, inLeft, inRight⟩
    have families : left.addressFamily = right.addressFamily := inLeft.1.symm.trans inRight.1
    obtain below | above := Dyadic.Block.subset_or_subset_of_mem inLeft.2 inRight.2
    · exact .inl (inside_iff.mpr ⟨families, below⟩)
    · exact .inr (inside_iff.mpr ⟨families.symm, above⟩)
  · rintro (below | above)
    · obtain ⟨addr, inLeft, -⟩ := left.exists_addr left.block.first_mem
      exact ⟨addr, inLeft, below addr inLeft⟩
    · obtain ⟨addr, inRight, -⟩ := right.exists_addr right.block.first_mem
      exact ⟨addr, above addr inRight, inRight⟩

instance : Decidable (Overlaps left right) := decidable_of_iff _ overlaps_iff.symm

theorem laminar_inside : Reservation.Laminar Inside where
  refl _ _ inLeft := inLeft
  trans first second addr inLeft := second addr (first addr inLeft)
  antisymm forward backward := by
    rw [inside_iff] at forward backward
    exact ext_block forward.1 (Dyadic.Block.Subset.antisymm forward.2 backward.2)
  nested := by
    intro a b c inA inB
    obtain ⟨addr, inC, -⟩ := c.exists_addr c.block.first_mem
    exact overlaps_iff.mp ⟨addr, inA addr inC, inB addr inC⟩

theorem apart_iff : Reservation.Apart Inside left right ↔ ¬Overlaps left right := by
  rw [overlaps_iff, not_or]
  rfl

theorem prefixLength_lt_of_inside (inside : Inside left right) (ne : left ≠ right) :
    right.prefixLength < left.prefixLength := by
  obtain ⟨families, subset⟩ := inside_iff.mp inside
  by_contra notLonger
  have leftLevel : left.block.level = _ := left.intoInner.level_eq
  have rightLevel : right.block.level = _ := right.intoInner.level_eq
  have sameWidth : left.intoInner.addressFamily.interfacePrefixLen =
      right.intoInner.addressFamily.interfacePrefixLen :=
    congrArg IpAddressFamily.interfacePrefixLen families
  have levels := Dyadic.Block.level_le_of_subset subset
  have sameLevel : left.block.level = right.block.level := by
    simp only [prefixLength] at notLonger
    omega
  apply ne (ext_block families ?_)
  exact Dyadic.Block.eq_of_level_eq sameLevel left.block.first_mem (subset _ left.block.first_mem)

end Inside

/-! ## Ranges -/

variable (p : IpPrefix)

/-- `RangeOfPrefix(p).From()`. -/
def rangeFrom : Addr := ⟨p.intoInner.addrAt p.block.first, none⟩

/-- `RangeOfPrefix(p).To()`. -/
def rangeTo : Addr := ⟨p.intoInner.addrAt p.block.last, none⟩

/-- `Prefix.Contains`: an address with a zone is in no prefix. -/
def containsAddr (addr : Addr) : Bool :=
  addr.zone.isNone && decide (addr.ip.addressFamily = p.addressFamily) &&
    decide (addr.ip.bits ∈ p.block)

variable {p}

theorem containsAddr_iff {addr : Addr} : containsAddr p addr ↔ addr.zone = none ∧ addr.ip ∈ p := by
  simp only [containsAddr, Bool.and_eq_true, Option.isNone_iff_eq_none, decide_eq_true_eq,
    mem_def, and_assoc]

theorem bits_addrAt {value : Nat} (inside : value ∈ p.block) :
    (p.intoInner.addrAt value).bits = value :=
  IpNet.addrAt_bits inside

theorem addrAt_mem {value : Nat} (inside : value ∈ p.block) : p.intoInner.addrAt value ∈ p :=
  ⟨IpNet.addrAt_family _ _, (bits_addrAt inside).symm ▸ inside⟩

theorem containsAddr_rangeFrom (p : IpPrefix) : containsAddr p (rangeFrom p) :=
  containsAddr_iff.mpr ⟨rfl, addrAt_mem p.block.first_mem⟩

theorem containsAddr_rangeTo (p : IpPrefix) : containsAddr p (rangeTo p) :=
  containsAddr_iff.mpr ⟨rfl, addrAt_mem p.block.last_mem⟩

theorem eq_rangeFrom_of_single (single : rangeFrom p = rangeTo p) {addr : Addr}
    (inside : containsAddr p addr) : addr = rangeFrom p := by
  obtain ⟨noZone, member⟩ := containsAddr_iff.mp inside
  have bounds : p.block.first ≤ addr.ip.bits ∧ addr.ip.bits ≤ p.block.last :=
    Dyadic.Block.mem_iff_bounds.mp member.2
  have ends : p.block.first = p.block.last := by
    have bits := congrArg (fun addr : Addr => addr.ip.bits) single
    simpa only [rangeFrom, rangeTo, bits_addrAt p.block.first_mem, bits_addrAt p.block.last_mem]
      using bits
  have sameIp : addr.ip = p.intoInner.addrAt p.block.first := by
    refine IpAddr.ext_bits (member.1.trans (IpNet.addrAt_family _ _).symm) ?_
    rw [bits_addrAt p.block.first_mem]
    omega
  obtain ⟨ip, zone⟩ := addr
  cases noZone
  exact congrArg (Addr.mk · none) sameIp

section Texts

variable {τ : Type} [Netip τ]

def parseMasked (cidr : τ) : Option IpPrefix := (parsePrefix cidr).map masked

theorem parseMasked_prefixString (p : IpPrefix) : parseMasked (prefixString p : τ) = some p := by
  rw [parseMasked, parsePrefix_prefixString, Option.map_some, masked_intoInner]

theorem parseMasked_empty : parseMasked (empty : τ) = none := by
  rw [parseMasked, parsePrefix_empty, Option.map_none]

theorem prefixString_injective : Function.Injective (prefixString : IpPrefix → τ) := by
  intro left right same
  have parsed := congrArg parsePrefix same
  rw [parsePrefix_prefixString, parsePrefix_prefixString] at parsed
  exact intoInner_injective (Option.some.inj parsed)

theorem addrString_injective : Function.Injective (addrString : Addr → τ) := by
  intro left right same
  have parsed := congrArg parseAddr same
  rw [parseAddr_addrString, parseAddr_addrString] at parsed
  exact Option.some.inj parsed

theorem prefixString_ne_empty (p : IpPrefix) : (prefixString p : τ) ≠ empty := by
  intro same
  have parsed := parsePrefix_prefixString (τ := τ) p
  rw [same, parsePrefix_empty] at parsed
  cases parsed

end Texts

/-! ## Parsed texts -/

/-- Texts as what they parse to, where each address set is searched from its first address. -/
inductive Spelling where
  | empty
  | net (spelled : IpNet)
  | addr (spelled : Addr)
  deriving DecidableEq

namespace Spelling

def parseNet : Spelling → Option IpNet
  | net spelled => some spelled
  | _ => none

def parseIP : Spelling → Option Addr
  | addr spelled => some spelled
  | _ => none

variable (added : IpPrefix) (removed : Finset IpPrefix)

def containsPrefix (p : IpPrefix) : Bool :=
  decide (Inside p added ∧ ∀ gone ∈ removed, ¬Overlaps p gone)

theorem containsPrefix_iff (p : IpPrefix) :
    containsPrefix added removed p = true ↔ ∀ addr ∈ p, InSet added removed addr := by
  rw [containsPrefix, decide_eq_true_eq]
  constructor
  · rintro ⟨inside, apart⟩ addr inP
    exact ⟨inside addr inP, fun gone goneMem inGone => apart gone goneMem ⟨addr, inP, inGone⟩⟩
  · intro inSet
    refine ⟨fun addr inP => (inSet addr inP).1, ?_⟩
    rintro gone goneMem ⟨addr, inP, inGone⟩
    exact (inSet addr inP).2 gone goneMem inGone

/-- The part of a prefix with a longer length and a number. -/
def part (bitLen number : Nat) : Option IpPrefix :=
  let size := 2 ^ (added.addressFamily.interfacePrefixLen - bitLen)
  (IpNet.new (added.intoInner.addrAt (added.block.first + number * size)) bitLen).map masked

def removeFreePrefix (bitLen : Nat) : Option IpPrefix :=
  (List.range (2 ^ (bitLen - added.prefixLength))).findSome? fun number =>
    (part added bitLen number).filter fun p =>
      p.prefixLength = bitLen ∧ containsPrefix added removed p

theorem removeFreePrefix_spec {added : IpPrefix} {removed : Finset IpPrefix} {bitLen : Nat}
    (found : removeFreePrefix added removed bitLen = some p) :
    p.prefixLength = bitLen ∧ ∀ addr ∈ p, InSet added removed addr := by
  obtain ⟨number, -, chosen⟩ := List.exists_of_findSome?_eq_some found
  obtain ⟨-, facts⟩ := Option.filter_eq_some_iff.mp chosen
  rwa [decide_eq_true_eq, containsPrefix_iff] at facts

instance : Netip Spelling where
  empty := empty
  parsePrefix := parseNet
  prefixString p := net p.intoInner
  parseAddr := parseIP
  addrString := addr
  containsPrefix := containsPrefix
  removeFreePrefix := removeFreePrefix
  parsePrefix_empty := rfl
  parsePrefix_prefixString _ := rfl
  parseAddr_addrString _ := rfl
  containsPrefix_iff := containsPrefix_iff
  removeFreePrefix_spec := removeFreePrefix_spec

def ipv4 (addr : BitVec 32) (prefixLen : Nat) : Spelling :=
  (IpNet.new (.v4 addr) prefixLen).elim empty net

end Spelling

end Ipam
