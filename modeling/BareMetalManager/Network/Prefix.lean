import BareMetalManager.Lib.Checked
import BareMetalManager.Network.Net

/-!
# IP prefixes

The prefix types of `crates/network/src/ip/prefix.rs`. The source has the same code at widths 32
and 128; here `Prefix w` is that code at any width, and `Ipv4Prefix` and `Ipv6Prefix` are its two
instances. Networks come from the `ipnet` crate, whose documented behaviour is the class `Ipnet`.

Every network stands for a dyadic block of addresses. The lemmas below say what each operation
does to that block, so that later proofs never look at bits.
-/

namespace Network

open Dyadic Block BitVec

variable (w : Nat)

/-- The operations of the `ipnet` crate that prefixes are built on, with the
behaviour that its documentation gives them. -/
class Ipnet where
  contains : Net w → Net w → Bool
  broadcast : Net w → BitVec w
  supernet : Net w → Option (Net w)
  trunc : Net w → Net w
  /-- A network contains another when all the addresses of the other are its own. -/
  contains_iff : ∀ net other,
    contains net other = true ↔ ∀ addr : BitVec w, addr ∈ other → addr ∈ net
  broadcast_eq : ∀ net, (broadcast net).toNat = net.block.last
  supernet_zero : ∀ net : Net w, net.prefixLen = 0 → supernet net = none
  /-- The supernet is the truncated network of the next shorter length. -/
  supernet_succ : ∀ (net : Net w) (n : Nat), net.prefixLen = n + 1 →
    ∃ super, supernet net = some super ∧ super.prefixLen = n ∧ super.Canonical ∧
      net.addr ∈ super
  trunc_canonical : ∀ net, (trunc net).Canonical
  trunc_block : ∀ net, (trunc net).block = net.block

/-- The crate's operations computed from the blocks of the networks. -/
@[reducible] def Ipnet.reference : Ipnet w where
  contains net other := decide (other.block ⊆ net.block)
  broadcast net := .ofNat w net.block.last
  supernet net :=
    match lenEq : net.prefixLen with
    | 0 => none
    | n + 1 => some (.clearHostBits ⟨net.addr, n, by have := net.prefixLen_le; omega⟩)
  trunc := .clearHostBits
  contains_iff net other := by
    rw [decide_eq_true_eq]
    exact Net.subset_iff
  broadcast_eq net := by
    rw [toNat_ofNat, Nat.mod_eq_of_lt net.last_lt]
  supernet_zero net zero := by
    split
    · rfl
    · omega
  supernet_succ net n succ := by
    split
    · omega
    next m lenEq =>
      obtain rfl : m = n := by omega
      refine ⟨_, rfl, rfl, Net.clearHostBits_canonical _, ?_⟩
      rw [Net.mem_def, Net.clearHostBits_block]
      exact mem_def.mpr rfl
  trunc_canonical := Net.clearHostBits_canonical
  trunc_block := Net.clearHostBits_block

/-- An IP prefix: a network whose bits after the prefix are zero. -/
structure Prefix where
  net : Net w
  canonical : net.Canonical

open Prefix

instance : DecidableEq (Prefix w) := fun left right =>
  decidable_of_iff (left.net = right.net) <| by
    cases left
    cases right
    simp

namespace Prefix

variable {w}

variable (p : Prefix w)

def block : Block := p.net.block

theorem addr_eq_first : p.net.addr.toNat = p.block.first :=
  p.canonical.addr_eq

theorem level_eq : p.block.level = w - p.net.prefixLen := rfl

variable {left right : Prefix w}

theorem block_injective (equality : left.block = right.block) :
    left = right := by
  have levels := congrArg level equality
  have firsts := congrArg first equality
  rw [← addr_eq_first, ← addr_eq_first] at firsts
  rw [level_eq, level_eq] at levels
  obtain ⟨⟨leftAddr, leftLen, leftLe⟩, leftCanonical⟩ := left
  obtain ⟨⟨rightAddr, rightLen, rightLe⟩, rightCanonical⟩ := right
  simp only at levels firsts
  have lengths : leftLen = rightLen := by omega
  have addrs : leftAddr = rightAddr := eq_of_toNat_eq firsts
  subst lengths
  subst addrs
  rfl

theorem key_le_iff :
    left.net.key ≤ right.net.key ↔ left.block.first < right.block.first ∨
      left.block.first = right.block.first ∧ right.block.level ≤ left.block.level := by
  have leftLe := left.net.prefixLen_le
  rw [Net.key, Net.key, Prod.Lex.toLex_le_toLex]
  simp only [addr_eq_first, level_eq]
  omega

/-! ## Operations -/

section Bits

variable {addr : BitVec w} {shift : Nat} (bound : shift < w)
include bound

theorem toNat_high_shiftRight :
    (twoPow w (w - 1) >>> shift).toNat = 2 ^ (w - 1 - shift) := by
  rw [toNat_ushiftRight, toNat_twoPow_of_lt (by omega),
    Nat.shiftRight_eq_div_pow, Nat.pow_div (by omega) (by omega)]

theorem xor_bit_mod (aligned : addr.toNat % 2 ^ shift = 0) :
    (addr ^^^ 1#w <<< shift).toNat % 2 ^ shift = 0 := by
  rw [toNat_xor, Net.toNat_one_shiftLeft bound, Nat.xor_mod_two_pow, aligned]
  simp

theorem xor_bit_div :
    (addr ^^^ 1#w <<< shift).toNat / 2 ^ shift = (addr.toNat / 2 ^ shift) ^^^ 1 := by
  rw [toNat_xor, Net.toNat_one_shiftLeft bound, ← Nat.shiftRight_eq_div_pow,
    Nat.shiftRight_xor_distrib, Nat.shiftRight_eq_div_pow, Nat.shiftRight_eq_div_pow,
    Nat.div_self (Nat.two_pow_pos _)]

theorem or_bit_mod (aligned : addr.toNat % 2 ^ (w - 1 - shift) = 0) :
    (addr ||| twoPow w (w - 1) >>> shift).toNat % 2 ^ (w - 1 - shift) = 0 := by
  rw [toNat_or, toNat_high_shiftRight bound, Nat.or_mod_two_pow, aligned]
  simp

/-- Setting a clear bit is the same as flipping it. -/
theorem or_bit_div (clear : addr.toNat / 2 ^ (w - 1 - shift) % 2 = 0) :
    (addr ||| twoPow w (w - 1) >>> shift).toNat / 2 ^ (w - 1 - shift) =
      (addr.toNat / 2 ^ (w - 1 - shift)) ^^^ 1 := by
  rw [toNat_or, toNat_high_shiftRight bound, ← Nat.shiftRight_eq_div_pow,
    Nat.shiftRight_or_distrib, Nat.shiftRight_eq_div_pow, Nat.shiftRight_eq_div_pow,
    Nat.div_self (Nat.two_pow_pos _)]
  obtain ⟨half, halfEq⟩ := Nat.dvd_of_mod_eq_zero clear
  rw [halfEq, ← Nat.two_pow_add_eq_or_of_lt (i := 1) (by omega : 1 < 2 ^ 1)]
  apply Nat.eq_of_testBit_eq
  intro bit
  cases bit with
  | zero => simp
  | succ bit => simp [Nat.testBit_succ]

end Bits

/-- Flip the last bit of the prefix. The prefix of length zero has no sibling. -/
def getSibling (p : Prefix w) : Checked (Option (Prefix w)) :=
  if zero : p.net.prefixLen = 0 then .ok none
  else if bound : p.net.prefixLen ≤ w then
    .ok (some {
      net := ⟨p.net.addr ^^^ 1#w <<< (w - p.net.prefixLen), p.net.prefixLen, bound⟩
      canonical := xor_bit_mod (by omega) p.canonical })
  else .error .unreachable

variable {p}

theorem getSibling_zero (zero : p.net.prefixLen = 0) :
    p.getSibling = .ok none := dif_pos zero

theorem getSibling_pos (pos : 0 < p.net.prefixLen) :
    ∃ sibling, p.getSibling = .ok (some sibling) ∧
      sibling.block = p.block.sibling := by
  have bound := p.net.prefixLen_le
  refine ⟨_, (dif_neg (by omega)).trans (dif_pos bound), ?_⟩
  simp only [block, Net.block, sibling, xor_bit_div (by omega : w - p.net.prefixLen < w)]

variable {other : Prefix w}

/-- The block next to the whole address space lies outside it. -/
theorem block_ne_sibling_of_zero (zero : p.net.prefixLen = 0) : other.block ≠ p.block.sibling := by
  intro blocks
  have index : p.block.index = 0 := by
    simp only [block, Net.block, zero]
    exact Nat.div_eq_of_lt p.net.addr.isLt
  have first : p.block.sibling.first = 2 ^ w := by
    simp only [sibling, first, index, level_eq, zero, Nat.sub_zero, Nat.zero_xor, Nat.one_mul]
  have small := other.net.lt_of_mem other.block.first_mem
  rw [blocks, first] at small
  exact lt_irrefl _ small

/-- Split a prefix into its even and odd halves. A single address has none. -/
def bifurcate (p : Prefix w) : Option (Prefix w × Prefix w) :=
  if bound : p.net.prefixLen < w then
    some
      ({ net := ⟨p.net.addr, p.net.prefixLen + 1, bound⟩
         canonical := halfAligned p bound },
       { net := ⟨p.net.addr ||| twoPow w (w - 1) >>> p.net.prefixLen,
           p.net.prefixLen + 1, bound⟩
         canonical := oddAligned p bound })
  else none
where
  halfAligned (p : Prefix w) (bound : p.net.prefixLen < w) :
      p.net.addr.toNat % 2 ^ (w - (p.net.prefixLen + 1)) = 0 := by
    have step : w - p.net.prefixLen = w - (p.net.prefixLen + 1) + 1 := by omega
    have aligned : p.net.addr.toNat % 2 ^ (w - p.net.prefixLen) = 0 := p.canonical
    rw [step, pow_succ] at aligned
    exact Nat.mod_eq_zero_of_dvd
      (dvd_of_mul_right_dvd (Nat.dvd_of_mod_eq_zero aligned))
  oddAligned (p : Prefix w) (bound : p.net.prefixLen < w) :
      (p.net.addr ||| twoPow w (w - 1) >>> p.net.prefixLen).toNat %
        2 ^ (w - (p.net.prefixLen + 1)) = 0 := by
    have aligned := halfAligned p bound
    have step : w - (p.net.prefixLen + 1) = w - 1 - p.net.prefixLen := by omega
    rw [step] at aligned ⊢
    exact or_bit_mod bound aligned

/-- The halves are siblings whose parent is the prefix, and each is one longer. -/
theorem bifurcate_lt (shorter : p.net.prefixLen < w) :
    ∃ even odd, p.bifurcate = some (even, odd) ∧
      even.block.parent = p.block ∧ odd.block = even.block.sibling ∧
      even.net.prefixLen = p.net.prefixLen + 1 ∧
      odd.net.prefixLen = p.net.prefixLen + 1 := by
  have step : w - p.net.prefixLen = w - 1 - p.net.prefixLen + 1 := by omega
  have halfStep : w - (p.net.prefixLen + 1) = w - 1 - p.net.prefixLen := by omega
  have aligned : p.net.addr.toNat % 2 ^ (w - p.net.prefixLen) = 0 := p.canonical
  rw [step, pow_succ] at aligned
  have clear : p.net.addr.toNat / 2 ^ (w - 1 - p.net.prefixLen) % 2 = 0 := by
    obtain ⟨half, halfEq⟩ := Nat.dvd_of_mod_eq_zero aligned
    rw [halfEq, Nat.mul_assoc, Nat.mul_div_cancel_left _ (Nat.two_pow_pos _)]
    exact Nat.mul_mod_right 2 half
  refine ⟨_, _, dif_pos shorter, ?_, ?_, rfl, rfl⟩
  · simp only [block, Net.block, parent, halfStep, step, pow_succ, Nat.div_div_eq_div_mul]
  · simp only [block, Net.block, sibling, halfStep, or_bit_div shorter clear]

/-- Only a prefix with more than one address has halves, and they are smaller. -/
theorem level_of_bifurcate {even odd : Prefix w} (split : p.bifurcate = some (even, odd)) :
    even.block.level < p.block.level ∧ odd.block.level < p.block.level := by
  by_cases shorter : p.net.prefixLen < w
  · obtain ⟨even', odd', splitEq, -, -, evenLen, oddLen⟩ := bifurcate_lt shorter
    rw [split] at splitEq
    cases splitEq
    simp only [level_eq, evenLen, oddLen]
    omega
  · rw [bifurcate, dif_neg shorter] at split
    cases split

def ofAddr (addr : BitVec w) : Prefix w where
  net := ⟨addr, w, Nat.le_refl w⟩
  canonical := by simp [Net.Canonical, Nat.mod_one]

theorem ofAddr_block (addr : BitVec w) : (ofAddr addr).block = ⟨0, addr.toNat⟩ := by
  simp [block, Net.block, ofAddr]

variable [Ipnet w]

/-- Whether every address of `other` belongs to the prefix. -/
def contains (p other : Prefix w) : Bool := Ipnet.contains p.net other.net

theorem contains_iff : p.contains other = true ↔ other.block ⊆ p.block :=
  (Ipnet.contains_iff p.net other.net).trans Net.subset_iff.symm

/-- The last and smallest sub-prefix: the broadcast address as a host prefix. -/
def getLastSubPrefix (p : Prefix w) : Prefix w := ofAddr (Ipnet.broadcast p.net)

def ofNet (net : Net w) : Prefix w := ⟨Ipnet.trunc net, Ipnet.trunc_canonical net⟩

def supernet (p : Prefix w) : Option (Prefix w) :=
  match superEq : Ipnet.supernet p.net with
  | none => none
  | some super => some ⟨super, supernetCanonical superEq⟩
where
  supernetCanonical {p : Prefix w} {super : Net w}
      (superEq : Ipnet.supernet p.net = some super) : super.Canonical := by
    rcases Nat.eq_zero_or_eq_succ_pred p.net.prefixLen with zero | succ
    · rw [Ipnet.supernet_zero _ zero] at superEq
      cases superEq
    · obtain ⟨other, otherEq, -, canonical, -⟩ := Ipnet.supernet_succ _ _ succ
      rw [superEq] at otherEq
      cases otherEq
      exact canonical

theorem supernet_pos (pos : 0 < p.net.prefixLen) :
    ∃ super, p.supernet = some super ∧ super.block = p.block.parent := by
  obtain ⟨n, lenEq⟩ := Nat.exists_eq_add_of_lt pos
  obtain ⟨net, netEq, netLen, canonical, mem⟩ :=
    Ipnet.supernet_succ p.net n (by omega)
  have bound := p.net.prefixLen_le
  have superEq : p.supernet = some ⟨net, canonical⟩ := by
    unfold supernet
    split
    next noneEq =>
      rw [netEq] at noneEq
      cases noneEq
    next other someEq =>
      rw [netEq] at someEq
      cases someEq
      rfl
  refine ⟨_, superEq, eq_of_level_eq ?_ mem (subset_parent _ _ p.net.addr_mem)⟩
  simp only [block, Net.block, parent]
  omega

/-- Merge two prefixes when one contains the other or when they have one supernet. -/
def tryAggregate (p other : Prefix w) : Option (Prefix w) :=
  if p.contains other then some p
  else if other.contains p then some other
  else
    match p.supernet, other.supernet with
    | some super1, some super2 => if super1 = super2 then some super1 else none
    | _, _ => none

theorem tryAggregate_sibling (pos : 0 < p.net.prefixLen)
    (siblings : other.block = p.block.sibling) :
    ∃ merged, p.tryAggregate other = some merged ∧ merged.block = p.block.parent := by
  have bound := p.net.prefixLen_le
  have otherPositive : 0 < other.net.prefixLen := by
    have levels := congrArg level siblings
    simp only [level_eq, sibling] at levels
    omega
  have apart : ¬ p.contains other = true := by
    rw [contains_iff, siblings]
    intro subset
    exact not_mem_sibling (subset _ p.block.sibling.first_mem)
      p.block.sibling.first_mem
  have apart' : ¬ other.contains p = true := by
    rw [contains_iff, siblings]
    intro subset
    exact not_mem_sibling p.block.first_mem (subset _ p.block.first_mem)
  obtain ⟨super, superEq, superBlock⟩ := supernet_pos pos
  obtain ⟨otherSuper, otherSuperEq, otherSuperBlock⟩ := supernet_pos otherPositive
  rw [siblings, parent_sibling] at otherSuperBlock
  obtain rfl : super = otherSuper := block_injective (superBlock.trans otherSuperBlock.symm)
  exact ⟨super, by simp [tryAggregate, apart, apart', superEq, otherSuperEq], superBlock⟩

end Prefix

/-! ## Both families -/

inductive IpPrefix where
  | v4 (p : Prefix 32)
  | v6 (p : Prefix 128)
  deriving DecidableEq

variable {addr : IpAddr}

namespace IpPrefix

def intoInner : IpPrefix → IpNet
  | v4 p => .v4 p.net
  | v6 p => .v6 p.net

def addressFamily (p : IpPrefix) : IpAddressFamily := p.intoInner.addressFamily

def block (p : IpPrefix) : Block := p.intoInner.block

@[simp] theorem block_v4 (p : Prefix 32) : (v4 p).block = p.block := rfl

@[simp] theorem block_v6 (p : Prefix 128) : (v6 p).block = p.block := rfl

@[simp] theorem addressFamily_v4 (p : Prefix 32) : (v4 p).addressFamily = .ipv4 := rfl

@[simp] theorem addressFamily_v6 (p : Prefix 128) : (v6 p).addressFamily = .ipv6 := rfl

def prefixLength (p : IpPrefix) : Nat := p.intoInner.prefixLen

instance : Membership IpAddr IpPrefix where
  mem p addr := addr ∈ p.intoInner

variable {p left right other : IpPrefix}

theorem mem_def :
    addr ∈ p ↔ addr.addressFamily = p.addressFamily ∧ addr.bits ∈ p.block := .rfl

theorem ext_block (families : left.addressFamily = right.addressFamily)
    (blocks : left.block = right.block) : left = right := by
  cases left <;> cases right
  case v4.v4 | v6.v6 => exact congrArg _ (block_injective blocks)
  all_goals cases families

theorem exists_addr {value : Nat} (mem : value ∈ p.block) :
    ∃ addr ∈ p, addr.bits = value := IpNet.exists_addr mem

theorem forall_mem_iff :
    (∀ addr ∈ left, addr ∈ right) ↔
      left.addressFamily = right.addressFamily ∧ left.block ⊆ right.block :=
  IpNet.forall_mem_iff

/-! ### Order -/

theorem intoInner_injective : Function.Injective intoInner := by
  intro left right equality
  refine ext_block (congrArg IpNet.addressFamily equality) (congrArg IpNet.block equality)

instance : LinearOrder IpPrefix := .lift' intoInner intoInner_injective

theorem le_def :
    left ≤ right ↔ left.intoInner.key ≤ right.intoInner.key := .rfl

/-- Within a family the order is by first address, then by decreasing size. -/
theorem le_iff_block (families : left.addressFamily = right.addressFamily) :
    left ≤ right ↔ left.block.first < right.block.first ∨
      left.block.first = right.block.first ∧ right.block.level ≤ left.block.level := by
  cases left <;> cases right
  case v4.v4 | v6.v6 =>
    rw [le_def, intoInner, intoInner, IpNet.key, IpNet.key, Prod.Lex.toLex_le_toLex]
    simpa using key_le_iff
  all_goals cases families

theorem family_of_le_of_le {low middle high : IpPrefix} (lower : low ≤ middle)
    (upper : middle ≤ high) (families : low.addressFamily = high.addressFamily) :
    middle.addressFamily = low.addressFamily := by
  cases low <;> cases middle <;> cases high <;>
    simp_all [addressFamily, IpNet.addressFamily, intoInner, le_def, IpNet.key,
      Prod.Lex.toLex_le_toLex]

/-! ### Operations -/

def getSibling : IpPrefix → Checked (Option IpPrefix)
  | v4 p => return (← p.getSibling).map v4
  | v6 p => return (← p.getSibling).map v6

def bifurcate : IpPrefix → Option (IpPrefix × IpPrefix)
  | v4 p => p.bifurcate.map fun (even, odd) => (v4 even, v4 odd)
  | v6 p => p.bifurcate.map fun (even, odd) => (v6 even, v6 odd)

/-- The sibling exists for every prefix but the whole address space. -/
theorem getSibling_cases (p : IpPrefix) :
    p.prefixLength = 0 ∧ p.getSibling = .ok none ∨
      0 < p.prefixLength ∧ ∃ sibling, p.getSibling = .ok (some sibling) ∧
        sibling.addressFamily = p.addressFamily ∧ sibling.block = p.block.sibling := by
  cases p with
  | v4 p | v6 p =>
    rcases Nat.eq_zero_or_pos p.net.prefixLen with zero | pos
    · exact .inl ⟨zero, by rw [getSibling, getSibling_zero zero]; rfl⟩
    · obtain ⟨sibling, siblingEq, blockEq⟩ := getSibling_pos pos
      rw [getSibling, siblingEq]
      exact .inr ⟨pos, _, rfl, rfl, blockEq⟩

variable {sibling : IpPrefix}

/-- The sibling is the prefix of the same family with the sibling block. -/
theorem getSibling_eq_some_iff :
    p.getSibling = .ok (some sibling) ↔
      sibling.addressFamily = p.addressFamily ∧ sibling.block = p.block.sibling := by
  rcases getSibling_cases p with ⟨zero, noSibling⟩ | ⟨-, other, otherEq, families, blocks⟩
  · rw [noSibling]
    constructor
    · nofun
    rintro ⟨families, blocks⟩
    cases p <;> cases sibling
    case v4.v4 | v6.v6 => exact absurd blocks (block_ne_sibling_of_zero zero)
    all_goals cases families
  · rw [otherEq]
    constructor
    · intro equality
      cases equality
      exact ⟨families, blocks⟩
    · rintro ⟨families', blocks'⟩
      rw [ext_block (families.trans families'.symm) (blocks.trans blocks'.symm)]

variable {even odd : IpPrefix}

theorem level_of_bifurcate (split : p.bifurcate = some (even, odd)) :
    even.block.level < p.block.level ∧ odd.block.level < p.block.level := by
  cases p with
  | v4 | v6 =>
    obtain ⟨⟨even, odd⟩, splitEq, equality⟩ := Option.map_eq_some_iff.mp split
    cases equality
    exact level_of_bifurcate splitEq

theorem bifurcate_of_level_pos (pos : 0 < p.block.level) :
    ∃ even odd, p.bifurcate = some (even, odd) ∧
      even.addressFamily = p.addressFamily ∧ odd.addressFamily = p.addressFamily ∧
      even.block.parent = p.block ∧ odd.block = even.block.sibling := by
  cases p with
  | v4 | v6 =>
    simp only [block_v4, block_v6, level_eq] at pos
    obtain ⟨even, odd, splitEq, parentEq, siblingEq, -, -⟩ :=
      bifurcate_lt (Nat.sub_pos_iff_lt.mp pos)
    rw [bifurcate, splitEq]
    exact ⟨_, _, rfl, rfl, rfl, parentEq, siblingEq⟩

/-- The halves of a prefix are siblings that share its addresses out. -/
theorem bifurcate_eq_some (split : p.bifurcate = some (even, odd)) :
    even.getSibling = .ok (some odd) ∧ ∀ addr, addr ∈ p ↔ addr ∈ even ∨ addr ∈ odd := by
  have levels := level_of_bifurcate split
  obtain ⟨even', odd', splitEq, evenFamily, oddFamily, parentEq, siblingEq⟩ :=
    bifurcate_of_level_pos (p := p) (by omega)
  rw [split] at splitEq
  cases splitEq
  refine ⟨getSibling_eq_some_iff.mpr ⟨oddFamily.trans evenFamily.symm, siblingEq⟩, ?_⟩
  intro addr
  simp only [mem_def, ← parentEq, mem_parent, evenFamily, oddFamily, siblingEq, ← and_or_left]

theorem not_mem_of_getSibling (siblings : p.getSibling = .ok (some sibling)) (mem : addr ∈ p) :
    addr ∉ sibling := by
  intro inSibling
  have blockEq := (getSibling_eq_some_iff.mp siblings).2
  exact not_mem_sibling mem.2 (blockEq ▸ inSibling.2)

variable [Ipnet 32] [Ipnet 128]

def contains : IpPrefix → IpPrefix → Bool
  | v4 p, v4 other => p.contains other
  | v6 p, v6 other => p.contains other
  | _, _ => false

def getLastSubPrefix : IpPrefix → IpPrefix
  | v4 p => v4 p.getLastSubPrefix
  | v6 p => v6 p.getLastSubPrefix

def tryAggregate : IpPrefix → IpPrefix → Option IpPrefix
  | v4 p, v4 other => (p.tryAggregate other).map v4
  | v6 p, v6 other => (p.tryAggregate other).map v6
  | _, _ => none

theorem contains_iff :
    p.contains other = true ↔
      other.addressFamily = p.addressFamily ∧ other.block ⊆ p.block := by
  cases p <;> cases other <;>
    simp [contains, contains_iff]

theorem contains_iff_forall_mem : p.contains other = true ↔ ∀ addr ∈ other, addr ∈ p :=
  contains_iff.trans forall_mem_iff.symm

/-- A prefix strictly inside another lies in one of its halves. -/
theorem bifurcate_contains (containment : p.contains other = true) (ne : p ≠ other) :
    ∃ even odd, p.bifurcate = some (even, odd) ∧
      (even.contains other = true ∨ odd.contains other = true) := by
  obtain ⟨families, subset⟩ := contains_iff.mp containment
  have blockNe : other.block ≠ p.block := fun equality =>
    ne (ext_block families equality).symm
  have levels := level_le_of_subset (parent_subset subset blockNe)
  simp only [parent] at levels
  obtain ⟨even, odd, splitEq, evenFamily, oddFamily, parentEq, siblingEq⟩ :=
    bifurcate_of_level_pos (p := p) (by omega)
  refine ⟨even, odd, splitEq, ?_⟩
  rw [← parentEq] at subset blockNe
  rcases subset_parent_cases subset blockNe with inEven | inOdd
  · exact .inl (contains_iff.mpr ⟨families.trans evenFamily.symm, inEven⟩)
  · exact .inr (contains_iff.mpr ⟨families.trans oddFamily.symm, siblingEq ▸ inOdd⟩)

theorem contains_or_contains (inLeft : addr ∈ left) (inRight : addr ∈ right) :
    left.contains right = true ∨ right.contains left = true := by
  have families : left.addressFamily = right.addressFamily := inLeft.1.symm.trans inRight.1
  rcases subset_or_subset_of_mem inLeft.2 inRight.2 with subset | subset
  · exact .inr (contains_iff.mpr ⟨families, subset⟩)
  · exact .inl (contains_iff.mpr ⟨families.symm, subset⟩)

theorem le_of_contains (containment : p.contains other = true) : p ≤ other := by
  obtain ⟨families, subset⟩ := contains_iff.mp containment
  have bounds := subset_iff_bounds.mp subset
  have levels := level_le_of_subset subset
  rw [le_iff_block families.symm]
  omega

/-- Whatever lies between a prefix and one of its sub-prefixes is inside it. -/
theorem contains_of_le_of_le {middle : IpPrefix}
    (containment : p.contains other = true) (lower : p ≤ middle) (upper : middle ≤ other) :
    p.contains middle = true := by
  obtain ⟨families, subset⟩ := contains_iff.mp containment
  have middleFamily := family_of_le_of_le lower upper families.symm
  have bounds := subset_iff_bounds.mp subset
  rw [le_iff_block middleFamily.symm] at lower
  rw [le_iff_block (middleFamily.trans families.symm)] at upper
  have otherOrder := (mem_iff_bounds.mp other.block.first_mem).2
  have inside : middle.block.first ∈ p.block := by
    rw [mem_iff_bounds]
    omega
  refine contains_iff.mpr ⟨middleFamily, ?_⟩
  rcases subset_or_subset_of_mem middle.block.first_mem inside with within | around
  · exact within
  · -- A block around `p` that does not start before it has the same first
    -- address, and the order then makes it no larger than `p`.
    have aroundBounds := subset_iff_bounds.mp around
    exact subset_of_level_le (by omega) middle.block.first_mem inside

theorem le_getLastSubPrefix (containment : p.contains other = true) :
    other ≤ p.getLastSubPrefix := by
  obtain ⟨families, subset⟩ := contains_iff.mp containment
  have bounds := subset_iff_bounds.mp subset
  have otherOrder := (mem_iff_bounds.mp other.block.first_mem).2
  have lastBlock : p.getLastSubPrefix.addressFamily = p.addressFamily ∧
      p.getLastSubPrefix.block = ⟨0, p.block.last⟩ := by
    cases p with
    | v4 | v6 =>
      refine ⟨rfl, (ofAddr_block _).trans ?_⟩
      rw [Ipnet.broadcast_eq]
      rfl
  rw [le_iff_block (families.trans lastBlock.1.symm), lastBlock.2]
  simp only [first, pow_zero]
  simp only [first] at otherOrder
  omega

theorem tryAggregate_sibling (isSibling : p.getSibling = .ok (some sibling)) :
    ∃ merged, p.tryAggregate sibling = some merged ∧
      merged.addressFamily = p.addressFamily ∧ merged.block = p.block.parent := by
  rcases getSibling_cases p with ⟨-, noSibling⟩ | ⟨pos, other, otherEq, families, blocks⟩
  · rw [isSibling] at noSibling
    cases noSibling
  · rw [isSibling] at otherEq
    cases otherEq
    cases p <;> cases sibling
    case v4.v4 | v6.v6 =>
      obtain ⟨merged, mergedEq, blockEq⟩ := tryAggregate_sibling pos blocks
      rw [tryAggregate, mergedEq]
      exact ⟨_, rfl, rfl, blockEq⟩
    all_goals cases families

end IpPrefix

/-! ## Conversions -/

/-- Sources from which a prefix can be made, by appending the full length to an
address or by clearing the trailing bits of a network. -/
class ToPrefix (α : Type) where
  toPrefix : α → IpPrefix

export ToPrefix (toPrefix)

instance : ToPrefix IpPrefix := ⟨id⟩

instance : ToPrefix (Prefix 32) := ⟨.v4⟩

instance : ToPrefix (Prefix 128) := ⟨.v6⟩

instance : ToPrefix IpAddr where
  toPrefix
    | .v4 addr => .v4 (ofAddr addr)
    | .v6 addr => .v6 (ofAddr addr)

/-- The addresses of the prefix of an address are that address alone. -/
theorem mem_toPrefix_addr {other : IpAddr} : other ∈ toPrefix addr ↔ other = addr := by
  cases addr <;> cases other <;>
    simp [IpPrefix.mem_def, toPrefix, IpAddr.addressFamily, ofAddr_block,
      IpAddr.bits, mem_def, toNat_inj]

instance [Ipnet 32] [Ipnet 128] : ToPrefix IpNet where
  toPrefix
    | .v4 net => .v4 (ofNet net)
    | .v6 net => .v6 (ofNet net)

end Network
