import BareMetalManager.ApiDb.IpAllocator

/-!
# Collapsing allocated networks

Of several networks with one network address the collapse keeps the longest prefix
only. Seen through overlaps, it keeps exactly the networks that no longer network
shadows.
-/

namespace ApiDb

open Collections Dyadic Network List IpNet Ipnetwork

namespace IpAllocator

variable {ι : Type}

def SameNetworkAddress (left right : IpNet) : Prop :=
  left.addressFamily = right.addressFamily ∧ left.block.first = right.block.first

/-- Another network of the collection has the same network address and a longer
prefix. -/
def Shadowed (networks : IpNet → Prop) (net : IpNet) : Prop :=
  ∃ longer, networks longer ∧ SameNetworkAddress longer net ∧
    net.prefixLen < longer.prefixLen

structure Collapsed (visited : List IpNet) (set : BTreeSet IpNet) : Prop where
  kept : ∀ net ∈ set, net ∈ visited ∧ ¬ Shadowed (· ∈ visited) net
  represented : ∀ net ∈ visited, ∃ other ∈ set,
    SameNetworkAddress other net ∧ net.prefixLen ≤ other.prefixLen

variable {this : IpNet}

/-- A network that is no larger and contains the network address of another starts
at that address. -/
theorem sameNetworkAddress_of_mem {existing : IpNet}
    (families : existing.addressFamily = this.addressFamily)
    (lengths : this.prefixLen ≤ existing.prefixLen) (mem : this.block.first ∈ existing.block)
    : SameNetworkAddress existing this := by
  refine ⟨families, ?_⟩
  have levels : existing.block.level ≤ this.block.level := by
    rw [level_eq, level_eq, families]
    omega
  have subset := Block.subset_of_level_le levels mem this.block.first_mem
  have lower := (Block.subset_iff_bounds.mp subset).1
  have upper := (Block.mem_iff_bounds.mp mem).1
  omega

theorem not_shadowed_host {networks : IpNet → Prop} {addr : IpAddr} :
    ¬ Shadowed networks (.host addr) := by
  rintro ⟨longer, -, sameAddress, less⟩
  have bound := longer.prefixLen_le
  rw [sameAddress.1] at bound
  cases addr <;> simp_all [host, prefixLen, addressFamily,
    IpAddressFamily.interfacePrefixLen] <;> omega

variable [Ipnetwork] {set : BTreeSet IpNet}

theorem any_contains_network_iff :
    (set.elems.any fun existing => contains existing (network this)) = true ↔
      ∃ existing ∈ set, existing.addressFamily = this.addressFamily ∧
        this.block.first ∈ existing.block := by
  simp only [any_eq_true, contains_iff, mem_def, network_family, network_bits, BTreeSet.mem_def]
  refine exists_congr fun existing => and_congr_right fun _ => ?_
  rw [eq_comm]

theorem Collapsed.insert {visited : List IpNet} (collapsed : Collapsed visited set)
    (longest : ∀ net ∈ visited, this.prefixLen ≤ net.prefixLen) :
    Collapsed (visited ++ [this]) (collapseInsert set this) := by
  have stillKept : ∀ net ∈ set, net ∈ visited ++ [this] ∧
      ¬ Shadowed (· ∈ visited ++ [this]) net := by
    intro net mem
    obtain ⟨visitedNet, unshadowed⟩ := collapsed.kept net mem
    refine ⟨mem_append_left _ visitedNet, ?_⟩
    rintro ⟨longer, longerIn, sameAddress, longerLt⟩
    rcases mem_append.mp longerIn with longerIn | isThis
    · exact unshadowed ⟨longer, longerIn, sameAddress, longerLt⟩
    · have shorter := longest net visitedNet
      rw [mem_singleton.mp isThis] at longerLt
      omega
  unfold collapseInsert
  split
  next found =>
    obtain ⟨existing, mem, families, contained⟩ := any_contains_network_iff.mp found
    refine ⟨stillKept, ?_⟩
    intro net netIn
    rcases mem_append.mp netIn with netIn | isThis
    · exact collapsed.represented net netIn
    · rw [mem_singleton.mp isThis]
      have lengths := longest existing (collapsed.kept existing mem).1
      exact ⟨existing, mem, sameNetworkAddress_of_mem families lengths contained, lengths⟩
  next notFound =>
    rw [any_contains_network_iff] at notFound
    refine ⟨?_, ?_⟩
    · intro net netIn
      rcases BTreeSet.mem_insert.mp netIn with rfl | netIn
      · refine ⟨mem_concat_self, ?_⟩
        rintro ⟨longer, longerIn, sameAddress, longerLt⟩
        rcases mem_append.mp longerIn with longerIn | isThis
        · -- The longer network has a representative, which starts at the same
          -- address and would have kept this network out.
          obtain ⟨other, otherIn, otherSame, -⟩ := collapsed.represented longer longerIn
          refine notFound ⟨other, otherIn, otherSame.1.trans sameAddress.1, ?_⟩
          rw [← sameAddress.2, ← otherSame.2]
          exact other.block.first_mem
        · rw [mem_singleton.mp isThis] at longerLt
          omega
      · exact stillKept net netIn
    · intro net netIn
      rcases mem_append.mp netIn with netIn | isThis
      · obtain ⟨other, otherIn, rest⟩ := collapsed.represented net netIn
        exact ⟨other, BTreeSet.mem_insert.mpr (.inr otherIn), rest⟩
      · rw [mem_singleton.mp isThis]
        exact ⟨this, BTreeSet.mem_insert.mpr (.inl rfl), ⟨rfl, rfl⟩, le_rfl⟩

theorem Collapsed.foldl {remaining visited : List IpNet} (collapsed : Collapsed visited set)
    (sorted : (visited ++ remaining).Pairwise fun left right => right.prefixLen ≤ left.prefixLen) :
    Collapsed (visited ++ remaining) (remaining.foldl collapseInsert set) := by
  induction remaining generalizing visited set with
  | nil => simpa using collapsed
  | cons this remaining ih =>
    have regroup : visited ++ this :: remaining = visited ++ [this] ++ remaining := by simp
    rw [regroup] at sorted ⊢
    apply ih
    · apply collapsed.insert
      intro net mem
      exact (pairwise_append.mp (pairwise_append.mp sorted).1).2.2 net mem
        this (mem_singleton.mpr rfl)
    · exact sorted

/-- The collapse keeps exactly the networks that are not shadowed, as far as
overlaps can tell. -/
theorem exists_overlap_collapse_iff {networks : List IpNet} {candidate : IpNet} :
    (∃ net ∈ collapseAllocatedNetworks networks, IpNet.Overlap candidate net) ↔
      ∃ net ∈ networks, ¬ Shadowed (· ∈ networks) net ∧ IpNet.Overlap candidate net := by
  let visited := networks.insertionSort fun left right => right.prefixLen ≤ left.prefixLen
  have visited_iff : ∀ net, net ∈ visited ↔ net ∈ networks := fun net =>
    mem_insertionSort _
  have start : Collapsed [] (.empty : BTreeSet IpNet) := ⟨by simp, by simp⟩
  have sorted : visited.Pairwise fun left right => right.prefixLen ≤ left.prefixLen := by
    exact pairwise_insertionSort _ _
  have collapsed : Collapsed visited (visited.foldl collapseInsert .empty) :=
    start.foldl sorted
  have shadowed_iff : ∀ net, Shadowed (· ∈ visited) net ↔ Shadowed (· ∈ networks) net := by
    intro net
    simp only [Shadowed, visited_iff]
  constructor
  · rintro ⟨net, mem, overlap⟩
    obtain ⟨visitedNet, unshadowed⟩ := collapsed.kept net mem
    exact ⟨net, (visited_iff net).mp visitedNet, mt (shadowed_iff net).mpr unshadowed, overlap⟩
  · rintro ⟨net, mem, unshadowed, overlap⟩
    obtain ⟨other, otherIn, sameAddress, lengths⟩ :=
      collapsed.represented net ((visited_iff net).mpr mem)
    have otherVisited := (visited_iff other).mp (collapsed.kept other otherIn).1
    have lengthEq : other.prefixLen = net.prefixLen := by
      by_contra ne
      exact unshadowed ⟨other, otherVisited, sameAddress, by omega⟩
    refine ⟨other, otherIn, ?_⟩
    have levelEq : other.block.level = net.block.level := by
      rw [level_eq, level_eq, sameAddress.1, lengthEq]
    have blockEq : other.block = net.block := by
      refine Block.eq_of_level_eq levelEq other.block.first_mem ?_
      rw [sameAddress.2]
      exact net.block.first_mem
    rw [overlap_iff] at overlap ⊢
    rwa [blockEq, sameAddress.1]

end IpAllocator

end ApiDb
