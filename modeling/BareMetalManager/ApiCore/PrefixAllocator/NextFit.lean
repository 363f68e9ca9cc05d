import BareMetalManager.ApiCore.PrefixAllocator
import BareMetalManager.ApiDb.IpAllocator.Scan
import BareMetalManager.Lib.Intervals

/-!
# Linknets are selected by cyclic next-fit

The allocator returns the first child prefix behind the cursor, in cyclic order, that
shares no address with a stored prefix in scope, except in the one case in which the number of
children needs 129 bits.
-/

namespace ApiCore

open Network Dyadic Intervals ApiDb.NetworkPrefix List Ipnetwork Checked IpNet ApiDb.IpAllocator

/-! ## The scan of the intervals -/

variable {occupied : List (Nat × Nat)}

section Sorted

variable (sorted : occupied.Pairwise fun left right => left.1 ≤ right.1)
  (bounded : ∀ interval ∈ occupied, interval.2 + 1 < 2 ^ 128)
include sorted bounded

theorem firstUnoccupiedFrom_spec {rangeEnd candidate : Nat} (inside : candidate ≤ rangeEnd) :
    FirstWithout (Covers occupied) candidate rangeEnd
      (firstUnoccupiedFrom rangeEnd occupied candidate) := by
  induction occupied generalizing candidate with
  | nil =>
    refine ⟨le_rfl, inside, not_covers_nil candidate, ?_⟩
    intro lower after before
    omega
  | cons interval rest ih =>
    obtain ⟨occupiedStart, occupiedEnd⟩ := interval
    have restBounded : ∀ other ∈ rest, other.2 + 1 < 2 ^ 128 :=
      fun other mem => bounded other (mem_cons_of_mem _ mem)
    rw [firstUnoccupiedFrom]
    split
    next passed =>
      refine (ih sorted.of_cons restBounded inside).cons le_rfl ?_ passed
      intro index after before
      omega
    next reached =>
      split
      next free =>
        refine ⟨le_rfl, inside, not_covers_of_lt sorted free, ?_⟩
        intro lower after before
        omega
      next =>
        have exact : min (occupiedEnd + 1) (2 ^ 128 - 1) = occupiedEnd + 1 := by
          have := bounded _ mem_cons_self
          omega
        simp only [exact]
        split
        next =>
          intro index after before
          exact covers_cons.mpr (.inl ⟨by omega, by omega⟩)
        next notPast =>
          refine (ih sorted.of_cons restBounded (by omega)).cons (by omega) ?_
            (Nat.lt_succ_self occupiedEnd)
          intro index after before
          exact ⟨by omega, by omega⟩

theorem firstUnoccupiedIndex_spec {rangeStart rangeEnd : Nat} (inside : rangeStart ≤ rangeEnd) :
    FirstWithout (Covers occupied) rangeStart rangeEnd
      (firstUnoccupiedIndex occupied rangeStart rangeEnd) := by
  rw [firstUnoccupiedIndex, if_neg (by omega)]
  exact firstUnoccupiedFrom_spec sorted bounded inside

theorem PrefixAllocator.freeIndex_spec {property : Nat → Prop} {start count : Nat}
    (covers : ∀ index < count, Covers occupied index ↔ property index) (inside : start < count) :
    FirstInCycle property count start (freeIndex occupied start (count - 1)) := by
  have found {first last : Nat} (le : first ≤ last) (lt : last < count) :
      FirstWithout property first last (firstUnoccupiedIndex occupied first last) := by
    refine (firstUnoccupiedIndex_spec sorted bounded le).congr fun index before => ?_
    exact covers index (by omega)
  refine cyclic_search inside ?_ ?_ ?_
  · exact found (by omega) (by omega)
  · intro pos
    rw [if_pos pos]
    exact found (by omega) (by omega)
  · intro zero
    rw [if_neg (by omega)]

end Sorted

namespace PrefixAllocator

variable (allocator : PrefixAllocator)

/-! ## The children of the VPC prefix -/

def linknetSize : Nat :=
  2 ^ (allocator.vpcPrefix.addressFamily.interfacePrefixLen - allocator.prefixLen)

def linknetCount : Nat := 2 ^ (allocator.prefixLen - allocator.vpcPrefix.prefixLen)

/-- The network with a number for its address. -/
def networkAt : (family : IpAddressFamily) → (address prefixLen : Nat) →
    prefixLen ≤ family.interfacePrefixLen → IpNet
  | .ipv4, address, prefixLen, fits => .v4 ⟨.ofNat 32 address, prefixLen, fits⟩
  | .ipv6, address, prefixLen, fits => .v6 ⟨.ofNat 128 address, prefixLen, fits⟩

def childAt (index : Nat) : IpNet :=
  networkAt allocator.vpcPrefix.addressFamily
    (allocator.vpcPrefix.block.first + index * allocator.linknetSize) allocator.prefixLen
    allocator.fits

def children : List IpNet := (List.range allocator.linknetCount).map allocator.childAt

theorem prefixLen_spec :
    allocator.vpcPrefix.prefixLen ≤ allocator.prefixLen ∧ 0 < allocator.prefixLen := by
  have allocatable := allocator.allocatable
  simp only [vpcPrefixCanAllocateInterfacePrefix, Bool.or_eq_true, decide_eq_true_eq,
    Prod.mk.injEq] at allocatable
  omega

theorem vpcPrefixLen_le : allocator.vpcPrefix.prefixLen ≤ allocator.prefixLen :=
  allocator.prefixLen_spec.1

theorem hostBits_lt : allocator.vpcPrefix.addressFamily.interfacePrefixLen -
    allocator.prefixLen < 128 := by
  have longest := allocator.vpcPrefix.addressFamily.interfacePrefixLen_le
  have pos := allocator.prefixLen_spec.2
  omega

theorem linknetSize_pos : 0 < allocator.linknetSize := Nat.two_pow_pos _

theorem linknetCount_pos : 0 < allocator.linknetCount := Nat.two_pow_pos _

/-- The children fill the VPC prefix. -/
theorem last_eq : allocator.vpcPrefix.block.last + 1 = allocator.vpcPrefix.block.first +
    allocator.linknetCount * allocator.linknetSize := by
  have le := allocator.vpcPrefixLen_le
  have fits := allocator.fits
  have size : allocator.linknetCount * allocator.linknetSize =
      2 ^ allocator.vpcPrefix.block.level := by
    rw [linknetCount, linknetSize, ← pow_add, level_eq]
    congr 1
    omega
  have pos := Nat.two_pow_pos allocator.vpcPrefix.block.level
  rw [size, Block.last]
  omega

theorem new_addrAt (net : IpNet) {address prefixLen : Nat}
    (fits : prefixLen ≤ net.addressFamily.interfacePrefixLen) :
    IpNet.new (net.addrAt address) prefixLen =
      some (networkAt net.addressFamily address prefixLen fits) := by
  cases net <;> exact dif_pos fits

variable {index : Nat}

/-- The range of the child with an index lies in the VPC prefix. -/
theorem mul_add_le (inside : index < allocator.linknetCount) :
    index * allocator.linknetSize + allocator.linknetSize ≤
      allocator.linknetCount * allocator.linknetSize := by
  rw [← Nat.succ_mul]
  exact Nat.mul_le_mul_right _ inside

theorem linknetSize_dvd_first : allocator.linknetSize ∣ allocator.vpcPrefix.block.first := by
  refine Dvd.dvd.mul_left ?_ _
  rw [level_eq]
  exact Nat.pow_dvd_pow 2 (Nat.sub_le_sub_left allocator.vpcPrefixLen_le _)

/-- A child with an index below the count is a candidate at its place. -/
theorem childAt_spec (inside : index < allocator.linknetCount) :
    ApiDb.IpAllocator.Candidate allocator.vpcPrefix allocator.prefixLen
        (allocator.childAt index) ∧
      (allocator.childAt index).block.first =
        allocator.vpcPrefix.block.first + index * allocator.linknetSize := by
  have mem : allocator.vpcPrefix.block.first + index * allocator.linknetSize ∈
      allocator.vpcPrefix.block := by
    have last := allocator.last_eq
    have within := allocator.mul_add_le inside
    have pos := allocator.linknetSize_pos
    rw [Block.mem_iff_bounds]
    omega
  have aligned : allocator.linknetSize ∣
      allocator.vpcPrefix.block.first + index * allocator.linknetSize :=
    Nat.dvd_add allocator.linknetSize_dvd_first (Nat.dvd_mul_left _ _)
  obtain ⟨candidate, built, isCandidate, first⟩ :=
    buildCandidateSubnet_spec (ι := Unit) allocator.fits
      allocator.vpcPrefixLen_le mem aligned
  rw [buildCandidateSubnet, newNetwork, new_addrAt _ allocator.fits] at built
  cases built
  exact ⟨isCandidate, first⟩

variable {allocator}

theorem childAt_last (inside : index < allocator.linknetCount) :
    (allocator.childAt index).block.last + 1 = allocator.vpcPrefix.block.first +
      index * allocator.linknetSize + allocator.linknetSize := by
  obtain ⟨candidate, first⟩ := allocator.childAt_spec inside
  have size : 2 ^ (allocator.childAt index).block.level = allocator.linknetSize := by
    rw [level_eq, candidate.family, candidate.length, linknetSize]
  have pos := allocator.linknetSize_pos
  rw [Block.last, first, size]
  omega

variable {net : IpNet}

/-- The children are the networks of the length that lie in the VPC prefix, written
without host bits. -/
theorem mem_children : net ∈ allocator.children ↔
    ApiDb.IpAllocator.Candidate allocator.vpcPrefix allocator.prefixLen net := by
  simp only [children, mem_map, mem_range]
  constructor
  · rintro ⟨index, inside, rfl⟩
    exact (allocator.childAt_spec inside).1
  · intro candidate
    have bounds := Block.subset_iff_bounds.mp candidate.inside
    obtain ⟨index, offset⟩ := Nat.dvd_sub candidate.dvd_first allocator.linknetSize_dvd_first
    change net.block.first - _ = allocator.linknetSize * index at offset
    have first : net.block.first =
        allocator.vpcPrefix.block.first + index * allocator.linknetSize := by
      rw [Nat.mul_comm, ← offset]
      omega
    have inside : index < allocator.linknetCount := by
      refine Nat.lt_of_mul_lt_mul_right (a := allocator.linknetSize) ?_
      have last := allocator.last_eq
      have := (Block.mem_iff_bounds.mp (candidate.inside _ net.block.first_mem)).2
      omega
    refine ⟨index, inside, ?_⟩
    obtain ⟨child, childFirst⟩ := allocator.childAt_spec inside
    exact child.eq_of_first candidate (childFirst.trans first.symm)

section NextFit

/-- An address lies in the child whose index is its offset in units of the size. -/
theorem mem_childAt (inside : index < allocator.linknetCount) :
    addr ∈ allocator.childAt index ↔ addr.addressFamily = allocator.vpcPrefix.addressFamily ∧
        allocator.vpcPrefix.block.first ≤ addr.bits ∧
        (addr.bits - allocator.vpcPrefix.block.first) / allocator.linknetSize = index := by
  obtain ⟨candidate, first⟩ := allocator.childAt_spec inside
  have last := childAt_last inside
  have pos := allocator.linknetSize_pos
  rw [mem_def, candidate.family, Block.mem_iff_bounds, first, Nat.div_eq_iff pos]
  refine and_congr_right fun _ => ?_
  omega

theorem findIdx_lt (inside : addr ∈ allocator.vpcPrefix) :
    (addr.bits - allocator.vpcPrefix.block.first) / allocator.linknetSize <
      allocator.linknetCount := by
  have bounds := Block.mem_iff_bounds.mp inside.2
  have last := allocator.last_eq
  rw [Nat.div_lt_iff_lt_mul allocator.linknetSize_pos]
  omega

theorem u128ToIp_eq (net : IpNet) (value : Nat) :
    u128ToIp value net.addressFamily = net.addrAt value := by
  cases net <;> rfl

theorem length_children : allocator.children.length = allocator.linknetCount := by
  rw [children, length_map, length_range]

variable [Ipnetwork]

/-! ## The occupied intervals -/

/-- The interval of children that an overlapping prefix touches. -/
def touched (allocator : PrefixAllocator) (net : IpNet) : Nat × Nat :=
  ((max net.block.first allocator.vpcPrefix.block.first -
      allocator.vpcPrefix.block.first) / allocator.linknetSize,
    (min net.block.last allocator.vpcPrefix.block.last -
      allocator.vpcPrefix.block.first) / allocator.linknetSize)

theorem occupiedInterval_eq (overlap : IpNet.Overlap net allocator.vpcPrefix) :
    occupiedInterval allocator.vpcPrefix allocator.linknetSize net =
      .ok (some (allocator.touched net)) := by
  obtain ⟨-, lower, upper⟩ := overlap_iff_bounds.mp overlap
  have range := Block.mem_iff_bounds.mp net.block.first_mem
  have parentRange := Block.mem_iff_bounds.mp allocator.vpcPrefix.block.first_mem
  simp only [occupiedInterval, network_bits, broadcast_bits]
  rw [sub_eq_ok (by omega), sub_eq_ok (by omega)]
  simp only [bind, Except.bind, pure, Except.pure]
  rw [if_pos (by omega)]
  rfl

omit [Ipnetwork] in
/-- An overlapping prefix touches exactly the children that it overlaps. -/
theorem touched_iff (overlap : IpNet.Overlap net allocator.vpcPrefix)
    (inside : index < allocator.linknetCount) :
    ((allocator.touched net).1 ≤ index ∧ index ≤ (allocator.touched net).2) ↔
      IpNet.Overlap (allocator.childAt index) net := by
  obtain ⟨families, lower, upper⟩ := overlap_iff_bounds.mp overlap
  obtain ⟨candidate, first⟩ := allocator.childAt_spec inside
  have last := childAt_last inside
  have parentLast := allocator.last_eq
  have within := allocator.mul_add_le inside
  have pos := allocator.linknetSize_pos
  rw [overlap_iff_bounds, touched, Nat.le_div_iff_mul_le pos, ← Nat.lt_succ_iff,
    Nat.div_lt_iff_lt_mul pos, Nat.succ_mul, first, candidate.family]
  constructor
  · rintro ⟨start, stop⟩
    exact ⟨families.symm, by omega, by omega⟩
  · rintro ⟨-, start, stop⟩
    omega

omit [Ipnetwork] in
theorem touched_lt (allocator : PrefixAllocator) (net : IpNet) :
    (allocator.touched net).2 < allocator.linknetCount := by
  have parentLast := allocator.last_eq
  have pos := allocator.linknetSize_pos
  have := Nat.mul_pos allocator.linknetCount_pos pos
  rw [touched, Nat.div_lt_iff_lt_mul pos]
  omega

variable {tables : Tables} {stored : List IpNet}

theorem mem_findAllocationOccupancy {vpcPrefixId : VpcPrefixId} {vpcPrefix : IpNet} :
    net ∈ findAllocationOccupancy tables vpcPrefixId vpcPrefix ↔
      net ∈ tables.inScope vpcPrefixId ∧ IpNet.Overlap net vpcPrefix := by
  rw [findAllocationOccupancy, mem_filter, contains_or_iff]

def Occupied (stored : List IpNet) (child : IpNet) : Prop :=
  ∃ net ∈ stored, IpNet.Overlap child net

/-- The intervals are computed, are sorted and bounded, and cover exactly the children
that are occupied. -/
theorem occupiedPrefixIntervals_spec (allocator : PrefixAllocator) (tables : Tables) :
    ∃ occupied, occupiedPrefixIntervals allocator.vpcPrefix allocator.prefixLen
        (findAllocationOccupancy tables allocator.vpcPrefixId allocator.vpcPrefix) =
          .ok occupied ∧
      occupied.Pairwise (fun left right => left.1 ≤ right.1) ∧
      (∀ interval ∈ occupied, interval.2 < allocator.linknetCount) ∧
      ∀ index < allocator.linknetCount,
        Covers occupied index ↔
          Occupied (tables.inScope allocator.vpcPrefixId) (allocator.childAt index) := by
  set used := (findAllocationOccupancy tables allocator.vpcPrefixId allocator.vpcPrefix).filter
    fun net => net.addressFamily = allocator.vpcPrefix.addressFamily with usedEq
  have mem_used : ∀ net, net ∈ used ↔
      net ∈ tables.inScope allocator.vpcPrefixId ∧ IpNet.Overlap net allocator.vpcPrefix := by
    intro net
    rw [usedEq, mem_filter, mem_findAllocationOccupancy, decide_eq_true_eq]
    refine ⟨.left, fun both => ⟨both, ?_⟩⟩
    exact (overlap_iff_bounds.mp both.2).1
  have computed : used.mapM (occupiedInterval allocator.vpcPrefix allocator.linknetSize) =
      .ok (used.map fun net => some (allocator.touched net)) :=
    mapM_eq_ok fun net mem =>
      occupiedInterval_eq ((mem_used net).mp mem).2
  have unwrapped : (used.map fun net => some (allocator.touched net)).filterMap id =
      used.map allocator.touched := by
    rw [filterMap_map]
    exact congrFun filterMap_eq_map used
  refine ⟨(used.map allocator.touched).insertionSort
    fun left right => toLex left ≤ toLex right, ?_, ?_, ?_, ?_⟩
  · rw [occupiedPrefixIntervals, sub_eq_ok allocator.fits]
    simp only [bind, Except.bind, pure, Except.pure]
    rw [oneShiftLeft_eq_ok allocator.hostBits_lt]
    simp only
    rw [← usedEq, ← linknetSize, computed]
    simp only [unwrapped]
  · refine (pairwise_insertionSort _ _).imp ?_
    intro left right le
    exact Prod.Lex.monotone_fst _ _ le
  · intro interval mem
    rw [mem_insertionSort, mem_map] at mem
    obtain ⟨net, -, rfl⟩ := mem
    exact allocator.touched_lt net
  · intro index inside
    simp only [Covers, mem_insertionSort, mem_map]
    constructor
    · rintro ⟨_, ⟨net, mem, rfl⟩, covered⟩
      obtain ⟨isStored, overlap⟩ := (mem_used net).mp mem
      exact ⟨net, isStored, (touched_iff overlap inside).mp covered⟩
    · rintro ⟨net, isStored, overlap⟩
      have parentOverlap : IpNet.Overlap net allocator.vpcPrefix := by
        obtain ⟨addr, inChild, inNet⟩ := overlap
        exact ⟨addr, inNet, (allocator.childAt_spec inside).1.mem addr inChild⟩
      exact ⟨_, ⟨net, (mem_used net).mpr ⟨isStored, parentOverlap⟩, rfl⟩,
        (touched_iff parentOverlap inside).mpr overlap⟩

/-! ## The cursor -/

variable {addr : IpAddr}

/-- The number of children up to the one with the last address of the cursor, and zero
without such a child. -/
def afterCursor (allocator : PrefixAllocator) : Nat :=
  match allocator.lastUsedPrefix with
  | none => 0
  | some cursor =>
    match allocator.children.findIdx? fun child =>
        Ipnetwork.contains child (Ipnetwork.broadcast cursor) with
    | some index => index + 1
    | none => 0

theorem findIdx_children (inside : addr ∈ allocator.vpcPrefix) :
    (allocator.children.findIdx? fun child => Ipnetwork.contains child addr) =
      some ((addr.bits - allocator.vpcPrefix.block.first) / allocator.linknetSize) := by
  have bounds := Block.mem_iff_bounds.mp inside.2
  have below := findIdx_lt inside
  rw [List.findIdx?_eq_some_iff_getElem]
  refine ⟨by simpa [children] using below, ?_, ?_⟩
  · simp only [children, getElem_map, getElem_range]
    rw [contains_iff, mem_childAt below]
    exact ⟨inside.1, bounds.1, rfl⟩
  · intro index less
    simp only [children, getElem_map, getElem_range]
    rw [contains_iff, mem_childAt (less.trans below)]
    rintro ⟨-, -, same⟩
    omega

theorem findIdx_children_eq_none (outside : addr ∉ allocator.vpcPrefix) :
    (allocator.children.findIdx? fun child => Ipnetwork.contains child addr) = none := by
  rw [List.findIdx?_eq_none_iff]
  intro child mem
  rw [← Bool.not_eq_true, contains_iff]
  exact fun inChild => outside ((mem_children.mp mem).mem addr inChild)

/-- The search starts behind the child with the last address of the cursor. -/
theorem startIndex_spec (allocator : PrefixAllocator)
    (representable : allocator.linknetCount < 2 ^ 128) :
    allocator.startIndex allocator.linknetSize allocator.linknetCount =
      .ok (allocator.afterCursor % allocator.linknetCount) := by
  rw [startIndex, afterCursor]
  cases allocator.lastUsedPrefix with
  | none => simp
  | some cursor =>
    have usable : (cursor.addressFamily = allocator.vpcPrefix.addressFamily ∧
        (Ipnetwork.network allocator.vpcPrefix).bits ≤ (Ipnetwork.broadcast cursor).bits ∧
        (Ipnetwork.broadcast cursor).bits ≤ (Ipnetwork.broadcast allocator.vpcPrefix).bits) ↔
        Ipnetwork.broadcast cursor ∈ allocator.vpcPrefix := by
      rw [mem_def, broadcast_family, Block.mem_iff_bounds,
        network_bits, broadcast_bits allocator.vpcPrefix]
    simp only
    by_cases inside : Ipnetwork.broadcast cursor ∈ allocator.vpcPrefix
    · obtain ⟨-, lower, upper⟩ := usable.mpr inside
      rw [if_pos (usable.mpr inside), findIdx_children inside, sub_eq_ok lower]
      have below := findIdx_lt inside
      simp only [bind, Except.bind, pure, Except.pure, Checked.add, network_bits]
      rw [if_pos (by omega)]
    · rw [if_neg (mt usable.mp inside), findIdx_children_eq_none inside, Nat.zero_mod]

/-! ## Next-fit -/

/-- All children in cyclic order, from the one behind the cursor on. -/
def cyclicChildren (allocator : PrefixAllocator) : List IpNet :=
  allocator.children.rotate allocator.afterCursor

/-- What a selection has to do: it fails for want of a free child exactly when every child
is occupied, and otherwise returns the first free child in cyclic order. It does not
panic. -/
structure NextFit (allocator : PrefixAllocator) (stored : List IpNet)
    (outcome : Except (Failure CarbideError) IpNet) : Prop where
  exhausted : outcome = .error (.error (.resourceExhausted allocator.vpcPrefixId
      allocator.vpcPrefix allocator.prefixLen)) ↔
    ∀ child ∈ allocator.children, Occupied stored child
  first : (∃ child ∈ allocator.children, ¬ Occupied stored child) →
    ∃ passed child rest, allocator.cyclicChildren = passed ++ child :: rest ∧
      (∀ other ∈ passed, Occupied stored other) ∧ ¬ Occupied stored child ∧
      outcome = .ok child
  noPanic : ∀ reason, outcome ≠ .error (.panic reason)

theorem linknetAt_eq (inside : index < allocator.linknetCount) :
    allocator.linknetAt allocator.linknetSize index = .ok (allocator.childAt index) := by
  have last := allocator.last_eq
  have bound := lt_of_mem allocator.vpcPrefix.block.last_mem
  have within := allocator.mul_add_le inside
  have pos := allocator.linknetSize_pos
  rw [linknetAt, checkedMul, if_pos (by omega), Option.bind_some, checkedAdd,
    network_bits, if_pos (by omega)]
  simp only
  rw [u128ToIp_eq, new_addrAt _ allocator.fits]
  rfl

theorem cyclicChildren_eq : allocator.cyclicChildren = ((List.range allocator.linknetCount).rotate
      (allocator.afterCursor % allocator.linknetCount)).map allocator.childAt := by
  rw [cyclicChildren, ← rotate_mod, length_children, children, map_rotate]

/-- With a number of children that fits into 128 bits no step overflows, and the outcome is
that of the search through the occupied intervals. -/
theorem nextFreePrefix_eq
    (representable : allocator.prefixLen - allocator.vpcPrefix.prefixLen < 128)
    (occupiedEq : occupiedPrefixIntervals allocator.vpcPrefix allocator.prefixLen
      (findAllocationOccupancy tables allocator.vpcPrefixId allocator.vpcPrefix) = .ok occupied) :
    allocator.nextFreePrefix tables = allocator.selected allocator.linknetSize
      (freeIndex occupied (allocator.afterCursor % allocator.linknetCount)
        (allocator.linknetCount - 1)) := by
  have count : allocator.linknetCount < 2 ^ 128 :=
    Nat.pow_lt_pow_right (by decide) representable
  rw [nextFreePrefix, sub_eq_ok allocator.vpcPrefixLen_le]
  simp only [Except.mapError, bind, Except.bind, checkedShl, if_pos representable]
  rw [sub_eq_ok allocator.fits]
  simp only [if_pos allocator.hostBits_lt]
  rw [occupiedEq]
  have last : Checked.sub allocator.linknetCount 1 = .ok (allocator.linknetCount - 1) :=
    sub_eq_ok allocator.linknetCount_pos
  rw [← linknetSize, ← linknetCount]
  simp only [allocator.startIndex_spec count, last]

theorem nextFreePrefix_of_tooMany
    (tooMany : ¬ allocator.prefixLen - allocator.vpcPrefix.prefixLen < 128) :
    allocator.nextFreePrefix tables = .error (.error
      (.linknetCountNotRepresentable allocator.prefixLen allocator.vpcPrefix)) := by
  rw [nextFreePrefix, sub_eq_ok allocator.vpcPrefixLen_le]
  simp only [Except.mapError, bind, Except.bind, checkedShl, if_neg tooMany]

theorem nextFit_of_full
    (full : ∀ index < allocator.linknetCount, Occupied stored (allocator.childAt index)) :
    NextFit allocator stored (.error (.error (.resourceExhausted allocator.vpcPrefixId
      allocator.vpcPrefix allocator.prefixLen))) := by
  have allOccupied : ∀ child ∈ allocator.children, Occupied stored child := by
    refine forall_mem_map.mpr fun index inside => ?_
    exact full index (mem_range.mp inside)
  refine ⟨⟨fun _ => allOccupied, fun _ => rfl⟩, ?_, ?_⟩
  · rintro ⟨child, mem, free⟩
    exact absurd (allOccupied child mem) free
  · nofun

theorem nextFit_of_free (inside : index < allocator.linknetCount)
    (free : ¬ Occupied stored (allocator.childAt index)) {passed rest : List Nat}
    (split : (List.range allocator.linknetCount).rotate
      (allocator.afterCursor % allocator.linknetCount) = passed ++ index :: rest)
    (occupiedBefore : ∀ other ∈ passed, Occupied stored (allocator.childAt other)) :
    NextFit allocator stored (.ok (allocator.childAt index)) := by
  refine ⟨⟨?_, ?_⟩, ?_, ?_⟩
  · nofun
  · intro full
    exact absurd (full _ (mem_map_of_mem (mem_range.mpr inside))) free
  · intro _
    refine ⟨passed.map allocator.childAt, allocator.childAt index,
      rest.map allocator.childAt, ?_, ?_, free, rfl⟩
    · rw [cyclicChildren_eq, split, map_append, map_cons]
    · refine forall_mem_map.mpr fun before beforeIn => ?_
      exact occupiedBefore before beforeIn
  · nofun

/-- The selection is cyclic next-fit among the children that no prefix in scope occupies. Only
where the number of children does not fit into 128 bits it fails with another error. -/
theorem nextFit_inScope (allocator : PrefixAllocator) (tables : Tables) :
    (allocator.prefixLen - allocator.vpcPrefix.prefixLen < 128 ∧
        NextFit allocator (tables.inScope allocator.vpcPrefixId)
          (allocator.nextFreePrefix tables)) ∨
      allocator.vpcPrefix.addressFamily = .ipv6 ∧ allocator.vpcPrefix.prefixLen = 0 ∧
        allocator.prefixLen = 128 ∧
        allocator.nextFreePrefix tables = .error (.error
          (.linknetCountNotRepresentable allocator.prefixLen allocator.vpcPrefix)) := by
  by_cases representable : allocator.prefixLen - allocator.vpcPrefix.prefixLen < 128
  · refine .inl ⟨representable, ?_⟩
    obtain ⟨occupied, occupiedEq, sorted, bounded, covers⟩ :=
      allocator.occupiedPrefixIntervals_spec tables
    have count : allocator.linknetCount < 2 ^ 128 :=
      Nat.pow_lt_pow_right (by decide) representable
    have ends : ∀ interval ∈ occupied, interval.2 + 1 < 2 ^ 128 := by
      intro interval mem
      have := bounded interval mem
      omega
    have searched := freeIndex_spec sorted ends covers
      (Nat.mod_lt allocator.afterCursor allocator.linknetCount_pos)
    rw [nextFreePrefix_eq representable occupiedEq]
    cases found : freeIndex occupied (allocator.afterCursor % allocator.linknetCount)
        (allocator.linknetCount - 1) with
    | none =>
      rw [found] at searched
      exact nextFit_of_full searched
    | some index =>
      rw [found] at searched
      obtain ⟨inside, free, passed, rest, split, occupiedBefore⟩ := searched
      rw [selected, linknetAt_eq inside]
      exact nextFit_of_free inside free split occupiedBefore
  · have fits := allocator.fits
    refine .inr ⟨?_, ?_, ?_, nextFreePrefix_of_tooMany representable⟩
    · cases family : allocator.vpcPrefix.addressFamily with
      | ipv4 =>
        rw [family, IpAddressFamily.interfacePrefixLen] at fits
        omega
      | ipv6 => rfl
    all_goals
      have := allocator.vpcPrefix.addressFamily.interfacePrefixLen_le
      omega

end NextFit

/-- The single addresses of the whole IPv6 space. -/
def wholeSpace : PrefixAllocator where
  vpcPrefixId := 1
  vpcPrefix := .v6 ⟨0#128, 0, by decide⟩
  lastUsedPrefix := none
  prefixLen := 128
  fits := by decide
  allocatable := by decide

/-- The only child of a prefix with a scope of its own. -/
def singleChild : PrefixAllocator where
  vpcPrefixId := 1
  vpcPrefix := .v4 ⟨0x0a000000#32, 31, by decide⟩
  lastUsedPrefix := none
  prefixLen := 31
  fits := by decide
  allocatable := by decide

/-- The child is stored in the scope of another VPC. -/
def otherScope : Tables := ⟨[⟨singleChild.vpcPrefix, some 8⟩], fun _ => some (some 7)⟩

/-- A child that is stored in another scope is returned. In the whole IPv6 space, although nothing
is stored, the selection fails, and not for want of a free child. -/
theorem not_nextFit_of_stored :
    letI := Ipnetwork.reference
    (singleChild.nextFreePrefix otherScope = .ok singleChild.vpcPrefix ∧
      ¬ NextFit singleChild (otherScope.networkPrefixes.map (·.net))
        (singleChild.nextFreePrefix otherScope)) ∧
    new 1 (.v6 ⟨0#128, 0, by decide⟩) none 128 = .ok wholeSpace ∧
      ∀ scopes, wholeSpace.nextFreePrefix ⟨[], scopes⟩ =
          .error (.error (.linknetCountNotRepresentable 128 wholeSpace.vpcPrefix)) ∧
        ¬ NextFit wholeSpace [] (wholeSpace.nextFreePrefix ⟨[], scopes⟩) := by
  let := Ipnetwork.reference
  refine ⟨?_, rfl, fun scopes => ?_⟩
  · have returned : singleChild.nextFreePrefix otherScope = .ok singleChild.vpcPrefix := by
      decide +kernel
    refine ⟨returned, fun nextFit => ?_⟩
    have full : ∀ child ∈ singleChild.children,
        Occupied (otherScope.networkPrefixes.map (·.net)) child := by
      refine forall_mem_singleton.mpr ⟨_, mem_cons_self, contains_or_iff.mp ?_⟩
      decide +kernel
    rw [nextFit.exhausted.mpr full] at returned
    cases returned
  · have failed : wholeSpace.nextFreePrefix ⟨[], scopes⟩ =
        .error (.error (.linknetCountNotRepresentable 128 wholeSpace.vpcPrefix)) :=
      nextFreePrefix_of_tooMany (by decide)
    refine ⟨failed, fun nextFit => ?_⟩
    have child : wholeSpace.childAt 0 ∈ wholeSpace.children :=
      mem_map_of_mem (mem_range.mpr wholeSpace.linknetCount_pos)
    obtain ⟨_, _, _, -, -, -, found⟩ := nextFit.first ⟨_, child, by simp [Occupied]⟩
    cases failed.symm.trans found

end PrefixAllocator

end ApiCore
