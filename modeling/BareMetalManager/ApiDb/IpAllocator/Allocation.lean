import BareMetalManager.ApiDb.IpAllocator.Collapse
import BareMetalManager.ApiDb.IpAllocator.Scan

/-!
# Allocating a network

One step of the allocator hands out the lowest candidate that meets none of the
networks that the collapse has kept. The main theorem says for which inputs this
candidate also avoids the networks that the collapse has dropped.
-/

namespace ApiDb

open Collections Dyadic Network IpNet Ipnetwork List

namespace IpAllocator

variable {ι : Type}

/-! ## The networks that are taken -/

section Taken

variable [Ipnetwork] {segment : SegmentPrefix ι} {usedIps : List IpNet}

/-- The networks that an allocation in a segment prefix has to avoid. -/
inductive Taken (segment : SegmentPrefix ι) (usedIps : List IpNet) : IpNet → Prop where
  | gateway {addr : IpAddr} (isGateway : segment.gateway = some addr)
      (inside : addr ∈ segment.net) : Taken segment usedIps (.host addr)
  | reserved {addr : IpAddr} (membership : addr ∈ reservedAddrs segment) :
      Taken segment usedIps (.host addr)
  | network (large : shouldReserveNetworkBroadcast segment.net = true) :
      Taken segment usedIps (.host (network segment.net))
  | broadcast (large : shouldReserveNetworkBroadcast segment.net = true) :
      Taken segment usedIps (.host (broadcast segment.net))
  | used {net : IpNet} (membership : net ∈ usedIps)
      (inside : network net ∈ segment.net) : Taken segment usedIps net

omit [Ipnetwork] in
theorem mapM_newNetwork (addrs : List IpAddr) :
    (addrs.mapM fun addr => newNetwork addr addr.addressFamily.interfacePrefixLen) =
      (.ok (addrs.map .host) : Except (DatabaseError ι) (List IpNet)) := by
  refine Checked.mapM_eq_ok ?_
  intro addr _
  rw [newNetwork, new_interfacePrefixLen]

theorem mem_gatewayAddrs {addr : IpAddr} :
    addr ∈ gatewayAddrs segment ↔ segment.gateway = some addr ∧ addr ∈ segment.net := by
  unfold gatewayAddrs
  cases segment.gateway with
  | none => simp
  | some gateway =>
    simp only [Option.some.injEq]
    by_cases inside : contains segment.net gateway = true
    · simp only [inside, if_true, mem_singleton]
      rw [contains_iff] at inside
      constructor
      · rintro rfl
        exact ⟨rfl, inside⟩
      · rintro ⟨rfl, -⟩
        rfl
    · simp only [inside, Bool.false_eq_true, if_false, not_mem_nil, false_iff]
      rw [contains_iff] at inside
      rintro ⟨rfl, mem⟩
      exact inside mem

theorem mem_endAddrs {addr : IpAddr} :
    addr ∈ endAddrs segment ↔ shouldReserveNetworkBroadcast segment.net = true ∧
      (addr = network segment.net ∨ addr = broadcast segment.net) := by
  unfold endAddrs
  split
  next large => simp [large]
  next small => simp [small]

/-- With a reservation count that is not negative, the taken networks are listed. -/
theorem buildAllocatedNetworks_spec (usedIps : List IpNet) (counted : 0 ≤ segment.numReserved) :
    ∃ networks, buildAllocatedNetworks segment usedIps = .ok networks ∧
      ∀ net, net ∈ networks ↔ Taken segment usedIps net := by
  have notNegative : ¬ segment.numReserved < 0 := by omega
  refine ⟨_, by rw [buildAllocatedNetworks, if_neg notNegative, mapM_newNetwork]; rfl, ?_⟩
  intro net
  simp only [mem_append, mem_map, mem_filter, contains_iff, mem_gatewayAddrs, mem_endAddrs]
  constructor
  · rintro (⟨addr, (⟨isGateway, inside⟩ | mem) | ⟨large, rfl | rfl⟩, rfl⟩ | ⟨mem, inside⟩)
    · exact .gateway isGateway inside
    · exact .reserved mem
    · exact .network large
    · exact .broadcast large
    · exact .used mem inside
  · intro taken
    cases taken with
    | gateway isGateway inside => exact .inl ⟨_, .inl (.inl ⟨isGateway, inside⟩), rfl⟩
    | reserved mem => exact .inl ⟨_, .inl (.inr mem), rfl⟩
    | network large => exact .inl ⟨_, .inr ⟨large, .inl rfl⟩, rfl⟩
    | broadcast large => exact .inl ⟨_, .inr ⟨large, .inr rfl⟩, rfl⟩
    | used mem inside => exact .inr ⟨mem, inside⟩

end Taken

/-! ## Allocation -/

section Allocation

variable [Ipnetwork] {segment : SegmentPrefix ι} {usedIps : List IpNet}
  {strategy : AddressSelectionStrategy}

structure Avoids (segment : SegmentPrefix ι) (usedIps : List IpNet)
    (strategy : AddressSelectionStrategy) (network : IpNet) : Prop where
  inside : ∀ addr ∈ network, addr ∈ segment.net
  length : requestedLength strategy segment.net = some network.prefixLen
  used : ∀ used ∈ usedIps, ¬ IpNet.Overlap network used
  gateway : ∀ addr, segment.gateway = some addr → addr ∈ segment.net → addr ∉ network
  reserved : ∀ addr ∈ reservedAddrs segment, addr ∉ network
  ends : shouldReserveNetworkBroadcast segment.net = true →
    Ipnetwork.network segment.net ∉ network ∧ broadcast segment.net ∉ network

/-- No free candidate is lost to the collapse before one is found: every candidate that meets taken
networks, all shadowed by longer ones with the same network address, has a lower one that meets
none. -/
def NoLoss (segment : SegmentPrefix ι) (usedIps : List IpNet)
    (strategy : AddressSelectionStrategy) : Prop :=
  ∀ prefixLength, requestedLength strategy segment.net = some prefixLength →
    segment.net.prefixLen < prefixLength →
    ∀ candidate, Candidate segment.net prefixLength candidate →
      (∃ net, Taken segment usedIps net ∧ IpNet.Overlap candidate net) →
      (∀ net, Taken segment usedIps net → IpNet.Overlap candidate net →
        Shadowed (Taken segment usedIps) net) →
      ∃ lower, Candidate segment.net prefixLength lower ∧
        lower.block.first < candidate.block.first ∧
        ∀ net, Taken segment usedIps net → ¬ IpNet.Overlap lower net

variable {network : IpNet}

theorem avoids_iff (inside : ∀ addr ∈ network, addr ∈ segment.net)
    (length : requestedLength strategy segment.net = some network.prefixLen)
    (within : ∀ used ∈ usedIps, ∀ addr ∈ used, addr ∈ segment.net) :
    Avoids segment usedIps strategy network ↔
      ∀ net, Taken segment usedIps net → ¬ IpNet.Overlap network net := by
  constructor
  · intro avoids net taken
    cases taken with
    | gateway isGateway inside =>
      rw [overlap_host]
      exact avoids.gateway _ isGateway inside
    | reserved mem =>
      rw [overlap_host]
      exact avoids.reserved _ mem
    | network large =>
      rw [overlap_host]
      exact (avoids.ends large).1
    | broadcast large =>
      rw [overlap_host]
      exact (avoids.ends large).2
    | used mem _ => exact avoids.used net mem
  · intro free
    exact {
      inside := inside
      length := length
      used := by
        intro used mem
        refine free used (.used mem (within used mem _ ?_))
        rw [mem_def, network_family, network_bits]
        exact ⟨rfl, used.block.first_mem⟩
      gateway := fun addr isGateway inside =>
        mt overlap_host.mpr (free _ (.gateway isGateway inside))
      reserved := fun addr mem =>
        mt overlap_host.mpr (free _ (.reserved mem))
      ends := fun large => ⟨mt overlap_host.mpr (free _ (.network large)),
        mt overlap_host.mpr (free _ (.broadcast large))⟩ }

/-- The allocated list of a segment meets a candidate exactly through the taken
networks that are not shadowed. -/
theorem getAllocated_spec (allocator : IpAllocator ι) (counted : 0 ≤ segment.numReserved) :
    ∃ allocated, allocator.getAllocated segment = .ok allocated ∧
      ∀ candidate, Meets allocated candidate ↔ ∃ net, Taken segment allocator.usedIps net ∧
          ¬ Shadowed (Taken segment allocator.usedIps) net ∧
          IpNet.Overlap candidate net := by
  obtain ⟨networks, networksEq, mem_networks⟩ :=
    buildAllocatedNetworks_spec allocator.usedIps counted
  refine ⟨collapseAllocatedNetworks networks, by rw [getAllocated, networksEq]; rfl, ?_⟩
  intro candidate
  rw [Meets, exists_overlap_collapse_iff]
  simp only [Shadowed, mem_networks]

variable {net : IpNet}

theorem Taken.inside (taken : Taken segment usedIps net)
    (within : ∀ used ∈ usedIps, ∀ addr ∈ used, addr ∈ segment.net) :
    ∀ addr ∈ net, addr ∈ segment.net := by
  intro addr mem
  cases taken with
  | gateway _ inside =>
    rw [mem_host] at mem
    exact mem ▸ inside
  | reserved reserved =>
    rw [mem_host] at mem
    exact mem ▸ (mem_iter _ _).mp (mem_of_mem_take reserved)
  | network _ =>
    rw [mem_host] at mem
    rw [mem, mem_def, network_family, network_bits]
    exact ⟨rfl, Block.first_mem _⟩
  | broadcast _ =>
    rw [mem_host] at mem
    rw [mem, mem_def, broadcast_family, broadcast_bits]
    exact ⟨rfl, Block.last_mem _⟩
  | used used _ => exact within net used addr mem

variable {allocator : IpAllocator ι}

/-- The search in a segment for the requested length, with the outcome seen from
the taken networks. -/
theorem allocate_eq {allocated : List IpNet}
    (allocatedEq : allocator.getAllocated segment = .ok allocated) :
    allocator.allocate segment = .ok (.ok network) ↔
      ∃ prefixLength, requestedLength allocator.addressStrategy segment.net = some prefixLength ∧
        nextAvailablePrefix (ι := ι) segment.net prefixLength allocated =
          .ok (.ok (some network)) := by
  rw [allocate, allocatedEq]
  cases requestedLength allocator.addressStrategy segment.net with
  | none => simp
  | some prefixLength =>
    simp only [Option.some.injEq, exists_eq_left']
    cases nextAvailablePrefix (ι := ι) segment.net prefixLength allocated with
    | error reason => simp [bind, Except.bind]
    | ok outcome =>
      rcases outcome with err | _ | found <;> simp [bind, Except.bind, pure, Except.pure]

theorem not_shadowed_of_single (taken : Taken segment usedIps net)
    (within : ∀ used ∈ usedIps, ∀ addr ∈ used, addr ∈ segment.net)
    (single : segment.net.prefixLen = 128) : ¬ Shadowed (Taken segment usedIps) net := by
  obtain ⟨families, subset⟩ := forall_mem_iff.mp (taken.inside within)
  have level := Block.level_le_of_subset subset
  have length := net.prefixLen_le
  rw [families] at length
  rw [level_eq, level_eq, families, single] at level
  have width := segment.net.addressFamily.interfacePrefixLen_le
  rw [(eq_host (by rw [families]; omega) : net = _)]
  exact not_shadowed_host

/-- Both halves of the IPv4 address space are taken: one has the network address and
the other the broadcast address. -/
theorem halves_taken {prefixLength : Nat} {candidate : IpNet}
    (family : segment.net.addressFamily = .ipv4) (half : prefixLength = 1)
    (longer : segment.net.prefixLen < prefixLength)
    (isCandidate : Candidate segment.net prefixLength candidate) :
    ∃ net, Taken segment usedIps net ∧ ¬ Shadowed (Taken segment usedIps) net ∧
      IpNet.Overlap candidate net := by
  subst half
  have large : shouldReserveNetworkBroadcast segment.net = true := by
    cases netEq : segment.net with
    | v4 net =>
      rw [netEq, IpNet.prefixLen] at longer
      simp only [shouldReserveNetworkBroadcast, decide_eq_true_eq]
      omega
    | v6 net =>
      rw [netEq] at family
      cases family
  have segmentLevel : segment.net.block.level = 32 := by
    rw [level_eq, family]
    simp only [IpAddressFamily.interfacePrefixLen]
    omega
  have level : candidate.block.level = 31 := by
    rw [level_eq, isCandidate.family, family, isCandidate.length]
    rfl
  have segmentFirst : segment.net.block.first = segment.net.block.index * 2 ^ 32 := by
    rw [Block.first, segmentLevel]
  have first : candidate.block.first = candidate.block.index * 2 ^ 31 := by
    rw [Block.first, level]
  have bounds := Block.subset_iff_bounds.mp isCandidate.inside
  simp only [Block.last, level, segmentLevel] at bounds
  by_cases low : candidate.block.first = segment.net.block.first
  · refine ⟨_, .network large, not_shadowed_host, overlap_host.mpr ?_⟩
    rw [mem_def, network_family, network_bits, ← low]
    exact ⟨isCandidate.family.symm, Block.first_mem _⟩
  · refine ⟨_, .broadcast large, not_shadowed_host, overlap_host.mpr ?_⟩
    rw [mem_def, broadcast_family, broadcast_bits]
    refine ⟨isCandidate.family.symm, Block.mem_iff_bounds.mpr ?_⟩
    simp only [Block.last, level, segmentLevel]
    omega

theorem next_eq_ok_iff {rest : List (SegmentPrefix ι)}
    (visits : allocator.prefixes = segment :: rest) :
    (∃ after, allocator.next = .ok (some (segment.id, .ok network), after)) ↔
      { allocator with prefixes := rest }.allocate segment = .ok (.ok network) := by
  simp only [next, visits]
  cases { allocator with prefixes := rest }.allocate segment with
  | error reason => simp [bind, Except.bind]
  | ok outcome => simp [bind, Except.bind, pure, Except.pure]

/-- One step of the allocator hands out only networks that avoid everything taken
if and only if the collapse loses no candidate that a free one does not precede. -/
theorem next_avoids_iff_noLoss {allocator : IpAllocator ι} {rest : List (SegmentPrefix ι)}
    (visits : allocator.prefixes = segment :: rest) (counted : 0 ≤ segment.numReserved)
    (within : ∀ used ∈ allocator.usedIps, ∀ addr ∈ used, addr ∈ segment.net) :
    (∀ network after, allocator.next = .ok (some (segment.id, .ok network), after) →
        Avoids segment allocator.usedIps allocator.addressStrategy network) ↔
      NoLoss segment allocator.usedIps allocator.addressStrategy := by
  obtain ⟨allocated, allocatedEq, allocated_iff⟩ :=
    getAllocated_spec { allocator with prefixes := rest } counted
  have searched : ∀ {prefixLength : Nat}, segment.net.prefixLen < prefixLength →
      prefixLength ≤ segment.net.addressFamily.interfacePrefixLen →
      ScanResult (ι := ι) segment.net prefixLength allocated segment.net.block.first
        (nextAvailablePrefix segment.net prefixLength allocated) := by
    intro prefixLength longer fits
    refine nextAvailablePrefix_spec longer fits ?_
    intro family half candidate isCandidate
    exact isAllocated_iff.mpr
      ((allocated_iff candidate).mpr (halves_taken family half longer isCandidate))
  have outcome : ∀ network,
      (∃ after, allocator.next = .ok (some (segment.id, .ok network), after)) ↔
        ∃ prefixLength, requestedLength allocator.addressStrategy segment.net = some prefixLength ∧
          nextAvailablePrefix (ι := ι) segment.net prefixLength allocated =
            .ok (.ok (some network)) := fun network =>
    (next_eq_ok_iff visits).trans (allocate_eq allocatedEq)
  constructor
  · intro avoids prefixLength requested longer candidate isCandidate overlapping shadowed
    have fits : prefixLength ≤ segment.net.addressFamily.interfacePrefixLen := by
      have bound := candidate.prefixLen_le
      rwa [isCandidate.family, isCandidate.length] at bound
    have notAllocated : ¬ Meets allocated candidate := by
      rw [allocated_iff]
      rintro ⟨net, taken, unshadowed, overlap⟩
      exact unshadowed (shadowed net taken overlap)
    rcases searched longer fits with ⟨found, foundEq, foundCandidate, -⟩ | ⟨-, allAllocated⟩
    · obtain ⟨after, nextEq⟩ := (outcome found).mpr ⟨prefixLength, requested, foundEq⟩
      have foundAvoids := avoids found after nextEq
      have free := (avoids_iff foundAvoids.inside foundAvoids.length within).mp foundAvoids
      refine ⟨found, foundCandidate, ?_, free⟩
      by_contra notLower
      rcases Nat.eq_or_lt_of_le (not_lt.mp notLower) with same | before
      · obtain ⟨net, taken, overlap⟩ := overlapping
        rw [isCandidate.eq_of_first foundCandidate same] at overlap
        exact free net taken overlap
      · exact notAllocated ((lowest_of_found foundEq).2.2.2 candidate isCandidate before)
    · have all := allAllocated candidate isCandidate isCandidate.first_le
      exact absurd (isAllocated_iff.mp all) notAllocated
  · intro noLoss network after nextEq
    obtain ⟨prefixLength, requested, found⟩ := (outcome network).mp ⟨after, nextEq⟩
    obtain ⟨valid, isCandidate, free, lower⟩ := lowest_of_found found
    have shadowed : ∀ net, Taken segment allocator.usedIps net →
        IpNet.Overlap network net → Shadowed (Taken segment allocator.usedIps) net := by
      intro net taken overlap
      by_contra unshadowed
      exact free ((allocated_iff network).mpr ⟨net, taken, unshadowed, overlap⟩)
    refine (avoids_iff isCandidate.mem (by rw [requested, isCandidate.length]) within).mpr
      fun net taken overlap => ?_
    rcases valid with longer | ⟨single, -⟩
    · obtain ⟨below, belowCandidate, before, freeOf⟩ := noLoss prefixLength requested longer
        network isCandidate ⟨net, taken, overlap⟩ shadowed
      obtain ⟨blocker, blockerTaken, -, blockerOverlap⟩ :=
        (allocated_iff below).mp (lower below belowCandidate before)
      exact freeOf blocker blockerTaken blockerOverlap
    · exact not_shadowed_of_single taken within single (shadowed net taken overlap)

/-! ## Single addresses

When every network in use is a single address the collapse loses nothing, and the
allocator hands out the lowest address of a segment prefix that is not taken. -/

theorem Taken.exists_host (taken : Taken segment usedIps net)
    (hosts : ∀ used ∈ usedIps, ∃ addr, used = .host addr) : ∃ addr, net = .host addr := by
  cases taken with
  | gateway | reserved | network | broadcast => exact ⟨_, rfl⟩
  | used mem _ => exact hosts net mem

/-- An address that the allocator may hand out next: it lies in the segment prefix,
is not taken, and every lower address is taken. -/
structure LowestFree (segment : SegmentPrefix ι) (usedIps : List IpNet) (addr : IpAddr) :
    Prop where
  inside : addr ∈ segment.net
  free : ¬ Taken segment usedIps (.host addr)
  lowest : ∀ lower ∈ segment.net, lower.bits < addr.bits → Taken segment usedIps (.host lower)

/-- An allocation succeeds only with a reservation count that is not negative. -/
theorem numReserved_nonneg (found : allocator.allocate segment = .ok (.ok network)) :
    0 ≤ segment.numReserved := by
  by_contra negative
  have failed : allocator.getAllocated segment =
      .error (.negativeReservationCount segment.id segment.numReserved) := by
    rw [getAllocated, buildAllocatedNetworks, if_pos (by omega)]
    rfl
  rw [allocate, failed] at found
  cases found

/-- The allocated list of a segment blocks exactly the addresses that are taken. -/
theorem getAllocated_hosts (allocator : IpAllocator ι) (counted : 0 ≤ segment.numReserved)
    (hosts : ∀ used ∈ allocator.usedIps, ∃ addr, used = .host addr) :
    ∃ allocated, allocator.getAllocated segment = .ok allocated ∧
      ∀ addr, Meets allocated (.host addr) ↔ Taken segment allocator.usedIps (.host addr) := by
  obtain ⟨allocated, allocatedEq, allocated_iff⟩ := getAllocated_spec allocator counted
  refine ⟨allocated, allocatedEq, fun addr => ?_⟩
  rw [allocated_iff]
  constructor
  · rintro ⟨net, taken, -, overlap⟩
    obtain ⟨other, rfl⟩ := taken.exists_host hosts
    rw [overlap_host, mem_host] at overlap
    exact overlap ▸ taken
  · intro taken
    exact ⟨_, taken, not_shadowed_host, overlap_host.mpr (mem_host.mpr rfl)⟩

/-- An address is handed out only as the lowest one that is not taken. -/
theorem allocate_lowestFree (strategy : allocator.addressStrategy = .nextAvailableIp)
    (hosts : ∀ used ∈ allocator.usedIps, ∃ addr, used = .host addr)
    (found : allocator.allocate segment = .ok (.ok network)) :
    ∃ addr, network = .host addr ∧ LowestFree segment allocator.usedIps addr := by
  obtain ⟨allocated, allocatedEq, taken_iff⟩ :=
    getAllocated_hosts allocator (numReserved_nonneg found) hosts
  obtain ⟨prefixLength, requested, foundEq⟩ := (allocate_eq allocatedEq).mp found
  rw [strategy, requestedLength, Option.some.injEq] at requested
  subst requested
  obtain ⟨-, isCandidate, free, lower⟩ := lowest_of_found foundEq
  obtain ⟨addr, rfl⟩ : ∃ addr, network = .host addr :=
    ⟨_, eq_host (by rw [isCandidate.length, isCandidate.family])⟩
  refine ⟨addr, rfl, isCandidate.mem addr (mem_host.mpr rfl), mt (taken_iff addr).mpr free,
    fun below belowIn less => (taken_iff below).mp (lower _ (candidate_host belowIn) ?_)⟩
  rwa [host_block_first, host_block_first]

end Allocation

/-- The segment 10.0.0.0/29 with its first four addresses reserved. -/
def lossySegment : SegmentPrefix Unit :=
  ⟨(), .v4 ⟨0x0a000000#32, 29, by decide⟩, none, 4⟩

/-- In the segment 10.0.0.4/30 is in use as a network, and 10.0.0.4 once more as a
single address. -/
def lossyAllocator : IpAllocator Unit where
  prefixes := [lossySegment]
  usedIps := [.v4 ⟨0x0a000004#32, 30, by decide⟩, .host (.v4 0x0a000004#32)]
  addressStrategy := .nextAvailableIp

theorem lossyAllocator_within :
    ∀ used ∈ lossyAllocator.usedIps, ∀ addr ∈ used, addr ∈ lossySegment.net := by
  simp only [lossyAllocator, forall_mem_cons, forall_mem_iff]
  decide

/-- The allocator hands out 10.0.0.5, an address of the used network 10.0.0.4/30. -/
theorem lossyAllocator_overlaps :
    letI := reference
    lossyAllocator.prefixes = [lossySegment] ∧ 0 ≤ lossySegment.numReserved ∧
      (∀ used ∈ lossyAllocator.usedIps, ∀ addr ∈ used, addr ∈ lossySegment.net) ∧
      ¬ ∀ network after, lossyAllocator.next = .ok (some ((), .ok network), after) →
        Avoids lossySegment lossyAllocator.usedIps lossyAllocator.addressStrategy network := by
  let := reference
  refine ⟨rfl, by decide, lossyAllocator_within, ?_⟩
  intro avoids
  have handed : lossyAllocator.next =
      .ok (some ((), .ok (.v4 ⟨0x0a000005#32, 32, by decide⟩)),
        { lossyAllocator with prefixes := [] }) := by
    decide +kernel
  have apart := (avoids _ _ handed).used (.v4 ⟨0x0a000004#32, 30, by decide⟩)
    (mem_cons_self ..)
  refine apart (overlap_iff.mpr ?_)
  decide

/-- The loss condition decides the allocator of the example. -/
theorem next_avoids_iff_noLoss_lossyAllocator :
    letI := reference
    (∀ network after, lossyAllocator.next = .ok (some ((), .ok network), after) →
        Avoids lossySegment lossyAllocator.usedIps lossyAllocator.addressStrategy network) ↔
      NoLoss lossySegment lossyAllocator.usedIps lossyAllocator.addressStrategy := by
  let := reference
  exact next_avoids_iff_noLoss rfl (by decide) lossyAllocator_within

end IpAllocator

end ApiDb
