import BareMetalManager.ApiDb.IpAllocator

/-!
# Scanning for a free network

The scan visits the candidates of a segment in ascending order and is exact for the
list of allocated networks that it is given: it finds the lowest candidate that
overlaps none of them.
-/

namespace ApiDb

open Collections Dyadic Network IpNet Ipnetwork

namespace IpAllocator

variable {ι : Type} {segment : IpNet} {prefixLength : Nat}

/-- The networks that the scan of a segment considers: those of the requested
length inside the segment, written without host bits. -/
structure Candidate (segment : IpNet) (prefixLength : Nat) (net : IpNet) : Prop where
  family : net.addressFamily = segment.addressFamily
  length : net.prefixLen = prefixLength
  canonical : (ip net).bits = net.block.first
  inside : net.block ⊆ segment.block

variable {left right net : IpNet}

theorem family_ip (net : IpNet) : (ip net).addressFamily = net.addressFamily := by
  cases net <;> rfl

theorem eq_of_ip (addrs : ip left = ip right) (lengths : left.prefixLen = right.prefixLen) :
    left = right := by
  obtain ⟨_, _, _⟩ | ⟨_, _, _⟩ := left <;> obtain ⟨_, _, _⟩ | ⟨_, _, _⟩ := right <;>
    cases addrs <;> cases lengths <;> rfl

theorem Candidate.eq_of_first (leftCandidate : Candidate segment prefixLength left)
    (rightCandidate : Candidate segment prefixLength right)
    (firsts : left.block.first = right.block.first) : left = right := by
  obtain ⟨leftFamily, leftLength, leftCanonical, -⟩ := leftCandidate
  obtain ⟨rightFamily, rightLength, rightCanonical, -⟩ := rightCandidate
  refine eq_of_ip (IpAddr.ext_bits ?_ ?_) (leftLength.trans rightLength.symm)
  · rw [family_ip, family_ip, leftFamily, rightFamily]
  · rw [leftCanonical, firsts, rightCanonical]

section Candidates

variable (candidate : Candidate segment prefixLength net)
include candidate

theorem Candidate.first_le : segment.block.first ≤ net.block.first :=
  (Block.subset_iff_bounds.mp candidate.inside).1

theorem Candidate.mem : ∀ addr ∈ net, addr ∈ segment :=
  forall_mem_iff.mpr ⟨candidate.family, candidate.inside⟩

theorem Candidate.dvd_first :
    2 ^ (segment.addressFamily.interfacePrefixLen - prefixLength) ∣ net.block.first := by
  rw [← candidate.family, ← candidate.length, ← level_eq]
  exact Nat.dvd_mul_left _ _

theorem Candidate.eq_or_add_le {other : IpNet}
    (otherCandidate : Candidate segment prefixLength other)
    (le : net.block.first ≤ other.block.first) :
    other = net ∨ net.block.first +
      2 ^ (segment.addressFamily.interfacePrefixLen - prefixLength) ≤ other.block.first := by
  by_cases firsts : other.block.first = net.block.first
  · exact .inl (otherCandidate.eq_of_first candidate firsts)
  · right
    have apart := Nat.le_of_dvd (by omega)
      (Nat.dvd_sub otherCandidate.dvd_first candidate.dvd_first)
    omega

end Candidates

section Built

variable {currentIp : Nat} (fits : prefixLength ≤ segment.addressFamily.interfacePrefixLen)
  (shorter : segment.prefixLen ≤ prefixLength) (mem : currentIp ∈ segment.block)
  (aligned : 2 ^ (segment.addressFamily.interfacePrefixLen - prefixLength) ∣ currentIp)
include fits shorter mem aligned

theorem buildCandidateSubnet_spec :
    ∃ candidate, buildCandidateSubnet (ι := ι) segment currentIp prefixLength = .ok candidate ∧
      Candidate segment prefixLength candidate ∧ candidate.block.first = currentIp := by
  have bits := addrAt_bits mem
  obtain ⟨candidate, candidateEq, family, length, addr⟩ : ∃ candidate,
      IpNet.new (segment.addrAt currentIp) prefixLength = some candidate ∧
      candidate.addressFamily = segment.addressFamily ∧
      candidate.prefixLen = prefixLength ∧ ip candidate = segment.addrAt currentIp := by
    cases segment <;> exact ⟨_, dif_pos fits, rfl, rfl, rfl⟩
  have level : candidate.block.level =
      segment.addressFamily.interfacePrefixLen - prefixLength := by
    rw [level_eq, family, length]
  have currentMem : currentIp ∈ candidate.block := by
    rw [← bits, ← addr]
    cases candidate <;> exact Block.mem_def.mpr rfl
  have first : candidate.block.first = currentIp := by
    rw [Block.mem_def, level] at currentMem
    rw [Block.first, level, ← currentMem]
    exact Nat.div_mul_cancel aligned
  refine ⟨candidate, ?_, ⟨family, length, ?_, ?_⟩, first⟩
  · rw [buildCandidateSubnet, newNetwork, candidateEq]
  · rw [addr, bits, first]
  · refine Block.subset_of_level_le ?_ currentMem mem
    rw [level, level_eq]
    omega

theorem candidate_of_built {candidate : IpNet}
    (built : buildCandidateSubnet (ι := ι) segment currentIp prefixLength = .ok candidate) :
    Candidate segment prefixLength candidate ∧ candidate.block.first = currentIp := by
  obtain ⟨other, otherBuilt, spec⟩ := buildCandidateSubnet_spec (ι := ι) fits shorter mem aligned
  rw [built] at otherBuilt
  cases otherBuilt
  exact spec

end Built

/-! ## Single addresses -/

variable (addr : IpAddr)

theorem host_prefixLen : (IpNet.host addr).prefixLen = addr.addressFamily.interfacePrefixLen := by
  cases addr <;> rfl

theorem ip_host : ip (.host addr) = addr := by
  cases addr <;> rfl

theorem eq_host (single : net.prefixLen = net.addressFamily.interfacePrefixLen) :
    net = .host (ip net) :=
  eq_of_ip (ip_host _).symm (by rw [host_prefixLen, family_ip, single])

theorem host_block_first : (IpNet.host addr).block.first = addr.bits := by
  rw [host_block, Block.first, Nat.pow_zero, Nat.mul_one]

/-- The candidates of the longest prefix are the addresses of the segment. -/
theorem candidate_host {addr : IpAddr} (inside : addr ∈ net) :
    Candidate net net.addressFamily.interfacePrefixLen (.host addr) where
  family := (host_addressFamily addr).trans inside.1
  length := by rw [host_prefixLen, inside.1]
  canonical := by rw [ip_host, host_block_first]
  inside := by
    refine (forall_mem_iff.mp ?_).2
    intro other isHost
    rw [mem_host] at isHost
    exact isHost ▸ inside

theorem ip_mem (net : IpNet) : ip net ∈ net := by
  cases net <;> exact ⟨rfl, Net.addr_mem _⟩

section Operations

variable [Ipnetwork] {allocated : List IpNet}

theorem contains_or_iff : (contains left (network right) ||
    contains right (network left)) = true ↔ IpNet.Overlap left right := by
  simp only [Bool.or_eq_true, contains_iff, mem_def, network_family, network_bits, overlap_iff]
  grind

theorem isAllocated_iff {candidate : IpNet} :
    isAllocated allocated candidate = true ↔
      ∃ net ∈ allocated, IpNet.Overlap candidate net := by
  simp only [isAllocated, List.any_eq_true, contains_or_iff]
  exact exists_congr fun net => and_congr_right fun _ => ⟨.symm, .symm⟩

theorem network_host (addr : IpAddr) : network (.host addr) = addr := by
  refine IpAddr.ext_bits ?_ ?_
  · rw [network_family, host_addressFamily]
  · rw [network_bits, host_block_first]

/-- What a scan that starts at `currentIp` finds: the lowest free candidate, or
nothing (at the end of the segment or of the number range) when there is none. -/
def ScanResult (segment : IpNet) (prefixLength : Nat) (allocated : List IpNet)
    (currentIp : Nat) (result : Checked (Except (DatabaseError ι) (Option IpNet))) : Prop :=
  (∃ found, result = .ok (.ok (some found)) ∧ Candidate segment prefixLength found ∧
    isAllocated allocated found = false ∧
    ∀ net, Candidate segment prefixLength net → currentIp ≤ net.block.first →
      net.block.first < found.block.first → isAllocated allocated net = true) ∨
  ((result = .ok (.ok none) ∨ result = .error .overflow) ∧
    ∀ net, Candidate segment prefixLength net → currentIp ≤ net.block.first →
      isAllocated allocated net = true)

/-- The scan is exact, and the step behind its last candidate overflows exactly at the end of
the number range. -/
theorem scan_spec {details : NetworkDetails} {currentIp : Nat}
    (fits : prefixLength ≤ segment.addressFamily.interfacePrefixLen)
    (shorter : segment.prefixLen ≤ prefixLength)
    (size : details.networkSize = 2 ^ (segment.addressFamily.interfacePrefixLen - prefixLength))
    (last : details.broadcastIp = segment.block.last) (start : segment.block.first ≤ currentIp)
    (aligned : 2 ^ (segment.addressFamily.interfacePrefixLen - prefixLength) ∣ currentIp)
    (allocated : List IpNet) (small : currentIp < 2 ^ 128) :
    ScanResult (ι := ι) segment prefixLength allocated currentIp
        (scan segment prefixLength allocated details currentIp) ∧
      (scan (ι := ι) segment prefixLength allocated details currentIp = .ok (.ok none) →
        segment.block.last + 1 < 2 ^ 128) ∧
      (scan (ι := ι) segment prefixLength allocated details currentIp = .error .overflow →
        segment.block.last + 1 = 2 ^ 128) := by
  fun_induction scan segment prefixLength allocated details currentIp with
  | case1 currentIp inRange err failed =>
    obtain ⟨candidate, built, -, -⟩ := buildCandidateSubnet_spec (ι := ι) fits shorter
      (Block.mem_iff_bounds.mpr ⟨start, last ▸ inRange⟩) aligned
    rw [failed] at built
    cases built
  | case2 currentIp inRange candidate built taken noOverflow ih =>
    obtain ⟨isCandidate, first⟩ := candidate_of_built fits shorter
      (Block.mem_iff_bounds.mpr ⟨start, last ▸ inRange⟩) aligned built
    have skip : ∀ net, Candidate segment prefixLength net →
        currentIp ≤ net.block.first → isAllocated allocated net = true ∨
          currentIp + details.networkSize ≤ net.block.first := by
      intro net netCandidate le
      rw [← first] at le
      rcases isCandidate.eq_or_add_le netCandidate le with rfl | beyond
      · exact .inl taken
      · rw [size, ← first]
        exact .inr beyond
    obtain ⟨later, ends⟩ :=
      ih (by omega) (by rw [size]; exact Nat.dvd_add aligned (Nat.dvd_refl _)) noOverflow
    refine ⟨?_, ends⟩
    rcases later with ⟨found, resultEq, foundCandidate, free, lower⟩ | ⟨resultEq, none⟩
    · refine .inl ⟨found, resultEq, foundCandidate, free, ?_⟩
      intro net netCandidate le less
      rcases skip net netCandidate le with allocatedNet | beyond
      · exact allocatedNet
      · exact lower net netCandidate beyond less
    · refine .inr ⟨resultEq, ?_⟩
      intro net netCandidate le
      rcases skip net netCandidate le with allocatedNet | beyond
      · exact allocatedNet
      · exact none net netCandidate beyond
  | case3 currentIp inRange candidate built taken overflow =>
    obtain ⟨isCandidate, first⟩ := candidate_of_built fits shorter
      (Block.mem_iff_bounds.mpr ⟨start, last ▸ inRange⟩) aligned built
    have inside := (Block.subset_iff_bounds.mp isCandidate.inside).2
    rw [Block.last, level_eq, isCandidate.family, isCandidate.length, first, ← size] at inside
    have lastLt := lt_of_mem segment.block.last_mem
    refine ⟨.inr ⟨.inr rfl, ?_⟩, by simp, fun _ => by omega⟩
    intro net netCandidate le
    rw [← first] at le
    rcases isCandidate.eq_or_add_le netCandidate le with rfl | beyond
    · exact taken
    · have small := net.first_lt
      omega
  | case4 currentIp inRange candidate built free =>
    obtain ⟨isCandidate, first⟩ := candidate_of_built fits shorter
      (Block.mem_iff_bounds.mpr ⟨start, last ▸ inRange⟩) aligned built
    refine ⟨.inl ⟨candidate, rfl, isCandidate, by simpa using free, ?_⟩, by simp, by simp⟩
    intro net _ le less
    omega
  | case5 currentIp outOfRange =>
    refine ⟨.inr ⟨.inl rfl, ?_⟩, fun _ => by omega, by simp⟩
    intro net netCandidate le
    have bounds := Block.subset_iff_bounds.mp netCandidate.inside
    have firstLe := (Block.mem_iff_bounds.mp net.block.first_mem).2
    omega

omit [Ipnetwork] in
theorem ipv4NetworkSize_eq {shift : Nat} (bound : shift < 31) :
    ipv4NetworkSize shift = 2 ^ shift := by
  have all : ∀ shift < 31, ((1#32 <<< shift).signExtend 128).toNat = 2 ^ shift := by decide
  exact all shift bound

theorem getNetworkDetails_too_long
    (long : segment.addressFamily.interfacePrefixLen < prefixLength) :
    getNetworkDetails segment prefixLength = .error .overflow := by
  cases segment with
  | v4 net =>
    have long : 32 < prefixLength := long
    exact dif_neg (by omega)
  | v6 net =>
    have long : 128 < prefixLength := long
    exact dif_neg (by omega)

omit [Ipnetwork] in
theorem last_lt_of_ipv4 (family : segment.addressFamily = .ipv4) : segment.block.last < 2 ^ 32 := by
  cases segment with
  | v4 net => exact net.last_lt
  | v6 net => cases family

section Search

variable (longer : segment.prefixLen < prefixLength)
  (fits : prefixLength ≤ segment.addressFamily.interfacePrefixLen)
include longer fits

/-- The bounds of a scan are those of the segment, and the step is the size of a
candidate, except for IPv4 halves: there the step is a negated 32-bit number. -/
theorem getNetworkDetails_spec :
    ∃ details, getNetworkDetails segment prefixLength = .ok details ∧
      details.baseIp = segment.block.first ∧ details.broadcastIp = segment.block.last ∧
      details.networkSize = if segment.addressFamily = .ipv4 ∧ prefixLength = 1 then
        ipv4NetworkSize 31 else 2 ^ (segment.addressFamily.interfacePrefixLen - prefixLength) := by
  cases segment with
  | v4 net =>
    have bound : prefixLength ≤ 32 := fits
    refine ⟨_, dif_pos ⟨bound, by omega⟩, network_bits _, broadcast_bits _, ?_⟩
    split
    next halved =>
      obtain ⟨-, rfl⟩ := halved
      rfl
    next several =>
      have several : prefixLength ≠ 1 := fun one => several ⟨rfl, one⟩
      exact ipv4NetworkSize_eq (by omega)
  | v6 net =>
    have bound : prefixLength ≤ 128 := fits
    refine ⟨_, dif_pos ⟨bound, by omega⟩, network_bits _, broadcast_bits _, ?_⟩
    exact Net.toNat_one_shiftLeft (by omega)

theorem nextAvailablePrefix_eq_scan (allocated : List IpNet) :
    ∃ details : NetworkDetails, details.broadcastIp = segment.block.last ∧
      details.networkSize = (if segment.addressFamily = .ipv4 ∧ prefixLength = 1 then
        ipv4NetworkSize 31 else 2 ^ (segment.addressFamily.interfacePrefixLen - prefixLength)) ∧
      nextAvailablePrefix (ι := ι) segment prefixLength allocated =
        scan segment prefixLength allocated details segment.block.first := by
  obtain ⟨details, detailsEq, base, last, size⟩ := getNetworkDetails_spec longer fits
  refine ⟨details, last, size, ?_⟩
  rw [nextAvailablePrefix, if_neg (by omega), if_neg (by omega), detailsEq, ← base]
  rfl

omit [Ipnetwork] fits in
theorem aligned_first :
    2 ^ (segment.addressFamily.interfacePrefixLen - prefixLength) ∣ segment.block.first := by
  refine Nat.dvd_trans (Nat.pow_dvd_pow 2 ?_) (Nat.dvd_mul_left _ segment.block.index)
  rw [level_eq]
  omega

theorem nextAvailablePrefix_halves (allocated : List IpNet)
    (halved : segment.addressFamily = .ipv4 ∧ prefixLength = 1) :
    ∃ lower, Candidate segment prefixLength lower ∧ lower.block.first = segment.block.first ∧
      segment.block.first = 0 ∧ nextAvailablePrefix (ι := ι) segment prefixLength allocated =
        .ok (.ok (if isAllocated allocated lower then none else some lower)) := by
  obtain ⟨details, last, size, searched⟩ :=
    nextAvailablePrefix_eq_scan (ι := ι) longer fits allocated
  rw [if_pos halved] at size
  have stepEq : ipv4NetworkSize 31 = 2 ^ 128 - 2 ^ 31 := by decide
  have lastLt := last_lt_of_ipv4 halved.1
  have firstLe := (Block.mem_iff_bounds.mp segment.block.first_mem).2
  have zero : segment.block.first = 0 := by
    have level : segment.block.level = 32 := by
      rw [level_eq, halved.1]
      simp only [IpAddressFamily.interfacePrefixLen]
      omega
    rw [Block.first, level] at firstLe ⊢
    omega
  obtain ⟨lower, built, isCandidate, first⟩ := buildCandidateSubnet_spec (ι := ι) fits
    longer.le segment.block.first_mem (aligned_first longer)
  refine ⟨lower, isCandidate, first, zero, ?_⟩
  rw [searched, scan, if_pos (by omega), built]
  simp only
  split
  next => rw [if_pos (by omega), scan, if_neg (by omega)]
  next => rfl

/-- Any other search is exact, and it overflows exactly at the end of the number range. -/
theorem nextAvailablePrefix_several (allocated : List IpNet)
    (several : ¬ (segment.addressFamily = .ipv4 ∧ prefixLength = 1)) :
    ScanResult (ι := ι) segment prefixLength allocated segment.block.first
        (nextAvailablePrefix segment prefixLength allocated) ∧
      (nextAvailablePrefix (ι := ι) segment prefixLength allocated = .ok (.ok none) →
        segment.block.last + 1 < 2 ^ 128) ∧
      (nextAvailablePrefix (ι := ι) segment prefixLength allocated = .error .overflow →
        segment.block.last + 1 = 2 ^ 128) := by
  obtain ⟨details, last, size, searched⟩ := nextAvailablePrefix_eq_scan longer fits allocated
  rw [if_neg several] at size
  rw [searched]
  exact scan_spec fits longer.le size last le_rfl (aligned_first longer) allocated
    segment.first_lt

/-- The search finds the lowest free candidate. For IPv4 halves the scan stops after
the first one, so there both halves have to be allocated. -/
theorem nextAvailablePrefix_spec
    (halves : segment.addressFamily = .ipv4 → prefixLength = 1 →
      ∀ net, Candidate segment prefixLength net → isAllocated allocated net = true) :
    ScanResult (ι := ι) segment prefixLength allocated segment.block.first
      (nextAvailablePrefix segment prefixLength allocated) := by
  by_cases halved : segment.addressFamily = .ipv4 ∧ prefixLength = 1
  · obtain ⟨lower, isCandidate, -, -, searched⟩ :=
      nextAvailablePrefix_halves longer fits allocated halved
    have all := halves halved.1 halved.2
    rw [searched, all lower isCandidate]
    exact .inr ⟨.inl rfl, fun net netCandidate _ => all net netCandidate⟩
  · exact (nextAvailablePrefix_several longer fits allocated halved).1

end Search

/-! ## First fit -/

theorem nextAvailablePrefix_single (allocated : List IpNet) (single : segment.prefixLen = 128) :
    segment = .host (ip segment) ∧ Candidate segment 128 segment ∧
      nextAvailablePrefix (ι := ι) segment 128 allocated =
        .ok (.ok (if isAllocated allocated segment then none else some segment)) := by
  have family : segment.addressFamily.interfacePrefixLen = 128 := by
    have bound := segment.prefixLen_le
    cases familyEq : segment.addressFamily with
    | ipv4 =>
      rw [familyEq, single] at bound
      exact absurd bound (by decide)
    | ipv6 => rfl
  have isHost : segment = .host (ip segment) := eq_host (single.trans family.symm)
  have self := candidate_host (ip_mem segment)
  rw [← isHost, family] at self
  refine ⟨isHost, self, ?_⟩
  have taken_iff : (allocated.any fun network =>
        contains network (Ipnetwork.network segment)) = true ↔
      isAllocated allocated segment = true := by
    rw [isAllocated_iff, List.any_eq_true, isHost, network_host]
    simp only [contains_iff, ← overlap_host]
    exact exists_congr fun net => and_congr_right fun _ => ⟨.symm, .symm⟩
  rw [nextAvailablePrefix, if_pos ⟨single, rfl⟩]
  simp only [taken_iff]
  split <;> rfl

def Meets (allocated : List IpNet) (net : IpNet) : Prop :=
  ∃ other ∈ allocated, IpNet.Overlap net other

/-- A search returns nothing exactly if every candidate meets an allocated network, and else
the lowest that does not. -/
structure FirstFit (segment : IpNet) (prefixLength : Nat) (allocated : List IpNet)
    (result : Checked (Except (DatabaseError ι) (Option IpNet))) : Prop where
  exhausted : result = .ok (.ok none) ↔
    ∀ net, Candidate segment prefixLength net → Meets allocated net
  lowest : ∀ found, result = .ok (.ok (some found)) → Candidate segment prefixLength found ∧
    ¬ Meets allocated found ∧ ∀ net, Candidate segment prefixLength net →
      net.block.first < found.block.first → Meets allocated net

/-- The family has the length, the upper one of the IPv4 halves is not the only free one, and
a segment at the end of IPv6 has a free candidate unless it is one address. -/
structure Searchable (segment : IpNet) (prefixLength : Nat) (allocated : List IpNet) : Prop where
  fits : prefixLength ≤ segment.addressFamily.interfacePrefixLen
  halves : segment.addressFamily = .ipv4 → prefixLength = 1 →
    (∀ net, Candidate segment prefixLength net → net.block.first = 0 → Meets allocated net) →
      ∀ net, Candidate segment prefixLength net → Meets allocated net
  top : segment.prefixLen < 128 → segment.block.last + 1 = 2 ^ 128 →
    ∃ net, Candidate segment prefixLength net ∧ ¬ Meets allocated net

section Lower

variable {lower found : IpNet}

theorem lower_eq_none : (.ok (.ok (if isAllocated allocated lower then none else some lower)) :
      Checked (Except (DatabaseError ι) (Option IpNet))) = .ok (.ok none) ↔
    Meets allocated lower := by
  rw [Meets, ← isAllocated_iff]
  split <;> simp_all

theorem lowest_of_lower (isCandidate : Candidate segment prefixLength lower)
    (first : lower.block.first = segment.block.first)
    (foundEq : (if isAllocated allocated lower then none else some lower) = some found) :
    Candidate segment prefixLength found ∧ ¬ Meets allocated found ∧
      ∀ net, Candidate segment prefixLength net → net.block.first < found.block.first →
        Meets allocated net := by
  split at foundEq
  next => cases foundEq
  next free =>
    cases foundEq
    exact ⟨isCandidate, mt isAllocated_iff.mpr free, fun net netCandidate less =>
      absurd (first ▸ netCandidate.first_le) (Nat.not_le_of_lt less)⟩

theorem nextAvailablePrefix_too_long (longer : segment.prefixLen < prefixLength)
    (long : segment.addressFamily.interfacePrefixLen < prefixLength) :
    nextAvailablePrefix (ι := ι) segment prefixLength allocated = .error .overflow := by
  rw [nextAvailablePrefix, if_neg (by omega), if_neg (by omega), getNetworkDetails_too_long long]
  rfl

/-- Whatever the input, what a search finds is the lowest free candidate. -/
theorem lowest_of_found (foundEq : nextAvailablePrefix (ι := ι) segment prefixLength allocated =
      .ok (.ok (some found))) :
    (segment.prefixLen < prefixLength ∨ segment.prefixLen = 128 ∧ prefixLength = 128) ∧
      Candidate segment prefixLength found ∧ ¬ Meets allocated found ∧
      ∀ net, Candidate segment prefixLength net → net.block.first < found.block.first →
        Meets allocated net := by
  by_cases single : segment.prefixLen = 128 ∧ prefixLength = 128
  · obtain ⟨isSingle, rfl⟩ := single
    obtain ⟨-, self, searched⟩ := nextAvailablePrefix_single (ι := ι) allocated isSingle
    rw [searched] at foundEq
    exact ⟨.inr ⟨isSingle, rfl⟩, lowest_of_lower self rfl (by simpa using foundEq)⟩
  by_cases longer : segment.prefixLen < prefixLength
  case neg =>
    rw [nextAvailablePrefix, if_neg single, if_pos (by omega)] at foundEq
    cases foundEq
  refine ⟨.inl longer, ?_⟩
  by_cases fits : prefixLength ≤ segment.addressFamily.interfacePrefixLen
  case neg =>
    rw [nextAvailablePrefix_too_long longer (by omega)] at foundEq
    cases foundEq
  by_cases halved : segment.addressFamily = .ipv4 ∧ prefixLength = 1
  · obtain ⟨lower, isCandidate, first, -, searched⟩ :=
      nextAvailablePrefix_halves (ι := ι) longer fits allocated halved
    rw [searched] at foundEq
    exact lowest_of_lower isCandidate first (by simpa using foundEq)
  · rcases nextAvailablePrefix_spec (ι := ι) longer fits
        (fun family half => absurd ⟨family, half⟩ halved) with
      ⟨other, otherEq, isCandidate, free, lower⟩ | ⟨failed, -⟩
    · cases foundEq.symm.trans otherEq
      refine ⟨isCandidate, ?_, fun net netCandidate less =>
        isAllocated_iff.mp (lower net netCandidate netCandidate.first_le less)⟩
      rw [Meets, ← isAllocated_iff, free]
      exact Bool.false_ne_true
    · rw [foundEq] at failed
      rcases failed with failed | failed <;> cases failed

theorem firstFit_iff : FirstFit (ι := ι) segment prefixLength allocated
      (nextAvailablePrefix segment prefixLength allocated) ↔
    (nextAvailablePrefix (ι := ι) segment prefixLength allocated = .ok (.ok none) ↔
      ∀ net, Candidate segment prefixLength net → Meets allocated net) :=
  ⟨FirstFit.exhausted, fun exhausted => ⟨exhausted, fun _ found => (lowest_of_found found).2⟩⟩

end Lower

/-- The search is complete and first-fit exactly on the searchable inputs. -/
theorem firstFit_iff_searchable
    (valid : segment.prefixLen < prefixLength ∨ segment.prefixLen = 128 ∧ prefixLength = 128) :
    FirstFit (ι := ι) segment prefixLength allocated
        (nextAvailablePrefix segment prefixLength allocated) ↔
      Searchable segment prefixLength allocated := by
  rw [firstFit_iff]
  rcases valid with longer | ⟨single, rfl⟩
  case inr =>
    obtain ⟨isHost, self, searched⟩ := nextAvailablePrefix_single (ι := ι) allocated single
    rw [searched, lower_eq_none]
    refine iff_of_true ⟨fun meets net isCandidate => ?_, fun all => all segment self⟩
      ⟨self.length ▸ segment.prefixLen_le, fun _ => nofun, by omega⟩
    have first := isCandidate.inside _ net.block.first_mem
    rw [isHost, host_block, Block.mem_def, Nat.pow_zero, Nat.div_one, self.canonical] at first
    rwa [isCandidate.eq_of_first self first]
  by_cases fits : prefixLength ≤ segment.addressFamily.interfacePrefixLen
  case neg =>
    refine iff_of_false (fun exhausted => ?_) fun searchable => fits searchable.fits
    rw [nextAvailablePrefix_too_long longer (by omega)] at exhausted
    refine nomatch exhausted.mpr fun net isCandidate => absurd ?_ fits
    rw [← isCandidate.family, ← isCandidate.length]
    exact net.prefixLen_le
  by_cases halved : segment.addressFamily = .ipv4 ∧ prefixLength = 1
  · obtain ⟨lower, isCandidate, first, zero, searched⟩ :=
      nextAvailablePrefix_halves (ι := ι) longer fits allocated halved
    have lastLt := last_lt_of_ipv4 halved.1
    rw [searched, lower_eq_none]
    constructor
    · intro exhausted
      exact ⟨fits, fun _ _ low => exhausted.mp (low lower isCandidate (first.trans zero)),
        fun _ top => by omega⟩
    · intro searchable
      refine ⟨fun meets => ?_, fun all => all lower isCandidate⟩
      refine searchable.halves halved.1 halved.2 fun net netCandidate isZero => ?_
      rwa [netCandidate.eq_of_first isCandidate (by omega)]
  · obtain ⟨spec, atEnd, overflows⟩ :=
      nextAvailablePrefix_several (ι := ι) longer fits allocated halved
    have noHalves (family : segment.addressFamily = .ipv4) (half : prefixLength = 1) : False :=
      halved ⟨family, half⟩
    rcases spec with ⟨found, foundEq, isCandidate, -, -⟩ | ⟨none | overflow, all⟩
    · have apart := (lowest_of_found foundEq).2.2.1
      rw [foundEq]
      exact iff_of_true ⟨nofun, fun all => absurd (all found isCandidate) apart⟩
        ⟨fits, fun family half => (noHalves family half).elim,
          fun _ _ => ⟨found, isCandidate, apart⟩⟩
    all_goals
      have allMeet : ∀ net, Candidate segment prefixLength net → Meets allocated net :=
        fun net isCandidate => isAllocated_iff.mp (all net isCandidate isCandidate.first_le)
    · have before := atEnd none
      rw [none]
      exact iff_of_true ⟨fun _ => allMeet, fun _ => rfl⟩
        ⟨fits, fun family half => (noHalves family half).elim, fun _ top => by omega⟩
    · have top := overflows overflow
      rw [overflow]
      refine iff_of_false (fun exhausted => nomatch exhausted.mpr allMeet) ?_
      intro searchable
      have width := segment.addressFamily.interfacePrefixLen_le
      obtain ⟨net, isCandidate, apart⟩ := searchable.top (by omega) top
      exact apart (allMeet net isCandidate)

/-- A length that is scanned for is one of the family, and a segment at the end of IPv6 has a
free candidate. -/
def PanicFree (segment : IpNet) (prefixLength : Nat) (allocated : List IpNet) : Prop :=
  segment.prefixLen < prefixLength →
    prefixLength ≤ segment.addressFamily.interfacePrefixLen ∧
      (segment.block.last + 1 = 2 ^ 128 →
        ∃ net, Candidate segment prefixLength net ∧ ¬ Meets allocated net)

/-- A search returns, with a result or an error, exactly on the panic-free inputs. -/
theorem returns_iff_panicFree :
    (∃ outcome, nextAvailablePrefix (ι := ι) segment prefixLength allocated = .ok outcome) ↔
      PanicFree segment prefixLength allocated := by
  by_cases longer : segment.prefixLen < prefixLength
  case neg =>
    refine iff_of_true ?_ fun scanned => absurd scanned longer
    by_cases single : segment.prefixLen = 128 ∧ prefixLength = 128
    · obtain ⟨isSingle, rfl⟩ := single
      exact ⟨_, (nextAvailablePrefix_single allocated isSingle).2.2⟩
    · rw [nextAvailablePrefix, if_neg single, if_pos (by omega)]
      exact ⟨_, rfl⟩
  by_cases fits : prefixLength ≤ segment.addressFamily.interfacePrefixLen
  case neg =>
    refine iff_of_false ?_ fun free => fits (free longer).1
    rw [nextAvailablePrefix_too_long longer (by omega)]
    simp
  by_cases halved : segment.addressFamily = .ipv4 ∧ prefixLength = 1
  · obtain ⟨lower, -, -, -, searched⟩ := nextAvailablePrefix_halves longer fits allocated halved
    have lastLt := last_lt_of_ipv4 halved.1
    exact iff_of_true ⟨_, searched⟩ fun _ => ⟨fits, by omega⟩
  obtain ⟨spec, atEnd, overflows⟩ :=
    nextAvailablePrefix_several (ι := ι) longer fits allocated halved
  rcases spec with ⟨found, foundEq, isCandidate, -, -⟩ | ⟨none | overflow, all⟩
  · have apart := (lowest_of_found foundEq).2.2.1
    exact iff_of_true ⟨_, foundEq⟩ fun _ => ⟨fits, fun _ => ⟨found, isCandidate, apart⟩⟩
  · have before := atEnd none
    exact iff_of_true ⟨_, none⟩ fun _ => ⟨fits, by omega⟩
  · rw [overflow]
    refine iff_of_false (by simp) fun free => ?_
    obtain ⟨net, isCandidate, apart⟩ := (free longer).2 (overflows overflow)
    exact apart (isAllocated_iff.mp (all net isCandidate isCandidate.first_le))

end Operations

/-- The two addresses at the end of IPv6 are allocated: the step behind the last one panics. -/
theorem not_returns_last_ipv6 :
    letI := reference
    ¬ ∃ outcome, nextAvailablePrefix (ι := Unit) (.v6 ⟨.allOnes 128, 127, by decide⟩) 128
      [.v6 ⟨.allOnes 128, 127, by decide⟩] = .ok outcome := by
  let := reference
  have panics : nextAvailablePrefix (ι := Unit) (.v6 ⟨.allOnes 128, 127, by decide⟩) 128
      [.v6 ⟨.allOnes 128, 127, by decide⟩] = .error .overflow := by
    decide +kernel
  rw [panics]
  simp

/-- The whole IPv4 address space. -/
def wholeIpv4 : IpNet := .v4 ⟨0#32, 0, by decide⟩

theorem firstFit_iff_searchable_ipv4 :
    letI := reference
    FirstFit (ι := Unit) wholeIpv4 2 [.v4 ⟨0#32, 2, by decide⟩]
        (nextAvailablePrefix wholeIpv4 2 [.v4 ⟨0#32, 2, by decide⟩]) ↔
      Searchable wholeIpv4 2 [.v4 ⟨0#32, 2, by decide⟩] := by
  let := reference
  exact firstFit_iff_searchable (.inl (by decide))

/-- With 0.0.0.0/1 allocated the free half 128.0.0.0/1 is not found. -/
theorem not_firstFit_upper_half :
    letI := reference
    ¬ FirstFit (ι := Unit) wholeIpv4 1 [.v4 ⟨0#32, 1, by decide⟩]
      (nextAvailablePrefix wholeIpv4 1 [.v4 ⟨0#32, 1, by decide⟩]) := by
  let := reference
  intro firstFit
  have none : nextAvailablePrefix (ι := Unit) wholeIpv4 1 [.v4 ⟨0#32, 1, by decide⟩] =
      .ok (.ok none) := by
    decide +kernel
  have upper : Candidate wholeIpv4 1 (.v4 ⟨0x80000000#32, 1, by decide⟩) :=
    ⟨rfl, rfl, rfl, Block.subset_iff_bounds.mpr (by decide)⟩
  obtain ⟨other, otherMem, overlap⟩ := firstFit.exhausted.mp none _ upper
  rw [List.mem_singleton.mp otherMem, overlap_iff] at overlap
  revert overlap
  decide

end IpAllocator

end ApiDb
