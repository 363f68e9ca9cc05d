import BareMetalManager.ApiDb.InstanceAddress
import BareMetalManager.ApiDb.IpAllocator.Allocation

/-!
# Instance addresses and infrastructure addresses

The instance addresses of a prefix stay apart from each other, from its gateway and
from its SVI address as long as no allocation starts with the SVI address as the
lowest address that is not taken: the allocator does not count it as used.
-/

namespace ApiDb

open Network List Checked Ipnetwork Function

namespace TenantSegment

open IpAllocator

section Collision

theorem host_injective : Function.Injective IpNet.host := by
  intro left right equal
  rw [← ip_host left, equal, ip_host]

theorem allocated_eq_ok {outcome : Checked (Except (DatabaseError ι) IpNet)} {net : IpNet}
    (ok : allocated outcome = .ok net) : outcome = .ok (.ok net) := by
  match outcome with
  | .error _ | .ok (.error _) => cases ok
  | .ok (.ok found) =>
    cases ok
    rfl

theorem newNetwork_host (addr : IpAddr) :
    newNetwork addr (IpNet.host addr).prefixLen =
      (.ok (.host addr) : Except (DatabaseError ι) IpNet) := by
  cases addr <;> rfl

variable {ι : Type} {segment : TenantSegment ι} {rows : SegmentRows ι}

variable {left right : SegmentPrefix ι}

theorem eq_of_mem_of_mem (leftIn : left ∈ segment.prefixes)
    (rightIn : right ∈ segment.prefixes) (inLeft : addr ∈ left.net) (inRight : addr ∈ right.net) :
    left = right :=
  inj_on_of_nodup_map segment.families leftIn rightIn (inLeft.1.symm.trans inRight.1)

theorem eq_of_id_eq (leftIn : left ∈ segment.prefixes)
    (rightIn : right ∈ segment.prefixes) (ids : left.id = right.id) : left = right :=
  inj_on_of_nodup_map segment.ids leftIn rightIn ids

variable [Ipnetwork]

/-! ## What an allocation starts from -/

/-- The addresses of a prefix that the allocator keeps back, and those in use. -/
def takenAddrs (visited : SegmentPrefix ι) (rows : SegmentRows ι) : List IpAddr :=
  gatewayAddrs visited ++ reservedAddrs visited ++ endAddrs visited ++
    rows.addresses.map (·.address)

def StoresHosts (rows : SegmentRows ι) : Prop :=
  ∀ row ∈ rows.addresses, row.net = .host row.address

omit [Ipnetwork] in
theorem StoresHosts.usedPrefixes (hosts : StoresHosts rows) :
    ∀ used ∈ usedPrefixes rows, ∃ addr, used = .host addr := by
  refine forall_mem_map.mpr fun row rowIn => ?_
  exact ⟨row.address, hosts row rowIn⟩

variable {visited : SegmentPrefix ι} {addr : IpAddr}

theorem taken_host_iff (hosts : StoresHosts rows) (inside : addr ∈ visited.net) :
    Taken visited (usedPrefixes rows) (.host addr) ↔ addr ∈ takenAddrs visited rows := by
  simp only [takenAddrs, mem_append, mem_gatewayAddrs, mem_endAddrs, mem_map]
  constructor
  · intro taken
    generalize netEq : IpNet.host addr = net at taken
    cases taken with
    | gateway isGateway _ =>
      cases host_injective netEq
      exact .inl (.inl (.inl ⟨isGateway, inside⟩))
    | reserved mem =>
      cases host_injective netEq
      exact .inl (.inl (.inr mem))
    | network large =>
      cases host_injective netEq
      exact .inl (.inr ⟨large, .inl rfl⟩)
    | broadcast large =>
      cases host_injective netEq
      exact .inl (.inr ⟨large, .inr rfl⟩)
    | used mem _ =>
      obtain ⟨row, rowIn, rfl⟩ := mem_map.mp mem
      exact .inr ⟨row, rowIn, (host_injective (netEq.trans (hosts row rowIn))).symm⟩
  · rintro (((⟨isGateway, -⟩ | mem) | ⟨large, rfl | rfl⟩) | ⟨row, rowIn, rfl⟩)
    · exact .gateway isGateway inside
    · exact .reserved mem
    · exact .network large
    · exact .broadcast large
    · refine .used (mem_map.mpr ⟨row, rowIn, hosts row rowIn⟩) ?_
      rwa [network_host]

/-- The SVI address of a prefix, if there is one, is not the lowest address that is not
taken. -/
def SviPassedOver (rows : SegmentRows ι) (visited : SegmentPrefix ι) : Prop :=
  ∀ svi ∈ rows.sviIps visited.id, svi ∈ takenAddrs visited rows ∨
    ∃ lower ∈ iter visited.net, lower.bits < svi.bits ∧
      lower ∉ takenAddrs visited rows

/-- Whether an allocation leaves a prefix to SLAAC. -/
def LeftToSlaac (slaacEnabled : Bool) (visited : SegmentPrefix ι) : Prop :=
  slaacEnabled = true ∧ visited.net.addressFamily = .ipv6

/-- An allocation passes over the SVI address of every prefix that it visits. -/
def PassesOverSvi (segment : TenantSegment ι) (rows : SegmentRows ι) : Operation ι → Prop
  | .allocate _ iface slaacEnabled => iface.ipAddrs = [] → ∀ visited ∈ segment.prefixes,
      ¬ LeftToSlaac slaacEnabled visited → SviPassedOver rows visited
  | .delete _ | .deleteAddresses _ _ | .allocateSviIp => True

instance (rows : SegmentRows ι) (visited : SegmentPrefix ι) :
    Decidable (SviPassedOver rows visited) :=
  inferInstanceAs (Decidable (∀ svi ∈ rows.sviIps visited.id, _))

omit [Ipnetwork] in
instance (slaacEnabled : Bool) (visited : SegmentPrefix ι) :
    Decidable (LeftToSlaac slaacEnabled visited) :=
  inferInstanceAs (Decidable (_ ∧ _))

instance (segment : TenantSegment ι) (rows : SegmentRows ι) :
    (operation : Operation ι) → Decidable (segment.PassesOverSvi rows operation)
  | .allocate _ iface slaacEnabled =>
    inferInstanceAs (Decidable (iface.ipAddrs = [] → ∀ visited ∈ segment.prefixes,
      ¬ LeftToSlaac slaacEnabled visited → SviPassedOver rows visited))
  | .delete _ | .deleteAddresses _ _ | .allocateSviIp => .isTrue trivial

/-! ## What an operation does -/

/-- The addresses that an allocation assigns, prefix by prefix. -/
inductive Assigned (rows : SegmentRows ι) (slaacEnabled : Bool) :
    List (SegmentPrefix ι) → List IpAddr → Prop where
  | nil : Assigned rows slaacEnabled [] []
  | skip {visited : SegmentPrefix ι} {rest : List (SegmentPrefix ι)} {addrs : List IpAddr} :
      Assigned rows slaacEnabled rest addrs → Assigned rows slaacEnabled (visited :: rest) addrs
  | assign {visited : SegmentPrefix ι} {rest : List (SegmentPrefix ι)} {addr : IpAddr}
      {addrs : List IpAddr} (notSkipped : ¬ LeftToSlaac slaacEnabled visited)
      (lowestFree : LowestFree visited (usedPrefixes rows) addr) :
      Assigned rows slaacEnabled rest addrs →
        Assigned rows slaacEnabled (visited :: rest) (addr :: addrs)

theorem getHostIp_host (addr : IpAddr) :
    getHostIp (.host addr) = (.ok addr : Except (AddressError ι) IpAddr) := by
  cases addr <;> rfl

variable {prefixes : List (SegmentPrefix ι)} {slaacEnabled : Bool}

theorem newAllocator_lowestFree (hosts : StoresHosts rows) {network : IpNet}
    (found : (newAllocator rows prefixes).allocate visited = .ok (.ok network)) :
    ∃ addr, network = .host addr ∧ LowestFree visited (usedPrefixes rows) addr :=
  allocate_lowestFree rfl hosts.usedPrefixes found

theorem assigned_of_assignIpsFrom (hosts : StoresHosts rows) {assigned : List IpNet}
    (ok : assignIpsFrom rows slaacEnabled prefixes = .ok assigned) :
    ∃ addrs, Assigned rows slaacEnabled prefixes addrs ∧ assigned = addrs.map .host := by
  induction prefixes generalizing assigned with
  | nil =>
    cases ok
    exact ⟨[], .nil, rfl⟩
  | cons visited rest ih =>
    rw [assignIpsFrom] at ok
    split at ok
    next skipped =>
      split at ok
      · cases ok
      · obtain ⟨addrs, isAssigned, eq⟩ := ih ok
        exact ⟨addrs, .skip isAssigned, eq⟩
    next notSkipped =>
      obtain ⟨net, found, ok⟩ := bind_eq_ok.mp ok
      obtain ⟨addr, rfl, lowestFree⟩ := newAllocator_lowestFree hosts (allocated_eq_ok found)
      obtain ⟨hostIp, hostIpEq, ok⟩ := bind_eq_ok.mp ok
      rw [getHostIp_host] at hostIpEq
      cases hostIpEq
      obtain ⟨address, addressEq, ok⟩ := bind_eq_ok.mp ok
      rw [newNetwork_host] at addressEq
      cases addressEq
      obtain ⟨others, othersEq, ok⟩ := bind_eq_ok.mp ok
      cases ok
      obtain ⟨addrs, isAssigned, rfl⟩ := ih othersEq
      exact ⟨addr :: addrs, .assign notSkipped lowestFree isAssigned, rfl⟩

variable {addrs : List IpAddr}

theorem Assigned.of_mem (isAssigned : Assigned rows slaacEnabled prefixes addrs) :
    ∀ addr ∈ addrs, ∃ visited ∈ prefixes, ¬ LeftToSlaac slaacEnabled visited ∧
      LowestFree visited (usedPrefixes rows) addr := by
  induction isAssigned with
  | nil => simp
  | skip _ ih =>
    intro addr mem
    exact exists_mem_cons_of_exists (ih addr mem)
  | assign notSkipped lowestFree _ ih =>
    rintro addr (_ | ⟨_, mem⟩)
    · exact ⟨_, mem_cons_self, notSkipped, lowestFree⟩
    · exact exists_mem_cons_of_exists (ih addr mem)

theorem Assigned.nodup (isAssigned : Assigned rows slaacEnabled prefixes addrs)
    (families : (prefixes.map (·.net.addressFamily)).Nodup) : addrs.Nodup := by
  induction isAssigned with
  | nil => exact nodup_nil
  | skip _ ih => exact ih families.of_cons
  | assign _ lowestFree isAssigned ih =>
    rw [map_cons, nodup_cons] at families
    refine nodup_cons.mpr ⟨?_, ih families.2⟩
    intro mem
    obtain ⟨visited, visitedIn, -, other⟩ := isAssigned.of_mem _ mem
    refine families.1 (mem_map.mpr ⟨visited, visitedIn, ?_⟩)
    exact other.inside.1.symm.trans lowestFree.inside.1

theorem mapM_addressRow (instanceId : InstanceId) (addrs : List IpAddr) :
    (addrs.map .host).mapM (addressRow instanceId) =
      (.ok (addrs.map fun addr => ⟨instanceId, addr, .host addr⟩) :
        Except (AddressError ι) (List InstanceAddress)) := by
  have each : ∀ net ∈ addrs.map .host, addressRow instanceId net =
      (.ok ⟨instanceId, ip net, net⟩ : Except (AddressError ι) InstanceAddress) := by
    refine forall_mem_map.mpr fun addr _ => ?_
    rw [addressRow, network_host, newNetwork_host]
    rfl
  rw [mapM_eq_ok each, map_map]
  simp only [comp_def, ip_host]

variable {next : SegmentRows ι}

theorem allocate_spec (hosts : StoresHosts rows) {instanceId : InstanceId}
    {iface : InstanceInterfaceConfig ι}
    (ok : segment.allocate instanceId iface slaacEnabled rows = .ok next) :
    next = rows ∨ iface.ipAddrs = [] ∧ ∃ addrs, Assigned rows slaacEnabled segment.prefixes addrs ∧
      next = { rows with
        addresses := rows.addresses ++ addrs.map fun addr => ⟨instanceId, addr, .host addr⟩ } := by
  rw [allocate] at ok
  split at ok
  next =>
    cases ok
    exact .inl rfl
  next needed =>
    split at ok
    next => cases ok
    next =>
      split at ok
      next => cases ok
      next =>
        obtain ⟨assigned, assignedEq, ok⟩ := bind_eq_ok.mp ok
        obtain ⟨addrs, isAssigned, rfl⟩ := assigned_of_assignIpsFrom hosts assignedEq
        rw [mapM_addressRow] at ok
        cases ok
        exact .inr ⟨not_not.mp needed, addrs, isAssigned, rfl⟩

variable {svi : IpAddr}

theorem nextSviIp_eq_ok (ok : nextSviIp rows visited = .ok svi) :
    ∃ address, (newAllocator rows []).allocate visited = .ok (.ok address) ∧
      svi = ip address := by
  have nextEq : (newAllocator rows [visited]).next = (do
      return (some (visited.id, ← (newAllocator rows []).allocate visited),
        newAllocator rows [])) := rfl
  rw [nextSviIp, nextEq] at ok
  match outcome : (newAllocator rows []).allocate visited with
  | .error _ | .ok (.error _) =>
    rw [outcome] at ok
    cases ok
  | .ok (.ok address) =>
    rw [outcome] at ok
    cases ok
    exact ⟨address, rfl, rfl⟩

theorem sviIpOf_spec (hosts : StoresHosts rows) (ok : sviIpOf rows visited = .ok svi) :
    svi ∈ reservedAddrs visited ∨ LowestFree visited (usedPrefixes rows) svi := by
  rw [sviIpOf] at ok
  split at ok
  next third =>
    split at ok
    next addr isThird =>
      cases ok
      refine .inl (mem_of_getElem? (i := 2) ?_)
      rw [reservedAddrs, List.getElem?_take_of_lt (by omega), isThird]
    next => cases ok
  next =>
    obtain ⟨address, found, rfl⟩ := nextSviIp_eq_ok ok
    obtain ⟨addr, rfl, lowestFree⟩ := newAllocator_lowestFree hosts found
    rw [ip_host]
    exact .inr lowestFree

section Svi

variable [DecidableEq ι]

theorem allocateSviIps_spec {before after : ι → Option IpAddr} {first last : Option IpAddr}
    (ok : allocateSviIps rows prefixes before first = .ok (after, last)) (id : ι) :
    after id = before id ∨ ∃ visited ∈ prefixes, visited.id = id ∧
      ∃ svi, sviIpOf rows visited = .ok svi ∧ after id = some svi := by
  induction prefixes generalizing before first with
  | nil =>
    cases ok
    exact .inl rfl
  | cons visited rest ih =>
    rw [allocateSviIps] at ok
    split at ok
    next =>
      exact (ih ok).imp_right exists_mem_cons_of_exists
    next =>
      obtain ⟨svi, sviEq, ok⟩ := bind_eq_ok.mp ok
      rcases ih ok with same | ⟨other, otherIn, fact⟩
      · by_cases own : id = visited.id
        · subst own
          rw [update_self] at same
          exact .inr ⟨visited, mem_cons_self, rfl, svi, sviEq, same⟩
        · rw [update_of_ne own] at same
          exact .inl same
      · exact .inr ⟨other, mem_cons_of_mem _ otherIn, fact⟩

theorem allocateSviIp_spec (ok : segment.allocateSviIp rows = .ok (svi, next)) :
    next.addresses = rows.addresses ∧ ∀ id, next.sviIps id = rows.sviIps id ∨
      ∃ visited ∈ segment.prefixes, visited.id = id ∧
        ∃ svi, sviIpOf rows visited = .ok svi ∧ next.sviIps id = some svi := by
  obtain ⟨⟨sviIps, first⟩, looped, ok⟩ := bind_eq_ok.mp ok
  cases first with
  | none => cases ok
  | some first =>
    cases ok
    exact ⟨rfl, allocateSviIps_spec looped⟩

end Svi

/-! ## Addresses that stay apart -/

def storedIn (rows : SegmentRows ι) (visited : SegmentPrefix ι) : List IpAddr :=
  (rows.addresses.map (·.address)).filter (contains visited.net)

/-- The instance addresses of every prefix are pairwise different, and none of them is
the SVI address or the gateway of the prefix. -/
structure Apart (segment : TenantSegment ι) (rows : SegmentRows ι) : Prop where
  distinct : ∀ visited ∈ segment.prefixes, (storedIn rows visited).Nodup
  svi : ∀ visited ∈ segment.prefixes, ∀ addr ∈ storedIn rows visited,
    rows.sviIps visited.id ≠ some addr
  gateway : ∀ visited ∈ segment.prefixes, ∀ addr ∈ storedIn rows visited,
    visited.gateway ≠ some addr

/-- An instance address lies off the infrastructure addresses of a prefix. -/
structure OffInfrastructure (sviIps : ι → Option IpAddr) (visited : SegmentPrefix ι)
    (addr : IpAddr) : Prop where
  svi : sviIps visited.id ≠ some addr
  gateway : visited.gateway ≠ some addr
  reserved : addr ∉ reservedAddrs visited

structure Kept (segment : TenantSegment ι) (rows : SegmentRows ι) : Prop where
  hosts : StoresHosts rows
  distinct : (rows.addresses.map (·.address)).Nodup
  offInfrastructure : ∀ visited ∈ segment.prefixes, ∀ row ∈ rows.addresses,
    row.address ∈ visited.net → OffInfrastructure rows.sviIps visited row.address

theorem Kept.apart (kept : Kept segment rows) : Apart segment rows := by
  have off : ∀ visited ∈ segment.prefixes, ∀ addr ∈ storedIn rows visited,
      OffInfrastructure rows.sviIps visited addr := by
    intro visited visitedIn addr stored
    obtain ⟨mem, inside⟩ := mem_filter.mp stored
    obtain ⟨row, rowIn, rfl⟩ := mem_map.mp mem
    rw [contains_iff] at inside
    exact kept.offInfrastructure visited visitedIn row rowIn inside
  exact {
    distinct := fun visited _ => kept.distinct.filter _
    svi := fun visited visitedIn addr stored => (off visited visitedIn addr stored).svi
    gateway := fun visited visitedIn addr stored => (off visited visitedIn addr stored).gateway }

theorem Kept.sublist (kept : Kept segment rows) {addresses : List InstanceAddress}
    (fewer : addresses.Sublist rows.addresses) : Kept segment { rows with addresses } where
  hosts := fun row rowIn => kept.hosts row (fewer.subset rowIn)
  distinct := kept.distinct.sublist (fewer.map _)
  offInfrastructure := fun visited visitedIn row rowIn =>
    kept.offInfrastructure visited visitedIn row (fewer.subset rowIn)

theorem not_stored_of_lowestFree (hosts : StoresHosts rows)
    (lowestFree : LowestFree visited (usedPrefixes rows) addr) :
    addr ∉ rows.addresses.map (·.address) := by
  intro stored
  refine lowestFree.free ((taken_host_iff hosts lowestFree.inside).mpr ?_)
  exact mem_append_right _ stored

/-- The lowest free address is not an infrastructure address when the SVI address is
passed over. -/
theorem offInfrastructure_of_lowestFree (hosts : StoresHosts rows) {visited : SegmentPrefix ι}
    (lowestFree : LowestFree visited (usedPrefixes rows) addr)
    (passedOver : SviPassedOver rows visited) :
    OffInfrastructure rows.sviIps visited addr where
  svi := by
    intro isSvi
    rcases passedOver addr isSvi with taken | ⟨lower, lowerIn, less, notTaken⟩
    · exact lowestFree.free ((taken_host_iff hosts lowestFree.inside).mpr taken)
    · have inside := (mem_iter _ _).mp lowerIn
      exact notTaken ((taken_host_iff hosts inside).mp (lowestFree.lowest lower inside less))
  gateway := fun isGateway => lowestFree.free (.gateway isGateway lowestFree.inside)
  reserved := fun reserved => lowestFree.free (.reserved reserved)

theorem Kept.assigned (kept : Kept segment rows)
    (isAssigned : Assigned rows slaacEnabled segment.prefixes addrs)
    (passedOver : ∀ visited ∈ segment.prefixes, ¬ LeftToSlaac slaacEnabled visited →
      SviPassedOver rows visited)
    (instanceId : InstanceId) :
    Kept segment { rows with
      addresses := rows.addresses ++ addrs.map fun addr => ⟨instanceId, addr, .host addr⟩ } where
  hosts := forall_mem_append.mpr ⟨kept.hosts, forall_mem_map.mpr fun _ _ => rfl⟩
  distinct := by
    rw [map_append, map_map, nodup_append]
    refine ⟨kept.distinct, ?_, ?_⟩
    · simpa [comp_def] using isAssigned.nodup segment.families
    · intro stored storedIn addr addrIn equal
      subst equal
      simp only [mem_map, comp_apply, exists_eq_right] at addrIn
      obtain ⟨visited, -, -, lowestFree⟩ := isAssigned.of_mem stored addrIn
      exact not_stored_of_lowestFree kept.hosts lowestFree storedIn
  offInfrastructure := by
    intro visited visitedIn
    refine forall_mem_append.mpr ⟨kept.offInfrastructure visited visitedIn,
      forall_mem_map.mpr fun addr addrIn inside => ?_⟩
    obtain ⟨other, otherIn, notSkipped, lowestFree⟩ := isAssigned.of_mem addr addrIn
    cases eq_of_mem_of_mem visitedIn otherIn inside lowestFree.inside
    exact offInfrastructure_of_lowestFree kept.hosts lowestFree
      (passedOver visited visitedIn notSkipped)

section Runs

def newRows : SegmentRows ι := ⟨fun _ => none, []⟩

variable [DecidableEq ι]

theorem Kept.allocateSviIp (kept : Kept segment rows)
    (ok : segment.allocateSviIp rows = .ok (svi, next)) : Kept segment next := by
  obtain ⟨addresses, sviIps⟩ := allocateSviIp_spec ok
  refine ⟨?_, ?_, ?_⟩
  · rw [StoresHosts, addresses]
    exact kept.hosts
  · rw [addresses]
    exact kept.distinct
  rw [addresses]
  intro visited visitedIn row rowIn inside
  have off := kept.offInfrastructure visited visitedIn row rowIn inside
  refine { off with svi := ?_ }
  rcases sviIps visited.id with same | ⟨other, otherIn, sameId, new, newEq, stored⟩
  · rw [same]
    exact off.svi
  · cases eq_of_id_eq otherIn visitedIn sameId
    rw [stored]
    rintro ⟨rfl⟩
    rcases sviIpOf_spec kept.hosts newEq with reserved | lowestFree
    · exact off.reserved reserved
    · exact not_stored_of_lowestFree kept.hosts lowestFree (mem_map_of_mem rowIn)

/-- Every operation that passes over the SVI addresses keeps the addresses apart. -/
theorem Kept.step (kept : Kept segment rows) {operation : Operation ι}
    (passesOver : segment.PassesOverSvi rows operation) :
    Kept segment (segment.step operation rows) := by
  cases operation with
  | allocate instanceId iface slaacEnabled =>
    rw [TenantSegment.step]
    cases outcome : segment.allocate instanceId iface slaacEnabled rows with
    | error err => exact kept
    | ok next =>
      rcases allocate_spec kept.hosts outcome with rfl | ⟨needed, addrs, isAssigned, rfl⟩
      · exact kept
      · exact kept.assigned isAssigned (passesOver needed) instanceId
  | delete | deleteAddresses => exact kept.sublist filter_sublist
  | allocateSviIp =>
    rw [TenantSegment.step]
    cases outcome : segment.allocateSviIp rows with
    | error err => exact kept
    | ok result => exact kept.allocateSviIp outcome

/-- In every run in which each allocation passes over the SVI addresses, the instance
addresses stay apart from each other and from the infrastructure addresses. -/
theorem apart_of_run (segment : TenantSegment ι) {operations : List (Operation ι)}
    {final : SegmentRows ι}
    (passesOver : segment.machine.Meets segment.PassesOverSvi operations newRows)
    (ran : segment.machine.run operations newRows = some final) : Apart segment final := by
  have initially : Kept segment newRows := by
    exact ⟨forall_mem_nil _, nodup_nil, fun _ _ => forall_mem_nil _⟩
  refine (Machine.run_induction (Kept segment) ?_ initially passesOver ran).apart
  intro operation before next kept passes moved
  cases moved
  exact kept.step passes

end Runs

end Collision

/-- The prefix 10.0.0.0/28 with the gateway 10.0.0.1 and nothing reserved, and the prefix
2001:db8::/125 with its first three addresses reserved. -/
def dualStack : TenantSegment Bool where
  prefixes := [
    ⟨false, .v4 ⟨0x0a000000#32, 28, by decide⟩, some (.v4 0x0a000001#32), 0⟩,
    ⟨true, .v6 ⟨0x20010db8000000000000000000000000#128, 125, by decide⟩, none, 3⟩]
  ids := by decide
  families := by decide

def newInterface : InstanceInterfaceConfig Bool := ⟨[], none, none⟩

theorem passesOverSvi_released :
    letI := reference
    dualStack.machine.Meets dualStack.PassesOverSvi
      [.allocate 1 newInterface false, .allocateSviIp, .delete 1,
        .allocate 2 newInterface false] newRows := by
  decide +kernel

/-- The address that an instance releases lies below the SVI address, so the next
instance gets it. -/
theorem apart_of_released :
    letI := reference
    ∃ final, dualStack.machine.run
        [.allocate 1 newInterface false, .allocateSviIp, .delete 1,
          .allocate 2 newInterface false] newRows = some final ∧
      final.addresses.map (·.address) =
          [.v4 0x0a000002#32, .v6 0x20010db8000000000000000000000003#128] ∧
      final.sviIps false = some (.v4 0x0a000003#32) ∧ Apart dualStack final := by
  let := reference
  obtain ⟨final, ran, addresses, svi⟩ : ∃ rows ∈ dualStack.machine.run
      [.allocate 1 newInterface false, .allocateSviIp, .delete 1,
        .allocate 2 newInterface false] newRows,
      rows.addresses.map (·.address) =
          [.v4 0x0a000002#32, .v6 0x20010db8000000000000000000000003#128] ∧
        rows.sviIps false = some (.v4 0x0a000003#32) := by
    decide +kernel
  exact ⟨final, ran, addresses, svi, apart_of_run dualStack passesOverSvi_released ran⟩

/-- The first instance after the SVI allocation gets the SVI address 10.0.0.2. -/
theorem not_apart_of_sviFirst :
    letI := reference
    ∃ final, dualStack.machine.run [.allocateSviIp, .allocate 1 newInterface false] newRows =
        some final ∧ ¬ Apart dualStack final := by
  let := reference
  obtain ⟨final, ran, visited, visitedIn, addr, stored, isSvi⟩ : ∃ rows ∈ dualStack.machine.run
      [.allocateSviIp, .allocate 1 newInterface false] newRows,
      ∃ visited ∈ dualStack.prefixes, ∃ addr ∈ storedIn rows visited,
        rows.sviIps visited.id = some addr := by
    decide +kernel
  exact ⟨final, ran, fun apart => apart.svi visited visitedIn addr stored isSvi⟩

end TenantSegment

end ApiDb
