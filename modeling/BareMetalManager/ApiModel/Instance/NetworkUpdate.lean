import BareMetalManager.ApiModel.Instance.ResourceReuse

/-!
# What a network update releases

The request is copied onto the configuration in use, the rest is allocated, and the release gives
back what the stored configuration does not keep. A segment that was generated for an interface
can also be named directly; then it is released with its interface although the new configuration
uses it.
-/

namespace ApiModel.Instance

open Network ApiCore ApiCore.Instance List InterfaceConfig

private theorem filterMap_eq_of_forall₂ {α β γ : Type} {left : α → Option γ} {right : β → Option γ}
    {items : List α} {others : List β}
    (inStep : List.Forall₂ (fun item other => right other = left item) items others) :
    others.filterMap right = items.filterMap left := by
  induction inStep with
  | nil => rfl
  | cons head tail ih => rw [filterMap_cons, filterMap_cons, head, ih]

/-- A release has a segment for each address, and deletes the addresses of its interfaces. -/
theorem releasedAddresses_eq_ok {interfaces : List InterfaceConfig}
    (hasSegment : ∀ interface ∈ interfaces, interface.networkSegmentId.isSome = true) :
    ∃ released, releasedAddresses interfaces = .ok released ∧
      ∀ address, address ∈ released ↔ UsesAddress interfaces address := by
  have segmentOf : ∀ entry ∈ interfaces.flatMap addresses, entry.1.isSome = true := by
    intro entry member
    obtain ⟨interface, inInterfaces, ofInterface⟩ := mem_flatMap.mp member
    obtain ⟨address, -, eq⟩ := mem_map.mp ofInterface
    rw [← eq]
    exact hasSegment interface inInterfaces
  refine ⟨(interfaces.flatMap addresses).map fun entry => (entry.1.getD 0, entry.2),
    Checked.mapM_eq_ok fun entry member => ?_, fun address => ?_⟩
  · obtain ⟨segment, eq⟩ := Option.isSome_iff_exists.mp (segmentOf entry member)
    simp [eq]
  · rw [UsesAddress, ← mem_flatMap, mem_map]
    constructor
    · rintro ⟨entry, member, rfl⟩
      obtain ⟨segment, eq⟩ := Option.isSome_iff_exists.mp (segmentOf entry member)
      have rebuilt : (some (entry.1.getD 0), entry.2) = entry := Prod.ext (by simp [eq]) rfl
      rwa [rebuilt]
    · exact fun member => ⟨_, member, rfl⟩

variable {existing : InterfaceConfig}

theorem networkSegmentId_of_generated {segment : NetworkSegmentId}
    (generated : existing.generatedNetworkSegmentId = some segment) :
    existing.networkSegmentId = some segment := by
  obtain ⟨_, _, eq⟩ := Option.bind_eq_some_iff.mp generated
  exact eq

section Whole

variable {current : CurrentConfig} {requested : RequestedConfig} {stored : List InterfaceConfig}

theorem mem_kept :
    existing ∈ (copyExistingResources requested.interfaces current.interfaces).2 ↔
      existing ∈ current.interfaces ∧ ∃ interface ∈ requested.interfaces,
        interface.keeps existing = true := by
  simp only [copyExistingResources, mem_filterMap, find?_keeps]
  constructor
  · rintro ⟨interface, member, inCurrent, keeps⟩
    exact ⟨inCurrent, interface, member, keeps⟩
  · rintro ⟨inCurrent, interface, member, keeps⟩
    exact ⟨interface, member, inCurrent, keeps⟩

variable (update : StoredFor current.interfaces requested.interfaces stored)
include update

theorem forall₂_of_storedFor :
    List.Forall₂ (fun interface new => interface ∈ requested.interfaces ∧
        InterfaceConfig.AllocatedFrom current.interfaces (interface.copied current.interfaces) new)
      requested.interfaces stored := by
  rw [StoredFor, copyExistingResources, forall₂_map_left_iff] at update
  exact (forall₂_and_left _ _).mpr ⟨fun _ member => member, update⟩

theorem exists_stored {interface : InterfaceConfig} (member : interface ∈ requested.interfaces) :
    ∃ new ∈ stored,
      InterfaceConfig.AllocatedFrom current.interfaces
        (interface.copied current.interfaces) new := by
  obtain ⟨index, bound, rfl⟩ := getElem_of_mem member
  have inStep := forall₂_of_storedFor update
  have storedBound : index < stored.length := inStep.length_eq ▸ bound
  exact ⟨_, getElem_mem storedBound, (inStep.get bound storedBound).2⟩

variable {new : InterfaceConfig}

theorem exists_requested (member : new ∈ stored) :
    ∃ interface ∈ requested.interfaces,
      InterfaceConfig.AllocatedFrom current.interfaces
        (interface.copied current.interfaces) new := by
  obtain ⟨index, bound, rfl⟩ := getElem_of_mem member
  have inStep := forall₂_of_storedFor update
  have requestedBound : index < requested.interfaces.length := inStep.length_eq.symm ▸ bound
  exact ⟨_, inStep.get requestedBound bound⟩

/-- What is kept is the same before the allocation and at the release. -/
theorem kept_stored :
    (copyExistingResources stored current.interfaces).2 =
      (copyExistingResources requested.interfaces current.interfaces).2 := by
  refine filterMap_eq_of_forall₂ ((forall₂_of_storedFor update).imp ?_)
  rintro interface new ⟨member, allocated⟩
  refine Option.ext fun existing => ?_
  rw [find?_keeps, find?_keeps]
  refine and_congr_right fun inCurrent => ?_
  rw [keeps_stored (requested.unallocated interface member) allocated inCurrent]

/-- The interfaces to be released are the current ones that the request does not keep. -/
theorem mem_resourcesToBeReleased :
    existing ∈ resourcesToBeReleased current.interfaces stored ↔ existing ∈ current.interfaces ∧
        ∀ interface ∈ requested.interfaces, interface.keeps existing = false := by
  rw [resourcesToBeReleased, mem_filter, kept_stored update]
  refine and_congr_right fun inCurrent => ?_
  rw [Bool.not_eq_true', contains_eq_mem, decide_eq_false_iff_not, mem_kept]
  simp [inCurrent]

/-- An address of the stored configuration that is an address of a current interface was kept
with it. -/
theorem keeps_of_address {address : Option NetworkSegmentId × IpAddr}
    (inCurrent : existing ∈ current.interfaces) (inStored : new ∈ stored)
    (ofExisting : address ∈ existing.addresses) (ofNew : address ∈ new.addresses) :
    ∃ interface ∈ requested.interfaces, interface.keeps existing = true := by
  obtain ⟨interface, member, allocated⟩ := exists_requested update inStored
  refine ⟨interface, member, ?_⟩
  -- otherwise the address was assigned anew
  have notNew : (interface.copied current.interfaces).ipAddrs ≠ [] := fun unassigned =>
    allocated.unassigned unassigned existing inCurrent address ofNew ofExisting
  cases found : current.interfaces.find? interface.keeps with
  | none =>
    rw [copied, found] at notNew
    have unallocated := requested.unallocated interface member
    simp only [interfaceNeedsPrefixAllocation, Bool.and_eq_true, List.isEmpty_iff] at unallocated
    exact absurd unallocated.1 notNew
  | some kept =>
    obtain ⟨keptInCurrent, keeps⟩ := find?_keeps.mp found
    rw [copied_of_keeps keptInCurrent keeps] at notNew
    rw [addresses_of_keeps keptInCurrent keeps allocated notNew] at ofNew
    obtain ⟨_, _, eqNew⟩ := mem_map.mp ofNew
    obtain ⟨_, _, eqExisting⟩ := mem_map.mp ofExisting
    have sameSegment : kept.networkSegmentId = existing.networkSegmentId :=
      congrArg Prod.fst (eqNew.trans eqExisting.symm)
    rwa [inj_on_of_nodup_map current.segments keptInCurrent inCurrent sameSegment] at keeps

theorem addresses_released_exactly :
    ∃ released, releasedAddresses (resourcesToBeReleased current.interfaces stored) = .ok released ∧
      (∀ address ∈ released, ¬ UsesAddress stored address) ∧
      ∀ address, UsesAddress current.interfaces address → ¬ UsesAddress stored address →
        address ∈ released := by
  have hasSegment : ∀ existing ∈ resourcesToBeReleased current.interfaces stored,
      existing.networkSegmentId.isSome = true := fun existing member =>
    current.hasSegment existing ((mem_resourcesToBeReleased update).mp member).1
  obtain ⟨released, eq, iff⟩ := releasedAddresses_eq_ok hasSegment
  refine ⟨released, eq, ?_, ?_⟩
  · rintro address member ⟨new, inStored, ofNew⟩
    obtain ⟨existing, toBeReleased, ofExisting⟩ := (iff address).mp member
    obtain ⟨inCurrent, unkept⟩ := (mem_resourcesToBeReleased update).mp toBeReleased
    obtain ⟨interface, inRequested, keeps⟩ :=
      keeps_of_address update inCurrent inStored ofExisting ofNew
    rw [unkept interface inRequested] at keeps
    cases keeps
  · rintro address ⟨existing, inCurrent, ofExisting⟩ unused
    refine (iff address).mpr ⟨existing, (mem_resourcesToBeReleased update).mpr ⟨inCurrent, ?_⟩,
      ofExisting⟩
    intro interface inRequested
    by_contra kept
    have keeps := (Bool.not_eq_false _).mp kept
    obtain ⟨new, inStored, allocated⟩ := exists_stored update inRequested
    have assigned : existing.ipAddrs ≠ [] := by
      intro empty
      simp [addresses, empty] at ofExisting
    refine unused ⟨new, inStored, ?_⟩
    rwa [addresses_of_keeps inCurrent keeps allocated assigned]

/-- A segment of the stored configuration that is the segment of a current interface was kept
with it or is named directly. -/
theorem keeps_or_names_of_segment (inCurrent : existing ∈ current.interfaces)
    (inStored : new ∈ stored) (same : new.networkSegmentId = existing.networkSegmentId) :
    (∃ interface ∈ requested.interfaces, interface.keeps existing = true) ∨
      ∃ interface ∈ requested.interfaces, interface.wantsPrefix = false ∧
        interface.networkSegmentId = existing.networkSegmentId := by
  obtain ⟨interface, member, allocated⟩ := exists_requested update inStored
  cases found : current.interfaces.find? interface.keeps with
  | some kept =>
    obtain ⟨keptInCurrent, keeps⟩ := find?_keeps.mp found
    have sameSegment : kept.networkSegmentId = existing.networkSegmentId :=
      (networkSegmentId_of_keeps keptInCurrent keeps allocated).symm.trans same
    rw [inj_on_of_nodup_map current.segments keptInCurrent inCurrent sameSegment] at keeps
    exact .inl ⟨interface, member, keeps⟩
  | none =>
    have keepsNone : ∀ other ∈ current.interfaces, interface.keeps other = false := by
      simpa using found
    cases wants : interface.wantsPrefix with
    | true =>
      exact absurd same.symm (networkSegmentId_of_wantsPrefix
        (requested.unallocated interface member) keepsNone allocated wants inCurrent)
    | false =>
      exact .inr ⟨interface, member, wants,
        (networkSegmentId_of_not_wantsPrefix keepsNone allocated wants).symm.trans
          same⟩

theorem segments_unused (names : NamesKeptSegments current.interfaces requested.interfaces) :
    ∀ segment ∈ releasedSegments (resourcesToBeReleased current.interfaces stored),
      ¬ UsesSegment stored segment := by
  rintro segment member ⟨new, inStored, ofNew⟩
  obtain ⟨existing, toBeReleased, generated⟩ := mem_filterMap.mp member
  obtain ⟨inCurrent, unkept⟩ := (mem_resourcesToBeReleased update).mp toBeReleased
  have ofExisting := networkSegmentId_of_generated generated
  have kept : ∃ interface ∈ requested.interfaces, interface.keeps existing = true := by
    rcases keeps_or_names_of_segment update inCurrent inStored (ofNew.trans ofExisting.symm) with
      kept | ⟨interface, inRequested, direct, named⟩
    · exact kept
    · exact names existing inCurrent segment generated interface inRequested direct
        (named.trans ofExisting)
  obtain ⟨interface, inRequested, keeps⟩ := kept
  rw [unkept interface inRequested] at keeps
  cases keeps

theorem segments_released :
    ∀ segment ∈ releasedSegments current.interfaces, ¬ UsesSegment stored segment →
      segment ∈ releasedSegments (resourcesToBeReleased current.interfaces stored) := by
  intro segment member unused
  obtain ⟨existing, inCurrent, generated⟩ := mem_filterMap.mp member
  refine mem_filterMap.mpr ⟨existing, (mem_resourcesToBeReleased update).mpr ⟨inCurrent, ?_⟩,
    generated⟩
  intro interface inRequested
  by_contra kept
  obtain ⟨new, inStored, allocated⟩ := exists_stored update inRequested
  refine unused ⟨new, inStored, ?_⟩
  rw [networkSegmentId_of_keeps inCurrent ((Bool.not_eq_false _).mp kept) allocated,
    networkSegmentId_of_generated generated]

/-- A generated segment that is named directly, while its interface is not kept, is released
and used. -/
theorem namesKeptSegments_of_segmentsUnused
    (unused : ∀ segment ∈ releasedSegments (resourcesToBeReleased current.interfaces stored),
      ¬ UsesSegment stored segment) :
    NamesKeptSegments current.interfaces requested.interfaces := by
  intro existing inCurrent segment generated interface inRequested direct named
  by_contra none
  have unkept : ∀ other ∈ requested.interfaces, other.keeps existing = false := by simpa using none
  have ofExisting := networkSegmentId_of_generated generated
  have keepsNone : ∀ other ∈ current.interfaces, interface.keeps other = false := by
    intro other inOther
    by_contra kept
    have keeps := (Bool.not_eq_false _).mp kept
    have sameSegment : other.networkSegmentId = existing.networkSegmentId :=
      (networkSegmentId_eq_of_direct direct
        (requested.namesOneSegment interface inRequested) (current.namesOneSegment other inOther)
        (keeps_iff.mp keeps).1).trans (named.trans ofExisting.symm)
    rw [inj_on_of_nodup_map current.segments inOther inCurrent sameSegment,
      unkept interface inRequested] at keeps
    cases keeps
  obtain ⟨new, inStored, allocated⟩ := exists_stored update inRequested
  refine unused segment (mem_filterMap.mpr ⟨existing, ?_, generated⟩) ⟨new, inStored, ?_⟩
  · exact (mem_resourcesToBeReleased update).mpr ⟨inCurrent, unkept⟩
  · rw [networkSegmentId_of_not_wantsPrefix keepsNone allocated direct, named]

end Whole

/-- An update releases exactly what it does not keep if and only if the request names no
generated segment of an interface that it gives up. -/
theorem releasesExactly_iff_namesKeptSegments (current : CurrentConfig)
    (requested : RequestedConfig) (stored : List InterfaceConfig)
    (update : StoredFor current.interfaces requested.interfaces stored) :
    ReleasesExactly current.interfaces requested.interfaces stored ↔
      NamesKeptSegments current.interfaces requested.interfaces := by
  constructor
  · intro releases
    exact namesKeptSegments_of_segmentsUnused update releases.segmentsUnused
  · intro names
    exact ⟨kept_stored update, addresses_released_exactly update, segments_unused update names,
      segments_released update⟩

def virtualInterface (id : Nat) (details : NetworkDetails) (segment : Option NetworkSegmentId) :
    InterfaceConfig where
  networkDetails := some details
  vpcSelection := none
  networkSegmentId := segment
  ipAddrs := []
  requestedIpAddr := none
  ipv6InterfaceConfig := none
  interfacePrefixes := []
  vpcId := none
  functionId := .virtual' id
  routingProfile := none
  networkSegmentGateways := []
  hostInbandMacAddress := none
  deviceLocator := none
  internalUuid := 0

/-- An interface of VPC prefix 1 with an address in the segment that was generated for it. -/
def addressedInterface (id : Nat) (segment : NetworkSegmentId) (address : BitVec 32) :
    InterfaceConfig :=
  { virtualInterface id (.vpcPrefixId 1) (some segment) with ipAddrs := [(segment, .v4 address)] }

def twoFunctions : CurrentConfig where
  interfaces := [addressedInterface 0 5 10#32, addressedInterface 1 6 20#32]
  identities := by decide
  segments := by decide
  hasSegment := by decide
  allocated := by decide
  resolved := by decide
  namesOneSegment := by
    simp [InterfaceConfig.NamesOneSegment, addressedInterface, virtualInterface]

/-- The second function is given up, a third one is added. -/
def swapFunction : RequestedConfig where
  interfaces := [virtualInterface 0 (.vpcPrefixId 1) none, virtualInterface 2 (.vpcPrefixId 1) none]
  identities := by decide
  segments := by decide
  unallocated := by decide
  namesOneSegment := by simp [InterfaceConfig.NamesOneSegment, virtualInterface]

theorem releasesExactly_swapFunction :
    ReleasesExactly twoFunctions.interfaces swapFunction.interfaces
      [addressedInterface 0 5 10#32, addressedInterface 2 7 30#32] := by
  refine (releasesExactly_iff_namesKeptSegments twoFunctions swapFunction _ ?_).mpr ?_
  · refine .cons ?_ (.cons ?_ .nil) <;> constructor <;> decide
  · intro existing _ segment _ interface requested direct
    simp only [swapFunction, mem_cons, not_mem_nil, or_false] at requested
    rcases requested with rfl | rfl <;> cases direct

/-- A virtual function in a VPC with address autoconfiguration: VPC prefix 1, whose generated
segment 5 has the prefix 2001:db8::/64 and no address. -/
def autoconfigured : InterfaceConfig :=
  { virtualInterface 0 (.vpcPrefixId 1) (some 5) with
    interfacePrefixes := [(5, .v6 ⟨0x20010db8000000000000000000000000#128, 64, by decide⟩)] }

/-- The same function with segment 5 named directly. -/
def directSegment : InterfaceConfig := virtualInterface 0 (.networkSegment 5) (some 5)

/-- Naming the generated segment of an interface in its place releases the segment that the new
configuration uses. -/
theorem not_releasesExactly_directSegment :
    ∃ (current : CurrentConfig) (requested : RequestedConfig),
      current.interfaces = [autoconfigured] ∧ requested.interfaces = [directSegment] ∧
      ∃ stored, StoredFor current.interfaces requested.interfaces stored ∧
        5 ∈ releasedSegments (resourcesToBeReleased current.interfaces stored) ∧
        UsesSegment stored 5 ∧
        ¬ ReleasesExactly current.interfaces requested.interfaces stored := by
  let current : CurrentConfig :=
    { interfaces := [autoconfigured], identities := by decide, segments := by decide,
      hasSegment := by decide, allocated := by decide, resolved := by decide,
      namesOneSegment := by
        intro interface member segment details
        rw [mem_singleton.mp member] at details
        cases details }
  let requested : RequestedConfig :=
    { interfaces := [directSegment], identities := by decide, segments := by decide,
      unallocated := by decide,
      namesOneSegment := by
        intro interface member segment details
        rw [mem_singleton.mp member] at details ⊢
        cases details
        rfl }
  let stored := { directSegment with interfacePrefixes := autoconfigured.interfacePrefixes }
  have released : 5 ∈ releasedSegments (resourcesToBeReleased [autoconfigured]
    [stored]) := by decide
  have used : UsesSegment [stored] 5 := ⟨stored, mem_singleton.mpr rfl, rfl⟩
  refine ⟨current, requested, rfl, rfl, [stored], ?_, released, used, fun releases => ?_⟩
  · refine .cons ?_ .nil
    constructor <;> decide
  · exact releases.segmentsUnused 5 released used

end ApiModel.Instance
