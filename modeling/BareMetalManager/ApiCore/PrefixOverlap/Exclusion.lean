import BareMetalManager.ApiCore.PrefixOverlap.Admission

/-!
# No VPC receives one address from two VPCs

The writer of prefixes and the writer of peerings each check only the receivers that they
affect, and they skip the checks when the gate is closed and no prefix is reused. Together
they keep the sources of every receiver apart, over every sequence of requests and changes
of the gate.
-/

namespace ApiCore.PrefixOverlap

open Checked Network List
open Instance (VpcVirtualizationType)

/-- Two prefixes reuse the same addresses as they are meant to: one prefix in two VPCs, each
in the scope of its own VPC. -/
structure Reused (left right : VpcPrefix) : Prop where
  sameNet : left.net = right.net
  otherVpc : left.vpcId ≠ right.vpcId
  leftScope : left.overlapVpcId = some left.vpcId
  rightScope : right.overlapVpcId = some right.vpcId

theorem Reused.symm {left right : VpcPrefix} (reused : Reused left right) : Reused right left :=
  ⟨reused.sameNet.symm, reused.otherVpc.symm, reused.rightScope, reused.leftScope⟩

section Invariant

variable [Ipnetwork] (site : Site) (state : State)

def Apart (left right : VpcPrefix) : Prop :=
  ∀ receiver ∈ site.vpcs.rows, IsSource site state receiver left.vpcId →
    ¬ IsSource site state receiver right.vpcId

/-- What holds between the requests. Only prefixes of tenant-managed roots are in the scope
of their VPC. -/
structure Exclusive : Prop where
  rows : ∀ row ∈ state.vpcPrefixes.rows,
    IsCanonical row.net ∧ ∀ scope ∈ row.overlapVpcId, tenantManaged site row = true
  pairs : ∀ left ∈ state.vpcPrefixes.rows, ∀ right ∈ state.vpcPrefixes.rows, left ≠ right →
    IpNet.Overlap left.net right.net → Reused left right ∧ Apart site state left right

variable {site state} {next : State} {environment : Environment}

/-- Prefixes that are removed or marked, and peerings that are removed, leave less to keep
apart. -/
theorem Exclusive.of_fewer (exclusive : Exclusive site state)
    (rows : ∀ row ∈ next.vpcPrefixes.rows, ∃ old ∈ state.vpcPrefixes.rows,
      row = { old with deleted := row.deleted })
    (peers : ∀ vpcId, ∀ peer ∈ getVpcPeerIds next vpcId, peer ∈ getVpcPeerIds state vpcId) :
    Exclusive site next := by
  constructor
  case rows =>
    intro row rowMem
    obtain ⟨old, oldMem, same⟩ := rows row rowMem
    rw [same]
    exact exclusive.rows old oldMem
  case pairs =>
    intro left leftMem right rightMem differ
    obtain ⟨oldLeft, oldLeftMem, sameLeft⟩ := rows left leftMem
    obtain ⟨oldRight, oldRightMem, sameRight⟩ := rows right rightMem
    have oldDiffer : oldLeft ≠ oldRight := by
      rintro rfl
      refine differ (next.vpcPrefixes.eq_of_key_eq leftMem rightMem ?_)
      rw [sameLeft, sameRight]
    rw [sameLeft, sameRight]
    intro overlap
    obtain ⟨⟨sameNet, otherVpc, leftScope, rightScope⟩, apart⟩ :=
      exclusive.pairs oldLeft oldLeftMem oldRight oldRightMem oldDiffer overlap
    refine ⟨⟨sameNet, otherVpc, leftScope, rightScope⟩, ?_⟩
    intro receiver receiverMem leftSource rightSource
    exact apart receiver receiverMem (leftSource.mono (peers _)) (rightSource.mono (peers _))

/-! ## Checked receivers -/

/-- An entry is among those that a check looks at: it is stored, or it is the new one. -/
def Present (state : State) (candidate : Option (VpcId × IpNet)) (entry : VpcId × IpNet) : Prop :=
  (∃ row ∈ state.vpcPrefixes.rows, (row.vpcId, row.net) = entry) ∨ candidate = some entry

variable {candidate : Option (VpcId × IpNet)}

omit [Ipnetwork] in
theorem mem_checked_of_present {sources : List VpcId} {entry : VpcId × IpNet}
    (present : Present state candidate entry) (source : entry.1 ∈ sources) :
    entry ∈ getRetainedPrefixesByVpcs state sources ++
      (candidate.filter fun entry => entry.1 ∈ sources).toList := by
  rcases present with ⟨row, rowMem, rfl⟩ | rfl
  · refine mem_append_left _ (mem_map.mpr ⟨row, ?_, rfl⟩)
    exact mem_filter.mpr ⟨rowMem, decide_eq_true source⟩
  · refine mem_append_right _ ?_
    rw [Option.filter_some, if_pos (decide_eq_true source)]
    exact mem_singleton.mpr rfl

theorem not_isSource_of_validateReceiverPrefixes {receiverIds : List VpcId}
    (validated : validateReceiverPrefixes site state receiverIds candidate = .ok ())
    {receiver : Vpc} (stored : receiver ∈ site.vpcs.rows) (isReceiver : receiver.id ∈ receiverIds)
    {left right : VpcId × IpNet} (leftPresent : Present state candidate left)
    (rightPresent : Present state candidate right) (differ : left.1 ≠ right.1)
    (leftCanonical : IsCanonical left.2) (rightCanonical : IsCanonical right.2)
    (overlap : IpNet.Overlap left.2 right.2) (leftSource : IsSource site state receiver left.1) :
    ¬ IsSource site state receiver right.1 := by
  intro rightSource
  unfold validateReceiverPrefixes at validated
  split at validated
  next noPolicy =>
    -- without a policy the receiver itself is its only source
    rw [Option.isNone_iff_eq_none] at noPolicy
    have leftOwn := eq_of_isSource_of_no_policy noPolicy leftSource
    exact absurd (leftOwn.trans (eq_of_isSource_of_no_policy noPolicy rightSource).symm) differ
  next =>
    obtain ⟨found, isFound, rest⟩ :=
      bind_eq_ok.mp (of_forM_eq_ok validated isReceiver)
    obtain ⟨sources, read, noneOverlap⟩ := bind_eq_ok.mp rest
    obtain ⟨foundMem, sameId⟩ := Site.mem_of_findVpc (okOr_eq_ok.mp isFound)
    obtain rfl := site.vpcs.eq_of_key_eq foundMem stored sameId
    have noCollision := not_collides_of_mem (rejectIf_eq_ok.mp noneOverlap)
      (mem_checked_of_present leftPresent ((mem_receiverSources read).mpr leftSource))
      (mem_checked_of_present rightPresent ((mem_receiverSources read).mpr rightSource))
    have contained := containsPrefix_of_overlap leftCanonical rightCanonical overlap
    simp only [collides, Bool.and_eq_false_iff, decide_eq_false_iff_not, not_not,
      Bool.or_eq_false_iff] at noCollision
    rcases noCollision with same | ⟨noLeft, noRight⟩
    · exact differ same
    · rw [noLeft, noRight] at contained
      simp at contained

omit [Ipnetwork] in
theorem checksRequired_of_overlap {left right : VpcPrefix} (leftMem : left ∈ state.vpcPrefixes.rows)
    (rightMem : right ∈ state.vpcPrefixes.rows) (differ : left.vpcId ≠ right.vpcId)
    (overlap : IpNet.Overlap left.net right.net) (managed : tenantManaged site left = true) :
    checksRequired site state = true := by
  have duplicate : usesDuplicateSpace site state false left = true := by
    refine any_eq_true.mpr ⟨right, rightMem, ?_⟩
    simp [differ, overlap, managed]
  have found : left.vpcId ∈ findDuplicateVpcIds site state false := by
    refine mem_dedup.mpr (mem_map.mpr ⟨left, ?_, rfl⟩)
    exact mem_filter.mpr ⟨leftMem, duplicate⟩
  rw [checksRequired, Bool.or_eq_true, Bool.not_eq_true']
  exact .inr (isEmpty_eq_false_iff.mpr (ne_nil_of_mem found))

/-! ## Creation of a peering -/

variable {id : VpcPeeringId} {vpcId peerVpcId : VpcId}

omit [Ipnetwork] in
theorem of_insertPeering
    (inserted : insertPeering state vpcId peerVpcId id = .ok next) :
    next.vpcPrefixes = state.vpcPrefixes ∧ ∀ receiver, ∀ peer ∈ getVpcPeerIds next receiver,
        peer ∈ getVpcPeerIds state receiver ∨ receiver ∈ [vpcId, peerVpcId] := by
  obtain ⟨-, -, rest⟩ := bind_eq_ok.mp inserted
  obtain ⟨-, -, rest⟩ := bind_eq_ok.mp rest
  obtain ⟨peerings, stored, rest⟩ := bind_eq_ok.mp rest
  cases rest
  refine ⟨rfl, fun receiver peer peered => ?_⟩
  obtain ⟨peering, peeringMem, across⟩ := mem_filterMap.mp peered
  rcases (Table.mem_of_insert? (okOr_eq_ok.mp stored)).mp peeringMem with old | rfl
  · exact .inl (mem_filterMap.mpr ⟨peering, old, across⟩)
  · right
    simp only [VpcPeering.other?] at across
    grind

theorem Exclusive.of_createVpcPeering (exclusive : Exclusive site state)
    (done : createVpcPeering site state environment vpcId peerVpcId id = .ok next) :
    Exclusive site next := by
  obtain ⟨vpc, -, rest⟩ := bind_eq_ok.mp done
  obtain ⟨peer, -, rest⟩ := bind_eq_ok.mp rest
  obtain ⟨-, -, rest⟩ := bind_eq_ok.mp rest
  obtain ⟨-, -, rest⟩ := bind_eq_ok.mp rest
  obtain ⟨previous, -, rest⟩ := bind_eq_ok.mp rest
  obtain ⟨inserted, isInserted, rest⟩ := bind_eq_ok.mp rest
  obtain ⟨⟨⟩, validated, rest⟩ := bind_eq_ok.mp rest
  obtain ⟨-, -, rest⟩ := bind_eq_ok.mp rest
  cases rest
  obtain ⟨sameRows, peers⟩ := of_insertPeering isInserted
  refine ⟨sameRows ▸ exclusive.rows, ?_⟩
  rw [sameRows]
  intro left leftMem right rightMem differ overlap
  obtain ⟨reused, apart⟩ := exclusive.pairs left leftMem right rightMem differ overlap
  refine ⟨reused, fun receiver receiverMem leftSource rightSource => ?_⟩
  obtain ⟨leftCanonical, managed⟩ := exclusive.rows left leftMem
  by_cases isEnd : receiver.id ∈ [vpcId, peerVpcId]
  · -- an end of the peering is checked, for its overlapping sources keep the checks active
    have checks := checksRequired_of_overlap leftMem rightMem reused.otherVpc overlap
      (managed _ reused.leftScope)
    rw [checks] at validated
    obtain ⟨-, -, rest⟩ := bind_eq_ok.mp validated
    obtain ⟨⟨⟩, receivers, -⟩ := bind_eq_ok.mp rest
    have stored (row : VpcPrefix) (rowMem : row ∈ state.vpcPrefixes.rows) :
        Present next none (row.vpcId, row.net) :=
      .inl ⟨row, by rwa [sameRows], rfl⟩
    exact not_isSource_of_validateReceiverPrefixes receivers receiverMem isEnd
      (stored left leftMem) (stored right rightMem) reused.otherVpc leftCanonical
      (exclusive.rows right rightMem).1 overlap leftSource rightSource
  · -- another receiver has the peers it had
    have kept (peer : VpcId) (peered : peer ∈ getVpcPeerIds next receiver.id) :
        peer ∈ getVpcPeerIds state receiver.id :=
      (peers _ peer peered).resolve_right isEnd
    exact apart receiver receiverMem (leftSource.mono kept) (rightSource.mono kept)

/-! ## Creation of a prefix -/

variable {request : NewVpcPrefix}

omit [Ipnetwork] in
theorem mem_of_selectSitePrefix {root : SitePrefix}
    (selected : selectSitePrefix site request = .ok (some root)) :
    root ∈ site.sitePrefixes.rows := by
  unfold selectSitePrefix at selected
  split at selected
  next sitePrefixId _ =>
    cases found : site.sitePrefixes.find? sitePrefixId with
    | none =>
      rw [found] at selected
      cases selected
    | some other =>
      rw [found] at selected
      cases selected
      exact (Table.find?_eq_some_iff.mp found).1
  next =>
    split at selected
    next =>
      obtain ⟨vpc, -, rest⟩ := bind_eq_ok.mp selected
      obtain ⟨-, -, rest⟩ := bind_eq_ok.mp rest
      cases rest
    next only candidates =>
      cases selected
      have rootMem : root ∈ site.sitePrefixes.rows.filter fun other =>
          other.authority = .operatorManaged && containsOrEquals other.net request.net := by
        rw [candidates]
        exact mem_singleton.mpr rfl
      exact (mem_filter.mp rootMem).1
    next => cases selected

variable [Ipnet 32] [Ipnet 128]

/-- A prefix that passes the check against the stored ones reuses each that it overlaps. -/
theorem reused_of_validateVpcPrefixOverlaps {candidate : VpcPrefix}
    {vpc : Vpc} {selected : Option SitePrefix} {overlaps : List VpcPrefix}
    (vpcId : vpc.id = candidate.vpcId)
    (validated : validateVpcPrefixOverlaps site state environment candidate vpc selected overlaps
      = .ok ()) {existing : VpcPrefix} (existingMem : existing ∈ overlaps) :
    Reused candidate existing := by
  unfold validateVpcPrefixOverlaps at validated
  split at validated
  next empty =>
    rw [List.isEmpty_iff.mp empty] at existingMem
    cases existingMem
  next =>
    obtain ⟨⟨⟩, inScope, rest⟩ := bind_eq_ok.mp validated
    obtain ⟨root, -, rest⟩ := bind_eq_ok.mp rest
    obtain ⟨-, -, rest⟩ := bind_eq_ok.mp rest
    obtain ⟨⟨⟩, pairs, -⟩ := bind_eq_ok.mp rest
    rw [rejectIf_eq_ok, Bool.or_eq_false_iff, any_eq_false] at inScope
    obtain ⟨existingVpc, isVpc, rest⟩ :=
      bind_eq_ok.mp (of_forM_eq_ok pairs existingMem)
    obtain ⟨existingRoot, -, rest⟩ := bind_eq_ok.mp rest
    obtain ⟨eligible, isEligible, passed⟩ := bind_eq_ok.mp rest
    rw [rejectIf_eq_ok, Bool.not_eq_false'] at passed
    subst passed
    obtain ⟨sameNet, otherVpc⟩ := of_pairIsEligible (mapError_eq_ok.mp isEligible)
    have existingId := (Site.mem_of_findVpc (okOr_eq_ok.mp isVpc)).2
    simp only [vpcId, existingId] at otherVpc
    refine ⟨sameNet, otherVpc, ?_, ?_⟩
    · simpa using inScope.1
    · simpa using inScope.2 existing existingMem

structure Created (site : Site) (state next : State) (row : VpcPrefix) : Prop where
  inserted : state.vpcPrefixes.insert? row = some next.vpcPrefixes
  peerings : next.peerings = state.peerings
  canonical : IsCanonical row.net
  rooted : ∀ scope ∈ row.overlapVpcId,
    state.tenantPrefixOverlapEnabled = true ∧ tenantManaged site row = true
  reused : ∀ old ∈ state.vpcPrefixes.rows, IpNet.Overlap old.net row.net → Reused row old
  received : checksRequired site state = true →
    validateReceiverPrefixes site state (getVpcPeerIds state row.vpcId ++ [row.vpcId])
      (some (row.vpcId, row.net)) = .ok ()

theorem exists_created (done : createVpcPrefix site state environment request = .ok next) :
    ∃ row, Created site state next row := by
  obtain ⟨⟨⟩, canonical, rest⟩ := bind_eq_ok.mp done
  obtain ⟨selected, isSelected, rest⟩ := bind_eq_ok.mp rest
  obtain ⟨vpc, isVpc, rest⟩ := bind_eq_ok.mp rest
  obtain ⟨-, -, rest⟩ := bind_eq_ok.mp rest
  obtain ⟨-, -, rest⟩ := bind_eq_ok.mp rest
  obtain ⟨⟨⟩, overlaps, rest⟩ := bind_eq_ok.mp rest
  obtain ⟨⟨⟩, attachment, rest⟩ := bind_eq_ok.mp rest
  obtain ⟨-, -, rest⟩ := bind_eq_ok.mp rest
  obtain ⟨vpcPrefixes, inserted, rest⟩ := bind_eq_ok.mp rest
  cases rest
  have vpcId := (Site.mem_of_findVpc (okOr_eq_ok.mp isVpc)).2
  refine ⟨_, okOr_eq_ok.mp inserted, rfl, ?_, ?_, ?_, ?_⟩
  · simpa [rejectIf_eq_ok] using canonical
  · intro scope inScope
    obtain ⟨root, rfl, isScope⟩ := Option.bind_eq_some_iff.mp inScope
    obtain ⟨gate, managed⟩ := of_vpcPrefixOverlapScope isScope
    have found : site.sitePrefixes.find? root.id = some root :=
      Table.find?_eq_some_iff.mpr ⟨mem_of_selectSitePrefix isSelected, rfl⟩
    refine ⟨gate, ?_⟩
    simp [tenantManaged, found, managed]
  · intro old oldMem overlap
    refine reused_of_validateVpcPrefixOverlaps vpcId overlaps ?_
    exact mem_filter.mpr ⟨oldMem, decide_eq_true overlap⟩
  · intro checks
    unfold validatePrefixAttachment at attachment
    rw [checks] at attachment
    obtain ⟨⟨⟩, validated, -⟩ := bind_eq_ok.mp attachment
    exact validated

omit [Ipnet 32] [Ipnet 128] in
theorem Exclusive.of_created {row : VpcPrefix} (exclusive : Exclusive site state)
    (created : Created site state next row) : Exclusive site next := by
  have stored {other : VpcPrefix} :
      other ∈ next.vpcPrefixes.rows ↔ other ∈ state.vpcPrefixes.rows ∨ other = row :=
    Table.mem_of_insert? created.inserted
  have sources {receiver : Vpc} {vpcId : VpcId} (source : IsSource site next receiver vpcId) :
      IsSource site state receiver vpcId := by
    refine source.mono ?_
    simp [getVpcPeerIds, created.peerings]
  -- a prefix is reused only while the gate is open, and then its receivers are checked
  have reused {old : VpcPrefix} (oldMem : old ∈ state.vpcPrefixes.rows)
      (overlap : IpNet.Overlap row.net old.net) : Reused row old ∧ Apart site next row old := by
    have reused := created.reused old oldMem overlap.symm
    have gate := (created.rooted row.vpcId reused.leftScope).1
    have checks : checksRequired site state = true := by
      rw [checksRequired, runtimeConfig, gate, Bool.true_or]
    refine ⟨reused, fun receiver receiverMem rowSource oldSource => ?_⟩
    exact not_isSource_of_validateReceiverPrefixes (created.received checks) receiverMem
      (sources rowSource).mem_receivers (.inr rfl) (.inl ⟨old, oldMem, rfl⟩) reused.otherVpc
      created.canonical (exclusive.rows old oldMem).1 overlap (sources rowSource)
      (sources oldSource)
  constructor
  case rows =>
    intro other otherMem
    rcases stored.mp otherMem with old | rfl
    · exact exclusive.rows other old
    · exact ⟨created.canonical, fun scope inScope => (created.rooted scope inScope).2⟩
  case pairs =>
    intro left leftMem right rightMem differ overlap
    rcases stored.mp leftMem with oldLeft | rfl <;> rcases stored.mp rightMem with oldRight | rfl
    · obtain ⟨reused, apart⟩ := exclusive.pairs left oldLeft right oldRight differ overlap
      refine ⟨reused, fun receiver receiverMem leftSource rightSource => ?_⟩
      exact apart receiver receiverMem (sources leftSource) (sources rightSource)
    · obtain ⟨reused, apart⟩ := reused oldLeft overlap.symm
      refine ⟨reused.symm, fun receiver receiverMem leftSource rightSource => ?_⟩
      exact apart receiver receiverMem rightSource leftSource
    · exact reused oldRight overlap
    · exact absurd rfl differ

/-! ## Every run -/

variable {action : Action}

theorem Exclusive.of_perform (exclusive : Exclusive site state)
    (done : perform site state action = .ok next) : Exclusive site next := by
  have unchanged (row : VpcPrefix) (rowMem : row ∈ state.vpcPrefixes.rows) :
      ∃ old ∈ state.vpcPrefixes.rows, row = { old with deleted := row.deleted } :=
    ⟨row, rowMem, rfl⟩
  cases action with
  | setGate enabled =>
    cases done
    exact exclusive.of_fewer unchanged fun _ _ peered => peered
  | createPrefix environment request =>
    obtain ⟨row, created⟩ := exists_created done
    exact exclusive.of_created created
  | createPeering environment vpcId peerVpcId id => exact exclusive.of_createVpcPeering done
  | deletePrefix environment id =>
    obtain ⟨row, -, rest⟩ := bind_eq_ok.mp done
    obtain ⟨vpc, -, rest⟩ := bind_eq_ok.mp rest
    obtain ⟨-, -, rest⟩ := bind_eq_ok.mp rest
    cases rest
    refine exclusive.of_fewer (fun marked markedMem => ?_) fun _ _ peered => peered
    obtain ⟨old, oldMem, rfl⟩ := mem_map.mp markedMem
    exact ⟨old, oldMem, rfl⟩
  | finalDeletePrefix id =>
    obtain ⟨row, -, rest⟩ := bind_eq_ok.mp done
    cases rest
    refine exclusive.of_fewer (fun kept keptMem => ?_) fun _ _ peered => peered
    exact unchanged kept (Table.mem_filter.mp keptMem).1
  | deletePeering environment id =>
    obtain ⟨peering, -, rest⟩ := bind_eq_ok.mp done
    obtain ⟨-, -, rest⟩ := bind_eq_ok.mp rest
    cases rest
    refine exclusive.of_fewer unchanged fun vpcId peer peered => ?_
    obtain ⟨marked, markedMem, across⟩ := mem_filterMap.mp peered
    obtain ⟨old, oldMem, rfl⟩ := mem_map.mp markedMem
    exact mem_filterMap.mpr ⟨old, oldMem, across⟩
  | finalDeletePeering id =>
    cases done
    refine exclusive.of_fewer unchanged fun vpcId peer peered => ?_
    obtain ⟨kept, keptMem, across⟩ := mem_filterMap.mp peered
    exact mem_filterMap.mpr ⟨kept, (Table.mem_filter.mp keptMem).1, across⟩

theorem Exclusive.of_apply (exclusive : Exclusive site state) :
    Exclusive site (apply site action state) := by
  unfold apply
  split
  next done => exact exclusive.of_perform done
  next => exact exclusive

/-- At a site that begins without VPC prefixes, prefixes share an address only as they are
meant to, and no receiver has two sources that own the same address. -/
theorem sources_apart_of_run {initial final : State} {actions : List Action}
    (empty : initial.vpcPrefixes.rows = [])
    (ran : (machine site).run actions initial = some final) :
    (∀ left ∈ final.vpcPrefixes.rows, ∀ right ∈ final.vpcPrefixes.rows, left ≠ right →
      IpNet.Overlap left.net right.net → Reused left right) ∧
    ∀ receiver ∈ site.vpcs.rows, ∀ sources, receiverSources site final receiver = .ok sources →
      ∀ source ∈ sources, ∀ other ∈ sources, source ≠ other →
        ∀ left ∈ final.vpcPrefixes.rows, ∀ right ∈ final.vpcPrefixes.rows,
          left.vpcId = source → right.vpcId = other → ¬ IpNet.Overlap left.net right.net := by
  have exclusive : Exclusive site final := by
    refine Machine.run_invariant (Exclusive site) ?_ ⟨by simp [empty], by simp [empty]⟩ ran
    intro action state next held moved
    cases moved
    exact held.of_apply
  refine ⟨fun left leftMem right rightMem differ overlap =>
    (exclusive.pairs left leftMem right rightMem differ overlap).1, ?_⟩
  intro receiver receiverMem sources read source sourceMem other otherMem differ left leftMem
    right rightMem leftSource rightSource overlap
  subst leftSource rightSource
  rw [mem_receiverSources read] at sourceMem otherMem
  have differ : left ≠ right := fun same => differ (congrArg VpcPrefix.vpcId same)
  exact (exclusive.pairs left leftMem right rightMem differ overlap).2 receiver receiverMem
    sourceMem otherMem

end Invariant

/-! ## A run in which a prefix is reused -/

/-- Everything outside the tables agrees, and each VPC owns the VNI of its own number. -/
def permissive : Environment where
  findOwnedAllocation
    | .vpcVni, vpcId => .ok (some vpcId)
    | .externalVpcVni, _ => .ok none
  validateAffectedInstances _ := .ok ()
  otherSteps := .ok ()

def isolatedProfile : FnnRoutingProfileConfig :=
  { internal := some true, tenantPrefixOverlapEligible := true }

/-- The prefix 10.0.0.0/12. -/
def tenRoot : IpNet := .v4 ⟨0x0A000000#32, 12, by decide⟩

/-- The prefix 10.0.0.0/20. -/
def tenSlice : IpNet := .v4 ⟨0x0A000000#32, 20, by decide⟩

def fnnVpc (id : VpcId) (tenant : String) : Vpc where
  id
  tenantOrganizationId := tenant
  networkVirtualizationType := .fnn
  routingProfileType := some "tenant"
  routingProfileOverrides := none
  vni := some id
  deleted := false

def tenantRoot (id : SitePrefixId) (tenant : String) : SitePrefix where
  id
  net := tenRoot
  authority := .tenantManaged
  tenantOrganizationId := some tenant
  routingScope := .datacenterOnly
  lifecycleState := .ready

/-- Two tenants with the same address space. -/
def twoTenants : Site where
  config :=
    { siteFabricPrefixes := []
      siteFabricNullRoutes := some [tenRoot]
      tenantPrefixOverlapEnabled := false
      anycastSitePrefixes := []
      vpcIsolationBehavior := .mutualIsolation
      vpcPeeringPolicy := some .exclusive
      vpcPeeringPolicyOnExisting := none
      siteGlobalVpcVni := none
      dpuConfig := ⟨0⟩
      fnn := some ⟨none, [], fun _ => some isolatedProfile⟩ }
  vpcs := ⟨[fnnVpc 1 "red", fnnVpc 2 "blue"], by decide⟩
  sitePrefixes := ⟨[tenantRoot 1 "red", tenantRoot 2 "blue"], by decide⟩

def withoutPrefixes : State := ⟨true, .empty, .empty⟩

/-- Both tenants use the prefix, then they try to peer while the gate is closed. -/
def reuseThenPeer : List Action :=
  [.createPrefix permissive ⟨1, 1, some 1, tenSlice⟩,
    .createPrefix permissive ⟨2, 2, some 2, tenSlice⟩,
    .setGate false,
    .createPeering permissive 1 2 1]

theorem sources_apart_reuseThenPeer :
    letI := Ipnetwork.reference
    letI := Ipnet.reference 32
    letI := Ipnet.reference 128
    (((machine twoTenants).run reuseThenPeer withoutPrefixes).map fun state =>
        (state.vpcPrefixes.rows.map VpcPrefix.vpcId, state.peerings.rows)) = some ([1, 2], []) ∧
      ∀ final ∈ (machine twoTenants).run reuseThenPeer withoutPrefixes,
        ∀ left ∈ final.vpcPrefixes.rows, ∀ right ∈ final.vpcPrefixes.rows, left ≠ right →
          IpNet.Overlap left.net right.net → Reused left right := by
  let := Ipnetwork.reference
  let := Ipnet.reference 32
  let := Ipnet.reference 128
  refine ⟨by decide +kernel, ?_⟩
  intro final ran
  exact (sources_apart_of_run rfl ran).1

end ApiCore.PrefixOverlap
