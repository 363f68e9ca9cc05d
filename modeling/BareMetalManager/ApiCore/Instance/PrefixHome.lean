import BareMetalManager.ApiCore.Instance.PrefixPlan

/-!
# The home of a VPC prefix

Every VPC prefix belongs to one VPC and one family, its *home*. The homes, and the ids
among the prefixes of one home, order the rows. Planning finds the candidates of a work
item at one home, which is the group of the item.
-/

namespace ApiCore.Instance

open Network Collections BTreeMap List

/-- The place of a row in the order of the locks: by VPC, family and id. -/
def rowRank (home : VpcPrefixId → Group) (row : VpcPrefixId) : Group ×ₗ VpcPrefixId :=
  toLex (home row, row)

section Rank

variable {home : VpcPrefixId → Group} {left right : VpcPrefixId}

theorem rowRank_lt_of_home_lt (less : home left < home right) :
    rowRank home left < rowRank home right :=
  Prod.Lex.toLex_lt_toLex.mpr (.inl less)

theorem rowRank_lt_of_id_lt (same : home left = home right) (less : left < right) :
    rowRank home left < rowRank home right :=
  Prod.Lex.toLex_lt_toLex.mpr (.inr ⟨same, less⟩)

theorem rowRank_injective : Function.Injective (rowRank home) :=
  fun _ _ same => congrArg (fun rank => (ofLex rank).2) same

end Rank

/-! ## Planned work stays at home -/

variable (home : VpcPrefixId → Group)

structure DiscoveryReads.Homed (reads : DiscoveryReads) : Prop where
  explicit : ∀ rows, reads.explicitPrefixes = .ok rows → ∀ row ∈ rows, home row.id = row.group
  automatic : ∀ rows, reads.automaticPrefixes = .ok rows → ∀ row ∈ rows, home row.id = row.group

structure PrefixAllocationContext.Homed (context : PrefixAllocationContext) : Prop where
  explicit : ∀ entry ∈ context.explicitPrefixes.entries,
    entry.2.id = entry.1 ∧ home entry.1 = entry.2.group
  automatic : ∀ entry ∈ context.automaticCandidates.entries,
    ∀ candidate ∈ entry.2, home candidate = entry.1

def PrefixAllocationWork.Homed (work : PrefixAllocationWork) : Prop :=
  ∀ candidate ∈ work.candidates, home candidate = work.group

section Planning

variable {home}

/-- No condition on the errors. -/
abbrev Returns {α : Type} (post : α → Prop) : Except AllocationError α → Prop :=
  Checked.Ends (fun _ => True) post

variable {rows : List VpcPrefix}

theorem explicitPrefixes_homed (homed : ∀ row ∈ rows, home row.id = row.group) :
    ∀ entry ∈ (rows.foldl (fun map row => map.insert row.id row)
        (.empty : BTreeMap VpcPrefixId VpcPrefix)).entries,
      entry.2.id = entry.1 ∧ home entry.1 = entry.2.group := by
  refine foldlRecOn rows _ (motive := fun (map : BTreeMap VpcPrefixId VpcPrefix) =>
    ∀ entry ∈ map.entries, entry.2.id = entry.1 ∧ home entry.1 = entry.2.group) ?_ ?_
  · nofun
  · intro map before row rowMem entry entryMem
    rcases mem_insert.mp entryMem with ⟨isKey, isValue⟩ | ⟨-, inMap⟩
    · rw [isKey, isValue]
      exact ⟨rfl, homed row rowMem⟩
    · exact before entry inMap

variable {vpcs : BTreeMap VpcId Vpc}

theorem freezeCandidate_homed {candidates : BTreeMap Group (List VpcPrefixId)}
    {vpcPrefix : VpcPrefix}
    (before : ∀ entry ∈ candidates.entries, ∀ candidate ∈ entry.2, home candidate = entry.1)
    (homed : home vpcPrefix.id = vpcPrefix.group) :
    ∀ entry ∈ (freezeCandidate vpcs candidates vpcPrefix).entries,
      ∀ candidate ∈ entry.2, home candidate = entry.1 := by
  have isHome : ∀ candidate ∈ [vpcPrefix.id], home candidate = vpcPrefix.group :=
    forall_mem_singleton.mpr homed
  unfold freezeCandidate
  split
  · exact before
  · dsimp only
    split
    · refine forall_upsert (fun group rows => ∀ row ∈ rows, home row = group) before
        isHome ?_
      intro present presentHome
      exact forall_mem_append.mpr ⟨presentHome, isHome⟩
    · exact before

theorem automaticCandidates_homed (homed : ∀ row ∈ rows, home row.id = row.group) :
    ∀ entry ∈ (rows.foldl (freezeCandidate vpcs) .empty).entries,
      ∀ candidate ∈ entry.2, home candidate = entry.1 := by
  refine foldlRecOn rows _ (motive := fun (map : BTreeMap Group (List VpcPrefixId)) =>
    ∀ entry ∈ map.entries, ∀ candidate ∈ entry.2, home candidate = entry.1) ?_ ?_
  · nofun
  · intro map before row rowMem
    exact freezeCandidate_homed before (homed row rowMem)

theorem readUnless_homed {rows : Except DatabaseError (List VpcPrefix)} {skipped : Bool}
    (homed : ∀ read, rows = .ok read → ∀ row ∈ read, home row.id = row.group) :
    Returns (fun read => ∀ row ∈ read, home row.id = row.group) (readUnless skipped rows) := by
  unfold readUnless
  split
  · nofun
  · exact (Checked.Ends.mapError (fun _ => trivial) rows).imp homed

variable {targets : List NetworkAllocationTarget}

theorem loadPrefixAllocationContext_homed {reads : DiscoveryReads} (homed : reads.Homed home) :
    Returns (fun context => ∀ found, context = some found → found.Homed home)
      (loadPrefixAllocationContext targets reads) := by
  unfold loadPrefixAllocationContext
  dsimp only
  split
  · nofun
  · refine .bind (readUnless_homed homed.explicit) fun explicitRows explicitHomed => ?_
    refine .ofRest fun _ => ?_
    refine .bind (readUnless_homed homed.automatic) fun automaticRows automaticHomed => ?_
    refine .ofRest fun _ => ?_
    refine .ofRest fun _ => ?_
    refine .ofRest fun _ => ?_
    rintro found ⟨⟩
    exact ⟨explicitPrefixes_homed explicitHomed, automaticCandidates_homed automaticHomed⟩

variable {context : PrefixAllocationContext} {tenant : String} {coordinates : Coordinates}
  {interface : InstanceInterfaceConfig}

section

variable (homed : context.Homed home)
include homed

variable (selection : InstanceInterfaceVpcSelection)

theorem automaticWork_homed (vpc : Vpc) (family : AllocationAddressFamily) :
    Returns (·.Homed home) (automaticWork context coordinates selection vpc family) := by
  refine .ofRest fun _ => ?_
  intro candidate candidateMem
  cases found : context.automaticCandidates.get? (toLex (selection.vpcId, family)) with
  | none =>
    rw [found] at candidateMem
    cases candidateMem
  | some candidates =>
    rw [found] at candidateMem
    exact homed.automatic _ (get?_eq_some_iff.mp found) candidate candidateMem

theorem automaticWorks_homed (vpc : Vpc) :
    Returns (fun works => ∀ work ∈ works, work.Homed home)
      (automaticWorks context coordinates interface selection vpc) := by
  unfold automaticWorks
  split
  · exact .mapM fun family _ => automaticWork_homed homed selection vpc family
  · nofun

theorem planAutomatic_homed :
    Returns (fun planned => ∀ work ∈ planned.2, work.Homed home)
      (planAutomatic context tenant coordinates interface selection) := by
  refine .ofRest fun vpc => ?_
  refine .ofRest fun _ => ?_
  refine .ofRest fun _ => ?_
  refine .ofRest fun _ => ?_
  refine .ofRest fun _ => ?_
  exact .bind (automaticWorks_homed homed selection vpc) fun works each => each

omit homed in
theorem explicitWork_homed {vpc : Vpc} {vpcPrefixId : VpcPrefixId} {vpcPrefix : VpcPrefix}
    {family : AllocationAddressFamily} {slot : PrefixAllocationSlot} {requested : Option IpAddr}
    (homed : home vpcPrefixId = toLex (vpcPrefix.vpcId, family)) :
    Returns (·.Homed home)
      (explicitWork coordinates vpc vpcPrefixId vpcPrefix family slot requested) := by
  refine .ofRest fun _ => ?_
  refine .ofRest fun _ => ?_
  exact forall_mem_singleton.mpr homed

variable (primaryPrefixId : VpcPrefixId)

theorem secondaryPrefix_homed (primaryPrefix : VpcPrefix) (primaryVpc : Vpc)
    (ipv6 : Ipv6InterfaceConfig) :
    Returns (fun vpcPrefix => home vpcPrefix.id = toLex (vpcPrefix.vpcId, .ipv6))
      (secondaryPrefix context primaryPrefixId primaryPrefix primaryVpc ipv6) := by
  refine .ofRest fun _ => ?_
  have read : Returns (fun vpcPrefix => home vpcPrefix.id = vpcPrefix.group)
      (Checked.okOr (.prefixNotFound ipv6.vpcPrefixId)
        (context.explicitPrefixes.get? ipv6.vpcPrefixId)) := by
    cases found : context.explicitPrefixes.get? ipv6.vpcPrefixId with
    | none => trivial
    | some vpcPrefix =>
      obtain ⟨isKey, isHome⟩ := homed.explicit _ (get?_eq_some_iff.mp found)
      exact (congrArg home isKey).trans isHome
  refine .bind read fun vpcPrefix isHome => ?_
  have isIpv6 : Returns (fun _ => vpcPrefix.net.addressFamily = .ipv6)
      (Checked.rejectIf (vpcPrefix.net.addressFamily ≠ .ipv6)
        (.prefixNotIpv6 ipv6.vpcPrefixId)) := by
    unfold Checked.rejectIf
    split
    · trivial
    · next accepted =>
        change vpcPrefix.net.addressFamily = .ipv6
        simpa using accepted
  refine .bind isIpv6 fun _ family => ?_
  refine .ofRest fun _ => ?_
  refine .ofRest fun _ => ?_
  change home vpcPrefix.id = _
  rw [isHome, VpcPrefix.group, AllocationAddressFamily.fromNetwork, family]
  rfl

theorem planExplicit_homed :
    Returns (fun planned => ∀ work ∈ planned.2, work.Homed home)
      (planExplicit context tenant coordinates interface primaryPrefixId) := by
  have read : Returns (fun vpcPrefix => home primaryPrefixId = vpcPrefix.group)
      (Checked.okOr (.prefixNotFound primaryPrefixId)
        (context.explicitPrefixes.get? primaryPrefixId)) := by
    cases found : context.explicitPrefixes.get? primaryPrefixId with
    | none => trivial
    | some vpcPrefix => exact (homed.explicit _ (get?_eq_some_iff.mp found)).2
  refine .bind read fun primaryPrefix primaryHome => ?_
  refine .ofRest fun primaryVpc => ?_
  refine .ofRest fun _ => ?_
  refine .ofRest fun _ => ?_
  have secondaryRead : Returns
      (fun secondary => ∀ vpcPrefix, secondary = some vpcPrefix →
        home vpcPrefix.id = toLex (vpcPrefix.vpcId, .ipv6))
      (interface.ipv6InterfaceConfig.elim (.ok none) fun ipv6 =>
        (secondaryPrefix context primaryPrefixId primaryPrefix primaryVpc ipv6).map some) := by
    cases interface.ipv6InterfaceConfig with
    | none => nofun
    | some ipv6 =>
      refine .map (secondaryPrefix_homed homed primaryPrefixId primaryPrefix primaryVpc ipv6) ?_
      rintro vpcPrefix isHome _ ⟨⟩
      exact isHome
  refine .bind secondaryRead fun secondary secondaryHome => ?_
  split
  · refine .bind (explicitWork_homed primaryHome) fun primaryWork primaryHomed => ?_
    have secondaryHomed : Returns (fun work => ∀ found, work = some found → found.Homed home)
        (secondary.elim (.ok none) fun vpcPrefix =>
          (secondaryWork coordinates interface primaryVpc vpcPrefix).map some) := by
      cases secondary with
      | none => nofun
      | some vpcPrefix =>
        refine .map (.ofRest fun _ =>
          explicitWork_homed (secondaryHome vpcPrefix rfl)) ?_
        rintro work workHomed _ ⟨⟩
        exact workHomed
    refine .bind secondaryHomed fun secondaryWork workHomed => ?_
    refine forall_mem_cons.mpr ⟨primaryHomed, fun work workMem => ?_⟩
    exact workHomed work (Option.mem_toList.mp workMem)
  · nofun

theorem planInterface_homed :
    Returns (fun planned => ∀ found, planned = some found → ∀ work ∈ found.2, work.Homed home)
      (planInterface context tenant coordinates interface) := by
  unfold planInterface
  split
  next selection _ =>
    refine .map (planAutomatic_homed homed selection) ?_
    rintro planned each _ ⟨⟩
    exact each
  next =>
    cases interface.networkDetails.bind (·.vpcPrefix?) with
    | none => nofun
    | some primaryPrefixId =>
      refine .map (planExplicit_homed homed primaryPrefixId) ?_
      rintro planned each _ ⟨⟩
      exact each

theorem planTarget_homed (indexed : NetworkAllocationTarget × Nat) :
    Returns (fun works => ∀ work ∈ works, work.Homed home) (planTarget context indexed) := by
  refine .bind (.mapM fun _ _ => planInterface_homed homed) fun planned each => ?_
  refine .ofRest fun _ => ?_
  intro work workMem
  obtain ⟨found, foundMem, inFound⟩ := mem_flatMap.mp workMem
  obtain ⟨entry, entryMem, isFound⟩ := mem_filterMap.mp foundMem
  exact each entry entryMem found isFound work inFound

end

theorem planNetworks_homed {reads : DiscoveryReads} (homed : reads.Homed home) :
    Returns (fun works => ∀ work ∈ works, work.Homed home) (planNetworks targets reads) := by
  refine .bind (loadPrefixAllocationContext_homed homed) fun context contextHomed => ?_
  cases context with
  | none => nofun
  | some context =>
    refine .bind (.mapM fun indexed _ => planTarget_homed (contextHomed context rfl) indexed)
      fun works each => ?_
    intro work workMem
    obtain ⟨planned, plannedMem, inPlanned⟩ := mem_flatten.mp workMem
    exact each planned plannedMem work inPlanned

end Planning

end ApiCore.Instance
