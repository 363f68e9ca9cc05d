import BareMetalManager.IbFabric.Reconciliation

/-!
# Retired memberships stay retired

Whatever the snapshots, the fabric data and the failures of a pass, it binds a membership with a
record of its retirement only if the locked look-up found an instance that needs it, and it
unbinds no membership that is not managed or that the look-up found needed.
-/

namespace IbFabric

open List Traced Checked

/-! ## The locked look-up -/

/-- A look-up found an instance that is alive and needs a membership: its host has the GUID in its
hardware, was observed with it on the fabric, and is on the tenant network, and an interface of
the instance has the GUID and the key. -/
def LiveNeeds (reread : Reread) (membership : IbMembership) : Prop :=
  reread.machineExists = .ok true ∧
  ∃ host hostInstance interface value,
    reread.snapshot = .ok (some host) ∧
    host.forceDeletion = false ∧
    (∃ hardware ∈ host.hardwareInfo.getD [], hardware.guid = membership.guid) ∧
    (∃ status ∈ host.statusObservation.getD [],
      status.guid = membership.guid ∧ status.fabricId = membership.fabric) ∧
    host.usesAdminNetwork = false ∧
    host.hostInstance = some hostInstance ∧ hostInstance.deleted = false ∧
    interface ∈ hostInstance.ibInterfaces ∧ interface.guid = some membership.guid ∧
    reread.pkeyOfPartition interface.ibPartitionId = .ok (some value) ∧
    PartitionKey.tryFrom value = some membership.pkey

variable {env : Environment} {membership : IbMembership} {retired : List IbMembership}
  {trace : List PassEvent}

theorem exists_of_stillLive {pkeyOfPartition : IbPartitionId → Except IbError (Option (BitVec 16))}
    {interfaces : List InstanceIbInterface}
    (live : stillLive pkeyOfPartition membership interfaces = .ok true) :
    ∃ interface ∈ interfaces, interface.guid = some membership.guid ∧
      ∃ value, pkeyOfPartition interface.ibPartitionId = .ok (some value) ∧
        PartitionKey.tryFrom value = some membership.pkey := by
  induction interfaces with
  | nil => cases live
  | cons interface interfaces ih =>
    rw [stillLive] at live
    split at live
    next sameGuid =>
      obtain ⟨pkey, read, live⟩ := bind_eq_ok.mp live
      split at live
      next samePkey =>
        obtain ⟨value, rfl, converted⟩ := Option.bind_eq_some_iff.mp samePkey
        exact ⟨interface, mem_cons_self, sameGuid, value, read, converted⟩
      next => exact exists_mem_cons_of_exists (ih live)
    next => exact exists_mem_cons_of_exists (ih live)

theorem liveInstance_eq_some {snapshot : Option HostSnapshot}
    {hostInstance : IbInstance} (live : liveInstance membership snapshot = some hostInstance) :
    ∃ host, snapshot = some host ∧ membershipMayBeReused membership host = true ∧
      host.usesAdminNetwork = false ∧ host.hostInstance = some hostInstance ∧
      hostInstance.deleted = false := by
  obtain ⟨ofHost, alive⟩ := Option.filter_eq_some_iff.mp live
  obtain ⟨host, filtered, ofHost⟩ := Option.bind_eq_some_iff.mp ofHost
  obtain ⟨found, reusable⟩ := Option.filter_eq_some_iff.mp filtered
  simp only [Bool.and_eq_true, Bool.not_eq_true'] at reusable alive
  exact ⟨host, found, reusable.1, reusable.2, ofHost, alive⟩

theorem liveNeeds_of_membershipIsStillNeeded {reread : Reread}
    (needed : membershipIsStillNeeded reread membership = .ok true) :
    LiveNeeds reread membership := by
  obtain ⟨-, -, needed⟩ := bind_eq_ok.mp needed
  obtain ⟨machineExists, machine, needed⟩ := bind_eq_ok.mp needed
  cases machineExists with
  | false =>
    obtain ⟨-, -, returned⟩ := bind_eq_ok.mp needed
    cases returned
  | true =>
    obtain ⟨snapshot, read, needed⟩ := bind_eq_ok.mp needed
    obtain ⟨answer, looked, needed⟩ := bind_eq_ok.mp needed
    obtain ⟨-, -, returned⟩ := bind_eq_ok.mp needed
    cases returned
    cases live : liveInstance membership snapshot with
    | none =>
      rw [live] at looked
      cases looked
    | some hostInstance =>
      rw [live, Option.elim_some] at looked
      obtain ⟨host, rfl, reusable, tenant, ofHost, alive⟩ := liveInstance_eq_some live
      obtain ⟨interface, member, sameGuid, value, pkey, converted⟩ := exists_of_stillLive looked
      simp only [membershipMayBeReused, Bool.and_eq_true, Bool.not_eq_true', any_eq_true,
        decide_eq_true_eq] at reusable
      exact ⟨machine, host, hostInstance, interface, value, read, reusable.1.1, reusable.1.2,
        reusable.2, tenant, ofHost, alive, member, sameGuid, pkey, converted⟩

/-! ## One retired membership -/

def FindsNeeded (trace : List PassEvent) (membership : IbMembership) : Prop :=
  ∃ machine, .reread machine membership (.ok true) ∈ trace

theorem not_findsNeeded_nil (membership : IbMembership) : ¬ FindsNeeded [] membership := by
  rintro ⟨machine, ⟨⟩⟩

theorem findsNeeded_append {before after : List PassEvent} :
    FindsNeeded (before ++ after) membership ↔
      FindsNeeded before membership ∨ FindsNeeded after membership := by
  simp only [FindsNeeded, mem_append, exists_or]

def IsRereadOf (env : Environment) (membership : IbMembership) (event : PassEvent) : Prop :=
  ∃ machine, event = .reread machine membership
    (membershipIsStillNeeded (env.reread machine membership) membership)

theorem rereadMembership_spec (env : Environment) (membership : IbMembership)
    (host : Option MachineId) :
    ∃ needed, (rereadMembership env membership host).result = .ok needed ∧
      (∀ event ∈ (rereadMembership env membership host).calls, IsRereadOf env membership event) ∧
      (FindsNeeded (rereadMembership env membership host).calls membership ↔
        needed = .ok true) := by
  cases host with
  | none => exact ⟨.ok false, rfl, by simp [rereadMembership], by simp [rereadMembership,
      FindsNeeded]⟩
  | some machine =>
    refine ⟨membershipIsStillNeeded (env.reread machine membership) membership, rfl, ?_, ?_⟩
    · intro event member
      exact ⟨machine, mem_singleton.mp member⟩
    · constructor
      · rintro ⟨other, member⟩
        injection mem_singleton.mp member with _ _ found
        exact found.symm
      · intro found
        exact ⟨machine, mem_singleton.mpr (by rw [found])⟩

/-- The reconciliation looks a membership up and takes it back only if it is managed and not found
needed; it ends with the membership suppressed, found needed, or without a pending bind. -/
structure StepSpec (env : Environment) (state : Reconciliation) (membership : IbMembership)
    (step : Traced IbError PassEvent Reconciliation) : Prop where
  calls : ∀ event ∈ step.calls, IsRereadOf env membership event ∨
    event = .unbind membership ∧ isManaged env.fabrics membership.fabric membership.pkey = true ∧
      ¬ FindsNeeded step.calls membership
  live : ∀ next, step.result = .ok next → ∀ other, other ∈ next.liveMemberships ↔
    other ∈ state.liveMemberships ∨ other = membership ∧ FindsNeeded step.calls membership
  suppressed : ∀ next, step.result = .ok next →
    state.membershipsToSuppress ⊆ next.membershipsToSuppress
  reports : ∀ next, step.result = .ok next → ∀ report ∈ next.reports,
    ∃ old ∈ state.reports, report.missingGuidPkeys ⊆ old.missingGuidPkeys
  settled : ∀ next, step.result = .ok next → membership ∈ next.membershipsToSuppress ∨
    membership ∈ next.liveMemberships ∨ ∀ report ∈ next.reports,
      membership ∉ report.missingGuidPkeys

section Step

variable {state : Reconciliation} {calls : List PassEvent}

theorem StepSpec.ofDuplicate :
    StepSpec env state membership (pure { state with
      reports := state.reports.map
        (·.suppressAcrossFabrics membership.guid membership.pkey) }) where
  calls := nofun
  live := by
    rintro next ⟨⟩ other
    simp [not_findsNeeded_nil]
  suppressed := by
    rintro next ⟨⟩
    exact .refl _
  reports := by
    rintro next ⟨⟩ report member
    obtain ⟨old, oldMember, rfl⟩ := mem_map.mp member
    exact ⟨old, oldMember, filter_subset_self _⟩
  settled := by
    rintro next ⟨⟩
    refine .inr (.inr fun report member pending => ?_)
    obtain ⟨old, -, rfl⟩ := mem_map.mp member
    have kept := (mem_filter.mp pending).2
    simp at kept

variable (rereads : ∀ event ∈ calls, IsRereadOf env membership event)
include rereads

theorem StepSpec.ofSuppress (unneeded : ¬ FindsNeeded calls membership) :
    StepSpec env state membership ⟨.ok (state.suppress membership), calls⟩ where
  calls := fun event member => .inl (rereads event member)
  live := by
    rintro next ⟨⟩ other
    simp [Reconciliation.suppress, unneeded]
  suppressed := by
    rintro next ⟨⟩
    exact subset_append_left _ _
  reports := by
    rintro next ⟨⟩ report member
    exact ⟨report, member, .refl _⟩
  settled := by
    rintro next ⟨⟩
    exact .inl (mem_concat_self)

theorem StepSpec.ofNeeded (needed : FindsNeeded calls membership) :
    StepSpec env state membership
      ⟨.ok { state with liveMemberships := state.liveMemberships ++ [membership] }, calls⟩ where
  calls := fun event member => .inl (rereads event member)
  live := by
    rintro next ⟨⟩ other
    simp [needed]
  suppressed := by
    rintro next ⟨⟩
    exact .refl _
  reports := by
    rintro next ⟨⟩ report member
    exact ⟨report, member, .refl _⟩
  settled := by
    rintro next ⟨⟩
    exact .inr (.inl (mem_concat_self))

theorem StepSpec.ofUnbind (unneeded : ¬ FindsNeeded calls membership)
    (managed : isManaged env.fabrics membership.fabric membership.pkey = true) :
    StepSpec env state membership ⟨(unbindRetired env state membership).result,
      calls ++ (unbindRetired env state membership).calls⟩ := by
  rw [unbindRetired]
  cases clientForFabric env state.fabricClients membership.fabric with
  | error err =>
    refine ⟨fun event member => .inl (rereads event ?_), ?_, ?_, ?_, ?_⟩
    · exact (mem_append.mp member).elim id fun after => absurd after not_mem_nil
    all_goals
      rintro next ⟨⟩
  | ok clients =>
    have unneededAfter : ¬ FindsNeeded (calls ++ [.unbind membership]) membership := by
      rw [findsNeeded_append]
      rintro (before | ⟨machine, ⟨⟩⟩)
      · exact unneeded before
      · rename_i member
        cases member
    refine ⟨fun event member => ?_, ?_, ?_, ?_, ?_⟩
    · rcases mem_append.mp member with before | after
      · exact .inl (rereads event before)
      · exact .inr ⟨mem_singleton.mp after, managed, unneededAfter⟩
    · rintro next ⟨⟩ other
      exact ⟨.inl, fun member => member.elim id fun absurd => (unneededAfter absurd.2).elim⟩
    · rintro next ⟨⟩
      exact subset_append_left _ _
    · rintro next ⟨⟩ report member
      exact ⟨report, member, .refl _⟩
    · rintro next ⟨⟩
      exact .inl (mem_concat_self)

end Step

section Passes

variable (env) (membershipsInUfm : List IbMembership) (machineIds : HashMap Guid (Option MachineId))
  (currentFabrics : HashMap Guid (Option FabricId)) (clients : List FabricId)
  (reports : List MachineIbStatusEvaluation)

theorem reconcileRetired_spec (state : Reconciliation) (membership : IbMembership) :
    StepSpec env state membership
      (reconcileRetired env membershipsInUfm machineIds currentFabrics state membership) := by
  rw [reconcileRetired]
  split
  · exact .ofSuppress nofun (not_findsNeeded_nil membership)
  · rename_i managed
    split
    · exact .ofDuplicate
    · obtain ⟨needed, returned, rereads, found⟩ := rereadMembership_spec env membership
        (rereadHost currentFabrics machineIds membership)
      rw [bind_of_ok returned]
      match needed with
      | .error err =>
        rw [pure_calls, append_nil]
        exact .ofSuppress rereads (by rw [found]; simp)
      | .ok true =>
        rw [pure_calls, append_nil]
        exact .ofNeeded rereads (found.mpr rfl)
      | .ok false =>
        have unneeded : ¬ FindsNeeded (rereadMembership env membership
            (rereadHost currentFabrics machineIds membership)).calls membership := by
          rw [found]
          simp
        simp only
        split
        · exact .ofUnbind rereads unneeded (by simpa using managed)
        · rw [pure_calls, append_nil]
          exact .ofSuppress rereads unneeded

/-! ## All retired memberships -/

/-- What holds after some of the retired memberships. -/
structure Reconciled (done : List IbMembership) (state : Reconciliation)
    (trace : List PassEvent) : Prop where
  events : ∀ event ∈ trace, ∃ membership ∈ done, IsRereadOf env membership event ∨
    event = .unbind membership ∧ isManaged env.fabrics membership.fabric membership.pkey = true
  unbinds : ∀ membership, .unbind membership ∈ trace → ¬ FindsNeeded trace membership
  live : ∀ membership, membership ∈ state.liveMemberships ↔ FindsNeeded trace membership
  settled : ∀ membership ∈ done, membership ∈ state.membershipsToSuppress ∨
    membership ∈ state.liveMemberships ∨ ∀ report ∈ state.reports,
      membership ∉ report.missingGuidPkeys

theorem reconciled_nil :
    Reconciled env [] ⟨clients, 0, [], [], reports⟩ [] where
  events := by simp
  unbinds := by simp
  live := fun membership => iff_of_false not_mem_nil (not_findsNeeded_nil membership)
  settled := by simp

section Run

variable {env} {done : List IbMembership} {state : Reconciliation} {other : IbMembership}
  {step : Traced IbError PassEvent Reconciliation} (before : Reconciled env done state trace)
  (spec : StepSpec env state membership step)

section

include before

theorem Reconciled.mem_of_findsNeeded (needed : FindsNeeded trace other) : other ∈ done := by
  obtain ⟨machine, member⟩ := needed
  obtain ⟨candidate, candidateDone, ⟨_, eq⟩ | ⟨eq, -⟩⟩ := before.events _ member
  · injection eq with _ same
    rwa [same]
  · cases eq

theorem Reconciled.mem_of_unbind (unbound : .unbind other ∈ trace) : other ∈ done := by
  obtain ⟨candidate, candidateDone, ⟨_, eq⟩ | ⟨eq, -⟩⟩ := before.events _ unbound
  · cases eq
  · injection eq with same
    rwa [same]

end

include spec

theorem StepSpec.eq_of_findsNeeded (needed : FindsNeeded step.calls other) :
    other = membership := by
  obtain ⟨machine, member⟩ := needed
  rcases spec.calls _ member with ⟨_, eq⟩ | ⟨eq, -⟩
  · injection eq
  · cases eq

theorem StepSpec.of_unbind (unbound : .unbind other ∈ step.calls) :
    other = membership ∧ ¬ FindsNeeded step.calls membership := by
  rcases spec.calls _ unbound with ⟨_, eq⟩ | ⟨eq, -, unneeded⟩
  · cases eq
  · injection eq with same
    exact ⟨same, unneeded⟩

include before

/-- The events of a step belong to its membership. -/
theorem Reconciled.events_append :
    ∀ event ∈ trace ++ step.calls, ∃ candidate ∈ done ++ [membership],
      IsRereadOf env candidate event ∨ event = .unbind candidate ∧
        isManaged env.fabrics candidate.fabric candidate.pkey = true := by
  intro event member
  rcases mem_append.mp member with earlier | later
  · obtain ⟨candidate, candidateDone, kind⟩ := before.events event earlier
    exact ⟨candidate, mem_append_left _ candidateDone, kind⟩
  · refine ⟨membership, mem_concat_self, ?_⟩
    exact (spec.calls event later).imp id fun unbound => ⟨unbound.1, unbound.2.1⟩

/-- A step does not look up a membership again that was taken back, and takes none back that was
found needed. -/
theorem Reconciled.unbinds_append (fresh : membership ∉ done) :
    ∀ other, .unbind other ∈ trace ++ step.calls → ¬ FindsNeeded (trace ++ step.calls) other := by
  intro other member
  rw [findsNeeded_append]
  rcases mem_append.mp member with earlier | later
  · rintro (needed | needed)
    · exact before.unbinds other earlier needed
    · rw [spec.eq_of_findsNeeded needed] at earlier
      exact fresh (before.mem_of_unbind earlier)
  · obtain ⟨rfl, unneeded⟩ := spec.of_unbind later
    rintro (needed | needed)
    · exact fresh (before.mem_of_findsNeeded needed)
    · exact unneeded needed

theorem Reconciled.advance (fresh : membership ∉ done) {next : Reconciliation}
    (returned : step.result = .ok next) :
    Reconciled env (done ++ [membership]) next (trace ++ step.calls) where
  events := before.events_append spec
  unbinds := before.unbinds_append spec fresh
  live := by
    intro other
    rw [spec.live next returned, before.live, findsNeeded_append]
    refine or_congr_right ⟨fun needed => needed.1 ▸ needed.2, fun needed => ?_⟩
    have same := spec.eq_of_findsNeeded needed
    exact ⟨same, same ▸ needed⟩
  settled := by
    intro other member
    rcases mem_append.mp member with earlier | later
    · rcases before.settled other earlier with suppressed | live | unpending
      · exact .inl (spec.suppressed next returned suppressed)
      · exact .inr (.inl ((spec.live next returned other).mpr (.inl live)))
      · refine .inr (.inr fun report reportMember pending => ?_)
        obtain ⟨old, oldMember, subset⟩ := spec.reports next returned report reportMember
        exact unpending old oldMember (subset pending)
    · rw [mem_singleton.mp later]
      exact spec.settled next returned

end Run

/-- The events of a reconciliation that was stopped or has ended. -/
structure SafeSoFar (env : Environment) (trace : List PassEvent) : Prop where
  events : ∀ event ∈ trace, ∃ membership, IsRereadOf env membership event ∨
    event = .unbind membership ∧ isManaged env.fabrics membership.fabric membership.pkey = true
  unbinds : ∀ membership, .unbind membership ∈ trace → ¬ FindsNeeded trace membership

theorem reconcile_run (distinct : retired.Nodup) :
    let run := retired.foldlM (reconcileRetired env membershipsInUfm machineIds currentFabrics)
      ⟨clients, 0, [], [], reports⟩
    (∀ final, run.result = .ok final → Reconciled env retired final run.calls) ∧
      ∀ err, run.result = .error err → SafeSoFar env run.calls := by
  refine foldlM_run (fun done membership rest state trace all before => ?_)
    (reconciled_nil env clients reports)
  have spec := reconcileRetired_spec env membershipsInUfm machineIds currentFabrics state membership
  have fresh : membership ∉ done := by
    rw [← all, nodup_append] at distinct
    exact fun member => distinct.2.2 membership member membership mem_cons_self rfl
  refine ⟨fun next returned => before.advance spec fresh returned, fun err _ => ⟨?_, ?_⟩⟩
  · intro event member
    obtain ⟨candidate, -, kind⟩ := before.events_append spec event member
    exact ⟨candidate, kind⟩
  · exact before.unbinds_append spec fresh

/-! ## Changes -/

theorem pkey_of_partitionIdsByPkey {partitions : HashMap IbPartitionId IBPartition}
    {pkey : PartitionKey} {id : IbPartitionId}
    (found : (partitionIdsByPkey partitions).lookup pkey = some id) :
    ∃ partition, partitions.lookup id = some partition ∧ partition.pkey = some pkey := by
  refine List.foldlRecOn (motive := fun map : HashMap PartitionKey IbPartitionId =>
    ∀ {pkey id}, map.lookup pkey = some id →
      ∃ partition, partitions.lookup id = some partition ∧ partition.pkey = some pkey)
    partitions.entries _ (by simp) (fun map ofMap entry member pkey id looked => ?_) found
  cases key : entry.2.pkey with
  | none =>
    rw [key] at looked
    exact ofMap looked
  | some entryPkey =>
    rw [key, Option.elim_some] at looked
    by_cases same : pkey = entryPkey
    · subst same
      rw [AList.lookup_insert] at looked
      cases looked
      exact ⟨entry.2, AList.mem_lookup_iff.mpr member, key⟩
    · rw [AList.lookup_insert_ne same] at looked
      exact ofMap looked

theorem eq_of_bind_eq {left right : IbMembership}
    (same : PassEvent.bind left.fabric left.pkey.value left.guid =
      .bind right.fabric right.pkey.value right.guid) : left = right := by
  injection same with sameFabric samePkey sameGuid
  have converted : some left.pkey = some right.pkey := by
    rw [← left.pkey.tryFrom_value, samePkey, right.pkey.tryFrom_value]
  cases left
  cases right
  simp_all

inductive Applied (env : Environment) (reports : List MachineIbStatusEvaluation) : PassEvent → Prop
  | bind {report : MachineIbStatusEvaluation} {membership : IbMembership}
      (ofReport : report ∈ reports) (missing : membership ∈ report.missingGuidPkeys) :
      Applied env reports (.bind membership.fabric membership.pkey.value membership.guid)
  | unbind {report : MachineIbStatusEvaluation} {membership : IbMembership}
      (ofReport : report ∈ reports) (unexpected : membership ∈ report.unexpectedGuidPkeys)
      (managed : isManaged env.fabrics membership.fabric membership.pkey = true) :
      Applied env reports (.unbind membership)

section Apply

variable {env} {partitions : HashMap IbPartitionId IBPartition} {reports}
  {allowed : PassEvent → Prop}

theorem respects_ofExcept {α : Type} (result : Except IbError α) :
    (.ofExcept result : Traced IbError PassEvent α).Respects allowed fun _ => True :=
  .ofExcept fun _ _ => trivial

theorem respects_change {event : PassEvent} (holds : allowed event) :
    (change env event).Respects allowed fun _ => True :=
  .bind (.call holds) fun _ _ => .pure _

theorem applyGuidPkeyChanges_respects (clients : List FabricId) :
    (applyGuidPkeyChanges env clients partitions (partitionIdsByPkey partitions) reports).Respects
      (Applied env reports) fun _ => True := by
  refine .bind (.foldlM (fun state report ofReport => ?_) _) fun _ _ => .pure _
  refine .bind (.foldlM (fun state membership missing => ?_) _) fun _ _ =>
    .foldlM (fun state membership unexpected => ?_) _
  · rw [applyMissing]
    split
    · exact .pure _
    · rename_i partition found
      obtain ⟨id, ofPkey, ofId⟩ := Option.bind_eq_some_iff.mp found
      obtain ⟨known, knownOfId, key⟩ := pkey_of_partitionIdsByPkey ofPkey
      have samePkey : partition.networkPkey = membership.pkey.value := by
        rw [ofId] at knownOfId
        cases knownOfId
        rw [IBPartition.networkPkey, key]
        rfl
      rw [samePkey]
      exact .bind (respects_ofExcept _) fun _ _ =>
        .bind (respects_change (.bind ofReport missing)) fun _ _ => .pure _
  · rw [applyUnexpected]
    split
    · rename_i managed
      exact .bind (respects_ofExcept _) fun _ _ =>
        .bind (respects_change (.unbind ofReport unexpected managed)) fun _ _ => .pure _
    · exact .pure _

end Apply

/-! ## A whole pass -/

/-- A pass binds no membership with a record of its retirement that was read, unless a look-up
found an instance that needs it, and unbinds no membership that is not managed or that a look-up
found needed. -/
structure RetirementRespected (env : Environment) (trace : List PassEvent) : Prop where
  binds : ∀ retired, .readRetired retired ∈ trace → ∀ membership ∈ retired,
    .bind membership.fabric membership.pkey.value membership.guid ∈ trace →
      ∃ machine, .reread machine membership (.ok true) ∈ trace ∧
        LiveNeeds (env.reread machine membership) membership
  unbinds : ∀ membership, .unbind membership ∈ trace →
    isManaged env.fabrics membership.fabric membership.pkey = true ∧
      ∀ machine, .reread machine membership (.ok true) ∉ trace

theorem retirementRespected_nil (env : Environment) : RetirementRespected env [] :=
  ⟨nofun, nofun⟩

theorem nodup_findRecordedCandidates {env : Environment} {candidates : List IbMembership}
    (read : findRecordedCandidates env candidates = .ok retired) : retired.Nodup := by
  rw [findRecordedCandidates] at read
  split at read
  · cases read
    exact nodup_nil
  · cases recorded : env.recorded with
    | error err =>
      rw [recorded] at read
      cases read
    | ok isRecorded =>
      rw [recorded] at read
      cases read
      exact (env.orderBy_perm _).nodup_iff.mpr (nodup_dedup _)

section Pass

variable {env}

theorem SafeSoFar.respected (safe : SafeSoFar env trace) :
    RetirementRespected env (.readRetired retired :: trace) where
  binds := by
    intro _ _ membership _ bound
    have bound : .bind membership.fabric membership.pkey.value membership.guid ∈ trace := by
      simpa using bound
    obtain ⟨_, ⟨_, eq⟩ | ⟨eq, -⟩⟩ := safe.events _ bound <;> cases eq
  unbinds := by
    intro membership unbound
    have unbound : .unbind membership ∈ trace := by simpa using unbound
    refine ⟨?_, fun machine needed => ?_⟩
    · obtain ⟨_, ⟨_, eq⟩ | ⟨eq, managed⟩⟩ := safe.events _ unbound
      · cases eq
      · injection eq with same
        rwa [same]
    · exact safe.unbinds membership unbound ⟨machine, by simpa using needed⟩

variable {state : Reconciliation}

theorem Reconciled.safeSoFar (done : Reconciled env retired state trace) : SafeSoFar env trace :=
  ⟨fun event member => (done.events event member).imp fun _ kind => kind.2, done.unbinds⟩

theorem Reconciled.respected (done : Reconciled env retired state trace) {changes : List PassEvent}
    (applied : ∀ event ∈ changes, Applied env (state.reports.map
      (·.retain state.membershipsToSuppress state.liveMemberships)) event) :
    RetirementRespected env (.readRetired retired :: (trace ++ changes)) := by
  have before : RetirementRespected env (.readRetired retired :: trace) := done.safeSoFar.respected
  constructor
  · intro read readMember membership isRetired bound
    have noRead : .readRetired read ∉ trace := fun member => by
      obtain ⟨_, -, ⟨_, eq⟩ | ⟨eq, -⟩⟩ := done.events _ member <;> cases eq
    have noLaterRead : .readRetired read ∉ changes := fun member => by cases applied _ member
    obtain rfl : read = retired := by simpa [noRead, noLaterRead] using readMember
    have noBind : .bind membership.fabric membership.pkey.value membership.guid ∉ trace :=
      fun member => by
        obtain ⟨_, -, ⟨_, eq⟩ | ⟨eq, -⟩⟩ := done.events _ member <;> cases eq
    -- the bind is pending after the reconciliation, so the membership was found needed
    have live : membership ∈ state.liveMemberships := by
      have later : .bind membership.fabric membership.pkey.value membership.guid ∈ changes := by
        simpa [noBind] using bound
      generalize eq : PassEvent.bind membership.fabric membership.pkey.value membership.guid = event
        at later
      cases applied _ later with
      | unbind => cases eq
      | bind ofReport missing =>
        rw [← eq_of_bind_eq eq] at missing
        obtain ⟨old, oldMember, rfl⟩ := mem_map.mp ofReport
        obtain ⟨oldPending, unsuppressed⟩ := mem_filter.mp missing
        rcases done.settled membership isRetired with suppressed | live | unpending
        · simp [suppressed] at unsuppressed
        · exact live
        · exact absurd oldPending (unpending old oldMember)
    obtain ⟨machine, looked⟩ := (done.live membership).mp live
    refine ⟨machine, mem_cons_of_mem _ (mem_append_left _ looked), ?_⟩
    obtain ⟨_, -, ⟨_, eq⟩ | ⟨eq, -⟩⟩ := done.events _ looked
    · injection eq with sameMachine sameMembership needed
      subst sameMachine sameMembership
      exact liveNeeds_of_membershipIsStillNeeded needed.symm
    · cases eq
  · intro membership unbound
    have findsNeeded (machine : MachineId)
        (needed : .reread machine membership (.ok true) ∈
          .readRetired retired :: (trace ++ changes)) :
        FindsNeeded trace membership := by
      have noReread : .reread machine membership (.ok true) ∉ changes := fun member => by
        cases applied _ member
      exact ⟨machine, by simpa [noReread] using needed⟩
    have unbound : .unbind membership ∈ trace ∨ .unbind membership ∈ changes := by
      simpa using unbound
    rcases unbound with earlier | later
    · obtain ⟨managed, -⟩ := before.unbinds membership (mem_cons_of_mem _ earlier)
      exact ⟨managed, fun machine needed =>
        done.unbinds membership earlier (findsNeeded machine needed)⟩
    · cases applied _ later with
      | unbind ofReport unexpected managed =>
        refine ⟨managed, fun machine needed => ?_⟩
        obtain ⟨old, -, rfl⟩ := mem_map.mp ofReport
        have live := (done.live membership).mpr (findsNeeded machine needed)
        simp [MachineIbStatusEvaluation.retain, live] at unexpected

end Pass

/-- The changes of a pass, from the records of retired memberships on. -/
theorem changeFabrics_respected (partitions : HashMap IbPartitionId IBPartition)
    (distinct : retired.Nodup) :
    RetirementRespected env (.readRetired retired :: (changeFabrics env clients membershipsInUfm
      machineIds currentFabrics partitions retired reports).calls) := by
  obtain ⟨onOk, onError⟩ :=
    reconcile_run env membershipsInUfm machineIds currentFabrics clients reports distinct
  rw [changeFabrics, reconcileRetiredMemberships]
  cases run : (retired.foldlM (reconcileRetired env membershipsInUfm machineIds currentFabrics)
      ⟨clients, 0, [], [], reports⟩).result with
  | error err =>
    rw [bind_of_error run, bind_of_error rfl]
    exact (onError err run).respected
  | ok final =>
    rw [bind_of_ok run, pure_result, pure_calls, append_nil, bind_of_ok rfl, bind_pure_calls]
    exact (onOk final run).respected (applyGuidPkeyChanges_respects final.fabricClients).calls

end Passes

/-- In every pass, whatever is loaded, recorded and looked up, and whichever calls fail, retired
memberships are not revived, and neither foreign nor needed memberships are taken away. -/
theorem retirementRespected_of_pass (env : Environment) :
    RetirementRespected env (checkIbFabricsAndApplyChanges env).calls := by
  rw [checkIbFabricsAndApplyChanges]
  split
  · exact retirementRespected_nil env
  · cases env.snapshots with
    | error err => exact retirementRespected_nil env
    | ok snapshots =>
      rw [ofExcept_ok_bind]
      cases env.tenantPartitions with
      | error err => exact retirementRespected_nil env
      | ok partitions =>
        rw [ofExcept_ok_bind]
        extract_lets loaded clients data pass reports membershipsInUfm candidates
        cases read : findRecordedCandidates env candidates with
        | error err => exact retirementRespected_nil env
        | ok retired =>
          exact changeFabrics_respected env membershipsInUfm _ _ clients reports partitions
            (nodup_findRecordedCandidates read)

/-- The fabric lists a retired membership whose GUID belongs to no host. -/
def retiredSite : Environment where
  disabled := false
  fabrics := .insert "default".toList ⟨[⟨['1'], ['5']⟩]⟩ ∅
  snapshots := .ok ∅
  tenantPartitions := .ok ∅
  load _ := ⟨.ok (), .ok (), .ok ∅, .ok (.insert 3 ⟨some ["a1".toList]⟩ ∅)⟩
  skuInactiveCache := .ok ∅
  outcomes _ _ := .ok ()
  recorded := .ok fun _ => true
  orderBy := id
  orderBy_perm := .refl
  reread _ _ := ⟨.ok (), .ok false, .ok none, fun _ => .ok none, .ok ()⟩
  newClient _ := .ok ()
  succeeds _ := true
  toLowercase := id

/-- The pass takes the membership back. -/
example : .unbind ⟨"default".toList, ⟨3, rfl⟩, "a1".toList⟩ ∈
    (checkIbFabricsAndApplyChanges retiredSite).calls :=
  .tail _ (.head _)

end IbFabric
