import BareMetalManager.ApiCore.Instance.PrefixExecution
import BareMetalManager.ApiCore.Instance.PrefixHome

/-!
# The order of the row locks

A batch asks for the locks on VPC prefixes in the order of their homes, and of their ids in one
home. The locks of an attempt without success are given back before the next row is asked for. So
a batch waits for a row behind all rows that it holds, and batches cannot wait for each other in a
cycle.
-/

namespace ApiCore.Instance

open Checked Network Collections List Batch Locks

/-! ## The loops ascend -/

/-- What the execution never changes in a work item. -/
def PrefixAllocationWork.frozen (work : PrefixAllocationWork) : Group × List VpcPrefixId :=
  (work.group, work.candidates)

/-- The planned work: the group and the candidates of each item. -/
abbrev Plan := List (Group × List VpcPrefixId)

variable (home : VpcPrefixId → Group) (plan : Plan)

def Plan.Homed : Prop :=
  ∀ entry ∈ plan, ∀ candidate ∈ entry.2, home candidate = entry.1

def Plan.Queued (group : Group) (queue : List Nat) : Prop :=
  ∀ workIndex ∈ queue, ∀ entry, plan[workIndex]? = some entry → entry.1 = group

/-- The state of the loops in a group: the pending candidates are at the home of the group,
above the current one, and the rows visited so far are not above the current one. -/
structure Loop.Ordered (visits : List VpcPrefixId) (group : WithBot Group) (loop : Loop) :
    Prop where
  frozen : loop.works.map (·.frozen) = plan
  groupsAscend : (loop.groups.map Prod.fst).Pairwise (· < ·)
  groupsQueued : ∀ entry ∈ loop.groups, plan.Queued entry.1 entry.2
  groupsAbove : ∀ entry ∈ loop.groups, group < entry.1
  pendingHome : ∀ entry ∈ loop.pending.entries, (home entry.1 : WithBot Group) = group
  pendingQueued : ∀ entry ∈ loop.pending.entries, plan.Queued (home entry.1) entry.2
  currentHome : ∀ queue ∈ loop.current, (home queue.candidate : WithBot Group) = group
  currentQueued : ∀ queue ∈ loop.current, plan.Queued (home queue.candidate) queue.work
  currentBelow : ∀ queue ∈ loop.current, ∀ entry ∈ loop.pending.entries,
    queue.candidate < entry.1
  visitsHome : ∀ row ∈ visits, (home row : WithBot Group) ≤ group
  visitsBelow : ∀ row ∈ visits, ∀ entry ∈ loop.pending.entries,
    rowRank home row < rowRank home entry.1
  visitsReach : ∀ row ∈ visits, ∀ queue ∈ loop.current,
    rowRank home row ≤ rowRank home queue.candidate

section Loops

variable {home plan} {visits : List VpcPrefixId} {group : WithBot Group} {loop : Loop}

theorem Plan.Queued.append {group : Group} {first second : List Nat}
    (left : plan.Queued group first) (right : plan.Queued group second) :
    plan.Queued group (first ++ second) :=
  forall_mem_append.mpr ⟨left, right⟩

variable {first : Nat} {rest : List Nat}

theorem Plan.Queued.head {group : Group} (queued : plan.Queued group (first :: rest)) :
    plan.Queued group [first] :=
  forall_mem_singleton.mpr (queued first mem_cons_self)

theorem Plan.Queued.tail {group : Group} (queued : plan.Queued group (first :: rest)) :
    plan.Queued group rest :=
  fun workIndex later => queued workIndex (mem_cons_of_mem _ later)

variable {pending : Pending} {queue : CandidateQueue} {workIndex : Nat} {candidate : VpcPrefixId}

theorem forall_pushBack (holds : VpcPrefixId → Prop)
    (before : ∀ entry ∈ pending.entries, holds entry.1 ∧ plan.Queued (home entry.1) entry.2)
    (fresh : holds candidate) (queued : plan.Queued (home candidate) [workIndex]) :
    ∀ entry ∈ (pending.pushBack candidate workIndex).entries,
      holds entry.1 ∧ plan.Queued (home entry.1) entry.2 := by
  refine BTreeMap.forall_upsert (fun row queue => holds row ∧ plan.Queued (home row) queue)
    before ⟨fresh, queued⟩ ?_
  rintro present ⟨-, presentQueued⟩
  exact ⟨fresh, presentQueued.append queued⟩

theorem map_set_of_eq {α β : Type} {read : α → β} {items : List α} {index : Nat} {old new : α}
    (found : items[index]? = some old) (same : read new = read old) :
    (items.set index new).map read = items.map read := by
  obtain ⟨bound, rfl⟩ := List.getElem?_eq_some_iff.mp found
  rw [map_set, same, ← getElem_map read (h := by simpa using bound)]
  exact set_getElem_self _

variable {result : List PrefixAllocationWork × Pending} {unavailable : CandidateUnavailable}
  {works : List PrefixAllocationWork}

theorem advancePrefixWork_eq_ok {current : VpcPrefixId}
    (advanced : advancePrefixWork workIndex current unavailable works pending = .ok result) :
    ∃ work next, works[workIndex]? = some work ∧ next ∈ work.candidates ∧ current < next ∧
      result.1.map (·.frozen) = works.map (·.frozen) ∧
      result.2 = pending.pushBack next workIndex := by
  obtain ⟨work, found, advanced⟩ := bind_eq_ok.mp advanced
  obtain ⟨_, _, advanced⟩ := bind_eq_ok.mp advanced
  obtain ⟨next, nextFound, advanced⟩ := bind_eq_ok.mp advanced
  obtain ⟨_, notBackward, advanced⟩ := bind_eq_ok.mp advanced
  cases advanced
  rw [okOr_eq_ok] at found nextFound
  have above : current < next := by
    unfold rejectIf at notBackward
    split at notBackward
    next => cases notBackward
    next forward => simpa using forward
  refine ⟨work, next, found, mem_of_getElem? nextFound, above, ?_, rfl⟩
  -- the item that is written back has the group and the candidates of the old one
  exact map_set_of_eq found rfl

/-- The next candidate of an item of the current group is pending behind the current one. -/
theorem Loop.Ordered.advance (ordered : loop.Ordered home plan visits group)
    (homed : plan.Homed home) (isCurrent : loop.current = some queue)
    (queued : plan.Queued (home queue.candidate) [workIndex])
    (advanced : advancePrefixWork workIndex queue.candidate unavailable loop.works loop.pending =
      .ok result) :
    { loop with works := result.1, pending := result.2 }.Ordered home plan visits group := by
  obtain ⟨works, pending⟩ := result
  obtain ⟨work, above, found, isCandidate, less, sameFrozen, isPending⟩ :=
    advancePrefixWork_eq_ok advanced
  obtain rfl : pending = loop.pending.pushBack above workIndex := isPending
  have planned : plan[workIndex]? = some work.frozen := by
    rw [← ordered.frozen, List.getElem?_map, found]
    rfl
  have aboveHome : home above = home queue.candidate := by
    have inGroup : home above = work.group :=
      homed _ (mem_of_getElem? planned) above isCandidate
    exact inGroup.trans (queued workIndex (mem_singleton_self _) _ planned)
  let holds (row : VpcPrefixId) : Prop :=
    (home row : WithBot Group) = group ∧ queue.candidate < row ∧
      ∀ visit ∈ visits, rowRank home visit < rowRank home row
  have before : ∀ entry ∈ loop.pending.entries,
      holds entry.1 ∧ plan.Queued (home entry.1) entry.2 := by
    intro entry entryMem
    refine ⟨⟨ordered.pendingHome entry entryMem, ordered.currentBelow queue isCurrent entry
      entryMem, ?_⟩, ordered.pendingQueued entry entryMem⟩
    exact fun visit visitMem => ordered.visitsBelow visit visitMem entry entryMem
  have fresh : holds above := by
    refine ⟨aboveHome ▸ ordered.currentHome queue isCurrent, less, fun visit visitMem => ?_⟩
    calc rowRank home visit ≤ rowRank home queue.candidate :=
          ordered.visitsReach visit visitMem queue isCurrent
      _ < rowRank home above := rowRank_lt_of_id_lt aboveHome.symm less
  have pendingAll := forall_pushBack holds before fresh (aboveHome ▸ queued)
  exact { ordered with
    frozen := sameFrozen.trans ordered.frozen
    pendingHome := fun entry entryMem => (pendingAll entry entryMem).1.1
    pendingQueued := fun entry entryMem => (pendingAll entry entryMem).2
    currentBelow := by
      intro found isFound entry entryMem
      cases isCurrent.symm.trans isFound
      exact (pendingAll entry entryMem).1.2.1
    visitsBelow := fun visit visitMem entry entryMem =>
      (pendingAll entry entryMem).1.2.2 visit visitMem }

theorem groupWorks_queued (works : List PrefixAllocationWork) :
    ∀ entry ∈ (groupWorks works).entries,
      Plan.Queued (works.map (·.frozen)) entry.1 entry.2 := by
  refine List.foldlRecOn works.zipIdx _ (motive := fun (map : BTreeMap Group (List Nat)) =>
    ∀ entry ∈ map.entries, Plan.Queued (works.map (·.frozen)) entry.1 entry.2) ?_ ?_
  · nofun
  · rintro map before ⟨work, workIndex⟩ indexed
    have isWork : works[workIndex]? = some work := mem_zipIdx_iff_getElem?.mp indexed
    have queued : Plan.Queued (works.map (·.frozen)) work.group [workIndex] := by
      refine forall_mem_singleton.mpr fun entry found => ?_
      rw [List.getElem?_map, isWork] at found
      cases found
      rfl
    refine BTreeMap.forall_upsert (Plan.Queued (works.map (·.frozen))) before queued ?_
    exact fun present presentQueued => presentQueued.append queued

theorem Loop.Ordered.start (targets : List NetworkAllocationTarget)
    (works : List PrefixAllocationWork) :
    (Loop.start targets works).Ordered home (works.map (·.frozen)) [] ⊥ where
  frozen := rfl
  groupsAscend := (groupWorks works).sorted
  groupsQueued := groupWorks_queued works
  groupsAbove _ _ := WithBot.bot_lt_coe _
  pendingHome _ entryMem := nomatch entryMem
  pendingQueued _ entryMem := nomatch entryMem
  currentHome _ isCurrent := nomatch isCurrent
  currentQueued _ isCurrent := nomatch isCurrent
  currentBelow _ isCurrent := nomatch isCurrent
  visitsHome _ rowMem := nomatch rowMem
  visitsBelow _ rowMem := nomatch rowMem
  visitsReach _ rowMem := nomatch rowMem

variable {started : Group} {workIndices : List Nat}

theorem queueFirst_homed (homed : plan.Homed home) (frozen : works.map (·.frozen) = plan)
    (queued : plan.Queued started workIndices)
    (filled : workIndices.foldlM (queueFirst works) .empty = .ok pending) :
    ∀ entry ∈ pending.entries, home entry.1 = started ∧ plan.Queued (home entry.1) entry.2 := by
  refine foldlM_induction (fun (pending : Pending) => ∀ entry ∈ pending.entries,
    home entry.1 = started ∧ plan.Queued (home entry.1) entry.2) ?_ ?_ filled
  · intro before workIndex indexMem after held first
    obtain ⟨work, found, first⟩ := bind_eq_ok.mp first
    obtain ⟨candidate, isHead, first⟩ := bind_eq_ok.mp first
    cases first
    rw [okOr_eq_ok] at found isHead
    have planned : plan[workIndex]? = some work.frozen := by
      rw [← frozen, List.getElem?_map, found]
      rfl
    have isGroup : work.group = started := queued workIndex indexMem _ planned
    have isHome : home candidate = started := by
      rw [← isGroup]
      exact homed _ (mem_of_getElem? planned) candidate (mem_of_mem_head? isHead)
    refine forall_pushBack (fun row => home row = started) held isHome ?_
    rw [isHome]
    exact forall_mem_singleton.mpr (queued workIndex indexMem)
  · nofun

variable (ordered : loop.Ordered home plan visits group)
include ordered

/-- Starting the next group, once the last one has nothing left to do. -/
theorem Loop.Ordered.startGroup (homed : plan.Homed home) (noCurrent : loop.current = none)
    {groups : List (Group × List Nat)} (isNext : loop.groups = (started, workIndices) :: groups)
    (filled : workIndices.foldlM (queueFirst loop.works) .empty = .ok pending) :
    { loop with groups, pending }.Ordered home plan visits started := by
  have ascend := ordered.groupsAscend
  rw [isNext, map_cons, pairwise_cons] at ascend
  have nextQueued : ∀ entry ∈ (started, workIndices) :: groups, plan.Queued entry.1 entry.2 :=
    isNext ▸ ordered.groupsQueued
  have atHome := queueFirst_homed homed ordered.frozen
    (nextQueued _ mem_cons_self) filled
  have visitsLess : ∀ row ∈ visits, home row < started := by
    intro row rowMem
    rw [← WithBot.coe_lt_coe]
    exact (ordered.visitsHome row rowMem).trans_lt
      (ordered.groupsAbove (started, workIndices) (isNext ▸ mem_cons_self))
  have noQueue (queue : CandidateQueue) (isCurrent : loop.current = some queue) : False :=
    nomatch noCurrent.symm.trans isCurrent
  exact { ordered with
    groupsAscend := ascend.2
    groupsQueued := fun entry entryMem => nextQueued entry (mem_cons_of_mem _ entryMem)
    groupsAbove := fun entry entryMem =>
      WithBot.coe_lt_coe.mpr (ascend.1 _ (mem_map_of_mem entryMem))
    pendingHome := fun entry entryMem => congrArg _ (atHome entry entryMem).1
    pendingQueued := fun entry entryMem => (atHome entry entryMem).2
    currentHome := fun queue isCurrent => (noQueue queue isCurrent).elim
    visitsHome := fun row rowMem => (WithBot.coe_lt_coe.mpr (visitsLess row rowMem)).le
    visitsBelow := fun row rowMem entry entryMem => rowRank_lt_of_home_lt
      ((atHome entry entryMem).1 ▸ visitsLess row rowMem)
    currentBelow := fun queue isCurrent => (noQueue queue isCurrent).elim }

theorem Loop.Ordered.pop {work : List Nat}
    (popped : loop.pending.popFirst = some ((candidate, work), pending)) :
    { loop with pending, current := some ⟨candidate, work, none⟩ }.Ordered home plan visits
      group := by
  have entries := BTreeMap.entries_of_popFirst popped
  have firstMem : (candidate, work) ∈ loop.pending.entries := entries ▸ mem_cons_self
  have restMem : ∀ entry ∈ pending.entries, entry ∈ loop.pending.entries :=
    fun entry entryMem => entries ▸ mem_cons_of_mem _ entryMem
  exact { ordered with
    pendingHome := fun entry entryMem => ordered.pendingHome entry (restMem entry entryMem)
    pendingQueued := fun entry entryMem => ordered.pendingQueued entry (restMem entry entryMem)
    currentHome := by
      rintro _ ⟨⟩
      exact ordered.pendingHome _ firstMem
    currentQueued := by
      rintro _ ⟨⟩
      exact ordered.pendingQueued _ firstMem
    currentBelow := by
      rintro _ ⟨⟩ entry entryMem
      exact BTreeMap.lt_of_popFirst popped entry entryMem
    visitsBelow := fun row rowMem entry entryMem =>
      ordered.visitsBelow row rowMem entry (restMem entry entryMem)
    visitsReach := by
      rintro row rowMem _ ⟨⟩
      exact (ordered.visitsBelow row rowMem _ firstMem).le }

/-- Going on with the queue of the current candidate, or leaving it. -/
theorem Loop.Ordered.setCurrent (isCurrent : loop.current = some queue)
    {next : Option CandidateQueue}
    (sameCandidate : ∀ found ∈ next, found.candidate = queue.candidate ∧
      plan.Queued (home queue.candidate) found.work) :
    { loop with current := next }.Ordered home plan visits group := by
  cases next with
  | none => exact { ordered with
      currentHome := nofun, currentQueued := nofun, currentBelow := nofun, visitsReach := nofun }
  | some found =>
    obtain ⟨same, queued⟩ := sameCandidate found rfl
    refine { ordered with
      currentHome := ?_, currentQueued := ?_, currentBelow := ?_, visitsReach := ?_ }
    on_goal 4 => intro row rowMem
    all_goals
      rintro _ ⟨⟩
      rw [same]
    · exact ordered.currentHome queue isCurrent
    · exact queued
    · exact ordered.currentBelow queue isCurrent
    · exact ordered.visitsReach row rowMem queue isCurrent

theorem Loop.Ordered.visit (isCurrent : loop.current = some queue) :
    loop.Ordered home plan (visits ++ [queue.candidate]) group where
  __ := ordered
  visitsHome := forall_mem_append.mpr ⟨ordered.visitsHome,
    forall_mem_singleton.mpr (ordered.currentHome queue isCurrent).le⟩
  visitsBelow := by
    refine forall_mem_append.mpr ⟨ordered.visitsBelow, forall_mem_singleton.mpr ?_⟩
    intro entry entryMem
    have sameHome : home queue.candidate = home entry.1 := WithBot.coe_inj.mp
      ((ordered.currentHome queue isCurrent).trans (ordered.pendingHome entry entryMem).symm)
    exact rowRank_lt_of_id_lt sameHome (ordered.currentBelow queue isCurrent entry entryMem)
  visitsReach := by
    refine forall_mem_append.mpr ⟨ordered.visitsReach, forall_mem_singleton.mpr ?_⟩
    intro found isFound
    cases isCurrent.symm.trans isFound
    exact le_rfl

/-- An attempt is one for the current candidate, by an item of its group. -/
structure Loop.Attempts (home : VpcPrefixId → Group) (plan : Plan) (loop : Loop)
    (attempt : CandidateAttempt) : Prop where
  current : ∃ queue, loop.current = some queue ∧ queue.candidate = attempt.candidate
  queued : plan.Queued (home attempt.candidate) [attempt.workIndex]

def Iteration.Ordered (home : VpcPrefixId → Group) (plan : Plan) (visits : List VpcPrefixId) :
    Iteration → Prop
  | .again loop => ∃ group, loop.Ordered home plan visits group
  | .attempt loop begun =>
    (∃ group, loop.Ordered home plan visits group) ∧ loop.Attempts home plan begun
  | .ended => True

variable {iteration : Iteration}

theorem Loop.Ordered.nextWork (homed : plan.Homed home) (isCurrent : loop.current = some queue)
    (iterated : loop.nextWork queue = .ok iteration) :
    iteration.Ordered home plan visits := by
  have queued := ordered.currentQueued queue isCurrent
  obtain ⟨candidate, work, unavailable⟩ := queue
  cases work with
  | nil =>
    cases iterated
    exact ⟨group, ordered.setCurrent isCurrent nofun⟩
  | cons workIndex rest =>
    have rest : ∀ found ∈ some (⟨candidate, rest, unavailable⟩ : CandidateQueue),
        found.candidate = candidate ∧ plan.Queued (home candidate) found.work := by
      rintro _ ⟨⟩
      exact ⟨rfl, queued.tail⟩
    cases unavailable with
    | some unavailable =>
      obtain ⟨result, advanced, iterated⟩ := bind_eq_ok.mp iterated
      cases iterated
      exact ⟨group,
        (ordered.advance homed isCurrent queued.head advanced).setCurrent isCurrent rest⟩
    | none =>
      obtain ⟨item, -, iterated⟩ := bind_eq_ok.mp iterated
      obtain ⟨operation, -, iterated⟩ := bind_eq_ok.mp iterated
      cases iterated
      exact ⟨⟨group, ordered.setCurrent isCurrent rest⟩, ⟨_, rfl, rfl⟩, queued.head⟩

theorem Loop.Ordered.iterate (homed : plan.Homed home) (iterated : loop.iterate = .ok iteration) :
    iteration.Ordered home plan visits := by
  unfold Loop.iterate at iterated
  split at iterated
  next queue isCurrent => exact ordered.nextWork homed isCurrent iterated
  next noCurrent =>
    split at iterated
    next candidate work pending popped =>
      cases iterated
      exact ⟨group, ordered.pop popped⟩
    next =>
      unfold Loop.nextGroup at iterated
      split at iterated
      next =>
        cases iterated
        trivial
      next started workIndices groups isNext =>
        obtain ⟨pending, filled, iterated⟩ := bind_eq_ok.mp iterated
        cases iterated
        exact ⟨started, ordered.startGroup homed noCurrent isNext filled⟩

theorem Loop.Ordered.resolve (homed : plan.Homed home) {attempt : CandidateAttempt}
    (attempts : loop.Attempts home plan attempt) {outcome : CandidateAllocationOutcome}
    {next : Loop} (resolved : loop.resolve attempt outcome = .ok next) :
    next.Ordered home plan visits group := by
  obtain ⟨queue, isCurrent, sameCandidate⟩ := attempts.current
  have skipped {unavailable : CandidateUnavailable}
      (skipped : loop.skip attempt unavailable = .ok next) :
      next.Ordered home plan visits group := by
    obtain ⟨result, advanced, skipped⟩ := bind_eq_ok.mp skipped
    cases skipped
    rw [isCurrent]
    rw [← sameCandidate] at advanced
    refine (ordered.advance homed isCurrent (sameCandidate ▸ attempts.queued) advanced).setCurrent
      isCurrent ?_
    rintro _ ⟨⟩
    exact ⟨rfl, ordered.currentQueued queue isCurrent⟩
  cases outcome with
  | allocated networkSegmentId =>
    obtain ⟨targets, -, resolved⟩ := bind_eq_ok.mp resolved
    cases resolved
    exact { ordered with }
  | exhausted | deleted => exact skipped resolved

end Loops

/-! ## One batch -/

namespace Phase

def attempt? : Phase → Option CandidateAttempt
  | attempting attempt _ | waiting attempt _ | holding attempt _ _ => some attempt
  | looping | finished _ | closed => none

/-- The attempt whose lock a batch has asked for. -/
def asked? : Phase → Option CandidateAttempt
  | waiting attempt _ | holding attempt _ _ => some attempt
  | looping | attempting _ _ | finished _ | closed => none

/-- The rows that a batch may hold without having allocated from them. -/
def Keeps : Phase → VpcPrefixId → Prop
  | holding attempt _ true, row => row = attempt.candidate
  | finished _, _ => True
  | _, _ => False

end Phase

variable {row : VpcPrefixId}

namespace Batch

structure Ordered (batch : Batch) : Prop where
  loop : ∃ group, batch.loop.Ordered home plan batch.visits group
  attempts : ∀ attempt ∈ batch.phase.attempt?, batch.loop.Attempts home plan attempt
  asked : ∀ attempt ∈ batch.phase.asked?, attempt.candidate ∈ batch.visits
  ascend : batch.visits.Pairwise fun left right => rowRank home left ≤ rowRank home right
  allocated : ∀ row ∈ batch.allocated, row ∈ batch.visits

def MayHold (batch : Batch) (row : VpcPrefixId) : Prop :=
  row ∈ batch.allocated ∨ batch.phase.Keeps row

inductive Concluded (batch : Batch) (attempt : CandidateAttempt) (remaining : Nat) :
    Batch × Bool → Prop
  | failed (failure : Failure AllocationError) (rolledBack : Bool) :
      Concluded batch attempt remaining (batch.fail failure, rolledBack)
  | kept (networkSegmentId : Option NetworkSegmentId) :
      Concluded batch attempt remaining
        ({ batch with allocated := batch.allocated ++ [attempt.candidate] }.resume
          (batch.loop.resolve attempt (.allocated networkSegmentId)), false)
  | undone (outcome : CandidateAllocationOutcome) :
      Concluded batch attempt remaining
        (batch.resume (batch.loop.resolve attempt outcome), true)
  | retried :
      Concluded batch attempt remaining
        ({ batch with phase := .attempting attempt remaining }, true)

theorem conclude_concluded (batch : Batch) (attempt : CandidateAttempt) (remaining : Nat)
    (result : Except (Failure AllocationError) CandidateAllocationOutcome)
    (ended : Except DatabaseError Unit) :
    Concluded batch attempt remaining (batch.conclude attempt remaining result ended) := by
  cases result with
  | ok outcome =>
    cases ended with
    | error error => cases outcome <;> exact .failed _ _
    | ok =>
      cases outcome with
      | allocated networkSegmentId => exact .kept networkSegmentId
      | exhausted => exact .undone .exhausted
      | deleted => exact .undone .deleted
  | error failure =>
    cases failure with
    | panic reason => cases ended <;> exact .failed _ _
    | error error =>
      cases ended with
      | error reason => exact .failed _ _
      | ok =>
        simp only [conclude]
        split
        · exact .retried
        · exact .failed _ _

section Steps

variable {home plan} {batch : Batch}

theorem Ordered.idle {loop : Loop} {phase : Phase}
    (inOrder : ∃ group, loop.Ordered home plan [] group)
    (noAttempt : phase.attempt? = none) (notAsked : phase.asked? = none) :
    (⟨loop, phase, [], []⟩ : Batch).Ordered home plan where
  loop := inOrder
  attempts attempt isAttempt := by
    rw [noAttempt] at isAttempt
    cases isAttempt
  asked attempt isAsked := by
    rw [notAsked] at isAsked
    cases isAsked
  ascend := .nil
  allocated := forall_mem_nil _

theorem Ordered.start {targets : List NetworkAllocationTarget} {reads : DiscoveryReads}
    (homed : reads.Homed home) :
    ∃ plan : Plan, plan.Homed home ∧ (start targets reads).Ordered home plan := by
  unfold Batch.start
  cases planned : planNetworks targets reads with
  | error error =>
    exact ⟨[], forall_mem_nil _, .idle ⟨⊥, .start targets []⟩ rfl rfl⟩
  | ok works =>
    refine ⟨works.map (·.frozen), ?_, .idle ⟨⊥, .start targets works⟩ rfl rfl⟩
    refine forall_mem_map.mpr fun work workMem => ?_
    exact (planNetworks_homed homed).of_eq_ok planned work workMem

section

variable (ordered : batch.Ordered home plan)
include ordered

theorem Ordered.setPhase {phase : Phase} (noAttempt : phase.attempt? = none)
    (notAsked : phase.asked? = none) :
    { batch with phase }.Ordered home plan where
  __ := ordered
  attempts _ isAttempt := nomatch noAttempt.symm.trans isAttempt
  asked _ isAttempt := nomatch notAsked.symm.trans isAttempt

theorem Ordered.fail (failure : Failure AllocationError) : (batch.fail failure).Ordered home plan :=
  ordered.setPhase rfl rfl

theorem Ordered.resume {result : Except AllocationError Loop}
    (inOrder : ∀ loop, result = .ok loop → ∃ group, loop.Ordered home plan batch.visits group) :
    (batch.resume result).Ordered home plan := by
  cases result with
  | error error => exact ordered.fail _
  | ok loop => exact { ordered with loop := inOrder loop rfl, attempts := nofun, asked := nofun }

theorem Ordered.iterate (homed : plan.Homed home) (isLooping : batch.phase = .looping) :
    batch.iterate.Ordered home plan := by
  obtain ⟨group, inOrder⟩ := ordered.loop
  unfold Batch.iterate
  split
  next => exact ordered.fail _
  next loop iterated =>
    exact { ordered with
      loop := inOrder.iterate homed iterated
      attempts := fun _ isAttempt => nomatch (congrArg Phase.attempt? isLooping).symm.trans
        isAttempt }
  next loop attempt iterated =>
    obtain ⟨nextInOrder, attempts⟩ := inOrder.iterate homed iterated
    refine { ordered with loop := nextInOrder, attempts := ?_, asked := nofun }
    rintro _ ⟨⟩
    exact attempts
  next => exact ordered.setPhase rfl rfl

variable {attempt : CandidateAttempt} {remaining : Nat} {concluded : Batch × Bool}

/-- The lock that a batch asks for is on the current candidate, which no row visited before
is above. -/
theorem Ordered.beginSavepoint (isAttempting : batch.phase = .attempting attempt remaining)
    (answer : Except DatabaseError Unit) :
    (batch.beginSavepoint attempt remaining answer).Ordered home plan := by
  cases remaining with
  | zero => exact ordered.fail _
  | succ remaining =>
    cases answer with
    | error error => exact ordered.fail _
    | ok =>
      have attempts := ordered.attempts attempt (by rw [isAttempting]; rfl)
      obtain ⟨group, inOrder⟩ := ordered.loop
      obtain ⟨queue, isCurrent, isCandidate⟩ := attempts.current
      have visited := inOrder.visit isCurrent
      rw [isCandidate] at visited
      refine ⟨⟨group, visited⟩, ?_, ?_, ?_, ?_⟩
      · rintro _ ⟨⟩
        exact attempts
      · rintro _ ⟨⟩
        exact mem_concat_self
      · refine pairwise_append.mpr ⟨ordered.ascend, pairwise_singleton _ _, ?_⟩
        intro row rowMem
        refine forall_mem_singleton.mpr ?_
        rw [← isCandidate]
        exact inOrder.visitsReach row rowMem queue isCurrent
      · exact fun row rowMem => mem_append_left _ (ordered.allocated row rowMem)

theorem Ordered.conclude (homed : plan.Homed home)
    (ends : Concluded batch attempt remaining concluded)
    (attempts : batch.loop.Attempts home plan attempt) (visited : attempt.candidate ∈ batch.visits)
    : concluded.1.Ordered home plan := by
  obtain ⟨group, inOrder⟩ := ordered.loop
  cases ends with
  | failed failure => exact ordered.fail failure
  | kept networkSegmentId =>
    refine Ordered.resume ?_ fun loop resolved =>
      ⟨group, inOrder.resolve homed attempts resolved⟩
    exact { ordered with
      allocated := forall_mem_append.mpr
        ⟨ordered.allocated, forall_mem_singleton.mpr visited⟩ }
  | undone outcome =>
    exact ordered.resume fun loop resolved => ⟨group, inOrder.resolve homed attempts resolved⟩
  | retried =>
    refine ⟨ordered.loop, ?_, ?_, ordered.ascend, ordered.allocated⟩
    · rintro _ ⟨⟩
      exact attempts
    · rintro _ ⟨⟩

end

@[simp]
theorem allocated_resume (batch : Batch) (result : Except AllocationError Loop) :
    (batch.resume result).allocated = batch.allocated := by
  cases result <;> rfl

theorem mem_allocated_of_concluded (ends : Concluded batch attempt remaining concluded)
    (rowMem : row ∈ batch.allocated) : row ∈ concluded.1.allocated := by
  cases ends with
  | failed failure => exact rowMem
  | kept networkSegmentId => simp [rowMem]
  | undone outcome => simpa using rowMem
  | retried => exact rowMem

/-- The lock of an attempt that is not rolled back is one of a row with an allocation, or the
batch has failed. -/
theorem mayHold_of_concluded (ends : Concluded batch attempt remaining concluded)
    (notRolledBack : concluded.2 = false) : concluded.1.MayHold attempt.candidate := by
  cases ends with
  | failed failure => exact .inr trivial
  | kept networkSegmentId =>
    left
    simp
  | undone | retried => cases notRolledBack

theorem allocated_iterate (batch : Batch) : batch.iterate.allocated = batch.allocated := by
  unfold iterate
  split <;> rfl

theorem allocated_beginSavepoint (batch : Batch) (attempt : CandidateAttempt) (remaining : Nat)
    (answer : Except DatabaseError Unit) :
    (batch.beginSavepoint attempt remaining answer).allocated = batch.allocated := by
  cases remaining with
  | zero => rfl
  | succ remaining => cases answer <;> rfl

end Steps

end Batch

/-! ## All batches -/

namespace System

variable {π : Type}

/-- Every batch is in order, and the locks are those that the batches may hold. -/
structure Ordered (home : VpcPrefixId → Group) (system : System π) : Prop where
  batches : ∀ party, ∃ plan : Plan, plan.Homed home ∧
    (system.batches party).Ordered home plan
  held : ∀ row party, system.locks row = some party → (system.batches party).MayHold row

variable {home : VpcPrefixId → Group} {system : System π}

theorem Ordered.start {targets : π → List NetworkAllocationTarget} {reads : π → DiscoveryReads}
    (homed : ∀ party, (reads party).Homed home) :
    (System.start targets reads).Ordered home where
  batches party := Batch.Ordered.start (homed party)
  held row party holds := by cases holds

variable {party : π}

section

variable (ordered : system.Ordered home)
include ordered

/-- A row that is held in a phase which keeps none has been allocated from. -/
theorem Ordered.mem_allocated (holds : system.locks row = some party) {phase : Phase}
    (isPhase : (system.batches party).phase = phase) (keepsNone : ¬ phase.Keeps row) :
    row ∈ (system.batches party).allocated :=
  (ordered.held row party holds).resolve_right (isPhase ▸ keepsNone)

/-- While a batch waits for a row, the rows that it holds have been allocated from, and none
is behind that row. -/
theorem Ordered.below {held : VpcPrefixId} (awaited : (system.batches party).awaits = some row)
    (holds : system.locks held = some party) :
    held ∈ (system.batches party).allocated ∧ rowRank home held ≤ rowRank home row := by
  obtain ⟨plan, -, inOrder⟩ := ordered.batches party
  unfold awaits at awaited
  split at awaited
  next attempt remaining isWaiting =>
    cases awaited
    have allocated := ordered.mem_allocated holds isWaiting id
    obtain ⟨group, loopOrder⟩ := inOrder.loop
    obtain ⟨queue, isCurrent, isCandidate⟩ :=
      (inOrder.attempts attempt (by rw [isWaiting]; rfl)).current
    refine ⟨allocated, ?_⟩
    rw [← isCandidate]
    exact loopOrder.visitsReach held (inOrder.allocated held allocated) queue isCurrent
  next => cases awaited

variable [DecidableEq π] {batch : Batch} {locks : Locks VpcPrefixId π}

/-- One batch moves. The locks of the others stay. -/
theorem Ordered.update (inOrder : ∃ plan : Plan, plan.Homed home ∧ batch.Ordered home plan)
    (mine : ∀ row, locks row = some party → batch.MayHold row)
    (others : ∀ row other, other ≠ party → locks row = some other → system.locks row = some other) :
    { system.put party batch with locks }.Ordered home where
  batches := (Function.forall_update_iff system.batches fun _ batch =>
    ∃ plan : Plan, plan.Homed home ∧ batch.Ordered home plan).mpr
      ⟨inOrder, fun other _ => ordered.batches other⟩
  held row := (Function.forall_update_iff system.batches fun other batch =>
    locks row = some other → batch.MayHold row).mpr
      ⟨mine row, fun other ne holds => ordered.held row other (others row other ne holds)⟩

theorem Ordered.put (inOrder : ∃ plan : Plan, plan.Homed home ∧ batch.Ordered home plan)
    (mine : ∀ row, system.locks row = some party → batch.MayHold row) :
    (system.put party batch).Ordered home :=
  ordered.update inOrder mine fun _ _ _ holds => holds

theorem Ordered.acquire {attempt : CandidateAttempt} {remaining : Nat}
    (isWaiting : (system.batches party).phase = .waiting attempt remaining)
    (acquired : system.locks.acquire? party attempt.candidate = some locks) :
    { system.put party { system.batches party with
        phase := .holding attempt remaining (system.locks attempt.candidate).isNone } with
      locks }.Ordered home := by
  obtain ⟨plan, homed, inOrder⟩ := ordered.batches party
  refine ordered.update ⟨plan, homed, ?_⟩ ?_ ?_
  · refine ⟨inOrder.loop, ?_, ?_, inOrder.ascend, inOrder.allocated⟩
    · rintro _ ⟨⟩
      exact inOrder.attempts attempt (by rw [isWaiting]; rfl)
    · rintro _ ⟨⟩
      exact inOrder.asked attempt (by rw [isWaiting]; rfl)
  · intro row holds
    obtain ⟨rfl, -⟩ | before := holds_of_acquire?_eq_some acquired holds
    · -- the lock is new, or the batch had it already
      cases owner : system.locks attempt.candidate with
      | none => exact .inr rfl
      | some other =>
        have still := holds_of_acquire? acquired owner
        obtain rfl : other = party := Option.some.inj (still.symm.trans holds)
        exact .inl (ordered.mem_allocated owner isWaiting id)
    · exact .inl (ordered.mem_allocated before isWaiting id)
  · intro row other ne holds
    obtain ⟨-, isParty⟩ | before := holds_of_acquire?_eq_some acquired holds
    · exact absurd isParty ne
    · exact before

end

variable [DecidableEq π]

section Run

variable [Ipnetwork] {next : System π}

theorem Ordered.concludeAttempt (ordered : system.Ordered home) {answers : CandidateAnswers}
    (stepped : system.concludeAttempt party answers = some next) :
    next.Ordered home := by
  obtain ⟨plan, homed, inOrder⟩ := ordered.batches party
  have ends (attempt : CandidateAttempt) (remaining : Nat) :=
    conclude_concluded (system.batches party) attempt remaining
      (allocatePrefixCandidateOnce attempt answers) answers.savepointEnd
  unfold System.concludeAttempt at stepped
  dsimp only at stepped
  split at stepped
  next attempt remaining isWaiting =>
    split at stepped
    next =>
      cases stepped
      refine ordered.put ⟨plan, homed, inOrder.conclude homed (ends attempt remaining)
        (inOrder.attempts attempt (by rw [isWaiting]; rfl))
        (inOrder.asked attempt (by rw [isWaiting]; rfl))⟩ ?_
      intro row holds
      exact .inl (mem_allocated_of_concluded (ends attempt remaining)
        (ordered.mem_allocated holds isWaiting id))
    next => cases stepped
  next attempt remaining fresh isHolding =>
    cases stepped
    replace ends := ends attempt remaining
    generalize (system.batches party).conclude attempt remaining _ _ = concluded at ends ⊢
    have nextOrder := inOrder.conclude homed ends
      (inOrder.attempts attempt (by rw [isHolding]; rfl))
      (inOrder.asked attempt (by rw [isHolding]; rfl))
    -- a row other than that of a fresh lock has been allocated from
    have allocatedOr (row : VpcPrefixId) (holds : system.locks row = some party)
        (notFresh : fresh = true → row ≠ attempt.candidate) : concluded.1.MayHold row := by
      refine .inl (mem_allocated_of_concluded ends (ordered.mem_allocated holds isHolding ?_))
      cases fresh with
      | false => exact id
      | true => exact notFresh rfl
    split
    next released =>
      refine ordered.update ⟨plan, homed, nextOrder⟩ ?_ ?_
      · intro row holds
        obtain ⟨ne, before⟩ := holds_of_releaseKey holds
        exact allocatedOr row before fun _ => ne
      · intro row other _ holds
        exact (holds_of_releaseKey holds).2
    next kept =>
      refine ordered.put ⟨plan, homed, nextOrder⟩ ?_
      intro row holds
      by_cases isCandidate : fresh = true ∧ row = attempt.candidate
      · obtain ⟨isFresh, rfl⟩ := isCandidate
        refine mayHold_of_concluded ends ?_
        simpa [isFresh] using kept
      · exact allocatedOr row holds fun isFresh isRow => isCandidate ⟨isFresh, isRow⟩
  next => cases stepped

theorem Ordered.step (ordered : system.Ordered home) {action : Action π}
    (stepped : step action system = some next) : next.Ordered home := by
  cases action with
  | iterate party =>
    obtain ⟨plan, homed, inOrder⟩ := ordered.batches party
    simp only [System.step] at stepped
    split at stepped
    next isLooping =>
      cases stepped
      refine ordered.put ⟨plan, homed, inOrder.iterate homed isLooping⟩ fun row holds => .inl ?_
      rw [allocated_iterate]
      exact ordered.mem_allocated holds isLooping id
    next => cases stepped
  | beginSavepoint party answer =>
    obtain ⟨plan, homed, inOrder⟩ := ordered.batches party
    simp only [System.step] at stepped
    split at stepped
    next attempt remaining isAttempting =>
      cases stepped
      refine ordered.put ⟨plan, homed, inOrder.beginSavepoint isAttempting answer⟩
        fun row holds => .inl ?_
      rw [allocated_beginSavepoint]
      exact ordered.mem_allocated holds isAttempting id
    next => cases stepped
  | acquire party =>
    simp only [System.step] at stepped
    split at stepped
    next attempt remaining isWaiting =>
      obtain ⟨locks, acquired, rfl⟩ := Option.map_eq_some_iff.mp stepped
      exact ordered.acquire isWaiting acquired
    next => cases stepped
  | conclude party answers => exact ordered.concludeAttempt stepped
  | close party =>
    obtain ⟨plan, homed, inOrder⟩ := ordered.batches party
    simp only [System.step] at stepped
    split at stepped
    next =>
      cases stepped
      refine ordered.update ⟨plan, homed, inOrder.setPhase rfl rfl⟩ ?_ ?_
      · intro row holds
        exact absurd rfl (holds_of_release holds).1
      · intro row other _ holds
        exact (holds_of_release holds).2
    next => cases stepped

/-- In every run of any number of batches, each batch asks for the locks on VPC prefixes in
the order of their VPC, family and id. While it waits for a row, it holds only rows from
which it has allocated, and none behind that row. No batches wait for each other in a
cycle. -/
theorem deadlockFree_of_run {targets : π → List NetworkAllocationTarget}
    {reads : π → DiscoveryReads} (homed : ∀ party, (reads party).Homed home)
    {actions : List (Action π)}
    (ran : machine.run actions (.start targets reads) = some system) :
    (∀ party, (system.batches party).visits.Pairwise fun left right =>
        rowRank home left ≤ rowRank home right) ∧
      (∀ party row held, (system.batches party).awaits = some row → system.locks held = some party →
          held ∈ (system.batches party).allocated ∧ rowRank home held ≤ rowRank home row) ∧
      ∀ party, ¬ Relation.TransGen system.WaitsFor party party := by
  have ordered : system.Ordered home := Machine.run_invariant (Ordered home)
    (fun action before after inOrder stepped => inOrder.step stepped) (.start homed) ran
  refine ⟨fun party => ?_, fun _ _ _ => ordered.below, fun party => ?_⟩
  · obtain ⟨plan, -, inOrder⟩ := ordered.batches party
    exact inOrder.ascend
  · have ascending : Locks.Ordered (rowRank home) system.locks
        (fun party => (system.batches party).awaits) := by
      intro owner key held awaited holds ne
      exact (ordered.below awaited holds).2.lt_of_ne fun same => ne (rowRank_injective same)
    exact ascending.no_cycle party

end Run

/-- An interface that asks for an IPv4 linknet from any VPC prefix of VPC 10. -/
def automaticTarget : NetworkAllocationTarget where
  interfaces := [{
    networkDetails := none
    vpcSelection := some ⟨10, .ipv4Only⟩
    networkSegmentId := none
    ipAddrs := []
    requestedIpAddr := none
    ipv6InterfaceConfig := none
    interfacePrefixes := []
    vpcId := none }]
  tenantOrganizationId := "tenant"

/-- VPC 10 has the VPC prefixes 1 and 2. -/
def twoCandidates : DiscoveryReads where
  explicitPrefixes := .ok []
  automaticPrefixes := .ok [
    ⟨1, 10, .v4 ⟨0x0a000000#32, 26, by decide⟩, none, false⟩,
    ⟨2, 10, .v4 ⟨0x0a000040#32, 26, by decide⟩, none, false⟩]
  vpcs := .ok [⟨10, "tenant", .fnn, false⟩]

/-- The steps of a batch up to its first lock. -/
def firstRequest (party : Bool) : List (Action Bool) :=
  [.iterate party, .iterate party, .iterate party, .beginSavepoint party (.ok ())]

/-- The first batch locks VPC prefix 1, and the second one asks for it. -/
def contended : List (Action Bool) :=
  firstRequest false ++ [.acquire false] ++ firstRequest true

theorem twoCandidates_homed : twoCandidates.Homed fun _ => toLex (10, .ipv4) where
  explicit rows read row rowMem := by
    cases read
    cases rowMem
  automatic rows read := by
    cases read
    exact forall_mem_cons.mpr ⟨rfl, forall_mem_singleton.mpr rfl⟩

theorem deadlockFree_of_contended :
    letI := Ipnetwork.reference
    ∃ system, machine.run contended
        (.start (fun _ => [automaticTarget]) (fun _ => twoCandidates)) = some system ∧
      system.WaitsFor true false ∧ ∀ party, ¬ Relation.TransGen system.WaitsFor party party := by
  let := Ipnetwork.reference
  obtain ⟨system, ran, awaited, holds⟩ : ∃ system ∈ machine.run contended
      (.start (fun _ => [automaticTarget]) (fun _ => twoCandidates)),
      (system.batches true).awaits = some 1 ∧ system.locks 1 = some false := by
    decide +kernel
  exact ⟨system, ran, ⟨Bool.noConfusion, 1, awaited, holds⟩,
    (deadlockFree_of_run (fun _ => twoCandidates_homed) ran).2.2⟩

end System

end ApiCore.Instance
