import BareMetalManager.ApiCore.Instance.PrefixPlan
import BareMetalManager.Lib.Locks
import BareMetalManager.Lib.Transition

/-!
# Executing prefix allocations

`execute_prefix_allocations` of `crates/api-core/src/instance/mod.rs`, as one of any number of
concurrent batches. The work of a batch is grouped by VPC and family. In a group the candidate
with the smallest id is tried first, and what it cannot serve is queued for its next candidate.
An attempt runs in a savepoint: it locks the row of the VPC prefix, allocates a linknet and moves
the cursor. The lock stays with the transaction if it allocates, and is rolled back otherwise.

Loops run one iteration at a time, so that batches interleave between and inside attempts.
-/

namespace ApiCore.Instance

open Checked Network Collections Ipnetwork ApiDb.NetworkPrefix

/-! ## One attempt -/

inductive PrefixAllocationOperation where
  | create
  /-- Attach the IPv6 linknet to the segment of the primary family. -/
  | attach (networkSegmentId : NetworkSegmentId)

inductive CandidateAllocationOutcome where
  | allocated (networkSegmentId : Option NetworkSegmentId)
  | exhausted
  | deleted

inductive CandidateUnavailable where
  | exhausted
  | deleted
  deriving DecidableEq

def isOverlapConstraint (constraint : Option String) : Bool :=
  constraint = some "network_prefixes_prefix_excl" ||
    constraint = some "network_prefixes_global_prefix_excl" ||
    constraint = some "network_prefixes_scoped_prefix_excl"

def isNetworkPrefixOverlapConflict : AllocationError → Bool
  | .database error => isOverlapConstraint error.constraint
  | _ => false

structure CandidateAttempt where
  workIndex : Nat
  work : PrefixAllocationWork
  candidate : VpcPrefixId
  operation : PrefixAllocationOperation

/-- What the database answers to the statements of one attempt. -/
structure CandidateAnswers where
  /-- `lock_for_allocation`: the row as it is read under the lock -/
  locked : Except DatabaseError (Option VpcPrefix)
  /-- the tables that `find_allocation_occupancy` reads -/
  occupancy : Except DatabaseError Tables
  /-- `network_segment::persist` -/
  segment : Except DatabaseError NetworkSegmentId
  /-- `network_prefix::create_for` -/
  linknet : Except DatabaseError Unit
  /-- `update_last_used_prefix` -/
  cursor : Except DatabaseError Unit
  /-- the commit or the rollback of the savepoint -/
  savepointEnd : Except DatabaseError Unit

section Attempt

variable [Ipnetwork]

def networksOverlap (left right : IpNet) : Bool :=
  contains left (network right) ||
    contains right (network left)

def fromDatabase {α : Type} (answer : Except DatabaseError α) :
    Except (Failure AllocationError) α :=
  answer.mapError fun error => .error (.database error)

variable (allocator : PrefixAllocator) (occupancy : Except DatabaseError Tables)

/-- A requested prefix must be inside the VPC prefix and free. -/
def validateDesiredPrefix (requested : IpNet) : Except (Failure AllocationError) Unit := do
  rejectIf (!contains allocator.vpcPrefix (network requested))
    (.error (.notContained requested allocator.vpcPrefix))
  let tables ← fromDatabase occupancy
  rejectIf ((findAllocationOccupancy tables allocator.vpcPrefixId allocator.vpcPrefix).any
    (networksOverlap · requested)) (.error (.alreadyFound requested))

def nextPrefixOrExhausted (tables : Tables) : Except (Failure AllocationError) (Option IpNet) :=
  match allocator.nextFreePrefix tables with
  | .ok net => .ok (some net)
  | .error (.error (.resourceExhausted ..)) => .ok none
  | .error (.error error) => .error (.error (.allocator error))
  | .error (.panic reason) => .error (.panic reason)

def selectPrefix : Option IpNet → Except (Failure AllocationError) (Option IpNet)
  | some requested => do
      validateDesiredPrefix allocator occupancy requested
      return some requested
  | none => do
      let tables ← fromDatabase occupancy
      nextPrefixOrExhausted allocator tables

def persistAllocation (answers : CandidateAnswers) :
    PrefixAllocationOperation → Except (Failure AllocationError) (Option NetworkSegmentId)
  | .create => do
      let networkSegmentId ← fromDatabase answers.segment
      fromDatabase answers.linknet
      return some networkSegmentId
  | .attach _ => do
      fromDatabase answers.linknet
      return none

variable (attempt : CandidateAttempt) (answers : CandidateAnswers)

def allocateFromRow (vpcPrefix : VpcPrefix) :
    Except (Failure AllocationError) CandidateAllocationOutcome := do
  rejectIf (vpcPrefix.vpcId ≠ attempt.work.vpcId ||
      .fromNetwork vpcPrefix.net ≠ attempt.work.family)
    (.error (.leftAllocationGroup attempt.candidate attempt.work.family attempt.work.vpcId))
  let allocator ← (PrefixAllocator.new vpcPrefix.id vpcPrefix.net vpcPrefix.lastUsedPrefix
    attempt.work.allocationPrefixLen).mapError fun error => .error (.allocator error)
  match ← selectPrefix allocator answers.occupancy attempt.work.requestedPrefix with
  | none => return .exhausted
  | some _ =>
    let networkSegmentId ← persistAllocation answers attempt.operation
    fromDatabase answers.cursor
    return .allocated networkSegmentId

def allocatePrefixCandidateOnce : Except (Failure AllocationError) CandidateAllocationOutcome := do
  match ← fromDatabase answers.locked with
  | none => return .deleted
  | some vpcPrefix => allocateFromRow attempt answers vpcPrefix

end Attempt

/-! ## The loops of a batch -/

/-- The work indexes that wait for a candidate. -/
abbrev Pending := BTreeMap VpcPrefixId (List Nat)

def Pending.pushBack (pending : Pending) (candidate : VpcPrefixId) (workIndex : Nat) : Pending :=
  pending.upsert (· ++ ·) candidate [workIndex]

/-- Move one work item on to its next candidate, which must have a larger id. -/
def advancePrefixWork (workIndex : Nat) (currentCandidate : VpcPrefixId)
    (unavailable : CandidateUnavailable) (works : List PrefixAllocationWork)
    (pending : Pending) : Except AllocationError (List PrefixAllocationWork × Pending) := do
  let work ← okOr (.workIndexOutOfBounds workIndex) works[workIndex]?
  rejectIf (unavailable = .deleted && !work.automatic)
    (.markedForDeletion currentCandidate)
  let advanced := { work with candidateIndex := work.candidateIndex + 1 }
  let nextCandidate ← okOr (.candidatesExhausted work.family work.vpcId)
    advanced.candidates[advanced.candidateIndex]?
  rejectIf (nextCandidate ≤ currentCandidate)
    (.movedBackward currentCandidate nextCandidate)
  return (works.set workIndex advanced, pending.pushBack nextCandidate workIndex)

variable (targets : List NetworkAllocationTarget) (work : PrefixAllocationWork)

def interfaceOf : Except AllocationError (NetworkAllocationTarget × InstanceInterfaceConfig) := do
  let target ← okOr (.targetIndexOutOfBounds work.targetIndex)
    targets[work.targetIndex]?
  let interface ← okOr
    (.interfaceIndexOutOfBounds work.interfaceIndex work.targetIndex)
    target.interfaces[work.interfaceIndex]?
  return (target, interface)

variable (vpcPrefixId : VpcPrefixId) (networkSegmentId : Option NetworkSegmentId)

def resolvedInterface (interface : InstanceInterfaceConfig) :
    Except AllocationError InstanceInterfaceConfig :=
  match work.slot with
  | .primary => do
      let networkSegmentId ← okOr .segmentNotCreated networkSegmentId
      return { interface with
        networkSegmentId := some networkSegmentId
        networkDetails := some (.vpcPrefixId vpcPrefixId)
        vpcId := some work.vpcId }
  | .secondaryIpv6 =>
    .ok { interface with
      ipv6InterfaceConfig := some
        ⟨vpcPrefixId, interface.ipv6InterfaceConfig.bind (·.requestedIpAddr)⟩ }

def applyPrefixResolution : Except AllocationError (List NetworkAllocationTarget) := do
  let (target, interface) ← interfaceOf targets work
  let resolved ← resolvedInterface work vpcPrefixId networkSegmentId interface
  return targets.set work.targetIndex
    { target with interfaces := target.interfaces.set work.interfaceIndex resolved }

/-- The operation of a work item. The IPv6 half of a pair needs the segment of the other. -/
def operationOf : Except AllocationError PrefixAllocationOperation :=
  match work.slot with
  | .primary => .ok .create
  | .secondaryIpv6 => do
      let (_, interface) ← interfaceOf targets work
      let networkSegmentId ← okOr .primarySegmentMissing interface.networkSegmentId
      return .attach networkSegmentId

/-- The candidate that is being tried, the work still queued for it, and what an attempt has
found out about it. -/
structure CandidateQueue where
  candidate : VpcPrefixId
  work : List Nat
  unavailable : Option CandidateUnavailable

structure Loop where
  targets : List NetworkAllocationTarget
  works : List PrefixAllocationWork
  /-- the groups that have not been started -/
  groups : List (Group × List Nat)
  pending : Pending
  current : Option CandidateQueue

variable (works : List PrefixAllocationWork)

def groupWorks : BTreeMap Group (List Nat) :=
  works.zipIdx.foldl (fun groups (work, workIndex) =>
    groups.upsert (· ++ ·) work.group [workIndex]) .empty

def Loop.start : Loop where
  targets
  works
  groups := (groupWorks works).entries
  pending := .empty
  current := none

def queueFirst (pending : Pending) (workIndex : Nat) : Except AllocationError Pending := do
  let work ← okOr (.workIndexOutOfBounds workIndex) works[workIndex]?
  let candidate ← okOr (.noCandidates workIndex) work.candidates.head?
  return pending.pushBack candidate workIndex

inductive Iteration where
  | again (loop : Loop)
  | attempt (loop : Loop) (attempt : CandidateAttempt)
  | ended

variable (loop : Loop)

def Loop.nextGroup : Except AllocationError Iteration :=
  match loop.groups with
  | [] => .ok .ended
  | (_, workIndices) :: groups => do
      let pending ← workIndices.foldlM (queueFirst loop.works) .empty
      return .again { loop with groups, pending }

/-- Take the next work item of a candidate. Once an item has found the candidate unavailable
the others move on without an attempt. -/
def Loop.nextWork (queue : CandidateQueue) : Except AllocationError Iteration :=
  match queue.work, queue.unavailable with
  | [], _ => .ok (.again { loop with current := none })
  | workIndex :: rest, some unavailable => do
      let (works, pending) ← advancePrefixWork workIndex queue.candidate unavailable loop.works
        loop.pending
      return .again { loop with works, pending, current := some { queue with work := rest } }
  | workIndex :: rest, none => do
      let work ← okOr (.workIndexOutOfBounds workIndex) loop.works[workIndex]?
      let operation ← operationOf loop.targets work
      return .attempt { loop with current := some { queue with work := rest } }
        { workIndex, work, candidate := queue.candidate, operation }

/-- One iteration of the innermost loop that is not finished. -/
def Loop.iterate : Except AllocationError Iteration :=
  match loop.current with
  | some queue => loop.nextWork queue
  | none =>
    match loop.pending.popFirst with
    | some ((candidate, work), pending) =>
      .ok (.again { loop with pending, current := some ⟨candidate, work, none⟩ })
    | none => loop.nextGroup

def Loop.skip (attempt : CandidateAttempt) (unavailable : CandidateUnavailable) :
    Except AllocationError Loop := do
  let (works, pending) ← advancePrefixWork attempt.workIndex attempt.candidate unavailable
    loop.works loop.pending
  return { loop with works, pending
                     current := loop.current.map fun queue =>
                       { queue with unavailable := some unavailable } }

/-- What follows the outcome of an attempt. -/
def Loop.resolve (attempt : CandidateAttempt) :
    CandidateAllocationOutcome → Except AllocationError Loop
  | .allocated networkSegmentId => do
      let targets ← applyPrefixResolution loop.targets attempt.work attempt.candidate
        networkSegmentId
      return { loop with targets }
  | .exhausted => loop.skip attempt .exhausted
  | .deleted => loop.skip attempt .deleted

/-! ## Batches side by side -/

/-- The first attempt at a candidate and one retry after an overlap conflict. -/
def prefixAllocationTotalAttempts : Nat := 2

inductive Phase where
  | looping
  /-- before an attempt, with the number of attempts that are left -/
  | attempting (attempt : CandidateAttempt) (remaining : Nat)
  /-- in `lock_for_allocation`, inside a savepoint -/
  | waiting (attempt : CandidateAttempt) (remaining : Nat)
  /-- has the lock, which may have been taken in this savepoint -/
  | holding (attempt : CandidateAttempt) (remaining : Nat) (fresh : Bool)
  /-- `execute_prefix_allocations` has returned -/
  | finished (result : Except (Failure AllocationError) Unit)
  /-- the transaction has ended -/
  | closed

/-- A batch, with the rows whose lock it has asked for and the rows from which it has
allocated, both in the order of time. -/
structure Batch where
  loop : Loop
  phase : Phase
  visits : List VpcPrefixId
  allocated : List VpcPrefixId

namespace Batch

def start (reads : DiscoveryReads) : Batch :=
  match planNetworks targets reads with
  | .ok works => ⟨.start targets works, .looping, [], []⟩
  | .error error => ⟨.start targets [], .finished (.error (.error error)), [], []⟩

variable (batch : Batch)

/-- The row whose lock a batch asks for. -/
def awaits : Option VpcPrefixId :=
  match batch.phase with
  | .waiting attempt _ => some attempt.candidate
  | _ => none

def fail (failure : Failure AllocationError) : Batch :=
  { batch with phase := .finished (.error failure) }

def iterate : Batch :=
  match batch.loop.iterate with
  | .error error => batch.fail (.error error)
  | .ok (.again loop) => { batch with loop }
  | .ok (.attempt loop attempt) =>
    { batch with loop, phase := .attempting attempt prefixAllocationTotalAttempts }
  | .ok .ended => { batch with phase := .finished (.ok ()) }

/-- The head of the loop over the attempts: begin a savepoint and ask for the lock. -/
def beginSavepoint (attempt : CandidateAttempt) :
    (remaining : Nat) → Except DatabaseError Unit → Batch
  | 0, _ => batch.fail (.error (.repeatedlyRaced attempt.work.family attempt.candidate))
  | _ + 1, .error error => batch.fail (.error (.database error))
  | remaining + 1, .ok () =>
    { batch with phase := .waiting attempt remaining
                 visits := batch.visits ++ [attempt.candidate] }

def resume : Except AllocationError Loop → Batch
  | .ok loop => { batch with loop, phase := .looping }
  | .error error => batch.fail (.error error)

/-- The end of an attempt, by its result and the end of its savepoint. The flag says that
the savepoint has been rolled back. -/
def conclude (attempt : CandidateAttempt) (remaining : Nat) :
    Except (Failure AllocationError) CandidateAllocationOutcome → Except DatabaseError Unit →
      Batch × Bool
  | .error (.panic reason), _ => (batch.fail (.panic reason), false)
  | _, .error error => (batch.fail (.error (.database error)), false)
  | .ok (.allocated networkSegmentId), .ok () =>
    ({ batch with allocated := batch.allocated ++ [attempt.candidate] }.resume
      (batch.loop.resolve attempt (.allocated networkSegmentId)), false)
  | .ok outcome, .ok () => (batch.resume (batch.loop.resolve attempt outcome), true)
  | .error (.error error), .ok () =>
    if isNetworkPrefixOverlapConflict error then
      ({ batch with phase := .attempting attempt remaining }, true)
    else (batch.fail (.error error), true)

end Batch

/-- All batches, and the owner of the lock on each row. -/
structure System (π : Type) where
  batches : π → Batch
  locks : Locks VpcPrefixId π

inductive Action (π : Type) where
  | iterate (party : π)
  | beginSavepoint (party : π) (answer : Except DatabaseError Unit)
  | acquire (party : π)
  | conclude (party : π) (answers : CandidateAnswers)
  | close (party : π)

namespace System

variable {π : Type}

def start (targets : π → List NetworkAllocationTarget) (reads : π → DiscoveryReads) :
    System π :=
  ⟨fun party => .start (targets party) (reads party), .free⟩

/-- A batch waits for a row that another batch has locked. -/
def WaitsFor (system : System π) : π → π → Prop :=
  system.locks.WaitsFor fun party => (system.batches party).awaits

def rollback (system : System π) (candidate : VpcPrefixId) : System π :=
  { system with locks := system.locks.releaseKey candidate }

def ReturnsNoRow : Except DatabaseError (Option VpcPrefix) → Bool
  | .ok (some _) => false
  | _ => true

variable [DecidableEq π]

def put (system : System π) (party : π) (batch : Batch) : System π :=
  { system with batches := Function.update system.batches party batch }

section Steps

variable [Ipnetwork]

/-- The statements of an attempt after the locking read, and the end of its savepoint. A
locking read that fails or finds no active row ends without the lock. -/
def concludeAttempt (party : π) (answers : CandidateAnswers) (system : System π) :
    Option (System π) :=
  let batch := system.batches party
  match batch.phase with
  | .waiting attempt remaining =>
    if ReturnsNoRow answers.locked then
      let result := allocatePrefixCandidateOnce attempt answers
      some (system.put party (batch.conclude attempt remaining result answers.savepointEnd).1)
    else none
  | .holding attempt remaining fresh =>
    let result := allocatePrefixCandidateOnce attempt answers
    let (batch, rolledBack) := batch.conclude attempt remaining result answers.savepointEnd
    let next := system.put party batch
    some (if rolledBack && fresh then next.rollback attempt.candidate else next)
  | _ => none

/-- One step of one batch. A step that is not enabled, as taking a lock that another batch
holds, does not happen. -/
def step : Action π → System π → Option (System π)
  | .iterate party, system =>
    let batch := system.batches party
    match batch.phase with
    | .looping => some (system.put party batch.iterate)
    | _ => none
  | .beginSavepoint party answer, system =>
    let batch := system.batches party
    match batch.phase with
    | .attempting attempt remaining =>
      some (system.put party (batch.beginSavepoint attempt remaining answer))
    | _ => none
  | .acquire party, system =>
    let batch := system.batches party
    match batch.phase with
    | .waiting attempt remaining =>
      let fresh := (system.locks attempt.candidate).isNone
      (system.locks.acquire? party attempt.candidate).map fun locks =>
        { system.put party { batch with phase := .holding attempt remaining fresh } with
          locks }
    | _ => none
  | .conclude party answers, system => system.concludeAttempt party answers
  | .close party, system =>
    let batch := system.batches party
    match batch.phase with
    | .finished _ =>
      some { system.put party { batch with phase := .closed } with
        locks := system.locks.release party }
    | _ => none

def machine : Machine (Action π) (System π) := ⟨step⟩

end Steps

end System

end ApiCore.Instance
