import BareMetalManager.Lib.Transition

/-!
# Lanes of the event-rule scheduler

A lane, `eventrule/scheduler/lane.go`, has channels of worker slots and of jobs. `refill` of
`scheduler.go` reserves slots, claims executions for them, gives back the slots without one and
sends the jobs to the workers. Each operation on a channel is a step.
-/

namespace EventRule

variable {α : Type}

/-- Where `refill` is. -/
inductive Refill (α : Type) where
  | reserve (reserved : Nat)
  | claim (reserved : Nat)
  | send (unused : Nat) (claims : List α)

def Refill.held : Refill α → Nat
  | reserve reserved | claim reserved => reserved
  | send unused claims => unused + claims.length

open List Refill Option

structure Lane (α : Type) where
  workers : Nat
  scanLimit : Nat
  slots : Nat := workers
  jobs : List α := []
  dispatching : List α := []
  refill : Refill α := .reserve 0
  /-- A slot or a job has met a full channel. -/
  mismatch : Bool := false

inductive Action (α : Type) where
  | refill
  /-- The answer of the store, without executions if the claim has failed. -/
  | claim (claims : List α)
  | receive
  | finish (index : Nat)

namespace Lane

variable (lane : Lane α)

def returnSlot : Lane α :=
  if lane.slots < lane.workers then { lane with slots := lane.slots + 1 }
  else { lane with mismatch := true }

def send (job : α) : Lane α :=
  if lane.jobs.length < lane.workers then { lane with jobs := lane.jobs ++ [job] }
  else { lane with mismatch := true }

/-- One step of the refill or of a worker. -/
def step (action : Action α) : Option (Lane α) :=
  match action, lane.refill, lane.jobs with
  | .refill, .reserve reserved, _ =>
    if reserved < lane.scanLimit ∧ 0 < lane.slots then
      some { lane with slots := lane.slots - 1, refill := .reserve (reserved + 1) }
    else if reserved = 0 then none
    else some { lane with refill := .claim reserved }
  | .claim claims, .claim reserved, _ =>
    -- The store returns no more than it is asked for.
    if claims.length ≤ reserved then
      some { lane with refill := .send (reserved - claims.length) claims }
    else none
  | .refill, .send (unused + 1) claims, _ =>
    some { lane.returnSlot with refill := .send unused claims }
  | .refill, .send 0 (job :: claims), _ => some { lane.send job with refill := .send 0 claims }
  | .refill, .send 0 [], _ => some { lane with refill := .reserve 0 }
  | .receive, _, job :: jobs =>
    if lane.dispatching.length < lane.workers then
      some { lane with jobs, dispatching := job :: lane.dispatching }
    else none
  | .finish index, _, _ =>
    if index < lane.dispatching.length then
      some { lane.returnSlot with dispatching := lane.dispatching.eraseIdx index }
    else none
  | _, _, _ => none

def machine : Machine (Action α) (Lane α) := ⟨fun action lane => lane.step action⟩

/-- Every slot is free, reserved or that of a job, and no channel has overflowed. -/
structure Accounted : Prop where
  slots : lane.slots + lane.refill.held + lane.jobs.length + lane.dispatching.length = lane.workers
  fits : lane.mismatch = false

variable {lane} {next : Lane α} {action : Action α}

theorem Accounted.step (accounted : Accounted lane) (moved : lane.step action = some next) :
    Accounted next := by
  obtain ⟨slots, fits⟩ := accounted
  unfold Lane.step at moved
  split at moved
  case h_1 atReserve =>
    simp only [atReserve, held] at slots
    split at moved
    next =>
      cases moved
      exact ⟨by simp only [held]; omega, fits⟩
    next =>
      obtain ⟨-, ⟨⟩⟩ := ite_none_left_eq_some.mp moved
      exact ⟨slots, fits⟩
  case h_2 atClaim =>
    simp only [atClaim, held] at slots
    obtain ⟨fewer, ⟨⟩⟩ := ite_none_right_eq_some.mp moved
    exact ⟨by simp only [held]; omega, fits⟩
  case h_3 atSend =>
    simp only [atSend, held] at slots
    rw [returnSlot, if_pos (by omega)] at moved
    cases moved
    exact ⟨by simp only [held]; omega, fits⟩
  case h_4 atSend =>
    simp only [atSend, held, length_cons] at slots
    rw [send, if_pos (by omega)] at moved
    cases moved
    exact ⟨by simp only [held, length_append, length_singleton]; omega, fits⟩
  case h_5 atSend =>
    rw [atSend] at slots
    cases moved
    exact ⟨slots, fits⟩
  case h_6 queued =>
    simp only [queued, length_cons] at slots
    obtain ⟨-, ⟨⟩⟩ := ite_none_right_eq_some.mp moved
    exact ⟨by simp only [length_cons]; omega, fits⟩
  case h_7 =>
    obtain ⟨isRunning, ⟨⟩⟩ := ite_none_right_eq_some.mp moved
    rw [returnSlot, if_pos (by omega)]
    exact ⟨by simp only [length_eraseIdx_of_lt isRunning]; omega, fits⟩
  case h_8 => cases moved

/-- However `refill` and the workers interleave, the slots are accounted for, and a queued job
finds an idle worker. -/
theorem accounted_of_run {workers scanLimit : Nat} {actions : List (Action α)}
    (ran : machine.run actions { workers, scanLimit } = some lane) :
    Accounted lane ∧ (lane.jobs ≠ [] → lane.dispatching.length < lane.workers) := by
  have accounted : Accounted lane := Machine.run_invariant Accounted
    (fun _ _ _ accounted moved => accounted.step moved) ⟨by simp [held], rfl⟩ ran
  refine ⟨accounted, fun queued => ?_⟩
  have waiting := length_pos_iff.mpr queued
  have slots := accounted.slots
  omega

/-- A slot comes back while `refill` has reserved the other one. -/
def overlap : Option (Lane Unit) :=
  machine.run [.refill, .refill, .refill, .claim [()], .refill, .refill, .receive, .refill, .refill,
    .finish 0] { workers := 2, scanLimit := 3 }

theorem accounted_of_overlap : ∃ lane, overlap = some lane ∧ Accounted lane := by
  obtain ⟨lane, ran⟩ : ∃ lane, overlap = some lane := ⟨_, rfl⟩
  exact ⟨lane, ran, (accounted_of_run ran).1⟩

end Lane

end EventRule
