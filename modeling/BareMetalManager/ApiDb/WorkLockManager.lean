import BareMetalManager.Lib.Transition

/-!
# The work lock manager

The leases of `crates/api-db/src/work_lock_manager.rs`. A manager works off one queue of commands,
in order, with one SQL statement for each. A granted lock queues its release when it is dropped.
Its keepalives come from a task of its own, which looks for the stop signal of the drop only
between two of them, so that one may be queued behind the release. Any number of managers share
the table.

Keys are of type `κ`, worker ids of type `ν`, managers of type `μ`, and the reply channels of the
acquisitions of type `χ`.
-/

namespace ApiDb.WorkLockManager

open Function

/-- A row of the table `work_locks`. -/
structure WorkLockRow (κ ν : Type) where
  workKey : κ
  workerId : ν
  started : Nat
  lastKeepalive : Nat
  deriving DecidableEq, Repr

/-! ## The statements -/

section Statements

variable {κ ν : Type} [DecidableEq κ] [DecidableEq ν]

def names (workKey : κ) (workerId : ν) (row : WorkLockRow κ ν) : Bool :=
  decide (row.workKey = workKey) && decide (row.workerId = workerId)

/-- `INSERT … ON CONFLICT (work_key) DO UPDATE … WHERE last_keepalive + timeout < now()`,
with the worker id that the column's default generates. -/
def tryAcquireLock (now keepaliveTimeout : Nat) (table : List (WorkLockRow κ ν)) (workKey : κ)
    (generated : ν) : List (WorkLockRow κ ν) × Option ν :=
  match table.find? fun row => row.workKey = workKey with
  | none => (table ++ [⟨workKey, generated, now, now⟩], some generated)
  | some row =>
    if row.lastKeepalive + keepaliveTimeout < now then
      (table.map fun row =>
        if row.workKey = workKey then ⟨workKey, generated, now, now⟩ else row, some generated)
    else (table, none)

/-- `DELETE … WHERE work_key AND worker_id`. -/
def releaseLock (table : List (WorkLockRow κ ν)) (workKey : κ) (workerId : ν) :
    List (WorkLockRow κ ν) :=
  table.filter fun row => !names workKey workerId row

/-- `UPDATE … SET last_keepalive = now() WHERE work_key AND worker_id`, and whether a row
was updated. -/
def keepLockAlive (now : Nat) (table : List (WorkLockRow κ ν)) (workKey : κ) (workerId : ν) :
    List (WorkLockRow κ ν) × Bool :=
  (table.map fun row =>
    if names workKey workerId row then { row with lastKeepalive := now } else row,
    table.any (names workKey workerId))

end Statements

/-! ## Managers and locks -/

inductive Command (κ ν χ : Type) where
  | acquireLock (workKey : κ) (replyTx : χ)
  | keepLockAlive (workKey : κ) (workerId : ν)
  | releaseLock (workKey : κ) (workerId : ν)
  deriving DecidableEq, Repr

/-- Releases need no slot, because a drop cannot wait. -/
def Command.needsSlot {κ ν χ : Type} : Command κ ν χ → Bool
  | acquireLock .. | keepLockAlive .. => true
  | releaseLock .. => false

def commandBufferSize : Nat := 100

inductive Reply (ν : Type) where
  | waiting
  | closed
  /-- The manager has answered: with a worker id, or with an error. -/
  | sent (result : Option ν)
  deriving DecidableEq, Repr

structure Request (κ ν μ : Type) where
  manager : μ
  workKey : κ
  reply : Reply ν
  deriving DecidableEq, Repr

inductive KeepaliveLoop where
  | ticking
  /-- The timer has ticked, and no stop signal was there before. -/
  | due
  /-- A keepalive has been queued and not been answered. -/
  | awaiting
  /-- The lock was lost. -/
  | stopped
  deriving DecidableEq, Repr

/-- A granted lock and its keepalive loop, which may outlive it. -/
structure WorkLock (κ μ : Type) where
  manager : μ
  workKey : κ
  held : Bool
  keepalive : KeepaliveLoop
  deriving DecidableEq, Repr

structure State (κ ν μ χ : Type) where
  now : Nat
  table : List (WorkLockRow κ ν)
  /-- The queue of a running manager. -/
  queues : μ → Option (List (Command κ ν χ))
  generated : List ν
  requests : χ → Option (Request κ ν μ)
  locks : ν → Option (WorkLock κ μ)

inductive Action (κ ν μ χ : Type) where
  | advance (duration : Nat)
  | requestLock (replyTx : χ) (manager : μ) (workKey : κ)
  | cancel (replyTx : χ)
  /-- The manager works off its next command. The id is the one that the statement
  generates, if it inserts; the statement may fail. -/
  | process (manager : μ) (generated : ν) (fails : Bool)
  /-- The caller receives the answer and holds the lock. -/
  | receive (replyTx : χ)
  /-- The keepalive loop finds no stop signal, and its timer ticks. -/
  | tick (workerId : ν)
  | sendKeepalive (workerId : ν)
  /-- The lock is dropped, or released explicitly: both queue a release. -/
  | drop (workerId : ν)
  /-- The manager stops; its queue is lost. -/
  | shutDown (manager : μ)
  deriving DecidableEq, Repr

namespace State

variable {κ ν μ χ : Type}

def start (now : Nat) (table : List (WorkLockRow κ ν)) : State κ ν μ χ where
  now
  table
  queues _ := some []
  generated := table.map WorkLockRow.workerId
  requests _ := none
  locks _ := none

section Send

variable [DecidableEq μ]

/-- Queue a command, if the manager runs and has a slot for it. -/
def send (state : State κ ν μ χ) (manager : μ) (command : Command κ ν χ) :
    Option (State κ ν μ χ) :=
  match state.queues manager with
  | some queue =>
    if command.needsSlot && decide (commandBufferSize ≤ queue.countP Command.needsSlot) then none
    else
      some { state with
        queues := update state.queues manager (some (queue ++ [command])) }
  | none => none

end Send

/-- The answer to an acquisition. -/
def answer [DecidableEq χ] (state : State κ ν μ χ) (replyTx : χ) (request : Request κ ν μ)
    (result : Option ν) : State κ ν μ χ :=
  { state with
    requests := update state.requests replyTx (some { request with reply := .sent result }) }

/-- The keepalive loop of a lock moves. -/
def setKeepalive [DecidableEq ν] (state : State κ ν μ χ) (workerId : ν) (loop : KeepaliveLoop) :
    State κ ν μ χ :=
  { state with
    locks := update state.locks workerId
      ((state.locks workerId).map fun lock => { lock with keepalive := loop }) }

variable [DecidableEq κ] [DecidableEq ν] [DecidableEq χ]

/-- One command, with the id that its statement generates. A statement that fails changes
nothing. -/
def execute (keepaliveTimeout : Nat) (generated : ν) (fails : Bool) (state : State κ ν μ χ) :
    Command κ ν χ → Option (State κ ν μ χ)
  | .acquireLock workKey replyTx =>
    match state.requests replyTx with
    | some request =>
      if request.reply ≠ .waiting then some state
      else if fails then some (state.answer replyTx request none)
      else if generated ∈ state.generated then none
      else
        let (table, granted) :=
          tryAcquireLock state.now keepaliveTimeout state.table workKey generated
        some { state.answer replyTx request granted with
          table
          generated := generated :: state.generated }
    | none => some state
  | .releaseLock workKey workerId =>
    if fails then some state
    else some { state with table := releaseLock state.table workKey workerId }
  | .keepLockAlive workKey workerId =>
    if fails then some (state.setKeepalive workerId .ticking)
    else
      let (table, updated) := keepLockAlive state.now state.table workKey workerId
      some { state.setKeepalive workerId (if updated then .ticking else .stopped) with table }

variable [DecidableEq μ]

variable (keepaliveTimeout : μ → Nat)

/-- What the callers, the keepalive loops and the managers may do, in any order. -/
def step (action : Action κ ν μ χ) (state : State κ ν μ χ) : Option (State κ ν μ χ) :=
  match action with
  | .advance duration => some { state with now := state.now + duration }
  | .requestLock replyTx manager workKey =>
    match state.requests replyTx with
    | some _ => none
    | none =>
      (state.send manager (.acquireLock workKey replyTx)).map fun sent =>
        { sent with
          requests := update sent.requests replyTx
            (some ⟨manager, workKey, .waiting⟩) }
  | .cancel replyTx =>
    (state.requests replyTx).map fun request =>
      { state with
        requests := update state.requests replyTx
          (some { request with reply := .closed }) }
  | .process manager generated fails =>
    match state.queues manager with
    | some (command :: queue) =>
      { state with queues := update state.queues manager (some queue) }.execute
        (keepaliveTimeout manager) generated fails command
    | _ => none
  | .receive replyTx =>
    match state.requests replyTx with
    | some ⟨manager, workKey, .sent (some workerId)⟩ =>
      some { state with
        requests := update state.requests replyTx
          (some ⟨manager, workKey, .closed⟩)
        locks := update state.locks workerId
          (some ⟨manager, workKey, true, .ticking⟩) }
    | _ => none
  | .tick workerId =>
    match state.locks workerId with
    | some ⟨_, _, true, .ticking⟩ => some (state.setKeepalive workerId .due)
    | _ => none
  | .sendKeepalive workerId =>
    match state.locks workerId with
    | some ⟨manager, workKey, _, .due⟩ =>
      -- also for a lock that has been dropped since the tick
      let sent := state.send manager (.keepLockAlive workKey workerId)
      some ((sent.getD state).setKeepalive workerId (if sent.isSome then .awaiting else .ticking))
    | _ => none
  | .drop workerId =>
    match state.locks workerId with
    | some ⟨manager, workKey, true, keepalive⟩ =>
      let dropped := { state with
        locks := update state.locks workerId (some ⟨manager, workKey, false, keepalive⟩) }
      some ((dropped.send manager (.releaseLock workKey workerId)).getD dropped)
    | _ => none
  | .shutDown manager =>
    some { state with queues := update state.queues manager none }

def machine : Machine (Action κ ν μ χ) (State κ ν μ χ) :=
  ⟨step keepaliveTimeout⟩

end State

end ApiDb.WorkLockManager
