import BareMetalManager.Ipam.Protocol

/-!
# Clients that share the store

Clients call the IPAM at the same time: each storage call is one step, and the steps interleave.
Only an update looks at the version of a row. So two releases in one parent leave a mark without a
child, and the store stays consistent where each client finds the rows that it deletes, and the
parent of a released child, as it has read them.
-/

namespace Ipam

open Function Network Reservation Session Option

variable {ι τ : Type} [DecidableEq ι] [DecidableEq τ] [Netip τ]

/-- The store, what each client is running, and a history: the addresses that were handed out
and the rows that were deleted. -/
structure System (ι τ : Type) where
  store : Store τ
  clients : ι → Option (Call τ × Program τ)
  handedOut : List (τ × Addr)
  deleted : List (PrefixRow τ)

inductive Action (ι τ : Type) where
  | start (client : ι) (call : Call τ)
  | advance (client : ι)

namespace System

def ofSession (session : Session τ) : System ι τ :=
  ⟨session.store, fun _ => none, session.handedOut, []⟩

def Quiescent (state : System ι τ) : Prop := ∀ client, state.clients client = none

def remaining (call : Call τ) :
    Program τ → Option (Call τ × Program τ)
  | .done _ => none
  | program => some (call, program)

/-- The handed out addresses when a call goes on. -/
def recorded (handedOut : List (τ × Addr)) (call : Call τ) :
    Program τ → List (τ × Addr)
  | .done result => record handedOut call result
  | _ => handedOut

def resume (state : System ι τ) (client : ι) (call : Call τ) (program : Program τ) : System ι τ :=
  { state with
    clients := update state.clients client (remaining call program)
    handedOut := recorded state.handedOut call program }

def deletedBy (store : Store τ) : Program τ → List (PrefixRow τ)
  | .deletePrefix row _ => (store.lookup row.cidr).toList
  | _ => []

/-- A client starts a call, other than `NewPrefix`, or makes its next storage call. -/
def step (state : System ι τ) : Action ι τ → Option (System ι τ)
  | .start client call =>
    match state.clients client, call with
    | some _, _ | none, .newPrefix _ => none
    | none, call => some (state.resume client call call.program)
  | .advance client =>
    (state.clients client).map fun (call, program) =>
      let (rest, store) := program.step state.store
      { state with store, deleted := deletedBy state.store program ++ state.deleted }.resume
        client call rest

end System

def system : Machine (Action ι τ) (System ι τ) := ⟨fun action state => state.step action⟩

/-- The rows of a storage call are as the client has read them. An update may lose its lock,
but not that of a release, which has deleted the child already. -/
def Current (store : Store τ) (call : Call τ) : Program τ → Prop
  | .updatePrefix read _ _ =>
    match call with
    | .releaseChildPrefix _ => store.lookup read.cidr = some read
    | _ => ∀ row ∈ store.lookup read.cidr, row.version = read.version → row = read
  | .deletePrefix row _ =>
    store.lookup row.cidr = some row ∧
      match call with
      | .releaseChildPrefix child => row.cidr = child.cidr ∧ row.parentCidr = child.parentCidr
      | _ => row.parentCidr = Netip.empty
  | _ => True

def Fresh (state : System ι τ) : Action ι τ → Prop
  | .start _ _ => True
  | .advance client => ∀ running ∈ state.clients client, Current state.store running.1 running.2

/-! ## The invariant -/

def Unused (row : PrefixRow τ) : Prop :=
  row.taken = ∅ ∧ ∃ p, row.cidr = prefixString p ∧ row.ips = reservedIPs p

/-- The invariant, with the reservation that each client holds. -/
structure Running (held : ι → Option Pending) (state : System ι τ) : Prop where
  sound : Sound (fun p c => ∃ client, held client = some (p, c)) state.store
  exclusive : Exclusive held
  handed : ∀ key addr, (key, addr) ∈ state.handedOut ↔ Acquired state.store key addr
  nodup : state.handedOut.Nodup
  deleted : ∀ row ∈ state.deleted, Unused row
  idle : ∀ client, state.clients client = none → held client = none
  follows : ∀ {client call program}, state.clients client = some (call, program) →
    Follows call (held client) program

section Running

variable {held : ι → Option Pending} {state : System ι τ} {client : ι} {call : Call τ}
  {mode : Option Pending} {rest : Program τ} {store : Store τ}
  {deleted : List (PrefixRow τ)}

omit [DecidableEq ι] in
theorem Running.of_kept {session : Session τ} (kept : Kept session) :
    Running (fun _ => none) (.ofSession session : System ι τ) where
  sound := kept.sound.congr fun p c => by simp
  exclusive := nofun
  handed := kept.handed
  nodup := kept.nodup
  deleted := nofun
  idle _ _ := rfl
  follows := nofun

omit [DecidableEq ι] in
theorem Running.kept (running : Running held state) (quiescent : state.Quiescent) :
    Kept ⟨state.store, state.handedOut⟩ := by
  refine ⟨running.sound.congr fun p c => ?_, running.handed, running.nodup⟩
  refine iff_of_false id ?_
  rintro ⟨client, holds⟩
  rw [running.idle client (quiescent client)] at holds
  cases holds

/-- A call goes on with its reservation, or has ended without one. -/
def GoesOn (call : Call τ) (mode : Option Pending) (rest : Program τ) : Prop :=
  Follows call mode rest ∨ mode = none ∧ ∃ result, rest = .done result

theorem GoesOn.mode_eq_none (goesOn : GoesOn call mode rest)
    (ended : System.remaining call rest = none) : mode = none := by
  obtain follows | ⟨isNone, -⟩ := goesOn
  · cases follows with
    | done => rfl
    | _ => cases ended
  · exact isNone

theorem GoesOn.follows (goesOn : GoesOn call mode rest) {other : Call τ} {program : Program τ}
    (left : System.remaining call rest = some (other, program)) : Follows other mode program := by
  obtain follows | ⟨-, result, rfl⟩ := goesOn
  · cases rest <;> cases left <;> exact follows
  · cases left

/-- The system when a client goes on and leaves a store. -/
abbrev System.leave (state : System ι τ) (store : Store τ) (deleted : List (PrefixRow τ))
    (client : ι) (call : Call τ) (rest : Program τ) : System ι τ :=
  { state with store, deleted := deleted ++ state.deleted }.resume client call rest

variable (running : Running held state)
include running

variable {after : ι → Option Pending}

/-- What a client that goes on has to keep. -/
theorem Running.resume (isAfter : update held client mode = after)
    (sound : Sound (fun p c => ∃ holder, after holder = some (p, c)) store)
    (exclusive : Exclusive after)
    (handed : ∀ key addr, (key, addr) ∈ System.recorded state.handedOut call rest ↔
      Acquired store key addr)
    (nodup : (System.recorded state.handedOut call rest).Nodup)
    (newlyDeleted : ∀ row ∈ deleted, Unused row) (goesOn : GoesOn call mode rest) :
    Running after (state.leave store deleted client call rest) where
  sound := sound
  exclusive := exclusive
  handed := handed
  nodup := nodup
  deleted row rowMem := by
    obtain isNew | isOld := List.mem_append.mp rowMem
    · exact newlyDeleted row isNew
    · exact running.deleted row isOld
  idle other isIdle := by
    simp only [System.resume, ← isAfter, update_apply] at isIdle ⊢
    split at isIdle
    next same =>
      rw [if_pos same]
      exact goesOn.mode_eq_none isIdle
    next ne =>
      rw [if_neg ne]
      exact running.idle other isIdle
  follows {other otherCall program} runs := by
    simp only [System.resume, ← isAfter, update_apply] at runs ⊢
    split at runs
    next same =>
      rw [if_pos same]
      exact goesOn.follows runs
    next ne =>
      rw [if_neg ne]
      exact running.follows runs

omit running in
theorem recorded_of_follows (follows : Follows call mode rest) (handedOut : List (τ × Addr)) :
    System.recorded handedOut call rest = handedOut := by
  cases follows with
  | done unrecorded => exact unrecorded handedOut
  | _ => rfl

/-- A client goes on and no address is acquired or released. -/
theorem Running.resume_of_follows (isAfter : update held client mode = after)
    (sound : Sound (fun p c => ∃ holder, after holder = some (p, c)) store)
    (exclusive : Exclusive after)
    (same : ∀ key addr, Acquired store key addr ↔ Acquired state.store key addr)
    (newlyDeleted : ∀ row ∈ deleted, Unused row) (follows : Follows call mode rest) :
    Running after (state.leave store deleted client call rest) := by
  apply running.resume isAfter sound exclusive
  · intro key addr
    rw [recorded_of_follows follows, same, running.handed]
  · rw [recorded_of_follows follows]
    exact running.nodup
  · exact newlyDeleted
  · exact .inl follows

/-- A client goes on, and the store and its reservation are as before. -/
theorem Running.resume_unchanged (follows : Follows call (held client) rest) :
    Running held (state.leave state.store [] client call rest) :=
  running.resume_of_follows (update_eq_self client held) running.sound running.exclusive
    (fun _ _ => .rfl) nofun follows

variable {p c : IpPrefix} {read row : PrefixRow τ}

theorem Running.resume_take (idle : held client = none)
    (sound : Sound (fun q d => (∃ holder, held holder = some (q, d)) ∨ q = p ∧ d = c) store)
    (free : ¬∃ holder, held holder = some (p, c))
    (same : ∀ key addr, Acquired store key addr ↔ Acquired state.store key addr)
    (newlyDeleted : ∀ row ∈ deleted, Unused row) (follows : Follows call (some (p, c)) rest) :
    Running (update held client (some (p, c)))
      (state.leave store deleted client call rest) := by
  apply running.resume_of_follows rfl
  · apply sound.congr
    intro q d
    rw [held_take_iff idle, Prod.mk.injEq]
  · exact running.exclusive.take free
  · exact same
  · exact newlyDeleted
  · exact follows

theorem Running.resume_drop (holds : held client = some (p, c))
    (sound : Sound (fun q d => (∃ holder, held holder = some (q, d)) ∧ ¬(q = p ∧ d = c)) store)
    (same : ∀ key addr, Acquired store key addr ↔ Acquired state.store key addr)
    (follows : Follows call none rest) :
    Running (update held client none)
      (state.leave store [] client call rest) := by
  apply running.resume_of_follows rfl
  · apply sound.congr
    intro q d
    rw [held_drop_iff running.exclusive holds, ne_eq, Prod.mk.injEq]
  · exact running.exclusive.drop
  · exact same
  · nofun
  · exact follows

/-! ## Storage calls -/

abbrev System.afterCall (state : System ι τ) (client : ι) (call : Call τ)
    (program : Program τ) : System ι τ :=
  state.leave (program.step state.store).2 (System.deletedBy state.store program) client call
    (program.step state.store).1

variable {next : Except UpdateError Unit → Program τ}

/-- An update of a client without a reservation: it loses its lock, or finds the row as the
client has read it. -/
theorem running_update (idle : held client = none) (rowOk : RowOk p read) {new : PrefixRow τ}
    (cidr : new.cidr = read.cidr) (version : new.version = read.version)
    (current : ∀ row ∈ state.store.lookup read.cidr, row.version = read.version → row = read)
    (lost : ∀ error, Follows call none (next (.error error)))
    (won : state.store.lookup (prefixString p) = some read → ∃ held,
      Running held (state.leave (state.store.insert (prefixString p) new.nextVersion) [] client call
        (next (.ok ())))) :
    ∃ held, Running held (state.afterCall client call (.updatePrefix read new next)) := by
  obtain ⟨error, failed⟩ | ⟨row, found, sameVersion, updated⟩ := state.store.updatePrefix_cases new
  · refine ⟨held, ?_⟩
    simp only [System.afterCall, Prog.step, failed]
    apply running.resume_unchanged
    rw [idle]
    exact lost error
  · rw [cidr] at found updated
    obtain rfl := current row found (sameVersion.trans version)
    rw [rowOk.cidr] at found updated
    simp only [System.afterCall, Prog.step, updated]
    exact won found

theorem running_acquireChild (idle : held client = none)
    (found : state.store.lookup (prefixString p) = some read) {childCidr : τ} {length : Nat}
    (chosen : chooseChild read childCidr length = .ok c)
    (follows : Follows call (some (p, c)) rest) :
    ∃ held, Running held
      (state.leave (state.store.insert (prefixString p)
        (read.acquireChild (prefixString c)).nextVersion) [] client call rest) := by
  refine ⟨_, running.resume_take idle (sound_acquireChild running.sound found chosen) ?_ ?_
    nofun follows⟩
  · -- the child that is chosen is apart from the reservations of its parent
    intro isHeld
    have isTaken := (reserved_iff found).mp (running.sound.forest.pendingReserved isHeld)
    apply (chooseChild_spec (running.sound.rowOk found) chosen).2.2.2 c isTaken
    exact overlaps_iff.mpr (.inl (laminar_inside.refl c))
  · intro key addr
    exact acquired_overwrite found (by rfl)

theorem running_createChild (holds : held client = some (p, c)) {parentCidr : τ}
    (parsed : parseMasked parentCidr = some p)
    (created : newPrefixRow (prefixString c) parentCidr = .ok row) {next : Bool → Program τ}
    (follows : Follows call none (next true)) :
    ∃ held, Running held (state.afterCall client call (.createPrefix row next)) := by
  obtain ⟨absent, isCidr, sound⟩ :=
    sound_createChild running.sound ⟨client, holds⟩ parsed created
  have stored : state.store.createPrefix row = some (state.store.insert (prefixString c) row) := by
    rw [Store.createPrefix, isCidr, if_neg absent]
  simp only [System.afterCall, Prog.step, stored]
  refine ⟨_, running.resume_drop holds sound ?_ follows⟩
  intro key addr
  exact acquired_create absent (newPrefixRow_spec (parseMasked_prefixString c) created).2.2.1

section Delete

variable (idle : held client = none) (rowOk : RowOk c row) (noIPs : ¬row.hasIPs)
  (noChildren : ¬0 < row.acquiredPrefixes) (found : state.store.lookup row.cidr = some row)
  {next : Program τ}
include rowOk noIPs noChildren

omit running in
theorem unused_of_deleted : ∀ deleted ∈ [row], Unused deleted := by
  refine List.forall_mem_singleton.mpr ⟨?_, c, rowOk.cidr, ips_of_not_hasIPs rowOk noIPs⟩
  exact Finset.card_eq_zero.mp (Nat.eq_zero_of_not_pos noChildren)

include idle found

theorem running_deleteRoot (isRoot : row.parentCidr = Netip.empty)
    (follows : Follows call none next) :
    ∃ held, Running held (state.afterCall client call (.deletePrefix row next)) := by
  simp only [System.afterCall, System.deletedBy, found, toList_some, Prog.step,
    Store.deletePrefix, rowOk.cidr]
  rw [rowOk.cidr] at found
  refine ⟨_, running.resume_of_follows (update_eq_self_iff.mpr idle.symm)
    (sound_deleteRoot running.sound found noChildren isRoot) running.exclusive ?_
    (unused_of_deleted rowOk noIPs noChildren) follows⟩
  intro key addr
  exact acquired_erase found (ips_of_not_hasIPs rowOk noIPs)

theorem running_deleteChild (isChild : row.parentCidr = prefixString p)
    (follows : Follows call (some (p, c)) next) :
    ∃ held, Running held (state.afterCall client call (.deletePrefix row next)) := by
  simp only [System.afterCall, System.deletedBy, found, toList_some, Prog.step,
    Store.deletePrefix, rowOk.cidr]
  rw [rowOk.cidr] at found
  refine ⟨_, running.resume_take idle (sound_deleteChild running.sound found noChildren isChild)
    ?_ ?_ (unused_of_deleted rowOk noIPs noChildren) follows⟩
  · -- nothing is stored inside a reservation that is held
    intro isHeld
    exact running.sound.forest.pendingClear isHeld (stored_forest.mpr ⟨row, found⟩)
      (laminar_inside.refl c)
  · intro key addr
    exact acquired_erase found (ips_of_not_hasIPs rowOk noIPs)

end Delete

theorem running_releaseChild (holds : held client = some (p, c)) (rowOk : RowOk p read)
    (found : state.store.lookup read.cidr = some read)
    (follows : Follows call none (next (.ok ()))) :
    ∃ held, Running held (state.afterCall client call
      (.updatePrefix read (read.releaseChild (prefixString c)) next)) := by
  rw [rowOk.cidr] at found
  have updated : state.store.updatePrefix (read.releaseChild (prefixString c)) = .ok _ :=
    updatePrefix_of_read found rowOk.cidr rfl
  simp only [System.afterCall, Prog.step, updated]
  refine ⟨_, running.resume_drop holds
    (sound_releaseChild running.sound found ⟨client, holds⟩) ?_ follows⟩
  intro key addr
  exact acquired_overwrite found (by rfl)

/-- A client that goes on without a reservation ends its call, and has acquired or released an
address. -/
theorem Running.resume_end (idle : held client = none) {result : Except IpamError (Response τ)}
    (sound : Sound (fun p c => ∃ holder, held holder = some (p, c)) store)
    (handed : ∀ key addr, (key, addr) ∈ record state.handedOut call result ↔
      Acquired store key addr)
    (nodup : (record state.handedOut call result).Nodup) :
    ∃ held, Running held (state.leave store [] client call (.done result)) :=
  ⟨_, running.resume (update_eq_self_iff.mpr idle.symm) sound running.exclusive handed nodup nofun
    (.inr ⟨rfl, result, rfl⟩)⟩

theorem running_acquireIP (idle : held client = none)
    (found : state.store.lookup (prefixString p) = some read) {specificIP : τ} {ip : Addr}
    (chosen : chooseIP read specificIP = .ok ip) :
    ∃ held, Running held
      (state.leave (state.store.insert (prefixString p)
        (read.acquireIP (addrString ip)).nextVersion)
        [] client call (.done (.ok (.ip read.cidr ip)))) := by
  have rowOk := running.sound.rowOk found
  obtain ⟨-, free, -⟩ := chooseIP_spec rowOk chosen
  refine running.resume_end idle
    (sound_overwrite_ips running.sound found (rowOk.acquireIP chosen)) ?_ ?_
  · intro key addr
    rw [acquired_acquireIP found free rowOk.blocked, ← running.handed, rowOk.cidr]
    simp only [record, List.mem_cons, Prod.mk.injEq]
  · refine List.nodup_cons.mpr ⟨fun handed => ?_, running.nodup⟩
    rw [rowOk.cidr, running.handed, acquired_iff found] at handed
    exact free handed.1

theorem running_releaseIP (idle : held client = none)
    (found : state.store.lookup (prefixString p) = some read) {prefixCidr ip : τ}
    (checked : checkRelease read ip = .ok ()) (parsed : parseMasked prefixCidr = some p)
    (recorded : ∀ handedOut, record handedOut call (.ok .nothing) =
      release handedOut prefixCidr ip) :
    ∃ held, Running held
      (state.leave (state.store.insert (prefixString p)
        (read.releaseIP (releaseKey ip)).nextVersion)
        [] client call (.done (.ok .nothing))) := by
  have rowOk := (running.sound.rowOk found).releaseIP checked
  refine running.resume_end idle (sound_overwrite_ips running.sound found rowOk) ?_ ?_
  · intro key addr
    rw [recorded, acquired_releaseIP found, ← running.handed]
    simp only [release, List.mem_filter, parsed, map_some, some_inj,
      decide_eq_true_eq]
  · rw [recorded]
    exact running.nodup.filter _

/-! ## Runs -/

omit running in
theorem Current.update {new : PrefixRow τ}
    (current : Current store call (.updatePrefix read new next)) :
    ∀ row ∈ store.lookup read.cidr, row.version = read.version → row = read := by
  cases call with
  | releaseChildPrefix child =>
    intro row found _
    exact some.inj (found.symm.trans current)
  | _ => exact current

theorem running_advance {program : Program τ} (runs : state.clients client = some (call, program))
    (current : Current state.store call program) :
    ∃ held, Running held (state.afterCall client call program) := by
  have follows := running.follows runs
  generalize isMode : held client = mode at follows
  cases follows with
  | done unrecorded =>
    refine ⟨held, running.resume_unchanged ?_⟩
    rw [isMode]
    exact .done unrecorded
  | read follows =>
    refine ⟨held, running.resume_unchanged ?_⟩
    rw [isMode]
    exact follows _ fun row found => running.sound.rowOk found
  | acquireChild rowOk chosen lost won =>
    refine running_update running isMode rowOk (by rfl) (by rfl) current.update lost ?_
    exact fun found => running_acquireChild running isMode found chosen won
  | createChild parsed created won => exact running_createChild running isMode parsed created won
  | deleteRoot rowOk noIPs noChildren isDelete after =>
    obtain ⟨found, isRoot⟩ := current
    refine running_deleteRoot running isMode rowOk noIPs noChildren found ?_ after
    cases call with
    | releaseChildPrefix child => exact absurd rfl (isDelete child)
    | _ => exact isRoot
  | deleteChild rowOk noIPs noChildren isRelease parsed after =>
    subst isRelease
    obtain ⟨found, isCidr, isParent⟩ := current
    rw [← isParent] at parsed
    exact running_deleteChild running isMode rowOk noIPs noChildren found
      (rowOk.parentCidr_of_parsed parsed) (after (isCidr.symm.trans rowOk.cidr))
  | releaseChild rowOk isRelease won =>
    subst isRelease
    exact running_releaseChild running isMode rowOk current won
  | acquireIP rowOk chosen lost won =>
    refine running_update running isMode rowOk (by rfl) (by rfl) current.update lost ?_
    intro found
    rw [won]
    exact running_acquireIP running isMode found chosen
  | releaseIP rowOk checked parsed lost won recorded =>
    refine running_update running isMode rowOk (by rfl) (by rfl) current.update lost ?_
    intro found
    rw [won]
    exact running_releaseIP running isMode found checked parsed recorded

theorem running_step {action : Action ι τ} {next : System ι τ} (fresh : Fresh state action)
    (moved : system.step action state = some next) :
    ∃ held, Running held next := by
  cases action with
  | start client call =>
    simp only [system, System.step] at moved
    split at moved
    next => cases moved
    next => cases moved
    next isIdle other =>
      cases moved
      refine ⟨held, running.resume_unchanged ?_⟩
      rw [running.idle client isIdle]
      exact follows_program other
  | advance client =>
    obtain ⟨⟨call, program⟩, runs, rfl⟩ := map_eq_some_iff.mp moved
    exact running_advance running runs (fresh (call, program) runs)

end Running

/-- What the clients rely on when no call is running: a consistent store, from which no prefix
in use was deleted. -/
structure Settled (state : System ι τ) : Prop where
  consistent : Consistent ⟨state.store, state.handedOut⟩
  deleted : ∀ row ∈ state.deleted, Unused row
  /-- What no child of a parent overlaps can be acquired, a released child as well. -/
  available : ∀ {p c row}, state.store.lookup (prefixString p) = some row →
    row.ips = reservedIPs p → Inside c p → c ≠ p →
    (∀ d child, state.store.lookup (prefixString d) = some child →
      child.parentCidr = prefixString p → ¬Overlaps c d) →
    ∃ child after, (Call.acquireSpecificChildPrefix (prefixString p) (prefixString c)).program.run
        state.store = (.ok (.row child), after) ∧ after.lookup (prefixString c) = some child

omit [DecidableEq ι] in
theorem Running.settled {held : ι → Option Pending} {state : System ι τ}
    (running : Running held state) (quiescent : state.Quiescent) : Settled state := by
  have kept := running.kept quiescent
  refine ⟨kept.consistent, running.deleted, ?_⟩
  intro p c row found onlyBlocked below ne free
  have rowOk := kept.sound.rowOk found
  have chosen := chooseChild_of_free rowOk (not_hasIPs_of_ips rowOk onlyBlocked) below ne
    (fun d isTaken => by
      obtain ⟨child, foundChild, isChild⟩ := (kept.consistent.marks found _).mp isTaken
      exact free d child foundChild isChild) 0
  obtain ⟨child, after, ran, stored, -⟩ :=
    run_acquireChildPrefix kept.sound (parseMasked_prefixString p) found chosen
  have alone := run_program kept
    (show Allowed _ (.acquireSpecificChildPrefix (prefixString p) (prefixString c)) from trivial)
  exact ⟨child, after, alone.trans ran, stored⟩

/-- Where the clients find their rows current, the store is as after a sequential run. -/
theorem settled_of_fresh_run {calls : List (Call τ)} {session : Session τ}
    (allowed : client.Meets Allowed calls initial)
    (prepared : client.run calls initial = some session)
    {actions : List (Action ι τ)} {state : System ι τ}
    (fresh : system.Meets Fresh actions (.ofSession session))
    (ran : system.run actions (.ofSession session) = some state)
    (quiescent : state.Quiescent) : Settled state := by
  have kept : Kept session := kept_of_run allowed prepared
  have reached : ∃ held, Running held state := by
    refine Machine.run_induction (fun state => ∃ held, Running held state) ?_
      ⟨_, .of_kept kept⟩ fresh ran
    rintro action before next ⟨held, running⟩ isFresh moved
    exact running_step running isFresh moved
  obtain ⟨held, running⟩ := reached
  exact running.settled quiescent

/-! ## Two releases -/

instance (store : Store τ) (call : Call τ) (program : Program τ) :
    Decidable (Current store call program) := by
  cases program <;> unfold Current <;> cases call <;> infer_instance

instance (state : System ι τ) (action : Action ι τ) : Decidable (Fresh state action) := by
  cases action <;> unfold Fresh <;> infer_instance

instance [Fintype ι] (state : System ι τ) : Decidable state.Quiescent :=
  decidable_of_iff (∀ client, (state.clients client).isNone) <|
    forall_congr' fun _ => isNone_iff_eq_none

/-- A network is split in two halves. -/
def splitInTwo : List (Call Spelling) :=
  [.newPrefix network, .acquireSpecificChildPrefix network lowerHalf,
    .acquireSpecificChildPrefix network upperHalf]

def twoHalves : Session Spelling := splitInTwo.foldl serve initial

def lowerHalfRow : PrefixRow Spelling :=
  { upperHalfRow with
    cidr := lowerHalf
    ips := (parseMasked lowerHalf).elim ∅ reservedIPs }

/-- Two clients release the halves. Both have read the network before one of them updates it,
and the other has deleted its half when it loses the lock: its next attempt finds no half. -/
def twoReleases : List (Action Bool Spelling) :=
  [.start false (.releaseChildPrefix lowerHalfRow), .start true (.releaseChildPrefix upperHalfRow),
    .advance false, .advance true, .advance false, .advance true, .advance false, .advance true,
    .advance false, .advance true, .advance true, .advance true]

/-- The upper half is marked in the network, is not stored and cannot be acquired. -/
theorem not_settled_of_twoReleases :
    client.Meets Allowed splitInTwo initial ∧ client.run splitInTwo initial = some twoHalves ∧
      ∃ state, system.run twoReleases (.ofSession twoHalves) = some state ∧
        state.Quiescent ∧ state.store.lookup upperHalf = none ∧ (∃ row ∈ state.store.lookup network,
          row.availableChildPrefixes.lookup upperHalf = some false) ∧
        ((Call.acquireSpecificChildPrefix network upperHalf).program.run state.store).2.lookup
          upperHalf = none ∧
        ¬Settled state := by
  obtain ⟨state, ran, quiescent, notStored, ⟨row, found, isTaken⟩, notAcquired⟩ :
      ∃ state ∈ system.run twoReleases (.ofSession twoHalves), state.Quiescent ∧
        state.store.lookup upperHalf = none ∧
        (∃ row ∈ state.store.lookup network,
          row.availableChildPrefixes.lookup upperHalf = some false) ∧
        ((Call.acquireSpecificChildPrefix network upperHalf).program.run state.store).2.lookup
          upperHalf = none := by
    decide +kernel
  refine ⟨by decide +kernel, rfl, state, ran, quiescent, notStored, ⟨row, found, isTaken⟩,
    notAcquired, fun settled => ?_⟩
  obtain ⟨child, foundChild, -⟩ := (settled.consistent.marks found upperHalf).mp isTaken
  rw [notStored] at foundChild
  cases foundChild

/-- Two clients acquire parts of the network at the same time: one of them loses its lock and
tries again. -/
def twoAcquisitions : List (Action Bool Spelling) :=
  [.start false (.acquireChildPrefix network 30), .start true (.acquireChildPrefix network 30),
    .advance false, .advance true, .advance false, .advance true, .advance false, .advance true,
    .advance true, .advance true]

def undividedNetwork : List (Call Spelling) := [.newPrefix network]

theorem settled_of_twoAcquisitions :
    ∃ state, system.run twoAcquisitions
        (System.ofSession (undividedNetwork.foldl serve initial)) = some state ∧
      state.store.keys = {network, lowerHalf, upperHalf} ∧ Settled state := by
  have allowed : client.Meets Allowed undividedNetwork initial := by decide +kernel
  have fresh : system.Meets Fresh twoAcquisitions
      (.ofSession (undividedNetwork.foldl serve initial)) := by
    decide +kernel
  obtain ⟨state, ran, quiescent, keys⟩ : ∃ state ∈ system.run twoAcquisitions
      (.ofSession (undividedNetwork.foldl serve initial)),
      state.Quiescent ∧ state.store.keys = {network, lowerHalf, upperHalf} := by
    decide +kernel
  exact ⟨state, ran, keys, settled_of_fresh_run allowed rfl fresh ran quiescent⟩

end Ipam
