import BareMetalManager.Ipam.StoreInvariant
import BareMetalManager.Lib.Transition

/-!
# One client of the IPAM

A client calls the IPAM again and again, and each call runs alone. Whatever the calls return,
the stored prefixes form a forest that the parents account for, and an address is handed out
once until it is released.
-/

namespace Ipam

open Network Reservation Finmap Option Prog PrefixRow Netip

variable {τ : Type} [DecidableEq τ] [Netip τ]

/-- The store, and the addresses that were handed out and not released, with their prefixes. -/
structure Session (τ : Type) where
  store : Store τ
  handedOut : List (τ × Addr)

open Session

namespace Session

def release (handedOut : List (τ × Addr)) (prefixCidr ip : τ) : List (τ × Addr) :=
  handedOut.filter fun held =>
    ¬((parseMasked prefixCidr).map prefixString = some held.1 ∧ addrString held.2 = releaseKey ip)

def record (handedOut : List (τ × Addr)) (call : Call τ) :
    Except IpamError (Response τ) → List (τ × Addr)
  | .error _ => handedOut
  | .ok (.ip parentPrefix addr) => (parentPrefix, addr) :: handedOut
  | .ok _ =>
    match call with
    | .releaseIP parentPrefix addr => release handedOut parentPrefix (addrString addr)
    | .releaseIPFromPrefix prefixCidr ip => release handedOut prefixCidr ip
    | _ => handedOut

def serve (session : Session τ) (call : Call τ) : Session τ :=
  let (result, store) := call.program.run session.store
  ⟨store, record session.handedOut call result⟩

end Session

/-- A client that starts with an empty store. -/
def client : Machine (Call τ) (Session τ) := ⟨fun call session => some (session.serve call)⟩

def Session.initial : Session τ := ⟨∅, []⟩

/-- Only stored children are released, and only root prefixes are deleted. -/
def Allowed (session : Session τ) : Call τ → Prop
  | .releaseChildPrefix child =>
    ∃ row ∈ session.store.lookup child.cidr, row.parentCidr = child.parentCidr
  | .deletePrefix cidr => ∀ p ∈ parseMasked cidr, ∀ row ∈ session.store.lookup (prefixString p),
      row.parentCidr = empty
  | _ => True

/-! ## Consistency -/

/-- What a client relies on. -/
structure Consistent (session : Session τ) : Prop where
  keys : ∀ {key row}, session.store.lookup key = some row →
    row.cidr = key ∧ ∃ p, key = prefixString p
  roots : ∀ {p q row other}, session.store.lookup (prefixString p) = some row →
    session.store.lookup (prefixString q) = some other → row.parentCidr = empty →
      other.parentCidr = empty → p ≠ q → ¬Overlaps p q
  /-- A child lies inside its stored parent. -/
  children : ∀ {c row}, session.store.lookup (prefixString c) = some row →
    row.parentCidr ≠ empty → ∃ p parent, row.parentCidr = prefixString p ∧
      session.store.lookup (prefixString p) = some parent ∧ Inside c p
  siblings : ∀ {c d row other}, session.store.lookup (prefixString c) = some row →
    session.store.lookup (prefixString d) = some other → row.parentCidr ≠ empty →
      row.parentCidr = other.parentCidr → c ≠ d → ¬Overlaps c d
  /-- A parent has marked its stored children, and nothing else. -/
  marks : ∀ {key parent}, session.store.lookup key = some parent → ∀ cidr,
    parent.availableChildPrefixes.lookup cidr = some false ↔
      ∃ row, session.store.lookup cidr = some row ∧ row.parentCidr = key
  /-- A prefix has child prefixes or addresses. -/
  exclusive : ∀ {p row}, session.store.lookup (prefixString p) = some row →
    row.taken.Nonempty → row.ips = reservedIPs p
  /-- The acquired addresses are those that are handed out, and lie in their prefixes. -/
  acquired : ∀ {p row}, session.store.lookup (prefixString p) = some row → ∀ ip ∈ row.ips,
    ip ∉ (reservedIPs p : Finset τ) → ∃ addr, ip = addrString addr ∧ containsAddr p addr ∧
      (prefixString p, addr) ∈ session.handedOut
  handedOut : ∀ {key addr}, (key, addr) ∈ session.handedOut →
    ∃ p row, key = prefixString p ∧ session.store.lookup key = some row ∧
      addrString addr ∈ row.ips ∧ addrString addr ∉ (reservedIPs p : Finset τ)
  /-- No address is handed out twice. -/
  once : (session.handedOut.map Prod.snd).Nodup

/-! ## Acquired addresses -/

/-- The prefix has the address, which is not a blocked one. -/
def Acquired (store : Store τ) (key : τ) (addr : Addr) : Prop :=
  ∃ p row, key = prefixString p ∧ store.lookup (prefixString p) = some row ∧
    addrString addr ∈ row.ips ∧ addrString addr ∉ (reservedIPs p : Finset τ)

section Acquired

variable {store : Store τ} {p q : IpPrefix} {row new : PrefixRow τ} {addr : Addr}

variable (found : store.lookup (prefixString p) = some row)
include found

theorem acquired_iff :
    Acquired store (prefixString p) addr ↔
      addrString addr ∈ row.ips ∧ addrString addr ∉ (reservedIPs p : Finset τ) := by
  constructor
  · rintro ⟨q, other, same, foundAgain, facts⟩
    obtain rfl := prefixString_injective same
    rw [found] at foundAgain
    cases foundAgain
    exact facts
  · intro facts
    exact ⟨p, row, rfl, found, facts⟩

variable {key : τ}

omit found in
theorem acquired_insert_of_ne (ne : key ≠ prefixString p) :
    Acquired (store.insert (prefixString p) new) key addr ↔ Acquired store key addr := by
  refine exists_congr fun q => exists_congr fun row => and_congr_right fun same => ?_
  rw [lookup_insert_of_ne _ (same ▸ ne)]

theorem acquired_overwrite (sameIPs : new.ips = row.ips) :
    Acquired (store.insert (prefixString p) new) key addr ↔ Acquired store key addr := by
  obtain rfl | ne := eq_or_ne key (prefixString p)
  · rw [acquired_iff (lookup_insert _), acquired_iff found, sameIPs]
  · exact acquired_insert_of_ne ne

omit found in
theorem acquired_create (absent : (prefixString p : τ) ∉ store) (blocked : new.ips = reservedIPs p)
    : Acquired (store.insert (prefixString p) new) key addr ↔ Acquired store key addr := by
  obtain rfl | ne := eq_or_ne key (prefixString p)
  · rw [acquired_iff (lookup_insert _), blocked]
    refine iff_of_false (fun facts => facts.2 facts.1) ?_
    rintro ⟨q, row, same, found, -⟩
    exact absent (lookup_isSome.mp (same ▸ isSome_of_eq_some found))
  · exact acquired_insert_of_ne ne

theorem acquired_erase (blocked : row.ips = reservedIPs p) :
    Acquired (store.erase (prefixString p)) key addr ↔ Acquired store key addr := by
  obtain rfl | ne := eq_or_ne key (prefixString p)
  · rw [acquired_iff found, blocked]
    refine iff_of_false ?_ fun facts => facts.2 facts.1
    rintro ⟨q, other, same, foundAgain, -⟩
    rw [← same, lookup_erase] at foundAgain
    cases foundAgain
  · refine exists_congr fun q => exists_congr fun row => and_congr_right fun same => ?_
    rw [lookup_erase_ne (same ▸ ne)]

theorem acquired_acquireIP {ip : Addr} (free : addrString ip ∉ row.ips)
    (blocked : reservedIPs p ⊆ row.ips) :
    Acquired (store.insert (prefixString p) (row.acquireIP (addrString ip)).nextVersion) key addr ↔
      key = prefixString p ∧ addr = ip ∨ Acquired store key addr := by
  obtain rfl | ne := eq_or_ne key (prefixString p)
  · rw [acquired_iff (lookup_insert _), acquired_iff found]
    simp only [acquireIP, nextVersion, Finset.mem_insert, addrString_injective.eq_iff, true_and]
    constructor
    · rintro ⟨isNew | old, notBlocked⟩
      · exact .inl isNew
      · exact .inr ⟨old, notBlocked⟩
    · rintro (rfl | ⟨old, notBlocked⟩)
      · exact ⟨.inl rfl, fun isBlocked => free (blocked isBlocked)⟩
      · exact ⟨.inr old, notBlocked⟩
  · rw [acquired_insert_of_ne ne]
    exact (or_iff_right fun facts => ne facts.1).symm

theorem acquired_releaseIP (ip : τ) :
    Acquired (store.insert (prefixString p) (row.releaseIP ip).nextVersion) key addr ↔
      Acquired store key addr ∧ ¬(prefixString p = key ∧ addrString addr = ip) := by
  obtain rfl | ne := eq_or_ne key (prefixString p)
  · rw [acquired_iff (lookup_insert _), acquired_iff found]
    simp only [releaseIP, nextVersion, Finset.mem_erase, true_and]
    tauto
  · rw [acquired_insert_of_ne ne]
    exact (and_iff_left fun facts => ne facts.1.symm).symm

end Acquired

/-! ## Calls -/

structure Kept (session : Session τ) : Prop where
  sound : Sound (fun _ _ => False) session.store
  handed : ∀ key addr, (key, addr) ∈ session.handedOut ↔ Acquired session.store key addr
  nodup : session.handedOut.Nodup

/-- What a call that runs alone does: it keeps the invariant, and writes nothing where it
reports a lost lock. -/
def Served (session : Session τ) (call : Call τ)
    (outcome : Except IpamError (Response τ) × Store τ) : Prop :=
  (outcome.1 = .error .optimisticLock → outcome.2 = session.store) ∧
    Kept ⟨outcome.2, record session.handedOut call outcome.1⟩

section Calls

variable {session : Session τ} {call : Call τ} {p : IpPrefix} {row : PrefixRow τ}

theorem Kept.refuse (kept : Kept session) (error : IpamError) :
    Served session call (.error error, session.store) :=
  ⟨fun _ => rfl, kept⟩

variable {store : Store τ}

theorem Kept.answer {response : Response τ}
    (kept : Kept ⟨store, record session.handedOut call (.ok response)⟩) :
    Served session call (.ok response, store) := by
  refine ⟨?_, kept⟩
  nofun

theorem Kept.rewrite (kept : Kept session) (sound : Sound (fun _ _ => False) store)
    (same : ∀ key addr, Acquired store key addr ↔ Acquired session.store key addr) :
    Kept ⟨store, session.handedOut⟩ :=
  ⟨sound, fun key addr => (kept.handed key addr).trans (same key addr).symm, kept.nodup⟩

theorem updatePrefix_of_read (found : store.lookup (prefixString p) = some row)
    {new : PrefixRow τ} (cidr : new.cidr = prefixString p) (version : new.version = row.version) :
    store.updatePrefix new = .ok (store.insert (prefixString p) new.nextVersion) := by
  unfold Store.updatePrefix
  rw [cidr, if_neg (prefixString_ne_empty p), found]
  exact if_neg (not_not.mpr version.symm)

variable {ρ : Type}

theorem run_updatePrefix (found : store.lookup (prefixString p) = some row) (new : PrefixRow τ)
    (cidr : new.cidr = prefixString p) (version : new.version = row.version)
    (next : Except UpdateError Unit → Prog τ ρ) :
    (updatePrefix row new next).run store =
      (next (.ok ())).run (store.insert (prefixString p) new.nextVersion) := by
  simp only [run, updatePrefix_of_read found cidr version]

theorem run_prefixFrom (cidr : τ) (next : Option (PrefixRow τ) → Prog τ ρ) (store : Store τ) :
    ((prefixFrom cidr).bind next).run store =
      (next ((parseMasked cidr).bind fun p => store.lookup (prefixString p))).run store := by
  unfold prefixFrom
  cases parseMasked cidr <;> rfl

theorem served_prefixFrom {cidr : τ} {next : Option (PrefixRow τ) → Program τ}
    (absent : Served session call ((next none).run session.store))
    (present : ∀ p row, parseMasked cidr = some p →
      session.store.lookup (prefixString p) = some row →
        Served session call ((next (some row)).run session.store)) :
    Served session call (((prefixFrom cidr).bind next).run session.store) := by
  rw [run_prefixFrom]
  cases read : (parseMasked cidr).bind fun p => session.store.lookup (prefixString p) with
  | none => exact absent
  | some row =>
    obtain ⟨p, parsed, found⟩ := bind_eq_some_iff.mp read
    exact present p row parsed found

variable (kept : Kept session)
include kept

theorem served_newPrefix (cidr : τ) :
    Served session (.newPrefix cidr) ((newPrefix cidr).run session.store) := by
  simp only [newPrefix, run]
  cases created : newPrefixRow cidr empty with
  | error error => exact kept.refuse error
  | ok row =>
    cases parsed : parseMasked cidr with
    | none => exact kept.refuse _
    | some c =>
      simp only
      cases checked : prefixesOverlapping session.store.keys c with
      | error error => exact kept.refuse error
      | ok _ =>
        have apart {q : IpPrefix} (member : prefixString q ∈ session.store) :
            ¬Overlaps q c :=
          prefixesOverlapping_spec checked (mem_keys.mpr member)
        have absent : prefixString c ∉ session.store := fun member =>
          apart member (overlaps_iff.mpr (.inl (laminar_inside.refl c)))
        obtain ⟨isCidr, sound⟩ := sound_createRoot kept.sound (fun q stored => by
          obtain ⟨other, found⟩ := stored_forest.mp stored
          exact apart (lookup_isSome.mp (isSome_of_eq_some found)))
          parsed created
        simp only [run, Store.createPrefix, isCidr, if_neg absent]
        refine (kept.rewrite sound fun key addr => acquired_create absent ?_).answer
        exact (newPrefixRow_spec parsed created).2.2.1

omit kept in
/-- A row is deleted only without addresses and child prefixes. -/
theorem run_deletePrefix (cidr : τ) (store : Store τ) :
    (∃ error, (deletePrefix cidr).run store = (.error error, store)) ∨
      ∃ p row, parseMasked cidr = some p ∧ store.lookup (prefixString p) = some row ∧
        ¬row.hasIPs ∧ ¬0 < row.acquiredPrefixes ∧
        (deletePrefix cidr).run store = (.ok (.row row), store.erase row.cidr) := by
  unfold deletePrefix
  rw [run_prefixFrom]
  cases read : (parseMasked cidr).bind fun p => store.lookup (prefixString p) with
  | none => exact .inl ⟨_, rfl⟩
  | some row =>
    obtain ⟨p, parsed, found⟩ := bind_eq_some_iff.mp read
    simp only
    split
    next => exact .inl ⟨_, rfl⟩
    next noIPs =>
      split
      next => exact .inl ⟨_, rfl⟩
      next noChildren => exact .inr ⟨p, row, parsed, found, noIPs, noChildren, rfl⟩

theorem served_deletePrefix {cidr : τ} (allowed : Allowed session (.deletePrefix cidr)) :
    Served session (.deletePrefix cidr) ((deletePrefix cidr).run session.store) := by
  obtain ⟨error, ran⟩ | ⟨c, row, parsed, found, noIPs, noChildren, ran⟩ :=
    run_deletePrefix cidr session.store
  · rw [ran]
    exact kept.refuse error
  · have rowOk := kept.sound.rowOk found
    have sound := sound_deleteRoot kept.sound found noChildren (allowed c parsed row found)
    rw [ran, rowOk.cidr]
    refine (kept.rewrite sound fun key addr => ?_).answer
    exact acquired_erase found (ips_of_not_hasIPs rowOk noIPs)

omit kept in
/-- A chosen child is marked in its parent and created. -/
theorem run_acquireChildPrefix (sound : Sound (fun _ _ => False) store)
    {parentCidr childCidr : τ} {length : Nat} {c : IpPrefix}
    (parsed : parseMasked parentCidr = some p) (found : store.lookup (prefixString p) = some row)
    (chosen : chooseChild row childCidr length = .ok c) :
    ∃ child after, (acquireChildPrefixInternal parentCidr childCidr length).run store =
        (.ok (.row child), after) ∧ after.lookup (prefixString c) = some child ∧
      child.parentCidr = prefixString p ∧ Sound (fun _ _ => False) after ∧
      ∀ key addr, Acquired after key addr ↔ Acquired store key addr := by
  have rowOk := sound.rowOk found
  have created := newPrefixRow_of_parsed c parsed
  have reserved := sound_acquireChild sound found chosen
  obtain ⟨absent, -, createdSound⟩ := sound_createChild reserved (.inr ⟨rfl, rfl⟩) parsed created
  unfold acquireChildPrefixInternal
  rw [run_prefixFrom, parsed, bind_some, found]
  simp only [chosen]
  rw [run_updatePrefix found (row.acquireChild _) rowOk.cidr rfl]
  simp only [run, created, Store.createPrefix, if_neg absent, reduceIte]
  refine ⟨_, _, rfl, lookup_insert _, rfl, createdSound.congr fun q d => ?_, ?_⟩
  · tauto
  · intro key addr
    rw [acquired_create absent rfl]
    exact acquired_overwrite found (by rfl)

theorem served_acquireChildPrefix (parentCidr childCidr : τ) (length : Nat)
    (unrecorded : ∀ row, record session.handedOut call (.ok (.row row)) = session.handedOut) :
    Served session call
      ((acquireChildPrefixInternal parentCidr childCidr length).run session.store) := by
  refine served_prefixFrom (kept.refuse _) fun p parent parsed found => ?_
  cases chosen : chooseChild parent childCidr length with
  | error error =>
    simp only [chosen]
    exact kept.refuse error
  | ok c =>
    obtain ⟨child, after, ran, -, -, sound, same⟩ :=
      run_acquireChildPrefix kept.sound parsed found chosen
    rw [acquireChildPrefixInternal, run_prefixFrom, parsed, bind_some, found] at ran
    rw [ran]
    apply Kept.answer
    rw [unrecorded]
    exact kept.rewrite sound same

theorem served_releaseChildPrefix {child : PrefixRow τ}
    (allowed : Allowed session (.releaseChildPrefix child)) :
    Served session (.releaseChildPrefix child)
      ((releaseChildPrefixInternal child).run session.store) := by
  refine served_prefixFrom (kept.refuse _) fun p parent parsed foundParent => ?_
  simp only
  split
  next => exact kept.refuse _
  next =>
    rw [run_bind]
    obtain ⟨error, ran⟩ | ⟨c, row, parsedChild, found, noIPs, noChildren, ran⟩ :=
      run_deletePrefix child.cidr session.store
    · rw [ran]
      exact kept.refuse error
    · obtain ⟨same, foundSame, isParent⟩ := allowed
      obtain ⟨d, isCidr, rowOk⟩ := kept.sound.rows foundSame
      rw [isCidr, parseMasked_prefixString] at parsedChild
      cases parsedChild
      rw [isCidr, Option.mem_def, found] at foundSame
      cases foundSame
      have isChild : row.parentCidr = prefixString p := by
        rw [← isParent] at parsed
        exact rowOk.parentCidr_of_parsed parsed
      have deleted := sound_deleteChild kept.sound found noChildren isChild
      have parentLeft : (session.store.erase (prefixString c)).lookup (prefixString p) =
          some parent := by
        refine (lookup_erase_ne fun same => ?_).trans foundParent
        have reserved := kept.sound.reserved_of_parentCidr found isChild
        exact (kept.sound.forest.within reserved).2 (prefixString_injective same).symm
      have sound := sound_releaseChild deleted parentLeft (.inr ⟨rfl, rfl⟩)
      rw [ran, rowOk.cidr, isCidr]
      rw [run_updatePrefix parentLeft (parent.releaseChild _)
        (kept.sound.rowOk foundParent).cidr rfl]
      refine (kept.rewrite (sound.congr fun q d => ?_) fun key addr => ?_).answer
      · tauto
      · rw [← acquired_erase found (ips_of_not_hasIPs rowOk noIPs)]
        exact acquired_overwrite parentLeft (by rfl)

theorem served_acquireSpecificIP (prefixCidr specificIP : τ) :
    Served session call
      ((acquireSpecificIPInternal prefixCidr specificIP).run session.store) := by
  refine served_prefixFrom (kept.refuse _) fun p row parsed found => ?_
  have rowOk := kept.sound.rowOk found
  simp only
  cases chosen : chooseIP row specificIP with
  | error error => exact kept.refuse error
  | ok ip =>
    obtain ⟨-, free, -⟩ := chooseIP_spec rowOk chosen
    rw [run_updatePrefix found (row.acquireIP _) rowOk.cidr rfl]
    simp only [run, rowOk.cidr]
    refine Kept.answer ⟨sound_overwrite_ips kept.sound found (rowOk.acquireIP chosen),
      fun key addr => ?_, ?_⟩
    · rw [acquired_acquireIP found free rowOk.blocked, ← kept.handed]
      simp only [record, List.mem_cons, Prod.mk.injEq]
    · refine List.nodup_cons.mpr ⟨fun handed => ?_, kept.nodup⟩
      exact free ((acquired_iff found).mp ((kept.handed _ _).mp handed)).1

theorem served_releaseIP (prefixCidr ip : τ)
    (recorded : record session.handedOut call (.ok .nothing) =
      release session.handedOut prefixCidr ip) :
    Served session call
      ((releaseIPFromPrefixInternal prefixCidr ip).run session.store) := by
  refine served_prefixFrom (kept.refuse _) fun p row parsed found => ?_
  have rowOk := kept.sound.rowOk found
  simp only
  cases checked : checkRelease row ip with
  | error error => exact kept.refuse error
  | ok _ =>
    rw [run_updatePrefix found (row.releaseIP _) rowOk.cidr rfl]
    apply Kept.answer
    rw [recorded]
    refine ⟨sound_overwrite_ips kept.sound found (rowOk.releaseIP checked),
      fun key addr => ?_, ?_⟩
    · rw [acquired_releaseIP found, ← kept.handed]
      simp only [release, List.mem_filter, parsed, map_some, some_inj,
        decide_eq_true_eq]
    · exact kept.nodup.filter _

omit kept in
theorem run_retryOnOptimisticLock {attempt : Prog τ (Except IpamError ρ)}
    (unchanged : (attempt.run store).1 = .error .optimisticLock → (attempt.run store).2 = store)
    (retries : Nat) :
    (retryOnOptimisticLock attempt retries).run store = attempt.run store := by
  induction retries with
  | zero => rfl
  | succ retries ih =>
    rw [retryOnOptimisticLock, run_bind]
    split
    next lost => rw [unchanged lost, ih]
    next => rfl

theorem served_attempt (allowed : Allowed session call) :
    Served session call (call.attempt.run session.store) := by
  cases call with
  | newPrefix cidr => exact served_newPrefix kept cidr
  | deletePrefix cidr => exact served_deletePrefix kept allowed
  | acquireChildPrefix parentCidr length =>
    exact served_acquireChildPrefix kept parentCidr _ length fun _ => rfl
  | acquireSpecificChildPrefix parentCidr childCidr =>
    exact served_acquireChildPrefix kept parentCidr childCidr _ fun _ => rfl
  | releaseChildPrefix child => exact served_releaseChildPrefix kept allowed
  | acquireIP prefixCidr => exact served_acquireSpecificIP kept prefixCidr _
  | acquireSpecificIP prefixCidr specificIP =>
    exact served_acquireSpecificIP kept prefixCidr specificIP
  | releaseIP parentPrefix addr => exact served_releaseIP kept parentPrefix _ rfl
  | releaseIPFromPrefix prefixCidr ip => exact served_releaseIP kept prefixCidr ip rfl

/-- A client that is alone loses no lock: the first attempt decides. -/
theorem run_program (allowed : Allowed session call) :
    call.program.run session.store = call.attempt.run session.store := by
  have unchanged := (served_attempt kept allowed).1
  cases call with
  | newPrefix | deletePrefix => rfl
  | _ => exact run_retryOnOptimisticLock unchanged 9

theorem kept_serve (allowed : Allowed session call) : Kept (session.serve call) := by
  have served := (served_attempt kept allowed).2
  rwa [← run_program kept allowed] at served

end Calls

/-! ## Runs -/

section Runs

variable {session : Session τ}

/-- A stored prefix that holds an acquired address has no stored prefix inside. -/
theorem Kept.not_inside (kept : Kept session) {p q : IpPrefix} {addr : Addr}
    {row : PrefixRow τ} (stored : (forest session.store).Stored q)
    (acquired : Acquired session.store (prefixString p) addr)
    (found : session.store.lookup (prefixString p) = some row) (ne : q ≠ p) :
    ¬Inside q p := by
  intro inside
  obtain ⟨c, reserved, -⟩ :=
    kept.sound.forest.covered stored (stored_forest.mpr ⟨row, found⟩) ne inside
  have isTaken := (reserved_iff found).mp reserved
  have onlyBlocked := (kept.sound.rowOk found).exclusive ⟨_, mem_taken.mpr isTaken⟩
  obtain ⟨known, notBlocked⟩ := (acquired_iff found).mp acquired
  exact notBlocked (onlyBlocked ▸ known)

theorem Kept.eq_of_acquired (kept : Kept session) {key other : τ} {addr : Addr}
    (left : Acquired session.store key addr) (right : Acquired session.store other addr) :
    key = other := by
  obtain ⟨p, row, rfl, found, known, -⟩ := id left
  obtain ⟨q, otherRow, rfl, otherFound, otherKnown, -⟩ := id right
  by_contra keys
  have ne : p ≠ q := fun same => keys (congrArg _ same)
  have inP := (kept.sound.rowOk found).containsAddr_of_mem known
  have inQ := (kept.sound.rowOk otherFound).containsAddr_of_mem otherKnown
  obtain below | above := overlaps_iff.mp
    ⟨addr.ip, (containsAddr_iff.mp inP).2, (containsAddr_iff.mp inQ).2⟩
  · exact kept.not_inside (stored_forest.mpr ⟨row, found⟩) right otherFound ne below
  · exact kept.not_inside (stored_forest.mpr ⟨otherRow, otherFound⟩) left found ne.symm above

theorem Kept.consistent (kept : Kept session) : Consistent session := by
  have forestSound := kept.sound.forest
  constructor
  case keys =>
    intro key row found
    obtain ⟨p, rfl, rowOk⟩ := kept.sound.rows found
    exact ⟨rowOk.cidr, p, rfl⟩
  case roots =>
    intro p q row other found otherFound isRoot otherRoot ne
    refine apart_iff.mp (forestSound.roots ?_ ?_ ne)
    · exact (parent_eq_iff kept.sound).mpr ⟨row, found, isRoot⟩
    · exact (parent_eq_iff kept.sound).mpr ⟨other, otherFound, otherRoot⟩
  case children =>
    intro c row found notRoot
    obtain ⟨p, isChild⟩ := (kept.sound.rowOk found).parentCidr.resolve_left notRoot
    have reserved := kept.sound.reserved_of_parentCidr found isChild
    obtain ⟨parent, foundParent⟩ := stored_forest.mp (forestSound.stored reserved)
    exact ⟨p, parent, isChild, foundParent, (forestSound.within reserved).1⟩
  case siblings =>
    intro c d row other found otherFound notRoot sameParent ne
    obtain ⟨p, isChild⟩ := (kept.sound.rowOk found).parentCidr.resolve_left notRoot
    have reserved := kept.sound.reserved_of_parentCidr found isChild
    have otherReserved := kept.sound.reserved_of_parentCidr otherFound (sameParent ▸ isChild)
    exact apart_iff.mp (forestSound.siblings reserved otherReserved ne)
  case marks =>
    intro key parent found cidr
    obtain ⟨p, rfl, rowOk⟩ := kept.sound.rows found
    constructor
    · intro isTaken
      obtain ⟨c, rfl⟩ := rowOk.children cidr isTaken
      exact (parent_eq_iff kept.sound).mp
        ((forestSound.owned ⟨parent, found, isTaken⟩).resolve_right id)
    · rintro ⟨row, foundChild, isChild⟩
      obtain ⟨c, rfl, -⟩ := kept.sound.rows foundChild
      exact (reserved_iff found).mp (kept.sound.reserved_of_parentCidr foundChild isChild)
  case exclusive =>
    intro p row found
    exact (kept.sound.rowOk found).exclusive
  case acquired =>
    intro p row found ip known notBlocked
    obtain ⟨addr, rfl, inside⟩ := (kept.sound.rowOk found).within ip known
    exact ⟨addr, rfl, inside, (kept.handed _ _).mpr ((acquired_iff found).mpr ⟨known, notBlocked⟩)⟩
  case handedOut =>
    intro key addr handed
    obtain ⟨p, row, rfl, facts⟩ := (kept.handed key addr).mp handed
    exact ⟨p, row, rfl, facts⟩
  case once =>
    refine kept.nodup.map_on fun left leftMem right rightMem same => ?_
    refine Prod.ext ?_ same
    refine kept.eq_of_acquired ((kept.handed _ _).mp leftMem) ?_
    rw [same]
    exact (kept.handed _ _).mp rightMem

theorem kept_initial : Kept (initial : Session τ) := by
  refine ⟨sound_empty, fun key addr => iff_of_false List.not_mem_nil ?_, List.nodup_nil⟩
  rintro ⟨p, row, -, found, -⟩
  cases found

theorem kept_of_run {calls : List (Call τ)} (allowed : client.Meets Allowed calls initial)
    (ran : client.run calls initial = some session) : Kept session := by
  refine Machine.run_induction Kept ?_ kept_initial allowed ran
  intro call session next kept allowed served
  cases served
  exact kept_serve kept allowed

/-- A client that is alone finds a consistent store, whatever its calls return. -/
theorem consistent_of_run {calls : List (Call τ)} {session : Session τ}
    (allowed : client.Meets Allowed calls initial)
    (ran : client.run calls initial = some session) : Consistent session :=
  (kept_of_run allowed ran).consistent

instance (session : Session τ) : (call : Call τ) → Decidable (Allowed session call)
  | .releaseChildPrefix child => inferInstanceAs (Decidable
      (∃ row ∈ session.store.lookup child.cidr, row.parentCidr = child.parentCidr))
  | .deletePrefix cidr => inferInstanceAs (Decidable
      (∀ p ∈ parseMasked cidr, ∀ row ∈ session.store.lookup (prefixString p),
        row.parentCidr = empty))
  | .newPrefix _ | .acquireChildPrefix .. | .acquireSpecificChildPrefix .. | .acquireIP _
  | .acquireSpecificIP .. | .releaseIP .. | .releaseIPFromPrefix .. => .isTrue trivial

/-! A network is split in two halves: the lower one has addresses, the upper one is released
and acquired again. -/

def network : Spelling := .ipv4 0x0a000000#32 29

def lowerHalf : Spelling := .ipv4 0x0a000000#32 30

def upperHalf : Spelling := .ipv4 0x0a000004#32 30

def upperHalfRow : PrefixRow Spelling where
  cidr := upperHalf
  parentCidr := network
  isParent := false
  availableChildPrefixes := ∅
  ips := (parseMasked upperHalf).elim ∅ reservedIPs
  version := 0

def splitNetwork : List (Call Spelling) :=
  [.newPrefix network, .newPrefix upperHalf, .acquireChildPrefix network 30,
    .acquireSpecificChildPrefix network upperHalf, .acquireIP lowerHalf, .acquireIP lowerHalf,
    .releaseIPFromPrefix lowerHalf (.addr ⟨.v4 0x0a000001#32, none⟩),
    .releaseChildPrefix upperHalfRow, .acquireChildPrefix network 30, .deletePrefix network]

theorem consistent_of_splitNetwork :
    ∃ session, client.run splitNetwork initial = some session ∧ Consistent session := by
  have allowed : client.Meets Allowed splitNetwork initial := by decide +kernel
  obtain ⟨session, ran⟩ : ∃ session, client.run splitNetwork initial = some session :=
    ⟨_, rfl⟩
  exact ⟨session, ran, consistent_of_run allowed ran⟩

end Runs

end Ipam
