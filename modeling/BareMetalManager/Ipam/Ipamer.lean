import BareMetalManager.Ipam.Netip
import Mathlib.Data.Finmap

/-!
# The IPAM and its storage

Rows and the in-memory storage of `rest-api/ipam/memory.go`, for one namespace, and the functions
of `rest-api/ipam/prefix.go`: prefixes with child prefixes or addresses, acquired and released
under optimistic locks. A function is a program of storage calls, which another client may
interleave, and is split into the decision on the rows that it has read and its storage calls. The
sentinel errors are constructors, other errors have their text without the prefixes in it.
-/

namespace Ipam

/-- `Prefix` of `prefix.go`, without the unused child length. The values of `ips` are all
`true`. -/
structure PrefixRow (τ : Type) where
  cidr : τ
  parentCidr : τ
  isParent : Bool
  availableChildPrefixes : Finmap fun _ : τ => Bool
  ips : Finset τ
  version : Nat
  deriving DecidableEq

def PrefixRow.nextVersion {τ : Type} (row : PrefixRow τ) : PrefixRow τ :=
  { row with version := row.version + 1 }

abbrev Store (τ : Type) := Finmap fun _ : τ => PrefixRow τ

inductive UpdateError where
  | notPresent
  | notFound
  | optimisticLock
  deriving DecidableEq, Repr

variable {τ ρ σ : Type} [DecidableEq τ]

namespace Store

def createPrefix (store : Store τ) (row : PrefixRow τ) : Option (Store τ) :=
  if row.cidr ∈ store then none else some (store.insert row.cidr row)

def readPrefix (store : Store τ) (cidr : τ) : Option (PrefixRow τ) := store.lookup cidr

/-- The row is written with the next version if the stored one has its version. -/
def updatePrefix [Netip τ] (store : Store τ) (row : PrefixRow τ) :
    Except UpdateError (Store τ) :=
  if row.cidr = Netip.empty then .error .notPresent
  else
    match store.lookup row.cidr with
    | none => .error .notFound
    | some oldPrefix =>
      if oldPrefix.version ≠ row.version then .error .optimisticLock
      else .ok (store.insert row.cidr row.nextVersion)

theorem updatePrefix_cases [Netip τ] (store : Store τ) (row : PrefixRow τ) :
    (∃ error, store.updatePrefix row = .error error) ∨
      ∃ oldPrefix, store.lookup row.cidr = some oldPrefix ∧ oldPrefix.version = row.version ∧
        store.updatePrefix row = .ok (store.insert row.cidr row.nextVersion) := by
  unfold updatePrefix
  split
  next => exact .inl ⟨_, rfl⟩
  next =>
    cases found : store.lookup row.cidr with
    | none => exact .inl ⟨_, rfl⟩
    | some oldPrefix =>
      simp only
      split
      next => exact .inl ⟨_, rfl⟩
      next same => exact .inr ⟨oldPrefix, rfl, not_not.mp same, rfl⟩

/-- The row is deleted, whatever its version. -/
def deletePrefix (store : Store τ) (row : PrefixRow τ) : Store τ := store.erase row.cidr

end Store

/-- A program of storage calls. An update carries the row that was read besides the one to be
written. -/
inductive Prog (τ ρ : Type) where
  | done (result : ρ)
  | readAllPrefixCidrs (next : Finset τ → Prog τ ρ)
  | readPrefix (cidr : τ) (next : Option (PrefixRow τ) → Prog τ ρ)
  | createPrefix (row : PrefixRow τ) (next : Bool → Prog τ ρ)
  | updatePrefix (read row : PrefixRow τ) (next : Except UpdateError Unit → Prog τ ρ)
  | deletePrefix (row : PrefixRow τ) (next : Prog τ ρ)

namespace Prog

def bind : Prog τ ρ → (ρ → Prog τ σ) → Prog τ σ
  | done result, continuation => continuation result
  | readAllPrefixCidrs next, continuation =>
    readAllPrefixCidrs fun cidrs => (next cidrs).bind continuation
  | readPrefix cidr next, continuation => readPrefix cidr fun row => (next row).bind continuation
  | createPrefix row next, continuation =>
    createPrefix row fun created => (next created).bind continuation
  | updatePrefix read row next, continuation =>
    updatePrefix read row fun updated => (next updated).bind continuation
  | deletePrefix row next, continuation => deletePrefix row (next.bind continuation)

instance : Monad (Prog τ) where
  pure := done
  bind := bind

variable [Netip τ]

def step : Prog τ ρ → Store τ → Prog τ ρ × Store τ
  | done result, store => (done result, store)
  | readAllPrefixCidrs next, store => (next store.keys, store)
  | readPrefix cidr next, store => (next (store.readPrefix cidr), store)
  | createPrefix row next, store =>
    match store.createPrefix row with
    | none => (next false, store)
    | some created => (next true, created)
  | updatePrefix _ row next, store =>
    match store.updatePrefix row with
    | .error error => (next (.error error), store)
    | .ok updated => (next (.ok ()), updated)
  | deletePrefix row next, store => (next, store.deletePrefix row)

def run : Prog τ ρ → Store τ → ρ × Store τ
  | done result, store => (result, store)
  | readAllPrefixCidrs next, store => (next store.keys).run store
  | readPrefix cidr next, store => (next (store.readPrefix cidr)).run store
  | createPrefix row next, store =>
    match store.createPrefix row with
    | none => (next false).run store
    | some created => (next true).run created
  | updatePrefix _ row next, store =>
    match store.updatePrefix row with
    | .error error => (next (.error error)).run store
    | .ok updated => (next (.ok ())).run updated
  | deletePrefix row next, store => next.run (store.deletePrefix row)

theorem run_bind (program : Prog τ ρ) (continuation : ρ → Prog τ σ) (store : Store τ) :
    (program.bind continuation).run store =
      (continuation (program.run store).1).run (program.run store).2 := by
  induction program generalizing store with
  | done result => rfl
  | readAllPrefixCidrs next ih | readPrefix cidr next ih => exact ih _ _
  | createPrefix row next ih =>
    simp only [bind, run]
    cases store.createPrefix row <;> exact ih _ _
  | updatePrefix read row next ih =>
    simp only [bind, run]
    cases store.updatePrefix row <;> exact ih _ _
  | deletePrefix row next ih => exact ih _

end Prog

/-! ## The functions of the IPAM -/

open Network Netip

inductive IpamError where
  | notFound
  | alreadyAllocated
  | noIPAvailable
  | optimisticLock
  | refused (reason : String)
  deriving DecidableEq, Repr

/-- What a call returns: a prefix, an address with its prefix, or nothing. -/
inductive Response (τ : Type) where
  | row (row : PrefixRow τ)
  | ip (parentPrefix : τ) (addr : Addr)
  | nothing

abbrev Program (τ : Type) := Prog τ (Except IpamError (Response τ))

/-! ## Rows -/

namespace PrefixRow

variable (row : PrefixRow τ)

/-- The child prefixes that are not available. -/
def taken : Finset τ :=
  row.availableChildPrefixes.keys.filter fun cidr =>
    row.availableChildPrefixes.lookup cidr = some false

variable {row} in
theorem mem_taken {cidr : τ} :
    cidr ∈ row.taken ↔ row.availableChildPrefixes.lookup cidr = some false := by
  rw [taken, Finset.mem_filter, Finmap.mem_keys, ← Finmap.lookup_isSome]
  refine and_iff_right_of_imp fun found => ?_
  rw [found]
  rfl

/-- `acquiredPrefixes`. -/
def acquiredPrefixes : Nat := row.taken.card

def acquireChild (child : τ) : PrefixRow τ :=
  { row with
    availableChildPrefixes := row.availableChildPrefixes.insert child false
    isParent := true }

def releaseChild (child : τ) : PrefixRow τ :=
  { row with availableChildPrefixes := row.availableChildPrefixes.insert child true }

def acquireIP (ip : τ) : PrefixRow τ := { row with ips := insert ip row.ips }

def releaseIP (ip : τ) : PrefixRow τ := { row with ips := row.ips.erase ip }

variable {row}

theorem lookup_of_releaseChild {cidr child : τ}
    (isTaken : (row.releaseChild child).availableChildPrefixes.lookup cidr = some false) :
    row.availableChildPrefixes.lookup cidr = some false := by
  simp only [releaseChild] at isTaken
  obtain rfl | other := eq_or_ne cidr child
  · rw [Finmap.lookup_insert] at isTaken
    cases isTaken
  · exact (Finmap.lookup_insert_of_ne _ other).symm.trans isTaken

theorem taken_of_releaseChild {child : τ}
    (nonempty : (row.releaseChild child).nextVersion.taken.Nonempty) : row.taken.Nonempty := by
  obtain ⟨cidr, isTaken⟩ := nonempty
  exact ⟨cidr, mem_taken.mpr (lookup_of_releaseChild (mem_taken.mp isTaken))⟩

end PrefixRow

variable [Netip τ]

/-- The blocked addresses: the first one, and the broadcast address of IPv4. -/
def reservedIPs (p : IpPrefix) : Finset τ :=
  insert (addrString (rangeFrom p))
    (if p.addressFamily = .ipv4 then {addrString (rangeTo p)} else ∅)

/-- `hasIPs`. -/
def PrefixRow.hasIPs (row : PrefixRow τ) : Bool :=
  match parseMasked row.cidr with
  | none => false
  | some p =>
    match p.addressFamily with
    | .ipv4 => 2 < row.ips.card
    | .ipv6 => 1 < row.ips.card

/-- `newPrefix`. -/
def newPrefixRow (cidr parentCidr : τ) : Except IpamError (PrefixRow τ) :=
  match parseMasked cidr with
  | none => .error (.refused "unable to parse cidr")
  | some p =>
    let row parentCidr : PrefixRow τ :=
      { cidr := prefixString p
        parentCidr
        isParent := false
        availableChildPrefixes := ∅
        ips := reservedIPs p
        version := 0 }
    if parentCidr = empty then .ok (row parentCidr)
    else
      match parseMasked parentCidr with
      | none => .error (.refused "unable to parse parent cidr")
      | some parent => .ok (row (prefixString parent))

/-- `PrefixFrom`. -/
def prefixFrom (cidr : τ) : Prog τ (Option (PrefixRow τ)) :=
  match parseMasked cidr with
  | none => .done none
  | some p => .readPrefix (prefixString p) .done

/-- `retryOnOptimisticLock`, with the number of further attempts. -/
def retryOnOptimisticLock {ρ : Type} (attempt : Prog τ (Except IpamError ρ)) :
    (retries : Nat) → Prog τ (Except IpamError ρ)
  | 0 => attempt
  | retries + 1 => attempt.bind fun result =>
    match result with
    | .error .optimisticLock => retryOnOptimisticLock attempt retries
    | result => .done result

/-! ## Prefixes -/

/-- `PrefixesOverlapping` for one new prefix. -/
def prefixesOverlapping (existingPrefixes : Finset τ) (new : IpPrefix) : Except IpamError Unit :=
  if ∃ cidr ∈ existingPrefixes, parseMasked cidr = none then
    .error (.refused "parsing prefix failed")
  else if ∃ cidr ∈ existingPrefixes, ∃ existing ∈ parseMasked cidr, Overlaps existing new then
    .error (.refused "overlaps")
  else .ok ()

/-- `NewPrefix`. -/
def newPrefix (cidr : τ) : Program τ :=
  .readAllPrefixCidrs fun existingPrefixes =>
    match newPrefixRow cidr empty, parseMasked cidr with
    | .error error, _ => .done (.error error)
    | .ok _, none => .done (.error (.refused "parsing prefix failed"))
    | .ok row, some p =>
      match prefixesOverlapping existingPrefixes p with
      | .error error => .done (.error error)
      | .ok () => .createPrefix row fun created =>
        .done (if created then .ok (.row row) else .error (.refused "prefix already created"))

/-- `DeletePrefix`. -/
def deletePrefix (cidr : τ) : Program τ :=
  (prefixFrom cidr).bind fun found =>
    match found with
    | none => .done (.error .notFound)
    | some row =>
      if row.hasIPs then .done (.error (.refused "prefix has ips, delete prefix not possible"))
      else if 0 < row.acquiredPrefixes then
        .done (.error (.refused
          "prefix has allocated child prefixes, delete prefix not possible"))
      else .deletePrefix row (.done (.ok (.row row)))

/-- The checks of `acquireChildPrefixInternal` on the parent. They give the prefixes that are
removed from its addresses. -/
def checkParent (parent : PrefixRow τ) (ipnet : IpPrefix) (length : Nat) :
    Except IpamError (Finset IpPrefix) :=
  if length ≤ ipnet.prefixLength then
    .error (.refused "given length must be greater than prefix length")
  else if parent.hasIPs then
    .error (.refused "prefix has ips, acquire child prefix not possible")
  else if ∃ cidr ∈ parent.taken, parseMasked cidr = none then .error (.refused "ParsePrefix")
  else .ok (parent.taken.image parseMasked).eraseNone

/-- The choice of `acquireChildPrefixInternal`, where an empty text is no specific child. -/
def chooseChild (parent : PrefixRow τ) (childCidr : τ) (length : Nat) :
    Except IpamError IpPrefix :=
  match parseMasked parent.cidr with
  | none => .error (.refused "ParsePrefix")
  | some ipnet =>
    if childCidr = empty then do
      let removed ← checkParent parent ipnet length
      match removeFreePrefix τ ipnet removed length with
      | none => .error (.refused "no prefix found")
      | some cp => .ok cp
    else
      match parseMasked childCidr with
      | none => .error (.refused "ParsePrefix")
      | some childnet => do
          let removed ← checkParent parent ipnet childnet.prefixLength
          if containsPrefix τ ipnet removed childnet then .ok childnet
          else .error (.refused "specific prefix is not available")

/-- `acquireChildPrefixInternal`. -/
def acquireChildPrefixInternal (parentCidr childCidr : τ) (length : Nat) : Program τ :=
  (prefixFrom parentCidr).bind fun found =>
    match found with
    | none => .done (.error (.refused "unable to find prefix for cidr"))
    | some parent =>
      match chooseChild parent childCidr length with
      | .error error => .done (.error error)
      | .ok cp => .updatePrefix parent (parent.acquireChild (prefixString cp)) fun updated =>
        match updated with
        | .error .optimisticLock => .done (.error .optimisticLock)
        | .error _ => .done (.error (.refused "unable to update parent prefix"))
        | .ok () =>
          match newPrefixRow (prefixString cp) parentCidr with
          | .error error => .done (.error error)
          | .ok child => .createPrefix child fun created =>
            .done (if created then .ok (.row child)
              else .error (.refused "unable to update parent prefix"))

/-- `releaseChildPrefixInternal`. -/
def releaseChildPrefixInternal (child : PrefixRow τ) : Program τ :=
  (prefixFrom child.parentCidr).bind fun found =>
    match found with
    | none => .done (.error (.refused "prefix is no child prefix"))
    | some parent =>
      if 2 < child.ips.card then
        .done (.error (.refused "prefix has ips, deletion not possible"))
      else (deletePrefix child.cidr).bind fun deleted =>
        match deleted with
        | .error error => .done (.error error)
        | .ok _ => .updatePrefix parent (parent.releaseChild child.cidr) fun updated =>
          match updated with
          | .error .optimisticLock => .done (.error .optimisticLock)
          | .error _ => .done (.error (.refused "unable to release prefix"))
          | .ok () => .done (.ok .nothing)

/-! ## Addresses -/

/-- The loop of `acquireSpecificIPInternal`, with the number of addresses left. -/
def findIP (p : IpPrefix) (ips : Finset τ) (specificIP : Option Addr) :
    (remaining value : Nat) → Option Addr
  | 0, _ => none
  | remaining + 1, value =>
    let ip : Addr := ⟨p.intoInner.addrAt value, none⟩
    if addrString ip ∉ ips ∧ (specificIP = none ∨ specificIP = some ip) then some ip
    else findIP p ips specificIP remaining (value + 1)

/-- The choice of `acquireSpecificIPInternal` on the prefix. -/
def chooseIP (row : PrefixRow τ) (specificIP : τ) : Except IpamError Addr :=
  if row.isParent then .error (.refused "prefix has childprefixes, acquire ip not possible")
  else
    match parseMasked row.cidr with
    | none => .error (.refused "ParsePrefix")
    | some ipnet =>
      let next (specificIP : Option Addr) (startIP : Nat) : Except IpamError Addr :=
        match findIP ipnet row.ips specificIP (ipnet.block.last + 1 - startIP) startIP with
        | none => .error .noIPAvailable
        | some ip => .ok ip
      if specificIP = empty then next none ipnet.block.first
      else
        match parseAddr specificIP with
        | none => .error (.refused "given ip in not valid")
        | some specificIPnet =>
          if !containsAddr ipnet specificIPnet then .error (.refused "given ip is not in")
          else if addrString specificIPnet ∈ row.ips then .error .alreadyAllocated
          else next (some specificIPnet) specificIPnet.ip.bits

/-- `acquireSpecificIPInternal`. -/
def acquireSpecificIPInternal (prefixCidr specificIP : τ) : Program τ :=
  (prefixFrom prefixCidr).bind fun found =>
    match found with
    | none => .done (.error .notFound)
    | some row =>
      match chooseIP row specificIP with
      | .error error => .done (.error error)
      | .ok ip =>
        .updatePrefix row (row.acquireIP (addrString ip)) fun updated =>
          match updated with
          | .error .optimisticLock => .done (.error .optimisticLock)
          | .error _ => .done (.error (.refused "unable to persist acquired ip"))
          | .ok () => .done (.ok (.ip row.cidr ip))

/-- The key of an address that is to be released. -/
def releaseKey (ip : τ) : τ := (parseAddr ip).elim ip addrString

/-- The checks of `releaseIPFromPrefixInternal`. -/
def checkRelease (row : PrefixRow τ) (ip : τ) : Except IpamError Unit :=
  if releaseKey ip ∉ row.ips then .error .notFound
  else
    match parseMasked row.cidr with
    | none => .error (.refused "ParsePrefix")
    | some ipnet =>
      if parseAddr ip = some (rangeFrom ipnet) ∨
          ipnet.addressFamily = .ipv4 ∧ parseAddr ip = some (rangeTo ipnet) then
        .error (.refused "unable to release ip because it is reserved")
      else .ok ()

/-- `releaseIPFromPrefixInternal`. -/
def releaseIPFromPrefixInternal (prefixCidr ip : τ) : Program τ :=
  (prefixFrom prefixCidr).bind fun found =>
    match found with
    | none => .done (.error .notFound)
    | some row =>
      match checkRelease row ip with
      | .error error => .done (.error error)
      | .ok () =>
        .updatePrefix row (row.releaseIP (releaseKey ip)) fun updated =>
          match updated with
          | .error .optimisticLock => .done (.error .optimisticLock)
          | .error _ => .done (.error (.refused "unable to release ip"))
          | .ok () => .done (.ok .nothing)

/-! ## Calls -/

/-- The functions of `Ipamer` that write. `ReleaseIP` also reads the prefix for its result. -/
inductive Call (τ : Type) where
  | newPrefix (cidr : τ)
  | deletePrefix (cidr : τ)
  | acquireChildPrefix (parentCidr : τ) (length : Nat)
  | acquireSpecificChildPrefix (parentCidr childCidr : τ)
  | releaseChildPrefix (child : PrefixRow τ)
  | acquireIP (prefixCidr : τ)
  | acquireSpecificIP (prefixCidr specificIP : τ)
  | releaseIP (parentPrefix : τ) (addr : Addr)
  | releaseIPFromPrefix (prefixCidr ip : τ)

def Call.attempt : Call τ → Program τ
  | newPrefix cidr => Ipam.newPrefix cidr
  | deletePrefix cidr => Ipam.deletePrefix cidr
  | acquireChildPrefix parentCidr length =>
    acquireChildPrefixInternal parentCidr empty length
  | acquireSpecificChildPrefix parentCidr childCidr =>
    acquireChildPrefixInternal parentCidr childCidr 0
  | releaseChildPrefix child => releaseChildPrefixInternal child
  | acquireIP prefixCidr => acquireSpecificIPInternal prefixCidr empty
  | acquireSpecificIP prefixCidr specificIP => acquireSpecificIPInternal prefixCidr specificIP
  | releaseIP parentPrefix addr => releaseIPFromPrefixInternal parentPrefix (addrString addr)
  | releaseIPFromPrefix prefixCidr ip => releaseIPFromPrefixInternal prefixCidr ip

/-- The program of a call: `NewPrefix` and `DeletePrefix` are not retried, the others are tried
ten times. -/
def Call.program : Call τ → Program τ
  | newPrefix cidr => (newPrefix cidr).attempt
  | deletePrefix cidr => (deletePrefix cidr).attempt
  | call => retryOnOptimisticLock call.attempt 9

end Ipam
