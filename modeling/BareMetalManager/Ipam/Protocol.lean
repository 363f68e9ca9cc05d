import BareMetalManager.Ipam.OneClient

/-!
# The storage calls of a client

Other clients write between the storage calls of a call, so a call is followed from one
storage call to the next. In between a client may hold a reservation: it has marked a child in
its parent and not yet created it, or it has deleted a child and not yet withdrawn the mark.
-/

namespace Ipam

open Network Session

variable {τ : Type} [DecidableEq τ] [Netip τ]

/-- A reservation that a client holds: the parent and the child. -/
abbrev Pending := IpPrefix × IpPrefix

/-- What a call does next, with the reservation that its client holds. Nothing is said of the
answers that the client cannot get while it holds one. -/
inductive Follows (call : Call τ) :
    Option Pending → Program τ → Prop where
  | done {result} (unrecorded : ∀ handedOut, record handedOut call result = handedOut) :
      Follows call none (.done result)
  | read {p next} (follows : ∀ found, (∀ row ∈ found, RowOk p row) →
      Follows call none (next found)) :
      Follows call none (.readPrefix (prefixString p) next)
  | acquireChild {p c childCidr length read next} (rowOk : RowOk p read)
      (chosen : chooseChild read childCidr length = .ok c)
      (lost : ∀ error, Follows call none (next (.error error)))
      (won : Follows call (some (p, c)) (next (.ok ()))) :
      Follows call none (.updatePrefix read (read.acquireChild (prefixString c)) next)
  | createChild {p c parentCidr row next} (parsed : parseMasked parentCidr = some p)
      (created : newPrefixRow (prefixString c) parentCidr = .ok row)
      (won : Follows call none (next true)) :
      Follows call (some (p, c)) (.createPrefix row next)
  | deleteRoot {c row next} (rowOk : RowOk c row) (noIPs : ¬row.hasIPs)
      (noChildren : ¬0 < row.acquiredPrefixes)
      (isDelete : ∀ child, call ≠ .releaseChildPrefix child)
      (after : Follows call none next) :
      Follows call none (.deletePrefix row next)
  | deleteChild {p c child row next} (rowOk : RowOk c row) (noIPs : ¬row.hasIPs)
      (noChildren : ¬0 < row.acquiredPrefixes) (isRelease : call = .releaseChildPrefix child)
      (parsed : parseMasked child.parentCidr = some p)
      (after : child.cidr = prefixString c → Follows call (some (p, c)) next) :
      Follows call none (.deletePrefix row next)
  | releaseChild {p c child read next} (rowOk : RowOk p read)
      (isRelease : call = .releaseChildPrefix child) (won : Follows call none (next (.ok ()))) :
      Follows call (some (p, c)) (.updatePrefix read (read.releaseChild (prefixString c)) next)
  | acquireIP {p specificIP ip read next} (rowOk : RowOk p read)
      (chosen : chooseIP read specificIP = .ok ip)
      (lost : ∀ error, Follows call none (next (.error error)))
      (won : next (.ok ()) = .done (.ok (.ip read.cidr ip))) :
      Follows call none (.updatePrefix read (read.acquireIP (addrString ip)) next)
  | releaseIP {p prefixCidr ip read next} (rowOk : RowOk p read)
      (checked : checkRelease read ip = .ok ()) (parsed : parseMasked prefixCidr = some p)
      (lost : ∀ error, Follows call none (next (.error error)))
      (won : next (.ok ()) = .done (.ok .nothing))
      (recorded : ∀ handedOut, record handedOut call (.ok .nothing) =
        release handedOut prefixCidr ip) :
      Follows call none (.updatePrefix read (read.releaseIP (releaseKey ip)) next)

namespace Follows

variable {call : Call τ} {mode : Option Pending}
  {program : Program τ}

theorem error (error : IpamError) : Follows call none (.done (.error error)) := done fun _ => rfl

theorem retry (follows : Follows call mode program)
    {next : Except IpamError (Response τ) → Program τ}
    (again : Follows call none (next (.error .optimisticLock)))
    (other : ∀ result, result ≠ .error .optimisticLock → next result = .done result) :
    Follows call mode (program.bind next) := by
  induction follows with
  | @done result unrecorded =>
    simp only [Prog.bind]
    by_cases lost : result = .error .optimisticLock
    · rwa [lost]
    · rw [other result lost]
      exact done unrecorded
  | read _ ih =>
    apply read
    exact ih
  | acquireChild rowOk chosen _ _ lostIH wonIH => exact acquireChild rowOk chosen lostIH wonIH
  | createChild parsed created _ ih => exact createChild parsed created ih
  | deleteRoot rowOk noIPs noChildren isDelete _ ih =>
    exact deleteRoot rowOk noIPs noChildren isDelete ih
  | deleteChild rowOk noIPs noChildren isRelease parsed _ ih =>
    exact deleteChild rowOk noIPs noChildren isRelease parsed ih
  | releaseChild rowOk isRelease _ ih => exact releaseChild rowOk isRelease ih
  | acquireIP rowOk chosen _ won lostIH =>
    apply acquireIP rowOk chosen lostIH
    rw [won]
    exact other _ (by simp)
  | releaseIP rowOk checked parsed _ won recorded lostIH =>
    refine releaseIP rowOk checked parsed lostIH ?_ recorded
    rw [won]
    exact other _ (by simp)

theorem retryOnOptimisticLock (follows : Follows call none program) (retries : Nat) :
    Follows call none (Ipam.retryOnOptimisticLock program retries) := by
  induction retries with
  | zero => exact follows
  | succ retries ih =>
    apply follows.retry ih
    intro result notLost
    split
    next => exact absurd rfl notLost
    next => rfl

theorem prefixFrom {cidr : τ} {next : Option (PrefixRow τ) → Program τ}
    (missing : Follows call none (next none))
    (found : ∀ p row, parseMasked cidr = some p → RowOk p row →
      Follows call none (next (some row))) :
    Follows call none ((Ipam.prefixFrom cidr).bind next) := by
  unfold Ipam.prefixFrom
  cases parsed : parseMasked cidr with
  | none => exact missing
  | some p =>
    apply read
    intro row rowOk
    cases row with
    | none => exact missing
    | some row => exact found p row parsed (rowOk row rfl)

end Follows

/-! ## The calls -/

theorem follows_deletePrefix (cidr : τ) :
    Follows (.deletePrefix cidr) none (deletePrefix cidr) := by
  apply Follows.prefixFrom
  · exact .error _
  · intro p row parsed rowOk
    simp only
    split
    next => exact .error _
    next noIPs =>
      split
      next => exact .error _
      next noChildren =>
        exact .deleteRoot rowOk noIPs noChildren (fun child => by simp) (.done fun _ => rfl)

variable {call : Call τ}

theorem follows_acquireChildPrefix (parentCidr childCidr : τ) (length : Nat)
    (unrecorded : ∀ handedOut row, record handedOut call (.ok (.row row)) = handedOut) :
    Follows call none (acquireChildPrefixInternal parentCidr childCidr length) := by
  apply Follows.prefixFrom
  · exact .error _
  · intro p parent parsed rowOk
    simp only
    cases chosen : chooseChild parent childCidr length with
    | error error => exact .error _
    | ok c =>
      apply Follows.acquireChild rowOk chosen
      · intro error
        cases error <;> exact .error _
      · simp only [newPrefixRow_of_parsed c parsed]
        apply Follows.createChild parsed (newPrefixRow_of_parsed c parsed)
        exact .done fun handedOut => unrecorded handedOut _

theorem follows_releaseChildPrefix (child : PrefixRow τ) :
    Follows (.releaseChildPrefix child) none (releaseChildPrefixInternal child) := by
  apply Follows.prefixFrom
  · exact .error _
  · intro p parent parsed parentOk
    simp only
    split
    next => exact .error _
    next =>
      unfold deletePrefix prefixFrom
      cases parsedChild : parseMasked child.cidr with
      | none => exact .error _
      | some c =>
        apply Follows.read
        intro found rowOk
        cases found with
        | none => exact .error _
        | some row =>
          simp only [Prog.bind]
          split
          next => exact .error _
          next noIPs =>
            split
            next => exact .error _
            next noChildren =>
              apply Follows.deleteChild (rowOk row rfl) noIPs noChildren rfl parsed
              intro isCidr
              simp only [Prog.bind, isCidr]
              exact .releaseChild parentOk rfl (.done fun _ => rfl)

theorem follows_acquireSpecificIP (prefixCidr specificIP : τ) :
    Follows call none (acquireSpecificIPInternal prefixCidr specificIP) := by
  apply Follows.prefixFrom
  · exact .error _
  · intro p row parsed rowOk
    simp only
    cases chosen : chooseIP row specificIP with
    | error error => exact .error _
    | ok ip =>
      refine .acquireIP rowOk chosen (fun error => ?_) rfl
      cases error <;> exact .error _

theorem follows_releaseIP (prefixCidr ip : τ)
    (recorded : ∀ handedOut, record handedOut call (.ok .nothing) =
      release handedOut prefixCidr ip) :
    Follows call none (releaseIPFromPrefixInternal prefixCidr ip) := by
  apply Follows.prefixFrom
  · exact .error _
  · intro p row parsed rowOk
    simp only
    cases checked : checkRelease row ip with
    | error error => exact .error _
    | ok _ =>
      refine .releaseIP rowOk checked parsed (fun error => ?_) rfl recorded
      cases error <;> exact .error _

theorem follows_program (other : ∀ cidr, call ≠ .newPrefix cidr) :
    Follows call none call.program := by
  cases call with
  | newPrefix cidr => exact absurd rfl (other cidr)
  | deletePrefix cidr => exact follows_deletePrefix cidr
  | acquireChildPrefix parentCidr length =>
    apply Follows.retryOnOptimisticLock
    exact follows_acquireChildPrefix parentCidr _ length fun _ _ => rfl
  | acquireSpecificChildPrefix parentCidr childCidr =>
    apply Follows.retryOnOptimisticLock
    exact follows_acquireChildPrefix parentCidr childCidr _ fun _ _ => rfl
  | releaseChildPrefix child =>
    apply Follows.retryOnOptimisticLock
    exact follows_releaseChildPrefix child
  | acquireIP prefixCidr =>
    apply Follows.retryOnOptimisticLock
    exact follows_acquireSpecificIP prefixCidr _
  | acquireSpecificIP prefixCidr specificIP =>
    apply Follows.retryOnOptimisticLock
    exact follows_acquireSpecificIP prefixCidr specificIP
  | releaseIP parentPrefix addr =>
    apply Follows.retryOnOptimisticLock
    exact follows_releaseIP parentPrefix _ fun _ => rfl
  | releaseIPFromPrefix prefixCidr ip =>
    apply Follows.retryOnOptimisticLock
    exact follows_releaseIP prefixCidr ip fun _ => rfl

end Ipam
