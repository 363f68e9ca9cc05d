import Mathlib.Tactic.Linarith

/-!
# Exclusive locks

Locks by key, each held by at most one owner until the owner releases everything it holds, as in a
database transaction. An owner may take a lock it holds again, and waits for the owner of any
other. If every owner asks for locks in ascending order of a rank, no owners wait for each other
in a cycle.
-/

/-- The owner of each lock that is held. -/
abbrev Locks (κ π : Type*) := κ → Option π

namespace Locks

open Function Option

variable {κ π ρ : Type*} [DecidableEq κ] [DecidableEq π]

def free : Locks κ π := fun _ => none

variable (locks : Locks κ π) (owner : π) (key : κ)

/-- Take a lock, unless another owner holds it. -/
def acquire? : Option (Locks κ π) :=
  if locks key = none ∨ locks key = some owner then some (update locks key (some owner))
  else none

def release : Locks κ π := fun key =>
  if locks key = some owner then none else locks key

def releaseKey : Locks κ π := update locks key none

variable {locks next : Locks κ π} {owner other : π} {key held : κ}

theorem acquire?_eq_some : locks.acquire? owner key = some next ↔
    (locks key = none ∨ locks key = some owner) ∧ update locks key (some owner) = next := by
  rw [acquire?, ite_none_right_eq_some, some.injEq]

section

variable (acquired : locks.acquire? owner key = some next)
include acquired

theorem acquire?_holds : next key = some owner := by
  obtain ⟨-, rfl⟩ := acquire?_eq_some.mp acquired
  exact update_self ..

theorem holds_of_acquire? (holds : locks held = some other) : next held = some other := by
  obtain ⟨available, rfl⟩ := acquire?_eq_some.mp acquired
  by_cases same : held = key
  · subst same
    rw [holds] at available
    obtain none | mine := available
    · cases none
    · rw [mine, update_self]
  · rw [update_of_ne same, holds]

/-- A lock that an owner has after taking one is that one, or the owner had it before. -/
theorem holds_of_acquire?_eq_some (holds : next held = some other) :
    held = key ∧ other = owner ∨ locks held = some other := by
  obtain ⟨-, rfl⟩ := acquire?_eq_some.mp acquired
  by_cases same : held = key
  · subst same
    rw [update_self] at holds
    exact .inl ⟨rfl, (some.inj holds).symm⟩
  · rw [update_of_ne same] at holds
    exact .inr holds

end

omit [DecidableEq κ] in
theorem holds_release (ne : other ≠ owner) (holds : locks held = some other) :
    locks.release owner held = some other := by
  rw [release, if_neg]
  · exact holds
  · rw [holds]
    exact fun same => ne (some.inj same)

omit [DecidableEq κ] in
theorem holds_of_release (holds : locks.release owner held = some other) :
    other ≠ owner ∧ locks held = some other := by
  unfold release at holds
  split at holds
  next => cases holds
  next notOwner => exact ⟨fun same => notOwner (same ▸ holds), holds⟩

omit [DecidableEq π] in
/-- A lock that is held after one was given back is another one, and was held before. -/
theorem holds_of_releaseKey (holds : locks.releaseKey key held = some owner) :
    held ≠ key ∧ locks held = some owner := by
  have ne : held ≠ key := by
    rintro rfl
    rw [releaseKey, update_self] at holds
    cases holds
  rw [releaseKey, update_of_ne ne] at holds
  exact ⟨ne, holds⟩

/-! ## Waiting -/

omit [DecidableEq κ] [DecidableEq π]

def WaitsFor (locks : Locks κ π) (awaits : π → Option κ) (owner other : π) : Prop :=
  owner ≠ other ∧ ∃ key, awaits owner = some key ∧ locks key = some other

variable {awaits : π → Option κ} [Preorder ρ] (rank : κ → ρ)

/-- The lock that an owner waits for ranks above those it holds. -/
def Ordered (locks : Locks κ π) (awaits : π → Option κ) : Prop :=
  ∀ owner key held, awaits owner = some key → locks held = some owner → held ≠ key →
    rank held < rank key

variable {rank} (ordered : Ordered rank locks awaits) {first last next : π}
include ordered

/-- An owner that others wait for waits for a lock above theirs. -/
theorem Ordered.rank_lt_of_waits (awaited : awaits first = some key)
    (edge : locks.WaitsFor awaits first last) (waits : locks.WaitsFor awaits last next) :
    ∃ above, awaits last = some above ∧ rank key < rank above := by
  obtain ⟨-, wanted, wants, held⟩ := edge
  obtain rfl : key = wanted := some.inj (awaited.symm.trans wants)
  obtain ⟨ne, above, awaitsAbove, heldAbove⟩ := waits
  refine ⟨above, awaitsAbove, ordered last above key awaitsAbove held ?_⟩
  rintro rfl
  exact ne (some.inj (held.symm.trans heldAbove))

/-- Along a chain of waiting owners the awaited locks ascend. -/
theorem Ordered.rank_lt (chain : Relation.TransGen (locks.WaitsFor awaits) first last)
    (awaited : awaits first = some key) (waits : locks.WaitsFor awaits last next) :
    ∃ above, awaits last = some above ∧ rank key < rank above := by
  induction chain generalizing next with
  | single edge => exact ordered.rank_lt_of_waits awaited edge waits
  | tail _ edge ih =>
    obtain ⟨wanted, wants, less⟩ := ih edge
    obtain ⟨above, awaitsAbove, more⟩ := ordered.rank_lt_of_waits wants edge waits
    exact ⟨above, awaitsAbove, less.trans more⟩

/-- No owner waits for itself, directly or through other owners. -/
theorem Ordered.no_cycle (owner : π) : ¬ Relation.TransGen (locks.WaitsFor awaits) owner owner := by
  intro cycle
  obtain ⟨next, edge, -⟩ := Relation.TransGen.head'_iff.mp cycle
  obtain ⟨-, key, awaited, -⟩ := id edge
  obtain ⟨above, awaitsAbove, less⟩ := ordered.rank_lt cycle awaited edge
  obtain rfl : key = above := some.inj (awaited.symm.trans awaitsAbove)
  exact lt_irrefl _ less

end Locks
