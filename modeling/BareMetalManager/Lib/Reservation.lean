import Mathlib.Tactic.Linarith

/-!
# Reservation forests

Regions are nested or apart, as the nodes of a tree of blocks are. A forest stores roots, and
children that their parents have reserved. A reservation is made before its child is stored and
withdrawn after the child is removed, and is pending in between. The invariant has the pending
reservations as a parameter; lemmas say what each write has to respect to keep it.
-/

namespace Reservation

open Function Option

variable {κ : Type*}

variable (inside : κ → κ → Prop)

/-- Inclusion of regions: an order where two regions with a common part are nested. -/
structure Laminar : Prop where
  refl : ∀ a, inside a a
  trans : ∀ {a b c}, inside a b → inside b c → inside a c
  antisymm : ∀ {a b}, inside a b → inside b a → a = b
  nested : ∀ {a b c}, inside c a → inside c b → inside a b ∨ inside b a

def Apart (a b : κ) : Prop := ¬inside a b ∧ ¬inside b a

/-- The stored regions with their parents, and the regions that each has reserved. -/
@[ext] structure Forest (κ : Type*) where
  /-- `none` is not stored, `some none` is a root. -/
  parent : κ → Option (Option κ)
  reserved : κ → κ → Prop

namespace Forest

def Stored (forest : Forest κ) (a : κ) : Prop := forest.parent a ≠ none

/-- The invariant, where `pending p c` are the reservations without a stored child. -/
structure Sound (inside pending : κ → κ → Prop) (forest : Forest κ) : Prop where
  /-- A child is reserved by its parent. -/
  child : ∀ {c p}, forest.parent c = some (some p) → forest.reserved p c
  /-- A reservation belongs to a child, or is pending. -/
  owned : ∀ {p c}, forest.reserved p c → forest.parent c = some (some p) ∨ pending p c
  stored : ∀ {p c}, forest.reserved p c → forest.Stored p
  within : ∀ {p c}, forest.reserved p c → inside c p ∧ c ≠ p
  siblings : ∀ {p c d}, forest.reserved p c → forest.reserved p d → c ≠ d → Apart inside c d
  roots : ∀ {a b}, forest.parent a = some none → forest.parent b = some none → a ≠ b →
    Apart inside a b
  /-- What lies inside a stored region lies inside one of its reservations. -/
  covered : ∀ {a b}, forest.Stored a → forest.Stored b → a ≠ b → inside a b →
    ∃ c, forest.reserved b c ∧ inside a c
  pendingReserved : ∀ {p c}, pending p c → forest.reserved p c
  /-- Nothing is stored inside a pending reservation. -/
  pendingClear : ∀ {p c a}, pending p c → forest.Stored a → ¬inside a c

variable {a : κ}

namespace Sound

variable {inside pending : κ → κ → Prop} {forest : Forest κ} {p c d : κ}
  (laminar : Laminar inside) (sound : Sound inside pending forest)
include laminar sound

theorem eq_of_common (left : forest.reserved p c) (right : forest.reserved p d)
    (inLeft : inside a c) (inRight : inside a d) : c = d := by
  by_contra ne
  have apart := sound.siblings left right ne
  obtain below | above := laminar.nested inLeft inRight
  · exact apart.1 below
  · exact apart.2 above

/-- A region that is apart from the reservations of a stored one has nothing stored inside. -/
theorem not_stored_of_free (stored : forest.Stored p) (below : inside c p) (ne : c ≠ p)
    (free : ∀ d, forest.reserved p d → Apart inside c d) (aStored : forest.Stored a) :
    ¬inside a c := by
  intro inC
  have notP : a ≠ p := by
    rintro rfl
    exact ne (laminar.antisymm below inC)
  obtain ⟨d, reserved, inD⟩ := sound.covered aStored stored notP (laminar.trans inC below)
  obtain cBelow | cAbove := laminar.nested inC inD
  · exact (free d reserved).1 cBelow
  · exact (free d reserved).2 cAbove

/-- A stored region around a pending reservation is around the region that has made it. -/
theorem inside_of_pending (isPending : pending p c) (aStored : forest.Stored a)
    (around : inside c a) : inside p a := by
  have reserved := sound.pendingReserved isPending
  obtain aBelow | pBelow := laminar.nested around (sound.within reserved).1
  · obtain rfl | notP := eq_or_ne a p
    · exact aBelow
    · obtain ⟨d, dReserved, inD⟩ := sound.covered aStored (sound.stored reserved) notP aBelow
      have same := sound.eq_of_common laminar reserved dReserved (laminar.refl c)
        (laminar.trans around inD)
      exact absurd (same ▸ inD) (sound.pendingClear isPending aStored)
  · exact pBelow

end Sound

/-! ## Writes -/

variable (forest : Forest κ) (p c : κ)

def reserve : Forest κ where
  parent := forest.parent
  reserved q d := forest.reserved q d ∨ q = p ∧ d = c

def withdraw : Forest κ where
  parent := forest.parent
  reserved q d := forest.reserved q d ∧ ¬(q = p ∧ d = c)

variable {inside forest p c} {pending : κ → κ → Prop} {parent : Option κ}

namespace Sound

variable (laminar : Laminar inside) (sound : Sound inside pending forest)
include laminar sound

theorem reserve (stored : forest.Stored p) (below : inside c p) (ne : c ≠ p)
    (free : ∀ d, forest.reserved p d → Apart inside c d) :
    Sound inside (fun q d => pending q d ∨ q = p ∧ d = c) (forest.reserve p c) where
  child isChild := .inl (sound.child isChild)
  owned := by
    rintro q d (reserved | new)
    · exact (sound.owned reserved).imp_right .inl
    · exact .inr (.inr new)
  stored := by
    rintro q d (reserved | ⟨rfl, rfl⟩)
    · exact sound.stored reserved
    · exact stored
  within := by
    rintro q d (reserved | ⟨rfl, rfl⟩)
    · exact sound.within reserved
    · exact ⟨below, ne⟩
  siblings := by
    rintro q d e (left | ⟨rfl, rfl⟩) (right | ⟨same, rfl⟩) notSame
    · exact sound.siblings left right notSame
    · exact (free d (same ▸ left)).symm
    · exact free e right
    · exact absurd rfl notSame
  roots := sound.roots
  covered aStored bStored notSame inB := by
    obtain ⟨d, reserved, inD⟩ := sound.covered aStored bStored notSame inB
    exact ⟨d, .inl reserved, inD⟩
  pendingReserved := .imp_left sound.pendingReserved
  pendingClear := by
    rintro q d a (isPending | ⟨rfl, rfl⟩) aStored
    · exact sound.pendingClear isPending aStored
    · exact sound.not_stored_of_free laminar stored below ne free aStored

theorem withdraw (isPending : pending p c) :
    Sound inside (fun q d => pending q d ∧ ¬(q = p ∧ d = c)) (forest.withdraw p c) where
  child {d q} isChild := by
    refine ⟨sound.child isChild, ?_⟩
    rintro ⟨rfl, rfl⟩
    exact sound.pendingClear isPending (ne_none_iff_exists'.mpr ⟨_, isChild⟩)
      (laminar.refl d)
  owned isReserved := (sound.owned isReserved.1).imp_right fun still => ⟨still, isReserved.2⟩
  stored isReserved := sound.stored isReserved.1
  within isReserved := sound.within isReserved.1
  siblings left right := sound.siblings left.1 right.1
  roots := sound.roots
  covered aStored bStored notSame inB := by
    obtain ⟨d, isReserved, inD⟩ := sound.covered aStored bStored notSame inB
    refine ⟨d, ⟨isReserved, ?_⟩, inD⟩
    rintro ⟨rfl, rfl⟩
    exact sound.pendingClear isPending aStored inD
  pendingReserved still := ⟨sound.pendingReserved still.1, still.2⟩
  pendingClear still := sound.pendingClear still.1

end Sound

section Store

variable [DecidableEq κ]

def store (forest : Forest κ) (c : κ) (parent : Option κ) : Forest κ where
  parent := update forest.parent c (some parent)
  reserved := forest.reserved

def remove (forest : Forest κ) (c : κ) : Forest κ where
  parent := update forest.parent c none
  reserved q d := forest.reserved q d ∧ q ≠ c

@[simp] theorem stored_store : (forest.store c parent).Stored a ↔ a = c ∨ forest.Stored a := by
  obtain rfl | ne := eq_or_ne a c
  · simp [Stored, store]
  · simp [Stored, store, ne]

@[simp] theorem stored_remove : (forest.remove c).Stored a ↔ a ≠ c ∧ forest.Stored a := by
  obtain rfl | ne := eq_or_ne a c
  · simp [Stored, remove]
  · simp [Stored, remove, ne]

theorem parent_store (absent : ¬forest.Stored c) {other : Option κ} :
    (forest.store c parent).parent a = some other ↔
      a = c ∧ parent = other ∨ forest.parent a = some other := by
  obtain rfl | ne := eq_or_ne a c
  · simp [store, not_not.mp absent]
  · simp [store, ne]

theorem parent_remove :
    (forest.remove c).parent a = some parent ↔ a ≠ c ∧ forest.parent a = some parent := by
  obtain rfl | ne := eq_or_ne a c
  · simp [remove]
  · simp [remove, ne]

namespace Sound

variable (laminar : Laminar inside) (sound : Sound inside pending forest)
include sound

section Store

include laminar

theorem storeChild (isPending : pending p c) :
    Sound inside (fun q d => pending q d ∧ ¬(q = p ∧ d = c)) (forest.store c (some p)) := by
  have reserved := sound.pendingReserved isPending
  have notStored : ¬forest.Stored c := fun stored =>
    sound.pendingClear isPending stored (laminar.refl c)
  obtain ⟨below, ne⟩ := sound.within reserved
  constructor
  · intro d q isChild
    obtain ⟨rfl, same⟩ | isChild := (parent_store notStored).mp isChild
    · exact some.inj same ▸ reserved
    · exact sound.child isChild
  · intro q d isReserved
    obtain isChild | stillPending := sound.owned isReserved
    · exact .inl ((parent_store notStored).mpr (.inr isChild))
    · by_cases same : q = p ∧ d = c
      · exact .inl ((parent_store notStored).mpr (.inl ⟨same.2, congrArg some same.1.symm⟩))
      · exact .inr ⟨stillPending, same⟩
  · intro q d isReserved
    exact stored_store.mpr (.inr (sound.stored isReserved))
  · exact sound.within
  · exact sound.siblings
  · intro a b aRoot bRoot
    simp only [parent_store notStored, reduceCtorEq, and_false, false_or] at aRoot bRoot
    exact sound.roots aRoot bRoot
  · intro a b aStored bStored notSame inB
    obtain rfl | aStored := stored_store.mp aStored
    · have bStored := (stored_store.mp bStored).resolve_left (Ne.symm notSame)
      obtain rfl | notP := eq_or_ne b p
      · exact ⟨a, reserved, laminar.refl a⟩
      · obtain ⟨d, dReserved, inD⟩ := sound.covered (sound.stored reserved) bStored notP.symm
          (sound.inside_of_pending laminar isPending bStored inB)
        exact ⟨d, dReserved, laminar.trans below inD⟩
    · obtain isC | bStored := stored_store.mp bStored
      · exact absurd (isC ▸ inB) (sound.pendingClear isPending aStored)
      · exact sound.covered aStored bStored notSame inB
  · intro q d stillPending
    exact sound.pendingReserved stillPending.1
  · rintro q d a ⟨stillPending, notSame⟩ aStored inD
    obtain rfl | aStored := stored_store.mp aStored
    · have dReserved := sound.pendingReserved stillPending
      have pBelow := sound.inside_of_pending laminar isPending (sound.stored dReserved)
        (laminar.trans inD (sound.within dReserved).1)
      obtain rfl | ne := eq_or_ne q p
      · exact notSame ⟨rfl, (sound.eq_of_common laminar reserved dReserved
          (laminar.refl a) inD).symm⟩
      · obtain ⟨e, eReserved, inE⟩ := sound.covered (sound.stored reserved)
          (sound.stored dReserved) ne.symm pBelow
        have same := sound.eq_of_common laminar eReserved dReserved (laminar.trans below inE) inD
        exact sound.pendingClear stillPending (sound.stored reserved) (same ▸ inE)
    · exact sound.pendingClear stillPending aStored inD

theorem storeRoot (apart : ∀ a, forest.Stored a → Apart inside c a) :
    Sound inside pending (forest.store c none) := by
  have notStored : ¬forest.Stored c := fun stored => (apart c stored).1 (laminar.refl c)
  constructor
  · intro d q isChild
    simp only [parent_store notStored, reduceCtorEq, and_false, false_or] at isChild
    exact sound.child isChild
  · intro q d isReserved
    refine (sound.owned isReserved).imp_left fun isChild => ?_
    exact (parent_store notStored).mpr (.inr isChild)
  · intro q d isReserved
    exact stored_store.mpr (.inr (sound.stored isReserved))
  · exact sound.within
  · exact sound.siblings
  · intro a b aRoot bRoot notSame
    simp only [parent_store notStored, and_true] at aRoot bRoot
    obtain rfl | aRoot := aRoot
    · have bRoot := bRoot.resolve_left notSame.symm
      exact apart b (ne_none_iff_exists'.mpr ⟨_, bRoot⟩)
    · obtain isC | bRoot := bRoot
      · rw [isC]
        exact (apart a (ne_none_iff_exists'.mpr ⟨_, aRoot⟩)).symm
      · exact sound.roots aRoot bRoot notSame
  · intro a b aStored bStored notSame inB
    obtain rfl | aStored := stored_store.mp aStored
    · exact absurd inB (apart b ((stored_store.mp bStored).resolve_left notSame.symm)).1
    · obtain isC | bStored := stored_store.mp bStored
      · exact absurd (isC ▸ inB) (apart a aStored).2
      · exact sound.covered aStored bStored notSame inB
  · exact sound.pendingReserved
  · intro q d a isPending aStored inD
    obtain rfl | aStored := stored_store.mp aStored
    · have isReserved := sound.pendingReserved isPending
      exact (apart q (sound.stored isReserved)).1
        (laminar.trans inD (sound.within isReserved).1)
    · exact sound.pendingClear isPending aStored inD

end Store

/-- A stored region without reservations can be removed. The reservation of its parent, if it
has one, is pending then. -/
theorem remove (cStored : forest.Stored c) (empty : ∀ d, ¬forest.reserved c d) :
    Sound inside (fun q d => pending q d ∨ d = c ∧ forest.parent c = some (some q))
      (forest.remove c) := by
  have notC {q d : κ} (isReserved : forest.reserved q d) : q ≠ c := by
    rintro rfl
    exact empty d isReserved
  constructor
  · intro d q stillChild
    have isReserved := sound.child (parent_remove.mp stillChild).2
    exact ⟨isReserved, notC isReserved⟩
  · rintro q d ⟨isReserved, -⟩
    obtain dChild | isPending := sound.owned isReserved
    · obtain rfl | ne := eq_or_ne d c
      · exact .inr (.inr ⟨rfl, dChild⟩)
      · exact .inl (parent_remove.mpr ⟨ne, dChild⟩)
    · exact .inr (.inl isPending)
  · rintro q d ⟨isReserved, ne⟩
    exact stored_remove.mpr ⟨ne, sound.stored isReserved⟩
  · intro q d isReserved
    exact sound.within isReserved.1
  · intro q d e left right
    exact sound.siblings left.1 right.1
  · intro a b aRoot bRoot
    exact sound.roots (parent_remove.mp aRoot).2 (parent_remove.mp bRoot).2
  · intro a b aStored bStored notSame inB
    obtain ⟨bNe, bStored⟩ := stored_remove.mp bStored
    obtain ⟨d, isReserved, inD⟩ :=
      sound.covered (stored_remove.mp aStored).2 bStored notSame inB
    exact ⟨d, ⟨isReserved, bNe⟩, inD⟩
  · rintro q d (isPending | ⟨rfl, isChild⟩)
    · have isReserved := sound.pendingReserved isPending
      exact ⟨isReserved, notC isReserved⟩
    · have isReserved := sound.child isChild
      exact ⟨isReserved, notC isReserved⟩
  · rintro q d a (isPending | ⟨rfl, -⟩) aStored inD
    · exact sound.pendingClear isPending (stored_remove.mp aStored).2 inD
    · obtain ⟨ne, aStored⟩ := stored_remove.mp aStored
      obtain ⟨e, isReserved, -⟩ := sound.covered aStored cStored ne inD
      exact empty e isReserved

theorem removeChild (isChild : forest.parent c = some (some p))
    (empty : ∀ d, ¬forest.reserved c d) :
    Sound inside (fun q d => pending q d ∨ q = p ∧ d = c) (forest.remove c) := by
  have removed := sound.remove (ne_none_iff_exists'.mpr ⟨_, isChild⟩) empty
  simpa only [isChild, some.injEq, eq_comm (a := p), and_comm (a := _ = c)] using removed

theorem removeRoot (isRoot : forest.parent c = some none) (empty : ∀ d, ¬forest.reserved c d) :
    Sound inside pending (forest.remove c) := by
  have removed := sound.remove (ne_none_iff_exists'.mpr ⟨_, isRoot⟩) empty
  simpa only [isRoot, some.injEq, reduceCtorEq, and_false, or_false] using removed

end Sound

end Store

end Forest

/-! ## Holders

A party that has reserved a region holds the reservation until its child is stored, and a
party that has removed a child holds it until it is withdrawn. -/

section Holders

variable {ι π : Type*} [DecidableEq ι] {held : ι → Option π} {party : ι} {token other : π}

def Exclusive (held : ι → Option π) : Prop :=
  ∀ left right token, held left = some token → held right = some token → left = right

theorem Exclusive.take (exclusive : Exclusive held) (free : ¬∃ party, held party = some token) :
    Exclusive (update held party (some token)) := by
  intro left right taken inLeft inRight
  rw [update_apply] at inLeft inRight
  split at inLeft <;> split at inRight
  next isLeft isRight => exact isLeft.trans isRight.symm
  next => exact absurd ⟨right, (some.inj inLeft) ▸ inRight⟩ free
  next => exact absurd ⟨left, (some.inj inRight) ▸ inLeft⟩ free
  next => exact exclusive left right taken inLeft inRight

theorem Exclusive.drop (exclusive : Exclusive held) : Exclusive (update held party none) := by
  intro left right taken inLeft inRight
  rw [update_apply] at inLeft inRight
  split at inLeft <;> split at inRight
  next => cases inLeft
  next => cases inLeft
  next => cases inRight
  next => exact exclusive left right taken inLeft inRight

theorem held_take_iff (idle : held party = none) :
    (∃ holder, update held party (some token) holder = some other) ↔
      (∃ holder, held holder = some other) ∨ other = token := by
  constructor
  · rintro ⟨holder, holds⟩
    rw [update_apply] at holds
    split at holds
    next => exact .inr (some.inj holds).symm
    next => exact .inl ⟨holder, holds⟩
  · rintro (⟨holder, holds⟩ | rfl)
    · refine ⟨holder, ?_⟩
      rwa [update_of_ne]
      rintro rfl
      rw [idle] at holds
      cases holds
    · exact ⟨party, update_self _ _ _⟩

theorem held_drop_iff (exclusive : Exclusive held) (holds : held party = some token) :
    (∃ holder, update held party none holder = some other) ↔
      (∃ holder, held holder = some other) ∧ other ≠ token := by
  constructor
  · rintro ⟨holder, otherHeld⟩
    rw [update_apply] at otherHeld
    split at otherHeld
    next => cases otherHeld
    next ne =>
      refine ⟨⟨holder, otherHeld⟩, ?_⟩
      rintro rfl
      exact ne (exclusive _ _ _ otherHeld holds)
  · rintro ⟨⟨holder, otherHeld⟩, ne⟩
    refine ⟨holder, ?_⟩
    rwa [update_of_ne]
    rintro rfl
    rw [holds] at otherHeld
    exact ne (some.inj otherHeld).symm

end Holders

end Reservation
