import BareMetalManager.Lib.BTreeSet
import BareMetalManager.Network.Prefix
import Mathlib.Order.CompletePartialOrder

/-!
# Sets of IP addresses

The `IpSet` of `crates/network/src/ip/ipset.rs`: a set of addresses kept as an ordered set of
prefixes. Adding a prefix drops the stored prefixes inside it and merges it with its siblings;
removing one splits the stored prefix around it.

The abstract value of a set is its `addresses`. Both operations keep the stored prefixes disjoint
and free of siblings and act on `addresses` as union and difference, and one lookup by the order
decides whether all addresses of a prefix are included.
-/

namespace Network

open Collections Dyadic BTreeSet IpPrefix

/-- A set of addresses, covered by the included prefixes. -/
structure IpSet where
  includedPrefixes : BTreeSet IpPrefix

namespace IpSet

open IpPrefix (contains_iff_forall_mem exists_addr getSibling_eq_some_iff le_of_contains)

def newEmpty : IpSet := ⟨.empty⟩

def ofPrefix (p : IpPrefix) : IpSet := ⟨.singleton p⟩

def getPrefixes (set : IpSet) : List IpPrefix := set.includedPrefixes.elems

/-! ## Meaning of a set of prefixes -/

def covered (prefixes : BTreeSet IpPrefix) : Set IpAddr :=
  {addr | ∃ p ∈ prefixes, addr ∈ p}

variable {addr : IpAddr}

@[simp] theorem mem_covered {prefixes : BTreeSet IpPrefix} :
    addr ∈ covered prefixes ↔ ∃ p ∈ prefixes, addr ∈ p := .rfl

def addressesOf (p : IpPrefix) : Set IpAddr := {addr | addr ∈ p}

@[simp] theorem mem_addressesOf {p : IpPrefix} :
    addr ∈ addressesOf p ↔ addr ∈ p := .rfl

/-- The abstract value of an `IpSet`. -/
def addresses (set : IpSet) : Set IpAddr := covered set.includedPrefixes

/-- The representation invariant: the prefixes do not overlap, and no prefix is
stored together with its sibling. -/
structure Reduced (prefixes : BTreeSet IpPrefix) : Prop where
  disjoint : ∀ left ∈ prefixes, ∀ right ∈ prefixes, ∀ addr : IpAddr,
    addr ∈ left → addr ∈ right → left = right
  siblingFree : ∀ left ∈ prefixes, ∀ right ∈ prefixes,
    left.getSibling ≠ .ok (some right)

section Invariant

variable {prefixes : BTreeSet IpPrefix} {p : IpPrefix}

def blocks (prefixes : BTreeSet IpPrefix) (family : IpAddressFamily) : Set Block :=
  {block | ∃ p ∈ prefixes, p.addressFamily = family ∧ p.block = block}

/-- The invariant of the prefixes is that of their blocks, family by family. -/
theorem Reduced.blocks (reduced : Reduced prefixes) (family : IpAddressFamily) :
    Block.Reduced (blocks prefixes family) where
  disjoint := by
    rintro _ ⟨left, leftIn, leftFamily, rfl⟩ _ ⟨right, rightIn, rightFamily, rfl⟩
      value inLeft inRight
    obtain ⟨addr, mem, rfl⟩ := exists_addr inLeft
    have families := leftFamily.trans rightFamily.symm
    rw [reduced.disjoint left leftIn right rightIn addr mem ⟨mem.1.trans families, inRight⟩]
  siblingFree := by
    rintro _ ⟨left, leftIn, leftFamily, rfl⟩ ⟨right, rightIn, rightFamily, siblingEq⟩
    exact reduced.siblingFree left leftIn right rightIn
      (getSibling_eq_some_iff.mpr ⟨rightFamily.trans leftFamily.symm, siblingEq⟩)

/-- No address of `p` is covered by the prefixes. -/
def Apart (prefixes : BTreeSet IpPrefix) (p : IpPrefix) : Prop :=
  ∀ included ∈ prefixes, ∀ addr ∈ included, addr ∉ p

theorem Reduced.mono {smaller : BTreeSet IpPrefix} (reduced : Reduced prefixes)
    (subset : ∀ included ∈ smaller, included ∈ prefixes) : Reduced smaller where
  disjoint left leftIn right rightIn :=
    reduced.disjoint left (subset left leftIn) right (subset right rightIn)
  siblingFree left leftIn right rightIn :=
    reduced.siblingFree left (subset left leftIn) right (subset right rightIn)

theorem getSibling_symm {left right : IpPrefix} (siblings : left.getSibling = .ok (some right)) :
    right.getSibling = .ok (some left) := by
  rw [getSibling_eq_some_iff] at *
  rw [siblings.2, Block.sibling_sibling]
  exact ⟨siblings.1.symm, rfl⟩

/-- A prefix apart from the others may be inserted when its sibling is absent. -/
theorem Reduced.insert (reduced : Reduced prefixes) (apart : Apart prefixes p)
    (alone : ∀ included ∈ prefixes, p.getSibling ≠ .ok (some included)) :
    Reduced (prefixes.insert p) where
  disjoint := by
    simp only [mem_insert, forall_eq_or_imp]
    refine ⟨⟨fun _ _ _ => trivial, fun right rightIn addr inLeft inRight => ?_⟩,
      fun left leftIn => ⟨fun addr inLeft inRight => ?_, reduced.disjoint left leftIn⟩⟩
    · exact absurd inLeft (apart right rightIn addr inRight)
    · exact absurd inRight (apart left leftIn addr inLeft)
  siblingFree := by
    simp only [mem_insert, forall_eq_or_imp]
    refine ⟨⟨fun siblings => ?_, alone⟩,
      fun left leftIn => ⟨fun siblings => ?_, reduced.siblingFree left leftIn⟩⟩
    · exact Block.sibling_ne _ (getSibling_eq_some_iff.mp siblings).2.symm
    · exact alone left leftIn (getSibling_symm siblings)

theorem covered_insert : covered (prefixes.insert p) = covered prefixes ∪ addressesOf p := by
  ext addr
  simp only [mem_covered, mem_insert, Set.mem_union, mem_addressesOf, or_and_right,
    exists_or, exists_eq_left, or_comm]

theorem covered_remove (reduced : Reduced prefixes) (mem : p ∈ prefixes) :
    covered (prefixes.remove p) = covered prefixes \ addressesOf p := by
  ext addr
  simp only [mem_covered, mem_remove, Set.mem_sdiff, mem_addressesOf]
  constructor
  · rintro ⟨included, ⟨includedIn, ne⟩, inIncluded⟩
    refine ⟨⟨included, includedIn, inIncluded⟩, ?_⟩
    intro inP
    exact ne (reduced.disjoint included includedIn p mem addr inIncluded inP)
  · rintro ⟨⟨included, includedIn, inIncluded⟩, notInP⟩
    refine ⟨included, ⟨includedIn, ?_⟩, inIncluded⟩
    rintro rfl
    exact notInP inIncluded

theorem Apart.remove (reduced : Reduced prefixes) (mem : p ∈ prefixes) :
    Apart (prefixes.remove p) p := by
  intro included includedIn addr inIncluded inP
  obtain ⟨includedIn, ne⟩ := mem_remove.mp includedIn
  exact ne (reduced.disjoint included includedIn p mem addr inIncluded inP)

/-- Inserting one of two siblings that are apart from the rest. -/
theorem insert_sibling {container kept dropped : IpPrefix} (reduced : Reduced prefixes)
    (apart : Apart prefixes container) (siblings : kept.getSibling = .ok (some dropped))
    (parts : ∀ addr, addr ∈ container ↔ addr ∈ kept ∨ addr ∈ dropped) :
    Reduced (prefixes.insert dropped) ∧ Apart (prefixes.insert dropped) kept := by
  have keptApart : Apart prefixes kept := fun included mem addr inIncluded inKept =>
    apart included mem addr inIncluded ((parts addr).mpr (.inl inKept))
  have droppedApart : Apart prefixes dropped := fun included mem addr inIncluded inDropped =>
    apart included mem addr inIncluded ((parts addr).mpr (.inr inDropped))
  constructor
  · refine reduced.insert droppedApart ?_
    intro included mem siblings'
    rw [getSibling_symm siblings] at siblings'
    cases siblings'
    obtain ⟨addr, inKept, -⟩ := exists_addr kept.block.first_mem
    exact keptApart kept mem addr inKept inKept
  · intro included includedIn addr inIncluded inKept
    rcases mem_insert.mp includedIn with rfl | includedIn
    · exact not_mem_of_getSibling siblings inKept inIncluded
    · exact keptApart included includedIn addr inIncluded inKept

/-- An `IpSet` whose stored prefixes satisfy the representation invariant. -/
def Valid (set : IpSet) : Prop := Reduced set.includedPrefixes

theorem valid_newEmpty : newEmpty.Valid where
  disjoint := by simp [newEmpty]
  siblingFree := by simp [newEmpty]

@[simp] theorem addresses_newEmpty : newEmpty.addresses = ∅ := by
  ext addr
  simp [addresses, newEmpty]

theorem valid_ofPrefix (p : IpPrefix) : (ofPrefix p).Valid where
  disjoint := by simp [ofPrefix]
  siblingFree := by
    simp only [ofPrefix, mem_singleton]
    rintro _ rfl _ rfl siblings
    exact Block.sibling_ne _ (getSibling_eq_some_iff.mp siblings).2.symm

@[simp] theorem addresses_ofPrefix (p : IpPrefix) : (ofPrefix p).addresses = addressesOf p := by
  ext addr
  simp [addresses, ofPrefix]

end Invariant

/-! ## Operations -/

section Operations

variable [Ipnet 32] [Ipnet 128]

/-- The greatest included prefix up to `p`, when it contains `p`. -/
def getContainingPrefix (set : IpSet) (p : IpPrefix) : Option IpPrefix :=
  (set.includedPrefixes.rangeTo p).getLast?.bind fun included =>
    if included.contains p then some included else none

def containsPrefix (set : IpSet) (p : IpPrefix) : Bool :=
  (set.getContainingPrefix p).isSome

def contains {α : Type} [ToPrefix α] (set : IpSet) (value : α) : Bool :=
  set.containsPrefix (toPrefix value)

/-- Remove the included prefixes that `p` contains, one at a time, looking for
the next one in the range of all possible sub-prefixes of `p`. -/
def removeSubPrefixes (prefixes : BTreeSet IpPrefix) (p : IpPrefix) : BTreeSet IpPrefix :=
  match _ : (prefixes.range p p.getLastSubPrefix).find? p.contains with
  | some sub => removeSubPrefixes (prefixes.remove sub) p
  | none => prefixes
termination_by prefixes.elems.length
decreasing_by
  have membership := List.mem_of_find?_eq_some ‹_›
  exact BTreeSet.length_remove_lt (BTreeSet.mem_range.mp membership).1

/-- Insert `p`, first merging it with its sibling for as long as that one is
included. -/
def insertAggregated (prefixes : BTreeSet IpPrefix) (p : IpPrefix) :
    Checked (BTreeSet IpPrefix) :=
  match p.getSibling with
  | .error reason => .error reason
  | .ok none => .ok (prefixes.insert p)
  | .ok (some sibling) =>
    match _ : prefixes.take sibling with
    | none => .ok (prefixes.insert p)
    | some (other, rest) =>
      match Checked.unwrap (p.tryAggregate other) with
      | .error reason => .error reason
      | .ok aggregated => insertAggregated rest aggregated
termination_by prefixes.elems.length
decreasing_by
  obtain ⟨membership, -, restEq⟩ := BTreeSet.take_eq_some.mp ‹_›
  rw [restEq]
  exact BTreeSet.length_remove_lt membership

/-- Split `container` in halves down to `p`, inserting the halves without `p`. -/
def insertFragments (prefixes : BTreeSet IpPrefix) (container p : IpPrefix) :
    Checked (BTreeSet IpPrefix) :=
  if container = p then .ok prefixes
  else
    match _ : container.bifurcate with
    | none => .error .unwrapNone
    | some (c1, c2) =>
      if c1.contains p then insertFragments (prefixes.insert c2) c1 p
      else if c2.contains p then insertFragments (prefixes.insert c1) c2 p
      else .error .unreachable
termination_by container.block.level
decreasing_by
  · exact (level_of_bifurcate ‹_›).1
  · exact (level_of_bifurcate ‹_›).2

def add (set : IpSet) (p : IpPrefix) : Checked IpSet :=
  if set.containsPrefix p then .ok set
  else return ⟨← insertAggregated (removeSubPrefixes set.includedPrefixes p) p⟩

def remove (set : IpSet) (p : IpPrefix) : Checked IpSet :=
  match set.getContainingPrefix p with
  | none => .ok ⟨removeSubPrefixes set.includedPrefixes p⟩
  | some container =>
    return ⟨← insertFragments (set.includedPrefixes.remove container) container p⟩

/-- The set of the addresses of all the sources, added one by one. -/
def ofSources {α : Type} [ToPrefix α] (values : List α) : Checked IpSet :=
  values.foldlM (fun set value => set.add (toPrefix value)) newEmpty

/-- The address space of all the sources as a list of merged prefixes. -/
def aggregatePrefixes {α : Type} [ToPrefix α] (values : List α) :
    Checked (List IpPrefix) :=
  return (← ofSources values).getPrefixes

/-! ## Lookup -/

section Lookup

variable {set : IpSet} {prefixes : BTreeSet IpPrefix} {p : IpPrefix}

variable (reduced : Reduced set.includedPrefixes)
include reduced

/-- In a set of disjoint prefixes the greatest one up to `p` is the only one that
can contain `p`. -/
theorem getContainingPrefix_eq_some {container : IpPrefix} :
    set.getContainingPrefix p = some container ↔
      container ∈ set.includedPrefixes ∧ container.contains p = true := by
  unfold getContainingPrefix
  constructor
  · intro found
    obtain ⟨last, lastEq, result⟩ := Option.bind_eq_some_iff.mp found
    split at result
    next containment =>
      cases result
      exact ⟨(rangeTo_getLast?_eq_some lastEq).1, containment⟩
    next => cases result
  · rintro ⟨mem, containment⟩
    have containerLe := le_of_contains containment
    cases lastEq : (set.includedPrefixes.rangeTo p).getLast? with
    | none =>
      exact absurd containerLe (rangeTo_getLast?_eq_none.mp lastEq _ mem)
    | some last =>
      obtain ⟨lastIn, lastLe, greatest⟩ := rangeTo_getLast?_eq_some lastEq
      have inside := contains_of_le_of_le containment
        (greatest container mem containerLe) lastLe
      obtain ⟨addr, inLast, -⟩ := exists_addr last.block.first_mem
      have same : container = last := reduced.disjoint container mem last lastIn
        addr (contains_iff_forall_mem.mp inside addr inLast) inLast
      simp [← same, containment]

theorem getContainingPrefix_eq_none :
    set.getContainingPrefix p = none ↔
      ∀ included ∈ set.includedPrefixes, ¬ included.contains p = true := by
  simp only [Option.eq_none_iff_forall_ne_some, ne_eq, getContainingPrefix_eq_some reduced, not_and]

theorem containsPrefix_iff_exists :
    set.containsPrefix p = true ↔
      ∃ included ∈ set.includedPrefixes, included.contains p = true := by
  rw [containsPrefix, Option.isSome_iff_exists]
  exact exists_congr fun _ => getContainingPrefix_eq_some reduced

/-- A prefix is found exactly when all its addresses are covered, even if they
were added piece by piece. -/
theorem containsPrefix_iff : set.containsPrefix p = true ↔ ∀ addr ∈ p, addr ∈ set.addresses := by
  rw [containsPrefix_iff_exists reduced]
  constructor
  · rintro ⟨included, mem, containment⟩ addr inP
    exact ⟨included, mem, contains_iff_forall_mem.mp containment addr inP⟩
  · intro all
    have cover : ∀ value ∈ p.block,
        ∃ block ∈ blocks set.includedPrefixes p.addressFamily, value ∈ block := by
      intro value inBlock
      obtain ⟨addr, inP, rfl⟩ := exists_addr inBlock
      obtain ⟨included, mem, inIncluded⟩ := all addr inP
      exact ⟨included.block, ⟨included, mem, inIncluded.1.symm.trans inP.1, rfl⟩, inIncluded.2⟩
    obtain ⟨_, ⟨included, mem, family, rfl⟩, subset⟩ :=
      (reduced.blocks p.addressFamily).exists_superset cover
    exact ⟨included, mem, contains_iff.mpr ⟨family.symm, subset⟩⟩

end Lookup

/-! ## Loops -/

section Loops

variable {prefixes : BTreeSet IpPrefix} {p : IpPrefix}

/-- The loop removes exactly the prefixes inside `p`: all of them lie in the
searched range. -/
theorem mem_removeSubPrefixes {included : IpPrefix} :
    included ∈ removeSubPrefixes prefixes p ↔
      included ∈ prefixes ∧ ¬ p.contains included = true := by
  fun_induction removeSubPrefixes prefixes p with
  | case1 prefixes sub found ih =>
    have inside : p.contains sub = true := List.find?_some found
    rw [ih, mem_remove]
    constructor
    · rintro ⟨⟨mem, -⟩, outside⟩
      exact ⟨mem, outside⟩
    · rintro ⟨mem, outside⟩
      refine ⟨⟨mem, ?_⟩, outside⟩
      rintro rfl
      exact outside inside
  | case2 prefixes noneFound =>
    refine ⟨fun mem => ⟨mem, fun inside => ?_⟩, And.left⟩
    have inRange := mem_range.mpr ⟨mem, le_of_contains inside, le_getLastSubPrefix inside⟩
    exact List.find?_eq_none.mp noneFound included inRange inside

/-- After the loop the remaining prefixes are apart from `p`, unless one of them
contained it. -/
theorem Apart.removeSubPrefixes
    (outside : ∀ included ∈ prefixes, ¬ included.contains p = true) :
    Apart (removeSubPrefixes prefixes p) p := by
  intro included mem addr inIncluded inP
  obtain ⟨mem, notInside⟩ := mem_removeSubPrefixes.mp mem
  rcases contains_or_contains inIncluded inP with around | inside
  · exact outside included mem around
  · exact notInside inside

theorem covered_removeSubPrefixes
    (outside : ∀ included ∈ prefixes, ¬ included.contains p = true) :
    covered (removeSubPrefixes prefixes p) = covered prefixes \ addressesOf p := by
  ext addr
  constructor
  · rintro ⟨included, mem, inIncluded⟩
    exact ⟨⟨included, (mem_removeSubPrefixes.mp mem).1, inIncluded⟩,
      Apart.removeSubPrefixes outside included mem addr inIncluded⟩
  · rintro ⟨⟨included, mem, inIncluded⟩, notInP⟩
    refine ⟨included, mem_removeSubPrefixes.mpr ⟨mem, ?_⟩, inIncluded⟩
    intro inside
    exact notInP (contains_iff_forall_mem.mp inside addr inIncluded)

/-- Merging with siblings and inserting adds the addresses of `p` and keeps the
invariant, and never meets siblings that fail to merge. -/
theorem insertAggregated_spec (reduced : Reduced prefixes) (apart : Apart prefixes p) :
    ∃ result, insertAggregated prefixes p = .ok result ∧ Reduced result ∧
      covered result = covered prefixes ∪ addressesOf p := by
  fun_induction insertAggregated prefixes p with
  | case1 prefixes p reason failed =>
    rcases getSibling_cases p with ⟨-, noSibling⟩ | ⟨-, sibling, siblingEq, -⟩
    · rw [failed] at noSibling
      cases noSibling
    · rw [failed] at siblingEq
      cases siblingEq
  | case2 prefixes p noSibling =>
    refine ⟨_, rfl, reduced.insert apart ?_, covered_insert⟩
    intro included _ siblings
    rw [noSibling] at siblings
    cases siblings
  | case3 prefixes p sibling siblingEq absent =>
    refine ⟨_, rfl, reduced.insert apart ?_, covered_insert⟩
    intro included mem siblings
    rw [siblingEq] at siblings
    cases siblings
    exact take_eq_none.mp absent mem
  | case4 prefixes p sibling siblingEq other rest taken reason failed =>
    obtain ⟨-, rfl, -⟩ := take_eq_some.mp taken
    obtain ⟨merged, mergedEq, -⟩ := tryAggregate_sibling siblingEq
    rw [mergedEq] at failed
    cases failed
  | case5 prefixes p sibling siblingEq other rest taken aggregated merge ih =>
    obtain ⟨mem, rfl, rfl⟩ := take_eq_some.mp taken
    obtain ⟨merged, mergedEq, family, blockEq⟩ := tryAggregate_sibling siblingEq
    rw [mergedEq] at merge
    cases merge
    have parts : ∀ addr, addr ∈ aggregated ↔ addr ∈ p ∨ addr ∈ other := by
      obtain ⟨otherFamily, otherBlock⟩ := getSibling_eq_some_iff.mp siblingEq
      intro addr
      simp only [mem_def, family, blockEq, Block.mem_parent, otherFamily, otherBlock, ← and_or_left]
    have restReduced : Reduced (prefixes.remove other) :=
      reduced.mono fun included includedIn => (mem_remove.mp includedIn).1
    have restApart : Apart (prefixes.remove other) aggregated := by
      intro included includedIn addr inIncluded inAggregated
      rcases (parts addr).mp inAggregated with inP | inOther
      · exact apart included (mem_remove.mp includedIn).1 addr inIncluded inP
      · exact Apart.remove reduced mem included includedIn addr inIncluded inOther
    obtain ⟨result, resultEq, resultReduced, resultCovered⟩ := ih restReduced restApart
    refine ⟨result, resultEq, resultReduced, ?_⟩
    rw [resultCovered, covered_remove reduced mem]
    ext addr
    have inside : addr ∈ other → addr ∈ covered prefixes := fun inOther =>
      ⟨other, mem, inOther⟩
    simp only [Set.mem_union, Set.mem_sdiff, mem_addressesOf, parts]
    tauto

variable {container : IpPrefix}

/-- The half without `p` is kept as it is. -/
theorem covered_fragment {kept dropped : IpPrefix} (siblings : kept.getSibling = .ok (some dropped))
    (parts : ∀ addr, addr ∈ container ↔ addr ∈ kept ∨ addr ∈ dropped)
    (containment : kept.contains p = true) :
    covered (prefixes.insert dropped) ∪ (addressesOf kept \ addressesOf p) =
      covered prefixes ∪ (addressesOf container \ addressesOf p) := by
  rw [covered_insert]
  ext addr
  have away : addr ∈ dropped → addr ∉ p := fun inDropped inP =>
    not_mem_of_getSibling siblings
      (contains_iff_forall_mem.mp containment addr inP) inDropped
  simp only [Set.mem_union, Set.mem_sdiff, mem_addressesOf, parts]
  tauto

/-- Splitting a container down to `p` adds the addresses of the container outside
`p`, keeps the invariant, and always finds the half with `p`. -/
theorem insertFragments_spec (reduced : Reduced prefixes) (apart : Apart prefixes container)
    (containment : container.contains p = true) :
    ∃ result, insertFragments prefixes container p = .ok result ∧ Reduced result ∧
      covered result = covered prefixes ∪ (addressesOf container \ addressesOf p) := by
  fun_induction insertFragments prefixes container p with
  | case1 prefixes => exact ⟨prefixes, rfl, reduced, by simp⟩
  | case2 prefixes container ne split =>
    obtain ⟨_, _, splitEq, -⟩ := bifurcate_contains containment ne
    rw [split] at splitEq
    cases splitEq
  | case3 prefixes container ne c1 c2 split inC1 ih =>
    obtain ⟨siblings, parts⟩ := bifurcate_eq_some split
    obtain ⟨reduced', apart'⟩ := insert_sibling reduced apart siblings parts
    obtain ⟨result, resultEq, resultReduced, resultCovered⟩ := ih reduced' apart' inC1
    refine ⟨result, resultEq, resultReduced, resultCovered.trans ?_⟩
    exact covered_fragment siblings parts inC1
  | case4 prefixes container ne c1 c2 split notInC1 inC2 ih =>
    obtain ⟨siblings, parts⟩ := bifurcate_eq_some split
    have siblings := getSibling_symm siblings
    have parts (addr : IpAddr) := (parts addr).trans or_comm
    obtain ⟨reduced', apart'⟩ := insert_sibling reduced apart siblings parts
    obtain ⟨result, resultEq, resultReduced, resultCovered⟩ := ih reduced' apart' inC2
    refine ⟨result, resultEq, resultReduced, resultCovered.trans ?_⟩
    exact covered_fragment siblings parts inC2
  | case5 prefixes container ne c1 c2 split notInC1 notInC2 =>
    obtain ⟨_, _, splitEq, inHalf⟩ := bifurcate_contains containment ne
    rw [split] at splitEq
    cases splitEq
    exact absurd inHalf (by simp [notInC1, notInC2])

end Loops

/-! ## Operations on whole sets -/

section Runs

variable {set : IpSet}

theorem add_spec (valid : set.Valid) (p : IpPrefix) :
    ∃ result, set.add p = .ok result ∧ result.Valid ∧
      result.addresses = set.addresses ∪ addressesOf p := by
  unfold add
  split
  next included =>
    refine ⟨set, rfl, valid, ?_⟩
    rw [Set.union_eq_self_of_subset_right]
    exact (containsPrefix_iff valid).mp included
  next notIncluded =>
    have outside := (getContainingPrefix_eq_none valid).mp
      (Option.not_isSome_iff_eq_none.mp notIncluded)
    have remaining : Reduced (removeSubPrefixes set.includedPrefixes p) :=
      valid.mono fun included mem => (mem_removeSubPrefixes.mp mem).1
    obtain ⟨result, resultEq, reduced, coveredEq⟩ :=
      insertAggregated_spec remaining (.removeSubPrefixes outside)
    refine ⟨⟨result⟩, by rw [resultEq]; rfl, reduced, coveredEq.trans ?_⟩
    rw [covered_removeSubPrefixes outside]
    exact Set.sdiff_union_self

theorem remove_spec (valid : set.Valid) (p : IpPrefix) :
    ∃ result, set.remove p = .ok result ∧ result.Valid ∧
      result.addresses = set.addresses \ addressesOf p := by
  unfold remove
  split
  next noContainer =>
    have outside := (getContainingPrefix_eq_none valid).mp noContainer
    exact ⟨_, rfl, valid.mono fun included mem => (mem_removeSubPrefixes.mp mem).1,
      covered_removeSubPrefixes outside⟩
  next container found =>
    obtain ⟨mem, containment⟩ := (getContainingPrefix_eq_some valid).mp found
    have remaining : Reduced (set.includedPrefixes.remove container) :=
      valid.mono fun included includedIn => (mem_remove.mp includedIn).1
    obtain ⟨result, resultEq, reduced, coveredEq⟩ := insertFragments_spec remaining
      (.remove valid mem) containment
    refine ⟨⟨result⟩, by rw [resultEq]; rfl, reduced, coveredEq.trans ?_⟩
    rw [covered_remove valid mem]
    ext addr
    have within : addr ∈ p → addr ∈ container :=
      contains_iff_forall_mem.mp containment addr
    simp only [addresses, Set.mem_union, Set.mem_sdiff, mem_addressesOf]
    tauto

inductive Op where
  | add (p : IpPrefix)
  | remove (p : IpPrefix)

def Op.apply (set : IpSet) : Op → Checked IpSet
  | add p => set.add p
  | remove p => set.remove p

/-- What a change does to a set of addresses. -/
def Op.denote (space : Set IpAddr) : Op → Set IpAddr
  | add p => space ∪ addressesOf p
  | remove p => space \ addressesOf p

def run (set : IpSet) (ops : List Op) : Checked IpSet := ops.foldlM Op.apply set

theorem apply_spec (valid : set.Valid) (op : Op) :
    ∃ result, op.apply set = .ok result ∧ result.Valid ∧
      result.addresses = op.denote set.addresses := by
  cases op with
  | add p => exact add_spec valid p
  | remove p => exact remove_spec valid p

/-- A run from a valid set never panics, stays valid, and computes the union and
difference of the addresses. -/
theorem run_spec (valid : set.Valid) (ops : List Op) :
    ∃ result, set.run ops = .ok result ∧ result.Valid ∧
      result.addresses = ops.foldl Op.denote set.addresses := by
  induction ops generalizing set with
  | nil => exact ⟨set, rfl, valid, rfl⟩
  | cons op ops ih =>
    obtain ⟨next, nextEq, nextValid, nextAddresses⟩ := apply_spec valid op
    obtain ⟨result, resultEq, resultValid, resultAddresses⟩ := ih nextValid
    refine ⟨result, ?_, resultValid, ?_⟩
    · rwa [run, List.foldlM_cons, nextEq]
    · rw [resultAddresses, nextAddresses, List.foldl_cons]

variable {α : Type}

theorem ofSources_eq_run [ToPrefix α] (values : List α) :
    ofSources values = newEmpty.run (values.map fun value => .add (toPrefix value)) := by
  rw [run, List.foldlM_map]
  rfl

inductive Origin (α : Type) where
  | newEmpty
  | fromPrefix (p : IpPrefix)
  | fromSources (values : List α)

def Origin.build {α : Type} [ToPrefix α] : Origin α → Checked IpSet
  | newEmpty => .ok .newEmpty
  | fromPrefix p => .ok (ofPrefix p)
  | fromSources values => ofSources values

def Origin.addresses {α : Type} [ToPrefix α] : Origin α → Set IpAddr
  | newEmpty => ∅
  | fromPrefix p => addressesOf p
  | fromSources values => {addr | ∃ value ∈ values, addr ∈ toPrefix value}

omit [Ipnet 32] [Ipnet 128] in
theorem foldl_denote_add [ToPrefix α] (values : List α) (space : Set IpAddr) :
    (values.map fun value => Op.add (toPrefix value)).foldl Op.denote space =
      space ∪ {addr | ∃ value ∈ values, addr ∈ toPrefix value} := by
  induction values generalizing space with
  | nil => simp
  | cons value values ih =>
    rw [List.map_cons, List.foldl_cons, ih]
    ext addr
    simp [Op.denote, or_assoc]

theorem build_spec [ToPrefix α] (origin : Origin α) :
    ∃ start, origin.build = .ok start ∧ start.Valid ∧
      start.addresses = origin.addresses := by
  cases origin with
  | newEmpty => exact ⟨_, rfl, valid_newEmpty, addresses_newEmpty⟩
  | fromPrefix p => exact ⟨_, rfl, valid_ofPrefix p, addresses_ofPrefix p⟩
  | fromSources values =>
    obtain ⟨start, startEq, valid, addressesEq⟩ := run_spec valid_newEmpty
      (values.map fun value => .add (toPrefix value))
    refine ⟨start, (ofSources_eq_run values).trans startEq, valid, ?_⟩
    rw [addressesEq, foldl_denote_add, addresses_newEmpty, Set.empty_union]
    rfl

/-- Every run from every new set returns a set of disjoint prefixes without
siblings that covers exactly the addresses given by the unions and differences of
the run, and the lookup of a prefix or of an address decides whether all its
addresses are among them. -/
theorem build_run_exact {α : Type} [ToPrefix α] (origin : Origin α) (ops : List Op) :
    ∃ start result, origin.build = .ok start ∧ start.run ops = .ok result ∧
      (∀ left ∈ result.includedPrefixes, ∀ right ∈ result.includedPrefixes,
        left ≠ right → Disjoint (addressesOf left) (addressesOf right)) ∧
      (∀ left ∈ result.includedPrefixes, ∀ right ∈ result.includedPrefixes,
        left.getSibling ≠ .ok (some right)) ∧
      {addr | ∃ p ∈ result.includedPrefixes, addr ∈ p} = ops.foldl Op.denote origin.addresses ∧
      (∀ q : IpPrefix, result.contains q = true ↔
        ∀ addr ∈ q, addr ∈ ops.foldl Op.denote origin.addresses) ∧
      (∀ addr : IpAddr, result.contains addr = true ↔
        addr ∈ ops.foldl Op.denote origin.addresses) := by
  obtain ⟨start, startEq, startValid, startAddresses⟩ := build_spec origin
  obtain ⟨result, resultEq, valid, addressesEq⟩ := run_spec startValid ops
  rw [startAddresses] at addressesEq
  refine ⟨start, result, startEq, resultEq, ?_, valid.siblingFree, addressesEq, ?_, ?_⟩
  · intro left leftIn right rightIn ne
    rw [Set.disjoint_left]
    intro addr inLeft inRight
    exact ne (valid.disjoint left leftIn right rightIn addr inLeft inRight)
  · intro q
    rw [contains, containsPrefix_iff valid, addressesEq]
    rfl
  · intro addr
    rw [contains, containsPrefix_iff valid, addressesEq]
    simp only [mem_toPrefix_addr, forall_eq]

/-- No call of any run from the empty set panics, nor does any further one, and the range
that a call looks through is never inverted, where `BTreeSet::range` would panic. -/
theorem run_never_panics (ops : List Op) (p : IpPrefix) :
    ∃ set added removed, newEmpty.run ops = .ok set ∧ set.add p = .ok added ∧
      set.remove p = .ok removed ∧ p ≤ p.getLastSubPrefix := by
  obtain ⟨set, ran, valid, -⟩ := run_spec valid_newEmpty ops
  obtain ⟨added, addedEq, -⟩ := add_spec valid p
  obtain ⟨removed, removedEq, -⟩ := remove_spec valid p
  refine ⟨set, added, removed, ran, addedEq, removedEq, le_getLastSubPrefix ?_⟩
  exact contains_iff_forall_mem.mpr fun _ inside => inside

end Runs

/-! ## Aggregation -/

section Aggregation

def unionOf (prefixes : List IpPrefix) : Set IpAddr := {addr | ∃ p ∈ prefixes, addr ∈ p}

variable {set other : IpSet} {p : IpPrefix}

theorem Valid.exists_contains (valid : set.Valid) (inSet : ∀ addr ∈ p, addr ∈ set.addresses) :
    ∃ included ∈ set.includedPrefixes, included.contains p = true :=
  (containsPrefix_iff_exists valid).mp ((containsPrefix_iff valid).mpr inSet)

theorem Valid.mem_of_addresses_eq (valid : set.Valid) (otherValid : other.Valid)
    (same : set.addresses = other.addresses) (mem : p ∈ set.includedPrefixes) :
    p ∈ other.includedPrefixes := by
  obtain ⟨around, aroundIn, aroundP⟩ := otherValid.exists_contains fun addr inP =>
    same ▸ (⟨p, mem, inP⟩ : addr ∈ set.addresses)
  obtain ⟨outer, outerIn, outerAround⟩ := valid.exists_contains fun addr inAround =>
    same ▸ (⟨around, aroundIn, inAround⟩ : addr ∈ other.addresses)
  -- the prefix around the prefix around `p` meets `p`, so it is `p`
  obtain ⟨addr, inP, -⟩ := exists_addr p.block.first_mem
  have inOuter := contains_iff_forall_mem.mp outerAround addr
    (contains_iff_forall_mem.mp aroundP addr inP)
  rw [valid.disjoint outer outerIn p mem addr inOuter inP] at outerAround
  rwa [le_antisymm (le_of_contains outerAround) (le_of_contains aroundP)]

theorem Valid.getPrefixes_eq (valid : set.Valid) (otherValid : other.Valid)
    (same : set.addresses = other.addresses) : set.getPrefixes = other.getPrefixes :=
  set.includedPrefixes.sorted.eq_of_mem_iff other.includedPrefixes.sorted fun _ =>
    ⟨valid.mem_of_addresses_eq otherValid same, otherValid.mem_of_addresses_eq valid same.symm⟩

/-- Every prefix of a valid set contains one of any list with the same union, and no two of
them the same one. -/
theorem Valid.length_le (valid : set.Valid) {prefixes : List IpPrefix}
    (same : unionOf prefixes = set.addresses) : set.getPrefixes.length ≤ prefixes.length := by
  have parts : ∀ included ∈ set.includedPrefixes, ∃ p ∈ prefixes, included.contains p = true := by
    intro included mem
    obtain ⟨addr, inIncluded, -⟩ := exists_addr included.block.first_mem
    obtain ⟨p, pMem, inP⟩ : addr ∈ unionOf prefixes := same ▸ ⟨included, mem, inIncluded⟩
    obtain ⟨around, aroundIn, aroundP⟩ := valid.exists_contains fun addr inP =>
      same ▸ (⟨p, pMem, inP⟩ : addr ∈ unionOf prefixes)
    have inAround := contains_iff_forall_mem.mp aroundP addr inP
    rw [valid.disjoint included mem around aroundIn addr inIncluded inAround]
    exact ⟨p, pMem, aroundP⟩
  choose! part partMem inside using parts
  have apart : (set.getPrefixes.map part).Nodup := by
    refine .map_on (fun left leftMem right rightMem samePart => ?_)
      (set.includedPrefixes.sorted.imp ne_of_lt)
    have found := (getContainingPrefix_eq_some valid).mpr ⟨rightMem, inside right rightMem⟩
    rw [← samePart, (getContainingPrefix_eq_some valid).mpr ⟨leftMem, inside left leftMem⟩] at found
    exact Option.some.inj found
  have length := apart.length_le_of_subset (List.forall_mem_map.mpr partMem)
  rwa [List.length_map] at length

/-- Aggregation covers the union of the prefixes, depends on nothing but that union, does not
change its own result, and no list with the same union is shorter. -/
theorem aggregatePrefixes_canonical (prefixes : List IpPrefix) :
    ∃ result, aggregatePrefixes prefixes = .ok result ∧ unionOf result = unionOf prefixes ∧
      aggregatePrefixes result = .ok result ∧ ∀ others, unionOf others = unionOf prefixes →
        aggregatePrefixes others = .ok result ∧ result.length ≤ others.length := by
  have built (prefixes : List IpPrefix) : ∃ set, aggregatePrefixes prefixes =
      .ok (getPrefixes set) ∧ set.Valid ∧ set.addresses = unionOf prefixes := by
    obtain ⟨set, ran, valid, exact⟩ := build_spec (.fromSources prefixes)
    refine ⟨set, ?_, valid, exact⟩
    rw [aggregatePrefixes, show ofSources prefixes = .ok set from ran]
    rfl
  obtain ⟨set, ran, valid, exact⟩ := built prefixes
  have canonical {others : List IpPrefix} (same : unionOf others = unionOf prefixes) :
      aggregatePrefixes others = .ok set.getPrefixes := by
    obtain ⟨other, otherRan, otherValid, otherExact⟩ := built others
    rw [otherRan, otherValid.getPrefixes_eq valid (otherExact.trans (same.trans exact.symm))]
  exact ⟨set.getPrefixes, ran, exact, canonical exact, fun others same =>
    ⟨canonical same, valid.length_le (same.trans exact.symm)⟩⟩

/-- Two sets are equal exactly if they cover the same addresses, whatever their histories are. -/
theorem run_eq_run_iff (ops others : List Op) : newEmpty.run ops = newEmpty.run others ↔
    ops.foldl Op.denote ∅ = others.foldl Op.denote ∅ := by
  obtain ⟨⟨⟨left, _⟩⟩, ran, valid, covers⟩ := run_spec valid_newEmpty ops
  obtain ⟨⟨⟨right, _⟩⟩, otherRan, otherValid, otherCovers⟩ := run_spec valid_newEmpty others
  rw [ran, otherRan, ← addresses_newEmpty, ← covers, ← otherCovers]
  constructor
  · rintro ⟨⟩
    rfl
  · intro same
    obtain rfl : left = right := valid.getPrefixes_eq otherValid same
    rfl

end Aggregation

end Operations

/-- With the reference networks, a /24 added as its two halves is found as a whole. -/
theorem build_run_exact_halves :
    letI := Ipnet.reference 32
    letI := Ipnet.reference 128
    ∃ result, newEmpty.run
        [.add (.v4 ⟨⟨0x0a000080#32, 25, by decide⟩, by decide⟩),
          .add (.v4 ⟨⟨0x0a000000#32, 25, by decide⟩, by decide⟩)] = .ok result ∧
      result.contains (v4 ⟨⟨0x0a000000#32, 24, by decide⟩, by decide⟩) = true := by
  let := Ipnet.reference 32
  let := Ipnet.reference 128
  obtain ⟨start, result, startEq, resultEq, -, -, -, lookup, -⟩ :=
    build_run_exact (.newEmpty : Origin IpAddr)
      [.add (.v4 ⟨⟨0x0a000080#32, 25, by decide⟩, by decide⟩),
        .add (.v4 ⟨⟨0x0a000000#32, 25, by decide⟩, by decide⟩)]
  cases startEq
  refine ⟨result, resultEq, (lookup _).mpr ?_⟩
  rintro addr ⟨family, inside⟩
  simp only [List.foldl_cons, List.foldl_nil, Op.denote, Set.mem_union, mem_addressesOf,
    mem_def, addressFamily_v4, block_v4, Prefix.block, Net.block, Block.mem_def]
  simp only [IpNet.block, intoInner, Net.block, Block.mem_def] at inside
  rw [show addr.addressFamily = .ipv4 from family]
  norm_num at inside ⊢
  omega

end IpSet

end Network
