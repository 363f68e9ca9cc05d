import BareMetalManager.Lib.StableSort
import Mathlib.Data.List.Perm.Basic
import Mathlib.Data.String.Basic
import Mathlib.Order.WithBot

/-!
# The order of a host's DPUs

`sort_dpu_snapshots` sorts the DPUs of a managed host by the PCI slot of their factory MAC
address and then moves the DPU of the primary interface to the front. The parser of MAC
addresses is a parameter.
-/

namespace ApiModel

open List

/-- What `sort_by` asks of its comparator on the elements it sorts. On any other comparator
it may panic, and the order it leaves is not specified. -/
def TotalPreorder {α : Type*} (compare : α → α → Ordering) (items : List α) : Prop :=
  (∀ left ∈ items, ∀ right ∈ items, compare right left = (compare left right).swap) ∧
    ∀ first ∈ items, ∀ second ∈ items, ∀ third ∈ items,
      compare first second ≠ .gt → compare second third ≠ .gt → compare first third ≠ .gt

/-- `sort_by`. On a total preorder every stable sort gives this list. -/
def sortWith {α : Type*} (compare : α → α → Ordering) (items : List α) : List α :=
  items.insertionSort fun left right => compare left right ≠ .gt

section Ranked

variable {α κ : Type*} [LinearOrder κ] {compare : α → α → Ordering} {rank : α → κ}
  {items : List α}
  (ranked : ∀ left ∈ items, ∀ right ∈ items, compare left right = cmp (rank left) (rank right))
include ranked

theorem ne_gt_iff_of_ranked {left right : α} (leftMem : left ∈ items) (rightMem : right ∈ items) :
    compare left right ≠ .gt ↔ rank left ≤ rank right := by
  rw [ranked left leftMem right rightMem, ne_eq, cmp_eq_gt_iff, not_lt]

theorem totalPreorder_of_ranked : TotalPreorder compare items := by
  constructor
  · intro left leftMem right rightMem
    rw [ranked left leftMem right rightMem, ranked right rightMem left leftMem, cmp_swap]
  · intro first firstMem second secondMem third thirdMem
    rw [ne_gt_iff_of_ranked ranked firstMem secondMem,
      ne_gt_iff_of_ranked ranked secondMem thirdMem,
      ne_gt_iff_of_ranked ranked firstMem thirdMem]
    exact le_trans

theorem sortWith_of_ranked : sortWith compare items = StableSort.sortBy rank items := by
  have sorted := map_insertionSort (compare · · ≠ .gt) (rank · ≤ rank ·) id items
    fun left leftMem right rightMem => ne_gt_iff_of_ranked ranked leftMem rightMem
  rwa [map_id, map_id] at sorted

end Ranked

structure PciProperties where
  slot : Option String

variable (MacAddress : Type)

structure NetworkInterface where
  macAddress : MacAddress
  pciProperties : Option PciProperties

structure DpuData where
  factoryMacAddress : String

structure HardwareInfo where
  networkInterfaces : List (NetworkInterface MacAddress)
  dpuInfo : Option DpuData

structure MachineInterfaceSnapshot where
  primaryInterface : Bool
  attachedDpuMachineId : Option Nat

/-- The fields of a machine that the ordering reads. -/
structure Machine where
  id : Nat
  hardwareInfo : Option (HardwareInfo MacAddress)
  interfaces : List MachineInterfaceSnapshot

structure ManagedHostStateSnapshot where
  hostSnapshot : Machine MacAddress
  dpuSnapshots : List (Machine MacAddress)

inductive ManagedHostStateSnapshotError
  | primaryInterfaceMissing (host : Nat)
  | missingPrimaryDpu (host dpu : Nat)

variable {MacAddress} (parse : String → Option MacAddress)

def Machine.factoryMac (dpu : Machine MacAddress) : Option MacAddress :=
  (dpu.hardwareInfo.bind (·.dpuInfo)).bind fun info => parse info.factoryMacAddress

namespace ManagedHostStateSnapshot

variable [DecidableEq MacAddress] (snapshot : ManagedHostStateSnapshot MacAddress)

/-- The slots of the host's interfaces by MAC address: of two interfaces with one address
the later is kept. -/
def macPciMap (mac : MacAddress) : Option (Option String) :=
  ((snapshot.hostSnapshot.hardwareInfo.toList.flatMap (·.networkInterfaces)).reverse.find?
    (·.macAddress = mac)).map fun interface => interface.pciProperties.bind (·.slot)

def compareDpus (lhs rhs : Machine MacAddress) : Ordering :=
  match lhs.factoryMac parse with
  | none => .gt
  | some lhsDpuMac =>
    match rhs.factoryMac parse with
    | none => .lt
    | some rhsDpuMac =>
      match (snapshot.macPciMap lhsDpuMac).getD none, (snapshot.macPciMap rhsDpuMac).getD none with
      | some lhsPciSlot, some rhsPciSlot => cmp lhsPciSlot rhsPciSlot
      | some _, none => .lt
      | none, some _ => .gt
      | none, none => .eq

def primaryInterface : Option MachineInterfaceSnapshot :=
  snapshot.hostSnapshot.interfaces.find? (·.primaryInterface)

def primaryDpuId : Option Nat := snapshot.primaryInterface.bind (·.attachedDpuMachineId)

def hasManagedDpus : Bool := !snapshot.dpuSnapshots.isEmpty

/-- The DPUs after the call and what the call returns. A failed call leaves them sorted by
slot. -/
def sortDpuSnapshots : List (Machine MacAddress) × Except ManagedHostStateSnapshotError Unit :=
  let sorted := sortWith (snapshot.compareDpus parse) snapshot.dpuSnapshots
  match snapshot.primaryDpuId with
  | some dpu =>
    match sorted.findIdx? (·.id = dpu) with
    | none => (sorted, .error (.missingPrimaryDpu snapshot.hostSnapshot.id dpu))
    | some index =>
      (if index ≠ 0 then sorted[index]?.toList ++ sorted.eraseIdx index else sorted, .ok ())
  | none =>
    (sorted, if snapshot.primaryInterface.isNone ∧ snapshot.hasManagedDpus then
        .error (.primaryInterfaceMissing snapshot.hostSnapshot.id)
      else .ok ())

/-- The slot a DPU is ordered by. A DPU without a slot has the rank `⊤` and comes last. -/
def slotRank (dpu : Machine MacAddress) : WithTop String :=
  (dpu.factoryMac parse).bind fun mac => (snapshot.macPciMap mac).getD none

def InSlotOrder (dpus : List (Machine MacAddress)) : Prop :=
  dpus.Pairwise fun lhs rhs => snapshot.slotRank parse lhs ≤ snapshot.slotRank parse rhs

/-- The comparator is a total preorder on the DPUs, and a successful call only reorders them, with
the DPU of the primary interface in front, if there is one, and the others in the order of their
slots. -/
def WellOrdered : Prop :=
  TotalPreorder (snapshot.compareDpus parse) snapshot.dpuSnapshots ∧
    ∀ dpus, snapshot.sortDpuSnapshots parse = (dpus, .ok ()) →
      dpus.Perm snapshot.dpuSnapshots ∧ match snapshot.primaryDpuId with
        | some primary => ∃ dpu others, dpus = dpu :: others ∧ dpu.id = primary ∧
            snapshot.InSlotOrder parse others
        | none => snapshot.InSlotOrder parse dpus

variable {parse snapshot}

theorem compareDpus_eq_cmp {lhs rhs : Machine MacAddress}
    (lhsMac : (lhs.factoryMac parse).isSome) (rhsMac : (rhs.factoryMac parse).isSome) :
    snapshot.compareDpus parse lhs rhs =
      cmp (snapshot.slotRank parse lhs) (snapshot.slotRank parse rhs) := by
  obtain ⟨lhsDpuMac, lhsEq⟩ := Option.isSome_iff_exists.mp lhsMac
  obtain ⟨rhsDpuMac, rhsEq⟩ := Option.isSome_iff_exists.mp rhsMac
  rw [compareDpus, slotRank, slotRank, lhsEq, rhsEq]
  dsimp only [Option.bind_some]
  cases (snapshot.macPciMap lhsDpuMac).getD none <;>
    cases (snapshot.macPciMap rhsDpuMac).getD none
  · exact (cmp_self_eq_eq _).symm
  · exact (cmp_eq_gt_iff _ _).mpr (WithTop.coe_lt_top _) |>.symm
  · exact (cmp_eq_lt_iff _ _).mpr (WithTop.coe_lt_top _) |>.symm
  · exact (StrictMono.cmp_map_eq (f := ((↑) : String → WithTop String))
      WithTop.coe_strictMono _ _).symm

/-- The order is well defined exactly if every DPU reports a factory MAC address that parses:
the comparator puts a DPU without one after every DPU, and so after itself. -/
theorem wellOrdered_iff : snapshot.WellOrdered parse ↔
    ∀ dpu ∈ snapshot.dpuSnapshots, (dpu.factoryMac parse).isSome := by
  constructor
  · intro ⟨⟨antisymmetric, _⟩, _⟩ dpu dpuMem
    by_contra noMac
    have swapped := antisymmetric dpu dpuMem dpu dpuMem
    rw [compareDpus, Option.not_isSome_iff_eq_none.mp noMac] at swapped
    cases swapped
  · intro macs
    have ranked : ∀ lhs ∈ snapshot.dpuSnapshots, ∀ rhs ∈ snapshot.dpuSnapshots,
        snapshot.compareDpus parse lhs rhs =
          cmp (snapshot.slotRank parse lhs) (snapshot.slotRank parse rhs) :=
      fun lhs lhsMem rhs rhsMem => compareDpus_eq_cmp (macs lhs lhsMem) (macs rhs rhsMem)
    refine ⟨totalPreorder_of_ranked ranked, fun dpus returned => ?_⟩
    have inOrder : snapshot.InSlotOrder parse _ :=
      StableSort.pairwise_sortBy _ snapshot.dpuSnapshots
    have perm := StableSort.sortBy_perm (snapshot.slotRank parse) snapshot.dpuSnapshots
    unfold sortDpuSnapshots at returned
    rw [sortWith_of_ranked ranked] at returned
    generalize StableSort.sortBy (snapshot.slotRank parse) _ = sorted at *
    cases primary : snapshot.primaryDpuId with
    | none =>
      rw [primary] at returned
      cases (Prod.mk.inj returned).1
      exact ⟨perm, inOrder⟩
    | some id =>
      simp only [primary] at returned
      split at returned
      · cases (Prod.mk.inj returned).2
      next index found =>
        -- the primary DPU leaves its place for the front, and the others keep their order
        obtain ⟨inBounds, isPrimary, -⟩ := findIdx?_eq_some_iff_getElem.mp found
        have moved : (if index ≠ 0 then sorted[index]?.toList ++ sorted.eraseIdx index
            else sorted) = sorted[index] :: sorted.eraseIdx index := by
          split
          · rw [getElem?_eq_getElem inBounds]
            rfl
          next first =>
            cases not_not.mp first
            cases sorted with
            | nil => cases inBounds
            | cons => rfl
        cases (Prod.mk.inj returned).1
        rw [moved]
        exact ⟨(getElem_cons_eraseIdx_perm inBounds).trans perm, _, _, rfl,
          of_decide_eq_true isPrimary, inOrder.sublist (eraseIdx_sublist _ _)⟩

/-- Two DPUs that have not reported their hardware. -/
def undiscoveredDpus : ManagedHostStateSnapshot Nat where
  hostSnapshot := ⟨0, none, [⟨true, some 1⟩]⟩
  dpuSnapshots := [⟨1, none, []⟩, ⟨2, none, []⟩]

-- Each of the two DPUs compares greater than the other.
theorem not_wellOrdered_undiscoveredDpus : ¬ undiscoveredDpus.WellOrdered String.toNat? := by
  intro ⟨⟨antisymmetric, _⟩, _⟩
  cases antisymmetric _ (.head _) _ (.tail _ (.head _))

end ManagedHostStateSnapshot

end ApiModel
