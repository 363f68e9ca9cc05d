import BareMetalManager.Flow.Planner
import BareMetalManager.Lib.Blocks
import Mathlib.Algebra.Order.Floor.Div
import Mathlib.Algebra.BigOperators.Intervals
import Mathlib.GroupTheory.GroupAction.Ring
import Mathlib.Data.Set.Card

/-!
# A plan is a phased partition

The rows of a plan are the configured share of the candidate racks, each rack once and with
its remaining components, cut into consecutive phases without an empty one.
-/

namespace Flow.Planner

open Checked Function List ComponentsByType Blocks

/-! ## What a plan is for -/

/-- A component of a rack is in a list of targets. -/
def Listed (targets : List RackExecutionTarget) (rack : Uuid) (type : ComponentType) (id : Uuid) :
    Prop :=
  ∃ target ∈ targets, target.rackId = rack ∧ id ∈ target.componentsByType.ids type

variable (base excluded : List RackExecutionTarget)

/-- A component of the base scope that no excluded target has. -/
def Remaining (rack : Uuid) (type : ComponentType) (id : Uuid) : Prop :=
  Listed base rack type id ∧ ¬Listed excluded rack type id

def candidateRacks : Set Uuid :=
  {rack | ∃ type id, Remaining base excluded rack type id}

/-- The rows are the frozen plan of a percentage of the candidate racks. -/
structure PhasedPartition (percentage : Nat) (phasePlan : Option PhasePlan)
    (rows : List PlannedTarget) : Prop where
  racks : (rows.map (·.rackId)).Nodup
  candidates : ∀ row ∈ rows, row.rackId ∈ candidateRacks base excluded
  selected : rows.length = (percentage * (candidateRacks base excluded).ncard) ⌈/⌉ 100
  /-- A row has the remaining components of its rack, each of them once. -/
  components : ∀ row ∈ rows, ∀ type id,
    id ∈ row.componentsByType.ids type ↔ Remaining base excluded row.rackId type id
  componentsNodup : ∀ row ∈ rows, ∀ type, (row.componentsByType.ids type).Nodup
  sequence : rows.map (·.sequenceIndex) = .range rows.length
  ordered : (rows.map (·.phaseIndex)).Pairwise (· ≤ ·)
  /-- The sizes of the phases add up, and there is no empty phase. -/
  phases : ∃ counts, phaseTargetCounts rows.length phasePlan = .ok counts ∧
    counts.sum = rows.length ∧ (∀ count ∈ counts, 0 < count) ∧
      ∀ phase, rows.countP (·.phaseIndex = phase) = counts.getD phase 0
  /-- The first phase is 0, and no phase is skipped. -/
  gapless : ∀ row ∈ rows, ∀ phase ≤ row.phaseIndex, ∃ other ∈ rows, other.phaseIndex = phase

/-! ## Lists of targets -/

variable {rows : List RackExecutionTarget}

section Listed

variable {left right : List RackExecutionTarget} {target : RackExecutionTarget}
  {rack id : Uuid} {type : ComponentType}

theorem not_listed_nil : ¬Listed [] rack type id :=
  fun ⟨_, targetMem, _⟩ => not_mem_nil targetMem

theorem listed_cons :
    Listed (target :: right) rack type id ↔
      target.rackId = rack ∧ id ∈ target.componentsByType.ids type ∨ Listed right rack type id := by
  simp only [Listed, mem_cons, exists_eq_or_imp]

theorem listed_append :
    Listed (left ++ right) rack type id ↔ Listed left rack type id ∨ Listed right rack type id := by
  simp only [Listed, mem_append, or_and_right, exists_or]

/-- One row for each rack, with normal components. -/
structure Rows (rows : List RackExecutionTarget) : Prop where
  nodup : (rows.map (·.rackId)).Nodup
  normal : ∀ row ∈ rows, row.componentsByType.Normal

theorem Rows.nil : Rows [] := ⟨nodup_nil, fun _ rowMem => (not_mem_nil rowMem).elim⟩

theorem Rows.mem_ids_iff (wellFormed : Rows rows) {row : RackExecutionTarget}
    (rowMem : row ∈ rows) :
    id ∈ row.componentsByType.ids type ↔ Listed rows row.rackId type id := by
  refine ⟨fun idMem => ⟨row, rowMem, rfl, idMem⟩, fun ⟨other, otherMem, sameRack, idMem⟩ => ?_⟩
  rwa [← inj_on_of_nodup_map wellFormed.nodup otherMem rowMem sameRack]

end Listed

/-! ## Normalization -/

variable {rack : Uuid} {type : ComponentType} {id : Uuid}

section MergeTarget

variable {target : RackExecutionTarget} {idx : Nat} {merged : List RackExecutionTarget}
  (done : mergeTarget target idx rows = .ok merged)
include done

theorem mergeTarget_eq_ok :
    target.rackId ∉ rows.map (·.rackId) ∧ merged = rows ++ [target] ∨
      ∃ before row after components, rows = before ++ row :: after ∧ row.rackId = target.rackId ∧
        row.componentsByType.merge target.componentsByType = .ok components ∧
          merged = before ++ { row with componentsByType := components } :: after := by
  induction rows generalizing idx merged with
  | nil =>
    cases done
    exact .inl ⟨not_mem_nil, rfl⟩
  | cons row rows ih =>
    unfold mergeTarget at done
    split at done
    next sameRack =>
      obtain ⟨components, mergeDone, result⟩ := bind_eq_ok.mp done
      cases result
      exact .inr ⟨[], row, rows, components, rfl, sameRack, mapError_eq_ok.mp mergeDone, rfl⟩
    next ne =>
      obtain ⟨rest, restDone, result⟩ := bind_eq_ok.mp done
      cases result
      obtain ⟨absent, rfl⟩ | ⟨before, found, after, components, rfl, sameRack, mergeDone, rfl⟩ :=
        ih restDone
      · exact .inl ⟨not_mem_cons_of_ne_of_not_mem (.symm ne) absent, rfl⟩
      · exact .inr ⟨row :: before, found, after, components, rfl, sameRack, mergeDone, rfl⟩

theorem listed_mergeTarget : Listed merged rack type id ↔
    Listed rows rack type id ∨ target.rackId = rack ∧ id ∈ target.componentsByType.ids type := by
  obtain ⟨-, rfl⟩ | ⟨before, row, after, components, rfl, sameRack, mergeDone, rfl⟩ :=
    mergeTarget_eq_ok done
  · rw [listed_append, listed_cons, or_iff_left not_listed_nil]
  · rw [listed_append, listed_append, listed_cons, listed_cons, mem_ids_merge mergeDone, sameRack]
    tauto

theorem rows_mergeTarget (wellFormed : Rows rows) (normal : target.componentsByType.Normal) :
    Rows merged := by
  obtain ⟨nodup, rowNormal⟩ := wellFormed
  obtain ⟨absent, rfl⟩ | ⟨before, row, after, components, rfl, -, mergeDone, rfl⟩ :=
    mergeTarget_eq_ok done
  · constructor
    · rw [map_append]
      exact concat_eq_append ▸ nodup.concat absent
    · exact forall_mem_append.mpr ⟨rowNormal, forall_mem_singleton.mpr normal⟩
  · rw [forall_mem_append, forall_mem_cons] at rowNormal
    obtain ⟨beforeNormal, -, afterNormal⟩ := rowNormal
    constructor
    · rwa [map_append, map_cons] at nodup ⊢
    · exact forall_mem_append.mpr ⟨beforeNormal,
        forall_mem_cons.mpr ⟨normal_merge mergeDone, afterNormal⟩⟩

end MergeTarget

variable {targets normalized : List RackExecutionTarget}

/-- Normalization merges the targets of a rack and loses no component. -/
theorem rows_normalizeFrom {idx : Nat} (wellFormed : Rows rows)
    (done : normalizeFrom idx rows targets = .ok normalized) :
    Rows normalized ∧ ∀ rack type id, Listed normalized rack type id ↔
      Listed rows rack type id ∨ Listed targets rack type id := by
  induction targets generalizing idx rows with
  | nil =>
    cases done
    exact ⟨wellFormed, fun _ _ _ => (or_iff_left not_listed_nil).symm⟩
  | cons target targets ih =>
    unfold normalizeFrom at done
    split at done
    next => cases done
    next =>
      obtain ⟨components, normalizeDone, done⟩ := bind_eq_ok.mp done
      obtain ⟨merged, mergeDone, done⟩ := bind_eq_ok.mp done
      have normalizeDone := mapError_eq_ok.mp normalizeDone
      obtain ⟨wellFormed, listed⟩ := ih (rows_mergeTarget mergeDone wellFormed
        (normal_normalize normalizeDone)) done
      refine ⟨wellFormed, fun rack type id => ?_⟩
      rw [listed, listed_mergeTarget mergeDone, listed_cons,
        mem_ids_normalize normalizeDone, or_assoc]

theorem rows_normalize (done : normalize targets = .ok normalized) :
    Rows normalized ∧
      ∀ rack type id, Listed normalized rack type id ↔ Listed targets rack type id := by
  obtain ⟨wellFormed, listed⟩ := rows_normalizeFrom .nil done
  exact ⟨wellFormed, fun rack type id => (listed rack type id).trans (or_iff_right not_listed_nil)⟩

/-! ## Exclusion -/

def excludedIds (excluded : Uuid → Option ComponentsByType) (rack : Uuid) (type : ComponentType) :
    List Uuid :=
  (excluded rack).elim [] fun components => components.ids type

variable {excluded : Uuid → Option ComponentsByType}

theorem mem_excludedIds_componentsByRackIDFrom {idx : Nat} {start : Uuid → Option ComponentsByType}
    (done : componentsByRackIDFrom idx start targets = .ok excluded) :
    id ∈ excludedIds excluded rack type ↔
      id ∈ excludedIds start rack type ∨ Listed targets rack type id := by
  induction targets generalizing idx start with
  | nil =>
    cases done
    exact (or_iff_left not_listed_nil).symm
  | cons target targets ih =>
    obtain ⟨components, found, done⟩ := bind_eq_ok.mp done
    have found := mapError_eq_ok.mp found
    have merged : id ∈ components.ids type ↔
        id ∈ excludedIds start target.rackId type ∨ id ∈ target.componentsByType.ids type := by
      unfold excludedIds
      cases entry : start target.rackId with
      | none =>
        rw [entry] at found
        rw [mem_ids_normalize found]
        exact (or_iff_right not_mem_nil).symm
      | some existing =>
        rw [entry] at found
        exact mem_ids_merge found
    rw [ih done, listed_cons]
    obtain rfl | ne := eq_or_ne rack target.rackId
    · rw [excludedIds, update_self]
      simp only [Option.elim_some, merged, true_and, or_assoc]
    · rw [excludedIds, update_of_ne ne]
      simp only [ne.symm, false_and, false_or]
      rfl

theorem mem_excludedIds_componentsByRackID (done : componentsByRackID targets = .ok excluded) :
    id ∈ excludedIds excluded rack type ↔ Listed targets rack type id :=
  (mem_excludedIds_componentsByRackIDFrom done).trans (or_iff_right not_mem_nil)

section Exclude

variable {row left : RackExecutionTarget}

theorem excludeTarget_eq_some (normal : row.componentsByType.Normal)
    (kept : excludeTarget excluded row = some left) :
    left.rackId = row.rackId ∧ left.componentsByType.Normal ∧ ∀ type id,
      id ∈ left.componentsByType.ids type ↔
        id ∈ row.componentsByType.ids type ∧ id ∉ excludedIds excluded row.rackId type := by
  unfold excludeTarget at kept
  unfold excludedIds
  cases entry : excluded row.rackId with
  | none =>
    rw [entry] at kept
    cases kept
    exact ⟨rfl, normal, fun _ _ => (and_iff_left not_mem_nil).symm⟩
  | some components =>
    rw [entry] at kept
    simp only [Option.ite_none_left_eq_some] at kept
    obtain ⟨notEmpty, kept⟩ := kept
    cases kept
    exact ⟨rfl, normal_subtract normal notEmpty, fun _ _ => mem_ids_subtract⟩

theorem excludeTarget_isSome (idMem : id ∈ row.componentsByType.ids type)
    (notExcluded : id ∉ excludedIds excluded row.rackId type) :
    ∃ left, excludeTarget excluded row = some left := by
  unfold excludeTarget
  unfold excludedIds at notExcluded
  cases entry : excluded row.rackId with
  | none => exact ⟨row, rfl⟩
  | some components =>
    rw [entry] at notExcluded
    have remains := mem_ids_subtract.mpr ⟨idMem, notExcluded⟩
    have notEmpty : ¬(row.componentsByType.subtract components).isEmpty := by
      intro empty
      rw [ComponentsByType.ids, isEmpty_iff.mp empty type] at remains
      cases remains
    exact ⟨_, if_neg notEmpty⟩

theorem listed_exclude (wellFormed : Rows rows) :
    Listed (exclude excluded rows) rack type id ↔
      Listed rows rack type id ∧ id ∉ excludedIds excluded rack type := by
  constructor
  · rintro ⟨left, leftMem, rfl, idMem⟩
    obtain ⟨row, rowMem, kept⟩ := mem_filterMap.mp leftMem
    obtain ⟨sameRack, -, ids⟩ := excludeTarget_eq_some (wellFormed.normal row rowMem) kept
    obtain ⟨listed, notExcluded⟩ := (ids type id).mp idMem
    rw [sameRack]
    exact ⟨⟨row, rowMem, rfl, listed⟩, notExcluded⟩
  · rintro ⟨⟨row, rowMem, rfl, idMem⟩, notExcluded⟩
    obtain ⟨left, kept⟩ := excludeTarget_isSome idMem notExcluded
    obtain ⟨sameRack, -, ids⟩ := excludeTarget_eq_some (wellFormed.normal row rowMem) kept
    exact ⟨left, mem_filterMap.mpr ⟨row, rowMem, kept⟩, sameRack,
      (ids type id).mpr ⟨idMem, notExcluded⟩⟩

theorem rows_exclude (wellFormed : Rows rows) : Rows (exclude excluded rows) := by
  constructor
  · rw [List.Nodup, pairwise_map, exclude, pairwise_filterMap]
    refine (pairwise_map.mp wellFormed.nodup).imp_of_mem ?_
    intro row other rowMem otherMem ne left kept otherLeft otherKept
    rwa [(excludeTarget_eq_some (wellFormed.normal row rowMem) kept).1,
      (excludeTarget_eq_some (wellFormed.normal other otherMem) otherKept).1]
  · intro left leftMem
    obtain ⟨row, rowMem, kept⟩ := mem_filterMap.mp leftMem
    exact (excludeTarget_eq_some (wellFormed.normal row rowMem) kept).2.1

end Exclude

/-! ## Candidates -/

/-- One row for each candidate rack, with its remaining components. -/
structure Candidates (base excluded rows : List RackExecutionTarget) : Prop extends Rows rows where
  listed : ∀ rack type id, Listed rows rack type id ↔ Remaining base excluded rack type id

section Candidates

variable {base excluded : List RackExecutionTarget}

theorem Candidates.mem_iff (candidates : Candidates base excluded rows) :
    rack ∈ candidateRacks base excluded ↔ rack ∈ rows.map (·.rackId) := by
  simp only [candidateRacks, Set.mem_ofPred_eq, ← candidates.listed, mem_map]
  constructor
  · rintro ⟨type, id, row, rowMem, sameRack, -⟩
    exact ⟨row, rowMem, sameRack⟩
  · rintro ⟨row, rowMem, rfl⟩
    obtain ⟨type, id, idMem⟩ := (candidates.normal row rowMem).exists_mem
    exact ⟨type, id, row, rowMem, rfl, idMem⟩

theorem Candidates.ncard_eq (candidates : Candidates base excluded rows) :
    (candidateRacks base excluded).ncard = rows.length := by
  have racks : candidateRacks base excluded = ((rows.map (·.rackId)).toFinset : Set Uuid) := by
    ext rack
    rw [candidates.mem_iff, Finset.mem_coe, mem_toFinset]
  rw [racks, Set.ncard_coe_finset, toFinset_card_of_nodup candidates.nodup, length_map]

end Candidates

variable {σ : Type} {run : RunConfiguration σ}

/-- `candidates` finds the candidate racks of the looked-up lists. -/
theorem candidates_of_candidates {lookup : TargetLookup σ} {options : TargetLookupOptions}
    (done : candidates lookup options run = .ok rows) (notEmpty : rows ≠ []) :
    ∃ operation base excluded, run.operation = .ok operation ∧
      (buildTargetScope lookup operation options).2 = .ok base ∧
        excludedTargets lookup operation options = .ok excluded ∧
          Candidates base excluded rows := by
  obtain ⟨operation, decoded, done⟩ := bind_eq_ok.mp done
  obtain ⟨normalized, baseDone, done⟩ := bind_eq_ok.mp done
  obtain ⟨base, built, normalizeDone⟩ := bind_eq_ok.mp baseDone
  obtain ⟨wellFormed, listed⟩ := rows_normalize (mapError_eq_ok.mp normalizeDone)
  split at done
  next empty =>
    cases done
    exact absurd (List.isEmpty_iff.mp empty) notEmpty
  next =>
    obtain ⟨byRack, excludedDone, result⟩ := bind_eq_ok.mp done
    obtain ⟨excluded, found, byRackDone⟩ := bind_eq_ok.mp excludedDone
    cases result
    refine ⟨operation, base, excluded, decoded, mapError_eq_ok.mp built, found,
      rows_exclude wellFormed, fun rack type id => ?_⟩
    rw [listed_exclude wellFormed, listed, mem_excludedIds_componentsByRackID byRackDone]
    rfl

/-! ## Phase sizes -/

theorem ceilDiv_eq (n : Nat) {d : Nat} (pos : 0 < d) : ceilDiv n d = n ⌈/⌉ d := by
  rw [ceilDiv, if_neg pos.ne', Nat.ceilDiv_eq_add_pred_div]

theorem ceilDiv_mono (d : Nat) : Monotone (ceilDiv · d) := by
  intro left right le
  unfold ceilDiv
  split
  next => exact le_rfl
  next => exact Nat.div_le_div_right (by omega)

theorem ceilDiv_mul_self (n : Nat) {d : Nat} (pos : 0 < d) : ceilDiv (n * d) d = n := by
  rw [ceilDiv_eq _ pos, mul_comm]
  exact smul_ceilDiv pos n

theorem ceilDiv_zero (d : Nat) : ceilDiv 0 d = 0 := by
  obtain rfl | pos := Nat.eq_zero_or_pos d
  · rfl
  · rw [ceilDiv_eq _ pos, zero_ceilDiv]

theorem sum_equalPhaseTargetCounts (total : Nat) {phaseCount : Nat} (pos : 0 < phaseCount) :
    (equalPhaseTargetCounts total phaseCount).sum = total := by
  have grows : Monotone fun i => ceilDiv (total * i) phaseCount := fun left right le =>
    ceilDiv_mono phaseCount (Nat.mul_le_mul_left total le)
  have telescope := Finset.sum_range_tsub grows phaseCount
  rwa [ceilDiv_mul_self total pos, mul_zero, ceilDiv_zero, Nat.sub_zero] at telescope

theorem sum_percentagePhaseTargetCountsFrom (total sum : Nat) (phases : List Nat) :
    ceilDiv (total * sum) 100 +
        (percentagePhaseTargetCountsFrom total sum (ceilDiv (total * sum) 100) phases).sum =
      ceilDiv (total * (sum + phases.sum)) 100 := by
  induction phases generalizing sum with
  | nil => rfl
  | cons percentage phases ih =>
    have grows : ceilDiv (total * sum) 100 ≤ ceilDiv (total * (sum + percentage)) 100 :=
      ceilDiv_mono 100 (Nat.mul_le_mul_left total (Nat.le_add_right sum percentage))
    rw [percentagePhaseTargetCountsFrom, sum_cons, sum_cons, ← add_assoc sum, ← ih]
    omega

variable {counts : List Nat}

variable {phases : List Nat}

theorem sum_countPhaseTargetCountsFrom {total assigned : Nat}
    (le : assigned ≤ total) (done : countPhaseTargetCountsFrom total assigned phases = .ok counts) :
    assigned + counts.sum = total := by
  induction phases generalizing assigned counts with
  | nil =>
    cases done
    split <;> simp <;> omega
  | cons count phases ih =>
    unfold countPhaseTargetCountsFrom at done
    split at done
    next => cases done
    next fits =>
      obtain ⟨rest, restDone, result⟩ := bind_eq_ok.mp done
      cases result
      rw [sum_cons, ← add_assoc]
      exact ih (not_lt.mp fits) restDone

theorem sum_of_validate
    (valid : (PhasePlan.percentage phases).validate = .ok ()) : phases.sum = 100 := by
  by_contra ne
  simp only [PhasePlan.validate, if_pos ne] at valid
  repeat' split at valid
  all_goals cases valid

variable {phasePlan : Option PhasePlan}

theorem sum_phaseTargetCounts {total : Nat}
    (valid : ∀ plan, phasePlan = some plan → plan.validate = .ok ())
    (done : phaseTargetCounts total phasePlan = .ok counts) : counts.sum = total := by
  unfold phaseTargetCounts at done
  split at done
  next empty =>
    cases done
    exact empty.symm
  next =>
    split at done
    next =>
      cases done
      exact sum_singleton
    next phaseCount =>
      cases done
      refine sum_equalPhaseTargetCounts total (pos_of_ne_zero fun zero => ?_)
      have refused := valid _ rfl
      rw [PhasePlan.validate, if_pos zero] at refused
      cases refused
    next phases =>
      cases done
      have sum := sum_percentagePhaseTargetCountsFrom total 0 phases
      rwa [mul_zero, ceilDiv_zero, zero_add, zero_add, sum_of_validate (valid _ rfl),
        ceilDiv_mul_self total (by decide)] at sum
    next phases =>
      have total := sum_countPhaseTargetCountsFrom (Nat.zero_le _) done
      rwa [zero_add] at total

/-! ## Rows -/

/-- The rows freeze the ordered targets, from a sequence index on. -/
structure Frozen (ordered : List RackExecutionTarget) (seqIdx : Nat) (phases : List Nat)
    (rows : List PlannedTarget) : Prop where
  targets : rows.map (fun row => (row.rackId, row.componentsByType)) =
    ordered.map fun target => (target.rackId, target.componentsByType.clone)
  sequence : rows.map (·.sequenceIndex) = .range' seqIdx ordered.length
  phases : rows.map (·.phaseIndex) = phases

theorem Frozen.append {front back : List RackExecutionTarget} {seqIdx : Nat}
    {frontPhases backPhases : List Nat} {frontRows backRows : List PlannedTarget}
    (left : Frozen front seqIdx frontPhases frontRows)
    (right : Frozen back (seqIdx + front.length) backPhases backRows) :
    Frozen (front ++ back) seqIdx (frontPhases ++ backPhases) (frontRows ++ backRows) where
  targets := by rw [map_append, left.targets, right.targets, map_append]
  sequence := by
    rw [map_append, left.sequence, right.sequence, length_append, ← List.range'_append_1]
  phases := by rw [map_append, left.phases, right.phases]

theorem frozen_phaseTargets {ordered before front back : List RackExecutionTarget} {phaseIdx : Nat}
    (parts : ordered = before ++ front ++ back) :
    ∃ rows, phaseTargets ordered phaseIdx front.length before.length = .ok rows ∧
      Frozen front before.length (.replicate front.length phaseIdx) rows := by
  induction front generalizing before with
  | nil => exact ⟨[], rfl, rfl, rfl, rfl⟩
  | cons target front ih =>
    have next : before.length + 1 = (before ++ [target]).length := by simp
    have index : ordered[before.length]? = some target := by simp [parts]
    obtain ⟨rest, restDone, frozen⟩ := @ih (before ++ [target]) (by simp [parts])
    rw [← next] at restDone frozen
    let row : PlannedTarget :=
      ⟨target.rackId, before.length, phaseIdx, target.componentsByType.clone, .pending⟩
    have single : Frozen [target] before.length [phaseIdx] [row] := ⟨rfl, rfl, rfl⟩
    refine ⟨row :: rest, ?_, single.append frozen⟩
    rw [length_cons, phaseTargets, index]
    simp only [restDone]
    rfl

/-- The errors of `Plan` without the panic. -/
abbrev Refused (error : PlanError) : Prop := error ≠ .outOfRange

theorem frozen_phasedExecutionTargetsFrom {kind : String}
    {ordered before rest : List RackExecutionTarget} {phaseIdx : Nat} {phaseCounts : List Nat}
    (parts : ordered = before ++ rest) (total : phaseCounts.sum = rest.length) :
    Ends Refused (fun rows => (∀ count ∈ phaseCounts, 0 < count) ∧
        Frozen rest before.length (indices phaseIdx phaseCounts) rows)
      (phasedExecutionTargetsFrom kind ordered phaseIdx before.length phaseCounts) := by
  induction phaseCounts generalizing phaseIdx before rest with
  | nil =>
    rw [length_eq_zero_iff.mp total.symm]
    exact ⟨nofun, rfl, rfl, rfl⟩
  | cons size phaseCounts ih =>
    rw [sum_cons] at total
    unfold phasedExecutionTargetsFrom
    split
    next => nofun
    next notEmpty =>
      have length : (rest.take size).length = size := by
        rw [length_take]
        omega
      have split : rest = rest.take size ++ rest.drop size := (take_append_drop _ _).symm
      have parts : ordered = before ++ rest.take size ++ rest.drop size := by
        rw [parts, append_assoc, ← split]
      obtain ⟨rows, phaseDone, frozen⟩ := @frozen_phaseTargets ordered before _ _ phaseIdx parts
      have others := @ih _ _ (phaseIdx + 1) parts (by rw [length_drop]; omega)
      rw [length] at phaseDone
      rw [length_append, length] at others
      rw [phaseDone]
      refine others.bind fun others ⟨pos, othersFrozen⟩ => ?_
      refine ⟨forall_mem_cons.mpr ⟨pos_of_ne_zero notEmpty, pos⟩, ?_⟩
      have both := frozen.append (by rwa [length])
      rwa [length, ← split] at both

theorem frozen_phasedExecutionTargets (ordered : List RackExecutionTarget)
    (valid : ∀ plan, phasePlan = some plan → plan.validate = .ok ()) :
    Ends Refused
      (fun rows => ∃ counts, phaseTargetCounts ordered.length phasePlan = .ok counts ∧
        counts.sum = ordered.length ∧ (∀ count ∈ counts, 0 < count) ∧
          Frozen ordered 0 (indices 0 counts) rows)
      (phasedExecutionTargets ordered phasePlan) := by
  refine .bind (.mapError (fun _ => nofun) _) fun counts counted => ?_
  have total := sum_phaseTargetCounts valid counted
  exact (@frozen_phasedExecutionTargetsFrom _ ordered [] _ 0 _ rfl total).imp fun rows frozen =>
    ⟨counts, counted, total, frozen⟩

/-! ## Selection -/

variable {percentage : Nat} {selector : PercentageSelector}

section Selection

variable (targetScore : String → Uuid → Nat)

theorem perm_sortBySeedScore (seed : String) (targets : List RackExecutionTarget) :
    (sortBySeedScore targetScore seed targets).Perm targets :=
  perm_insertionSort _ _

theorem ceilDiv_le_length (length : Nat) (le : percentage ≤ 100) :
    ceilDiv (length * percentage) 100 ≤ length := by
  rw [ceilDiv_eq _ (by decide), ceilDiv_le_iff_le_mul (by decide), mul_comm 100]
  exact Nat.mul_le_mul_left length le

theorem percentage_of_validate (valid : selector.validate = .ok ()) :
    1 ≤ selector.percentage ∧ selector.percentage ≤ 100 := by
  unfold PercentageSelector.validate at valid
  split at valid
  next => cases valid
  next within => omega

theorem selectPercentageTargets_eq_take (candidates : List RackExecutionTarget) (seed : String)
    (le : percentage ≤ 100) : selectPercentageTargets targetScore candidates ⟨percentage, seed⟩ =
      .ok ((sortBySeedScore targetScore seed candidates).take
        (ceilDiv (candidates.length * percentage) 100)) := by
  have length := (perm_sortBySeedScore targetScore seed candidates).length_eq
  simp only [selectPercentageTargets, length, ceilDiv_le_length candidates.length le, ↓reduceIte]

/-- The selected targets are some of the candidates, as many as configured. -/
theorem selectPercentageTargets_eq (valid : selector.validate = .ok ())
    (candidates : List RackExecutionTarget) :
    ∃ selected, selectPercentageTargets targetScore candidates selector = .ok selected ∧
      selected.Subperm candidates ∧
        selected.length = (selector.percentage * candidates.length) ⌈/⌉ 100 := by
  have perm := perm_sortBySeedScore targetScore selector.seed candidates
  have le := (percentage_of_validate valid).2
  refine ⟨_, selectPercentageTargets_eq_take targetScore candidates _ le, ?_, ?_⟩
  · exact (take_sublist _ _).subperm.trans perm.subperm
  · rw [length_take, perm.length_eq, min_eq_left (ceilDiv_le_length _ le),
      ceilDiv_eq _ (by decide), mul_comm]

/-- The seed order is total on distinct racks, also where scores agree. -/
theorem sortBySeedScore_eq_of_perm {candidates other : List RackExecutionTarget}
    (distinct : (candidates.map (·.rackId)).Nodup) (perm : other.Perm candidates) (seed : String) :
    sortBySeedScore targetScore seed other = sortBySeedScore targetScore seed candidates := by
  let before (left right : RackExecutionTarget) : Prop :=
    targetScore seed left.rackId < targetScore seed right.rackId ∨
      targetScore seed left.rackId = targetScore seed right.rackId ∧ left.rackId ≤ right.rackId
  have : Std.Total before := ⟨fun left right => by grind⟩
  have : IsTrans _ before := ⟨fun left middle right => by grind⟩
  refine List.Perm.eq_of_pairwise ?_ (pairwise_insertionSort before other)
    (pairwise_insertionSort before candidates) ?_
  · intro left right leftMem rightMem below above
    refine inj_on_of_nodup_map distinct ?_ ?_ (by grind)
    · exact perm.mem_iff.mp ((mem_insertionSort _).mp leftMem)
    · exact (mem_insertionSort _).mp rightMem
  · calc (sortBySeedScore targetScore seed other).Perm other :=
          perm_sortBySeedScore targetScore seed other
      _ |>.Perm candidates := perm
      _ |>.Perm (sortBySeedScore targetScore seed candidates) :=
          (perm_sortBySeedScore targetScore seed candidates).symm

/-- A higher percentage selects the same racks and then more, in seed order, however the
candidates are listed. -/
theorem percentage_stable {candidates : List RackExecutionTarget}
    (distinct : (candidates.map (·.rackId)).Nodup) (seed : String) {smaller larger : Nat}
    (le : smaller ≤ larger) (percent : larger ≤ 100) :
    (∃ few many, selectPercentageTargets targetScore candidates ⟨smaller, seed⟩ = .ok few ∧
        selectPercentageTargets targetScore candidates ⟨larger, seed⟩ = .ok many ∧
        few <+: many ∧ many <+: sortBySeedScore targetScore seed candidates) ∧
      ∀ other, other.Perm candidates → selectPercentageTargets targetScore other ⟨larger, seed⟩ =
          selectPercentageTargets targetScore candidates ⟨larger, seed⟩ := by
  refine ⟨⟨_, _, selectPercentageTargets_eq_take targetScore candidates seed (le.trans percent),
    selectPercentageTargets_eq_take targetScore candidates seed percent, ?_,
    take_prefix _ _⟩, fun other perm => ?_⟩
  · exact take_prefix_take_left (ceilDiv_mono 100 (Nat.mul_le_mul_left _ le))
  · simp only [selectPercentageTargets, sortBySeedScore_eq_of_perm targetScore distinct perm seed]

end Selection

/-- Where the scores agree, the ids decide. -/
def twoRacks : List RackExecutionTarget := [⟨2, fun _ => none⟩, ⟨1, fun _ => none⟩]

theorem percentage_stable_twoRacks :
    ∃ few many, selectPercentageTargets (fun _ _ => 0) twoRacks ⟨50, "seed"⟩ = .ok few ∧
      selectPercentageTargets (fun _ _ => 0) twoRacks ⟨100, "seed"⟩ = .ok many ∧ few <+: many := by
  have distinct : (twoRacks.map (·.rackId)).Nodup := by decide
  obtain ⟨⟨few, many, fewEq, manyEq, isPrefix, -⟩, -⟩ :=
    percentage_stable (fun _ _ => 0) distinct "seed" (by decide : 50 ≤ 100) le_rfl
  exact ⟨few, many, fewEq, manyEq, isPrefix⟩

/-! ## Plans -/

section Frozen

variable {ordered : List RackExecutionTarget} {seqIdx : Nat} {phases : List Nat}
  {rows : List PlannedTarget}

variable (frozen : Frozen ordered seqIdx phases rows)
include frozen

theorem Frozen.length_eq : rows.length = ordered.length := by
  have length := congrArg List.length frozen.sequence
  rwa [length_map, length_range'] at length

theorem Frozen.map_rackId : rows.map (·.rackId) = ordered.map (·.rackId) := by
  have racks := congrArg (List.map Prod.fst) frozen.targets
  rwa [map_map, map_map] at racks

theorem Frozen.exists_target {row : PlannedTarget} (rowMem : row ∈ rows) :
    ∃ target ∈ ordered, target.rackId = row.rackId ∧
      row.componentsByType = target.componentsByType.clone := by
  have pairMem : (row.rackId, row.componentsByType) ∈
      rows.map fun row => (row.rackId, row.componentsByType) := mem_map.mpr ⟨row, rowMem, rfl⟩
  rw [frozen.targets] at pairMem
  obtain ⟨target, targetMem, same⟩ := mem_map.mp pairMem
  exact ⟨target, targetMem, congrArg Prod.fst same, (congrArg Prod.snd same).symm⟩

theorem Frozen.countP_phaseIndex (phase : Nat) :
    rows.countP (·.phaseIndex = phase) = phases.count phase := by
  rw [← frozen.phases, count_eq_countP, countP_map]
  exact countP_congr fun row _ => by simp

theorem Frozen.mem_phases_iff {phase : Nat} :
    phase ∈ phases ↔ ∃ row ∈ rows, row.phaseIndex = phase := by
  rw [← frozen.phases, mem_map]

end Frozen

theorem phasedPartition_of_frozen {base excluded candidates ordered : List RackExecutionTarget}
    {rows : List PlannedTarget} (found : Candidates base excluded candidates)
    (selection : ordered.Subperm candidates)
    (length : ordered.length = (percentage * candidates.length) ⌈/⌉ 100)
    (counted : phaseTargetCounts ordered.length phasePlan = .ok counts)
    (total : counts.sum = ordered.length) (pos : ∀ count ∈ counts, 0 < count)
    (frozen : Frozen ordered 0 (indices 0 counts) rows) :
    PhasedPartition base excluded percentage phasePlan rows := by
  have target {row : PlannedTarget} (rowMem : row ∈ rows) : ∃ target ∈ candidates,
      target.rackId = row.rackId ∧ row.componentsByType = target.componentsByType.clone := by
    obtain ⟨target, targetMem, facts⟩ := frozen.exists_target rowMem
    exact ⟨target, selection.subset targetMem, facts⟩
  constructor
  · rw [frozen.map_rackId]
    obtain ⟨sorted, perm, sublist⟩ := selection
    exact (perm.map _).nodup_iff.mp (found.nodup.sublist (sublist.map _))
  · intro row rowMem
    obtain ⟨target, targetMem, sameRack, -⟩ := target rowMem
    rw [found.mem_iff, ← sameRack]
    exact mem_map_of_mem targetMem
  · rw [frozen.length_eq, length, found.ncard_eq]
  · intro row rowMem type id
    obtain ⟨target, targetMem, sameRack, components⟩ := target rowMem
    rw [components, ids_clone, mem_sortComponentUUIDs,
      found.mem_ids_iff targetMem, found.listed, sameRack]
  · intro row rowMem type
    obtain ⟨target, targetMem, -, components⟩ := target rowMem
    rw [components]
    exact (found.normal target targetMem).clone.nodup type
  · rw [frozen.sequence, frozen.length_eq, range_eq_range']
  · rw [frozen.phases]
    exact pairwise_indices 0 counts
  · refine ⟨counts, frozen.length_eq ▸ counted, total.trans frozen.length_eq.symm, pos, ?_⟩
    intro phase
    rw [frozen.countP_phaseIndex, ← count_indices 0, zero_add]
  · intro row rowMem phase before
    have inside := (mem_indices_iff pos).mp
      (frozen.mem_phases_iff.mpr ⟨row, rowMem, rfl⟩)
    exact frozen.mem_phases_iff.mp
      ((mem_indices_iff pos).mpr (lt_of_le_of_lt before inside))

theorem decodedSelector_eq (decoded : run.decodedSelector = .ok selector) :
    selector.validate = .ok () := by
  obtain ⟨stored, -, decoded⟩ := bind_eq_ok.mp decoded
  obtain ⟨_, valid, result⟩ := bind_eq_ok.mp decoded
  cases result
  exact mapError_eq_ok.mp valid

theorem decodedOptions_phasePlan {options : PlannedOptions}
    (decoded : run.decodedOptions = .ok options) (plan : PhasePlan)
    (configured : options.phasePlan = some plan) : plan.validate = .ok () := by
  obtain ⟨stored, -, decoded⟩ := bind_eq_ok.mp decoded
  obtain ⟨_, valid, result⟩ := bind_eq_ok.mp decoded
  cases result
  have valid := mapError_eq_ok.mp valid
  unfold PlannedOptions.validate at valid
  split at valid
  next => cases valid
  next =>
    obtain ⟨_, -, valid⟩ := bind_eq_ok.mp valid
    obtain ⟨_, -, valid⟩ := bind_eq_ok.mp valid
    obtain ⟨_, -, valid⟩ := bind_eq_ok.mp valid
    rw [configured] at valid
    exact mapError_eq_ok.mp valid

theorem plannedTargets_ends {targetScore : String → Uuid → Nat}
    {base excluded candidates selected : List RackExecutionTarget}
    (found : Candidates base excluded candidates) (selection : selected.Subperm candidates)
    (length : selected.length = (percentage * candidates.length) ⌈/⌉ 100) :
    Ends Refused
      (fun rows => rows ≠ [] → ∃ options, run.decodedOptions = .ok options ∧
        PhasedPartition base excluded percentage options.phasePlan rows)
      (plannedTargets targetScore run selected) := by
  unfold plannedTargets
  split
  next => exact fun notEmpty => absurd rfl notEmpty
  next =>
    refine .bind (.mapError (fun _ => nofun) _) fun options decoded => ?_
    cases options.orderingPolicy with
    | physicalLocation => nofun
    | random seed =>
      have perm := perm_sortBySeedScore targetScore seed selected
      refine (frozen_phasedExecutionTargets (sortBySeedScore targetScore seed selected)
        (decodedOptions_phasePlan decoded)).imp ?_
      rintro rows ⟨counts, counted, total, pos, frozen⟩ -
      exact ⟨options, decoded, phasedPartition_of_frozen found (perm.subperm.trans selection)
        (perm.length_eq.trans length) counted total pos frozen⟩

/-- A plan that succeeds with a non-empty result is an exact phased partition of the candidate
racks, and no plan indexes out of range. -/
theorem partition_of_plan (targetScore : String → Uuid → Nat) (lookup : TargetLookup σ)
    (lookupOptions : TargetLookupOptions) (run : RunConfiguration σ) :
    plan targetScore lookup lookupOptions run ≠ .error .outOfRange ∧
      ∀ rows, plan targetScore lookup lookupOptions run = .ok rows → rows ≠ [] →
        ∃ operation base excluded selector options, run.operation = .ok operation ∧
          (buildTargetScope lookup operation lookupOptions).2 = .ok base ∧
            excludedTargets lookup operation lookupOptions = .ok excluded ∧
              run.decodedSelector = .ok selector ∧ run.decodedOptions = .ok options ∧
                PhasedPartition base excluded selector.percentage options.phasePlan rows := by
  refine ends_ne_iff.mp (.bind (.mapError (fun _ => nofun) _) fun candidates found => ?_)
  unfold selectedTargets
  split
  next => exact fun notEmpty => absurd rfl notEmpty
  next filled =>
    obtain ⟨operation, base, excluded, decoded, built, excludedDone, found⟩ :=
      candidates_of_candidates found fun empty => filled (List.isEmpty_iff.mpr empty)
    rw [bind_assoc]
    refine .bind (.mapError (fun _ => nofun) _) fun selector selectorDecoded => ?_
    obtain ⟨selected, selectDone, selection, length⟩ :=
      selectPercentageTargets_eq targetScore (decodedSelector_eq selectorDecoded) candidates
    rw [selectDone]
    refine (plannedTargets_ends found selection length).imp fun rows partition notEmpty => ?_
    obtain ⟨options, optionsDecoded, partition⟩ := partition notEmpty
    exact ⟨operation, base, excluded, selector, options, decoded, built, excludedDone,
      selectorDecoded, optionsDecoded, partition⟩

/-- Racks 1 to 4 with rack 2 listed twice, where the component of rack 4 was in an earlier
run. -/
def fourRacks : TargetLookup Unit where
  targetsFromDefaultScope _ _ := .ok
    [⟨1, update (fun _ => none) .compute (some [11, 12, 11])⟩,
      ⟨2, update (fun _ => none) .compute (some [21])⟩,
      ⟨3, update (fun _ => none) .nvSwitch (some [31])⟩,
      ⟨2, update (fun _ => none) .powerShelf (some [22])⟩,
      ⟨4, update (fun _ => none) .compute (some [41])⟩]
  targetsFromSpec _ _ := .error "no target spec"
  targetsFromRuns _ _ := .ok
    [⟨1, update (fun _ => none) .compute (some [12])⟩,
      ⟨4, update (fun _ => none) .compute (some [41])⟩]

/-- 60 percent of the racks, one rack first. -/
def canaryRun : RunConfiguration Unit where
  operation := .ok ⟨none, [90]⟩
  selector := .ok ⟨60, "seed"⟩
  options := .ok
    { maxConcurrentTargets := 1
      gates := []
      conflictPolicy := ⟨3600, 10, 60⟩
      autoAdvance := true
      orderingPolicy := .random "order"
      phasePlan := some (.count [1]) }

theorem partition_of_canaryRun :
    ∃ rows, plan (fun _ rack => 10 - rack) fourRacks ⟨0⟩ canaryRun = .ok rows ∧
      rows.map (fun row => (row.rackId, row.phaseIndex)) = [(3, 0), (2, 1)] ∧
        ∃ base excluded, PhasedPartition base excluded 60 (some (.count [1])) rows := by
  obtain ⟨operation, base, excluded, selector, options, -, -, -, ⟨⟩, ⟨⟩, partition⟩ :=
    (partition_of_plan (fun _ rack => 10 - rack) fourRacks ⟨0⟩ canaryRun).2 _ rfl (cons_ne_nil _ _)
  exact ⟨_, rfl, by decide, base, excluded, partition⟩

end Flow.Planner
