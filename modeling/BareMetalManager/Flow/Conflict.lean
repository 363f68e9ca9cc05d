import BareMetalManager.Flow.Task

/-!
# The conflict rule

The table of operations that exclude each other on a rack, from
`rest-api/flow/internal/task/conflict/conflict.go`. The wildcard `"*"` of an operation type
is `none`.
-/

namespace Flow

open List

structure OperationSpec where
  operationType : Option TaskType
  operationCode : String := ""
  /-- `unknown` is the wildcard. -/
  componentType : ComponentType := .unknown

/-- `Matches`. The component type is compared with the task, not here. -/
def OperationSpec.matchesSpec (spec op : OperationSpec) : Bool :=
  let typeMatch := spec.operationType == none || spec.operationType == op.operationType
  let codeMatch :=
    spec.operationCode == "" || spec.operationCode == "*" ||
      spec.operationCode == op.operationCode
  typeMatch && codeMatch

def Task.operationSpec (task : Task) : OperationSpec where
  operationType := some task.operation.type
  operationCode := task.operation.code

def Operation.spec (operation : Operation) : OperationSpec where
  operationType := some operation.type
  operationCode := operation.code

def hasComponentType (task : Task) (type : ComponentType) : Bool :=
  type == .unknown || !(task.attributes.componentsByType type).isEmpty

def componentUUIDsOverlap (left right : Task) : Bool :=
  right.attributes.allComponentUUIDs.any fun id => id ∈ left.attributes.allComponentUUIDs

theorem componentUUIDsOverlap_comm (left right : Task) :
    componentUUIDsOverlap left right = componentUUIDsOverlap right left := by
  rw [Bool.eq_iff_iff]
  simp only [componentUUIDsOverlap, any_eq_true, decide_eq_true_eq]
  exact exists_congr fun id => and_comm

structure Entry where
  a : OperationSpec
  b : OperationSpec
  requireComponentOverlap : Bool := false

namespace Entry

variable (entry : Entry)

def opMatch (left right : OperationSpec) : Bool :=
  entry.a.matchesSpec left && entry.b.matchesSpec right

def componentMatch (left right : Task) : Bool :=
  hasComponentType left entry.a.componentType && hasComponentType right entry.b.componentType

/-- The body of the loop over the entries in `Conflicts`. -/
def conflicts (incoming active : Task) : Bool :=
  if !entry.opMatch incoming.operationSpec active.operationSpec &&
      !entry.opMatch active.operationSpec incoming.operationSpec then
    false
  else
    let componentMatch :=
      (entry.opMatch incoming.operationSpec active.operationSpec &&
          entry.componentMatch incoming active) ||
        (entry.opMatch active.operationSpec incoming.operationSpec &&
          entry.componentMatch active incoming)
    componentMatch &&
      (!entry.requireComponentOverlap || componentUUIDsOverlap incoming active)

theorem conflicts_comm (incoming active : Task) :
    entry.conflicts incoming active = entry.conflicts active incoming := by
  unfold conflicts
  rw [componentUUIDsOverlap_comm incoming active]
  simp only [Bool.and_comm, Bool.or_comm]

/-- The operations of tasks that conflict match in one of the directions. -/
theorem opMatch_of_conflicts {incoming active : Task}
    (conflicts : entry.conflicts incoming active) :
    (entry.opMatch incoming.operation.spec active.operation.spec ||
      entry.opMatch active.operation.spec incoming.operation.spec) = true := by
  unfold Entry.conflicts at conflicts
  split at conflicts
  next => cases conflicts
  next matched =>
    rw [Bool.and_eq_true, not_and_or, Bool.not_eq_true', Bool.not_eq_true',
      Bool.not_eq_false, Bool.not_eq_false] at matched
    exact (Bool.or_eq_true _ _).mpr matched

theorem conflicts_congr {incoming active newIncoming newActive : Task}
    (sameIncoming : incoming.SameWork newIncoming) (sameActive : active.SameWork newActive) :
    entry.conflicts incoming active = entry.conflicts newIncoming newActive := by
  unfold conflicts componentMatch hasComponentType componentUUIDsOverlap Task.operationSpec
  rw [sameIncoming.operation, sameActive.operation, sameIncoming.attributes, sameActive.attributes]

end Entry

structure Rule where
  conflictingPairs : List Entry

namespace Rule

/-- `Conflicts`: without pairs every active task is a conflict. -/
def conflicts (rule : Rule) (incoming : Task) (activeTasks : List Task) : Bool :=
  if rule.conflictingPairs.isEmpty then !activeTasks.isEmpty
  else
    activeTasks.any fun active =>
      rule.conflictingPairs.any fun entry => entry.conflicts incoming active

variable {rule : Rule}

theorem conflicts_eq_any (nonempty : rule.conflictingPairs ≠ []) (incoming : Task)
    (activeTasks : List Task) :
    rule.conflicts incoming activeTasks = activeTasks.any fun active =>
        rule.conflictingPairs.any fun entry => entry.conflicts incoming active := by
  rw [conflicts, if_neg]
  rwa [List.isEmpty_iff]

theorem conflicts_iff_exists (incoming : Task) (activeTasks : List Task) :
    rule.conflicts incoming activeTasks ↔
      ∃ active ∈ activeTasks, rule.conflicts incoming [active] := by
  by_cases empty : rule.conflictingPairs = []
  · simp only [conflicts, empty, isEmpty_nil, ↓reduceIte, isEmpty_cons, Bool.not_false, and_true]
    cases activeTasks with
    | nil => simp only [isEmpty_nil, Bool.not_true, Bool.false_eq_true, not_mem_nil, exists_false]
    | cons active activeTasks =>
      simp only [isEmpty_cons, Bool.not_false, true_iff]
      exact ⟨active, mem_cons_self⟩
  · simp only [conflicts_eq_any empty, any_eq_true, mem_singleton, exists_eq_left]

theorem conflicts_comm (nonempty : rule.conflictingPairs ≠ []) (left right : Task) :
    rule.conflicts left [right] = rule.conflicts right [left] := by
  simp only [conflicts_eq_any nonempty, any_cons, any_nil, Bool.or_false,
    Entry.conflicts_comm _ left right]

end Rule

/-! ## The builtin rule -/

/-- `builtinRule`. -/
def builtinRule : Rule where
  conflictingPairs :=
    [ -- Operations on power shelves block power and firmware operations of the whole rack.
      { a := { operationType := some .powerControl, componentType := .powerShelf }
        b := { operationType := some .powerControl } },
      { a := { operationType := some .powerControl, componentType := .powerShelf }
        b := { operationType := some .firmwareControl } },
      { a := { operationType := some .powerControl, componentType := .compute }
        b := { operationType := some .powerControl, componentType := .compute }
        requireComponentOverlap := true },
      { a := { operationType := some .powerControl, componentType := .nvSwitch }
        b := { operationType := some .powerControl, componentType := .nvSwitch }
        requireComponentOverlap := true },
      { a := { operationType := some .powerControl, componentType := .compute }
        b := { operationType := some .firmwareControl, componentType := .compute }
        requireComponentOverlap := true },
      { a := { operationType := some .powerControl, componentType := .nvSwitch }
        b := { operationType := some .firmwareControl, componentType := .nvSwitch }
        requireComponentOverlap := true },
      { a := { operationType := some .firmwareControl }
        b := { operationType := some .firmwareControl }
        requireComponentOverlap := true },
      -- Bringing up and decommissioning a rack block everything else on it.
      { a := { operationType := some .bringUp }
        b := { operationType := none } },
      { a := { operationType := some .decommission }
        b := { operationType := none } } ]

/-- `HasScheduleConflict`: the components are not known before a schedule fires. -/
def hasScheduleConflict (incoming : Operation) (existing : List Operation) : Bool :=
  existing.any fun active =>
    builtinRule.conflictingPairs.any fun entry =>
      entry.opMatch incoming.spec active.spec || entry.opMatch active.spec incoming.spec

theorem builtinRule_pairs : builtinRule.conflictingPairs ≠ [] := cons_ne_nil _ _

variable {incoming : Task} {activeTasks : List Task}

/-- The check of a schedule finds every conflict that its tasks would have. -/
theorem hasScheduleConflict_of_conflicts (conflicts : builtinRule.conflicts incoming activeTasks) :
    hasScheduleConflict incoming.operation (activeTasks.map (·.operation)) := by
  rw [Rule.conflicts_eq_any builtinRule_pairs, any_eq_true] at conflicts
  obtain ⟨active, activeMem, conflicts⟩ := conflicts
  obtain ⟨entry, entryMem, conflicts⟩ := any_eq_true.mp conflicts
  exact any_eq_true.mpr ⟨active.operation, mem_map_of_mem activeMem,
    any_eq_true.mpr ⟨entry, entryMem, entry.opMatch_of_conflicts conflicts⟩⟩

/-- The rule is symmetric and looks at the active tasks one by one, and the check of a schedule
is conservative. -/
theorem conflict_laws {rule : Rule} (nonempty : rule.conflictingPairs ≠ []) :
    (∀ left right, rule.conflicts left [right] = rule.conflicts right [left]) ∧
      (∀ incoming activeTasks, rule.conflicts incoming activeTasks ↔
        ∃ active ∈ activeTasks, rule.conflicts incoming [active]) ∧
      ∀ incoming activeTasks, builtinRule.conflicts incoming activeTasks →
        hasScheduleConflict incoming.operation (activeTasks.map (·.operation)) :=
  ⟨Rule.conflicts_comm nonempty, Rule.conflicts_iff_exists,
    fun _ _ => hasScheduleConflict_of_conflicts⟩

theorem conflict_laws_builtinRule : builtinRule.conflictingPairs ≠ [] ∧
    ∀ left right, builtinRule.conflicts left [right] = builtinRule.conflicts right [left] :=
  ⟨builtinRule_pairs, (conflict_laws builtinRule_pairs).1⟩

def Task.Conflicting (left right : Task) : Prop := builtinRule.conflicts left [right]

instance (left right : Task) : Decidable (left.Conflicting right) :=
  inferInstanceAs (Decidable (_ = true))

namespace Task.Conflicting

theorem symm {left right : Task} (conflicting : left.Conflicting right) : right.Conflicting left :=
  (Rule.conflicts_comm builtinRule_pairs right left).trans conflicting

theorem of_sameWork {left right newLeft newRight : Task} (conflicting : left.Conflicting right)
    (sameLeft : left.SameWork newLeft) (sameRight : right.SameWork newRight) :
    newLeft.Conflicting newRight := by
  simpa only [Task.Conflicting, Rule.conflicts_eq_any builtinRule_pairs, any_cons, any_nil,
    Bool.or_false, Entry.conflicts_congr _ sameLeft sameRight] using conflicting

end Task.Conflicting

theorem not_conflicting_of_not_conflicts {active : Task}
    (clear : builtinRule.conflicts incoming activeTasks = false)
    (activeMem : active ∈ activeTasks) : ¬incoming.Conflicting active := by
  intro conflicting
  have conflicts := (Rule.conflicts_iff_exists incoming activeTasks).mpr
    ⟨active, activeMem, conflicting⟩
  rw [clear] at conflicts
  cases conflicts

end Flow
