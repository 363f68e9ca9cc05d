import Mathlib.Tactic.Linarith

/-!
# Partial transition systems

A machine moves from state to state by actions. An action that is not enabled in a state has no
next state, so a run is a list of enabled actions. Concurrent programs are machines whose actions
name the party that moves: the runs are then the interleavings.
-/

/-- A deterministic machine with partial actions. -/
structure Machine (α σ : Type*) where
  step : α → σ → Option σ

namespace Machine

variable {α σ : Type*} (machine : Machine α σ)

def run : List α → σ → Option σ
  | [], state => some state
  | action :: actions, state => (machine.step action state).bind (run actions)

/-- Every action of a run meets a condition in the state before it. -/
def Meets (condition : σ → α → Prop) : List α → σ → Prop
  | [], _ => True
  | action :: actions, state =>
    condition state action ∧
      ∀ next ∈ machine.step action state, Meets condition actions next

instance instDecidableMeets {condition : σ → α → Prop}
    [∀ state action, Decidable (condition state action)] :
    (actions : List α) → (state : σ) → Decidable (machine.Meets condition actions state)
  | [], _ => .isTrue trivial
  | action :: actions, state =>
    have (next : σ) : Decidable (machine.Meets condition actions next) :=
      instDecidableMeets actions next
    inferInstanceAs (Decidable (condition state action ∧
      ∀ next ∈ machine.step action state, machine.Meets condition actions next))

variable {actions : List α} {state : σ} {final : σ}

theorem run_cons_eq_some {action : α} :
    machine.run (action :: actions) state = some final ↔
      ∃ next, machine.step action state = some next ∧ machine.run actions next = some final :=
  Option.bind_eq_some_iff

variable {machine}

variable {condition : σ → α → Prop}

/-- What every action keeps under a condition holds at the end of every run whose
actions meet the condition. -/
theorem run_induction (invariant : σ → Prop)
    (preserved : ∀ action state next, invariant state → condition state action →
      machine.step action state = some next → invariant next)
    (initially : invariant state) (meets : machine.Meets condition actions state)
    (ran : machine.run actions state = some final) : invariant final := by
  induction actions generalizing state with
  | nil =>
    cases ran
    exact initially
  | cons action actions ih =>
    obtain ⟨next, moved, ran⟩ := (run_cons_eq_some machine).mp ran
    apply ih _ (meets.2 next moved) ran
    exact preserved action state next initially meets.1 moved

theorem meets_append {before after : List α} {middle : σ}
    (meets : machine.Meets condition (before ++ after) state)
    (ran : machine.run before state = some middle) :
    machine.Meets condition before state ∧ machine.Meets condition after middle := by
  induction before generalizing state with
  | nil =>
    cases ran
    exact ⟨trivial, meets⟩
  | cons action before ih =>
    obtain ⟨next, moved, ran⟩ := (run_cons_eq_some machine).mp ran
    obtain ⟨meetsBefore, meetsAfter⟩ := ih (meets.2 next moved) ran
    refine ⟨⟨meets.1, fun other otherMem => ?_⟩, meetsAfter⟩
    cases moved.symm.trans otherMem
    exact meetsBefore

/-- What every action keeps holds at the end of every run. -/
theorem run_invariant (invariant : σ → Prop) (preserved : ∀ action state next, invariant state →
      machine.step action state = some next → invariant next)
    (initially : invariant state) (ran : machine.run actions state = some final) :
    invariant final := by
  induction actions generalizing state with
  | nil =>
    cases ran
    exact initially
  | cons action actions ih =>
    obtain ⟨next, moved, ran⟩ := (run_cons_eq_some machine).mp ran
    exact ih (preserved action state next initially moved) ran

end Machine
