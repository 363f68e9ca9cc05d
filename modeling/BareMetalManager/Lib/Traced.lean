import BareMetalManager.Lib.Checked

/-!
# Computations that call out

A computation that returns a value or fails, together with the calls that it has made to
an outside component, also those before a failure.
-/

/-- The outcome of a computation and its calls in order. -/
structure Traced (ε κ α : Type*) where
  result : Except ε α
  calls : List κ

namespace Traced

open List

universe u

variable {ε κ : Type*} {α β : Type u}

def ofExcept (result : Except ε α) : Traced ε κ α := ⟨result, []⟩

def fail (err : ε) : Traced ε κ α := ofExcept (.error err)

def call (made : κ) : Traced ε κ Unit := ⟨.ok (), [made]⟩

/-- Go on after a computation that has returned. -/
def bind (computation : Traced ε κ α) (continuation : α → Traced ε κ β) : Traced ε κ β :=
  match computation.result with
  | .error err => ⟨.error err, computation.calls⟩
  | .ok value =>
    ⟨(continuation value).result, computation.calls ++ (continuation value).calls⟩

instance : Monad (Traced ε κ) where
  pure value := ofExcept (.ok value)
  bind := bind

variable (value : α)

@[simp] theorem pure_result : (pure value : Traced ε κ α).result = .ok value := rfl

@[simp] theorem pure_calls : (pure value : Traced ε κ α).calls = [] := rfl

@[simp] theorem ofExcept_ok_bind (continuation : α → Traced ε κ β) :
    (ofExcept (.ok value) >>= continuation : Traced ε κ β) = continuation value := rfl

variable {computation : Traced ε κ α} {continuation : α → Traced ε κ β}

theorem bind_result_eq_ok {value : β} : (computation >>= continuation).result = .ok value ↔
      ∃ middle, computation.result = .ok middle ∧ (continuation middle).result = .ok value := by
  change (bind computation continuation).result = _ ↔ _
  unfold bind
  cases computation.result <;> simp

@[simp] theorem bind_pure_calls (computation : Traced ε κ α) (result : α → β) :
    (computation >>= fun value => pure (result value) : Traced ε κ β).calls = computation.calls :=
      by
  change (bind computation _).calls = _
  unfold bind
  cases computation.result with
  | error err => rfl
  | ok value => exact append_nil _

theorem mem_bind_calls {made : κ} :
    made ∈ (computation >>= continuation).calls ↔ made ∈ computation.calls ∨
        ∃ value, computation.result = .ok value ∧ made ∈ (continuation value).calls := by
  change made ∈ (bind computation continuation).calls ↔ _
  unfold bind
  cases computation.result <;> simp

/-- All calls of a computation satisfy a property, and a failure is of an allowed kind. -/
structure Respects (allowed : κ → Prop) (tolerated : ε → Prop) (computation : Traced ε κ α) :
    Prop where
  calls : ∀ made ∈ computation.calls, allowed made
  failures : ∀ err, computation.result = .error err → tolerated err

variable {allowed : κ → Prop} {tolerated : ε → Prop}

theorem Respects.ofExcept {result : Except ε α}
    (failures : ∀ err, result = .error err → tolerated err) :
    (.ofExcept result : Traced ε κ α).Respects allowed tolerated where
  calls := by
    nofun
  failures := failures

theorem Respects.pure : (Pure.pure value : Traced ε κ α).Respects allowed tolerated := by
  refine .ofExcept ?_
  nofun

theorem Respects.fail {err : ε} (holds : tolerated err) :
    (.fail err : Traced ε κ α).Respects allowed tolerated := by
  refine .ofExcept ?_
  rintro other ⟨⟩
  exact holds

theorem Respects.call {made : κ} (holds : allowed made) :
    (.call made : Traced ε κ Unit).Respects allowed tolerated where
  calls := by
    intro other mem
    rwa [mem_singleton.mp mem]
  failures := by
    nofun

/-- A computation followed by another one. The second only matters after a return. -/
theorem Respects.bind (first : computation.Respects allowed tolerated)
    (second : ∀ value, computation.result = .ok value →
      (continuation value).Respects allowed tolerated) :
    (computation >>= continuation).Respects allowed tolerated := by
  change (Traced.bind computation continuation).Respects allowed tolerated
  unfold Traced.bind
  cases resultEq : computation.result with
  | error err =>
    refine ⟨first.calls, ?_⟩
    rintro other ⟨⟩
    exact first.failures err resultEq
  | ok value =>
    have rest := second value resultEq
    exact ⟨forall_mem_append.mpr ⟨first.calls, rest.calls⟩, rest.failures⟩

/-! ## Folds -/

section Fold

variable {σ ι : Type u} {step : σ → ι → Traced ε κ σ}

theorem bind_of_error {err : ε} (failed : computation.result = .error err) :
    computation >>= continuation = ⟨.error err, computation.calls⟩ := by
  change bind computation continuation = _
  rw [bind, failed]

theorem bind_of_ok {value : α} (returned : computation.result = .ok value) :
    computation >>= continuation =
      ⟨(continuation value).result, computation.calls ++ (continuation value).calls⟩ := by
  change bind computation continuation = _
  rw [bind, returned]

variable {items : List ι}

/-- A fold keeps an invariant of the items that are done, the state and the calls, and ends
after all items with it; where a step fails, the calls made so far have to be safe. -/
theorem foldlM_run {Inv : List ι → σ → List κ → Prop} {Safe : List κ → Prop}
    (advance : ∀ done item rest state trace, done ++ item :: rest = items → Inv done state trace →
      (∀ next, (step state item).result = .ok next →
        Inv (done ++ [item]) next (trace ++ (step state item).calls)) ∧
      ∀ err, (step state item).result = .error err → Safe (trace ++ (step state item).calls))
    {initial : σ} (start : Inv [] initial []) :
    (∀ final, (items.foldlM step initial).result = .ok final →
      Inv items final (items.foldlM step initial).calls) ∧
      ∀ err, (items.foldlM step initial).result = .error err →
        Safe (items.foldlM step initial).calls := by
  suffices general : ∀ rest done state trace, done ++ rest = items → Inv done state trace →
      (∀ final, (rest.foldlM step state).result = .ok final →
        Inv items final (trace ++ (rest.foldlM step state).calls)) ∧
      ∀ err, (rest.foldlM step state).result = .error err →
        Safe (trace ++ (rest.foldlM step state).calls) by
    simpa using general items [] initial [] rfl start
  intro rest
  induction rest with
  | nil =>
    intro done state trace all inv
    subst all
    constructor
    · rintro final ⟨⟩
      simpa [foldlM] using inv
    · rintro err ⟨⟩
  | cons item rest ih =>
    intro done state trace all inv
    obtain ⟨onOk, onError⟩ := advance done item rest state trace all inv
    rw [foldlM_cons]
    cases stepped : (step state item).result with
    | error err =>
      rw [bind_of_error stepped]
      constructor
      · rintro final ⟨⟩
      · rintro other ⟨⟩
        exact onError err stepped
    | ok next =>
      have later := ih (done ++ [item]) next _ (by simpa using all) (onOk next stepped)
      rwa [bind_of_ok stepped, ← append_assoc]

theorem Respects.foldlM
    (each : ∀ state, ∀ item ∈ items, (step state item).Respects allowed tolerated) (initial : σ) :
    (items.foldlM step initial).Respects allowed tolerated := by
  induction items generalizing initial with
  | nil => exact .pure initial
  | cons item items ih =>
    refine .bind (each initial item mem_cons_self) fun next _ => ?_
    exact ih (fun state other member => each state other (mem_cons_of_mem _ member)) next

end Fold

end Traced
