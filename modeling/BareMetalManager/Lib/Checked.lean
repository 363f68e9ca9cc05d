import Mathlib.Tactic.Linarith

/-!
# Computations that may panic

Rust code stops with a panic where an `unwrap` meets `None`, an `unreachable!` arm is taken,
checked arithmetic leaves the range of its type, or an index or a slice leaves its bounds. Such a
computation is modelled as `Checked`, so a result `ok` says that no such site was reached.
-/

inductive Panic where
  | unwrapNone
  | unreachable
  | overflow
  | outOfBounds
  deriving DecidableEq, Repr

/-- Why a function that may panic and may return an error has no value. -/
inductive Failure (ε : Type _) where
  | panic (reason : Panic)
  | error (err : ε)
  deriving DecidableEq

/-- A computation that returns a value or panics. -/
abbrev Checked (α : Type _) := Except Panic α

namespace Checked

open List

variable {ε δ α β γ σ : Type _}

/-- `Option::unwrap`. -/
def unwrap {α : Type _} : Option α → Checked α
  | some value => .ok value
  | none => .error .unwrapNone

@[simp] theorem unwrap_some (value : α) :
    unwrap (some value) = .ok value := rfl

/-- A panic as a failure of a function that may also return errors. -/
def orPanic {ε α : Type _} (computation : Checked α) : Except (Failure ε) α :=
  computation.mapError .panic

@[simp] theorem orPanic_ok (value : α) :
    (orPanic (.ok value) : Except (Failure ε) α) = .ok value := rfl

/-- `Option::ok_or`. -/
def okOr {ε α : Type _} (reason : ε) : Option α → Except ε α
  | some value => .ok value
  | none => .error reason

variable {reason : ε}

theorem okOr_eq_ok {value : α} {found : Option α} :
    okOr reason found = .ok value ↔ found = some value := by
  cases found <;> simp [okOr]

def rejectIf {ε : Type _} (condition : Bool) (reason : ε) : Except ε Unit :=
  if condition then .error reason else .ok ()

theorem rejectIf_eq_ok {condition : Bool} :
    rejectIf condition reason = .ok () ↔ condition = false := by
  cases condition <;> simp [rejectIf]

/-- The addition of unsigned integers of `w` bits, with overflow checks. -/
def add (w left right : Nat) : Checked Nat :=
  if left + right < 2 ^ w then .ok (left + right) else .error .overflow

/-- The subtraction of unsigned integers, with overflow checks. -/
def sub (left right : Nat) : Checked Nat :=
  if right ≤ left then .ok (left - right) else .error .overflow

theorem sub_eq_ok {left right : Nat} (le : right ≤ left) : sub left right = .ok (left - right) :=
  if_pos le

/-- The bit of the given weight as an unsigned integer of `w` bits, with overflow checks. -/
def oneShiftLeft (w shift : Nat) : Checked Nat :=
  if shift < w then .ok (2 ^ shift) else .error .overflow

theorem oneShiftLeft_eq_ok {w shift : Nat} (lt : shift < w) :
    oneShiftLeft w shift = .ok (2 ^ shift) :=
  if_pos lt

variable {computation : Except ε α}

theorem error_ite_eq_ok {condition : Prop} [Decidable condition] {value : α} :
    (if condition then .error reason else computation) = .ok value ↔
      ¬condition ∧ computation = .ok value := by
  split <;> simp [*]

variable {continuation : α → Except ε β}

theorem bind_eq_ok {result : β} :
    (computation >>= continuation) = .ok result ↔
      ∃ value, computation = .ok value ∧ continuation value = .ok result := by
  cases computation <;> simp [bind, Except.bind]

variable {relabel : ε → δ}

theorem mapError_eq_ok {result : α} :
    computation.mapError relabel = .ok result ↔ computation = .ok result := by
  cases computation <;> simp [Except.mapError]

variable {step : α → Except ε β} {items : List α}

theorem mapM_eq_ok {result : α → β} (each : ∀ item ∈ items, step item = .ok (result item)) :
    items.mapM step = .ok (items.map result) := by
  induction items with
  | nil => rfl
  | cons item items ih =>
    rw [mapM_cons, each item mem_cons_self, ih fun other mem => each other (mem_cons_of_mem _ mem)]
    rfl

theorem map_of_mapM_eq_ok {image : β → γ} {expected : α → γ}
    (each : ∀ item value, step item = .ok value → image value = expected item) {values : List β}
    (done : items.mapM step = .ok values) :
    values.map image = items.map expected := by
  induction items generalizing values with
  | nil =>
    cases done
    rfl
  | cons item items ih =>
    rw [mapM_cons] at done
    obtain ⟨first, isFirst, done⟩ := bind_eq_ok.mp done
    obtain ⟨rest, isRest, done⟩ := bind_eq_ok.mp done
    cases done
    rw [map_cons, map_cons, each item first isFirst, ih isRest]

/-- A loop without a result that ends has passed every item. -/
theorem of_forM_eq_ok {body : α → Except ε PUnit} (done : items.forM body = .ok ⟨⟩) {item : α}
    (itemMem : item ∈ items) :
    body item = .ok ⟨⟩ := by
  induction items with
  | nil => cases itemMem
  | cons head items ih =>
    obtain ⟨⟨⟩, headDone, rest⟩ := bind_eq_ok.mp done
    obtain rfl | later := mem_cons.mp itemMem
    · exact headDone
    · exact ih rest later

theorem not_exists_error_iff :
    (¬ ∃ reason, computation = .error reason) ↔ ∃ value, computation = .ok value := by
  cases computation <;> simp

theorem not_exists_error_eq_ok (reason : ε) : ¬ ∃ value : α, Except.error reason = .ok value := by
  rintro ⟨value, equal⟩
  cases equal

instance instDecidableExistsOk {ε α : Type _} :
    (computation : Except ε α) → Decidable (∃ value, computation = .ok value)
  | .ok value => .isTrue ⟨value, rfl⟩
  | .error reason => .isFalse (not_exists_error_eq_ok reason)

/-- A computation returns a value with a property, or stops for an allowed reason. -/
def Ends {ε α : Type _} (allowed : ε → Prop) (post : α → Prop) : Except ε α → Prop
  | .error reason => allowed reason
  | .ok value => post value

variable {allowed : ε → Prop}

theorem Ends.imp {strong weak : α → Prop} (ends : Ends allowed strong computation)
    (weaken : ∀ value, strong value → weak value) : Ends allowed weak computation := by
  cases computation with
  | error reason => exact ends
  | ok value => exact weaken value ends

variable {post : α → Prop}

theorem Ends.of_eq_ok (ends : Ends allowed post computation) {value : α}
    (returned : computation = .ok value) : post value := by
  rwa [returned] at ends

theorem Ends.of_eq_error (ends : Ends allowed post computation)
    (failed : computation = .error reason) : allowed reason := by
  rwa [failed] at ends

theorem ends_ne_iff :
    Ends (· ≠ reason) post computation ↔
      computation ≠ .error reason ∧ ∀ value, computation = .ok value → post value := by
  cases computation <;> simp [Ends]

variable {post : β → Prop}

theorem Ends.bind {middle : α → Prop}
    (first : Ends allowed middle computation)
    (rest : ∀ value, middle value → Ends allowed post (continuation value)) :
    Ends allowed post (computation >>= continuation) := by
  cases computation with
  | error reason => exact first
  | ok value => exact rest value first

/-- Where every reason is allowed, a step of whose value nothing is asked can be left out. -/
theorem Ends.ofRest
    (rest : ∀ value, Ends (fun _ => True) post (continuation value)) :
    Ends (fun _ => True) post (computation >>= continuation) := by
  cases computation with
  | error reason => exact .intro
  | ok value => exact rest value

theorem Ends.map {before : α → Prop} {change : α → β} (ends : Ends allowed before computation)
    (changed : ∀ value, before value → post (change value)) :
    Ends allowed post (computation.map change) := by
  cases computation with
  | error reason => exact ends
  | ok value => exact changed value ends

theorem Ends.mapM (each : ∀ item ∈ items, Ends allowed post (step item)) :
    Ends allowed (fun results => ∀ result ∈ results, post result) (items.mapM step) := by
  induction items with
  | nil => nofun
  | cons item items ih =>
    rw [mapM_cons]
    refine .bind (each item mem_cons_self) fun first firstPost => ?_
    refine .bind (ih fun other otherMem => each other (mem_cons_of_mem _ otherMem))
      fun rest restPost => ?_
    exact forall_mem_cons.mpr ⟨firstPost, restPost⟩

theorem Ends.mapError {allowed : δ → Prop}
    (relabelled : ∀ reason, allowed (relabel reason)) (computation : Except ε α) :
    Ends allowed (fun value => computation = .ok value) (computation.mapError relabel) := by
  cases computation with
  | error reason => exact relabelled reason
  | ok value => rfl

variable {step : σ → α → Except ε σ}

variable {start result : σ}

/-- What every step of a loop keeps holds at its end. -/
theorem foldlM_induction (invariant : σ → Prop)
    (keeps : ∀ state, ∀ item ∈ items, ∀ next, invariant state → step state item = .ok next →
      invariant next)
    (base : invariant start) (done : items.foldlM step start = .ok result) :
    invariant result := by
  induction items generalizing start with
  | nil =>
    cases done
    exact base
  | cons item items ih =>
    obtain ⟨next, stepped, rest⟩ := bind_eq_ok.mp done
    exact ih (fun state item itemMem => keeps state item (mem_cons_of_mem _ itemMem))
      (keeps start item mem_cons_self next base stepped) rest

/-- A loop that ends has passed every item. -/
theorem exists_step_of_foldlM
    (done : items.foldlM step start = .ok result) {item : α} (itemMem : item ∈ items) :
    ∃ state next, step state item = .ok next := by
  induction items generalizing start with
  | nil => cases itemMem
  | cons head items ih =>
    obtain ⟨next, stepped, rest⟩ := bind_eq_ok.mp done
    obtain rfl | later := mem_cons.mp itemMem
    · exact ⟨start, next, stepped⟩
    · exact ih rest later

end Checked
