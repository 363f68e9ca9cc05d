import BareMetalManager.Lib.Checked

/-!
# Transactions

A transaction reads and writes a database and may fail. When it is run as a request, a failure
rolls back what it has written. A relation between databases that is reflexive and transitive
holds across a transaction if it holds across each of its statements.
-/

/-- A transaction over databases `σ`. -/
abbrev Txn (σ ε α : Type) := StateT σ (Except ε) α

namespace Txn

variable {σ ε α β : Type}

/-! ## Statements -/

def read (query : σ → α) : Txn σ ε α := fun state => .ok (query state, state)

def write (change : σ → σ) : Txn σ ε Unit := fun state => .ok ((), change state)

def fail (error : ε) : Txn σ ε α := fun _ => .error error

def require (error : ε) (condition : σ → Bool) : Txn σ ε Unit := fun state =>
  if condition state then .ok ((), state) else .error error

/-- The result of a query, which fails with an error. -/
def readResult (query : σ → Except ε α) : Txn σ ε α := fun state =>
  (query state).map fun value => (value, state)

/-- The database after a request: the writes of a transaction that succeeds, else no write. -/
def commit (txn : Txn σ ε α) (before : σ) : σ :=
  match txn.run before with
  | .ok (_, after) => after
  | .error _ => before

variable {txn : Txn σ ε α}

section Run

variable {before after : σ}

theorem run_bind_eq_ok {next : α → Txn σ ε β} {result : β × σ} :
    (txn >>= next).run before = .ok result ↔ ∃ value middle, txn.run before = .ok (value, middle) ∧
        (next value).run middle = .ok result := by
  rw [StateT.run_bind, Checked.bind_eq_ok, Prod.exists]

variable {value : α}

theorem run_bind_of_ok (ran : txn.run before = .ok (value, after)) (next : α → Txn σ ε β) :
    (txn >>= next).run before = (next value).run after := by
  rw [StateT.run_bind, ran]
  rfl

theorem run_pure_eq_ok {other : α} :
    (pure value : Txn σ ε α).run before = .ok (other, after) ↔ value = other ∧ before = after := by
  constructor
  · intro ran
    cases ran
    exact ⟨rfl, rfl⟩
  · rintro ⟨rfl, rfl⟩
    rfl

theorem run_read_eq_ok {query : σ → α} :
    (read query : Txn σ ε α).run before = .ok (value, after) ↔
      query before = value ∧ before = after :=
  run_pure_eq_ok

theorem run_write_eq_ok {change : σ → σ} {value : Unit} :
    (write change : Txn σ ε Unit).run before = .ok (value, after) ↔ change before = after := by
  constructor
  · intro ran
    cases ran
    rfl
  · rintro rfl
    rfl

theorem run_require_eq_ok {error : ε} {condition : σ → Bool} {value : Unit} :
    (require error condition).run before = .ok (value, after) ↔
      condition before ∧ before = after := by
  rw [StateT.run, require]
  split
  next holds => simp [holds]
  next fails => simp [fails]

theorem run_readResult_eq_ok {query : σ → Except ε α} :
    (readResult query).run before = .ok (value, after) ↔
      query before = .ok value ∧ before = after := by
  rw [StateT.run, readResult]
  cases query before with
  | error error => exact iff_of_false nofun fun facts => nomatch facts.1
  | ok found => simp [Except.map]

theorem commit_of_ok (ran : txn.run before = .ok (value, after)) : txn.commit before = after := by
  rw [commit, ran]

end Run

/-! ## What a transaction keeps -/

variable (related : σ → σ → Prop)

/-- A relation that every statement may have to keep. -/
structure Stable : Prop where
  refl : ∀ state, related state state
  trans : ∀ {before middle after}, related before middle → related middle after →
    related before after

/-- What the relation keeps may be assumed of the database before. -/
theorem Stable.assuming {related : σ → σ → Prop} (stable : Stable related) (assumed : σ → Prop)
    (kept : ∀ before after, related before after → assumed before → assumed after) :
    Stable fun before after => assumed before → related before after where
  refl state _ := stable.refl state
  trans first second holds :=
    stable.trans (first holds) (second (kept _ _ (first holds) holds))

/-- The databases before and after a success are related. -/
def Keeps (txn : Txn σ ε α) : Prop :=
  ∀ before value after, txn.run before = .ok (value, after) → related before after

namespace Keeps

variable {related} (stable : Stable related)

theorem write {change : σ → σ} (step : ∀ state, related state (change state)) :
    (.write change : Txn σ ε Unit).Keeps related := by
  intro before value after ran
  cases ran
  exact step before

theorem assuming (keeps : txn.Keeps related) (assumed : σ → Prop) :
    txn.Keeps fun before after => assumed before → related before after := by
  intro before value after ran _
  exact keeps before value after ran

theorem fail (error : ε) : (.fail error : Txn σ ε α).Keeps related := by
  nofun

include stable

theorem commit (keeps : txn.Keeps related) (before : σ) : related before (txn.commit before) := by
  unfold Txn.commit
  split
  next ran => exact keeps _ _ _ ran
  next => exact stable.refl before

theorem pure (value : α) : (Pure.pure value : Txn σ ε α).Keeps related := by
  intro before result after ran
  cases ran
  exact stable.refl before

theorem read (query : σ → α) : (.read query : Txn σ ε α).Keeps related := by
  intro before value after ran
  cases ran
  exact stable.refl before

theorem require (error : ε) (condition : σ → Bool) :
    (Txn.require error condition).Keeps related := by
  intro before value after ran
  rw [(run_require_eq_ok.mp ran).2]
  exact stable.refl after

theorem readResult (query : σ → Except ε α) : (Txn.readResult query).Keeps related := by
  intro before value after ran
  rw [(run_readResult_eq_ok.mp ran).2]
  exact stable.refl after

theorem bind {next : α → Txn σ ε β} (first : txn.Keeps related)
    (second : ∀ value, (next value).Keeps related) : (txn >>= next).Keeps related := by
  intro before result after ran
  obtain ⟨value, middle, firstRan, secondRan⟩ := run_bind_eq_ok.mp ran
  exact stable.trans (first _ _ _ firstRan) (second value _ _ _ secondRan)

theorem bind_pure (first : txn.Keeps related) (result : α → β) :
    (txn >>= fun value => .pure (result value)).Keeps related :=
  bind stable first fun value => pure stable (result value)

theorem forM {items : List α} {body : α → Txn σ ε PUnit}
    (each : ∀ item ∈ items, (body item).Keeps related) : (items.forM body).Keeps related := by
  induction items with
  | nil => exact pure stable _
  | cons item items ih =>
    apply bind stable (each item List.mem_cons_self)
    intro _
    exact ih fun other otherMem => each other (List.mem_cons_of_mem _ otherMem)

end Keeps

end Txn
