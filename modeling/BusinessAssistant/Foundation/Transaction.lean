/-
# Transactions that roll back

A transaction reads and writes a state and either commits with a value or
raises. A raised error carries no state, so everything written before it is
lost: rollback is not an operation of its own but the shape of the type.

The lemmas invert a committed transaction step by step. A caller peels one
statement at a time and never unfolds the monad.
-/

import BusinessAssistant.Foundation.Members
import Mathlib.Logic.Basic

namespace BusinessAssistant.Foundation

/-! ## Computations that may raise -/

theorem except_bind_eq_ok {ε α β : Type} {x : Except ε α} {f : α → Except ε β} {b : β} :
    x >>= f = .ok b ↔ ∃ a, x = .ok a ∧ f a = .ok b := by
  cases x with
  | error error => simp [bind, Except.bind]
  | ok a => simp [bind, Except.bind]

theorem except_pure_eq_ok {ε α : Type} {a b : α} : (pure a : Except ε α) = .ok b ↔ a = b := by
  simp [pure, Except.pure]

theorem except_mapError_eq_ok {ε ε' α : Type} {translate : ε → ε'} {x : Except ε α} {a : α} :
    Except.mapError translate x = .ok a ↔ x = .ok a := by
  cases x with
  | error error => exact ⟨nofun, nofun⟩
  | ok found =>
      calc Except.ok found = (.ok a : Except ε' α) ↔ found = a := Except.ok.injEq found a ▸ Iff.rfl
        _ ↔ Except.ok found = (.ok a : Except ε α) := Except.ok.injEq found a ▸ Iff.rfl

theorem toOption_eq_some {ε α : Type} {x : Except ε α} {a : α} :
    x.toOption = some a ↔ x = .ok a := by
  cases x with
  | error error => simp [Except.toOption]
  | ok a => simp [Except.toOption]

/-! ## Transactions -/

/-- A transaction over states `σ` that may raise an error `ε`. -/
abbrev Tx (σ ε : Type) := StateT σ (Except ε)

namespace Tx

variable {σ ε α β : Type}

/-- Raise `error` unless `condition` holds. -/
def require (condition : Prop) [Decidable condition] (error : ε) : Tx σ ε Unit :=
  if condition then pure () else throw error

/-- The row a query found, or `error` when it found none. -/
def fetch (found : Option α) (error : ε) : Tx σ ε α :=
  match found with
  | some row => pure row
  | none => throw error

/-- Run a stateless computation inside the transaction. -/
def lift (computation : Except ε α) : Tx σ ε α :=
  match computation with
  | .ok value => pure value
  | .error error => throw error

/-- Run a transaction and translate the error it raises. -/
def mapError (translate : ε → ε) (transaction : Tx σ ε α) : Tx σ ε α := fun state =>
  match transaction.run state with
  | .ok result => .ok result
  | .error error => .error (translate error)

/-- The outcome of a transaction and the state it leaves: the written state
when it commits, the state it started from when it raises. -/
def commit (transaction : Tx σ ε α) (state : σ) : Except ε α × σ :=
  match transaction.run state with
  | .ok (value, written) => (.ok value, written)
  | .error error => (.error error, state)

/-! ## Inverting a committed transaction -/

@[simp]
theorem run_bind_eq_ok {x : Tx σ ε α} {f : α → Tx σ ε β} {s : σ} {r : β × σ} :
    (x >>= f).run s = .ok r ↔ ∃ a s', x.run s = .ok (a, s') ∧ (f a).run s' = .ok r := by
  rw [StateT.run_bind]
  cases h : x.run s with
  | error e => simp [bind, Except.bind]
  | ok p =>
      obtain ⟨a, s'⟩ := p
      simp only [bind, Except.bind, Except.ok.injEq, Prod.mk.injEq]
      exact ⟨fun hf => ⟨a, s', ⟨rfl, rfl⟩, hf⟩, by rintro ⟨_, _, ⟨rfl, rfl⟩, hf⟩; exact hf⟩

@[simp]
theorem run_pure_eq_ok {a : α} {s : σ} {r : α × σ} :
    (pure a : Tx σ ε α).run s = .ok r ↔ r = (a, s) := by
  calc (pure a : Tx σ ε α).run s = .ok r ↔ Except.ok (a, s) = (.ok r : Except ε (α × σ)) := Iff.rfl
    _ ↔ r = (a, s) := by rw [Except.ok.injEq, eq_comm]

@[simp]
theorem run_throw {e : ε} {s : σ} : (throw e : Tx σ ε α).run s = .error e := rfl

@[simp]
theorem run_get_eq_ok {s : σ} {r : σ × σ} : (get : Tx σ ε σ).run s = .ok r ↔ r = (s, s) := by
  simp [get, getThe, MonadStateOf.get, StateT.get, StateT.run, pure, Except.pure, eq_comm]

@[simp]
theorem run_modify_eq_ok {f : σ → σ} {s : σ} {r : Unit × σ} :
    (modify f : Tx σ ε Unit).run s = .ok r ↔ r = ((), f s) := by
  calc (modify f : Tx σ ε Unit).run s = .ok r
    _ ↔ Except.ok ((), f s) = (.ok r : Except ε (Unit × σ)) := Iff.rfl
    _ ↔ r = ((), f s) := by rw [Except.ok.injEq, eq_comm]

@[simp]
theorem run_require_eq_ok {condition : Prop} [Decidable condition] {error : ε} {s : σ}
    {r : Unit × σ} :
    (require condition error : Tx σ ε Unit).run s = .ok r ↔ condition ∧ r = ((), s) := by
  by_cases h : condition
  · rw [require, if_pos h, run_pure_eq_ok]
    exact (and_iff_right h).symm
  · rw [require, if_neg h, run_throw]
    simp [h]

@[simp]
theorem run_fetch_eq_ok {found : Option α} {error : ε} {s : σ} {r : α × σ} :
    (fetch found error : Tx σ ε α).run s = .ok r ↔ found = some r.1 ∧ r.2 = s := by
  cases found with
  | none =>
      rw [fetch, run_throw]
      simp
  | some row =>
      simp only [fetch, run_pure_eq_ok, Option.some.injEq, Prod.ext_iff]
      exact and_congr_left' eq_comm

@[simp]
theorem run_lift_eq_ok {computation : Except ε α} {s : σ} {r : α × σ} :
    (lift computation : Tx σ ε α).run s = .ok r ↔ computation = .ok r.1 ∧ r.2 = s := by
  cases computation with
  | error e =>
      rw [lift, run_throw]
      simp
  | ok value =>
      simp only [lift, run_pure_eq_ok, Except.ok.injEq, Prod.ext_iff]
      exact and_congr_left' eq_comm

/-! The same for a statement and the rest of the transaction after it. -/

@[simp]
theorem run_get_bind_eq_ok {f : σ → Tx σ ε β} {s : σ} {r : β × σ} :
    (get >>= f).run s = .ok r ↔ (f s).run s = .ok r := by
  rw [run_bind_eq_ok]
  constructor
  · rintro ⟨a, s', hget, hrest⟩
    cases run_get_eq_ok.mp hget
    exact hrest
  · intro hrest
    exact ⟨s, s, rfl, hrest⟩

@[simp]
theorem run_modify_bind_eq_ok {g : σ → σ} {f : PUnit → Tx σ ε β} {s : σ} {r : β × σ} :
    (modify g >>= f).run s = .ok r ↔ (f ()).run (g s) = .ok r := by
  rw [run_bind_eq_ok]
  constructor
  · rintro ⟨a, s', hmodify, hrest⟩
    cases run_modify_eq_ok.mp hmodify
    exact hrest
  · intro hrest
    exact ⟨(), g s, rfl, hrest⟩

@[simp]
theorem run_require_bind_eq_ok {condition : Prop} [Decidable condition] {error : ε}
    {f : Unit → Tx σ ε β} {s : σ} {r : β × σ} :
    (require condition error >>= f).run s = .ok r ↔ condition ∧ (f ()).run s = .ok r := by
  rw [run_bind_eq_ok]
  constructor
  · rintro ⟨a, s', hrequire, hrest⟩
    obtain ⟨hcondition, hpair⟩ := run_require_eq_ok.mp hrequire
    cases hpair
    exact ⟨hcondition, hrest⟩
  · rintro ⟨hcondition, hrest⟩
    exact ⟨(), s, run_require_eq_ok.mpr ⟨hcondition, rfl⟩, hrest⟩

@[simp]
theorem run_fetch_bind_eq_ok {found : Option α} {error : ε} {f : α → Tx σ ε β} {s : σ}
    {r : β × σ} :
    (fetch found error >>= f).run s = .ok r ↔ ∃ row, found = some row ∧ (f row).run s = .ok r := by
  rw [run_bind_eq_ok]
  constructor
  · rintro ⟨row, s', hfetch, hrest⟩
    obtain ⟨hfound, rfl⟩ := run_fetch_eq_ok.mp hfetch
    exact ⟨row, hfound, hrest⟩
  · rintro ⟨row, hfound, hrest⟩
    exact ⟨row, s, run_fetch_eq_ok.mpr ⟨hfound, rfl⟩, hrest⟩

@[simp]
theorem run_lift_bind_eq_ok {computation : Except ε α} {f : α → Tx σ ε β} {s : σ} {r : β × σ} :
    (lift computation >>= f).run s = .ok r ↔
      ∃ value, computation = .ok value ∧ (f value).run s = .ok r := by
  rw [run_bind_eq_ok]
  constructor
  · rintro ⟨value, s', hlift, hrest⟩
    obtain ⟨hvalue, rfl⟩ := run_lift_eq_ok.mp hlift
    exact ⟨value, hvalue, hrest⟩
  · rintro ⟨value, hvalue, hrest⟩
    exact ⟨value, s, run_lift_eq_ok.mpr ⟨hvalue, rfl⟩, hrest⟩

theorem run_map_eq_ok {g : α → β} {transaction : Tx σ ε α} {s : σ} {r : β × σ} :
    (g <$> transaction).run s = .ok r ↔
      ∃ value s', transaction.run s = .ok (value, s') ∧ r = (g value, s') := by
  rw [map_eq_pure_bind, run_bind_eq_ok]
  simp only [run_pure_eq_ok]

@[simp]
theorem run_mapError_eq_ok {translate : ε → ε} {transaction : Tx σ ε α} {s : σ} {r : α × σ} :
    (mapError translate transaction).run s = .ok r ↔ transaction.run s = .ok r := by
  simp only [mapError, StateT.run]
  split
  · rename_i result hresult
    rw [hresult]
  · rename_i error herror
    simp [herror]

/-! ## Running forward

Where the outcome of a statement is known, it is replaced by what it returns or
by the error it raises. -/

section Forward

variable {f : α → Tx σ ε β} {s : σ}

theorem run_bind_of_ok {x : Tx σ ε α} {a : α} {s' : σ} (hrun : x.run s = .ok (a, s')) :
    (x >>= f).run s = (f a).run s' := by
  rw [StateT.run_bind, hrun]
  rfl

theorem run_bind_of_error {x : Tx σ ε α} {error : ε} (hrun : x.run s = .error error) :
    (x >>= f).run s = .error error := by
  rw [StateT.run_bind, hrun]
  rfl

theorem run_get_bind {f : σ → Tx σ ε β} : (get >>= f).run s = (f s).run s := rfl

theorem run_modify_bind {g : σ → σ} {f : PUnit → Tx σ ε β} :
    (modify g >>= f).run s = (f ()).run (g s) := rfl

theorem run_pure {a : α} : (pure a : Tx σ ε α).run s = .ok (a, s) := rfl

theorem run_require_bind {condition : Prop} [Decidable condition] {error : ε}
    {f : Unit → Tx σ ε β} :
    (require condition error >>= f).run s =
      if condition then (f ()).run s else .error error := by
  by_cases h : condition
  · rw [if_pos h]
    exact run_bind_of_ok (run_require_eq_ok.mpr ⟨h, rfl⟩)
  · rw [if_neg h, require, if_neg h]
    rfl

theorem run_fetch_bind_some {row : α} {error : ε} :
    (fetch (some row) error >>= f).run s = (f row).run s := rfl

theorem run_fetch_bind_none {error : ε} :
    (fetch (none : Option α) error >>= f).run s = .error error := rfl

theorem run_lift_bind_ok {value : α} : (lift (.ok value) >>= f).run s = (f value).run s := rfl

theorem run_map_of_error {g : α → β} {transaction : Tx σ ε α} {error : ε}
    (hrun : transaction.run s = .error error) : (g <$> transaction).run s = .error error := by
  rw [map_eq_pure_bind]
  exact run_bind_of_error hrun

theorem run_mapError_of_error {translate : ε → ε} {transaction : Tx σ ε α} {error : ε}
    (hrun : transaction.run s = .error error) :
    (mapError translate transaction).run s = .error (translate error) := by
  simp only [StateT.run] at hrun
  simp only [mapError, StateT.run, hrun]

end Forward

/-! ## What a committed or refused transaction leaves -/

theorem commit_of_ok {transaction : Tx σ ε α} {state written : σ} {value : α}
    (hrun : transaction.run state = .ok (value, written)) :
    transaction.commit state = (.ok value, written) := by
  simp [commit, hrun]

/-- A transaction that raises leaves the state it started from. -/
theorem commit_of_error {transaction : Tx σ ε α} {state : σ} {error : ε}
    (hrun : transaction.run state = .error error) :
    transaction.commit state = (.error error, state) := by
  simp [commit, hrun]

theorem commit_eq_ok_iff {transaction : Tx σ ε α} {state written : σ} {value : α} :
    transaction.commit state = (.ok value, written) ↔
      transaction.run state = .ok (value, written) := by
  unfold commit
  split <;> simp_all

/-- A transaction that returns a value committed the state it leaves. -/
theorem run_of_commit_ok {transaction : Tx σ ε α} {state : σ} {value : α}
    (hcommit : (transaction.commit state).1 = .ok value) :
    transaction.run state = .ok (value, (transaction.commit state).2) :=
  commit_eq_ok_iff.mp (Prod.ext hcommit rfl)

/-- The state after a transaction either is unchanged or was written by a
committed run. -/
theorem commit_state (transaction : Tx σ ε α) (state : σ) :
    (transaction.commit state).2 = state ∨
      ∃ value, transaction.run state = .ok (value, (transaction.commit state).2) := by
  cases hrun : transaction.run state with
  | error error => exact .inl (by rw [commit_of_error hrun])
  | ok pair =>
      obtain ⟨value, written⟩ := pair
      exact .inr ⟨value, by rw [commit_of_ok hrun]⟩

/-- What holds before a transaction and after every run that commits holds of the
state it leaves. -/
theorem commit_keeps {P : σ → Prop} {transaction : Tx σ ε α} {state : σ} (hbefore : P state)
    (hcommitted : ∀ value written, transaction.run state = .ok (value, written) → P written) :
    P (transaction.commit state).2 := by
  rcases commit_state transaction state with hsame | ⟨value, hrun⟩
  · rw [hsame]
    exact hbefore
  · exact hcommitted value _ hrun

end Tx

end BusinessAssistant.Foundation
