/-
# One transaction, two runs

Two transactions agree from two states when they return the same value or raise
the same error, whatever they write. The rules follow the statements of a
transaction, so a two-run argument goes through both runs in step and asks of
each statement only that it reads the same in both states.
-/

import BusinessAssistant.Foundation.Transaction

namespace BusinessAssistant.Foundation.Tx

variable {σ ε α β : Type} {s t : σ}

/-- `x` run from `s` and `y` run from `t` have the same outcome. -/
def Agree (x : Tx σ ε α) (s : σ) (y : Tx σ ε α) (t : σ) : Prop :=
  (x.commit s).1 = (y.commit t).1

theorem commit_fst_of_ok {x : Tx σ ε α} {a : α} {s' : σ} (hrun : x.run s = .ok (a, s')) :
    (x.commit s).1 = .ok a := by
  rw [commit_of_ok hrun]

theorem commit_fst_of_error {x : Tx σ ε α} {error : ε} (hrun : x.run s = .error error) :
    (x.commit s).1 = .error error := by
  rw [commit_of_error hrun]

/-- Runs that agree raise the same error, or return the same value. -/
theorem Agree.cases {x y : Tx σ ε α} (h : Agree x s y t) :
    (∃ error, x.run s = .error error ∧ y.run t = .error error) ∨
      ∃ a s' t', x.run s = .ok (a, s') ∧ y.run t = .ok (a, t') := by
  unfold Agree at h
  cases hx : x.run s with
  | error error =>
      rw [commit_fst_of_error hx] at h
      cases hy : y.run t with
      | error other =>
          rw [commit_fst_of_error hy] at h
          cases h
          exact .inl ⟨error, rfl, rfl⟩
      | ok pair =>
          rw [commit_fst_of_ok hy] at h
          cases h
  | ok pair =>
      rw [commit_fst_of_ok hx] at h
      cases hy : y.run t with
      | error error =>
          rw [commit_fst_of_error hy] at h
          cases h
      | ok other =>
          rw [commit_fst_of_ok hy] at h
          obtain ⟨a, s'⟩ := pair
          obtain ⟨b, t'⟩ := other
          cases h
          exact .inr ⟨a, s', t', rfl, rfl⟩

theorem Agree.of_ok {x y : Tx σ ε α} {a : α} {s' t' : σ} (hx : x.run s = .ok (a, s'))
    (hy : y.run t = .ok (a, t')) : Agree x s y t :=
  (commit_fst_of_ok hx).trans (commit_fst_of_ok hy).symm

theorem Agree.of_error {x y : Tx σ ε α} {error : ε} (hx : x.run s = .error error)
    (hy : y.run t = .error error) : Agree x s y t :=
  (commit_fst_of_error hx).trans (commit_fst_of_error hy).symm

/-- Runs that are equal results are equal outcomes. -/
theorem Agree.of_run_eq {x x' y y' : Tx σ ε α} {s' t' : σ} (hx : x.run s = x'.run s')
    (hy : y.run t = y'.run t') (h : Agree x' s' y' t') : Agree x s y t := by
  rcases h.cases with ⟨error, hx', hy'⟩ | ⟨a, u, v, hx', hy'⟩
  · exact .of_error (hx.trans hx') (hy.trans hy')
  · exact .of_ok (hx.trans hx') (hy.trans hy')

theorem Agree.pure (a : α) : Agree (Pure.pure a : Tx σ ε α) s (Pure.pure a) t :=
  .of_ok run_pure run_pure

theorem Agree.lift (computation : Except ε α) :
    Agree (Tx.lift computation : Tx σ ε α) s (Tx.lift computation) t := by
  cases computation with
  | error error => exact .of_error rfl rfl
  | ok value => exact .of_ok rfl rfl

/-! ## Statements -/

section Bind

theorem Agree.bind {x y : Tx σ ε α} {f g : α → Tx σ ε β} (hfirst : Agree x s y t)
    (hrest : ∀ a s' t', x.run s = .ok (a, s') → y.run t = .ok (a, t') →
      Agree (f a) s' (g a) t') : Agree (x >>= f) s (y >>= g) t := by
  rcases hfirst.cases with ⟨error, hx, hy⟩ | ⟨a, s', t', hx, hy⟩
  · exact .of_error (run_bind_of_error hx) (run_bind_of_error hy)
  · exact .of_run_eq (run_bind_of_ok hx) (run_bind_of_ok hy) (hrest a s' t' hx hy)

theorem Agree.get_bind {f g : σ → Tx σ ε β} (h : Agree (f s) s (g t) t) :
    Agree (get >>= f) s (get >>= g) t :=
  .of_run_eq run_get_bind run_get_bind h

theorem Agree.modify_bind {f g : PUnit → Tx σ ε β} {write write' : σ → σ}
    (h : Agree (f ()) (write s) (g ()) (write' t)) :
    Agree (modify write >>= f) s (modify write' >>= g) t :=
  .of_run_eq run_modify_bind run_modify_bind h

theorem Agree.require_bind {condition condition' : Prop} [Decidable condition]
    [Decidable condition'] {error : ε} {f g : Unit → Tx σ ε β} (hiff : condition ↔ condition')
    (h : condition → condition' → Agree (f ()) s (g ()) t) :
    Agree (require condition error >>= f) s (require condition' error >>= g) t := by
  by_cases hcondition : condition
  · have hcondition' := hiff.mp hcondition
    refine .of_run_eq ?_ ?_ (h hcondition hcondition')
    · rw [run_require_bind, if_pos hcondition]
    · rw [run_require_bind, if_pos hcondition']
  · apply Agree.of_error
    · rw [run_require_bind, if_neg hcondition]
    · rw [run_require_bind, if_neg (mt hiff.mpr hcondition)]

/-- A query that finds the same row in both states. -/
theorem Agree.fetch_bind {found found' : Option α} {error : ε} {f g : α → Tx σ ε β}
    (hfound : found = found') (h : ∀ row, found = some row → Agree (f row) s (g row) t) :
    Agree (fetch found error >>= f) s (fetch found' error >>= g) t := by
  subst hfound
  cases found with
  | none => exact .of_error run_fetch_bind_none run_fetch_bind_none
  | some row => exact .of_run_eq run_fetch_bind_some run_fetch_bind_some (h row rfl)

theorem Agree.lift_bind {computation computation' : Except ε α} {f g : α → Tx σ ε β}
    (hsame : computation = computation')
    (h : ∀ value, computation = .ok value → Agree (f value) s (g value) t) :
    Agree (Tx.lift computation >>= f) s (Tx.lift computation' >>= g) t := by
  subst hsame
  apply (Agree.lift computation).bind
  intro value s' t' hs ht
  obtain ⟨hvalue, rfl⟩ := run_lift_eq_ok.mp hs
  obtain ⟨_, rfl⟩ := run_lift_eq_ok.mp ht
  exact h value hvalue

end Bind

theorem Agree.map {x y : Tx σ ε α} (f : α → β) (h : Agree x s y t) :
    Agree (f <$> x) s (f <$> y) t := by
  rw [map_eq_pure_bind, map_eq_pure_bind]
  apply h.bind
  intro a s' t' _ _
  exact .pure (f a)

theorem Agree.mapError {x y : Tx σ ε α} (translate : ε → ε) (h : Agree x s y t) :
    Agree (Tx.mapError translate x) s (Tx.mapError translate y) t := by
  rcases h.cases with ⟨error, hx, hy⟩ | ⟨a, s', t', hx, hy⟩
  · exact .of_error (run_mapError_of_error hx) (run_mapError_of_error hy)
  · exact .of_ok (run_mapError_eq_ok.mpr hx) (run_mapError_eq_ok.mpr hy)

end BusinessAssistant.Foundation.Tx
