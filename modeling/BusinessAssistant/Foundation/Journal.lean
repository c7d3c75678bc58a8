/-
# Journals

A journal numbers its rows from one and lets each row lead from where the last
one ended, by a step a transition relation allows. It is built by appending, and
that is how it is proved valid; what a reader wants to know of it, that the
numbers have no gap, that neighbouring rows meet and where the first row starts
and the last one ends, follows from the way it was built.
-/

import BusinessAssistant.Foundation.Members
import Mathlib.Data.List.Chain
import Mathlib.Data.List.Range

namespace BusinessAssistant.Foundation

universe u v

variable {ρ : Type u} {σ : Type v}

/-- How the rows of a journal are read. -/
structure Journal (ρ : Type u) (σ : Type v) where
  number : ρ → ℕ
  source : ρ → σ
  target : ρ → σ
  /-- The steps a row may record. -/
  Allowed : σ → σ → Prop

namespace Journal

variable (J : Journal ρ σ)

/-- The rows record a path from `start` to a last state, numbered from one. -/
inductive Records (start : σ) : List ρ → σ → Prop
  | nil : Records start [] start
  | snoc {rows : List ρ} {last : σ} {row : ρ} (prior : Records start rows last)
      (hnumber : J.number row = rows.length + 1) (hsource : J.source row = last)
      (hallowed : J.Allowed (J.source row) (J.target row)) :
      Records start (rows ++ [row]) (J.target row)

variable {J} {start last : σ} {rows : List ρ}

/-- The numbers are one, two, and so on to the number of rows. -/
theorem Records.numbers (h : J.Records start rows last) :
    rows.map J.number = List.range' 1 rows.length := by
  induction h with
  | nil => rfl
  | snoc _ hnumber _ _ ih =>
      rw [List.map_append, ih, List.map_singleton, hnumber, List.length_append,
        List.length_singleton, List.range'_concat, Nat.one_mul, Nat.add_comm]

theorem Records.allowed (h : J.Records start rows last) :
    ∀ row ∈ rows, J.Allowed (J.source row) (J.target row) := by
  induction h with
  | nil =>
      intro row hrow
      cases hrow
  | snoc _ _ _ hallowed ih =>
      intro row hrow
      rcases List.mem_append.mp hrow with hrow | hrow
      · exact ih row hrow
      · rw [List.mem_singleton.mp hrow]
        exact hallowed

/-- An empty journal has gone nowhere. -/
theorem Records.eq_start (h : J.Records start rows last) (hempty : rows = []) : last = start := by
  cases h with
  | nil => rfl
  | snoc => cases (List.append_eq_nil_iff.mp hempty).2

/-- The last row ends where the journal does. -/
theorem Records.getLast? (h : J.Records start rows last) :
    ∀ row ∈ rows.getLast?, J.target row = last := by
  cases h with
  | nil =>
      intro row hrow
      cases hrow
  | snoc =>
      intro row hrow
      rw [List.getLast?_concat, Option.mem_some_iff] at hrow
      rw [hrow]

/-- The first row starts where the journal does. -/
theorem Records.head? (h : J.Records start rows last) :
    ∀ row ∈ rows.head?, J.source row = start := by
  induction h with
  | nil =>
      intro row hrow
      cases hrow
  | @snoc rows last row prior _ hsource _ ih =>
      intro first hfirst
      cases rows with
      | nil =>
          rw [List.nil_append, List.head?_cons, Option.mem_some_iff] at hfirst
          rw [← hfirst, hsource, prior.eq_start rfl]
      | cons other rest => exact ih first hfirst

/-- Each row starts where the one before it ended. -/
theorem Records.isChain (h : J.Records start rows last) :
    rows.IsChain fun previous next => J.target previous = J.source next := by
  induction h with
  | nil => exact .nil
  | snoc prior _ hsource _ ih =>
      rw [List.isChain_append]
      refine ⟨ih, .singleton _, ?_⟩
      intro previous hprevious next hnext
      rw [List.head?_cons, Option.mem_some_iff] at hnext
      rw [← hnext, hsource]
      exact prior.getLast? previous hprevious

/-- The next free number is the largest one plus one. -/
theorem Records.foldl_max (h : J.Records start rows last) :
    (rows.map J.number).foldl max 0 = rows.length := by
  induction h with
  | nil => rfl
  | snoc _ hnumber _ _ ih =>
      rw [List.map_append, List.foldl_append, ih, List.map_singleton, hnumber,
        List.length_append, List.length_singleton]
      exact Nat.max_eq_right (Nat.le_succ _)

end Journal

end BusinessAssistant.Foundation
