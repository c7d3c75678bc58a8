/-
# Labelled transition systems

Runs, reachable states and the two rules every safety argument uses: an
invariant that holds initially and survives each step holds in every reachable
state, and a relation between two states that every step extends relates the
two ends of a run. `restrict` keeps only the steps that meet a condition, so
"in every run whose steps all meet the condition" is reachability in the
restricted system.
-/

import BusinessAssistant.Foundation.Members
import Mathlib.Data.Nat.Notation
import Mathlib.Logic.Basic

namespace BusinessAssistant.Foundation

universe u v

/-- A transition system with labelled steps. -/
structure System (σ : Type u) (ℓ : Type v) where
  /-- The states a run may start from. -/
  init : σ → Prop
  /-- The labelled steps. -/
  step : σ → ℓ → σ → Prop

namespace System

variable {σ : Type u} {ℓ : Type v} (S : System σ ℓ)

/-- A finite run between two states, with the labels of its steps in order. -/
inductive Run : σ → List ℓ → σ → Prop
  | nil (s : σ) : Run s [] s
  | snoc {s middle last : σ} {labels : List ℓ} {label : ℓ}
      (prior : Run s labels middle) (next : S.step middle label last) :
      Run s (labels ++ [label]) last

/-- The states some run from an initial state ends in. -/
inductive Reachable : σ → Prop
  | init {s : σ} (hinit : S.init s) : Reachable s
  | step {s s' : σ} {label : ℓ} (prior : Reachable s) (next : S.step s label s') :
      Reachable s'

/-- The system whose steps are those of `S` that meet `condition`, a predicate
on the state before the step and the label. -/
def restrict (condition : σ → ℓ → Prop) : System σ ℓ where
  init := S.init
  step s label s' := condition s label ∧ S.step s label s'

variable {S}

theorem Reachable.run {s s' : σ} {labels : List ℓ} (hs : S.Reachable s)
    (hrun : S.Run s labels s') : S.Reachable s' := by
  induction hrun with
  | nil => exact hs
  | snoc _ next ih => exact .step ih next

/-- Every state a restricted run reaches is reachable without the restriction. -/
theorem Reachable.of_restrict {condition : σ → ℓ → Prop} {s : σ}
    (hs : (S.restrict condition).Reachable s) : S.Reachable s := by
  induction hs with
  | init hinit => exact .init hinit
  | step _ next ih => exact .step ih next.2

/-- A restricted run is a run. -/
theorem Run.of_restrict {condition : σ → ℓ → Prop} {s s' : σ} {labels : List ℓ}
    (hrun : (S.restrict condition).Run s labels s') : S.Run s labels s' := by
  induction hrun with
  | nil => exact .nil _
  | snoc _ next ih => exact .snoc ih next.2

/-- A weaker condition restricts less. -/
theorem Reachable.weaken {condition weaker : σ → ℓ → Prop}
    (himp : ∀ s label, condition s label → weaker s label) {s : σ}
    (hs : (S.restrict condition).Reachable s) : (S.restrict weaker).Reachable s := by
  induction hs with
  | init hinit => exact .init hinit
  | step _ next ih => exact .step ih ⟨himp _ _ next.1, next.2⟩

/-- A condition every step meets restricts nothing. -/
theorem Reachable.to_restrict {condition : σ → ℓ → Prop}
    (hall : ∀ s label, condition s label) {s : σ} (hs : S.Reachable s) :
    (S.restrict condition).Reachable s := by
  induction hs with
  | init hinit => exact .init hinit
  | step _ next ih => exact .step ih ⟨hall _ _, next⟩

/-- The invariant rule. The step case may use that the state before the step
is reachable. -/
theorem Reachable.invariant {I : σ → Prop} (hinit : ∀ s, S.init s → I s)
    (hstep : ∀ s label s', S.Reachable s → I s → S.step s label s' → I s')
    {s : σ} (hs : S.Reachable s) : I s := by
  induction hs with
  | init h => exact hinit _ h
  | step prior next ih => exact hstep _ _ _ prior ih next

/-- The run rule for a reflexive and transitive relation that every step from
a reachable state extends. -/
theorem Run.relate {R : σ → σ → Prop} (hrefl : ∀ s, R s s)
    (htrans : ∀ s middle last, R s middle → R middle last → R s last)
    (hstep : ∀ s label s', S.Reachable s → S.step s label s' → R s s')
    {s s' : σ} {labels : List ℓ} (hs : S.Reachable s) (hrun : S.Run s labels s') : R s s' := by
  induction hrun with
  | nil => exact hrefl _
  | snoc prior next ih => exact htrans _ _ _ ih (hstep _ _ _ (hs.run prior) next)

/-! ## Counting steps -/

variable (S) in
/-- The system that counts, beside each state, the steps so far that were an
`event`. -/
def counting (event : σ → ℓ → σ → Prop) : System (σ × ℕ) ℓ where
  init s := S.init s.1 ∧ s.2 = 0
  step s label s' := S.step s.1 label s'.1 ∧
    (event s.1 label s'.1 ∧ s'.2 = s.2 + 1 ∨ ¬ event s.1 label s'.1 ∧ s'.2 = s.2)

/-- Counting does not change which states are reached. -/
theorem Reachable.of_counting {event : σ → ℓ → σ → Prop} {s : σ × ℕ}
    (hs : (S.counting event).Reachable s) : S.Reachable s.1 := by
  induction hs with
  | init hinit => exact .init hinit.1
  | step _ next ih => exact .step ih next.1

/-- Every reachable state is reached with some count. -/
theorem Reachable.exists_count (event : σ → ℓ → σ → Prop) {s : σ} (hs : S.Reachable s) :
    ∃ count, (S.counting event).Reachable (s, count) := by
  induction hs with
  | init hinit => exact ⟨0, .init ⟨hinit, rfl⟩⟩
  | @step s s' label _ next ih =>
      obtain ⟨count, hcount⟩ := ih
      by_cases hevent : event s label s'
      · exact ⟨count + 1, .step hcount ⟨next, .inl ⟨hevent, rfl⟩⟩⟩
      · exact ⟨count, .step hcount ⟨next, .inr ⟨hevent, rfl⟩⟩⟩

/-! ## Keeping a record -/

variable (S) in
/-- The system that keeps, beside each state, a record of what has happened. -/
def noting {ν : Type*} (start : ν) (note : σ → ℓ → ν → ν) : System (σ × ν) ℓ where
  init s := S.init s.1 ∧ s.2 = start
  step s label s' := S.step s.1 label s'.1 ∧ s'.2 = note s.1 label s.2

theorem Run.trans {s middle last : σ} {first second : List ℓ}
    (hfirst : S.Run s first middle) (hsecond : S.Run middle second last) :
    S.Run s (first ++ second) last := by
  induction hsecond with
  | nil => simpa using hfirst
  | snoc _ next ih => simpa [List.append_assoc] using Run.snoc ih next

/-! ## Following a step function -/

/-- Each label is allowed in the state that `next` has led to by then. -/
def Follows (allowed : σ → ℓ → Prop) (next : σ → ℓ → σ) : σ → List ℓ → Prop
  | _, [] => True
  | s, label :: labels => allowed s label ∧ Follows allowed next (next s label) labels

instance decidableFollows (allowed : σ → ℓ → Prop) [∀ s label, Decidable (allowed s label)]
    (next : σ → ℓ → σ) (s : σ) (labels : List ℓ) : Decidable (Follows allowed next s labels) :=
  match labels with
  | [] => .isTrue trivial
  | label :: labels =>
      have := decidableFollows allowed next (next s label) labels
      inferInstanceAs (Decidable (_ ∧ _))

/-- A step function whose allowed steps are steps of the system computes runs. -/
theorem Run.of_follows {allowed : σ → ℓ → Prop} {next : σ → ℓ → σ}
    (hstep : ∀ s label, allowed s label → S.step s label (next s label)) {s : σ}
    {labels : List ℓ} (hfollows : Follows allowed next s labels) :
    S.Run s labels (labels.foldl next s) := by
  induction labels generalizing s with
  | nil => exact .nil s
  | cons label labels ih =>
      obtain ⟨hallowed, hrest⟩ := hfollows
      have hfirst : S.Run s [label] (next s label) := .snoc (.nil s) (hstep s label hallowed)
      exact hfirst.trans (ih hrest)

theorem Reachable.of_follows {allowed : σ → ℓ → Prop} {next : σ → ℓ → σ}
    (hstep : ∀ s label, allowed s label → S.step s label (next s label)) {s : σ}
    (hs : S.Reachable s) {labels : List ℓ} (hfollows : Follows allowed next s labels) :
    S.Reachable (labels.foldl next s) :=
  hs.run (Run.of_follows hstep hfollows)

end System

end BusinessAssistant.Foundation
