/-
# Segments of a list

A list is divided into segments when the segments stand in it in order and everything
before, between and after them is a gap. The items that are no gap are then all in the
segments, each once and in their order.
-/

import Mathlib.Data.List.Infix

namespace BusinessAssistant.Foundation

universe u

variable {α : Type u} {gap : α → Bool}

/-- The segments stand in the list in their order, with only gaps outside of them. -/
inductive Divides (gap : α → Bool) : List α → List (List α) → Prop
  | last {rest : List α} (hrest : ∀ item ∈ rest, gap item = true) : Divides gap rest []
  | next {before segment rest : List α} {segments : List (List α)}
      (hbefore : ∀ item ∈ before, gap item = true) (hrest : Divides gap rest segments) :
      Divides gap (before ++ segment ++ rest) (segment :: segments)

namespace Divides

variable {items : List α} {segments : List (List α)}

/-- Gaps can be put before the list. -/
theorem prepend {before : List α} (hbefore : ∀ item ∈ before, gap item = true)
    (h : Divides gap items segments) : Divides gap (before ++ items) segments := by
  cases h with
  | last hrest =>
      refine .last fun item hitem => ?_
      exact (List.mem_append.mp hitem).elim (hbefore item) (hrest item)
  | next hfirst hrest =>
      rw [← List.append_assoc, ← List.append_assoc]
      refine .next (fun item hitem => ?_) hrest
      exact (List.mem_append.mp hitem).elim (hbefore item) (hfirst item)

theorem filter_gaps {gaps : List α} (hgaps : ∀ item ∈ gaps, gap item = true) :
    gaps.filter (fun item => !gap item) = [] := by
  rw [List.filter_eq_nil_iff]
  intro item hitem
  rw [hgaps item hitem]
  decide

/-- Nothing but gaps is lost. -/
theorem filter_flatten (h : Divides gap items segments) :
    segments.flatten.filter (fun item => !gap item) = items.filter fun item => !gap item := by
  induction h with
  | last hrest => rw [filter_gaps hrest, List.flatten_nil, List.filter_nil]
  | next hbefore hrest ih =>
      rw [List.flatten_cons, List.filter_append, List.filter_append, List.filter_append,
        filter_gaps hbefore, ih, List.nil_append]

/-- The first segment comes after gaps. -/
theorem exists_before {segment : List α} (h : Divides gap items (segment :: segments)) :
    ∃ before rest, (∀ item ∈ before, gap item = true) ∧ items = before ++ segment ++ rest := by
  cases h with
  | next hbefore hrest => exact ⟨_, _, hbefore, rfl⟩

end Divides

end BusinessAssistant.Foundation
