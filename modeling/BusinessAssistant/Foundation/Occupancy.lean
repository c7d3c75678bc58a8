/-
# Half-open ranges and counting

A range covers the instants from its start up to, not including, its stop. Two
ranges overlap exactly when some instant is covered by both, so a count of the
ranges that cover an instant is bounded by the count of the ranges that overlap
any range covering it. That bound is what an admission check by overlap gives,
instant by instant.
-/

import Mathlib.Data.List.Count
import Mathlib.Order.Lattice

namespace BusinessAssistant.Foundation.Occupancy

universe u v w

variable {τ : Type u} [LinearOrder τ]

/-- The half-open range from `start` to `stop` covers an instant. -/
def Covers (start stop instant : τ) : Prop := start ≤ instant ∧ instant < stop

instance (start stop instant : τ) : Decidable (Covers start stop instant) :=
  inferInstanceAs (Decidable (_ ∧ _))

/-- Ranges that cover a common instant overlap. -/
theorem Covers.overlap {start stop start' stop' instant : τ}
    (hfirst : Covers start stop instant) (hsecond : Covers start' stop' instant) :
    start < stop' ∧ start' < stop :=
  ⟨lt_of_le_of_lt hfirst.1 hsecond.2, lt_of_le_of_lt hsecond.1 hfirst.2⟩

/-- Overlapping ranges cover the later of their starts. -/
theorem exists_covers_of_overlap {start stop start' stop' : τ} (hfirst : start < stop)
    (hsecond : start' < stop') (hoverlap : start < stop' ∧ start' < stop) :
    ∃ instant, Covers start stop instant ∧ Covers start' stop' instant :=
  ⟨max start start', ⟨le_max_left _ _, max_lt hfirst hoverlap.2⟩,
    ⟨le_max_right _ _, max_lt hoverlap.1 hsecond⟩⟩

variable {α : Type v} {β : Type w}

/-- A count is bounded by the number of images with a property when every counted
row has such an image. -/
theorem countP_le_length_filterMap {counted : α → Bool} {image : α → Option β} {wanted : β → Bool}
    {rows : List α}
    (himage : ∀ row ∈ rows, counted row = true → ∃ value, image row = some value ∧
      wanted value = true) :
    rows.countP counted ≤ ((rows.filterMap image).filter wanted).length := by
  induction rows with
  | nil => exact le_refl _
  | cons row rest ih =>
      have hrest := ih fun other hother => himage other (List.mem_cons_of_mem _ hother)
      cases hcounted : counted row with
      | true =>
          obtain ⟨value, hvalue, hwanted⟩ := himage row List.mem_cons_self hcounted
          rw [List.countP_cons_of_pos hcounted, List.filterMap_cons_some hvalue,
            List.filter_cons_of_pos hwanted, List.length_cons]
          exact Nat.succ_le_succ hrest
      | false =>
          rw [List.countP_cons_of_neg (by simp [hcounted])]
          refine le_trans hrest ?_
          cases hvalue : image row with
          | none => rw [List.filterMap_cons_none hvalue]
          | some value =>
              rw [List.filterMap_cons_some hvalue, List.filter_cons]
              split
              · exact Nat.le_succ _
              · exact le_refl _

/-- The same for the images of the rows a query selects. -/
theorem countP_le_length_filterMap_filter {counted selected : α → Bool} {image : α → Option β}
    {wanted : β → Bool} {rows : List α}
    (himage : ∀ row ∈ rows, counted row = true → selected row = true ∧
      ∃ value, image row = some value ∧ wanted value = true) :
    rows.countP counted ≤ (((rows.filter selected).filterMap image).filter wanted).length := by
  rw [List.filterMap_filter]
  apply countP_le_length_filterMap
  intro row hrow hcounted
  obtain ⟨hselected, value, hvalue, hwanted⟩ := himage row hrow hcounted
  exact ⟨value, by rw [if_pos hselected, hvalue], hwanted⟩

end BusinessAssistant.Foundation.Occupancy
