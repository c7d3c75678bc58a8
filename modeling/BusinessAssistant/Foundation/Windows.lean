/-
# Sliding windows

Windows over a row of items, each of which starts a fixed number of items before the end
of the one before, until one reaches the last item.
-/

import BusinessAssistant.Foundation.Members
import Mathlib.Data.List.Basic

namespace BusinessAssistant.Foundation

/-- Windows `(start, stop)` from a place to the end of `total` items: each one after the
first starts `overlap` items before the end of the one before it, each is longer than
that, and only the last one reaches the end. -/
inductive Slides (overlap total : Nat) : Nat → List (Nat × Nat) → Prop
  | last {start : Nat} (hstart : start < total) : Slides overlap total start [(start, total)]
  | next {start stop : Nat} {rest : List (Nat × Nat)} (hstart : start + overlap < stop)
      (hstop : stop < total) (hrest : Slides overlap total (stop - overlap) rest) :
      Slides overlap total start ((start, stop) :: rest)

namespace Slides

variable {overlap total start : Nat} {windows : List (Nat × Nat)}

theorem mem_bounds (hslides : Slides overlap total start windows) :
    ∀ window ∈ windows, start ≤ window.1 ∧ window.1 < window.2 ∧ window.2 ≤ total := by
  induction hslides with
  | last hstart =>
      intro window hwindow
      rw [List.mem_singleton] at hwindow
      subst hwindow
      exact ⟨Nat.le_refl _, hstart, Nat.le_refl _⟩
  | next hstart hstop _ ih =>
      intro window hwindow
      rcases List.mem_cons.mp hwindow with rfl | hlater
      · exact ⟨Nat.le_refl _, by omega, Nat.le_of_lt hstop⟩
      · obtain ⟨hfrom, hlength, hto⟩ := ih window hlater
        exact ⟨by omega, hlength, hto⟩

/-- A run of items that is at most one longer than the overlap lies in one window. -/
theorem exists_window (hslides : Slides overlap total start windows) {first count : Nat}
    (hcount : count ≤ overlap + 1) (hfirst : start ≤ first) (hlast : first + count ≤ total) :
    ∃ window ∈ windows, window.1 ≤ first ∧ first + count ≤ window.2 := by
  induction hslides with
  | last => exact ⟨_, List.mem_singleton_self _, hfirst, hlast⟩
  | @next start stop rest _ _ _ ih =>
      by_cases hhere : first + count ≤ stop
      · exact ⟨(start, stop), List.mem_cons_self, hfirst, hhere⟩
      · obtain ⟨window, hwindow, hfrom, hto⟩ := ih (by omega)
        exact ⟨window, List.mem_cons_of_mem _ hwindow, hfrom, hto⟩

/-- Every item lies in a window. -/
theorem covers (hslides : Slides overlap total start windows) {item : Nat} (hfrom : start ≤ item)
    (hto : item < total) : ∃ window ∈ windows, window.1 ≤ item ∧ item < window.2 :=
  hslides.exists_window (Nat.le_add_left 1 overlap) hfrom hto

end Slides

end BusinessAssistant.Foundation
