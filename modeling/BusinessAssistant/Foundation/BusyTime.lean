/-
# Time that counts

Of a discrete time some instants count. The time between two instants is measured by how
many of those between them count, and an amount of it falls due at the first instant by
which that many have passed.

The instants that count are often those of a list of spans. `spend` goes through such a
list once, with a cursor that only moves forward; when the spans begin in the order of the
list it finds the instant at which the amount is due, also where spans overlap.
-/

import Mathlib.Data.Finset.Card
import Mathlib.Order.Interval.Finset.Basic
import Mathlib.Data.Int.ConditionallyCompleteOrder
import Mathlib.Data.Int.Interval
import Mathlib.Tactic.Linarith

namespace BusinessAssistant.Foundation.BusyTime

variable (Busy : Int → Prop)

open Classical in
/-- How many of the instants from one up to another count. -/
noncomputable def busyTime (start stop : Int) : Int :=
  ((Finset.Ico start stop).filter Busy).card

/-- The instant at which an amount is due: the first by which so much time has counted. -/
structure IsDue (start amount due : Int) : Prop where
  after : start < due
  passed : busyTime Busy start due = amount
  first : ∀ instant, start ≤ instant → instant < due → busyTime Busy start instant < amount

variable {Busy} {start middle stop amount due : Int}

/-! ## Measuring -/

theorem busyTime_add (hfirst : start ≤ middle) (hsecond : middle ≤ stop) :
    busyTime Busy start stop = busyTime Busy start middle + busyTime Busy middle stop := by
  classical
  unfold busyTime
  rw [← Finset.Ico_union_Ico_eq_Ico hfirst hsecond, Finset.filter_union,
    Finset.card_union_of_disjoint, Nat.cast_add]
  exact Finset.disjoint_filter_filter (Finset.Ico_disjoint_Ico_consecutive start middle stop)

theorem busyTime_nonneg (start stop : Int) : 0 ≤ busyTime Busy start stop :=
  Int.natCast_nonneg _

/-- Where every instant counts, all the time counts. -/
theorem busyTime_of_busy (hle : start ≤ stop)
    (hbusy : ∀ instant, start ≤ instant → instant < stop → Busy instant) :
    busyTime Busy start stop = stop - start := by
  classical
  unfold busyTime
  rw [Finset.filter_true_of_mem, Int.card_Ico, Int.toNat_of_nonneg (by omega)]
  intro instant hinstant
  obtain ⟨hfrom, hto⟩ := Finset.mem_Ico.mp hinstant
  exact hbusy instant hfrom hto

/-- Where no instant counts, no time does. -/
theorem busyTime_of_idle (hidle : ∀ instant, start ≤ instant → instant < stop → ¬ Busy instant) :
    busyTime Busy start stop = 0 := by
  classical
  unfold busyTime
  rw [Finset.filter_false_of_mem, Finset.card_empty, Nat.cast_zero]
  intro instant hinstant
  obtain ⟨hfrom, hto⟩ := Finset.mem_Ico.mp hinstant
  exact hidle instant hfrom hto

theorem busyTime_mono {later : Int} (hfirst : start ≤ stop) (hlater : stop ≤ later) :
    busyTime Busy start stop ≤ busyTime Busy start later := by
  have hsum := @busyTime_add Busy start stop later hfirst hlater
  have hrest := @busyTime_nonneg Busy stop later
  omega

/-- Less counts from a later instant on. -/
theorem busyTime_anti {later : Int} (hstart : start ≤ later) (hlater : later ≤ stop) :
    busyTime Busy later stop ≤ busyTime Busy start stop := by
  have hsum := @busyTime_add Busy start later stop hstart hlater
  have hrest := @busyTime_nonneg Busy start later
  omega

/-! ## Falling due -/

/-- An amount is due at one instant. -/
theorem IsDue.unique {other : Int} (h : IsDue Busy start amount due)
    (hother : IsDue Busy start amount other) : due = other := by
  by_contra hne
  rcases Int.lt_or_gt_of_ne hne with hlt | hgt
  · have hearly := hother.first due h.after.le hlt
    exact absurd h.passed (by omega)
  · have hearly := h.first other hother.after.le hgt
    exact absurd hother.passed (by omega)

/-- A larger amount is due later. -/
theorem IsDue.mono_amount {more later : Int} (h : IsDue Busy start amount due)
    (hlater : IsDue Busy start more later) (hle : amount ≤ more) : due ≤ later := by
  by_contra hlt
  have hearly := h.first later hlater.after.le (by omega)
  have hpassed := hlater.passed
  omega

/-- What starts later is due later. -/
theorem IsDue.mono_start {later other : Int} (h : IsDue Busy start amount due)
    (hother : IsDue Busy later amount other) (hle : start ≤ later) : due ≤ other := by
  by_contra hlt
  have hafter := hother.after
  have hearly := h.first other (by omega) (by omega)
  have hpassed := hother.passed
  have hanti := @busyTime_anti Busy _ _ _ hle hother.after.le
  omega

/-- Two amounts one after the other are due when their sum is. -/
theorem IsDue.add {rest : Int} (h : IsDue Busy start amount middle)
    (hrest : IsDue Busy middle rest due) : IsDue Busy start (amount + rest) due := by
  have hafter := h.after
  have hbefore := hrest.after
  refine ⟨by omega, ?_, ?_⟩
  · rw [busyTime_add hafter.le hbefore.le, h.passed, hrest.passed]
  · intro instant hfrom hto
    rcases Int.lt_or_le instant middle with hearly | hlate
    · have hshort := h.first instant hfrom hearly
      have hsome := @busyTime_nonneg Busy middle due
      rw [hrest.passed] at hsome
      omega
    · rw [busyTime_add hafter.le hlate, h.passed]
      have hshort := hrest.first instant hlate hto
      omega

/-! ## Going through spans -/

/-- Use an amount up in a list of spans from a cursor on: the instant at which it is due,
or the last cursor and what is left. -/
def spend : List (Int × Int) → Int → Int → Int ⊕ (Int × Int)
  | [], cursor, remaining => .inr (cursor, remaining)
  | span :: rest, cursor, remaining =>
      let availableFrom := max cursor span.1
      if availableFrom ≥ span.2 then spend rest cursor remaining
      else if remaining ≤ span.2 - availableFrom then .inl (availableFrom + remaining)
      else spend rest span.2 (remaining - (span.2 - availableFrom))

/-- An instant of one of the spans. -/
def InSpans (spans : List (Int × Int)) (instant : Int) : Prop :=
  ∃ span ∈ spans, span.1 ≤ instant ∧ instant < span.2

/-- What counts from a cursor on lies in the spans, or after all of them. -/
def Remaining (Busy : Int → Prop) (spans : List (Int × Int)) (cursor : Int) : Prop :=
  ∀ instant, cursor ≤ instant → Busy instant →
    InSpans spans instant ∨ ∀ span ∈ spans, span.2 ≤ instant

/-- A span that is used up can be left out. -/
theorem Remaining.tail {span : Int × Int} {rest : List (Int × Int)} {cursor later : Int}
    (h : Remaining Busy (span :: rest) cursor) (hle : cursor ≤ later) (hspan : span.2 ≤ later) :
    Remaining Busy rest later := by
  intro instant hfrom hbusy
  rcases h instant (by omega) hbusy with ⟨other, hother, hstart, hstop⟩ | hafter
  · rcases List.mem_cons.mp hother with rfl | hrest
    · omega
    · exact .inl ⟨other, hrest, hstart, hstop⟩
  · exact .inr fun other hother => hafter other (List.mem_cons_of_mem _ hother)

/-- Nothing counts before the first span begins. -/
theorem Remaining.idle {span : Int × Int} {rest : List (Int × Int)} {cursor : Int}
    (h : Remaining Busy (span :: rest) cursor) (hspan : span.1 < span.2)
    (hsorted : ∀ other ∈ rest, span.1 ≤ other.1) :
    ∀ instant, cursor ≤ instant → instant < span.1 → ¬ Busy instant := by
  intro instant hfrom hto hbusy
  rcases h instant hfrom hbusy with ⟨other, hother, hstart, _⟩ | hafter
  · rcases List.mem_cons.mp hother with rfl | hrest
    · omega
    · have hlater := hsorted other hrest
      omega
  · have hlater := hafter span List.mem_cons_self
    omega

/-- `spend` finds the instant at which the amount is due, where the spans have a length,
begin in order, and hold everything that counts. -/
theorem isDue_of_spend {spans : List (Int × Int)} {cursor remaining : Int}
    (hlength : ∀ span ∈ spans, span.1 < span.2) (hsorted : spans.Pairwise fun a b => a.1 ≤ b.1)
    (hbusy : ∀ instant, InSpans spans instant → Busy instant)
    (hremaining : Remaining Busy spans cursor) (hpositive : 0 < remaining)
    (hdue : spend spans cursor remaining = .inl due) : IsDue Busy cursor remaining due := by
  induction spans generalizing cursor remaining with
  | nil => cases hdue
  | cons span rest ih =>
      obtain ⟨hbegins, hrest⟩ := List.pairwise_cons.mp hsorted
      have hspan := hlength span List.mem_cons_self
      have hidle := hremaining.idle hspan hbegins
      have htail : ∀ instant, InSpans rest instant → Busy instant := by
        rintro instant ⟨other, hother, hinside⟩
        exact hbusy instant ⟨other, List.mem_cons_of_mem _ hother, hinside⟩
      have hlengths : ∀ other ∈ rest, other.1 < other.2 :=
        fun other hother => hlength other (List.mem_cons_of_mem _ hother)
      unfold spend at hdue
      by_cases hused : max cursor span.1 ≥ span.2
      · rw [if_pos hused] at hdue
        exact ih hlengths hrest htail (hremaining.tail le_rfl (by omega)) hpositive hdue
      · rw [if_neg hused] at hdue
        have hwait : busyTime Busy cursor (max cursor span.1) = 0 :=
          busyTime_of_idle fun instant hfrom hto => hidle instant hfrom (by omega)
        have hwithin : ∀ instant, max cursor span.1 ≤ instant → instant ≤ span.2 →
            busyTime Busy cursor instant = instant - max cursor span.1 := by
          intro instant hfrom hto
          rw [busyTime_add (le_max_left cursor span.1) hfrom, hwait, busyTime_of_busy hfrom, zero_add]
          intro other hother hlt
          exact hbusy other ⟨span, List.mem_cons_self, by omega, by omega⟩
        by_cases hfits : remaining ≤ span.2 - max cursor span.1
        · rw [if_pos hfits] at hdue
          cases hdue
          refine ⟨by omega, ?_, ?_⟩
          · rw [hwithin _ (by omega) (by omega)]
            omega
          · intro instant hfrom hto
            rcases Int.lt_or_le instant (max cursor span.1) with hearly | hlate
            · have hmono := @busyTime_mono Busy _ _ _ hfrom hearly.le
              omega
            · rw [hwithin instant hlate (by omega)]
              omega
        · rw [if_neg hfits] at hdue
          -- The span is used up: the rest falls due from its end on.
          have hlast := ih hlengths hrest htail (hremaining.tail (by omega) le_rfl) (by omega) hdue
          have hspent := hwithin span.2 (by omega) le_rfl
          have hfirst : ∀ instant, cursor ≤ instant → instant < span.2 →
              busyTime Busy cursor instant < span.2 - max cursor span.1 := by
            intro instant hfrom hto
            rcases Int.lt_or_le instant (max cursor span.1) with hearly | hlate
            · have hmono := @busyTime_mono Busy _ _ _ hfrom hearly.le
              omega
            · rw [hwithin instant hlate hto.le]
              omega
          have hused : IsDue Busy cursor (span.2 - max cursor span.1) span.2 :=
            ⟨by omega, hspent, hfirst⟩
          have hboth := hused.add hlast
          rwa [add_sub_cancel] at hboth

end BusinessAssistant.Foundation.BusyTime
