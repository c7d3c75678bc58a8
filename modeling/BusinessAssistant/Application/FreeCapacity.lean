/-
# Capacity an appointment finds free

Admission adds up every busy period that touches an appointment, also periods
that never coincide. The sum is at least what is in use at any instant, and no
more than that matters when there is one unit to use: then a start is withheld
only if some instant of the appointment is taken.
-/

import BusinessAssistant.Application.AvailabilitySpec
import BusinessAssistant.Foundation.Occupancy
import Mathlib.Algebra.Order.BigOperators.Group.List

namespace BusinessAssistant.Application

open BusinessAssistant.Domain BusinessAssistant.Foundation.Occupancy

/-- The capacity the busy periods covering an instant use. -/
def usedAt (busy : List BusyPeriod) (instant : Int) : Nat :=
  ((busy.filter fun period => Covers period.timeRange.start period.timeRange.stop instant).map
    (·.capacityUsed)).sum

/-- At every instant of a range some capacity of the resource is free. -/
def FreeThroughout (resource : AvailableResource) (occupied : TimeRange) : Prop :=
  ∀ instant, Covers occupied.start occupied.stop instant →
    usedAt resource.busyPeriods instant < resource.capacity

/-- A period takes part in the sum over an instant it covers. -/
theorem le_usedAt {busy : List BusyPeriod} {period : BusyPeriod} (hperiod : period ∈ busy)
    {instant : Int} (hcovers : Covers period.timeRange.start period.timeRange.stop instant) :
    period.capacityUsed ≤ usedAt busy instant := by
  apply List.le_sum_of_mem
  apply List.mem_map_of_mem
  exact List.mem_filter.mpr ⟨hperiod, decide_eq_true hcovers⟩

/-- With one unit to use, a range free at every instant is touched by no period
that uses any. -/
theorem usedCapacity_of_freeThroughout {resource : AvailableResource} {occupied : TimeRange}
    (hone : resource.capacity = 1) (hfree : FreeThroughout resource occupied) :
    usedCapacity resource.busyPeriods occupied = 0 := by
  apply List.sum_eq_zero
  intro used hused
  obtain ⟨period, hperiod, rfl⟩ := List.mem_map.mp hused
  obtain ⟨hlisted, htouches⟩ := List.mem_filter.mp hperiod
  rw [overlaps, Bool.and_eq_true, decide_eq_true_eq, decide_eq_true_eq] at htouches
  obtain ⟨instant, hcovers, hinstant⟩ :=
    exists_covers_of_overlap period.timeRange.ordered occupied.ordered htouches
  have hlimit := hfree instant hinstant
  have hused := le_usedAt hlisted hcovers
  omega

section Slots

variable {context : AvailabilityContext} {localDate now : Int}

/-- A start that a resource of an active and bookable service admits is on the
list, if the periods touching the appointment leave capacity between them or if
the resource has a single unit and it is free at every instant. -/
theorem no_free_capacity_withheld {slots : List AvailableSlot}
    (hslots : calculateAvailability context localDate now = .ok slots)
    (hactive : context.active = true) (hbookable : context.bookable = true)
    {resource : AvailableResource} (hresource : resource ∈ context.resources) {start : Int}
    (hadmissible :
      Admissible (visitedGrid context localDate) context localDate now resource start)
    (hfree : usedCapacity resource.busyPeriods (context.occupied start) < resource.capacity ∨
      resource.capacity = 1 ∧ FreeThroughout resource (context.occupied start)) :
    ∃ slot ∈ slots, slot.startAt = start := by
  have hcapacity : usedCapacity resource.busyPeriods (context.occupied start) <
      resource.capacity := by
    rcases hfree with hsum | ⟨hone, hinstants⟩
    · exact hsum
    · rw [usedCapacity_of_freeThroughout hone hinstants, hone]
      exact Nat.one_pos
  apply ((slots_of_visited hslots).starts start).mpr
  exact ⟨hactive, hbookable, resource, hresource, { hadmissible with capacity := hcapacity }⟩

end Slots

namespace SmallShop

/-- Two units, one of them taken until half past nine, one from then on. -/
def pooled : AvailableResource :=
  resource mornings 2
    [{ timeRange := { start := 32400000000, stop := 34200000000, ordered := by decide } },
      { timeRange := { start := 34200000000, stop := 36000000000, ordered := by decide } }]

/-- One unit, taken until nine. -/
def single : AvailableResource :=
  resource mornings 1
    [{ timeRange := { start := 30600000000, stop := 32400000000, ordered := by decide } }]

/-- Nine o'clock passes every test but that of capacity. -/
theorem admissible_nine {shop : AvailableResource} (hactive : shop.active = true)
    (hschedule : shop.schedule = mornings) :
    Admissible (visitedGrid (context true shop) 0) (context true shop) 0 0 shop 32400000000 where
  active := hactive
  scheduleActive := by
    rw [hschedule]
    rfl
  opening := by
    rw [hschedule]
    refine ⟨{ localDate := 0, intervals := [(32400000000, 36000000000)], source := "weekly",
              reason := none }, by decide +kernel, _, List.mem_singleton.mpr rfl, ?_⟩
    have hdenotes : utc.Denotes 32400000000 32400000000 := ⟨by decide, false, by decide⟩
    have hvisited : visitedGrid (context true shop) 0 (32400000000, 36000000000) 32400000000 := by
      unfold visitedGrid context policy
      simp only
      decide
    have hend : 32400000000 + (context true shop).duration + (context true shop).cleanupBuffer =
        36000000000 := rfl
    have hzone : shop.schedule.timezone = utc := by
      rw [hschedule]
      rfl
    apply StartsIn.mk
    case onGrid =>
      rw [hzone]
      exact ⟨32400000000, hvisited, hdenotes⟩
    case notice => exact (by decide : (0 : Int) + minutes 1 ≤ 32400000000)
    case horizon => exact (by decide : (32400000000 : Int) ≤ 0 + days 7)
    case sameDay =>
      rw [hzone, hend]
      decide
    case closes =>
      rw [hzone, hend]
      decide

end SmallShop

/-- An hour that begins as the only unit is given back. -/
theorem no_free_capacity_withheld_single :
    ∃ slot ∈ [(SmallShop.context true SmallShop.single).slot SmallShop.single 0 32400000000
      32400000000], slot.startAt = 32400000000 := by
  have hslots : calculateAvailability (SmallShop.context true SmallShop.single) 0 0 =
      .ok [(SmallShop.context true SmallShop.single).slot SmallShop.single 0 32400000000
        32400000000] := by
    decide +kernel
  exact no_free_capacity_withheld hslots rfl rfl (List.mem_singleton.mpr rfl)
    (SmallShop.admissible_nine rfl rfl) (.inl (by decide))

/-- Of two units one is free at every instant of the hour, but the two periods
that touch the hour add up to both. -/
theorem free_capacity_withheld :
    ¬ ∀ (context : AvailabilityContext) (localDate now : Int),
      ∀ resource ∈ context.resources, ∀ start,
        Admissible (visitedGrid context localDate) context localDate now resource start →
        FreeThroughout resource (context.occupied start) →
        ∃ slots, calculateAvailability context localDate now = .ok slots ∧
          ∃ slot ∈ slots, slot.startAt = start := by
  intro hclaim
  have hfree : FreeThroughout SmallShop.pooled
      ((SmallShop.context true SmallShop.pooled).occupied 32400000000) := by
    intro instant hinstant
    have hhalves : ¬ (Covers (32400000000 : Int) 34200000000 instant ∧
        Covers (34200000000 : Int) 36000000000 instant) := by
      rintro ⟨⟨-, hearlier⟩, hlater, -⟩
      omega
    unfold usedAt SmallShop.pooled SmallShop.resource
    simp only [List.filter_cons, List.filter_nil]
    by_cases hfirst : Covers (32400000000 : Int) 34200000000 instant
    · have hsecond : ¬ Covers (34200000000 : Int) 36000000000 instant := fun h =>
        hhalves ⟨hfirst, h⟩
      simp [hfirst, hsecond]
    · by_cases hsecond : Covers (34200000000 : Int) 36000000000 instant
      · simp [hfirst, hsecond]
      · simp [hfirst, hsecond]
  obtain ⟨slots, hslots, slot, hslot, -⟩ := hclaim (SmallShop.context true SmallShop.pooled) 0 0
    SmallShop.pooled (List.mem_singleton.mpr rfl) 32400000000 (SmallShop.admissible_nine rfl rfl)
    hfree
  have hnone : calculateAvailability (SmallShop.context true SmallShop.pooled) 0 0 = .ok [] := by
    decide +kernel
  rw [hnone] at hslots
  cases hslots
  cases hslot

end BusinessAssistant.Application
