/-
# What availability depends on

Of the busy periods of a resource, the engine uses only how much capacity they
take from a range. Contexts that differ in their busy periods alone, but not in
that, offer the same slots.
-/

import BusinessAssistant.Application.BookingEngine
import BusinessAssistant.Foundation.Folds
import Mathlib.Algebra.Order.BigOperators.Group.List

namespace BusinessAssistant.Application

open BusinessAssistant.Domain BusinessAssistant.Foundation.Folds

/-! ## Used capacity -/

theorem usedCapacity_perm {first second : List BusyPeriod} (hperm : first.Perm second)
    (occupied : TimeRange) : usedCapacity first occupied = usedCapacity second occupied :=
  ((hperm.filter _).map _).sum_eq

theorem usedCapacity_append (first second : List BusyPeriod) (occupied : TimeRange) :
    usedCapacity (first ++ second) occupied =
      usedCapacity first occupied + usedCapacity second occupied := by
  simp only [usedCapacity, List.filter_append, List.map_append, List.sum_append]

/-- Periods that take at least one unit each use at least as much as they are
many. -/
theorem length_le_usedCapacity {busy : List BusyPeriod} (hunit : ∀ period ∈ busy, 1 ≤ period.capacityUsed)
    (occupied : TimeRange) :
    (busy.filter fun period => overlaps period.timeRange occupied).length ≤
      usedCapacity busy occupied := by
  unfold usedCapacity
  refine le_trans (le_of_eq (List.length_map _).symm) (List.length_le_sum_of_one_le _ ?_)
  intro used hused
  obtain ⟨period, hperiod, rfl⟩ := List.mem_map.mp hused
  exact hunit period (List.mem_of_mem_filter hperiod)

/-! ## Resources with the same room -/

/-- A resource with other busy periods that take the same capacity from every
range. -/
def AvailableResource.SameRoom (first second : AvailableResource) : Prop :=
  ∃ busy, second = { first with busyPeriods := busy } ∧
    ∀ occupied, usedCapacity busy occupied = usedCapacity first.busyPeriods occupied

/-- A context with other resources. -/
def AvailabilityContext.withResources (context : AvailabilityContext)
    (resources : List AvailableResource) : AvailabilityContext :=
  { context with resources := resources }

variable {context : AvailabilityContext} {resources : List AvailableResource}
  {first second : AvailableResource} {localDate now : Int}

theorem AvailableResource.SameRoom.hasCapacity (h : first.SameRoom second)
    (occupied : TimeRange) :
    Application.hasCapacity second occupied = Application.hasCapacity first occupied := by
  obtain ⟨busy, rfl, hused⟩ := h
  unfold Application.hasCapacity
  rw [hused occupied]

/-- Resources with the same room take the same turn of the innermost loop. -/
theorem offerStart_sameRoom (h : first.SameRoom second) (closing cursor : Int) :
    offerStart (context.withResources resources) second localDate closing now cursor =
      offerStart context first localDate closing now cursor := by
  have hcapacity := h.hasCapacity
  obtain ⟨busy, rfl, _⟩ := h
  funext candidates start
  unfold offerStart
  rw [hcapacity]
  rfl

theorem scanInterval_sameRoom (h : first.SameRoom second) (candidates : List AvailableSlot)
    (interval : TimeOfDay × TimeOfDay) :
    scanInterval (context.withResources resources) second localDate now candidates interval =
      scanInterval context first localDate now candidates interval := by
  have hturn : ∀ closing cursor, offerStart (context.withResources resources) second localDate
      closing now cursor = offerStart context first localDate closing now cursor :=
    fun closing cursor => offerStart_sameRoom h closing cursor
  obtain ⟨busy, rfl, _⟩ := h
  unfold scanInterval
  simp only [hturn]
  rfl

theorem scanResource_sameRoom (h : first.SameRoom second) (candidates : List AvailableSlot) :
    scanResource (context.withResources resources) localDate now candidates second =
      scanResource context localDate now candidates first := by
  have hturn : scanInterval (context.withResources resources) second localDate now =
      scanInterval context first localDate now := by
    funext earlier interval
    exact scanInterval_sameRoom h earlier interval
  obtain ⟨busy, rfl, _⟩ := h
  unfold scanResource
  rw [hturn]

/-- Contexts with the same room offer the same slots. -/
theorem calculateAvailability_sameRoom
    (hrooms : List.Forall₂ AvailableResource.SameRoom context.resources resources) :
    calculateAvailability (context.withResources resources) localDate now =
      calculateAvailability context localDate now := by
  have hempty : resources = [] ↔ context.resources = [] := by
    rw [← List.length_eq_zero_iff, ← List.length_eq_zero_iff, hrooms.length_eq]
  have hsorted : List.Forall₂ AvailableResource.SameRoom
      (context.resources.insertionSort byResourceId) (resources.insertionSort byResourceId) := by
    apply forall₂_insertionSort _ hrooms
    rintro a a' b b' ⟨_, rfl, _⟩ ⟨_, rfl, _⟩
    exact Iff.rfl
  have hfold : (context.resources.insertionSort byResourceId).foldlM
      (scanResource context localDate now) [] =
        (resources.insertionSort byResourceId).foldlM
          (scanResource (context.withResources resources) localDate now) [] :=
    foldlM_forall₂ hsorted
      (fun candidates _ _ hroom => (scanResource_sameRoom hroom candidates).symm) []
  unfold calculateAvailability
  show (if context.active = false ∨ context.bookable = false ∨ resources = [] then _ else _) = _
  simp only [hempty]
  rw [hfold]
  rfl

end BusinessAssistant.Application
