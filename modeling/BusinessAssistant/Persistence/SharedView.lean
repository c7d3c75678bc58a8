/-
# What a customer can see

A customer sees the rows that are the customer's own and, of everyone else's, only
what they occupy of the resources. Two databases with the same view offer the same
slots.
-/

import BusinessAssistant.Application.AvailabilityAgreement
import BusinessAssistant.Persistence.Ownership

namespace BusinessAssistant.Persistence

open BusinessAssistant.Domain BusinessAssistant.Application BusinessAssistant.Foundation
open BusinessAssistant.Foundation.Folds

/-- The rows of one owner. -/
abbrev Owner.own (owner other : Owner) : Bool := other = owner

/-- What a live booking occupies of a resource: the end of its appointment, and
its busy period. -/
def BookingRow.periodOn (cfg : Catalogue) (resource : ResourceRow) (booking : BookingRow) :
    Option (Int × BusyPeriod) :=
  if booking.tenantId = resource.tenantId ∧ booking.resourceId = some resource.id ∧
      booking.Occupies then
    (cfg.service? booking.tenantId booking.serviceId).map fun service =>
      (booking.endAt, booking.busyPeriod service)
  else none

/-- What an unexpired hold occupies of a resource. -/
def SlotHoldRow.periodOn (now : Int) (resource : ResourceRow) (hold : SlotHoldRow) :
    Option BusyPeriod :=
  if hold.tenantId = resource.tenantId ∧ hold.resourceId = resource.id ∧ hold.Unexpired now then
    some hold.busyPeriod
  else none

/-- Two databases in which an owner sees the same: the same own rows, and on every
resource the same periods occupied by bookings and by holds, in any order. -/
structure SameView (cfg : Catalogue) (now : Int) (owner : Owner) (db db' : Database) : Prop where
  own : SamePart owner.own db db'
  booked : ∀ resource ∈ cfg.resources,
    (db.bookings.filterMap (·.periodOn cfg resource)).Perm
      (db'.bookings.filterMap (·.periodOn cfg resource))
  held : ∀ resource ∈ cfg.resources,
    (db.slotHolds.filterMap (·.periodOn now resource)).Perm
      (db'.slotHolds.filterMap (·.periodOn now resource))

section View

variable {cfg : Catalogue} {now : Int} {owner : Owner} {db db' : Database}

theorem SameView.symm (h : SameView cfg now owner db db') : SameView cfg now owner db' db where
  own := h.own.symm
  booked resource hresource := (h.booked resource hresource).symm
  held resource hresource := (h.held resource hresource).symm

/-! ## The snapshot -/

/-- The bookings the query selects, from what is occupied. -/
theorem bookingPeriods_eq (db : Database) (resource : ResourceRow) (horizon : Int) :
    bookingPeriods cfg db resource.tenantId now horizon resource.id =
      ((db.bookings.filterMap (·.periodOn cfg resource)).filter fun period =>
        period.1 > now ∧ period.2.timeRange.start < horizon).map Prod.snd := by
  unfold bookingPeriods
  rw [List.filterMap_filter, List.filter_filterMap, List.map_filterMap]
  apply List.filterMap_congr
  intro booking _
  by_cases hlive : booking.tenantId = resource.tenantId ∧
      booking.resourceId = some resource.id ∧ booking.Occupies
  · have hperiod : booking.periodOn cfg resource = _ := if_pos hlive
    rw [hperiod]
    obtain ⟨htenant, hresource, hoccupies⟩ := hlive
    cases cfg.service? booking.tenantId booking.serviceId with
    | none => simp
    | some service =>
        simp only [htenant, hresource, hoccupies, true_and, Option.map_some, Option.filter_some,
          BookingRow.busyPeriod]
        split <;> rfl
  · have hperiod : booking.periodOn cfg resource = none := if_neg hlive
    rw [hperiod, if_neg]
    · rfl
    · intro hselected
      obtain ⟨htenant, hresource, hoccupies, _⟩ := of_decide_eq_true hselected
      exact hlive ⟨htenant, hresource, hoccupies⟩

/-- The holds the query selects, from what is occupied. -/
theorem holdPeriods_eq (db : Database) (resource : ResourceRow) (horizon : Int) :
    holdPeriods db resource.tenantId now horizon resource.id =
      (db.slotHolds.filterMap (·.periodOn now resource)).filter fun period =>
        period.timeRange.stop > now ∧ period.timeRange.start < horizon := by
  unfold holdPeriods
  rw [← List.filterMap_eq_map, List.filterMap_filter, List.filter_filterMap]
  apply List.filterMap_congr
  intro hold _
  by_cases hlive : hold.tenantId = resource.tenantId ∧ hold.resourceId = resource.id ∧
      hold.Unexpired now
  · have hperiod : hold.periodOn now resource = some hold.busyPeriod := if_pos hlive
    rw [hperiod]
    obtain ⟨htenant, hresource, hunexpired⟩ := hlive
    simp only [htenant, hresource, hunexpired, true_and, Option.filter_some,
      SlotHoldRow.busyPeriod, Function.comp_apply]
  · have hperiod : hold.periodOn now resource = none := if_neg hlive
    rw [hperiod, if_neg]
    · rfl
    · intro hselected
      obtain ⟨htenant, hresource, hunexpired, _⟩ := of_decide_eq_true hselected
      exact hlive ⟨htenant, hresource, hunexpired⟩

/-- What is taken from a range is the same in both databases. -/
theorem SameView.usedCapacity (h : SameView cfg now owner db db') {resource : ResourceRow}
    (hresource : resource ∈ cfg.resources) (horizon : Int) (occupied : TimeRange) :
    Application.usedCapacity (busyPeriods cfg db' resource.tenantId now horizon resource) occupied =
      Application.usedCapacity (busyPeriods cfg db resource.tenantId now horizon resource)
        occupied := by
  apply usedCapacity_perm
  unfold busyPeriods
  refine (List.perm_insertionSort _ _).trans
    (List.Perm.trans ?_ (List.perm_insertionSort _ _).symm)
  rw [bookingPeriods_eq, bookingPeriods_eq, holdPeriods_eq, holdPeriods_eq]
  exact (((((h.booked resource hresource).filter _).map _).append
    ((h.held resource hresource).filter _)).append_right _).symm

/-- The contexts of a service have the same room. -/
theorem SameView.rooms (h : SameView cfg now owner db db') (service : ServiceRow)
    (policyRow : BookingPolicyRow) (policy : BookingPolicy) :
    List.Forall₂ AvailableResource.SameRoom (contextOf cfg db service policyRow policy now).resources
      (contextOf cfg db' service policyRow policy now).resources := by
  apply forall₂_filterMap
  intro row hrow
  rw [Catalogue.resourceRows, List.mem_insertionSort, List.mem_filter] at hrow
  obtain ⟨hstored, hlinked⟩ := hrow
  obtain ⟨htenant, _⟩ := of_decide_eq_true hlinked
  unfold availableResource
  cases cfg.schedule? service.tenantId row.scheduleId with
  | none => exact .none
  | some schedule =>
      refine .some ⟨_, rfl, ?_⟩
      intro occupied
      rw [← htenant]
      exact h.usedCapacity hstored _ occupied

/-- The same slots are on offer. -/
theorem SameView.slots (h : SameView cfg now owner db db') (service : ServiceRow)
    (policyRow : BookingPolicyRow) (policy : BookingPolicy) (localDate : Int) :
    calculateAvailability (contextOf cfg db' service policyRow policy now) localDate now =
      calculateAvailability (contextOf cfg db service policyRow policy now) localDate now :=
  calculateAvailability_sameRoom (h.rooms service policyRow policy)

/-! ## The view after a hold is given up -/

/-- Giving up a hold leaves the same own rows. -/
theorem SamePart.releaseHold (h : SamePart owner.own db db') (draft : BookingDraftRow) :
    SamePart owner.own (db.releaseHold draft) (db'.releaseHold draft) where
  __ := h
  slotHolds := by
    have hholds : ∀ stored : Database, (stored.releaseHold draft).slotHolds.filter
        (owner.own ·.owner) = Table.update
          (fun row => (row.tenantId = draft.tenantId ∧ draft.holdId = some row.id) ∧
            row.status = .active)
          (fun row => { row with status := .released })
          (stored.slotHolds.filter (owner.own ·.owner)) :=
      fun stored => Table.filter_eq_update fun _ => rfl
    rw [hholds, hholds, h.slotHolds]
  bookingDrafts := by
    have hdrafts : ∀ stored : Database, (stored.releaseHold draft).bookingDrafts.filter
        (owner.own ·.owner) = Table.update (fun row => row.id = draft.id)
          (fun row => { row with holdId := none })
          (stored.bookingDrafts.filter (owner.own ·.owner)) :=
      fun stored => Table.filter_eq_update fun _ => rfl
    rw [hdrafts, hdrafts, h.bookingDrafts]

/-- Giving up an own hold leaves the same view. -/
theorem SameView.releaseHold (h : SameView cfg now owner db db') {draft : BookingDraftRow}
    (hown : ∀ row ∈ db.slotHolds, draft.holdId = some row.id → row.owner = owner)
    (hown' : ∀ row ∈ db'.slotHolds, draft.holdId = some row.id → row.owner = owner) :
    SameView cfg now owner (db.releaseHold draft) (db'.releaseHold draft) where
  own := h.own.releaseHold draft
  booked := h.booked
  held := by
    intro resource hresource
    have hothers := Table.perm_image_of_not_visible h.own.slotHolds.symm (h.held resource hresource)
    have hkept : ∀ stored : Database,
        (∀ row ∈ stored.slotHolds, draft.holdId = some row.id → row.owner = owner) →
          (stored.releaseHold draft).slotHolds.filter (fun row => !owner.own row.owner) =
            stored.slotHolds.filter fun row => !owner.own row.owner := by
      intro stored hstored
      apply Table.filter_update_of_not_visible
      intro row hrow hselected
      have howner := hstored row hrow hselected.1.2
      exact ⟨by simp [howner], by simpa [SlotHoldRow.owner] using howner⟩
    refine Table.perm_image_of_parts (h.own.releaseHold draft).slotHolds.symm ?_
    rw [hkept db hown, hkept db' hown']
    exact hothers

end View

end BusinessAssistant.Persistence
