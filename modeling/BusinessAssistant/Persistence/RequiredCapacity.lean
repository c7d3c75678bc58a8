/-
# Required capacity

The link of a service to a resource stores how many units the service requires of
it. Nothing reads that column: the snapshot gives every hold and every booking
one unit, and a slot needs one.
-/

import BusinessAssistant.Persistence.Capacity
import BusinessAssistant.Persistence.Runs
import Mathlib.Algebra.Group.Action.Defs

namespace BusinessAssistant.Persistence

open BusinessAssistant.Domain BusinessAssistant.Application BusinessAssistant.Foundation
open BusinessAssistant.Foundation.Occupancy

/-- `required_capacity` of the link of a service to a resource. -/
def Catalogue.requiredCapacity (cfg : Catalogue) (row : ResourceRow) (serviceId : ServiceId) :
    Nat :=
  ((cfg.serviceResources.find? fun link =>
    link.tenantId = row.tenantId ∧ link.serviceId = serviceId ∧ link.resourceId = row.id).map
      (·.requiredCapacity)).getD 0

/-! ## What lies over a range -/

/-- Rows with a start and an end overlap a range. -/
def Overlaps (startAt endAt : Int) (occupied : TimeRange) : Prop :=
  startAt < occupied.stop ∧ occupied.start < endAt

instance (startAt endAt : Int) (occupied : TimeRange) : Decidable (Overlaps startAt endAt occupied) :=
  inferInstanceAs (Decidable (_ ∧ _))

/-- The active unexpired holds over a range that start before `horizon`. -/
def holdsOver (db : Database) (row : ResourceRow) (now horizon : Int) (occupied : TimeRange) :
    List SlotHoldRow :=
  db.slotHolds.filter fun hold =>
    hold.tenantId = row.tenantId ∧ hold.resourceId = row.id ∧ hold.Unexpired now ∧
      hold.startAt < horizon ∧ Overlaps hold.startAt hold.endAt occupied

/-- The confirmed and reschedule-pending bookings of known services over a range
that start before `horizon`. -/
def bookingsOver (cfg : Catalogue) (db : Database) (row : ResourceRow) (horizon : Int)
    (occupied : TimeRange) : List BookingRow :=
  db.bookings.filter fun booking =>
    booking.tenantId = row.tenantId ∧ booking.resourceId = some row.id ∧ booking.Occupies ∧
      (cfg.service? booking.tenantId booking.serviceId).isSome ∧
      booking.startAt < horizon ∧ Overlaps booking.startAt booking.endAt occupied

/-- The active blackouts over a range that start before `horizon`. -/
def blackoutsOver (cfg : Catalogue) (row : ResourceRow) (horizon : Int) (occupied : TimeRange) :
    List ResourceUnavailabilityRow :=
  cfg.unavailability.filter fun blackout =>
    blackout.tenantId = row.tenantId ∧ blackout.resourceId = row.id ∧ blackout.active ∧
      blackout.startAt < horizon ∧ Overlaps blackout.startAt blackout.endAt occupied

/-- The units of a resource taken over a range when a hold or booking takes the
`weight` of its service and a blackout takes them all. -/
def demandOver (cfg : Catalogue) (db : Database) (weight : ServiceId → Nat) (row : ResourceRow)
    (now horizon : Int) (occupied : TimeRange) : Nat :=
  ((holdsOver db row now horizon occupied).map fun hold => weight hold.serviceId).sum +
    ((bookingsOver cfg db row horizon occupied).map fun booking => weight booking.serviceId).sum +
    (blackoutsOver cfg row horizon occupied).length * row.capacity

/-- Periods of equal weight use that weight each. -/
theorem usedCapacity_of_uniform {busy : List BusyPeriod} {units : Nat}
    (huniform : ∀ period ∈ busy, period.capacityUsed = units) (occupied : TimeRange) :
    usedCapacity busy occupied =
      (busy.filter fun period => overlaps period.timeRange occupied).length * units := by
  have hunits : ∀ period ∈ busy.filter fun period => overlaps period.timeRange occupied,
      period.capacityUsed = units := fun period hperiod =>
    huniform period (List.mem_of_mem_filter hperiod)
  rw [usedCapacity, List.map_congr_left hunits, List.map_const', List.sum_replicate, smul_eq_mul]

section Snapshot

variable {cfg : Catalogue} {db : Database} {row : ResourceRow} {now horizon : Int}
  {occupied : TimeRange}

theorem overlaps_of_overlaps {period : TimeRange} (h : Overlaps period.start period.stop occupied) :
    overlaps period occupied = true := by
  rw [overlaps, decide_eq_true h.1, decide_eq_true h.2]
  rfl

theorem holdsOver_le (hlater : now ≤ occupied.start) :
    (holdsOver db row now horizon occupied).length ≤
      usedCapacity (holdPeriods db row.tenantId now horizon row.id) occupied := by
  refine le_trans ?_ (length_le_usedCapacity (one_le_holdPeriods db row.tenantId now horizon row.id)
    occupied)
  rw [holdsOver, ← List.countP_eq_length_filter, holdPeriods, ← List.filterMap_eq_map]
  apply countP_le_length_filterMap_filter
  intro hold _ hcounted
  obtain ⟨htenant, hresource, hunexpired, hstart, hover⟩ := of_decide_eq_true hcounted
  exact ⟨decide_eq_true ⟨htenant, hresource, hunexpired, lt_of_le_of_lt hlater hover.2, hstart⟩, _,
    rfl, overlaps_of_overlaps hover⟩

theorem bookingsOver_le (hlater : now ≤ occupied.start) :
    (bookingsOver cfg db row horizon occupied).length ≤
      usedCapacity (bookingPeriods cfg db row.tenantId now horizon row.id) occupied := by
  refine le_trans ?_ (length_le_usedCapacity
    (one_le_bookingPeriods cfg db row.tenantId now horizon row.id) occupied)
  rw [bookingsOver, ← List.countP_eq_length_filter, bookingPeriods]
  apply countP_le_length_filterMap_filter
  intro booking _ hcounted
  obtain ⟨htenant, hresource, hoccupies, hservice, hstart, hover⟩ := of_decide_eq_true hcounted
  obtain ⟨service, hservice⟩ := Option.isSome_iff_exists.mp hservice
  -- The snapshot's period goes on for the cleanup.
  have hperiod : Overlaps (booking.busyPeriod service).timeRange.start
      (booking.busyPeriod service).timeRange.stop occupied := by
    refine ⟨hover.1, lt_of_lt_of_le hover.2 ?_⟩
    exact Int.le_add_of_nonneg_right service.buffer_nonneg
  exact ⟨decide_eq_true ⟨htenant, hresource, hoccupies, lt_of_le_of_lt hlater hover.2, hstart⟩, _,
    by rw [hservice]; rfl, overlaps_of_overlaps hperiod⟩

theorem blackoutsOver_le (hlater : now ≤ occupied.start) :
    (blackoutsOver cfg row horizon occupied).length * row.capacity ≤
      usedCapacity (unavailabilityPeriods cfg row.tenantId now horizon row.id row.capacity)
        occupied := by
  have hwhole : ∀ period ∈ unavailabilityPeriods cfg row.tenantId now horizon row.id row.capacity,
      period.capacityUsed = row.capacity := by
    intro period hperiod
    obtain ⟨blackout, _, rfl⟩ := List.mem_map.mp hperiod
    rfl
  rw [usedCapacity_of_uniform hwhole]
  apply Nat.mul_le_mul_right
  rw [blackoutsOver, ← List.countP_eq_length_filter, unavailabilityPeriods,
    ← List.filterMap_eq_map]
  apply countP_le_length_filterMap_filter
  intro blackout _ hcounted
  obtain ⟨htenant, hresource, hactive, hstart, hover⟩ := of_decide_eq_true hcounted
  exact ⟨decide_eq_true ⟨htenant, hresource, hactive, lt_of_le_of_lt hlater hover.2, hstart⟩, _,
    rfl, overlaps_of_overlaps hover⟩

/-- Counted one each, what lies over a range uses no more than the snapshot
says. -/
theorem demandOver_le (hlater : now ≤ occupied.start) :
    demandOver cfg db (fun _ => 1) row now horizon occupied ≤
      usedCapacity (busyPeriods cfg db row.tenantId now horizon row) occupied := by
  have hholds := @holdsOver_le db row now horizon occupied hlater
  have hbookings := @bookingsOver_le cfg db row now horizon occupied hlater
  have hblackouts := @blackoutsOver_le cfg row now horizon occupied hlater
  rw [busyPeriods, usedCapacity_perm (List.perm_insertionSort _ _), usedCapacity_append,
    usedCapacity_append]
  unfold demandOver
  simp only [List.map_const', List.sum_replicate, smul_eq_mul, mul_one]
  omega

end Snapshot

/-- A slot is offered on a resource of the service only if one unit for it, one
for each hold and booking over its time, and the whole capacity for each blackout
fit the capacity, whatever the links require. -/
theorem slot_fits_unit_demand {cfg : Catalogue} {db : Database} {tenantId : TenantId}
    {serviceId : ServiceId} {policyRow : BookingPolicyRow} {context : AvailabilityContext}
    {localDate now : Int} {slots : List AvailableSlot} {slot : AvailableSlot}
    (hpolicy : cfg.policy? tenantId = some policyRow)
    (hcontext : availabilityContext cfg db tenantId serviceId now = .ok (some context))
    (hslots : calculateAvailability context localDate now = .ok slots) (hslot : slot ∈ slots) :
    ∃ row ∈ cfg.resources, row.tenantId = tenantId ∧ slot.resourceId = row.id ∧
      cfg.Links tenantId serviceId row.id ∧
      1 + demandOver cfg db (fun _ => 1) row now (horizonEnd policyRow now)
        (context.occupied slot.startAt) ≤ row.capacity := by
  unfold availabilityContext at hcontext
  cases hservice : cfg.service? tenantId serviceId with
  | none =>
      rw [hservice] at hcontext
      cases hcontext
  | some service =>
  rw [hservice, hpolicy] at hcontext
  simp only at hcontext
  cases haccepted : bookingPolicy policyRow with
  | error failure =>
      rw [haccepted] at hcontext
      cases hcontext
  | ok policy =>
  rw [haccepted] at hcontext
  cases hcontext
  obtain ⟨_, htenant, hid⟩ := Table.of_find? hservice
  have hoffered := offered_of_mem hslots slot hslot
  obtain ⟨resource, hresource, hresourceId, _, hcapacity⟩ := hoffered.resource
  obtain ⟨row, hstored, hrowTenant, hlinks, hrowId, hrowCapacity, _, hbusy⟩ :=
    mem_contextOf_resources hresource
  rw [htenant] at hrowTenant hlinks hbusy
  rw [hid] at hlinks
  refine ⟨row, hstored, hrowTenant, hresourceId.trans hrowId, hlinks, ?_⟩
  have hlater : now ≤ ((contextOf cfg db service policyRow policy now).occupied
      slot.startAt).start := by
    have hnotice := hoffered.notice
    have hpositive := (contextOf cfg db service policyRow policy now).policy.minimumNoticePositive
    show now ≤ slot.startAt
    omega
  have hfits := @demandOver_le cfg db row now (horizonEnd policyRow now) _ hlater
  rw [hasCapacity, Bool.and_eq_true, decide_eq_true_eq, hrowCapacity, hbusy] at hcapacity
  rw [hrowTenant] at hfits
  omega

namespace Shop

/-- The shop's single unit, of which its service requires two. -/
def demanding : Catalogue :=
  { catalogue 0 0 with
    serviceResources :=
      [{ tenantId := tenantId, serviceId := serviceId, resourceId := resourceId,
         requiredCapacity := 2, active := true }] }

theorem halfHour_pos : 0 < minutes 30 := by decide

theorem tenMinutes_pos : 0 < minutes 10 := by decide

/-- What the constructor makes of the shop's policy. -/
def acceptedPolicy : BookingPolicy where
  slotInterval := minutes 30
  bookingHorizon := days 30
  minimumNotice := minutes 10
  holdDuration := minutes 5
  draftDuration := minutes 120
  changeCutoff := minutes 60
  customerNameMaxLength := 100
  customerPhoneMaxLength := 32
  customerNoteMaxLength := 500
  slotIntervalPositive := halfHour_pos
  bookingHorizonPositive := by decide
  minimumNoticePositive := tenMinutes_pos
  holdDurationPositive := by decide
  draftDurationPositive := by decide
  changeCutoffNonnegative := by decide
  nameLimitValid := policy.nameLimitValid
  phoneLimitValid := policy.phoneLimitValid
  noteLimitValid := policy.noteLimitValid

/-- The snapshot at a quarter past four, when the last slot is still ahead. -/
def lateContext : AvailabilityContext :=
  contextOf demanding {} (service 0) policy acceptedPolicy (time 0 16 15)

theorem availabilityContext_late :
    availabilityContext demanding {} tenantId serviceId (time 0 16 15) = .ok (some lateContext) := by
  decide +kernel

/-- Half past four, on the resource. -/
def lateSlot : AvailableSlot where
  startAt := time 0 16 30
  endAt := time 0 17 0
  resourceId := resourceId
  localDate := 0
  localTime := 990
  timezone := utc
  timeOrderValid := by decide

theorem slots_of_late :
    calculateAvailability lateContext 0 (time 0 16 15) = .ok [lateSlot] := by
  decide +kernel

end Shop

namespace Shop

/-- Three units, of which a service requires two. -/
def roomy : Catalogue := { catalogue 0 2 with serviceResources := demanding.serviceResources }

/-- At a quarter past four the last slot has been booked and is held once more. -/
def takenTwice : Database :=
  (opened.after roomy
    (takesFirstSlot 0 1000 none 0 (time 0 16 12) ++
      (takesFirstSlot 1 2000 none 0 (time 0 16 13)).take 3)).db

def takenContext : AvailabilityContext :=
  contextOf roomy takenTwice (service 0) policy acceptedPolicy (time 0 16 15)

theorem availabilityContext_taken :
    availabilityContext roomy takenTwice tenantId serviceId (time 0 16 15) =
      .ok (some takenContext) := by
  decide +kernel

theorem slots_of_taken :
    calculateAvailability takenContext 0 (time 0 16 15) = .ok [lateSlot] := by
  decide +kernel

end Shop

open Shop in
/-- The last slot is offered beside a hold and a booking, as the resource has three units. -/
theorem slot_fits_unit_demand_late :
    let horizon := horizonEnd policy (time 0 16 15)
    let occupied := takenContext.occupied lateSlot.startAt
    (∀ row ∈ roomy.resources, demandOver roomy takenTwice (fun _ => 1) row (time 0 16 15) horizon
      occupied = 2) ∧
      ∃ row ∈ roomy.resources, row.tenantId = tenantId ∧ lateSlot.resourceId = row.id ∧
        roomy.Links tenantId serviceId row.id ∧
        1 + demandOver roomy takenTwice (fun _ => 1) row (time 0 16 15) horizon occupied ≤
          row.capacity :=
  ⟨by decide +kernel,
    slot_fits_unit_demand rfl availabilityContext_taken slots_of_taken
      (List.mem_singleton.mpr rfl)⟩

/-- A service that requires two units is offered on a resource that has one. -/
theorem required_capacity_is_not_read :
    ¬ ∀ (cfg : Catalogue) (db : Database) (tenantId : TenantId) (serviceId : ServiceId)
        (context : AvailabilityContext) (localDate now : Int) (slots : List AvailableSlot),
      availabilityContext cfg db tenantId serviceId now = .ok (some context) →
      calculateAvailability context localDate now = .ok slots →
      ∀ slot ∈ slots, ∀ row ∈ cfg.resources, row.id = slot.resourceId → row.tenantId = tenantId →
        cfg.requiredCapacity row serviceId +
          demandOver cfg db (cfg.requiredCapacity row) row now
            (context.occupied slot.startAt).stop (context.occupied slot.startAt) ≤
          row.capacity := by
  intro hclaim
  have hfits := hclaim Shop.demanding {} Shop.tenantId Shop.serviceId Shop.lateContext 0 _ _
    Shop.availabilityContext_late Shop.slots_of_late Shop.lateSlot (List.mem_singleton.mpr rfl)
    _ (List.mem_singleton.mpr rfl) rfl rfl
  exact absurd hfits (by decide +kernel)

end BusinessAssistant.Persistence
