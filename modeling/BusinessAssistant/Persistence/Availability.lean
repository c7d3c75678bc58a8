/-
# The availability snapshot

`_availability_context` reads the service, the tenant's policy, the eligible
resources and everything that occupies them. The SQL filters on the state of
"now" are kept exactly as the queries write them: a booking is busy until its
end, a hold until its end and its expiry.
-/

import BusinessAssistant.Application.BookingEngine
import BusinessAssistant.Persistence.Rows

namespace BusinessAssistant.Persistence

open BusinessAssistant.Domain BusinessAssistant.Application

/-- `_policy`: the row's checks admit a policy without notice, the constructor
does not. -/
def bookingPolicy (row : BookingPolicyRow) : Except Failure BookingPolicy :=
  if hnotice : 0 < row.minimumNoticeMinutes then
    pure
      { slotInterval := minutes row.slotIntervalMinutes
        bookingHorizon := days row.bookingHorizonDays
        minimumNotice := minutes row.minimumNoticeMinutes
        holdDuration := minutes row.holdDurationMinutes
        draftDuration := minutes row.draftExpiryMinutes
        changeCutoff := minutes row.changeCutoffMinutes
        customerNameMaxLength := row.customerNameMaxLength
        customerPhoneMaxLength := row.customerPhoneMaxLength
        customerNoteMaxLength := row.customerNoteMaxLength
        slotIntervalPositive := by have := row.slotIntervalValid; unfold minutes; omega
        bookingHorizonPositive := by have := row.horizonValid; unfold days; omega
        minimumNoticePositive := by unfold minutes; omega
        holdDurationPositive := by have := row.holdDurationValid; unfold minutes; omega
        draftDurationPositive := by have := row.draftExpiryValid; unfold minutes; omega
        changeCutoffNonnegative := by unfold minutes; omega
        nameLimitValid := row.nameLimitValid
        phoneLimitValid := row.phoneLimitValid
        noteLimitValid := row.noteLimitValid }
  else throw (.valueError "Booking policy durations must be positive")

/-! ## Rows that occupy a resource -/

/-- The statuses under which a booking occupies its resource. -/
def BookingRow.Occupies (booking : BookingRow) : Prop :=
  booking.status = .confirmed ∨ booking.status = .reschedulePending

instance (booking : BookingRow) : Decidable booking.Occupies :=
  inferInstanceAs (Decidable (_ ∨ _))

/-- An active hold that has not run out. -/
def SlotHoldRow.Unexpired (hold : SlotHoldRow) (now : Int) : Prop :=
  hold.status = .active ∧ now < hold.expiresAt

instance (hold : SlotHoldRow) (now : Int) : Decidable (hold.Unexpired now) :=
  inferInstanceAs (Decidable (_ ∧ _))

namespace Catalogue

variable (cfg : Catalogue)

/-- The service of a tenant with an id. -/
def service? (tenantId : TenantId) (serviceId : ServiceId) : Option ServiceRow :=
  cfg.services.find? fun row => row.tenantId = tenantId ∧ row.id = serviceId

def policy? (tenantId : TenantId) : Option BookingPolicyRow :=
  cfg.policies.find? fun row => row.tenantId = tenantId

def tenant? (tenantId : TenantId) : Option TenantRow :=
  cfg.tenants.find? fun row => row.id = tenantId

def schedule? (tenantId : TenantId) (scheduleId : ScheduleId) : Option BusinessSchedule :=
  cfg.schedules.find? fun schedule => schedule.tenantId = tenantId ∧ schedule.id = scheduleId

/-- A service may use a resource. -/
def Links (tenantId : TenantId) (serviceId : ServiceId) (resourceId : ResourceId) : Prop :=
  ∃ link ∈ cfg.serviceResources, link.tenantId = tenantId ∧ link.serviceId = serviceId ∧
    link.resourceId = resourceId ∧ link.active = true

instance (tenantId : TenantId) (serviceId : ServiceId) (resourceId : ResourceId) :
    Decidable (cfg.Links tenantId serviceId resourceId) :=
  inferInstanceAs (Decidable (∃ _ ∈ _, _))

/-- The resources of a service, ordered by id. -/
def resourceRows (tenantId : TenantId) (serviceId : ServiceId) : List ResourceRow :=
  (cfg.resources.filter fun row =>
      row.tenantId = tenantId ∧ cfg.Links tenantId serviceId row.id).insertionSort
    fun first second => first.id ≤ second.id

end Catalogue

/-! ## Busy periods -/

/-- `now + timedelta(days=policy_row.booking_horizon_days + 1)` -/
def horizonEnd (policy : BookingPolicyRow) (now : Int) : Int :=
  now + days (policy.bookingHorizonDays + 1)

/-- A booking's appointment with the cleanup buffer of its service. -/
def BookingRow.busyPeriod (booking : BookingRow) (service : ServiceRow) : BusyPeriod where
  timeRange :=
    { start := booking.startAt
      stop := booking.endAt + service.buffer
      ordered := by
        have := booking.timeOrderValid
        have := service.buffer_nonneg
        omega }

/-- A hold's range, which includes the cleanup buffer. -/
def SlotHoldRow.busyPeriod (hold : SlotHoldRow) : BusyPeriod where
  timeRange := { start := hold.startAt, stop := hold.endAt, ordered := hold.timeOrderValid }

/-- A blackout, which takes the whole capacity. -/
def ResourceUnavailabilityRow.busyPeriod (row : ResourceUnavailabilityRow) (capacity : Nat) :
    BusyPeriod where
  timeRange := { start := row.startAt, stop := row.endAt, ordered := row.timeOrderValid }
  capacityUsed := capacity

section Queries

variable (cfg : Catalogue) (db : Database) (tenantId : TenantId) (now horizon : Int)
  (resourceId : ResourceId)

/-- The bookings the query selects for one resource, joined with their services. -/
def bookingPeriods : List BusyPeriod :=
  (db.bookings.filter fun booking =>
      booking.tenantId = tenantId ∧ booking.resourceId = some resourceId ∧ booking.Occupies ∧
        booking.endAt > now ∧ booking.startAt < horizon).filterMap fun booking =>
    (cfg.service? booking.tenantId booking.serviceId).map booking.busyPeriod

def holdPeriods : List BusyPeriod :=
  (db.slotHolds.filter fun hold =>
      hold.tenantId = tenantId ∧ hold.resourceId = resourceId ∧ hold.Unexpired now ∧
        hold.endAt > now ∧ hold.startAt < horizon).map (·.busyPeriod)

def unavailabilityPeriods (capacity : Nat) : List BusyPeriod :=
  (cfg.unavailability.filter fun row =>
      row.tenantId = tenantId ∧ row.resourceId = resourceId ∧ row.active ∧
        row.endAt > now ∧ row.startAt < horizon).map (·.busyPeriod capacity)

/-- Everything that occupies a resource, by start. -/
def busyPeriods (resource : ResourceRow) : List BusyPeriod :=
  (bookingPeriods cfg db tenantId now horizon resource.id ++
      holdPeriods db tenantId now horizon resource.id ++
      unavailabilityPeriods cfg tenantId now horizon resource.id resource.capacity).insertionSort
    fun first second => first.timeRange.start ≤ second.timeRange.start

/-- The resource as the engine sees it; `none` when its schedule is missing. -/
def availableResource (resource : ResourceRow) : Option AvailableResource :=
  (cfg.schedule? tenantId resource.scheduleId).map fun schedule =>
    { id := resource.id
      schedule := schedule
      capacity := resource.capacity
      active := resource.active
      busyPeriods := busyPeriods cfg db tenantId now horizon resource }

end Queries

/-- The context of a service under a policy the constructor accepted. -/
def contextOf (cfg : Catalogue) (db : Database) (service : ServiceRow) (policyRow : BookingPolicyRow)
    (policy : BookingPolicy) (now : Int) : AvailabilityContext where
  tenantId := service.tenantId
  serviceId := service.id
  serviceName := service.displayName
  duration := service.duration
  cleanupBuffer := service.buffer
  active := service.active
  bookable := service.bookable
  policy := policy
  resources :=
    (cfg.resourceRows service.tenantId service.id).filterMap
      (availableResource cfg db service.tenantId now (horizonEnd policyRow now))
  durationPositive := service.duration_pos
  cleanupBufferNonnegative := service.buffer_nonneg

/-- `_availability_context` -/
def availabilityContext (cfg : Catalogue) (db : Database) (tenantId : TenantId)
    (serviceId : ServiceId) (now : Int) : Except Failure (Option AvailabilityContext) :=
  match cfg.service? tenantId serviceId, cfg.policy? tenantId with
  | some service, some policyRow => do
      let policy ← bookingPolicy policyRow
      pure (some (contextOf cfg db service policyRow policy now))
  | _, _ => pure none

end BusinessAssistant.Persistence
