/-
# Booking data contracts

The values the booking store and the availability engine exchange. Checks that
the source's constructors make, and that the tables' check constraints make, are
fields: a policy without a positive notice or a period that ends before it
starts cannot be written down.
-/

import BusinessAssistant.Domain.Scheduling
import BusinessAssistant.Domain.Text

namespace BusinessAssistant.Application

open BusinessAssistant.Domain

inductive DraftStatus
  | active
  | cancelled
  | expired
  | confirmed
  deriving DecidableEq, Repr

inductive HoldStatus
  | active
  | released
  | expired
  | consumed
  deriving DecidableEq, Repr

/-- A half-open range of instants with its start before its end. -/
structure TimeRange where
  start : Int
  stop : Int
  ordered : start < stop
  deriving DecidableEq

@[ext]
structure BookingPolicy where
  slotInterval : Int
  bookingHorizon : Int
  minimumNotice : Int
  holdDuration : Int
  draftDuration : Int
  changeCutoff : Int
  customerNameMaxLength : Nat
  customerPhoneMaxLength : Nat
  customerNoteMaxLength : Nat
  slotIntervalPositive : 0 < slotInterval
  bookingHorizonPositive : 0 < bookingHorizon
  minimumNoticePositive : 0 < minimumNotice
  holdDurationPositive : 0 < holdDuration
  draftDurationPositive : 0 < draftDuration
  changeCutoffNonnegative : 0 ≤ changeCutoff
  nameLimitValid : 1 ≤ customerNameMaxLength ∧ customerNameMaxLength ≤ 200
  phoneLimitValid : 8 ≤ customerPhoneMaxLength ∧ customerPhoneMaxLength ≤ 32
  noteLimitValid : customerNoteMaxLength ≤ 2000

instance : DecidableEq BookingPolicy := fun _ _ => decidable_of_iff _ BookingPolicy.ext_iff.symm

structure BusyPeriod where
  timeRange : TimeRange
  capacityUsed : Nat := 1
  deriving DecidableEq

structure AvailableResource where
  id : ResourceId
  schedule : BusinessSchedule
  capacity : Nat
  active : Bool
  busyPeriods : List BusyPeriod
  deriving DecidableEq

@[ext]
structure AvailabilityContext where
  tenantId : TenantId
  serviceId : ServiceId
  serviceName : Text
  duration : Int
  cleanupBuffer : Int
  active : Bool
  bookable : Bool
  policy : BookingPolicy
  resources : List AvailableResource
  durationPositive : 0 < duration
  cleanupBufferNonnegative : 0 ≤ cleanupBuffer

instance : DecidableEq AvailabilityContext := fun _ _ => decidable_of_iff _ AvailabilityContext.ext_iff.symm

structure AvailableSlot where
  startAt : Int
  endAt : Int
  resourceId : ResourceId
  localDate : Int
  /-- The wall-clock time of the start, as minutes of the day; the source keeps
  its `HH:MM` text. -/
  localTime : Int
  timezone : ZoneInfo
  timeOrderValid : startAt < endAt
  deriving DecidableEq

structure BookingDraft where
  id : BookingDraftId
  tenantId : TenantId
  customerId : CustomerId
  conversationId : ConversationId
  serviceId : ServiceId
  selectedDate : Option Int
  holdId : Option SlotHoldId
  customerName : Option Text
  customerPhone : Option Text
  customerNote : Option Text
  status : DraftStatus
  expiresAt : Int
  rescheduleBookingId : Option BookingId
  deriving DecidableEq

structure SlotHold where
  id : SlotHoldId
  tenantId : TenantId
  customerId : CustomerId
  conversationId : ConversationId
  draftId : BookingDraftId
  serviceId : ServiceId
  resourceId : ResourceId
  timeRange : TimeRange
  expiresAt : Int
  status : HoldStatus
  timezone : ZoneInfo
  deriving DecidableEq

end BusinessAssistant.Application
