/-
# Stored rows

The tables the booking store reads and writes. The catalogue holds the
configuration no booking transaction changes; the database holds the rows they
do change. Check constraints of a single row are fields of the row, unique
constraints of the configuration are fields of the catalogue.

A `timezone` column names a zone of the time-zone database; the model stores the
zone the name resolves to.
-/

import BusinessAssistant.Application.BookingModels
import BusinessAssistant.Domain.Bookings
import BusinessAssistant.Domain.Conversations

namespace BusinessAssistant.Persistence

open BusinessAssistant.Domain BusinessAssistant.Application

/-! ## Configuration -/

inductive TenantStatus
  | active
  | suspended
  | archived
  deriving DecidableEq, Repr

structure TenantRow where
  id : TenantId
  timezone : ZoneInfo
  status : TenantStatus
  deriving DecidableEq

structure TenantEntitlementRow where
  tenantId : TenantId
  capability : String
  enabled : Bool
  deriving DecidableEq

inductive PriceMode
  | exact
  | range
  | startingFrom
  | quoteRequired
  | notDisplayed
  deriving DecidableEq, Repr

@[ext]
structure ServiceRow where
  id : ServiceId
  tenantId : TenantId
  code : Text
  /-- Localized names, by locale code. -/
  names : List (String × Text)
  durationSeconds : Nat
  bufferSeconds : Nat
  priceMode : PriceMode
  priceMinMinor : Option Int
  priceMaxMinor : Option Int
  currency : Option String
  active : Bool
  bookable : Bool
  durationPositive : 0 < durationSeconds

instance : DecidableEq ServiceRow := fun _ _ => decidable_of_iff _ ServiceRow.ext_iff.symm

namespace ServiceRow

/-- `service.names.get("en", service.code)` -/
def displayName (service : ServiceRow) : Text := (service.names.lookup "en").getD service.code

/-- `timedelta(seconds=service.duration_seconds)` -/
def duration (service : ServiceRow) : Int := seconds service.durationSeconds

/-- `timedelta(seconds=service.buffer_seconds)` -/
def buffer (service : ServiceRow) : Int := seconds service.bufferSeconds

theorem duration_pos (service : ServiceRow) : 0 < service.duration := by
  have := service.durationPositive
  unfold duration seconds
  omega

theorem buffer_nonneg (service : ServiceRow) : 0 ≤ service.buffer := by
  unfold buffer seconds
  omega

end ServiceRow

@[ext]
structure BookingPolicyRow where
  tenantId : TenantId
  slotIntervalMinutes : Nat
  bookingHorizonDays : Nat
  minimumNoticeMinutes : Nat
  holdDurationMinutes : Nat
  draftExpiryMinutes : Nat
  changeCutoffMinutes : Nat
  customerNameMaxLength : Nat
  customerPhoneMaxLength : Nat
  customerNoteMaxLength : Nat
  slotIntervalValid : 5 ≤ slotIntervalMinutes ∧ slotIntervalMinutes ≤ 240
  horizonValid : 1 ≤ bookingHorizonDays ∧ bookingHorizonDays ≤ 365
  noticeValid : minimumNoticeMinutes ≤ 43200
  holdDurationValid : 1 ≤ holdDurationMinutes ∧ holdDurationMinutes ≤ 60
  draftExpiryValid : 5 ≤ draftExpiryMinutes ∧ draftExpiryMinutes ≤ 1440
  cutoffValid : changeCutoffMinutes ≤ 43200
  nameLimitValid : 1 ≤ customerNameMaxLength ∧ customerNameMaxLength ≤ 200
  phoneLimitValid : 8 ≤ customerPhoneMaxLength ∧ customerPhoneMaxLength ≤ 32
  noteLimitValid : customerNoteMaxLength ≤ 2000

instance : DecidableEq BookingPolicyRow := fun _ _ => decidable_of_iff _ BookingPolicyRow.ext_iff.symm

@[ext]
structure ResourceRow where
  id : ResourceId
  tenantId : TenantId
  scheduleId : ScheduleId
  capacity : Nat
  active : Bool
  capacityPositive : 0 < capacity

instance : DecidableEq ResourceRow := fun _ _ => decidable_of_iff _ ResourceRow.ext_iff.symm

@[ext]
structure ServiceResourceRow where
  tenantId : TenantId
  serviceId : ServiceId
  resourceId : ResourceId
  requiredCapacity : Nat := 1
  active : Bool
  requiredCapacityPositive : 0 < requiredCapacity := by decide

instance : DecidableEq ServiceResourceRow := fun _ _ => decidable_of_iff _ ServiceResourceRow.ext_iff.symm

@[ext]
structure ResourceUnavailabilityRow where
  tenantId : TenantId
  resourceId : ResourceId
  startAt : Int
  endAt : Int
  active : Bool
  timeOrderValid : startAt < endAt

instance : DecidableEq ResourceUnavailabilityRow := fun _ _ => decidable_of_iff _ ResourceUnavailabilityRow.ext_iff.symm

/-- The configuration rows, with the unique constraints lookups rely on. -/
structure Catalogue where
  tenants : List TenantRow
  entitlements : List TenantEntitlementRow
  services : List ServiceRow
  policies : List BookingPolicyRow
  resources : List ResourceRow
  serviceResources : List ServiceResourceRow
  schedules : List BusinessSchedule
  unavailability : List ResourceUnavailabilityRow
  servicesUnique : (services.map (·.id)).Nodup
  resourcesUnique : (resources.map (·.id)).Nodup
  policiesUnique : (policies.map (·.tenantId)).Nodup
  /-- Every service belongs to a stored tenant. -/
  servicesOwned : ∀ service ∈ services, ∃ tenant ∈ tenants, tenant.id = service.tenantId

/-! ## Rows the booking transactions write -/

structure ConversationRow where
  id : ConversationId
  tenantId : TenantId
  customerId : CustomerId
  status : ConversationStatus
  activeWorkflow : Option Text
  deriving DecidableEq

structure BookingDraftRow extends BookingDraft where
  createdAt : Int
  deriving DecidableEq

@[ext]
structure SlotHoldRow where
  id : SlotHoldId
  tenantId : TenantId
  customerId : CustomerId
  conversationId : ConversationId
  draftId : BookingDraftId
  serviceId : ServiceId
  resourceId : ResourceId
  startAt : Int
  endAt : Int
  expiresAt : Int
  idempotencyKey : Text
  status : HoldStatus
  timezone : ZoneInfo
  timeOrderValid : startAt < endAt

instance : DecidableEq SlotHoldRow := fun _ _ => decidable_of_iff _ SlotHoldRow.ext_iff.symm

/-- The facts about the service a booking keeps from the time it was made. -/
structure ServiceSnapshot where
  serviceId : ServiceId
  name : Text
  durationSeconds : Nat
  bufferSeconds : Nat
  priceMode : PriceMode
  priceMinMinor : Option Int
  priceMaxMinor : Option Int
  currency : Option String
  deriving DecidableEq

structure CustomerSnapshot where
  name : Option Text
  phone : Option Text
  deriving DecidableEq

@[ext]
structure BookingRow where
  id : BookingId
  tenantId : TenantId
  customerId : CustomerId
  serviceId : ServiceId
  resourceId : Option ResourceId
  conversationId : Option ConversationId
  holdId : Option SlotHoldId
  publicReference : Option Text
  startAt : Int
  endAt : Int
  status : BookingStatus
  idempotencyScope : String
  idempotencyValue : Text
  serviceSnapshot : ServiceSnapshot
  customerSnapshot : CustomerSnapshot
  notes : Option Text
  source : String
  timeOrderValid : startAt < endAt

instance : DecidableEq BookingRow := fun _ _ => decidable_of_iff _ BookingRow.ext_iff.symm

structure BookingStatusHistoryRow where
  tenantId : TenantId
  bookingId : BookingId
  sequence : Nat
  fromStatus : BookingStatus
  toStatus : BookingStatus
  actor : String
  reason : Option String
  occurredAt : Int
  deriving DecidableEq

/-- `uuid5(NAMESPACE_URL, name)`, kept as the name it is computed from: distinct
names are taken to have distinct ids. -/
structure EventId where
  name : Text
  deriving DecidableEq

inductive OutboxStatus
  | pending
  | processing
  | published
  | deadLetter
  deriving DecidableEq, Repr

/-- The payload of an outbox event, one constructor for each shape the stores
write. The source stores the start as ISO text. -/
inductive EventPayload
  | booking (bookingId : BookingId) (publicReference : Option Text) (serviceId : ServiceId)
      (startAt : Int)
  | lead (leadId : UUID) (score : Int) (grade : Text)
  | handoff (handoffId : UUID) (reasonCode priority : Text)
  deriving DecidableEq

structure OutboxEventRow where
  eventId : EventId
  tenantId : TenantId
  aggregateType : String
  aggregateId : UUID
  eventType : String
  payload : EventPayload
  status : OutboxStatus
  attempts : Nat
  availableAt : Int
  occurredAt : Int
  deriving DecidableEq

/-- The committed rows of the tables the booking transactions write. -/
structure Database where
  conversations : List ConversationRow := []
  bookingDrafts : List BookingDraftRow := []
  slotHolds : List SlotHoldRow := []
  bookings : List BookingRow := []
  bookingStatusHistory : List BookingStatusHistoryRow := []
  outboxEvents : List OutboxEventRow := []
  deriving DecidableEq

end BusinessAssistant.Persistence
