/-
# Rows of background delivery

The outbox with the columns its dispatcher keeps, the subscriptions of a tenant's
staff and the deliveries made from the two.
-/

import BusinessAssistant.Application.Background
import BusinessAssistant.Domain.Calendar
import BusinessAssistant.Foundation.Table
import BusinessAssistant.Persistence.Rows

namespace BusinessAssistant.Persistence

open BusinessAssistant.Domain BusinessAssistant.Application BusinessAssistant.Foundation

/-! ## Events -/

/-- An outbox row. Producers leave the added columns empty. -/
structure OutboxRow extends OutboxEventRow where
  lockedAt : Option Int := none
  publishedAt : Option Int := none
  lastErrorCode : Option String := none
  deriving DecidableEq

/-- The payload as the JSON object the row stores. -/
def EventPayload.dict : EventPayload → Payload
  | .booking bookingId publicReference serviceId startAt =>
      [("booking_id", .text bookingId.str),
        ("public_reference", (publicReference.map PayloadValue.text).getD .null),
        ("service_id", .text serviceId.str),
        ("start_at", .text (Instant.isoformat startAt))]
  | .lead leadId score grade =>
      [("lead_id", .text leadId.str), ("score", .int score), ("grade", .text grade)]
  | .handoff handoffId reasonCode priority =>
      [("handoff_id", .text handoffId.str), ("reason_code", .text reasonCode),
        ("priority", .text priority)]

/-! ## Subscriptions and deliveries -/

structure NotificationSubscriptionRow where
  id : UUID
  tenantId : TenantId
  channel : NotificationChannel
  recipientId : Text
  eventTypes : List String
  enabled : Bool
  deriving DecidableEq

inductive DeliveryStatus
  | pending
  | processing
  | sent
  | deadLetter
  deriving DecidableEq, Repr

structure NotificationDeliveryRow where
  id : UUID
  tenantId : TenantId
  eventId : EventId
  subscriptionId : UUID
  eventType : String
  channel : NotificationChannel
  recipientId : Text
  payload : EventPayload
  status : DeliveryStatus
  attempts : Nat
  availableAt : Int
  lockedAt : Option Int
  sentAt : Option Int
  lastErrorCode : Option String
  deriving DecidableEq

/-! ## The database -/

/-- The committed rows of the tables background work reads and writes. -/
structure BackgroundDatabase where
  tenants : List TenantRow := []
  entitlements : List TenantEntitlementRow := []
  outboxEvents : List OutboxRow := []
  notificationSubscriptions : List NotificationSubscriptionRow := []
  notificationDeliveries : List NotificationDeliveryRow := []
  deriving DecidableEq

namespace BackgroundDatabase

variable (db : BackgroundDatabase)

/-- The joins of both claiming queries: the tenant is active and has the capability. -/
def Served (tenantId : TenantId) : Prop :=
  (∃ tenant ∈ db.tenants, tenant.id = tenantId ∧ tenant.status = .active) ∧
    ∃ entitlement ∈ db.entitlements, entitlement.tenantId = tenantId ∧
      entitlement.capability = "background_notifications" ∧ entitlement.enabled = true

instance (tenantId : TenantId) : Decidable (db.Served tenantId) :=
  inferInstanceAs (Decidable (_ ∧ _))

end BackgroundDatabase

end BusinessAssistant.Persistence
