/-
# The booking store

The transactions of `SQLAlchemyBookingStore`, statement by statement. Each
session is opened without autoflush and commits once, so a transaction is its
reads and checks followed by its writes, and whatever raises loses the writes.
A committed transaction is one step here, so the row locks and advisory locks do
not appear.

A transaction takes three things from outside: the caller's clock, the
database's own clock for `func.now()` columns, and the UUID it draws. Of the
unique constraints, those that a drawn id or another row can violate are
checked; that history sequences and event ids never collide is proved of the
store instead.
-/

import BusinessAssistant.Foundation.Transaction
import BusinessAssistant.Persistence.Writes

namespace BusinessAssistant.Persistence

open BusinessAssistant.Domain BusinessAssistant.Application BusinessAssistant.Foundation

/-- What a transaction takes from outside the database. -/
structure Environment where
  now : Int
  /-- `func.now()` -/
  serverNow : Int
  /-- The value `uuid4()` returns. -/
  newId : UUID
  deriving DecidableEq

/-- The booking a customer is shown. -/
structure BookingResult where
  id : BookingId
  serviceId : ServiceId
  publicReference : Text
  serviceName : Text
  startAt : Int
  endAt : Int
  timezone : ZoneInfo
  status : BookingStatus
  deriving DecidableEq

/-- `_hold` -/
def SlotHoldRow.toHold (row : SlotHoldRow) : SlotHold where
  id := row.id
  tenantId := row.tenantId
  customerId := row.customerId
  conversationId := row.conversationId
  draftId := row.draftId
  serviceId := row.serviceId
  resourceId := row.resourceId
  timeRange := { start := row.startAt, stop := row.endAt, ordered := row.timeOrderValid }
  expiresAt := row.expiresAt
  status := row.status
  timezone := row.timezone

/-- `bool(value)` of an optional text. -/
def truthy (value : Option Text) : Bool := value.getD [] ≠ []

namespace BookingStore

variable (cfg : Catalogue) (env : Environment)

/-! ## Drafts -/

/-- `_owned_draft` -/
def ownedDraft (tenantId : TenantId) (customerId : CustomerId) (draftId : BookingDraftId)
    (now : Int) : Tx Database Failure BookingDraftRow := do
  let db ← get
  let draft ← Tx.fetch
    (db.bookingDrafts.find? fun row =>
      row.tenantId = tenantId ∧ row.customerId = customerId ∧ row.id = draftId)
    .bookingNotFound
  Tx.require (draft.status = .active) .bookingNotFound
  -- The source marks the row expired before it raises; the rollback undoes that.
  Tx.require (now < draft.expiresAt) .bookingExpired
  pure draft

/-- The booking a reschedule starts from has to be the customer's, confirmed, and
for the same service. -/
def checkOriginal (tenantId : TenantId) (customerId : CustomerId) (serviceId : ServiceId)
    (rescheduleBookingId : Option BookingId) : Tx Database Failure Unit := do
  match rescheduleBookingId with
  | none => pure ()
  | some bookingId =>
      let db ← get
      let original ← Tx.fetch
        (db.bookings.find? fun row =>
          row.tenantId = tenantId ∧ row.customerId = customerId ∧ row.id = bookingId ∧
            row.status = .confirmed)
        .bookingNotFound
      Tx.require (original.serviceId = serviceId) .bookingNotFound

/-- The draft `start_draft` inserts. -/
def newDraft (tenantId : TenantId) (customerId : CustomerId) (conversationId : ConversationId)
    (serviceId : ServiceId) (rescheduleBookingId : Option BookingId)
    (context : AvailabilityContext) : BookingDraftRow where
  id := env.newId
  tenantId := tenantId
  customerId := customerId
  conversationId := conversationId
  serviceId := serviceId
  selectedDate := none
  holdId := none
  customerName := none
  customerPhone := none
  customerNote := none
  status := .active
  expiresAt := env.now + context.policy.draftDuration
  rescheduleBookingId := rescheduleBookingId
  createdAt := env.serverNow

/-- `start_draft` -/
def startDraft (tenantId : TenantId) (customerId : CustomerId) (conversationId : ConversationId)
    (serviceId : ServiceId) (rescheduleBookingId : Option BookingId) :
    Tx Database Failure BookingDraft := do
  let db ← get
  let found ← Tx.lift (availabilityContext cfg db tenantId serviceId env.now)
  let context ← Tx.fetch
    (found.filter fun context =>
      context.active && context.bookable && !context.resources.isEmpty)
    (.bookingPolicy "This service is not available for booking")
  checkOriginal tenantId customerId serviceId rescheduleBookingId
  let draft := newDraft env tenantId customerId conversationId serviceId rescheduleBookingId context
  Tx.require
    (∃ row ∈ db.conversations,
      row.tenantId = tenantId ∧ row.id = conversationId ∧ row.customerId = customerId)
    .bookingNotFound
  Tx.require (∀ row ∈ db.bookingDrafts, row.id ≠ draft.id) (.integrity "pk_booking_drafts")
  modify (·.openDraft draft)
  pure draft.toBookingDraft

/-- The newest active draft of a conversation. -/
def latestDraft? (db : Database) (tenantId : TenantId) (customerId : CustomerId)
    (conversationId : ConversationId) : Option BookingDraftRow :=
  ((db.bookingDrafts.filter fun row =>
      row.OfIdentity tenantId customerId conversationId ∧ row.status = .active).insertionSort
    fun first second => second.createdAt ≤ first.createdAt).head?

/-- `get_active_draft` -/
def getActiveDraft (tenantId : TenantId) (customerId : CustomerId)
    (conversationId : ConversationId) : Tx Database Failure (Option BookingDraft) := do
  let db ← get
  match latestDraft? db tenantId customerId conversationId with
  | none => pure none
  | some draft =>
      if draft.expiresAt ≤ env.now then
        modify (·.expireDraft draft)
        pure none
      else pure (some draft.toBookingDraft)

/-- `select_date` -/
def selectDate (tenantId : TenantId) (customerId : CustomerId) (draftId : BookingDraftId)
    (selectedDate : Int) : Tx Database Failure BookingDraft := do
  let db ← get
  let draft ← ownedDraft tenantId customerId draftId env.now
  let found ← Tx.lift (availabilityContext cfg db tenantId draft.serviceId env.now)
  let context ← Tx.fetch found .bookingNotFound
  let tenant ← Tx.fetch (cfg.tenant? tenantId) .bookingNotFound
  let localToday := Wall.date (tenant.timezone.astimezone env.now).naive
  let horizonDate :=
    Wall.date (tenant.timezone.astimezone (env.now + context.policy.bookingHorizon)).naive
  Tx.require (localToday ≤ selectedDate ∧ selectedDate ≤ horizonDate)
    (.bookingPolicy "The selected date is outside the booking horizon")
  let dated : BookingDraftRow := { draft with selectedDate := some selectedDate }
  modify (·.updateDraft draft.id fun row => { row with selectedDate := some selectedDate })
  pure dated.toBookingDraft

/-! ## Holds -/

/-- The hold `create_hold` inserts for the slot it matched. -/
def newHold (draft : BookingDraftRow) (context : AvailabilityContext) (slot : AvailableSlot)
    (key : Text) : SlotHoldRow where
  id := env.newId
  tenantId := draft.tenantId
  customerId := draft.customerId
  conversationId := draft.conversationId
  draftId := draft.id
  serviceId := draft.serviceId
  resourceId := slot.resourceId
  startAt := slot.startAt
  endAt := slot.endAt + context.cleanupBuffer
  expiresAt := env.now + context.policy.holdDuration
  idempotencyKey := key
  status := .active
  timezone := slot.timezone
  timeOrderValid := by
    have := slot.timeOrderValid
    have := context.cleanupBufferNonnegative
    omega

/-- The normal path of `create_hold`. -/
def holdSlot (tenantId : TenantId) (customerId : CustomerId) (draftId : BookingDraftId)
    (slotIndex : Int) (key : Text) : Tx Database Failure SlotHold := do
  let db ← get
  let draft ← ownedDraft tenantId customerId draftId env.now
  let selectedDate ← Tx.fetch draft.selectedDate
    (.bookingPolicy "Choose a date before choosing a time")
  let found ← Tx.lift (availabilityContext cfg db tenantId draft.serviceId env.now)
  let context ← Tx.fetch found .bookingNotFound
  let slots ← Tx.lift (calculateAvailability context selectedDate env.now)
  let selected ← Tx.fetch slots[slotIndex.toNat]? .bookingConflict
  modify (·.releaseHold draft)
  let released ← get
  let foundAgain ← Tx.lift (availabilityContext cfg released tenantId draft.serviceId env.now)
  let refreshed ← Tx.fetch foundAgain .assertion
  let slotsAgain ← Tx.lift (calculateAvailability refreshed selectedDate env.now)
  let matching ← Tx.fetch
    (slotsAgain.find? fun item =>
      item.startAt = selected.startAt ∧ item.resourceId = selected.resourceId)
    .bookingConflict
  let hold := newHold env draft context matching key
  Tx.require (∀ row ∈ released.slotHolds, row.id ≠ hold.id) (.integrity "pk_slot_holds")
  Tx.require
    (∀ row ∈ released.slotHolds, ¬ (row.tenantId = tenantId ∧ row.idempotencyKey = key))
    (.integrity "uq_slot_holds_tenant_id_idempotency_key")
  modify (·.placeHold draft hold)
  pure hold.toHold

/-- `create_hold` -/
def createHold (tenantId : TenantId) (customerId : CustomerId) (draftId : BookingDraftId)
    (slotIndex : Int) (key : Text) : Tx Database Failure SlotHold := do
  Tx.require (key ≠ [] ∧ key.length ≤ 255 ∧ 0 ≤ slotIndex)
    (.bookingPolicy "The hold request is invalid")
  let db ← get
  match db.slotHolds.find? fun row => row.tenantId = tenantId ∧ row.idempotencyKey = key with
  | some existing =>
      Tx.require (existing.customerId = customerId) .bookingNotFound
      pure existing.toHold
  | none => holdSlot cfg env tenantId customerId draftId slotIndex key

/-- `get_hold` -/
def getHold (tenantId : TenantId) (customerId : CustomerId) (draftId : BookingDraftId) :
    Tx Database Failure (Option SlotHold) := do
  let db ← get
  match db.slotHolds.find? fun row =>
      row.tenantId = tenantId ∧ row.customerId = customerId ∧ row.draftId = draftId ∧
        row.status = .active with
  | none => pure none
  | some hold =>
      if hold.expiresAt ≤ env.now then
        modify (·.updateHold hold.id fun row => { row with status := .expired })
        pure none
      else pure (some hold.toHold)

/-- The tenants whose holds the maintenance run may expire. -/
def maintained (tenantId : TenantId) : Prop :=
  (∃ tenant ∈ cfg.tenants, tenant.id = tenantId ∧ tenant.status = .active) ∧
    ∃ entitlement ∈ cfg.entitlements,
      entitlement.tenantId = tenantId ∧ entitlement.capability = "booking" ∧
        entitlement.enabled = true

instance (tenantId : TenantId) : Decidable (maintained cfg tenantId) :=
  inferInstanceAs (Decidable ((∃ _ ∈ _, _) ∧ ∃ _ ∈ _, _))

/-- Holds by expiry and id. -/
def expiryLe (first second : SlotHoldRow) : Prop :=
  first.expiresAt < second.expiresAt ∨
    first.expiresAt = second.expiresAt ∧ first.id ≤ second.id

instance : DecidableRel expiryLe := fun first second =>
  inferInstanceAs (Decidable (first.expiresAt < second.expiresAt ∨
    first.expiresAt = second.expiresAt ∧ first.id ≤ second.id))

/-- `expire_holds` -/
def expireHolds (limit : Int) : Tx Database Failure Nat := do
  Tx.require (1 ≤ limit ∧ limit ≤ 1000)
    (.valueError "Expiry limit must be between 1 and 1000")
  let db ← get
  let rows :=
    ((db.slotHolds.filter fun row =>
        row.status = .active ∧ row.expiresAt ≤ env.now ∧ maintained cfg row.tenantId).insertionSort
      expiryLe).take limit.toNat
  modify (·.expireRows (rows.map (·.id)))
  pure rows.length

/-! ## Contact details -/

def contactName (policy : BookingPolicyRow) (current name : Option Text) :
    Except Failure (Option Text) :=
  match name with
  | none => pure current
  | some value =>
      let normalized := Text.normalizeSpaces value
      if normalized = [] ∨ normalized.length > policy.customerNameMaxLength then
        throw (.bookingPolicy "Enter a valid customer name")
      else pure (some normalized)

def contactPhone (policy : BookingPolicyRow) (current phone : Option Text) :
    Except Failure (Option Text) :=
  match phone with
  | none => pure current
  | some value =>
      if value.length > policy.customerPhoneMaxLength then
        throw (.bookingPolicy "Enter a valid phone number")
      else
        match PhoneNumber.parse value with
        | none => throw (.bookingPolicy "Enter a valid phone number")
        | some parsed => pure (some parsed.stored)

def contactNote (policy : BookingPolicyRow) (current note : Option Text) :
    Except Failure (Option Text) :=
  match note with
  | none => pure current
  | some value =>
      let normalized := Text.strip value
      if normalized.length > policy.customerNoteMaxLength then
        throw (.bookingPolicy "The customer note is too long")
      else pure (if normalized = [] then none else some normalized)

/-- The workflow step a draft with these contact details is at. -/
def contactWorkflow (name phone : Option Text) : String :=
  if truthy name && truthy phone then "booking:review"
  else if truthy name then "booking:phone"
  else "booking:name"

/-- `update_contact` -/
def updateContact (tenantId : TenantId) (customerId : CustomerId) (draftId : BookingDraftId)
    (name phone note : Option Text) : Tx Database Failure BookingDraft := do
  let draft ← ownedDraft tenantId customerId draftId env.now
  let policy ← Tx.fetch (cfg.policy? tenantId) (.bookingPolicy "Booking policy is unavailable")
  let newName ← Tx.lift (contactName policy draft.customerName name)
  let newPhone ← Tx.lift (contactPhone policy draft.customerPhone phone)
  let newNote ← Tx.lift (contactNote policy draft.customerNote note)
  let updated : BookingDraftRow :=
    { draft with customerName := newName, customerPhone := newPhone, customerNote := newNote }
  modify (·.writeContact draft newName newPhone newNote (contactWorkflow newName newPhone))
  pure updated.toBookingDraft

/-- `cancel_draft` -/
def cancelDraft (tenantId : TenantId) (customerId : CustomerId)
    (conversationId : ConversationId) : Tx Database Failure Bool := do
  let db ← get
  let drafts := db.bookingDrafts.filter fun row =>
    row.OfIdentity tenantId customerId conversationId ∧ row.status = .active
  if drafts = [] then pure false
  else
    modify (·.abandonDrafts (drafts.map (·.id)) tenantId conversationId)
    pure true

/-! ## Confirmation -/

/-- The booking of a customer with an id. -/
def ownedBooking? (db : Database) (tenantId : TenantId) (customerId : CustomerId)
    (bookingId : BookingId) : Option BookingRow :=
  db.bookings.find? fun row =>
    row.tenantId = tenantId ∧ row.customerId = customerId ∧ row.id = bookingId

/-- `_result` -/
def result (booking : BookingRow) : Except Failure BookingResult :=
  match cfg.service? booking.tenantId booking.serviceId, cfg.tenant? booking.tenantId,
    booking.publicReference with
  | some _, some tenant, some reference =>
      pure
        { id := booking.id
          serviceId := booking.serviceId
          publicReference := reference
          serviceName := booking.serviceSnapshot.name
          startAt := booking.startAt
          endAt := booking.endAt
          timezone := tenant.timezone
          status := booking.status }
  | _, _, _ => throw .bookingNotFound

/-- The booking a repeated confirmation returns: the one stored under the key, or
the one made from the hold of the confirmed draft. -/
def replayedBooking (db : Database) (tenantId : TenantId) (customerId : CustomerId)
    (draftId : BookingDraftId) (key : Text) : Except Failure (Option BookingRow) :=
  match db.bookings.find? fun row =>
      row.tenantId = tenantId ∧ row.idempotencyScope = "confirm" ∧ row.idempotencyValue = key with
  | some existing =>
      if existing.customerId = customerId then pure (some existing) else throw .bookingNotFound
  | none =>
      pure <| do
        let draft ← db.bookingDrafts.find? fun row =>
          row.tenantId = tenantId ∧ row.customerId = customerId ∧ row.id = draftId ∧
            row.status = .confirmed
        let holdId ← draft.holdId
        db.bookings.find? fun row =>
          row.tenantId = tenantId ∧ row.customerId = customerId ∧ row.holdId = some holdId

/-- The constraints of the bookings table that a row can violate against the
other rows. -/
def checkBooking (booking : BookingRow) : Tx Database Failure Unit := do
  let db ← get
  let others := db.bookings.filter fun row => row.tenantId = booking.tenantId ∧ row.id ≠ booking.id
  Tx.require
    (∀ other ∈ others,
      ¬ (other.publicReference = booking.publicReference ∧ booking.publicReference.isSome = true))
    (.integrity "uq_bookings_tenant_id_public_reference")
  Tx.require
    (∀ other ∈ others, ¬ (other.holdId = booking.holdId ∧ booking.holdId.isSome = true))
    (.integrity "uq_bookings_tenant_id_hold_id")
  Tx.require
    (∀ other ∈ others, ¬ (other.idempotencyScope = booking.idempotencyScope ∧
      other.idempotencyValue = booking.idempotencyValue))
    (.integrity "uq_bookings_tenant_id_idempotency_scope_idempotency_value")
  Tx.require (∀ other ∈ others, ¬ booking.Excludes other)
    (.integrity "ex_bookings_resource_active_overlap")

/-- The branch of `confirm` for a draft that reschedules a booking. -/
def rescheduleBooking (tenantId : TenantId) (customerId : CustomerId) (hold : SlotHoldRow)
    (service : ServiceRow) (bookingId : BookingId) : Tx Database Failure BookingRow := do
  let db ← get
  let booking ← Tx.fetch (ownedBooking? db tenantId customerId bookingId) .bookingNotFound
  Tx.require (booking.status = .confirmed) .bookingNotFound
  let policy ← Tx.fetch (cfg.policy? tenantId) .assertion
  Tx.require (minutes policy.changeCutoffMinutes ≤ booking.startAt - env.now)
    (.bookingPolicy "This appointment can no longer be rescheduled")
  checkBooking (booking.movedTo hold service)
  modify (·.move booking hold service env.now env.serverNow)
  pure (booking.movedTo hold service)

/-- The branch of `confirm` for a new booking. -/
def insertBooking (draft : BookingDraftRow) (hold : SlotHoldRow) (service : ServiceRow)
    (key : Text) : Tx Database Failure BookingRow := do
  let db ← get
  let booking := newBooking env.newId draft hold service key
  Tx.require (∀ row ∈ db.bookings, row.id ≠ booking.id) (.integrity "pk_bookings")
  checkBooking booking
  modify (·.book booking env.now env.serverNow)
  pure booking

/-- `confirm` past the replay lookups. -/
def confirmDraft (tenantId : TenantId) (customerId : CustomerId) (draftId : BookingDraftId)
    (key : Text) : Tx Database Failure BookingResult := do
  let db ← get
  let draft ← ownedDraft tenantId customerId draftId env.now
  Tx.require
    (draft.holdId.isSome = true ∧ truthy draft.customerName = true ∧
      truthy draft.customerPhone = true)
    (.bookingPolicy "Complete the booking details before confirmation")
  -- A hold that has run out is marked expired before the raise, and rolled back.
  let hold ← Tx.fetch
    (db.slotHolds.find? fun row =>
      row.tenantId = tenantId ∧ row.customerId = customerId ∧ draft.holdId = some row.id)
    .bookingExpired
  Tx.require (hold.Unexpired env.now) .bookingExpired
  let service ← Tx.fetch
    ((cfg.service? tenantId hold.serviceId).filter fun service =>
      service.active && service.bookable)
    (.bookingPolicy "This service is no longer bookable")
  let booking ← match draft.rescheduleBookingId with
    | some bookingId => rescheduleBooking cfg env tenantId customerId hold service bookingId
    | none => insertBooking env draft hold service key
  modify (·.settleDraft draft hold)
  Tx.lift (result cfg booking)

/-- `except IntegrityError as exc: raise BookingConflictError() from exc` -/
def conflictOfIntegrity : Failure → Failure
  | .integrity _ => .bookingConflict
  | failure => failure

/-- `confirm` -/
def confirm (tenantId : TenantId) (customerId : CustomerId) (draftId : BookingDraftId)
    (key : Text) : Tx Database Failure BookingResult := do
  Tx.require (key ≠ [] ∧ key.length ≤ 255)
    (.bookingPolicy "The confirmation request is invalid")
  Tx.mapError conflictOfIntegrity do
    let db ← get
    let replayed ← Tx.lift (replayedBooking db tenantId customerId draftId key)
    match replayed with
    | some booking => Tx.lift (result cfg booking)
    | none => confirmDraft cfg env tenantId customerId draftId key

/-! ## Bookings -/

/-- Bookings by start and id. -/
def bookingLe (first second : BookingRow) : Prop :=
  first.startAt < second.startAt ∨ first.startAt = second.startAt ∧ first.id ≤ second.id

instance : DecidableRel bookingLe := fun first second =>
  inferInstanceAs (Decidable (first.startAt < second.startAt ∨
    first.startAt = second.startAt ∧ first.id ≤ second.id))

/-- `latest_booking` -/
def latestBooking (tenantId : TenantId) (customerId : CustomerId) :
    Tx Database Failure (Option BookingResult) := do
  let db ← get
  match ((db.bookings.filter fun row =>
      row.tenantId = tenantId ∧ row.customerId = customerId ∧ row.status = .confirmed ∧
        row.endAt > env.now).insertionSort bookingLe).head? with
  | none => pure none
  | some booking => some <$> Tx.lift (result cfg booking)

/-- `get_booking` -/
def getBooking (tenantId : TenantId) (customerId : CustomerId) (bookingId : BookingId) :
    Tx Database Failure (Option BookingResult) := do
  let db ← get
  match ownedBooking? db tenantId customerId bookingId with
  | none => pure none
  | some booking => some <$> Tx.lift (result cfg booking)

/-- `cancel_booking` -/
def cancelBooking (tenantId : TenantId) (customerId : CustomerId) (bookingId : BookingId) :
    Tx Database Failure BookingResult := do
  let db ← get
  let booking ← Tx.fetch (ownedBooking? db tenantId customerId bookingId) .bookingNotFound
  if booking.status = .cancelled then Tx.lift (result cfg booking)
  else
    Tx.require (booking.status = .confirmed)
      (.bookingPolicy "This appointment cannot be cancelled")
    let policy ← Tx.fetch (cfg.policy? tenantId) (.bookingPolicy "Booking policy is unavailable")
    Tx.require (minutes policy.changeCutoffMinutes ≤ booking.startAt - env.now)
      (.bookingPolicy "This appointment can no longer be cancelled")
    modify (·.cancel booking env.now env.serverNow)
    Tx.lift (result cfg { booking with status := .cancelled })

/-- `booking_history` -/
def bookingHistory (tenantId : TenantId) (customerId : CustomerId) (bookingId : BookingId) :
    Tx Database Failure (List (BookingStatus × BookingStatus × Int)) := do
  let db ← get
  match ownedBooking? db tenantId customerId bookingId with
  | none => pure []
  | some _ =>
      pure <| ((db.bookingStatusHistory.filter fun row =>
          row.tenantId = tenantId ∧ row.bookingId = bookingId).insertionSort
        fun first second => first.sequence ≤ second.sequence).map
          fun row => (row.fromStatus, row.toStatus, row.occurredAt)

end BookingStore

end BusinessAssistant.Persistence
