/-
# What the booking transactions write

The kinds of write the store makes, each a function from database to database,
and the names it builds: public references, event ids, history rows. A
transaction that commits is a composition of these.
-/

import BusinessAssistant.Foundation.Table
import BusinessAssistant.Persistence.Availability
import Mathlib.Tactic.Simps.Basic

namespace BusinessAssistant.Persistence

open BusinessAssistant.Domain BusinessAssistant.Application BusinessAssistant.Foundation

/-! ## Writes to one table -/

namespace Database

variable (db : Database)

/-- Write the attributes of one draft by primary key. -/
@[simps]
def updateDraft (id : BookingDraftId) (change : BookingDraftRow → BookingDraftRow) : Database :=
  { db with bookingDrafts := Table.update (fun row => row.id = id) change db.bookingDrafts }

/-- Write the attributes of one hold by primary key. -/
@[simps]
def updateHold (id : SlotHoldId) (change : SlotHoldRow → SlotHoldRow) : Database :=
  { db with slotHolds := Table.update (fun row => row.id = id) change db.slotHolds }

/-- Write the attributes of one booking by primary key. -/
@[simps]
def updateBooking (id : BookingId) (change : BookingRow → BookingRow) : Database :=
  { db with bookings := Table.update (fun row => row.id = id) change db.bookings }

/-- `UPDATE booking_drafts SET status WHERE selected AND status = 'active'` -/
@[simps]
def closeDrafts (selected : BookingDraftRow → Prop) [DecidablePred selected]
    (status : DraftStatus) : Database :=
  { db with
    bookingDrafts :=
      Table.update (fun row => selected row ∧ row.status = .active)
        (fun row => { row with status := status }) db.bookingDrafts }

/-- `UPDATE slot_holds SET status WHERE selected AND status = 'active'` -/
@[simps]
def closeHolds (selected : SlotHoldRow → Prop) [DecidablePred selected]
    (status : HoldStatus) : Database :=
  { db with
    slotHolds :=
      Table.update (fun row => selected row ∧ row.status = .active)
        (fun row => { row with status := status }) db.slotHolds }

@[simps]
def insertDraft (draft : BookingDraftRow) : Database :=
  { db with bookingDrafts := db.bookingDrafts ++ [draft] }

@[simps]
def insertHold (hold : SlotHoldRow) : Database :=
  { db with slotHolds := db.slotHolds ++ [hold] }

@[simps]
def insertBooking (booking : BookingRow) : Database :=
  { db with bookings := db.bookings ++ [booking] }

/-- Add history rows and the event that goes with them. -/
@[simps]
def record (rows : List BookingStatusHistoryRow) (event : OutboxEventRow) : Database :=
  { db with
    bookingStatusHistory := db.bookingStatusHistory ++ rows
    outboxEvents := db.outboxEvents ++ [event] }

/-- `conversation.active_workflow = workflow`, where the conversation exists. -/
@[simps]
def setWorkflow (tenantId : TenantId) (conversationId : ConversationId)
    (workflow : Option String) : Database :=
  { db with
    conversations :=
      Table.update (fun row => row.tenantId = tenantId ∧ row.id = conversationId)
        (fun row => { row with activeWorkflow := workflow.map String.toList }) db.conversations }

end Database

/-- A draft of one customer in one conversation. -/
def BookingDraftRow.OfIdentity (row : BookingDraftRow) (tenantId : TenantId)
    (customerId : CustomerId) (conversationId : ConversationId) : Prop :=
  row.tenantId = tenantId ∧ row.customerId = customerId ∧ row.conversationId = conversationId

instance (row : BookingDraftRow) (tenantId : TenantId) (customerId : CustomerId)
    (conversationId : ConversationId) : Decidable (row.OfIdentity tenantId customerId conversationId) :=
  inferInstanceAs (Decidable (_ ∧ _ ∧ _))

/-- A hold of one customer in one conversation. -/
def SlotHoldRow.OfIdentity (row : SlotHoldRow) (tenantId : TenantId)
    (customerId : CustomerId) (conversationId : ConversationId) : Prop :=
  row.tenantId = tenantId ∧ row.customerId = customerId ∧ row.conversationId = conversationId

instance (row : SlotHoldRow) (tenantId : TenantId) (customerId : CustomerId)
    (conversationId : ConversationId) : Decidable (row.OfIdentity tenantId customerId conversationId) :=
  inferInstanceAs (Decidable (_ ∧ _ ∧ _))

/-! ## What one transaction writes -/

namespace Database

variable (db : Database)

theorem updateDraft_updateDraft {id : BookingDraftId}
    {first second : BookingDraftRow → BookingDraftRow} (hid : ∀ row, (first row).id = row.id) :
    (db.updateDraft id first).updateDraft id second =
      db.updateDraft id fun row => second (first row) := by
  simp only [updateDraft]
  rw [Table.update_update]
  intro row hrow
  exact (hid row).trans hrow

/-- `start_draft`: the identity's active drafts are cancelled, their holds
released, and the new draft takes over. -/
def openDraft (draft : BookingDraftRow) : Database :=
  (((db.closeDrafts
        (fun row => row.OfIdentity draft.tenantId draft.customerId draft.conversationId)
        .cancelled).closeHolds
      (fun row => row.OfIdentity draft.tenantId draft.customerId draft.conversationId)
      .released).insertDraft draft).setWorkflow
    draft.tenantId draft.conversationId (some "booking:date")

/-- `get_active_draft` on a draft that has run out. -/
def expireDraft (draft : BookingDraftRow) : Database :=
  (db.updateDraft draft.id fun row => { row with status := .expired }).closeHolds
    (fun row => row.tenantId = draft.tenantId ∧ draft.holdId = some row.id) .expired

/-- `create_hold` gives up the hold the draft has. -/
def releaseHold (draft : BookingDraftRow) : Database :=
  (db.closeHolds (fun row => row.tenantId = draft.tenantId ∧ draft.holdId = some row.id)
    .released).updateDraft draft.id fun row => { row with holdId := none }

/-- `create_hold` gives the draft a new hold. -/
def placeHold (draft : BookingDraftRow) (hold : SlotHoldRow) : Database :=
  ((db.insertHold hold).updateDraft draft.id fun row => { row with holdId := some hold.id })
    |>.setWorkflow draft.tenantId draft.conversationId (some "booking:name")

/-- Giving up a hold and taking another writes the draft's hold id once: the
cleared value is overwritten before the transaction commits. -/
theorem releaseHold_placeHold (draft : BookingDraftRow) (hold : SlotHoldRow) :
    (db.releaseHold draft).placeHold draft hold =
      (((db.closeHolds (fun row => row.tenantId = draft.tenantId ∧ draft.holdId = some row.id)
          .released).insertHold hold).updateDraft draft.id
        fun row => { row with holdId := some hold.id }).setWorkflow
          draft.tenantId draft.conversationId (some "booking:name") := by
  unfold releaseHold placeHold
  refine congrArg (fun written : Database => written.setWorkflow _ _ _) ?_
  exact updateDraft_updateDraft (insertHold (closeHolds db _ _) hold) fun _ => rfl

/-- `expire_holds` on the rows it locked. -/
@[simps]
def expireRows (ids : List SlotHoldId) : Database :=
  { db with
    slotHolds :=
      Table.update (fun row => row.id ∈ ids) (fun row => { row with status := .expired })
        db.slotHolds }

/-- `update_contact` -/
def writeContact (draft : BookingDraftRow) (name phone note : Option Text) (workflow : String) :
    Database :=
  (db.updateDraft draft.id fun row =>
      { row with customerName := name, customerPhone := phone, customerNote := note })
    |>.setWorkflow draft.tenantId draft.conversationId (some workflow)

/-- `cancel_draft` on the drafts it locked. -/
def abandonDrafts (ids : List BookingDraftId) (tenantId : TenantId)
    (conversationId : ConversationId) : Database :=
  { db.closeHolds (fun row => row.tenantId = tenantId ∧ row.draftId ∈ ids) .released with
    bookingDrafts :=
      Table.update (fun row => row.id ∈ ids) (fun row => { row with status := .cancelled })
        db.bookingDrafts }
    |>.setWorkflow tenantId conversationId none

/-- `confirm` once the booking is written: the hold is consumed and the draft
confirmed. -/
def settleDraft (draft : BookingDraftRow) (hold : SlotHoldRow) : Database :=
  ((db.updateHold hold.id fun row => { row with status := .consumed }).updateDraft draft.id
      fun row => { row with status := .confirmed })
    |>.setWorkflow draft.tenantId draft.conversationId none

end Database

/-! ## Names the store builds -/

/-- `f"NSA-{booking_id.hex[:8].upper()}"` -/
def publicReference (bookingId : BookingId) : Text :=
  "NSA-".toList ++ (bookingId.hex.take 8).map Char.toUpper

/-- `str(number)` -/
def decimal (number : Nat) : Text := Nat.toDigits 10 number

/-- `uuid5(NAMESPACE_URL, f"business-assistant:{tenant_id}:{key}")` -/
def eventId (tenantId : TenantId) (key : Text) : EventId :=
  { name := "business-assistant:".toList ++ tenantId.str ++ ':' :: key }

/-- `f"booking:confirmed:{booking.id}"` -/
def confirmedKey (bookingId : BookingId) : Text := "booking:confirmed:".toList ++ bookingId.str

/-- `f"booking:rescheduled:{booking.id}:{sequence}"` -/
def rescheduledKey (bookingId : BookingId) (sequence : Nat) : Text :=
  "booking:rescheduled:".toList ++ bookingId.str ++ ':' :: decimal sequence

/-- `f"booking:cancelled:{booking.id}"` -/
def cancelledKey (bookingId : BookingId) : Text := "booking:cancelled:".toList ++ bookingId.str

/-- `_booking_event` -/
def bookingEvent (tenantId : TenantId) (booking : BookingRow) (eventType : String) (key : Text)
    (now : Int) : OutboxEventRow where
  eventId := eventId tenantId key
  tenantId := tenantId
  aggregateType := "booking"
  aggregateId := booking.id
  eventType := eventType
  payload := .booking booking.id booking.publicReference booking.serviceId booking.startAt
  status := .pending
  attempts := 0
  availableAt := now
  occurredAt := now

/-- A `BookingStatusHistoryRow` of the store; every row of it is the customer's. -/
def historyRow (tenantId : TenantId) (bookingId : BookingId) (sequence : Nat)
    (fromStatus toStatus : BookingStatus) (reason : String) (serverNow : Int) :
    BookingStatusHistoryRow where
  tenantId := tenantId
  bookingId := bookingId
  sequence := sequence
  fromStatus := fromStatus
  toStatus := toStatus
  actor := "customer"
  reason := some reason
  occurredAt := serverNow

/-- `_next_history_sequence` -/
def nextHistorySequence (db : Database) (bookingId : BookingId) : Nat :=
  ((db.bookingStatusHistory.filter (·.bookingId = bookingId)).map (·.sequence)).foldl max 0 + 1

/-- The facts about the service that a booking keeps. -/
def ServiceRow.snapshot (service : ServiceRow) : ServiceSnapshot where
  serviceId := service.id
  name := service.displayName
  durationSeconds := service.durationSeconds
  bufferSeconds := service.bufferSeconds
  priceMode := service.priceMode
  priceMinMinor := service.priceMinMinor
  priceMaxMinor := service.priceMaxMinor
  currency := service.currency

/-! ## What a confirmation or cancellation writes -/

/-- The booking `confirm` inserts. -/
def newBooking (bookingId : BookingId) (draft : BookingDraftRow) (hold : SlotHoldRow)
    (service : ServiceRow) (key : Text) : BookingRow where
  id := bookingId
  tenantId := draft.tenantId
  customerId := draft.customerId
  serviceId := service.id
  resourceId := some hold.resourceId
  conversationId := some draft.conversationId
  holdId := some hold.id
  publicReference := some (publicReference bookingId)
  startAt := hold.startAt
  endAt := hold.startAt + service.duration
  status := .confirmed
  idempotencyScope := "confirm"
  idempotencyValue := key
  serviceSnapshot := service.snapshot
  customerSnapshot := { name := draft.customerName, phone := draft.customerPhone }
  notes := draft.customerNote
  source := "telegram"
  timeOrderValid := by have := service.duration_pos; omega

/-- The booking a reschedule leaves. -/
def BookingRow.movedTo (booking : BookingRow) (hold : SlotHoldRow) (service : ServiceRow) :
    BookingRow :=
  { booking with
    status := .confirmed
    resourceId := some hold.resourceId
    startAt := hold.startAt
    endAt := hold.startAt + service.duration
    holdId := some hold.id
    serviceSnapshot := service.snapshot
    timeOrderValid := by have := service.duration_pos; omega }

namespace Database

variable (db : Database)

/-- A new booking with its first two history rows and its event. -/
def book (booking : BookingRow) (now serverNow : Int) : Database :=
  (db.insertBooking booking).record
    [historyRow booking.tenantId booking.id 1 .draft .held "slot_hold_created" serverNow,
      historyRow booking.tenantId booking.id 2 .held .confirmed "explicit_confirmation" serverNow]
    (bookingEvent booking.tenantId booking "booking.confirmed" (confirmedKey booking.id) now)

/-- A booking moved to a hold, with two history rows and an event. -/
def move (booking : BookingRow) (hold : SlotHoldRow) (service : ServiceRow)
    (now serverNow : Int) : Database :=
  let sequence := nextHistorySequence db booking.id
  (db.updateBooking booking.id (·.movedTo hold service)).record
    [historyRow booking.tenantId booking.id sequence .confirmed .reschedulePending
        "customer_reschedule" serverNow,
      historyRow booking.tenantId booking.id (sequence + 1) .reschedulePending .confirmed
        "new_hold_confirmed" serverNow]
    (bookingEvent booking.tenantId (booking.movedTo hold service) "booking.rescheduled"
      (rescheduledKey booking.id sequence) now)

/-- A cancelled booking, with its history row and its event. -/
def cancel (booking : BookingRow) (now serverNow : Int) : Database :=
  (db.updateBooking booking.id fun row => { row with status := .cancelled }).record
    [historyRow booking.tenantId booking.id (nextHistorySequence db booking.id) .confirmed
      .cancelled "customer_cancelled" serverNow]
    (bookingEvent booking.tenantId booking "booking.cancelled" (cancelledKey booking.id) now)

end Database

/-! ## Constraints of the bookings table -/

/-- A row the exclusion constraint applies to. -/
def BookingRow.Blocks (booking : BookingRow) : Prop :=
  booking.resourceId.isSome = true ∧
    (booking.status = .held ∨ booking.status = .confirmed ∨ booking.status = .reschedulePending)

instance (booking : BookingRow) : Decidable booking.Blocks :=
  inferInstanceAs (Decidable (_ ∧ (_ ∨ _ ∨ _)))

/-- Two rows `ex_bookings_resource_active_overlap` does not admit together. -/
def BookingRow.Excludes (first second : BookingRow) : Prop :=
  first.Blocks ∧ second.Blocks ∧ first.tenantId = second.tenantId ∧
    first.resourceId = second.resourceId ∧
    first.startAt < second.endAt ∧ second.startAt < first.endAt

instance : DecidableRel BookingRow.Excludes := fun _ _ =>
  inferInstanceAs (Decidable (_ ∧ _ ∧ _ ∧ _ ∧ _ ∧ _))

end BusinessAssistant.Persistence
