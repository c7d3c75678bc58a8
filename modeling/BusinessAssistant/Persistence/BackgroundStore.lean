/-
# The background store

The transactions of `SQLAlchemyBackgroundStore`. Both claiming queries lock the rows
they return and pass over the ones another transaction has locked, so what a query
returns depends on the locks of the moment; they are given as the rows it skips.

A dispatch is kept as its single statements, because others commit between them: the
query that locks a batch, then for each event the reading of the subscriptions and the
inserts, and at the end the commit that makes all of it visible at once.
-/

import BusinessAssistant.Application.Errors
import BusinessAssistant.Foundation.Transaction
import BusinessAssistant.Persistence.BackgroundRows
import Mathlib.Data.List.Sort

namespace BusinessAssistant.Persistence

open BusinessAssistant.Domain BusinessAssistant.Application BusinessAssistant.Foundation

/-! ## Subscriptions -/

/-- The row of `save_subscription`, as it inserts it. -/
def subscriptionRow (subscription : NotificationSubscription) : NotificationSubscriptionRow where
  id := subscription.id
  tenantId := subscription.tenantId
  channel := subscription.channel
  recipientId := subscription.recipientId
  eventTypes := subscription.eventTypes
  enabled := subscription.enabled

/-- The unique key `save_subscription` runs into. -/
def NotificationSubscriptionRow.SameRecipient (row : NotificationSubscriptionRow)
    (subscription : NotificationSubscription) : Prop :=
  row.tenantId = subscription.tenantId ∧ row.channel = subscription.channel ∧
    row.recipientId = subscription.recipientId

instance (row : NotificationSubscriptionRow) (subscription : NotificationSubscription) :
    Decidable (row.SameRecipient subscription) :=
  inferInstanceAs (Decidable (_ ∧ _ ∧ _))

/-- `save_subscription`: an insert, or an update of the row with the same recipient. -/
def saveSubscription (subscription : NotificationSubscription) :
    Tx BackgroundDatabase Failure Unit := do
  let db ← get
  if ∃ row ∈ db.notificationSubscriptions, row.SameRecipient subscription then
    modify fun db =>
      { db with
        notificationSubscriptions :=
          Table.update (·.SameRecipient subscription)
            (fun row =>
              { row with eventTypes := subscription.eventTypes, enabled := subscription.enabled })
            db.notificationSubscriptions }
  else do
    Tx.require (∀ row ∈ db.notificationSubscriptions, row.id ≠ subscription.id)
      (.integrity "pk_notification_subscriptions")
    modify fun db =>
      { db with
        notificationSubscriptions :=
          db.notificationSubscriptions ++ [subscriptionRow subscription] }

/-! ## Dispatching the outbox -/

/-- The filter of the dispatching query: an event that is due, or whose lease is stale. -/
def OutboxRow.Due (row : OutboxRow) (now leaseSeconds : Int) : Prop :=
  (row.status = .pending ∧ row.availableAt ≤ now) ∨
    (row.status = .processing ∧ ∃ lockedAt ∈ row.lockedAt, lockedAt ≤ now - seconds leaseSeconds)

instance (row : OutboxRow) (now leaseSeconds : Int) : Decidable (row.Due now leaseSeconds) :=
  inferInstanceAs (Decidable (_ ∨ _ ∧ _))

namespace BackgroundDatabase

variable (db : BackgroundDatabase)

/-- The batch of a dispatch: due events of served tenants, the oldest first. `uuid5` gives
the id that equal times are ordered by. -/
def dueEvents (uuid5 : EventId → UUID) (skipped : EventId → Bool) (now leaseSeconds : Int)
    (limit : Nat) : List OutboxRow :=
  ((db.outboxEvents.filter fun row =>
    db.Served row.tenantId ∧ row.Due now leaseSeconds ∧ skipped row.eventId = false).insertionSort
      fun first second =>
        first.availableAt < second.availableAt ∨
          first.availableAt = second.availableAt ∧ uuid5 first.eventId ≤ uuid5 second.eventId).take
    limit

/-- The subscriptions an event goes to. -/
def listeners (event : OutboxRow) : List NotificationSubscriptionRow :=
  db.notificationSubscriptions.filter fun row =>
    row.tenantId = event.tenantId ∧ row.enabled = true ∧ event.eventType ∈ row.eventTypes

end BackgroundDatabase

/-- The delivery `dispatch_outbox` inserts. -/
def newDelivery (event : OutboxRow) (subscription : NotificationSubscriptionRow) (id : UUID)
    (now : Int) : NotificationDeliveryRow where
  id := id
  tenantId := event.tenantId
  eventId := event.eventId
  subscriptionId := subscription.id
  eventType := event.eventType
  channel := subscription.channel
  recipientId := subscription.recipientId
  payload := event.payload
  status := .pending
  attempts := 0
  availableAt := now
  lockedAt := none
  sentAt := none
  lastErrorCode := none

/-- An open dispatching transaction: the locked events it still has to go through, those
it has, the deliveries it has inserted and the subscriptions it read for each event. -/
structure Dispatch where
  now : Int
  maxAttempts : Nat
  remaining : List OutboxRow
  processed : List OutboxRow := []
  inserted : List NotificationDeliveryRow := []
  readings : List (OutboxRow × List NotificationSubscriptionRow) := []

namespace Dispatch

variable (dispatch : Dispatch)

/-- `event.status = processing`, `event.locked_at = now`, `event.attempts += 1` -/
def started (event : OutboxRow) : OutboxRow :=
  { event with
    status := .processing, lockedAt := some dispatch.now, attempts := event.attempts + 1 }

/-- The event has been tried too often. -/
def Exhausted (event : OutboxRow) : Prop := dispatch.maxAttempts < (dispatch.started event).attempts

instance (event : OutboxRow) : Decidable (dispatch.Exhausted event) :=
  inferInstanceAs (Decidable (_ < _))

def deadLettered (event : OutboxRow) : OutboxRow :=
  { dispatch.started event with
    status := .deadLetter, lastErrorCode := some "outbox.attempts_exhausted" }

def published (event : OutboxRow) : OutboxRow :=
  { dispatch.started event with
    status := .published, publishedAt := some dispatch.now, lockedAt := none
    lastErrorCode := none }

/-- An insert with `on_conflict_do_nothing` on the event and the subscription; a drawn id
that is taken is an error. -/
def insertDelivery (stored : List NotificationDeliveryRow)
    (inserted : List NotificationDeliveryRow) (row : NotificationDeliveryRow) :
    Except Failure (List NotificationDeliveryRow) :=
  if ∃ other ∈ stored ++ inserted,
      other.tenantId = row.tenantId ∧ other.eventId = row.eventId ∧
        other.subscriptionId = row.subscriptionId then
    pure inserted
  else if ∃ other ∈ stored ++ inserted, other.id = row.id then
    throw (.integrity "pk_notification_deliveries")
  else pure (inserted ++ [row])

/-- The turn of one event. `draw` gives the ids drawn for its deliveries; `db` is what
is committed at the time. -/
def project (db : BackgroundDatabase) (draw : UUID → UUID) (event : OutboxRow) :
    Except Failure Dispatch :=
  if dispatch.Exhausted event then
    pure { dispatch with processed := dispatch.processed ++ [dispatch.deadLettered event] }
  else do
    let inserted ← (db.listeners event).foldlM
      (fun inserted subscription =>
        insertDelivery db.notificationDeliveries inserted
          (newDelivery event subscription (draw subscription.id) dispatch.now))
      dispatch.inserted
    pure
      { dispatch with
        processed := dispatch.processed ++ [dispatch.published event]
        inserted := inserted
        readings := dispatch.readings ++ [(event, db.notificationSubscriptions)] }

/-- The rows as they stand in the transaction. -/
def rewritten (events : List OutboxRow) : List OutboxRow :=
  events.map fun row => (dispatch.processed.find? (·.eventId = row.eventId)).getD row

/-- The commit. -/
def commit (db : BackgroundDatabase) : BackgroundDatabase :=
  { db with
    outboxEvents := dispatch.rewritten db.outboxEvents
    notificationDeliveries := db.notificationDeliveries ++ dispatch.inserted }

/-- The loop over the batch. Any event's turn may raise for a reason of its own. -/
def projectAll (raises : EventId → Option Failure) (db : BackgroundDatabase)
    (draw : EventId → UUID → UUID) : List OutboxRow → Dispatch → Except Failure Dispatch
  | [], dispatch => pure dispatch
  | event :: rest, dispatch => do
      let reached := { dispatch with remaining := rest }
      let projected ←
        match raises event.eventId with
        | some failure =>
            if dispatch.Exhausted event then reached.project db (draw event.eventId) event
            else throw failure
        | none => reached.project db (draw event.eventId) event
      projectAll raises db draw rest projected

end Dispatch

/-- `dispatch_outbox`, with nothing else going on: the batch, the projection of its events
and the commit are one transaction. -/
def dispatchOutbox (uuid5 : EventId → UUID) (raises : EventId → Option Failure)
    (draw : EventId → UUID → UUID) (now leaseSeconds : Int) (limit maxAttempts : Nat) :
    Tx BackgroundDatabase Failure (Nat × Nat × Nat) := do
  let db ← get
  let events := db.dueEvents uuid5 (fun _ => false) now leaseSeconds limit
  let dispatch ← Tx.lift
    (Dispatch.projectAll raises db draw events { now, maxAttempts, remaining := events })
  modify dispatch.commit
  pure (events.length, dispatch.inserted.length,
    (dispatch.processed.filter (·.status = .deadLetter)).length)

/-! ## Claiming and finishing deliveries -/

/-- The filter of the claiming query: a delivery that is due, or whose lease is stale. -/
def NotificationDeliveryRow.Due (row : NotificationDeliveryRow) (now leaseSeconds : Int) : Prop :=
  (row.status = .pending ∧ row.availableAt ≤ now) ∨
    (row.status = .processing ∧ ∃ lockedAt ∈ row.lockedAt, lockedAt ≤ now - seconds leaseSeconds)

instance (row : NotificationDeliveryRow) (now leaseSeconds : Int) :
    Decidable (row.Due now leaseSeconds) :=
  inferInstanceAs (Decidable (_ ∨ _ ∧ _))

namespace NotificationDeliveryRow

/-- `row.status = processing`, `row.locked_at = now`, `row.attempts += 1` -/
def claimed (now : Int) (row : NotificationDeliveryRow) : NotificationDeliveryRow :=
  { row with status := .processing, lockedAt := some now, attempts := row.attempts + 1 }

/-- `_claim` -/
def toClaim (row : NotificationDeliveryRow) : DeliveryClaim where
  id := row.id
  tenantId := row.tenantId
  eventType := row.eventType
  channel := row.channel
  recipientId := row.recipientId
  payload := row.payload.dict
  attempts := row.attempts

/-- The values `_finish` writes. -/
def finished (call : FinishingCall) (row : NotificationDeliveryRow) : NotificationDeliveryRow :=
  match call with
  | .markDelivered time =>
      { row with status := .sent, lockedAt := none, lastErrorCode := none, sentAt := some time }
  | .retryDelivery time errorCode =>
      { row with
        status := .pending, lockedAt := none, lastErrorCode := some errorCode, availableAt := time }
  | .deadLetter _ errorCode =>
      { row with status := .deadLetter, lockedAt := none, lastErrorCode := some errorCode }

end NotificationDeliveryRow

/-- What `claim_notifications` returns for the rows of its query. -/
def claimsOf (batch : List NotificationDeliveryRow) (now : Int) : List DeliveryClaim :=
  batch.map fun row => (row.claimed now).toClaim

namespace BackgroundDatabase

variable (db : BackgroundDatabase)

/-- The deliveries the claiming query returns: due ones of served tenants, the oldest
first. -/
def dueDeliveries (skipped : UUID → Bool) (now leaseSeconds : Int) (limit : Nat) :
    List NotificationDeliveryRow :=
  ((db.notificationDeliveries.filter fun row =>
    db.Served row.tenantId ∧ row.Due now leaseSeconds ∧ skipped row.id = false).insertionSort
      fun first second =>
        first.availableAt < second.availableAt ∨
          first.availableAt = second.availableAt ∧ first.id ≤ second.id).take limit

/-- What `claim_notifications` writes to the rows of its batch. -/
def claimDeliveries (batch : List NotificationDeliveryRow) (now : Int) : BackgroundDatabase :=
  { db with
    notificationDeliveries :=
      Table.update (fun row => row.id ∈ batch.map (·.id)) (·.claimed now)
        db.notificationDeliveries }

/-- `_finish` -/
def finish (claim : DeliveryClaim) (call : FinishingCall) : BackgroundDatabase :=
  { db with
    notificationDeliveries :=
      Table.update
        (fun row => row.tenantId = claim.tenantId ∧ row.id = claim.id ∧ row.status = .processing)
        (·.finished call) db.notificationDeliveries }

end BackgroundDatabase

end BusinessAssistant.Persistence
