/-
# The projection of the outbox is exactly once

What the record of readings says about the deliveries: a published event has one delivery
for each subscription it went to when it was published, and nothing else is delivered.
-/

import BusinessAssistant.Persistence.DeliveryWorkers
import BusinessAssistant.Persistence.OutboxDispatch
import Mathlib.Data.List.Nodup

namespace BusinessAssistant.Persistence

open BusinessAssistant.Domain BusinessAssistant.Application BusinessAssistant.Foundation

/-- The event a delivery is of and the subscription it goes to. -/
def NotificationDeliveryRow.pair (row : NotificationDeliveryRow) : EventId × UUID :=
  (row.eventId, row.subscriptionId)

theorem mem_readingKeys {reading : Reading} {key : TenantId × EventId × UUID} :
    key ∈ readingKeys reading ↔
      key.1 = reading.1.tenantId ∧ key.2.1 = reading.1.eventId ∧
        ∃ row ∈ reading.2, row.id = key.2.2 ∧ row.tenantId = reading.1.tenantId ∧
          row.enabled = true ∧ reading.1.eventType ∈ row.eventTypes := by
  simp only [readingKeys, List.mem_map, List.mem_filter, decide_eq_true_eq]
  constructor
  · rintro ⟨row, ⟨hrow, hlistens⟩, rfl⟩
    exact ⟨rfl, rfl, row, hrow, rfl, hlistens⟩
  · rintro ⟨htenant, hevent, row, hrow, hid, hlistens⟩
    exact ⟨row, ⟨hrow, hlistens⟩, by rw [← htenant, ← hevent, hid]⟩

namespace Consistent

variable {uuid5 : EventId → UUID} {s : OutboxState} {record : List Reading}

/-- No event is delivered twice to one subscription. -/
theorem nodup_pairs (h : Consistent s record) :
    (s.db.notificationDeliveries.map (·.pair)).Nodup := by
  have hpairs : s.db.notificationDeliveries.map (·.pair) =
      record.flatMap fun reading => (readingKeys reading).map Prod.snd := by
    rw [← List.map_flatMap, ← h.keys, List.map_map]
    rfl
  rw [hpairs, List.nodup_flatMap]
  constructor
  · intro reading hreading
    rw [readingKeys, List.map_map]
    have htable : ((reading.2.filter fun row =>
        row.tenantId = reading.1.tenantId ∧ row.enabled = true ∧
          reading.1.eventType ∈ row.eventTypes).map (·.id)).Nodup :=
      (h.tables reading hreading).sublist (List.filter_sublist.map _)
    have hpair : Function.Injective fun id : UUID => (reading.1.eventId, id) :=
      fun _ _ hequal => (Prod.mk.inj hequal).2
    have hnodup := htable.map hpair
    rw [List.map_map] at hnodup
    exact hnodup
  · refine (List.pairwise_map.mp h.read).imp ?_
    intro first second hdistinct pair hfirst hsecond
    obtain ⟨key, hkey, rfl⟩ := List.mem_map.mp hfirst
    obtain ⟨other, hother, hsame⟩ := List.mem_map.mp hsecond
    apply hdistinct
    rw [← eventId_of_mem_readingKeys hkey, ← eventId_of_mem_readingKeys hother, hsame]

/-- How many deliveries an event has for a subscription. -/
theorem length_deliveries (h : Consistent s record) (key : TenantId × EventId × UUID) :
    (s.db.notificationDeliveries.filter (·.key = key)).length =
      if key ∈ record.flatMap readingKeys then 1 else 0 := by
  have hnodup : (s.db.notificationDeliveries.map (·.key)).Nodup := by
    apply List.Nodup.of_map Prod.snd
    rw [List.map_map]
    exact h.nodup_pairs
  rw [← h.keys, ← hnodup.count, List.count_eq_countP, List.countP_map, List.countP_eq_length_filter]
  congr 2
  funext row
  exact (beq_eq_decide row.key key).symm

/-- The reading of a published event is the only one of that event. -/
theorem reading_unique (h : Consistent s record) {first second : Reading} (hfirst : first ∈ record)
    (hsecond : second ∈ record) (hid : first.1.eventId = second.1.eventId) : first = second :=
  Table.eq_of_key_eq h.read hfirst hsecond hid

/-- An event leaves its status only to be published or a dead letter. -/
theorem leaves (h : Consistent s record) {step : OutboxStep} (hallows : s.Allows step)
    {event : OutboxRow} (hevent : event ∈ s.db.outboxEvents) :
    ∃ event' ∈ (s.next uuid5 step).db.outboxEvents, event'.eventId = event.eventId ∧
      (event' = event ∨ event'.status = .published ∨ event'.status = .deadLetter) := by
  have hkept : (s.next uuid5 step).db.outboxEvents = s.db.outboxEvents →
      ∃ event' ∈ (s.next uuid5 step).db.outboxEvents, event'.eventId = event.eventId ∧
        (event' = event ∨ event'.status = .published ∨ event'.status = .deadLetter) :=
    fun hsame => ⟨event, hsame ▸ hevent, rfl, .inl rfl⟩
  cases step with
  | produce new => exact ⟨event, List.mem_append_left _ hevent, rfl, .inl rfl⟩
  | subscribe subscription => exact hkept (saveSubscription_events subscription s.db)
  | configure tenants entitlements => exact hkept rfl
  | start transaction now leaseSeconds limit maxAttempts skipped => exact hkept rfl
  | project transaction draw =>
      obtain ⟨projected, hprojects⟩ := Option.isSome_iff_exists.mp hallows
      exact hkept (by simp only [OutboxState.next, hprojects])
  | commit transaction =>
      obtain ⟨dispatch, hmem, _, _⟩ := hallows
      have hdispatch : s.transactions transaction = some dispatch := hmem
      have hbatch := h.batches transaction dispatch hdispatch
      have hnext : (s.next uuid5 (.commit transaction)).db.outboxEvents =
          dispatch.rewritten s.db.outboxEvents := by
        simp only [OutboxState.next, hdispatch]
        rfl
      rw [hnext]
      refine ⟨_, List.mem_map_of_mem hevent, ?_⟩
      rcases hbatch.rewritten_row h.events hevent with
        ⟨_, hsame⟩ | ⟨_, _, ⟨hdead, _⟩ | ⟨hpublished, _⟩⟩
      · rw [hsame]
        exact ⟨rfl, .inl rfl⟩
      · rw [hdead]
        exact ⟨rfl, .inr (.inr rfl)⟩
      · rw [hpublished]
        exact ⟨rfl, .inr (.inl rfl)⟩
  | abort transaction => exact hkept rfl

end Consistent

/-- In every reachable state: a published event has one delivery for each subscription of
its tenant that was enabled and listed its type in the table the publishing transaction
read, and none for any other; no event is delivered twice to one subscription; a delivery is
one of a published event of its tenant; and a step leaves an event that is pending or
processing as it is, or publishes it, or makes it a dead letter. -/
theorem outbox_exactly_once {uuid5 : EventId → UUID} {s : OutboxState} {record : List Reading}
    (hs : (recordedOutbox uuid5).Reachable (s, record)) :
    (∀ event ∈ s.db.outboxEvents, event.status = .published →
      ∃ reading ∈ record, reading.1.eventId = event.eventId ∧
        (∀ other ∈ record, other.1.eventId = event.eventId → other = reading) ∧
        ∀ subscriptionId,
          (s.db.notificationDeliveries.filter fun row =>
            row.key = (event.tenantId, event.eventId, subscriptionId)).length =
          if ∃ row ∈ reading.2, row.id = subscriptionId ∧ row.tenantId = event.tenantId ∧
              row.enabled = true ∧ event.eventType ∈ row.eventTypes then 1 else 0) ∧
    (s.db.notificationDeliveries.map fun row => (row.eventId, row.subscriptionId)).Nodup ∧
    (∀ row ∈ s.db.notificationDeliveries, ∃ event ∈ s.db.outboxEvents,
      event.status = .published ∧ event.eventId = row.eventId ∧ event.tenantId = row.tenantId) ∧
    ∀ step s', (recordedOutbox uuid5).step (s, record) step s' →
      ∀ event ∈ s.db.outboxEvents, event.status = .pending ∨ event.status = .processing →
        ∃ event' ∈ s'.1.db.outboxEvents, event'.eventId = event.eventId ∧
          (event'.status = event.status ∨ event'.status = .published ∨
            event'.status = .deadLetter) := by
  have h := consistent_of_reachable hs
  refine ⟨?_, h.nodup_pairs, fun row hrow => h.exists_published hrow, ?_⟩
  · intro event hevent hpublished
    obtain ⟨reading, hreading, hid, htenant, htype⟩ := h.recorded event hevent hpublished
    refine ⟨reading, hreading, hid, fun other hother hotherId =>
      h.reading_unique hother hreading (hotherId.trans hid.symm), fun subscriptionId => ?_⟩
    have hmem : (event.tenantId, event.eventId, subscriptionId) ∈ record.flatMap readingKeys ↔
        ∃ row ∈ reading.2, row.id = subscriptionId ∧ row.tenantId = event.tenantId ∧
          row.enabled = true ∧ event.eventType ∈ row.eventTypes := by
      rw [List.mem_flatMap]
      constructor
      · rintro ⟨other, hother, hkey⟩
        have hsame : other = reading := h.reading_unique hother hreading
          ((eventId_of_mem_readingKeys hkey).symm.trans hid.symm)
        rw [hsame, mem_readingKeys, htenant, htype] at hkey
        exact hkey.2.2
      · intro hlistens
        refine ⟨reading, hreading, mem_readingKeys.mpr ⟨htenant.symm, hid.symm, ?_⟩⟩
        rw [htenant, htype]
        exact hlistens
    rw [h.length_deliveries]
    simp only [hmem]
  · rintro step s' ⟨⟨hallows, hnext⟩, _⟩ event hevent _
    rw [hnext]
    obtain ⟨event', hevent', hid, hstatus⟩ := h.leaves hallows hevent
    refine ⟨event', hevent', hid, hstatus.imp_left fun hsame => ?_⟩
    rw [hsame]

/-! ## One event -/

/-- A step of the recorded dispatches. -/
def nextReading (uuid5 : EventId → UUID) (s : OutboxState × List Reading) (step : OutboxStep) :
    OutboxState × List Reading :=
  (s.1.next uuid5 step, s.2 ++ s.1.readings step)

namespace Pager

def uuid5 (_ : EventId) : UUID := 0#128

def queued : OutboxEventRow where
  eventId := delivery.eventId
  tenantId := tenantId
  aggregateType := "handoff"
  aggregateId := 4#128
  eventType := "handoff.queued"
  payload := delivery.payload
  status := .pending
  attempts := 0
  availableAt := 0
  occurredAt := 0

def subscription : NotificationSubscription where
  id := delivery.subscriptionId
  tenantId := tenantId
  channel := .telegram
  recipientId := delivery.recipientId
  eventTypes := ["handoff.queued"]
  enabled := true

/-- The tenant, and nothing in the outbox. -/
def quiet : OutboxState × List Reading :=
  ({ db := { tenants := [tenant], entitlements := [entitlement] }, transactions := fun _ => none },
    [])

/-- A subscription is made and an event comes in. -/
def produced : OutboxState × List Reading :=
  nextReading uuid5 (nextReading uuid5 quiet (.subscribe subscription)) (.produce queued)

/-- A dispatch has locked the event. -/
def locked : OutboxState × List Reading :=
  nextReading uuid5 produced (.start 0 0 60 100 6 fun _ => false)

/-- The dispatch has gone through the event. -/
def projected : OutboxState × List Reading :=
  nextReading uuid5 locked (.project 0 fun _ => delivery.id)

def dispatched : OutboxState × List Reading := nextReading uuid5 projected (.commit 0)

theorem reachable_nextReading {s : OutboxState × List Reading} {step : OutboxStep}
    (hs : (recordedOutbox uuid5).Reachable s) (hallows : s.1.Allows step) :
    (recordedOutbox uuid5).Reachable (nextReading uuid5 s step) :=
  .step hs ⟨⟨hallows, rfl⟩, rfl⟩

theorem reachable_produced : (recordedOutbox uuid5).Reachable produced := by
  have hquiet : (recordedOutbox uuid5).Reachable quiet :=
    .init ⟨⟨rfl, rfl, rfl, fun _ => rfl⟩, rfl⟩
  have hempty : (nextReading uuid5 quiet (.subscribe subscription)).1.db.outboxEvents = [] :=
    saveSubscription_events subscription quiet.1.db
  have hnew : ∀ other ∈ (nextReading uuid5 quiet (.subscribe subscription)).1.db.outboxEvents,
      other.eventId ≠ queued.eventId := by
    rw [hempty]
    exact fun _ hother => absurd hother List.not_mem_nil
  exact reachable_nextReading (reachable_nextReading hquiet trivial) ⟨rfl, rfl, hnew⟩

theorem reachable_dispatched : (recordedOutbox uuid5).Reachable dispatched := by
  have hlocked : (recordedOutbox uuid5).Reachable locked :=
    reachable_nextReading reachable_produced ⟨rfl, nofun⟩
  have hproject : (locked.1.projected? 0 fun _ => delivery.id).isSome := by decide +kernel
  have hprojected : (recordedOutbox uuid5).Reachable projected :=
    reachable_nextReading hlocked hproject
  have hcommit : ∃ dispatch ∈ projected.1.transactions 0, dispatch.remaining = [] ∧
      ∀ row ∈ dispatch.inserted, ∀ other ∈ projected.1.db.notificationDeliveries,
        other.id ≠ row.id := by
    decide +kernel
  exact reachable_nextReading hprojected hcommit

end Pager

theorem outbox_exactly_once_by_pager :
    (recordedOutbox Pager.uuid5).Reachable Pager.dispatched ∧
    ∀ row ∈ Pager.dispatched.1.db.notificationDeliveries,
      ∃ event ∈ Pager.dispatched.1.db.outboxEvents,
        event.status = .published ∧ event.eventId = row.eventId ∧ event.tenantId = row.tenantId :=
  ⟨Pager.reachable_dispatched, (outbox_exactly_once Pager.reachable_dispatched).2.2.1⟩

end BusinessAssistant.Persistence
