/-
# Transactions that dispatch the outbox

Any number of `dispatch_outbox` transactions, statement by statement, among producers
that commit events, changes of the subscriptions and changes of the tenants. What a
transaction has written is seen by the others when it commits; the events it has locked
are passed over by the others until then.

Beside the state a record is kept of what was read when an event was published: the row of
the event and the table of subscriptions of that moment.
-/

import BusinessAssistant.Foundation.System
import BusinessAssistant.Persistence.BackgroundStore
import Mathlib.Logic.Function.Basic

namespace BusinessAssistant.Persistence

open BusinessAssistant.Domain BusinessAssistant.Application BusinessAssistant.Foundation

/-! ## The system -/

structure OutboxState where
  db : BackgroundDatabase
  transactions : ℕ → Option Dispatch

inductive OutboxStep
  /-- A producer commits an event. -/
  | produce (event : OutboxEventRow)
  | subscribe (subscription : NotificationSubscription)
  | configure (tenants : List TenantRow) (entitlements : List TenantEntitlementRow)
  /-- A dispatch locks its batch, past the events that are locked. -/
  | start (transaction : ℕ) (now leaseSeconds : Int) (limit maxAttempts : Nat)
      (skipped : EventId → Bool)
  /-- A dispatch goes through the next event of its batch. -/
  | project (transaction : ℕ) (draw : UUID → UUID)
  | commit (transaction : ℕ)
  | abort (transaction : ℕ)

/-- What was read when an event was published: its row and the subscriptions. -/
abbrev Reading := OutboxRow × List NotificationSubscriptionRow

/-- The events a dispatch has locked. -/
def Dispatch.batch (dispatch : Dispatch) : List OutboxRow :=
  dispatch.processed ++ dispatch.remaining

/-- The turn of the next event of the batch. -/
def Dispatch.projectNext (dispatch : Dispatch) (db : BackgroundDatabase) (draw : UUID → UUID) :
    Except Failure Dispatch :=
  match dispatch.remaining with
  | [] => pure dispatch
  | event :: rest => { dispatch with remaining := rest }.project db draw event

namespace OutboxState

variable (uuid5 : EventId → UUID) (s : OutboxState)

/-- An open dispatch after its next event, if it has one and its turn does not raise. -/
def projected? (transaction : ℕ) (draw : UUID → UUID) : Option Dispatch :=
  (s.transactions transaction).bind fun dispatch =>
    if dispatch.remaining = [] then none else (dispatch.projectNext s.db draw).toOption

/-- The steps that can be taken. The id of an event is a primary key, and so is that of a
delivery; a dispatch that would violate it can only be aborted. -/
def Allows : OutboxStep → Prop
  | .produce event =>
      event.status = .pending ∧ event.attempts = 0 ∧
        ∀ other ∈ s.db.outboxEvents, other.eventId ≠ event.eventId
  | .subscribe _ | .configure _ _ | .abort _ => True
  | .start transaction _ _ _ _ skipped =>
      s.transactions transaction = none ∧
        ∀ other dispatch, s.transactions other = some dispatch →
          ∀ event ∈ dispatch.batch, skipped event.eventId = true
  | .project transaction draw => (s.projected? transaction draw).isSome
  | .commit transaction =>
      ∃ dispatch ∈ s.transactions transaction, dispatch.remaining = [] ∧
        ∀ row ∈ dispatch.inserted, ∀ other ∈ s.db.notificationDeliveries, other.id ≠ row.id

/-- What a step does. -/
def next : OutboxStep → OutboxState
  | .produce event =>
      { s with db := { s.db with outboxEvents := s.db.outboxEvents ++ [{ event with }] } }
  | .subscribe subscription =>
      { s with db := ((saveSubscription subscription).commit s.db).2 }
  | .configure tenants entitlements =>
      { s with db := { s.db with tenants := tenants, entitlements := entitlements } }
  | .start transaction now leaseSeconds limit maxAttempts skipped =>
      { s with
        transactions :=
          Function.update s.transactions transaction
            (some
              { now, maxAttempts
                remaining := s.db.dueEvents uuid5 skipped now leaseSeconds limit }) }
  | .project transaction draw =>
      match s.projected? transaction draw with
      | none => s
      | some projected =>
          { s with transactions := Function.update s.transactions transaction (some projected) }
  | .commit transaction =>
      match s.transactions transaction with
      | none => s
      | some dispatch =>
          { db := dispatch.commit s.db
            transactions := Function.update s.transactions transaction none }
  | .abort transaction =>
      { s with transactions := Function.update s.transactions transaction none }

theorem projected?_eq_some {s : OutboxState} {transaction : ℕ} {draw : UUID → UUID}
    {projected : Dispatch} :
    s.projected? transaction draw = some projected ↔
      ∃ dispatch, s.transactions transaction = some dispatch ∧ dispatch.remaining ≠ [] ∧
        dispatch.projectNext s.db draw = .ok projected := by
  rw [projected?, Option.bind_eq_some_iff]
  apply exists_congr
  intro dispatch
  rw [Option.ite_none_left_eq_some, toOption_eq_some]

end OutboxState

/-- Any number of dispatches, from an empty outbox. -/
def outbox (uuid5 : EventId → UUID) : System OutboxState OutboxStep where
  init s :=
    s.db.outboxEvents = [] ∧ s.db.notificationSubscriptions = [] ∧
      s.db.notificationDeliveries = [] ∧ ∀ transaction, s.transactions transaction = none
  step s label s' := s.Allows label ∧ s' = s.next uuid5 label

/-- What a step adds to the record: the readings of a dispatch, when it commits. -/
def OutboxState.readings (s : OutboxState) : OutboxStep → List Reading
  | .commit transaction => ((s.transactions transaction).map (·.readings)).getD []
  | .produce _ | .subscribe _ | .configure _ _ | .start _ _ _ _ _ _ | .project _ _ | .abort _ => []

/-- The dispatches with their record, the latest reading last. -/
def recordedOutbox (uuid5 : EventId → UUID) : System (OutboxState × List Reading) OutboxStep :=
  (outbox uuid5).noting [] fun s step record => record ++ s.readings step

/-! ## Subscribing -/

/-- What `save_subscription` leaves in the table of subscriptions, and nowhere else. -/
theorem saveSubscription_commit (subscription : NotificationSubscription)
    (db : BackgroundDatabase) : ∃ table,
    ((saveSubscription subscription).commit db).2 = { db with notificationSubscriptions := table } ∧
      ((db.notificationSubscriptions.map (·.id)).Nodup → (table.map (·.id)).Nodup) := by
  cases hrun : (saveSubscription subscription).run db with
  | error error =>
      rw [Tx.commit_of_error hrun]
      exact ⟨_, rfl, id⟩
  | ok result =>
      rw [Tx.commit_of_ok hrun]
      unfold saveSubscription at hrun
      rw [Tx.run_get_bind_eq_ok] at hrun
      split at hrun
      · rw [Tx.run_modify_eq_ok] at hrun
        cases hrun
        exact ⟨_, rfl, fun hids => Table.nodup_update hids fun _ => rfl⟩
      · rw [Tx.run_require_bind_eq_ok, Tx.run_modify_eq_ok] at hrun
        obtain ⟨hfree, hwritten⟩ := hrun
        cases hwritten
        exact ⟨_, rfl, fun hids => Table.nodup_append_row hids hfree⟩

theorem saveSubscription_events (subscription : NotificationSubscription)
    (db : BackgroundDatabase) :
    ((saveSubscription subscription).commit db).2.outboxEvents = db.outboxEvents := by
  obtain ⟨table, hcommit, _⟩ := saveSubscription_commit subscription db
  rw [hcommit]

theorem saveSubscription_deliveries (subscription : NotificationSubscription)
    (db : BackgroundDatabase) :
    ((saveSubscription subscription).commit db).2.notificationDeliveries =
      db.notificationDeliveries := by
  obtain ⟨table, hcommit, _⟩ := saveSubscription_commit subscription db
  rw [hcommit]

theorem nodup_saveSubscription (subscription : NotificationSubscription)
    (db : BackgroundDatabase) (hids : (db.notificationSubscriptions.map (·.id)).Nodup) :
    (((saveSubscription subscription).commit db).2.notificationSubscriptions.map (·.id)).Nodup := by
  obtain ⟨table, hcommit, hnodup⟩ := saveSubscription_commit subscription db
  rw [hcommit]
  exact hnodup hids

/-! ## The turn of an event -/

/-- What identifies a delivery. -/
def NotificationDeliveryRow.key (row : NotificationDeliveryRow) : TenantId × EventId × UUID :=
  (row.tenantId, row.eventId, row.subscriptionId)

/-- The deliveries a reading calls for: one for each subscription the event goes to. -/
def readingKeys (reading : Reading) : List (TenantId × EventId × UUID) :=
  (reading.2.filter fun row =>
    row.tenantId = reading.1.tenantId ∧ row.enabled = true ∧
      reading.1.eventType ∈ row.eventTypes).map
    fun row => (reading.1.tenantId, reading.1.eventId, row.id)

/-- Where nothing is stored for the event yet, each of its subscriptions gets its row. -/
theorem Dispatch.foldlM_insertDelivery {stored inserted result : List NotificationDeliveryRow}
    {event : OutboxRow} {draw : UUID → UUID} {now : Int}
    {subscriptions : List NotificationSubscriptionRow}
    (hids : (subscriptions.map (·.id)).Nodup)
    (hnone : ∀ other ∈ stored ++ inserted, other.eventId = event.eventId →
      other.subscriptionId ∉ subscriptions.map (·.id))
    (hfold : subscriptions.foldlM (fun inserted subscription =>
      Dispatch.insertDelivery stored inserted
        (newDelivery event subscription (draw subscription.id) now)) inserted =
      (.ok result : Except Failure (List NotificationDeliveryRow))) :
    result = inserted ++
      subscriptions.map fun row => newDelivery event row (draw row.id) now := by
  induction subscriptions generalizing inserted with
  | nil =>
      cases hfold
      simp
  | cons first subscriptions ih =>
      rw [List.foldlM_cons, except_bind_eq_ok] at hfold
      obtain ⟨middle, hfirst, hrest⟩ := hfold
      rw [List.map_cons, List.nodup_cons] at hids
      have hfree : ¬ ∃ other ∈ stored ++ inserted,
          other.tenantId = (newDelivery event first (draw first.id) now).tenantId ∧
            other.eventId = (newDelivery event first (draw first.id) now).eventId ∧
              other.subscriptionId = (newDelivery event first (draw first.id) now).subscriptionId := by
        rintro ⟨other, hother, _, hevent, hsubscription⟩
        exact hnone other hother hevent (List.mem_map.mpr ⟨first, List.mem_cons_self, hsubscription.symm⟩)
      unfold Dispatch.insertDelivery at hfirst
      rw [if_neg hfree] at hfirst
      split at hfirst
      · cases hfirst
      · cases hfirst
        rw [ih hids.2 _ hrest, List.map_cons, List.append_assoc, List.singleton_append]
        intro other hother hevent
        rw [← List.append_assoc] at hother
        rcases Table.mem_append_row.mp hother with hother | rfl
        · intro hmem
          exact hnone other hother hevent (List.mem_cons_of_mem _ hmem)
        · exact hids.1

/-- The turn of an event that was not tried too often and has no delivery yet. -/
theorem Dispatch.project_ok {dispatch projected : Dispatch} {db : BackgroundDatabase}
    {draw : UUID → UUID} {event : OutboxRow} (hproject : dispatch.project db draw event = .ok projected)
    (hids : (db.notificationSubscriptions.map (·.id)).Nodup)
    (hnone : ∀ other ∈ db.notificationDeliveries ++ dispatch.inserted,
      other.eventId ≠ event.eventId) :
    (dispatch.Exhausted event ∧
      projected = { dispatch with processed := dispatch.processed ++ [dispatch.deadLettered event] }) ∨
    ¬ dispatch.Exhausted event ∧
      projected =
        { dispatch with
          processed := dispatch.processed ++ [dispatch.published event]
          inserted := dispatch.inserted ++
            (db.listeners event).map fun row => newDelivery event row (draw row.id) dispatch.now
          readings := dispatch.readings ++ [(event, db.notificationSubscriptions)] } := by
  unfold Dispatch.project at hproject
  split at hproject
  · next hexhausted =>
      cases hproject
      exact .inl ⟨hexhausted, rfl⟩
  · next hexhausted =>
      rw [except_bind_eq_ok] at hproject
      obtain ⟨inserted, hfold, hprojected⟩ := hproject
      cases hprojected
      have hlisteners : ((db.listeners event).map (·.id)).Nodup :=
        hids.sublist (List.filter_sublist.map _)
      rw [Dispatch.foldlM_insertDelivery hlisteners
        (fun other hother hevent => absurd hevent (hnone other hother)) hfold]
      exact .inr ⟨hexhausted, rfl⟩

theorem eventId_of_mem_readingKeys {reading : Reading} {key : TenantId × EventId × UUID}
    (hkey : key ∈ readingKeys reading) : key.2.1 = reading.1.eventId := by
  obtain ⟨row, _, rfl⟩ := List.mem_map.mp hkey
  rfl

/-! ## The invariant -/

/-- An open dispatch: what it has locked is stored and pending, what it has gone through is
a dead letter or published, and its inserts are what its readings call for. -/
structure Batch (events : List OutboxRow) (dispatch : Dispatch) : Prop where
  ids : (dispatch.batch.map (·.eventId)).Nodup
  remaining : ∀ event ∈ dispatch.remaining, event ∈ events ∧ event.status = .pending
  processed : ∀ row ∈ dispatch.processed, ∃ event ∈ events, event.status = .pending ∧
    (row = dispatch.deadLettered event ∧
        (∀ reading ∈ dispatch.readings, reading.1.eventId ≠ event.eventId) ∨
      row = dispatch.published event ∧ ∃ table, (event, table) ∈ dispatch.readings)
  read : (dispatch.readings.map (·.1.eventId)).Nodup
  readings : ∀ reading ∈ dispatch.readings, reading.1 ∈ events ∧ reading.1.status = .pending ∧
    dispatch.published reading.1 ∈ dispatch.processed ∧ (reading.2.map (·.id)).Nodup
  keys : dispatch.inserted.map (·.key) = dispatch.readings.flatMap readingKeys

theorem Dispatch.mem_remaining {dispatch : Dispatch} {event : OutboxRow} {rest : List OutboxRow}
    (hremaining : dispatch.remaining = event :: rest) : event ∈ dispatch.remaining := by
  rw [hremaining]
  exact List.mem_cons_self

namespace Batch

variable {events : List OutboxRow} {dispatch : Dispatch}

/-- What happens to other events does not matter. -/
theorem of_kept (h : Batch events dispatch) {events' : List OutboxRow}
    (hkept : ∀ event ∈ events, (∃ row ∈ dispatch.batch, row.eventId = event.eventId) →
      event ∈ events') : Batch events' dispatch where
  ids := h.ids
  remaining event hevent := by
    obtain ⟨hstored, hpending⟩ := h.remaining event hevent
    exact ⟨hkept event hstored ⟨event, List.mem_append_right _ hevent, rfl⟩, hpending⟩
  processed row hrow := by
    obtain ⟨event, hevent, hpending, hresult⟩ := h.processed row hrow
    refine ⟨event, hkept event hevent ⟨row, List.mem_append_left _ hrow, ?_⟩, hpending, hresult⟩
    rcases hresult with ⟨rfl, _⟩ | ⟨rfl, _⟩
    · rfl
    · rfl
  read := h.read
  readings reading hreading := by
    obtain ⟨hstored, hpending, hprocessed, htable⟩ := h.readings reading hreading
    exact ⟨hkept reading.1 hstored ⟨_, List.mem_append_left _ hprocessed, rfl⟩, hpending,
      hprocessed, htable⟩
  keys := h.keys

/-- A batch is locked. -/
theorem start {uuid5 : EventId → UUID} {db : BackgroundDatabase} {skipped : EventId → Bool}
    {now leaseSeconds : Int} {limit maxAttempts : Nat}
    (hids : (db.outboxEvents.map (·.eventId)).Nodup)
    (hstatus : ∀ event ∈ db.outboxEvents, event.status ≠ .processing) :
    Batch db.outboxEvents
      { now, maxAttempts, remaining := db.dueEvents uuid5 skipped now leaseSeconds limit } where
  ids := by
    have hsorted : (((db.outboxEvents.filter fun row =>
        db.Served row.tenantId ∧ row.Due now leaseSeconds ∧ skipped row.eventId = false).insertionSort
          fun first second =>
            first.availableAt < second.availableAt ∨
              first.availableAt = second.availableAt ∧
                uuid5 first.eventId ≤ uuid5 second.eventId).map (·.eventId)).Nodup :=
      ((List.perm_insertionSort _ _).map _).nodup_iff.mpr
        (hids.sublist (List.filter_sublist.map _))
    exact hsorted.sublist ((List.take_sublist _ _).map _)
  remaining event hevent := by
    have hmem := List.mem_of_mem_take hevent
    rw [List.mem_insertionSort, List.mem_filter, decide_eq_true_eq] at hmem
    rcases hmem.2.2.1 with ⟨hpending, _⟩ | ⟨hprocessing, _⟩
    · exact ⟨hmem.1, hpending⟩
    · exact absurd hprocessing (hstatus event hmem.1)
  processed _ hrow := nomatch hrow
  read := List.nodup_nil
  readings _ hreading := nomatch hreading
  keys := rfl

/-- The events still to go through have no inserts yet. -/
theorem eventId_ne_of_inserted (h : Batch events dispatch) {event : OutboxRow}
    (hevent : event ∈ dispatch.remaining) :
    (∀ reading ∈ dispatch.readings, reading.1.eventId ≠ event.eventId) ∧
      ∀ row ∈ dispatch.inserted, row.eventId ≠ event.eventId := by
  have hreadings : ∀ reading ∈ dispatch.readings, reading.1.eventId ≠ event.eventId := by
    intro reading hreading
    have hids := h.ids
    rw [Dispatch.batch, List.map_append, List.nodup_append] at hids
    exact hids.2.2 _ (List.mem_map_of_mem (h.readings reading hreading).2.2.1) _
      (List.mem_map_of_mem hevent)
  refine ⟨hreadings, fun row hrow hid => ?_⟩
  have hkey : row.key ∈ dispatch.readings.flatMap readingKeys := by
    rw [← h.keys]
    exact List.mem_map_of_mem hrow
  obtain ⟨reading, hreading, hmem⟩ := List.mem_flatMap.mp hkey
  exact hreadings reading hreading ((eventId_of_mem_readingKeys hmem).symm.trans hid)

/-- The next event has been tried too often. -/
theorem deadLetter (h : Batch events dispatch) {event : OutboxRow} {rest : List OutboxRow}
    (hremaining : dispatch.remaining = event :: rest) {projected : Dispatch}
    (hprojected : projected =
      { dispatch with
        remaining := rest
        processed := dispatch.processed ++ [dispatch.deadLettered event] }) :
    Batch events projected ∧
      projected.batch.map (·.eventId) = dispatch.batch.map (·.eventId) := by
  subst hprojected
  have hevent := Dispatch.mem_remaining hremaining
  obtain ⟨hstored, hpending⟩ := h.remaining event hevent
  have hsame : (dispatch.processed ++ [dispatch.deadLettered event] ++ rest).map (·.eventId) =
      (dispatch.processed ++ event :: rest).map (·.eventId) := by
    simp [Dispatch.deadLettered, Dispatch.started]
  have hbatch := h.ids
  rw [Dispatch.batch, hremaining] at hbatch
  constructor
  · constructor
    case ids => exact hsame ▸ hbatch
    case remaining =>
      intro other hother
      exact h.remaining other (by rw [hremaining]; exact List.mem_cons_of_mem _ hother)
    case processed =>
      intro row hrow
      rcases Table.mem_append_row.mp hrow with hrow | rfl
      · exact h.processed row hrow
      · exact ⟨event, hstored, hpending, .inl ⟨rfl, (h.eventId_ne_of_inserted hevent).1⟩⟩
    case read => exact h.read
    case readings =>
      intro reading hreading
      obtain ⟨hmem, hpend, hprocessed, htable⟩ := h.readings reading hreading
      exact ⟨hmem, hpend, List.mem_append_left _ hprocessed, htable⟩
    case keys => exact h.keys
  · rw [Dispatch.batch, Dispatch.batch, hremaining]
    exact hsame

/-- The next event is read and published. -/
theorem publish (h : Batch events dispatch) {db : BackgroundDatabase} {draw : UUID → UUID}
    (hids : (db.notificationSubscriptions.map (·.id)).Nodup) {event : OutboxRow}
    {rest : List OutboxRow} (hremaining : dispatch.remaining = event :: rest)
    {projected : Dispatch}
    (hprojected : projected =
      { dispatch with
        remaining := rest
        processed := dispatch.processed ++ [dispatch.published event]
        inserted := dispatch.inserted ++
          (db.listeners event).map fun row => newDelivery event row (draw row.id) dispatch.now
        readings := dispatch.readings ++ [(event, db.notificationSubscriptions)] }) :
    Batch events projected ∧
      projected.batch.map (·.eventId) = dispatch.batch.map (·.eventId) := by
  subst hprojected
  have hevent := Dispatch.mem_remaining hremaining
  obtain ⟨hstored, hpending⟩ := h.remaining event hevent
  have hsame : (dispatch.processed ++ [dispatch.published event] ++ rest).map (·.eventId) =
      (dispatch.processed ++ event :: rest).map (·.eventId) := by
    simp [Dispatch.published, Dispatch.started]
  have hbatch := h.ids
  rw [Dispatch.batch, hremaining] at hbatch
  -- A dead letter of the batch is another event.
  have hother : ∀ row ∈ dispatch.processed, row.eventId ≠ event.eventId := by
    intro row hrow
    rw [List.map_append, List.nodup_append] at hbatch
    exact hbatch.2.2 _ (List.mem_map_of_mem hrow) _ (List.mem_map_of_mem List.mem_cons_self)
  constructor
  · constructor
    case ids => exact hsame ▸ hbatch
    case remaining =>
      intro other hother
      exact h.remaining other (by rw [hremaining]; exact List.mem_cons_of_mem _ hother)
    case processed =>
      intro row hrow
      rcases Table.mem_append_row.mp hrow with hrow | rfl
      · obtain ⟨old, hold, hpend, hresult⟩ := h.processed row hrow
        refine ⟨old, hold, hpend, ?_⟩
        rcases hresult with ⟨hdead, hnever⟩ | ⟨hpublished, table, htable⟩
        · refine .inl ⟨hdead, fun reading hreading => ?_⟩
          rcases Table.mem_append_row.mp hreading with hreading | rfl
          · exact hnever reading hreading
          · intro hid
            apply hother row hrow
            rw [hdead]
            exact hid.symm
        · exact .inr ⟨hpublished, table, List.mem_append_left _ htable⟩
      · exact ⟨event, hstored, hpending, .inr ⟨rfl, _, List.mem_append_right _
          (List.mem_singleton_self _)⟩⟩
    case read => exact Table.nodup_append_row h.read (h.eventId_ne_of_inserted hevent).1
    case readings =>
      intro reading hreading
      rcases Table.mem_append_row.mp hreading with hreading | rfl
      · obtain ⟨hmem, hpend, hprocessed, htable⟩ := h.readings reading hreading
        exact ⟨hmem, hpend, List.mem_append_left _ hprocessed, htable⟩
      · exact ⟨hstored, hpending, List.mem_append_right _ (List.mem_singleton_self _), hids⟩
    case keys =>
      simp only [List.map_append, List.flatMap_append, h.keys, List.flatMap_singleton,
        List.append_cancel_left_eq]
      rw [List.map_map, readingKeys, BackgroundDatabase.listeners]
      rfl
  · rw [Dispatch.batch, Dispatch.batch, hremaining]
    exact hsame

/-- The next event of a batch has its turn. -/
theorem project (h : Batch events dispatch) {db : BackgroundDatabase} {draw : UUID → UUID}
    {projected : Dispatch} (hproject : dispatch.projectNext db draw = .ok projected)
    (hids : (db.notificationSubscriptions.map (·.id)).Nodup)
    (hnone : ∀ event ∈ dispatch.remaining, ∀ row ∈ db.notificationDeliveries,
      row.eventId ≠ event.eventId) :
    Batch events projected ∧
      projected.batch.map (·.eventId) = dispatch.batch.map (·.eventId) := by
  unfold Dispatch.projectNext at hproject
  split at hproject
  · cases hproject
    exact ⟨h, rfl⟩
  · next event rest hremaining =>
      have hevent := Dispatch.mem_remaining hremaining
      have hfree : ∀ other ∈ db.notificationDeliveries ++ dispatch.inserted,
          other.eventId ≠ event.eventId := by
        intro other hother
        rcases List.mem_append.mp hother with hother | hother
        · exact hnone event hevent other hother
        · exact (h.eventId_ne_of_inserted hevent).2 other hother
      rcases Dispatch.project_ok hproject hids hfree with ⟨_, hdead⟩ | ⟨_, hpublished⟩
      · exact h.deadLetter hremaining hdead
      · exact h.publish hids hremaining hpublished

/-- What a commit makes of an event: nothing, if it was not in the batch, else a dead
letter or a published event. -/
theorem rewritten_row (h : Batch events dispatch) (hids : (events.map (·.eventId)).Nodup)
    {row : OutboxRow} (hrow : row ∈ events) :
    ((∀ other ∈ dispatch.processed, other.eventId ≠ row.eventId) ∧
      (dispatch.processed.find? (·.eventId = row.eventId)).getD row = row) ∨
    (∃ other ∈ dispatch.processed, other.eventId = row.eventId) ∧ row.status = .pending ∧
      ((dispatch.processed.find? (·.eventId = row.eventId)).getD row = dispatch.deadLettered row ∧
          (∀ reading ∈ dispatch.readings, reading.1.eventId ≠ row.eventId) ∨
        (dispatch.processed.find? (·.eventId = row.eventId)).getD row = dispatch.published row ∧
          ∃ table, (row, table) ∈ dispatch.readings) := by
  cases hfind : dispatch.processed.find? (·.eventId = row.eventId) with
  | none =>
      have hnone := List.find?_eq_none.mp hfind
      exact .inl ⟨fun other hother hid => hnone other hother (by simpa using hid), rfl⟩
  | some found =>
      have hid : found.eventId = row.eventId := by simpa using List.find?_some hfind
      obtain ⟨event, hevent, hpending, hresult⟩ := h.processed found (List.mem_of_find?_eq_some hfind)
      have hsame : event = row := by
        apply Table.eq_of_key_eq hids hevent hrow
        rcases hresult with ⟨rfl, _⟩ | ⟨rfl, _⟩
        · exact hid
        · exact hid
      rw [hsame] at hpending hresult
      exact .inr ⟨⟨found, List.mem_of_find?_eq_some hfind, hid⟩, hpending, hresult⟩

theorem map_rewritten (dispatch : Dispatch) (events : List OutboxRow) :
    (dispatch.rewritten events).map (·.eventId) = events.map (·.eventId) := by
  rw [Dispatch.rewritten, List.map_map]
  apply List.map_congr_left
  intro row _
  show ((dispatch.processed.find? (·.eventId = row.eventId)).getD row).eventId = row.eventId
  cases hfind : dispatch.processed.find? (·.eventId = row.eventId) with
  | none => rfl
  | some found => simpa using List.find?_some hfind

end Batch

/-- The stored row of an event that was read, as far as its deliveries depend on it. -/
def SameEvent (first second : OutboxRow) : Prop :=
  first.eventId = second.eventId ∧ first.tenantId = second.tenantId ∧
    first.eventType = second.eventType

/-- The published events are those of the record, and the deliveries are what its readings
call for. -/
structure Consistent (s : OutboxState) (record : List Reading) : Prop where
  events : (s.db.outboxEvents.map (·.eventId)).Nodup
  subscriptions : (s.db.notificationSubscriptions.map (·.id)).Nodup
  statuses : ∀ event ∈ s.db.outboxEvents, event.status ≠ .processing ∧
    (event.status = .pending → event.attempts = 0)
  batches : ∀ transaction dispatch, s.transactions transaction = some dispatch →
    Batch s.db.outboxEvents dispatch
  apart : ∀ first second dispatch other, s.transactions first = some dispatch →
    s.transactions second = some other → first ≠ second →
      ∀ row ∈ dispatch.batch, ∀ row' ∈ other.batch, row.eventId ≠ row'.eventId
  read : (record.map (·.1.eventId)).Nodup
  tables : ∀ reading ∈ record, (reading.2.map (·.id)).Nodup
  recorded : ∀ event ∈ s.db.outboxEvents, event.status = .published →
    ∃ reading ∈ record, SameEvent reading.1 event
  published : ∀ reading ∈ record, ∃ event ∈ s.db.outboxEvents,
    event.status = .published ∧ SameEvent reading.1 event
  keys : s.db.notificationDeliveries.map (·.key) = record.flatMap readingKeys

namespace Consistent

variable {uuid5 : EventId → UUID} {s : OutboxState} {record : List Reading}

/-- A delivery is one of a published event. -/
theorem exists_published (h : Consistent s record) {row : NotificationDeliveryRow}
    (hrow : row ∈ s.db.notificationDeliveries) :
    ∃ event ∈ s.db.outboxEvents, event.status = .published ∧ event.eventId = row.eventId ∧
      event.tenantId = row.tenantId := by
  have hkey : row.key ∈ record.flatMap readingKeys := by
    rw [← h.keys]
    exact List.mem_map_of_mem hrow
  obtain ⟨reading, hreading, hmem⟩ := List.mem_flatMap.mp hkey
  obtain ⟨event, hevent, hpublished, hid, htenant, _⟩ := h.published reading hreading
  obtain ⟨subscription, _, hsame⟩ := List.mem_map.mp hmem
  rw [NotificationDeliveryRow.key, Prod.mk.injEq, Prod.mk.injEq] at hsame
  exact ⟨event, hevent, hpublished, hid.symm.trans hsame.2.1, htenant.symm.trans hsame.1⟩

/-- A pending event has no delivery. -/
theorem eventId_ne_of_pending (h : Consistent s record) {event : OutboxRow}
    (hevent : event ∈ s.db.outboxEvents) (hpending : event.status = .pending)
    {row : NotificationDeliveryRow} (hrow : row ∈ s.db.notificationDeliveries) :
    row.eventId ≠ event.eventId := by
  intro hid
  obtain ⟨other, hother, hpublished, hotherId, _⟩ := h.exists_published hrow
  have hsame : other = event := Table.eq_of_key_eq h.events hother hevent (hotherId.trans hid)
  rw [hsame, hpending] at hpublished
  cases hpublished

/-- Steps that touch no row but those of the subscriptions and the configuration. -/
theorem of_rows (h : Consistent s record) {s' : OutboxState}
    (hevents : s'.db.outboxEvents = s.db.outboxEvents)
    (hdeliveries : s'.db.notificationDeliveries = s.db.notificationDeliveries)
    (hsubscriptions : (s'.db.notificationSubscriptions.map (·.id)).Nodup)
    (hbatches : ∀ transaction dispatch, s'.transactions transaction = some dispatch →
      Batch s.db.outboxEvents dispatch)
    (hapart : ∀ first second dispatch other, s'.transactions first = some dispatch →
      s'.transactions second = some other → first ≠ second →
        ∀ row ∈ dispatch.batch, ∀ row' ∈ other.batch, row.eventId ≠ row'.eventId) :
    Consistent s' record where
  events := hevents ▸ h.events
  subscriptions := hsubscriptions
  statuses := hevents ▸ h.statuses
  batches := hevents ▸ hbatches
  apart := hapart
  read := h.read
  tables := h.tables
  recorded := hevents ▸ h.recorded
  published := hevents ▸ h.published
  keys := hdeliveries ▸ h.keys

/-- One transaction is replaced by one that has locked nothing the others have. -/
theorem of_transaction (h : Consistent s record) {s' : OutboxState} {transaction : ℕ}
    {next : Option Dispatch} (hdb : s'.db = s.db)
    (htransactions : s'.transactions = Function.update s.transactions transaction next)
    (hbatch : ∀ dispatch ∈ next, Batch s.db.outboxEvents dispatch)
    (hapart : ∀ dispatch ∈ next, ∀ other held, other ≠ transaction →
      s.transactions other = some held →
        ∀ row ∈ dispatch.batch, ∀ row' ∈ held.batch, row.eventId ≠ row'.eventId) :
    Consistent s' record := by
  apply h.of_rows (by rw [hdb]) (by rw [hdb]) (by rw [hdb]; exact h.subscriptions)
  · intro other dispatch hdispatch
    rw [htransactions, Function.update_apply] at hdispatch
    split at hdispatch
    · exact hbatch dispatch hdispatch
    · exact h.batches other dispatch hdispatch
  · intro first second dispatch other hfirst hsecond hne row hrow row' hrow'
    rw [htransactions, Function.update_apply] at hfirst hsecond
    split at hfirst
    · next hequal =>
        rw [if_neg (fun hsame => hne (hequal.trans hsame.symm))] at hsecond
        exact hapart dispatch hfirst second other (fun hsame => hne (hequal.trans hsame.symm))
          hsecond row hrow row' hrow'
    · next hother =>
        split at hsecond
        · exact (hapart other hsecond first dispatch hother hfirst row' hrow' row hrow).symm
        · exact h.apart first second dispatch other hfirst hsecond hne row hrow row' hrow'

theorem produce (h : Consistent s record) {event : OutboxEventRow}
    (hallows : s.Allows (.produce event)) :
    Consistent (s.next uuid5 (.produce event)) record where
  events := Table.nodup_append_row h.events hallows.2.2
  subscriptions := h.subscriptions
  statuses := Table.forall_append_row h.statuses
    ⟨by simp [hallows.1], fun _ => hallows.2.1⟩
  batches transaction dispatch hdispatch :=
    (h.batches transaction dispatch hdispatch).of_kept fun _ hold _ => List.mem_append_left _ hold
  apart := h.apart
  read := h.read
  tables := h.tables
  recorded new hnew hpublished := by
    rcases Table.mem_append_row.mp hnew with hnew | rfl
    · exact h.recorded new hnew hpublished
    · have hstatus : event.status = .published := hpublished
      rw [hallows.1] at hstatus
      cases hstatus
  published reading hreading := by
    obtain ⟨old, hold, hpublished, hsame⟩ := h.published reading hreading
    exact ⟨old, List.mem_append_left _ hold, hpublished, hsame⟩
  keys := h.keys

theorem subscribe (h : Consistent s record) (subscription : NotificationSubscription) :
    Consistent (s.next uuid5 (.subscribe subscription)) record :=
  h.of_rows (saveSubscription_events subscription s.db) (saveSubscription_deliveries subscription s.db)
    (nodup_saveSubscription subscription s.db h.subscriptions) h.batches h.apart

theorem start (h : Consistent s record) {transaction : ℕ} {now leaseSeconds : Int}
    {limit maxAttempts : Nat} {skipped : EventId → Bool}
    (hallows : s.Allows (.start transaction now leaseSeconds limit maxAttempts skipped)) :
    Consistent (s.next uuid5 (.start transaction now leaseSeconds limit maxAttempts skipped))
      record := by
  refine h.of_transaction rfl rfl ?_ ?_
  · intro dispatch hdispatch
    cases hdispatch
    exact Batch.start h.events fun event hevent => (h.statuses event hevent).1
  · intro dispatch hdispatch other held _ hheld row hrow row' hrow' hid
    cases hdispatch
    have hmem := List.mem_of_mem_take hrow
    rw [List.mem_insertionSort, List.mem_filter, decide_eq_true_eq] at hmem
    have hskipped := hallows.2 other held hheld row' hrow'
    rw [← hid, hmem.2.2.2] at hskipped
    cases hskipped

theorem project (h : Consistent s record) {transaction : ℕ} {draw : UUID → UUID}
    (hallows : s.Allows (.project transaction draw)) :
    Consistent (s.next uuid5 (.project transaction draw)) record := by
  obtain ⟨projected, hprojects⟩ := Option.isSome_iff_exists.mp hallows
  obtain ⟨dispatch, hdispatch, _, hproject⟩ := OutboxState.projected?_eq_some.mp hprojects
  have hbatch := h.batches transaction dispatch hdispatch
  have hnone : ∀ event ∈ dispatch.remaining, ∀ row ∈ s.db.notificationDeliveries,
      row.eventId ≠ event.eventId := by
    intro event hevent row hrow
    obtain ⟨hstored, hpending⟩ := hbatch.remaining event hevent
    exact h.eventId_ne_of_pending hstored hpending hrow
  obtain ⟨hprojected, hids⟩ := hbatch.project hproject h.subscriptions hnone
  have hnext : s.next uuid5 (.project transaction draw) =
      { s with transactions := Function.update s.transactions transaction (some projected) } := by
    simp only [OutboxState.next, hprojects]
  rw [hnext]
  refine h.of_transaction rfl rfl ?_ ?_
  · intro other hother
    cases hother
    exact hprojected
  · intro current hcurrent other held hother hheld row hrow row' hrow'
    cases hcurrent
    have hmem : row.eventId ∈ dispatch.batch.map (·.eventId) := by
      rw [← hids]
      exact List.mem_map_of_mem hrow
    obtain ⟨before, hbefore, hid⟩ := List.mem_map.mp hmem
    rw [← hid]
    exact h.apart transaction other dispatch held hdispatch hheld hother.symm before hbefore row' hrow'

/-! ### A commit -/

/-- The commit of another batch leaves a batch as it is: the two have no event in common. -/
theorem batch_rewritten (h : Consistent s record) {transaction other : ℕ}
    {dispatch held : Dispatch} (hdispatch : s.transactions transaction = some dispatch)
    (hother : other ≠ transaction) (hheld : s.transactions other = some held) :
    Batch (dispatch.rewritten s.db.outboxEvents) held := by
  apply (h.batches other held hheld).of_kept
  rintro event hevent ⟨row, hmem, hid⟩
  rcases (h.batches transaction dispatch hdispatch).rewritten_row h.events hevent with
    ⟨_, hsame⟩ | ⟨⟨mine, hmine, hmineId⟩, _⟩
  · rw [← hsame]
    exact List.mem_map_of_mem hevent
  · exact absurd (hmineId.trans hid.symm)
      (h.apart transaction other dispatch held hdispatch hheld hother.symm mine
        (List.mem_append_left _ hmine) row hmem)

/-- An event that is read when it is published was not published before. -/
theorem unread (h : Consistent s record) {dispatch : Dispatch}
    (hbatch : Batch s.db.outboxEvents dispatch) {first second : Reading} (hfirst : first ∈ record)
    (hsecond : second ∈ dispatch.readings) : first.1.eventId ≠ second.1.eventId := by
  intro hid
  obtain ⟨event, hevent, hpublished, hfirstId, _⟩ := h.published first hfirst
  obtain ⟨hstored, hpending, _, _⟩ := hbatch.readings second hsecond
  have hsame : event = second.1 :=
    Table.eq_of_key_eq h.events hevent hstored (hfirstId.symm.trans hid)
  rw [hsame, hpending] at hpublished
  cases hpublished

theorem statuses_rewritten (h : Consistent s record) {dispatch : Dispatch}
    (hbatch : Batch s.db.outboxEvents dispatch) :
    ∀ event ∈ dispatch.rewritten s.db.outboxEvents, event.status ≠ .processing ∧
      (event.status = .pending → event.attempts = 0) := by
  intro event hevent
  obtain ⟨old, hold, rfl⟩ := List.mem_map.mp hevent
  rcases hbatch.rewritten_row h.events hold with ⟨_, hsame⟩ | ⟨_, _, ⟨hdead, _⟩ | ⟨hpublished, _⟩⟩
  · rw [hsame]
    exact h.statuses old hold
  · rw [hdead]
    exact ⟨nofun, nofun⟩
  · rw [hpublished]
    exact ⟨nofun, nofun⟩

/-- A published event was published before, or is now that the batch has read it. -/
theorem recorded_rewritten (h : Consistent s record) {dispatch : Dispatch}
    (hbatch : Batch s.db.outboxEvents dispatch) :
    ∀ event ∈ dispatch.rewritten s.db.outboxEvents, event.status = .published →
      ∃ reading ∈ record ++ dispatch.readings, SameEvent reading.1 event := by
  intro event hevent hstatus
  obtain ⟨old, hold, rfl⟩ := List.mem_map.mp hevent
  rcases hbatch.rewritten_row h.events hold with
    ⟨_, hsame⟩ | ⟨_, _, ⟨hdead, _⟩ | ⟨hpublished, table, htable⟩⟩
  · rw [hsame] at hstatus ⊢
    obtain ⟨reading, hreading, hevents⟩ := h.recorded old hold hstatus
    exact ⟨reading, List.mem_append_left _ hreading, hevents⟩
  · rw [hdead] at hstatus
    cases hstatus
  · rw [hpublished]
    exact ⟨(old, table), List.mem_append_right _ htable, rfl, rfl, rfl⟩

/-- What was read is published. -/
theorem published_rewritten (h : Consistent s record) {dispatch : Dispatch}
    (hbatch : Batch s.db.outboxEvents dispatch) :
    ∀ reading ∈ record ++ dispatch.readings, ∃ event ∈ dispatch.rewritten s.db.outboxEvents,
      event.status = .published ∧ SameEvent reading.1 event := by
  intro reading hreading
  rcases List.mem_append.mp hreading with hreading | hreading
  · obtain ⟨event, hevent, hpublished, hsame⟩ := h.published reading hreading
    refine ⟨_, List.mem_map_of_mem hevent, ?_⟩
    rcases hbatch.rewritten_row h.events hevent with ⟨_, hkeptRow⟩ | ⟨_, hpending, _⟩
    · rw [hkeptRow]
      exact ⟨hpublished, hsame⟩
    · rw [hpending] at hpublished
      cases hpublished
  · obtain ⟨hstored, _, hprocessed, _⟩ := hbatch.readings reading hreading
    refine ⟨_, List.mem_map_of_mem hstored, ?_⟩
    rcases hbatch.rewritten_row h.events hstored with
      ⟨hnone, _⟩ | ⟨_, _, ⟨_, hnever⟩ | ⟨hpublished, _⟩⟩
    · exact absurd rfl (hnone (dispatch.published reading.1) hprocessed)
    · exact absurd rfl (hnever reading hreading)
    · rw [hpublished]
      exact ⟨rfl, rfl, rfl, rfl⟩

theorem commit (h : Consistent s record) {transaction : ℕ}
    (hallows : s.Allows (.commit transaction)) :
    Consistent (s.next uuid5 (.commit transaction))
      (record ++ s.readings (.commit transaction)) := by
  obtain ⟨dispatch, hmem, _, _⟩ := hallows
  have hdispatch : s.transactions transaction = some dispatch := hmem
  have hbatch := h.batches transaction dispatch hdispatch
  have hnext : s.next uuid5 (.commit transaction) =
      { db := dispatch.commit s.db
        transactions := Function.update s.transactions transaction none } := by
    simp only [OutboxState.next, hdispatch]
  have hreadings : s.readings (.commit transaction) = dispatch.readings := by
    rw [OutboxState.readings, hdispatch]
    rfl
  rw [hnext, hreadings]
  constructor
  case events =>
    show ((dispatch.rewritten s.db.outboxEvents).map (·.eventId)).Nodup
    rw [Batch.map_rewritten]
    exact h.events
  case subscriptions => exact h.subscriptions
  case statuses => exact h.statuses_rewritten hbatch
  case batches =>
    intro other held hheld
    simp only [Function.update_apply] at hheld
    split at hheld
    · cases hheld
    · next hother => exact h.batch_rewritten hdispatch hother hheld
  case apart =>
    intro first second held other hfirst hsecond hne
    simp only [Function.update_apply] at hfirst hsecond
    split at hfirst
    · cases hfirst
    · split at hsecond
      · cases hsecond
      · exact h.apart first second held other hfirst hsecond hne
  case read =>
    rw [List.map_append, List.nodup_append]
    refine ⟨h.read, hbatch.read, ?_⟩
    intro first hfirst second hsecond
    obtain ⟨before, hbefore, rfl⟩ := List.mem_map.mp hfirst
    obtain ⟨reading, hreading, rfl⟩ := List.mem_map.mp hsecond
    exact h.unread hbatch hbefore hreading
  case tables =>
    intro reading hreading
    rcases List.mem_append.mp hreading with hreading | hreading
    · exact h.tables reading hreading
    · exact (hbatch.readings reading hreading).2.2.2
  case recorded => exact h.recorded_rewritten hbatch
  case published => exact h.published_rewritten hbatch
  case keys =>
    show (s.db.notificationDeliveries ++ dispatch.inserted).map (·.key) = _
    rw [List.map_append, List.flatMap_append, h.keys, hbatch.keys]

theorem next (h : Consistent s record) {step : OutboxStep} (hallows : s.Allows step) :
    Consistent (s.next uuid5 step) (record ++ s.readings step) := by
  cases step with
  | produce event => rw [OutboxState.readings, List.append_nil]; exact h.produce hallows
  | subscribe subscription =>
      rw [OutboxState.readings, List.append_nil]
      exact h.subscribe subscription
  | configure tenants entitlements =>
      rw [OutboxState.readings, List.append_nil]
      exact h.of_rows rfl rfl h.subscriptions h.batches h.apart
  | start transaction now leaseSeconds limit maxAttempts skipped =>
      rw [OutboxState.readings, List.append_nil]
      exact h.start hallows
  | project transaction draw =>
      rw [OutboxState.readings, List.append_nil]
      exact h.project hallows
  | commit transaction => exact h.commit hallows
  | abort transaction =>
      rw [OutboxState.readings, List.append_nil]
      exact h.of_transaction rfl rfl (fun _ hnone => nomatch hnone) fun _ hnone => nomatch hnone

end Consistent

/-- Whatever the dispatches do, the deliveries are consistent with the record. -/
theorem consistent_of_reachable {uuid5 : EventId → UUID} {s : OutboxState} {record : List Reading}
    (hs : (recordedOutbox uuid5).Reachable (s, record)) : Consistent s record := by
  refine hs.invariant (I := fun s => Consistent s.1 s.2) ?_ ?_
  · rintro ⟨s, record⟩ ⟨⟨hevents, hsubscriptions, hdeliveries, hidle⟩, hrecord⟩
    cases hrecord
    constructor
    case events => rw [hevents]; exact List.nodup_nil
    case subscriptions => rw [hsubscriptions]; exact List.nodup_nil
    case statuses => intro event hevent; rw [hevents] at hevent; cases hevent
    case batches => intro transaction dispatch hopen; rw [hidle transaction] at hopen; cases hopen
    case apart => intro first _ dispatch _ hopen; rw [hidle first] at hopen; cases hopen
    case read => exact List.nodup_nil
    case tables => exact fun _ hreading => nomatch hreading
    case recorded => intro event hevent; rw [hevents] at hevent; cases hevent
    case published => exact fun _ hreading => nomatch hreading
    case keys => rw [hdeliveries]; rfl
  · rintro ⟨s, record⟩ step ⟨s', record'⟩ _ hconsistent ⟨⟨hallows, rfl⟩, rfl⟩
    exact hconsistent.next hallows

end BusinessAssistant.Persistence
