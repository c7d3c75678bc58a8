/-
# What a failing event does to the outbox

The attempts of an event, its lease and its dead letter are written in the transaction
that projects it, and one transaction projects the whole batch. A dispatch none of whose
events raises publishes them all; where one raises, nothing of the dispatch remains, the
attempts included.
-/

import BusinessAssistant.Persistence.OutboxProjection

namespace BusinessAssistant.Persistence

open BusinessAssistant.Domain BusinessAssistant.Application BusinessAssistant.Foundation

/-! ## One dispatch after the other -/

/-- What a dispatch is given: its clock, its lease, its limit and the ids it draws. -/
structure DispatchInput where
  now : Int
  leaseSeconds : Int
  limit : Nat
  draw : EventId → UUID → UUID

/-- The event is one the dispatching query looks for. -/
def BackgroundDatabase.Ready (db : BackgroundDatabase) (input : DispatchInput)
    (event : OutboxRow) : Prop :=
  event ∈ db.outboxEvents ∧ db.Served event.tenantId ∧ event.Due input.now input.leaseSeconds

/-- What one dispatch leaves. -/
def dispatchedBy (uuid5 : EventId → UUID) (raises : EventId → Option Failure) (maxAttempts : Nat)
    (db : BackgroundDatabase) (input : DispatchInput) : BackgroundDatabase :=
  ((dispatchOutbox uuid5 raises input.draw input.now input.leaseSeconds input.limit
    maxAttempts).commit db).2

section Failures

variable (uuid5 : EventId → UUID) (raises : EventId → Option Failure) (maxAttempts : Nat)
  (inputs : ℕ → DispatchInput) (db : BackgroundDatabase)

/-- The rows after so many dispatches. -/
def dispatches : ℕ → BackgroundDatabase
  | 0 => db
  | count + 1 => dispatchedBy uuid5 raises maxAttempts (dispatches count) (inputs count)

/-- The limit of a dispatch covers all the events its query looks for, and the ids it draws
are new and distinct. -/
structure Ample (input : DispatchInput) (db : BackgroundDatabase) : Prop where
  limit : (db.outboxEvents.filter fun row =>
    db.Served row.tenantId ∧ row.Due input.now input.leaseSeconds).length ≤ input.limit
  new : ∀ event, db.Ready input event → ∀ subscription ∈ db.listeners event,
    ∀ row ∈ db.notificationDeliveries, row.id ≠ input.draw event.eventId subscription.id
  distinct : ∀ first second, db.Ready input first → db.Ready input second →
    ∀ one ∈ db.listeners first, ∀ other ∈ db.listeners second,
      input.draw first.eventId one.id = input.draw second.eventId other.id →
        first.eventId = second.eventId ∧ one.id = other.id

/-- A failing event does not keep the others back: the first dispatch publishes every due
event that does not raise, and they stay published; a dispatch that tries a failing event
leaves it with one attempt more; and after more than the allowed number of dispatches the
failing events are dead letters. -/
structure FailuresContained : Prop where
  publishes : ∀ event, db.Ready (inputs 0) event → raises event.eventId = none →
    ∀ count, 1 ≤ count → ∃ row ∈ (dispatches uuid5 raises maxAttempts inputs db count).outboxEvents,
      row.eventId = event.eventId ∧ row.status = .published
  counts : ∀ count event,
    (dispatches uuid5 raises maxAttempts inputs db count).Ready (inputs count) event →
      raises event.eventId ≠ none →
        ∃ row ∈ (dispatches uuid5 raises maxAttempts inputs db (count + 1)).outboxEvents,
          row.eventId = event.eventId ∧ row.attempts = event.attempts + 1
  buries : ∀ event, db.Ready (inputs 0) event → raises event.eventId ≠ none →
    ∀ count, maxAttempts < count →
      ∃ row ∈ (dispatches uuid5 raises maxAttempts inputs db count).outboxEvents,
        row.eventId = event.eventId ∧ row.status = .deadLetter

end Failures

/-! ## The turns of a batch -/

section Turns

variable {raises : EventId → Option Failure} {db : BackgroundDatabase}
  {draw : EventId → UUID → UUID} {dispatch result : Dispatch}

theorem Dispatch.not_exhausted {event : OutboxRow} (hfew : event.attempts < dispatch.maxAttempts) :
    ¬ dispatch.Exhausted event :=
  Nat.not_lt.mpr hfew

/-- The turn of an event that has attempts left publishes it, or raises. -/
theorem Dispatch.project_live {event : OutboxRow} {drawn : UUID → UUID}
    (hproject : dispatch.project db drawn event = .ok result)
    (hfew : event.attempts < dispatch.maxAttempts) :
    result.processed = dispatch.processed ++ [dispatch.published event] ∧
      result.now = dispatch.now ∧ result.maxAttempts = dispatch.maxAttempts := by
  rw [Dispatch.project, if_neg (Dispatch.not_exhausted hfew), except_bind_eq_ok] at hproject
  obtain ⟨inserted, _, hresult⟩ := hproject
  cases hresult
  exact ⟨rfl, rfl, rfl⟩

/-- The first turn of a loop that does not raise. -/
theorem projectAll_cons {event : OutboxRow} {rest : List OutboxRow}
    (hall : Dispatch.projectAll raises db draw (event :: rest) dispatch = .ok result)
    (hfew : event.attempts < dispatch.maxAttempts) :
    raises event.eventId = none ∧ ∃ projected,
      { dispatch with remaining := rest }.project db (draw event.eventId) event = .ok projected ∧
        Dispatch.projectAll raises db draw rest projected = .ok result := by
  rw [Dispatch.projectAll] at hall
  cases hraises : raises event.eventId with
  | some failure =>
      rw [hraises] at hall
      simp only [if_neg (Dispatch.not_exhausted hfew)] at hall
      cases hall
  | none =>
      rw [hraises] at hall
      obtain ⟨projected, hturn, hrest⟩ := except_bind_eq_ok.mp hall
      exact ⟨rfl, projected, hturn, hrest⟩

/-- A loop over events with attempts left that does not raise has published them all. -/
theorem projectAll_ok {events : List OutboxRow}
    (hall : Dispatch.projectAll raises db draw events dispatch = .ok result)
    (hfew : ∀ event ∈ events, event.attempts < dispatch.maxAttempts) :
    (∀ event ∈ events, raises event.eventId = none) ∧
      result.processed = dispatch.processed ++ events.map dispatch.published := by
  induction events generalizing dispatch with
  | nil =>
      cases hall
      exact ⟨fun _ hevent => (nomatch hevent), (List.append_nil _).symm⟩
  | cons event rest ih =>
      obtain ⟨hraises, projected, hturn, hrest⟩ := projectAll_cons hall (hfew event List.mem_cons_self)
      obtain ⟨hprocessed, hnow, hmax⟩ :=
        Dispatch.project_live hturn (hfew event List.mem_cons_self)
      obtain ⟨hnone, hresult⟩ := ih hrest fun other hother =>
        hmax ▸ hfew other (List.mem_cons_of_mem _ hother)
      have hpublished : projected.published = dispatch.published := by
        funext row
        simp only [Dispatch.published, Dispatch.started, hnow]
      constructor
      · intro other hother
        rcases List.mem_cons.mp hother with rfl | hother
        · exact hraises
        · exact hnone other hother
      · rw [hresult, hprocessed, hpublished, List.append_assoc]
        rfl

/-! A turn raises for no reason of the store's if the ids it draws are new. -/

/-- The row is one a dispatch draws for one of these events. -/
def Drawn (db : BackgroundDatabase) (draw : EventId → UUID → UUID) (events : List OutboxRow)
    (row : NotificationDeliveryRow) : Prop :=
  ∃ event ∈ events, ∃ subscription ∈ db.listeners event, row.tenantId = event.tenantId ∧
    row.eventId = event.eventId ∧ row.subscriptionId = subscription.id ∧
      row.id = draw event.eventId subscription.id

/-- The ids drawn for the events are new and distinct. -/
structure Fresh (db : BackgroundDatabase) (draw : EventId → UUID → UUID)
    (events : List OutboxRow) : Prop where
  ids : (events.map (·.eventId)).Nodup
  new : ∀ event ∈ events, ∀ subscription ∈ db.listeners event,
    ∀ row ∈ db.notificationDeliveries, row.id ≠ draw event.eventId subscription.id
  distinct : ∀ first ∈ events, ∀ second ∈ events, ∀ one ∈ db.listeners first,
    ∀ other ∈ db.listeners second, draw first.eventId one.id = draw second.eventId other.id →
      first.eventId = second.eventId ∧ one.id = other.id

/-- An insert of a new row succeeds. -/
theorem insertDelivery_ok {events : List OutboxRow} {inserted : List NotificationDeliveryRow}
    {row : NotificationDeliveryRow} (hfresh : Fresh db draw events)
    (hinserted : ∀ other ∈ inserted, Drawn db draw events other) (hrow : Drawn db draw events row) :
    ∃ after, Dispatch.insertDelivery db.notificationDeliveries inserted row = .ok after ∧
      ∀ other ∈ after, Drawn db draw events other := by
  rw [Dispatch.insertDelivery]
  by_cases hthere : ∃ other ∈ db.notificationDeliveries ++ inserted,
      other.tenantId = row.tenantId ∧ other.eventId = row.eventId ∧
        other.subscriptionId = row.subscriptionId
  · rw [if_pos hthere]
    exact ⟨inserted, rfl, hinserted⟩
  · have hfree : ¬ ∃ other ∈ db.notificationDeliveries ++ inserted, other.id = row.id := by
      rintro ⟨other, hother, hid⟩
      obtain ⟨event, hevent, subscription, hlistens, htenant, heventId, hsubscription, hdrawn⟩ := hrow
      rcases List.mem_append.mp hother with hstored | hmine
      · exact hfresh.new event hevent subscription hlistens other hstored (hid.trans hdrawn)
      · obtain ⟨first, hfirst, one, hone, htenant', heventId', hsubscription', hdrawn'⟩ :=
          hinserted other hmine
        obtain ⟨hsame, hequal⟩ := hfresh.distinct first hfirst event hevent one hone subscription
          hlistens (hdrawn'.symm.trans (hid.trans hdrawn))
        have hevents : first = event := Table.eq_of_key_eq hfresh.ids hfirst hevent hsame
        apply hthere
        refine ⟨other, hother, ?_, ?_, ?_⟩
        · rw [htenant', hevents, htenant]
        · rw [heventId', hsame, heventId]
        · rw [hsubscription', hequal, hsubscription]
    rw [if_neg hthere, if_neg hfree]
    refine ⟨_, rfl, fun other hother => ?_⟩
    rcases Table.mem_append_row.mp hother with hother | rfl
    · exact hinserted other hother
    · exact hrow

/-- The inserts of one event succeed. -/
theorem foldlM_insertDelivery_ok {events : List OutboxRow} {event : OutboxRow} {now : Int}
    (hfresh : Fresh db draw events) (hevent : event ∈ events)
    {subscriptions : List NotificationSubscriptionRow}
    (hlisten : ∀ subscription ∈ subscriptions, subscription ∈ db.listeners event)
    {inserted : List NotificationDeliveryRow}
    (hinserted : ∀ other ∈ inserted, Drawn db draw events other) :
    ∃ after,
      subscriptions.foldlM
        (fun inserted subscription =>
          Dispatch.insertDelivery db.notificationDeliveries inserted
            (newDelivery event subscription (draw event.eventId subscription.id) now))
        inserted = (.ok after : Except Failure (List NotificationDeliveryRow)) ∧
      ∀ other ∈ after, Drawn db draw events other := by
  induction subscriptions generalizing inserted with
  | nil => exact ⟨inserted, rfl, hinserted⟩
  | cons subscription subscriptions ih =>
      have hdrawn : Drawn db draw events
          (newDelivery event subscription (draw event.eventId subscription.id) now) :=
        ⟨event, hevent, subscription, hlisten _ List.mem_cons_self, rfl, rfl, rfl, rfl⟩
      obtain ⟨middle, hfirst, hmiddle⟩ := insertDelivery_ok hfresh hinserted hdrawn
      obtain ⟨after, hrest, hafter⟩ :=
        ih (fun other hother => hlisten other (List.mem_cons_of_mem _ hother)) hmiddle
      refine ⟨after, ?_, hafter⟩
      rw [List.foldlM_cons, hfirst]
      exact hrest

/-- A loop over events that do not raise, with new ids drawn, does not raise. -/
theorem exists_projectAll {batch events : List OutboxRow} (hfresh : Fresh db draw batch)
    (hbatch : ∀ event ∈ events, event ∈ batch)
    (hraises : ∀ event ∈ events, raises event.eventId = none)
    (hinserted : ∀ other ∈ dispatch.inserted, Drawn db draw batch other) :
    ∃ result, Dispatch.projectAll raises db draw events dispatch = .ok result := by
  induction events generalizing dispatch with
  | nil => exact ⟨dispatch, rfl⟩
  | cons event rest ih =>
      have hevent := hbatch event List.mem_cons_self
      have hturn : ∃ projected,
          { dispatch with remaining := rest }.project db (draw event.eventId) event =
            .ok projected ∧ ∀ other ∈ projected.inserted, Drawn db draw batch other := by
        rw [Dispatch.project]
        split
        · exact ⟨_, rfl, hinserted⟩
        · obtain ⟨after, hfold, hafter⟩ :=
            @foldlM_insertDelivery_ok _ _ _ event dispatch.now hfresh hevent
              (db.listeners event) (fun _ hlistens => hlistens) dispatch.inserted hinserted
          rw [hfold]
          exact ⟨_, rfl, hafter⟩
      obtain ⟨projected, hproject, hprojected⟩ := hturn
      obtain ⟨result, hrest⟩ :=
        ih (fun other hother => hbatch other (List.mem_cons_of_mem _ hother))
          (fun other hother => hraises other (List.mem_cons_of_mem _ hother)) hprojected
      refine ⟨result, ?_⟩
      rw [Dispatch.projectAll, hraises event List.mem_cons_self]
      simp only [hproject]
      exact hrest

end Turns

/-! ## A dispatch -/

/-- The events are stored under their ids, and none of them has been tried. -/
structure Untried (db : BackgroundDatabase) : Prop where
  ids : (db.outboxEvents.map (·.eventId)).Nodup
  statuses : ∀ event ∈ db.outboxEvents, event.status ≠ .processing ∧
    (event.status = .pending → event.attempts = 0)

/-- A dispatch whose limit covers the events its query looks for locks them all. -/
theorem mem_dueEvents {uuid5 : EventId → UUID} {db : BackgroundDatabase} {input : DispatchInput}
    (hlimit : (db.outboxEvents.filter fun row =>
      db.Served row.tenantId ∧ row.Due input.now input.leaseSeconds).length ≤ input.limit)
    {event : OutboxRow} :
    event ∈ db.dueEvents uuid5 (fun _ => false) input.now input.leaseSeconds input.limit ↔
      db.Ready input event := by
  rw [BackgroundDatabase.dueEvents, List.take_of_length_le]
  · simp [BackgroundDatabase.Ready]
  · simpa using hlimit

/-- The events a dispatch locks are ones its query looks for. -/
theorem ready_of_mem_dueEvents {uuid5 : EventId → UUID} {db : BackgroundDatabase}
    {input : DispatchInput} {event : OutboxRow}
    (hevent : event ∈ db.dueEvents uuid5 (fun _ => false) input.now input.leaseSeconds input.limit) :
    db.Ready input event := by
  have hmem := List.mem_of_mem_take hevent
  simpa [BackgroundDatabase.Ready] using hmem

theorem nodup_dueEvents {uuid5 : EventId → UUID} {db : BackgroundDatabase} {input : DispatchInput}
    (hids : (db.outboxEvents.map (·.eventId)).Nodup) :
    ((db.dueEvents uuid5 (fun _ => false) input.now input.leaseSeconds input.limit).map
      (·.eventId)).Nodup := by
  have hsorted := ((List.perm_insertionSort (fun first second : OutboxRow =>
      first.availableAt < second.availableAt ∨
        first.availableAt = second.availableAt ∧ uuid5 first.eventId ≤ uuid5 second.eventId)
    (db.outboxEvents.filter fun row =>
      db.Served row.tenantId ∧ row.Due input.now input.leaseSeconds ∧ false = false)).map
        (·.eventId)).nodup_iff.mpr (hids.sublist (List.filter_sublist.map _))
  exact hsorted.sublist ((List.take_sublist _ _).map _)

namespace Untried

variable {db : BackgroundDatabase}

/-- An event a dispatch locks has not been tried. -/
theorem of_ready (h : Untried db) {input : DispatchInput} {event : OutboxRow}
    (hready : db.Ready input event) : event.status = .pending ∧ event.attempts = 0 := by
  rcases hready.2.2 with ⟨hpending, _⟩ | ⟨hprocessing, _⟩
  · exact ⟨hpending, (h.statuses event hready.1).2 hpending⟩
  · exact absurd hprocessing (h.statuses event hready.1).1

/-- What a dispatch that publishes its batch makes of a row. -/
theorem find?_published (h : Untried db) {batch : List OutboxRow}
    (hbatch : ∀ event ∈ batch, event ∈ db.outboxEvents) (dispatch : Dispatch) {row : OutboxRow}
    (hrow : row ∈ db.outboxEvents) :
    row ∈ batch ∧
        ((batch.map dispatch.published).find? (·.eventId = row.eventId)).getD row =
          dispatch.published row ∨
      row ∉ batch ∧
        ((batch.map dispatch.published).find? (·.eventId = row.eventId)).getD row = row := by
  cases hfind : (batch.map dispatch.published).find? (·.eventId = row.eventId) with
  | none =>
      refine .inr ⟨fun hmem => ?_, rfl⟩
      have hnone := List.find?_eq_none.mp hfind _ (List.mem_map_of_mem hmem)
      simp [Dispatch.published, Dispatch.started] at hnone
  | some found =>
      obtain ⟨event, hevent, rfl⟩ := List.mem_map.mp (List.mem_of_find?_eq_some hfind)
      have hid : event.eventId = row.eventId := by
        have hfound := List.find?_some hfind
        exact of_decide_eq_true hfound
      have hsame : event = row := Table.eq_of_key_eq h.ids (hbatch event hevent) hrow hid
      exact .inl ⟨hsame ▸ hevent, by rw [hsame]; rfl⟩

end Untried

section Outcome

variable {uuid5 : EventId → UUID} {raises : EventId → Option Failure} {maxAttempts : Nat}
  {db : BackgroundDatabase}

/-- A dispatch is the loop over its batch and the commit, or nothing. -/
theorem dispatchedBy_eq (input : DispatchInput) :
    dispatchedBy uuid5 raises maxAttempts db input =
      match Dispatch.projectAll raises db input.draw
        (db.dueEvents uuid5 (fun _ => false) input.now input.leaseSeconds input.limit)
        { now := input.now, maxAttempts
          remaining := db.dueEvents uuid5 (fun _ => false) input.now input.leaseSeconds input.limit }
      with
      | .ok dispatch => dispatch.commit db
      | .error _ => db := by
  rw [dispatchedBy, dispatchOutbox, Tx.commit, Tx.run_get_bind]
  dsimp only
  cases Dispatch.projectAll raises db input.draw
    (db.dueEvents uuid5 (fun _ => false) input.now input.leaseSeconds input.limit)
    { now := input.now, maxAttempts
      remaining := db.dueEvents uuid5 (fun _ => false) input.now input.leaseSeconds input.limit } with
  | error failure => rfl
  | ok dispatch => rfl

/-- A dispatch leaves every row as it was, or publishes the events it has locked, and then
none of them raises. -/
theorem dispatchedBy_cases (h : Untried db) (hmax : 0 < maxAttempts) (input : DispatchInput) :
    dispatchedBy uuid5 raises maxAttempts db input = db ∨
    (∀ event ∈ db.dueEvents uuid5 (fun _ => false) input.now input.leaseSeconds input.limit,
      raises event.eventId = none) ∧
      ∃ start dispatch : Dispatch, dispatch.processed =
          (db.dueEvents uuid5 (fun _ => false) input.now input.leaseSeconds input.limit).map
            start.published ∧
        dispatchedBy uuid5 raises maxAttempts db input = dispatch.commit db := by
  rw [dispatchedBy_eq]
  split
  · next dispatch hall =>
      obtain ⟨hraises, hprocessed⟩ := projectAll_ok hall fun event hevent => by
        rw [(h.of_ready (ready_of_mem_dueEvents hevent)).2]
        exact hmax
      exact .inr ⟨hraises, _, dispatch, hprocessed, rfl⟩
  · exact .inl rfl

/-- A dispatch of events that do not raise publishes them. -/
theorem dispatchedBy_publishes (h : Untried db) (hmax : 0 < maxAttempts) {input : DispatchInput}
    (hample : Ample input db) (hraises : ∀ event, db.Ready input event → raises event.eventId = none)
    {event : OutboxRow} (hready : db.Ready input event) :
    ∃ row ∈ (dispatchedBy uuid5 raises maxAttempts db input).outboxEvents,
      row.eventId = event.eventId ∧ row.status = .published := by
  have hlocked : ∀ other ∈ db.dueEvents uuid5 (fun _ => false) input.now input.leaseSeconds
      input.limit, db.Ready input other := fun other hother => ready_of_mem_dueEvents hother
  have hfresh : Fresh db input.draw
      (db.dueEvents uuid5 (fun _ => false) input.now input.leaseSeconds input.limit) :=
    { ids := nodup_dueEvents h.ids
      new := fun other hother => hample.new other (hlocked other hother)
      distinct := fun first hfirst second hsecond =>
        hample.distinct first second (hlocked first hfirst) (hlocked second hsecond) }
  have hnew : ∀ row ∈ ([] : List NotificationDeliveryRow), Drawn db input.draw
      (db.dueEvents uuid5 (fun _ => false) input.now input.leaseSeconds input.limit) row :=
    fun _ hrow => nomatch hrow
  have hloop : ∃ dispatch, Dispatch.projectAll raises db input.draw
      (db.dueEvents uuid5 (fun _ => false) input.now input.leaseSeconds input.limit)
      { now := input.now, maxAttempts
        remaining := db.dueEvents uuid5 (fun _ => false) input.now input.leaseSeconds input.limit } =
        .ok dispatch :=
    exists_projectAll hfresh (fun _ hother => hother)
      (fun other hother => hraises other (hlocked other hother)) hnew
  obtain ⟨dispatch, hall⟩ := hloop
  rw [dispatchedBy_eq, hall]
  obtain ⟨_, hprocessed⟩ := projectAll_ok hall fun other hother => by
    rw [(h.of_ready (hlocked other hother)).2]
    exact hmax
  refine ⟨_, List.mem_map_of_mem hready.1, ?_⟩
  rw [hprocessed, List.nil_append]
  rcases h.find?_published (fun other hother => (hlocked other hother).1) _ hready.1 with
    ⟨_, hpublished⟩ | ⟨hout, _⟩
  · rw [hpublished]
    exact ⟨rfl, rfl⟩
  · exact absurd ((mem_dueEvents hample.limit).mpr hready) hout

/-- What any number of dispatches leave: nothing is being processed or has been tried, the
rows of published events and of events that raise are still there, and every row is an old
one or published. -/
structure Advanced (raises : EventId → Option Failure) (db db' : BackgroundDatabase) : Prop where
  untried : Untried db'
  kept : ∀ row ∈ db.outboxEvents, row.status = .published ∨ raises row.eventId ≠ none →
    row ∈ db'.outboxEvents
  origin : ∀ row ∈ db'.outboxEvents, row ∈ db.outboxEvents ∨ row.status = .published
  served : ∀ tenantId, db'.Served tenantId ↔ db.Served tenantId

namespace Advanced

variable {db' db'' : BackgroundDatabase}

theorem refl (h : Untried db) : Advanced raises db db where
  untried := h
  kept _ hrow _ := hrow
  origin _ hrow := .inl hrow
  served _ := Iff.rfl

theorem trans (h : Advanced raises db db') (h' : Advanced raises db' db'') :
    Advanced raises db db'' where
  untried := h'.untried
  kept row hrow hstays := h'.kept row (h.kept row hrow hstays) hstays
  origin row hrow := by
    rcases h'.origin row hrow with hold | hpublished
    · exact h.origin row hold
    · exact .inr hpublished
  served tenantId := (h'.served tenantId).trans (h.served tenantId)

end Advanced

theorem dispatchedBy_advanced (h : Untried db) (hmax : 0 < maxAttempts) (input : DispatchInput) :
    Advanced raises db (dispatchedBy uuid5 raises maxAttempts db input) := by
  have hcases := @dispatchedBy_cases uuid5 raises maxAttempts db h hmax input
  rcases hcases with hsame | ⟨hraises, start, dispatch, hprocessed, hcommit⟩
  · rw [hsame]
    exact .refl h
  · rw [hcommit]
    have hrows : ∀ row ∈ db.outboxEvents,
        row ∈ db.dueEvents uuid5 (fun _ => false) input.now input.leaseSeconds input.limit ∧
            (dispatch.processed.find? (·.eventId = row.eventId)).getD row = start.published row ∨
          row ∉ db.dueEvents uuid5 (fun _ => false) input.now input.leaseSeconds input.limit ∧
            (dispatch.processed.find? (·.eventId = row.eventId)).getD row = row := by
      intro row hrow
      rw [hprocessed]
      exact h.find?_published (fun other hother => (ready_of_mem_dueEvents hother).1) start hrow
    refine ⟨⟨?_, ?_⟩, ?_, ?_, fun _ => Iff.rfl⟩
    · show ((dispatch.rewritten db.outboxEvents).map (·.eventId)).Nodup
      rw [Batch.map_rewritten]
      exact h.ids
    · intro event hevent
      obtain ⟨row, hrow, rfl⟩ := List.mem_map.mp hevent
      rcases hrows row hrow with ⟨_, hpublished⟩ | ⟨_, hsame⟩
      · rw [hpublished]
        exact ⟨nofun, nofun⟩
      · rw [hsame]
        exact h.statuses row hrow
    · intro row hrow hstays
      refine List.mem_map.mpr ⟨row, hrow, ?_⟩
      rcases hrows row hrow with ⟨hlocked, _⟩ | ⟨_, hsame⟩
      · rcases hstays with hpublished | hfails
        · have hpending := (h.of_ready (ready_of_mem_dueEvents hlocked)).1
          rw [hpublished] at hpending
          cases hpending
        · exact absurd (hraises row hlocked) hfails
      · exact hsame
    · intro event hevent
      obtain ⟨row, hrow, rfl⟩ := List.mem_map.mp hevent
      rcases hrows row hrow with ⟨_, hpublished⟩ | ⟨_, hsame⟩
      · rw [hpublished]
        exact .inr rfl
      · rw [hsame]
        exact .inl hrow

/-- Dispatches only advance the events. -/
theorem dispatches_advanced (h : Untried db) (hmax : 0 < maxAttempts) (inputs : ℕ → DispatchInput)
    (first extra : ℕ) :
    Advanced raises (dispatches uuid5 raises maxAttempts inputs db first)
      (dispatches uuid5 raises maxAttempts inputs db (first + extra)) := by
  have hstart : ∀ count, Untried (dispatches uuid5 raises maxAttempts inputs db count) := by
    intro count
    induction count with
    | zero => exact h
    | succ count ih =>
        have hstep := @dispatchedBy_advanced uuid5 raises maxAttempts _ ih hmax (inputs count)
        exact hstep.untried
  induction extra with
  | zero => exact .refl (hstart first)
  | succ extra ih => exact ih.trans (dispatchedBy_advanced (hstart _) hmax _)

/-- Where an event that raises is due, a dispatch that covers it changes nothing. -/
theorem dispatchedBy_of_raises (h : Untried db) (hmax : 0 < maxAttempts) {input : DispatchInput}
    (hample : Ample input db) {event : OutboxRow} (hready : db.Ready input event)
    (hraises : raises event.eventId ≠ none) :
    dispatchedBy uuid5 raises maxAttempts db input = db := by
  have hcases := @dispatchedBy_cases uuid5 raises maxAttempts db h hmax input
  rcases hcases with hsame | ⟨hnone, _⟩
  · exact hsame
  · exact absurd (hnone event ((mem_dueEvents hample.limit).mpr hready)) hraises

/-- Where an event that raises is due at every dispatch, none of them changes anything. -/
theorem dispatches_of_raises (h : Untried db) (hmax : 0 < maxAttempts)
    {inputs : ℕ → DispatchInput} (hample : ∀ count, Ample (inputs count) db) {event : OutboxRow}
    (hready : ∀ count, db.Ready (inputs count) event) (hraises : raises event.eventId ≠ none)
    (count : ℕ) : dispatches uuid5 raises maxAttempts inputs db count = db := by
  induction count with
  | zero => rfl
  | succ count ih =>
      rw [dispatches, ih]
      exact dispatchedBy_of_raises h hmax (hample count) (hready count) hraises

end Outcome

/-! ## When failures are contained -/

theorem Consistent.untried {s : OutboxState} {record : List Reading} (h : Consistent s record) :
    Untried s.db :=
  ⟨h.events, h.statuses⟩

/-- From any reachable outbox, whatever events raise, and for any dispatches with room for
all due events: failures are contained if and only if no event that raises is due at any of
the dispatches. -/
theorem failuresContained_iff {uuid5 : EventId → UUID} {s : OutboxState} {record : List Reading}
    (hs : (recordedOutbox uuid5).Reachable (s, record)) {raises : EventId → Option Failure}
    {maxAttempts : ℕ} (hmax : 0 < maxAttempts) {inputs : ℕ → DispatchInput}
    (hample : ∀ count, Ample (inputs count) (dispatches uuid5 raises maxAttempts inputs s.db count)) :
    FailuresContained uuid5 raises maxAttempts inputs s.db ↔
      ∀ count event, s.db.Ready (inputs count) event → raises event.eventId = none := by
  have h := (consistent_of_reachable hs).untried
  have hadvanced : ∀ count, Advanced raises s.db
      (dispatches uuid5 raises maxAttempts inputs s.db count) := by
    intro count
    have hrun := @dispatches_advanced uuid5 raises maxAttempts s.db h hmax inputs 0 count
    rw [Nat.zero_add] at hrun
    exact hrun
  -- An event that is due before a dispatch was there, just so, at the start.
  have hold : ∀ count event,
      (dispatches uuid5 raises maxAttempts inputs s.db count).Ready (inputs count) event →
        s.db.Ready (inputs count) event := by
    intro count event hready
    have hpending := ((hadvanced count).untried.of_ready hready).1
    refine ⟨?_, ((hadvanced count).served _).mp hready.2.1, hready.2.2⟩
    rcases (hadvanced count).origin event hready.1 with hmem | hpublished
    · exact hmem
    · rw [hpending] at hpublished
      cases hpublished
  constructor
  · intro hcontained count event hready
    by_contra hraises
    have hthere : (dispatches uuid5 raises maxAttempts inputs s.db count).Ready (inputs count)
        event :=
      ⟨(hadvanced count).kept event hready.1 (.inr hraises),
        ((hadvanced count).served _).mpr hready.2.1, hready.2.2⟩
    obtain ⟨row, hrow, hid, hattempts⟩ := hcontained.counts count event hthere hraises
    have hsame := @dispatchedBy_of_raises uuid5 raises maxAttempts _ (hadvanced count).untried
      hmax _ (hample count) event hthere hraises
    rw [dispatches, hsame] at hrow
    have hequal : row = event :=
      Table.eq_of_key_eq (hadvanced count).untried.ids hrow hthere.1 hid
    rw [hequal] at hattempts
    exact Nat.succ_ne_self _ hattempts.symm
  · intro hnone
    constructor
    case publishes =>
      intro event hready hraises count hcount
      obtain ⟨row, hrow, hid, hpublished⟩ :=
        @dispatchedBy_publishes uuid5 raises maxAttempts _ h hmax _ (hample 0)
          (fun other hother => hnone 0 other hother) event hready
      have hlater := @dispatches_advanced uuid5 raises maxAttempts s.db h hmax inputs 1 (count - 1)
      rw [Nat.add_sub_cancel' hcount] at hlater
      exact ⟨row, hlater.kept row hrow (.inl hpublished), hid, hpublished⟩
    case counts =>
      intro count event hready hraises
      exact absurd (hnone count event (hold count event hready)) hraises
    case buries =>
      intro event hready hraises
      exact absurd (hnone 0 event hready) hraises

/-! ## Two events, of which one raises -/

namespace Pager

/-- A second event of the same kind. -/
def second : OutboxEventRow := { queued with eventId := { name := "second".toList } }

/-- Both events are pending, and nobody has subscribed. -/
def burdened : OutboxState × List Reading :=
  nextReading uuid5 (nextReading uuid5 quiet (.produce queued)) (.produce second)

/-- The first event raises, whenever it has its turn. -/
def raises (eventId : EventId) : Option Failure :=
  if eventId = queued.eventId then some (.integrity "fk_notification_deliveries") else none

def input : DispatchInput where
  now := 0
  leaseSeconds := 60
  limit := 100
  draw := fun _ _ => delivery.id

theorem reachable_burdened : (recordedOutbox uuid5).Reachable burdened := by
  have hquiet : (recordedOutbox uuid5).Reachable quiet :=
    .init ⟨⟨rfl, rfl, rfl, fun _ => rfl⟩, rfl⟩
  have hfirst : quiet.1.Allows (.produce queued) := ⟨rfl, rfl, fun _ hother => nomatch hother⟩
  have hsecond : ∀ other ∈ (nextReading uuid5 quiet (.produce queued)).1.db.outboxEvents,
      other.eventId ≠ second.eventId := by
    decide +kernel
  exact reachable_nextReading (reachable_nextReading hquiet hfirst) ⟨rfl, rfl, hsecond⟩

theorem ready : burdened.1.db.Ready input { queued with } :=
  ⟨List.mem_cons_self, by decide +kernel, by decide +kernel⟩

theorem ample : Ample input burdened.1.db where
  limit := by decide +kernel
  new _ _ _ hlistens := nomatch hlistens
  distinct _ _ _ _ _ hlistens := nomatch hlistens

theorem dispatches_burdened (count : ℕ) :
    dispatches uuid5 raises 6 (fun _ => input) burdened.1.db count = burdened.1.db := by
  have huntried := (consistent_of_reachable reachable_burdened).untried
  have hraises : raises queued.eventId ≠ none := by decide
  exact dispatches_of_raises huntried (by decide) (fun _ => ample) (fun _ => ready) hraises count

end Pager

theorem failuresContained_iff_by_pager :
    FailuresContained Pager.uuid5 Pager.raises 6 (fun _ => Pager.input) Pager.burdened.1.db ↔
      ∀ _ : ℕ, ∀ event, Pager.burdened.1.db.Ready Pager.input event →
        Pager.raises event.eventId = none := by
  have hample : ∀ count, Ample Pager.input
      (dispatches Pager.uuid5 Pager.raises 6 (fun _ => Pager.input) Pager.burdened.1.db count) := by
    intro count
    rw [Pager.dispatches_burdened]
    exact Pager.ample
  exact failuresContained_iff Pager.reachable_burdened (by decide) hample

/-- Of two due events the first raises: after a dispatch the second is not published. -/
theorem second_event_held_back :
    (recordedOutbox Pager.uuid5).Reachable Pager.burdened ∧
    Ample Pager.input Pager.burdened.1.db ∧
    ¬ FailuresContained Pager.uuid5 Pager.raises 6 (fun _ => Pager.input) Pager.burdened.1.db := by
  refine ⟨Pager.reachable_burdened, Pager.ample, fun hcontained => ?_⟩
  have hsecond : Pager.burdened.1.db.Ready Pager.input { Pager.second with } :=
    ⟨List.mem_cons_of_mem _ List.mem_cons_self, by decide +kernel, by decide +kernel⟩
  obtain ⟨row, hrow, _, hpublished⟩ :=
    hcontained.publishes _ hsecond (by decide) 1 (Nat.le_refl 1)
  rw [Pager.dispatches_burdened] at hrow
  have hpending : ∀ row ∈ Pager.burdened.1.db.outboxEvents, row.status ≠ .published := by
    decide +kernel
  exact hpending row hrow hpublished

end BusinessAssistant.Persistence
