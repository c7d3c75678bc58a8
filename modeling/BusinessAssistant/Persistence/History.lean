/-
# Status history and events

The store writes history rows and outbox events by hand in three branches. The
history of a booking is a journal of the domain's transition table, and the
events of a booking are one per confirmation, reschedule and cancellation, with
ids that never repeat.
-/

import BusinessAssistant.Foundation.Journal
import BusinessAssistant.Persistence.Coherence

namespace BusinessAssistant.Persistence

open BusinessAssistant.Domain BusinessAssistant.Application BusinessAssistant.Foundation

/-! ## Event names -/

/-- `str(number)` determines the number. -/
theorem decimal_injective {first second : Nat} (h : decimal first = decimal second) :
    first = second := by
  have hvalue := congrArg (fun digits => Nat.ofDigitChars 10 digits 0) h
  simpa [decimal, Nat.ofDigitChars_ten_toDigits] using hvalue

/-- An event id determines the tenant and the key it was made from. -/
theorem eventId_injective {first second : TenantId} {key other : Text}
    (h : eventId first key = eventId second other) : first = second ∧ key = other := by
  have hname : "business-assistant:".toList ++ UUID.str first ++ ':' :: key =
      "business-assistant:".toList ++ UUID.str second ++ ':' :: other := by
    injection h
  rw [List.append_assoc, List.append_assoc] at hname
  obtain ⟨htenant, hkey⟩ := List.append_inj (List.append_cancel_left hname)
    ((UUID.str_length first).trans (UUID.str_length second).symm)
  exact ⟨UUID.str_injective htenant, (List.cons.inj hkey).2⟩

/-- What an event announces of a booking. -/
inductive Announcement
  | confirmed
  | rescheduled (sequence : Nat)
  | cancelled
  deriving DecidableEq

namespace Announcement

/-- The key the event id is made from. -/
def key (bookingId : BookingId) : Announcement → Text
  | confirmed => confirmedKey bookingId
  | rescheduled sequence => rescheduledKey bookingId sequence
  | cancelled => cancelledKey bookingId

def eventType : Announcement → String
  | confirmed => "booking.confirmed"
  | rescheduled _ => "booking.rescheduled"
  | cancelled => "booking.cancelled"

/-- The tenth character tells the three kinds of key apart. -/
def mark : Announcement → Char
  | confirmed => 'o'
  | rescheduled _ => 'e'
  | cancelled => 'a'

theorem key_mark (bookingId : BookingId) (announcement : Announcement) :
    (announcement.key bookingId)[9]? = some announcement.mark := by
  cases announcement <;> rfl

/-- The key of a reschedule determines the booking and the sequence. -/
theorem rescheduledKey_injective {first second : BookingId} {sequence later : Nat}
    (h : rescheduledKey first sequence = rescheduledKey second later) :
    first = second ∧ sequence = later := by
  have hkey : "booking:rescheduled:".toList ++ UUID.str first ++ ':' :: decimal sequence =
      "booking:rescheduled:".toList ++ UUID.str second ++ ':' :: decimal later := h
  rw [List.append_assoc, List.append_assoc] at hkey
  obtain ⟨hid, hrest⟩ := List.append_inj (List.append_cancel_left hkey)
    ((UUID.str_length first).trans (UUID.str_length second).symm)
  exact ⟨UUID.str_injective hid, decimal_injective (List.cons.inj hrest).2⟩

/-- A key determines the booking and what is announced. -/
theorem key_injective {first second : BookingId} {announcement other : Announcement}
    (h : announcement.key first = other.key second) : first = second ∧ announcement = other := by
  have hmark : announcement.mark = other.mark := by
    rw [← Option.some.injEq, ← key_mark first, h, key_mark]
  cases announcement with
  | confirmed =>
      cases other with
      | confirmed => exact ⟨UUID.str_injective (List.append_cancel_left h), rfl⟩
      | rescheduled sequence => exact absurd hmark (by simp [mark])
      | cancelled => exact absurd hmark (by simp [mark])
  | rescheduled sequence =>
      cases other with
      | confirmed => exact absurd hmark (by simp [mark])
      | rescheduled later =>
          obtain ⟨hid, hsequence⟩ := rescheduledKey_injective h
          exact ⟨hid, congrArg _ hsequence⟩
      | cancelled => exact absurd hmark (by simp [mark])
  | cancelled =>
      cases other with
      | confirmed => exact absurd hmark (by simp [mark])
      | rescheduled sequence => exact absurd hmark (by simp [mark])
      | cancelled => exact ⟨UUID.str_injective (List.append_cancel_left h), rfl⟩

end Announcement

/-! ## The invariant -/

/-- History rows as a journal of the domain's state machine. -/
def statusJournal : Journal BookingStatusHistoryRow BookingStatus where
  number := (·.sequence)
  source := (·.fromStatus)
  target := (·.toStatus)
  Allowed := BookingStatus.CanTransition

/-- The history rows of one booking. -/
def historyOf (db : Database) (bookingId : BookingId) : List BookingStatusHistoryRow :=
  db.bookingStatusHistory.filter (·.bookingId = bookingId)

/-- The events of one type about one booking. -/
def eventsOf (db : Database) (bookingId : BookingId) (eventType : String) : List OutboxEventRow :=
  db.outboxEvents.filter fun event => event.aggregateId = bookingId ∧ event.eventType = eventType

/-- What has been announced of a booking so far: a reschedule at a sequence the
history has reached, a cancellation only of a cancelled booking. -/
def Announced (db : Database) (booking : BookingRow) : Announcement → Prop
  | .confirmed => True
  | .rescheduled sequence => sequence ≤ (historyOf db booking.id).length
  | .cancelled => booking.status = .cancelled

structure Recorded (db : Database) : Prop where
  status : ∀ booking ∈ db.bookings, booking.status = .confirmed ∨ booking.status = .cancelled
  owner : ∀ row ∈ db.bookingStatusHistory, ∃ booking ∈ db.bookings, booking.id = row.bookingId
  journal : ∀ booking ∈ db.bookings,
    statusJournal.Records .draft (historyOf db booking.id) booking.status
  event : ∀ event ∈ db.outboxEvents, ∃ booking ∈ db.bookings, event.aggregateId = booking.id ∧
    ∃ announcement, Announced db booking announcement ∧
      event.eventType = announcement.eventType ∧
      event.eventId = eventId booking.tenantId (announcement.key booking.id)
  confirmedOnce : ∀ booking ∈ db.bookings,
    (eventsOf db booking.id "booking.confirmed").length = 1
  cancelledOnce : ∀ booking ∈ db.bookings,
    (eventsOf db booking.id "booking.cancelled").length =
      if booking.status = .cancelled then 1 else 0
  eventIds : (db.outboxEvents.map (·.eventId)).Nodup

namespace Recorded

variable {cfg : Catalogue} {env : Environment} {db : Database}

theorem of_fresh (hfresh : db.Fresh) : Recorded db := by
  obtain ⟨_, _, hbookings, hhistory, houtbox, _⟩ := hfresh
  constructor <;> simp [hbookings, hhistory, houtbox]

/-- The sequence the store draws next is the length of the history plus one. -/
theorem nextHistorySequence_eq (h : Recorded db) {booking : BookingRow}
    (hbooking : booking ∈ db.bookings) :
    nextHistorySequence db booking.id = (historyOf db booking.id).length + 1 :=
  congrArg (· + 1) (h.journal booking hbooking).foldl_max

theorem historyOf_fresh (h : Recorded db) {bookingId : BookingId}
    (hfresh : ∀ row ∈ db.bookings, row.id ≠ bookingId) : historyOf db bookingId = [] := by
  apply List.filter_eq_nil_iff.mpr
  intro row hrow hid
  obtain ⟨booking, hbooking, howner⟩ := h.owner row hrow
  exact hfresh booking hbooking (howner.trans (of_decide_eq_true hid))

theorem eventsOf_fresh (h : Recorded db) {bookingId : BookingId}
    (hfresh : ∀ row ∈ db.bookings, row.id ≠ bookingId) (eventType : String) :
    eventsOf db bookingId eventType = [] := by
  apply List.filter_eq_nil_iff.mpr
  intro event hevent hid
  obtain ⟨booking, hbooking, haggregate, _⟩ := h.event event hevent
  exact hfresh booking hbooking (haggregate.symm.trans (of_decide_eq_true hid).1)

/-! ## One more announcement -/

/-- What a write does when it extends the journal of one booking and announces
it: `subject` is the booking afterwards. -/
structure Extends (db db' : Database) (subject : BookingRow)
    (rows : List BookingStatusHistoryRow) (event : OutboxEventRow)
    (announcement : Announcement) : Prop where
  stored : subject ∈ db'.bookings
  others : ∀ row ∈ db'.bookings, row = subject ∨ row ∈ db.bookings ∧ row.id ≠ subject.id
  kept : ∀ row ∈ db.bookings, ∃ row' ∈ db'.bookings, row'.id = row.id ∧
    row'.tenantId = row.tenantId ∧ (row.status = .cancelled → row'.status = .cancelled)
  history : db'.bookingStatusHistory = db.bookingStatusHistory ++ rows
  outbox : db'.outboxEvents = db.outboxEvents ++ [event]
  rowsOfSubject : ∀ row ∈ rows, row.bookingId = subject.id
  aggregate : event.aggregateId = subject.id
  eventType : event.eventType = announcement.eventType
  eventId : event.eventId = eventId subject.tenantId (announcement.key subject.id)

variable {db' : Database} {subject : BookingRow} {rows : List BookingStatusHistoryRow}
  {event : OutboxEventRow} {announcement : Announcement}

theorem Extends.historyOf_subject (hextends : Extends db db' subject rows event announcement) :
    historyOf db' subject.id = historyOf db subject.id ++ rows := by
  rw [historyOf, hextends.history, List.filter_append]
  congr 1
  apply List.filter_eq_self.mpr
  intro row hrow
  exact decide_eq_true (hextends.rowsOfSubject row hrow)

theorem Extends.historyOf_other (hextends : Extends db db' subject rows event announcement)
    {bookingId : BookingId} (hid : bookingId ≠ subject.id) :
    historyOf db' bookingId = historyOf db bookingId := by
  rw [historyOf, hextends.history, List.filter_append]
  have hnone : rows.filter (·.bookingId = bookingId) = [] := by
    apply List.filter_eq_nil_iff.mpr
    intro row hrow hrowId
    exact hid ((of_decide_eq_true hrowId).symm.trans (hextends.rowsOfSubject row hrow))
  rw [hnone, List.append_nil]
  rfl

/-- The number of events of a type grows by one for the subject and the type of
the announcement, and stays for the rest. -/
theorem Extends.length_eventsOf (hextends : Extends db db' subject rows event announcement)
    (bookingId : BookingId) (eventType : String) :
    (eventsOf db' bookingId eventType).length = (eventsOf db bookingId eventType).length +
      if subject.id = bookingId ∧ announcement.eventType = eventType then 1 else 0 := by
  rw [eventsOf, hextends.outbox, List.filter_append, List.length_append]
  congr 1
  rw [List.filter_singleton, hextends.aggregate, hextends.eventType]
  by_cases hmatch : subject.id = bookingId ∧ announcement.eventType = eventType
  · rw [if_pos hmatch, decide_eq_true hmatch]
    rfl
  · rw [if_neg hmatch, decide_eq_false hmatch]
    rfl

theorem Extends.length_eventsOf_of_ne
    (hextends : Extends db db' subject rows event announcement) {bookingId : BookingId}
    {eventType : String} (hother : announcement.eventType ≠ eventType) :
    (eventsOf db' bookingId eventType).length = (eventsOf db bookingId eventType).length := by
  rw [hextends.length_eventsOf, if_neg fun hmatch => hother hmatch.2, Nat.add_zero]

/-- The one argument behind the three branches: a journal that is extended by
allowed rows and an announcement that was not made before keep everything
recorded. -/
theorem extend (h : Recorded db) (hextends : Extends db db' subject rows event announcement)
    (hstatus : subject.status = .confirmed ∨ subject.status = .cancelled)
    (hjournal : statusJournal.Records .draft (historyOf db subject.id ++ rows) subject.status)
    (hannounced : Announced db' subject announcement)
    (hnew : ∀ row ∈ db.bookings, row.id = subject.id → ¬ Announced db row announcement)
    (hconfirmed : (eventsOf db' subject.id "booking.confirmed").length = 1)
    (hcancelled : (eventsOf db' subject.id "booking.cancelled").length =
      if subject.status = .cancelled then 1 else 0) : Recorded db' where
  status := by
    intro booking hbooking
    rcases hextends.others booking hbooking with rfl | ⟨hold, _⟩
    · exact hstatus
    · exact h.status booking hold
  owner := by
    intro row hrow
    rw [hextends.history] at hrow
    rcases List.mem_append.mp hrow with hrow | hrow
    · obtain ⟨booking, hbooking, hid⟩ := h.owner row hrow
      obtain ⟨later, hlater, hlaterId, _⟩ := hextends.kept booking hbooking
      exact ⟨later, hlater, hlaterId.trans hid⟩
    · exact ⟨subject, hextends.stored, (hextends.rowsOfSubject row hrow).symm⟩
  journal := by
    intro booking hbooking
    rcases hextends.others booking hbooking with rfl | ⟨hold, hid⟩
    · rw [hextends.historyOf_subject]
      exact hjournal
    · rw [hextends.historyOf_other hid]
      exact h.journal booking hold
  event := by
    intro other hother
    rw [hextends.outbox] at hother
    rcases Table.mem_append_row.mp hother with hother | rfl
    · obtain ⟨booking, hbooking, haggregate, earlier, hearlier, htype, hid⟩ := h.event other hother
      obtain ⟨later, hlater, hlaterId, hlaterTenant, hlaterStatus⟩ := hextends.kept booking hbooking
      refine ⟨later, hlater, haggregate.trans hlaterId.symm, earlier, ?_, htype, ?_⟩
      · cases earlier with
        | confirmed => trivial
        | rescheduled sequence =>
            refine le_trans hearlier ?_
            rw [← hlaterId, historyOf, historyOf, hextends.history, List.filter_append,
              List.length_append]
            exact Nat.le_add_right _ _
        | cancelled => exact hlaterStatus hearlier
      · rw [hlaterTenant, hlaterId]
        exact hid
    · exact ⟨subject, hextends.stored, hextends.aggregate, announcement, hannounced,
        hextends.eventType, hextends.eventId⟩
  confirmedOnce := by
    intro booking hbooking
    rcases hextends.others booking hbooking with rfl | ⟨hold, hid⟩
    · exact hconfirmed
    · rw [hextends.length_eventsOf, if_neg fun hmatch => hid hmatch.1.symm]
      exact h.confirmedOnce booking hold
  cancelledOnce := by
    intro booking hbooking
    rcases hextends.others booking hbooking with rfl | ⟨hold, hid⟩
    · exact hcancelled
    · rw [hextends.length_eventsOf, if_neg fun hmatch => hid hmatch.1.symm]
      exact h.cancelledOnce booking hold
  eventIds := by
    rw [hextends.outbox]
    refine Table.nodup_append_row h.eventIds ?_
    intro other hother hsame
    obtain ⟨booking, hbooking, _, earlier, hearlier, _, hid⟩ := h.event other hother
    rw [hid, hextends.eventId] at hsame
    obtain ⟨hbookingId, rfl⟩ := Announcement.key_injective (eventId_injective hsame).2
    exact hnew booking hbooking hbookingId hearlier

/-! ## The three branches -/

/-- A history row of the store extends a journal when the domain allows the step
and the row carries the next number. -/
theorem records_historyRow {rows : List BookingStatusHistoryRow} {last target : BookingStatus}
    (prior : statusJournal.Records .draft rows last) (hallowed : last.CanTransition target)
    (tenantId : TenantId) (bookingId : BookingId) (reason : String) (serverNow : Int) :
    statusJournal.Records .draft
      (rows ++ [historyRow tenantId bookingId (rows.length + 1) last target reason serverNow])
      target :=
  .snoc prior rfl rfl hallowed

theorem book_extends {booking : BookingRow} (hfresh : ∀ row ∈ db.bookings, row.id ≠ booking.id)
    (now serverNow : Int) :
    Extends db (db.book booking now serverNow) booking
      [historyRow booking.tenantId booking.id 1 .draft .held "slot_hold_created" serverNow,
        historyRow booking.tenantId booking.id 2 .held .confirmed "explicit_confirmation" serverNow]
      (bookingEvent booking.tenantId booking "booking.confirmed" (confirmedKey booking.id) now)
      .confirmed where
  stored := List.mem_append_right _ (List.mem_singleton_self _)
  others := by
    intro row hrow
    rcases Table.mem_append_row.mp hrow with hrow | rfl
    · exact .inr ⟨hrow, hfresh row hrow⟩
    · exact .inl rfl
  kept := fun row hrow => ⟨row, List.mem_append_left _ hrow, rfl, rfl, id⟩
  history := rfl
  outbox := rfl
  rowsOfSubject := by
    intro row hrow
    simp only [List.mem_cons, List.not_mem_nil, or_false] at hrow
    rcases hrow with rfl | rfl <;> rfl
  aggregate := rfl
  eventType := rfl
  eventId := rfl

/-- A new booking, confirmed, with its first two history rows. -/
theorem book (h : Recorded db) {booking : BookingRow} (hstatus : booking.status = .confirmed)
    (hfresh : ∀ row ∈ db.bookings, row.id ≠ booking.id) (now serverNow : Int) :
    Recorded (db.book booking now serverNow) := by
  have hextends := book_extends hfresh now serverNow
  refine h.extend hextends (.inl hstatus) ?_ trivial ?_ ?_ ?_
  · rw [h.historyOf_fresh hfresh, hstatus]
    have hheld := records_historyRow .nil (by decide : BookingStatus.draft.CanTransition .held)
      booking.tenantId booking.id "slot_hold_created" serverNow
    exact records_historyRow hheld (by decide : BookingStatus.held.CanTransition .confirmed)
      booking.tenantId booking.id "explicit_confirmation" serverNow
  · exact fun row hrow hid => absurd hid (hfresh row hrow)
  · rw [hextends.length_eventsOf, h.eventsOf_fresh hfresh, if_pos ⟨rfl, rfl⟩]
    rfl
  · rw [hextends.length_eventsOf_of_ne (by decide), h.eventsOf_fresh hfresh, hstatus]
    rfl

/-- The rows of an updated booking are the updated one and the others. -/
theorem mem_updateBooking (hcoherent : Coherent db) {booking : BookingRow}
    (hbooking : booking ∈ db.bookings) {change : BookingRow → BookingRow}
    (hid : (change booking).id = booking.id) {row : BookingRow}
    (hrow : row ∈ (db.updateBooking booking.id change).bookings) :
    row = change booking ∨ row ∈ db.bookings ∧ row.id ≠ (change booking).id := by
  rcases Table.mem_update.mp hrow with ⟨old, hold, hselected, rfl⟩ | ⟨hold, hselected⟩
  · rw [hcoherent.booking_eq hold hbooking hselected]
    exact .inl rfl
  · rw [hid]
    exact .inr ⟨hold, hselected⟩

theorem move_extends (hcoherent : Coherent db) {booking : BookingRow}
    (hbooking : booking ∈ db.bookings) (hstatus : booking.status = .confirmed)
    (hold : SlotHoldRow) (service : ServiceRow) (now serverNow : Int) :
    Extends db (db.move booking hold service now serverNow) (booking.movedTo hold service)
      [historyRow booking.tenantId booking.id (nextHistorySequence db booking.id) .confirmed
          .reschedulePending "customer_reschedule" serverNow,
        historyRow booking.tenantId booking.id (nextHistorySequence db booking.id + 1)
          .reschedulePending .confirmed "new_hold_confirmed" serverNow]
      (bookingEvent booking.tenantId (booking.movedTo hold service) "booking.rescheduled"
        (rescheduledKey booking.id (nextHistorySequence db booking.id)) now)
      (.rescheduled (nextHistorySequence db booking.id)) where
  stored := Table.mem_update_of_selected hbooking rfl
  others := fun row hrow => mem_updateBooking hcoherent hbooking rfl hrow
  kept := by
    intro row hrow
    refine Table.exists_mem_update ⟨row, hrow, rfl, rfl, id⟩ ?_
    rintro other hother ⟨hid, htenant, hcancelled⟩ hselected
    refine ⟨hid, htenant, fun hrowCancelled => ?_⟩
    have hsame := hcoherent.booking_eq hother hbooking hselected
    exact absurd (hstatus.symm.trans (hsame ▸ hcancelled hrowCancelled)) (by decide)
  history := rfl
  outbox := rfl
  rowsOfSubject := by
    intro row hrow
    simp only [List.mem_cons, List.not_mem_nil, or_false] at hrow
    rcases hrow with rfl | rfl <;> rfl
  aggregate := rfl
  eventType := rfl
  eventId := rfl

/-- A confirmed booking moved to another hold passes through
`reschedule_pending`. -/
theorem move (h : Recorded db) (hcoherent : Coherent db) {booking : BookingRow}
    (hbooking : booking ∈ db.bookings) (hstatus : booking.status = .confirmed)
    (hold : SlotHoldRow) (service : ServiceRow) (now serverNow : Int) :
    Recorded (db.move booking hold service now serverNow) := by
  have hsequence := h.nextHistorySequence_eq hbooking
  have hextends := move_extends hcoherent hbooking hstatus hold service now serverNow
  have hconfirmedOnce := h.confirmedOnce booking hbooking
  have hcancelledOnce := h.cancelledOnce booking hbooking
  refine h.extend hextends (.inl rfl) ?_ ?_ ?_ ?_ ?_
  · have hjournal := h.journal booking hbooking
    rw [hstatus] at hjournal
    have hpending := records_historyRow hjournal
      (by decide : BookingStatus.confirmed.CanTransition .reschedulePending)
      booking.tenantId booking.id "customer_reschedule" serverNow
    have hagain := records_historyRow hpending
      (by decide : BookingStatus.reschedulePending.CanTransition .confirmed)
      booking.tenantId booking.id "new_hold_confirmed" serverNow
    rw [List.append_assoc, List.length_append, List.length_singleton, ← hsequence] at hagain
    exact hagain
  · show nextHistorySequence db booking.id ≤ (historyOf _ (booking.movedTo hold service).id).length
    rw [hextends.historyOf_subject, List.length_append, hsequence]
    exact Nat.add_le_add_left (Nat.succ_le_succ (Nat.zero_le _)) _
  · intro row hrow hid hannounced
    cases hcoherent.booking_eq hrow hbooking hid
    exact absurd (hsequence ▸ hannounced) (Nat.not_succ_le_self _)
  · rw [hextends.length_eventsOf_of_ne (by simp [Announcement.eventType])]
    exact hconfirmedOnce
  · rw [hextends.length_eventsOf_of_ne (by simp [Announcement.eventType])]
    rw [hstatus] at hcancelledOnce
    exact hcancelledOnce

theorem cancel_extends (hcoherent : Coherent db) {booking : BookingRow}
    (hbooking : booking ∈ db.bookings) (now serverNow : Int) :
    Extends db (db.cancel booking now serverNow) { booking with status := .cancelled }
      [historyRow booking.tenantId booking.id (nextHistorySequence db booking.id) .confirmed
        .cancelled "customer_cancelled" serverNow]
      (bookingEvent booking.tenantId booking "booking.cancelled" (cancelledKey booking.id) now)
      .cancelled where
  stored := Table.mem_update_of_selected hbooking rfl
  others := fun row hrow => mem_updateBooking hcoherent hbooking rfl hrow
  kept := by
    intro row hrow
    exact Table.exists_mem_update ⟨row, hrow, rfl, rfl, id⟩
      fun _ _ hsame _ => ⟨hsame.1, hsame.2.1, fun _ => rfl⟩
  history := rfl
  outbox := rfl
  rowsOfSubject := by
    intro row hrow
    rw [List.mem_singleton.mp hrow]
    rfl
  aggregate := rfl
  eventType := rfl
  eventId := rfl

/-- A confirmed booking is cancelled once. -/
theorem cancel (h : Recorded db) (hcoherent : Coherent db) {booking : BookingRow}
    (hbooking : booking ∈ db.bookings) (hstatus : booking.status = .confirmed)
    (now serverNow : Int) : Recorded (db.cancel booking now serverNow) := by
  have hsequence := h.nextHistorySequence_eq hbooking
  have hextends := cancel_extends hcoherent hbooking now serverNow
  have hconfirmedOnce := h.confirmedOnce booking hbooking
  have hcancelledOnce := h.cancelledOnce booking hbooking
  refine h.extend hextends (.inr rfl) ?_ rfl ?_ ?_ ?_
  · have hjournal := h.journal booking hbooking
    rw [hstatus] at hjournal
    have hended := records_historyRow hjournal
      (by decide : BookingStatus.confirmed.CanTransition .cancelled)
      booking.tenantId booking.id "customer_cancelled" serverNow
    rw [← hsequence] at hended
    exact hended
  · intro row hrow hid hannounced
    cases hcoherent.booking_eq hrow hbooking hid
    exact absurd (hstatus.symm.trans hannounced) (by decide)
  · rw [hextends.length_eventsOf_of_ne (by decide)]
    exact hconfirmedOnce
  · rw [hextends.length_eventsOf, if_pos ⟨rfl, rfl⟩, if_pos rfl]
    rw [hstatus] at hcancelledOnce
    exact congrArg (· + 1) hcancelledOnce

/-- Every change keeps the history recorded. -/
theorem change {call : Call} (h : Recorded db) (hcoherent : Coherent db)
    (hchange : Change cfg env db call db') : Recorded db' := by
  cases hchange with
  | startDraft => exact { h with }
  | getActiveDraft => exact { h with }
  | selectDate => exact { h with }
  | createHold => exact { h with }
  | updateContact => exact { h with }
  | getHold => exact { h with }
  | cancelDraft => exact { h with }
  | expireHolds => exact { h with }
  | book hdraft hdraftStatus hreschedule hhold hholdId hholdTenant hunexpired hservice hfresh =>
      exact { h.book rfl hfresh env.now env.serverNow with }
  | move hdraft hdraftStatus hhold hholdId hholdTenant hunexpired hservice hbooking hreschedule
      htenant hcustomer hconfirmed =>
      exact { h.move hcoherent hbooking hconfirmed _ _ env.now env.serverNow with }
  | cancelBooking hbooking hconfirmed =>
      exact h.cancel hcoherent hbooking hconfirmed env.now env.serverNow

end Recorded

theorem recorded_of_reachable {cfg : Catalogue} {s : State}
    (hs : (bookingSystem cfg).Reachable s) : Recorded s.db :=
  database_invariant (fun _ hfresh => .of_fresh hfresh)
    (fun _ _ _ _ hcoherent h hchange => h.change hcoherent hchange) hs

/-! ## Counting reschedules -/

/-- The call is a confirmation. -/
def Call.IsConfirm : Call → Prop
  | .customer _ _ (.confirm _ _) => True
  | _ => False

/-- The call is a confirmation that turns an active draft rescheduling the
booking into a confirmed one. -/
def Call.CommitsReschedule (call : Call) (bookingId : BookingId) (db db' : Database) : Prop :=
  ∃ tenantId customerId draftId key,
    call = .customer tenantId customerId (.confirm draftId key) ∧
      ∃ before ∈ db.bookingDrafts, ∃ after ∈ db'.bookingDrafts,
        before.id = draftId ∧ after.id = draftId ∧
          before.status = .active ∧ after.status = .confirmed ∧
          before.rescheduleBookingId = some bookingId

/-- The steps that commit a reschedule of a booking. -/
def commitsReschedule (bookingId : BookingId) (s : State) (invocation : Invocation) (s' : State) :
    Prop :=
  invocation.call.CommitsReschedule bookingId s.db s'.db

section Counting

variable {cfg : Catalogue} {env : Environment} {db db' : Database} {bookingId : BookingId}
  {call : Call}

/-- Only a confirmation commits a reschedule. -/
theorem not_commitsReschedule_of_call (hother : ¬ call.IsConfirm) :
    ¬ call.CommitsReschedule bookingId db db' := by
  rintro ⟨tenantId, customerId, draftId, key, rfl, _⟩
  exact hother trivial

/-- A call that changes nothing commits no reschedule. -/
theorem not_commitsReschedule_self (hcoherent : Coherent db) :
    ¬ call.CommitsReschedule bookingId db db := by
  rintro ⟨_, _, _, _, _, before, hbefore, after, hafter, hbeforeId, hafterId, hactive, hdone, _⟩
  rw [hcoherent.draft_eq hbefore hafter (hbeforeId.trans hafterId.symm), hdone] at hactive
  cases hactive

/-- Only a confirmation of a draft that reschedules the booking commits one. -/
theorem not_commitsReschedule_of_draft (hcoherent : Coherent db) {draft : BookingDraftRow}
    (hdraft : draft ∈ db.bookingDrafts) {key : Text}
    (hother : draft.rescheduleBookingId ≠ some bookingId) :
    ¬ (Call.customer draft.tenantId draft.customerId (.confirm draft.id key)).CommitsReschedule
      bookingId db db' := by
  rintro ⟨_, _, _, _, hcall, before, hbefore, _, _, hbeforeId, _, _, _, hreschedule⟩
  cases hcall
  rw [hcoherent.draft_eq hbefore hdraft hbeforeId] at hreschedule
  exact hother hreschedule

/-- A change adds one reschedule event of a booking when it commits a reschedule
of that booking, and none otherwise. -/
theorem Change.reschedules (hcoherent : Coherent db)
    (hchange : Change cfg env db call db') :
    call.CommitsReschedule bookingId db db' ∧
        (eventsOf db' bookingId "booking.rescheduled").length =
          (eventsOf db bookingId "booking.rescheduled").length + 1 ∨
      ¬ call.CommitsReschedule bookingId db db' ∧
        (eventsOf db' bookingId "booking.rescheduled").length =
          (eventsOf db bookingId "booking.rescheduled").length := by
  cases hchange with
  | startDraft => exact .inr ⟨not_commitsReschedule_of_call id, rfl⟩
  | getActiveDraft => exact .inr ⟨not_commitsReschedule_of_call id, rfl⟩
  | selectDate => exact .inr ⟨not_commitsReschedule_of_call id, rfl⟩
  | createHold => exact .inr ⟨not_commitsReschedule_of_call id, rfl⟩
  | updateContact => exact .inr ⟨not_commitsReschedule_of_call id, rfl⟩
  | getHold => exact .inr ⟨not_commitsReschedule_of_call id, rfl⟩
  | cancelDraft => exact .inr ⟨not_commitsReschedule_of_call id, rfl⟩
  | expireHolds => exact .inr ⟨not_commitsReschedule_of_call id, rfl⟩
  | @cancelBooking booking hbooking =>
      refine .inr ⟨not_commitsReschedule_of_call id, ?_⟩
      exact (Recorded.cancel_extends hcoherent hbooking env.now
        env.serverNow).length_eventsOf_of_ne (by decide)
  | @book draft hold service key hdraft _ hreschedule _ _ _ _ _ hfresh =>
      refine .inr ⟨not_commitsReschedule_of_draft hcoherent hdraft (by simp [hreschedule]), ?_⟩
      exact (Recorded.book_extends hfresh env.now env.serverNow).length_eventsOf_of_ne (by decide)
  | @move draft hold service booking key hdraft hstatus hhold hholdId _ _ _ hbooking hreschedule
      _ _ hconfirmed =>
      have hlength := (Recorded.move_extends hcoherent hbooking hconfirmed hold service env.now
        env.serverNow).length_eventsOf bookingId "booking.rescheduled"
      by_cases hid : booking.id = bookingId
      · refine .inl ⟨⟨_, _, draft.id, _, rfl, draft, hdraft, _,
          Table.mem_update_of_selected hdraft rfl, rfl, rfl, hstatus, rfl,
          hid ▸ hreschedule⟩, ?_⟩
        rw [if_pos ⟨hid, rfl⟩] at hlength
        exact hlength
      · refine .inr ⟨not_commitsReschedule_of_draft hcoherent hdraft ?_, ?_⟩
        · rw [hreschedule]
          exact fun hsame => hid (Option.some.inj hsame)
        · rw [if_neg fun hmatch => hid hmatch.1] at hlength
          exact hlength

end Counting

/-- The reschedule events of a booking are as many as the reschedules the run
committed. -/
theorem reschedules_counted {cfg : Catalogue} {bookingId : BookingId} {s : State × ℕ}
    (hs : ((bookingSystem cfg).counting (commitsReschedule bookingId)).Reachable s) :
    (eventsOf s.1.db bookingId "booking.rescheduled").length = s.2 := by
  apply hs.invariant (I := fun s => (eventsOf s.1.db bookingId "booking.rescheduled").length = s.2)
  · rintro ⟨s, count⟩ ⟨⟨_, _, _, _, houtbox, _⟩, rfl⟩
    show (List.filter _ s.db.outboxEvents).length = 0
    rw [houtbox]
    rfl
  · rintro ⟨s, count⟩ invocation ⟨s', count'⟩ hreachable hcounted ⟨⟨_, hnext⟩, hevent⟩
    have hcoherent := coherent_of_reachable hreachable.of_counting
    cases hnext
    have hstep : (invocation.call.CommitsReschedule bookingId s.db (invocation.execute cfg s.db).2 ∧
        (eventsOf (invocation.execute cfg s.db).2 bookingId "booking.rescheduled").length =
          (eventsOf s.db bookingId "booking.rescheduled").length + 1) ∨
        (¬ invocation.call.CommitsReschedule bookingId s.db (invocation.execute cfg s.db).2 ∧
        (eventsOf (invocation.execute cfg s.db).2 bookingId "booking.rescheduled").length =
          (eventsOf s.db bookingId "booking.rescheduled").length) := by
      rcases invocation.execute_change cfg s.db with hsame | hchange
      · rw [hsame]
        exact .inr ⟨not_commitsReschedule_self hcoherent, rfl⟩
      · exact hchange.reschedules hcoherent
    rcases hevent with ⟨hcommits, hcount⟩ | ⟨hcommits, hcount⟩
    · rcases hstep with ⟨_, hlength⟩ | ⟨hno, _⟩
      · exact (hlength.trans (congrArg (· + 1) hcounted)).trans hcount.symm
      · exact absurd hcommits hno
    · rcases hstep with ⟨hyes, _⟩ | ⟨_, hlength⟩
      · exact absurd hyes hcommits
      · exact (hlength.trans hcounted).trans hcount.symm

/-- History and outbox refine the domain's state machine: over every run, the
history of a booking is a journal of allowed steps from draft to its status, and
it has one confirmation event, one event for each reschedule the run committed
and one cancellation event if it is cancelled. An operation that fails leaves
nothing behind. -/
theorem history_refines_state_machine (cfg : Catalogue) (s : State) (count : ℕ)
    (booking : BookingRow)
    (hs : ((bookingSystem cfg).counting (commitsReschedule booking.id)).Reachable (s, count))
    (hbooking : booking ∈ s.db.bookings) :
    let rows := historyOf s.db booking.id
    rows.map (·.sequence) = List.range' 1 rows.length ∧
    rows.IsChain (fun previous next => previous.toStatus = next.fromStatus) ∧
    (∀ row ∈ rows.head?, row.fromStatus = .draft) ∧
    rows ≠ [] ∧
    (∀ row ∈ rows.getLast?, row.toStatus = booking.status) ∧
    (∀ row ∈ rows, row.fromStatus.CanTransition row.toStatus) ∧
    (eventsOf s.db booking.id "booking.confirmed").length = 1 ∧
    (eventsOf s.db booking.id "booking.rescheduled").length = count ∧
    (eventsOf s.db booking.id "booking.cancelled").length =
      (if booking.status = .cancelled then 1 else 0) ∧
    (s.db.outboxEvents.map (·.eventId)).Nodup ∧
    ∀ (invocation : Invocation) (failure : Failure),
      (invocation.execute cfg s.db).1 = .error failure →
        (invocation.execute cfg s.db).2.bookingStatusHistory = s.db.bookingStatusHistory ∧
          (invocation.execute cfg s.db).2.outboxEvents = s.db.outboxEvents := by
  have hreachable : (bookingSystem cfg).Reachable s := hs.of_counting
  have hrecorded := recorded_of_reachable hreachable
  have hjournal := hrecorded.journal booking hbooking
  refine ⟨hjournal.numbers, hjournal.isChain, hjournal.head?, ?_, hjournal.getLast?,
    hjournal.allowed, hrecorded.confirmedOnce booking hbooking, reschedules_counted hs,
    hrecorded.cancelledOnce booking hbooking, hrecorded.eventIds, ?_⟩
  · intro hempty
    have hstart := hjournal.eq_start hempty
    rcases hrecorded.status booking hbooking with hstatus | hstatus
    · exact absurd (hstatus.symm.trans hstart) (by decide)
    · exact absurd (hstatus.symm.trans hstart) (by decide)
  · intro invocation failure hfailed
    rw [invocation.execute_of_error hfailed]
    exact ⟨rfl, rfl⟩

/-- A booking that was moved once has four history rows and one reschedule event,
as the run committed one reschedule. -/
theorem history_refines_state_machine_in_shop :
    let s := Shop.opened.after (Shop.catalogue 0 0)
      (Shop.takesFirstSlot 0 1000 none 1 (Shop.time 0 8 0) ++
        Shop.takesFirstSlot 0 2000 (some 1004#128) 2 (Shop.time 0 8 1))
    (historyOf s.db 1004#128).map (·.sequence) = [1, 2, 3, 4] ∧
      ∃ count, ((bookingSystem (Shop.catalogue 0 0)).counting
          (commitsReschedule 1004#128)).Reachable (s, count) ∧
        (eventsOf s.db 1004#128 "booking.rescheduled").length = count ∧ count = 1 := by
  intro s
  have hrows : (historyOf s.db 1004#128).map (·.sequence) = [1, 2, 3, 4] := by
    decide +kernel
  have hevents : (eventsOf s.db 1004#128 "booking.rescheduled").length = 1 := by
    decide +kernel
  have hbooked : ∃ booking ∈ s.db.bookings, booking.id = 1004#128 := by
    decide +kernel
  have hreachable : (bookingSystem (Shop.catalogue 0 0)).Reachable s :=
    reachable_after Shop.opened_fresh (by decide +kernel)
  obtain ⟨booking, hbooking, hid⟩ := hbooked
  obtain ⟨count, hcount⟩ := hreachable.exists_count (commitsReschedule 1004#128)
  have hrefines := history_refines_state_machine _ s count booking (hid ▸ hcount) hbooking
  rw [hid] at hrefines
  have hlength := hrefines.2.2.2.2.2.2.2.1
  exact ⟨hrows, count, hcount, hlength, hlength.symm.trans hevents⟩

end BusinessAssistant.Persistence
