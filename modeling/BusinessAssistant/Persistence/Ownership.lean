/-
# Whose rows a request writes

Every row belongs to a customer of a tenant; a history row or an event belongs to
whom its booking belongs to. A request of one customer leaves the rows of every
other owner as they are.
-/

import BusinessAssistant.Persistence.Coherence

namespace BusinessAssistant.Persistence

open BusinessAssistant.Domain BusinessAssistant.Application BusinessAssistant.Foundation

/-- A customer of a tenant. -/
abbrev Owner : Type := TenantId × CustomerId

def ConversationRow.owner (row : ConversationRow) : Owner := (row.tenantId, row.customerId)
def BookingDraftRow.owner (row : BookingDraftRow) : Owner := (row.tenantId, row.customerId)
def SlotHoldRow.owner (row : SlotHoldRow) : Owner := (row.tenantId, row.customerId)
def BookingRow.owner (row : BookingRow) : Owner := (row.tenantId, row.customerId)

/-- The ids of the bookings of some owners. -/
def Database.bookingIdsOf (db : Database) (visible : Owner → Bool) : List BookingId :=
  (db.bookings.filter fun row => visible row.owner).map (·.id)

/-- Two databases have the same rows of some owners. -/
structure SamePart (visible : Owner → Bool) (db db' : Database) : Prop where
  conversations : db'.conversations.filter (visible ·.owner) =
    db.conversations.filter (visible ·.owner)
  bookingDrafts : db'.bookingDrafts.filter (visible ·.owner) =
    db.bookingDrafts.filter (visible ·.owner)
  slotHolds : db'.slotHolds.filter (visible ·.owner) = db.slotHolds.filter (visible ·.owner)
  bookings : db'.bookings.filter (visible ·.owner) = db.bookings.filter (visible ·.owner)
  bookingStatusHistory :
    db'.bookingStatusHistory.filter (·.bookingId ∈ db'.bookingIdsOf visible) =
      db.bookingStatusHistory.filter (·.bookingId ∈ db.bookingIdsOf visible)
  outboxEvents : db'.outboxEvents.filter (·.aggregateId ∈ db'.bookingIdsOf visible) =
    db.outboxEvents.filter (·.aggregateId ∈ db.bookingIdsOf visible)

namespace SamePart

variable {visible : Owner → Bool} {db db' : Database}

theorem refl (db : Database) : SamePart visible db db where
  conversations := rfl
  bookingDrafts := rfl
  slotHolds := rfl
  bookings := rfl
  bookingStatusHistory := rfl
  outboxEvents := rfl

theorem symm (h : SamePart visible db db') : SamePart visible db' db where
  conversations := h.conversations.symm
  bookingDrafts := h.bookingDrafts.symm
  slotHolds := h.slotHolds.symm
  bookings := h.bookings.symm
  bookingStatusHistory := h.bookingStatusHistory.symm
  outboxEvents := h.outboxEvents.symm

theorem bookingIdsOf (h : SamePart visible db db') :
    db'.bookingIdsOf visible = db.bookingIdsOf visible := by
  unfold Database.bookingIdsOf
  rw [h.bookings]

theorem trans {middle : Database} (hfirst : SamePart visible db middle)
    (hsecond : SamePart visible middle db') : SamePart visible db db' where
  conversations := hsecond.conversations.trans hfirst.conversations
  bookingDrafts := hsecond.bookingDrafts.trans hfirst.bookingDrafts
  slotHolds := hsecond.slotHolds.trans hfirst.slotHolds
  bookings := hsecond.bookings.trans hfirst.bookings
  bookingStatusHistory := hsecond.bookingStatusHistory.trans hfirst.bookingStatusHistory
  outboxEvents := hsecond.outboxEvents.trans hfirst.outboxEvents

/-- A write that touches no booking, history row or event. -/
theorem of_drafts
    (hconversations : db'.conversations.filter (visible ·.owner) =
      db.conversations.filter (visible ·.owner))
    (hdrafts : db'.bookingDrafts.filter (visible ·.owner) =
      db.bookingDrafts.filter (visible ·.owner))
    (hholds : db'.slotHolds.filter (visible ·.owner) = db.slotHolds.filter (visible ·.owner))
    (hbookings : db'.bookings = db.bookings)
    (hhistory : db'.bookingStatusHistory = db.bookingStatusHistory)
    (hevents : db'.outboxEvents = db.outboxEvents) : SamePart visible db db' := by
  have hids : db'.bookingIdsOf visible = db.bookingIdsOf visible := by
    unfold Database.bookingIdsOf
    rw [hbookings]
  refine ⟨hconversations, hdrafts, hholds, by rw [hbookings], ?_, ?_⟩
  · rw [hids, hhistory]
  · rw [hids, hevents]

end SamePart

/-- The rows of everyone but one owner. -/
abbrev Owner.others (owner other : Owner) : Bool := other ≠ owner

section Frame

variable {cfg : Catalogue} {env : Environment} {db db' : Database} {owner : Owner}

/-- Writing history and an event of the owner's own booking, and rewriting the
owner's bookings, leaves every other owner's. -/
theorem samePart_record {bookings : List BookingRow} (booking : BookingRow)
    (hbookings : bookings.filter (owner.others ·.owner) = db.bookings.filter (owner.others ·.owner))
    (hbooking : ∀ row ∈ db.bookings, row.id = booking.id → row.owner = owner)
    {rows : List BookingStatusHistoryRow} (hrows : ∀ row ∈ rows, row.bookingId = booking.id)
    {event : OutboxEventRow} (hevent : event.aggregateId = booking.id) :
    SamePart owner.others db ({ db with bookings := bookings }.record rows event) := by
  have hids : ({ db with bookings := bookings }.record rows event).bookingIdsOf owner.others =
      db.bookingIdsOf owner.others := by
    unfold Database.bookingIdsOf
    exact congrArg (List.map _) hbookings
  have hhidden : booking.id ∉ db.bookingIdsOf owner.others := by
    intro hmem
    obtain ⟨row, hrow, hid⟩ := List.mem_map.mp hmem
    obtain ⟨hstored, hother⟩ := List.mem_filter.mp hrow
    exact (of_decide_eq_true hother) (hbooking row hstored hid)
  refine ⟨rfl, rfl, rfl, hbookings, ?_, ?_⟩
  · rw [hids, Database.record_bookingStatusHistory, List.filter_append]
    have hnone : rows.filter (·.bookingId ∈ db.bookingIdsOf owner.others) = [] := by
      rw [List.filter_eq_nil_iff]
      intro row hrow hmem
      exact hhidden (hrows row hrow ▸ of_decide_eq_true hmem)
    rw [hnone, List.append_nil]
  · rw [hids, Database.record_outboxEvents, List.filter_append]
    have hnone : [event].filter (·.aggregateId ∈ db.bookingIdsOf owner.others) = [] := by
      rw [List.filter_eq_nil_iff]
      intro other hother hmem
      rw [List.mem_singleton.mp hother, hevent] at hmem
      exact hhidden (of_decide_eq_true hmem)
    rw [hnone, List.append_nil]

/-- Rows of a draft's id are the draft. -/
theorem Coherent.draft_owner (hcoherent : Coherent db) {draft : BookingDraftRow}
    (hdraft : draft ∈ db.bookingDrafts) :
    ∀ row ∈ db.bookingDrafts, row.id = draft.id → row.owner = draft.owner := by
  intro row hrow hid
  rw [hcoherent.draft_eq hrow hdraft hid]

/-- The conversation of a draft is its customer's. -/
theorem Coherent.conversation_owner (hcoherent : Coherent db) {draft : BookingDraftRow}
    (hconversation : ∃ row ∈ db.conversations, row.tenantId = draft.tenantId ∧
      row.id = draft.conversationId ∧ row.customerId = draft.customerId) :
    ∀ row ∈ db.conversations, row.tenantId = draft.tenantId ∧ row.id = draft.conversationId →
      row.owner = draft.owner := by
  obtain ⟨own, hown, htenant, hid, hcustomer⟩ := hconversation
  rintro row hrow ⟨_, hrowId⟩
  rw [Table.eq_of_key_eq hcoherent.conversationIds hrow hown (hrowId.trans hid.symm)]
  exact Prod.ext htenant hcustomer

/-- The hold a draft names is its customer's. -/
theorem Coherent.hold_owner (hcoherent : Coherent db) {draft : BookingDraftRow}
    (hdraft : draft ∈ db.bookingDrafts) :
    ∀ row ∈ db.slotHolds, draft.holdId = some row.id → row.owner = draft.owner := by
  intro row hrow hid
  have htaken := hcoherent.takenOn_of_holdId hrow hdraft hid
  exact Prod.ext htaken.tenantId htaken.customerId

/-- Settling a draft touches the draft's own rows. -/
theorem samePart_settleDraft (hcoherent : Coherent db) {draft : BookingDraftRow}
    (hdraft : draft ∈ db.bookingDrafts) {hold : SlotHoldRow} (hhold : hold ∈ db.slotHolds)
    (hholdId : draft.holdId = some hold.id) (written : Database)
    (hconversations : written.conversations = db.conversations)
    (hdrafts : written.bookingDrafts = db.bookingDrafts)
    (hholds : written.slotHolds = db.slotHolds) :
    SamePart (Owner.others draft.owner) written (written.settleDraft draft hold) := by
  refine SamePart.of_drafts ?_ ?_ ?_ rfl rfl rfl
  · refine Table.filter_ne_update ?_ fun _ => rfl
    show ∀ row ∈ written.conversations, _
    rw [hconversations]
    exact hcoherent.conversation_owner (hcoherent.conversation draft hdraft)
  · refine Table.filter_ne_update ?_ fun _ => rfl
    show ∀ row ∈ written.bookingDrafts, _
    rw [hdrafts]
    exact hcoherent.draft_owner hdraft
  · refine Table.filter_ne_update ?_ fun _ => rfl
    show ∀ row ∈ written.slotHolds, _
    rw [hholds]
    intro row hrow hid
    rw [hcoherent.hold_eq hrow hhold hid]
    exact hcoherent.hold_owner hdraft hold hhold hholdId

/-! ### The changes -/

theorem samePart_openDraft (hcoherent : Coherent db) {draft : BookingDraftRow}
    (hconversation : ∃ row ∈ db.conversations, row.tenantId = draft.tenantId ∧
      row.id = draft.conversationId ∧ row.customerId = draft.customerId) :
    SamePart (Owner.others draft.owner) db (db.openDraft draft) := by
  refine SamePart.of_drafts ?_ ?_ ?_ rfl rfl rfl
  · exact Table.filter_ne_update (hcoherent.conversation_owner hconversation) fun _ => rfl
  · refine (Table.filter_ne_append_row rfl).trans (Table.filter_ne_update ?_ fun _ => rfl)
    rintro row _ ⟨⟨htenant, hcustomer, _⟩, _⟩
    exact Prod.ext htenant hcustomer
  · refine Table.filter_ne_update ?_ fun _ => rfl
    rintro row _ ⟨⟨htenant, hcustomer, _⟩, _⟩
    exact Prod.ext htenant hcustomer

theorem samePart_expireDraft (hcoherent : Coherent db) {draft : BookingDraftRow}
    (hdraft : draft ∈ db.bookingDrafts) :
    SamePart (Owner.others draft.owner) db (db.expireDraft draft) := by
  refine SamePart.of_drafts rfl ?_ ?_ rfl rfl rfl
  · exact Table.filter_ne_update (hcoherent.draft_owner hdraft) fun _ => rfl
  · refine Table.filter_ne_update ?_ fun _ => rfl
    intro row hrow hselected
    exact hcoherent.hold_owner hdraft row hrow hselected.1.2

theorem samePart_placeHold (hcoherent : Coherent db) {draft : BookingDraftRow}
    (hdraft : draft ∈ db.bookingDrafts) {hold : SlotHoldRow} (hhold : hold.owner = draft.owner) :
    SamePart (Owner.others draft.owner) db ((db.releaseHold draft).placeHold draft hold) := by
  rw [Database.releaseHold_placeHold]
  refine SamePart.of_drafts ?_ ?_ ?_ rfl rfl rfl
  · exact Table.filter_ne_update
      (hcoherent.conversation_owner (hcoherent.conversation _ hdraft)) fun _ => rfl
  · exact Table.filter_ne_update (hcoherent.draft_owner hdraft) fun _ => rfl
  · refine Eq.trans (Table.filter_ne_append_row hhold) (Table.filter_ne_update ?_ fun _ => rfl)
    intro row hrow hselected
    exact hcoherent.hold_owner hdraft row hrow hselected.1.2

theorem samePart_writeContact (hcoherent : Coherent db) {draft : BookingDraftRow}
    (hdraft : draft ∈ db.bookingDrafts) (name phone note : Option Text) (workflow : String) :
    SamePart (Owner.others draft.owner) db (db.writeContact draft name phone note workflow) := by
  refine SamePart.of_drafts ?_ ?_ rfl rfl rfl rfl
  · exact Table.filter_ne_update
      (hcoherent.conversation_owner (hcoherent.conversation _ hdraft)) fun _ => rfl
  · exact Table.filter_ne_update (hcoherent.draft_owner hdraft) fun _ => rfl

/-- The abandoned drafts are one customer's, and so are their holds. -/
theorem samePart_abandonDrafts (hcoherent : Coherent db) {tenantId : TenantId}
    {customerId : CustomerId} {conversationId : ConversationId} {ids : List BookingDraftId}
    (hids : ids = (db.bookingDrafts.filter fun row =>
      row.OfIdentity tenantId customerId conversationId ∧ row.status = .active).map (·.id))
    (hany : ids ≠ []) :
    SamePart (Owner.others (tenantId, customerId)) db
      (db.abandonDrafts ids tenantId conversationId) := by
  have hselected : ∀ row ∈ db.bookingDrafts, row.id ∈ ids →
      row.OfIdentity tenantId customerId conversationId := by
    intro row hrow hid
    rw [hids] at hid
    obtain ⟨listed, hlisted, hlistedId⟩ := List.mem_map.mp hid
    obtain ⟨hlistedMem, hcondition⟩ := List.mem_filter.mp hlisted
    rw [← hcoherent.draft_eq hlistedMem hrow hlistedId]
    exact (of_decide_eq_true hcondition).1
  have hlisted : ∀ id ∈ ids, ∃ row ∈ db.bookingDrafts, row.id = id := by
    intro id hid
    rw [hids] at hid
    obtain ⟨row, hrow, hrowId⟩ := List.mem_map.mp hid
    exact ⟨row, (List.mem_filter.mp hrow).1, hrowId⟩
  refine SamePart.of_drafts ?_ ?_ ?_ rfl rfl rfl
  · refine Table.filter_ne_update ?_ fun _ => rfl
    obtain ⟨id, hid⟩ := List.exists_mem_of_ne_nil ids hany
    obtain ⟨draft, hdraft, rfl⟩ := hlisted id hid
    obtain ⟨rfl, rfl, rfl⟩ := hselected draft hdraft hid
    exact hcoherent.conversation_owner (hcoherent.conversation draft hdraft)
  · refine Table.filter_ne_update ?_ fun _ => rfl
    intro row hrow hid
    obtain ⟨htenant, hcustomer, _⟩ := hselected row hrow hid
    exact Prod.ext htenant hcustomer
  · refine Table.filter_ne_update ?_ fun _ => rfl
    rintro row hrow ⟨⟨_, hid⟩, _⟩
    obtain ⟨draft, hdraft, htaken⟩ := hcoherent.draftOfHold row hrow
    obtain ⟨htenant, hcustomer, _⟩ := hselected draft hdraft (htaken.draftId ▸ hid)
    exact Prod.ext (htaken.tenantId.trans htenant) (htaken.customerId.trans hcustomer)

theorem samePart_book (booking : BookingRow) (hfresh : ∀ row ∈ db.bookings, row.id ≠ booking.id)
    (now serverNow : Int) :
    SamePart (Owner.others booking.owner) db (db.book booking now serverNow) := by
  apply samePart_record booking
  · exact Table.filter_ne_append_row rfl
  · intro row hrow hid
    exact absurd hid (hfresh row hrow)
  · intro row hrow
    rcases List.mem_cons.mp hrow with rfl | hrest
    · rfl
    · rw [List.mem_singleton.mp hrest]
      rfl
  · rfl

/-- Rows of a booking's id are the booking. -/
theorem Coherent.booking_owner (hcoherent : Coherent db) {booking : BookingRow}
    (hbooking : booking ∈ db.bookings) :
    ∀ row ∈ db.bookings, row.id = booking.id → row.owner = booking.owner := by
  intro row hrow hid
  rw [hcoherent.booking_eq hrow hbooking hid]

theorem samePart_move (hcoherent : Coherent db) {booking : BookingRow}
    (hbooking : booking ∈ db.bookings) (hold : SlotHoldRow) (service : ServiceRow)
    (now serverNow : Int) :
    SamePart (Owner.others booking.owner) db (db.move booking hold service now serverNow) := by
  apply samePart_record booking
  · exact Table.filter_ne_update (hcoherent.booking_owner hbooking) fun _ => rfl
  · exact hcoherent.booking_owner hbooking
  · intro row hrow
    rcases List.mem_cons.mp hrow with rfl | hrest
    · rfl
    · rw [List.mem_singleton.mp hrest]
      rfl
  · rfl

theorem samePart_cancel (hcoherent : Coherent db) {booking : BookingRow}
    (hbooking : booking ∈ db.bookings) (now serverNow : Int) :
    SamePart (Owner.others booking.owner) db (db.cancel booking now serverNow) := by
  apply samePart_record booking
  · exact Table.filter_ne_update (hcoherent.booking_owner hbooking) fun _ => rfl
  · exact hcoherent.booking_owner hbooking
  · intro row hrow
    rw [List.mem_singleton.mp hrow]
    rfl
  · rfl

/-- A change one customer asks for leaves the rows of every other owner. -/
theorem Change.samePart {tenantId : TenantId} {customerId : CustomerId} {request : Request}
    (hcoherent : Coherent db)
    (hchange : Change cfg env db (.customer tenantId customerId request) db') :
    SamePart (Owner.others (tenantId, customerId)) db db' := by
  cases hchange with
  | startDraft draft hid hstatus hhold hconversation =>
      exact samePart_openDraft hcoherent hconversation
  | getActiveDraft hdraft => exact samePart_expireDraft hcoherent hdraft
  | selectDate hdraft =>
      refine SamePart.of_drafts rfl ?_ rfl rfl rfl rfl
      exact Table.filter_ne_update (hcoherent.draft_owner hdraft) fun _ => rfl
  | createHold hdraft => exact samePart_placeHold hcoherent hdraft rfl
  | updateContact hdraft => exact samePart_writeContact hcoherent hdraft ..
  | getHold hhold =>
      refine SamePart.of_drafts rfl rfl ?_ rfl rfl rfl
      refine Table.filter_ne_update ?_ fun _ => rfl
      intro row hrow hid
      rw [hcoherent.hold_eq hrow hhold hid]
      rfl
  | cancelDraft hids hany => exact samePart_abandonDrafts hcoherent hids hany
  | @book draft hold service key hdraft _ _ hhold hholdId _ _ _ hfresh =>
      have hbook : SamePart (Owner.others draft.owner) db
          (db.book (newBooking env.newId draft hold service key) env.now env.serverNow) :=
        samePart_book (newBooking env.newId draft hold service key) hfresh env.now env.serverNow
      exact hbook.trans (samePart_settleDraft hcoherent hdraft hhold hholdId _ rfl rfl rfl)
  | @move draft hold service booking key hdraft _ hhold hholdId _ _ _ hbooking _ htenant hcustomer =>
      have howner : booking.owner = draft.owner := Prod.ext htenant hcustomer
      have hmove := samePart_move hcoherent hbooking hold service env.now env.serverNow
      rw [howner] at hmove
      exact hmove.trans (samePart_settleDraft hcoherent hdraft hhold hholdId _ rfl rfl rfl)
  | cancelBooking hbooking => exact samePart_cancel hcoherent hbooking env.now env.serverNow

end Frame

end BusinessAssistant.Persistence
