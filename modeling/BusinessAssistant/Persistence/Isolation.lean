/-
# Customers are isolated from each other

What a customer asks of the store changes no row of anyone else and is answered
from the customer's view alone: the own rows, the configuration, and the periods
during which resources are occupied. Confirmation is the operation that depends on
other customers' bookings, through the exclusion constraint, and that is a matter
of occupied periods too.
-/

import BusinessAssistant.Persistence.Agreement

namespace BusinessAssistant.Persistence

open BusinessAssistant.Domain BusinessAssistant.Application BusinessAssistant.Foundation

variable {cfg : Catalogue} {env : Environment} {db db' : Database} {tenantId : TenantId}
  {customerId : CustomerId}

/-! ## The exclusion constraint -/

/-- A live booking with a service occupies its period. -/
theorem periodOn_of_timed {booking : BookingRow} {resource : ResourceRow}
    (htimed : booking.Timed cfg) (htenant : booking.tenantId = resource.tenantId)
    (hresource : booking.resourceId = some resource.id) (hlive : booking.Occupies) :
    ∃ period, booking.periodOn cfg resource = some (booking.endAt, period) ∧
      period.timeRange.start = booking.startAt := by
  obtain ⟨service, hservice, _⟩ := htimed
  have hperiod : booking.periodOn cfg resource = _ := if_pos ⟨htenant, hresource, hlive⟩
  rw [hservice, Option.map_some] at hperiod
  exact ⟨booking.busyPeriod service, hperiod, rfl⟩

/-- What occupies a period is a live booking of the resource. -/
theorem of_periodOn {booking : BookingRow} {resource : ResourceRow} {endAt : Int}
    {period : BusyPeriod} (hperiod : booking.periodOn cfg resource = some (endAt, period)) :
    booking.tenantId = resource.tenantId ∧ booking.resourceId = some resource.id ∧
      booking.Occupies ∧ booking.endAt = endAt ∧ booking.startAt = period.timeRange.start := by
  unfold BookingRow.periodOn at hperiod
  split at hperiod
  · rename_i hlive
    obtain ⟨service, _, hpair⟩ := Option.map_eq_some_iff.mp hperiod
    cases hpair
    exact ⟨hlive.1, hlive.2.1, hlive.2.2, rfl, rfl⟩
  · cases hperiod

/-- Bookings exclude each other in one database as in another with the same
view. -/
theorem SameView.excluded {now : Int} (hview : SameView cfg now (tenantId, customerId) db db')
    (h : Navigated cfg db) {booking : BookingRow} {resource : ResourceRow}
    (hresource : resource ∈ cfg.resources) (hresourceId : booking.resourceId = some resource.id)
    (htenant : booking.tenantId = resource.tenantId)
    (hown : ∀ row ∈ db'.bookings, row.id = booking.id → row.owner = (tenantId, customerId))
    (hexcluded : ∃ row ∈ db.bookings, row.id ≠ booking.id ∧ booking.Excludes row) :
    ∃ row ∈ db'.bookings, row.id ≠ booking.id ∧ booking.Excludes row := by
  obtain ⟨row, hrow, hid, hexcludes⟩ := hexcluded
  by_cases howner : row.owner = (tenantId, customerId)
  · exact ⟨row, Table.mem_of_filter_eq hview.own.bookings.symm hrow (decide_eq_true howner), hid,
      hexcludes⟩
  · obtain ⟨hblocks, hrowBlocks, hsameTenant, hsameResource, hstart, hend⟩ := hexcludes
    have hlive : row.Occupies := by
      rcases hrowBlocks.2 with hheld | hlive
      · rcases h.recorded.status row hrow with hconfirmed | hcancelled
        · exact absurd (hheld.symm.trans hconfirmed) (by decide)
        · exact absurd (hheld.symm.trans hcancelled) (by decide)
      · exact hlive
    obtain ⟨period, hperiod, hperiodStart⟩ := periodOn_of_timed (h.timed row hrow)
      (hsameTenant.symm.trans htenant) (hsameResource.symm.trans hresourceId) hlive
    have hothers := Table.perm_image_of_not_visible hview.own.bookings.symm
      (hview.booked resource hresource)
    have himage : (row.endAt, period) ∈ (db.bookings.filter fun row =>
        !Owner.own (tenantId, customerId) row.owner).filterMap (·.periodOn cfg resource) := by
      rw [List.mem_filterMap]
      exact ⟨row, List.mem_filter.mpr ⟨hrow, by simp [howner]⟩, hperiod⟩
    obtain ⟨other, hother, hotherPeriod⟩ := List.mem_filterMap.mp (hothers.mem_iff.mp himage)
    obtain ⟨hotherStored, hotherOwner⟩ := List.mem_filter.mp hother
    obtain ⟨hotherTenant, hotherResource, hotherLive, hotherEnd, hotherStart⟩ :=
      of_periodOn hotherPeriod
    refine ⟨other, hotherStored, ?_, hblocks, ⟨by rw [hotherResource]; rfl, .inr hotherLive⟩,
      htenant.trans hotherTenant.symm, hresourceId.trans hotherResource.symm, ?_, ?_⟩
    · intro hsame
      have := hown other hotherStored hsame
      simp [this] at hotherOwner
    · rw [hotherEnd]
      exact hstart
    · rw [hotherStart, hperiodStart]
      exact hend

/-- A booking of an owner that meets the unique constraints of the bookings
table. -/
structure Admitted (db : Database) (owner : Owner) (booking : BookingRow) : Prop where
  own : ∀ row ∈ db.bookings, row.id = booking.id → row.owner = owner
  reference : ∀ row ∈ db.bookings, row.tenantId = booking.tenantId → row.id ≠ booking.id →
    row.publicReference ≠ booking.publicReference
  hold : ∀ row ∈ db.bookings, row.id ≠ booking.id → row.holdId ≠ booking.holdId
  key : ∀ row ∈ db.bookings, row.tenantId = booking.tenantId → row.id ≠ booking.id →
    row.idempotencyScope = booking.idempotencyScope →
      row.idempotencyValue ≠ booking.idempotencyValue

/-- A booking drawn under an unused id and key, of an unconsumed hold. -/
theorem admitted_newBooking (hcoherent : Coherent db) {draft : BookingDraftRow}
    {hold : SlotHoldRow} {service : ServiceRow} {key : Text} {id : BookingId}
    (hhold : hold ∈ db.slotHolds) (hstatus : hold.status ≠ .consumed)
    (hkey : UnusedKey db draft.tenantId key) (hid : UnusedId db draft.tenantId id) (owner : Owner) :
    Admitted db owner (newBooking id draft hold service key) where
  own row hrow hsame := absurd hsame (hid.1 row hrow)
  reference row hrow htenant _ := hid.2 row hrow htenant
  hold row hrow _ := hcoherent.unused hhold hstatus row hrow
  key row hrow htenant _ hscope := hkey row hrow htenant hscope

/-- A stored booking, moved to an unconsumed hold. -/
theorem admitted_movedTo (h : Navigated cfg db) {booking : BookingRow} {hold : SlotHoldRow}
    {service : ServiceRow} (hbooking : booking ∈ db.bookings) (hhold : hold ∈ db.slotHolds)
    (hstatus : hold.status ≠ .consumed) :
    Admitted db booking.owner (booking.movedTo hold service) where
  own row hrow hsame := by
    rw [h.coherent.booking_eq hrow hbooking hsame]
  reference row hrow htenant hid hsame := by
    apply hid
    rw [Table.eq_of_key_eq h.bookingKeys.references hrow hbooking (Prod.ext htenant hsame)]
    rfl
  hold row hrow _ := h.coherent.unused hhold hstatus row hrow
  key row hrow htenant hid _ hsame := by
    apply hid
    rw [Table.eq_of_key_eq h.bookingKeys.unique hrow hbooking (Prod.ext htenant hsame)]
    rfl

namespace BookingStore

/-- A booking that meets the unique constraints in both databases is admitted in
one as in the other. -/
theorem checkBooking_agree {now : Int} (hview : SameView cfg now (tenantId, customerId) db db')
    (h : Navigated cfg db) (h' : Navigated cfg db') {booking : BookingRow}
    (hresource : ∃ resource ∈ cfg.resources, booking.resourceId = some resource.id ∧
      booking.tenantId = resource.tenantId)
    (hadmitted : Admitted db (tenantId, customerId) booking)
    (hadmitted' : Admitted db' (tenantId, customerId) booking) :
    Tx.Agree (checkBooking booking) db (checkBooking booking) db' := by
  obtain ⟨resource, hresource, hresourceId, htenant⟩ := hresource
  have hrun := checkBooking_run hadmitted.reference hadmitted.hold hadmitted.key
  have hrun' := checkBooking_run hadmitted'.reference hadmitted'.hold hadmitted'.key
  by_cases hexcluded : ∃ row ∈ db.bookings, row.id ≠ booking.id ∧ booking.Excludes row
  · have hexcluded' := hview.excluded h hresource hresourceId htenant hadmitted'.own hexcluded
    rw [if_neg (by simpa using hexcluded)] at hrun
    rw [if_neg (by simpa using hexcluded')] at hrun'
    exact .of_error hrun hrun'
  · have hexcluded' : ¬ ∃ row ∈ db'.bookings, row.id ≠ booking.id ∧ booking.Excludes row :=
      mt (hview.symm.excluded h' hresource hresourceId htenant hadmitted.own) hexcluded
    rw [if_pos (by simpa using hexcluded)] at hrun
    rw [if_pos (by simpa using hexcluded')] at hrun'
    exact .of_ok hrun hrun'

/-! ## Confirmation -/

theorem rescheduleBooking_agree (hview : SameView cfg env.now (tenantId, customerId) db db')
    (h : Navigated cfg db) (h' : Navigated cfg db') {hold : SlotHoldRow}
    (hhold : hold ∈ db.slotHolds) (hhold' : hold ∈ db'.slotHolds)
    (hholdTenant : hold.tenantId = tenantId) (hstatus : hold.status ≠ .consumed)
    (service : ServiceRow) (bookingId : BookingId) :
    Tx.Agree (rescheduleBooking cfg env tenantId customerId hold service bookingId) db
      (rescheduleBooking cfg env tenantId customerId hold service bookingId) db' := by
  unfold rescheduleBooking
  apply Tx.Agree.get_bind
  apply Tx.Agree.fetch_bind (hview.own.ownedBooking? bookingId)
  intro booking hfound
  obtain ⟨hbooking, htenant, hcustomer, _⟩ := Table.of_find? hfound
  obtain ⟨hbooking', _⟩ := Table.of_find? ((hview.own.ownedBooking? bookingId).symm.trans hfound)
  have howner : booking.owner = (tenantId, customerId) := Prod.ext htenant hcustomer
  apply Tx.Agree.require_bind Iff.rfl
  intro _ _
  apply Tx.Agree.fetch_bind rfl
  intro policy _
  apply Tx.Agree.require_bind Iff.rfl
  intro _ _
  have hresource : ∃ resource ∈ cfg.resources,
      (booking.movedTo hold service).resourceId = some resource.id ∧
        (booking.movedTo hold service).tenantId = resource.tenantId := by
    obtain ⟨resource, hresource, hid, hresourceTenant⟩ := h.placed hold hhold
    exact ⟨resource, hresource, congrArg some hid.symm,
      htenant.trans (hholdTenant.symm.trans hresourceTenant.symm)⟩
  have hcheck := checkBooking_agree hview h h' hresource
    (howner ▸ admitted_movedTo h hbooking hhold hstatus)
    (howner ▸ admitted_movedTo h' hbooking' hhold' hstatus)
  apply hcheck.bind
  intro _ _ _ _ _
  apply Tx.Agree.modify_bind
  exact .pure _

theorem insertBooking_agree (hview : SameView cfg env.now (tenantId, customerId) db db')
    (h : Navigated cfg db) (h' : Navigated cfg db') {draft : BookingDraftRow} {hold : SlotHoldRow}
    (hhold : hold ∈ db.slotHolds) (hhold' : hold ∈ db'.slotHolds)
    (hholdTenant : hold.tenantId = draft.tenantId) (hstatus : hold.status ≠ .consumed)
    (service : ServiceRow) {key : Text} (hkey : UnusedKey db draft.tenantId key)
    (hkey' : UnusedKey db' draft.tenantId key) (hid : UnusedId db draft.tenantId env.newId)
    (hid' : UnusedId db' draft.tenantId env.newId) :
    Tx.Agree (insertBooking env draft hold service key) db
      (insertBooking env draft hold service key) db' := by
  unfold insertBooking
  apply Tx.Agree.get_bind
  apply Tx.Agree.require_bind (iff_of_true hid.1 hid'.1)
  intro _ _
  have hresource : ∃ resource ∈ cfg.resources,
      (newBooking env.newId draft hold service key).resourceId = some resource.id ∧
        (newBooking env.newId draft hold service key).tenantId = resource.tenantId := by
    obtain ⟨resource, hresource, hresourceId, hresourceTenant⟩ := h.placed hold hhold
    exact ⟨resource, hresource, congrArg some hresourceId.symm,
      hholdTenant.symm.trans hresourceTenant.symm⟩
  have hcheck := checkBooking_agree hview h h' hresource
    (admitted_newBooking h.coherent hhold hstatus hkey hid _)
    (admitted_newBooking h'.coherent hhold' hstatus hkey' hid' _)
  apply hcheck.bind
  intro _ _ _ _ _
  apply Tx.Agree.modify_bind
  exact .pure _

/-- Past the replay lookups, a confirmation depends on the customer's view. -/
theorem confirmDraft_agree (hview : SameView cfg env.now (tenantId, customerId) db db')
    (h : Navigated cfg db) (h' : Navigated cfg db') (draftId : BookingDraftId) {key : Text}
    (hkey : UnusedKey db tenantId key) (hkey' : UnusedKey db' tenantId key)
    (hid : UnusedId db tenantId env.newId) (hid' : UnusedId db' tenantId env.newId) :
    Tx.Agree (confirmDraft cfg env tenantId customerId draftId key) db
      (confirmDraft cfg env tenantId customerId draftId key) db' := by
  unfold confirmDraft
  apply Tx.Agree.get_bind
  apply ownedDraft_bind_agree hview.own
  intro draft _ _ howner _
  have htenant : draft.tenantId = tenantId := congrArg Prod.fst howner
  have hfound : (db.slotHolds.find? fun row => row.tenantId = tenantId ∧
      row.customerId = customerId ∧ draft.holdId = some row.id) =
        db'.slotHolds.find? fun row => row.tenantId = tenantId ∧
          row.customerId = customerId ∧ draft.holdId = some row.id :=
    hview.own.findHold (fun _ _ hrow => Prod.ext hrow.1 hrow.2.1)
      fun _ _ hrow => Prod.ext hrow.1 hrow.2.1
  apply Tx.Agree.require_bind Iff.rfl
  intro _ _
  apply Tx.Agree.fetch_bind hfound
  intro hold hstored
  obtain ⟨hhold, hholdTenant, _⟩ := Table.of_find? hstored
  obtain ⟨hhold', _⟩ := Table.of_find? (hfound.symm.trans hstored)
  apply Tx.Agree.require_bind Iff.rfl
  intro hunexpired _
  have hstatus : hold.status ≠ .consumed := by
    rw [hunexpired.1]
    decide
  apply Tx.Agree.fetch_bind rfl
  intro service _
  cases draft.rescheduleBookingId with
  | some bookingId =>
      apply (rescheduleBooking_agree hview h h' hhold hhold' hholdTenant hstatus service
        bookingId).bind
      intro booking _ _ _ _
      apply Tx.Agree.modify_bind
      exact .lift _
  | none =>
      rw [← htenant] at hkey hkey' hid hid' hholdTenant
      apply (insertBooking_agree hview h h' hhold hhold' hholdTenant hstatus service hkey hkey' hid
        hid').bind
      intro booking _ _ _ _
      apply Tx.Agree.modify_bind
      exact .lift _

/-! ## The replay lookups -/

/-- The lookups answer alike for a draft of the customer. -/
theorem replayedBooking_agree (hpart : SamePart (Owner.own (tenantId, customerId)) db db')
    (h : Navigated cfg db) (h' : Navigated cfg db') {draft : BookingDraftRow}
    (hdraft : draft ∈ db.bookingDrafts) (hdraft' : draft ∈ db'.bookingDrafts)
    (howner : draft.owner = (tenantId, customerId)) :
    replayedBooking db tenantId customerId draft.id (confirmKey draft.id) =
      replayedBooking db' tenantId customerId draft.id (confirmKey draft.id) := by
  have hstored : (db.bookings.find? fun row => row.tenantId = tenantId ∧
      row.idempotencyScope = "confirm" ∧ row.idempotencyValue = confirmKey draft.id) =
        db'.bookings.find? fun row => row.tenantId = tenantId ∧
          row.idempotencyScope = "confirm" ∧ row.idempotencyValue = confirmKey draft.id := by
    apply hpart.findBooking
    · rintro row hrow ⟨_, _, hvalue⟩
      obtain ⟨other, hother, hid, hotherOwner⟩ := h.booking_owner hrow hvalue
      rw [← hotherOwner, h.coherent.draft_eq hother hdraft hid, howner]
    · rintro row hrow ⟨_, _, hvalue⟩
      obtain ⟨other, hother, hid, hotherOwner⟩ := h'.booking_owner hrow hvalue
      rw [← hotherOwner, h'.coherent.draft_eq hother hdraft' hid, howner]
  have hconfirmed : (db.bookingDrafts.find? fun row => row.tenantId = tenantId ∧
      row.customerId = customerId ∧ row.id = draft.id ∧ row.status = .confirmed) =
        db'.bookingDrafts.find? fun row => row.tenantId = tenantId ∧
          row.customerId = customerId ∧ row.id = draft.id ∧ row.status = .confirmed :=
    hpart.findDraft fun _ hrow => Prod.ext hrow.1 hrow.2.1
  have hbooked : ∀ holdId, (db.bookings.find? fun row => row.tenantId = tenantId ∧
      row.customerId = customerId ∧ row.holdId = some holdId) =
        db'.bookings.find? fun row => row.tenantId = tenantId ∧
          row.customerId = customerId ∧ row.holdId = some holdId :=
    fun _ => hpart.findBooking (fun _ _ hrow => Prod.ext hrow.1 hrow.2.1)
      fun _ _ hrow => Prod.ext hrow.1 hrow.2.1
  unfold replayedBooking
  rw [hstored, hconfirmed]
  simp only [hbooked]

/-- For a draft the customer does not have, they find nothing the customer is
shown. -/
theorem replayedBooking_missing (h : Navigated cfg db) {draftId : BookingDraftId}
    (hmissing : ∀ draft ∈ db.bookingDrafts, draft.owner = (tenantId, customerId) →
      draft.id ≠ draftId) :
    replayedBooking db tenantId customerId draftId (confirmKey draftId) = .ok none ∨
      replayedBooking db tenantId customerId draftId (confirmKey draftId) =
        .error .bookingNotFound := by
  have hconfirmed : (db.bookingDrafts.find? fun row => row.tenantId = tenantId ∧
      row.customerId = customerId ∧ row.id = draftId ∧ row.status = .confirmed) = none := by
    rw [List.find?_eq_none]
    intro row hrow hmatch
    obtain ⟨htenant, hcustomer, hid, _⟩ := of_decide_eq_true hmatch
    exact hmissing row hrow (Prod.ext htenant hcustomer) hid
  unfold replayedBooking
  cases hfound : db.bookings.find? fun row => row.tenantId = tenantId ∧
      row.idempotencyScope = "confirm" ∧ row.idempotencyValue = confirmKey draftId with
  | none =>
      rw [hconfirmed]
      exact .inl rfl
  | some existing =>
      obtain ⟨hexisting, htenant, _, hvalue⟩ := Table.of_find? hfound
      obtain ⟨draft, hdraft, hid, howner⟩ := h.booking_owner hexisting hvalue
      have hother : existing.customerId ≠ customerId := by
        intro hcustomer
        exact hmissing draft hdraft (howner.trans (Prod.ext htenant hcustomer)) hid
      exact .inr (if_neg hother)

/-- The key of a draft the customer does not have confirms nothing. -/
theorem confirm_missing (h : Navigated cfg db) {draftId : BookingDraftId}
    (hvalid : confirmKey draftId ≠ [] ∧ (confirmKey draftId).length ≤ 255)
    (hmissing : ∀ draft ∈ db.bookingDrafts, draft.owner = (tenantId, customerId) →
      draft.id ≠ draftId) :
    (confirm cfg env tenantId customerId draftId (confirmKey draftId)).run db =
      .error .bookingNotFound := by
  unfold confirm
  rw [Tx.run_require_bind, if_pos hvalid]
  show _ = Except.error (conflictOfIntegrity .bookingNotFound)
  apply Tx.run_mapError_of_error
  rw [Tx.run_get_bind]
  rcases replayedBooking_missing h hmissing with hnone | hother
  · rw [hnone, Tx.run_lift_bind_ok]
    show (confirmDraft cfg env tenantId customerId draftId _).run db = _
    unfold confirmDraft
    rw [Tx.run_get_bind]
    exact Tx.run_bind_of_error (ownedDraft_missing hmissing)
  · rw [hother]
    rfl

theorem confirm_agree (hview : SameView cfg env.now (tenantId, customerId) db db')
    (h : Navigated cfg db) (h' : Navigated cfg db') (draftId : BookingDraftId)
    (hid : UnusedId db tenantId env.newId) (hid' : UnusedId db' tenantId env.newId) :
    Tx.Agree (confirm cfg env tenantId customerId draftId (confirmKey draftId)) db
      (confirm cfg env tenantId customerId draftId (confirmKey draftId)) db' := by
  by_cases hvalid : confirmKey draftId ≠ [] ∧ (confirmKey draftId).length ≤ 255
  · rcases hview.own.draft_cases draftId with
      ⟨draft, hdraft, hdraft', howner, rfl⟩ | ⟨hmissing, hmissing'⟩
    · have hreplayed := replayedBooking_agree hview.own h h' hdraft hdraft' howner
      unfold confirm
      apply Tx.Agree.require_bind Iff.rfl
      intro _ _
      apply Tx.Agree.mapError
      apply Tx.Agree.get_bind
      apply Tx.Agree.lift_bind hreplayed
      intro replayed hfound
      cases replayed with
      | some booking => exact .lift _
      | none =>
          exact confirmDraft_agree hview h h' draft.id (replayedBooking_none hfound)
            (replayedBooking_none (hreplayed.symm.trans hfound)) hid hid'
    · exact .of_error (confirm_missing h hvalid hmissing) (confirm_missing h' hvalid hmissing')
  · unfold confirm
    apply Tx.Agree.require_bind Iff.rfl
    intro hvalid' _
    exact absurd hvalid' hvalid

end BookingStore

/-! ## Every operation -/

/-- An id nothing is stored under, whose reference is not in use. -/
structure UnusedDraw (db : Database) (tenantId : TenantId) (id : UUID) : Prop where
  drafts : ∀ row ∈ db.bookingDrafts, row.id ≠ id
  holds : ∀ row ∈ db.slotHolds, row.id ≠ id
  bookings : UnusedId db tenantId id

/-- What a customer is answered depends on the customer's view. -/
theorem request_agree (hview : SameView cfg env.now (tenantId, customerId) db db')
    (h : Navigated cfg db) (h' : Navigated cfg db') (hdraw : UnusedDraw db tenantId env.newId)
    (hdraw' : UnusedDraw db' tenantId env.newId) {request : Request}
    (hholdKey : request.UsesHoldKey) (hconfirmKey : request.UsesConfirmKey) :
    Tx.Agree (request.transaction cfg env tenantId customerId) db
      (request.transaction cfg env tenantId customerId) db' := by
  cases request with
  | startDraft conversationId serviceId rescheduleBookingId =>
      exact (BookingStore.startDraft_agree hview hdraw.drafts hdraw'.drafts conversationId serviceId
        rescheduleBookingId).map _
  | getActiveDraft conversationId =>
      exact (BookingStore.getActiveDraft_agree hview.own conversationId).map _
  | selectDate draftId selectedDate =>
      exact (BookingStore.selectDate_agree hview.own draftId selectedDate).map _
  | createHold draftId slotIndex key =>
      exact (BookingStore.createHold_agree hview h h' hdraw.holds hdraw'.holds slotIndex
        (hholdKey _ rfl)).map _
  | updateContact draftId name phone note =>
      exact (BookingStore.updateContact_agree hview.own draftId name phone note).map _
  | getHold draftId => exact (BookingStore.getHold_agree hview.own draftId).map _
  | cancelDraft conversationId =>
      exact (BookingStore.cancelDraft_agree hview.own conversationId).map _
  | confirm draftId key =>
      have hkey : key = confirmKey draftId := hconfirmKey _ rfl
      subst hkey
      exact (BookingStore.confirm_agree hview h h' draftId hdraw.bookings hdraw'.bookings).map _
  | latestBooking => exact (BookingStore.latestBooking_agree hview.own).map _
  | getBooking bookingId => exact (BookingStore.getBooking_agree hview.own bookingId).map _
  | cancelBooking bookingId => exact (BookingStore.cancelBooking_agree hview.own bookingId).map _
  | bookingHistory bookingId => exact (BookingStore.bookingHistory_agree hview.own bookingId).map _

/-- A request leaves the rows of everyone else as they are. -/
theorem request_samePart (hcoherent : Coherent db) (request : Request) :
    SamePart (Owner.others (tenantId, customerId)) db
      (Invocation.execute cfg
        { call := .customer tenantId customerId request, env := env } db).2 := by
  rcases Invocation.execute_change cfg db
      { call := .customer tenantId customerId request, env := env } with hsame | hchange
  · rw [hsame]
    exact .refl db
  · exact hchange.samePart hcoherent

/-- In every reachable state, an operation a customer asks for changes no row of
anyone else, and is answered as in every other reachable state in which the
customer sees the same. -/
theorem customers_isolated (cfg : Catalogue) (s : State) (hs : (navigationSystem cfg).Reachable s)
    (env : Environment) (tenantId : TenantId) (customerId : CustomerId) (request : Request)
    (hholdKey : request.UsesHoldKey) (hconfirmKey : request.UsesConfirmKey) :
    let invocation : Invocation :=
      { call := .customer tenantId customerId request, env := env }
    SamePart (Owner.others (tenantId, customerId)) s.db (invocation.execute cfg s.db).2 ∧
      ∀ s' : State, (navigationSystem cfg).Reachable s' →
        SameView cfg env.now (tenantId, customerId) s.db s'.db →
          UnusedDraw s.db tenantId env.newId → UnusedDraw s'.db tenantId env.newId →
            (invocation.execute cfg s.db).1 = (invocation.execute cfg s'.db).1 := by
  intro invocation
  refine ⟨request_samePart (coherent_of_reachable hs.of_restrict) request, ?_⟩
  intro s' hs' hview hdraw hdraw'
  exact request_agree hview (navigated_of_reachable hs) (navigated_of_reachable hs') hdraw hdraw'
    hholdKey hconfirmKey

/-- Whether one customer or another took the slot at nine, a third who has opened
a draft is offered and holds the next. -/
theorem customers_isolated_in_shop :
    let cfg := Shop.catalogue 0 0
    let reached (other first : Nat) := Shop.opened.after cfg
      ((Shop.takesFirstSlot 0 1000 none 0 (Shop.time 0 8 0)).take 2 ++
        Shop.takesFirstSlot other first none 0 (Shop.time 0 8 1))
    let holds := Shop.asks 0 (Shop.time 0 8 2) (2 ^ 96)
      (.createHold 1000#128 0 (holdKey 1000#128 "570".toList))
    (holds.execute cfg (reached 1 2000).db).1.toBool = true ∧
      (holds.execute cfg (reached 1 2000).db).1 = (holds.execute cfg (reached 2 3000).db).1 := by
  intro cfg reached holds
  have hreached : (navigationSystem cfg).Reachable (reached 1 2000) :=
    reachable_after_of_follows Shop.opened_fresh (by decide +kernel)
  have hreached' : (navigationSystem cfg).Reachable (reached 2 3000) :=
    reachable_after_of_follows Shop.opened_fresh (by decide +kernel)
  have hview : SameView cfg holds.env.now (Shop.tenantId, Shop.customerId 0) (reached 1 2000).db
      (reached 2 3000).db := by
    refine ⟨⟨?_, ?_, ?_, ?_, ?_, ?_⟩, ?_, ?_⟩ <;> decide +kernel
  have hdraw : UnusedDraw (reached 1 2000).db Shop.tenantId holds.env.newId := by
    refine ⟨?_, ?_, ?_⟩ <;> decide +kernel
  have hdraw' : UnusedDraw (reached 2 3000).db Shop.tenantId holds.env.newId := by
    refine ⟨?_, ?_, ?_⟩ <;> decide +kernel
  have hisolated := customers_isolated cfg (reached 1 2000) hreached holds.env Shop.tenantId
    (Shop.customerId 0) (.createHold 1000#128 0 (holdKey 1000#128 "570".toList)) (by decide +kernel)
    (by decide +kernel)
  exact ⟨by decide +kernel, hisolated.2 (reached 2 3000) hreached' hview hdraw hdraw'⟩

end BusinessAssistant.Persistence
