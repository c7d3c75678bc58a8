/-
# Drafts, holds and bookings agree

The invariant that ties the three tables together. It is kept by each kind of
write under the guard the write needs, so a transaction keeps it because it is a
composition of writes; the intermediate databases are coherent too, once the
writes are put in the right order.
-/

import BusinessAssistant.Persistence.Changes
import BusinessAssistant.Persistence.Runs

namespace BusinessAssistant.Persistence

open BusinessAssistant.Domain BusinessAssistant.Application BusinessAssistant.Foundation

/-- A hold taken on a draft: it repeats who the draft is for and which service. -/
structure SlotHoldRow.TakenOn (hold : SlotHoldRow) (draft : BookingDraftRow) : Prop where
  draftId : hold.draftId = draft.id
  tenantId : hold.tenantId = draft.tenantId
  customerId : hold.customerId = draft.customerId
  conversationId : hold.conversationId = draft.conversationId
  serviceId : hold.serviceId = draft.serviceId

/-- A booking made of a hold: same customer, resource, start and service. -/
structure BookingRow.MadeOf (booking : BookingRow) (hold : SlotHoldRow) : Prop where
  holdId : booking.holdId = some hold.id
  tenantId : booking.tenantId = hold.tenantId
  customerId : booking.customerId = hold.customerId
  resourceId : booking.resourceId = some hold.resourceId
  startAt : booking.startAt = hold.startAt
  serviceId : booking.serviceId = hold.serviceId

/-- The booking a draft reschedules. -/
structure BookingRow.RescheduledBy (booking : BookingRow) (draft : BookingDraftRow) : Prop where
  id : draft.rescheduleBookingId = some booking.id
  tenantId : booking.tenantId = draft.tenantId
  customerId : booking.customerId = draft.customerId
  serviceId : booking.serviceId = draft.serviceId

structure Coherent (db : Database) : Prop where
  draftIds : (db.bookingDrafts.map (·.id)).Nodup
  holdIds : (db.slotHolds.map (·.id)).Nodup
  bookingIds : (db.bookings.map (·.id)).Nodup
  conversationIds : (db.conversations.map (·.id)).Nodup
  conversation : ∀ draft ∈ db.bookingDrafts, ∃ row ∈ db.conversations,
    row.tenantId = draft.tenantId ∧ row.id = draft.conversationId ∧
      row.customerId = draft.customerId
  oneActive : ∀ first ∈ db.bookingDrafts, ∀ second ∈ db.bookingDrafts,
    first.status = .active → second.status = .active →
      second.OfIdentity first.tenantId first.customerId first.conversationId → first.id = second.id
  draftOfHold : ∀ hold ∈ db.slotHolds, ∃ draft ∈ db.bookingDrafts, hold.TakenOn draft
  holdOfDraft : ∀ draft ∈ db.bookingDrafts, ∀ holdId, draft.holdId = some holdId →
    ∃ hold ∈ db.slotHolds, hold.id = holdId ∧ hold.draftId = draft.id
  activeHold : ∀ hold ∈ db.slotHolds, ∀ draft ∈ db.bookingDrafts, hold.draftId = draft.id →
    hold.status = .active → draft.status = .active ∧ draft.holdId = some hold.id
  consumedHold : ∀ hold ∈ db.slotHolds, ∀ draft ∈ db.bookingDrafts, hold.draftId = draft.id →
    (hold.status = .consumed ↔ draft.status = .confirmed ∧ draft.holdId = some hold.id)
  confirmedDraft : ∀ draft ∈ db.bookingDrafts, draft.status = .confirmed → draft.holdId ≠ none
  holdOfBooking : ∀ booking ∈ db.bookings, ∃ hold ∈ db.slotHolds,
    hold.status = .consumed ∧ booking.MadeOf hold
  bookingHolds : (db.bookings.map (·.holdId)).Nodup
  original : ∀ draft ∈ db.bookingDrafts, draft.rescheduleBookingId ≠ none →
    ∃ booking ∈ db.bookings, booking.RescheduledBy draft

namespace Coherent

variable {cfg : Catalogue} {env : Environment} {db : Database}

/-- A database before the first transaction is coherent. -/
theorem of_fresh (hfresh : db.Fresh) : Coherent db := by
  obtain ⟨hdrafts, hholds, hbookings, _, _, hconversations⟩ := hfresh
  constructor <;> simp [hdrafts, hholds, hbookings, hconversations]

/-! ## Lookups -/

theorem draft_eq (h : Coherent db) {first second : BookingDraftRow}
    (hfirst : first ∈ db.bookingDrafts) (hsecond : second ∈ db.bookingDrafts)
    (hid : first.id = second.id) : first = second :=
  Table.eq_of_key_eq h.draftIds hfirst hsecond hid

theorem hold_eq (h : Coherent db) {first second : SlotHoldRow}
    (hfirst : first ∈ db.slotHolds) (hsecond : second ∈ db.slotHolds)
    (hid : first.id = second.id) : first = second :=
  Table.eq_of_key_eq h.holdIds hfirst hsecond hid

theorem booking_eq (h : Coherent db) {first second : BookingRow}
    (hfirst : first ∈ db.bookings) (hsecond : second ∈ db.bookings)
    (hid : first.id = second.id) : first = second :=
  Table.eq_of_key_eq h.bookingIds hfirst hsecond hid

/-- A hold whose draft is known is taken on that draft. -/
theorem takenOn (h : Coherent db) {hold : SlotHoldRow} {draft : BookingDraftRow}
    (hhold : hold ∈ db.slotHolds) (hdraft : draft ∈ db.bookingDrafts)
    (hid : hold.draftId = draft.id) : hold.TakenOn draft := by
  obtain ⟨owner, howner, htaken⟩ := h.draftOfHold hold hhold
  rw [h.draft_eq hdraft howner (hid.symm.trans htaken.draftId)]
  exact htaken

/-- The hold a draft names is taken on it. -/
theorem takenOn_of_holdId (h : Coherent db) {hold : SlotHoldRow} {draft : BookingDraftRow}
    (hhold : hold ∈ db.slotHolds) (hdraft : draft ∈ db.bookingDrafts)
    (hid : draft.holdId = some hold.id) : hold.TakenOn draft := by
  obtain ⟨named, hnamed, hnamedId, hnamedDraft⟩ := h.holdOfDraft draft hdraft hold.id hid
  cases h.hold_eq hnamed hhold hnamedId
  exact h.takenOn hhold hdraft hnamedDraft

/-! ## Writes that touch nothing the invariant reads -/

theorem setWorkflow (h : Coherent db) (tenantId : TenantId) (conversationId : ConversationId)
    (workflow : Option String) : Coherent (db.setWorkflow tenantId conversationId workflow) where
  __ := h
  conversationIds := Table.nodup_update h.conversationIds fun _ => rfl
  conversation := by
    intro draft hdraft
    exact Table.exists_mem_update (h.conversation draft hdraft) fun _ _ hmatch _ => hmatch

theorem record (h : Coherent db) (rows : List BookingStatusHistoryRow) (event : OutboxEventRow) :
    Coherent (db.record rows event) where
  __ := h

/-- A draft may be given another date or other contact details. -/
theorem updateDetails (h : Coherent db) (id : BookingDraftId)
    (date : BookingDraftRow → Option Int) (name phone note : BookingDraftRow → Option Text) :
    Coherent (db.updateDraft id fun row =>
      { row with
        selectedDate := date row
        customerName := name row
        customerPhone := phone row
        customerNote := note row }) where
  __ := h
  draftIds := Table.nodup_update h.draftIds fun _ => rfl
  conversation := Table.forall_update h.conversation fun _ hrow => hrow
  oneActive := by
    refine Table.forall_update ?_ fun _ hrow => hrow
    intro first hfirst
    exact Table.forall_update (h.oneActive first hfirst) fun _ hrow => hrow
  draftOfHold := by
    intro hold hhold
    exact Table.exists_mem_update (h.draftOfHold hold hhold)
      fun _ _ htaken _ => { htaken with }
  holdOfDraft := Table.forall_update h.holdOfDraft fun _ hrow => hrow
  activeHold := by
    intro hold hhold
    exact Table.forall_update (h.activeHold hold hhold) fun _ hrow => hrow
  consumedHold := by
    intro hold hhold
    exact Table.forall_update (h.consumedHold hold hhold) fun _ hrow => hrow
  confirmedDraft := Table.forall_update h.confirmedDraft fun _ hrow => hrow
  original := by
    refine Table.forall_update h.original ?_
    intro draft horiginal hsome
    obtain ⟨booking, hbooking, hby⟩ := horiginal hsome
    exact ⟨booking, hbooking, { hby with }⟩

/-! ## Writes that end drafts and holds -/

/-- Active holds may be released or expired. -/
theorem endHolds (h : Coherent db) {selected : SlotHoldRow → Prop} [DecidablePred selected]
    (hactive : ∀ hold ∈ db.slotHolds, selected hold → hold.status = .active)
    {status : HoldStatus} (hstatus : status = .released ∨ status = .expired) :
    Coherent { db with
      slotHolds := Table.update selected (fun row => { row with status := status })
        db.slotHolds } where
  __ := h
  holdIds := Table.nodup_update h.holdIds fun _ => rfl
  draftOfHold := by
    refine Table.forall_update h.draftOfHold ?_
    rintro hold ⟨draft, hdraft, htaken⟩
    exact ⟨draft, hdraft, { htaken with }⟩
  holdOfDraft := by
    intro draft hdraft holdId hsome
    exact Table.exists_mem_update (h.holdOfDraft draft hdraft holdId hsome)
      fun _ _ hmatch _ => hmatch
  activeHold := by
    intro hold hhold draft hdraft hid hholdActive
    rcases Table.mem_update.mp hhold with ⟨old, _, _, rfl⟩ | ⟨hold, _⟩
    · rcases hstatus with rfl | rfl <;> cases hholdActive
    · exact h.activeHold _ hold draft hdraft hid hholdActive
  consumedHold := by
    intro hold hhold draft hdraft hid
    rcases Table.mem_update.mp hhold with ⟨old, hold, hselected, rfl⟩ | ⟨hold, _⟩
    · have hconsumed := h.consumedHold old hold draft hdraft hid
      rw [hactive old hold hselected] at hconsumed
      refine ⟨?_, fun hdone => absurd (hconsumed.mpr hdone) (by decide)⟩
      intro hended
      rcases hstatus with rfl | rfl <;> cases hended
    · exact h.consumedHold _ hold draft hdraft hid
  holdOfBooking := by
    intro booking hbooking
    refine Table.exists_mem_update (h.holdOfBooking booking hbooking) ?_
    rintro hold hhold ⟨hconsumed, _⟩ hselected
    rw [hactive hold hhold hselected] at hconsumed
    cases hconsumed

/-- Active drafts without an active hold may be cancelled or expire. -/
theorem endDrafts (h : Coherent db) {selected : BookingDraftRow → Prop} [DecidablePred selected]
    (hactive : ∀ draft ∈ db.bookingDrafts, selected draft → draft.status = .active)
    (hfree : ∀ draft ∈ db.bookingDrafts, selected draft → ∀ hold ∈ db.slotHolds,
      hold.draftId = draft.id → hold.status ≠ .active)
    {status : DraftStatus} (hstatus : status = .cancelled ∨ status = .expired) :
    Coherent { db with
      bookingDrafts := Table.update selected (fun row => { row with status := status })
        db.bookingDrafts } where
  __ := h
  draftIds := Table.nodup_update h.draftIds fun _ => rfl
  conversation := Table.forall_update h.conversation fun _ hrow => hrow
  oneActive := by
    intro first hfirst second hsecond hfirstActive hsecondActive hsame
    rcases Table.mem_update.mp hfirst with ⟨old, _, _, rfl⟩ | ⟨hfirst, _⟩
    · rcases hstatus with rfl | rfl <;> cases hfirstActive
    rcases Table.mem_update.mp hsecond with ⟨old, _, _, rfl⟩ | ⟨hsecond, _⟩
    · rcases hstatus with rfl | rfl <;> cases hsecondActive
    exact h.oneActive first hfirst second hsecond hfirstActive hsecondActive hsame
  draftOfHold := by
    intro hold hhold
    exact Table.exists_mem_update (h.draftOfHold hold hhold)
      fun _ _ htaken _ => { htaken with }
  holdOfDraft := Table.forall_update h.holdOfDraft fun _ hrow => hrow
  activeHold := by
    intro hold hhold draft hdraft hid hholdActive
    rcases Table.mem_update.mp hdraft with ⟨old, hold', hselected, rfl⟩ | ⟨hdraft, _⟩
    · exact absurd hholdActive (hfree old hold' hselected hold hhold hid)
    · exact h.activeHold hold hhold draft hdraft hid hholdActive
  consumedHold := by
    intro hold hhold draft hdraft hid
    rcases Table.mem_update.mp hdraft with ⟨old, hold', hselected, rfl⟩ | ⟨hdraft, _⟩
    · have hconsumed := h.consumedHold hold hhold old hold' hid
      rw [hactive old hold' hselected] at hconsumed
      refine ⟨fun hdone => absurd (hconsumed.mp hdone).1 (by decide), ?_⟩
      rintro ⟨hended, _⟩
      rcases hstatus with rfl | rfl <;> cases hended
    · exact h.consumedHold hold hhold draft hdraft hid
  confirmedDraft := by
    intro draft hdraft hconfirmed
    rcases Table.mem_update.mp hdraft with ⟨old, _, _, rfl⟩ | ⟨hdraft, _⟩
    · rcases hstatus with rfl | rfl <;> cases hconfirmed
    · exact h.confirmedDraft draft hdraft hconfirmed
  original := by
    refine Table.forall_update h.original ?_
    intro draft horiginal hsome
    obtain ⟨booking, hbooking, hby⟩ := horiginal hsome
    exact ⟨booking, hbooking, { hby with }⟩

/-! ## Writes that start drafts and holds -/

/-- A new draft may be inserted where its identity has no active one. -/
theorem insertDraft (h : Coherent db) {draft : BookingDraftRow}
    (hstatus : draft.status = .active) (hhold : draft.holdId = none)
    (hconversation : ∃ row ∈ db.conversations, row.tenantId = draft.tenantId ∧
      row.id = draft.conversationId ∧ row.customerId = draft.customerId)
    (horiginal : draft.rescheduleBookingId ≠ none → ∃ booking ∈ db.bookings,
      booking.RescheduledBy draft)
    (hfresh : ∀ row ∈ db.bookingDrafts, row.id ≠ draft.id)
    (halone : ∀ row ∈ db.bookingDrafts,
      row.OfIdentity draft.tenantId draft.customerId draft.conversationId → row.status ≠ .active) :
    Coherent (db.insertDraft draft) where
  __ := h
  draftIds := Table.nodup_append_row h.draftIds hfresh
  conversation := Table.forall_append_row h.conversation hconversation
  oneActive := by
    intro first hfirst second hsecond hfirstActive hsecondActive hsame
    rcases Table.mem_append_row.mp hfirst with hfirstOld | rfl
    · rcases Table.mem_append_row.mp hsecond with hsecondOld | rfl
      · exact h.oneActive first hfirstOld second hsecondOld hfirstActive hsecondActive hsame
      · obtain ⟨htenant, hcustomer, hconversation⟩ := hsame
        exact absurd hfirstActive
          (halone first hfirstOld ⟨htenant.symm, hcustomer.symm, hconversation.symm⟩)
    · rcases Table.mem_append_row.mp hsecond with hsecondOld | rfl
      · exact absurd hsecondActive (halone second hsecondOld hsame)
      · rfl
  draftOfHold := by
    intro hold hholdMem
    obtain ⟨owner, howner, htaken⟩ := h.draftOfHold hold hholdMem
    exact ⟨owner, List.mem_append_left _ howner, htaken⟩
  holdOfDraft := by
    refine Table.forall_append_row h.holdOfDraft ?_
    intro holdId hsome
    rw [hhold] at hsome
    cases hsome
  activeHold := by
    intro hold hholdMem other hother hid hholdActive
    rcases Table.mem_append_row.mp hother with hother | rfl
    · exact h.activeHold hold hholdMem other hother hid hholdActive
    · obtain ⟨owner, howner, htaken⟩ := h.draftOfHold hold hholdMem
      exact absurd (htaken.draftId.symm.trans hid) (hfresh owner howner)
  consumedHold := by
    intro hold hholdMem other hother hid
    rcases Table.mem_append_row.mp hother with hother | rfl
    · exact h.consumedHold hold hholdMem other hother hid
    · obtain ⟨owner, howner, htaken⟩ := h.draftOfHold hold hholdMem
      exact absurd (htaken.draftId.symm.trans hid) (hfresh owner howner)
  confirmedDraft := by
    refine Table.forall_append_row h.confirmedDraft ?_
    intro hconfirmed
    rw [hstatus] at hconfirmed
    cases hconfirmed
  original := Table.forall_append_row h.original horiginal

/-- An active draft without an active hold may be given a new one. -/
theorem giveHold (h : Coherent db) {draft : BookingDraftRow} {hold : SlotHoldRow}
    (hdraft : draft ∈ db.bookingDrafts) (hstatus : draft.status = .active)
    (hfree : ∀ row ∈ db.slotHolds, row.draftId = draft.id → row.status ≠ .active)
    (htaken : hold.TakenOn draft) (hactive : hold.status = .active)
    (hfresh : ∀ row ∈ db.slotHolds, row.id ≠ hold.id) :
    Coherent ((db.insertHold hold).updateDraft draft.id fun row =>
      { row with holdId := some hold.id }) where
  __ := h
  draftIds := Table.nodup_update h.draftIds fun _ => rfl
  holdIds := Table.nodup_append_row h.holdIds hfresh
  conversation := Table.forall_update h.conversation fun _ hrow => hrow
  oneActive := by
    refine Table.forall_update ?_ fun _ hrow => hrow
    intro first hfirst
    exact Table.forall_update (h.oneActive first hfirst) fun _ hrow => hrow
  draftOfHold := by
    intro other hother
    rcases Table.mem_append_row.mp hother with hother | rfl
    · exact Table.exists_mem_update (h.draftOfHold other hother)
        fun _ _ htaken _ => { htaken with }
    · exact Table.exists_mem_update ⟨draft, hdraft, htaken⟩ fun _ _ htaken _ => { htaken with }
  holdOfDraft := by
    intro other hother holdId hsome
    rcases Table.mem_update.mp hother with ⟨old, hold', hselected, rfl⟩ | ⟨hother, _⟩
    · cases hsome
      exact ⟨hold, List.mem_append_right _ (List.mem_singleton_self _), rfl,
        htaken.draftId.trans hselected.symm⟩
    · obtain ⟨named, hnamed, hmatch⟩ := h.holdOfDraft other hother holdId hsome
      exact ⟨named, List.mem_append_left _ hnamed, hmatch⟩
  activeHold := by
    intro other hother owner howner hid hotherActive
    rcases Table.mem_update.mp howner with ⟨old, hold', hselected, rfl⟩ | ⟨howner, hselected⟩
    · rcases Table.mem_append_row.mp hother with hother | rfl
      · exact absurd hotherActive (hfree other hother (hid.trans hselected))
      · cases h.draft_eq hold' hdraft hselected
        exact ⟨hstatus, rfl⟩
    · rcases Table.mem_append_row.mp hother with hother | rfl
      · exact h.activeHold other hother owner howner hid hotherActive
      · exact absurd (hid.symm.trans htaken.draftId) hselected
  consumedHold := by
    intro other hother owner howner hid
    rcases Table.mem_update.mp howner with ⟨old, hold', hselected, rfl⟩ | ⟨howner, hselected⟩
    · cases h.draft_eq hold' hdraft hselected
      rcases Table.mem_append_row.mp hother with hother | rfl
      · have hconsumed := h.consumedHold other hother draft hdraft hid
        rw [hstatus] at hconsumed
        constructor
        · exact fun hdone => absurd (hconsumed.mp hdone).1 (by decide)
        · exact fun hdone => absurd (hstatus.symm.trans hdone.1) (by decide)
      · constructor
        · exact fun hdone => absurd (hactive.symm.trans hdone) (by decide)
        · exact fun hdone => absurd (hstatus.symm.trans hdone.1) (by decide)
    · rcases Table.mem_append_row.mp hother with hother | rfl
      · exact h.consumedHold other hother owner howner hid
      · exact absurd (hid.symm.trans htaken.draftId) hselected
  confirmedDraft := by
    refine Table.forall_update h.confirmedDraft ?_
    intro row _ _ hnone
    cases hnone
  holdOfBooking := by
    intro booking hbooking
    obtain ⟨made, hmade, hmatch⟩ := h.holdOfBooking booking hbooking
    exact ⟨made, List.mem_append_left _ hmade, hmatch⟩
  original := by
    refine Table.forall_update h.original ?_
    intro row horiginal hsome
    obtain ⟨booking, hbooking, hby⟩ := horiginal hsome
    exact ⟨booking, hbooking, { hby with }⟩

/-! ## Writes that settle a draft in a booking -/

/-- An active draft may be confirmed with the active hold it names. -/
theorem settleDraft (h : Coherent db) {draft : BookingDraftRow} {hold : SlotHoldRow}
    (hdraft : draft ∈ db.bookingDrafts) (hholdMem : hold ∈ db.slotHolds)
    (hactive : hold.status = .active) (hholdId : draft.holdId = some hold.id) :
    Coherent (db.settleDraft draft hold) := by
  have htaken := h.takenOn_of_holdId hholdMem hdraft hholdId
  refine setWorkflow ?_ _ _ _
  exact
    { h with
      draftIds := Table.nodup_update h.draftIds fun _ => rfl
      holdIds := Table.nodup_update h.holdIds fun _ => rfl
      conversation := Table.forall_update h.conversation fun _ hrow => hrow
      oneActive := by
        intro first hfirst second hsecond hfirstActive hsecondActive hsame
        rcases Table.mem_update.mp hfirst with ⟨old, _, _, rfl⟩ | ⟨hfirstOld, _⟩
        · cases hfirstActive
        rcases Table.mem_update.mp hsecond with ⟨old, _, _, rfl⟩ | ⟨hsecondOld, _⟩
        · cases hsecondActive
        exact h.oneActive first hfirstOld second hsecondOld hfirstActive hsecondActive hsame
      draftOfHold := by
        refine Table.forall_update ?_ fun row hrow => ?_
        · intro row hrow
          exact Table.exists_mem_update (h.draftOfHold row hrow)
            fun _ _ htaken _ => { htaken with }
        · obtain ⟨owner, howner, htaken⟩ := hrow
          exact ⟨owner, howner, { htaken with }⟩
      holdOfDraft := by
        refine Table.forall_update ?_ fun _ hrow => hrow
        intro row hrow holdId hsome
        exact Table.exists_mem_update (h.holdOfDraft row hrow holdId hsome)
          fun _ _ hmatch _ => hmatch
      activeHold := by
        intro other hother owner howner hid hotherActive
        rcases Table.mem_update.mp hother with ⟨old, _, _, rfl⟩ | ⟨hotherOld, hotherId⟩
        · cases hotherActive
        rcases Table.mem_update.mp howner with ⟨old, hold', hselected, rfl⟩ | ⟨hownerOld, _⟩
        · -- The draft's only active hold is the one that is consumed.
          have hnamed := (h.activeHold other hotherOld old hold' hid hotherActive).2
          cases h.draft_eq hold' hdraft hselected
          exact absurd (Option.some.inj (hnamed.symm.trans hholdId)) hotherId
        · exact h.activeHold other hotherOld owner hownerOld hid hotherActive
      consumedHold := by
        intro other hother owner howner hid
        rcases Table.mem_update.mp howner with ⟨old, hold', hselected, rfl⟩ | ⟨hownerOld, hownerId⟩
        · cases h.draft_eq hold' hdraft hselected
          rcases Table.mem_update.mp hother with ⟨row, _, hrow, rfl⟩ | ⟨hotherOld, hotherId⟩
          · exact ⟨fun _ => ⟨rfl, hholdId.trans (congrArg some hrow.symm)⟩, fun _ => rfl⟩
          · have hconsumed := h.consumedHold other hotherOld draft hdraft hid
            have hdraftActive := (h.activeHold hold hholdMem draft hdraft htaken.draftId hactive).1
            rw [hdraftActive] at hconsumed
            constructor
            · exact fun hdone => absurd (hconsumed.mp hdone).1 (by decide)
            · rintro ⟨_, hnamed⟩
              exact absurd (Option.some.inj (hnamed.symm.trans hholdId)) hotherId
        · rcases Table.mem_update.mp hother with ⟨row, hrowMem, hrow, rfl⟩ | ⟨hotherOld, _⟩
          · cases h.hold_eq hrowMem hholdMem hrow
            exact absurd (hid.symm.trans htaken.draftId) hownerId
          · exact h.consumedHold other hotherOld owner hownerOld hid
      confirmedDraft := by
        intro row hrow hconfirmed
        rcases Table.mem_update.mp hrow with ⟨old, hold', hselected, rfl⟩ | ⟨hrowOld, _⟩
        · cases h.draft_eq hold' hdraft hselected
          intro hnone
          cases hholdId.symm.trans hnone
        · exact h.confirmedDraft row hrowOld hconfirmed
      holdOfBooking := by
        intro booking hbooking
        refine Table.exists_mem_update (h.holdOfBooking booking hbooking) ?_
        rintro row _ ⟨_, hmade⟩ _
        exact ⟨rfl, { hmade with }⟩
      original := by
        refine Table.forall_update h.original ?_
        intro row horiginal hsome
        obtain ⟨booking, hbooking, hby⟩ := horiginal hsome
        exact ⟨booking, hbooking, { hby with }⟩ }

/-- A booking may be inserted for a consumed hold that no booking has. -/
theorem insertBooking (h : Coherent db) {booking : BookingRow} {hold : SlotHoldRow}
    (hhold : hold ∈ db.slotHolds) (hconsumed : hold.status = .consumed)
    (hmade : booking.MadeOf hold) (hunused : ∀ row ∈ db.bookings, row.holdId ≠ some hold.id)
    (hfresh : ∀ row ∈ db.bookings, row.id ≠ booking.id) : Coherent (db.insertBooking booking) where
  __ := h
  bookingIds := Table.nodup_append_row h.bookingIds hfresh
  holdOfBooking := Table.forall_append_row h.holdOfBooking ⟨hold, hhold, hconsumed, hmade⟩
  bookingHolds := by
    refine Table.nodup_append_row h.bookingHolds ?_
    intro row hrow
    rw [hmade.holdId]
    exact hunused row hrow
  original := by
    intro draft hdraft hsome
    obtain ⟨original, horiginal, hby⟩ := h.original draft hdraft hsome
    exact ⟨original, List.mem_append_left _ horiginal, hby⟩

/-- A booking may be moved to a consumed hold that no booking has. -/
theorem moveBooking (h : Coherent db) {booking : BookingRow} {hold : SlotHoldRow}
    {service : ServiceRow} (hbooking : booking ∈ db.bookings)
    (hhold : hold ∈ db.slotHolds) (hconsumed : hold.status = .consumed)
    (hmade : (booking.movedTo hold service).MadeOf hold)
    (hunused : ∀ row ∈ db.bookings, row.holdId ≠ some hold.id) :
    Coherent (db.updateBooking booking.id (·.movedTo hold service)) where
  __ := h
  bookingIds := Table.nodup_update h.bookingIds fun _ => rfl
  holdOfBooking := by
    intro row hrow
    rcases Table.mem_update.mp hrow with ⟨old, hold', hselected, rfl⟩ | ⟨hrowOld, _⟩
    · cases h.booking_eq hold' hbooking hselected
      exact ⟨hold, hhold, hconsumed, hmade⟩
    · exact h.holdOfBooking row hrowOld
  bookingHolds := Table.nodup_update_one h.bookingIds h.bookingHolds hunused fun _ => rfl
  original := by
    intro draft hdraft hsome
    exact Table.exists_mem_update (h.original draft hdraft hsome)
      fun _ _ hby _ => { hby with }

/-- A booking may be cancelled. -/
theorem cancelBooking (h : Coherent db) (id : BookingId) :
    Coherent (db.updateBooking id fun row => { row with status := .cancelled }) where
  __ := h
  bookingIds := Table.nodup_update h.bookingIds fun _ => rfl
  holdOfBooking := by
    refine Table.forall_update h.holdOfBooking ?_
    rintro row ⟨hold, hhold, hconsumed, hmade⟩
    exact ⟨hold, hhold, hconsumed, { hmade with }⟩
  bookingHolds := Table.nodup_update h.bookingHolds fun _ => rfl
  original := by
    intro draft hdraft hsome
    exact Table.exists_mem_update (h.original draft hdraft hsome)
      fun _ _ hby _ => { hby with }

/-! ## Every change -/

/-- No booking has been made of a hold that is not consumed. -/
theorem unused (h : Coherent db) {hold : SlotHoldRow} (hhold : hold ∈ db.slotHolds)
    (hstatus : hold.status ≠ .consumed) : ∀ row ∈ db.bookings, row.holdId ≠ some hold.id := by
  intro row hrow hsome
  obtain ⟨made, hmade, hconsumed, hmatch⟩ := h.holdOfBooking row hrow
  have hid := Option.some.inj (hmatch.holdId.symm.trans hsome)
  rw [h.hold_eq hmade hhold hid] at hconsumed
  exact hstatus hconsumed

/-- Ending every active hold a draft could have leaves it without one. -/
theorem no_active_after {selected : SlotHoldRow → Prop} [DecidablePred selected]
    {status : HoldStatus} (hstatus : status ≠ .active) {draftId : BookingDraftId}
    (hall : ∀ hold ∈ db.slotHolds, hold.draftId = draftId → hold.status = .active →
      selected hold) :
    ∀ hold ∈ (db.closeHolds selected status).slotHolds, hold.draftId = draftId →
      hold.status ≠ .active := by
  intro hold hhold hid hactive
  rcases Table.mem_update.mp hhold with ⟨old, _, _, rfl⟩ | ⟨hholdOld, hselected⟩
  · exact hstatus hactive
  · exact hselected ⟨hall hold hholdOld hid hactive, hactive⟩

theorem openDraft (h : Coherent db) {draft : BookingDraftRow}
    (hstatus : draft.status = .active) (hhold : draft.holdId = none)
    (hconversation : ∃ row ∈ db.conversations, row.tenantId = draft.tenantId ∧
      row.id = draft.conversationId ∧ row.customerId = draft.customerId)
    (horiginal : draft.rescheduleBookingId ≠ none → ∃ booking ∈ db.bookings,
      booking.RescheduledBy draft)
    (hfresh : ∀ row ∈ db.bookingDrafts, row.id ≠ draft.id) : Coherent (db.openDraft draft) := by
  -- The holds of the identity first, then its drafts, then the new draft.
  have hreleased : Coherent (db.closeHolds
      (fun row => row.OfIdentity draft.tenantId draft.customerId draft.conversationId)
      .released) := h.endHolds (fun _ _ hselected => hselected.2) (.inl rfl)
  have hclosed : Coherent ((db.closeHolds
      (fun row => row.OfIdentity draft.tenantId draft.customerId draft.conversationId)
      .released).closeDrafts
        (fun row => row.OfIdentity draft.tenantId draft.customerId draft.conversationId)
        .cancelled) := by
    refine hreleased.endDrafts (fun _ _ hselected => hselected.2) ?_ (.inl rfl)
    rintro owner howner ⟨⟨htenant, hcustomer, hconv⟩, _⟩
    refine no_active_after (by decide) ?_
    intro hold hholdMem hid _
    have htaken := h.takenOn hholdMem howner hid
    exact ⟨htaken.tenantId.trans htenant, htaken.customerId.trans hcustomer,
      htaken.conversationId.trans hconv⟩
  refine setWorkflow (hclosed.insertDraft hstatus hhold hconversation horiginal ?_ ?_) _ _ _
  · exact Table.forall_update hfresh fun _ hid => hid
  · intro row hrow hidentity hactive
    rcases Table.mem_update.mp hrow with ⟨old, _, _, rfl⟩ | ⟨_, hselected⟩
    · cases hactive
    · exact hselected ⟨hidentity, hactive⟩

theorem expireDraft (h : Coherent db) {draft : BookingDraftRow}
    (hdraft : draft ∈ db.bookingDrafts) (hstatus : draft.status = .active) :
    Coherent (db.expireDraft draft) := by
  have hended : Coherent (db.closeHolds
      (fun row => row.tenantId = draft.tenantId ∧ draft.holdId = some row.id) .expired) :=
    h.endHolds (fun _ _ hselected => hselected.2) (.inr rfl)
  refine hended.endDrafts ?_ ?_ (.inr rfl)
  · intro row hrow hid
    rw [h.draft_eq hrow hdraft hid]
    exact hstatus
  · intro row hrow hid
    refine no_active_after (by decide) ?_
    intro hold hholdMem hholdDraft hactive
    cases h.draft_eq hrow hdraft hid
    exact ⟨(h.takenOn hholdMem hdraft hholdDraft).tenantId,
      (h.activeHold hold hholdMem draft hdraft hholdDraft hactive).2⟩

theorem abandonDrafts (h : Coherent db) {ids : List BookingDraftId} {tenantId : TenantId}
    (conversationId : ConversationId)
    (hids : ∀ row ∈ db.bookingDrafts, row.id ∈ ids → row.tenantId = tenantId ∧ row.status = .active) :
    Coherent (db.abandonDrafts ids tenantId conversationId) := by
  have hreleased : Coherent (db.closeHolds
      (fun row => row.tenantId = tenantId ∧ row.draftId ∈ ids) .released) :=
    h.endHolds (fun _ _ hselected => hselected.2) (.inl rfl)
  refine setWorkflow (hreleased.endDrafts ?_ ?_ (.inl rfl)) _ _ _
  · intro row hrow hid
    exact (hids row hrow hid).2
  · intro row hrow hid
    refine no_active_after (by decide) ?_
    intro hold hholdMem hholdDraft _
    have htaken := h.takenOn hholdMem hrow hholdDraft
    exact ⟨htaken.tenantId.trans (hids row hrow hid).1, hholdDraft ▸ hid⟩

theorem replaceHold (h : Coherent db) {draft : BookingDraftRow} {hold : SlotHoldRow}
    (hdraft : draft ∈ db.bookingDrafts) (hstatus : draft.status = .active)
    (htaken : hold.TakenOn draft) (hactive : hold.status = .active)
    (hfresh : ∀ row ∈ db.slotHolds, row.id ≠ hold.id) :
    Coherent ((db.releaseHold draft).placeHold draft hold) := by
  have hreleased : Coherent (db.closeHolds
      (fun row => row.tenantId = draft.tenantId ∧ draft.holdId = some row.id) .released) :=
    h.endHolds (fun _ _ hselected => hselected.2) (.inl rfl)
  have hgiven := hreleased.giveHold hdraft hstatus ?_ htaken hactive
    (Table.forall_update hfresh fun _ hid => hid)
  · rw [Database.releaseHold_placeHold]
    exact hgiven.setWorkflow _ _ _
  · refine no_active_after (by decide) ?_
    intro row hrow hid hrowActive
    exact ⟨(h.takenOn hrow hdraft hid).tenantId, (h.activeHold row hrow draft hdraft hid hrowActive).2⟩

/-- The service a lookup finds has the id looked for. -/
theorem service_id {tenantId : TenantId} {serviceId : ServiceId} {service : ServiceRow}
    (hservice : cfg.service? tenantId serviceId = some service) : service.id = serviceId :=
  (Table.of_find? hservice).2.2

/-- A draft reschedules a booking of its own service. -/
theorem rescheduled_service (h : Coherent db) {draft : BookingDraftRow} {booking : BookingRow}
    (hdraft : draft ∈ db.bookingDrafts) (hbooking : booking ∈ db.bookings)
    (hreschedule : draft.rescheduleBookingId = some booking.id) :
    booking.serviceId = draft.serviceId := by
  obtain ⟨original, horiginal, hby⟩ := h.original draft hdraft (by simp [hreschedule])
  have hid := Option.some.inj (hby.id.symm.trans hreschedule)
  rw [← h.booking_eq horiginal hbooking hid]
  exact hby.serviceId

/-- Every change keeps the tables coherent. -/
theorem change {call : Call} {db' : Database} (h : Coherent db)
    (hchange : Change cfg env db call db') : Coherent db' := by
  cases hchange with
  | startDraft draft hid hstatus hhold hconversation horiginal hfresh =>
      refine h.openDraft hstatus hhold hconversation ?_ hfresh
      intro hsome
      obtain ⟨bookingId, hbookingId⟩ := Option.ne_none_iff_exists'.mp hsome
      obtain ⟨booking, hbooking, rfl, htenant, hcustomer, hservice⟩ := horiginal bookingId hbookingId
      exact ⟨booking, hbooking, hbookingId, htenant, hcustomer, hservice⟩
  | getActiveDraft hdraft hstatus _ => exact h.expireDraft hdraft hstatus
  | selectDate hdraft hstatus =>
      exact h.updateDetails _ (fun _ => _) (·.customerName) (·.customerPhone) (·.customerNote)
  | createHold hdraft hstatus hdate hservice hpolicyRow hpolicy hslots hslot hfresh hkey =>
      exact h.replaceHold hdraft hstatus ⟨rfl, rfl, rfl, rfl, rfl⟩ rfl hfresh
  | updateContact hdraft hstatus =>
      exact (h.updateDetails _ (·.selectedDate) (fun _ => _) (fun _ => _) (fun _ => _)).setWorkflow
        _ _ _
  | @getHold hold hhold hstatus _ =>
      refine h.endHolds ?_ (.inr rfl)
      intro row hrow hid
      rw [h.hold_eq hrow hhold hid]
      exact hstatus
  | cancelDraft hids hany =>
      refine h.abandonDrafts _ ?_
      intro row hrow hid
      rw [hids] at hid
      obtain ⟨listed, hlisted, hlistedId⟩ := List.mem_map.mp hid
      obtain ⟨hlistedMem, hcondition⟩ := List.mem_filter.mp hlisted
      obtain ⟨⟨htenant, _, _⟩, hactive⟩ := of_decide_eq_true hcondition
      rw [← h.draft_eq hlistedMem hrow hlistedId]
      exact ⟨htenant, hactive⟩
  | @book draft hold service key hdraft hstatus hreschedule hhold hholdId hholdTenant hunexpired
      hservice hfresh hreference hkey hexclusion =>
      have htaken := h.takenOn_of_holdId hhold hdraft hholdId
      have hsettled := h.settleDraft hdraft hhold hunexpired.1 hholdId
      have hunused := h.unused hhold (by rw [hunexpired.1]; decide)
      have hmade : (newBooking env.newId draft hold service key).MadeOf hold :=
        ⟨rfl, htaken.tenantId.symm, htaken.customerId.symm, rfl, rfl, service_id hservice⟩
      exact (hsettled.insertBooking (Table.mem_update_of_selected hhold rfl) rfl
        { hmade with } hunused hfresh).record _ _
  | @move draft hold service booking key hdraft hstatus hhold hholdId hholdTenant hunexpired
      hservice hbooking hreschedule htenant hcustomer hconfirmed hexclusion =>
      have htaken := h.takenOn_of_holdId hhold hdraft hholdId
      have hsettled := h.settleDraft hdraft hhold hunexpired.1 hholdId
      have hunused := h.unused hhold (by rw [hunexpired.1]; decide)
      have hsame := h.rescheduled_service hdraft hbooking hreschedule
      have hmade : (booking.movedTo hold service).MadeOf hold :=
        ⟨rfl, htenant.trans htaken.tenantId.symm, hcustomer.trans htaken.customerId.symm, rfl,
          rfl, hsame.trans htaken.serviceId.symm⟩
      exact (hsettled.moveBooking hbooking (Table.mem_update_of_selected hhold rfl) rfl
        { hmade with } hunused).record _ _
  | cancelBooking hbooking hconfirmed => exact (h.cancelBooking _).record _ _
  | expireHolds hids =>
      refine h.endHolds ?_ (.inr rfl)
      intro row hrow hid
      obtain ⟨hold, hhold, hholdId, hactive, _⟩ := hids row.id hid
      rw [← h.hold_eq hhold hrow hholdId]
      exact hactive

end Coherent

/-- Every reachable database is coherent. -/
theorem coherent_of_reachable {cfg : Catalogue} {s : State}
    (hs : (bookingSystem cfg).Reachable s) : Coherent s.db := by
  apply hs.invariant (I := fun s => Coherent s.db)
  · intro s hinit
    exact .of_fresh hinit
  · rintro s invocation _ _ hcoherent ⟨_, rfl⟩
    rcases invocation.execute_change cfg s.db with hsame | hchange
    · rw [hsame]
      exact hcoherent
    · exact hcoherent.change hchange

/-- The rule for invariants of the rows: a property of coherent databases that
every change keeps holds in every reachable database. -/
theorem database_invariant {cfg : Catalogue} {I : Database → Prop}
    (hinit : ∀ db, db.Fresh → I db)
    (hchange : ∀ env db call db', Coherent db → I db → Change cfg env db call db' → I db')
    {s : State} (hs : (bookingSystem cfg).Reachable s) : I s.db := by
  apply hs.invariant (I := fun s => I s.db)
  · intro s hfresh
    exact hinit s.db hfresh
  · rintro s invocation _ hreachable hinv ⟨_, rfl⟩
    rcases invocation.execute_change cfg s.db with hsame | hstep
    · rw [hsame]
      exact hinv
    · exact hchange _ _ _ _ (coherent_of_reachable hreachable) hinv hstep

/-- In every reachable state the three tables tell one story: an identity has
one active draft, a draft one active hold, a hold is consumed exactly when its
draft is confirmed with it, and every booking is made of its own consumed hold. -/
theorem drafts_holds_bookings_agree (cfg : Catalogue) (s : State)
    (hs : (bookingSystem cfg).Reachable s) :
    (∀ first ∈ s.db.bookingDrafts, ∀ second ∈ s.db.bookingDrafts,
      first.status = .active → second.status = .active →
      second.OfIdentity first.tenantId first.customerId first.conversationId →
      first = second) ∧
    (∀ first ∈ s.db.slotHolds, ∀ second ∈ s.db.slotHolds,
      first.status = .active → second.status = .active → first.draftId = second.draftId →
      first = second) ∧
    (∀ hold ∈ s.db.slotHolds, hold.status = .active →
      ∃ draft ∈ s.db.bookingDrafts, draft.id = hold.draftId ∧ draft.status = .active ∧
        draft.holdId = some hold.id) ∧
    (∀ hold ∈ s.db.slotHolds, hold.status = .consumed ↔
      ∃ draft ∈ s.db.bookingDrafts, draft.id = hold.draftId ∧ draft.status = .confirmed ∧
        draft.holdId = some hold.id) ∧
    (∀ booking ∈ s.db.bookings, ∃ hold ∈ s.db.slotHolds,
      booking.holdId = some hold.id ∧ hold.status = .consumed ∧
      hold.tenantId = booking.tenantId ∧ hold.customerId = booking.customerId ∧
      booking.resourceId = some hold.resourceId ∧ booking.startAt = hold.startAt) ∧
    (∀ first ∈ s.db.bookings, ∀ second ∈ s.db.bookings,
      first.holdId = second.holdId → first = second) := by
  have h := coherent_of_reachable hs
  refine ⟨?_, ?_, ?_, ?_, ?_, ?_⟩
  · intro first hfirst second hsecond hfirstActive hsecondActive hsame
    exact h.draft_eq hfirst hsecond
      (h.oneActive first hfirst second hsecond hfirstActive hsecondActive hsame)
  · intro first hfirst second hsecond hfirstActive hsecondActive hsame
    obtain ⟨draft, hdraft, htaken⟩ := h.draftOfHold first hfirst
    have hfirstNamed := (h.activeHold first hfirst draft hdraft htaken.draftId hfirstActive).2
    have hsecondNamed :=
      (h.activeHold second hsecond draft hdraft (hsame.symm.trans htaken.draftId) hsecondActive).2
    exact h.hold_eq hfirst hsecond (Option.some.inj (hfirstNamed.symm.trans hsecondNamed))
  · intro hold hhold hactive
    obtain ⟨draft, hdraft, htaken⟩ := h.draftOfHold hold hhold
    have hnamed := h.activeHold hold hhold draft hdraft htaken.draftId hactive
    exact ⟨draft, hdraft, htaken.draftId.symm, hnamed.1, hnamed.2⟩
  · intro hold hhold
    constructor
    · intro hconsumed
      obtain ⟨draft, hdraft, htaken⟩ := h.draftOfHold hold hhold
      have hdone := (h.consumedHold hold hhold draft hdraft htaken.draftId).mp hconsumed
      exact ⟨draft, hdraft, htaken.draftId.symm, hdone.1, hdone.2⟩
    · rintro ⟨draft, hdraft, hid, hdone⟩
      exact (h.consumedHold hold hhold draft hdraft hid.symm).mpr hdone
  · intro booking hbooking
    obtain ⟨hold, hhold, hconsumed, hmade⟩ := h.holdOfBooking booking hbooking
    exact ⟨hold, hhold, hmade.holdId, hconsumed, hmade.tenantId.symm, hmade.customerId.symm,
      hmade.resourceId, hmade.startAt⟩
  · intro first hfirst second hsecond hsame
    exact Table.eq_of_key_eq h.bookingHolds hfirst hsecond hsame

/-- The tables agree after one customer has booked and another holds a slot. -/
theorem drafts_holds_bookings_agree_in_shop :
    let s := Shop.opened.after (Shop.catalogue 0 0)
      (Shop.takesFirstSlot 0 1000 none 0 (Shop.time 0 8 0) ++
        (Shop.takesFirstSlot 1 2000 none 0 (Shop.time 0 8 1)).take 3)
    s.db.slotHolds.map (·.status) = [.consumed, .active] ∧
      ∀ hold ∈ s.db.slotHolds, hold.status = .active →
        ∃ draft ∈ s.db.bookingDrafts, draft.id = hold.draftId ∧ draft.status = .active ∧
          draft.holdId = some hold.id :=
  ⟨by decide +kernel,
    (drafts_holds_bookings_agree _ _
      (reachable_after Shop.opened_fresh (by decide +kernel))).2.2.1⟩

end BusinessAssistant.Persistence
