/-
# What a transaction can do to the database

`Change` lists every way a committed call alters the rows, each with the guards
the code has checked by then. One inversion theorem per operation shows the list
is complete; every invariant of the store is then a case analysis of `Change`
and never unfolds a transaction.
-/

import BusinessAssistant.Persistence.Operations

namespace BusinessAssistant.Persistence

open BusinessAssistant.Domain BusinessAssistant.Application BusinessAssistant.Foundation

variable {cfg : Catalogue} {env : Environment} {db db' : Database}

/-- The ways a committed call changes the rows of `db`. -/
inductive Change (cfg : Catalogue) (env : Environment) (db : Database) :
    Call → Database → Prop
  | startDraft (draft : BookingDraftRow)
      (hid : draft.id = env.newId)
      (hstatus : draft.status = .active)
      (hhold : draft.holdId = none)
      (hconversation : ∃ row ∈ db.conversations, row.tenantId = draft.tenantId ∧
        row.id = draft.conversationId ∧ row.customerId = draft.customerId)
      (horiginal : ∀ bookingId, draft.rescheduleBookingId = some bookingId →
        ∃ booking ∈ db.bookings, booking.id = bookingId ∧ booking.tenantId = draft.tenantId ∧
          booking.customerId = draft.customerId ∧ booking.serviceId = draft.serviceId)
      (hfresh : ∀ row ∈ db.bookingDrafts, row.id ≠ draft.id) :
      Change cfg env db
        (.customer draft.tenantId draft.customerId
          (.startDraft draft.conversationId draft.serviceId draft.rescheduleBookingId))
        (db.openDraft draft)
  | getActiveDraft {draft : BookingDraftRow}
      (hdraft : draft ∈ db.bookingDrafts)
      (hstatus : draft.status = .active)
      (hexpired : draft.expiresAt ≤ env.now) :
      Change cfg env db
        (.customer draft.tenantId draft.customerId (.getActiveDraft draft.conversationId))
        (db.expireDraft draft)
  | selectDate {draft : BookingDraftRow} {selectedDate : Int}
      (hdraft : draft ∈ db.bookingDrafts)
      (hstatus : draft.status = .active) :
      Change cfg env db
        (.customer draft.tenantId draft.customerId (.selectDate draft.id selectedDate))
        (db.updateDraft draft.id fun row => { row with selectedDate := some selectedDate })
  | createHold {draft : BookingDraftRow} {selectedDate slotIndex : Int} {key : Text}
      {service : ServiceRow} {policyRow : BookingPolicyRow} {policy : BookingPolicy}
      {slots : List AvailableSlot} {slot : AvailableSlot}
      (hdraft : draft ∈ db.bookingDrafts)
      (hstatus : draft.status = .active)
      (hdate : draft.selectedDate = some selectedDate)
      (hservice : cfg.service? draft.tenantId draft.serviceId = some service)
      (hpolicyRow : cfg.policy? draft.tenantId = some policyRow)
      (hpolicy : bookingPolicy policyRow = .ok policy)
      (hslots : calculateAvailability
        (contextOf cfg (db.releaseHold draft) service policyRow policy env.now)
        selectedDate env.now = .ok slots)
      (hslot : slot ∈ slots)
      (hfresh : ∀ row ∈ db.slotHolds, row.id ≠ env.newId)
      (hkey : ∀ row ∈ db.slotHolds, ¬ (row.tenantId = draft.tenantId ∧ row.idempotencyKey = key)) :
      Change cfg env db
        (.customer draft.tenantId draft.customerId (.createHold draft.id slotIndex key))
        ((db.releaseHold draft).placeHold draft
          (BookingStore.newHold env draft
            (contextOf cfg db service policyRow policy env.now) slot key))
  | updateContact {draft : BookingDraftRow} {name phone note newName newPhone newNote : Option Text}
      {workflow : String}
      (hdraft : draft ∈ db.bookingDrafts)
      (hstatus : draft.status = .active) :
      Change cfg env db
        (.customer draft.tenantId draft.customerId (.updateContact draft.id name phone note))
        (db.writeContact draft newName newPhone newNote workflow)
  | getHold {hold : SlotHoldRow}
      (hhold : hold ∈ db.slotHolds)
      (hstatus : hold.status = .active)
      (hexpired : hold.expiresAt ≤ env.now) :
      Change cfg env db
        (.customer hold.tenantId hold.customerId (.getHold hold.draftId))
        (db.updateHold hold.id fun row => { row with status := .expired })
  | cancelDraft {tenantId : TenantId} {customerId : CustomerId} {conversationId : ConversationId}
      {ids : List BookingDraftId}
      (hids : ids = (db.bookingDrafts.filter fun row =>
        row.OfIdentity tenantId customerId conversationId ∧ row.status = .active).map (·.id))
      (hany : ids ≠ []) :
      Change cfg env db (.customer tenantId customerId (.cancelDraft conversationId))
        (db.abandonDrafts ids tenantId conversationId)
  | book {draft : BookingDraftRow} {hold : SlotHoldRow} {service : ServiceRow} {key : Text}
      (hdraft : draft ∈ db.bookingDrafts)
      (hstatus : draft.status = .active)
      (hreschedule : draft.rescheduleBookingId = none)
      (hhold : hold ∈ db.slotHolds)
      (hholdId : draft.holdId = some hold.id)
      (hholdTenant : hold.tenantId = draft.tenantId)
      (hunexpired : hold.Unexpired env.now)
      (hservice : cfg.service? hold.tenantId hold.serviceId = some service)
      (hfresh : ∀ row ∈ db.bookings, row.id ≠ env.newId)
      (hreference : ∀ row ∈ db.bookings, row.tenantId = draft.tenantId →
        row.publicReference ≠ some (publicReference env.newId))
      (hkey : ∀ row ∈ db.bookings, row.tenantId = draft.tenantId → row.idempotencyScope = "confirm" →
        row.idempotencyValue ≠ key)
      (hexclusion : ∀ row ∈ db.bookings,
        ¬ (newBooking env.newId draft hold service key).Excludes row) :
      Change cfg env db (.customer draft.tenantId draft.customerId (.confirm draft.id key))
        ((db.book (newBooking env.newId draft hold service key) env.now env.serverNow).settleDraft
          draft hold)
  | move {draft : BookingDraftRow} {hold : SlotHoldRow} {service : ServiceRow}
      {booking : BookingRow} {key : Text}
      (hdraft : draft ∈ db.bookingDrafts)
      (hstatus : draft.status = .active)
      (hhold : hold ∈ db.slotHolds)
      (hholdId : draft.holdId = some hold.id)
      (hholdTenant : hold.tenantId = draft.tenantId)
      (hunexpired : hold.Unexpired env.now)
      (hservice : cfg.service? hold.tenantId hold.serviceId = some service)
      (hbooking : booking ∈ db.bookings)
      (hreschedule : draft.rescheduleBookingId = some booking.id)
      (htenant : booking.tenantId = draft.tenantId)
      (hcustomer : booking.customerId = draft.customerId)
      (hconfirmed : booking.status = .confirmed)
      (hexclusion : ∀ row ∈ db.bookings, row.id ≠ booking.id →
        ¬ (booking.movedTo hold service).Excludes row) :
      Change cfg env db (.customer draft.tenantId draft.customerId (.confirm draft.id key))
        ((db.move booking hold service env.now env.serverNow).settleDraft draft hold)
  | cancelBooking {booking : BookingRow}
      (hbooking : booking ∈ db.bookings)
      (hconfirmed : booking.status = .confirmed) :
      Change cfg env db (.customer booking.tenantId booking.customerId (.cancelBooking booking.id))
        (db.cancel booking env.now env.serverNow)
  | expireHolds {limit : Int} {ids : List SlotHoldId}
      (hids : ∀ id ∈ ids, ∃ hold ∈ db.slotHolds, hold.id = id ∧ hold.status = .active ∧
        hold.expiresAt ≤ env.now) :
      Change cfg env db (.expireHolds limit) (db.expireRows ids)

/-! ## Availability -/

/-- A context that exists is the one of the stored service and policy. -/
theorem availabilityContext_eq_some {tenantId : TenantId} {serviceId : ServiceId} {now : Int}
    {context : AvailabilityContext}
    (hcontext : availabilityContext cfg db tenantId serviceId now = .ok (some context)) :
    ∃ service policyRow policy, cfg.service? tenantId serviceId = some service ∧
      cfg.policy? tenantId = some policyRow ∧ bookingPolicy policyRow = .ok policy ∧
      context = contextOf cfg db service policyRow policy now := by
  unfold availabilityContext at hcontext
  split at hcontext
  · rename_i service policyRow hservice hpolicyRow
    cases hpolicy : bookingPolicy policyRow with
    | error failure => rw [hpolicy] at hcontext; cases hcontext
    | ok policy =>
        rw [hpolicy] at hcontext
        refine ⟨service, policyRow, policy, hservice, hpolicyRow, hpolicy, ?_⟩
        simpa [bind, Except.bind, pure, Except.pure, eq_comm] using hcontext
  · cases hcontext

/-! ## Inversion -/

namespace BookingStore

variable {tenantId : TenantId} {customerId : CustomerId}

theorem ownedDraft_ok {draftId : BookingDraftId} {now : Int} {draft : BookingDraftRow}
    (hrun : (ownedDraft tenantId customerId draftId now).run db = .ok (draft, db')) :
    draft ∈ db.bookingDrafts ∧ draft.tenantId = tenantId ∧ draft.customerId = customerId ∧
      draft.id = draftId ∧ draft.status = .active ∧ now < draft.expiresAt ∧ db' = db := by
  simp only [ownedDraft, Tx.run_get_bind_eq_ok, Tx.run_fetch_bind_eq_ok,
    Tx.run_require_bind_eq_ok, Tx.run_pure_eq_ok] at hrun
  obtain ⟨found, hfound, hactive, hlive, hend⟩ := hrun
  cases hend
  obtain ⟨hmem, htenant, hcustomer, hid⟩ := Table.of_find? hfound
  exact ⟨hmem, htenant, hcustomer, hid, hactive, hlive, rfl⟩

theorem checkOriginal_ok {serviceId : ServiceId} {rescheduleBookingId : Option BookingId}
    (hrun : (checkOriginal tenantId customerId serviceId rescheduleBookingId).run db =
      .ok ((), db')) :
    db' = db ∧ ∀ bookingId, rescheduleBookingId = some bookingId →
      ∃ booking ∈ db.bookings, booking.id = bookingId ∧ booking.tenantId = tenantId ∧
        booking.customerId = customerId ∧ booking.serviceId = serviceId := by
  cases rescheduleBookingId with
  | none =>
      cases Tx.run_pure_eq_ok.mp hrun
      refine ⟨rfl, ?_⟩
      intro bookingId hsome
      cases hsome
  | some bookingId =>
      simp only [checkOriginal, Tx.run_get_bind_eq_ok, Tx.run_fetch_bind_eq_ok,
        Tx.run_require_eq_ok] at hrun
      obtain ⟨original, hfound, hservice, hend⟩ := hrun
      cases hend
      obtain ⟨hmem, htenant, hcustomer, hid, _⟩ := Table.of_find? hfound
      refine ⟨rfl, ?_⟩
      intro other hsome
      cases hsome
      exact ⟨original, hmem, hid, htenant, hcustomer, hservice⟩

theorem startDraft_ok {conversationId : ConversationId} {serviceId : ServiceId}
    {rescheduleBookingId : Option BookingId} {draft : BookingDraft}
    (hrun : (startDraft cfg env tenantId customerId conversationId serviceId
      rescheduleBookingId).run db = .ok (draft, db')) :
    Change cfg env db
      (.customer tenantId customerId (.startDraft conversationId serviceId rescheduleBookingId))
      db' := by
  simp only [startDraft, Tx.run_get_bind_eq_ok, Tx.run_lift_bind_eq_ok, Tx.run_fetch_bind_eq_ok]
    at hrun
  obtain ⟨found, _, context, _, hrest⟩ := hrun
  obtain ⟨⟨⟩, middle, hcheck, hrest⟩ := Tx.run_bind_eq_ok.mp hrest
  obtain ⟨rfl, horiginal⟩ := checkOriginal_ok hcheck
  simp only [Tx.run_require_bind_eq_ok, Tx.run_modify_bind_eq_ok, Tx.run_pure_eq_ok] at hrest
  obtain ⟨hconversation, hfresh, hend⟩ := hrest
  cases hend
  exact .startDraft (newDraft env tenantId customerId conversationId serviceId
    rescheduleBookingId context) rfl rfl rfl hconversation horiginal hfresh

theorem mem_of_latestDraft? {conversationId : ConversationId} {draft : BookingDraftRow}
    (hfound : latestDraft? db tenantId customerId conversationId = some draft) :
    draft ∈ db.bookingDrafts ∧ draft.OfIdentity tenantId customerId conversationId ∧
      draft.status = .active := by
  have hmem := List.mem_of_mem_head? hfound
  rw [List.mem_insertionSort, List.mem_filter] at hmem
  exact ⟨hmem.1, of_decide_eq_true hmem.2⟩

theorem getActiveDraft_ok {conversationId : ConversationId} {draft : Option BookingDraft}
    (hrun : (getActiveDraft env tenantId customerId conversationId).run db = .ok (draft, db')) :
    db' = db ∨
      Change cfg env db (.customer tenantId customerId (.getActiveDraft conversationId)) db' := by
  simp only [getActiveDraft, Tx.run_get_bind_eq_ok] at hrun
  split at hrun
  · cases Tx.run_pure_eq_ok.mp hrun
    exact .inl rfl
  · rename_i row hfound
    obtain ⟨hmem, ⟨rfl, rfl, rfl⟩, hactive⟩ := mem_of_latestDraft? hfound
    split at hrun
    · rename_i hexpired
      simp only [Tx.run_modify_bind_eq_ok, Tx.run_pure_eq_ok] at hrun
      cases hrun
      exact .inr (.getActiveDraft hmem hactive hexpired)
    · cases Tx.run_pure_eq_ok.mp hrun
      exact .inl rfl

theorem selectDate_ok {draftId : BookingDraftId} {selectedDate : Int} {draft : BookingDraft}
    (hrun : (selectDate cfg env tenantId customerId draftId selectedDate).run db =
      .ok (draft, db')) :
    Change cfg env db (.customer tenantId customerId (.selectDate draftId selectedDate)) db' := by
  simp only [selectDate, Tx.run_get_bind_eq_ok] at hrun
  obtain ⟨row, middle, howned, hrest⟩ := Tx.run_bind_eq_ok.mp hrun
  obtain ⟨hmem, rfl, rfl, rfl, hactive, _, rfl⟩ := ownedDraft_ok howned
  simp only [Tx.run_lift_bind_eq_ok, Tx.run_fetch_bind_eq_ok, Tx.run_require_bind_eq_ok,
    Tx.run_modify_bind_eq_ok, Tx.run_pure_eq_ok] at hrest
  obtain ⟨_, _, _, _, _, _, _, hend⟩ := hrest
  cases hend
  exact .selectDate hmem hactive

/-! ### Holds -/

/-- What `create_hold` has checked before it writes: `selected` is the slot at the
index, `slot` the same slot once the draft's own hold is released. -/
structure HoldTaken (cfg : Catalogue) (env : Environment) (db : Database) (draft : BookingDraftRow)
    (slotIndex : Int) (key : Text) (selectedDate : Int) (service : ServiceRow)
    (policyRow : BookingPolicyRow) (policy : BookingPolicy) (selected slot : AvailableSlot) :
    Prop where
  draftStored : draft ∈ db.bookingDrafts
  draftActive : draft.status = .active
  draftUnexpired : env.now < draft.expiresAt
  date : draft.selectedDate = some selectedDate
  serviceStored : cfg.service? draft.tenantId draft.serviceId = some service
  policyStored : cfg.policy? draft.tenantId = some policyRow
  policyValid : bookingPolicy policyRow = .ok policy
  offered : ∃ slots, calculateAvailability (contextOf cfg db service policyRow policy env.now)
    selectedDate env.now = .ok slots ∧ slots[slotIndex.toNat]? = some selected
  offeredAgain : ∃ slots, calculateAvailability
    (contextOf cfg (db.releaseHold draft) service policyRow policy env.now) selectedDate env.now =
      .ok slots ∧ slot ∈ slots
  startAt : slot.startAt = selected.startAt
  resourceId : slot.resourceId = selected.resourceId
  fresh : ∀ row ∈ db.slotHolds, row.id ≠ env.newId
  unusedKey : ∀ row ∈ db.slotHolds, ¬ (row.tenantId = draft.tenantId ∧ row.idempotencyKey = key)

/-- A hold past the replay lookup is taken on an offered slot. -/
theorem holdSlot_ok {draftId : BookingDraftId} {slotIndex : Int} {key : Text} {hold : SlotHold}
    (hrun : (holdSlot cfg env tenantId customerId draftId slotIndex key).run db = .ok (hold, db')) :
    ∃ draft selectedDate service policyRow policy selected slot,
      draft.id = draftId ∧ draft.tenantId = tenantId ∧ draft.customerId = customerId ∧
      HoldTaken cfg env db draft slotIndex key selectedDate service policyRow policy selected
        slot ∧
      hold = (newHold env draft (contextOf cfg db service policyRow policy env.now) slot
        key).toHold ∧
      db' = (db.releaseHold draft).placeHold draft
        (newHold env draft (contextOf cfg db service policyRow policy env.now) slot key) := by
  simp only [holdSlot, Tx.run_get_bind_eq_ok] at hrun
  obtain ⟨draft, middle, howned, hrest⟩ := Tx.run_bind_eq_ok.mp hrun
  obtain ⟨hmem, rfl, rfl, rfl, hactive, hlive, rfl⟩ := ownedDraft_ok howned
  simp only [Tx.run_get_bind_eq_ok, Tx.run_lift_bind_eq_ok, Tx.run_fetch_bind_eq_ok,
    Tx.run_require_bind_eq_ok, Tx.run_modify_bind_eq_ok, Tx.run_pure_eq_ok] at hrest
  obtain ⟨selectedDate, hdate, _, hfound, context, rfl, slots, hslots, selected, hselected, _,
    hfoundAgain, refreshed, rfl, slotsAgain, hslotsAgain, slot, hmatching, hfresh, hkey, hend⟩ :=
    hrest
  obtain ⟨service, policyRow, policy, hservice, hpolicyRow, hpolicy, rfl⟩ :=
    availabilityContext_eq_some hfound
  obtain ⟨service', policyRow', policy', hservice', hpolicyRow', hpolicy', rfl⟩ :=
    availabilityContext_eq_some hfoundAgain
  cases hservice.symm.trans hservice'
  cases hpolicyRow.symm.trans hpolicyRow'
  cases hpolicy.symm.trans hpolicy'
  obtain ⟨hslot, hstart, hresource⟩ := Table.of_find? hmatching
  simp only [Database.releaseHold, Database.updateDraft_slotHolds,
    Database.closeHolds_slotHolds] at hfresh hkey
  cases hend
  refine ⟨draft, selectedDate, service, policyRow, policy, selected, slot, rfl, rfl, rfl, ?_, rfl,
    rfl⟩
  exact
    { draftStored := hmem
      draftActive := hactive
      draftUnexpired := hlive
      date := hdate
      serviceStored := hservice
      policyStored := hpolicyRow
      policyValid := hpolicy
      offered := ⟨slots, hslots, hselected⟩
      offeredAgain := ⟨slotsAgain, hslotsAgain, hslot⟩
      startAt := hstart
      resourceId := hresource
      fresh := (Table.forall_mem_update (by intro row; exact Iff.rfl)).mp hfresh
      unusedKey := (Table.forall_mem_update (by intro row; exact Iff.rfl)).mp hkey }

/-- A hold is either the one stored under the key or a new one. -/
theorem createHold_cases {draftId : BookingDraftId} {slotIndex : Int} {key : Text} {hold : SlotHold}
    (hrun : (createHold cfg env tenantId customerId draftId slotIndex key).run db =
      .ok (hold, db')) :
    (∃ existing ∈ db.slotHolds, existing.tenantId = tenantId ∧ existing.idempotencyKey = key ∧
        existing.customerId = customerId ∧ hold = existing.toHold ∧ db' = db) ∨
      (holdSlot cfg env tenantId customerId draftId slotIndex key).run db = .ok (hold, db') := by
  simp only [createHold, Tx.run_get_bind_eq_ok, Tx.run_require_bind_eq_ok] at hrun
  obtain ⟨_, hrest⟩ := hrun
  split at hrest
  · rename_i existing hfound
    obtain ⟨hmem, htenant, hkey⟩ := Table.of_find? hfound
    simp only [Tx.run_require_bind_eq_ok, Tx.run_pure_eq_ok] at hrest
    obtain ⟨hcustomer, hend⟩ := hrest
    cases hend
    exact .inl ⟨existing, hmem, htenant, hkey, hcustomer, rfl, rfl⟩
  · exact .inr hrest

theorem createHold_ok {draftId : BookingDraftId} {slotIndex : Int} {key : Text} {hold : SlotHold}
    (hrun : (createHold cfg env tenantId customerId draftId slotIndex key).run db =
      .ok (hold, db')) :
    db' = db ∨
      Change cfg env db (.customer tenantId customerId (.createHold draftId slotIndex key)) db' := by
  rcases createHold_cases hrun with ⟨_, _, _, _, _, _, hsame⟩ | htake
  · exact .inl hsame
  · obtain ⟨draft, selectedDate, service, policyRow, policy, selected, slot, rfl, rfl, rfl, htaken,
      _, rfl⟩ := holdSlot_ok htake
    obtain ⟨slots, hslots, hslot⟩ := htaken.offeredAgain
    exact .inr (.createHold htaken.draftStored htaken.draftActive htaken.date htaken.serviceStored
      htaken.policyStored htaken.policyValid hslots hslot htaken.fresh htaken.unusedKey)

theorem getHold_ok {draftId : BookingDraftId} {hold : Option SlotHold}
    (hrun : (getHold env tenantId customerId draftId).run db = .ok (hold, db')) :
    db' = db ∨ Change cfg env db (.customer tenantId customerId (.getHold draftId)) db' := by
  simp only [getHold, Tx.run_get_bind_eq_ok] at hrun
  split at hrun
  · cases Tx.run_pure_eq_ok.mp hrun
    exact .inl rfl
  · rename_i row hfound
    obtain ⟨hmem, rfl, rfl, rfl, hactive⟩ := Table.of_find? hfound
    split at hrun
    · rename_i hexpired
      simp only [Tx.run_modify_bind_eq_ok, Tx.run_pure_eq_ok] at hrun
      cases hrun
      exact .inr (.getHold hmem hactive hexpired)
    · cases Tx.run_pure_eq_ok.mp hrun
      exact .inl rfl

theorem expireHolds_ok {limit : Int} {count : Nat}
    (hrun : (expireHolds cfg env limit).run db = .ok (count, db')) :
    Change cfg env db (.expireHolds limit) db' := by
  simp only [expireHolds, Tx.run_get_bind_eq_ok, Tx.run_require_bind_eq_ok,
    Tx.run_modify_bind_eq_ok, Tx.run_pure_eq_ok] at hrun
  obtain ⟨_, hend⟩ := hrun
  cases hend
  apply Change.expireHolds
  intro id hid
  obtain ⟨hold, hhold, rfl⟩ := List.mem_map.mp hid
  have hselected := List.mem_of_mem_take hhold
  rw [List.mem_insertionSort, List.mem_filter] at hselected
  obtain ⟨hmem, hcondition⟩ := hselected
  obtain ⟨hactive, hexpired, _⟩ := of_decide_eq_true hcondition
  exact ⟨hold, hmem, rfl, hactive, hexpired⟩

/-! ### Contact details and abandoned drafts -/

theorem updateContact_ok {draftId : BookingDraftId} {name phone note : Option Text}
    {draft : BookingDraft}
    (hrun : (updateContact cfg env tenantId customerId draftId name phone note).run db =
      .ok (draft, db')) :
    Change cfg env db (.customer tenantId customerId (.updateContact draftId name phone note))
      db' := by
  unfold updateContact at hrun
  obtain ⟨row, middle, howned, hrest⟩ := Tx.run_bind_eq_ok.mp hrun
  obtain ⟨hmem, rfl, rfl, rfl, hactive, _, rfl⟩ := ownedDraft_ok howned
  simp only [Tx.run_lift_bind_eq_ok, Tx.run_fetch_bind_eq_ok, Tx.run_modify_bind_eq_ok,
    Tx.run_pure_eq_ok] at hrest
  obtain ⟨_, _, _, _, _, _, _, _, hend⟩ := hrest
  cases hend
  exact .updateContact hmem hactive

theorem cancelDraft_ok {conversationId : ConversationId} {any : Bool}
    (hrun : (cancelDraft tenantId customerId conversationId).run db = .ok (any, db')) :
    db' = db ∨
      Change cfg env db (.customer tenantId customerId (.cancelDraft conversationId)) db' := by
  simp only [cancelDraft, Tx.run_get_bind_eq_ok] at hrun
  split at hrun
  · cases Tx.run_pure_eq_ok.mp hrun
    exact .inl rfl
  · rename_i hany
    simp only [Tx.run_modify_bind_eq_ok, Tx.run_pure_eq_ok] at hrun
    cases hrun
    exact .inr (.cancelDraft rfl (by simpa using hany))

/-! ### Confirmation and cancellation -/

theorem checkBooking_ok {booking : BookingRow}
    (hrun : (checkBooking booking).run db = .ok ((), db')) :
    db' = db ∧
      (∀ row ∈ db.bookings, row.tenantId = booking.tenantId → row.id ≠ booking.id →
        booking.publicReference.isSome = true → row.publicReference ≠ booking.publicReference) ∧
      ∀ row ∈ db.bookings, row.id ≠ booking.id → ¬ booking.Excludes row := by
  simp only [checkBooking, Tx.run_get_bind_eq_ok, Tx.run_require_bind_eq_ok,
    Tx.run_require_eq_ok] at hrun
  obtain ⟨hreference, _, _, hexclusion, hend⟩ := hrun
  cases hend
  refine ⟨rfl, ?_, ?_⟩
  · intro row hrow htenant hid hsome hsame
    exact hreference row (List.mem_filter.mpr ⟨hrow, decide_eq_true ⟨htenant, hid⟩⟩) ⟨hsame, hsome⟩
  · intro row hrow hid hexcludes
    refine hexclusion row ?_ hexcludes
    rw [List.mem_filter]
    exact ⟨hrow, decide_eq_true ⟨hexcludes.2.2.1.symm, hid⟩⟩

theorem replayedBooking_none {draftId : BookingDraftId} {key : Text}
    (hreplay : replayedBooking db tenantId customerId draftId key = .ok none) :
    ∀ row ∈ db.bookings, row.tenantId = tenantId → row.idempotencyScope = "confirm" →
      row.idempotencyValue ≠ key := by
  unfold replayedBooking at hreplay
  split at hreplay
  · split at hreplay <;> cases hreplay
  · rename_i hnone
    intro row hrow htenant hscope hvalue
    have := List.find?_eq_none.mp hnone row hrow
    simp [htenant, hscope, hvalue] at this

/-- What `confirm` has checked of the draft and its hold before it writes. -/
structure Confirmable (cfg : Catalogue) (env : Environment) (db : Database)
    (draft : BookingDraftRow) (hold : SlotHoldRow) (service : ServiceRow) : Prop where
  draftStored : draft ∈ db.bookingDrafts
  draftActive : draft.status = .active
  draftUnexpired : env.now < draft.expiresAt
  named : truthy draft.customerName = true
  phoned : truthy draft.customerPhone = true
  holdStored : hold ∈ db.slotHolds
  holdOfDraft : draft.holdId = some hold.id
  holdTenant : hold.tenantId = draft.tenantId
  holdCustomer : hold.customerId = draft.customerId
  holdUnexpired : hold.Unexpired env.now
  serviceStored : cfg.service? hold.tenantId hold.serviceId = some service
  serviceBookable : service.active = true ∧ service.bookable = true

/-- A confirmation past the replay lookups writes a new booking or moves the one
the draft reschedules. -/
theorem confirmDraft_ok {draftId : BookingDraftId} {key : Text} {booked : BookingResult}
    (hrun : (confirmDraft cfg env tenantId customerId draftId key).run db = .ok (booked, db')) :
    ∃ draft hold service, draft.id = draftId ∧ draft.tenantId = tenantId ∧
      draft.customerId = customerId ∧ Confirmable cfg env db draft hold service ∧
      ((draft.rescheduleBookingId = none ∧
          result cfg (newBooking env.newId draft hold service key) = .ok booked ∧
          (∀ row ∈ db.bookings, row.id ≠ env.newId) ∧
          (∀ row ∈ db.bookings, row.tenantId = draft.tenantId →
            row.publicReference ≠ some (publicReference env.newId)) ∧
          (∀ row ∈ db.bookings, ¬ (newBooking env.newId draft hold service key).Excludes row) ∧
          db' = (db.book (newBooking env.newId draft hold service key) env.now
            env.serverNow).settleDraft draft hold) ∨
        ∃ booking ∈ db.bookings, draft.rescheduleBookingId = some booking.id ∧
          booking.tenantId = tenantId ∧ booking.customerId = customerId ∧
          booking.status = .confirmed ∧
          result cfg (booking.movedTo hold service) = .ok booked ∧
          (∀ row ∈ db.bookings, row.id ≠ booking.id →
            ¬ (booking.movedTo hold service).Excludes row) ∧
          db' = (db.move booking hold service env.now env.serverNow).settleDraft draft hold) := by
  simp only [confirmDraft, Tx.run_get_bind_eq_ok] at hrun
  obtain ⟨draft, middle, howned, hrest⟩ := Tx.run_bind_eq_ok.mp hrun
  obtain ⟨hmem, rfl, rfl, rfl, hactive, hlive, rfl⟩ := ownedDraft_ok howned
  simp only [Tx.run_require_bind_eq_ok, Tx.run_fetch_bind_eq_ok] at hrest
  obtain ⟨⟨_, hname, hphone⟩, hold, hhold, hunexpired, service, hservice, hrest⟩ := hrest
  obtain ⟨hholdMem, hholdTenant, hholdCustomer, hholdId⟩ := Table.of_find? hhold
  obtain ⟨hservice, hbookable⟩ := Option.filter_eq_some_iff.mp hservice
  rw [← hholdTenant] at hservice
  refine ⟨draft, hold, service, rfl, rfl, rfl,
    ⟨hmem, hactive, hlive, hname, hphone, hholdMem, hholdId, hholdTenant, hholdCustomer,
      hunexpired, hservice, by simpa using hbookable⟩, ?_⟩
  cases hreschedule : draft.rescheduleBookingId with
  | none =>
      rw [hreschedule] at hrest
      obtain ⟨booking, written, hinsert, hsettle⟩ := Tx.run_bind_eq_ok.mp hrest
      simp only [insertBooking, Tx.run_get_bind_eq_ok, Tx.run_require_bind_eq_ok] at hinsert
      obtain ⟨hfresh, hchecked⟩ := hinsert
      obtain ⟨⟨⟩, _, hcheck, hbook⟩ := Tx.run_bind_eq_ok.mp hchecked
      obtain ⟨rfl, hreference, hexclusion⟩ := checkBooking_ok hcheck
      simp only [Tx.run_modify_bind_eq_ok, Tx.run_pure_eq_ok] at hbook hsettle
      cases hbook
      obtain ⟨hresult, hwritten⟩ := Tx.run_lift_eq_ok.mp hsettle
      exact .inl ⟨rfl, hresult, hfresh,
        fun row hrow htenant => hreference row hrow htenant (hfresh row hrow) rfl,
        fun row hrow => hexclusion row hrow (hfresh row hrow), hwritten⟩
  | some bookingId =>
      rw [hreschedule] at hrest
      obtain ⟨moved, written, hreplace, hsettle⟩ := Tx.run_bind_eq_ok.mp hrest
      simp only [rescheduleBooking, Tx.run_get_bind_eq_ok, Tx.run_fetch_bind_eq_ok,
        Tx.run_require_bind_eq_ok] at hreplace
      obtain ⟨booking, hfound, hconfirmed, _, _, _, hchecked⟩ := hreplace
      obtain ⟨⟨⟩, _, hcheck, hmove⟩ := Tx.run_bind_eq_ok.mp hchecked
      obtain ⟨rfl, _, hexclusion⟩ := checkBooking_ok hcheck
      obtain ⟨hbooking, htenant, hcustomer, rfl⟩ := Table.of_find? hfound
      simp only [Tx.run_modify_bind_eq_ok, Tx.run_pure_eq_ok] at hmove hsettle
      cases hmove
      obtain ⟨hresult, hwritten⟩ := Tx.run_lift_eq_ok.mp hsettle
      exact .inr ⟨booking, hbooking, rfl, htenant, hcustomer, hconfirmed, hresult, hexclusion,
        hwritten⟩

theorem confirm_ok {draftId : BookingDraftId} {key : Text} {booked : BookingResult}
    (hrun : (confirm cfg env tenantId customerId draftId key).run db = .ok (booked, db')) :
    (∃ booking, replayedBooking db tenantId customerId draftId key = .ok (some booking) ∧
        result cfg booking = .ok booked ∧ db' = db) ∨
      replayedBooking db tenantId customerId draftId key = .ok none ∧
        (confirmDraft cfg env tenantId customerId draftId key).run db = .ok (booked, db') := by
  simp only [confirm, Tx.run_require_bind_eq_ok, Tx.run_mapError_eq_ok, Tx.run_get_bind_eq_ok,
    Tx.run_lift_bind_eq_ok] at hrun
  obtain ⟨_, replayed, hreplay, hrest⟩ := hrun
  cases replayed with
  | some booking =>
      simp only [Tx.run_lift_eq_ok] at hrest
      exact .inl ⟨booking, hreplay, hrest⟩
  | none => exact .inr ⟨hreplay, hrest⟩

theorem confirm_change {draftId : BookingDraftId} {key : Text} {booked : BookingResult}
    (hrun : (confirm cfg env tenantId customerId draftId key).run db = .ok (booked, db')) :
    db' = db ∨ Change cfg env db (.customer tenantId customerId (.confirm draftId key)) db' := by
  rcases confirm_ok hrun with ⟨_, _, _, hsame⟩ | ⟨hreplay, hconfirm⟩
  · exact .inl hsame
  obtain ⟨draft, hold, service, rfl, rfl, rfl, hready, hwrite⟩ := confirmDraft_ok hconfirm
  rcases hwrite with ⟨hreschedule, _, hfresh, hreference, hexclusion, rfl⟩ |
    ⟨booking, hbooking, hreschedule, htenant, hcustomer, hconfirmed, _, hexclusion, rfl⟩
  · exact .inr (.book hready.draftStored hready.draftActive hreschedule hready.holdStored
      hready.holdOfDraft hready.holdTenant hready.holdUnexpired hready.serviceStored hfresh
      hreference (replayedBooking_none hreplay) hexclusion)
  · exact .inr (.move hready.draftStored hready.draftActive hready.holdStored hready.holdOfDraft
      hready.holdTenant hready.holdUnexpired hready.serviceStored hbooking hreschedule htenant
      hcustomer hconfirmed hexclusion)

theorem latestBooking_ok {booking : Option BookingResult}
    (hrun : (latestBooking cfg env tenantId customerId).run db = .ok (booking, db')) : db' = db := by
  simp only [latestBooking, Tx.run_get_bind_eq_ok] at hrun
  split at hrun
  · cases Tx.run_pure_eq_ok.mp hrun
    rfl
  · obtain ⟨_, _, hlift, hpair⟩ := Tx.run_map_eq_ok.mp hrun
    cases hpair
    exact (Tx.run_lift_eq_ok.mp hlift).2

theorem getBooking_ok {bookingId : BookingId} {booking : Option BookingResult}
    (hrun : (getBooking cfg tenantId customerId bookingId).run db = .ok (booking, db')) :
    db' = db := by
  simp only [getBooking, Tx.run_get_bind_eq_ok] at hrun
  split at hrun
  · cases Tx.run_pure_eq_ok.mp hrun
    rfl
  · obtain ⟨_, _, hlift, hpair⟩ := Tx.run_map_eq_ok.mp hrun
    cases hpair
    exact (Tx.run_lift_eq_ok.mp hlift).2

theorem bookingHistory_ok {bookingId : BookingId} {rows : List (BookingStatus × BookingStatus × Int)}
    (hrun : (bookingHistory tenantId customerId bookingId).run db = .ok (rows, db')) :
    db' = db := by
  simp only [bookingHistory, Tx.run_get_bind_eq_ok] at hrun
  split at hrun <;> cases Tx.run_pure_eq_ok.mp hrun <;> rfl

theorem cancelBooking_ok {bookingId : BookingId} {cancelled : BookingResult}
    (hrun : (cancelBooking cfg env tenantId customerId bookingId).run db = .ok (cancelled, db')) :
    db' = db ∨
      Change cfg env db (.customer tenantId customerId (.cancelBooking bookingId)) db' := by
  simp only [cancelBooking, Tx.run_get_bind_eq_ok, Tx.run_fetch_bind_eq_ok] at hrun
  obtain ⟨booking, hfound, hrest⟩ := hrun
  obtain ⟨hbooking, rfl, rfl, rfl⟩ := Table.of_find? hfound
  split at hrest
  · simp only [Tx.run_lift_eq_ok] at hrest
    exact .inl hrest.2
  · simp only [Tx.run_require_bind_eq_ok, Tx.run_fetch_bind_eq_ok, Tx.run_modify_bind_eq_ok,
      Tx.run_lift_eq_ok] at hrest
    obtain ⟨hconfirmed, _, _, _, _, hend⟩ := hrest
    exact .inr (hend ▸ .cancelBooking hbooking hconfirmed)

end BookingStore

/-! ## Every call -/

/-- A committed call changes the rows in one of the listed ways, or not at all. -/
theorem Call.transaction_ok {call : Call} {response : Response}
    (hrun : (call.transaction cfg env).run db = .ok (response, db')) :
    db' = db ∨ Change cfg env db call db' := by
  cases call with
  | expireHolds limit =>
      obtain ⟨_, _, hrun, hpair⟩ := Tx.run_map_eq_ok.mp hrun
      cases hpair
      exact .inr (BookingStore.expireHolds_ok hrun)
  | customer tenantId customerId request =>
      cases request with
      | startDraft =>
          obtain ⟨_, _, hrun, hpair⟩ := Tx.run_map_eq_ok.mp hrun
          cases hpair
          exact .inr (BookingStore.startDraft_ok hrun)
      | getActiveDraft =>
          obtain ⟨_, _, hrun, hpair⟩ := Tx.run_map_eq_ok.mp hrun
          cases hpair
          exact BookingStore.getActiveDraft_ok hrun
      | selectDate =>
          obtain ⟨_, _, hrun, hpair⟩ := Tx.run_map_eq_ok.mp hrun
          cases hpair
          exact .inr (BookingStore.selectDate_ok hrun)
      | createHold =>
          obtain ⟨_, _, hrun, hpair⟩ := Tx.run_map_eq_ok.mp hrun
          cases hpair
          exact BookingStore.createHold_ok hrun
      | updateContact =>
          obtain ⟨_, _, hrun, hpair⟩ := Tx.run_map_eq_ok.mp hrun
          cases hpair
          exact .inr (BookingStore.updateContact_ok hrun)
      | getHold =>
          obtain ⟨_, _, hrun, hpair⟩ := Tx.run_map_eq_ok.mp hrun
          cases hpair
          exact BookingStore.getHold_ok hrun
      | cancelDraft =>
          obtain ⟨_, _, hrun, hpair⟩ := Tx.run_map_eq_ok.mp hrun
          cases hpair
          exact BookingStore.cancelDraft_ok hrun
      | confirm =>
          obtain ⟨_, _, hrun, hpair⟩ := Tx.run_map_eq_ok.mp hrun
          cases hpair
          exact BookingStore.confirm_change hrun
      | latestBooking =>
          obtain ⟨_, _, hrun, hpair⟩ := Tx.run_map_eq_ok.mp hrun
          cases hpair
          exact .inl (BookingStore.latestBooking_ok hrun)
      | getBooking =>
          obtain ⟨_, _, hrun, hpair⟩ := Tx.run_map_eq_ok.mp hrun
          cases hpair
          exact .inl (BookingStore.getBooking_ok hrun)
      | cancelBooking =>
          obtain ⟨_, _, hrun, hpair⟩ := Tx.run_map_eq_ok.mp hrun
          cases hpair
          exact BookingStore.cancelBooking_ok hrun
      | bookingHistory =>
          obtain ⟨_, _, hrun, hpair⟩ := Tx.run_map_eq_ok.mp hrun
          cases hpair
          exact .inl (BookingStore.bookingHistory_ok hrun)

/-- An invocation that raises changes nothing. -/
theorem Invocation.execute_of_error (invocation : Invocation) {failure : Failure}
    (hfailed : (invocation.execute cfg db).1 = .error failure) :
    (invocation.execute cfg db).2 = db := by
  unfold Invocation.execute at hfailed ⊢
  rcases Tx.commit_state (invocation.call.transaction cfg invocation.env) db with
    hsame | ⟨value, hrun⟩
  · exact hsame
  · rw [Tx.commit_of_ok hrun] at hfailed
    cases hfailed

/-- An invocation changes the rows in one of the listed ways, or not at all. -/
theorem Invocation.execute_change (cfg : Catalogue) (db : Database) (invocation : Invocation) :
    (invocation.execute cfg db).2 = db ∨
      Change cfg invocation.env db invocation.call (invocation.execute cfg db).2 := by
  rcases Tx.commit_state (invocation.call.transaction cfg invocation.env) db with
    hsame | ⟨_, hrun⟩
  · exact .inl hsame
  · exact Call.transaction_ok hrun

end BusinessAssistant.Persistence
