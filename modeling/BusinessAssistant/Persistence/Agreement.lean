/-
# What an operation reads

Run from two databases in which a customer sees the same, an operation of the
store that the customer asks for has the same outcome. Most of its queries are for
the customer's own rows. Two are by an idempotency key and not by customer: the
keys the navigation builds name the draft, so what such a query finds belongs to
the owner of that draft, or the request ends like one for a draft that does not
exist.
-/

import BusinessAssistant.Foundation.TwoRun
import BusinessAssistant.Persistence.Confirmation
import BusinessAssistant.Persistence.HoldReplay
import BusinessAssistant.Persistence.Retention
import BusinessAssistant.Persistence.SharedView

namespace BusinessAssistant.Persistence

open BusinessAssistant.Domain BusinessAssistant.Application BusinessAssistant.Foundation

/-! ## Keys name their owner -/

/-- Every booking is stored under the confirmation key of a draft of its owner. -/
def ConfirmKeys (db : Database) : Prop :=
  ∀ booking ∈ db.bookings, ∃ draft ∈ db.bookingDrafts,
    booking.idempotencyValue = confirmKey draft.id ∧ booking.owner = draft.owner

theorem confirmKey_injective {first second : BookingDraftId}
    (hkey : confirmKey first = confirmKey second) : first = second :=
  UUID.str_injective (List.append_cancel_left hkey)

section Invariant

variable {cfg : Catalogue} {env : Environment} {db db' : Database} {call : Call}

/-- Rewriting drafts without touching their ids and owners keeps the keys. -/
theorem ConfirmKeys.rewriteDrafts (h : ConfirmKeys db)
    {selected : BookingDraftRow → Prop} [DecidablePred selected]
    {change : BookingDraftRow → BookingDraftRow}
    (hdrafts : db'.bookingDrafts = Table.update selected change db.bookingDrafts)
    (hkeep : ∀ row, (change row).id = row.id ∧ (change row).owner = row.owner)
    (hbookings : db'.bookings = db.bookings) : ConfirmKeys db' := by
  intro booking hbooking
  rw [hbookings] at hbooking
  rw [hdrafts]
  apply Table.exists_mem_update (h booking hbooking)
  rintro row _ ⟨hkey, howner⟩ _
  exact ⟨hkey.trans (congrArg confirmKey (hkeep row).1.symm), howner.trans (hkeep row).2.symm⟩

theorem ConfirmKeys.change (h : ConfirmKeys db)
    (hkeys : ∀ request ∈ call.request?, request.UsesConfirmKey)
    (hchange : Change cfg env db call db') : ConfirmKeys db' := by
  cases hchange with
  | startDraft draft =>
      have hclosed : ConfirmKeys (db.closeDrafts (fun row =>
          row.OfIdentity draft.tenantId draft.customerId draft.conversationId) .cancelled) :=
        h.rewriteDrafts rfl (fun _ => ⟨rfl, rfl⟩) rfl
      intro booking hbooking
      obtain ⟨row, hrow, hmatch⟩ := hclosed booking hbooking
      exact ⟨row, List.mem_append_left _ hrow, hmatch⟩
  | getActiveDraft => exact h.rewriteDrafts rfl (fun _ => ⟨rfl, rfl⟩) rfl
  | selectDate => exact h.rewriteDrafts rfl (fun _ => ⟨rfl, rfl⟩) rfl
  | createHold =>
      rw [Database.releaseHold_placeHold]
      exact h.rewriteDrafts rfl (fun _ => ⟨rfl, rfl⟩) rfl
  | updateContact => exact h.rewriteDrafts rfl (fun _ => ⟨rfl, rfl⟩) rfl
  | getHold => exact h
  | cancelDraft => exact h.rewriteDrafts rfl (fun _ => ⟨rfl, rfl⟩) rfl
  | @book draft hold _ _ hdraft =>
      have hsettled : ConfirmKeys (db.settleDraft draft hold) :=
        h.rewriteDrafts rfl (fun _ => ⟨rfl, rfl⟩) rfl
      intro booking hbooking
      rcases Table.mem_append_row.mp hbooking with hstored | rfl
      · exact hsettled booking hstored
      · exact ⟨_, Table.mem_update_of_selected hdraft rfl, hkeys _ rfl _ rfl, rfl⟩
  | @move draft hold =>
      have hsettled : ConfirmKeys (db.settleDraft draft hold) :=
        h.rewriteDrafts rfl (fun _ => ⟨rfl, rfl⟩) rfl
      exact Table.forall_update hsettled fun _ hrow => hrow
  | cancelBooking => exact Table.forall_update h fun _ hrow => hrow
  | expireHolds => exact h

end Invariant

/-- What holds of every database the navigation reaches. -/
structure Navigated (cfg : Catalogue) (db : Database) : Prop where
  coherent : Coherent db
  recorded : Recorded db
  bookingKeys : BookingKeys db
  holdKeys : HoldKeys db
  confirmKeys : ConfirmKeys db
  timed : ∀ booking ∈ db.bookings, booking.Timed cfg
  placed : ∀ hold ∈ db.slotHolds, ∃ resource ∈ cfg.resources,
    resource.id = hold.resourceId ∧ resource.tenantId = hold.tenantId

theorem navigated_of_reachable {cfg : Catalogue} {s : State}
    (hs : (navigationSystem cfg).Reachable s) : Navigated cfg s.db where
  coherent := coherent_of_reachable hs.of_restrict
  recorded := recorded_of_reachable hs.of_restrict
  bookingKeys := bookingKeys_of_reachable hs.of_restrict
  holdKeys := holdKeys_of_reachable
    (hs.weaken fun _ _ hkeys request hrequest => (hkeys request hrequest).1)
  confirmKeys := by
    apply hs.invariant (I := fun s => ConfirmKeys s.db)
    · rintro s ⟨_, _, hbookings, _⟩ booking hbooking
      rw [hbookings] at hbooking
      cases hbooking
    · rintro s invocation _ _ hbefore ⟨hkeys, _, rfl⟩
      rcases invocation.execute_change cfg s.db with hsame | hchange
      · rw [hsame]
        exact hbefore
      · exact hbefore.change (fun request hrequest => (hkeys request hrequest).2) hchange
  timed := timed_of_reachable hs.of_restrict
  placed hold hhold := (placed_of_reachable hs.of_restrict hold hhold).resource

section Owners

variable {cfg : Catalogue} {db : Database}

/-- A hold under a key of a draft belongs to the draft's owner. -/
theorem Navigated.hold_owner (h : Navigated cfg db) {hold : SlotHoldRow}
    (hhold : hold ∈ db.slotHolds) {draftId : BookingDraftId}
    (hkey : HoldKeyOf draftId hold.idempotencyKey) :
    ∃ draft ∈ db.bookingDrafts, draft.id = draftId ∧ draft.owner = hold.owner := by
  obtain ⟨slotChoice, hchoice⟩ := hkey
  obtain ⟨other, hother⟩ := h.holdKeys.ofDraft hold hhold
  obtain ⟨draft, hdraft, htaken⟩ := h.coherent.draftOfHold hold hhold
  refine ⟨draft, hdraft, ?_, Prod.ext htaken.tenantId.symm htaken.customerId.symm⟩
  exact htaken.draftId.symm.trans (holdKey_injective (hother.symm.trans hchoice))

/-- A booking under the key of a draft belongs to the draft's owner. -/
theorem Navigated.booking_owner (h : Navigated cfg db) {booking : BookingRow}
    (hbooking : booking ∈ db.bookings) {draftId : BookingDraftId}
    (hkey : booking.idempotencyValue = confirmKey draftId) :
    ∃ draft ∈ db.bookingDrafts, draft.id = draftId ∧ draft.owner = booking.owner := by
  obtain ⟨draft, hdraft, hsame, howner⟩ := h.confirmKeys booking hbooking
  exact ⟨draft, hdraft, confirmKey_injective (hsame.symm.trans hkey), howner.symm⟩

end Owners

/-! ## Lookups of own rows -/

section Lookups

variable {tenantId : TenantId} {customerId : CustomerId} {db db' : Database}

theorem SamePart.findDraft (h : SamePart (Owner.own (tenantId, customerId)) db db')
    {wanted : BookingDraftRow → Prop} [DecidablePred wanted]
    (howner : ∀ row, wanted row → row.owner = (tenantId, customerId)) :
    (db.bookingDrafts.find? fun row => wanted row) =
      db'.bookingDrafts.find? fun row => wanted row :=
  Table.find?_congr_of_filter (fun row _ hrow => decide_eq_true (howner row (of_decide_eq_true hrow)))
    (fun row _ hrow => decide_eq_true (howner row (of_decide_eq_true hrow))) h.bookingDrafts.symm

/-- The owner has a draft of an id in both databases, or in neither. -/
theorem SamePart.draft_cases (h : SamePart (Owner.own (tenantId, customerId)) db db')
    (draftId : BookingDraftId) :
    (∃ draft ∈ db.bookingDrafts, draft ∈ db'.bookingDrafts ∧
        draft.owner = (tenantId, customerId) ∧ draft.id = draftId) ∨
      (∀ draft ∈ db.bookingDrafts, draft.owner = (tenantId, customerId) → draft.id ≠ draftId) ∧
        ∀ draft ∈ db'.bookingDrafts, draft.owner = (tenantId, customerId) → draft.id ≠ draftId := by
  by_cases hdraft : ∃ draft ∈ db.bookingDrafts, draft.owner = (tenantId, customerId) ∧
      draft.id = draftId
  · obtain ⟨draft, hmem, howner, hid⟩ := hdraft
    have hmem' : draft ∈ db'.bookingDrafts :=
      Table.mem_of_filter_eq h.bookingDrafts.symm hmem (decide_eq_true howner)
    exact .inl ⟨draft, hmem, hmem', howner, hid⟩
  · right
    constructor
    · intro draft hmem howner hid
      exact hdraft ⟨draft, hmem, howner, hid⟩
    · intro draft hmem' howner hid
      have hmem : draft ∈ db.bookingDrafts :=
        Table.mem_of_filter_eq h.bookingDrafts hmem' (decide_eq_true howner)
      exact hdraft ⟨draft, hmem, howner, hid⟩

theorem SamePart.findHold (h : SamePart (Owner.own (tenantId, customerId)) db db')
    {wanted : SlotHoldRow → Prop} [DecidablePred wanted]
    (howner : ∀ row ∈ db.slotHolds, wanted row → row.owner = (tenantId, customerId))
    (howner' : ∀ row ∈ db'.slotHolds, wanted row → row.owner = (tenantId, customerId)) :
    (db.slotHolds.find? fun row => wanted row) = db'.slotHolds.find? fun row => wanted row :=
  Table.find?_congr_of_filter
    (fun row hmem hrow => decide_eq_true (howner row hmem (of_decide_eq_true hrow)))
    (fun row hmem hrow => decide_eq_true (howner' row hmem (of_decide_eq_true hrow)))
    h.slotHolds.symm

theorem SamePart.findBooking (h : SamePart (Owner.own (tenantId, customerId)) db db')
    {wanted : BookingRow → Prop} [DecidablePred wanted]
    (howner : ∀ row ∈ db.bookings, wanted row → row.owner = (tenantId, customerId))
    (howner' : ∀ row ∈ db'.bookings, wanted row → row.owner = (tenantId, customerId)) :
    (db.bookings.find? fun row => wanted row) = db'.bookings.find? fun row => wanted row :=
  Table.find?_congr_of_filter
    (fun row hmem hrow => decide_eq_true (howner row hmem (of_decide_eq_true hrow)))
    (fun row hmem hrow => decide_eq_true (howner' row hmem (of_decide_eq_true hrow)))
    h.bookings.symm

theorem SamePart.ownedBooking? (h : SamePart (Owner.own (tenantId, customerId)) db db')
    (bookingId : BookingId) :
    BookingStore.ownedBooking? db tenantId customerId bookingId =
      BookingStore.ownedBooking? db' tenantId customerId bookingId :=
  h.findBooking (fun _ _ hrow => Prod.ext hrow.1 hrow.2.1) fun _ _ hrow => Prod.ext hrow.1 hrow.2.1

end Lookups

/-! ## Operations on drafts -/

namespace BookingStore

section Agreement

variable {cfg : Catalogue} {env : Environment} {db db' : Database} {tenantId : TenantId}
  {customerId : CustomerId} {α : Type}

theorem ownedDraft_agree (h : SamePart (Owner.own (tenantId, customerId)) db db')
    (draftId : BookingDraftId) (now : Int) :
    Tx.Agree (ownedDraft tenantId customerId draftId now) db
      (ownedDraft tenantId customerId draftId now) db' := by
  unfold ownedDraft
  apply Tx.Agree.get_bind
  apply Tx.Agree.fetch_bind (h.findDraft fun _ hrow => Prod.ext hrow.1 hrow.2.1)
  intro draft _
  apply Tx.Agree.require_bind Iff.rfl
  intro _ _
  apply Tx.Agree.require_bind Iff.rfl
  intro _ _
  exact .pure draft

/-- Both runs go on with the same own draft. -/
theorem ownedDraft_bind_agree (h : SamePart (Owner.own (tenantId, customerId)) db db')
    {draftId : BookingDraftId} {now : Int} {f g : BookingDraftRow → Tx Database Failure α}
    (hrest : ∀ draft, draft ∈ db.bookingDrafts → draft ∈ db'.bookingDrafts →
      draft.owner = (tenantId, customerId) → draft.id = draftId →
        Tx.Agree (f draft) db (g draft) db') :
    Tx.Agree (ownedDraft tenantId customerId draftId now >>= f) db
      (ownedDraft tenantId customerId draftId now >>= g) db' := by
  apply (ownedDraft_agree h draftId now).bind
  intro draft s' t' hs ht
  obtain ⟨hdraft, htenant, hcustomer, hid, _, _, rfl⟩ := ownedDraft_ok hs
  obtain ⟨hdraft', _, _, _, _, _, rfl⟩ := ownedDraft_ok ht
  exact hrest draft hdraft hdraft' (Prod.ext htenant hcustomer) hid

/-- Without an own draft of the id, there is no draft. -/
theorem ownedDraft_missing {draftId : BookingDraftId} {now : Int}
    (hmissing : ∀ draft ∈ db.bookingDrafts, draft.owner = (tenantId, customerId) →
      draft.id ≠ draftId) :
    (ownedDraft tenantId customerId draftId now).run db = .error .bookingNotFound := by
  have hnone : (db.bookingDrafts.find? fun row => row.tenantId = tenantId ∧
      row.customerId = customerId ∧ row.id = draftId) = none := by
    rw [List.find?_eq_none]
    intro row hrow hmatch
    obtain ⟨htenant, hcustomer, hid⟩ := of_decide_eq_true hmatch
    exact hmissing row hrow (Prod.ext htenant hcustomer) hid
  unfold ownedDraft
  rw [Tx.run_get_bind, hnone, Tx.run_fetch_bind_none]

/-- The context exists in one database as in the other. -/
theorem availabilityContext_cases (cfg : Catalogue) (tenantId : TenantId) (serviceId : ServiceId)
    (now : Int) :
    (∃ failure, ∀ db, availabilityContext cfg db tenantId serviceId now = .error failure) ∨
      (∀ db, availabilityContext cfg db tenantId serviceId now = .ok none) ∨
        ∃ service policyRow policy, ∀ db, availabilityContext cfg db tenantId serviceId now =
          .ok (some (contextOf cfg db service policyRow policy now)) := by
  unfold availabilityContext
  cases cfg.service? tenantId serviceId with
  | none => exact .inr (.inl fun _ => rfl)
  | some service =>
      cases cfg.policy? tenantId with
      | none => exact .inr (.inl fun _ => rfl)
      | some policyRow =>
          cases hpolicy : bookingPolicy policyRow with
          | error failure => exact .inl ⟨failure, fun _ => by simp only [hpolicy]; rfl⟩
          | ok policy =>
              exact .inr (.inr ⟨service, policyRow, policy, fun _ => by simp only [hpolicy]; rfl⟩)

/-- Both runs go on with contexts of the same service and policy. -/
theorem context_bind_agree {s t : Database} {serviceId : ServiceId} {now : Int}
    {missing : Failure} {f g : AvailabilityContext → Tx Database Failure α}
    (hrest : ∀ service policyRow policy, Tx.Agree (f (contextOf cfg db service policyRow policy now))
      s (g (contextOf cfg db' service policyRow policy now)) t) :
    Tx.Agree
      (Tx.lift (availabilityContext cfg db tenantId serviceId now) >>= fun found =>
        Tx.fetch found missing >>= f) s
      (Tx.lift (availabilityContext cfg db' tenantId serviceId now) >>= fun found =>
        Tx.fetch found missing >>= g) t := by
  rcases availabilityContext_cases cfg tenantId serviceId now with
    ⟨failure, hfailed⟩ | hnone | ⟨service, policyRow, policy, hsome⟩
  · rw [hfailed db, hfailed db']
    exact .of_error rfl rfl
  · rw [hnone db, hnone db']
    exact .of_error rfl rfl
  · rw [hsome db, hsome db']
    exact .of_run_eq rfl rfl (hrest service policyRow policy)

/-- The original of a reschedule is looked up among the own bookings. -/
theorem checkOriginal_agree (h : SamePart (Owner.own (tenantId, customerId)) db db')
    (serviceId : ServiceId) (rescheduleBookingId : Option BookingId) :
    Tx.Agree (checkOriginal tenantId customerId serviceId rescheduleBookingId) db
      (checkOriginal tenantId customerId serviceId rescheduleBookingId) db' := by
  unfold checkOriginal
  cases rescheduleBookingId with
  | none => exact .pure ()
  | some bookingId =>
      apply Tx.Agree.get_bind
      apply Tx.Agree.fetch_bind
      · exact h.findBooking (fun _ _ hrow => Prod.ext hrow.1 hrow.2.1)
          fun _ _ hrow => Prod.ext hrow.1 hrow.2.1
      intro original _
      by_cases hservice : original.serviceId = serviceId
      · exact .of_ok (Tx.run_require_eq_ok.mpr ⟨hservice, rfl⟩)
          (Tx.run_require_eq_ok.mpr ⟨hservice, rfl⟩)
      · unfold Tx.require
        rw [if_neg hservice]
        exact .of_error rfl rfl

theorem startDraft_agree (h : SameView cfg env.now (tenantId, customerId) db db')
    (hfresh : ∀ row ∈ db.bookingDrafts, row.id ≠ env.newId)
    (hfresh' : ∀ row ∈ db'.bookingDrafts, row.id ≠ env.newId) (conversationId : ConversationId)
    (serviceId : ServiceId) (rescheduleBookingId : Option BookingId) :
    Tx.Agree
      (startDraft cfg env tenantId customerId conversationId serviceId rescheduleBookingId) db
      (startDraft cfg env tenantId customerId conversationId serviceId rescheduleBookingId) db' := by
  have hconversation : ∀ row : ConversationRow, row.tenantId = tenantId ∧
      row.id = conversationId ∧ row.customerId = customerId →
        Owner.own (tenantId, customerId) row.owner = true :=
    fun row hrow => decide_eq_true (Prod.ext hrow.1 hrow.2.2)
  unfold startDraft
  apply Tx.Agree.get_bind
  rcases availabilityContext_cases cfg tenantId serviceId env.now with
    ⟨failure, hfailed⟩ | hnone | ⟨service, policyRow, policy, hsome⟩
  · rw [hfailed db, hfailed db']
    exact .of_error rfl rfl
  · rw [hnone db, hnone db']
    exact .of_error rfl rfl
  · rw [hsome db, hsome db']
    have hempty : (contextOf cfg db' service policyRow policy env.now).resources.isEmpty =
        (contextOf cfg db service policyRow policy env.now).resources.isEmpty := by
      have hlength := (h.rooms service policyRow policy).length_eq
      rw [Bool.eq_iff_iff, List.isEmpty_iff_length_eq_zero, List.isEmpty_iff_length_eq_zero, hlength]
    let offered (context : AvailabilityContext) : Bool :=
      context.active && context.bookable && !context.resources.isEmpty
    have hsame : offered (contextOf cfg db' service policyRow policy env.now) =
        offered (contextOf cfg db service policyRow policy env.now) :=
      congrArg (fun empty => service.active && service.bookable && !empty) hempty
    apply Tx.Agree.of_run_eq Tx.run_lift_bind_ok Tx.run_lift_bind_ok
    change Tx.Agree (Tx.fetch ((some _).filter offered) _ >>= _) _
      (Tx.fetch ((some _).filter offered) _ >>= _) _
    rw [Option.filter_some, Option.filter_some]
    by_cases hoffered : offered (contextOf cfg db service policyRow policy env.now) = true
    · rw [if_pos hoffered, if_pos (hsame.trans hoffered)]
      apply Tx.Agree.of_run_eq Tx.run_fetch_bind_some Tx.run_fetch_bind_some
      apply (checkOriginal_agree h.own serviceId rescheduleBookingId).bind
      intro _ s' t' hs ht
      obtain ⟨rfl, _⟩ := checkOriginal_ok hs
      obtain ⟨rfl, _⟩ := checkOriginal_ok ht
      apply Tx.Agree.require_bind
      · constructor
        · rintro ⟨row, hrow, hmatch⟩
          exact ⟨row, Table.mem_of_filter_eq h.own.conversations.symm hrow
            (hconversation row hmatch), hmatch⟩
        · rintro ⟨row, hrow, hmatch⟩
          exact ⟨row, Table.mem_of_filter_eq h.own.conversations hrow
            (hconversation row hmatch), hmatch⟩
      · intro _ _
        apply Tx.Agree.require_bind (iff_of_true hfresh hfresh')
        intro _ _
        apply Tx.Agree.modify_bind
        exact .pure _
    · rw [if_neg hoffered, if_neg (hsame ▸ hoffered)]
      exact .of_error Tx.run_fetch_bind_none Tx.run_fetch_bind_none

theorem getActiveDraft_agree (h : SamePart (Owner.own (tenantId, customerId)) db db')
    (conversationId : ConversationId) :
    Tx.Agree (getActiveDraft env tenantId customerId conversationId) db
      (getActiveDraft env tenantId customerId conversationId) db' := by
  have hlatest : latestDraft? db tenantId customerId conversationId =
      latestDraft? db' tenantId customerId conversationId := by
    unfold latestDraft?
    rw [Table.filter_congr_of_filter ?_ h.bookingDrafts.symm]
    intro row hrow
    obtain ⟨⟨htenant, hcustomer, _⟩, _⟩ := of_decide_eq_true hrow
    exact decide_eq_true (Prod.ext htenant hcustomer)
  unfold getActiveDraft
  apply Tx.Agree.get_bind
  rw [hlatest]
  cases latestDraft? db' tenantId customerId conversationId with
  | none => exact .pure none
  | some draft =>
      by_cases hexpired : draft.expiresAt ≤ env.now
      · simp only [hexpired, if_true]
        apply Tx.Agree.modify_bind
        exact .pure none
      · simp only [hexpired, if_false]
        exact .pure _

theorem selectDate_agree (h : SamePart (Owner.own (tenantId, customerId)) db db')
    (draftId : BookingDraftId) (selectedDate : Int) :
    Tx.Agree (selectDate cfg env tenantId customerId draftId selectedDate) db
      (selectDate cfg env tenantId customerId draftId selectedDate) db' := by
  unfold selectDate
  apply Tx.Agree.get_bind
  apply ownedDraft_bind_agree h
  intro draft _ _ _ _
  apply context_bind_agree
  intro service policyRow policy
  apply Tx.Agree.fetch_bind rfl
  intro tenant _
  apply Tx.Agree.require_bind Iff.rfl
  intro _ _
  apply Tx.Agree.modify_bind
  exact .pure _

theorem updateContact_agree (h : SamePart (Owner.own (tenantId, customerId)) db db')
    (draftId : BookingDraftId) (name phone note : Option Text) :
    Tx.Agree (updateContact cfg env tenantId customerId draftId name phone note) db
      (updateContact cfg env tenantId customerId draftId name phone note) db' := by
  unfold updateContact
  apply ownedDraft_bind_agree h
  intro draft _ _ _ _
  apply Tx.Agree.fetch_bind rfl
  intro policy _
  apply Tx.Agree.lift_bind rfl
  intro newName _
  apply Tx.Agree.lift_bind rfl
  intro newPhone _
  apply Tx.Agree.lift_bind rfl
  intro newNote _
  apply Tx.Agree.modify_bind
  exact .pure _

theorem cancelDraft_agree (h : SamePart (Owner.own (tenantId, customerId)) db db')
    (conversationId : ConversationId) :
    Tx.Agree (cancelDraft tenantId customerId conversationId) db
      (cancelDraft tenantId customerId conversationId) db' := by
  have hdrafts : (db.bookingDrafts.filter fun row =>
      row.OfIdentity tenantId customerId conversationId ∧ row.status = .active) =
        db'.bookingDrafts.filter fun row =>
          row.OfIdentity tenantId customerId conversationId ∧ row.status = .active := by
    apply Table.filter_congr_of_filter ?_ h.bookingDrafts.symm
    intro row hrow
    obtain ⟨⟨htenant, hcustomer, _⟩, _⟩ := of_decide_eq_true hrow
    exact decide_eq_true (Prod.ext htenant hcustomer)
  unfold cancelDraft
  apply Tx.Agree.get_bind
  rw [hdrafts]
  by_cases hnone : (db'.bookingDrafts.filter fun row =>
      row.OfIdentity tenantId customerId conversationId ∧ row.status = .active) = []
  · simp only [hnone, if_true]
    exact .pure false
  · simp only [hnone, if_false]
    apply Tx.Agree.modify_bind
    exact .pure true

/-! ## Operations on holds -/

theorem getHold_agree (h : SamePart (Owner.own (tenantId, customerId)) db db')
    (draftId : BookingDraftId) :
    Tx.Agree (getHold env tenantId customerId draftId) db
      (getHold env tenantId customerId draftId) db' := by
  have hfound : (db.slotHolds.find? fun row => row.tenantId = tenantId ∧
      row.customerId = customerId ∧ row.draftId = draftId ∧ row.status = .active) =
        db'.slotHolds.find? fun row => row.tenantId = tenantId ∧
          row.customerId = customerId ∧ row.draftId = draftId ∧ row.status = .active :=
    h.findHold (fun _ _ hrow => Prod.ext hrow.1 hrow.2.1) fun _ _ hrow => Prod.ext hrow.1 hrow.2.1
  unfold getHold
  apply Tx.Agree.get_bind
  rw [hfound]
  cases db'.slotHolds.find? fun row => row.tenantId = tenantId ∧
      row.customerId = customerId ∧ row.draftId = draftId ∧ row.status = .active with
  | none => exact .pure none
  | some hold =>
      by_cases hexpired : hold.expiresAt ≤ env.now
      · simp only [hexpired, if_true]
        apply Tx.Agree.modify_bind
        exact .pure none
      · simp only [hexpired, if_false]
        exact .pure _

/-- Past the key, a hold is taken on the slots the customer is offered. -/
theorem holdSlot_agree (hview : SameView cfg env.now (tenantId, customerId) db db')
    (hcoherent : Coherent db) (hcoherent' : Coherent db')
    (hfresh : ∀ row ∈ db.slotHolds, row.id ≠ env.newId)
    (hfresh' : ∀ row ∈ db'.slotHolds, row.id ≠ env.newId) (draftId : BookingDraftId)
    (slotIndex : Int) {key : Text}
    (hunused : ∀ row ∈ db.slotHolds, ¬ (row.tenantId = tenantId ∧ row.idempotencyKey = key))
    (hunused' : ∀ row ∈ db'.slotHolds, ¬ (row.tenantId = tenantId ∧ row.idempotencyKey = key)) :
    Tx.Agree (holdSlot cfg env tenantId customerId draftId slotIndex key) db
      (holdSlot cfg env tenantId customerId draftId slotIndex key) db' := by
  unfold holdSlot
  apply Tx.Agree.get_bind
  apply ownedDraft_bind_agree hview.own
  intro draft hdraft hdraft' howner _
  have hreleased : SameView cfg env.now (tenantId, customerId) (db.releaseHold draft)
      (db'.releaseHold draft) := by
    apply hview.releaseHold
    · rw [← howner]
      exact hcoherent.hold_owner hdraft
    · rw [← howner]
      exact hcoherent'.hold_owner hdraft'
  apply Tx.Agree.fetch_bind rfl
  intro selectedDate _
  apply context_bind_agree
  intro service policyRow policy
  apply Tx.Agree.lift_bind (hview.slots service policyRow policy selectedDate).symm
  intro slots _
  apply Tx.Agree.fetch_bind rfl
  intro selected _
  apply Tx.Agree.modify_bind
  apply Tx.Agree.get_bind
  apply context_bind_agree
  intro refreshedService refreshedPolicyRow refreshedPolicy
  apply Tx.Agree.lift_bind (hreleased.slots refreshedService refreshedPolicyRow refreshedPolicy
    selectedDate).symm
  intro slotsAgain _
  apply Tx.Agree.fetch_bind rfl
  intro slot _
  apply Tx.Agree.require_bind
  · apply iff_of_true
    · exact (Table.forall_mem_update (by intro row; exact Iff.rfl)).mpr hfresh
    · exact (Table.forall_mem_update (by intro row; exact Iff.rfl)).mpr hfresh'
  · intro _ _
    apply Tx.Agree.require_bind
    · apply iff_of_true
      · exact (Table.forall_mem_update (by intro row; exact Iff.rfl)).mpr hunused
      · exact (Table.forall_mem_update (by intro row; exact Iff.rfl)).mpr hunused'
    · intro _ _
      apply Tx.Agree.modify_bind
      exact .pure _

/-- A key of a draft the customer does not have takes no hold. -/
theorem createHold_missing (h : Navigated cfg db) {draftId : BookingDraftId} {slotIndex : Int}
    {key : Text} (hkey : HoldKeyOf draftId key)
    (hvalid : key ≠ [] ∧ key.length ≤ 255 ∧ 0 ≤ slotIndex)
    (hmissing : ∀ draft ∈ db.bookingDrafts, draft.owner = (tenantId, customerId) →
      draft.id ≠ draftId) :
    (createHold cfg env tenantId customerId draftId slotIndex key).run db =
      .error .bookingNotFound := by
  unfold createHold
  rw [Tx.run_require_bind, if_pos hvalid, Tx.run_get_bind]
  cases hfound : db.slotHolds.find? fun row =>
      row.tenantId = tenantId ∧ row.idempotencyKey = key with
  | none =>
      show (holdSlot cfg env tenantId customerId draftId slotIndex key).run db = _
      unfold holdSlot
      rw [Tx.run_get_bind]
      exact Tx.run_bind_of_error (ownedDraft_missing hmissing)
  | some existing =>
      obtain ⟨hexisting, htenant, hsame⟩ := Table.of_find? hfound
      obtain ⟨draft, hdraft, hid, howner⟩ := h.hold_owner hexisting (hsame ▸ hkey)
      have hother : existing.customerId ≠ customerId := by
        intro hcustomer
        exact hmissing draft hdraft (howner.trans (Prod.ext htenant hcustomer)) hid
      show (Tx.require (existing.customerId = customerId) _ >>= _).run db = _
      rw [Tx.run_require_bind, if_neg hother]

theorem createHold_agree (hview : SameView cfg env.now (tenantId, customerId) db db')
    (h : Navigated cfg db) (h' : Navigated cfg db')
    (hfresh : ∀ row ∈ db.slotHolds, row.id ≠ env.newId)
    (hfresh' : ∀ row ∈ db'.slotHolds, row.id ≠ env.newId) {draftId : BookingDraftId}
    (slotIndex : Int) {key : Text} (hkey : HoldKeyOf draftId key) :
    Tx.Agree (createHold cfg env tenantId customerId draftId slotIndex key) db
      (createHold cfg env tenantId customerId draftId slotIndex key) db' := by
  by_cases hvalid : key ≠ [] ∧ key.length ≤ 255 ∧ 0 ≤ slotIndex
  · rcases hview.own.draft_cases draftId with
      ⟨draft, hdraft, hdraft', howner, rfl⟩ | ⟨hmissing, hmissing'⟩
    · have hfound : (db.slotHolds.find? fun row =>
          row.tenantId = tenantId ∧ row.idempotencyKey = key) =
            db'.slotHolds.find? fun row => row.tenantId = tenantId ∧ row.idempotencyKey = key := by
        apply hview.own.findHold
        · rintro row hrow ⟨_, hsame⟩
          obtain ⟨other, hother, hid, hotherOwner⟩ := h.hold_owner hrow (hsame ▸ hkey)
          rw [← hotherOwner, h.coherent.draft_eq hother hdraft hid, howner]
        · rintro row hrow ⟨_, hsame⟩
          obtain ⟨other, hother, hid, hotherOwner⟩ := h'.hold_owner hrow (hsame ▸ hkey)
          rw [← hotherOwner, h'.coherent.draft_eq hother hdraft' hid, howner]
      unfold createHold
      apply Tx.Agree.require_bind Iff.rfl
      intro _ _
      apply Tx.Agree.get_bind
      cases hstored : db'.slotHolds.find? fun row =>
          row.tenantId = tenantId ∧ row.idempotencyKey = key with
      | none =>
          rw [hfound, hstored]
          have hnone : ∀ row ∈ db'.slotHolds,
              ¬ (row.tenantId = tenantId ∧ row.idempotencyKey = key) := by
            intro row hrow
            simpa using List.find?_eq_none.mp hstored row hrow
          have hnone' : ∀ row ∈ db.slotHolds,
              ¬ (row.tenantId = tenantId ∧ row.idempotencyKey = key) := by
            intro row hrow
            simpa using List.find?_eq_none.mp (hfound.trans hstored) row hrow
          exact holdSlot_agree hview h.coherent h'.coherent hfresh hfresh' draft.id slotIndex hnone'
            hnone
      | some existing =>
          rw [hfound, hstored]
          apply Tx.Agree.require_bind Iff.rfl
          intro _ _
          exact .pure _
    · exact .of_error (createHold_missing h hkey hvalid hmissing)
        (createHold_missing h' hkey hvalid hmissing')
  · unfold createHold
    apply Tx.Agree.require_bind Iff.rfl
    intro hvalid' _
    exact absurd hvalid' hvalid

/-! ## Operations on bookings -/

theorem latestBooking_agree (h : SamePart (Owner.own (tenantId, customerId)) db db') :
    Tx.Agree (latestBooking cfg env tenantId customerId) db
      (latestBooking cfg env tenantId customerId) db' := by
  have hbookings : (db.bookings.filter fun row => row.tenantId = tenantId ∧
      row.customerId = customerId ∧ row.status = .confirmed ∧ row.endAt > env.now) =
        db'.bookings.filter fun row => row.tenantId = tenantId ∧
          row.customerId = customerId ∧ row.status = .confirmed ∧ row.endAt > env.now := by
    apply Table.filter_congr_of_filter ?_ h.bookings.symm
    intro row hrow
    obtain ⟨htenant, hcustomer, _⟩ := of_decide_eq_true hrow
    exact decide_eq_true (Prod.ext htenant hcustomer)
  unfold latestBooking
  apply Tx.Agree.get_bind
  rw [hbookings]
  cases ((db'.bookings.filter fun row => row.tenantId = tenantId ∧
      row.customerId = customerId ∧ row.status = .confirmed ∧
        row.endAt > env.now).insertionSort bookingLe).head? with
  | none => exact .pure none
  | some booking => exact (Tx.Agree.lift _).map some

theorem getBooking_agree (h : SamePart (Owner.own (tenantId, customerId)) db db')
    (bookingId : BookingId) :
    Tx.Agree (getBooking cfg tenantId customerId bookingId) db
      (getBooking cfg tenantId customerId bookingId) db' := by
  unfold getBooking
  apply Tx.Agree.get_bind
  rw [h.ownedBooking?]
  cases ownedBooking? db' tenantId customerId bookingId with
  | none => exact .pure none
  | some booking => exact (Tx.Agree.lift _).map some

theorem cancelBooking_agree (h : SamePart (Owner.own (tenantId, customerId)) db db')
    (bookingId : BookingId) :
    Tx.Agree (cancelBooking cfg env tenantId customerId bookingId) db
      (cancelBooking cfg env tenantId customerId bookingId) db' := by
  unfold cancelBooking
  apply Tx.Agree.get_bind
  apply Tx.Agree.fetch_bind (h.ownedBooking? bookingId)
  intro booking _
  by_cases hcancelled : booking.status = .cancelled
  · simp only [hcancelled, if_true]
    exact .lift _
  · simp only [hcancelled, if_false]
    apply Tx.Agree.require_bind Iff.rfl
    intro _ _
    apply Tx.Agree.fetch_bind rfl
    intro policy _
    apply Tx.Agree.require_bind Iff.rfl
    intro _ _
    apply Tx.Agree.modify_bind
    exact .lift _

/-- The history of an own booking is an own history. -/
theorem bookingHistory_agree (h : SamePart (Owner.own (tenantId, customerId)) db db')
    (bookingId : BookingId) :
    Tx.Agree (bookingHistory tenantId customerId bookingId) db
      (bookingHistory tenantId customerId bookingId) db' := by
  unfold bookingHistory
  apply Tx.Agree.get_bind
  rw [h.ownedBooking?]
  cases hfound : ownedBooking? db' tenantId customerId bookingId with
  | none => exact .pure []
  | some booking =>
      obtain ⟨hbooking, htenant, hcustomer, hid⟩ := Table.of_find? hfound
      have howned : bookingId ∈ db'.bookingIdsOf (Owner.own (tenantId, customerId)) := by
        rw [← hid]
        apply List.mem_map_of_mem
        rw [List.mem_filter]
        exact ⟨hbooking, decide_eq_true (Prod.ext htenant hcustomer)⟩
      have hhistory := h.bookingStatusHistory
      rw [h.bookingIdsOf] at hhistory
      have hrows : (db.bookingStatusHistory.filter fun row =>
          row.tenantId = tenantId ∧ row.bookingId = bookingId) =
            db'.bookingStatusHistory.filter fun row =>
              row.tenantId = tenantId ∧ row.bookingId = bookingId := by
        apply Table.filter_congr_of_filter ?_ hhistory.symm
        intro row hrow
        obtain ⟨_, hrowId⟩ := of_decide_eq_true hrow
        rw [← h.bookingIdsOf]
        exact decide_eq_true (hrowId ▸ howned)
      simp only [hrows]
      exact .pure _

end Agreement

end BookingStore

end BusinessAssistant.Persistence
