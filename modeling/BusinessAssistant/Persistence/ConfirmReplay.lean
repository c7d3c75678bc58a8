/-
# Confirming again

A repeated confirmation is recognised by the key stored with a new booking, or by
the hold of the confirmed draft. A reschedule stores no key and overwrites the
booking's hold, so the second lookup recognises it only until the booking is
rescheduled again.
-/

import BusinessAssistant.Persistence.Retention

namespace BusinessAssistant.Persistence

open BusinessAssistant.Domain BusinessAssistant.Application BusinessAssistant.Foundation

variable {cfg : Catalogue} {env : Environment} {db db' : Database} {tenantId : TenantId}
  {customerId : CustomerId} {draftId : BookingDraftId} {key : Text}

/-! ## What the lookups recognise -/

/-- A booking of the tenant is stored under the key. -/
def BookingRow.StoredUnder (booking : BookingRow) (tenantId : TenantId) (key : Text) : Prop :=
  booking.tenantId = tenantId ∧ booking.idempotencyScope = "confirm" ∧
    booking.idempotencyValue = key

instance (booking : BookingRow) (tenantId : TenantId) (key : Text) :
    Decidable (booking.StoredUnder tenantId key) :=
  inferInstanceAs (Decidable (_ ∧ _ ∧ _))

/-- A draft of the customer that is confirmed. -/
def BookingDraftRow.ConfirmedFor (draft : BookingDraftRow) (tenantId : TenantId)
    (customerId : CustomerId) (draftId : BookingDraftId) : Prop :=
  draft.tenantId = tenantId ∧ draft.customerId = customerId ∧ draft.id = draftId ∧
    draft.status = .confirmed

instance (draft : BookingDraftRow) (tenantId : TenantId) (customerId : CustomerId)
    (draftId : BookingDraftId) : Decidable (draft.ConfirmedFor tenantId customerId draftId) :=
  inferInstanceAs (Decidable (_ ∧ _ ∧ _ ∧ _))

/-- The booking with an id is the one stored under the key, or no booking is and
it still has the hold of the confirmed draft. -/
def Recognised (db : Database) (tenantId : TenantId) (customerId : CustomerId)
    (draftId : BookingDraftId) (key : Text) (bookingId : BookingId) : Prop :=
  (∃ booking ∈ db.bookings, booking.id = bookingId ∧ booking.StoredUnder tenantId key) ∨
    (∀ booking ∈ db.bookings, ¬ booking.StoredUnder tenantId key) ∧
      ∃ booking ∈ db.bookings, booking.id = bookingId ∧
        ∃ draft ∈ db.bookingDrafts, draft.ConfirmedFor tenantId customerId draftId ∧
          booking.holdId = draft.holdId

instance (db : Database) (tenantId : TenantId) (customerId : CustomerId)
    (draftId : BookingDraftId) (key : Text) (bookingId : BookingId) :
    Decidable (Recognised db tenantId customerId draftId key bookingId) :=
  inferInstanceAs (Decidable ((∃ _ ∈ _, _) ∨ (∀ _ ∈ _, _) ∧ ∃ _ ∈ _, _ ∧ ∃ _ ∈ _, _))

/-- A booking of the customer is found under the key it is stored under. -/
theorem replayedBooking_of_stored (hkeys : BookingKeys db) {booking : BookingRow}
    (hbooking : booking ∈ db.bookings) (hcustomer : booking.customerId = customerId)
    (hstored : booking.StoredUnder tenantId key) :
    BookingStore.replayedBooking db tenantId customerId draftId key = .ok (some booking) := by
  have hfound : (db.bookings.find? fun row => row.tenantId = tenantId ∧
      row.idempotencyScope = "confirm" ∧ row.idempotencyValue = key) = some booking := by
    apply Table.find?_eq_some_of_unique hbooking hstored
    intro other hother hmatch
    exact Table.eq_of_key_eq hkeys.unique hother hbooking
      (Prod.ext (hmatch.1.trans hstored.1.symm) (hmatch.2.2.trans hstored.2.2.symm))
  unfold BookingStore.replayedBooking
  rw [hfound]
  exact if_pos hcustomer

/-- A booking of the customer is found by the hold of the confirmed draft, where
none is stored under the key. -/
theorem replayedBooking_of_hold (hcoherent : Coherent db) {booking : BookingRow}
    (hbooking : booking ∈ db.bookings) (htenant : booking.tenantId = tenantId)
    (hcustomer : booking.customerId = customerId)
    (hunused : ∀ row ∈ db.bookings, ¬ row.StoredUnder tenantId key) {draft : BookingDraftRow}
    (hdraft : draft ∈ db.bookingDrafts) (hconfirmed : draft.ConfirmedFor tenantId customerId draftId)
    (hhold : booking.holdId = draft.holdId) :
    BookingStore.replayedBooking db tenantId customerId draftId key = .ok (some booking) := by
  have hnone : (db.bookings.find? fun row => row.tenantId = tenantId ∧
      row.idempotencyScope = "confirm" ∧ row.idempotencyValue = key) = none := by
    rw [List.find?_eq_none]
    intro row hrow hmatch
    exact hunused row hrow (of_decide_eq_true hmatch)
  have hdraftFound : (db.bookingDrafts.find? fun row => row.tenantId = tenantId ∧
      row.customerId = customerId ∧ row.id = draftId ∧ row.status = .confirmed) = some draft := by
    apply Table.find?_eq_some_of_unique hdraft hconfirmed
    intro other hother hmatch
    exact hcoherent.draft_eq hother hdraft (hmatch.2.2.1.trans hconfirmed.2.2.1.symm)
  obtain ⟨holdId, hholdId⟩ := Option.ne_none_iff_exists'.mp
    (hcoherent.confirmedDraft draft hdraft hconfirmed.2.2.2)
  have hbookingFound : (db.bookings.find? fun row => row.tenantId = tenantId ∧
      row.customerId = customerId ∧ row.holdId = some holdId) = some booking := by
    apply Table.find?_eq_some_of_unique hbooking
      ⟨htenant, hcustomer, hhold.trans hholdId⟩
    intro other hother hmatch
    exact Table.eq_of_key_eq hcoherent.bookingHolds hother hbooking
      (hmatch.2.2.trans (hhold.trans hholdId).symm)
  unfold BookingStore.replayedBooking
  rw [hnone, hdraftFound]
  simp only [Option.bind_eq_bind, Option.bind_some, hholdId, hbookingFound]
  rfl

/-- The booking a repeated confirmation returns is recognised. -/
theorem recognised_of_replayedBooking {booking : BookingRow}
    (hreplay : BookingStore.replayedBooking db tenantId customerId draftId key = .ok (some booking)) :
    booking ∈ db.bookings ∧ Recognised db tenantId customerId draftId key booking.id := by
  unfold BookingStore.replayedBooking at hreplay
  split at hreplay
  · rename_i existing hfound
    obtain ⟨hexisting, hstored⟩ := Table.of_find? hfound
    split at hreplay
    · cases hreplay
      exact ⟨hexisting, .inl ⟨_, hexisting, rfl, hstored⟩⟩
    · cases hreplay
  · rename_i hnone
    have hunused : ∀ row ∈ db.bookings, ¬ row.StoredUnder tenantId key := by
      intro row hrow hstored
      exact List.find?_eq_none.mp hnone row hrow (decide_eq_true hstored)
    have hchain := Except.ok.inj hreplay
    obtain ⟨draft, hdraftFound, hrest⟩ := Option.bind_eq_some_iff.mp hchain
    obtain ⟨holdId, hholdId, hbookingFound⟩ := Option.bind_eq_some_iff.mp hrest
    obtain ⟨hdraft, hconfirmed⟩ := Table.of_find? hdraftFound
    obtain ⟨hbooking, _, _, hhold⟩ := Table.of_find? hbookingFound
    exact ⟨hbooking, .inr ⟨hunused, booking, hbooking, rfl, draft, hdraft, hconfirmed,
      hhold.trans hholdId.symm⟩⟩

/-- A repeated confirmation returns a booking of the customer. -/
theorem replayedBooking_owner {booking : BookingRow}
    (hreplay : BookingStore.replayedBooking db tenantId customerId draftId key = .ok (some booking)) :
    booking.tenantId = tenantId ∧ booking.customerId = customerId := by
  unfold BookingStore.replayedBooking at hreplay
  split at hreplay
  · rename_i hfound
    split at hreplay
    · rename_i hcustomer
      cases hreplay
      exact ⟨(Table.of_find? hfound).2.1, hcustomer⟩
    · cases hreplay
  · obtain ⟨_, _, hrest⟩ := Option.bind_eq_some_iff.mp (Except.ok.inj hreplay)
    obtain ⟨_, _, hbookingFound⟩ := Option.bind_eq_some_iff.mp hrest
    obtain ⟨_, htenant, hcustomer, _⟩ := Table.of_find? hbookingFound
    exact ⟨htenant, hcustomer⟩

/-! ## A confirmation and its repetition -/

/-- A booking that was shown once can be shown again, under the same id. -/
theorem result_of_identity {booking later : BookingRow} {booked : BookingResult}
    (hresult : BookingStore.result cfg booking = .ok booked)
    (hsame : later.identity = booking.identity) :
    ∃ again, BookingStore.result cfg later = .ok again ∧ again.id = booked.id := by
  have hid : later.id = booking.id := congrArg BookingIdentity.id hsame
  have htenant : later.tenantId = booking.tenantId := congrArg BookingIdentity.tenantId hsame
  have hservice : later.serviceId = booking.serviceId := congrArg BookingIdentity.serviceId hsame
  have hreference : later.publicReference = booking.publicReference :=
    congrArg BookingIdentity.publicReference hsame
  unfold BookingStore.result at hresult ⊢
  rw [htenant, hservice, hreference]
  split at hresult
  · cases hresult
    exact ⟨_, rfl, hid⟩
  · cases hresult

theorem result_id {booking : BookingRow} {booked : BookingResult}
    (hresult : BookingStore.result cfg booking = .ok booked) : booked.id = booking.id := by
  unfold BookingStore.result at hresult
  split at hresult
  · cases hresult
    rfl
  · cases hresult

/-- What a successful confirmation leaves: the booking it returned, and either a
booking under the key or the draft confirmed. -/
structure Confirmed (cfg : Catalogue) (db : Database) (tenantId : TenantId)
    (customerId : CustomerId) (draftId : BookingDraftId) (key : Text) (booked : BookingResult) :
    Prop where
  keyValid : key ≠ [] ∧ key.length ≤ 255
  booking : ∃ booking ∈ db.bookings, booking.tenantId = tenantId ∧
    booking.customerId = customerId ∧ BookingStore.result cfg booking = .ok booked
  settled : (∃ booking ∈ db.bookings, booking.StoredUnder tenantId key) ∨
    ∃ draft ∈ db.bookingDrafts, draft.ConfirmedFor tenantId customerId draftId

theorem confirmed_of_confirm (hcoherent : Coherent db) {booked : BookingResult}
    (hrun : (BookingStore.confirm cfg env tenantId customerId draftId key).run db =
      .ok (booked, db')) : Confirmed cfg db' tenantId customerId draftId key booked := by
  have hvalid : key ≠ [] ∧ key.length ≤ 255 := by
    unfold BookingStore.confirm at hrun
    rw [Tx.run_require_bind_eq_ok] at hrun
    exact hrun.1
  rcases BookingStore.confirm_ok hrun with ⟨booking, hreplay, hresult, rfl⟩ | ⟨hreplay, hconfirm⟩
  · obtain ⟨htenant, hcustomer⟩ := replayedBooking_owner hreplay
    obtain ⟨hbooking, hrecognised⟩ := recognised_of_replayedBooking hreplay
    refine ⟨hvalid, ⟨booking, hbooking, htenant, hcustomer, hresult⟩, ?_⟩
    rcases hrecognised with ⟨stored, hstored, _, hunder⟩ | ⟨_, _, _, _, draft, hdraft, hfor, _⟩
    · exact .inl ⟨stored, hstored, hunder⟩
    · exact .inr ⟨draft, hdraft, hfor⟩
  · obtain ⟨draft, hold, service, rfl, rfl, rfl, hready, hwrite⟩ :=
      BookingStore.confirmDraft_ok hconfirm
    have hsettled : ∀ written : Database, written.bookingDrafts = db.bookingDrafts →
        ∃ row ∈ (written.settleDraft draft hold).bookingDrafts,
          row.ConfirmedFor draft.tenantId draft.customerId draft.id := by
      intro written hsame
      have hdraft : draft ∈ written.bookingDrafts := hsame ▸ hready.draftStored
      exact ⟨_, Table.mem_update_of_selected hdraft rfl, rfl, rfl, rfl, rfl⟩
    rcases hwrite with ⟨_, hresult, _, _, _, rfl⟩ |
      ⟨booking, hbooking, _, htenant, hcustomer, _, hresult, _, rfl⟩
    · exact ⟨hvalid, ⟨_, List.mem_append_right _ (List.mem_singleton_self _), rfl, rfl, hresult⟩,
        .inr (hsettled _ rfl)⟩
    · exact ⟨hvalid, ⟨_, Table.mem_update_of_selected hbooking rfl, htenant, hcustomer, hresult⟩,
        .inr (hsettled _ rfl)⟩

/-- What a confirmation leaves is kept. -/
theorem Confirmed.keeps {booked : BookingResult}
    (h : Confirmed cfg db tenantId customerId draftId key booked) (hkeeps : Keeps db db') :
    ∃ again, again.id = booked.id ∧
      Confirmed cfg db' tenantId customerId draftId key again := by
  obtain ⟨booking, hbooking, htenant, hcustomer, hresult⟩ := h.booking
  obtain ⟨later, hlater, hsame⟩ := hkeeps.bookings booking hbooking
  obtain ⟨again, hagain, hid⟩ := result_of_identity hresult hsame
  refine ⟨again, hid, h.keyValid, ⟨later, hlater, ?_, ?_, hagain⟩, ?_⟩
  · exact (congrArg BookingIdentity.tenantId hsame).trans htenant
  · exact (congrArg BookingIdentity.customerId hsame).trans hcustomer
  · rcases h.settled with ⟨stored, hstored, hunder⟩ | ⟨draft, hdraft, hfor⟩
    · obtain ⟨kept, hkept, hkeptSame⟩ := hkeeps.bookings stored hstored
      refine .inl ⟨kept, hkept, ?_, ?_, ?_⟩
      · exact (congrArg BookingIdentity.tenantId hkeptSame).trans hunder.1
      · exact (congrArg BookingIdentity.idempotencyScope hkeptSame).trans hunder.2.1
      · exact (congrArg BookingIdentity.idempotencyValue hkeptSame).trans hunder.2.2
    · exact .inr ⟨draft, hkeeps.closedDrafts draft hdraft (by rw [hfor.2.2.2]; decide), hfor⟩

/-- Where a confirmation has been, its repetition returns the same booking and
changes nothing exactly when the booking is recognised. -/
theorem Confirmed.replayed_iff (hcoherent : Coherent db) (hkeys : BookingKeys db)
    {booked : BookingResult} (h : Confirmed cfg db tenantId customerId draftId key booked) :
    (∃ again, (BookingStore.confirm cfg env tenantId customerId draftId key).run db =
        .ok (again, db) ∧ again.id = booked.id) ↔
      Recognised db tenantId customerId draftId key booked.id := by
  obtain ⟨booking, hbooking, htenant, hcustomer, hresult⟩ := h.booking
  have hid := result_id hresult
  constructor
  · rintro ⟨again, hrun, hsame⟩
    rcases BookingStore.confirm_ok hrun with ⟨found, hreplay, hfound, _⟩ | ⟨hreplay, hconfirm⟩
    · rw [← hsame, result_id hfound]
      exact (recognised_of_replayedBooking hreplay).2
    · -- Nothing is stored under the key, so the draft is confirmed and cannot be again.
      rcases h.settled with ⟨stored, hstored, hunder⟩ | ⟨draft, hdraft, hfor⟩
      · exact absurd hunder.2.2
          (BookingStore.replayedBooking_none hreplay stored hstored hunder.1 hunder.2.1)
      · obtain ⟨active, _, _, hactiveId, _, _, hready, _⟩ := BookingStore.confirmDraft_ok hconfirm
        have hstatus := hready.draftActive
        rw [hcoherent.draft_eq hready.draftStored hdraft (hactiveId.trans hfor.2.2.1.symm),
          hfor.2.2.2] at hstatus
        cases hstatus
  · intro hrecognised
    have hreplay : BookingStore.replayedBooking db tenantId customerId draftId key =
        .ok (some booking) := by
      rcases hrecognised with ⟨stored, hstored, hstoredId, hunder⟩ |
        ⟨hunused, held, hheld, hheldId, draft, hdraft, hfor, hhold⟩
      · cases hcoherent.booking_eq hstored hbooking (hstoredId.trans hid)
        exact replayedBooking_of_stored hkeys hbooking hcustomer hunder
      · cases hcoherent.booking_eq hheld hbooking (hheldId.trans hid)
        exact replayedBooking_of_hold hcoherent hbooking htenant hcustomer hunused hdraft hfor hhold
    refine ⟨booked, ?_, rfl⟩
    unfold BookingStore.confirm
    rw [Tx.run_require_bind, if_pos h.keyValid, Tx.run_mapError_eq_ok, Tx.run_get_bind, hreplay,
      Tx.run_lift_bind_ok]
    exact Tx.run_lift_eq_ok.mpr ⟨hresult, rfl⟩

/-- A confirmation that succeeded once and is repeated in any later state returns
the same booking and changes nothing exactly when that booking is stored under
the key, or none is and it still has the hold of the confirmed draft. -/
theorem confirmation_replayed_iff (cfg : Catalogue) (s : State)
    (hs : (bookingSystem cfg).Reachable s) (env : Environment) (hclock : s.clock ≤ env.now)
    (tenantId : TenantId) (customerId : CustomerId) (draftId : BookingDraftId) (key : Text)
    (booked : BookingResult) :
    let call : Call := .customer tenantId customerId (.confirm draftId key)
    (Invocation.execute cfg { call := call, env := env } s.db).1 = .ok (.booking booked) →
      ∀ (invocations : List Invocation) (later : State),
        (bookingSystem cfg).Run (s.next cfg { call := call, env := env }) invocations later →
          ∀ env' : Environment,
            (∃ again : BookingResult,
                Invocation.execute cfg { call := call, env := env' } later.db =
                  (.ok (.booking again), later.db) ∧ again.id = booked.id) ↔
              Recognised later.db tenantId customerId draftId key booked.id := by
  intro call hok invocations later hrun env'
  have hnext : (bookingSystem cfg).Reachable (s.next cfg { call := call, env := env }) :=
    .step hs ⟨hclock, rfl⟩
  have hlater := hnext.run hrun
  obtain ⟨_, _, hcommit, hpair⟩ := Tx.run_map_eq_ok.mp (Invocation.execute_ok hok)
  cases hpair
  obtain ⟨kept, hkeptId, hconfirmed⟩ :=
    (confirmed_of_confirm (coherent_of_reachable hs) hcommit).keeps (keeps_of_run hnext hrun)
  rw [← hkeptId, ← hconfirmed.replayed_iff (coherent_of_reachable hlater)
    (bookingKeys_of_reachable hlater)]
  constructor
  · rintro ⟨again, hagain, hsame⟩
    obtain ⟨_, _, hrepeat, hresponse⟩ := Tx.run_map_eq_ok.mp (Tx.commit_eq_ok_iff.mp hagain)
    cases hresponse
    exact ⟨again, hrepeat, hsame⟩
  · rintro ⟨again, hrepeat, hsame⟩
    exact ⟨again, Tx.commit_of_ok (Tx.run_map_eq_ok.mpr ⟨again, later.db, hrepeat, rfl⟩), hsame⟩

/-- A booking confirmed again after it was rescheduled, under its own key. -/
theorem confirmation_replayed_in_shop :
    let cfg := Shop.catalogue 0 0
    let s := Shop.opened.after cfg ((Shop.takesFirstSlot 0 1000 none 0 (Shop.time 0 7 0)).take 4)
    let confirms := Shop.asks 0 (Shop.time 0 7 1) 1004 (.confirm 1000#128 (confirmKey 1000#128))
    let later := (s.next cfg confirms).after cfg
      (Shop.takesFirstSlot 0 2000 (some 1004#128) 0 (Shop.time 0 7 2))
    ∃ booked again : BookingResult, (confirms.execute cfg s.db).1 = .ok (.booking booked) ∧
      confirms.execute cfg later.db = (.ok (.booking again), later.db) ∧ again.id = booked.id := by
  intro cfg s confirms later
  obtain ⟨booking, _, booked, _, hok, hrecognised⟩ :
      ∃ booking ∈ (confirms.execute cfg s.db).2.bookings,
        ∃ booked ∈ (BookingStore.result cfg booking).toOption,
          (confirms.execute cfg s.db).1 = .ok (.booking booked) ∧
            Recognised later.db Shop.tenantId (Shop.customerId 0) 1000#128 (confirmKey 1000#128)
              booked.id := by
    decide +kernel
  have hrun : (bookingSystem cfg).Run (s.next cfg confirms) _ later :=
    run_after (by decide +kernel)
  obtain ⟨again, hagain, hsame⟩ := (confirmation_replayed_iff cfg s
    (reachable_after Shop.opened_fresh (by decide +kernel)) confirms.env (by decide +kernel)
    Shop.tenantId (Shop.customerId 0) 1000#128 (confirmKey 1000#128) booked hok _ later hrun
    confirms.env).mpr hrecognised
  exact ⟨booked, again, hok, hagain, hsame⟩

/-- A booking is rescheduled twice, and then the first of the two confirmations
is repeated: it is no longer recognised. -/
theorem reschedule_not_replayed :
    ¬ ∀ (cfg : Catalogue) (s : State), (bookingSystem cfg).Reachable s →
      ∀ env : Environment, s.clock ≤ env.now →
        ∀ (tenantId : TenantId) (customerId : CustomerId) (draftId : BookingDraftId) (key : Text)
          (booked : BookingResult),
          let call : Call := .customer tenantId customerId (.confirm draftId key)
          (Invocation.execute cfg { call := call, env := env } s.db).1 = .ok (.booking booked) →
            ∀ (invocations : List Invocation) (later : State),
              (bookingSystem cfg).Run (s.next cfg { call := call, env := env }) invocations later →
                ∀ env' : Environment, later.clock ≤ env'.now →
                  ∃ again : BookingResult,
                    Invocation.execute cfg { call := call, env := env' } later.db =
                      (.ok (.booking again), later.db) ∧ again.id = booked.id := by
  intro hall
  let cfg := Shop.catalogue 0 0
  let s := Shop.opened.after cfg (Shop.takesFirstSlot 0 1000 none 0 (Shop.time 0 7 0) ++
    (Shop.takesFirstSlot 0 2000 (some 1004#128) 0 (Shop.time 0 7 1)).take 4)
  let confirms := Shop.asks 0 (Shop.time 0 7 2) 2004 (.confirm 2000#128 (confirmKey 2000#128))
  let later := (s.next cfg confirms).after cfg
    (Shop.takesFirstSlot 0 3000 (some 1004#128) 0 (Shop.time 0 7 3))
  let again := Shop.asks 0 (Shop.time 0 7 4) 4000 (.confirm 2000#128 (confirmKey 2000#128))
  obtain ⟨booking, _, booked, _, hok⟩ :
      ∃ booking ∈ (confirms.execute cfg s.db).2.bookings,
        ∃ booked ∈ (BookingStore.result cfg booking).toOption,
          (confirms.execute cfg s.db).1 = .ok (.booking booked) := by
    decide +kernel
  have hrun : (bookingSystem cfg).Run (s.next cfg confirms) _ later :=
    run_after (by decide +kernel)
  obtain ⟨_, hagain, _⟩ := hall cfg s (reachable_after Shop.opened_fresh (by decide +kernel))
    confirms.env (by decide +kernel) Shop.tenantId (Shop.customerId 0) 2000#128
    (confirmKey 2000#128) booked hok _ later hrun again.env (by decide +kernel)
  have hrefused : (again.execute cfg later.db).1 = .error .bookingNotFound := by decide +kernel
  cases (congrArg Prod.fst hagain).symm.trans hrefused

end BusinessAssistant.Persistence
