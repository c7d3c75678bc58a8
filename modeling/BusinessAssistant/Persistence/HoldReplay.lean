/-
# Taking a hold again

A press of a time button carries the draft and the minute of the slot, and the
idempotency key of `create_hold` is built from just these. A second press under
the same key returns the hold stored under it, whatever has become of that hold
and of the draft's date since. What the caller shows as held is held exactly when
the stored hold is still live and on the date now selected.
-/

import BusinessAssistant.Persistence.Placement

namespace BusinessAssistant.Persistence

open BusinessAssistant.Domain BusinessAssistant.Application BusinessAssistant.Foundation

variable {cfg : Catalogue} {env : Environment} {db db' : Database} {call : Call}

/-! ## Keys of holds -/

/-- Every hold is stored under a key of its own, built for its draft. -/
structure HoldKeys (db : Database) : Prop where
  unique : (db.slotHolds.map fun hold => (hold.tenantId, hold.idempotencyKey)).Nodup
  ofDraft : ∀ hold ∈ db.slotHolds, HoldKeyOf hold.draftId hold.idempotencyKey

namespace HoldKeys

/-- A change of statuses keeps the keys. -/
theorem changeStatus (h : HoldKeys db) {selected : SlotHoldRow → Prop} [DecidablePred selected]
    {status : HoldStatus}
    (hholds : db'.slotHolds =
      Table.update selected (fun row => { row with status := status }) db.slotHolds) :
    HoldKeys db' where
  unique := by
    rw [hholds]
    exact Table.nodup_update h.unique fun _ => rfl
  ofDraft := by
    rw [hholds]
    exact Table.forall_update h.ofDraft fun _ hkey => hkey

/-- A hold under a new key, built for its draft, keeps the keys. -/
theorem insertHold (h : HoldKeys db) {hold : SlotHoldRow}
    (hnew : ∀ row ∈ db.slotHolds,
      ¬ (row.tenantId = hold.tenantId ∧ row.idempotencyKey = hold.idempotencyKey))
    (hkey : HoldKeyOf hold.draftId hold.idempotencyKey) : HoldKeys (db.insertHold hold) where
  unique := by
    apply Table.nodup_append_row h.unique
    intro row hrow hsame
    exact hnew row hrow ⟨congrArg Prod.fst hsame, congrArg Prod.snd hsame⟩
  ofDraft := Table.forall_append_row h.ofDraft hkey

theorem change (h : HoldKeys db) (hkeys : ∀ request ∈ call.request?, request.UsesHoldKey)
    (hchange : Change cfg env db call db') : HoldKeys db' := by
  cases hchange with
  | startDraft => exact h.changeStatus rfl
  | getActiveDraft => exact h.changeStatus rfl
  | selectDate => exact { h with }
  | @createHold draft _ _ key _ _ _ _ _ _ _ _ _ _ _ _ _ _ hunused =>
      have hreleased : HoldKeys (db.closeHolds
          (fun row => row.tenantId = draft.tenantId ∧ draft.holdId = some row.id) .released) :=
        h.changeStatus rfl
      refine { hreleased.insertHold (Table.forall_update hunused fun _ hdistinct => hdistinct) ?_
        with }
      exact hkeys _ rfl _ rfl
  | updateContact => exact { h with }
  | getHold => exact h.changeStatus rfl
  | cancelDraft => exact h.changeStatus rfl
  | book => exact h.changeStatus rfl
  | move => exact h.changeStatus rfl
  | cancelBooking => exact { h with }
  | expireHolds => exact h.changeStatus rfl

end HoldKeys

/-- Holds taken under the navigation's keys keep their keys in every run. -/
theorem holdKeys_of_reachable {s : State} (hs : (holdKeySystem cfg).Reachable s) :
    HoldKeys s.db := by
  apply hs.invariant (I := fun s => HoldKeys s.db)
  · rintro s ⟨_, hholds, _⟩
    constructor <;> simp [hholds]
  · rintro s invocation _ _ hbefore ⟨hkeys, _, rfl⟩
    rcases invocation.execute_change cfg s.db with hsame | hchange
    · rw [hsame]
      exact hbefore
    · exact hbefore.change hkeys hchange

/-! ## What a hold is shown as -/

/-- The date a hold starts on, read in its own zone. -/
def SlotHoldRow.localDate (hold : SlotHoldRow) : Int :=
  Wall.date (hold.timezone.astimezone hold.startAt).naive

/-- What the customer is told after a press: the hold is live, the customer's and
the draft's, on the draft's date, and it is the one a confirmation books. -/
def HeldAsShown (db : Database) (tenantId : TenantId) (customerId : CustomerId)
    (draftId : BookingDraftId) (now : Int) (shown : SlotHold) : Prop :=
  ∃ hold ∈ db.slotHolds, ∃ draft ∈ db.bookingDrafts,
    hold.toHold = shown ∧ hold.Unexpired now ∧ hold.tenantId = tenantId ∧
      hold.customerId = customerId ∧ hold.draftId = draftId ∧ draft.id = draftId ∧
      draft.selectedDate = some hold.localDate ∧ draft.holdId = some shown.id

instance (db : Database) (tenantId : TenantId) (customerId : CustomerId)
    (draftId : BookingDraftId) (now : Int) (shown : SlotHold) :
    Decidable (HeldAsShown db tenantId customerId draftId now shown) :=
  inferInstanceAs (Decidable (∃ _ ∈ _, ∃ _ ∈ _, _))

/-- A hold already stored under the key is live and on the date selected. -/
def ReplaysLiveHold (db : Database) (tenantId : TenantId) (draftId : BookingDraftId) (key : Text)
    (now : Int) : Prop :=
  ∀ hold ∈ db.slotHolds, hold.tenantId = tenantId → hold.idempotencyKey = key →
    hold.Unexpired now ∧
      ∀ draft ∈ db.bookingDrafts, draft.id = draftId → draft.selectedDate = some hold.localDate

instance (db : Database) (tenantId : TenantId) (draftId : BookingDraftId) (key : Text) (now : Int) :
    Decidable (ReplaysLiveHold db tenantId draftId key now) :=
  inferInstanceAs (Decidable (∀ _ ∈ _, _))

/-- A new hold is held as shown. -/
theorem heldAsShown_of_taken {draft : BookingDraftRow} {slotIndex selectedDate : Int} {key : Text}
    {service : ServiceRow} {policyRow : BookingPolicyRow} {policy : BookingPolicy}
    {selected slot : AvailableSlot}
    (htaken : BookingStore.HoldTaken cfg env db draft slotIndex key selectedDate service policyRow policy
      selected slot)
    (hold : SlotHoldRow)
    (hhold : hold = BookingStore.newHold env draft
      (contextOf cfg db service policyRow policy env.now) slot key) :
    HeldAsShown ((db.releaseHold draft).placeHold draft hold) draft.tenantId draft.customerId
      draft.id env.now hold.toHold := by
  obtain ⟨slots, hslots, hslot⟩ := htaken.offeredAgain
  obtain ⟨row, hrow⟩ :=
    slotTaken_of_mem htaken.serviceStored htaken.policyValid hslots hslot
  rw [Database.releaseHold_placeHold, hhold]
  refine ⟨_, List.mem_append_right _ (List.mem_singleton_self _), _,
    Table.mem_update_of_selected htaken.draftStored rfl, rfl, ⟨rfl, ?_⟩, rfl, rfl, rfl, rfl, ?_,
    rfl⟩
  · exact Int.lt_add_of_pos_right _ policy.holdDurationPositive
  · exact htaken.date.trans (congrArg some hrow.date.symm)

/-- A stored hold the code returns again is held as shown exactly when it is live
and on the date selected. -/
theorem heldAsShown_iff_of_stored (hcoherent : Coherent db) (hkeys : HoldKeys db)
    {hold : SlotHoldRow} (hhold : hold ∈ db.slotHolds) {draftId : BookingDraftId} {now : Int}
    (hdraftId : hold.draftId = draftId) :
    HeldAsShown db hold.tenantId hold.customerId draftId now hold.toHold ↔
      ReplaysLiveHold db hold.tenantId draftId hold.idempotencyKey now := by
  constructor
  · rintro ⟨shown, hshown, draft, hdraft, hsame, hlive, _, _, _, hid, hdate, _⟩
    cases hcoherent.hold_eq hshown hhold (congrArg SlotHold.id hsame)
    intro other hother htenant hkey
    cases Table.eq_of_key_eq hkeys.unique hother hhold (Prod.ext htenant hkey)
    refine ⟨hlive, ?_⟩
    intro same hsameDraft hsameId
    rw [hcoherent.draft_eq hsameDraft hdraft (hsameId.trans hid.symm)]
    exact hdate
  · intro hreplays
    obtain ⟨hlive, hdates⟩ := hreplays hold hhold rfl rfl
    obtain ⟨draft, hdraft, htaken⟩ := hcoherent.draftOfHold hold hhold
    have hid : draft.id = draftId := htaken.draftId.symm.trans hdraftId
    have hnamed := (hcoherent.activeHold hold hhold draft hdraft htaken.draftId hlive.1).2
    exact ⟨hold, hhold, draft, hdraft, rfl, hlive, rfl, rfl, hdraftId, hid, hdates draft hdraft hid,
      hnamed⟩

/-- In every reachable state, a successful hold under a key of the navigation is
held as shown exactly when a hold already stored under the key, if any, is live
and on the date selected. -/
theorem hold_held_as_shown_iff (cfg : Catalogue) (s : State) (hs : (holdKeySystem cfg).Reachable s)
    (env : Environment) (tenantId : TenantId) (customerId : CustomerId) (draftId : BookingDraftId)
    (slotIndex : Int) (slotChoice : Text) (hold : SlotHold) :
    let invocation : Invocation :=
      { call := .customer tenantId customerId
          (.createHold draftId slotIndex (holdKey draftId slotChoice)), env := env }
    (invocation.execute cfg s.db).1 = .ok (.hold hold) →
      (HeldAsShown (invocation.execute cfg s.db).2 tenantId customerId draftId env.now hold ↔
        ReplaysLiveHold s.db tenantId draftId (holdKey draftId slotChoice) env.now) := by
  intro invocation hok
  have hcoherent := coherent_of_reachable hs.of_restrict
  have hkeys := holdKeys_of_reachable hs
  have hcommit := Invocation.execute_ok hok
  generalize (invocation.execute cfg s.db).2 = db' at hcommit ⊢
  obtain ⟨taken, written, hrun, hpair⟩ := Tx.run_map_eq_ok.mp hcommit
  cases hpair
  rcases BookingStore.createHold_cases hrun with
    ⟨existing, hexisting, rfl, hkey, rfl, rfl, rfl⟩ | hslot
  · obtain ⟨choice, hchoice⟩ := hkeys.ofDraft existing hexisting
    rw [← hkey]
    exact heldAsShown_iff_of_stored hcoherent hkeys hexisting
      (holdKey_injective (hchoice.symm.trans hkey))
  · obtain ⟨draft, selectedDate, service, policyRow, policy, selected, slot, rfl, rfl, rfl, htaken,
      rfl, rfl⟩ := BookingStore.holdSlot_ok hslot
    refine iff_of_true (heldAsShown_of_taken htaken _ rfl) ?_
    intro other hother htenant hkey
    exact absurd ⟨htenant, hkey⟩ (htaken.unusedKey other hother)

/-- A press repeated at once returns the hold it took. -/
theorem hold_held_as_shown_in_shop :
    let cfg := Shop.catalogue 0 0
    let s := Shop.opened.after cfg ((Shop.takesFirstSlot 0 1000 none 0 (Shop.time 0 8 0)).take 3)
    let again := Shop.asks 0 (Shop.time 0 8 1) 1010
      (.createHold 1000#128 0 (holdKey 1000#128 "540".toList))
    ∃ hold, (again.execute cfg s.db).1 = .ok (.hold hold) ∧
      HeldAsShown (again.execute cfg s.db).2 Shop.tenantId (Shop.customerId 0) 1000#128
        (Shop.time 0 8 1) hold := by
  intro cfg s again
  have hreached : (holdKeySystem cfg).Reachable s :=
    reachable_after_of_follows Shop.opened_fresh (by decide +kernel)
  obtain ⟨row, _, hok⟩ : ∃ row ∈ s.db.slotHolds,
      (again.execute cfg s.db).1 = .ok (.hold row.toHold) := by
    decide +kernel
  refine ⟨row.toHold, hok, ?_⟩
  exact (hold_held_as_shown_iff cfg s hreached again.env Shop.tenantId (Shop.customerId 0) 1000#128
    0 "540".toList row.toHold hok).mpr (by decide +kernel)

/-- The slot at nine is pressed, then the one at half past nine, then the one at
nine again: the hold returned was released when the second was taken. -/
theorem released_hold_shown :
    ¬ ∀ (cfg : Catalogue) (s : State), (holdKeySystem cfg).Reachable s →
      ∀ (env : Environment), s.clock ≤ env.now →
        ∀ (tenantId : TenantId) (customerId : CustomerId) (draftId : BookingDraftId)
          (slotIndex : Int) (slotChoice : Text) (hold : SlotHold),
          let invocation : Invocation :=
            { call := .customer tenantId customerId
                (.createHold draftId slotIndex (holdKey draftId slotChoice)), env := env }
          (invocation.execute cfg s.db).1 = .ok (.hold hold) →
            HeldAsShown (invocation.execute cfg s.db).2 tenantId customerId draftId env.now hold := by
  intro hall
  let cfg := Shop.catalogue 0 0
  let s := Shop.opened.after cfg
    ((Shop.takesFirstSlot 0 1000 none 0 (Shop.time 0 8 0)).take 3 ++
      [Shop.asks 0 (Shop.time 0 8 1) 1010
        (.createHold 1000#128 1 (holdKey 1000#128 "570".toList))])
  let again := Shop.asks 0 (Shop.time 0 8 2) 1011
    (.createHold 1000#128 0 (holdKey 1000#128 "540".toList))
  have hreached : (holdKeySystem cfg).Reachable s :=
    reachable_after_of_follows Shop.opened_fresh (by decide +kernel)
  obtain ⟨row, _, hok, hlost⟩ : ∃ row ∈ s.db.slotHolds,
      (again.execute cfg s.db).1 = .ok (.hold row.toHold) ∧
        ¬ HeldAsShown (again.execute cfg s.db).2 Shop.tenantId (Shop.customerId 0) 1000#128
          (Shop.time 0 8 2) row.toHold := by
    decide +kernel
  exact hlost (hall cfg s hreached again.env (by decide +kernel) Shop.tenantId (Shop.customerId 0)
    1000#128 0 "540".toList row.toHold hok)

end BusinessAssistant.Persistence
