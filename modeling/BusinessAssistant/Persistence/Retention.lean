/-
# What a run never loses

A draft that is no longer active is never written again, and a booking is never
deleted: a reschedule moves it, a cancellation ends it, but whose it is and the
key it is stored under stay. Both are facts about pairs of states, the earlier
one included in the later.
-/

import BusinessAssistant.Persistence.Coherence

namespace BusinessAssistant.Persistence

open BusinessAssistant.Domain BusinessAssistant.Application BusinessAssistant.Foundation

variable {cfg : Catalogue} {env : Environment} {db db' : Database} {call : Call}

/-- What a booking keeps for ever. -/
structure BookingIdentity where
  id : BookingId
  tenantId : TenantId
  customerId : CustomerId
  serviceId : ServiceId
  publicReference : Option Text
  idempotencyScope : String
  idempotencyValue : Text

def BookingRow.identity (booking : BookingRow) : BookingIdentity where
  id := booking.id
  tenantId := booking.tenantId
  customerId := booking.customerId
  serviceId := booking.serviceId
  publicReference := booking.publicReference
  idempotencyScope := booking.idempotencyScope
  idempotencyValue := booking.idempotencyValue

/-- Closed drafts and the identities of bookings are kept. -/
structure Keeps (db db' : Database) : Prop where
  closedDrafts : ∀ draft ∈ db.bookingDrafts, draft.status ≠ .active → draft ∈ db'.bookingDrafts
  bookings : ∀ booking ∈ db.bookings, ∃ later ∈ db'.bookings, later.identity = booking.identity

theorem Keeps.refl (db : Database) : Keeps db db where
  closedDrafts _ hdraft _ := hdraft
  bookings booking hbooking := ⟨booking, hbooking, rfl⟩

theorem Keeps.trans {middle : Database} (hfirst : Keeps db middle) (hsecond : Keeps middle db') :
    Keeps db db' where
  closedDrafts draft hdraft hclosed :=
    hsecond.closedDrafts draft (hfirst.closedDrafts draft hdraft hclosed) hclosed
  bookings booking hbooking := by
    obtain ⟨later, hlater, hsame⟩ := hfirst.bookings booking hbooking
    obtain ⟨last, hlast, hsameLast⟩ := hsecond.bookings later hlater
    exact ⟨last, hlast, hsameLast.trans hsame⟩

/-! ## One change -/

/-- Rewriting active drafts keeps the closed ones. -/
theorem closed_mem_update {selected : BookingDraftRow → Prop} [DecidablePred selected]
    {change : BookingDraftRow → BookingDraftRow}
    (hactive : ∀ row ∈ db.bookingDrafts, selected row → row.status = .active) :
    ∀ draft ∈ db.bookingDrafts, draft.status ≠ .active →
      draft ∈ Table.update selected change db.bookingDrafts := by
  intro draft hdraft hclosed
  apply Table.mem_update_of_not_selected hdraft
  intro hselected
  exact hclosed (hactive draft hdraft hselected)

/-- Rewriting one active draft by its id keeps the closed ones. -/
theorem Coherent.closed_mem_updateDraft (hcoherent : Coherent db) {active : BookingDraftRow}
    (hactive : active ∈ db.bookingDrafts) (hstatus : active.status = .active)
    (change : BookingDraftRow → BookingDraftRow) :
    ∀ draft ∈ db.bookingDrafts, draft.status ≠ .active →
      draft ∈ (db.updateDraft active.id change).bookingDrafts := by
  apply closed_mem_update
  intro row hrow hid
  rw [hcoherent.draft_eq hrow hactive hid]
  exact hstatus

/-- Rewriting bookings without touching their identity keeps them. -/
theorem identity_mem_update {selected : BookingRow → Prop} [DecidablePred selected]
    {change : BookingRow → BookingRow} (hchange : ∀ row, (change row).identity = row.identity) :
    ∀ booking ∈ db.bookings, ∃ later ∈ Table.update selected change db.bookings,
      later.identity = booking.identity := by
  intro booking hbooking
  have hsame : ∃ row ∈ db.bookings, row.identity = booking.identity := ⟨booking, hbooking, rfl⟩
  apply Table.exists_mem_update hsame
  intro row _ hrow _
  exact (hchange row).trans hrow

theorem Change.keeps (hcoherent : Coherent db) (hchange : Change cfg env db call db') :
    Keeps db db' := by
  have hbookings := (Keeps.refl db).bookings
  cases hchange with
  | startDraft =>
      refine ⟨?_, hbookings⟩
      intro row hrow hclosed
      exact List.mem_append_left _ (closed_mem_update (fun _ _ h => h.2) row hrow hclosed)
  | getActiveDraft hdraft hstatus =>
      exact ⟨hcoherent.closed_mem_updateDraft hdraft hstatus _, hbookings⟩
  | selectDate hdraft hstatus =>
      exact ⟨hcoherent.closed_mem_updateDraft hdraft hstatus _, hbookings⟩
  | createHold hdraft hstatus =>
      rw [Database.releaseHold_placeHold]
      exact ⟨hcoherent.closed_mem_updateDraft hdraft hstatus _, hbookings⟩
  | updateContact hdraft hstatus =>
      exact ⟨hcoherent.closed_mem_updateDraft hdraft hstatus _, hbookings⟩
  | getHold => exact ⟨(Keeps.refl db).closedDrafts, hbookings⟩
  | cancelDraft hids hany =>
      refine ⟨closed_mem_update ?_, hbookings⟩
      intro row hrow hid
      rw [hids] at hid
      obtain ⟨listed, hlisted, hlistedId⟩ := List.mem_map.mp hid
      obtain ⟨hlistedMem, hcondition⟩ := List.mem_filter.mp hlisted
      rw [← hcoherent.draft_eq hlistedMem hrow hlistedId]
      exact (of_decide_eq_true hcondition).2
  | book hdraft hstatus =>
      refine ⟨hcoherent.closed_mem_updateDraft hdraft hstatus _, ?_⟩
      intro booking hbooking
      exact ⟨booking, List.mem_append_left _ hbooking, rfl⟩
  | move hdraft hstatus =>
      exact ⟨hcoherent.closed_mem_updateDraft hdraft hstatus _, identity_mem_update fun _ => rfl⟩
  | cancelBooking =>
      exact ⟨(Keeps.refl db).closedDrafts, identity_mem_update fun _ => rfl⟩
  | expireHolds => exact ⟨(Keeps.refl db).closedDrafts, hbookings⟩

/-! ## Whole runs -/

theorem keeps_execute {s : State} (hs : (bookingSystem cfg).Reachable s)
    (invocation : Invocation) : Keeps s.db (invocation.execute cfg s.db).2 := by
  rcases invocation.execute_change cfg s.db with hsame | hchange
  · rw [hsame]
    exact .refl s.db
  · exact hchange.keeps (coherent_of_reachable hs)

/-- A run keeps closed drafts and the identities of bookings. -/
theorem keeps_of_run {s s' : State} {invocations : List Invocation}
    (hs : (bookingSystem cfg).Reachable s) (hrun : (bookingSystem cfg).Run s invocations s') :
    Keeps s.db s'.db := by
  apply hrun.relate (R := fun s s' => Keeps s.db s'.db)
  · intro s
    exact .refl s.db
  · intro s middle last hfirst hsecond
    exact hfirst.trans hsecond
  · rintro s invocation _ hreachable ⟨_, rfl⟩
    exact keeps_execute hreachable invocation
  · exact hs

/-! ## Keys of bookings -/

/-- Every booking is stored as a confirmation, under a key and a reference of its
own. -/
structure BookingKeys (db : Database) : Prop where
  scope : ∀ booking ∈ db.bookings, booking.idempotencyScope = "confirm"
  unique : (db.bookings.map fun booking => (booking.tenantId, booking.idempotencyValue)).Nodup
  references : (db.bookings.map fun booking => (booking.tenantId, booking.publicReference)).Nodup

theorem Change.bookingKeys (hchange : Change cfg env db call db') (h : BookingKeys db) :
    BookingKeys db' := by
  cases hchange with
  | startDraft => exact { h with }
  | getActiveDraft => exact { h with }
  | selectDate => exact { h with }
  | createHold => exact { h with }
  | updateContact => exact { h with }
  | getHold => exact { h with }
  | cancelDraft => exact { h with }
  | expireHolds => exact { h with }
  | book _ _ _ _ _ _ _ _ _ hreference hkey =>
      constructor
      · exact Table.forall_append_row h.scope rfl
      · apply Table.nodup_append_row h.unique
        intro row hrow hsame
        exact hkey row hrow (congrArg Prod.fst hsame) (h.scope row hrow) (congrArg Prod.snd hsame)
      · apply Table.nodup_append_row h.references
        intro row hrow hsame
        exact hreference row hrow (congrArg Prod.fst hsame) (congrArg Prod.snd hsame)
  | move =>
      exact ⟨Table.forall_update h.scope fun _ hscope => hscope,
        Table.nodup_update h.unique fun _ => rfl, Table.nodup_update h.references fun _ => rfl⟩
  | cancelBooking =>
      exact ⟨Table.forall_update h.scope fun _ hscope => hscope,
        Table.nodup_update h.unique fun _ => rfl, Table.nodup_update h.references fun _ => rfl⟩

theorem bookingKeys_of_reachable {s : State} (hs : (bookingSystem cfg).Reachable s) :
    BookingKeys s.db := by
  apply database_invariant (I := BookingKeys) ?_ ?_ hs
  · rintro db ⟨_, _, hbookings, _⟩
    constructor <;> simp [hbookings]
  · intro env db call db' _ h hchange
    exact hchange.bookingKeys h

end BusinessAssistant.Persistence
