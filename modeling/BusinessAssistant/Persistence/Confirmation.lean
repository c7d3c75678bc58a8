/-
# Confirming a held slot

Two mechanisms guard a resource. A hold is admitted by counting what overlaps it
against the resource's capacity; a booking is admitted by an exclusion constraint
that allows no two live bookings of one resource to overlap. On a resource of
capacity one they agree and a held slot can always be confirmed. On a larger
resource the constraint decides: a held slot is confirmed exactly when no live
booking overlaps it.
-/

import BusinessAssistant.Persistence.Capacity
import BusinessAssistant.Persistence.History

namespace BusinessAssistant.Persistence

open BusinessAssistant.Domain BusinessAssistant.Application BusinessAssistant.Foundation
open BusinessAssistant.Foundation.Occupancy

variable {cfg : Catalogue} {env : Environment} {db db' : Database}

/-! ## Capacity of appointments -/

/-- Counted to the end of the appointment, no booking has a tail. -/
theorem tailsOver_endAt (call : Call) (now : Int) :
    TailsOver (fun booking => booking.endAt) cfg db call now := by
  intro target _ draft _ _ policy _ _ booking _ _ _ _ hover
  have : (0 : Int) ≤ minutes policy.minimumNoticeMinutes := by
    unfold minutes
    omega
  show booking.endAt ≤ _
  omega

theorem endAt_le_occupiedUntil (booking : BookingRow) :
    booking.endAt ≤ booking.occupiedUntil cfg := by
  unfold BookingRow.occupiedUntil
  cases cfg.service? booking.tenantId booking.serviceId with
  | none => simp
  | some service =>
      have := service.buffer_nonneg
      simp only [Option.map_some, Option.getD_some]
      omega

/-- In every reachable state the unexpired holds and the appointments booked
never exceed a resource's capacity. -/
theorem appointments_withinCapacity {s : State} (hs : (bookingSystem cfg).Reachable s) :
    WithinCapacity (fun booking => booking.endAt) cfg s.db s.clock :=
  withinCapacity_of_reachable endAt_le_occupiedUntil
    (hs.to_restrict fun _ invocation => tailsOver_endAt invocation.call invocation.env.now)

/-! ## What a customer may expect to confirm -/

/-- A draft for a new booking with contact details, and the unexpired hold it
names for a service that can be booked. -/
@[mk_iff]
structure ReadyToConfirm (cfg : Catalogue) (now : Int) (db : Database) (draft : BookingDraftRow)
    (hold : SlotHoldRow) (service : ServiceRow) : Prop where
  draftStored : draft ∈ db.bookingDrafts
  draftActive : draft.status = .active
  draftUnexpired : now < draft.expiresAt
  newBooking : draft.rescheduleBookingId = none
  named : truthy draft.customerName = true
  phoned : truthy draft.customerPhone = true
  holdStored : hold ∈ db.slotHolds
  holdOfDraft : draft.holdId = some hold.id
  holdUnexpired : hold.Unexpired now
  serviceStored : cfg.service? draft.tenantId hold.serviceId = some service
  serviceBookable : service.active = true ∧ service.bookable = true

instance (cfg : Catalogue) (now : Int) (db : Database) (draft : BookingDraftRow)
    (hold : SlotHoldRow) (service : ServiceRow) :
    Decidable (ReadyToConfirm cfg now db draft hold service) :=
  decidable_of_iff' _ (readyToConfirm_iff cfg now db draft hold service)

/-- No live booking overlaps the appointment a hold is for. -/
def Clear (db : Database) (hold : SlotHoldRow) (service : ServiceRow) : Prop :=
  ∀ booking ∈ db.bookings, booking.tenantId = hold.tenantId →
    booking.resourceId = some hold.resourceId → booking.Occupies →
      ¬ (booking.startAt < hold.startAt + service.duration ∧ hold.startAt < booking.endAt)

instance (db : Database) (hold : SlotHoldRow) (service : ServiceRow) :
    Decidable (Clear db hold service) :=
  inferInstanceAs (Decidable (∀ _ ∈ _, _))

/-- A key no confirmed booking of the tenant is stored under. -/
def UnusedKey (db : Database) (tenantId : TenantId) (key : Text) : Prop :=
  ∀ booking ∈ db.bookings, booking.tenantId = tenantId → booking.idempotencyScope = "confirm" →
    booking.idempotencyValue ≠ key

instance (db : Database) (tenantId : TenantId) (key : Text) :
    Decidable (UnusedKey db tenantId key) :=
  inferInstanceAs (Decidable (∀ _ ∈ _, _))

/-- An id no booking has, whose reference no booking of the tenant has. -/
def UnusedId (db : Database) (tenantId : TenantId) (id : BookingId) : Prop :=
  (∀ booking ∈ db.bookings, booking.id ≠ id) ∧
    ∀ booking ∈ db.bookings, booking.tenantId = tenantId →
      booking.publicReference ≠ some (publicReference id)

instance (db : Database) (tenantId : TenantId) (id : BookingId) :
    Decidable (UnusedId db tenantId id) :=
  inferInstanceAs (Decidable (_ ∧ _))

/-! ## The replay lookups find nothing -/

theorem replayedBooking_of_active (hcoherent : Coherent db) {draft : BookingDraftRow} {key : Text}
    (hdraft : draft ∈ db.bookingDrafts) (hactive : draft.status = .active)
    (hkey : UnusedKey db draft.tenantId key) :
    BookingStore.replayedBooking db draft.tenantId draft.customerId draft.id key = .ok none := by
  have hstored : (db.bookings.find? fun row => row.tenantId = draft.tenantId ∧
      row.idempotencyScope = "confirm" ∧ row.idempotencyValue = key) = none := by
    rw [List.find?_eq_none]
    intro row hrow hmatch
    obtain ⟨htenant, hscope, hvalue⟩ := of_decide_eq_true hmatch
    exact hkey row hrow htenant hscope hvalue
  have hconfirmed : (db.bookingDrafts.find? fun row => row.tenantId = draft.tenantId ∧
      row.customerId = draft.customerId ∧ row.id = draft.id ∧ row.status = .confirmed) = none := by
    rw [List.find?_eq_none]
    intro row hrow hmatch
    obtain ⟨_, _, hid, hstatus⟩ := of_decide_eq_true hmatch
    rw [hcoherent.draft_eq hrow hdraft hid, hactive] at hstatus
    cases hstatus
  unfold BookingStore.replayedBooking
  rw [hstored, hconfirmed]
  rfl

/-- An owned draft that is active and has not run out is found. -/
theorem ownedDraft_run (hcoherent : Coherent db) {draft : BookingDraftRow} {now : Int}
    (hdraft : draft ∈ db.bookingDrafts) (hactive : draft.status = .active)
    (hunexpired : now < draft.expiresAt) :
    (BookingStore.ownedDraft draft.tenantId draft.customerId draft.id now).run db =
      .ok (draft, db) := by
  have hfound : (db.bookingDrafts.find? fun row => row.tenantId = draft.tenantId ∧
      row.customerId = draft.customerId ∧ row.id = draft.id) = some draft := by
    apply Table.find?_eq_some_of_unique hdraft ⟨rfl, rfl, rfl⟩
    intro other hother hmatch
    exact hcoherent.draft_eq hother hdraft hmatch.2.2
  unfold BookingStore.ownedDraft
  rw [Tx.run_get_bind, hfound, Tx.run_fetch_bind_some, Tx.run_require_bind, if_pos hactive,
    Tx.run_require_bind, if_pos hunexpired]
  rfl

/-! ## The insert -/

/-- A booking that meets the unique constraints is admitted exactly when no other
row excludes it. -/
theorem checkBooking_run {booking : BookingRow}
    (hreference : ∀ row ∈ db.bookings, row.tenantId = booking.tenantId → row.id ≠ booking.id →
      row.publicReference ≠ booking.publicReference)
    (hhold : ∀ row ∈ db.bookings, row.id ≠ booking.id → row.holdId ≠ booking.holdId)
    (hkey : ∀ row ∈ db.bookings, row.tenantId = booking.tenantId → row.id ≠ booking.id →
      row.idempotencyScope = booking.idempotencyScope →
        row.idempotencyValue ≠ booking.idempotencyValue) :
    (BookingStore.checkBooking booking).run db =
      if ∀ row ∈ db.bookings, row.id ≠ booking.id → ¬ booking.Excludes row then .ok ((), db)
      else .error (.integrity "ex_bookings_resource_active_overlap") := by
  have hothers : ∀ row, row ∈ (db.bookings.filter fun row =>
      row.tenantId = booking.tenantId ∧ row.id ≠ booking.id) ↔
        row ∈ db.bookings ∧ row.tenantId = booking.tenantId ∧ row.id ≠ booking.id := by
    intro row
    rw [List.mem_filter, decide_eq_true_eq]
  unfold BookingStore.checkBooking
  rw [Tx.run_get_bind, Tx.run_require_bind, if_pos, Tx.run_require_bind, if_pos,
    Tx.run_require_bind, if_pos, Tx.require]
  · by_cases hexclusion : ∀ row ∈ db.bookings, row.id ≠ booking.id → ¬ booking.Excludes row
    · rw [if_pos hexclusion, if_pos]
      · rfl
      · intro row hrow
        obtain ⟨hstored, _, hid⟩ := (hothers row).mp hrow
        exact hexclusion row hstored hid
    · rw [if_neg hexclusion, if_neg]
      · rfl
      · intro hnone
        apply hexclusion
        intro row hstored hid hexcludes
        exact hnone row ((hothers row).mpr ⟨hstored, hexcludes.2.2.1.symm, hid⟩) hexcludes
  · intro row hrow hsame
    obtain ⟨hstored, htenant, hid⟩ := (hothers row).mp hrow
    exact hkey row hstored htenant hid hsame.1 hsame.2
  · intro row hrow hsame
    obtain ⟨hstored, _, hid⟩ := (hothers row).mp hrow
    exact hhold row hstored hid hsame.1
  · intro row hrow hsame
    obtain ⟨hstored, htenant, hid⟩ := (hothers row).mp hrow
    exact hreference row hstored htenant hid hsame.1

/-- A booking made of an unused hold, under an unused key and id, is inserted
exactly when no stored booking excludes it. -/
theorem insertBooking_run (hcoherent : Coherent db) {draft : BookingDraftRow} {hold : SlotHoldRow}
    {service : ServiceRow} {key : Text} (hhold : hold ∈ db.slotHolds)
    (hunexpired : hold.Unexpired env.now) (hkey : UnusedKey db draft.tenantId key)
    (hid : UnusedId db draft.tenantId env.newId) :
    (BookingStore.insertBooking env draft hold service key).run db =
      if ∀ row ∈ db.bookings, ¬ (newBooking env.newId draft hold service key).Excludes row then
        .ok (newBooking env.newId draft hold service key,
          db.book (newBooking env.newId draft hold service key) env.now env.serverNow)
      else .error (.integrity "ex_bookings_resource_active_overlap") := by
  have hfresh : ∀ row ∈ db.bookings, row.id ≠ (newBooking env.newId draft hold service key).id :=
    hid.1
  have hcheck : (BookingStore.checkBooking (newBooking env.newId draft hold service key)).run db =
      _ :=
    checkBooking_run (fun row hrow htenant _ => hid.2 row hrow htenant)
      (fun row hrow _ => hcoherent.unused hhold (by rw [hunexpired.1]; decide) row hrow)
      fun row hrow htenant _ hscope => hkey row hrow htenant hscope
  unfold BookingStore.insertBooking
  rw [Tx.run_get_bind, Tx.run_require_bind, if_pos hfresh]
  by_cases hexclusion : ∀ row ∈ db.bookings,
      ¬ (newBooking env.newId draft hold service key).Excludes row
  · rw [if_pos hexclusion]
    rw [if_pos fun row hrow _ => hexclusion row hrow] at hcheck
    exact Tx.run_bind_of_ok hcheck
  · rw [if_neg hexclusion]
    rw [if_neg fun hnone => hexclusion fun row hrow => hnone row hrow (hfresh row hrow)] at hcheck
    exact Tx.run_bind_of_error hcheck

/-- A new booking can be shown to its customer. -/
theorem result_newBooking {draft : BookingDraftRow} {hold : SlotHoldRow} {service : ServiceRow}
    (hservice : cfg.service? draft.tenantId hold.serviceId = some service) (id : BookingId)
    (key : Text) :
    ∃ booked, BookingStore.result cfg (newBooking id draft hold service key) = .ok booked ∧
      booked.id = id ∧ booked.startAt = hold.startAt := by
  obtain ⟨hstored, htenant, _⟩ := Table.of_find? hservice
  have hserviceAgain : cfg.service? draft.tenantId service.id = some service := by
    rw [Coherent.service_id hservice]
    exact hservice
  have hsome : (cfg.tenant? draft.tenantId).isSome = true := by
    obtain ⟨owner, howner, hownerId⟩ := cfg.servicesOwned service hstored
    rw [Catalogue.tenant?, List.find?_isSome]
    exact ⟨owner, howner, decide_eq_true (hownerId.trans htenant)⟩
  obtain ⟨tenant, htenantFound⟩ := Option.isSome_iff_exists.mp hsome
  unfold BookingStore.result
  simp only [newBooking, hserviceAgain, htenantFound]
  exact ⟨_, rfl, rfl, rfl⟩

/-- The exclusion constraint, for the booking of an unexpired hold. -/
theorem excludes_iff_not_clear (hrecorded : Recorded db) {draft : BookingDraftRow}
    {hold : SlotHoldRow} {service : ServiceRow} {id : BookingId} {key : Text}
    (htenant : hold.tenantId = draft.tenantId) :
    (∀ row ∈ db.bookings, ¬ (newBooking id draft hold service key).Excludes row) ↔
      Clear db hold service := by
  constructor
  · intro hnone row hrow hrowTenant hresource hoccupies hoverlap
    refine hnone row hrow ⟨⟨rfl, .inr (.inl rfl)⟩, ⟨by rw [hresource]; rfl, .inr hoccupies⟩,
      (hrowTenant.trans htenant).symm, hresource.symm, hoverlap.2, hoverlap.1⟩
  · rintro hclear row hrow ⟨_, ⟨_, hstatus⟩, hrowTenant, hresource, hstart, hend⟩
    refine hclear row hrow (hrowTenant.symm.trans htenant.symm) hresource.symm ?_ ⟨hend, hstart⟩
    rcases hstatus with hheld | hlive
    · rcases hrecorded.status row hrow with hconfirmed | hcancelled
      · exact absurd (hheld.symm.trans hconfirmed) (by decide)
      · exact absurd (hheld.symm.trans hcancelled) (by decide)
    · exact hlive

section Confirm

variable {draft : BookingDraftRow} {hold : SlotHoldRow} {service : ServiceRow} {key : Text}

/-- Past the replay lookups, a ready draft is confirmed exactly when its slot is
clear. -/
theorem confirmDraft_run (hcoherent : Coherent db) (hrecorded : Recorded db)
    (hready : ReadyToConfirm cfg env.now db draft hold service)
    (hkey : UnusedKey db draft.tenantId key) (hid : UnusedId db draft.tenantId env.newId) :
    (Clear db hold service ∧ ∃ booked, booked.id = env.newId ∧ booked.startAt = hold.startAt ∧
        (BookingStore.confirmDraft cfg env draft.tenantId draft.customerId draft.id key).run db =
          .ok (booked, (db.book (newBooking env.newId draft hold service key) env.now
            env.serverNow).settleDraft draft hold)) ∨
      ¬ Clear db hold service ∧
        (BookingStore.confirmDraft cfg env draft.tenantId draft.customerId draft.id key).run db =
          .error (.integrity "ex_bookings_resource_active_overlap") := by
  have htaken := hcoherent.takenOn_of_holdId hready.holdStored hready.draftStored hready.holdOfDraft
  have hholdFound : (db.slotHolds.find? fun row => row.tenantId = draft.tenantId ∧
      row.customerId = draft.customerId ∧ draft.holdId = some row.id) = some hold := by
    apply Table.find?_eq_some_of_unique hready.holdStored
      ⟨htaken.tenantId, htaken.customerId, hready.holdOfDraft⟩
    intro other hother hmatch
    exact hcoherent.hold_eq hother hready.holdStored
      (Option.some.inj (hmatch.2.2.symm.trans hready.holdOfDraft))
  have hserviceFound : (cfg.service? draft.tenantId hold.serviceId).filter
      (fun service => service.active && service.bookable) = some service := by
    rw [hready.serviceStored, Option.filter_some, hready.serviceBookable.1,
      hready.serviceBookable.2]
    rfl
  have hinsert : (BookingStore.insertBooking env draft hold service key).run db = _ :=
    insertBooking_run hcoherent hready.holdStored hready.holdUnexpired hkey hid
  have hrun : (BookingStore.confirmDraft cfg env draft.tenantId draft.customerId draft.id key).run
      db = (BookingStore.insertBooking env draft hold service key >>= fun booking => do
        modify (·.settleDraft draft hold)
        Tx.lift (BookingStore.result cfg booking)).run db := by
    unfold BookingStore.confirmDraft
    rw [Tx.run_get_bind, Tx.run_bind_of_ok (ownedDraft_run hcoherent hready.draftStored
      hready.draftActive hready.draftUnexpired), Tx.run_require_bind, if_pos
      ⟨by rw [hready.holdOfDraft]; rfl, hready.named, hready.phoned⟩, hholdFound,
      Tx.run_fetch_bind_some, Tx.run_require_bind, if_pos hready.holdUnexpired, hserviceFound,
      Tx.run_fetch_bind_some, hready.newBooking]
  rw [hrun]
  by_cases hclear : Clear db hold service
  · rw [if_pos ((excludes_iff_not_clear hrecorded htaken.tenantId).mpr hclear)] at hinsert
    obtain ⟨booked, hresult, hbookedId, hbookedStart⟩ :=
      result_newBooking hready.serviceStored env.newId key
    refine .inl ⟨hclear, booked, hbookedId, hbookedStart, ?_⟩
    rw [Tx.run_bind_of_ok hinsert, Tx.run_modify_bind, hresult]
    rfl
  · rw [if_neg (mt (excludes_iff_not_clear hrecorded htaken.tenantId).mp hclear)] at hinsert
    exact .inr ⟨hclear, Tx.run_bind_of_error hinsert⟩

/-- A ready draft is confirmed exactly when its slot is clear, and a slot that is
not ends in a conflict. -/
theorem confirm_run (hcoherent : Coherent db) (hrecorded : Recorded db)
    (hready : ReadyToConfirm cfg env.now db draft hold service)
    (hvalid : key ≠ [] ∧ key.length ≤ 255) (hkey : UnusedKey db draft.tenantId key)
    (hid : UnusedId db draft.tenantId env.newId) :
    (Clear db hold service ∧ ∃ booked, booked.id = env.newId ∧ booked.startAt = hold.startAt ∧
        (BookingStore.confirm cfg env draft.tenantId draft.customerId draft.id key).run db =
          .ok (booked, (db.book (newBooking env.newId draft hold service key) env.now
            env.serverNow).settleDraft draft hold)) ∨
      ¬ Clear db hold service ∧
        (BookingStore.confirm cfg env draft.tenantId draft.customerId draft.id key).run db =
          .error .bookingConflict := by
  have hreplay := replayedBooking_of_active hcoherent hready.draftStored hready.draftActive hkey
  unfold BookingStore.confirm
  rw [Tx.run_require_bind, if_pos hvalid]
  rcases confirmDraft_run hcoherent hrecorded hready hkey hid with
    ⟨hclear, booked, hbookedId, hbookedStart, hrun⟩ | ⟨hblocked, hrun⟩
  · refine .inl ⟨hclear, booked, hbookedId, hbookedStart, ?_⟩
    rw [Tx.run_mapError_eq_ok, Tx.run_get_bind, hreplay, Tx.run_lift_bind_ok]
    exact hrun
  · refine .inr ⟨hblocked, ?_⟩
    show _ = Except.error (BookingStore.conflictOfIntegrity
      (.integrity "ex_bookings_resource_active_overlap"))
    apply Tx.run_mapError_of_error
    rw [Tx.run_get_bind, hreplay, Tx.run_lift_bind_ok]
    exact hrun

end Confirm

/-! ## Held slots -/

/-- On a resource of capacity one, an unexpired hold leaves no room for a live
booking over its appointment. -/
theorem clear_of_capacity_one {clock : Int}
    (hwithin : WithinCapacity (fun booking => booking.endAt) cfg db clock)
    {hold : SlotHoldRow} {service : ServiceRow} (hhold : hold ∈ db.slotHolds)
    (hunexpired : hold.Unexpired clock) (hend : hold.startAt + service.duration ≤ hold.endAt)
    {resource : ResourceRow} (hresource : resource ∈ cfg.resources)
    (hid : resource.id = hold.resourceId) (hone : resource.capacity = 1) :
    Clear db hold service := by
  intro booking hbooking _ hbookingResource hoccupies hoverlap
  have hduration := service.duration_pos
  obtain ⟨instant, hbookingCovers, hholdCovers⟩ :=
    exists_covers_of_overlap booking.timeOrderValid (by omega) hoverlap
  have hheld : 0 < heldAt db clock resource.id instant := by
    rw [heldAt, List.countP_pos_iff]
    exact ⟨hold, hhold, decide_eq_true
      ⟨hid.symm, hunexpired, hholdCovers.1, lt_of_lt_of_le hholdCovers.2 hend⟩⟩
  have hbooked : 0 < bookedAt (fun booking => booking.endAt) db resource.id instant := by
    rw [bookedAt, List.countP_pos_iff]
    exact ⟨booking, hbooking, decide_eq_true ⟨hid ▸ hbookingResource, hoccupies, hbookingCovers⟩⟩
  have hbound := hwithin resource hresource instant
  omega

/-- The outcome of a transaction that creates a booking of a hold. -/
def CreatesBooking (db : Database) (hold : SlotHoldRow)
    (outcome : Except Failure Response × Database) : Prop :=
  ∃ (booked : BookingResult) (booking : BookingRow), outcome.1 = .ok (.booking booked) ∧
    outcome.2.bookings = db.bookings ++ [booking] ∧ booked.id = booking.id ∧
    booked.startAt = hold.startAt ∧ booking.holdId = some hold.id ∧
    booking.resourceId = some hold.resourceId ∧ booking.startAt = hold.startAt

/-- In every reachable state a ready draft is confirmed, on the held resource and
start, exactly when no live booking of the resource overlaps the appointment;
otherwise it ends in a conflict. On a resource of capacity one it is always
confirmed. -/
theorem held_slot_confirmable (cfg : Catalogue) (s : State) (hs : (bookingSystem cfg).Reachable s)
    (env : Environment) (hclock : s.clock ≤ env.now) (draft : BookingDraftRow) (hold : SlotHoldRow)
    (service : ServiceRow) (hready : ReadyToConfirm cfg env.now s.db draft hold service)
    (key : Text) (hvalid : key ≠ [] ∧ key.length ≤ 255) (hkey : UnusedKey s.db draft.tenantId key)
    (hid : UnusedId s.db draft.tenantId env.newId) :
    let outcome := Invocation.execute cfg
      { call := .customer draft.tenantId draft.customerId (.confirm draft.id key), env := env } s.db
    (CreatesBooking s.db hold outcome ↔ Clear s.db hold service) ∧
      (¬ Clear s.db hold service → outcome.1 = .error .bookingConflict) ∧
      ∀ resource ∈ cfg.resources, resource.id = hold.resourceId → resource.capacity = 1 →
        CreatesBooking s.db hold outcome := by
  intro outcome
  have hrun := confirm_run (coherent_of_reachable hs) (recorded_of_reachable hs) hready hvalid hkey
    hid
  have hcreates : Clear s.db hold service → CreatesBooking s.db hold outcome := by
    intro hclear
    rcases hrun with ⟨_, booked, hbookedId, hbookedStart, hcommit⟩ | ⟨hblocked, _⟩
    · have houtcome : outcome = _ := Tx.commit_of_ok (Tx.run_map_eq_ok.mpr ⟨_, _, hcommit, rfl⟩)
      rw [houtcome]
      exact ⟨booked, _, rfl, rfl, hbookedId, hbookedStart, rfl, rfl, rfl⟩
    · exact absurd hclear hblocked
  have hconflict : ¬ Clear s.db hold service → outcome.1 = .error .bookingConflict := by
    intro hblocked
    rcases hrun with ⟨hclear, _⟩ | ⟨_, hfailed⟩
    · exact absurd hclear hblocked
    · have houtcome : outcome = _ := Tx.commit_of_error (Tx.run_map_of_error hfailed)
      rw [houtcome]
  refine ⟨⟨?_, hcreates⟩, hconflict, ?_⟩
  · rintro ⟨booked, booking, hok, _⟩
    by_contra hblocked
    rw [hconflict hblocked] at hok
    cases hok
  · intro resource hresource hresourceId hone
    have hplaced := placed_of_reachable hs hold hready.holdStored
    have htaken := (coherent_of_reachable hs).takenOn_of_holdId hready.holdStored
      hready.draftStored hready.holdOfDraft
    have hend : hold.startAt + service.duration ≤ hold.endAt := by
      obtain ⟨stored, hstored, hholdEnd⟩ := hplaced.service
      rw [htaken.tenantId] at hstored
      cases hready.serviceStored.symm.trans hstored
      have hbuffer := service.buffer_nonneg
      omega
    exact hcreates (clear_of_capacity_one ((appointments_withinCapacity hs).mono hclock)
      hready.holdStored hready.holdUnexpired hend hresource hresourceId hone)

/-- The first customer of a shop with one place confirms the slot held. -/
theorem held_slot_confirmable_in_shop :
    let cfg := Shop.catalogue 0 0
    let s := Shop.opened.after cfg ((Shop.takesFirstSlot 0 1000 none 0 (Shop.time 0 8 0)).take 4)
    let env : Environment :=
      { now := Shop.time 0 8 1, serverNow := Shop.time 0 8 1, newId := 1004#128 }
    ∃ draft ∈ s.db.bookingDrafts, ∃ hold ∈ s.db.slotHolds,
      CreatesBooking s.db hold (Invocation.execute cfg
        { call := .customer draft.tenantId draft.customerId
            (.confirm draft.id (confirmKey draft.id)), env := env } s.db) := by
  intro cfg s env
  obtain ⟨draft, hdraft, hold, hhold, hready, hvalid, hkey, hid, hresource⟩ :
      ∃ draft ∈ s.db.bookingDrafts, ∃ hold ∈ s.db.slotHolds,
        ReadyToConfirm cfg env.now s.db draft hold (Shop.service 0) ∧
          (confirmKey draft.id ≠ [] ∧ (confirmKey draft.id).length ≤ 255) ∧
          UnusedKey s.db draft.tenantId (confirmKey draft.id) ∧
          UnusedId s.db draft.tenantId env.newId ∧ Shop.resourceId = hold.resourceId := by
    decide +kernel
  have hreached : (bookingSystem cfg).Reachable s :=
    reachable_after Shop.opened_fresh (by decide +kernel)
  exact ⟨draft, hdraft, hold, hhold,
    (held_slot_confirmable cfg s hreached env (by decide +kernel) draft hold _ hready _ hvalid hkey
      hid).2.2 _ List.mem_cons_self hresource rfl⟩

/-- Two places at a time: the second hold of a slot is within capacity, but its
booking is excluded by the first. -/
theorem held_slot_conflict :
    ¬ ∀ (cfg : Catalogue) (s : State), (bookingSystem cfg).Reachable s →
      ∀ env : Environment, s.clock ≤ env.now → ∀ draft hold service,
        ReadyToConfirm cfg env.now s.db draft hold service →
          ∀ key : Text, key ≠ [] ∧ key.length ≤ 255 → UnusedKey s.db draft.tenantId key →
            UnusedId s.db draft.tenantId env.newId →
              CreatesBooking s.db hold (Invocation.execute cfg
                { call := .customer draft.tenantId draft.customerId (.confirm draft.id key),
                  env := env } s.db) := by
  intro hall
  let cfg := Shop.catalogue 0 1
  let s := Shop.opened.after cfg (Shop.takesFirstSlot 0 1000 none 0 (Shop.time 0 8 0) ++
    (Shop.takesFirstSlot 1 2000 none 0 (Shop.time 0 8 1)).take 4)
  let env : Environment :=
    { now := Shop.time 0 8 2, serverNow := Shop.time 0 8 2, newId := BitVec.ofNat 128 (2 ^ 96) }
  have hreached : (bookingSystem cfg).Reachable s :=
    reachable_after Shop.opened_fresh (by decide +kernel)
  obtain ⟨draft, _, hold, _, hready, hvalid, hkey, hid, hconflict⟩ :
      ∃ draft ∈ s.db.bookingDrafts, ∃ hold ∈ s.db.slotHolds,
        ReadyToConfirm cfg env.now s.db draft hold (Shop.service 0) ∧
          (confirmKey draft.id ≠ [] ∧ (confirmKey draft.id).length ≤ 255) ∧
          UnusedKey s.db draft.tenantId (confirmKey draft.id) ∧
          UnusedId s.db draft.tenantId env.newId ∧
          (Invocation.execute cfg
            { call := .customer draft.tenantId draft.customerId
                (.confirm draft.id (confirmKey draft.id)), env := env } s.db).1 =
            .error .bookingConflict := by
    decide +kernel
  obtain ⟨booked, booking, hok, _⟩ :=
    hall cfg s hreached env (by decide +kernel) draft hold _ hready _ hvalid hkey hid
  cases hok.symm.trans hconflict

end BusinessAssistant.Persistence
