/-
# Capacity

How many holds and bookings occupy a resource at an instant, and why that never
exceeds its capacity. A hold is admitted when the busy periods that overlap it
leave room; the periods that cover an instant of it are among those, provided
the snapshot shows every booking that occupies the instant.

Up to when a booking is counted is a parameter. Counted to the end of the
appointment, the snapshot shows every booking that matters and the bound holds in
every run. Counted to the end of the cleanup, a booking whose appointment is over
has left the snapshot while its cleanup runs, so the bound needs the runs in
which no hold is taken into such a cleanup.
-/

import BusinessAssistant.Application.AvailabilityAgreement
import BusinessAssistant.Foundation.Occupancy
import BusinessAssistant.Persistence.Placement

namespace BusinessAssistant.Persistence

open BusinessAssistant.Domain BusinessAssistant.Application BusinessAssistant.Foundation
open BusinessAssistant.Foundation.Occupancy

/-! ## Used capacity -/

/-- A hold takes one unit. -/
theorem one_le_holdPeriods (db : Database) (tenantId : TenantId) (now horizon : Int)
    (resourceId : ResourceId) :
    ∀ period ∈ holdPeriods db tenantId now horizon resourceId, 1 ≤ period.capacityUsed := by
  intro period hperiod
  obtain ⟨hold, _, rfl⟩ := List.mem_map.mp hperiod
  exact le_refl 1

/-- A booking takes one unit. -/
theorem one_le_bookingPeriods (cfg : Catalogue) (db : Database) (tenantId : TenantId)
    (now horizon : Int) (resourceId : ResourceId) :
    ∀ period ∈ bookingPeriods cfg db tenantId now horizon resourceId, 1 ≤ period.capacityUsed := by
  intro period hperiod
  obtain ⟨booking, _, hjoined⟩ := List.mem_filterMap.mp hperiod
  obtain ⟨service, _, rfl⟩ := Option.map_eq_some_iff.mp hjoined
  exact le_refl 1

/-! ## Occupation of a resource at an instant -/

/-- An unexpired active hold on a resource that covers an instant. -/
def SlotHoldRow.HoldsAt (hold : SlotHoldRow) (clock : Int) (resourceId : ResourceId)
    (instant : Int) : Prop :=
  hold.resourceId = resourceId ∧ hold.Unexpired clock ∧ Covers hold.startAt hold.endAt instant

instance (hold : SlotHoldRow) (clock : Int) (resourceId : ResourceId) (instant : Int) :
    Decidable (hold.HoldsAt clock resourceId instant) :=
  inferInstanceAs (Decidable (_ ∧ _ ∧ _))

/-- A confirmed or reschedule-pending booking on a resource that covers an
instant when it is counted up to `upTo`. -/
def BookingRow.BooksAt (upTo : BookingRow → Int) (booking : BookingRow) (resourceId : ResourceId)
    (instant : Int) : Prop :=
  booking.resourceId = some resourceId ∧ booking.Occupies ∧
    Covers booking.startAt (upTo booking) instant

instance (upTo : BookingRow → Int) (booking : BookingRow) (resourceId : ResourceId)
    (instant : Int) : Decidable (booking.BooksAt upTo resourceId instant) :=
  inferInstanceAs (Decidable (_ ∧ _ ∧ _))

def heldAt (db : Database) (clock : Int) (resourceId : ResourceId) (instant : Int) : Nat :=
  db.slotHolds.countP fun hold => hold.HoldsAt clock resourceId instant

def bookedAt (upTo : BookingRow → Int) (db : Database) (resourceId : ResourceId)
    (instant : Int) : Nat :=
  db.bookings.countP fun booking => booking.BooksAt upTo resourceId instant

/-- The end of a booking's cleanup. -/
def BookingRow.occupiedUntil (cfg : Catalogue) (booking : BookingRow) : Int :=
  booking.endAt + ((cfg.service? booking.tenantId booking.serviceId).map (·.buffer)).getD 0

/-- The tenant and draft of a call that takes a hold. -/
def Call.createHoldOf : Call → Option (TenantId × BookingDraftId)
  | .customer tenantId _ (.createHold draftId _ _) => some (tenantId, draftId)
  | _ => none

/-- When a hold is taken, every booking whose appointment is over, on a resource
of the draft's service, is counted no further than the notice. -/
def TailsOver (upTo : BookingRow → Int) (cfg : Catalogue) (db : Database) (call : Call)
    (now : Int) : Prop :=
  ∀ target ∈ call.createHoldOf,
    ∀ draft ∈ db.bookingDrafts, draft.id = target.2 →
      ∀ policy ∈ cfg.policies, policy.tenantId = target.1 →
        ∀ booking ∈ db.bookings, booking.tenantId = target.1 → booking.Occupies →
          (∃ resource ∈ cfg.resources, booking.resourceId = some resource.id ∧
            cfg.Links target.1 draft.serviceId resource.id) →
          booking.endAt ≤ now → upTo booking ≤ now + minutes policy.minimumNoticeMinutes

instance (upTo : BookingRow → Int) (cfg : Catalogue) (db : Database) (call : Call) (now : Int) :
    Decidable (TailsOver upTo cfg db call now) :=
  inferInstanceAs (Decidable (∀ _ ∈ _, _))

/-- No resource is occupied beyond its capacity at any instant. -/
def WithinCapacity (upTo : BookingRow → Int) (cfg : Catalogue) (db : Database) (clock : Int) :
    Prop :=
  ∀ resource ∈ cfg.resources, ∀ instant,
    heldAt db clock resource.id instant + bookedAt upTo db resource.id instant ≤ resource.capacity

section Bound

variable {upTo : BookingRow → Int} {cfg : Catalogue} {env : Environment} {db db' : Database}
  {call : Call} {clock : Int}

/-- Time passing only frees capacity. -/
theorem heldAt_mono {later : Int} (hclock : clock ≤ later) (resourceId : ResourceId)
    (instant : Int) : heldAt db later resourceId instant ≤ heldAt db clock resourceId instant := by
  apply List.countP_mono_left
  intro hold _ hcounted
  obtain ⟨hresource, ⟨hactive, hunexpired⟩, hcovers⟩ := of_decide_eq_true hcounted
  exact decide_eq_true ⟨hresource, ⟨hactive, lt_of_le_of_lt hclock hunexpired⟩, hcovers⟩

theorem WithinCapacity.mono {later : Int} (h : WithinCapacity upTo cfg db clock)
    (hclock : clock ≤ later) : WithinCapacity upTo cfg db later := by
  intro resource hresource instant
  exact le_trans (Nat.add_le_add_right (heldAt_mono hclock _ _) _) (h resource hresource instant)

/-- Ending holds only frees capacity. -/
theorem heldAt_endHolds {selected : SlotHoldRow → Prop} [DecidablePred selected]
    {status : HoldStatus} (hstatus : status ≠ .active)
    (hholds : db'.slotHolds =
      Table.update selected (fun row => { row with status := status }) db.slotHolds)
    (resourceId : ResourceId) (instant : Int) :
    heldAt db' clock resourceId instant ≤ heldAt db clock resourceId instant := by
  unfold heldAt
  rw [hholds]
  apply Table.countP_update_le
  intro row _ _ hcounted
  exact absurd (of_decide_eq_true hcounted).2.1.1 hstatus

theorem WithinCapacity.endHolds (h : WithinCapacity upTo cfg db clock)
    {selected : SlotHoldRow → Prop} [DecidablePred selected] {status : HoldStatus}
    (hstatus : status ≠ .active)
    (hholds : db'.slotHolds =
      Table.update selected (fun row => { row with status := status }) db.slotHolds)
    (hbookings : db'.bookings = db.bookings) : WithinCapacity upTo cfg db' clock := by
  intro resource hresource instant
  have hheld : heldAt db' clock resource.id instant ≤ heldAt db clock resource.id instant :=
    heldAt_endHolds hstatus hholds resource.id instant
  have hbooked : bookedAt upTo db' resource.id instant = bookedAt upTo db resource.id instant := by
    rw [bookedAt, hbookings]
    rfl
  rw [hbooked]
  exact le_trans (Nat.add_le_add_right hheld _) (h resource hresource instant)

/-! ## Taking a hold -/

theorem overlaps_of_covers {period occupied : TimeRange} {instant : Int}
    (hperiod : Covers period.start period.stop instant)
    (hoccupied : Covers occupied.start occupied.stop instant) :
    overlaps period occupied = true := by
  obtain ⟨hstart, hstop⟩ := hperiod.overlap hoccupied
  simp only [overlaps, Bool.and_eq_true, decide_eq_true_eq]
  exact ⟨hstart, hstop⟩

/-- Resources of one id are one resource. -/
theorem resource_eq {first second : ResourceRow} (hfirst : first ∈ cfg.resources)
    (hsecond : second ∈ cfg.resources) (hid : first.id = second.id) : first = second :=
  Table.eq_of_key_eq cfg.resourcesUnique hfirst hsecond hid

/-- The snapshot shows every hold that covers an instant to come. -/
theorem heldAt_le_holdPeriods (hplaced : ∀ hold ∈ db.slotHolds, hold.Placed cfg clock)
    {row : ResourceRow} (hrow : row ∈ cfg.resources) {policy : BookingPolicyRow}
    (hpolicy : cfg.policy? row.tenantId = some policy) {occupied : TimeRange} {instant : Int}
    (hcovers : Covers occupied.start occupied.stop instant) (hlater : clock ≤ instant) :
    heldAt db clock row.id instant ≤
      ((holdPeriods db row.tenantId clock (horizonEnd policy clock) row.id).filter
        fun period => overlaps period.timeRange occupied).length := by
  unfold heldAt holdPeriods
  rw [← List.filterMap_eq_map]
  apply countP_le_length_filterMap_filter
  intro hold hhold hcounted
  obtain ⟨hresource, hunexpired, hholdCovers⟩ := of_decide_eq_true hcounted
  have hplace := hplaced hold hhold
  obtain ⟨stored, hstored, hstoredId, hstoredTenant⟩ := hplace.resource
  have hsame := resource_eq hstored hrow (hstoredId.trans hresource)
  have htenant : hold.tenantId = row.tenantId := by rw [← hstoredTenant, hsame]
  have hstart : hold.startAt < horizonEnd policy clock := by
    have hhorizon := hplace.horizon policy (htenant ▸ hpolicy)
    unfold horizonEnd
    unfold days at hhorizon ⊢
    omega
  refine ⟨decide_eq_true ⟨htenant, hresource, hunexpired, lt_of_le_of_lt hlater hholdCovers.2,
    hstart⟩, _, rfl, overlaps_of_covers hholdCovers hcovers⟩

/-- The snapshot shows every booking that covers an instant after the notice,
counted as far as its tail allows. -/
theorem bookedAt_le_bookingPeriods (hcoherent : Coherent db)
    (hplaced : ∀ hold ∈ db.slotHolds, hold.Placed cfg clock)
    (htimed : ∀ booking ∈ db.bookings, booking.Timed cfg)
    (hupTo : ∀ booking, upTo booking ≤ booking.occupiedUntil cfg)
    {row : ResourceRow} (hrow : row ∈ cfg.resources) {policy : BookingPolicyRow}
    (hpolicy : cfg.policy? row.tenantId = some policy)
    (htails : ∀ booking ∈ db.bookings, booking.tenantId = row.tenantId → booking.Occupies →
      booking.resourceId = some row.id → booking.endAt ≤ clock →
        upTo booking ≤ clock + minutes policy.minimumNoticeMinutes)
    {occupied : TimeRange} {instant : Int}
    (hcovers : Covers occupied.start occupied.stop instant)
    (hlater : clock + minutes policy.minimumNoticeMinutes ≤ instant) :
    bookedAt upTo db row.id instant ≤
      ((bookingPeriods cfg db row.tenantId clock (horizonEnd policy clock) row.id).filter
        fun period => overlaps period.timeRange occupied).length := by
  unfold bookedAt bookingPeriods
  apply countP_le_length_filterMap_filter
  intro booking hbooking hcounted
  obtain ⟨hresource, hoccupies, hbookingCovers⟩ := of_decide_eq_true hcounted
  obtain ⟨hold, hhold, _, hmade⟩ := hcoherent.holdOfBooking booking hbooking
  have hplace := hplaced hold hhold
  obtain ⟨stored, hstored, hstoredId, hstoredTenant⟩ := hplace.resource
  have hholdResource : hold.resourceId = row.id :=
    Option.some.inj (hmade.resourceId.symm.trans hresource)
  have hsame := resource_eq hstored hrow (hstoredId.trans hholdResource)
  have hholdTenant : hold.tenantId = row.tenantId := by rw [← hstoredTenant, hsame]
  have htenant : booking.tenantId = row.tenantId := hmade.tenantId.trans hholdTenant
  have hstart : booking.startAt < horizonEnd policy clock := by
    have hhorizon := hplace.horizon policy (hholdTenant ▸ hpolicy)
    rw [hmade.startAt]
    unfold horizonEnd
    unfold days at hhorizon ⊢
    omega
  have hend : clock < booking.endAt := by
    by_contra hover
    have htail := htails booking hbooking htenant hoccupies hresource (not_lt.mp hover)
    exact absurd hbookingCovers.2 (not_lt.mpr (le_trans htail hlater))
  obtain ⟨service, hservice, _⟩ := htimed booking hbooking
  have huntil : booking.occupiedUntil cfg = booking.endAt + service.buffer := by
    rw [BookingRow.occupiedUntil, hservice]
    rfl
  have hperiod : Covers (booking.busyPeriod service).timeRange.start
      (booking.busyPeriod service).timeRange.stop instant :=
    ⟨hbookingCovers.1, lt_of_lt_of_le hbookingCovers.2 (le_of_le_of_eq (hupTo booking) huntil)⟩
  exact ⟨decide_eq_true ⟨htenant, hresource, hoccupies, hend, hstart⟩, _,
    by rw [hservice]; rfl, overlaps_of_covers hperiod hcovers⟩

/-- Where a range is free, an instant of it is occupied below capacity. -/
theorem occupied_lt_of_free (hcoherent : Coherent db)
    (hplaced : ∀ hold ∈ db.slotHolds, hold.Placed cfg clock)
    (htimed : ∀ booking ∈ db.bookings, booking.Timed cfg)
    (hupTo : ∀ booking, upTo booking ≤ booking.occupiedUntil cfg)
    {row : ResourceRow} (hrow : row ∈ cfg.resources) {policy : BookingPolicyRow}
    (hpolicy : cfg.policy? row.tenantId = some policy)
    (htails : ∀ booking ∈ db.bookings, booking.tenantId = row.tenantId → booking.Occupies →
      booking.resourceId = some row.id → booking.endAt ≤ clock →
        upTo booking ≤ clock + minutes policy.minimumNoticeMinutes)
    {occupied : TimeRange}
    (hfree : usedCapacity (busyPeriods cfg db row.tenantId clock (horizonEnd policy clock) row)
      occupied < row.capacity)
    {instant : Int} (hcovers : Covers occupied.start occupied.stop instant)
    (hlater : clock + minutes policy.minimumNoticeMinutes ≤ instant) :
    heldAt db clock row.id instant + bookedAt upTo db row.id instant < row.capacity := by
  have hnow : clock ≤ instant := by
    unfold minutes at hlater
    omega
  have hheld := heldAt_le_holdPeriods hplaced hrow hpolicy hcovers hnow
  have hbooked := bookedAt_le_bookingPeriods hcoherent hplaced htimed hupTo hrow hpolicy htails
    hcovers hlater
  have hholdUse := length_le_usedCapacity
    (one_le_holdPeriods db row.tenantId clock (horizonEnd policy clock) row.id) occupied
  have hbookingUse := length_le_usedCapacity
    (one_le_bookingPeriods cfg db row.tenantId clock (horizonEnd policy clock) row.id) occupied
  rw [busyPeriods, usedCapacity_perm (List.perm_insertionSort _ _), usedCapacity_append,
    usedCapacity_append] at hfree
  omega

/-- A hold taken on a slot with capacity left keeps every instant within
capacity. -/
theorem WithinCapacity.takeHold (h : WithinCapacity upTo cfg db env.now) (hcoherent : Coherent db)
    (hplaced : ∀ hold ∈ db.slotHolds, hold.Placed cfg env.now)
    (htimed : ∀ booking ∈ db.bookings, booking.Timed cfg)
    (hupTo : ∀ booking, upTo booking ≤ booking.occupiedUntil cfg)
    {draft : BookingDraftRow} (hdraft : draft ∈ db.bookingDrafts) {slotIndex : Int} {key : Text}
    (htails : TailsOver upTo cfg db
      (.customer draft.tenantId draft.customerId (.createHold draft.id slotIndex key)) env.now)
    {service : ServiceRow} {policyRow : BookingPolicyRow} {policy : BookingPolicy}
    {selectedDate : Int} {slot : AvailableSlot} {row : ResourceRow}
    (hpolicyRow : cfg.policy? draft.tenantId = some policyRow)
    (htaken : SlotTaken cfg env.now db draft service policyRow selectedDate slot row) :
    WithinCapacity upTo cfg
      ((db.releaseHold draft).placeHold draft
        (BookingStore.newHold env draft (contextOf cfg db service policyRow policy env.now) slot
          key)) env.now := by
  intro resource hresource instant
  -- The draft's own hold is released first, so the new one takes its place.
  let released := db.closeHolds
    (fun held => held.tenantId = draft.tenantId ∧ draft.holdId = some held.id) .released
  let hold := BookingStore.newHold env draft (contextOf cfg db service policyRow policy env.now)
    slot key
  have hreleased : WithinCapacity upTo cfg released env.now := h.endHolds (by decide) rfl rfl
  have hcount : heldAt ((db.releaseHold draft).placeHold draft hold) env.now resource.id instant =
      heldAt released env.now resource.id instant +
        if decide (hold.HoldsAt env.now resource.id instant) = true then 1 else 0 := by
    show List.countP _ (released.slotHolds ++ [hold]) = _
    rw [List.countP_append, List.countP_singleton]
    rfl
  show heldAt ((db.releaseHold draft).placeHold draft hold) env.now resource.id instant +
    bookedAt upTo released resource.id instant ≤ resource.capacity
  rw [hcount]
  by_cases hcovered : hold.HoldsAt env.now resource.id instant
  · obtain ⟨hholdResource, _, hcovers⟩ := hcovered
    have hsame : resource = row :=
      resource_eq hresource htaken.stored (hholdResource.symm.trans htaken.resourceId)
    obtain ⟨hpolicyMem, hpolicyTenant⟩ := Table.of_find? hpolicyRow
    have hoccupied : heldAt released env.now row.id instant +
        bookedAt upTo released row.id instant < row.capacity := by
      refine occupied_lt_of_free
        (hcoherent.endHolds (fun _ _ hselected => hselected.2) (.inl rfl))
        (Table.forall_update hplaced fun _ hplace => { hplace with }) htimed hupTo htaken.stored
        (htaken.tenantId.symm ▸ hpolicyRow) ?_
        (htaken.tenantId.symm ▸ htaken.free hold.busyPeriod.timeRange rfl rfl) hcovers
        (le_trans htaken.notice hcovers.1)
      intro booking hbooking htenant hoccupies hbookingResource hover
      exact htails (draft.tenantId, draft.id) rfl draft hdraft rfl policyRow hpolicyMem
        hpolicyTenant booking hbooking (htenant.trans htaken.tenantId) hoccupies
        ⟨row, htaken.stored, hbookingResource, htaken.links⟩ hover
    rw [hsame]
    split <;> omega
  · rw [if_neg (by simp [hcovered])]
    exact hreleased resource hresource instant

/-! ## Confirming -/

/-- Consuming a hold takes it out of the count. -/
theorem heldAt_consume (hcoherent : Coherent db) {hold : SlotHoldRow} (hhold : hold ∈ db.slotHolds)
    (hholds : db'.slotHolds =
      Table.update (fun row => row.id = hold.id) (fun row => { row with status := .consumed })
        db.slotHolds)
    (resourceId : ResourceId) (instant : Int) :
    heldAt db' clock resourceId instant +
        (if decide (hold.HoldsAt clock resourceId instant) = true then 1 else 0) =
      heldAt db clock resourceId instant := by
  have hgone : ¬ SlotHoldRow.HoldsAt { hold with status := .consumed } clock resourceId instant := by
    rintro ⟨_, ⟨hactive, _⟩, _⟩
    cases hactive
  unfold heldAt
  rw [hholds]
  refine (Table.countP_update_one hcoherent.holdIds hhold _).trans ?_
  rw [if_neg (by simpa using hgone)]
  rfl

/-- A booking made of a hold covers no instant the hold did not. -/
theorem holdsAt_of_booksAt {booking : BookingRow} {hold : SlotHoldRow} {service : ServiceRow}
    (hplaced : hold.Placed cfg clock) (hunexpired : hold.Unexpired clock)
    (hupTo : upTo booking ≤ booking.occupiedUntil cfg)
    (hservice : cfg.service? hold.tenantId hold.serviceId = some service)
    (hbookingService : cfg.service? booking.tenantId booking.serviceId = some service)
    (hresource : booking.resourceId = some hold.resourceId)
    (hstart : booking.startAt = hold.startAt)
    (hend : booking.endAt = hold.startAt + service.duration)
    {resourceId : ResourceId} {instant : Int} (hbooks : booking.BooksAt upTo resourceId instant) :
    hold.HoldsAt clock resourceId instant := by
  obtain ⟨hbookingResource, _, hfrom, hto⟩ := hbooks
  obtain ⟨stored, hstored, hholdEnd⟩ := hplaced.service
  cases hservice.symm.trans hstored
  have huntil : booking.occupiedUntil cfg = hold.endAt := by
    rw [BookingRow.occupiedUntil, hbookingService, hend, hholdEnd]
    rfl
  exact ⟨Option.some.inj (hresource.symm.trans hbookingResource), hunexpired,
    hstart ▸ hfrom, lt_of_lt_of_le hto (huntil ▸ hupTo)⟩

/-- A booking that takes the place of its hold keeps every instant within
capacity. -/
theorem WithinCapacity.replaceHold (h : WithinCapacity upTo cfg db clock) (hcoherent : Coherent db)
    {hold : SlotHoldRow} (hhold : hold ∈ db.slotHolds)
    (hholds : db'.slotHolds =
      Table.update (fun row => row.id = hold.id) (fun row => { row with status := .consumed })
        db.slotHolds)
    (hbooked : ∀ resourceId instant, bookedAt upTo db' resourceId instant ≤
      bookedAt upTo db resourceId instant +
        if decide (hold.HoldsAt clock resourceId instant) = true then 1 else 0) :
    WithinCapacity upTo cfg db' clock := by
  intro resource hresource instant
  have hbound := h resource hresource instant
  have hconsumed : heldAt db' clock resource.id instant +
      (if decide (hold.HoldsAt clock resource.id instant) = true then 1 else 0) =
        heldAt db clock resource.id instant :=
    heldAt_consume hcoherent hhold hholds resource.id instant
  have hbooking := hbooked resource.id instant
  omega

/-! ## Every change -/

/-- Every change keeps every instant within capacity, if tails are over when a
hold is taken. -/
theorem Change.withinCapacity (hchange : Change cfg env db call db') (hcoherent : Coherent db)
    (hplaced : ∀ hold ∈ db.slotHolds, hold.Placed cfg env.now)
    (htimed : ∀ booking ∈ db.bookings, booking.Timed cfg)
    (hupTo : ∀ booking, upTo booking ≤ booking.occupiedUntil cfg)
    (htails : TailsOver upTo cfg db call env.now) (h : WithinCapacity upTo cfg db env.now) :
    WithinCapacity upTo cfg db' env.now := by
  cases hchange with
  | startDraft => exact h.endHolds (by decide) rfl rfl
  | getActiveDraft => exact h.endHolds (by decide) rfl rfl
  | selectDate => exact h
  | createHold hdraft hstatus hdate hservice hpolicyRow hpolicy hslots hslot =>
      obtain ⟨row, htaken⟩ := slotTaken_of_mem hservice hpolicy hslots hslot
      exact h.takeHold hcoherent hplaced htimed hupTo hdraft htails hpolicyRow htaken
  | updateContact => exact h
  | getHold => exact h.endHolds (by decide) rfl rfl
  | cancelDraft => exact h.endHolds (by decide) rfl rfl
  | @book draft hold service key hdraft hstatus hreschedule hhold hholdId hholdTenant hunexpired
      hservice =>
      refine h.replaceHold hcoherent hhold rfl ?_
      intro resourceId instant
      show List.countP _ (db.bookings ++ [newBooking env.newId draft hold service key]) ≤ _
      rw [List.countP_append, List.countP_singleton]
      apply Nat.add_le_add_left
      split
      · rename_i hbooks
        have hbookingService : cfg.service? draft.tenantId service.id = some service := by
          rw [Coherent.service_id hservice, ← hholdTenant]
          exact hservice
        have hholds := holdsAt_of_booksAt (hplaced hold hhold) hunexpired (hupTo _) hservice
          hbookingService rfl rfl rfl (of_decide_eq_true hbooks)
        rw [if_pos (decide_eq_true hholds)]
      · exact Nat.zero_le _
  | @move draft hold service booking key hdraft hstatus hhold hholdId hholdTenant hunexpired
      hservice hbooking hreschedule htenant =>
      refine h.replaceHold hcoherent hhold rfl ?_
      intro resourceId instant
      refine le_trans (Nat.le_add_right _ _)
        (le_trans (le_of_eq (Table.countP_update_one hcoherent.bookingIds hbooking _)) ?_)
      apply Nat.add_le_add_left
      split
      · rename_i hbooks
        have htaken := hcoherent.takenOn_of_holdId hhold hdraft hholdId
        have hbookingService : cfg.service? (booking.movedTo hold service).tenantId
            (booking.movedTo hold service).serviceId = some service := by
          show cfg.service? booking.tenantId booking.serviceId = some service
          rw [htenant, hcoherent.rescheduled_service hdraft hbooking hreschedule,
            ← htaken.tenantId, ← htaken.serviceId]
          exact hservice
        have hholds := holdsAt_of_booksAt (hplaced hold hhold) hunexpired (hupTo _) hservice
          hbookingService rfl rfl rfl (of_decide_eq_true hbooks)
        rw [if_pos (decide_eq_true hholds)]
      · exact Nat.zero_le _
  | cancelBooking hbooking hconfirmed =>
      intro resource hresource instant
      refine le_trans (Nat.add_le_add_left ?_ _) (h resource hresource instant)
      apply Table.countP_update_le
      intro row _ _ hcounted
      obtain ⟨_, hoccupies, _⟩ := of_decide_eq_true hcounted
      rcases hoccupies with hcancelled | hcancelled <;> cases hcancelled
  | expireHolds => exact h.endHolds (by decide) rfl rfl

end Bound

/-- In a run that takes holds only when tails are over, no resource is ever
occupied beyond its capacity. -/
theorem withinCapacity_of_reachable {upTo : BookingRow → Int} {cfg : Catalogue}
    (hupTo : ∀ booking, upTo booking ≤ booking.occupiedUntil cfg) {s : State}
    (hs : ((bookingSystem cfg).restrict fun s invocation =>
      TailsOver upTo cfg s.db invocation.call invocation.env.now).Reachable s) :
    WithinCapacity upTo cfg s.db s.clock := by
  apply hs.invariant (I := fun s => WithinCapacity upTo cfg s.db s.clock)
  · rintro s ⟨_, hholds, hbookings, _⟩ resource _ instant
    rw [heldAt, bookedAt, hholds, hbookings]
    exact Nat.zero_le _
  · rintro s invocation _ hreachable hwithin ⟨htails, hclock, rfl⟩
    have hbefore := hreachable.of_restrict
    have hlater := hwithin.mono hclock
    rcases invocation.execute_change cfg s.db with hsame | hchange
    · show WithinCapacity upTo cfg (invocation.execute cfg s.db).2 invocation.env.now
      rw [hsame]
      exact hlater
    · exact hchange.withinCapacity (coherent_of_reachable hbefore)
        (fun hold hhold => (placed_of_reachable hbefore hold hhold).mono hclock)
        (timed_of_reachable hbefore) hupTo htails hlater

/-- In a run in which every hold is taken when no cleanup of a finished
appointment runs past the notice, the unexpired holds and the bookings with their
cleanup never exceed a resource's capacity. -/
theorem no_double_booking (cfg : Catalogue) (s : State)
    (hs : ((bookingSystem cfg).restrict fun s invocation =>
      TailsOver (BookingRow.occupiedUntil cfg) cfg s.db invocation.call
        invocation.env.now).Reachable s) :
    ∀ resource ∈ cfg.resources, ∀ instant,
      heldAt s.db s.clock resource.id instant +
        bookedAt (BookingRow.occupiedUntil cfg) s.db resource.id instant ≤ resource.capacity :=
  withinCapacity_of_reachable (fun _ => le_refl _) hs

/-- One customer books and another holds the first slot after the cleanup. -/
theorem no_double_booking_in_shop :
    let cfg := Shop.catalogue 60 0
    let s := Shop.opened.after cfg
      (Shop.takesFirstSlot 0 1000 none 0 (Shop.time 0 8 0) ++
        (Shop.takesFirstSlot 1 2000 none 0 (Shop.time 0 8 1)).take 3)
    (bookedAt (BookingRow.occupiedUntil cfg) s.db Shop.resourceId (Shop.time 0 10 29) = 1 ∧
        heldAt s.db s.clock Shop.resourceId (Shop.time 0 10 30) = 1) ∧
      ∀ resource ∈ cfg.resources, ∀ instant,
        heldAt s.db s.clock resource.id instant +
          bookedAt (BookingRow.occupiedUntil cfg) s.db resource.id instant ≤ resource.capacity :=
  ⟨by decide +kernel,
    no_double_booking _ _ (reachable_after_of_follows Shop.opened_fresh (by decide +kernel))⟩

/-- While a booking's cleanup runs, its appointment is over and the snapshot no
longer shows it: the next customer is given a slot inside the cleanup. -/
theorem cleanup_double_booked :
    ¬ ∀ (cfg : Catalogue) (s : State), (bookingSystem cfg).Reachable s →
      ∀ resource ∈ cfg.resources, ∀ instant, s.clock ≤ instant →
        heldAt s.db s.clock resource.id instant +
          bookedAt (BookingRow.occupiedUntil cfg) s.db resource.id instant ≤ resource.capacity := by
  intro hall
  -- Booked from 9:00 to 9:30 with an hour of cleanup; at 9:35 the slot at 10:00 is offered.
  have hreached : (bookingSystem (Shop.catalogue 60 0)).Reachable
      (Shop.opened.after (Shop.catalogue 60 0)
        (Shop.takesFirstSlot 0 1000 none 0 (Shop.time 0 8 0) ++
          (Shop.takesFirstSlot 1 2000 none 0 (Shop.time 0 9 35)).take 3)) :=
    reachable_after Shop.opened_fresh (by decide +kernel)
  have hbound := hall _ _ hreached _ List.mem_cons_self (Shop.time 0 10 0) (by decide +kernel)
  revert hbound
  decide +kernel

end BusinessAssistant.Persistence
