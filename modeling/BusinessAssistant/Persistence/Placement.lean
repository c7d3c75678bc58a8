/-
# Where holds and bookings are placed

A hold is taken on a slot the engine offered, on a resource of the draft's
service, and lasts for the service's duration and buffer. Its place never
changes afterwards, only its status; a booking is placed where its hold is.
-/

import BusinessAssistant.Application.Offers
import BusinessAssistant.Persistence.Coherence

namespace BusinessAssistant.Persistence

open BusinessAssistant.Domain BusinessAssistant.Application BusinessAssistant.Foundation

variable {cfg : Catalogue} {env : Environment} {db db' : Database} {call : Call}

/-! ## The slot a hold is taken on -/

theorem bookingPolicy_ok {row : BookingPolicyRow} {policy : BookingPolicy}
    (hpolicy : bookingPolicy row = .ok policy) :
    policy.minimumNotice = minutes row.minimumNoticeMinutes ∧
      policy.bookingHorizon = days row.bookingHorizonDays ∧
      policy.holdDuration = minutes row.holdDurationMinutes := by
  unfold bookingPolicy at hpolicy
  split at hpolicy
  · cases hpolicy
    exact ⟨rfl, rfl, rfl⟩
  · cases hpolicy

/-- A resource of a context is a stored resource of the service's tenant. -/
theorem mem_contextOf_resources {service : ServiceRow} {policyRow : BookingPolicyRow}
    {policy : BookingPolicy} {now : Int} {resource : AvailableResource}
    (hresource : resource ∈ (contextOf cfg db service policyRow policy now).resources) :
    ∃ row ∈ cfg.resources, row.tenantId = service.tenantId ∧
      cfg.Links service.tenantId service.id row.id ∧ resource.id = row.id ∧
      resource.capacity = row.capacity ∧
      cfg.schedule? service.tenantId row.scheduleId = some resource.schedule ∧
      resource.busyPeriods =
        busyPeriods cfg db service.tenantId now (horizonEnd policyRow now) row := by
  obtain ⟨row, hrow, havailable⟩ := List.mem_filterMap.mp hresource
  rw [Catalogue.resourceRows, List.mem_insertionSort, List.mem_filter] at hrow
  obtain ⟨hstored, hlinked⟩ := hrow
  obtain ⟨htenant, hlinks⟩ := of_decide_eq_true hlinked
  obtain ⟨schedule, hschedule, rfl⟩ := Option.map_eq_some_iff.mp havailable
  exact ⟨row, hstored, htenant, hlinks, rfl, rfl, hschedule, rfl⟩

/-- What `create_hold` knows of the slot it takes: `row` is the resource. -/
structure SlotTaken (cfg : Catalogue) (now : Int) (db : Database) (draft : BookingDraftRow)
    (service : ServiceRow) (policyRow : BookingPolicyRow) (selectedDate : Int)
    (slot : AvailableSlot) (row : ResourceRow) : Prop where
  stored : row ∈ cfg.resources
  tenantId : row.tenantId = draft.tenantId
  links : cfg.Links draft.tenantId draft.serviceId row.id
  resourceId : slot.resourceId = row.id
  schedule : ∃ schedule, cfg.schedule? draft.tenantId row.scheduleId = some schedule ∧
    slot.timezone = schedule.timezone
  endAt : slot.endAt = slot.startAt + service.duration
  notice : now + minutes policyRow.minimumNoticeMinutes ≤ slot.startAt
  horizon : slot.startAt ≤ now + days policyRow.bookingHorizonDays
  date : Wall.date (slot.timezone.astimezone slot.startAt).naive = selectedDate
  free : ∀ occupied : TimeRange, occupied.start = slot.startAt →
    occupied.stop = slot.endAt + service.buffer →
      usedCapacity
        (busyPeriods cfg (db.releaseHold draft) draft.tenantId now (horizonEnd policyRow now) row)
        occupied < row.capacity

theorem slotTaken_of_mem {now : Int} {draft : BookingDraftRow} {service : ServiceRow}
    {policyRow : BookingPolicyRow} {policy : BookingPolicy} {selectedDate : Int}
    {slots : List AvailableSlot} {slot : AvailableSlot}
    (hservice : cfg.service? draft.tenantId draft.serviceId = some service)
    (hpolicy : bookingPolicy policyRow = .ok policy)
    (hslots : calculateAvailability
      (contextOf cfg (db.releaseHold draft) service policyRow policy now) selectedDate now =
        .ok slots)
    (hslot : slot ∈ slots) :
    ∃ row, SlotTaken cfg now db draft service policyRow selectedDate slot row := by
  have hoffered := offered_of_mem hslots slot hslot
  obtain ⟨_, htenant, hid⟩ := Table.of_find? hservice
  obtain ⟨hnotice, hhorizon, _⟩ := bookingPolicy_ok hpolicy
  obtain ⟨resource, hresource, hresourceId, htimezone, hcapacity⟩ := hoffered.resource
  obtain ⟨row, hstored, hrowTenant, hlinks, hrowId, hrowCapacity, hschedule, hbusy⟩ :=
    mem_contextOf_resources hresource
  rw [htenant] at hrowTenant hlinks hschedule hbusy
  rw [hid] at hlinks
  refine ⟨row, ?_⟩
  exact
    { stored := hstored
      tenantId := hrowTenant
      links := hlinks
      resourceId := hresourceId.trans hrowId
      schedule := ⟨resource.schedule, hschedule, htimezone⟩
      endAt := hoffered.endAt
      notice := hnotice ▸ hoffered.notice
      horizon := hhorizon ▸ hoffered.horizon
      date := hoffered.date
      free := by
        intro occupied hstart hstop
        have hsame : occupied =
            (contextOf cfg (db.releaseHold draft) service policyRow policy now).occupied
              slot.startAt := by
          cases occupied
          simp only [AvailabilityContext.occupied, TimeRange.mk.injEq]
          exact ⟨hstart, hstop.trans (congrArg (· + service.buffer) hoffered.endAt)⟩
        rw [hasCapacity, Bool.and_eq_true, decide_eq_true_eq, hbusy, hrowCapacity] at hcapacity
        rw [hsame]
        exact hcapacity.2 }

/-! ## Holds stay where they were placed -/

/-- A hold on a stored resource of its tenant, for the time its service takes,
and no further ahead than the booking horizon. -/
structure SlotHoldRow.Placed (cfg : Catalogue) (clock : Int) (hold : SlotHoldRow) : Prop where
  resource : ∃ row ∈ cfg.resources, row.id = hold.resourceId ∧ row.tenantId = hold.tenantId
  service : ∃ service, cfg.service? hold.tenantId hold.serviceId = some service ∧
    hold.endAt = hold.startAt + service.duration + service.buffer
  horizon : ∀ policy, cfg.policy? hold.tenantId = some policy →
    hold.startAt ≤ clock + days policy.bookingHorizonDays

theorem SlotHoldRow.Placed.mono {hold : SlotHoldRow} {clock later : Int}
    (h : hold.Placed cfg clock) (hclock : clock ≤ later) : hold.Placed cfg later where
  __ := h
  horizon := by
    intro policy hpolicy
    exact le_trans (h.horizon policy hpolicy) (Int.add_le_add_right hclock _)

/-- The hold `create_hold` inserts is placed. -/
theorem placed_newHold {draft : BookingDraftRow} {service : ServiceRow}
    {policyRow : BookingPolicyRow} {policy : BookingPolicy} {selectedDate : Int}
    {slot : AvailableSlot} {row : ResourceRow} {key : Text}
    (hservice : cfg.service? draft.tenantId draft.serviceId = some service)
    (hpolicyRow : cfg.policy? draft.tenantId = some policyRow)
    (htaken : SlotTaken cfg env.now db draft service policyRow selectedDate slot row) :
    (BookingStore.newHold env draft (contextOf cfg db service policyRow policy env.now) slot
      key).Placed cfg env.now where
  resource := ⟨row, htaken.stored, htaken.resourceId.symm, htaken.tenantId⟩
  service := ⟨service, hservice, congrArg (· + service.buffer) htaken.endAt⟩
  horizon := by
    intro other hother
    cases hpolicyRow.symm.trans hother
    exact htaken.horizon

theorem Change.placed (hchange : Change cfg env db call db')
    (h : ∀ hold ∈ db.slotHolds, hold.Placed cfg env.now) :
    ∀ hold ∈ db'.slotHolds, hold.Placed cfg env.now := by
  cases hchange with
  | startDraft => exact Table.forall_update h fun _ hplaced => { hplaced with }
  | getActiveDraft => exact Table.forall_update h fun _ hplaced => { hplaced with }
  | selectDate => exact h
  | createHold hdraft hstatus hdate hservice hpolicyRow hpolicy hslots hslot =>
      obtain ⟨row, htaken⟩ := slotTaken_of_mem hservice hpolicy hslots hslot
      exact Table.forall_append_row (Table.forall_update h fun _ hplaced => { hplaced with })
        (placed_newHold hservice hpolicyRow htaken)
  | updateContact => exact h
  | getHold => exact Table.forall_update h fun _ hplaced => { hplaced with }
  | cancelDraft => exact Table.forall_update h fun _ hplaced => { hplaced with }
  | book => exact Table.forall_update h fun _ hplaced => { hplaced with }
  | move => exact Table.forall_update h fun _ hplaced => { hplaced with }
  | cancelBooking => exact h
  | expireHolds => exact Table.forall_update h fun _ hplaced => { hplaced with }

/-- Every hold of a reachable state is placed. -/
theorem placed_of_reachable {s : State} (hs : (bookingSystem cfg).Reachable s) :
    ∀ hold ∈ s.db.slotHolds, hold.Placed cfg s.clock := by
  apply hs.invariant (I := fun s => ∀ hold ∈ s.db.slotHolds, hold.Placed cfg s.clock)
  · rintro s ⟨_, hholds, _⟩ hold hhold
    rw [hholds] at hhold
    cases hhold
  · rintro s invocation _ _ hplaced ⟨hclock, rfl⟩
    have hlater : ∀ hold ∈ s.db.slotHolds, hold.Placed cfg invocation.env.now :=
      fun hold hhold => (hplaced hold hhold).mono hclock
    rcases invocation.execute_change cfg s.db with hsame | hchange
    · show ∀ hold ∈ (invocation.execute cfg s.db).2.slotHolds, hold.Placed cfg invocation.env.now
      rw [hsame]
      exact hlater
    · exact hchange.placed hlater

/-! ## Bookings last as long as their service -/

/-- A booking lasts for the duration of its service. -/
def BookingRow.Timed (cfg : Catalogue) (booking : BookingRow) : Prop :=
  ∃ service, cfg.service? booking.tenantId booking.serviceId = some service ∧
    booking.endAt = booking.startAt + service.duration

theorem Change.timed (hcoherent : Coherent db) (hchange : Change cfg env db call db')
    (h : ∀ booking ∈ db.bookings, booking.Timed cfg) : ∀ booking ∈ db'.bookings, booking.Timed cfg := by
  cases hchange with
  | startDraft => exact h
  | getActiveDraft => exact h
  | selectDate => exact h
  | createHold => exact h
  | updateContact => exact h
  | getHold => exact h
  | cancelDraft => exact h
  | expireHolds => exact h
  | cancelBooking => exact Table.forall_update h fun _ htimed => htimed
  | @book draft hold service key hdraft _ _ hhold hholdId hholdTenant _ hservice =>
      refine Table.forall_append_row h ⟨service, ?_, rfl⟩
      show cfg.service? draft.tenantId service.id = some service
      rw [Coherent.service_id hservice, ← hholdTenant]
      exact hservice
  | @move draft hold service booking key hdraft _ hhold hholdId _ _ hservice hbooking hreschedule
      htenant =>
      intro row hrow
      rcases Table.mem_update.mp hrow with ⟨old, hold', hselected, rfl⟩ | ⟨hrowOld, _⟩
      · cases hcoherent.booking_eq hold' hbooking hselected
        have htaken := hcoherent.takenOn_of_holdId hhold hdraft hholdId
        refine ⟨service, ?_, rfl⟩
        show cfg.service? booking.tenantId booking.serviceId = some service
        rw [htenant, hcoherent.rescheduled_service hdraft hbooking hreschedule,
          ← htaken.tenantId, ← htaken.serviceId]
        exact hservice
      · exact h row hrowOld

/-- Every booking of a reachable state lasts as long as its service. -/
theorem timed_of_reachable {s : State} (hs : (bookingSystem cfg).Reachable s) :
    ∀ booking ∈ s.db.bookings, booking.Timed cfg := by
  refine database_invariant (I := fun db => ∀ booking ∈ db.bookings, booking.Timed cfg) ?_ ?_ hs
  · rintro db ⟨_, _, hbookings, _⟩ booking hbooking
    rw [hbookings] at hbooking
    cases hbooking
  · intro env db call db' hcoherent h hchange
    exact hchange.timed hcoherent h

end BusinessAssistant.Persistence
