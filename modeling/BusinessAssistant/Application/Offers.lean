/-
# What an offered slot satisfies

Every slot `calculateAvailability` returns comes from one turn of its innermost
loop, so it carries what that turn has checked: a resource of the context with
capacity left, the notice and the horizon, and a start whose reading in the
resource's zone falls on the requested date.
-/

import BusinessAssistant.Application.BookingEngine
import BusinessAssistant.Foundation.Folds

namespace BusinessAssistant.Application

open BusinessAssistant.Domain BusinessAssistant.Foundation.Folds

/-- What the engine guarantees of a slot. -/
structure Offered (context : AvailabilityContext) (localDate now : Int) (slot : AvailableSlot) :
    Prop where
  resource : ∃ resource ∈ context.resources, slot.resourceId = resource.id ∧
    slot.timezone = resource.schedule.timezone ∧
      hasCapacity resource (context.occupied slot.startAt) = true
  endAt : slot.endAt = slot.startAt + context.duration
  notice : now + context.policy.minimumNotice ≤ slot.startAt
  horizon : slot.startAt ≤ now + context.policy.bookingHorizon
  date : Wall.date (slot.timezone.astimezone slot.startAt).naive = localDate

/-- Every slot of a list is offered. -/
def AllOffered (context : AvailabilityContext) (localDate now : Int) (slots : List AvailableSlot) :
    Prop :=
  ∀ slot ∈ slots, Offered context localDate now slot

/-! ## Readings the loop visits -/

/-- The loop visits readings from its start up to the closing time. -/
theorem mem_cursors {interval closing : Int} (hinterval : 0 < interval) {fuel : Nat}
    {start cursor : Int} (hcursor : cursor ∈ cursors interval closing fuel start) :
    start ≤ cursor ∧ cursor < closing := by
  induction fuel generalizing start with
  | zero => cases hcursor
  | succ fuel ih =>
      rw [cursors] at hcursor
      split at hcursor
      · rename_i hstart
        rcases List.mem_cons.mp hcursor with rfl | hrest
        · exact ⟨le_refl _, hstart⟩
        · obtain ⟨hfrom, hto⟩ := ih hrest
          exact ⟨le_trans (Int.le_of_lt (Int.lt_add_of_pos_right _ hinterval)) hfrom, hto⟩
      · cases hcursor

/-- Alignment only moves the start later. -/
theorem le_alignedStart (localDate : Int) (opening : TimeOfDay) {intervalSeconds : Int}
    (hpositive : 0 < intervalSeconds) :
    Wall.combine localDate opening ≤ alignedStart localDate opening intervalSeconds := by
  have hremainder := Int.emod_lt_of_pos (opening.val / 1000000 : Int) hpositive
  unfold alignedStart seconds
  simp only
  split
  · omega
  · exact le_refl _

/-- A reading between an opening and a closing of a date is on that date. -/
theorem date_of_between {localDate cursor : Int} {opening closing : TimeOfDay}
    (hfrom : Wall.combine localDate opening ≤ cursor)
    (hto : cursor < Wall.combine localDate closing) : Wall.date cursor = localDate := by
  have := closing.isLt
  rw [Wall.date_eq_iff]
  unfold Wall.combine at hfrom hto
  omega

/-! ## The loops -/

section Loops

variable {context : AvailabilityContext} {localDate now : Int}

/-- The turn of the innermost loop that adds a slot: an interval of the day of an
active resource, a reading in it, and a start the reading denotes, all tests
passed. -/
structure Turn (context : AvailabilityContext) (localDate now : Int)
    (resource : AvailableResource) (interval : TimeOfDay × TimeOfDay) (cursor start : Int) :
    Prop where
  listed : resource ∈ context.resources
  day : ∃ day, effectiveDay resource.schedule localDate = .ok day ∧ interval ∈ day.intervals
  opened : Wall.combine localDate interval.1 ≤ cursor
  notClosed : cursor < Wall.combine localDate interval.2
  candidate : start ∈ ZoneInfo.localCandidates cursor resource.schedule.timezone
  fits : fitsInterval context resource localDate (Wall.combine localDate interval.2) now start = true
  free : hasCapacity resource (context.occupied start) = true

/-- Some turn adds the slot. -/
def FromTurn (context : AvailabilityContext) (localDate now : Int) (slot : AvailableSlot) : Prop :=
  ∃ resource interval cursor start, Turn context localDate now resource interval cursor start ∧
    slot = context.slot resource localDate start cursor

/-- Every slot of a list comes from a turn. -/
def AllFromTurns (context : AvailabilityContext) (localDate now : Int)
    (slots : List AvailableSlot) : Prop :=
  ∀ slot ∈ slots, FromTurn context localDate now slot

theorem fromTurns_offerStart {resource : AvailableResource}
    (hresource : resource ∈ context.resources) {interval : TimeOfDay × TimeOfDay}
    (hday : ∃ day, effectiveDay resource.schedule localDate = .ok day ∧ interval ∈ day.intervals)
    {cursor start : Int} (hopened : Wall.combine localDate interval.1 ≤ cursor)
    (hnotClosed : cursor < Wall.combine localDate interval.2)
    (hstart : start ∈ ZoneInfo.localCandidates cursor resource.schedule.timezone)
    {candidates : List AvailableSlot}
    (hcandidates : AllFromTurns context localDate now candidates) :
    AllFromTurns context localDate now
      (offerStart context resource localDate (Wall.combine localDate interval.2) now cursor
        candidates start) := by
  intro slot hslot
  unfold offerStart at hslot
  split at hslot
  · exact hcandidates slot hslot
  rename_i hfits
  split at hslot
  · exact hcandidates slot hslot
  rename_i hoffered
  rcases List.mem_append.mp hslot with hslot | hslot
  · exact hcandidates slot hslot
  have hcapacity : hasCapacity resource (context.occupied start) = true := by
    cases hcase : hasCapacity resource (context.occupied start) with
    | true => rfl
    | false => simp [hcase] at hoffered
  refine ⟨resource, interval, cursor, start, ?_, List.mem_singleton.mp hslot⟩
  exact
    { listed := hresource
      day := hday
      opened := hopened
      notClosed := hnotClosed
      candidate := hstart
      fits := eq_true_of_ne_false hfits
      free := hcapacity }

theorem fromTurns_scanInterval {resource : AvailableResource}
    (hresource : resource ∈ context.resources) {interval : TimeOfDay × TimeOfDay}
    (hday : ∃ day, effectiveDay resource.schedule localDate = .ok day ∧ interval ∈ day.intervals)
    {candidates found : List AvailableSlot}
    (hcandidates : AllFromTurns context localDate now candidates)
    (hscan : scanInterval context resource localDate now candidates interval = .ok found) :
    AllFromTurns context localDate now found := by
  unfold scanInterval at hscan
  simp only at hscan
  split at hscan
  · cases hscan
  rename_i hnonzero
  cases hscan
  have hstep := context.policy.slotIntervalPositive
  have hseconds : 0 < context.policy.slotInterval / 1000000 := by omega
  refine List.foldlRecOn (motive := AllFromTurns context localDate now) _ _ hcandidates ?_
  intro earlier hearlier cursor hcursor
  obtain ⟨hfrom, hto⟩ := mem_cursors hstep hcursor
  have hopened := le_trans (le_alignedStart localDate interval.1 hseconds) hfrom
  refine List.foldlRecOn (motive := AllFromTurns context localDate now) _ _ hearlier ?_
  intro before hbefore start hstart
  exact fromTurns_offerStart hresource hday hopened hto hstart hbefore

theorem fromTurns_scanResource {resource : AvailableResource}
    (hresource : resource ∈ context.resources) {candidates found : List AvailableSlot}
    (hcandidates : AllFromTurns context localDate now candidates)
    (hscan : scanResource context localDate now candidates resource = .ok found) :
    AllFromTurns context localDate now found := by
  unfold scanResource at hscan
  split at hscan
  · cases hscan
    exact hcandidates
  cases hday : effectiveDay resource.schedule localDate with
  | error failure =>
      rw [hday] at hscan
      cases hscan
  | ok day =>
      rw [hday] at hscan
      refine foldlM_keeps (P := AllFromTurns context localDate now) day.intervals ?_ hcandidates
        hscan
      intro earlier interval next hinterval hearlier hscanned
      exact fromTurns_scanInterval hresource ⟨day, hday, hinterval⟩ hearlier hscanned

/-- Every slot of the list comes from a turn. -/
theorem fromTurns_of_mem {slots : List AvailableSlot}
    (hslots : calculateAvailability context localDate now = .ok slots) :
    AllFromTurns context localDate now slots := by
  unfold calculateAvailability at hslots
  split at hslots
  · cases hslots
    intro slot hslot
    cases hslot
  cases hfold : (context.resources.insertionSort byResourceId).foldlM
      (scanResource context localDate now) [] with
  | error failure =>
      rw [hfold] at hslots
      cases hslots
  | ok candidates =>
      rw [hfold] at hslots
      cases hslots
      intro slot hslot
      rw [List.mem_insertionSort] at hslot
      have hempty : AllFromTurns context localDate now [] := by
        intro slot hslot
        cases hslot
      refine foldlM_keeps (P := AllFromTurns context localDate now) _ ?_ hempty hfold slot hslot
      intro earlier resource next hresource hearlier hscan
      rw [List.mem_insertionSort] at hresource
      exact fromTurns_scanResource hresource hearlier hscan

/-- Every slot of the list is offered. -/
theorem offered_of_mem {slots : List AvailableSlot}
    (hslots : calculateAvailability context localDate now = .ok slots) :
    AllOffered context localDate now slots := by
  intro slot hslot
  obtain ⟨resource, interval, cursor, start, hturn, rfl⟩ := fromTurns_of_mem hslots slot hslot
  have hfits := hturn.fits
  simp only [fitsInterval, Bool.and_eq_true, decide_eq_true_eq] at hfits
  exact
    { resource := ⟨resource, hturn.listed, rfl, rfl, hturn.free⟩
      endAt := rfl
      notice := hfits.1.1.1
      horizon := hfits.1.1.2
      date := (congrArg Wall.date (ZoneInfo.astimezone_of_mem_localCandidates hturn.candidate)).trans
        (date_of_between hturn.opened hturn.notClosed) }

end Loops

end BusinessAssistant.Application
