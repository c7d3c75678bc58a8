/-
# Appointments and opening hours

The engine compares the readings of an appointment's start and end with an
opening interval. While the clock is not put back, every instant between reads
between the two; where it is put back, the readings between may leave the
interval, and each stretch of the appointment has to be looked at.
-/

import BusinessAssistant.Application.AvailabilitySpec
import BusinessAssistant.Foundation.Clock

namespace BusinessAssistant.Application

open BusinessAssistant.Domain BusinessAssistant.Foundation.Clock

/-- The wall-clock reading of an instant in a schedule's zone. -/
def readingIn (schedule : BusinessSchedule) (instant : Int) : Int :=
  (schedule.timezone.astimezone instant).naive

/-- An effective interval of some date, as a range of readings. -/
def OpeningSpan (schedule : BusinessSchedule) (opening closing : Int) : Prop :=
  ∃ localDate day, effectiveDay schedule localDate = .ok day ∧ ∃ interval ∈ day.intervals,
    opening = Wall.combine localDate interval.1 ∧ closing = Wall.combine localDate interval.2

/-- A reading is in an interval of times just when its time of day is. -/
theorem timeOfDay_between {reading localDate : Int} (hdate : Wall.date reading = localDate)
    (interval : TimeOfDay × TimeOfDay) :
    (interval.1.val ≤ Wall.timeOfDay reading ∧ Wall.timeOfDay reading < interval.2.val) ↔
      Wall.combine localDate interval.1 ≤ reading ∧
        reading < Wall.combine localDate interval.2 := by
  unfold Wall.date at hdate
  unfold Wall.timeOfDay Wall.combine
  omega

/-- The schedule is open at an instant whose reading lies in an opening span. -/
theorem isOpen_iff {schedule : BusinessSchedule} {instant : Int} :
    isOpen schedule instant = .ok true ↔
      ∃ opening closing, OpeningSpan schedule opening closing ∧
        opening ≤ readingIn schedule instant ∧ readingIn schedule instant < closing := by
  unfold isOpen readingIn
  constructor
  · intro hopen
    cases hday : effectiveDay schedule
        (Wall.date (schedule.timezone.astimezone instant).naive) with
    | error failure =>
        simp only [hday] at hopen
        cases hopen
    | ok day =>
        simp only [hday] at hopen
        have hany := Except.ok.inj hopen
        obtain ⟨interval, hinterval, hbetween⟩ := List.any_eq_true.mp hany
        rw [Bool.and_eq_true, decide_eq_true_eq, decide_eq_true_eq] at hbetween
        obtain ⟨hfrom, hto⟩ := (timeOfDay_between rfl interval).mp hbetween
        exact ⟨_, _, ⟨_, day, hday, interval, hinterval, rfl, rfl⟩, hfrom, hto⟩
  · rintro ⟨_, _, ⟨localDate, day, hday, interval, hinterval, rfl, rfl⟩, hfrom, hto⟩
    have hdate := date_of_between hfrom hto
    simp only [hdate, hday]
    apply congrArg Except.ok
    apply List.any_eq_true.mpr
    refine ⟨interval, hinterval, ?_⟩
    rw [Bool.and_eq_true, decide_eq_true_eq, decide_eq_true_eq]
    exact (timeOfDay_between hdate interval).mpr ⟨hfrom, hto⟩

/-- The schedule is open at every instant of a range. -/
def OpenThroughout (schedule : BusinessSchedule) (start stop : Int) : Prop :=
  ∀ instant, start ≤ instant → instant < stop → isOpen schedule instant = .ok true

/-- Every stretch of a range reads, from its first reading to its last, within
adjoining opening spans. -/
def StretchesOpen (schedule : BusinessSchedule) (start stop : Int) : Prop :=
  ∀ first last, Stretch (readingIn schedule) start stop first last →
    Joined (OpeningSpan schedule) (readingIn schedule first)
      (readingIn schedule first + (last - first))

/-- A schedule is open throughout a range just when every stretch of it is. -/
theorem openThroughout_iff (schedule : BusinessSchedule) (start stop : Int) :
    OpenThroughout schedule start stop ↔ StretchesOpen schedule start stop := by
  constructor
  · intro hopen first last hstretch
    have hnonempty := hstretch.nonempty
    rw [joined_iff (by omega)]
    intro reading hfrom hto
    have hinstant := hopen (first + (reading - readingIn schedule first))
      (by have := hstretch.from_start; omega) (by have := hstretch.to_stop; omega)
    rw [isOpen_iff, hstretch.reading_eq (by omega) (by omega)] at hinstant
    rw [show reading = readingIn schedule first +
      (first + (reading - readingIn schedule first) - first) by omega]
    exact hinstant
  · intro hstretches instant hfrom hto
    obtain ⟨first, last, hstretch, hfirst, hlast⟩ :=
      @exists_stretch (readingIn schedule) _ _ _ hfrom hto
    have hnonempty := hstretch.nonempty
    have hjoined := (joined_iff (by omega)).mp (hstretches first last hstretch)
    rw [isOpen_iff, hstretch.reading_eq hfirst hlast]
    exact hjoined _ (by omega) (by omega)

/-- The clock of a schedule's zone is put back after the start of a range, up to
its end. -/
def PutBackWithin (schedule : BusinessSchedule) (start stop : Int) : Prop :=
  ∃ change, start < change ∧ change ≤ stop ∧ PutBack (readingIn schedule) change

section Slots

variable {context : AvailabilityContext} {localDate now : Int}

/-- Where the clock is not put back, the readings of an appointment stay between
those of its start and its end. -/
theorem openThroughout_of_turn {resource : AvailableResource} {interval : TimeOfDay × TimeOfDay}
    {cursor start : Int} (hturn : Turn context localDate now resource interval cursor start)
    (hforward : ¬ PutBackWithin resource.schedule start
      (start + context.duration + context.cleanupBuffer)) :
    OpenThroughout resource.schedule start (start + context.duration + context.cleanupBuffer) := by
  intro instant hfrom hto
  obtain ⟨day, hday, hinterval⟩ := hturn.day
  have hstart : readingIn resource.schedule start = cursor :=
    ZoneInfo.astimezone_of_mem_localCandidates hturn.candidate
  have hcloses : readingIn resource.schedule (start + context.duration + context.cleanupBuffer) ≤
      Wall.combine localDate interval.2 := by
    have hfits := hturn.fits
    simp only [fitsInterval, Bool.and_eq_true] at hfits
    exact of_decide_eq_true hfits.2
  have hsteps : ∀ u, start < u → u ≤ start + context.duration + context.cleanupBuffer →
      ¬ PutBack (readingIn resource.schedule) u := fun u hu hle hback =>
    hforward ⟨u, hu, hle, hback⟩
  have hopened := hturn.opened
  have hlater : readingIn resource.schedule start ≤ readingIn resource.schedule instant := by
    rcases Int.le_iff_lt_or_eq.mp hfrom with hlt | rfl
    · exact (reading_lt_of_no_putBack hlt fun u hu hle => hsteps u hu (by omega)).le
    · exact le_rfl
  have hearlier := reading_lt_of_no_putBack hto fun u hu hle => hsteps u (by omega) hle
  rw [isOpen_iff]
  exact ⟨_, _, ⟨localDate, day, hday, interval, hinterval, rfl, rfl⟩, by omega, by omega⟩

/-- A slot's resource is open throughout the slot and its cleanup where the clock is not put
back meanwhile. -/
theorem slot_openThroughout_of_steady {slots : List AvailableSlot}
    (hslots : calculateAvailability context localDate now = .ok slots) {slot : AvailableSlot}
    (hslot : slot ∈ slots) :
    ∃ resource ∈ context.resources, slot.resourceId = resource.id ∧
      slot.timezone = resource.schedule.timezone ∧
      (¬ PutBackWithin resource.schedule slot.startAt (slot.endAt + context.cleanupBuffer) →
        OpenThroughout resource.schedule slot.startAt (slot.endAt + context.cleanupBuffer)) := by
  obtain ⟨resource, interval, cursor, start, hturn, rfl⟩ := fromTurns_of_mem hslots slot hslot
  exact ⟨resource, hturn.listed, rfl, rfl, fun hback => openThroughout_of_turn hturn hback⟩

/-- A slot's resource is open throughout the slot and its cleanup if and only if,
should the clock be put back meanwhile, every stretch of that time reads within
adjoining opening spans. -/
theorem slot_within_opening_hours {slots : List AvailableSlot}
    (hslots : calculateAvailability context localDate now = .ok slots) {slot : AvailableSlot}
    (hslot : slot ∈ slots) :
    ∃ resource ∈ context.resources, slot.resourceId = resource.id ∧
      slot.timezone = resource.schedule.timezone ∧
      (OpenThroughout resource.schedule slot.startAt (slot.endAt + context.cleanupBuffer) ↔
        (PutBackWithin resource.schedule slot.startAt (slot.endAt + context.cleanupBuffer) →
          StretchesOpen resource.schedule slot.startAt (slot.endAt + context.cleanupBuffer))) := by
  obtain ⟨resource, hlisted, hid, htimezone, hsteady⟩ := slot_openThroughout_of_steady hslots hslot
  refine ⟨resource, hlisted, hid, htimezone, ?_⟩
  constructor
  · intro hopen _
    exact (openThroughout_iff _ _ _).mp hopen
  · intro hstretches
    by_cases hback : PutBackWithin resource.schedule slot.startAt
        (slot.endAt + context.cleanupBuffer)
    · exact (openThroughout_iff _ _ _).mpr (hstretches hback)
    · exact hsteady hback

end Slots

namespace SmallShop

/-- On 2026-10-25, at one o'clock UTC, the clock goes back from three to two. -/
def berlin : ZoneInfo where
  key := "Europe/Berlin"
  initialOffset := minutes 120
  transitions := [(1792890000000000, minutes 60)]

/-- Sundays from two to half past two in the morning. -/
def night : ScheduleInterval where
  weekday := 6
  startLocal := 7200000000
  endLocal := 9000000000
  intervalType := .open
  startPrecedesEnd := by decide

def nights : BusinessSchedule := schedule berlin night (by decide)

/-- The first two o'clock of the night the clock goes back. -/
def nightSlot : AvailableSlot :=
  (context true (resource nights 1 [])).slot (resource nights 1 []) 20751 1792886400000000
    1792893600000000

theorem slots_of_night :
    calculateAvailability (context true (resource nights 1 [])) 20751 1792800000000000 =
      .ok [nightSlot] := by
  decide +kernel

end SmallShop

/-- A morning's slot, an hour in which the clock is not put back. -/
theorem slot_within_opening_hours_morning :
    ∃ resource ∈ [SmallShop.resource SmallShop.mornings 1 []],
      (1 : UUID) = resource.id ∧ SmallShop.utc = resource.schedule.timezone ∧
      (OpenThroughout resource.schedule 32400000000 36000000000 ↔
        (PutBackWithin resource.schedule 32400000000 36000000000 →
          StretchesOpen resource.schedule 32400000000 36000000000)) := by
  have hslots : calculateAvailability
      (SmallShop.context true (SmallShop.resource SmallShop.mornings 1 [])) 0 0 =
      .ok [(SmallShop.context true (SmallShop.resource SmallShop.mornings 1 [])).slot
        (SmallShop.resource SmallShop.mornings 1 []) 0 32400000000 32400000000] := by
    decide +kernel
  exact slot_within_opening_hours hslots (List.mem_singleton.mpr rfl)

/-- The hour from the first two o'clock to the second fits a shop open for half
an hour, since both its ends read two o'clock; at a quarter to three the shop is
closed. -/
theorem slot_outside_opening_hours :
    ¬ ∀ (context : AvailabilityContext) (localDate now : Int) (slots : List AvailableSlot),
      calculateAvailability context localDate now = .ok slots →
      ∀ slot ∈ slots, ∀ resource ∈ context.resources, slot.resourceId = resource.id →
        ∀ instant, slot.startAt ≤ instant → instant < slot.endAt + context.cleanupBuffer →
          isOpen resource.schedule instant = .ok true := by
  intro hclaim
  have hopen := hclaim _ 20751 1792800000000000 _ SmallShop.slots_of_night SmallShop.nightSlot
    (List.mem_singleton.mpr rfl) _ (List.mem_singleton.mpr rfl) rfl 1792889100000000
    (by decide) (by decide)
  have hclosed : isOpen SmallShop.nights 1792889100000000 = .ok false := by decide +kernel
  cases hclosed.symm.trans hopen

end BusinessAssistant.Application
