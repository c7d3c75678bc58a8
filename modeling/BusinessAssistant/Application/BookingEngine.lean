/-
# Availability

`calculate_availability` walks the aligned wall-clock readings of every opening
interval of every resource, keeps those whose occupied time fits the interval,
the notice, the horizon and the resource's free capacity, and offers each start
once, on the first resource that can take it.

The loops are named after what one turn of them does: `offerStart` is the body,
`scanInterval` the `while` over one interval, `scanResource` the `for` over the
intervals of one resource. The set `seen_starts` of the source always holds the
starts of the candidates, so the candidates themselves are searched.
-/

import BusinessAssistant.Application.BookingModels
import BusinessAssistant.Application.SchedulingEngine

namespace BusinessAssistant.Application

open BusinessAssistant.Domain

/-- `_overlaps` -/
def overlaps (first second : TimeRange) : Bool :=
  first.start < second.stop && second.start < first.stop

/-- The capacity the busy periods overlapping `occupied` use up. -/
def usedCapacity (busy : List BusyPeriod) (occupied : TimeRange) : Nat :=
  ((busy.filter fun period => overlaps period.timeRange occupied).map (·.capacityUsed)).sum

/-- `_has_capacity` -/
def hasCapacity (resource : AvailableResource) (occupied : TimeRange) : Bool :=
  resource.active && usedCapacity resource.busyPeriods occupied < resource.capacity

/-- The readings the `while` loop visits: `cursor`, `cursor + interval`, and so
on while they precede `closing`. `fuel` bounds the number of turns. -/
def cursors (interval closing : Int) : Nat → Int → List Int
  | 0, _ => []
  | fuel + 1, cursor =>
      if cursor < closing then cursor :: cursors interval closing fuel (cursor + interval) else []

/-- The first aligned reading at or after the opening. Alignment counts whole
seconds from midnight. -/
def alignedStart (localDate : Int) (opening : TimeOfDay) (intervalSeconds : Int) : Int :=
  let cursor := Wall.combine localDate opening
  let remainder := (opening.val / 1000000 : Int) % intervalSeconds
  if remainder ≠ 0 then cursor + seconds (intervalSeconds - remainder) else cursor

/-- The occupied range of an appointment that starts at `start`. -/
def AvailabilityContext.occupied (context : AvailabilityContext) (start : Int) : TimeRange where
  start := start
  stop := start + context.duration + context.cleanupBuffer
  ordered := by have := context.durationPositive; have := context.cleanupBufferNonnegative; omega

/-- The slot of an appointment that starts at `start` on `resource`. -/
def AvailabilityContext.slot (context : AvailabilityContext) (resource : AvailableResource)
    (localDate start cursor : Int) : AvailableSlot where
  startAt := start
  endAt := start + context.duration
  resourceId := resource.id
  localDate := localDate
  localTime := Wall.minuteOfDay cursor
  timezone := resource.schedule.timezone
  timeOrderValid := by have := context.durationPositive; omega

/-- Whether a start passes the notice, the horizon, the date and the closing
time of the interval. -/
def fitsInterval (context : AvailabilityContext) (resource : AvailableResource)
    (localDate closing now start : Int) : Bool :=
  let localOccupiedEnd :=
    (resource.schedule.timezone.astimezone (context.occupied start).stop).naive
  now + context.policy.minimumNotice ≤ start &&
    start ≤ now + context.policy.bookingHorizon &&
    Wall.date localOccupiedEnd = localDate && localOccupiedEnd ≤ closing

/-- One turn of the innermost loop: offer `start` unless a test fails, the start
is taken already, or the resource is full. -/
def offerStart (context : AvailabilityContext) (resource : AvailableResource)
    (localDate closing now cursor : Int) (candidates : List AvailableSlot) (start : Int) :
    List AvailableSlot :=
  if fitsInterval context resource localDate closing now start = false then candidates
  else if candidates.any (·.startAt = start) || !hasCapacity resource (context.occupied start) then
    candidates
  else candidates ++ [context.slot resource localDate start cursor]

/-- The `while` loop over one opening interval. -/
def scanInterval (context : AvailabilityContext) (resource : AvailableResource)
    (localDate now : Int) (candidates : List AvailableSlot) (interval : TimeOfDay × TimeOfDay) :
    Except Failure (List AvailableSlot) :=
  let step := context.policy.slotInterval
  let intervalSeconds := step / 1000000
  if intervalSeconds = 0 then throw .zeroDivision
  else
    let cursor := alignedStart localDate interval.1 intervalSeconds
    let closing := Wall.combine localDate interval.2
    pure <| (cursors step closing (closing - cursor).toNat cursor).foldl
      (fun candidates cursor =>
        (ZoneInfo.localCandidates cursor resource.schedule.timezone).foldl
          (offerStart context resource localDate closing now cursor) candidates)
      candidates

/-- One turn of the loop over resources. -/
def scanResource (context : AvailabilityContext) (localDate now : Int)
    (candidates : List AvailableSlot) (resource : AvailableResource) :
    Except Failure (List AvailableSlot) :=
  if resource.active = false ∨ resource.schedule.active = false then pure candidates
  else do
    let day ← effectiveDay resource.schedule localDate
    day.intervals.foldlM (scanInterval context resource localDate now) candidates

/-- Resources by id. The text of a UUID orders as its number does. -/
def byResourceId (first second : AvailableResource) : Prop := first.id ≤ second.id

instance : DecidableRel byResourceId := fun first second =>
  inferInstanceAs (Decidable (first.id ≤ second.id))

/-- Slots by start and resource id. -/
def slotLe (first second : AvailableSlot) : Prop :=
  first.startAt < second.startAt ∨
    first.startAt = second.startAt ∧ first.resourceId ≤ second.resourceId

instance : DecidableRel slotLe := fun first second =>
  inferInstanceAs (Decidable (first.startAt < second.startAt ∨
    first.startAt = second.startAt ∧ first.resourceId ≤ second.resourceId))

/-- `calculate_availability` -/
def calculateAvailability (context : AvailabilityContext) (localDate now : Int) :
    Except Failure (List AvailableSlot) :=
  if context.active = false ∨ context.bookable = false ∨ context.resources = [] then pure []
  else do
    let candidates ← (context.resources.insertionSort byResourceId).foldlM
      (scanResource context localDate now) []
    pure (candidates.insertionSort slotLe)

end BusinessAssistant.Application
