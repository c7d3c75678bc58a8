/-
# Business schedules

Weekly intervals, dated overrides and the schedule that owns them. The
constructors' checks are fields, so a schedule that the source refuses to build
is not a value of the type.
-/

import BusinessAssistant.Domain.Identifiers
import BusinessAssistant.Domain.Time

namespace BusinessAssistant.Domain

inductive IntervalType
  | open
  | break
  deriving DecidableEq, Repr

structure ScheduleInterval where
  weekday : Fin 7
  startLocal : TimeOfDay
  endLocal : TimeOfDay
  intervalType : IntervalType
  /-- `ScheduleInterval` start must precede its end. -/
  startPrecedesEnd : startLocal < endLocal
  deriving DecidableEq

structure ScheduleOverride where
  startsOn : Int
  endsOn : Int
  closed : Bool
  intervals : List ScheduleInterval
  reason : Option String
  startNotAfterEnd : startsOn ≤ endsOn
  /-- A closed override has no intervals and an open one has some. -/
  closedIffEmpty : closed = intervals.isEmpty
  deriving DecidableEq

/-- `override.applies_on(local_date)` -/
def ScheduleOverride.appliesOn (override : ScheduleOverride) (localDate : Int) : Bool :=
  override.startsOn ≤ localDate && localDate ≤ override.endsOn

/-- The opening intervals of one weekday, sorted by start. -/
def openingsOf (intervals : List ScheduleInterval) (weekday : Fin 7) : List ScheduleInterval :=
  (intervals.filter fun item =>
    item.weekday = weekday ∧ item.intervalType = .open).insertionSort
      (fun first second => first.startLocal ≤ second.startLocal)

/-- `_validate_intervals`: openings of a day do not overlap and every break lies
within one opening. -/
def validateIntervals (intervals : List ScheduleInterval) : Bool :=
  (List.finRange 7).all fun weekday =>
    let openings := openingsOf intervals weekday
    (openings.zip openings.tail).all (fun (previous, current) =>
      previous.endLocal ≤ current.startLocal) &&
    (intervals.filter fun item => item.weekday = weekday ∧ item.intervalType = .break).all
      fun pause => openings.any fun opening =>
        opening.startLocal ≤ pause.startLocal && pause.endLocal ≤ opening.endLocal

structure BusinessSchedule where
  id : ScheduleId
  tenantId : TenantId
  timezone : ZoneInfo
  intervals : List ScheduleInterval
  overrides : List ScheduleOverride
  active : Bool
  intervalsValid : validateIntervals intervals = true
  deriving DecidableEq

/-- The overrides that apply on a date; `override_for` raises on more than one. -/
def BusinessSchedule.overridesOn (schedule : BusinessSchedule) (localDate : Int) :
    List ScheduleOverride :=
  schedule.overrides.filter fun override => override.appliesOn localDate

/-! ## Properties of boundaries -/

/-- Both boundaries of an interval have a property. -/
def ScheduleInterval.Bounded (P : TimeOfDay → Prop) (interval : ScheduleInterval) : Prop :=
  P interval.startLocal ∧ P interval.endLocal

/-- Every boundary of the schedule, weekly or of an override, has a property. -/
structure BusinessSchedule.Bounded (P : TimeOfDay → Prop) (schedule : BusinessSchedule) : Prop where
  weekly : ∀ interval ∈ schedule.intervals, interval.Bounded P
  overrides : ∀ override ∈ schedule.overrides, ∀ interval ∈ override.intervals, interval.Bounded P

/-- A time of day without fractions of a second. -/
def WholeSecond (time : TimeOfDay) : Prop := (1000000 : Int) ∣ time.val

instance : DecidablePred WholeSecond := fun time =>
  inferInstanceAs (Decidable ((1000000 : Int) ∣ time.val))

end BusinessAssistant.Domain
