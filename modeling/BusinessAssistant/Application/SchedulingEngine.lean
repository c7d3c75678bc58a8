/-
# Effective opening hours of a date

The override or the weekday's intervals, less the breaks, checked against the
zone: an interval whose boundaries do not exist or that has no positive length
in elapsed time is an error, not an empty day.
-/

import BusinessAssistant.Application.Errors
import BusinessAssistant.Domain.Scheduling

namespace BusinessAssistant.Application

open BusinessAssistant.Domain

structure EffectiveDay where
  localDate : Int
  intervals : List (TimeOfDay × TimeOfDay)
  source : String
  reason : Option String
  deriving DecidableEq, Repr

/-- What one break leaves of one piece of an opening. -/
def revisePiece (pause : ScheduleInterval) (piece : TimeOfDay × TimeOfDay) :
    List (TimeOfDay × TimeOfDay) :=
  if pause.endLocal ≤ piece.1 ∨ pause.startLocal ≥ piece.2 then [piece]
  else
    (if pause.startLocal > piece.1 then [(piece.1, pause.startLocal)] else []) ++
      (if pause.endLocal < piece.2 then [(pause.endLocal, piece.2)] else [])

def byStart (first second : ScheduleInterval) : Prop := first.startLocal ≤ second.startLocal

instance : DecidableRel byStart := fun first second =>
  inferInstanceAs (Decidable (first.startLocal ≤ second.startLocal))

/-- Order of pairs of times as Python orders tuples. -/
def pieceLe (first second : TimeOfDay × TimeOfDay) : Prop :=
  first.1 < second.1 ∨ first.1 = second.1 ∧ first.2 ≤ second.2

instance : DecidableRel pieceLe := fun first second =>
  inferInstanceAs (Decidable (first.1 < second.1 ∨ first.1 = second.1 ∧ first.2 ≤ second.2))

/-- `_subtract_breaks` -/
def subtractBreaks (openings breaks : List ScheduleInterval) :
    Except Failure (List (TimeOfDay × TimeOfDay)) :=
  let pieces := (openings.insertionSort byStart).flatMap fun opening =>
    (breaks.insertionSort byStart).foldl (fun pieces pause => pieces.flatMap (revisePiece pause))
      [(opening.startLocal, opening.endLocal)]
  let ordered := pieces.insertionSort pieceLe
  if (ordered.zip ordered.tail).any fun (previous, current) => previous.2 > current.1 then
    throw (.invalidSchedule "Business intervals overlap")
  else pure ordered

/-- `resolve_local_boundary`: the first instant of an opening reading, the last
of a closing one. -/
def resolveLocalBoundary (naive : Int) (zone : ZoneInfo) (opening : Bool) :
    Except Failure Int :=
  let candidates := ZoneInfo.localCandidates naive zone
  match if opening then candidates.head? else candidates.getLast? with
  | some instant => pure instant
  | none => throw (.invalidSchedule "Schedule boundary falls in a nonexistent local time")

/-- The check `effective_day` makes of each interval: both boundaries exist and
the closing comes after the opening in elapsed time. -/
def checkInterval (zone : ZoneInfo) (localDate : Int) (interval : TimeOfDay × TimeOfDay) :
    Except Failure Unit := do
  let opening ← resolveLocalBoundary (Wall.combine localDate interval.1) zone true
  let closing ← resolveLocalBoundary (Wall.combine localDate interval.2) zone false
  if closing ≤ opening then
    throw (.invalidSchedule "Business interval has no positive elapsed duration")

/-- `effective_day` -/
def effectiveDay (schedule : BusinessSchedule) (localDate : Int) : Except Failure EffectiveDay :=
  let openOn (candidates : List ScheduleInterval) (source : String) (reason : Option String) := do
    let openings := candidates.filter (·.intervalType = .open)
    let breaks := candidates.filter (·.intervalType = .break)
    let intervals ← subtractBreaks openings breaks
    intervals.forM (checkInterval schedule.timezone localDate)
    pure { localDate, intervals, source, reason : EffectiveDay }
  match schedule.overridesOn localDate with
  | [] => openOn (schedule.intervals.filter (·.weekday = weekday localDate)) "weekly" none
  | [override] =>
      if override.closed then pure { localDate, intervals := [], source := "override",
                                     reason := override.reason }
      else openOn override.intervals "override" override.reason
  | _ => throw (.invalidSchedule "Multiple schedule overrides apply to one date")

/-- `is_open`, whose first result is kept: the instant's reading lies in an
interval of its local date. -/
def isOpen (schedule : BusinessSchedule) (instant : Int) : Except Failure Bool := do
  let reading := (schedule.timezone.astimezone instant).naive
  let day ← effectiveDay schedule (Wall.date reading)
  pure (day.intervals.any fun interval =>
    interval.1.val ≤ Wall.timeOfDay reading && Wall.timeOfDay reading < interval.2.val)

/-! ## Deadlines in business time -/

/-- Where the search for a deadline stands: how far the time is used up, and how
much of the response time remains. -/
structure DueSearch where
  cursor : Int
  remaining : Int
  deriving DecidableEq, Repr

/-- One interval of the search: the deadline lies in it, or it is used up. -/
def spendInterval (zone : ZoneInfo) (localDate : Int) (search : DueSearch)
    (interval : TimeOfDay × TimeOfDay) : Except Failure (Int ⊕ DueSearch) := do
  let start ← resolveLocalBoundary (Wall.combine localDate interval.1) zone true
  let stop ← resolveLocalBoundary (Wall.combine localDate interval.2) zone false
  let availableFrom := max search.cursor start
  if availableFrom ≥ stop then pure (.inr search)
  else if search.remaining ≤ stop - availableFrom then
    pure (.inl (availableFrom + search.remaining))
  else pure (.inr { cursor := stop, remaining := search.remaining - (stop - availableFrom) })

/-- The intervals of one date, in order. -/
def spendIntervals (zone : ZoneInfo) (localDate : Int) :
    List (TimeOfDay × TimeOfDay) → DueSearch → Except Failure (Int ⊕ DueSearch)
  | [], search => pure (.inr search)
  | interval :: rest, search => do
      match ← spendInterval zone localDate search interval with
      | .inl due => pure (.inl due)
      | .inr search => spendIntervals zone localDate rest search

/-- The dates of the search, as many as are left. -/
def spendDays (schedule : BusinessSchedule) : Nat → Int → DueSearch → Except Failure Int
  | 0, _, _ => throw (.invalidSchedule "No business-hours response deadline exists within the horizon")
  | days + 1, localDate, search => do
      let day ← effectiveDay schedule localDate
      match ← spendIntervals schedule.timezone localDate day.intervals search with
      | .inl due => pure due
      | .inr search => spendDays schedule days (localDate + 1) search

/-- `business_due_at`, with the default horizon of 370 days -/
def businessDueAt (schedule : BusinessSchedule) (instant serviceTime : Int) : Except Failure Int :=
  if serviceTime ≤ 0 then throw (.invalidSchedule "Business response time must be positive")
  else
    spendDays schedule 371 (Wall.date (schedule.timezone.astimezone instant).naive)
      { cursor := instant, remaining := serviceTime }

end BusinessAssistant.Application
