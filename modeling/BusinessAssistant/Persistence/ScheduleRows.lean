/-
# Schedules and their rows

`schedule_to_rows` writes a row for the schedule, one for each weekly interval and one for
each override, whose intervals are kept as JSON with the times as ISO text.
`schedule_from_rows` builds the schedule anew with the constructors' checks, from rows in
the order in which the database returns them.
-/

import BusinessAssistant.Application.ScheduleOrder
import BusinessAssistant.Domain.IsoText
import BusinessAssistant.Persistence.SchemaStorage

namespace BusinessAssistant.Persistence

open BusinessAssistant.Domain BusinessAssistant.Application BusinessAssistant.Foundation

/-! ## Rows -/

structure BusinessScheduleRow where
  id : ScheduleId
  tenantId : TenantId
  name : Text
  timezone : String
  active : Bool
  deriving DecidableEq

structure ScheduleIntervalRow where
  id : UUID
  tenantId : TenantId
  scheduleId : ScheduleId
  weekday : Int
  startLocal : TimeOfDay
  endLocal : TimeOfDay
  intervalType : String
  deriving DecidableEq

/-- An interval of an override as JSON. -/
structure IntervalDefinition where
  weekday : Int
  start : Text
  stop : Text
  type : String
  deriving DecidableEq

structure ScheduleOverrideRow where
  id : UUID
  tenantId : TenantId
  scheduleId : ScheduleId
  startsOn : Int
  endsOn : Int
  closed : Bool
  intervals : List IntervalDefinition
  reason : Option String
  deriving DecidableEq

/-! ## The entity -/

def intervalTypeValue : IntervalType → String
  | .open => "open"
  | .break => "break"

/-- `IntervalType(value)` -/
def intervalTypeOf? (value : String) : Option IntervalType :=
  [IntervalType.open, .break].find? fun type => intervalTypeValue type = value

theorem intervalTypeOf?_value (type : IntervalType) :
    intervalTypeOf? (intervalTypeValue type) = some type := by
  cases type with
  | «open» => decide
  | «break» => decide

/-- `ScheduleInterval(weekday, start_local, end_local, interval_type)` -/
def ScheduleInterval.make (weekday : Int) (startLocal endLocal : TimeOfDay)
    (intervalType : IntervalType) : Except Failure ScheduleInterval :=
  if hweekday : 0 ≤ weekday ∧ weekday ≤ 6 then
    if horder : startLocal < endLocal then
      pure
        { weekday := ⟨weekday.toNat, by omega⟩
          startLocal := startLocal
          endLocal := endLocal
          intervalType := intervalType
          startPrecedesEnd := horder }
    else throw (.domain (.validation "Schedule interval start must precede end"))
  else throw (.domain (.validation "Weekday must be in the range Monday=0 to Sunday=6"))

/-- `ScheduleOverride(starts_on, ends_on, closed, intervals, reason)` -/
def ScheduleOverride.make (startsOn endsOn : Int) (closed : Bool)
    (intervals : List ScheduleInterval) (reason : Option String) :
    Except Failure ScheduleOverride :=
  if horder : startsOn ≤ endsOn then
    if hclosed : closed = intervals.isEmpty then
      pure
        { startsOn := startsOn
          endsOn := endsOn
          closed := closed
          intervals := intervals
          reason := reason
          startNotAfterEnd := horder
          closedIffEmpty := hclosed }
    else if closed then
      throw (.domain (.validation "A closed override cannot contain opening intervals"))
    else throw (.domain (.validation "An open override requires at least one interval"))
  else
    throw (.domain (.validation "Schedule override start date must not follow end date"))

/-- What `_validate_intervals` raises for the intervals of a weekday. -/
def weekdayError (intervals : List ScheduleInterval) (weekday : Fin 7) : Option String :=
  let openings := openingsOf intervals weekday
  if ¬ (openings.zip openings.tail).all (fun (previous, current) =>
      previous.endLocal ≤ current.startLocal) then
    some "Opening intervals cannot overlap"
  else if ¬ (intervals.filter fun item => item.weekday = weekday ∧ item.intervalType = .break).all
      (fun pause => openings.any fun opening =>
        opening.startLocal ≤ pause.startLocal && pause.endLocal ≤ opening.endLocal) then
    some "Break intervals must be contained within opening hours"
  else none

/-- `_validate_intervals` raises nothing for valid intervals. -/
theorem findSome?_weekdayError_iff (intervals : List ScheduleInterval) :
    (List.finRange 7).findSome? (weekdayError intervals) = none ↔
      validateIntervals intervals = true := by
  unfold validateIntervals
  rw [List.findSome?_eq_none_iff, List.all_eq_true]
  apply forall₂_congr
  intro weekday _
  simp only [weekdayError]
  rw [Bool.and_eq_true]
  split
  · rename_i hoverlap
    exact iff_of_false nofun fun hboth => hoverlap hboth.1
  · rename_i hapart
    split
    · rename_i hpause
      exact iff_of_false nofun fun hboth => hpause hboth.2
    · rename_i hpause
      exact iff_of_true rfl ⟨not_not.mp hapart, not_not.mp hpause⟩

/-- The database of time zones; a zone has the key under which it is found. -/
structure ZoneDatabase where
  find? : String → Option ZoneInfo
  keyed : ∀ key zone, find? key = some zone → zone.key = key

/-- A `BusinessSchedule` with its name, in a zone that the database of zones has. -/
structure NamedSchedule (zones : ZoneDatabase) where
  schedule : BusinessSchedule
  name : Text
  nameRequired : ¬ name.Blank
  zoneKnown : zones.find? schedule.timezone.key = some schedule.timezone

/-- `BusinessSchedule(id, tenant_id, name, timezone, intervals, overrides, active)` -/
def NamedSchedule.make (zones : ZoneDatabase) (id : ScheduleId) (tenantId : TenantId)
    (name : Text) (timezone : String) (intervals : List ScheduleInterval)
    (overrides : List ScheduleOverride) (active : Bool) : Except Failure (NamedSchedule zones) :=
  if hname : name.Blank then throw (.domain (.validation "Schedule name is required"))
  else
    match hzone : zones.find? timezone with
    | none => throw (.domain (.validation "Schedule timezone must be a valid IANA timezone"))
    | some zone =>
        match hvalid : (List.finRange 7).findSome? (weekdayError intervals) with
        | some message => throw (.domain (.validation message))
        | none =>
            pure
              { schedule :=
                  { id := id
                    tenantId := tenantId
                    timezone := zone
                    intervals := intervals
                    overrides := overrides
                    active := active
                    intervalsValid := (findSome?_weekdayError_iff intervals).mp hvalid }
                name := name
                nameRequired := hname
                zoneKnown := by rw [zones.keyed timezone zone hzone, hzone] }

/-! ## Writing -/

def intervalDefinition (interval : ScheduleInterval) : IntervalDefinition where
  weekday := interval.weekday.val
  start := TimeOfDay.isoformat interval.startLocal
  stop := TimeOfDay.isoformat interval.endLocal
  type := intervalTypeValue interval.intervalType

/-- `schedule_to_rows`; `newId` gives the identifiers that `uuid4` returns, in turn. -/
def scheduleToRows {zones : ZoneDatabase} (entity : NamedSchedule zones) (newId : Nat → UUID) :
    BusinessScheduleRow × List ScheduleIntervalRow × List ScheduleOverrideRow :=
  ({ id := entity.schedule.id
     tenantId := entity.schedule.tenantId
     name := entity.name
     timezone := entity.schedule.timezone.key
     active := entity.schedule.active },
    entity.schedule.intervals.mapIdx fun place item =>
      { id := newId place
        tenantId := entity.schedule.tenantId
        scheduleId := entity.schedule.id
        weekday := item.weekday.val
        startLocal := item.startLocal
        endLocal := item.endLocal
        intervalType := intervalTypeValue item.intervalType },
    entity.schedule.overrides.mapIdx fun place item =>
      { id := newId (entity.schedule.intervals.length + place)
        tenantId := entity.schedule.tenantId
        scheduleId := entity.schedule.id
        startsOn := item.startsOn
        endsOn := item.endsOn
        closed := item.closed
        intervals := item.intervals.map intervalDefinition
        reason := item.reason })

/-! ## Reading -/

def readIntervalRow (item : ScheduleIntervalRow) : Except Failure ScheduleInterval := do
  let intervalType ← enumeration (intervalTypeOf? item.intervalType)
  ScheduleInterval.make item.weekday item.startLocal item.endLocal intervalType

/-- `time.fromisoformat(str(value))` -/
def readTime (value : Text) : Except Failure TimeOfDay :=
  match TimeOfDay.fromisoformat value with
  | some time => pure time
  | none => throw (.valueError "Invalid isoformat string")

def readInterval (item : IntervalDefinition) : Except Failure ScheduleInterval := do
  let start ← readTime item.start
  let stop ← readTime item.stop
  let intervalType ← enumeration (intervalTypeOf? item.type)
  ScheduleInterval.make item.weekday start stop intervalType

def readOverrideRow (item : ScheduleOverrideRow) : Except Failure ScheduleOverride := do
  let intervals ← item.intervals.mapM readInterval
  ScheduleOverride.make item.startsOn item.endsOn item.closed intervals item.reason

/-- `schedule_from_rows` -/
def scheduleFromRows (zones : ZoneDatabase) (row : BusinessScheduleRow)
    (intervalRows : List ScheduleIntervalRow) (overrideRows : List ScheduleOverrideRow) :
    Except Failure (NamedSchedule zones) := do
  let intervals ← intervalRows.mapM readIntervalRow
  let overrides ← overrideRows.mapM readOverrideRow
  NamedSchedule.make zones row.id row.tenantId row.name row.timezone intervals overrides row.active

/-! ## What is read back -/

theorem ScheduleInterval.make_eq (interval : ScheduleInterval) :
    ScheduleInterval.make interval.weekday.val interval.startLocal interval.endLocal
      interval.intervalType = .ok interval := by
  obtain ⟨weekday, startLocal, endLocal, intervalType, horder⟩ := interval
  have hweekday : (0 : Int) ≤ weekday.val ∧ (weekday.val : Int) ≤ 6 := by omega
  rw [ScheduleInterval.make, dif_pos hweekday, dif_pos horder]
  rfl

theorem ScheduleOverride.make_eq (override : ScheduleOverride) :
    ScheduleOverride.make override.startsOn override.endsOn override.closed override.intervals
      override.reason = .ok override := by
  rw [ScheduleOverride.make, dif_pos override.startNotAfterEnd, dif_pos override.closedIffEmpty]
  rfl

/-- An interval of an override is read back from its JSON. -/
theorem readInterval_definition (interval : ScheduleInterval) :
    readInterval (intervalDefinition interval) = .ok interval := by
  unfold readInterval readTime intervalDefinition
  simp only [TimeOfDay.fromisoformat_isoformat, intervalTypeOf?_value]
  exact ScheduleInterval.make_eq interval

theorem mapM_readInterval (intervals : List ScheduleInterval) :
    (intervals.map intervalDefinition).mapM readInterval = .ok intervals := by
  rw [Folds.mapM_eq_ok_iff, List.forall₂_map_left_iff, List.forall₂_same]
  exact fun interval _ => readInterval_definition interval

/-- A named schedule is built in a zone that is found, from valid intervals. -/
theorem NamedSchedule.exists_make {zones : ZoneDatabase} {name : Text} {timezone : String}
    {zone : ZoneInfo} {intervals : List ScheduleInterval} (hname : ¬ name.Blank)
    (hzone : zones.find? timezone = some zone) (hvalid : validateIntervals intervals = true)
    (id : ScheduleId) (tenantId : TenantId) (overrides : List ScheduleOverride) (active : Bool) :
    ∃ found, NamedSchedule.make zones id tenantId name timezone intervals overrides active =
        .ok found ∧
      found.schedule.timezone = zone ∧ found.schedule.intervals = intervals ∧
        found.schedule.overrides = overrides := by
  unfold NamedSchedule.make
  rw [dif_neg hname]
  split
  · rename_i hnone
    cases hzone.symm.trans hnone
  · rename_i other hother
    cases hzone.symm.trans hother
    split
    · rename_i message hmessage
      rw [(findSome?_weekdayError_iff intervals).mpr hvalid] at hmessage
      cases hmessage
    · exact ⟨_, rfl, rfl, rfl, rfl⟩

/-- The rows of a schedule, in whatever order they come, are read as that schedule with its
intervals and its overrides in some order. -/
theorem scheduleFromRows_of_perm {zones : ZoneDatabase} (entity : NamedSchedule zones)
    (newId : Nat → UUID) {intervalRows : List ScheduleIntervalRow}
    {overrideRows : List ScheduleOverrideRow}
    (hintervals : intervalRows.Perm (scheduleToRows entity newId).2.1)
    (hoverrides : overrideRows.Perm (scheduleToRows entity newId).2.2) :
    ∃ found, scheduleFromRows zones (scheduleToRows entity newId).1 intervalRows overrideRows =
      .ok found ∧ Reordered entity.schedule found.schedule := by
  obtain ⟨intervals, hreadIntervals, hintervals⟩ :
      ∃ intervals, intervalRows.mapM readIntervalRow = .ok intervals ∧
        intervals.Perm entity.schedule.intervals := by
    refine Folds.exists_mapM_of_perm (fun place item => ?_) hintervals
    unfold readIntervalRow
    simp only [intervalTypeOf?_value]
    exact ScheduleInterval.make_eq item
  obtain ⟨overrides, hreadOverrides, hoverrides⟩ :
      ∃ overrides, overrideRows.mapM readOverrideRow = .ok overrides ∧
        overrides.Perm entity.schedule.overrides := by
    refine Folds.exists_mapM_of_perm (fun place item => ?_) hoverrides
    unfold readOverrideRow
    simp only [mapM_readInterval]
    exact ScheduleOverride.make_eq item
  obtain ⟨found, hmake, hzone, hfoundIntervals, hfoundOverrides⟩ :=
    NamedSchedule.exists_make entity.nameRequired entity.zoneKnown
      (validateIntervals_perm entity.schedule.intervalsValid hintervals) entity.schedule.id
      entity.schedule.tenantId overrides entity.schedule.active
  refine ⟨found, ?_, hzone, hfoundIntervals ▸ hintervals, hfoundOverrides ▸ hoverrides⟩
  unfold scheduleFromRows
  exact except_bind_eq_ok.mpr ⟨intervals, hreadIntervals,
    except_bind_eq_ok.mpr ⟨overrides, hreadOverrides, hmake⟩⟩

/-- A stored schedule is read back, from its rows in whatever order they come, as one with
the same effective hours on every date, or the same error, and the same open status, next
opening and deadlines at every instant. -/
theorem stored_schedule_kept {zones : ZoneDatabase} (entity : NamedSchedule zones)
    (newId : Nat → UUID) {intervalRows : List ScheduleIntervalRow}
    {overrideRows : List ScheduleOverrideRow}
    (hintervals : intervalRows.Perm (scheduleToRows entity newId).2.1)
    (hoverrides : overrideRows.Perm (scheduleToRows entity newId).2.2) :
    ∃ found, scheduleFromRows zones (scheduleToRows entity newId).1 intervalRows overrideRows =
        .ok found ∧
      (∀ localDate, effectiveDay found.schedule localDate =
        effectiveDay entity.schedule localDate) ∧
      ∀ instant, readingIn found.schedule instant = readingIn entity.schedule instant ∧
        isOpen found.schedule instant = isOpen entity.schedule instant ∧
        (∀ horizon, nextOpening found.schedule instant horizon =
          nextOpening entity.schedule instant horizon) ∧
        ∀ serviceTime horizon, businessDueWithin found.schedule instant serviceTime horizon =
          businessDueWithin entity.schedule instant serviceTime horizon := by
  obtain ⟨found, hfound, hsame⟩ := scheduleFromRows_of_perm entity newId hintervals hoverrides
  have hdays := hsame.effectiveDay_eq
  refine ⟨found, hfound, hdays, fun instant => ⟨?_, ?_, ?_, ?_⟩⟩
  · unfold readingIn
    rw [hsame.timezone]
  · exact isOpen_eq_of_days hsame.timezone hdays instant
  · exact fun horizon => nextOpening_eq_of_days hsame.timezone hdays instant horizon
  · exact fun serviceTime horizon =>
      businessDueWithin_eq_of_days hsame.timezone hdays instant serviceTime horizon

namespace SmallShop

open Application.SmallShop

def zones : ZoneDatabase where
  find? key := if key = restless.key then some restless else none
  keyed := by
    intro key zone hzone
    by_cases hkey : key = restless.key
    · rw [if_pos hkey] at hzone
      cases hzone
      exact hkey.symm
    · rw [if_neg hkey] at hzone
      cases hzone

/-- Two intervals on Thursdays, a Thursday that is closed and one that opens for a minute. -/
def thursdays : NamedSchedule zones where
  schedule :=
    { twice with
      overrides :=
        [{ startsOn := 7
           endsOn := 7
           closed := true
           intervals := []
           reason := none
           startNotAfterEnd := by decide
           closedIffEmpty := rfl },
         { startsOn := 14
           endsOn := 14
           closed := false
           intervals :=
             [{ weekday := 3
                startLocal := 0
                endLocal := 60000000
                intervalType := .open
                startPrecedesEnd := by decide }]
           reason := none
           startNotAfterEnd := by decide
           closedIffEmpty := rfl }] }
  name := ['T']
  nameRequired := by decide +kernel
  zoneKnown := by decide

end SmallShop

/-- The rows come back in the opposite order. -/
theorem stored_schedule_kept_reversed :
    let rows := scheduleToRows SmallShop.thursdays fun place => place
    ∃ found, scheduleFromRows SmallShop.zones rows.1 rows.2.1.reverse rows.2.2.reverse =
        .ok found ∧
      effectiveDay found.schedule 0 =
        .ok ⟨0, [(5400000000, 6300000000), (7500000000, 8400000000)], "weekly", none⟩ ∧
      effectiveDay found.schedule 14 = .ok ⟨14, [(0, 60000000)], "override", none⟩ := by
  intro rows
  obtain ⟨found, hfound, hdays, _⟩ := stored_schedule_kept SmallShop.thursdays (fun place => place)
    (List.reverse_perm rows.2.1) (List.reverse_perm rows.2.2)
  refine ⟨found, hfound, ?_, ?_⟩
  · rw [hdays]
    decide +kernel
  · rw [hdays]
    decide +kernel

end BusinessAssistant.Persistence
