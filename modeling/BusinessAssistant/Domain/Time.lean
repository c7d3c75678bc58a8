/-
# Instants, wall clocks and time zones

Time is counted in whole microseconds, as the source's `datetime` counts it.
An aware datetime is an instant, its distance from the Unix epoch; a naive
datetime is a reading of a wall clock, its distance from 1970-01-01 00:00 on
that clock, so that its date and its time of day are a quotient and a
remainder; a date is its day number. All of them are plain integers.

A zone is its list of offset changes. The two conversions follow the standard
library's `zoneinfo`: an instant takes the offset of the last change it has
passed; a wall-clock reading is compared with the wall-clock times of the
changes, of which `fold` chooses the later or the earlier.
-/

import BusinessAssistant.Foundation.Members
import Mathlib.Algebra.GroupWithZero.Nat
import Mathlib.Data.List.Sort
import Mathlib.Data.List.Dedup
import Mathlib.Order.Fin.Basic

namespace BusinessAssistant.Domain

/-- A naive `time`: microseconds since midnight. -/
abbrev TimeOfDay := Fin 86400000000

/-- A day has a first microsecond, and a week a first day. -/
instance (priority := high) TimeOfDay.neZero : NeZero 86400000000 := ⟨by decide⟩

@[inherit_doc TimeOfDay.neZero]
instance (priority := high) weekNeZero : NeZero 7 := ⟨by decide⟩

/-- A `timedelta` of whole seconds, minutes or days. -/
def seconds (count : Int) : Int := count * 1000000

@[inherit_doc seconds]
def minutes (count : Int) : Int := count * 60000000

@[inherit_doc seconds]
def days (count : Int) : Int := count * 86400000000

namespace Wall

/-- `datetime.combine(date, time)` -/
def combine (date : Int) (time : TimeOfDay) : Int :=
  date * 86400000000 + time.val

/-- `naive.date()` -/
def date (naive : Int) : Int := naive / 86400000000

/-- `naive.time()`, as microseconds since midnight -/
def timeOfDay (naive : Int) : Int := naive % 86400000000

/-- `naive.hour * 60 + naive.minute` -/
def minuteOfDay (naive : Int) : Int := naive % 86400000000 / 60000000

/-- A reading is on a date from that date's midnight until the next one. -/
theorem date_eq_iff {naive day : Int} :
    date naive = day ↔ day * 86400000000 ≤ naive ∧ naive < (day + 1) * 86400000000 := by
  unfold date
  omega

@[simp]
theorem date_combine (day : Int) (time : TimeOfDay) : date (combine day time) = day := by
  have := time.isLt
  rw [date_eq_iff, combine]
  omega

end Wall

/-- `date.weekday()`, Monday being 0. -/
def weekday (date : Int) : Fin 7 :=
  ⟨((date + 3) % 7).toNat, by omega⟩

/-- A time zone: the offset before the first change and the changes in
ascending order, each an instant with the UTC offset in force from then on. -/
structure ZoneInfo where
  key : String
  initialOffset : Int
  transitions : List (Int × Int)
  deriving DecidableEq, Repr

/-- A wall-clock reading with its `fold`. -/
structure LocalDateTime where
  naive : Int
  fold : Bool
  deriving DecidableEq, Repr

namespace ZoneInfo

/-- The last change at or before `instant`, with the offset it replaced; `none`
before the first change. -/
def lastTransition (zone : ZoneInfo) (instant : Int) : Int × Option (Int × Int) :=
  zone.transitions.foldl
    (fun current change =>
      if change.1 ≤ instant then (change.2, some (change.1, current.1)) else current)
    (zone.initialOffset, none)

/-- `instant.astimezone(zone)` -/
def astimezone (zone : ZoneInfo) (instant : Int) : LocalDateTime :=
  let (offset, since) := zone.lastTransition instant
  { naive := instant + offset
    -- The reading is the second of two equal ones while less time has passed
    -- since the change than the clock was put back by.
    fold := match since with
      | none => false
      | some (change, previous) => decide (instant - change < previous - offset) }

/-- The offset `zone` gives a wall-clock reading. -/
def wallOffset (zone : ZoneInfo) (naive : Int) (fold : Bool) : Int :=
  (zone.transitions.foldl
    (fun (state : Int × Int) change =>
      let wall := change.1 + if fold then min state.1 change.2 else max state.1 change.2
      (change.2, if wall ≤ naive then change.2 else state.2))
    (zone.initialOffset, zone.initialOffset)).2

/-- `naive.replace(tzinfo=zone, fold=fold).astimezone(UTC)` -/
def toUtc (zone : ZoneInfo) (naive : Int) (fold : Bool) : Int :=
  naive - zone.wallOffset naive fold

/-- `_local_candidates`: the instants a wall-clock reading denotes, in order.
A reading the clock skips has none, one it repeats has two. -/
def localCandidates (naive : Int) (zone : ZoneInfo) : List Int :=
  (([false, true].map (zone.toUtc naive)).filter
    fun instant => (zone.astimezone instant).naive = naive).dedup.insertionSort (· ≤ ·)

/-- A reading exists in the zone and denotes an instant: the reading's first or
second occurrence is the instant, and the instant is read so. -/
def Denotes (zone : ZoneInfo) (naive instant : Int) : Prop :=
  (zone.astimezone instant).naive = naive ∧ ∃ fold, zone.toUtc naive fold = instant

theorem mem_localCandidates {naive instant : Int} {zone : ZoneInfo} :
    instant ∈ localCandidates naive zone ↔ zone.Denotes naive instant := by
  simp [localCandidates, Denotes, and_comm, eq_comm]

theorem astimezone_of_mem_localCandidates {naive instant : Int} {zone : ZoneInfo}
    (hmem : instant ∈ localCandidates naive zone) :
    (zone.astimezone instant).naive = naive := by
  rw [localCandidates, List.mem_insertionSort, List.mem_dedup, List.mem_filter] at hmem
  exact of_decide_eq_true hmem.2

end ZoneInfo

end BusinessAssistant.Domain
