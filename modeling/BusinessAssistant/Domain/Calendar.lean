/-
# Calendar dates and their ISO text

A `date` of the source's answers is a day of the proleptic Gregorian calendar. Its
text is read as `date.fromisoformat` reads it: with or without dashes, by month
and day or by week and weekday.
-/

import BusinessAssistant.Domain.Text
import Mathlib.Algebra.Group.Nat.Defs
import Mathlib.Data.Nat.Notation

namespace BusinessAssistant.Domain

namespace Calendar

def isLeap (year : Nat) : Bool := year % 4 = 0 && (year % 100 ≠ 0 || year % 400 = 0)

def daysInYear (year : Nat) : Nat := if isLeap year then 366 else 365

def daysInMonth (year month : Nat) : Nat :=
  if month = 2 then if isLeap year then 29 else 28
  else if month = 4 ∨ month = 6 ∨ month = 9 ∨ month = 11 then 30
  else 31

end Calendar

/-- A `date`. -/
structure Date where
  year : Nat
  month : Nat
  day : Nat
  yearValid : 1 ≤ year ∧ year ≤ 9999
  monthValid : 1 ≤ month ∧ month ≤ 12
  dayValid : 1 ≤ day ∧ day ≤ Calendar.daysInMonth year month
  deriving DecidableEq

namespace Date

/-- `date(year, month, day)`; `none` where it raises `ValueError`. -/
def of? (year month day : Nat) : Option Date :=
  if hyear : 1 ≤ year ∧ year ≤ 9999 then
    if hmonth : 1 ≤ month ∧ month ≤ 12 then
      if hday : 1 ≤ day ∧ day ≤ Calendar.daysInMonth year month then
        some ⟨year, month, day, hyear, hmonth, hday⟩
      else none
    else none
  else none

/-! ## Weeks -/

/-- The days before the first of January of a year, counted from the first of
January of the year 1. -/
def daysBeforeYear (year : Nat) : Nat :=
  (year - 1) * 365 + (year - 1) / 4 - (year - 1) / 100 + (year - 1) / 400

/-- The weekday of the first of January, Monday being 0. -/
def firstWeekday (year : Nat) : Nat := daysBeforeYear year % 7

/-- The years with 53 ISO weeks. -/
def isLongYear (year : Nat) : Bool :=
  firstWeekday year = 3 || (firstWeekday year = 2 && Calendar.isLeap year)

/-- The date at a place in its year, counted from 1. -/
def ofDayOfYear? (year place : Nat) : Option Date :=
  let rec search (month remaining : Nat) : Nat → Option Date
    | 0 => none
    | months + 1 =>
        if remaining ≤ Calendar.daysInMonth year month then of? year month remaining
        else search (month + 1) (remaining - Calendar.daysInMonth year month) months
  search 1 place 12

/-- `date.fromisocalendar(year, week, day)`; `none` where it raises `ValueError`. -/
def ofWeek? (year week day : Nat) : Option Date :=
  if 1 ≤ year ∧ year ≤ 9999 ∧ 1 ≤ day ∧ day ≤ 7 ∧ 1 ≤ week ∧
      (week ≤ 52 ∨ week = 53 ∧ isLongYear year = true) then
    -- The first Monday of week one, relative to the first of January.
    let monday : Int := (if firstWeekday year ≤ 3 then 1 else 8) - (firstWeekday year : Int)
    let place := monday + ((week : Int) - 1) * 7 + ((day : Int) - 1)
    if place < 1 then
      ofDayOfYear? (year - 1) (place + Calendar.daysInYear (year - 1)).toNat
    else if place > Calendar.daysInYear year then
      ofDayOfYear? (year + 1) (place - Calendar.daysInYear year).toNat
    else ofDayOfYear? year place.toNat
  else none

/-! ## ISO text -/

/-- The decimal digits of a number, padded with zeros. -/
def padded (width number : Nat) : Text :=
  let digits := Nat.toDigits 10 number
  List.replicate (width - digits.length) '0' ++ digits

/-- A padded number is no longer than it was to be, or than its digits are. -/
theorem length_padded_le {width number digits : Nat} (hdigits : 0 < digits)
    (hnumber : number < 10 ^ digits) : (padded width number).length ≤ max width digits := by
  have hlength := (Nat.length_toDigits_le_iff (by decide) hdigits).mpr hnumber
  simp only [padded, List.length_append, List.length_replicate]
  omega

/-- `value.isoformat()` -/
def isoformat (date : Date) : Text :=
  padded 4 date.year ++ '-' :: padded 2 date.month ++ '-' :: padded 2 date.day

/-- A number of exactly so many ASCII digits, and what follows it. -/
def readNumber (width : Nat) (text : Text) : Option (Nat × Text) :=
  let digits := text.take width
  if digits.length = width ∧ digits.all Char.isDigit = true then
    some (Nat.ofDigitChars 10 digits 0, text.drop width)
  else none

/-- The weekday after the week, if there is one. -/
def readWeekday (separated : Bool) (text : Text) : Option (Nat × Text) :=
  match text with
  | [] => some (1, [])
  | '-' :: rest => if separated then readNumber 1 rest else none
  | _ => if separated then none else readNumber 1 text

/-- `date.fromisoformat(text)`; `none` where it raises `ValueError`. -/
def fromisoformat (text : Text) : Option Date :=
  if text.length = 7 ∨ text.length = 8 ∨ text.length = 10 then do
    let (year, afterYear) ← readNumber 4 text
    let separated := afterYear.head? = some '-'
    let rest := if separated then afterYear.tail else afterYear
    if rest.head? = some 'W' then
      let (week, afterWeek) ← readNumber 2 rest.tail
      let (day, afterDay) ← readWeekday separated afterWeek
      if afterDay = [] then ofWeek? year week day else none
    else
      let (month, afterMonth) ← readNumber 2 rest
      if separated && afterMonth.head? ≠ some '-' then none
      else
        let (day, afterDay) ← readNumber 2 (if separated then afterMonth.tail else afterMonth)
        if afterDay = [] then of? year month day else none
  else none

end Date

namespace Instant

/-! ## Instants -/

/-- The year, month and day of a day counted from 1970-01-01. The days are grouped in
eras of 400 years that begin on the first of March. -/
def civil (day : Int) : Nat × Nat × Nat :=
  let era := (day + 719468) / 146097
  let dayOfEra := ((day + 719468) % 146097).toNat
  let yearOfEra := (dayOfEra - dayOfEra / 1460 + dayOfEra / 36524 - dayOfEra / 146096) / 365
  let dayOfYear := dayOfEra - (365 * yearOfEra + yearOfEra / 4 - yearOfEra / 100)
  let shiftedMonth := (5 * dayOfYear + 2) / 153
  let month := if shiftedMonth < 10 then shiftedMonth + 3 else shiftedMonth - 9
  let year := (era * 400 + yearOfEra).toNat + if month ≤ 2 then 1 else 0
  (year, month, dayOfYear - (153 * shiftedMonth + 2) / 5 + 1)

/-- `instant.isoformat()` of a datetime in UTC, as the database returns it; the
microseconds are written where there are any. -/
def isoformat (instant : Int) : Text :=
  let (year, month, day) := civil (instant / 86400000000)
  let time := (instant % 86400000000).toNat
  let micros := time % 1000000
  Date.padded 4 year ++ '-' :: Date.padded 2 month ++ '-' :: Date.padded 2 day ++
    'T' :: Date.padded 2 (time / 3600000000) ++ ':' :: Date.padded 2 (time / 60000000 % 60) ++
    ':' :: Date.padded 2 (time / 1000000 % 60) ++
    (if micros = 0 then [] else '.' :: Date.padded 6 micros) ++ "+00:00".toList

/-- The last instant of a `datetime`. -/
def latest : Int := 253402300799999999

/-- The numbers `civil` gives for a day before the year 100,000 are short. -/
theorem civil_lt {day : Int} (hday : day < 36000000) :
    (civil day).1 < 10 ^ 6 ∧ (civil day).2.1 < 10 ^ 6 ∧ (civil day).2.2 < 10 ^ 6 := by
  have hera : (day + 719468) / 146097 ≤ 300 := by omega
  have hdayOfEra : ((day + 719468) % 146097).toNat < 146097 := by omega
  simp only [civil]
  generalize (day + 719468) / 146097 = era at hera ⊢
  generalize ((day + 719468) % 146097).toNat = dayOfEra at hdayOfEra ⊢
  have hyearOfEra : (dayOfEra - dayOfEra / 1460 + dayOfEra / 36524 - dayOfEra / 146096) / 365 <
      500 := by
    omega
  generalize (dayOfEra - dayOfEra / 1460 + dayOfEra / 36524 - dayOfEra / 146096) / 365 =
    yearOfEra at hyearOfEra ⊢
  have hdayOfYear : dayOfEra - (365 * yearOfEra + yearOfEra / 4 - yearOfEra / 100) < 146097 := by
    omega
  generalize dayOfEra - (365 * yearOfEra + yearOfEra / 4 - yearOfEra / 100) =
    dayOfYear at hdayOfYear ⊢
  refine ⟨?_, ?_, ?_⟩
  · generalize (if (5 * dayOfYear + 2) / 153 < 10 then (5 * dayOfYear + 2) / 153 + 3
      else (5 * dayOfYear + 2) / 153 - 9) = month
    split
    · omega
    · omega
  · split
    · omega
    · omega
  · omega

theorem isoformat_ne_nil (instant : Int) : isoformat instant ≠ [] := by
  simp [isoformat]

/-- The text of an instant that is no more than a few years after the last `datetime`. -/
theorem length_isoformat_le {instant : Int} (hinstant : instant ≤ latest + 366 * 86400000000) :
    (isoformat instant).length ≤ 100 := by
  obtain ⟨hyear, hmonth, hday⟩ : (civil (instant / 86400000000)).1 < 10 ^ 6 ∧
      (civil (instant / 86400000000)).2.1 < 10 ^ 6 ∧
        (civil (instant / 86400000000)).2.2 < 10 ^ 6 := by
    apply civil_lt
    simp only [latest] at hinstant
    omega
  have hfield : ∀ number < 10 ^ 11, ∀ width ≤ 11, (Date.padded width number).length ≤ 11 := by
    intro number hnumber width hwidth
    have hlength := @Date.length_padded_le width number 11 (by decide) hnumber
    omega
  have hclock : (instant % 86400000000).toNat < 10 ^ 11 := by omega
  simp only [isoformat]
  generalize civil (instant / 86400000000) = date at hyear hmonth hday ⊢
  generalize (instant % 86400000000).toNat = time at hclock ⊢
  obtain ⟨year, month, day⟩ := date
  simp only at hyear hmonth hday
  have hyearLength := hfield _ (Nat.lt_trans hyear (by decide)) 4 (by decide)
  have hmonthLength := hfield _ (Nat.lt_trans hmonth (by decide)) 2 (by decide)
  have hdayLength := hfield _ (Nat.lt_trans hday (by decide)) 2 (by decide)
  have hhours := hfield (time / 3600000000) (by omega) 2 (by decide)
  have hminutes := hfield (time / 60000000 % 60) (by omega) 2 (by decide)
  have hseconds := hfield (time / 1000000 % 60) (by omega) 2 (by decide)
  have hmicros := hfield (time % 1000000) (by omega) 6 (by decide)
  have hfraction : (if time % 1000000 = 0 then []
      else '.' :: Date.padded 6 (time % 1000000)).length ≤ 12 := by
    split
    · exact Nat.zero_le 12
    · exact Nat.succ_le_succ hmicros
  have hzone : "+00:00".toList.length = 6 := by decide
  simp only [List.length_append, List.length_cons]
  omega
end Instant

end BusinessAssistant.Domain
