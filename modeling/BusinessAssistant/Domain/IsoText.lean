/-
# ISO texts of dates and times of day

`isoformat` writes the fields of a date or a time padded with zeros, and `fromisoformat`
reads them back.
-/

import BusinessAssistant.Domain.Calendar
import BusinessAssistant.Domain.DecimalText
import BusinessAssistant.Domain.Time

namespace BusinessAssistant.Domain

/-! ## Padded numbers -/

namespace Date

theorem padded_digits (width number : Nat) : Text.Digits (padded width number) :=
  (Text.digits_replicate_zero _).append (Text.digits_ofNat number)

theorem length_padded {width number : Nat} (hwidth : 0 < width) (hnumber : number < 10 ^ width) :
    (padded width number).length = width := by
  have hlength := (Nat.length_toDigits_le_iff (by decide) hwidth).mpr hnumber
  simp only [padded, List.length_append, List.length_replicate]
  omega

theorem ofDigitChars_padded (width number : Nat) :
    Nat.ofDigitChars 10 (padded width number) 0 = number := by
  simp only [padded]
  rw [Nat.ofDigitChars_append, Nat.ofDigitChars_replicate_zero, Nat.mul_zero,
    Nat.ofDigitChars_ten_toDigits]

/-- A padded number is read back. -/
theorem readNumber_padded {width number : Nat} (hwidth : 0 < width)
    (hnumber : number < 10 ^ width) (rest : Text) :
    readNumber width (padded width number ++ rest) = some (number, rest) := by
  have hlength := length_padded hwidth hnumber
  have htake : (padded width number ++ rest).take width = padded width number :=
    List.take_left' hlength
  have hdrop : (padded width number ++ rest).drop width = rest := List.drop_left' hlength
  have hdigits : (padded width number).all Char.isDigit = true :=
    List.all_eq_true.mpr (padded_digits width number)
  simp only [readNumber]
  rw [htake, hdrop, if_pos ⟨hlength, hdigits⟩, ofDigitChars_padded]

theorem padded_ne_nil {width number : Nat} : padded width number ≠ [] := by
  simp only [padded, ne_eq, List.append_eq_nil_iff, not_and]
  intro _
  exact Nat.toDigits_ne_nil

/-- A padded number does not begin with a letter or a mark. -/
theorem head_padded_ne {width number : Nat} {char : Char} (hchar : char.isDigit = false)
    (rest : Text) : (padded width number ++ rest).head? ≠ some char := by
  intro hhead
  obtain ⟨first, others, hpadded⟩ := List.exists_cons_of_ne_nil (@padded_ne_nil width number)
  rw [hpadded, List.cons_append, List.head?_cons, Option.some_inj] at hhead
  have hdigit := padded_digits width number first (hpadded ▸ List.mem_cons_self)
  rw [hhead, hchar] at hdigit
  cases hdigit

/-! ## Dates -/

/-- A date is read back from its text. -/
theorem fromisoformat_isoformat (date : Date) : fromisoformat date.isoformat = some date := by
  obtain ⟨year, month, day, hyear, hmonth, hday⟩ := date
  have hlast : day ≤ 31 := by
    refine hday.2.trans ?_
    unfold Calendar.daysInMonth
    split_ifs <;> omega
  have hyears : year < 10 ^ 4 := by omega
  have hmonths : month < 10 ^ 2 := by omega
  have hdays : day < 10 ^ 2 := by omega
  have hlength : (isoformat ⟨year, month, day, hyear, hmonth, hday⟩).length = 10 := by
    simp only [isoformat, List.length_append, List.length_cons, length_padded (by decide) hyears,
      length_padded (by decide) hmonths, length_padded (by decide) hdays]
  have hfirst := readNumber_padded (by decide) hyears ('-' :: (padded 2 month ++ '-' :: padded 2 day))
  have hsecond := readNumber_padded (by decide) hmonths ('-' :: padded 2 day)
  have hthird := readNumber_padded (by decide) hdays []
  rw [List.append_nil] at hthird
  have hweek : (padded 2 month ++ '-' :: padded 2 day).head? ≠ some 'W' :=
    head_padded_ne (by decide) _
  unfold fromisoformat
  rw [if_pos (.inr (.inr hlength))]
  simp only [isoformat, List.append_assoc, List.cons_append, hfirst, Option.bind_eq_bind,
    Option.bind_some, List.head?_cons, List.tail_cons, if_true, hweek, if_false, hsecond, hthird,
    decide_true, ne_eq, not_true_eq_false, decide_false, Bool.and_false, Bool.false_eq_true]
  rw [of?, dif_pos hyear, dif_pos hmonth, dif_pos hday]

end Date

/-! ## Times of day -/

namespace TimeOfDay

/-- `time.isoformat()`; the microseconds are written where there are any. -/
def isoformat (time : TimeOfDay) : Text :=
  Date.padded 2 (time.val / 3600000000) ++ ':' :: Date.padded 2 (time.val / 60000000 % 60) ++
    ':' :: Date.padded 2 (time.val / 1000000 % 60) ++
    if time.val % 1000000 = 0 then [] else '.' :: Date.padded 6 (time.val % 1000000)

/-- `time(hour, minute, second, microsecond)`; `none` where it raises `ValueError`. -/
def of? (hour minute second microsecond : Nat) : Option TimeOfDay :=
  if h : hour < 24 ∧ minute < 60 ∧ second < 60 ∧ microsecond < 1000000 then
    some ⟨hour * 3600000000 + minute * 60000000 + second * 1000000 + microsecond, by omega⟩
  else none

/-- The microseconds of a fraction of a second; digits after the sixth are dropped. -/
def readFraction (digits : Text) : Option Nat :=
  if digits ≠ [] ∧ digits.all Char.isDigit = true then
    some (Nat.ofDigitChars 10 ((digits ++ List.replicate 5 '0').take 6) 0)
  else none

/-- `time.fromisoformat(text)`, of a text without an offset; `none` where it raises
`ValueError`, and for a text with an offset, whose time is not naive. -/
def fromisoformat (text : Text) : Option TimeOfDay := do
  let (hour, afterHour) ← Date.readNumber 2 (if text.head? = some 'T' then text.tail else text)
  if afterHour = [] then of? hour 0 0 0
  else
    let separated := afterHour.head? = some ':'
    let (minute, afterMinute) ← Date.readNumber 2 (if separated then afterHour.tail else afterHour)
    if afterMinute = [] then of? hour minute 0 0
    else if separated && afterMinute.head? ≠ some ':' then none
    else
      let (second, afterSecond) ←
        Date.readNumber 2 (if separated then afterMinute.tail else afterMinute)
      match afterSecond with
      | [] => of? hour minute second 0
      | mark :: digits =>
          if mark = '.' ∨ mark = ',' then do
            let microsecond ← readFraction digits
            of? hour minute second microsecond
          else none

theorem of?_fields (time : TimeOfDay) :
    of? (time.val / 3600000000) (time.val / 60000000 % 60) (time.val / 1000000 % 60)
      (time.val % 1000000) = some time := by
  have hday := time.isLt
  rw [of?, dif_pos (by omega), Option.some_inj, Fin.ext_iff]
  simp only
  omega

theorem readFraction_padded {microsecond : Nat} (hmicrosecond : microsecond < 10 ^ 6) :
    readFraction (Date.padded 6 microsecond) = some microsecond := by
  have hdigits : (Date.padded 6 microsecond).all Char.isDigit = true :=
    List.all_eq_true.mpr (Date.padded_digits 6 microsecond)
  rw [readFraction, if_pos ⟨Date.padded_ne_nil, hdigits⟩,
    List.take_left' (Date.length_padded (by decide) hmicrosecond), Date.ofDigitChars_padded]

/-- A time is read back from its text. -/
theorem fromisoformat_isoformat (time : TimeOfDay) : fromisoformat (isoformat time) = some time := by
  have hday := time.isLt
  have hhours : time.val / 3600000000 < 10 ^ 2 := by omega
  have hminutes : time.val / 60000000 % 60 < 10 ^ 2 := by omega
  have hseconds : time.val / 1000000 % 60 < 10 ^ 2 := by omega
  have hmicros : time.val % 1000000 < 10 ^ 6 := by omega
  have hmark : (Date.padded 2 (time.val / 3600000000) ++ ':' ::
      (Date.padded 2 (time.val / 60000000 % 60) ++ ':' ::
        (Date.padded 2 (time.val / 1000000 % 60) ++
          if time.val % 1000000 = 0 then [] else '.' :: Date.padded 6 (time.val % 1000000)))).head? ≠
      some 'T' :=
    Date.head_padded_ne (by decide) _
  unfold fromisoformat isoformat
  simp only [List.append_assoc, List.cons_append, hmark, if_false,
    Date.readNumber_padded (by decide) hhours, Date.readNumber_padded (by decide) hminutes,
    Date.readNumber_padded (by decide) hseconds, Option.bind_eq_bind, Option.bind_some,
    reduceCtorEq, List.head?_cons, List.tail_cons, decide_true, if_true, ne_eq, not_true_eq_false,
    decide_false, Bool.and_false, Bool.false_eq_true]
  have hfields := of?_fields time
  by_cases hwhole : time.val % 1000000 = 0
  · rw [if_pos hwhole]
    rw [hwhole] at hfields
    exact hfields
  · rw [if_neg hwhole]
    simp only [true_or, if_true, readFraction_padded hmicros, Option.bind_some]
    exact hfields

end TimeOfDay

end BusinessAssistant.Domain
