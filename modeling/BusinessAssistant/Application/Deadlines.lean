/-
# Deadlines in business time

`business_due_at` goes through the spans of the coming dates with a cursor and what is left
of the response time. Where the local date never moves back and the openings of a date
resolve in order, the deadline is the first instant by which so much business time has
passed, so that deadlines are monotone and add up.
-/

import BusinessAssistant.Application.BusinessTime
import BusinessAssistant.Foundation.BusyTime

namespace BusinessAssistant.Application

open BusinessAssistant.Domain BusinessAssistant.Foundation BusinessAssistant.Foundation.BusyTime

/-- `business_due_at` with a search horizon. -/
def businessDueWithin (schedule : BusinessSchedule) (instant serviceTime searchHorizonDays : Int) :
    Except Failure Int :=
  if serviceTime ≤ 0 then throw (.invalidSchedule "Business response time must be positive")
  else
    spendDays schedule (searchHorizonDays + 1).toNat
      (Wall.date (schedule.timezone.astimezone instant).naive)
      { cursor := instant, remaining := serviceTime }

variable {schedule : BusinessSchedule} {localDate : Int}

/-! ## The spans that are searched -/

/-- The spans of a date, in the order of its intervals. -/
def SpansOn (schedule : BusinessSchedule) (localDate : Int) (spans : List (Int × Int)) : Prop :=
  ∃ day, effectiveDay schedule localDate = .ok day ∧
    List.Forall₂ (fun interval span =>
      resolveLocalBoundary (Wall.combine localDate interval.1) schedule.timezone true =
          .ok span.1 ∧
        resolveLocalBoundary (Wall.combine localDate interval.2) schedule.timezone false =
          .ok span.2) day.intervals spans

/-- The spans of some dates in a row. -/
inductive SpansFrom (schedule : BusinessSchedule) : Nat → Int → List (Int × Int) → Prop
  | none (localDate : Int) : SpansFrom schedule 0 localDate []
  | day {dates : Nat} {localDate : Int} {spans later : List (Int × Int)}
      (hspans : SpansOn schedule localDate spans)
      (hlater : SpansFrom schedule dates (localDate + 1) later) :
      SpansFrom schedule (dates + 1) localDate (spans ++ later)

theorem spend_append (first second : List (Int × Int)) (cursor remaining : Int) :
    spend (first ++ second) cursor remaining =
      match spend first cursor remaining with
      | .inl due => .inl due
      | .inr (cursor, remaining) => spend second cursor remaining := by
  induction first generalizing cursor remaining with
  | nil => rfl
  | cons span rest ih =>
      simp only [List.cons_append, spend]
      split
      · exact ih cursor remaining
      · split
        · rfl
        · exact ih _ _

/-- The state of a search as the library has it. -/
def DueSearch.ofSpend : Int ⊕ (Int × Int) → Int ⊕ DueSearch :=
  Sum.map id fun state => { cursor := state.1, remaining := state.2 }

/-- The intervals of a date are used up as their spans are. -/
theorem spendIntervals_eq {zone : ZoneInfo} {intervals : List (TimeOfDay × TimeOfDay)}
    {spans : List (Int × Int)}
    (hspans : List.Forall₂ (fun interval span =>
      resolveLocalBoundary (Wall.combine localDate interval.1) zone true = .ok span.1 ∧
        resolveLocalBoundary (Wall.combine localDate interval.2) zone false = .ok span.2)
      intervals spans) (cursor remaining : Int) :
    spendIntervals zone localDate intervals { cursor := cursor, remaining := remaining } =
      .ok (DueSearch.ofSpend (spend spans cursor remaining)) := by
  induction hspans generalizing cursor remaining with
  | nil => rfl
  | @cons interval span rest later hspan _ ih =>
      obtain ⟨hstart, hstop⟩ := hspan
      have hstep : spendInterval zone localDate { cursor := cursor, remaining := remaining }
          interval =
            if max cursor span.1 ≥ span.2 then .ok (.inr ⟨cursor, remaining⟩)
            else if remaining ≤ span.2 - max cursor span.1 then
              .ok (.inl (max cursor span.1 + remaining))
            else .ok (.inr ⟨span.2, remaining - (span.2 - max cursor span.1)⟩) := by
        unfold spendInterval
        rw [hstart, hstop]
        rfl
      rw [spendIntervals, hstep, spend]
      by_cases hused : max cursor span.1 ≥ span.2
      · simp only [if_pos hused]
        exact ih cursor remaining
      · by_cases hfits : remaining ≤ span.2 - max cursor span.1
        · simp only [if_neg hused, if_pos hfits]
          rfl
        · simp only [if_neg hused, if_neg hfits]
          exact ih span.2 (remaining - (span.2 - max cursor span.1))

/-- A date with effective hours has its spans. -/
theorem exists_spansOn {day : EffectiveDay} (hday : effectiveDay schedule localDate = .ok day) :
    ∃ spans, SpansOn schedule localDate spans := by
  have hspans : ∀ intervals : List (TimeOfDay × TimeOfDay), intervals ⊆ day.intervals →
      ∃ spans : List (Int × Int), List.Forall₂ (fun interval span =>
        resolveLocalBoundary (Wall.combine localDate interval.1) schedule.timezone true =
            .ok span.1 ∧
          resolveLocalBoundary (Wall.combine localDate interval.2) schedule.timezone false =
            .ok span.2) intervals spans := by
    intro intervals hsub
    induction intervals with
    | nil => exact ⟨[], .nil⟩
    | cons interval rest ih =>
        obtain ⟨hinterval, hrest⟩ := List.cons_subset.mp hsub
        obtain ⟨start, stop, hstart, hstop, _⟩ := exists_span_of_mem hday hinterval
        obtain ⟨spans, hspans⟩ := ih hrest
        exact ⟨(start, stop) :: spans, .cons ⟨hstart, hstop⟩ hspans⟩
  obtain ⟨spans, hspans⟩ := hspans day.intervals fun _ hinterval => hinterval
  exact ⟨spans, day, hday, hspans⟩

/-- A deadline that is found is found in the spans of the dates up to it. -/
theorem spans_of_spendDays {dates : Nat} {cursor remaining due : Int}
    (hdue : spendDays schedule dates localDate { cursor := cursor, remaining := remaining } =
      .ok due) :
    ∃ count spans, SpansFrom schedule count localDate spans ∧
      spend spans cursor remaining = .inl due := by
  induction dates generalizing localDate cursor remaining with
  | zero => cases hdue
  | succ dates ih =>
      obtain ⟨day, hday, hrest⟩ := except_bind_eq_ok.mp hdue
      obtain ⟨spans, found, hfound, hspans⟩ := exists_spansOn hday
      cases hday.symm.trans hfound
      obtain ⟨outcome, houtcome, hend⟩ := except_bind_eq_ok.mp hrest
      rw [spendIntervals_eq hspans] at houtcome
      cases houtcome
      cases hspend : spend spans cursor remaining with
      | inl found =>
          rw [hspend] at hend
          cases hend
          refine ⟨1, spans ++ [], .day ⟨day, hday, hspans⟩ (.none _), ?_⟩
          rw [List.append_nil]
          exact hspend
      | inr state =>
          rw [hspend] at hend
          obtain ⟨count, later, hlater, hfound⟩ := ih hend
          refine ⟨count + 1, spans ++ later, .day ⟨day, hday, hspans⟩ hlater, ?_⟩
          rw [spend_append, hspend]
          exact hfound

/-! ## The order of the spans -/

/-- The local date never moves back. -/
def DatesAdvance (schedule : BusinessSchedule) : Prop :=
  ∀ first second, first ≤ second →
    Wall.date (readingIn schedule first) ≤ Wall.date (readingIn schedule second)

/-- The openings of a date resolve in the order of its intervals. -/
def OpeningsInOrder (schedule : BusinessSchedule) : Prop :=
  ∀ localDate spans, SpansOn schedule localDate spans → spans.Pairwise fun a b => a.1 ≤ b.1

/-- The spans of a date are those of its intervals. -/
theorem SpansOn.mem_iff {spans : List (Int × Int)} (h : SpansOn schedule localDate spans)
    {span : Int × Int} : span ∈ spans ↔ BusinessSpanOn schedule localDate span.1 span.2 := by
  obtain ⟨day, hday, hspans⟩ := h
  constructor
  · intro hspan
    obtain ⟨index, hindex, rfl⟩ := List.getElem_of_mem hspan
    have hlength := hspans.length_eq
    obtain ⟨hstart, hstop⟩ := hspans.get (by omega) hindex
    exact ⟨day, hday, _, List.getElem_mem _, hstart, hstop⟩
  · intro hspan
    obtain ⟨other, hother, interval, hinterval, hstart, hstop⟩ := hspan
    cases hday.symm.trans hother
    obtain ⟨index, hindex, rfl⟩ := List.getElem_of_mem hinterval
    have hlength := hspans.length_eq
    obtain ⟨hfirst, hlast⟩ := hspans.get hindex (by omega)
    have hsame : spans[index] = span :=
      Prod.ext (Except.ok.inj (hfirst.symm.trans hstart)) (Except.ok.inj (hlast.symm.trans hstop))
    rw [← hsame]
    exact List.getElem_mem _

/-- The spans of some dates in a row are those of the intervals of these dates. -/
theorem SpansFrom.mem_iff {count : Nat} {spans : List (Int × Int)}
    (h : SpansFrom schedule count localDate spans) {span : Int × Int} :
    span ∈ spans ↔ ∃ date, localDate ≤ date ∧ date < localDate + count ∧
      BusinessSpanOn schedule date span.1 span.2 := by
  induction h with
  | none localDate =>
      refine iff_of_false List.not_mem_nil ?_
      intro hsome
      obtain ⟨date, hfrom, hto, _⟩ := hsome
      omega
  | @day dates localDate spans later hspans _ ih =>
      rw [List.mem_append, hspans.mem_iff, ih]
      constructor
      · intro hor
        rcases hor with hfirst | ⟨date, hfrom, hto, hspan⟩
        · exact ⟨localDate, le_rfl, by omega, hfirst⟩
        · exact ⟨date, by omega, by omega, hspan⟩
      · intro hsome
        obtain ⟨date, hfrom, hto, hspan⟩ := hsome
        rcases Int.le_iff_lt_or_eq.mp hfrom with hlater | rfl
        · exact .inr ⟨date, by omega, by omega, hspan⟩
        · exact .inl hspan

/-- A span has a length. -/
theorem BusinessSpanOn.positive {start stop : Int}
    (h : BusinessSpanOn schedule localDate start stop) : start < stop := by
  obtain ⟨day, hday, interval, hinterval, hstart, hstop⟩ := h
  obtain ⟨first, last, hfirst, hlast, hlt⟩ := exists_span_of_mem hday hinterval
  cases hstart.symm.trans hfirst
  cases hstop.symm.trans hlast
  exact hlt

section Ordered

variable (hdates : DatesAdvance schedule)
include hdates

/-- What reads on a later date comes later. -/
theorem DatesAdvance.lt {first second : Int}
    (hlt : Wall.date (readingIn schedule first) < Wall.date (readingIn schedule second)) :
    first < second := by
  by_contra hle
  have hback := hdates second first (by omega)
  omega

/-- The spans of dates in a row begin in order. -/
theorem SpansFrom.ordered (hopenings : OpeningsInOrder schedule) {count : Nat}
    {spans : List (Int × Int)} (h : SpansFrom schedule count localDate spans) :
    spans.Pairwise fun a b => a.1 ≤ b.1 := by
  induction h with
  | none localDate => exact .nil
  | @day dates localDate spans later hspans hlater ih =>
      rw [List.pairwise_append]
      refine ⟨hopenings localDate spans hspans, ih, ?_⟩
      intro first hfirst second hsecond
      obtain ⟨date, hfrom, _, hspan⟩ := hlater.mem_iff.mp hsecond
      have hhere := (hspans.mem_iff.mp hfirst).dates.1
      have hthere := hspan.dates.1
      exact (hdates.lt (by omega)).le

/-- From an instant on, business time lies in the spans of the dates from the instant's
date, or after all of them. -/
theorem SpansFrom.remaining {count : Nat} {spans : List (Int × Int)} {start : Int}
    (h : SpansFrom schedule count (Wall.date (readingIn schedule start)) spans) :
    Remaining (InBusiness schedule) spans start := by
  intro instant hfrom hbusiness
  obtain ⟨opening, closing, ⟨date, hspan⟩, hopened, hcloses⟩ := hbusiness
  have hlate := hdates start closing (by omega)
  rw [hspan.dates.2] at hlate
  by_cases hsearched : date < Wall.date (readingIn schedule start) + count
  · exact .inl ⟨(opening, closing), h.mem_iff.mpr ⟨date, hlate, hsearched, hspan⟩, hopened, hcloses⟩
  · refine .inr fun other hother => ?_
    obtain ⟨earlier, _, hto, hearlier⟩ := h.mem_iff.mp hother
    have hstop := hearlier.dates.2
    have hstart := hspan.dates.1
    have hbefore : other.2 < opening := hdates.lt (by omega)
    omega

/-- A deadline is the first instant by which the response time has passed. -/
theorem isDue_of_businessDueWithin (hopenings : OpeningsInOrder schedule)
    {start serviceTime horizon due : Int}
    (hdue : businessDueWithin schedule start serviceTime horizon = .ok due) :
    IsDue (InBusiness schedule) start serviceTime due := by
  unfold businessDueWithin at hdue
  by_cases hpositive : serviceTime ≤ 0
  · rw [if_pos hpositive] at hdue
    cases hdue
  rw [if_neg hpositive] at hdue
  obtain ⟨count, spans, hspans, hspend⟩ := spans_of_spendDays hdue
  refine isDue_of_spend ?_ (hspans.ordered hdates hopenings) ?_ (hspans.remaining hdates)
    (by omega) hspend
  · intro span hspan
    obtain ⟨_, _, _, hon⟩ := hspans.mem_iff.mp hspan
    exact hon.positive
  · intro instant hinstant
    obtain ⟨span, hspan, hopened, hcloses⟩ := hinstant
    obtain ⟨date, _, _, hon⟩ := hspans.mem_iff.mp hspan
    exact ⟨span.1, span.2, ⟨date, hon⟩, hopened, hcloses⟩

end Ordered

/-- Where the local date never moves back and the openings of each date resolve in the
order of its intervals, a deadline is the first instant by which the response time has
passed in business time. Deadlines are monotone in the start and in the response time, and
one after the other they add up. -/
theorem deadlines_add_up (schedule : BusinessSchedule) (hdates : DatesAdvance schedule)
    (hopenings : OpeningsInOrder schedule) :
    (∀ start serviceTime horizon due,
      businessDueWithin schedule start serviceTime horizon = .ok due →
        start < due ∧ busyTime (InBusiness schedule) start due = serviceTime ∧
          ∀ instant, start ≤ instant → instant < due →
            busyTime (InBusiness schedule) start instant ≠ serviceTime) ∧
    (∀ start later serviceTime more horizon horizon' due due',
      businessDueWithin schedule start serviceTime horizon = .ok due →
      businessDueWithin schedule later more horizon' = .ok due' →
        (start ≤ later → serviceTime = more → due ≤ due') ∧
          (start = later → serviceTime ≤ more → due ≤ due')) ∧
    ∀ start first second horizon horizon' horizon'' middle due due',
      businessDueWithin schedule start first horizon = .ok middle →
      businessDueWithin schedule middle second horizon' = .ok due →
      businessDueWithin schedule start (first + second) horizon'' = .ok due' → due = due' := by
  refine ⟨?_, ?_, ?_⟩
  · intro start serviceTime horizon due hdue
    have hfalls := isDue_of_businessDueWithin hdates hopenings hdue
    exact ⟨hfalls.after, hfalls.passed,
      fun instant hfrom hto => (hfalls.first instant hfrom hto).ne⟩
  · intro start later serviceTime more horizon horizon' due due' hdue hdue'
    have hfalls := isDue_of_businessDueWithin hdates hopenings hdue
    have hfalls' := isDue_of_businessDueWithin hdates hopenings hdue'
    constructor
    · intro hlater hsame
      subst hsame
      exact hfalls.mono_start hfalls' hlater
    · intro hsame hmore
      subst hsame
      exact hfalls.mono_amount hfalls' hmore
  · intro start first second horizon horizon' horizon'' middle due due' hfirst hsecond hdue
    have hfalls := isDue_of_businessDueWithin hdates hopenings hfirst
    have hrest := isDue_of_businessDueWithin hdates hopenings hsecond
    exact (hfalls.add hrest).unique (isDue_of_businessDueWithin hdates hopenings hdue)

namespace SmallShop

/-- The morning's hours have at most one interval a date. -/
theorem openingsInOrder_mornings : OpeningsInOrder mornings := by
  intro localDate spans hspans
  obtain ⟨day, hday, hspans⟩ := hspans
  have hshort : day.intervals.length ≤ 1 := by
    rcases effectiveDay_cases hday with hnone | ⟨candidates, hcandidates, hpieces, _⟩
    · rw [hnone]
      exact Nat.zero_le 1
    · rcases hcandidates with rfl | ⟨_, hoverride, _⟩
      · by_cases hthursday : morning.weekday = weekday localDate
        · rw [show mornings.intervals.filter (·.weekday = weekday localDate) = [morning] from
            List.filter_cons_of_pos (decide_eq_true hthursday)] at hpieces
          have hone : [(morning.startLocal, morning.endLocal)] = day.intervals :=
            Except.ok.inj hpieces
          rw [← hone]
          exact le_rfl
        · rw [show mornings.intervals.filter (·.weekday = weekday localDate) = [] from
            List.filter_cons_of_neg (by simpa using hthursday)] at hpieces
          have hnone : [] = day.intervals := Except.ok.inj hpieces
          rw [← hnone]
          exact Nat.zero_le 1
      · cases hoverride
  rw [hspans.length_eq] at hshort
  match spans, hshort with
  | [], _ => exact .nil
  | [_], _ => exact List.pairwise_singleton _ _

/-- The clock is put forward an hour at one o'clock and back a quarter of an hour later. -/
def restless : ZoneInfo where
  key := "Restless"
  initialOffset := 0
  transitions := [(3600000000, minutes 60), (4500000000, 0)]

/-- Thursdays from half past one to a quarter to two and from five to twenty past two. -/
def twice : BusinessSchedule where
  id := 1
  tenantId := 1
  timezone := restless
  intervals :=
    [{ weekday := 3
       startLocal := 5400000000
       endLocal := 6300000000
       intervalType := .open
       startPrecedesEnd := by decide },
     { weekday := 3
       startLocal := 7500000000
       endLocal := 8400000000
       intervalType := .open
       startPrecedesEnd := by decide }]
  overrides := []
  active := true
  intervalsValid := by decide

theorem reading_twice (instant : Int) :
    readingIn twice instant = if 3600000000 ≤ instant ∧ instant < 4500000000 then
      instant + 3600000000 else instant := by
  unfold readingIn ZoneInfo.astimezone ZoneInfo.lastTransition twice restless minutes
  simp only [List.foldl_cons, List.foldl_nil]
  split_ifs <;> simp only <;> omega

theorem datesAdvance_twice : DatesAdvance twice := by
  intro first second hle
  rw [reading_twice, reading_twice]
  unfold Wall.date
  split_ifs <;> omega

end SmallShop

/-- Half an hour from midnight of a Thursday on is due at half past nine. -/
theorem deadlines_add_up_in_morning :
    businessDueWithin SmallShop.mornings 0 1800000000 7 = .ok 34200000000 ∧
      busyTime (InBusiness SmallShop.mornings) 0 34200000000 = 1800000000 := by
  have hdue : businessDueWithin SmallShop.mornings 0 1800000000 7 = .ok 34200000000 := by
    decide +kernel
  have hdates : DatesAdvance SmallShop.mornings := by
    intro first second hle
    have hreading : ∀ instant, readingIn SmallShop.mornings instant = instant := Int.add_zero
    rw [hreading, hreading]
    unfold Wall.date
    omega
  obtain ⟨hdeadlines, _⟩ :=
    deadlines_add_up SmallShop.mornings hdates SmallShop.openingsInOrder_mornings
  exact ⟨hdue, (hdeadlines _ _ _ _ hdue).2.1⟩

/-- Five past two, read before half past one, opens the second interval before the first.
Ten minutes from one o'clock on are due after more than half an hour of business time. -/
theorem deadline_after_more_time :
    ∃ schedule start serviceTime horizon due,
      DatesAdvance schedule ∧ 0 < serviceTime ∧
      (∀ offset, 0 ≤ offset → offset ≤ horizon → ∃ day,
        effectiveDay schedule (Wall.date (readingIn schedule start) + offset) = .ok day) ∧
      businessDueWithin schedule start serviceTime horizon = .ok due ∧
      busyTime (InBusiness schedule) start due ≠ serviceTime := by
  have hdue : businessDueWithin SmallShop.twice 3600000000 600000000 1 = .ok 6000000000 := by
    decide +kernel
  have hday : effectiveDay SmallShop.twice 0 =
      .ok ⟨0, [(5400000000, 6300000000), (7500000000, 8400000000)], "weekly", none⟩ := by
    decide +kernel
  have hdays : ∀ offset, 0 ≤ offset → offset ≤ 1 → ∃ day, effectiveDay SmallShop.twice
      (Wall.date (readingIn SmallShop.twice 3600000000) + offset) = .ok day := by
    intro offset hfrom hto
    obtain rfl | rfl : offset = 0 ∨ offset = 1 := by omega
    · exact ⟨_, hday⟩
    · exact ⟨⟨1, [], "weekly", none⟩, by decide +kernel⟩
  have hspan : BusinessSpan SmallShop.twice 3900000000 8400000000 :=
    ⟨0, _, hday, (7500000000, 8400000000), by decide, by decide +kernel, by decide +kernel⟩
  have hopen : busyTime (InBusiness SmallShop.twice) 3900000000 6000000000 =
      6000000000 - 3900000000 := by
    apply busyTime_of_busy (by decide)
    intro instant hfrom hto
    exact ⟨_, _, hspan, hfrom, by omega⟩
  have hmore := @busyTime_anti (InBusiness SmallShop.twice) _ _ _
    (show (3600000000 : Int) ≤ 3900000000 by decide) (show 3900000000 ≤ 6000000000 by decide)
  exact ⟨SmallShop.twice, 3600000000, 600000000, 1, 6000000000, SmallShop.datesAdvance_twice,
    by decide, hdays, hdue, by omega⟩

end BusinessAssistant.Application
