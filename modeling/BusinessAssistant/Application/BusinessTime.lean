/-
# Opening hours in elapsed time

An effective interval opens at the first instant its opening reading denotes and closes at
the last one of its closing reading. `is_open` compares readings instead. The two agree at
an instant unless the clock, put back in between, has carried a boundary to its other side.
-/

import BusinessAssistant.Application.OpeningHours
import BusinessAssistant.Foundation.Folds
import BusinessAssistant.Foundation.Transaction

namespace BusinessAssistant.Application

open BusinessAssistant.Domain BusinessAssistant.Foundation BusinessAssistant.Foundation.Clock

/-! ## Spans of business time -/

/-- An effective interval of a date from its resolved opening to its resolved closing. -/
def BusinessSpanOn (schedule : BusinessSchedule) (localDate start stop : Int) : Prop :=
  ∃ day, effectiveDay schedule localDate = .ok day ∧ ∃ interval ∈ day.intervals,
    resolveLocalBoundary (Wall.combine localDate interval.1) schedule.timezone true = .ok start ∧
      resolveLocalBoundary (Wall.combine localDate interval.2) schedule.timezone false = .ok stop

/-- An effective interval of some date. -/
def BusinessSpan (schedule : BusinessSchedule) (start stop : Int) : Prop :=
  ∃ localDate, BusinessSpanOn schedule localDate start stop

/-- The instant counts as business time. -/
def InBusiness (schedule : BusinessSchedule) (instant : Int) : Prop :=
  ∃ start stop, BusinessSpan schedule start stop ∧ start ≤ instant ∧ instant < stop

variable {schedule : BusinessSchedule} {localDate start stop instant : Int}

/-- A resolved boundary reads as the boundary. -/
theorem reading_of_resolved {naive : Int} {zone : ZoneInfo} {opening : Bool}
    (hresolved : resolveLocalBoundary naive zone opening = .ok instant) :
    (zone.astimezone instant).naive = naive := by
  have hmem : instant ∈ ZoneInfo.localCandidates naive zone := by
    unfold resolveLocalBoundary at hresolved
    simp only at hresolved
    split at hresolved
    · rename_i found hfound
      cases hresolved
      cases opening with
      | true => exact List.mem_of_head? hfound
      | false => exact List.mem_of_getLast? hfound
    · cases hresolved
  exact ZoneInfo.astimezone_of_mem_localCandidates hmem

/-- A checked interval has boundaries, and closes after it opens. -/
theorem resolved_of_checkInterval {zone : ZoneInfo} {interval : TimeOfDay × TimeOfDay}
    (hcheck : checkInterval zone localDate interval = .ok ()) :
    ∃ start stop,
      resolveLocalBoundary (Wall.combine localDate interval.1) zone true = .ok start ∧
      resolveLocalBoundary (Wall.combine localDate interval.2) zone false = .ok stop ∧
      start < stop := by
  unfold checkInterval at hcheck
  obtain ⟨start, hstart, hrest⟩ := except_bind_eq_ok.mp hcheck
  obtain ⟨stop, hstop, hrest⟩ := except_bind_eq_ok.mp hrest
  refine ⟨start, stop, hstart, hstop, ?_⟩
  by_contra hle
  rw [if_pos (by omega)] at hrest
  cases hrest

/-- Every effective interval has a span. -/
theorem exists_span_of_mem {day : EffectiveDay} (hday : effectiveDay schedule localDate = .ok day)
    {interval : TimeOfDay × TimeOfDay} (hinterval : interval ∈ day.intervals) :
    ∃ start stop,
      resolveLocalBoundary (Wall.combine localDate interval.1) schedule.timezone true = .ok start ∧
      resolveLocalBoundary (Wall.combine localDate interval.2) schedule.timezone false = .ok stop ∧
      start < stop := by
  rcases effectiveDay_cases hday with hnone | ⟨_, _, _, hcheck⟩
  · rw [hnone] at hinterval
    cases hinterval
  · exact resolved_of_checkInterval (Folds.forM_eq_ok_iff.mp hcheck interval hinterval)

instance : Std.Total pieceLe where
  total first second := by
    simp only [pieceLe, Fin.lt_def, Fin.le_def, Fin.ext_iff]
    omega

instance : IsTrans (TimeOfDay × TimeOfDay) pieceLe where
  trans first second third hfirst hsecond := by
    simp only [pieceLe, Fin.lt_def, Fin.le_def, Fin.ext_iff] at hfirst hsecond ⊢
    omega

/-- The intervals of a day come in the order of their openings. -/
theorem openings_ordered {day : EffectiveDay} (hday : effectiveDay schedule localDate = .ok day) :
    day.intervals.Pairwise fun first second => first.1 ≤ second.1 := by
  rcases effectiveDay_cases hday with hnone | ⟨_, _, hpieces, _⟩
  · rw [hnone]
    exact .nil
  · simp only [subtractBreaks] at hpieces
    split at hpieces
    · cases hpieces
    · rw [← Except.ok.inj hpieces]
      refine (List.pairwise_insertionSort pieceLe _).imp ?_
      intro first second hle
      exact hle.elim le_of_lt fun hsame => hsame.1.le

/-- A span opens and closes on its date. -/
theorem BusinessSpanOn.dates (h : BusinessSpanOn schedule localDate start stop) :
    Wall.date (readingIn schedule start) = localDate ∧
      Wall.date (readingIn schedule stop) = localDate := by
  obtain ⟨_, _, interval, _, hstart, hstop⟩ := h
  unfold readingIn
  rw [reading_of_resolved hstart, reading_of_resolved hstop]
  exact ⟨Wall.date_combine _ _, Wall.date_combine _ _⟩

/-- Readings lie in an interval of a date just when they lie between the readings of the
ends of its span. -/
theorem isOpen_iff_span : isOpen schedule instant = .ok true ↔
    ∃ start stop, BusinessSpan schedule start stop ∧
      readingIn schedule start ≤ readingIn schedule instant ∧
        readingIn schedule instant < readingIn schedule stop := by
  rw [isOpen_iff]
  constructor
  · intro hopen
    obtain ⟨_, _, ⟨localDate, day, hday, interval, hinterval, rfl, rfl⟩, hfrom, hto⟩ := hopen
    obtain ⟨start, stop, hstart, hstop, _⟩ := exists_span_of_mem hday hinterval
    refine ⟨start, stop, ⟨localDate, day, hday, interval, hinterval, hstart, hstop⟩, ?_⟩
    unfold readingIn at hfrom hto ⊢
    rw [reading_of_resolved hstart, reading_of_resolved hstop]
    exact ⟨hfrom, hto⟩
  · intro hspan
    obtain ⟨start, stop, ⟨localDate, day, hday, interval, hinterval, hstart, hstop⟩, hfrom, hto⟩ :=
      hspan
    refine ⟨_, _, ⟨localDate, day, hday, interval, hinterval, rfl, rfl⟩, ?_⟩
    unfold readingIn at hfrom hto ⊢
    rw [reading_of_resolved hstart] at hfrom
    rw [reading_of_resolved hstop] at hto
    exact ⟨hfrom, hto⟩

/-! ## Boundaries on the other side -/

/-- By the clock, a boundary is on the other side of an instant than in elapsed time. -/
def Crossed (schedule : BusinessSchedule) (instant boundary : Int) : Prop :=
  ¬ (boundary ≤ instant ↔ readingIn schedule boundary ≤ readingIn schedule instant)

/-- One of the ends of a span is on the other side of an instant. -/
def Displaced (schedule : BusinessSchedule) (instant start stop : Int) : Prop :=
  Crossed schedule instant start ∨ Crossed schedule instant stop

/-- A boundary is crossed only where the clock is put back between the two. -/
theorem putBack_of_crossed {boundary : Int} (hcrossed : Crossed schedule instant boundary) :
    PutBackWithin schedule (min instant boundary) (max instant boundary) := by
  by_contra hforward
  have hadvances : ∀ first second, first < second → min instant boundary ≤ first →
      second ≤ max instant boundary → readingIn schedule first < readingIn schedule second := by
    intro first second hlt hfirst hsecond
    refine reading_lt_of_no_putBack hlt fun u hu hle hback => hforward ⟨u, ?_, ?_, hback⟩
    · omega
    · omega
  apply hcrossed
  rcases Int.lt_trichotomy instant boundary with hlt | rfl | hgt
  · have hreading := hadvances instant boundary hlt (by omega) (by omega)
    exact iff_of_false (by omega) (by omega)
  · exact iff_of_true le_rfl le_rfl
  · have hreading := hadvances boundary instant hgt (by omega) (by omega)
    exact iff_of_true hgt.le hreading.le

/-- An instant lies in the time of a span that is not displaced just when its reading lies
between those of the ends. -/
theorem inside_iff_of_not_displaced (hplace : ¬ Displaced schedule instant start stop) :
    (start ≤ instant ∧ instant < stop) ↔
      readingIn schedule start ≤ readingIn schedule instant ∧
        readingIn schedule instant < readingIn schedule stop := by
  unfold Displaced Crossed at hplace
  rw [not_or, not_not, not_not] at hplace
  rw [hplace.1, ← Int.not_le, hplace.2, Int.not_le]

/-- An instant lies in a span that the clock has not displaced. -/
def InPlace (schedule : BusinessSchedule) (instant : Int) : Prop :=
  ∃ start stop, BusinessSpan schedule start stop ∧ ¬ Displaced schedule instant start stop ∧
    start ≤ instant ∧ instant < stop

/-- An instant lies in the time of a displaced span. -/
def InDisplacedTime (schedule : BusinessSchedule) (instant : Int) : Prop :=
  ∃ start stop, BusinessSpan schedule start stop ∧ Displaced schedule instant start stop ∧
    start ≤ instant ∧ instant < stop

/-- An instant reads as within a displaced span. -/
def ReadsDisplaced (schedule : BusinessSchedule) (instant : Int) : Prop :=
  ∃ start stop, BusinessSpan schedule start stop ∧ Displaced schedule instant start stop ∧
    readingIn schedule start ≤ readingIn schedule instant ∧
      readingIn schedule instant < readingIn schedule stop

theorem inBusiness_iff_place :
    InBusiness schedule instant ↔ InPlace schedule instant ∨ InDisplacedTime schedule instant := by
  constructor
  · intro hbusiness
    obtain ⟨start, stop, hspan, hinside⟩ := hbusiness
    by_cases hdisplaced : Displaced schedule instant start stop
    · exact .inr ⟨start, stop, hspan, hdisplaced, hinside⟩
    · exact .inl ⟨start, stop, hspan, hdisplaced, hinside⟩
  · intro hor
    rcases hor with ⟨start, stop, hspan, _, hinside⟩ | ⟨start, stop, hspan, _, hinside⟩
    · exact ⟨start, stop, hspan, hinside⟩
    · exact ⟨start, stop, hspan, hinside⟩

theorem isOpen_iff_place : isOpen schedule instant = .ok true ↔
    InPlace schedule instant ∨ ReadsDisplaced schedule instant := by
  rw [isOpen_iff_span]
  constructor
  · intro hopen
    obtain ⟨start, stop, hspan, hinside⟩ := hopen
    by_cases hdisplaced : Displaced schedule instant start stop
    · exact .inr ⟨start, stop, hspan, hdisplaced, hinside⟩
    · exact .inl ⟨start, stop, hspan, hdisplaced,
        (inside_iff_of_not_displaced hdisplaced).mpr hinside⟩
  · intro hor
    rcases hor with ⟨start, stop, hspan, hplace, hinside⟩ | ⟨start, stop, hspan, _, hinside⟩
    · exact ⟨start, stop, hspan, (inside_iff_of_not_displaced hplace).mp hinside⟩
    · exact ⟨start, stop, hspan, hinside⟩

/-- Where the clock is not put back between the instant and the ends of a span that holds it,
by its time or by its readings, the open status and the business time agree. -/
theorem isOpen_iff_inBusiness_of_steady
    (hsteady : ∀ start stop, BusinessSpan schedule start stop →
      (start ≤ instant ∧ instant < stop) ∨
        (readingIn schedule start ≤ readingIn schedule instant ∧
          readingIn schedule instant < readingIn schedule stop) →
      ¬ PutBackWithin schedule (min instant start) (max instant start) ∧
        ¬ PutBackWithin schedule (min instant stop) (max instant stop)) :
    isOpen schedule instant = .ok true ↔ InBusiness schedule instant := by
  have hplace : ∀ start stop, BusinessSpan schedule start stop →
      (start ≤ instant ∧ instant < stop) ∨
        (readingIn schedule start ≤ readingIn schedule instant ∧
          readingIn schedule instant < readingIn schedule stop) →
      ¬ Displaced schedule instant start stop := by
    intro start stop hspan hholds hdisplaced
    obtain ⟨hstart, hstop⟩ := hsteady start stop hspan hholds
    exact hdisplaced.elim (mt putBack_of_crossed hstart) (mt putBack_of_crossed hstop)
  rw [isOpen_iff_span]
  constructor
  · intro hopen
    obtain ⟨start, stop, hspan, hinside⟩ := hopen
    have hfree := hplace start stop hspan (.inr hinside)
    exact ⟨start, stop, hspan, (inside_iff_of_not_displaced hfree).mpr hinside⟩
  · intro hbusiness
    obtain ⟨start, stop, hspan, hinside⟩ := hbusiness
    have hfree := hplace start stop hspan (.inl hinside)
    exact ⟨start, stop, hspan, (inside_iff_of_not_displaced hfree).mp hinside⟩

/-- At an instant the open status and the business time agree if and only if the instant
lies in a span that the clock has not displaced, or the displaced spans hold it by their
time just when they do by their readings. A span is displaced only where the clock was put
back between the instant and one of its ends. -/
theorem open_status_agrees_iff (schedule : BusinessSchedule) (instant : Int) :
    ((isOpen schedule instant = .ok true ↔ InBusiness schedule instant) ↔
      InPlace schedule instant ∨
        (InDisplacedTime schedule instant ↔ ReadsDisplaced schedule instant)) ∧
    ∀ start stop, Displaced schedule instant start stop →
      PutBackWithin schedule (min instant start) (max instant start) ∨
        PutBackWithin schedule (min instant stop) (max instant stop) := by
  refine ⟨?_, fun start stop hdisplaced => hdisplaced.imp putBack_of_crossed putBack_of_crossed⟩
  rw [isOpen_iff_place, inBusiness_iff_place]
  by_cases hplace : InPlace schedule instant
  · exact iff_of_true (iff_of_true (.inl hplace) (.inl hplace)) (.inl hplace)
  · rw [or_iff_right hplace, or_iff_right hplace, or_iff_right hplace]
    exact iff_comm

/-- A shop is open in the night the clock goes back from three to two, from two to half
past two. A quarter of an hour before the clock goes back it is closed, and the time
counts as business time. -/
theorem closed_in_business_time :
    ∃ schedule instant day, effectiveDay schedule (Wall.date (readingIn schedule instant)) = .ok day ∧
      isOpen schedule instant = .ok false ∧ InBusiness schedule instant := by
  have hday : effectiveDay SmallShop.nights 20751 =
      .ok ⟨20751, [(7200000000, 9000000000)], "weekly", none⟩ := by
    decide +kernel
  have hdate : Wall.date (readingIn SmallShop.nights 1792889100000000) = 20751 := by
    decide +kernel
  have hstart : resolveLocalBoundary (Wall.combine 20751 7200000000) SmallShop.nights.timezone
      true = .ok 1792886400000000 := by
    decide +kernel
  have hstop : resolveLocalBoundary (Wall.combine 20751 9000000000) SmallShop.nights.timezone
      false = .ok 1792891800000000 := by
    decide +kernel
  refine ⟨SmallShop.nights, 1792889100000000, _, hdate ▸ hday, by decide +kernel, ?_⟩
  exact ⟨1792886400000000, 1792891800000000,
    ⟨20751, _, hday, _, List.mem_singleton.mpr rfl, hstart, hstop⟩, by decide, by decide⟩

end BusinessAssistant.Application
