/-
# The next opening

`next_opening` goes through the effective intervals of the coming dates in the order of
their readings, and resolves each opening to its first instant. The opening it returns is
the one with the least reading among those that come later than the given instant, by the
clock and in elapsed time.
-/

import BusinessAssistant.Application.BusinessTime

namespace BusinessAssistant.Application

open BusinessAssistant.Domain BusinessAssistant.Foundation

/-! ## The search -/

/-- What `next_opening` returns. -/
structure NextOpening where
  openNow : Bool
  candidate : Option Int
  localTime : LocalDateTime
  searchedDays : Int
  deriving DecidableEq

/-- The intervals of one date, in order. On the first date an opening that does not read
later than the given instant is passed over. -/
def openingAmong (zone : ZoneInfo) (instant reading localDate : Int) (first : Bool) :
    List (TimeOfDay × TimeOfDay) → Except Failure (Option Int)
  | [] => pure none
  | interval :: rest =>
      if first = true ∧ interval.1.val ≤ Wall.timeOfDay reading then
        openingAmong zone instant reading localDate first rest
      else do
        let candidate ← resolveLocalBoundary (Wall.combine localDate interval.1) zone true
        if instant < candidate then pure (some candidate)
        else openingAmong zone instant reading localDate first rest

/-- The dates of the search, as many as are left, with the offset of the next. -/
def searchOpening (schedule : BusinessSchedule) (instant : Int) (reading : LocalDateTime)
    (searchHorizonDays : Int) : Nat → Int → Except Failure NextOpening
  | 0, _ =>
      pure
        { openNow := false
          candidate := none
          localTime := reading
          searchedDays := searchHorizonDays }
  | dates + 1, offset => do
      let localDate := Wall.date reading.naive + offset
      let day ← effectiveDay schedule localDate
      match ← openingAmong schedule.timezone instant reading.naive localDate (offset = 0)
          day.intervals with
      | some candidate =>
          pure
            { openNow := false
              candidate := some candidate
              localTime := reading
              searchedDays := offset }
      | none => searchOpening schedule instant reading searchHorizonDays dates (offset + 1)

/-- `next_opening` -/
def nextOpening (schedule : BusinessSchedule) (instant searchHorizonDays : Int) :
    Except Failure NextOpening := do
  if ¬ (1 ≤ searchHorizonDays ∧ searchHorizonDays ≤ 730) then
    throw (.invalidSchedule "Search horizon must be between 1 and 730 days")
  let openNow ← isOpen schedule instant
  let reading := schedule.timezone.astimezone instant
  if openNow then
    pure { openNow := true, candidate := none, localTime := reading, searchedDays := 0 }
  else searchOpening schedule instant reading searchHorizonDays (searchHorizonDays + 1).toNat 0

variable {schedule : BusinessSchedule} {instant searchHorizonDays : Int}

/-! ## What the search returns -/

/-- An opening that comes later than an instant, by the clock and in elapsed time. -/
def OpensAfter (schedule : BusinessSchedule) (instant opening : Int) : Prop :=
  (∃ stop, BusinessSpan schedule opening stop) ∧ instant < opening ∧
    readingIn schedule instant < readingIn schedule opening

/-- The intervals that the search looks at on a date. -/
def Considered (reading : Int) (first : Bool) (interval : TimeOfDay × TimeOfDay) : Prop :=
  ¬ (first = true ∧ interval.1.val ≤ Wall.timeOfDay reading)

/-- On a date the search finds the first interval it looks at that opens after the
instant. -/
theorem openingAmong_spec {zone : ZoneInfo} {reading localDate : Int} {first : Bool}
    {intervals : List (TimeOfDay × TimeOfDay)}
    (hresolve : ∀ interval ∈ intervals, ∃ opening,
      resolveLocalBoundary (Wall.combine localDate interval.1) zone true = .ok opening)
    (hordered : intervals.Pairwise fun first second => first.1 ≤ second.1) :
    ∃ found, openingAmong zone instant reading localDate first intervals = .ok found ∧
      match found with
      | none => ∀ interval ∈ intervals, Considered reading first interval → ∀ opening,
          resolveLocalBoundary (Wall.combine localDate interval.1) zone true = .ok opening →
            opening ≤ instant
      | some candidate => instant < candidate ∧ ∃ interval ∈ intervals,
          Considered reading first interval ∧
          resolveLocalBoundary (Wall.combine localDate interval.1) zone true = .ok candidate ∧
          ∀ other ∈ intervals, Considered reading first other → ∀ opening,
            resolveLocalBoundary (Wall.combine localDate other.1) zone true = .ok opening →
              instant < opening → interval.1 ≤ other.1 := by
  induction intervals with
  | nil => exact ⟨none, rfl, nofun⟩
  | cons interval rest ih =>
      obtain ⟨hle, hordered⟩ := List.pairwise_cons.mp hordered
      obtain ⟨opening, hopening⟩ := hresolve interval List.mem_cons_self
      obtain ⟨found, hfound, hspec⟩ :=
        ih (fun other hother => hresolve other (List.mem_cons_of_mem _ hother)) hordered
      unfold openingAmong
      by_cases hskip : first = true ∧ interval.1.val ≤ Wall.timeOfDay reading
      · rw [if_pos hskip]
        refine ⟨found, hfound, ?_⟩
        cases found with
        | none =>
            intro other hother hconsidered
            rcases List.mem_cons.mp hother with rfl | hrest
            · exact absurd hskip hconsidered
            · exact hspec other hrest hconsidered
        | some candidate =>
            obtain ⟨hafter, chosen, hchosen, hconsidered, hresolved, hleast⟩ := hspec
            refine ⟨hafter, chosen, List.mem_cons_of_mem _ hchosen, hconsidered, hresolved, ?_⟩
            intro other hother hother_considered
            rcases List.mem_cons.mp hother with rfl | hrest
            · exact absurd hskip hother_considered
            · exact hleast other hrest hother_considered
      · rw [if_neg hskip, hopening]
        by_cases hafter : instant < opening
        · refine ⟨some opening, ?_, hafter, interval, List.mem_cons_self, hskip, hopening, ?_⟩
          · exact if_pos hafter
          · intro other hother _ _ _ _
            rcases List.mem_cons.mp hother with rfl | hrest
            · exact le_rfl
            · exact hle other hrest
        · refine ⟨found, (if_neg hafter).trans hfound, ?_⟩
          cases found with
          | none =>
              intro other hother hconsidered candidate hcandidate
              rcases List.mem_cons.mp hother with rfl | hrest
              · cases hopening.symm.trans hcandidate
                omega
              · exact hspec other hrest hconsidered candidate hcandidate
          | some candidate =>
              obtain ⟨hlater, chosen, hchosen, hconsidered, hresolved, hleast⟩ := hspec
              refine ⟨hlater, chosen, List.mem_cons_of_mem _ hchosen, hconsidered, hresolved, ?_⟩
              intro other hother hother_considered found hfound hfound_after
              rcases List.mem_cons.mp hother with rfl | hrest
              · cases hopening.symm.trans hfound
                exact absurd hfound_after hafter
              · exact hleast other hrest hother_considered found hfound hfound_after

/-- A resolved opening is the first instant of its reading. -/
theorem BusinessSpan.resolved {opening stop : Int} (h : BusinessSpan schedule opening stop) :
    resolveLocalBoundary (readingIn schedule opening) schedule.timezone true = .ok opening := by
  obtain ⟨_, _, _, interval, _, hopening, _⟩ := h
  rw [readingIn, reading_of_resolved hopening]
  exact hopening

/-- A schedule is open when an interval opens. -/
theorem BusinessSpan.isOpen {opening stop : Int} (h : BusinessSpan schedule opening stop) :
    Application.isOpen schedule opening = .ok true := by
  rw [isOpen_iff_span]
  refine ⟨opening, stop, h, le_rfl, ?_⟩
  obtain ⟨_, _, hday, interval, hinterval, hopening, hstop⟩ := h
  have hpositive := positive_effectiveDay hday interval hinterval
  unfold readingIn Wall.combine at *
  rw [reading_of_resolved hopening, reading_of_resolved hstop]
  rw [Fin.lt_def] at hpositive
  omega

/-- An opening is looked at just when it reads later than the instant. -/
theorem considered_iff {reading offset : Int} (hoffset : 0 ≤ offset)
    (interval : TimeOfDay × TimeOfDay) :
    Considered reading (decide (offset = 0)) interval ↔
      reading < Wall.combine (Wall.date reading + offset) interval.1 := by
  unfold Considered Wall.timeOfDay Wall.combine Wall.date
  rw [decide_eq_true_eq]
  omega

/-- What the search finds on a date, in terms of the openings after the instant. -/
theorem openingAmong_date {offset : Int} (hoffset : 0 ≤ offset) {day : EffectiveDay}
    (hday : effectiveDay schedule (Wall.date (readingIn schedule instant) + offset) = .ok day) :
    ∃ found, openingAmong schedule.timezone instant (readingIn schedule instant)
        (Wall.date (readingIn schedule instant) + offset) (decide (offset = 0)) day.intervals =
          .ok found ∧
      match found with
      | none => ∀ opening, OpensAfter schedule instant opening →
          Wall.date (readingIn schedule opening) ≠ Wall.date (readingIn schedule instant) + offset
      | some candidate => OpensAfter schedule instant candidate ∧
          Wall.date (readingIn schedule candidate) =
            Wall.date (readingIn schedule instant) + offset ∧
          ∀ opening, OpensAfter schedule instant opening →
            Wall.date (readingIn schedule opening) =
              Wall.date (readingIn schedule instant) + offset →
              readingIn schedule candidate ≤ readingIn schedule opening := by
  have hresolve : ∀ interval ∈ day.intervals, ∃ opening, resolveLocalBoundary
      (Wall.combine (Wall.date (readingIn schedule instant) + offset) interval.1)
        schedule.timezone true = .ok opening := by
    intro interval hinterval
    obtain ⟨opening, _, hopening, _⟩ := exists_span_of_mem hday hinterval
    exact ⟨opening, hopening⟩
  -- The openings after the instant that read on this date are among those looked at.
  have hlooked : ∀ opening, OpensAfter schedule instant opening →
      Wall.date (readingIn schedule opening) = Wall.date (readingIn schedule instant) + offset →
      ∃ interval ∈ day.intervals,
        Considered (readingIn schedule instant) (decide (offset = 0)) interval ∧
        resolveLocalBoundary (Wall.combine (Wall.date (readingIn schedule instant) + offset)
          interval.1) schedule.timezone true = .ok opening := by
    intro opening hopens hdate
    obtain ⟨⟨stop, other, hspan⟩, _, hreading⟩ := hopens
    have hother := hspan.dates.1.symm.trans hdate
    rw [hother] at hspan
    obtain ⟨found, hfound, interval, hinterval, hopening, _⟩ := hspan
    cases hday.symm.trans hfound
    refine ⟨interval, hinterval, ?_, hopening⟩
    rw [considered_iff hoffset, ← reading_of_resolved hopening]
    exact hreading
  obtain ⟨found, hfound, hspec⟩ := @openingAmong_spec instant schedule.timezone
    (readingIn schedule instant) (Wall.date (readingIn schedule instant) + offset)
    (decide (offset = 0)) day.intervals hresolve (openings_ordered hday)
  refine ⟨found, hfound, ?_⟩
  cases found with
  | none =>
      intro opening hopens hdate
      obtain ⟨interval, hinterval, hconsidered, hopening⟩ := hlooked opening hopens hdate
      have hearlier := hspec interval hinterval hconsidered opening hopening
      exact absurd hopens.2.1 (by omega)
  | some candidate =>
      obtain ⟨hafter, interval, hinterval, hconsidered, hcandidate, hleast⟩ := hspec
      have hreading : readingIn schedule candidate =
          Wall.combine (Wall.date (readingIn schedule instant) + offset) interval.1 :=
        reading_of_resolved hcandidate
      obtain ⟨start, stop, hstart, hstop, _⟩ := exists_span_of_mem hday hinterval
      cases hcandidate.symm.trans hstart
      refine ⟨⟨⟨stop, _, day, hday, interval, hinterval, hstart, hstop⟩, hafter, ?_⟩, ?_, ?_⟩
      · rw [hreading]
        exact (considered_iff hoffset interval).mp hconsidered
      · rw [hreading]
        exact Wall.date_combine _ _
      · intro opening hopens hdate
        obtain ⟨other, hother, hlooks, hopening⟩ := hlooked opening hopens hdate
        have hle := hleast other hother hlooks opening hopening hopens.2.1
        have hlater : readingIn schedule opening =
            Wall.combine (Wall.date (readingIn schedule instant) + offset) other.1 :=
          reading_of_resolved hopening
        rw [hreading, hlater]
        unfold Wall.combine
        rw [Fin.le_def] at hle
        omega

/-- The search over some dates returns the opening after the instant that reads first, of
those that read on these dates or later. -/
theorem searchOpening_spec {dates : Nat} {offset : Int} (hoffset : 0 ≤ offset)
    (hdays : ∀ later, offset ≤ later → later < offset + dates →
      ∃ day, effectiveDay schedule (Wall.date (readingIn schedule instant) + later) = .ok day) :
    ∃ result, searchOpening schedule instant (schedule.timezone.astimezone instant)
        searchHorizonDays dates offset = .ok result ∧ result.openNow = false ∧
      match result.candidate with
      | none => ∀ opening, OpensAfter schedule instant opening →
          Wall.date (readingIn schedule instant) + offset ≤ Wall.date (readingIn schedule opening) →
          Wall.date (readingIn schedule instant) + offset + dates ≤
            Wall.date (readingIn schedule opening)
      | some candidate => OpensAfter schedule instant candidate ∧
          Wall.date (readingIn schedule candidate) <
            Wall.date (readingIn schedule instant) + offset + dates ∧
          ∀ opening, OpensAfter schedule instant opening →
            Wall.date (readingIn schedule instant) + offset ≤
              Wall.date (readingIn schedule opening) →
            readingIn schedule candidate ≤ readingIn schedule opening := by
  induction dates generalizing offset with
  | zero =>
      refine ⟨_, rfl, rfl, ?_⟩
      intro opening _ hdate
      simpa using hdate
  | succ dates ih =>
      obtain ⟨day, hday⟩ := hdays offset le_rfl (by omega)
      obtain ⟨found, hfound, hspec⟩ := openingAmong_date hoffset hday
      unfold readingIn at hday hfound
      cases found with
      | some candidate =>
          refine ⟨⟨false, some candidate, schedule.timezone.astimezone instant, offset⟩, ?_, rfl, ?_⟩
          · unfold searchOpening
            exact except_bind_eq_ok.mpr ⟨day, hday, except_bind_eq_ok.mpr ⟨_, hfound, rfl⟩⟩
          · obtain ⟨hopens, hdate, hleast⟩ := hspec
            refine ⟨hopens, by omega, ?_⟩
            intro opening hopening hfrom
            rcases Int.le_iff_lt_or_eq.mp hfrom with hlater | hsame
            · unfold Wall.date at hdate hlater
              omega
            · exact hleast opening hopening hsame.symm
      | none =>
          obtain ⟨result, hresult, hopen, hlast⟩ := @ih (offset + 1) (by omega)
            fun later hfrom hto => hdays later (by omega) (by omega)
          refine ⟨result, ?_, hopen, ?_⟩
          · unfold searchOpening
            exact except_bind_eq_ok.mpr ⟨day, hday, except_bind_eq_ok.mpr ⟨_, hfound, hresult⟩⟩
          · -- No opening after the instant reads on this date.
            cases hcandidate : result.candidate with
            | none =>
                rw [hcandidate] at hlast
                intro opening hopening hfrom
                have hother := hspec opening hopening
                have hrest := hlast opening hopening (by omega)
                omega
            | some candidate =>
                rw [hcandidate] at hlast
                obtain ⟨hopens, hdate, hleast⟩ := hlast
                refine ⟨hopens, by omega, ?_⟩
                intro opening hopening hfrom
                have hother := hspec opening hopening
                exact hleast opening hopening (by omega)

/-! ## The next instant that is open -/

/-- The result is right: it says whether the schedule is open, and where it is not, it
returns the next instant at which it is, or none up to the horizon. -/
def NextOpening.Right (schedule : BusinessSchedule) (instant searchHorizonDays : Int)
    (result : NextOpening) : Prop :=
  if isOpen schedule instant = .ok true then result.openNow = true ∧ result.candidate = none
  else result.openNow = false ∧
    match result.candidate with
    | some candidate => instant < candidate ∧ isOpen schedule candidate = .ok true ∧
        ∀ other, instant < other → other < candidate → isOpen schedule other ≠ .ok true
    | none => ∀ other, instant < other → Wall.date (readingIn schedule other) ≤
        Wall.date (readingIn schedule instant) + searchHorizonDays → isOpen schedule other ≠ .ok true

/-- Where the schedule is open at some later instant up to the horizon, it is an opening of
an interval with which the next open time begins, and of the openings that come later, by
the clock and in elapsed time, it reads first. -/
def OpensFirst (schedule : BusinessSchedule) (instant searchHorizonDays : Int) : Prop :=
  ∀ other, instant < other → Wall.date (readingIn schedule other) ≤
      Wall.date (readingIn schedule instant) + searchHorizonDays →
    isOpen schedule other = .ok true →
    ∃ opening, OpensAfter schedule instant opening ∧ Wall.date (readingIn schedule opening) ≤
        Wall.date (readingIn schedule instant) + searchHorizonDays ∧
      (∀ earlier, instant < earlier → earlier < opening → isOpen schedule earlier ≠ .ok true) ∧
      ∀ later, OpensAfter schedule instant later →
        readingIn schedule opening ≤ readingIn schedule later

/-- Where every searched date has effective hours, `next_opening` returns a result, and it
is right if and only if the schedule is open already or the next open time begins with the
opening that reads first. -/
theorem nextOpening_right_iff (schedule : BusinessSchedule) (instant searchHorizonDays : Int)
    (hhorizon : 1 ≤ searchHorizonDays ∧ searchHorizonDays ≤ 730)
    (hdays : ∀ offset, 0 ≤ offset → offset ≤ searchHorizonDays →
      ∃ day, effectiveDay schedule (Wall.date (readingIn schedule instant) + offset) = .ok day) :
    ∃ result, nextOpening schedule instant searchHorizonDays = .ok result ∧
      (result.Right schedule instant searchHorizonDays ↔
        isOpen schedule instant = .ok true ∨ OpensFirst schedule instant searchHorizonDays) := by
  obtain ⟨openNow, hopenNow⟩ : ∃ openNow, isOpen schedule instant = .ok openNow := by
    obtain ⟨day, hday⟩ := hdays 0 le_rfl (by omega)
    rw [add_zero] at hday
    exact ⟨_, except_bind_eq_ok.mpr ⟨day, hday, rfl⟩⟩
  have hrun : ∀ result,
      (if openNow then
        pure ⟨true, none, schedule.timezone.astimezone instant, 0⟩
      else searchOpening schedule instant (schedule.timezone.astimezone instant)
        searchHorizonDays (searchHorizonDays + 1).toNat 0) = .ok result →
      nextOpening schedule instant searchHorizonDays = .ok result := by
    intro result hresult
    unfold nextOpening
    rw [if_neg (not_not.mpr hhorizon)]
    exact except_bind_eq_ok.mpr ⟨openNow, hopenNow, hresult⟩
  cases openNow with
  | true =>
      refine ⟨⟨true, none, schedule.timezone.astimezone instant, 0⟩, hrun _ rfl, ?_⟩
      refine iff_of_true ?_ (.inl hopenNow)
      rw [NextOpening.Right, if_pos hopenNow]
      exact ⟨rfl, rfl⟩
  | false =>
      have hclosed : isOpen schedule instant ≠ .ok true := by
        rw [hopenNow]
        nofun
      obtain ⟨result, hresult, hshut, hspec⟩ :=
        @searchOpening_spec schedule instant searchHorizonDays (searchHorizonDays + 1).toNat 0 le_rfl
          fun later hfrom hto => hdays later hfrom (by omega)
      refine ⟨result, hrun result hresult, ?_⟩
      rw [or_iff_right hclosed, NextOpening.Right, if_neg hclosed]
      have hhere : ∀ opening, OpensAfter schedule instant opening →
          Wall.date (readingIn schedule instant) + 0 ≤ Wall.date (readingIn schedule opening) := by
        intro opening hopens
        have hlater := hopens.2.2
        unfold Wall.date
        omega
      cases hcandidate : result.candidate with
      | none =>
          rw [hcandidate] at hspec
          constructor
          · intro hright other hother hdate hopen
            exact absurd hopen (hright.2 other hother hdate)
          · intro hfirst
            refine ⟨hshut, fun other hother hdate hopen => ?_⟩
            obtain ⟨opening, hopens, hwithin, _⟩ := hfirst other hother hdate hopen
            have hbeyond := hspec opening hopens (hhere opening hopens)
            omega
      | some candidate =>
          rw [hcandidate] at hspec
          obtain ⟨hopens, hdate, hleast⟩ := hspec
          obtain ⟨⟨stop, hspan⟩, hafter, _⟩ := id hopens
          have hopen : isOpen schedule candidate = .ok true := hspan.isOpen
          constructor
          · intro hright other _ _ _
            exact ⟨candidate, hopens, by omega, hright.2.2.2, fun later hlater =>
              hleast later hlater (hhere later hlater)⟩
          · intro hfirst
            obtain ⟨opening, hopening, _, hnone, hreads⟩ :=
              hfirst candidate hafter (by omega) hopen
            -- Two openings of one reading resolve to one instant.
            have hsame : readingIn schedule opening = readingIn schedule candidate :=
              le_antisymm (hreads candidate hopens) (hleast opening hopening (hhere opening hopening))
            obtain ⟨⟨_, hother⟩, _⟩ := hopening
            have hresolved := hother.resolved
            rw [hsame] at hresolved
            cases hresolved.symm.trans hspan.resolved
            exact ⟨hshut, hafter, hopen, hnone⟩

namespace SmallShop

/-- Thursday's hours. -/
def thursday : EffectiveDay := ⟨0, [(32400000000, 36000000000)], "weekly", none⟩

theorem effectiveDay_thursday : effectiveDay mornings 0 = .ok thursday := by decide +kernel

theorem readingIn_mornings (instant : Int) : readingIn mornings instant = instant :=
  Int.add_zero instant

/-- After eight the shop is not open before nine. -/
theorem nine_le {instant : Int} (hafter : 28800000000 < instant)
    (hopen : isOpen mornings instant = .ok true) : 32400000000 ≤ instant := by
  obtain ⟨_, _, ⟨localDate, day, hday, interval, hinterval, rfl, rfl⟩, hfrom, hto⟩ :=
    isOpen_iff.mp hopen
  have hdate := date_of_between hfrom hto
  rw [readingIn_mornings] at hfrom hdate
  by_contra hbefore
  obtain rfl : localDate = 0 := by
    rw [← hdate, Wall.date_eq_iff]
    omega
  rw [effectiveDay_thursday] at hday
  cases hday
  rw [List.mem_singleton.mp hinterval] at hfrom
  exact hbefore hfrom

theorem nine_opens : OpensAfter mornings 28800000000 32400000000 := by
  refine ⟨⟨36000000000, 0, thursday, effectiveDay_thursday, (32400000000, 36000000000),
    List.mem_singleton_self _, ?_, ?_⟩, by decide, by decide⟩
  · decide +kernel
  · decide +kernel

/-- What opens after eight opens with nine o'clock. -/
theorem opensFirst_eight : OpensFirst mornings 28800000000 1 := by
  intro other _ _ _
  refine ⟨32400000000, nine_opens, by decide, fun earlier hafter hearlier hopen => ?_,
    fun later hlater => ?_⟩
  · have hnine := nine_le hafter hopen
    omega
  · obtain ⟨⟨_, hspan⟩, hafter, _⟩ := hlater
    rw [readingIn_mornings, readingIn_mornings]
    exact nine_le hafter hspan.isOpen

end SmallShop

/-- On a Thursday at eight the shop opens next at nine. -/
theorem nextOpening_right_at_eight :
    nextOpening SmallShop.mornings 28800000000 1 =
        .ok ⟨false, some 32400000000, ⟨28800000000, false⟩, 0⟩ ∧
      NextOpening.Right SmallShop.mornings 28800000000 1
        ⟨false, some 32400000000, ⟨28800000000, false⟩, 0⟩ := by
  have hdays : ∀ offset, 0 ≤ offset → offset ≤ 1 → ∃ day, effectiveDay SmallShop.mornings
      (Wall.date (readingIn SmallShop.mornings 28800000000) + offset) = .ok day := by
    intro offset hfrom hto
    obtain rfl | rfl : offset = 0 ∨ offset = 1 := by omega
    · exact ⟨SmallShop.thursday, SmallShop.effectiveDay_thursday⟩
    · exact ⟨⟨1, [], "weekly", none⟩, by decide +kernel⟩
  obtain ⟨result, hresult, hright⟩ :=
    nextOpening_right_iff SmallShop.mornings 28800000000 1 (by decide) hdays
  have hfound : nextOpening SmallShop.mornings 28800000000 1 =
      .ok ⟨false, some 32400000000, ⟨28800000000, false⟩, 0⟩ := by
    decide +kernel
  obtain rfl := Except.ok.inj (hresult.symm.trans hfound)
  exact ⟨hfound, hright.mpr (.inr SmallShop.opensFirst_eight)⟩

/-- A shop is open from two to half past two in the night the clock goes back from three to
two. A quarter of an hour before the clock goes back no opening is found for the day, and
then the shop opens again. -/
theorem second_opening_missed :
    ∃ schedule instant searchHorizonDays result,
      (1 ≤ searchHorizonDays ∧ searchHorizonDays ≤ 730) ∧
      (∀ offset, 0 ≤ offset → offset ≤ searchHorizonDays → ∃ day, effectiveDay schedule
        (Wall.date (readingIn schedule instant) + offset) = .ok day) ∧
      nextOpening schedule instant searchHorizonDays = .ok result ∧
      ¬ result.Right schedule instant searchHorizonDays := by
  have hdays : ∀ offset, 0 ≤ offset → offset ≤ 1 → ∃ day, effectiveDay SmallShop.nights
      (Wall.date (readingIn SmallShop.nights 1792889100000000) + offset) = .ok day := by
    intro offset hfrom hto
    obtain rfl | rfl : offset = 0 ∨ offset = 1 := by omega
    · exact ⟨⟨20751, [(7200000000, 9000000000)], "weekly", none⟩, by decide +kernel⟩
    · exact ⟨⟨20752, [], "weekly", none⟩, by decide +kernel⟩
  have hresult : nextOpening SmallShop.nights 1792889100000000 1 =
      .ok ⟨false, none, ⟨1792896300000000, false⟩, 1⟩ := by
    decide +kernel
  refine ⟨SmallShop.nights, 1792889100000000, 1, _, by decide, hdays, hresult, ?_⟩
  have hclosed : isOpen SmallShop.nights 1792889100000000 = .ok false := by decide +kernel
  have hopens : isOpen SmallShop.nights 1792890000000000 = .ok true := by decide +kernel
  intro hright
  rw [NextOpening.Right, hclosed, if_neg (by nofun)] at hright
  exact hright.2 1792890000000000 (by decide) (by decide +kernel) hopens

end BusinessAssistant.Application
