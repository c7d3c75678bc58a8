/-
# What the intervals of a day are made of

Subtracting breaks cuts the openings at boundaries of breaks, so every boundary
of an effective interval is a boundary of the schedule.
-/

import BusinessAssistant.Application.SchedulingEngine

namespace BusinessAssistant.Application

open BusinessAssistant.Domain

/-- A day has no intervals, or those that the breaks of the weekday's or of one
override's intervals leave of the openings, each checked against the zone. -/
theorem effectiveDay_cases {schedule : BusinessSchedule} {localDate : Int} {day : EffectiveDay}
    (hday : effectiveDay schedule localDate = .ok day) :
    day.intervals = [] ∨ ∃ candidates : List ScheduleInterval,
      (candidates = schedule.intervals.filter (·.weekday = weekday localDate) ∨
        ∃ override ∈ schedule.overrides, candidates = override.intervals) ∧
      subtractBreaks (candidates.filter (·.intervalType = IntervalType.open))
        (candidates.filter (·.intervalType = IntervalType.break)) = .ok day.intervals ∧
      day.intervals.forM (checkInterval schedule.timezone localDate) = .ok () := by
  have hopen : ∀ (candidates : List ScheduleInterval) (source : String) (reason : Option String),
      (do
        let intervals ← subtractBreaks (candidates.filter (·.intervalType = IntervalType.open))
          (candidates.filter (·.intervalType = IntervalType.break))
        intervals.forM (checkInterval schedule.timezone localDate)
        pure { localDate, intervals, source, reason : EffectiveDay }) = .ok day →
      subtractBreaks (candidates.filter (·.intervalType = IntervalType.open))
        (candidates.filter (·.intervalType = IntervalType.break)) = .ok day.intervals ∧
      day.intervals.forM (checkInterval schedule.timezone localDate) = .ok () := by
    intro candidates source reason hbody
    cases hpieces : subtractBreaks (candidates.filter (·.intervalType = IntervalType.open))
        (candidates.filter (·.intervalType = IntervalType.break)) with
    | error failure =>
        rw [hpieces] at hbody
        cases hbody
    | ok pieces =>
        rw [hpieces] at hbody
        cases hcheck : pieces.forM (checkInterval schedule.timezone localDate) with
        | error failure =>
            simp only [bind, Except.bind, hcheck] at hbody
            cases hbody
        | ok passed =>
            simp only [bind, Except.bind, hcheck] at hbody
            cases hbody
            exact ⟨rfl, hcheck⟩
  unfold effectiveDay at hday
  simp only at hday
  split at hday
  · exact .inr ⟨_, .inl rfl, hopen _ _ _ hday⟩
  · rename_i override hoverride
    have hmem : override ∈ schedule.overrides := by
      have hfiltered : override ∈ schedule.overridesOn localDate := by
        rw [hoverride]
        exact List.mem_singleton.mpr rfl
      exact List.mem_of_mem_filter hfiltered
    split at hday
    · cases hday
      exact .inl rfl
    · exact .inr ⟨_, .inr ⟨override, hmem, rfl⟩, hopen _ _ _ hday⟩
  · cases hday

/-- What holds of the openings and of whatever a break leaves of a piece holds of the
pieces. -/
theorem forall_subtractBreaks {Q : TimeOfDay × TimeOfDay → Prop}
    {openings breaks : List ScheduleInterval}
    (hopenings : ∀ opening ∈ openings, Q (opening.startLocal, opening.endLocal))
    (hrevise : ∀ pause ∈ breaks, ∀ piece, Q piece → ∀ rest ∈ revisePiece pause piece, Q rest)
    {pieces : List (TimeOfDay × TimeOfDay)} (hpieces : subtractBreaks openings breaks = .ok pieces) :
    ∀ piece ∈ pieces, Q piece := by
  simp only [subtractBreaks] at hpieces
  split at hpieces
  · cases hpieces
  cases hpieces
  intro piece hpiece
  rw [List.mem_insertionSort, List.mem_flatMap] at hpiece
  obtain ⟨opening, hopening, hpiece⟩ := hpiece
  rw [List.mem_insertionSort] at hopening
  have hkeeps : ∀ rest ∈ (breaks.insertionSort byStart).foldl
      (fun pieces pause => pieces.flatMap (revisePiece pause))
      [(opening.startLocal, opening.endLocal)], Q rest := by
    refine List.foldlRecOn
      (motive := fun pieces => ∀ rest ∈ pieces, Q rest) _ _ ?_ ?_
    · intro rest hrest
      rw [List.mem_singleton.mp hrest]
      exact hopenings opening hopening
    · intro pieces hearlier pause hpause rest hrest
      obtain ⟨earlier, hmem, hrest⟩ := List.mem_flatMap.mp hrest
      rw [List.mem_insertionSort] at hpause
      exact hrevise pause hpause earlier (hearlier earlier hmem) rest hrest
  exact hkeeps piece hpiece

/-- The intervals of a day end after they start. -/
theorem positive_effectiveDay {schedule : BusinessSchedule} {localDate : Int} {day : EffectiveDay}
    (hday : effectiveDay schedule localDate = .ok day) :
    ∀ interval ∈ day.intervals, interval.1 < interval.2 := by
  rcases effectiveDay_cases hday with hnone | ⟨_, _, hpieces, _⟩
  · rw [hnone]
    nofun
  · refine forall_subtractBreaks (fun opening _ => opening.startPrecedesEnd) ?_ hpieces
    intro pause _ piece hpiece rest hrest
    unfold revisePiece at hrest
    split at hrest
    · rw [List.mem_singleton.mp hrest]
      exact hpiece
    · rcases List.mem_append.mp hrest with hrest | hrest
      · split at hrest
        · rename_i hbefore
          rw [List.mem_singleton.mp hrest]
          exact hbefore
        · cases hrest
      · split at hrest
        · rename_i hafter
          rw [List.mem_singleton.mp hrest]
          exact hafter
        · cases hrest

/-! ## Boundaries -/

/-- Both boundaries of a piece have a property. -/
def PieceBounded (P : TimeOfDay → Prop) (piece : TimeOfDay × TimeOfDay) : Prop :=
  P piece.1 ∧ P piece.2

section Boundaries

variable {P : TimeOfDay → Prop}

/-- What a break leaves has boundaries of the piece and of the break. -/
theorem bounded_revisePiece {pause : ScheduleInterval} {piece rest : TimeOfDay × TimeOfDay}
    (hpause : pause.Bounded P) (hpiece : PieceBounded P piece)
    (hrest : rest ∈ revisePiece pause piece) : PieceBounded P rest := by
  unfold revisePiece at hrest
  split at hrest
  · rw [List.mem_singleton.mp hrest]
    exact hpiece
  · rcases List.mem_append.mp hrest with hrest | hrest
    · split at hrest
      · rw [List.mem_singleton.mp hrest]
        exact ⟨hpiece.1, hpause.1⟩
      · cases hrest
    · split at hrest
      · rw [List.mem_singleton.mp hrest]
        exact ⟨hpause.2, hpiece.2⟩
      · cases hrest

theorem bounded_subtractBreaks {openings breaks : List ScheduleInterval}
    (hopenings : ∀ opening ∈ openings, opening.Bounded P)
    (hbreaks : ∀ pause ∈ breaks, pause.Bounded P)
    {pieces : List (TimeOfDay × TimeOfDay)} (hpieces : subtractBreaks openings breaks = .ok pieces) :
    ∀ piece ∈ pieces, PieceBounded P piece :=
  forall_subtractBreaks hopenings
    (fun pause hpause _ hpiece _ hrest => bounded_revisePiece (hbreaks pause hpause) hpiece hrest)
    hpieces

/-- The boundaries of a day's intervals are boundaries of the schedule. -/
theorem bounded_effectiveDay {schedule : BusinessSchedule}
    (hschedule : schedule.Bounded P) {localDate : Int} {day : EffectiveDay}
    (hday : effectiveDay schedule localDate = .ok day) :
    ∀ interval ∈ day.intervals, PieceBounded P interval := by
  intro interval hinterval
  rcases effectiveDay_cases hday with hempty | ⟨candidates, hsource, hpieces, -⟩
  · rw [hempty] at hinterval
    cases hinterval
  have hcandidates : ∀ candidate ∈ candidates, candidate.Bounded P := by
    rcases hsource with rfl | ⟨override, hoverride, rfl⟩
    · intro candidate hcandidate
      exact hschedule.weekly candidate (List.mem_of_mem_filter hcandidate)
    · exact hschedule.overrides override hoverride
  refine bounded_subtractBreaks ?_ ?_ hpieces interval hinterval
  · intro opening hopening
    exact hcandidates opening (List.mem_of_mem_filter hopening)
  · intro pause hpause
    exact hcandidates pause (List.mem_of_mem_filter hpause)

end Boundaries

end BusinessAssistant.Application
