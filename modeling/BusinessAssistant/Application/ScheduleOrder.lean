/-
# Schedules listed in another order

The effective hours of a date depend on the weekly intervals and on the overrides of a
schedule, not on the order in which they are listed, and so do the open status, the next
opening and the deadlines, which look at a schedule through its dates alone.
-/

import BusinessAssistant.Application.Deadlines
import BusinessAssistant.Application.NextOpening
import BusinessAssistant.Foundation.Pieces

namespace BusinessAssistant.Application

open BusinessAssistant.Domain BusinessAssistant.Foundation

/-- The ends of an interval. -/
def bounds (interval : ScheduleInterval) : TimeOfDay × TimeOfDay :=
  (interval.startLocal, interval.endLocal)

theorem bounds_positive {intervals : List ScheduleInterval} :
    ∀ span ∈ intervals.map bounds, span.1 < span.2 := by
  intro span hspan
  obtain ⟨interval, _, rfl⟩ := List.mem_map.mp hspan
  exact interval.startPrecedesEnd

/-! ## Breaks -/

/-- The breaks are cut out of an opening. -/
theorem foldl_revisePiece (breaks : List ScheduleInterval) (opening : ScheduleInterval) :
    breaks.foldl (fun pieces pause => pieces.flatMap (revisePiece pause))
      [(opening.startLocal, opening.endLocal)] =
    Pieces.cutAll (breaks.map bounds) (bounds opening) := by
  unfold Pieces.cutAll
  rw [List.foldl_map]
  rfl

theorem pieceLe_antisymm {first second : TimeOfDay × TimeOfDay} (hle : pieceLe first second)
    (hge : pieceLe second first) : first = second := by
  simp only [pieceLe, Fin.lt_def, Fin.le_def, Fin.ext_iff] at hle hge
  rw [Prod.ext_iff, Fin.ext_iff, Fin.ext_iff]
  omega

section Reordering

variable {intervals intervals' openings openings' breaks breaks' : List ScheduleInterval}

/-- What breaks leave of openings does not depend on the order of either. -/
theorem subtractBreaks_perm (hopenings : openings.Perm openings') (hbreaks : breaks.Perm breaks') :
    subtractBreaks openings breaks = subtractBreaks openings' breaks' := by
  have hsorted : ∀ {items items' : List ScheduleInterval}, items.Perm items' →
      (items.insertionSort byStart).Perm (items'.insertionSort byStart) := fun hitems =>
    ((List.perm_insertionSort byStart _).trans hitems).trans
      (List.perm_insertionSort byStart _).symm
  have hleft : ∀ opening : ScheduleInterval,
      (breaks.insertionSort byStart).foldl (fun pieces pause => pieces.flatMap (revisePiece pause))
        [(opening.startLocal, opening.endLocal)] =
      (breaks'.insertionSort byStart).foldl (fun pieces pause => pieces.flatMap (revisePiece pause))
        [(opening.startLocal, opening.endLocal)] := by
    intro opening
    rw [foldl_revisePiece, foldl_revisePiece]
    exact Pieces.cutAll_perm ((hsorted hbreaks).map bounds) bounds_positive opening.startPrecedesEnd
  have hpieces := (hsorted hopenings).flatMap_right fun opening =>
    (breaks'.insertionSort byStart).foldl (fun pieces pause => pieces.flatMap (revisePiece pause))
      [(opening.startLocal, opening.endLocal)]
  have hordered := List.Perm.eq_of_pairwise (fun _ _ _ _ => pieceLe_antisymm)
    (List.pairwise_insertionSort pieceLe _) (List.pairwise_insertionSort pieceLe _)
    (((List.perm_insertionSort pieceLe _).trans hpieces).trans
      (List.perm_insertionSort pieceLe _).symm)
  unfold subtractBreaks
  simp only [hleft]
  rw [hordered]

/-! ## Weekly intervals -/

/-- A list each of whose items ends before the next starts is in order throughout. -/
theorem starts_of_pairwise {items : List ScheduleInterval}
    (hnext : (items.zip items.tail).all (fun (previous, current) =>
      previous.endLocal ≤ current.startLocal) = true) :
    items.Pairwise fun first second => first.startLocal < second.startLocal := by
  rw [List.isChain_iff_pairwise.symm]
  induction items with
  | nil => exact .nil
  | cons first rest ih =>
      cases rest with
      | nil => exact .singleton first
      | cons second rest =>
          rw [List.tail_cons, List.zip_cons_cons, List.all_cons, Bool.and_eq_true] at hnext
          obtain ⟨hfirst, hrest⟩ := hnext
          exact .cons_cons (first.startPrecedesEnd.trans_le (of_decide_eq_true hfirst)) (ih hrest)

/-- The sorted openings of a weekday do not depend on the order of valid intervals. -/
theorem openingsOf_perm (hvalid : validateIntervals intervals = true)
    (hperm : intervals'.Perm intervals) (weekday : Fin 7) :
    openingsOf intervals' weekday = openingsOf intervals weekday := by
  have hstarts : (openingsOf intervals weekday).Pairwise
      fun first second => first.startLocal < second.startLocal := by
    have hday := List.all_eq_true.mp hvalid weekday (List.mem_finRange weekday)
    exact starts_of_pairwise (Bool.and_eq_true_iff.mp hday).1
  have hsame : (openingsOf intervals' weekday).Perm (openingsOf intervals weekday) :=
    ((List.perm_insertionSort _ _).trans (hperm.filter _)).trans (List.perm_insertionSort _ _).symm
  have hdistinct : ((openingsOf intervals weekday).map (·.startLocal)).Nodup :=
    List.pairwise_map.mpr (hstarts.imp ne_of_lt)
  have hsorted : (openingsOf intervals' weekday).Pairwise
      fun first second => first.startLocal ≤ second.startLocal :=
    List.pairwise_insertionSort _ _
  refine List.Perm.eq_of_pairwise ?_ hsorted (hstarts.imp le_of_lt) hsame
  intro first second hfirst hsecond hle hge
  exact List.inj_on_of_nodup_map hdistinct (hsame.mem_iff.mp hfirst) hsecond (le_antisymm hle hge)

/-- Valid intervals are valid in any order. -/
theorem validateIntervals_perm (hvalid : validateIntervals intervals = true)
    (hperm : intervals'.Perm intervals) : validateIntervals intervals' = true := by
  have hdays := List.all_eq_true.mp hvalid
  unfold validateIntervals
  rw [List.all_eq_true]
  intro weekday hweekday
  have hday := hdays weekday hweekday
  simp only at hday ⊢
  rw [openingsOf_perm hvalid hperm weekday]
  rw [Bool.and_eq_true] at hday ⊢
  obtain ⟨hopenings, hbreaks⟩ := hday
  refine ⟨hopenings, ?_⟩
  rw [List.all_eq_true] at hbreaks ⊢
  intro pause hpause
  exact hbreaks pause ((hperm.filter _).mem_iff.mp hpause)

end Reordering

/-! ## Schedules -/

/-- The same zone, weekly intervals and overrides, in whatever order. -/
structure Reordered (schedule other : BusinessSchedule) : Prop where
  timezone : other.timezone = schedule.timezone
  intervals : other.intervals.Perm schedule.intervals
  overrides : other.overrides.Perm schedule.overrides

variable {schedule other : BusinessSchedule}

/-- Dates have the same effective hours, or none for the same reason. -/
theorem Reordered.effectiveDay_eq (h : Reordered schedule other) (localDate : Int) :
    effectiveDay other localDate = effectiveDay schedule localDate := by
  have hweekly : ∀ type : IntervalType,
      ((other.intervals.filter (·.weekday = weekday localDate)).filter (·.intervalType = type)).Perm
        ((schedule.intervals.filter (·.weekday = weekday localDate)).filter
          (·.intervalType = type)) :=
    fun type => (h.intervals.filter _).filter _
  have hoverrides : (other.overridesOn localDate).Perm (schedule.overridesOn localDate) :=
    h.overrides.filter _
  unfold effectiveDay
  rw [h.timezone]
  cases hdate : schedule.overridesOn localDate with
  | nil =>
      rw [hdate] at hoverrides
      rw [hoverrides.eq_nil]
      simp only
      rw [subtractBreaks_perm (hweekly .open) (hweekly .break)]
  | cons override rest =>
      cases rest with
      | nil =>
          rw [hdate] at hoverrides
          rw [hoverrides.eq_singleton]
      | cons second rest =>
          rw [hdate] at hoverrides
          have hlength := hoverrides.length_eq
          match hother : other.overridesOn localDate, hlength with
          | _ :: _ :: _, _ => rfl

/-! ## What depends on the dates alone -/

section Dates

variable (hzone : other.timezone = schedule.timezone)
  (hdays : ∀ localDate, effectiveDay other localDate = effectiveDay schedule localDate)
include hzone hdays

theorem isOpen_eq_of_days (instant : Int) : isOpen other instant = isOpen schedule instant := by
  unfold isOpen
  simp only [hzone, hdays]

theorem searchOpening_eq_of_days (instant searchHorizonDays : Int) (reading : LocalDateTime)
    (dates : Nat) (offset : Int) :
    searchOpening other instant reading searchHorizonDays dates offset =
      searchOpening schedule instant reading searchHorizonDays dates offset := by
  induction dates generalizing offset with
  | zero => rfl
  | succ dates ih =>
      unfold searchOpening
      simp only [hzone, hdays, ih]

theorem nextOpening_eq_of_days (instant searchHorizonDays : Int) :
    nextOpening other instant searchHorizonDays =
      nextOpening schedule instant searchHorizonDays := by
  unfold nextOpening
  rw [isOpen_eq_of_days hzone hdays, hzone]
  simp only [searchOpening_eq_of_days hzone hdays]

theorem spendDays_eq_of_days (dates : Nat) (localDate : Int) (search : DueSearch) :
    spendDays other dates localDate search = spendDays schedule dates localDate search := by
  induction dates generalizing localDate search with
  | zero => rfl
  | succ dates ih =>
      unfold spendDays
      simp only [hzone, hdays, ih]

theorem businessDueWithin_eq_of_days (instant serviceTime searchHorizonDays : Int) :
    businessDueWithin other instant serviceTime searchHorizonDays =
      businessDueWithin schedule instant serviceTime searchHorizonDays := by
  unfold businessDueWithin
  rw [hzone, spendDays_eq_of_days hzone hdays]

end Dates

end BusinessAssistant.Application
