/-
# Breaks taken out of openings

`_subtract_breaks` computes a difference of sets. Its pieces cover the times that lie in an
opening and in no break, whatever the breaks and the openings overlap, and it refuses the
openings just when what the breaks leave of two of them overlaps.
-/

import BusinessAssistant.Application.ScheduleOrder

namespace BusinessAssistant.Application

open BusinessAssistant.Domain BusinessAssistant.Foundation

/-- What the breaks leave of one opening. -/
def leftOf (breaks : List ScheduleInterval) (opening : ScheduleInterval) :
    List (TimeOfDay × TimeOfDay) :=
  (breaks.insertionSort byStart).foldl (fun pieces pause => pieces.flatMap (revisePiece pause))
    [(opening.startLocal, opening.endLocal)]

/-- The pieces of all openings, in the order they are returned. -/
def orderedPieces (openings breaks : List ScheduleInterval) : List (TimeOfDay × TimeOfDay) :=
  ((openings.insertionSort byStart).flatMap (leftOf breaks)).insertionSort pieceLe

section Difference

variable {openings breaks : List ScheduleInterval} {opening : ScheduleInterval}

theorem leftOf_eq_cutAll : leftOf breaks opening =
    Pieces.cutAll ((breaks.insertionSort byStart).map bounds) (bounds opening) :=
  foldl_revisePiece _ opening

theorem separated_leftOf : Pieces.Separated (leftOf breaks opening) := by
  rw [leftOf_eq_cutAll]
  exact (Pieces.separated_cutAll bounds_positive opening.startPrecedesEnd).1

/-- The breaks leave of an opening its times that are in no break. -/
theorem covers_leftOf {time : TimeOfDay} : Pieces.Covers (leftOf breaks opening) time ↔
    Pieces.Within (bounds opening) time ∧
      ∀ pause ∈ breaks, ¬ Pieces.Within (bounds pause) time := by
  rw [leftOf_eq_cutAll,
    (Pieces.separated_cutAll bounds_positive opening.startPrecedesEnd).2 time, List.forall_mem_map]
  simp only [List.mem_insertionSort]

/-! ## The ordered pieces -/

theorem mem_orderedPieces {piece : TimeOfDay × TimeOfDay} :
    piece ∈ orderedPieces openings breaks ↔ ∃ opening ∈ openings, piece ∈ leftOf breaks opening := by
  simp only [orderedPieces, List.mem_insertionSort, List.mem_flatMap]

theorem positive_orderedPieces : ∀ piece ∈ orderedPieces openings breaks, piece.1 < piece.2 := by
  intro piece hpiece
  obtain ⟨_, _, hleft⟩ := mem_orderedPieces.mp hpiece
  exact separated_leftOf.positive piece hleft

theorem sorted_orderedPieces : (orderedPieces openings breaks).Pairwise pieceLe :=
  List.pairwise_insertionSort pieceLe _

theorem starts_orderedPieces :
    (orderedPieces openings breaks).Pairwise fun first second => first.1 ≤ second.1 :=
  sorted_orderedPieces.imp fun hle => hle.elim le_of_lt fun hsame => hsame.1.le

theorem covers_orderedPieces {time : TimeOfDay} :
    Pieces.Covers (orderedPieces openings breaks) time ↔
      (∃ opening ∈ openings, Pieces.Within (bounds opening) time) ∧
        ∀ pause ∈ breaks, ¬ Pieces.Within (bounds pause) time := by
  constructor
  · intro hcovers
    obtain ⟨piece, hpiece, hwithin⟩ := hcovers
    obtain ⟨opening, hopening, hleft⟩ := mem_orderedPieces.mp hpiece
    obtain ⟨hinside, houtside⟩ := covers_leftOf.mp ⟨piece, hleft, hwithin⟩
    exact ⟨⟨opening, hopening, hinside⟩, houtside⟩
  · intro hboth
    obtain ⟨⟨opening, hopening, hinside⟩, houtside⟩ := hboth
    obtain ⟨piece, hleft, hwithin⟩ := covers_leftOf.mpr ⟨hinside, houtside⟩
    exact ⟨piece, mem_orderedPieces.mpr ⟨opening, hopening, hleft⟩, hwithin⟩

/-- The pieces stay clear of one another when those of different openings do. -/
theorem pairwise_orderedPieces :
    (orderedPieces openings breaks).Pairwise (fun first second => ¬ Pieces.Meets first second) ↔
      openings.Pairwise fun first second =>
        ∀ piece ∈ leftOf breaks first, ∀ other ∈ leftOf breaks second, ¬ Pieces.Meets piece other := by
  have hsymm : ∀ {piece other : TimeOfDay × TimeOfDay}, ¬ Pieces.Meets piece other →
      ¬ Pieces.Meets other piece := fun hclear hmeets => hclear hmeets.symm
  have hopenings : ∀ {first second : ScheduleInterval},
      (∀ piece ∈ leftOf breaks first, ∀ other ∈ leftOf breaks second, ¬ Pieces.Meets piece other) →
      ∀ piece ∈ leftOf breaks second, ∀ other ∈ leftOf breaks first, ¬ Pieces.Meets piece other :=
    fun hclear piece hpiece other hother => hsymm (hclear other hother piece hpiece)
  unfold orderedPieces
  rw [(List.perm_insertionSort pieceLe _).pairwise_iff hsymm, List.pairwise_flatMap,
    (List.perm_insertionSort byStart openings).pairwise_iff hopenings]
  exact and_iff_right fun opening _ => separated_leftOf.not_meets

/-- The check of neighbours in the list. -/
theorem any_zip_tail_eq_false (pieces : List (TimeOfDay × TimeOfDay)) :
    ((pieces.zip pieces.tail).any fun (previous, current) => previous.2 > current.1) = false ↔
      pieces.IsChain fun previous current => previous.2 ≤ current.1 := by
  induction pieces with
  | nil => simp
  | cons piece rest ih =>
      cases rest with
      | nil => simp
      | cons next rest =>
          rw [List.tail_cons] at ih ⊢
          rw [List.zip_cons_cons, List.any_cons, Bool.or_eq_false_iff, decide_eq_false_iff_not,
            not_lt, List.isChain_cons_cons, ← ih]

/-- The openings are refused unless what is left of each stays clear of what is left of the
others. -/
theorem subtractBreaks_cases :
    (openings.Pairwise fun first second =>
        ∀ piece ∈ leftOf breaks first, ∀ other ∈ leftOf breaks second, ¬ Pieces.Meets piece other) ∧
        subtractBreaks openings breaks = .ok (orderedPieces openings breaks) ∨
      (¬ openings.Pairwise fun first second =>
        ∀ piece ∈ leftOf breaks first, ∀ other ∈ leftOf breaks second, ¬ Pieces.Meets piece other) ∧
        subtractBreaks openings breaks =
          .error (.invalidSchedule "Business intervals overlap") := by
  have hcheck := (any_zip_tail_eq_false (orderedPieces openings breaks)).trans
    ((Pieces.isChain_iff_pairwise_not_meets positive_orderedPieces starts_orderedPieces).trans
      pairwise_orderedPieces)
  have hsubtract : subtractBreaks openings breaks =
      if (((orderedPieces openings breaks).zip (orderedPieces openings breaks).tail).any
        fun (previous, current) => previous.2 > current.1) = true then
        .error (.invalidSchedule "Business intervals overlap")
      else .ok (orderedPieces openings breaks) := rfl
  rw [hsubtract, ← hcheck]
  split
  · rename_i hoverlap
    exact .inr ⟨by rw [hoverlap]; decide, rfl⟩
  · rename_i hclear
    exact .inl ⟨Bool.eq_false_iff.mpr hclear, rfl⟩

end Difference

/-- `_subtract_breaks` is the difference of two sets of times. What it returns is in order,
disjoint and of positive length, and it raises just when pieces left of two openings of the
list overlap. -/
theorem subtractBreaks_difference (openings breaks : List ScheduleInterval) :
    (∀ pieces, subtractBreaks openings breaks = .ok pieces →
      pieces.Pairwise pieceLe ∧
      pieces.Pairwise (fun first second => ¬ Pieces.Meets first second) ∧
      (∀ piece ∈ pieces, piece.1 < piece.2) ∧
      ∀ time, (∃ piece ∈ pieces, piece.1 ≤ time ∧ time < piece.2) ↔
        (∃ opening ∈ openings, opening.startLocal ≤ time ∧ time < opening.endLocal) ∧
          ∀ pause ∈ breaks, ¬ (pause.startLocal ≤ time ∧ time < pause.endLocal)) ∧
    ((∃ failure, subtractBreaks openings breaks = .error failure) ↔
      ∃ i j, ∃ hi : i < openings.length, ∃ hj : j < openings.length, i < j ∧
        ∃ piece ∈ leftOf breaks openings[i], ∃ other ∈ leftOf breaks openings[j],
          Pieces.Meets piece other) := by
  rcases @subtractBreaks_cases openings breaks with ⟨hclear, hok⟩ | ⟨hoverlap, herror⟩
  · refine ⟨?_, ?_⟩
    · intro pieces hpieces
      obtain rfl := Except.ok.inj (hok.symm.trans hpieces)
      exact ⟨sorted_orderedPieces, pairwise_orderedPieces.mpr hclear, positive_orderedPieces,
        fun time => covers_orderedPieces⟩
    · constructor
      · intro hraises
        obtain ⟨failure, hfailure⟩ := hraises
        rw [hok] at hfailure
        cases hfailure
      · intro hmeet
        obtain ⟨i, j, hi, hj, hlt, piece, hpiece, other, hother, hmeets⟩ := hmeet
        exact absurd hmeets
          (List.pairwise_iff_getElem.mp hclear i j hi hj hlt piece hpiece other hother)
  · refine ⟨?_, ?_⟩
    · intro pieces hpieces
      rw [herror] at hpieces
      cases hpieces
    · refine ⟨fun _ => ?_, fun _ => ⟨_, herror⟩⟩
      rw [List.pairwise_iff_getElem] at hoverlap
      push Not at hoverlap
      exact hoverlap

namespace SmallShop

theorem coffee_starts_before : (33600000000 : TimeOfDay) < 34800000000 := by decide

/-- From twenty past nine to twenty to ten. -/
def coffee : ScheduleInterval where
  weekday := 3
  startLocal := 33600000000
  endLocal := 34800000000
  intervalType := .break
  startPrecedesEnd := coffee_starts_before

/-- What a coffee break leaves of a morning, and a morning that is listed twice. -/
theorem coffee_cut_out :
    ([(32400000000, 33600000000), (34800000000, 36000000000)] :
      List (TimeOfDay × TimeOfDay)).Pairwise pieceLe ∧
    ∃ failure, subtractBreaks [morning, morning] [] = .error failure := by
  refine ⟨((subtractBreaks_difference [morning] [coffee]).1 _ ?_).1, ?_⟩
  · decide
  · refine (subtractBreaks_difference [morning, morning] []).2.mpr ?_
    exact ⟨0, 1, by decide, by decide, by decide, (32400000000, 36000000000), by decide,
      (32400000000, 36000000000), by decide, 32400000000, by unfold Pieces.Within; decide,
      by unfold Pieces.Within; decide⟩

end SmallShop

end BusinessAssistant.Application
