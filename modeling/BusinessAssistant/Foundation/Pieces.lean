/-
# Pieces of a range

A list of half-open pieces, each of positive length and each ending before the next
begins, is determined by the points it covers. Cutting pauses out of a piece leaves such a
list, and it covers the points of the piece that are in no pause; so the order in which the
pauses are cut out does not matter.
-/

import Mathlib.Data.List.Sort
import Mathlib.Order.Basic

namespace BusinessAssistant.Foundation.Pieces

universe u

variable {α : Type u} [LinearOrder α]

/-- A point of a piece. -/
def Within (piece : α × α) (point : α) : Prop := piece.1 ≤ point ∧ point < piece.2

/-- A point of one of the pieces. -/
def Covers (pieces : List (α × α)) (point : α) : Prop := ∃ piece ∈ pieces, Within piece point

/-- Pieces of positive length with gaps between them, in order. -/
structure Separated (pieces : List (α × α)) : Prop where
  positive : ∀ piece ∈ pieces, piece.1 < piece.2
  apart : pieces.Pairwise fun a b => a.2 < b.1

variable {piece pause : α × α} {pieces rest : List (α × α)} {point : α}

@[simp]
theorem not_covers_nil : ¬ Covers [] point := fun hpoint => by
  obtain ⟨_, hnone, _⟩ := hpoint
  cases hnone

@[simp]
theorem covers_singleton : Covers [piece] point ↔ Within piece point := by
  unfold Covers
  simp only [List.mem_singleton, exists_eq_left]

@[simp]
theorem covers_cons : Covers (piece :: rest) point ↔ Within piece point ∨ Covers rest point := by
  unfold Covers
  rw [List.exists_mem_cons_iff]

@[simp]
theorem covers_append :
    Covers (pieces ++ rest) point ↔ Covers pieces point ∨ Covers rest point := by
  unfold Covers
  simp only [List.mem_append, or_and_right, exists_or]

/-! ## Pieces that meet -/

/-- Two pieces have a point in common. -/
def Meets (piece other : α × α) : Prop := ∃ point, Within piece point ∧ Within other point

theorem Meets.symm {other : α × α} (h : Meets piece other) : Meets other piece := by
  obtain ⟨point, hpiece, hother⟩ := h
  exact ⟨point, hother, hpiece⟩

/-- A piece that starts first stays clear of the other just when it ends before the other
begins. -/
theorem not_meets_iff {other : α × α} (hother : other.1 < other.2) (hle : piece.1 ≤ other.1) :
    ¬ Meets piece other ↔ piece.2 ≤ other.1 := by
  constructor
  · intro hclear
    by_contra hlt
    exact hclear ⟨other.1, ⟨hle, not_le.mp hlt⟩, le_rfl, hother⟩
  · intro hends hmeets
    obtain ⟨point, hpiece, hwithin⟩ := hmeets
    exact absurd (hpiece.2.trans_le hends) (not_lt.mpr hwithin.1)

/-- Pieces in the order of their starts stay clear of one another when each ends before the
next one begins. -/
theorem isChain_iff_pairwise_not_meets (hpositive : ∀ piece ∈ pieces, piece.1 < piece.2)
    (hstarts : pieces.Pairwise fun a b => a.1 ≤ b.1) :
    pieces.IsChain (fun a b => a.2 ≤ b.1) ↔ pieces.Pairwise fun a b => ¬ Meets a b := by
  induction pieces with
  | nil => simp
  | cons piece rest ih =>
      obtain ⟨hfirst, hrest⟩ := List.pairwise_cons.mp hstarts
      have hlater : ∀ other ∈ rest, other.1 < other.2 := fun other hother =>
        hpositive other (List.mem_cons_of_mem _ hother)
      have hclear : (∀ other ∈ rest, ¬ Meets piece other) ↔ ∀ other ∈ rest, piece.2 ≤ other.1 :=
        forall₂_congr fun other hother => not_meets_iff (hlater other hother) (hfirst other hother)
      rw [List.pairwise_cons, hclear, ← ih hlater hrest]
      cases rest with
      | nil => simp
      | cons next rest =>
          have hnext := (List.pairwise_cons.mp hrest).1
          rw [List.isChain_cons_cons, List.forall_mem_cons]
          constructor
          · intro h
            exact ⟨⟨h.1, fun other hother => h.1.trans (hnext other hother)⟩, h.2⟩
          · intro h
            exact ⟨h.1.1, h.2⟩

/-! ## Separated pieces -/

theorem Separated.tail (h : Separated (piece :: rest)) : Separated rest where
  positive := fun other hother => h.positive other (List.mem_cons_of_mem _ hother)
  apart := (List.pairwise_cons.mp h.apart).2

theorem Separated.not_meets (h : Separated pieces) :
    pieces.Pairwise fun a b => ¬ Meets a b := by
  refine (List.Pairwise.and_mem.mp h.apart).imp ?_
  intro first second hmem hmeets
  obtain ⟨_, _, hlt⟩ := hmem
  obtain ⟨point, hfirst, hsecond⟩ := hmeets
  exact absurd (hfirst.2.trans hlt) (not_lt.mpr hsecond.1)

/-- The first piece begins with the first point that is covered. -/
theorem Separated.first_le (h : Separated (piece :: rest)) (hpoint : Covers (piece :: rest) point) :
    piece.1 ≤ point := by
  obtain ⟨other, hother, hfrom, _⟩ := hpoint
  rcases List.mem_cons.mp hother with rfl | hrest
  · exact hfrom
  · have hpositive := h.positive piece List.mem_cons_self
    have hafter := (List.pairwise_cons.mp h.apart).1 other hrest
    exact (hpositive.trans (hafter.trans_le hfrom)).le

/-- The rest covers what comes after the first piece. -/
theorem Separated.covers_rest_iff (h : Separated (piece :: rest)) :
    Covers rest point ↔ Covers (piece :: rest) point ∧ piece.2 ≤ point := by
  rw [covers_cons]
  constructor
  · intro hrest
    obtain ⟨other, hother, hfrom, hto⟩ := hrest
    have hafter := (List.pairwise_cons.mp h.apart).1 other hother
    exact ⟨.inr ⟨other, hother, hfrom, hto⟩, (hafter.trans_le hfrom).le⟩
  · intro hboth
    obtain ⟨hwithin | hrest, hafter⟩ := hboth
    · exact absurd hwithin.2 (not_lt.mpr hafter)
    · exact hrest

/-- The end of the first piece is not covered. -/
theorem Separated.not_covers_end (h : Separated (piece :: rest)) :
    ¬ Covers (piece :: rest) piece.2 := by
  intro hpoint
  obtain ⟨other, hother, hfrom, hto⟩ := hpoint
  rcases List.mem_cons.mp hother with rfl | hrest
  · exact lt_irrefl _ hto
  · exact absurd hfrom (not_le.mpr ((List.pairwise_cons.mp h.apart).1 other hrest))

theorem covers_first (hpositive : piece.1 < piece.2) : Covers (piece :: rest) piece.1 :=
  ⟨piece, List.mem_cons_self, le_rfl, hpositive⟩

/-- Separated pieces that cover the same points end their first piece together. -/
theorem Separated.end_le {other : α × α} {others : List (α × α)}
    (hother : Separated (other :: others)) (hstart : piece.1 = other.1)
    (hcovers : Covers (piece :: rest) other.2 ↔ Covers (other :: others) other.2) :
    piece.2 ≤ other.2 := by
  by_contra hlt
  have hlt' := not_le.mp hlt
  have hpositive := hother.positive other List.mem_cons_self
  have hinside : Within piece other.2 := ⟨hstart ▸ hpositive.le, hlt'⟩
  exact hother.not_covers_end (hcovers.mp ⟨piece, List.mem_cons_self, hinside⟩)

/-- Separated pieces are determined by the points they cover. -/
theorem Separated.ext {others : List (α × α)} (h : Separated pieces) (hothers : Separated others)
    (hcovers : ∀ point, Covers pieces point ↔ Covers others point) : pieces = others := by
  induction pieces generalizing others with
  | nil =>
      cases others with
      | nil => rfl
      | cons other others =>
          have hfirst := @covers_first α _ other others (hothers.positive other List.mem_cons_self)
          obtain ⟨_, hnone, _⟩ := (hcovers other.1).mpr hfirst
          cases hnone
  | cons piece rest ih =>
      cases others with
      | nil =>
          have hfirst := @covers_first α _ piece rest (h.positive piece List.mem_cons_self)
          obtain ⟨_, hnone, _⟩ := (hcovers piece.1).mp hfirst
          cases hnone
      | cons other others =>
          have hpositive := h.positive piece List.mem_cons_self
          have hpositive' := hothers.positive other List.mem_cons_self
          have hstart : piece.1 = other.1 :=
            le_antisymm (h.first_le ((hcovers other.1).mpr (covers_first hpositive')))
              (hothers.first_le ((hcovers piece.1).mp (covers_first hpositive)))
          have hend : piece.2 = other.2 :=
            le_antisymm (hothers.end_le hstart (hcovers other.2))
              (h.end_le hstart.symm (hcovers piece.2).symm)
          have hrest : rest = others := by
            apply ih h.tail hothers.tail
            intro point
            rw [h.covers_rest_iff, hothers.covers_rest_iff, hcovers point, hend]
          rw [Prod.ext hstart hend, hrest]

/-! ## Cutting pauses out -/

/-- What a pause leaves of a piece. -/
def cut (pause piece : α × α) : List (α × α) :=
  if pause.2 ≤ piece.1 ∨ pause.1 ≥ piece.2 then [piece]
  else
    (if pause.1 > piece.1 then [(piece.1, pause.1)] else []) ++
      (if pause.2 < piece.2 then [(pause.2, piece.2)] else [])

/-- What pauses, one after the other, leave of a piece. -/
def cutAll (pauses : List (α × α)) (piece : α × α) : List (α × α) :=
  pauses.foldl (fun pieces pause => pieces.flatMap (cut pause)) [piece]

theorem covers_cut (hpause : pause.1 < pause.2) :
    Covers (cut pause piece) point ↔ Within piece point ∧ ¬ Within pause point := by
  have hends : ∀ bound, bound < pause.1 → bound < pause.2 := fun _ hbound => hbound.trans hpause
  unfold cut
  split_ifs <;> simp only [covers_append, covers_singleton, not_covers_nil, Within] <;> grind

/-- What is left of a piece lies in the piece. -/
theorem mem_cut {left : α × α} (hpiece : piece.1 < piece.2) (hleft : left ∈ cut pause piece) :
    piece.1 ≤ left.1 ∧ left.1 < left.2 ∧ left.2 ≤ piece.2 := by
  unfold cut at hleft
  grind

theorem apart_cut (hpause : pause.1 < pause.2) :
    (cut pause piece).Pairwise fun a b => a.2 < b.1 := by
  unfold cut
  split_ifs <;> simp [hpause]

/-- A pause leaves separated pieces of separated pieces. -/
theorem Separated.flatMap_cut (h : Separated pieces) (hpause : pause.1 < pause.2) :
    Separated (pieces.flatMap (cut pause)) where
  positive := by
    intro left hleft
    obtain ⟨piece, hpiece, hleft⟩ := List.mem_flatMap.mp hleft
    exact (mem_cut (h.positive piece hpiece) hleft).2.1
  apart := by
    rw [List.pairwise_flatMap]
    refine ⟨fun piece _ => apart_cut hpause, ?_⟩
    refine (List.Pairwise.and_mem.mp h.apart).imp ?_
    intro first second hmem left hleft right hright
    obtain ⟨hfirst, hsecond, hlt⟩ := hmem
    have hbefore := (mem_cut (h.positive first hfirst) hleft).2.2
    have hafter := (mem_cut (h.positive second hsecond) hright).1
    exact (hbefore.trans_lt hlt).trans_le hafter

theorem covers_flatMap_cut (hpause : pause.1 < pause.2) :
    Covers (pieces.flatMap (cut pause)) point ↔ Covers pieces point ∧ ¬ Within pause point := by
  induction pieces with
  | nil => simp [Covers]
  | cons piece rest ih =>
      rw [List.flatMap_cons, covers_append, covers_cut hpause, ih, covers_cons, or_and_right]

/-- Pauses leave separated pieces, which cover the points that are in no pause. -/
theorem separated_foldl {pauses : List (α × α)} (hpauses : ∀ pause ∈ pauses, pause.1 < pause.2)
    (h : Separated pieces) :
    Separated (pauses.foldl (fun pieces pause => pieces.flatMap (cut pause)) pieces) ∧
      ∀ point, Covers (pauses.foldl (fun pieces pause => pieces.flatMap (cut pause)) pieces) point ↔
        Covers pieces point ∧ ∀ pause ∈ pauses, ¬ Within pause point := by
  induction pauses generalizing pieces with
  | nil => simpa using h
  | cons pause pauses ih =>
      have hpause := hpauses pause List.mem_cons_self
      obtain ⟨hseparated, hcovers⟩ := ih
        (fun other hother => hpauses other (List.mem_cons_of_mem _ hother)) (h.flatMap_cut hpause)
      refine ⟨hseparated, ?_⟩
      intro point
      rw [List.foldl_cons, hcovers point, covers_flatMap_cut hpause, List.forall_mem_cons, and_assoc]

/-- Pauses leave of a piece separated pieces of it, which cover its points that are in no
pause. -/
theorem separated_cutAll {pauses : List (α × α)} (hpauses : ∀ pause ∈ pauses, pause.1 < pause.2)
    (hpiece : piece.1 < piece.2) :
    Separated (cutAll pauses piece) ∧ ∀ point, Covers (cutAll pauses piece) point ↔
      Within piece point ∧ ∀ pause ∈ pauses, ¬ Within pause point := by
  have hsingle : Separated [piece] := by
    refine ⟨?_, List.pairwise_singleton _ _⟩
    intro other hother
    rw [List.mem_singleton.mp hother]
    exact hpiece
  obtain ⟨hleft, hcovers⟩ := separated_foldl hpauses hsingle
  refine ⟨hleft, ?_⟩
  intro point
  rw [← @covers_singleton α _ piece point]
  exact hcovers point

/-- The order in which pauses are cut out does not matter. -/
theorem cutAll_perm {pauses pauses' : List (α × α)} (hperm : pauses.Perm pauses')
    (hpauses : ∀ pause ∈ pauses, pause.1 < pause.2) (hpiece : piece.1 < piece.2) :
    cutAll pauses piece = cutAll pauses' piece := by
  have hpauses' : ∀ pause ∈ pauses', pause.1 < pause.2 :=
    fun pause hpause => hpauses pause (hperm.mem_iff.mpr hpause)
  obtain ⟨hleft, hcovers⟩ := separated_cutAll hpauses hpiece
  obtain ⟨hleft', hcovers'⟩ := separated_cutAll hpauses' hpiece
  apply hleft.ext hleft'
  intro point
  rw [hcovers, hcovers']
  simp only [hperm.mem_iff]

end BusinessAssistant.Foundation.Pieces
