/-
# Readings of a clock over a range

A clock assigns every instant of a discrete time a reading. It runs steadily
where each instant reads one more than the instant before; elsewhere it was put
forward or put back. A range falls into stretches of steady running.
-/

import Mathlib.Order.Interval.Basic
import Mathlib.Tactic.Linarith

namespace BusinessAssistant.Foundation.Clock

variable (reading : Int → Int)

/-- The clock runs steadily into an instant. -/
def Steady (instant : Int) : Prop := reading instant = reading (instant - 1) + 1

/-- The clock is put back at an instant: its reading does not pass the one
before. -/
def PutBack (instant : Int) : Prop := reading instant ≤ reading (instant - 1)

/-- A longest part of a range in which the clock runs steadily. -/
structure Stretch (start stop first last : Int) : Prop where
  from_start : start ≤ first
  nonempty : first < last
  to_stop : last ≤ stop
  steady : ∀ instant, first < instant → instant < last → Steady reading instant
  begins : first = start ∨ ¬ Steady reading first
  ends : last = stop ∨ ¬ Steady reading last

variable {reading}

/-- Readings advance with time while the clock runs steadily. -/
theorem reading_of_steady {first : Int} {instant : Int} (hfrom : first ≤ instant)
    (hsteady : ∀ u, first < u → u ≤ instant → Steady reading u) :
    reading instant = reading first + (instant - first) := by
  induction instant, hfrom using Int.leInduction with
  | base => omega
  | succ instant hfrom ih =>
      have hlast := hsteady (instant + 1) (by omega) (by omega)
      have hbefore := ih fun u hu hle => hsteady u hu (by omega)
      unfold Steady at hlast
      rw [show instant + 1 - 1 = instant by omega] at hlast
      omega

theorem Stretch.reading_eq {start stop first last : Int}
    (h : Stretch reading start stop first last) {instant : Int} (hfrom : first ≤ instant)
    (hto : instant < last) : reading instant = reading first + (instant - first) := by
  apply reading_of_steady hfrom
  intro u hfirst hu
  exact h.steady u hfirst (by omega)

/-- Readings increase over a range in which the clock is never put back. -/
theorem reading_lt_of_no_putBack {start instant : Int} (hlt : start < instant)
    (hforward : ∀ u, start < u → u ≤ instant → ¬ PutBack reading u) :
    reading start < reading instant := by
  induction instant, Int.add_one_le_iff.mpr hlt using Int.leInduction with
  | base =>
      have hlast := hforward (start + 1) (by omega) (by omega)
      unfold PutBack at hlast
      rw [show start + 1 - 1 = start by omega] at hlast
      omega
  | succ instant hfrom ih =>
      have hlast := hforward (instant + 1) (by omega) (by omega)
      have hbefore := ih (by omega) fun u hu hle => hforward u hu (by omega)
      unfold PutBack at hlast
      rw [show instant + 1 - 1 = instant by omega] at hlast
      omega

/-- The last instant up to a given one at which the clock did not run steadily,
or else the start. -/
theorem exists_first {start instant : Int} (hfrom : start ≤ instant) :
    ∃ first, start ≤ first ∧ first ≤ instant ∧
      (∀ u, first < u → u ≤ instant → Steady reading u) ∧
      (first = start ∨ ¬ Steady reading first) := by
  induction instant, hfrom using Int.leInduction with
  | base => exact ⟨start, le_rfl, le_rfl, fun u hu hle => absurd hle (by omega), .inl rfl⟩
  | succ instant hfrom ih =>
      by_cases hsteady : Steady reading (instant + 1)
      · obtain ⟨first, hstart, hle, hrun, hbegins⟩ := ih
        refine ⟨first, hstart, by omega, ?_, hbegins⟩
        intro u hu hlast
        rcases Int.le_iff_lt_or_eq.mp hlast with hlt | rfl
        · exact hrun u hu (by omega)
        · exact hsteady
      · exact ⟨instant + 1, by omega, le_rfl, fun u hu hle => absurd hle (by omega), .inr hsteady⟩

/-- The first instant after a given one at which the clock does not run steadily,
or else the end. -/
theorem exists_last {instant stop : Int} (hto : instant < stop) :
    ∃ last, instant < last ∧ last ≤ stop ∧
      (∀ u, instant < u → u < last → Steady reading u) ∧
      (last = stop ∨ ¬ Steady reading last) := by
  obtain ⟨count, rfl⟩ : ∃ count : Nat, stop = instant + 1 + count :=
    ⟨(stop - instant - 1).toNat, by omega⟩
  induction count generalizing instant with
  | zero =>
      exact ⟨instant + 1 + (0 : Nat), by omega, le_rfl, fun u hu hlt => by omega, .inl rfl⟩
  | succ count ih =>
      by_cases hsteady : Steady reading (instant + 1)
      · obtain ⟨last, hlt, hle, hrun, hends⟩ := @ih (instant + 1) (by omega)
        refine ⟨last, by omega, by omega, ?_, ?_⟩
        · intro u hu hlast
          rcases Int.le_iff_lt_or_eq.mp (Int.add_one_le_iff.mpr hu) with hnext | rfl
          · exact hrun u hnext hlast
          · exact hsteady
        · rcases hends with hstop | hjump
          · exact .inl (by omega)
          · exact .inr hjump
      · exact ⟨instant + 1, by omega, by omega, fun u hu hlt => by omega, .inr hsteady⟩

/-- Every instant of a range lies in a stretch of it. -/
theorem exists_stretch {start stop instant : Int} (hfrom : start ≤ instant)
    (hto : instant < stop) :
    ∃ first last, Stretch reading start stop first last ∧ first ≤ instant ∧ instant < last := by
  obtain ⟨first, hstart, hfirst, hbefore, hbegins⟩ := @exists_first reading start instant hfrom
  obtain ⟨last, hlast, hstop, hafter, hends⟩ := @exists_last reading instant stop hto
  refine ⟨first, last, ?_, hfirst, hlast⟩
  exact
    { from_start := hstart
      nonempty := by omega
      to_stop := hstop
      steady := by
        intro u hu hlt
        rcases Int.lt_or_le instant u with hlater | hearlier
        · exact hafter u hlater hlt
        · exact hbefore u hu hearlier
      begins := hbegins
      ends := hends }

/-! ## Covering a range by spans -/

/-- A range lies in a span, or is joined from ranges that do. -/
inductive Joined (Span : Int → Int → Prop) : Int → Int → Prop
  | within {first last start stop : Int} (hspan : Span first last) (hfrom : first ≤ start)
      (hto : stop ≤ last) : Joined Span start stop
  | join {start middle stop : Int} (hbefore : Joined Span start middle)
      (hafter : Joined Span middle stop) : Joined Span start stop

/-- A range is joined from spans just when each instant of it lies in one. -/
theorem joined_iff {Span : Int → Int → Prop} {start stop : Int} (hlt : start < stop) :
    Joined Span start stop ↔
      ∀ instant, start ≤ instant → instant < stop →
        ∃ first last, Span first last ∧ first ≤ instant ∧ instant < last := by
  constructor
  · intro hjoined
    clear hlt
    induction hjoined with
    | @within first last start stop hspan hfrom hto =>
        intro instant hstart hstop
        exact ⟨first, last, hspan, by omega, by omega⟩
    | @join start middle stop _ _ ihbefore ihafter =>
        intro instant hstart hstop
        rcases Int.lt_or_le instant middle with hearlier | hlater
        · exact ihbefore instant hstart hearlier
        · exact ihafter instant hlater hstop
  · intro hcovered
    obtain ⟨length, hlength⟩ : ∃ length : Nat, stop - start ≤ length :=
      ⟨(stop - start).toNat, by omega⟩
    induction length generalizing start with
    | zero => omega
    | succ length ih =>
        obtain ⟨first, last, hspan, hfirst, hlast⟩ := hcovered start le_rfl hlt
        rcases Int.lt_or_le last stop with hshort | hlong
        · -- The span that holds the start ends inside the range: go on from its end.
          have hrest := ih hshort (fun instant hfrom hto => hcovered instant (by omega) hto)
            (by omega)
          exact .join (.within hspan hfirst le_rfl) hrest
        · exact .within hspan hfirst hlong

end BusinessAssistant.Foundation.Clock
