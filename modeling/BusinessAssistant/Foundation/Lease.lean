/-
# Leases

One item that several parties work on, one at a time. A party claims it and holds
it until it reports an outcome or until its lease has run out; some outcomes close
the item for good, after the others it may be claimed again. The history of an item
is a list of events, the latest first, and what it stands at follows from them.

A report is not bound to the claim it belongs to: one that comes late, when another
party has claimed the item since, still ends that party's work. `Orderly` histories
are those in which this does not happen for the outcomes that have to be fenced. In
them the latest claimant is alone: between its claim and its report, or the end of
its lease, nobody else claims the item.
-/

import BusinessAssistant.Foundation.Members
import Mathlib.Data.List.Basic
import Mathlib.Order.Basic
import Mathlib.Algebra.Group.Int.Defs

namespace BusinessAssistant.Foundation

universe u v

/-- What happens to a leased item. -/
inductive LeaseEvent (γ : Type u) (ο : Type v)
  /-- A party takes the item. -/
  | claim (who : γ) (time : Int)
  /-- A party says how its work on the item ended. -/
  | report (who : γ) (outcome : ο)
  /-- The record of the item is thrown away, so that it can be claimed afresh. -/
  | discard (time : Int)
  deriving DecidableEq

namespace LeaseEvent

variable {γ : Type u} {ο : Type v}

/-- The time of an event that has one. -/
def time? : LeaseEvent γ ο → Option Int
  | .claim _ time => some time
  | .report _ _ => none
  | .discard time => some time

end LeaseEvent

/-- Where an item stands. -/
inductive LeasePhase (ο : Type v)
  | free
  | held
  | ended (outcome : ο)
  deriving DecidableEq

/-- An item: where it stands, and who claimed it last and when. -/
structure Lease (γ : Type u) (ο : Type v) where
  phase : LeasePhase ο := .free
  holder : Option (γ × Int) := none
  deriving DecidableEq

/-- The rules of a lease: how long it lasts, which outcomes close the item, and which
outcomes only the latest claimant may report. -/
structure LeaseTerms (ο : Type v) where
  length : Int
  Closes : ο → Prop
  Fenced : ο → Prop
  /-- An outcome after which the item can be claimed again is fenced. -/
  fenced_of_reopens : ∀ outcome, ¬ Closes outcome → Fenced outcome

namespace Lease

variable {γ : Type u} {ο : Type v}

/-- A report only does something while the item is held, whoever holds it. -/
def next (lease : Lease γ ο) : LeaseEvent γ ο → Lease γ ο
  | .claim who time => { phase := .held, holder := some (who, time) }
  | .report _ outcome =>
      match lease.phase with
      | .held => { lease with phase := .ended outcome }
      | .free | .ended _ => lease
  | .discard _ => { lease with phase := .free }

/-- What a history, the latest event first, leads to. -/
def after : List (LeaseEvent γ ο) → Lease γ ο
  | [] => {}
  | event :: earlier => (after earlier).next event

/-- Who is said to have claimed an item last has claimed it. -/
theorem claim_of_holder {history : List (LeaseEvent γ ο)} {holder : γ × Int}
    (hholder : (after history).holder = some holder) : .claim holder.1 holder.2 ∈ history := by
  induction history with
  | nil => cases hholder
  | cons event earlier ih =>
      cases event with
      | claim who time =>
          cases hholder
          exact List.mem_cons_self
      | report who outcome =>
          refine List.mem_cons_of_mem _ (ih ?_)
          rw [after, next] at hholder
          split at hholder <;> exact hholder
      | discard time => exact List.mem_cons_of_mem _ (ih hholder)

variable (terms : LeaseTerms ο)

/-- The item may be claimed: nobody has it, or its outcome left it open, or the lease
of the party that has it is over. -/
def Claimable (lease : Lease γ ο) (time : Int) : Prop :=
  match lease.phase with
  | .free => True
  | .ended outcome => ¬ terms.Closes outcome
  | .held => ∀ holder ∈ lease.holder, holder.2 + terms.length ≤ time

/-- An event that may follow a history. Claims and discards come in the order of their
times; a claimant is new; a fenced report on a held item is its holder's; the record is
discarded when its last claimant is through or its lease is. -/
def Admits (earlier : List (LeaseEvent γ ο)) : LeaseEvent γ ο → Prop
  | .claim who time =>
      (∀ event ∈ earlier, ∀ before ∈ event.time?, before ≤ time) ∧
        (∀ outcome, .report who outcome ∉ earlier) ∧ (after earlier).Claimable terms time
  | .report who outcome =>
      (after earlier).phase = .held → terms.Fenced outcome →
        ∃ time, (after earlier).holder = some (who, time)
  | .discard time =>
      (∀ event ∈ earlier, ∀ before ∈ event.time?, before ≤ time) ∧
        (after earlier).phase ≠ .held ∧
          ∀ holder ∈ (after earlier).holder,
            (∃ outcome, .report holder.1 outcome ∈ earlier) ∨ holder.2 + terms.length ≤ time

/-- A history each of whose events may follow the ones before it. -/
def Orderly : List (LeaseEvent γ ο) → Prop
  | [] => True
  | event :: earlier => Admits terms earlier event ∧ Orderly earlier

variable {terms}

theorem Orderly.of_append {later earlier : List (LeaseEvent γ ο)}
    (h : Orderly terms (later ++ earlier)) : Orderly terms earlier := by
  induction later with
  | nil => exact h
  | cons event later ih => exact ih h.2

/-! ## One claimant at a time -/

/-- The claimant is through with the item: it has reported since, or the time its lease
ended has come by. -/
def Settled (terms : LeaseTerms ο) (who : γ) (time : Int) (since : List (LeaseEvent γ ο)) : Prop :=
  (∃ outcome, .report who outcome ∈ since) ∨
    ∃ event ∈ since, ∃ now ∈ event.time?, time + terms.length ≤ now

theorem Settled.cons {who : γ} {time : Int} {since : List (LeaseEvent γ ο)}
    (h : Settled terms who time since) (event : LeaseEvent γ ο) :
    Settled terms who time (event :: since) := by
  rcases h with ⟨outcome, hreport⟩ | ⟨other, hother, hnow⟩
  · exact .inl ⟨outcome, List.mem_cons_of_mem event hreport⟩
  · exact .inr ⟨other, List.mem_cons_of_mem event hother, hnow⟩

/-- The party has the item or closed it. -/
def Keeps (terms : LeaseTerms ο) (who : γ) (time : Int) (lease : Lease γ ο) : Prop :=
  lease.holder = some (who, time) ∧
    (lease.phase = .held ∨ ∃ outcome, lease.phase = .ended outcome ∧ terms.Closes outcome)

/-- The next event either settles the party that has the item or leaves the item to it. -/
theorem Keeps.next {who : γ} {time : Int} {history : List (LeaseEvent γ ο)}
    (h : Keeps terms who time (after history)) {event : LeaseEvent γ ο}
    (hadmits : Admits terms history event)
    (hreported : ∀ outcome, .report who outcome ∉ history) :
    Settled terms who time [event] ∨ Keeps terms who time ((after history).next event) := by
  obtain ⟨hholder, hphase⟩ := h
  cases event with
  | claim other now =>
      obtain ⟨_, _, hclaimable⟩ := hadmits
      rcases hphase with hheld | ⟨outcome, hended, hcloses⟩
      · rw [Claimable, hheld] at hclaimable
        exact .inl (.inr ⟨_, List.mem_cons_self, now, rfl, hclaimable _ hholder⟩)
      · rw [Claimable, hended] at hclaimable
        exact absurd hcloses hclaimable
  | report other outcome =>
      rcases hphase with hheld | ⟨closed, hended, hcloses⟩
      · by_cases hcloses : terms.Closes outcome
        · right
          simp only [Lease.next, hheld]
          exact ⟨hholder, .inr ⟨outcome, rfl, hcloses⟩⟩
        · obtain ⟨since, hwho⟩ := hadmits hheld (terms.fenced_of_reopens outcome hcloses)
          rw [hholder, Option.some.injEq, Prod.mk.injEq] at hwho
          rw [hwho.1]
          exact .inl (.inl ⟨outcome, List.mem_cons_self⟩)
      · right
        simp only [Lease.next, hended]
        exact ⟨hholder, .inr ⟨closed, hended, hcloses⟩⟩
  | discard now =>
      obtain ⟨_, _, hthrough⟩ := hadmits
      rcases hthrough _ hholder with ⟨outcome, hreport⟩ | hover
      · exact absurd hreport (hreported outcome)
      · exact .inl (.inr ⟨_, List.mem_cons_self, now, rfl, hover⟩)

/-- After its claim a party is settled, or it has the item or closed it. -/
theorem Orderly.settled_or_keeps {since earlier : List (LeaseEvent γ ο)} {who : γ} {time : Int}
    (h : Orderly terms (since ++ .claim who time :: earlier)) :
    Settled terms who time since ∨
      Keeps terms who time (after (since ++ .claim who time :: earlier)) := by
  induction since with
  | nil => exact .inr ⟨rfl, .inl rfl⟩
  | cons event since ih =>
      obtain ⟨hadmits, horderly⟩ := h
      rcases ih horderly with hsettled | hkeeps
      · exact .inl (hsettled.cons event)
      by_cases hreported : ∃ outcome, .report who outcome ∈ since
      · exact .inl (.inl (hreported.imp fun outcome hreport => List.mem_cons_of_mem event hreport))
      · have hnew : ∀ outcome, .report who outcome ∉ since ++ .claim who time :: earlier := by
          intro outcome hreport
          rcases List.mem_append.mp hreport with hsince | hearlier
          · exact hreported ⟨outcome, hsince⟩
          · rcases List.mem_cons.mp hearlier with hclaim | hearlier
            · cases hclaim
            · exact horderly.of_append.1.2.1 outcome hearlier
        rcases hkeeps.next hadmits hnew with hsettled | hkeeps
        · left
          rcases hsettled with ⟨outcome, hreport⟩ | ⟨other, hother, hnow⟩
          · exact .inl ⟨outcome, List.mem_cons.mpr (.inl (List.mem_singleton.mp hreport))⟩
          · exact .inr ⟨other, List.mem_cons.mpr (.inl (List.mem_singleton.mp hother)), hnow⟩
        · exact .inr hkeeps

/-- Between a party's claim and its report, or the end of its lease, nobody else claims
the item. -/
theorem Orderly.exclusive {later between earlier : List (LeaseEvent γ ο)} {first second : γ}
    {since time : Int}
    (h : Orderly terms (later ++ .claim second time :: (between ++ .claim first since :: earlier))) :
    (∃ outcome, .report first outcome ∈ between) ∨ since + terms.length ≤ time := by
  obtain ⟨⟨htimes, _, hclaimable⟩, horderly⟩ := h.of_append
  rcases horderly.settled_or_keeps with hsettled | ⟨hholder, hphase⟩
  · rcases hsettled with hreport | ⟨event, hevent, now, hnow, hover⟩
    · exact .inl hreport
    · exact .inr (Int.le_trans hover (htimes event (List.mem_append_left _ hevent) now hnow))
  · rcases hphase with hheld | ⟨outcome, hended, hcloses⟩
    · rw [Claimable, hheld] at hclaimable
      exact .inr (hclaimable _ hholder)
    · rw [Claimable, hended] at hclaimable
      exact absurd hcloses hclaimable

/-! ## What is closed stays closed -/

/-- As long as the record is kept, an item that is closed is not claimed again and its
outcome stands. -/
theorem Orderly.closed {later earlier : List (LeaseEvent γ ο)} {outcome : ο}
    (h : Orderly terms (later ++ earlier)) (hclosed : (after earlier).phase = .ended outcome)
    (hcloses : terms.Closes outcome) (hkept : ∀ time, .discard time ∉ later) :
    after (later ++ earlier) = after earlier ∧ ∀ who time, .claim who time ∉ later := by
  induction later with
  | nil => exact ⟨rfl, fun _ _ hclaim => List.not_mem_nil hclaim⟩
  | cons event later ih =>
      obtain ⟨hadmits, horderly⟩ := h
      obtain ⟨hsame, hnone⟩ := ih horderly fun time hdiscard =>
        hkept time (List.mem_cons_of_mem event hdiscard)
      rw [List.cons_append, after]
      cases event with
      | claim who time =>
          have hclaimable : (after (later ++ earlier)).Claimable terms time := hadmits.2.2
          rw [Claimable, hsame, hclosed] at hclaimable
          exact absurd hcloses hclaimable
      | report who reported =>
          refine ⟨?_, fun other time hclaim => ?_⟩
          · rw [hsame, next, hclosed]
          · rcases List.mem_cons.mp hclaim with hclaim | hclaim
            · cases hclaim
            · exact hnone other time hclaim
      | discard time => exact absurd List.mem_cons_self (hkept time)

/-! ## Who wrote the outcome -/

/-- Where every outcome is fenced, an item stands where its last claimant left it: held
until that one reports, then at what it reported. -/
theorem Orderly.written (hfenced : ∀ outcome, terms.Fenced outcome)
    {history : List (LeaseEvent γ ο)} (h : Orderly terms history)
    (hkept : ∀ time, .discard time ∉ history) (who : γ) (time : Int)
    (hholder : (after history).holder = some (who, time)) :
    ((after history).phase = .held ∧ ∀ outcome, .report who outcome ∉ history) ∨
      ∃ outcome, (after history).phase = .ended outcome ∧ .report who outcome ∈ history := by
  induction history with
  | nil => cases hholder
  | cons event earlier ih =>
      obtain ⟨hadmits, horderly⟩ := h
      have hkept' : ∀ time, .discard time ∉ earlier := fun time hdiscard =>
        hkept time (List.mem_cons_of_mem event hdiscard)
      cases event with
      | claim other now =>
          cases hholder
          refine .inl ⟨rfl, fun outcome hreport => ?_⟩
          rcases List.mem_cons.mp hreport with hreport | hreport
          · cases hreport
          · exact hadmits.2.1 outcome hreport
      | report other reported =>
          have hsame : (after earlier).holder = some (who, time) := by
            rw [after, next] at hholder
            split at hholder <;> exact hholder
          rcases ih horderly hkept' hsame with ⟨hheld, hnone⟩ | ⟨outcome, hended, hreport⟩
          · obtain ⟨since, hother⟩ := hadmits hheld (hfenced reported)
            rw [hsame, Option.some.injEq, Prod.mk.injEq] at hother
            rw [← hother.1]
            refine .inr ⟨reported, ?_, List.mem_cons_self⟩
            rw [after, next, hheld]
          · refine .inr ⟨outcome, ?_, List.mem_cons_of_mem _ hreport⟩
            rw [after, next, hended]
            exact hended
      | discard now => exact absurd List.mem_cons_self (hkept now)

end Lease

end BusinessAssistant.Foundation
