/-
# Booking dates

`BookingApplication.dates` walks the days from today to the booking horizon and collects the
first ones with anything to offer. An offered slot starts on its date, after the notice and
before the horizon, so where dates only go forward the walk passes by every date that can be
booked at all.
-/

import BusinessAssistant.Application.Offers
import BusinessAssistant.Persistence.RequiredCapacity

namespace BusinessAssistant.Persistence

open BusinessAssistant.Domain BusinessAssistant.Foundation BusinessAssistant.Application

/-! ## The walk -/

/-- The loop of `dates`, with so many dates up to the horizon and so many still wanted. -/
def scanDates (context : AvailabilityContext) (now : Int) :
    (remaining : ℕ) → (candidate : Int) → (wanted : ℕ) → Except Failure (List Int)
  | 0, _, _ => pure []
  | _ + 1, _, 0 => pure []
  | remaining + 1, candidate, wanted + 1 => do
      let slots ← calculateAvailability context candidate now
      if slots = [] then scanDates context now remaining (candidate + 1) (wanted + 1)
      else do
        let found ← scanDates context now remaining (candidate + 1) wanted
        pure (candidate :: found)

/-- `instant.astimezone(zone).date()` -/
def localDateOf (zone : ZoneInfo) (instant : Int) : Int := Wall.date (zone.astimezone instant).naive

/-- The dates of a context: the walk is from today to the horizon in the zone of its first
resource, also where the others have another. -/
def datesOf (context : AvailabilityContext) (now : Int) (wanted : ℕ) : Except Failure (List Int) :=
  match context.resources with
  | [] => pure []
  | first :: _ =>
      let today := localDateOf first.schedule.timezone now
      let horizonDate := localDateOf first.schedule.timezone (now + context.policy.bookingHorizon)
      scanDates context now (horizonDate + 1 - today).toNat today wanted

/-- `BookingApplication.dates`, for the service of a draft -/
def bookingDates (cfg : Catalogue) (db : Database) (tenantId : TenantId) (serviceId : ServiceId)
    (now : Int) (wanted : ℕ) : Except Failure (List Int) := do
  match ← availabilityContext cfg db tenantId serviceId now with
  | none => pure []
  | some context => datesOf context now wanted

/-! ## The first dates -/

/-- The first so many of the dates that have a property, in order. -/
structure FirstDates (has : Int → Prop) (wanted : ℕ) (found : List Int) : Prop where
  increasing : found.Pairwise (· < ·)
  met : ∀ date ∈ found, has date
  few : found.length ≤ wanted
  passed : ∀ date, has date → date ∉ found →
    found.length = wanted ∧ ∀ earlier ∈ found, earlier < date

namespace FirstDates

variable {has had : Int → Prop} {wanted : ℕ} {found : List Int}

theorem of_iff (h : FirstDates has wanted found) (hiff : ∀ date, has date ↔ had date) :
    FirstDates had wanted found where
  increasing := h.increasing
  met := fun date hdate => (hiff date).mp (h.met date hdate)
  few := h.few
  passed := fun date hhad => h.passed date ((hiff date).mpr hhad)

theorem of_forall_not (hnone : ∀ date, ¬ has date) : FirstDates has wanted [] where
  increasing := .nil
  met := fun _ hmem => absurd hmem List.not_mem_nil
  few := Nat.zero_le _
  passed := fun date hdate => absurd hdate (hnone date)

theorem zero : FirstDates has 0 [] where
  increasing := .nil
  met := fun _ hmem => absurd hmem List.not_mem_nil
  few := le_rfl
  passed := fun _ _ _ => ⟨rfl, fun _ hmem => absurd hmem List.not_mem_nil⟩

/-- One more date before all the others. -/
theorem cons {candidate : Int} (h : FirstDates has wanted found)
    (hlater : ∀ date, has date → candidate < date)
    (hiff : ∀ date, had date ↔ date = candidate ∨ has date) :
    FirstDates had (wanted + 1) (candidate :: found) where
  increasing := .cons (fun date hdate => hlater date (h.met date hdate)) h.increasing
  met := by
    intro date hdate
    rcases List.mem_cons.mp hdate with hfirst | hdate
    · exact (hiff date).mpr (.inl hfirst)
    · exact (hiff date).mpr (.inr (h.met date hdate))
  few := by
    rw [List.length_cons]
    exact Nat.succ_le_succ h.few
  passed := by
    intro date hhad hmissing
    rw [List.mem_cons, not_or] at hmissing
    have hhas := ((hiff date).mp hhad).resolve_left hmissing.1
    obtain ⟨hfull, hearlier⟩ := h.passed date hhas hmissing.2
    refine ⟨by rw [List.length_cons, hfull], fun earlier hmem => ?_⟩
    rcases List.mem_cons.mp hmem with hfirst | hmem
    · rw [hfirst]
      exact hlater date hhas
    · exact hearlier earlier hmem

end FirstDates

/-- A date with slots to offer. -/
def Bookable (context : AvailabilityContext) (now date : Int) : Prop :=
  ∃ slots, calculateAvailability context date now = .ok slots ∧ slots ≠ []

variable {context : AvailabilityContext} {now : Int}

theorem bookable_iff {date : Int} {slots : List AvailableSlot}
    (hslots : calculateAvailability context date now = .ok slots) :
    Bookable context now date ↔ slots ≠ [] := by
  unfold Bookable
  rw [hslots]
  constructor
  · rintro ⟨_, hsame, hsome⟩
    exact Except.ok.inj hsame ▸ hsome
  · exact fun hsome => ⟨slots, rfl, hsome⟩

/-- The walk collects the first of the bookable dates it has before it. -/
theorem scanDates_first {remaining wanted : ℕ} {candidate : Int} {found : List Int}
    (h : scanDates context now remaining candidate wanted = .ok found) :
    FirstDates
      (fun date => Bookable context now date ∧ candidate ≤ date ∧ date < candidate + remaining)
      wanted found := by
  induction remaining generalizing candidate wanted found with
  | zero =>
      cases h
      exact .of_forall_not fun date hdate => by omega
  | succ remaining ih =>
      cases wanted with
      | zero =>
          cases h
          exact .zero
      | succ wanted =>
          obtain ⟨slots, hslots, hrest⟩ := except_bind_eq_ok.mp h
          have hcandidate := bookable_iff hslots
          split at hrest
          · rename_i hnone
            refine (ih hrest).of_iff fun date => ?_
            have hdate : Bookable context now date → date ≠ candidate := by
              rintro hbookable rfl
              exact hcandidate.mp hbookable hnone
            constructor
            · exact fun hlater => ⟨hlater.1, by omega, by omega⟩
            · exact fun ⟨hbookable, hrange⟩ =>
                ⟨hbookable, by have := hdate hbookable; omega, by omega⟩
          · rename_i hsome
            obtain ⟨rest, hscan, hfound⟩ := except_bind_eq_ok.mp hrest
            cases hfound
            refine (ih hscan).cons (fun date hlater => by omega) fun date => ?_
            constructor
            · rintro ⟨hbookable, hrange⟩
              by_cases hfirst : date = candidate
              · exact .inl hfirst
              · exact .inr ⟨hbookable, by omega, by omega⟩
            · rintro (rfl | hlater)
              · exact ⟨hcandidate.mpr hsome, by omega, by omega⟩
              · exact ⟨hlater.1, by omega, by omega⟩

/-! ## Every bookable date -/

/-- The dates of a zone only go forward. -/
def DatesForward (zone : ZoneInfo) : Prop :=
  ∀ earlier later : Int, earlier ≤ later → localDateOf zone earlier ≤ localDateOf zone later

/-- The dates of a zone without transitions only go forward. -/
theorem datesForward_of_fixed {zone : ZoneInfo} (hzone : zone.transitions = []) :
    DatesForward zone := by
  have hdate (instant : Int) :
      localDateOf zone instant = Wall.date (instant + zone.initialOffset) := by
    rw [localDateOf, ZoneInfo.astimezone, ZoneInfo.lastTransition, hzone]
    rfl
  intro earlier later hle
  rw [hdate, hdate]
  unfold Wall.date
  omega

/-- A bookable date lies between today and the date of the horizon. -/
theorem Bookable.between {zone : ZoneInfo} {date : Int} (h : Bookable context now date)
    (hzones : ∀ resource ∈ context.resources, resource.schedule.timezone = zone)
    (hforward : DatesForward zone) :
    localDateOf zone now ≤ date ∧
      date ≤ localDateOf zone (now + context.policy.bookingHorizon) := by
  obtain ⟨slots, hslots, hsome⟩ := h
  obtain ⟨slot, hslot⟩ := List.exists_mem_of_ne_nil slots hsome
  have hoffered := offered_of_mem hslots slot hslot
  obtain ⟨resource, hresource, _, htimezone, _⟩ := hoffered.resource
  have hnotice := context.policy.minimumNoticePositive
  have hstart := hoffered.notice
  have hdate : localDateOf zone slot.startAt = date := by
    rw [← hzones resource hresource, ← htimezone]
    exact hoffered.date
  rw [← hdate]
  exact ⟨hforward _ _ (by omega), hforward _ _ hoffered.horizon⟩

theorem datesOf_first {zone : ZoneInfo} {wanted : ℕ} {found : List Int}
    (hzones : ∀ resource ∈ context.resources, resource.schedule.timezone = zone)
    (hforward : DatesForward zone) (hdates : datesOf context now wanted = .ok found) :
    FirstDates (Bookable context now) wanted found := by
  unfold datesOf at hdates
  split at hdates
  · rename_i hnone
    cases hdates
    refine .of_forall_not fun date hbookable => ?_
    have hslots : calculateAvailability context date now = .ok [] := by
      rw [calculateAvailability, if_pos (Or.inr (Or.inr hnone))]
      rfl
    exact (bookable_iff hslots).mp hbookable rfl
  · rename_i first others hresources
    have hzone : first.schedule.timezone = zone :=
      hzones first (hresources ▸ List.mem_cons_self)
    rw [hzone] at hdates
    refine (scanDates_first hdates).of_iff fun date => ⟨And.left, fun hbookable => ?_⟩
    obtain ⟨hfrom, hto⟩ := hbookable.between hzones hforward
    exact ⟨hbookable, hfrom, by omega⟩

/-- Where the resources share a zone whose dates only go forward, the dates offered to a
customer are the first of all the dates that can be booked. -/
theorem bookingDates_first {cfg : Catalogue} {db : Database} {tenantId : TenantId}
    {serviceId : ServiceId} {zone : ZoneInfo} {wanted : ℕ} {found : List Int}
    (hload : availabilityContext cfg db tenantId serviceId now = .ok (some context))
    (hzones : ∀ resource ∈ context.resources, resource.schedule.timezone = zone)
    (hforward : DatesForward zone)
    (hdates : bookingDates cfg db tenantId serviceId now wanted = .ok found) :
    FirstDates (Bookable context now) wanted found := by
  rw [bookingDates, hload] at hdates
  exact datesOf_first hzones hforward hdates

/-! ## The small shop before its first booking -/

namespace Shop

/-- The snapshot of the empty shop. -/
def emptyContext : AvailabilityContext :=
  contextOf (catalogue 0 0) opened.db (service 0) policy acceptedPolicy (time 0 8 0)

theorem availabilityContext_empty :
    availabilityContext (catalogue 0 0) opened.db tenantId serviceId (time 0 8 0) =
      .ok (some emptyContext) := by
  decide +kernel

theorem utc_forward : DatesForward utc := datesForward_of_fixed rfl

theorem emptyContext_zones :
    ∀ resource ∈ emptyContext.resources, resource.schedule.timezone = utc := by
  decide +kernel

theorem bookingDates_empty :
    bookingDates (catalogue 0 0) opened.db tenantId serviceId (time 0 8 0) 2 = .ok [0, 1] := by
  decide +kernel

end Shop

/-- Today and tomorrow are the first two dates of an empty shop. -/
theorem bookingDates_first_empty :
    FirstDates (Bookable Shop.emptyContext (Shop.time 0 8 0)) 2 [0, 1] :=
  bookingDates_first Shop.availabilityContext_empty Shop.emptyContext_zones Shop.utc_forward
    Shop.bookingDates_empty

end BusinessAssistant.Persistence
