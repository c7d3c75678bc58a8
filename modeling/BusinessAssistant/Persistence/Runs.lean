/-
# Executing a run

A list of invocations determines the state it leads to, so a run can be computed.
When the clock readings are in order the computed state is one the system
reaches; with a condition checked before each invocation it is one the restricted
system reaches. The small shop at the end is the configuration the concrete runs
of this development use.
-/

import BusinessAssistant.Persistence.Operations

namespace BusinessAssistant.Persistence

open BusinessAssistant.Domain BusinessAssistant.Application BusinessAssistant.Foundation

/-- The state one invocation leads to. -/
def State.next (cfg : Catalogue) (s : State) (invocation : Invocation) : State where
  db := (invocation.execute cfg s.db).2
  clock := invocation.env.now

/-- The state a list of invocations leads to. -/
def State.after (cfg : Catalogue) (s : State) (invocations : List Invocation) : State :=
  invocations.foldl (State.next cfg) s

/-- The clock readings of the invocations never run backwards, and each
invocation meets the condition in the state it is executed in. -/
def State.Follows (cfg : Catalogue) (condition : State → Invocation → Prop) :
    State → List Invocation → Prop
  | _, [] => True
  | s, invocation :: rest =>
      s.clock ≤ invocation.env.now ∧ condition s invocation ∧
        Follows cfg condition (s.next cfg invocation) rest

instance State.decidableFollows (cfg : Catalogue) (condition : State → Invocation → Prop)
    [∀ s invocation, Decidable (condition s invocation)] (s : State)
    (invocations : List Invocation) : Decidable (s.Follows cfg condition invocations) :=
  match invocations with
  | [] => .isTrue trivial
  | invocation :: rest =>
      have := State.decidableFollows cfg condition (s.next cfg invocation) rest
      inferInstanceAs (Decidable (_ ∧ _ ∧ _))

/-- The clock readings of the invocations never run backwards. -/
abbrev State.InOrder (cfg : Catalogue) (s : State) (invocations : List Invocation) : Prop :=
  s.Follows cfg (fun _ _ => True) invocations

/-- A run that meets a condition is a run of the restricted system. -/
theorem run_after_of_follows {cfg : Catalogue} {condition : State → Invocation → Prop}
    {s : State} {invocations : List Invocation} (hfollows : s.Follows cfg condition invocations) :
    ((bookingSystem cfg).restrict condition).Run s invocations (s.after cfg invocations) := by
  induction invocations generalizing s with
  | nil => exact .nil s
  | cons invocation rest ih =>
      obtain ⟨hclock, hcondition, hrest⟩ := hfollows
      have hfirst : ((bookingSystem cfg).restrict condition).Run s [invocation]
          (s.next cfg invocation) := .snoc (.nil s) ⟨hcondition, hclock, rfl⟩
      exact hfirst.trans (ih hrest)

theorem reachable_after_of_follows {cfg : Catalogue} {condition : State → Invocation → Prop}
    {s : State} {invocations : List Invocation} (hfresh : s.db.Fresh)
    (hfollows : s.Follows cfg condition invocations) :
    ((bookingSystem cfg).restrict condition).Reachable (s.after cfg invocations) :=
  System.Reachable.run (.init hfresh) (run_after_of_follows hfollows)

/-- The state after invocations in clock order is reachable. -/
theorem reachable_after {cfg : Catalogue} {s : State} {invocations : List Invocation}
    (hfresh : s.db.Fresh) (horder : s.InOrder cfg invocations) :
    (bookingSystem cfg).Reachable (s.after cfg invocations) :=
  (reachable_after_of_follows hfresh horder).of_restrict

/-- Invocations in clock order are a run. -/
theorem run_after {cfg : Catalogue} {s : State} {invocations : List Invocation}
    (horder : s.InOrder cfg invocations) :
    (bookingSystem cfg).Run s invocations (s.after cfg invocations) :=
  (run_after_of_follows horder).of_restrict

/-! ## A small shop -/

namespace Shop

def utc : ZoneInfo where
  key := "UTC"
  initialOffset := 0
  transitions := []

def tenantId : TenantId := 1#128
def serviceId : ServiceId := 2#128
def resourceId : ResourceId := 3#128
def scheduleId : ScheduleId := 4#128

def customerId (customer : Nat) : CustomerId := BitVec.ofNat 128 (100 + customer)
def conversationId (customer : Nat) : ConversationId := BitVec.ofNat 128 (200 + customer)

/-- An instant by day, hour and minute. -/
def time (day hour minute : Int) : Int := days day + minutes (hour * 60 + minute)

/-- Open from nine to five. -/
def opening (weekday : Fin 7) : ScheduleInterval where
  weekday := weekday
  startLocal := ⟨9 * 3600000000, by decide⟩
  endLocal := ⟨17 * 3600000000, by decide⟩
  intervalType := .open
  startPrecedesEnd := by decide

/-- Open every day. -/
def schedule : BusinessSchedule where
  id := scheduleId
  tenantId := tenantId
  timezone := utc
  intervals := (List.finRange 7).map opening
  overrides := []
  active := true
  intervalsValid := by decide

theorem nameLimit_valid : 1 ≤ 100 ∧ 100 ≤ 200 := by decide

theorem phoneLimit_valid : 8 ≤ 32 ∧ 32 ≤ 32 := by decide

theorem noteLimit_valid : 500 ≤ 2000 := by decide

def policy : BookingPolicyRow where
  tenantId := tenantId
  slotIntervalMinutes := 30
  bookingHorizonDays := 30
  minimumNoticeMinutes := 10
  holdDurationMinutes := 5
  draftExpiryMinutes := 120
  changeCutoffMinutes := 60
  customerNameMaxLength := 100
  customerPhoneMaxLength := 32
  customerNoteMaxLength := 500
  slotIntervalValid := by decide
  horizonValid := by decide
  noticeValid := by decide
  holdDurationValid := by decide
  draftExpiryValid := by decide
  cutoffValid := by decide
  nameLimitValid := nameLimit_valid
  phoneLimitValid := phoneLimit_valid
  noteLimitValid := noteLimit_valid

/-- Half an hour of work, and then a cleanup. -/
def service (bufferMinutes : Nat) : ServiceRow where
  id := serviceId
  tenantId := tenantId
  code := "wash".toList
  names := []
  durationSeconds := 1800
  bufferSeconds := bufferMinutes * 60
  priceMode := .notDisplayed
  priceMinMinor := none
  priceMaxMinor := none
  currency := none
  active := true
  bookable := true
  durationPositive := by decide

/-- One service on one resource with room for `extra` more than one at a time. -/
def catalogue (bufferMinutes extra : Nat) : Catalogue where
  tenants := [{ id := tenantId, timezone := utc, status := .active }]
  entitlements := [{ tenantId := tenantId, capability := "booking", enabled := true }]
  services := [service bufferMinutes]
  policies := [policy]
  resources :=
    [{ id := resourceId
       tenantId := tenantId
       scheduleId := scheduleId
       capacity := extra + 1
       active := true
       capacityPositive := Nat.succ_pos extra }]
  serviceResources :=
    [{ tenantId := tenantId, serviceId := serviceId, resourceId := resourceId, active := true }]
  schedules := [schedule]
  unavailability := []
  servicesUnique := by simp
  resourcesUnique := by simp
  policiesUnique := by simp
  servicesOwned := by simp [service]

/-- Three customers with a conversation each, before the first booking. -/
def opened : State where
  db :=
    { conversations := [0, 1, 2].map fun customer =>
        { id := conversationId customer
          tenantId := tenantId
          customerId := customerId customer
          status := .activeBot
          activeWorkflow := none } }
  clock := 0

theorem opened_fresh : opened.db.Fresh := by
  decide +kernel

/-- A customer asks at a time, and the transaction draws an id. -/
def asks (customer : Nat) (now : Int) (newId : Nat) (request : Request) : Invocation where
  call := .customer tenantId (customerId customer) request
  env := { now := now, serverNow := now, newId := BitVec.ofNat 128 newId }

/-- The invocations of one customer who opens a draft, for a new booking or to
move one, picks the first slot of a day, leaves contact details and confirms. The
draft gets the id `first`, and what follows the next ids. -/
def takesFirstSlot (customer first : Nat) (moves : Option BookingId) (day now : Int) :
    List Invocation :=
  let draftId : BookingDraftId := BitVec.ofNat 128 first
  [asks customer now first (.startDraft (conversationId customer) serviceId moves),
    asks customer now (first + 1) (.selectDate draftId day),
    asks customer now (first + 2) (.createHold draftId 0 (holdKey draftId "540".toList)),
    asks customer now (first + 3)
      (.updateContact draftId (some "Ann".toList) (some "+1234567890".toList) none),
    asks customer now (first + 4) (.confirm draftId (confirmKey draftId))]

end Shop

end BusinessAssistant.Persistence
