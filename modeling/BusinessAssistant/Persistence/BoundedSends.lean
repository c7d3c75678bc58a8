/-
# How often a delivery is sent

The attempts of a delivery are counted when it is claimed, and compared with the limit
only where the gateway raised and the worker lived to see it. A worker that dies leaves a
stale claim, which is claimed again whatever its count. In the runs where no delivery at
its limit is claimed, and the worker with its last attempt gets to finish it, the gateway
is called at most as often as the policy allows and the delivery ends as sent or as dead
letter.
-/

import BusinessAssistant.Persistence.DeliveryWorkers
import Mathlib.Order.Interval.Finset.Nat

namespace BusinessAssistant.Persistence

open BusinessAssistant.Domain BusinessAssistant.Application BusinessAssistant.Foundation

/-- How often a delivery was handed to the gateway. -/
def sends (id : UUID) (journal : List DeliveryNote) : ℕ :=
  ((journal.filterMap (·.handed?)).filter (·.1 = id)).length

/-- The claiming query returns no delivery that is at its limit, no worker dies with a last
attempt on its hands, and no late call schedules a retry of a last attempt. -/
def WithinLimit (policy : RetryPolicy) (leaseSeconds : Int)
    (s : DeliveryState × List DeliveryNote) : DeliveryStep → Prop
  | .claim _ now limit skipped =>
      ∀ row ∈ s.1.batch leaseSeconds now limit skipped, row.attempts < policy.maxAttempts
  | .crash worker =>
      ∀ run ∈ s.1.runs worker, ∀ claim ∈ run.claims, claim.attempts < policy.maxAttempts
  | .finish worker => ∀ turn ∈ s.1.finishing? policy worker,
      ∀ row ∈ s.1.db.notificationDeliveries, row.id = turn.2.1.id → row.status = .processing →
        policy.maxAttempts ≤ row.attempts → row.attempts ≠ turn.2.1.attempts →
          DeliveryStatus.after turn.2.2.2 ≠ .pending
  | .arrive _ | .configure _ _ | .send _ _ => True

/-- The runs whose steps stay within the limit. -/
def boundedDeliveries (policy : RetryPolicy) (leaseSeconds : Int) :
    System (DeliveryState × List DeliveryNote) DeliveryStep :=
  (recordedDeliveries policy leaseSeconds).restrict (WithinLimit policy leaseSeconds)

/-- A claim at the limit is not retried. -/
theorem finishingCall_ne_retry {policy : RetryPolicy} {claim : DeliveryClaim} {now : Int}
    {result : GatewayResult} (hlimit : policy.maxAttempts ≤ claim.attempts) :
    DeliveryStatus.after (finishingCall policy claim now result) ≠ .pending := by
  have hspent : ¬ claim.attempts < policy.maxAttempts := Nat.not_lt.mpr hlimit
  cases result <;> simp [finishingCall, hspent, DeliveryStatus.after]

/-! ## Each attempt is sent at most once -/

/-- A delivery is handed to the gateway at most once for each of its attempts. -/
theorem Accounted.sends_le {s : DeliveryState} {journal : List DeliveryNote}
    (h : Accounted s journal) {limit : ℕ}
    (hlimit : ∀ row ∈ s.db.notificationDeliveries, row.attempts ≤ limit) (id : UUID) :
    sends id journal ≤ limit := by
  set tokens := (journal.filterMap (·.handed?)).filter (·.1 = id) with htokens
  have hbounds : ∀ token ∈ tokens, token.1 = id ∧ token.2 ∈ Finset.Icc 1 limit := by
    intro token htoken
    obtain ⟨hmem, hid⟩ := List.mem_filter.mp htoken
    obtain ⟨note, hnote, hhanded⟩ := List.mem_filterMap.mp hmem
    cases note with
    | claimed claim now => cases hhanded
    | finished claim status => cases hhanded
    | handed claim =>
        cases hhanded
        obtain ⟨row, hrow, _, _, hone, hattempts⟩ := h.noted _ hnote
        exact ⟨of_decide_eq_true hid,
          Finset.mem_Icc.mpr ⟨hone, Nat.le_trans hattempts (hlimit row hrow)⟩⟩
  have hnodup : (tokens.map Prod.snd).Nodup := by
    apply List.Nodup.map_on _ (h.handedOnce.filter _)
    intro first hfirst second hsecond hnumber
    exact Prod.ext ((hbounds first hfirst).1.trans (hbounds second hsecond).1.symm) hnumber
  have hsub : (tokens.map Prod.snd).toFinset ⊆ Finset.Icc 1 limit := by
    intro number hnumber
    obtain ⟨token, htoken, rfl⟩ := List.mem_map.mp (List.mem_toFinset.mp hnumber)
    exact (hbounds token htoken).2
  calc sends id journal = (tokens.map Prod.snd).length := by rw [List.length_map, htokens]; rfl
    _ = (tokens.map Prod.snd).toFinset.card := (List.toFinset_card_of_nodup hnodup).symm
    _ ≤ (Finset.Icc 1 limit).card := Finset.card_le_card hsub
    _ = limit := by simp

/-! ## The invariant -/

/-- A delivery at its limit is not due again: it is sent, a dead letter or in the hands of
the worker with its last claim. -/
def AtLimit (s : DeliveryState) (row : NotificationDeliveryRow) : Prop :=
  row.status ≠ .pending ∧ (row.status = .processing →
    ∃ worker claim, s.Holds worker claim ∧ claim.token = (row.id, row.attempts))

theorem AtLimit.of_holds {s s' : DeliveryState} {row : NotificationDeliveryRow} (h : AtLimit s row)
    (hholds : ∀ worker claim, s.Holds worker claim → claim.token = (row.id, row.attempts) →
      s'.Holds worker claim) : AtLimit s' row := by
  refine ⟨h.1, fun hprocessing => ?_⟩
  obtain ⟨worker, claim, hheld, htoken⟩ := h.2 hprocessing
  exact ⟨worker, claim, hholds worker claim hheld htoken, htoken⟩

/-- No delivery is beyond the limit, and those at it are through or in good hands. -/
structure Limited (policy : RetryPolicy) (s : DeliveryState) : Prop where
  attempts : ∀ row ∈ s.db.notificationDeliveries, row.attempts ≤ policy.maxAttempts
  atLimit : ∀ row ∈ s.db.notificationDeliveries, policy.maxAttempts ≤ row.attempts → AtLimit s row

namespace Limited

variable {policy : RetryPolicy} {leaseSeconds : Int} {s : DeliveryState}
  {journal : List DeliveryNote}

/-- A claim another execution holds is still held when one execution moves on. -/
theorem holds_update {s' : DeliveryState} {worker other : ℕ} {next : Option DeliveryRun}
    (hruns : s'.runs = Function.update s.runs worker next) (hother : other ≠ worker)
    {claim : DeliveryClaim} (hheld : s.Holds other claim) : s'.Holds other claim := by
  obtain ⟨run, hrun, hclaim⟩ := hheld
  exact ⟨run, by rw [hruns, Function.update_of_ne hother]; exact hrun, hclaim⟩

theorem claim (h : Limited policy s) (haccounted : Accounted s journal) {worker : ℕ} {now : Int}
    {limit : Nat} {skipped : UUID → Bool}
    (hallows : s.Allows policy (.claim worker now limit skipped))
    (hwithin : WithinLimit policy leaseSeconds (s, journal) (.claim worker now limit skipped)) :
    Limited policy (s.next policy leaseSeconds (.claim worker now limit skipped)) := by
  set batch := s.batch leaseSeconds now limit skipped with hbatch
  set s' := s.next policy leaseSeconds (.claim worker now limit skipped) with hs'
  have hruns : s'.runs = Function.update s.runs worker (some { now, claims := claimsOf batch now }) :=
    rfl
  have hpicked : ∀ old ∈ s.db.notificationDeliveries, old.id ∈ batch.map (·.id) → old ∈ batch := by
    intro old hold hmem
    obtain ⟨picked, hpicked, hid⟩ := List.mem_map.mp hmem
    rw [← Table.eq_of_key_eq haccounted.ids (DeliveryState.mem_batch hpicked).1 hold hid]
    exact hpicked
  constructor
  case attempts =>
    intro row hrow
    rcases Table.mem_update.mp hrow with ⟨old, hold, hselected, rfl⟩ | ⟨hold, _⟩
    · exact hwithin old (hpicked old hold hselected)
    · exact h.attempts row hold
  case atLimit =>
    intro row hrow hlimit
    rcases Table.mem_update.mp hrow with ⟨old, hold, hselected, rfl⟩ | ⟨hold, _⟩
    · refine ⟨nofun, fun _ => ⟨worker, (old.claimed now).toClaim, ?_, rfl⟩⟩
      exact ⟨_, by rw [hruns, Function.update_self],
        List.mem_map_of_mem (hpicked old hold hselected)⟩
    · apply (h.atLimit row hold hlimit).of_holds
      intro other claim hheld _
      apply holds_update hruns _ hheld
      rintro rfl
      obtain ⟨run, hrun, _⟩ := hheld
      rw [show s.runs other = none from hallows] at hrun
      cases hrun

theorem finish (h : Limited policy s) (haccounted : Accounted s journal) {worker : ℕ}
    (hallows : s.Allows policy (.finish worker))
    (hwithin : WithinLimit policy leaseSeconds (s, journal) (.finish worker)) :
    Limited policy (s.next policy leaseSeconds (.finish worker)) := by
  obtain ⟨⟨run, claim, rest, call⟩, hfinishing⟩ := Option.isSome_iff_exists.mp hallows
  obtain ⟨hrun, hclaims, result, _, hcall⟩ := DeliveryState.finishing?_eq_some.mp hfinishing
  have hheld : s.Holds worker claim := ⟨run, hrun, by rw [hclaims]; exact List.mem_cons_self⟩
  obtain ⟨mine, hmine, hid, htenant, _, _⟩ := haccounted.held worker claim hheld
  have hdb : (s.next policy leaseSeconds (.finish worker)).db = s.db.finish claim call := by
    rw [DeliveryState.next, hfinishing]
  have hruns : (s.next policy leaseSeconds (.finish worker)).runs =
      Function.update s.runs worker (some { now := run.now, claims := rest }) := by
    rw [DeliveryState.next, hfinishing]
  constructor
  case attempts =>
    intro row hrow
    rw [hdb] at hrow
    rcases Table.mem_update.mp hrow with ⟨old, hold, _, rfl⟩ | ⟨hold, _⟩
    · rw [NotificationDeliveryRow.finished_attempts]
      exact h.attempts old hold
    · exact h.attempts row hold
  case atLimit =>
    intro row hrow hlimit
    rw [hdb] at hrow
    rcases Table.mem_update.mp hrow with ⟨old, hold, ⟨_, hidOld, hprocessing⟩, rfl⟩ | ⟨hold, hkept⟩
    · rw [NotificationDeliveryRow.finished_attempts] at hlimit
      rw [AtLimit, NotificationDeliveryRow.finished_status]
      refine ⟨?_, fun hprocessing => absurd hprocessing (DeliveryStatus.after_ne_processing call)⟩
      by_cases hattempts : old.attempts = claim.attempts
      · rw [← hcall]
        exact finishingCall_ne_retry (hattempts ▸ hlimit)
      · exact hwithin _ hfinishing old hold hidOld hprocessing hlimit hattempts
    · refine ⟨(h.atLimit row hold hlimit).1, fun hprocessing => ?_⟩
      have hother : row.id ≠ claim.id := by
        intro hequal
        have hsame : row = mine := Table.eq_of_key_eq haccounted.ids hold hmine (hequal.trans hid.symm)
        exact hkept ⟨hsame ▸ htenant, hequal, hprocessing⟩
      obtain ⟨holder, kept, hkeeps, htoken⟩ := (h.atLimit row hold hlimit).2 hprocessing
      refine ⟨holder, kept, ?_, htoken⟩
      by_cases hholder : holder = worker
      · obtain ⟨run', hrun', hmem⟩ := hkeeps
        rw [hholder, hrun, Option.some.injEq] at hrun'
        rw [← hrun', hclaims] at hmem
        rcases List.mem_cons.mp hmem with hequal | hmem
        · exact absurd ((Prod.mk.inj htoken).1.symm.trans (congrArg (·.id) hequal)) hother
        · exact ⟨_, by rw [hruns, hholder, Function.update_self], hmem⟩
      · exact holds_update hruns hholder hkeeps

theorem next (h : Limited policy s) (haccounted : Accounted s journal) {step : DeliveryStep}
    (hallows : s.Allows policy step) (hwithin : WithinLimit policy leaseSeconds (s, journal) step) :
    Limited policy (s.next policy leaseSeconds step) := by
  cases step with
  | arrive row =>
      constructor
      case attempts =>
        exact Table.forall_append_row h.attempts (by rw [hallows.2.1]; exact Nat.zero_le _)
      case atLimit =>
        intro new hnew hlimit
        rcases Table.mem_append_row.mp hnew with hnew | rfl
        · exact h.atLimit new hnew hlimit
        · have hone := policy.maxAttemptsValid.1
          rw [hallows.2.1] at hlimit
          omega
  | configure tenants entitlements => exact ⟨h.attempts, h.atLimit⟩
  | claim worker now limit skipped => exact h.claim haccounted hallows hwithin
  | send worker result =>
      obtain ⟨⟨run, claim, rest⟩, hcurrent, _⟩ := hallows
      rw [Option.mem_def] at hcurrent
      obtain ⟨hrun, hclaims⟩ := DeliveryState.current?_eq_some.mp hcurrent
      rw [DeliveryState.next, hcurrent]
      refine ⟨h.attempts, fun row hrow hlimit => (h.atLimit row hrow hlimit).of_holds ?_⟩
      intro holder kept hkeeps _
      by_cases hholder : holder = worker
      · obtain ⟨run', hrun', hmem⟩ := hkeeps
        rw [hholder, hrun, Option.some.injEq] at hrun'
        refine ⟨{ run with sent := attempted claim result }, ?_, hrun' ▸ hmem⟩
        rw [hholder]
        exact Function.update_self worker _ s.runs
      · exact holds_update rfl hholder hkeeps
  | finish worker => exact h.finish haccounted hallows hwithin
  | crash worker =>
      refine ⟨h.attempts, fun row hrow hlimit => (h.atLimit row hrow hlimit).of_holds ?_⟩
      intro holder kept hkeeps htoken
      apply holds_update rfl _ hkeeps
      rintro rfl
      obtain ⟨run, hrun, hmem⟩ := hkeeps
      have hnumber : kept.attempts = row.attempts := (Prod.mk.inj htoken).2
      have hfew := hwithin run hrun kept hmem
      omega

end Limited

theorem limited_of_reachable {policy : RetryPolicy} {leaseSeconds : Int}
    {s : DeliveryState × List DeliveryNote}
    (hs : (boundedDeliveries policy leaseSeconds).Reachable s) : Limited policy s.1 := by
  refine hs.invariant (I := fun s => Limited policy s.1) ?_ ?_
  · rintro ⟨s, journal⟩ ⟨⟨hempty, _⟩, _⟩
    constructor
    case attempts => intro row hrow; rw [hempty] at hrow; cases hrow
    case atLimit => intro row hrow; rw [hempty] at hrow; cases hrow
  · rintro s step s' hprior hlimited ⟨hwithin, ⟨hallows, hnext⟩, _⟩
    rw [hnext]
    exact hlimited.next (accounted_of_reachable hprior.of_restrict) hallows hwithin

/-- In every run whose steps stay within the limit, whatever the gateway does: a delivery is
handed to the gateway at most as often as the policy allows; and one that was claimed that
often is never claimed again and, once its last claim is finished, is sent or a dead
letter. -/
theorem sends_bounded {policy : RetryPolicy} {leaseSeconds : Int} {s : DeliveryState}
    {journal : List DeliveryNote}
    (hs : (boundedDeliveries policy leaseSeconds).Reachable (s, journal)) :
    (∀ id, sends id journal ≤ policy.maxAttempts) ∧
    ∀ row ∈ s.db.notificationDeliveries, policy.maxAttempts ≤ row.attempts →
      ((∀ worker claim, s.Holds worker claim → claim.token ≠ (row.id, row.attempts)) →
        row.status ≠ .sent → row.status = .deadLetter) ∧
      ∀ labels s' journal',
        (boundedDeliveries policy leaseSeconds).Run (s, journal) labels (s', journal') →
          ∃ row' ∈ s'.db.notificationDeliveries, row'.id = row.id ∧ row'.attempts = row.attempts := by
  have hlimited := limited_of_reachable hs
  have haccounted : Accounted s journal := accounted_of_reachable hs.of_restrict
  refine ⟨haccounted.sends_le hlimited.attempts, fun row hrow hlimit => ⟨?_, ?_⟩⟩
  · intro hnobody hsent
    obtain ⟨hpending, hprocessing⟩ := hlimited.atLimit row hrow hlimit
    cases hstatus : row.status with
    | pending => exact absurd hstatus hpending
    | processing =>
        obtain ⟨worker, claim, hheld, htoken⟩ := hprocessing hstatus
        exact absurd htoken (hnobody worker claim hheld)
    | sent => exact absurd hstatus hsent
    | deadLetter => rfl
  · intro labels s' journal' hrun
    have hgrows : s.db.Grows s'.db := by
      refine hrun.relate (R := fun s s' => s.1.db.Grows s'.1.db) ?_ ?_ ?_ hs
      · exact fun s => DeliveryState.grows_refl s.1.db
      · exact fun s middle last hfirst hsecond => hfirst.trans hsecond
      · rintro s step s' _ ⟨_, ⟨_, hnext⟩, _⟩
        rw [hnext]
        exact DeliveryState.grows_next step
    obtain ⟨row', hrow', hid, _, hattempts⟩ := hgrows row hrow
    have hlimited' := (limited_of_reachable (hs.run hrun)).attempts row' hrow'
    exact ⟨row', hrow', hid, by omega⟩

/-! ## One delivery -/

instance (policy : RetryPolicy) (leaseSeconds : Int) (s : DeliveryState × List DeliveryNote)
    (step : DeliveryStep) : Decidable (WithinLimit policy leaseSeconds s step) :=
  match step with
  | .claim _ now limit skipped =>
      inferInstanceAs (Decidable (∀ row ∈ s.1.batch leaseSeconds now limit skipped,
        row.attempts < policy.maxAttempts))
  | .crash worker =>
      inferInstanceAs (Decidable (∀ run ∈ s.1.runs worker,
        ∀ claim ∈ run.claims, claim.attempts < policy.maxAttempts))
  | .finish worker =>
      inferInstanceAs (Decidable (∀ turn ∈ s.1.finishing? policy worker,
        ∀ row ∈ s.1.db.notificationDeliveries, row.id = turn.2.1.id → row.status = .processing →
          policy.maxAttempts ≤ row.attempts → row.attempts ≠ turn.2.1.attempts →
            DeliveryStatus.after turn.2.2.2 ≠ .pending))
  | .arrive _ | .configure _ _ | .send _ _ => .isTrue trivial

namespace Pager

/-- The first worker dies after the send, the gateway fails for the second one. -/
def spent : List DeliveryStep :=
  [.arrive delivery, claims 0 0, .send 0 .delivered, .crash 0, claims 1 60, .send 1 .unexpected,
    .finish 1]

/-- Three workers die, one after the other, each after the gateway had accepted. -/
def dying : List DeliveryStep :=
  [.arrive delivery, claims 0 0, .send 0 .delivered, .crash 0, claims 1 60, .send 1 .delivered,
    .crash 1, claims 2 120, .send 2 .delivered, .crash 2]

end Pager

theorem sends_bounded_by_pager :
    (boundedDeliveries Pager.policy 60).Reachable (Pager.after Pager.spent) ∧
      ∀ id, sends id (Pager.after Pager.spent).2 ≤ Pager.policy.maxAttempts := by
  have hreachable : (boundedDeliveries Pager.policy 60).Reachable (Pager.after Pager.spent) :=
    Pager.reachable _ Pager.spent (by decide +kernel)
  exact ⟨hreachable, (sends_bounded hreachable).1⟩

/-- With a limit of two attempts a delivery is sent a third time. -/
theorem sent_beyond_limit :
    ¬ ∀ s, (recordedDeliveries Pager.policy 60).Reachable s →
      ∀ id, sends id s.2 ≤ Pager.policy.maxAttempts := by
  intro hbounded
  have hreachable : (recordedDeliveries Pager.policy 60).Reachable (Pager.after Pager.dying) :=
    (Pager.reachable (fun _ _ => True) Pager.dying (by decide +kernel)).of_restrict
  have hsends : sends Pager.delivery.id (Pager.after Pager.dying).2 = 3 := by decide +kernel
  have hbound := hbounded _ hreachable Pager.delivery.id
  rw [hsends] at hbound
  exact absurd hbound (by decide)

end BusinessAssistant.Persistence
