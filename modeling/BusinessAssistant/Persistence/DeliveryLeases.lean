/-
# What the lease of a delivery is worth

The claims and finishing calls of one delivery are the history of a lease. The store's
finishing update is matched by the delivery's id and status alone, so a worker that is
late can end the work of the one that took over from it. In the runs where no call does
that, the histories are orderly: the row says what its latest claimant reported, what is
sent stays sent, and nobody claims a delivery another worker has under lease.
-/

import BusinessAssistant.Foundation.Lease
import BusinessAssistant.Persistence.DeliveryWorkers

namespace BusinessAssistant.Persistence

open BusinessAssistant.Domain BusinessAssistant.Application BusinessAssistant.Foundation

/-! ## The runs in question -/

/-- The time of a note that has one. -/
def DeliveryNote.time? : DeliveryNote → Option Int
  | .claimed _ now => some now
  | .handed _ | .finished _ _ => none

/-- The workers' clocks do not go back from one claiming transaction to the next. -/
def ClocksForward (s : DeliveryState × List DeliveryNote) : DeliveryStep → Prop
  | .claim _ now _ _ => ∀ note ∈ s.2, ∀ before ∈ note.time?, before ≤ now
  | .arrive _ | .configure _ _ | .send _ _ | .finish _ | .crash _ => True

/-- A finishing call meets no delivery that is being processed under another claim than
its own. -/
def FinishesOwn (policy : RetryPolicy) (s : DeliveryState × List DeliveryNote) :
    DeliveryStep → Prop
  | .finish worker => ∀ turn ∈ s.1.finishing? policy worker,
      ∀ row ∈ s.1.db.notificationDeliveries, row.id = turn.2.1.id → row.status = .processing →
        row.attempts = turn.2.1.attempts
  | .arrive _ | .configure _ _ | .claim _ _ _ _ | .send _ _ | .crash _ => True

/-- The runs with forward clocks in which every finishing call finishes its own claim. -/
def fencedDeliveries (policy : RetryPolicy) (leaseSeconds : Int) :
    System (DeliveryState × List DeliveryNote) DeliveryStep :=
  (recordedDeliveries policy leaseSeconds).restrict fun s step =>
    ClocksForward s step ∧ FinishesOwn policy s step

/-! ## The lease of a delivery -/

/-- A delivery may be claimed again only after a retry was scheduled, and every report is
to be its holder's. -/
def deliveryTerms (leaseSeconds : Int) : LeaseTerms DeliveryStatus where
  length := seconds leaseSeconds
  Closes outcome := outcome ≠ .pending
  Fenced _ := True
  fenced_of_reopens _ _ := trivial

/-- What a note means for the lease of a delivery. A claim goes by its number. -/
def DeliveryNote.event? (id : UUID) : DeliveryNote → Option (LeaseEvent ℕ DeliveryStatus)
  | .claimed claim now => if claim.id = id then some (.claim claim.attempts now) else none
  | .finished claim status => if claim.id = id then some (.report claim.attempts status) else none
  | .handed _ => none

/-- The history of a delivery's lease. -/
def leaseHistory (id : UUID) (journal : List DeliveryNote) : List (LeaseEvent ℕ DeliveryStatus) :=
  journal.filterMap (·.event? id)

/-- The row says where its lease stands. -/
inductive Stands (row : NotificationDeliveryRow) : Lease ℕ DeliveryStatus → Prop
  | idle (hstatus : row.status = .pending) (hattempts : row.attempts = 0) : Stands row {}
  | working (time : Int) (hstatus : row.status = .processing) (hlocked : row.lockedAt = some time)
      (hattempts : row.attempts ≠ 0) :
      Stands row { phase := .held, holder := some (row.attempts, time) }
  | done (time : Int) (hstatus : row.status ≠ .processing) (hattempts : row.attempts ≠ 0) :
      Stands row { phase := .ended row.status, holder := some (row.attempts, time) }

theorem leaseHistory_append (id : UUID) (notes journal : List DeliveryNote) :
    leaseHistory id (notes ++ journal) = leaseHistory id notes ++ leaseHistory id journal :=
  List.filterMap_append

/-- Nothing in the history of a lease discards the delivery. -/
theorem discard_notMem_leaseHistory (id : UUID) (journal : List DeliveryNote) (time : Int) :
    .discard time ∉ leaseHistory id journal := by
  intro hmem
  obtain ⟨note, _, hevent⟩ := List.mem_filterMap.mp hmem
  cases note with
  | claimed claim now => simp [DeliveryNote.event?] at hevent
  | handed claim => cases hevent
  | finished claim status => simp [DeliveryNote.event?] at hevent

theorem report_mem_leaseHistory {id : UUID} {journal : List DeliveryNote} {number : ℕ}
    {status : DeliveryStatus} :
    .report number status ∈ leaseHistory id journal ↔
      ∃ claim, .finished claim status ∈ journal ∧ claim.token = (id, number) := by
  constructor
  · intro hmem
    obtain ⟨note, hnote, hevent⟩ := List.mem_filterMap.mp hmem
    cases note with
    | claimed claim now => simp [DeliveryNote.event?] at hevent
    | handed claim => cases hevent
    | finished claim written =>
        simp only [DeliveryNote.event?, Option.ite_none_right_eq_some, Option.some.injEq,
          LeaseEvent.report.injEq] at hevent
        obtain ⟨hid, hnumber, rfl⟩ := hevent
        exact ⟨claim, hnote, by rw [DeliveryClaim.token, hid, hnumber]⟩
  · rintro ⟨claim, hnote, htoken⟩
    obtain ⟨hid, hnumber⟩ := Prod.mk.inj htoken
    exact List.mem_filterMap.mpr ⟨_, hnote, by simp [DeliveryNote.event?, hid, hnumber]⟩

theorem claim_mem_leaseHistory {id : UUID} {journal : List DeliveryNote} {claim : DeliveryClaim}
    {now : Int} (hnote : .claimed claim now ∈ journal) (hid : claim.id = id) :
    .claim claim.attempts now ∈ leaseHistory id journal :=
  List.mem_filterMap.mpr ⟨_, hnote, by simp [DeliveryNote.event?, hid]⟩

/-- The times in a history are times of notes. -/
theorem time_of_mem_leaseHistory {id : UUID} {journal : List DeliveryNote}
    {event : LeaseEvent ℕ DeliveryStatus} (hevent : event ∈ leaseHistory id journal) {time : Int}
    (htime : time ∈ event.time?) : ∃ note ∈ journal, time ∈ note.time? := by
  obtain ⟨note, hnote, hof⟩ := List.mem_filterMap.mp hevent
  refine ⟨note, hnote, ?_⟩
  cases note with
  | claimed claim now =>
      simp only [DeliveryNote.event?, Option.ite_none_right_eq_some, Option.some.injEq] at hof
      rw [← hof.2] at htime
      exact htime
  | handed claim => cases hof
  | finished claim status =>
      simp only [DeliveryNote.event?, Option.ite_none_right_eq_some, Option.some.injEq] at hof
      rw [← hof.2] at htime
      cases htime

/-- The claims of a batch are in the histories of its rows, each in its own. -/
theorem leaseHistory_batch {batch : List NotificationDeliveryRow}
    (hids : (batch.map (·.id)).Nodup) (now : Int) (id : UUID) :
    (∃ row ∈ batch, row.id = id ∧
      leaseHistory id ((claimsOf batch now).map (.claimed · now)) =
        [.claim (row.attempts + 1) now]) ∨
    (∀ row ∈ batch, row.id ≠ id) ∧
      leaseHistory id ((claimsOf batch now).map (.claimed · now)) = [] := by
  have hhistory : leaseHistory id ((claimsOf batch now).map (.claimed · now)) =
      batch.filterMap fun row =>
        if row.id = id then some (.claim (row.attempts + 1) now) else none := by
    rw [leaseHistory, claimsOf, List.filterMap_map, List.filterMap_map]
    rfl
  rw [hhistory]
  by_cases hrow : ∃ row ∈ batch, row.id = id
  · obtain ⟨row, hrow, rfl⟩ := hrow
    exact .inl ⟨row, hrow, rfl, Table.filterMap_key hids hrow
      fun row : NotificationDeliveryRow => LeaseEvent.claim (row.attempts + 1) now⟩
  · have hnone : ∀ row ∈ batch, row.id ≠ id := fun row hmem hid => hrow ⟨row, hmem, hid⟩
    exact .inr ⟨hnone, List.filterMap_eq_nil_iff.mpr fun row hmem => if_neg (hnone row hmem)⟩

/-- The notes about a claim nobody made are none. -/
theorem leaseHistory_eq_nil {s : DeliveryState} {journal : List DeliveryNote}
    (h : Accounted s journal) {id : UUID}
    (hnone : ∀ row ∈ s.db.notificationDeliveries, row.id ≠ id) : leaseHistory id journal = [] := by
  apply List.filterMap_eq_nil_iff.mpr
  intro note hnote
  obtain ⟨row, hrow, hid, _⟩ := h.noted note hnote
  have hother : note.claim.id ≠ id := fun hequal => hnone row hrow (hid.trans hequal)
  cases note with
  | claimed claim now => exact if_neg hother
  | handed claim => rfl
  | finished claim status => exact if_neg hother

/-! ## The invariant -/

/-- Every row says where its lease stands, and the histories are orderly. -/
structure Fenced (leaseSeconds : Int) (s : DeliveryState) (journal : List DeliveryNote) : Prop where
  stands : ∀ row ∈ s.db.notificationDeliveries, Stands row (.after (leaseHistory row.id journal))
  orderly : ∀ id, Lease.Orderly (deliveryTerms leaseSeconds) (leaseHistory id journal)

namespace Fenced

variable {policy : RetryPolicy} {leaseSeconds : Int} {s : DeliveryState}
  {journal : List DeliveryNote}

/-- Steps that touch no row and add nothing to a history. -/
theorem same (h : Fenced leaseSeconds s journal) {s' : DeliveryState}
    {notes : List DeliveryNote}
    (hrows : s'.db.notificationDeliveries = s.db.notificationDeliveries)
    (hnotes : ∀ id, leaseHistory id notes = []) : Fenced leaseSeconds s' (notes ++ journal) := by
  constructor
  case stands =>
    intro row hrow
    rw [leaseHistory_append, hnotes, List.nil_append]
    exact h.stands row (hrows ▸ hrow)
  case orderly =>
    intro id
    rw [leaseHistory_append, hnotes, List.nil_append]
    exact h.orderly id

/-- A due row can be claimed under the terms of its lease. -/
theorem claimable_of_due {row : NotificationDeliveryRow} {lease : Lease ℕ DeliveryStatus}
    (hstands : Stands row lease) {now : Int} (hdue : row.Due now leaseSeconds) :
    lease.Claimable (deliveryTerms leaseSeconds) now := by
  cases hstands with
  | idle => exact trivial
  | working time hstatus hlocked _ =>
      rcases hdue with ⟨hpending, _⟩ | ⟨_, locked, hlockedAt, hstale⟩
      · rw [hstatus] at hpending
        cases hpending
      · rw [hlocked, Option.mem_some_iff] at hlockedAt
        rintro holder hholder
        cases hholder
        show time + seconds leaseSeconds ≤ now
        omega
  | done time hstatus _ =>
      rcases hdue with ⟨hpending, _⟩ | ⟨hprocessing, _⟩
      · show ¬ row.status ≠ .pending
        simp [hpending]
      · exact absurd hprocessing hstatus

theorem claim (h : Fenced leaseSeconds s journal) (haccounted : Accounted s journal)
    {worker : ℕ} {now : Int} {limit : Nat} {skipped : UUID → Bool}
    (hforward : ClocksForward (s, journal) (.claim worker now limit skipped)) :
    Fenced leaseSeconds (s.next policy leaseSeconds (.claim worker now limit skipped))
      (s.notes policy leaseSeconds (.claim worker now limit skipped) ++ journal) := by
  set batch := s.batch leaseSeconds now limit skipped with hbatch
  have hids : (batch.map (·.id)).Nodup := DeliveryState.nodup_batch haccounted.ids now limit skipped
  have hnotes : s.notes policy leaseSeconds (.claim worker now limit skipped) =
      (claimsOf batch now).map (.claimed · now) := rfl
  rw [hnotes]
  constructor
  case stands =>
    intro row hrow
    rw [leaseHistory_append]
    rcases Table.mem_update.mp hrow with ⟨old, hold, hselected, rfl⟩ | ⟨hold, hother⟩
    · obtain ⟨picked, hpicked, hid⟩ := List.mem_map.mp hselected
      have hsame : picked = old :=
        Table.eq_of_key_eq haccounted.ids (DeliveryState.mem_batch hpicked).1 hold hid
      rcases leaseHistory_batch hids now (old.claimed now).id with
        ⟨found, hfound, hfoundId, hhistory⟩ | ⟨hnone, _⟩
      · have hfoundSame : found = old :=
          Table.eq_of_key_eq haccounted.ids (DeliveryState.mem_batch hfound).1 hold hfoundId
        rw [hhistory, hfoundSame]
        exact .working now rfl rfl (Nat.succ_ne_zero old.attempts)
      · exact absurd hid (hnone picked hpicked)
    · rcases leaseHistory_batch hids now row.id with ⟨found, hfound, hid, _⟩ | ⟨_, hhistory⟩
      · exact absurd (List.mem_map.mpr ⟨found, hfound, hid⟩) hother
      · rw [hhistory]
        exact h.stands row hold
  case orderly =>
    intro id
    rw [leaseHistory_append]
    rcases leaseHistory_batch hids now id with ⟨row, hrow, rfl, hhistory⟩ | ⟨_, hhistory⟩
    · obtain ⟨hstored, hdue⟩ := DeliveryState.mem_batch hrow
      rw [hhistory]
      refine ⟨⟨?_, ?_, claimable_of_due (h.stands row hstored) hdue⟩, h.orderly row.id⟩
      · intro event hevent time htime
        obtain ⟨note, hnote, hnoteTime⟩ := time_of_mem_leaseHistory hevent htime
        exact hforward note hnote time hnoteTime
      · intro status hreport
        obtain ⟨claim, hfinished, htoken⟩ := report_mem_leaseHistory.mp hreport
        exact haccounted.token_ne_new (haccounted.noted _ hfinished) hstored now htoken
    · rw [hhistory]
      exact h.orderly id

theorem finish (h : Fenced leaseSeconds s journal) (haccounted : Accounted s journal)
    {worker : ℕ} (hallows : s.Allows policy (.finish worker))
    (hown : FinishesOwn policy (s, journal) (.finish worker)) :
    Fenced leaseSeconds (s.next policy leaseSeconds (.finish worker))
      (s.notes policy leaseSeconds (.finish worker) ++ journal) := by
  obtain ⟨⟨run, claim, rest, call⟩, hfinishing⟩ := Option.isSome_iff_exists.mp hallows
  obtain ⟨hrun, hclaims, result, hsent, _⟩ := DeliveryState.finishing?_eq_some.mp hfinishing
  have hheld : s.Holds worker claim := ⟨run, hrun, by rw [hclaims]; exact List.mem_cons_self⟩
  obtain ⟨row, hrow, hid, htenant, _, _⟩ := haccounted.held worker claim hheld
  have hrows : (s.next policy leaseSeconds (.finish worker)).db = s.db.finish claim call := by
    rw [DeliveryState.next, hfinishing]
  have hnotes : s.notes policy leaseSeconds (.finish worker) = [.finished claim (.after call)] := by
    rw [DeliveryState.notes, hfinishing]
  have hhistory : ∀ id, leaseHistory id (.finished claim (.after call) :: journal) =
      (if claim.id = id then [.report claim.attempts (.after call)] else []) ++
        leaseHistory id journal := by
    intro id
    by_cases hclaim : claim.id = id
    · simp [leaseHistory, DeliveryNote.event?, hclaim]
    · simp [leaseHistory, DeliveryNote.event?, hclaim]
  rw [hnotes, List.singleton_append]
  constructor
  case stands =>
    intro new hnew
    rw [hrows] at hnew
    rw [hhistory]
    rcases Table.mem_update.mp hnew with ⟨old, hold, ⟨_, hidOld, hprocessing⟩, rfl⟩ | ⟨hold, hother⟩
    · rw [if_pos (by rw [NotificationDeliveryRow.finished_id, hidOld]), List.singleton_append,
        NotificationDeliveryRow.finished_id]
      have hstands := h.stands old hold
      rw [Lease.after]
      generalize Lease.after (leaseHistory old.id journal) = lease at hstands
      cases hstands with
      | idle hstatus => rw [hprocessing] at hstatus; cases hstatus
      | done _ hstatus => exact absurd hprocessing hstatus
      | working time _ _ hattempts =>
          have hdone := @Stands.done (old.finished call) time
            (by rw [NotificationDeliveryRow.finished_status]; exact DeliveryStatus.after_ne_processing call)
            (by rw [NotificationDeliveryRow.finished_attempts]; exact hattempts)
          rw [NotificationDeliveryRow.finished_status, NotificationDeliveryRow.finished_attempts]
            at hdone
          exact hdone
    · split
      · next hclaim =>
          have hsame : new = row :=
            Table.eq_of_key_eq haccounted.ids hold hrow (hclaim.symm.trans hid.symm)
          have hidle : new.status ≠ .processing := fun hprocessing =>
            hother ⟨hsame ▸ htenant, hclaim.symm, hprocessing⟩
          rw [List.singleton_append, Lease.after]
          have hstands := h.stands new hold
          generalize Lease.after (leaseHistory new.id journal) = lease at hstands
          cases hstands with
          | idle hstatus hattempts => exact .idle hstatus hattempts
          | working _ hstatus => exact absurd hstatus hidle
          | done time hstatus hattempts => exact .done time hstatus hattempts
      · exact h.stands new hold
  case orderly =>
    intro id
    rw [hhistory]
    split
    · next hclaim =>
        have hadmits : Lease.Admits (deliveryTerms leaseSeconds) (leaseHistory id journal)
            (.report claim.attempts (.after call)) := by
          intro hphase _
          have hstands := h.stands row hrow
          rw [hid, hclaim] at hstands
          generalize Lease.after (leaseHistory id journal) = lease at hstands hphase
          cases hstands with
          | idle => cases hphase
          | done => cases hphase
          | working time hstatus =>
              have hattempts : row.attempts = claim.attempts :=
                hown _ hfinishing row hrow hid hstatus
              exact ⟨time, by rw [hattempts]⟩
        exact ⟨hadmits, h.orderly id⟩
    · exact h.orderly id

theorem next (h : Fenced leaseSeconds s journal) (haccounted : Accounted s journal)
    {step : DeliveryStep} (hallows : s.Allows policy step)
    (hforward : ClocksForward (s, journal) step) (hown : FinishesOwn policy (s, journal) step) :
    Fenced leaseSeconds (s.next policy leaseSeconds step)
      (s.notes policy leaseSeconds step ++ journal) := by
  cases step with
  | arrive row =>
      constructor
      case stands =>
        intro new hnew
        rcases Table.mem_append_row.mp hnew with hnew | rfl
        · exact h.stands new hnew
        · show Stands new (.after (leaseHistory new.id journal))
          rw [leaseHistory_eq_nil haccounted hallows.2.2]
          exact .idle hallows.1 hallows.2.1
      case orderly => exact h.orderly
  | configure tenants entitlements => exact h.same rfl fun _ => rfl
  | claim worker now limit skipped => exact h.claim haccounted hforward
  | send worker result =>
      apply h.same
      · rw [DeliveryState.next]
        split
        · rfl
        · rfl
      · intro id
        rw [DeliveryState.notes]
        split
        · rfl
        · split
          · rfl
          · rfl
  | finish worker => exact h.finish haccounted hallows hown
  | crash worker => exact h.same rfl fun _ => rfl

end Fenced

section Runs

variable {policy : RetryPolicy} {leaseSeconds : Int} {s s' : DeliveryState}
  {journal journal' : List DeliveryNote}

theorem accounted_of_fenced (hs : (fencedDeliveries policy leaseSeconds).Reachable (s, journal)) :
    Accounted s journal :=
  accounted_of_reachable hs.of_restrict

theorem fenced_of_reachable (hs : (fencedDeliveries policy leaseSeconds).Reachable (s, journal)) :
    Fenced leaseSeconds s journal := by
  refine hs.invariant (I := fun s => Fenced leaseSeconds s.1 s.2) ?_ ?_
  · rintro ⟨s, journal⟩ ⟨⟨hempty, _⟩, hjournal⟩
    cases hjournal
    constructor
    case stands => intro row hrow; rw [hempty] at hrow; cases hrow
    case orderly => exact fun _ => trivial
  · rintro ⟨s, journal⟩ step ⟨s', journal'⟩ hprior hfenced
      ⟨⟨hforward, hown⟩, ⟨hallows, rfl⟩, rfl⟩
    exact hfenced.next (accounted_of_fenced hprior) hallows hforward hown

/-- A run adds notes to the journal, and rows only grow. -/
theorem run_extends {labels : List DeliveryStep}
    (hs : (fencedDeliveries policy leaseSeconds).Reachable (s, journal))
    (hrun : (fencedDeliveries policy leaseSeconds).Run (s, journal) labels (s', journal')) :
    (∃ notes, journal' = notes ++ journal) ∧ s.db.Grows s'.db := by
  refine hrun.relate (R := fun s s' => (∃ notes, s'.2 = notes ++ s.2) ∧ s.1.db.Grows s'.1.db)
    ?_ ?_ ?_ hs
  · exact fun s => ⟨⟨[], rfl⟩, DeliveryState.grows_refl s.1.db⟩
  · rintro s middle last ⟨⟨first, hfirst⟩, hgrows⟩ ⟨⟨second, hsecond⟩, hgrows'⟩
    exact ⟨⟨second ++ first, by rw [hsecond, hfirst, List.append_assoc]⟩, hgrows.trans hgrows'⟩
  · rintro s step s' _ ⟨_, ⟨_, hnext⟩, hnote⟩
    rw [hnext]
    exact ⟨⟨_, hnote⟩, DeliveryState.grows_next step⟩

/-- Where a row stands that has been claimed: as its latest claim left it. -/
theorem status_of_latest (hs : (fencedDeliveries policy leaseSeconds).Reachable (s, journal))
    {row : NotificationDeliveryRow} (hrow : row ∈ s.db.notificationDeliveries)
    (hattempts : row.attempts ≠ 0) :
    (row.status = .processing ∧ ∀ claim status, .finished claim status ∈ journal →
        claim.token ≠ (row.id, row.attempts)) ∨
      ∃ claim, .finished claim row.status ∈ journal ∧ claim.token = (row.id, row.attempts) := by
  have hfenced := fenced_of_reachable hs
  have hstands := hfenced.stands row hrow
  have hwritten := (hfenced.orderly row.id).written (fun _ => trivial)
    (discard_notMem_leaseHistory row.id journal) row.attempts
  generalize Lease.after (leaseHistory row.id journal) = lease at hstands hwritten
  cases hstands with
  | idle _ hzero => exact absurd hzero hattempts
  | working time hstatus =>
      rcases hwritten time rfl with ⟨_, hnone⟩ | ⟨_, hended, _⟩
      · refine .inl ⟨hstatus, fun claim status hfinished htoken => ?_⟩
        exact hnone status (report_mem_leaseHistory.mpr ⟨claim, hfinished, htoken⟩)
      · cases hended
  | done time hstatus =>
      rcases hwritten time rfl with ⟨hheld, _⟩ | ⟨outcome, hended, hreport⟩
      · cases hheld
      · cases hended
        exact .inr (report_mem_leaseHistory.mp hreport)

/-- What is closed is never claimed again and keeps its status. -/
theorem closed_forever {labels : List DeliveryStep}
    (hs : (fencedDeliveries policy leaseSeconds).Reachable (s, journal))
    (hrun : (fencedDeliveries policy leaseSeconds).Run (s, journal) labels (s', journal'))
    {row : NotificationDeliveryRow} (hrow : row ∈ s.db.notificationDeliveries)
    (hprocessing : row.status ≠ .processing) (hpending : row.status ≠ .pending) :
    (∃ row' ∈ s'.db.notificationDeliveries,
        row'.id = row.id ∧ row'.status = row.status ∧ row'.attempts = row.attempts) ∧
      ∃ notes, journal' = notes ++ journal ∧
        ∀ claim now, .claimed claim now ∈ notes → claim.id ≠ row.id := by
  have hfenced' := fenced_of_reachable (hs.run hrun)
  obtain ⟨⟨notes, rfl⟩, hgrows⟩ := run_extends hs hrun
  obtain ⟨row', hrow', hid, _, _⟩ := hgrows row hrow
  have hstands := (fenced_of_reachable hs).stands row hrow
  have horderly := hfenced'.orderly row.id
  rw [leaseHistory_append] at horderly
  have hphase : (Lease.after (leaseHistory row.id journal)).phase = .ended row.status := by
    generalize Lease.after (leaseHistory row.id journal) = lease at hstands
    cases hstands with
    | idle hstatus => exact absurd hstatus hpending
    | working _ hstatus => exact absurd hstatus hprocessing
    | done => rfl
  obtain ⟨hsame, hnone⟩ := horderly.closed hphase hpending
    (discard_notMem_leaseHistory row.id notes)
  have hstands' := hfenced'.stands row' hrow'
  rw [hid, leaseHistory_append, hsame] at hstands'
  refine ⟨⟨row', hrow', hid, ?_⟩, notes, rfl, fun claim now hclaimed hclaim => ?_⟩
  · generalize Lease.after (leaseHistory row.id journal) = lease at hstands hstands'
    cases hstands with
    | idle hstatus => exact absurd hstatus hpending
    | working _ hstatus => exact absurd hstatus hprocessing
    | done time =>
        generalize hstatus : row.status = status at hstands'
        generalize hnumber : row.attempts = number at hstands'
        cases hstands' with
        | done => exact ⟨rfl, rfl⟩
  · exact hnone _ _ (claim_mem_leaseHistory hclaimed hclaim)

end Runs

/-- In every run whose finishing calls each find the delivery idle or still under their
own claim: a finishing call of a claim that was taken over changes nothing; the status of a
delivery is the one its latest claim was finished with, or processing until then; what
the latest claimant reported as sent stays sent and is never claimed again; and between a
claim and its finishing call or the end of its lease nobody else claims the delivery. -/
theorem delivery_leases_fence {policy : RetryPolicy} {leaseSeconds : Int} {s : DeliveryState}
    {journal : List DeliveryNote}
    (hs : (fencedDeliveries policy leaseSeconds).Reachable (s, journal)) :
    (∀ worker run claim rest call, s.finishing? policy worker = some (run, claim, rest, call) →
      ∀ s', (fencedDeliveries policy leaseSeconds).step (s, journal) (.finish worker) s' →
        ∀ row ∈ s.db.notificationDeliveries, row.id = claim.id → claim.attempts < row.attempts →
          row ∈ s'.1.db.notificationDeliveries) ∧
    (∀ row ∈ s.db.notificationDeliveries,
      (∀ claim status, .finished claim status ∈ journal → claim.token = (row.id, row.attempts) →
        row.status = status) ∧
      (row.attempts ≠ 0 →
        (∀ claim status, .finished claim status ∈ journal →
          claim.token ≠ (row.id, row.attempts)) → row.status = .processing)) ∧
    (∀ row ∈ s.db.notificationDeliveries, ∀ claim, .finished claim .sent ∈ journal →
      claim.token = (row.id, row.attempts) → ∀ labels s' journal',
        (fencedDeliveries policy leaseSeconds).Run (s, journal) labels (s', journal') →
          (∃ row' ∈ s'.db.notificationDeliveries,
            row'.id = row.id ∧ row'.status = .sent ∧ row'.attempts = row.attempts) ∧
          ∃ notes, journal' = notes ++ journal ∧
            ∀ other now, .claimed other now ∈ notes → other.id ≠ row.id) ∧
    (∀ later between earlier first second since now,
      journal = later ++ .claimed second now :: (between ++ .claimed first since :: earlier) →
        first.id = second.id →
          (∃ status claim, .finished claim status ∈ between ∧ claim.token = first.token) ∨
            since + seconds leaseSeconds ≤ now) := by
  have haccounted := accounted_of_fenced hs
  have hfenced := fenced_of_reachable hs
  have hstatus : ∀ row ∈ s.db.notificationDeliveries, ∀ claim status,
      .finished claim status ∈ journal → claim.token = (row.id, row.attempts) →
        row.status = status ∧ row.attempts ≠ 0 := by
    intro row hrow claim status hfinished htoken
    obtain ⟨_, _, _, _, hone, _⟩ := haccounted.noted _ hfinished
    have hnumber : claim.attempts = row.attempts := (Prod.mk.inj htoken).2
    have hattempts : row.attempts ≠ 0 := by
      rw [← hnumber]
      exact Nat.one_le_iff_ne_zero.mp hone
    rcases status_of_latest hs hrow hattempts with ⟨_, hnone⟩ | ⟨other, hother, hotherToken⟩
    · exact absurd htoken (hnone claim status hfinished)
    · exact ⟨haccounted.finishedOnce other claim _ status hother hfinished
        (hotherToken.trans htoken.symm), hattempts⟩
  refine ⟨?_, ?_, ?_, ?_⟩
  · rintro worker run claim rest call hfinishing s' ⟨⟨_, hown⟩, ⟨_, hnext⟩, _⟩ row hrow hid hlater
    rw [hnext, DeliveryState.next, hfinishing]
    apply Table.mem_update_of_not_selected hrow
    rintro ⟨_, _, hprocessing⟩
    have hattempts : row.attempts = claim.attempts := hown _ hfinishing row hrow hid hprocessing
    omega
  · intro row hrow
    refine ⟨fun claim status hfinished htoken =>
      (hstatus row hrow claim status hfinished htoken).1, fun hattempts hnone => ?_⟩
    rcases status_of_latest hs hrow hattempts with ⟨hprocessing, _⟩ | ⟨claim, hclaim, htoken⟩
    · exact hprocessing
    · exact absurd htoken (hnone claim _ hclaim)
  · intro row hrow claim hfinished htoken labels s' journal' hrun
    obtain ⟨hsent, _⟩ := hstatus row hrow claim .sent hfinished htoken
    rw [← hsent]
    exact closed_forever hs hrun hrow (by simp [hsent]) (by simp [hsent])
  · rintro later between earlier first second since now rfl hid
    have hclaims : ∀ claim time, claim.id = second.id → ∀ notes : List DeliveryNote,
        leaseHistory second.id (.claimed claim time :: notes) =
          .claim claim.attempts time :: leaseHistory second.id notes := by
      intro claim time hclaim notes
      simp [leaseHistory, DeliveryNote.event?, hclaim]
    have horderly := hfenced.orderly second.id
    rw [leaseHistory_append, hclaims second now rfl, leaseHistory_append,
      hclaims first since hid] at horderly
    rcases horderly.exclusive with ⟨status, hreport⟩ | hover
    · obtain ⟨claim, hfinished, htoken⟩ := report_mem_leaseHistory.mp hreport
      exact .inl ⟨status, claim, hfinished, by rw [htoken, DeliveryClaim.token, hid]⟩
    · exact .inr hover

/-! ## One delivery -/

instance (s : DeliveryState × List DeliveryNote) (step : DeliveryStep) :
    Decidable (ClocksForward s step) :=
  match step with
  | .claim _ now _ _ =>
      have (note : DeliveryNote) : Decidable (∀ before ∈ note.time?, before ≤ now) :=
        inferInstanceAs (Decidable (∀ before ∈ (note.time? : Option Int), before ≤ now))
      inferInstanceAs (Decidable (∀ note ∈ s.2, ∀ before ∈ note.time?, before ≤ now))
  | .arrive _ | .configure _ _ | .send _ _ | .finish _ | .crash _ => .isTrue trivial

instance (policy : RetryPolicy) (s : DeliveryState × List DeliveryNote) (step : DeliveryStep) :
    Decidable (FinishesOwn policy s step) :=
  match step with
  | .finish worker =>
      inferInstanceAs (Decidable (∀ turn ∈ s.1.finishing? policy worker,
        ∀ row ∈ s.1.db.notificationDeliveries, row.id = turn.2.1.id → row.status = .processing →
          row.attempts = turn.2.1.attempts))
  | .arrive _ | .configure _ _ | .claim _ _ _ _ | .send _ _ | .crash _ => .isTrue trivial

namespace Pager

/-- The first worker dies, the second claims the delivery a minute later and sends it. -/
def handedOver : List DeliveryStep :=
  [.arrive delivery, claims 0 0, .send 0 .delivered, .crash 0, claims 1 60, .send 1 .delivered,
    .finish 1]

/-- The first worker is slow; it learns of a failure after the second took over. -/
def overtaken : List DeliveryStep :=
  [.arrive delivery, claims 0 0, claims 1 60, .send 0 .unexpected]

/-- The first worker reports its failure, and a third one claims the delivery a second
after the second did. -/
def interrupted : List DeliveryStep := overtaken ++ [.finish 0, claims 2 61]

end Pager

theorem delivery_leases_fence_by_pager :
    (fencedDeliveries Pager.policy 60).Reachable (Pager.after Pager.handedOver) ∧
    ∀ row ∈ (Pager.after Pager.handedOver).1.db.notificationDeliveries,
      ∀ claim status, .finished claim status ∈ (Pager.after Pager.handedOver).2 →
        claim.token = (row.id, row.attempts) → row.status = status := by
  have hreachable : (fencedDeliveries Pager.policy 60).Reachable (Pager.after Pager.handedOver) :=
    Pager.reachable _ Pager.handedOver (by decide +kernel)
  exact ⟨hreachable, fun row hrow => ((delivery_leases_fence hreachable).2.1 row hrow).1⟩

/-- A late finishing call ends the work of the worker that took over, and lets a third one
claim the delivery while the second has it under lease. -/
theorem late_call_ends_successor :
    (¬ ∀ s, ((recordedDeliveries Pager.policy 60).restrict ClocksForward).Reachable s →
      ∀ worker run claim rest call,
        s.1.finishing? Pager.policy worker = some (run, claim, rest, call) →
        ∀ s', ((recordedDeliveries Pager.policy 60).restrict ClocksForward).step s
            (.finish worker) s' →
          ∀ row ∈ s.1.db.notificationDeliveries, row.id = claim.id →
            claim.attempts < row.attempts → row ∈ s'.1.db.notificationDeliveries) ∧
    ¬ ∀ s, ((recordedDeliveries Pager.policy 60).restrict ClocksForward).Reachable s →
      ∀ later between earlier first second since now,
        s.2 = later ++ .claimed second now :: (between ++ .claimed first since :: earlier) →
          first.id = second.id →
            (∃ status claim, .finished claim status ∈ between ∧ claim.token = first.token) ∨
              since + seconds 60 ≤ now := by
  constructor
  · intro hkept
    have hreachable : ((recordedDeliveries Pager.policy 60).restrict ClocksForward).Reachable
        (Pager.after Pager.overtaken) := Pager.reachable _ Pager.overtaken (by decide +kernel)
    have hchanged : ∃ turn ∈ (Pager.after Pager.overtaken).1.finishing? Pager.policy 0,
        ∃ row ∈ (Pager.after Pager.overtaken).1.db.notificationDeliveries,
          row.id = turn.2.1.id ∧ turn.2.1.attempts < row.attempts ∧
            row ∉ (nextRecorded Pager.policy 60 (Pager.after Pager.overtaken)
              (.finish 0)).1.db.notificationDeliveries := by
      decide +kernel
    obtain ⟨⟨run, claim, rest, call⟩, hfinishing, row, hrow, hid, hlater, hgone⟩ := hchanged
    exact hgone (hkept _ hreachable 0 run claim rest call hfinishing _
      ⟨trivial, ⟨Option.isSome_of_mem hfinishing, rfl⟩, rfl⟩ row hrow hid hlater)
  · intro hexclusive
    have hreachable : ((recordedDeliveries Pager.policy 60).restrict ClocksForward).Reachable
        (Pager.after Pager.interrupted) := Pager.reachable _ Pager.interrupted (by decide +kernel)
    have hjournal : (Pager.after Pager.interrupted).2 =
        [] ++ .claimed (Pager.claim 3) (seconds 61) ::
          ([.finished (Pager.claim 1) .pending, .handed (Pager.claim 1)] ++
            .claimed (Pager.claim 2) (seconds 60) :: [.claimed (Pager.claim 1) (seconds 0)]) := by
      decide +kernel
    rcases hexclusive _ hreachable [] _ _ _ _ _ _ hjournal rfl with
      ⟨status, claim, hfinished, htoken⟩ | hover
    · rcases List.mem_cons.mp hfinished with hfinished | hhanded
      · cases hfinished
        cases htoken
      · cases List.mem_singleton.mp hhanded
    · exact absurd hover (by decide)

end BusinessAssistant.Persistence
