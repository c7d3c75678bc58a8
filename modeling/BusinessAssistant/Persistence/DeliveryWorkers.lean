/-
# Workers that deliver notifications

Any number of executions of `deliver_notifications` over one table of deliveries. An
execution claims a batch, calls the gateway for one claim after the other and makes the
finishing call of each; between any two of these steps the other executions run, new
deliveries come in and tenants are configured, and an execution may die at any point.

Beside the state a journal is kept of the claims, of what the gateway was given and of
the finishing calls. It says how often a delivery was sent, which the rows do not.
-/

import BusinessAssistant.Foundation.System
import BusinessAssistant.Persistence.BackgroundStore
import Mathlib.Logic.Function.Basic

namespace BusinessAssistant.Persistence

open BusinessAssistant.Domain BusinessAssistant.Application BusinessAssistant.Foundation

/-! ## The system -/

/-- A running execution of `deliver_notifications`: when it claimed its batch, the claims
it is not through with, and how the gateway answered for the first of them. -/
structure DeliveryRun where
  now : Int
  claims : List DeliveryClaim
  sent : Option GatewayResult := none
  deriving DecidableEq

structure DeliveryState where
  db : BackgroundDatabase
  runs : ℕ → Option DeliveryRun

inductive DeliveryStep
  /-- A dispatch commits a new delivery. -/
  | arrive (row : NotificationDeliveryRow)
  /-- Tenants or their entitlements are changed. -/
  | configure (tenants : List TenantRow) (entitlements : List TenantEntitlementRow)
  /-- An execution starts and claims its batch, past the rows others have locked. -/
  | claim (worker : ℕ) (now : Int) (limit : Nat) (skipped : UUID → Bool)
  /-- An execution renders its claim and hands it to the gateway. -/
  | send (worker : ℕ) (result : GatewayResult)
  /-- An execution makes the finishing call of its claim and goes on to the next. -/
  | finish (worker : ℕ)
  /-- An execution dies. -/
  | crash (worker : ℕ)

/-- How the attempt to send a claim ends: a text that cannot be rendered never reaches the
gateway. -/
def attempted (claim : DeliveryClaim) (result : GatewayResult) : GatewayResult :=
  match render claim with
  | .error error => .failed error
  | .ok _ => result

/-- The status a finishing call writes. -/
def DeliveryStatus.after : FinishingCall → DeliveryStatus
  | .markDelivered _ => .sent
  | .retryDelivery _ _ => .pending
  | .deadLetter _ _ => .deadLetter

namespace DeliveryState

variable (policy : RetryPolicy) (leaseSeconds : Int) (s : DeliveryState)

/-- The claim an execution is on, the claims after it and the execution itself. -/
def current? (worker : ℕ) : Option (DeliveryRun × DeliveryClaim × List DeliveryClaim) :=
  (s.runs worker).bind fun run =>
    match run.claims with
    | [] => none
    | claim :: rest => some (run, claim, rest)

/-- The finishing call an execution makes next, with its claim and the claims after it. -/
def finishing? (worker : ℕ) : Option (DeliveryRun × DeliveryClaim × List DeliveryClaim ×
    FinishingCall) :=
  (s.current? worker).bind fun (run, claim, rest) =>
    run.sent.map fun result => (run, claim, rest, finishingCall policy claim run.now result)

/-- The rows a claiming query returns. -/
def batch (now : Int) (limit : Nat) (skipped : UUID → Bool) : List NotificationDeliveryRow :=
  s.db.dueDeliveries skipped now leaseSeconds limit

/-- The steps that can be taken. -/
def Allows : DeliveryStep → Prop
  | .arrive row =>
      row.status = .pending ∧ row.attempts = 0 ∧
        ∀ other ∈ s.db.notificationDeliveries, other.id ≠ row.id
  | .configure _ _ => True
  | .claim worker _ _ _ => s.runs worker = none
  | .send worker _ => ∃ turn ∈ s.current? worker, turn.1.sent = none
  | .finish worker => (s.finishing? policy worker).isSome
  | .crash _ => True

/-- What a step does. -/
def next : DeliveryStep → DeliveryState
  | .arrive row =>
      { s with
        db := { s.db with notificationDeliveries := s.db.notificationDeliveries ++ [row] } }
  | .configure tenants entitlements =>
      { s with db := { s.db with tenants := tenants, entitlements := entitlements } }
  | .claim worker now limit skipped =>
      { db := s.db.claimDeliveries (s.batch leaseSeconds now limit skipped) now
        runs :=
          Function.update s.runs worker
            (some { now, claims := claimsOf (s.batch leaseSeconds now limit skipped) now }) }
  | .send worker result =>
      match s.current? worker with
      | none => s
      | some (run, claim, _) =>
          { s with
            runs :=
              Function.update s.runs worker (some { run with sent := attempted claim result }) }
  | .finish worker =>
      match s.finishing? policy worker with
      | none => s
      | some (run, claim, rest, call) =>
          { db := s.db.finish claim call
            runs := Function.update s.runs worker (some { now := run.now, claims := rest }) }
  | .crash worker => { s with runs := Function.update s.runs worker none }

end DeliveryState

/-- Any number of workers, from an empty table of deliveries. -/
def deliveries (policy : RetryPolicy) (leaseSeconds : Int) : System DeliveryState DeliveryStep where
  init s := s.db.notificationDeliveries = [] ∧ ∀ worker, s.runs worker = none
  step s label s' := s.Allows policy label ∧ s' = s.next policy leaseSeconds label

/-! ## The journal -/

inductive DeliveryNote
  | claimed (claim : DeliveryClaim) (now : Int)
  | handed (claim : DeliveryClaim)
  | finished (claim : DeliveryClaim) (status : DeliveryStatus)
  deriving DecidableEq

/-- The claim a note is about. -/
def DeliveryNote.claim : DeliveryNote → DeliveryClaim
  | .claimed claim _ | .handed claim | .finished claim _ => claim

/-- What a step adds to the journal. -/
def DeliveryState.notes (policy : RetryPolicy) (leaseSeconds : Int) (s : DeliveryState) :
    DeliveryStep → List DeliveryNote
  | .claim _ now limit skipped =>
      (claimsOf (s.batch leaseSeconds now limit skipped) now).map (.claimed · now)
  | .send worker _ =>
      match s.current? worker with
      | none => []
      | some (_, claim, _) =>
          match render claim with
          | .error _ => []
          | .ok _ => [.handed claim]
  | .finish worker =>
      match s.finishing? policy worker with
      | none => []
      | some (_, claim, _, call) => [.finished claim (.after call)]
  | .arrive _ | .configure _ _ | .crash _ => []

/-- The workers with their journal, the latest note first. -/
def recordedDeliveries (policy : RetryPolicy) (leaseSeconds : Int) :
    System (DeliveryState × List DeliveryNote) DeliveryStep :=
  (deliveries policy leaseSeconds).noting [] fun s step journal =>
    s.notes policy leaseSeconds step ++ journal

/-! ## Claims and rows -/

/-- A claim of a row: the row was claimed at least as often as when the claim was made. -/
def NotificationDeliveryRow.WasClaimed (row : NotificationDeliveryRow) (claim : DeliveryClaim) :
    Prop :=
  row.id = claim.id ∧ row.tenantId = claim.tenantId ∧ 1 ≤ claim.attempts ∧
    claim.attempts ≤ row.attempts

/-- The claim is one of a stored row. -/
def BackgroundDatabase.Knows (db : BackgroundDatabase) (claim : DeliveryClaim) : Prop :=
  ∃ row ∈ db.notificationDeliveries, row.WasClaimed claim

/-- The claims of an execution that the gateway has not been called for. -/
def DeliveryRun.unsent (run : DeliveryRun) : List DeliveryClaim :=
  if run.sent.isSome then run.claims.tail else run.claims

/-- Every delivery is still there, claimed at least as often. -/
def BackgroundDatabase.Grows (db db' : BackgroundDatabase) : Prop :=
  ∀ row ∈ db.notificationDeliveries, ∃ row' ∈ db'.notificationDeliveries,
    row'.id = row.id ∧ row'.tenantId = row.tenantId ∧ row.attempts ≤ row'.attempts

theorem BackgroundDatabase.Grows.knows {db db' : BackgroundDatabase} (hgrows : db.Grows db')
    {claim : DeliveryClaim} (hknows : db.Knows claim) : db'.Knows claim := by
  obtain ⟨row, hrow, hid, htenant, hone, hattempts⟩ := hknows
  obtain ⟨row', hrow', hid', htenant', hattempts'⟩ := hgrows row hrow
  exact ⟨row', hrow', hid'.trans hid, htenant'.trans htenant, hone, hattempts.trans hattempts'⟩

theorem BackgroundDatabase.Grows.trans {first middle last : BackgroundDatabase}
    (hfirst : first.Grows middle) (hlast : middle.Grows last) : first.Grows last := by
  intro row hrow
  obtain ⟨row', hrow', hid, htenant, hattempts⟩ := hfirst row hrow
  obtain ⟨row'', hrow'', hid', htenant', hattempts'⟩ := hlast row' hrow'
  exact ⟨row'', hrow'', hid'.trans hid, htenant'.trans htenant, hattempts.trans hattempts'⟩

theorem NotificationDeliveryRow.finished_status (row : NotificationDeliveryRow)
    (call : FinishingCall) : (row.finished call).status = .after call := by
  cases call <;> rfl

@[simp]
theorem NotificationDeliveryRow.finished_id (row : NotificationDeliveryRow)
    (call : FinishingCall) : (row.finished call).id = row.id := by
  cases call <;> rfl

@[simp]
theorem NotificationDeliveryRow.finished_tenantId (row : NotificationDeliveryRow)
    (call : FinishingCall) : (row.finished call).tenantId = row.tenantId := by
  cases call <;> rfl

@[simp]
theorem NotificationDeliveryRow.finished_attempts (row : NotificationDeliveryRow)
    (call : FinishingCall) : (row.finished call).attempts = row.attempts := by
  cases call <;> rfl

theorem DeliveryStatus.after_ne_processing (call : FinishingCall) :
    DeliveryStatus.after call ≠ .processing := by
  cases call <;> simp [DeliveryStatus.after]

namespace DeliveryState

variable {policy : RetryPolicy} {leaseSeconds : Int} {s : DeliveryState}

theorem current?_eq_some {worker : ℕ} {run : DeliveryRun} {claim : DeliveryClaim}
    {rest : List DeliveryClaim} :
    s.current? worker = some (run, claim, rest) ↔
      s.runs worker = some run ∧ run.claims = claim :: rest := by
  unfold current?
  cases hrun : s.runs worker with
  | none => simp
  | some other =>
      cases hclaims : other.claims with
      | nil =>
          simp only [Option.bind_some, hclaims, Option.some.injEq]
          constructor
          · intro hnone
            cases hnone
          · intro h
            rw [← h.1, hclaims] at h
            cases h.2
      | cons first others =>
          simp only [Option.bind_some, hclaims, Option.some.injEq, Prod.mk.injEq]
          constructor
          · intro h
            rw [← h.1, hclaims, h.2.1, h.2.2]
            exact ⟨rfl, rfl⟩
          · intro h
            have hequal := h.2
            rw [← h.1, hclaims, List.cons.injEq] at hequal
            exact ⟨h.1, hequal⟩

theorem finishing?_eq_some {worker : ℕ} {run : DeliveryRun} {claim : DeliveryClaim}
    {rest : List DeliveryClaim} {call : FinishingCall} :
    s.finishing? policy worker = some (run, claim, rest, call) ↔
      s.runs worker = some run ∧ run.claims = claim :: rest ∧
        ∃ result, run.sent = some result ∧ finishingCall policy claim run.now result = call := by
  rw [← and_assoc, ← current?_eq_some]
  unfold finishing?
  cases hcurrent : s.current? worker with
  | none => simp
  | some turn =>
      obtain ⟨other, first, others⟩ := turn
      simp only [Option.bind_some, Option.map_eq_some_iff, Prod.mk.injEq, Option.some.injEq]
      constructor
      · rintro ⟨result, hsent, rfl, rfl, rfl, rfl⟩
        exact ⟨⟨rfl, rfl, rfl⟩, result, hsent, rfl⟩
      · rintro ⟨⟨rfl, rfl, rfl⟩, result, hsent, hcall⟩
        exact ⟨result, hsent, rfl, rfl, rfl, hcall⟩

/-- The rows of a batch are stored and due. -/
theorem mem_batch {now : Int} {limit : Nat} {skipped : UUID → Bool}
    {row : NotificationDeliveryRow} (hrow : row ∈ s.batch leaseSeconds now limit skipped) :
    row ∈ s.db.notificationDeliveries ∧ row.Due now leaseSeconds := by
  have hsorted := List.mem_of_mem_take hrow
  rw [List.mem_insertionSort, List.mem_filter, decide_eq_true_eq] at hsorted
  exact ⟨hsorted.1, hsorted.2.2.1⟩

theorem nodup_batch (hids : (s.db.notificationDeliveries.map (·.id)).Nodup) (now : Int)
    (limit : Nat) (skipped : UUID → Bool) :
    ((s.batch leaseSeconds now limit skipped).map (·.id)).Nodup := by
  have hsorted := ((List.perm_insertionSort (fun first second : NotificationDeliveryRow =>
    first.availableAt < second.availableAt ∨
      first.availableAt = second.availableAt ∧ first.id ≤ second.id)
    (s.db.notificationDeliveries.filter fun row =>
      s.db.Served row.tenantId ∧ row.Due now leaseSeconds ∧ skipped row.id = false)).map
    (·.id)).nodup_iff.mpr (hids.sublist (List.filter_sublist.map _))
  exact hsorted.sublist ((List.take_sublist _ _).map _)

/-! ## Rows only grow -/

/-- A change that keeps whose delivery a row is and does not lower its attempts. -/
theorem grows_update {selected : NotificationDeliveryRow → Prop} [DecidablePred selected]
    {change : NotificationDeliveryRow → NotificationDeliveryRow} (db : BackgroundDatabase)
    (hid : ∀ row, (change row).id = row.id) (htenant : ∀ row, (change row).tenantId = row.tenantId)
    (hattempts : ∀ row, row.attempts ≤ (change row).attempts) :
    db.Grows
      { db with
        notificationDeliveries := Table.update selected change db.notificationDeliveries } := by
  intro row hrow
  by_cases hselected : selected row
  · exact ⟨change row, Table.mem_update_of_selected hrow hselected, hid row, htenant row,
      hattempts row⟩
  · exact ⟨row, Table.mem_update_of_not_selected hrow hselected, rfl, rfl, le_rfl⟩

theorem grows_refl (db : BackgroundDatabase) : db.Grows db :=
  fun row hrow => ⟨row, hrow, rfl, rfl, le_rfl⟩

theorem grows_next (step : DeliveryStep) : s.db.Grows (s.next policy leaseSeconds step).db := by
  cases step with
  | arrive row => exact fun old hold => ⟨old, List.mem_append_left _ hold, rfl, rfl, le_rfl⟩
  | configure tenants entitlements => exact fun old hold => ⟨old, hold, rfl, rfl, le_rfl⟩
  | claim worker now limit skipped =>
      exact grows_update s.db (fun _ => rfl) (fun _ => rfl) fun row => Nat.le_succ row.attempts
  | send worker result =>
      rw [next]
      split
      · exact grows_refl s.db
      · exact grows_refl s.db
  | finish worker =>
      rw [next]
      split
      · exact grows_refl s.db
      · exact grows_update s.db (by simp) (by simp) (by simp)
  | crash worker => exact grows_refl s.db

/-- The keys of the deliveries stay unique. -/
theorem nodup_next {step : DeliveryStep} (hids : (s.db.notificationDeliveries.map (·.id)).Nodup)
    (hallows : s.Allows policy step) :
    ((s.next policy leaseSeconds step).db.notificationDeliveries.map (·.id)).Nodup := by
  cases step with
  | arrive row => exact Table.nodup_append_row hids hallows.2.2
  | configure tenants entitlements => exact hids
  | claim worker now limit skipped => exact Table.nodup_update hids fun _ => rfl
  | send worker result =>
      rw [next]
      split
      · exact hids
      · exact hids
  | finish worker =>
      rw [next]
      split
      · exact hids
      · exact Table.nodup_update hids (by simp)
  | crash worker => exact hids

/-! ## Who holds which claim -/

/-- An execution is not through with a claim. -/
def Holds (s : DeliveryState) (worker : ℕ) (claim : DeliveryClaim) : Prop :=
  ∃ run, s.runs worker = some run ∧ claim ∈ run.claims

/-- An execution has not handed a claim to the gateway yet. -/
def Awaits (s : DeliveryState) (worker : ℕ) (claim : DeliveryClaim) : Prop :=
  ∃ run, s.runs worker = some run ∧ claim ∈ run.unsent

theorem Awaits.holds {worker : ℕ} {claim : DeliveryClaim} (h : s.Awaits worker claim) :
    s.Holds worker claim := by
  obtain ⟨run, hrun, hclaim⟩ := h
  refine ⟨run, hrun, ?_⟩
  unfold DeliveryRun.unsent at hclaim
  split at hclaim
  · exact List.mem_of_mem_tail hclaim
  · exact hclaim

end DeliveryState

/-! ## What the journal accounts for -/

/-- The claim a note says the gateway was given. -/
def DeliveryNote.handed? : DeliveryNote → Option (UUID × Nat)
  | .handed claim => some claim.token
  | .claimed _ _ | .finished _ _ => none

/-- The claims are those of stored rows, each is worked on by one execution, and each is
handed to the gateway and finished at most once. -/
structure Accounted (s : DeliveryState) (journal : List DeliveryNote) : Prop where
  ids : (s.db.notificationDeliveries.map (·.id)).Nodup
  noted : ∀ note ∈ journal, s.db.Knows note.claim
  held : ∀ worker claim, s.Holds worker claim → s.db.Knows claim
  distinct : ∀ worker run, s.runs worker = some run → (run.claims.map (·.id)).Nodup
  apart : ∀ first second claim other, s.Holds first claim → s.Holds second other →
    claim.token = other.token → first = second
  unfinished : ∀ worker claim, s.Holds worker claim → ∀ other status,
    .finished other status ∈ journal → other.token ≠ claim.token
  unsent : ∀ worker claim, s.Awaits worker claim → ∀ other,
    .handed other ∈ journal → other.token ≠ claim.token
  handedOnce : (journal.filterMap (·.handed?)).Nodup
  finishedOnce : ∀ first second status other, .finished first status ∈ journal →
    .finished second other ∈ journal → first.token = second.token → status = other

namespace Accounted

variable {policy : RetryPolicy} {leaseSeconds : Int} {s : DeliveryState}
  {journal : List DeliveryNote}

/-- A claim known before a row is claimed is not the new one. -/
theorem token_ne_new (h : Accounted s journal) {claim : DeliveryClaim} (hknows : s.db.Knows claim)
    {row : NotificationDeliveryRow} (hrow : row ∈ s.db.notificationDeliveries) (now : Int) :
    claim.token ≠ (row.claimed now).toClaim.token := by
  intro htoken
  obtain ⟨old, hold, hid, _, _, hattempts⟩ := hknows
  obtain ⟨hidEq, hattemptsEq⟩ := Prod.mk.inj htoken
  have hsame : old = row := Table.eq_of_key_eq h.ids hold hrow (hid.trans hidEq)
  have hnew : claim.attempts = row.attempts + 1 := hattemptsEq
  rw [hsame] at hattempts
  omega

/-- Two claims of one execution with the same number are in the same place. -/
theorem token_ne_of_rest (h : Accounted s journal) {worker : ℕ} {run : DeliveryRun}
    {claim other : DeliveryClaim} {rest : List DeliveryClaim} (hrun : s.runs worker = some run)
    (hclaims : run.claims = claim :: rest) (hother : other ∈ rest) :
    claim.token ≠ other.token := by
  intro htoken
  have hnodup := h.distinct worker run hrun
  rw [hclaims, List.map_cons, List.nodup_cons] at hnodup
  exact hnodup.1 (List.mem_map.mpr ⟨other, hother, (Prod.mk.inj htoken).1.symm⟩)

/-- Steps that only take claims away from executions. -/
theorem weaken (h : Accounted s journal) {s' : DeliveryState}
    (hids : (s'.db.notificationDeliveries.map (·.id)).Nodup) (hgrows : s.db.Grows s'.db)
    (hholds : ∀ worker claim, s'.Holds worker claim → s.Holds worker claim)
    (hawaits : ∀ worker claim, s'.Awaits worker claim → s.Awaits worker claim)
    (hdistinct : ∀ worker run, s'.runs worker = some run → (run.claims.map (·.id)).Nodup) :
    Accounted s' journal where
  ids := hids
  noted note hnote := hgrows.knows (h.noted note hnote)
  held worker claim hclaim := hgrows.knows (h.held worker claim (hholds worker claim hclaim))
  distinct := hdistinct
  apart first second claim other hclaim hother :=
    h.apart first second claim other (hholds first claim hclaim) (hholds second other hother)
  unfinished worker claim hclaim := h.unfinished worker claim (hholds worker claim hclaim)
  unsent worker claim hclaim := h.unsent worker claim (hawaits worker claim hclaim)
  handedOnce := h.handedOnce
  finishedOnce := h.finishedOnce

/-- A finishing call of a claim nobody holds any more is noted. -/
theorem note_finished (h : Accounted s journal) {claim : DeliveryClaim} (hknows : s.db.Knows claim)
    (hdone : ∀ worker other, s.Holds worker other → claim.token ≠ other.token)
    (hnew : ∀ other status, .finished other status ∈ journal → other.token ≠ claim.token)
    (status : DeliveryStatus) : Accounted s (.finished claim status :: journal) where
  ids := h.ids
  noted note hnote := by
    rcases List.mem_cons.mp hnote with rfl | hnote
    · exact hknows
    · exact h.noted note hnote
  held := h.held
  distinct := h.distinct
  apart := h.apart
  unfinished worker other hother finished written hfinished := by
    rcases List.mem_cons.mp hfinished with hfinished | hfinished
    · cases hfinished
      exact hdone worker other hother
    · exact h.unfinished worker other hother finished written hfinished
  unsent worker other hother handed hhanded := by
    rcases List.mem_cons.mp hhanded with hhanded | hhanded
    · cases hhanded
    · exact h.unsent worker other hother handed hhanded
  handedOnce := h.handedOnce
  finishedOnce first second written other hfirst hsecond htoken := by
    rcases List.mem_cons.mp hfirst with hfirst | hfirst
    · cases hfirst
      rcases List.mem_cons.mp hsecond with hsecond | hsecond
      · cases hsecond
        rfl
      · exact absurd htoken.symm (hnew second other hsecond)
    · rcases List.mem_cons.mp hsecond with hsecond | hsecond
      · cases hsecond
        exact absurd htoken (hnew first written hfirst)
      · exact h.finishedOnce first second written other hfirst hsecond htoken

/-- A claim that was not handed over before is noted as handed over. -/
theorem note_handed (h : Accounted s journal) {claim : DeliveryClaim} (hknows : s.db.Knows claim)
    (hdone : ∀ worker other, s.Awaits worker other → claim.token ≠ other.token)
    (hnew : ∀ other, .handed other ∈ journal → other.token ≠ claim.token) :
    Accounted s (.handed claim :: journal) where
  ids := h.ids
  noted note hnote := by
    rcases List.mem_cons.mp hnote with rfl | hnote
    · exact hknows
    · exact h.noted note hnote
  held := h.held
  distinct := h.distinct
  apart := h.apart
  unfinished worker other hother finished written hfinished := by
    rcases List.mem_cons.mp hfinished with hfinished | hfinished
    · cases hfinished
    · exact h.unfinished worker other hother finished written hfinished
  unsent worker other hother handed hhanded := by
    rcases List.mem_cons.mp hhanded with hhanded | hhanded
    · cases hhanded
      exact hdone worker other hother
    · exact h.unsent worker other hother handed hhanded
  handedOnce := by
    have htoken : (DeliveryNote.handed claim).handed? = some claim.token := rfl
    rw [List.filterMap_cons_some htoken, List.nodup_cons]
    refine ⟨?_, h.handedOnce⟩
    intro hmem
    obtain ⟨note, hnote, htoken⟩ := List.mem_filterMap.mp hmem
    cases note with
    | handed other => exact hnew other hnote (Option.some.inj htoken)
    | claimed other now => cases htoken
    | finished other status => cases htoken
  finishedOnce first second written other hfirst hsecond htoken := by
    rcases List.mem_cons.mp hfirst with hfirst | hfirst
    · cases hfirst
    · rcases List.mem_cons.mp hsecond with hsecond | hsecond
      · cases hsecond
      · exact h.finishedOnce first second written other hfirst hsecond htoken

/-- An execution goes from a claim to the gateway's answer, to the next claim, or ends. -/
theorem weaken_run (h : Accounted s journal) {s' : DeliveryState} {worker : ℕ}
    {next : Option DeliveryRun} (hruns : s'.runs = Function.update s.runs worker next)
    (hids : (s'.db.notificationDeliveries.map (·.id)).Nodup) (hgrows : s.db.Grows s'.db)
    (hnext : ∀ run ∈ next, ∃ old, s.runs worker = some old ∧ run.claims.Sublist old.claims ∧
      ∀ claim ∈ run.unsent, claim ∈ old.unsent) : Accounted s' journal := by
  apply h.weaken hids hgrows
  · rintro other claim ⟨run, hrun, hclaim⟩
    rw [hruns, Function.update_apply] at hrun
    split at hrun
    · next hother =>
        obtain ⟨old, hold, hsub, _⟩ := hnext run hrun
        exact ⟨old, hother ▸ hold, hsub.subset hclaim⟩
    · exact ⟨run, hrun, hclaim⟩
  · rintro other claim ⟨run, hrun, hclaim⟩
    rw [hruns, Function.update_apply] at hrun
    split at hrun
    · next hother =>
        obtain ⟨old, hold, _, hunsent⟩ := hnext run hrun
        exact ⟨old, hother ▸ hold, hunsent claim hclaim⟩
    · exact ⟨run, hrun, hclaim⟩
  · intro other run hrun
    rw [hruns, Function.update_apply] at hrun
    split at hrun
    · obtain ⟨old, hold, hsub, _⟩ := hnext run hrun
      exact (h.distinct worker old hold).sublist (hsub.map _)
    · exact h.distinct other run hrun

/-! ### A claim -/

section Claim

variable {worker : ℕ} {now : Int} {limit : Nat} {skipped : UUID → Bool}

theorem runs_claim (policy : RetryPolicy) (leaseSeconds : Int) (s : DeliveryState) (worker : ℕ)
    (now : Int) (limit : Nat) (skipped : UUID → Bool) :
    (s.next policy leaseSeconds (.claim worker now limit skipped)).runs =
      Function.update s.runs worker
        (some { now, claims := claimsOf (s.batch leaseSeconds now limit skipped) now }) := rfl

/-- A claimed batch is known. -/
theorem knows_claimed {claim : DeliveryClaim}
    (hclaim : claim ∈ claimsOf (s.batch leaseSeconds now limit skipped) now) :
    (s.next policy leaseSeconds (.claim worker now limit skipped)).db.Knows claim := by
  obtain ⟨row, hrow, rfl⟩ := List.mem_map.mp hclaim
  exact ⟨row.claimed now, Table.mem_update_of_selected (DeliveryState.mem_batch hrow).1
    (List.mem_map_of_mem hrow), rfl, rfl, Nat.succ_pos _, le_rfl⟩

/-- Claims known before are not those of the batch. -/
theorem token_ne_claimed (h : Accounted s journal) {claim : DeliveryClaim}
    (hclaim : claim ∈ claimsOf (s.batch leaseSeconds now limit skipped) now) {other : DeliveryClaim}
    (hother : s.db.Knows other) : other.token ≠ claim.token := by
  obtain ⟨row, hrow, rfl⟩ := List.mem_map.mp hclaim
  exact h.token_ne_new hother (DeliveryState.mem_batch hrow).1 now

/-- One execution has the claims of the batch, the others have what they had. -/
theorem holds_claimed {other : ℕ} {claim : DeliveryClaim}
    (hholds : (s.next policy leaseSeconds (.claim worker now limit skipped)).Holds other claim) :
    other = worker ∧ claim ∈ claimsOf (s.batch leaseSeconds now limit skipped) now ∨
      other ≠ worker ∧ s.Holds other claim := by
  obtain ⟨run, hrun, hclaim⟩ := hholds
  rw [runs_claim, Function.update_apply] at hrun
  split at hrun
  · next hother =>
      cases hrun
      exact .inl ⟨hother, hclaim⟩
  · next hother => exact .inr ⟨hother, run, hrun, hclaim⟩

/-- What is noted of the batch are its claims. -/
theorem noted_claimed {note : DeliveryNote}
    (hnote : note ∈ s.notes policy leaseSeconds (.claim worker now limit skipped) ++ journal) :
    (∃ claim ∈ claimsOf (s.batch leaseSeconds now limit skipped) now, note = .claimed claim now) ∨
      note ∈ journal := by
  refine (List.mem_append.mp hnote).imp_left fun hnew => ?_
  obtain ⟨claim, hclaim, rfl⟩ := List.mem_map.mp hnew
  exact ⟨claim, hclaim, rfl⟩

/-- A batch is claimed: its claims are new, and one execution has them all. -/
theorem claim (h : Accounted s journal) :
    Accounted (s.next policy leaseSeconds (.claim worker now limit skipped))
      (s.notes policy leaseSeconds (.claim worker now limit skipped) ++ journal) := by
  have hgrows : s.db.Grows (s.next policy leaseSeconds (.claim worker now limit skipped)).db :=
    DeliveryState.grows_next _
  constructor
  case ids => exact Table.nodup_update h.ids fun _ => rfl
  case noted =>
    intro note hnote
    rcases noted_claimed hnote with ⟨claim, hclaim, rfl⟩ | hnote
    · exact knows_claimed hclaim
    · exact hgrows.knows (h.noted note hnote)
  case held =>
    intro other claim hclaim
    rcases holds_claimed hclaim with ⟨_, hclaim⟩ | ⟨_, hclaim⟩
    · exact knows_claimed hclaim
    · exact hgrows.knows (h.held other claim hclaim)
  case distinct =>
    intro other run hrun
    rw [runs_claim, Function.update_apply] at hrun
    split at hrun
    · cases hrun
      show ((claimsOf (s.batch leaseSeconds now limit skipped) now).map (·.id)).Nodup
      rw [claimsOf, List.map_map]
      exact DeliveryState.nodup_batch h.ids now limit skipped
    · exact h.distinct other run hrun
  case apart =>
    intro first second claim other hclaim hother htoken
    rcases holds_claimed hclaim with ⟨hfirst, hclaim⟩ | ⟨_, hclaim⟩
    · rcases holds_claimed hother with ⟨hsecond, _⟩ | ⟨_, hother⟩
      · rw [hfirst, hsecond]
      · exact absurd htoken.symm (h.token_ne_claimed hclaim (h.held second other hother))
    · rcases holds_claimed hother with ⟨_, hother⟩ | ⟨_, hother⟩
      · exact absurd htoken (h.token_ne_claimed hother (h.held first claim hclaim))
      · exact h.apart first second claim other hclaim hother htoken
  case unfinished =>
    intro other claim hclaim finished status hfinished
    rcases noted_claimed hfinished with ⟨_, _, hnote⟩ | hfinished
    · cases hnote
    · rcases holds_claimed hclaim with ⟨_, hclaim⟩ | ⟨_, hclaim⟩
      · exact h.token_ne_claimed hclaim (h.noted _ hfinished)
      · exact h.unfinished other claim hclaim finished status hfinished
  case unsent =>
    intro other claim hclaim handed hhanded
    rcases noted_claimed hhanded with ⟨_, _, hnote⟩ | hhanded
    · cases hnote
    · rcases holds_claimed hclaim.holds with ⟨_, hnew⟩ | ⟨hother, _⟩
      · exact h.token_ne_claimed hnew (h.noted _ hhanded)
      · obtain ⟨run, hrun, hunsent⟩ := hclaim
        rw [runs_claim, Function.update_of_ne hother] at hrun
        exact h.unsent other claim ⟨run, hrun, hunsent⟩ handed hhanded
  case handedOnce =>
    rw [List.filterMap_append]
    have hnone : (s.notes policy leaseSeconds (.claim worker now limit skipped)).filterMap
        (·.handed?) = [] := by
      rw [DeliveryState.notes, List.filterMap_map]
      exact List.filterMap_eq_nil_iff.mpr fun _ _ => rfl
    rw [hnone]
    exact h.handedOnce
  case finishedOnce =>
    intro first second status other hfirst hsecond
    rcases noted_claimed hfirst with ⟨_, _, hnote⟩ | hfirst
    · cases hnote
    · rcases noted_claimed hsecond with ⟨_, _, hnote⟩ | hsecond
      · cases hnote
      · exact h.finishedOnce first second status other hfirst hsecond

end Claim

/-- The gateway is called for the claim an execution is on. -/
theorem send (h : Accounted s journal) {worker : ℕ} {result : GatewayResult}
    (hallows : s.Allows policy (.send worker result)) :
    Accounted (s.next policy leaseSeconds (.send worker result))
      (s.notes policy leaseSeconds (.send worker result) ++ journal) := by
  obtain ⟨⟨run, claim, rest⟩, hcurrent, hsent⟩ := hallows
  rw [Option.mem_def] at hcurrent
  obtain ⟨hrun, hclaims⟩ := DeliveryState.current?_eq_some.mp hcurrent
  have hunsent : run.unsent = claim :: rest := by
    rw [DeliveryRun.unsent, hsent]
    exact hclaims
  rw [DeliveryState.next, DeliveryState.notes, hcurrent]
  set s' : DeliveryState :=
    { s with
      runs := Function.update s.runs worker (some { run with sent := attempted claim result }) }
    with hs'
  have hsends : Accounted s' journal := by
    have hruns : s'.runs =
        Function.update s.runs worker (some { run with sent := attempted claim result }) := rfl
    apply h.weaken_run hruns h.ids (DeliveryState.grows_refl s.db)
    intro next hnext
    cases hnext
    refine ⟨run, hrun, .refl _, fun other hother => ?_⟩
    rw [hunsent, ← hclaims]
    exact List.mem_of_mem_tail hother
  have hawaited : s.Awaits worker claim := ⟨run, hrun, by rw [hunsent]; exact List.mem_cons_self⟩
  show Accounted _ ((match render claim with | .error _ => [] | .ok _ => [.handed claim]) ++ journal)
  cases render claim with
  | error error => exact hsends
  | ok text =>
      apply hsends.note_handed (h.held worker claim hawaited.holds)
      · rintro other waiting ⟨run', hrun', hwaiting⟩ htoken
        simp only [hs', Function.update_apply] at hrun'
        split at hrun'
        · cases hrun'
          have hrest : waiting ∈ rest := by simpa [DeliveryRun.unsent, hclaims] using hwaiting
          exact h.token_ne_of_rest hrun hclaims hrest htoken
        · next hother =>
            have hwaits : s.Awaits other waiting := ⟨run', hrun', hwaiting⟩
            exact hother (h.apart worker other claim waiting hawaited.holds hwaits.holds htoken).symm
      · exact h.unsent worker claim hawaited

/-- The finishing call of a claim. -/
theorem finish (h : Accounted s journal) {worker : ℕ}
    (hallows : s.Allows policy (.finish worker)) :
    Accounted (s.next policy leaseSeconds (.finish worker))
      (s.notes policy leaseSeconds (.finish worker) ++ journal) := by
  obtain ⟨⟨run, claim, rest, call⟩, hfinishing⟩ := Option.isSome_iff_exists.mp hallows
  obtain ⟨hrun, hclaims, result, hsent, _⟩ := DeliveryState.finishing?_eq_some.mp hfinishing
  have hgrows : s.db.Grows (s.next policy leaseSeconds (.finish worker)).db :=
    DeliveryState.grows_next _
  have hids : ((s.next policy leaseSeconds (.finish worker)).db.notificationDeliveries.map
      (·.id)).Nodup := DeliveryState.nodup_next h.ids hallows
  have hheld : s.Holds worker claim := ⟨run, hrun, by rw [hclaims]; exact List.mem_cons_self⟩
  have hruns : (s.next policy leaseSeconds (.finish worker)).runs =
      Function.update s.runs worker (some { now := run.now, claims := rest }) := by
    rw [DeliveryState.next, hfinishing]
  have hnotes : s.notes policy leaseSeconds (.finish worker) = [.finished claim (.after call)] := by
    rw [DeliveryState.notes, hfinishing]
  rw [hnotes]
  have hnext : Accounted (s.next policy leaseSeconds (.finish worker)) journal := by
    apply h.weaken_run hruns hids hgrows
    intro next hnext
    cases hnext
    refine ⟨run, hrun, by rw [hclaims]; exact List.sublist_cons_self claim rest, ?_⟩
    intro other hother
    rw [DeliveryRun.unsent, hsent, hclaims]
    exact hother
  apply hnext.note_finished (hgrows.knows (h.held worker claim hheld))
  · rintro other kept ⟨run', hrun', hkept⟩ htoken
    rw [hruns, Function.update_apply] at hrun'
    split at hrun'
    · cases hrun'
      exact h.token_ne_of_rest hrun hclaims hkept htoken
    · next hother =>
        exact hother (h.apart worker other claim kept hheld ⟨run', hrun', hkept⟩ htoken).symm
  · exact h.unfinished worker claim hheld

theorem next (h : Accounted s journal) {step : DeliveryStep} (hallows : s.Allows policy step) :
    Accounted (s.next policy leaseSeconds step)
      (s.notes policy leaseSeconds step ++ journal) := by
  cases step with
  | arrive row =>
      have hgrows : s.db.Grows (s.next policy leaseSeconds (.arrive row)).db :=
        DeliveryState.grows_next _
      exact h.weaken (DeliveryState.nodup_next h.ids hallows) hgrows (fun _ _ hclaim => hclaim)
        (fun _ _ hclaim => hclaim) h.distinct
  | configure tenants entitlements =>
      exact h.weaken h.ids (DeliveryState.grows_refl s.db) (fun _ _ hclaim => hclaim)
        (fun _ _ hclaim => hclaim) h.distinct
  | claim worker now limit skipped => exact h.claim
  | send worker result => exact h.send hallows
  | finish worker => exact h.finish hallows
  | crash worker =>
      have hruns : (s.next policy leaseSeconds (.crash worker)).runs =
          Function.update s.runs worker none := rfl
      exact h.weaken_run hruns h.ids (DeliveryState.grows_refl s.db) fun _ hnone => nomatch hnone

end Accounted

/-- Whatever the workers do, the claims are accounted for. -/
theorem accounted_of_reachable {policy : RetryPolicy} {leaseSeconds : Int}
    {s : DeliveryState × List DeliveryNote}
    (hs : (recordedDeliveries policy leaseSeconds).Reachable s) : Accounted s.1 s.2 := by
  refine hs.invariant (I := fun s => Accounted s.1 s.2) ?_ ?_
  · rintro ⟨s, journal⟩ ⟨⟨hempty, hidle⟩, hjournal⟩
    cases hjournal
    have hnone : ∀ worker claim, ¬ s.Holds worker claim := by
      rintro worker claim ⟨run, hrun, _⟩
      rw [hidle worker] at hrun
      cases hrun
    constructor
    case ids => rw [hempty]; exact List.nodup_nil
    case noted => exact fun _ hnote => nomatch hnote
    case held => exact fun worker claim hclaim => absurd hclaim (hnone worker claim)
    case distinct => intro worker run hrun; rw [hidle worker] at hrun; cases hrun
    case apart => exact fun first _ claim _ hclaim => absurd hclaim (hnone first claim)
    case unfinished => exact fun _ _ _ _ _ hnote => nomatch hnote
    case unsent => exact fun _ _ _ _ hnote => nomatch hnote
    case handedOnce => exact List.nodup_nil
    case finishedOnce => exact fun _ _ _ _ hnote => nomatch hnote
  · rintro ⟨s, journal⟩ step ⟨s', journal'⟩ _ haccounted ⟨⟨hallows, rfl⟩, rfl⟩
    exact haccounted.next hallows

/-! ## One delivery, step by step -/

instance (policy : RetryPolicy) (s : DeliveryState) (step : DeliveryStep) :
    Decidable (s.Allows policy step) :=
  match step with
  | .arrive _ => inferInstanceAs (Decidable (_ ∧ _ ∧ _))
  | .configure _ _ => inferInstanceAs (Decidable True)
  | .claim worker _ _ _ => inferInstanceAs (Decidable (s.runs worker = none))
  | .send worker _ =>
      match hturn : s.current? worker with
      | none => .isFalse fun ⟨_, hmem, _⟩ => by rw [hturn] at hmem; cases hmem
      | some turn => decidable_of_iff (turn.1.sent = none) (by simp [DeliveryState.Allows, hturn])
  | .finish worker => inferInstanceAs (Decidable ((s.finishing? policy worker).isSome = true))
  | .crash _ => inferInstanceAs (Decidable True)

/-- A step of the recorded workers. -/
def nextRecorded (policy : RetryPolicy) (leaseSeconds : Int)
    (s : DeliveryState × List DeliveryNote) (step : DeliveryStep) :
    DeliveryState × List DeliveryNote :=
  (s.1.next policy leaseSeconds step, s.1.notes policy leaseSeconds step ++ s.2)

namespace Pager

/-- One served tenant, with one notification about a queued handoff. -/
def tenantId : TenantId := 1#128

def tenant : TenantRow where
  id := tenantId
  timezone := { key := "UTC", initialOffset := 0, transitions := [] }
  status := .active

def entitlement : TenantEntitlementRow where
  tenantId := tenantId
  capability := "background_notifications"
  enabled := true

def policy : RetryPolicy where
  maxAttempts := 2
  baseDelaySeconds := 5
  maximumDelaySeconds := 900
  maxAttemptsValid := by decide
  delayValid := by decide

def delivery : NotificationDeliveryRow where
  id := 2#128
  tenantId := tenantId
  eventId := { name := "handoff".toList }
  subscriptionId := 3#128
  eventType := "handoff.queued"
  channel := .telegram
  recipientId := "222".toList
  payload := .handoff 4#128 "customer_request".toList "urgent".toList
  status := .pending
  attempts := 0
  availableAt := 0
  lockedAt := none
  sentAt := none
  lastErrorCode := none

/-- The delivery's claim of a number. -/
def claim (number : Nat) : DeliveryClaim := { delivery.toClaim with attempts := number }

/-- The tenant, and no delivery yet. -/
def start : DeliveryState × List DeliveryNote :=
  ({ db := { tenants := [tenant], entitlements := [entitlement] }, runs := fun _ => none }, [])

/-- A claim with a lease of a minute, at a time in seconds. -/
def claims (worker : ℕ) (second : Int) : DeliveryStep :=
  .claim worker (seconds second) 100 fun _ => false

/-- What the steps lead to with a lease of a minute. -/
def after (steps : List DeliveryStep) : DeliveryState × List DeliveryNote :=
  steps.foldl (nextRecorded policy 60) start

/-- Steps that can be taken and meet a condition lead to a reachable state. -/
theorem reachable (condition : DeliveryState × List DeliveryNote → DeliveryStep → Prop)
    (steps : List DeliveryStep)
    (hfollows : System.Follows (fun s step => condition s step ∧ s.1.Allows policy step)
      (nextRecorded policy 60) start steps) :
    ((recordedDeliveries policy 60).restrict condition).Reachable (after steps) := by
  have hstart : ((recordedDeliveries policy 60).restrict condition).Reachable start :=
    .init ⟨⟨rfl, fun _ => rfl⟩, rfl⟩
  have hstep : ∀ s step, condition s step ∧ s.1.Allows policy step →
      ((recordedDeliveries policy 60).restrict condition).step s step
        (nextRecorded policy 60 s step) :=
    fun s step hallowed => ⟨hallowed.1, ⟨hallowed.2, rfl⟩, rfl⟩
  exact System.Reachable.of_follows hstep hstart hfollows

end Pager

end BusinessAssistant.Persistence
