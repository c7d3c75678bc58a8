/-
# Executions of the update middleware

Any number of executions of `UpdateDeduplicationMiddleware` for the updates of a bot,
statement by statement: each reads the clock when its update is delivered, claims the
update in two statements, runs its handler for as long as it takes, and records the outcome.
It can be gone at any point. Rows that are not being processed can be deleted at any time.

Beside the state a history is kept for each update: who was admitted to handle it and
when, which outcomes were recorded, and when its row was deleted.
-/

import BusinessAssistant.Foundation.Lease
import BusinessAssistant.Foundation.System
import BusinessAssistant.Persistence.TelegramLedger
import Mathlib.Logic.Function.Basic

namespace BusinessAssistant.Persistence

open BusinessAssistant.Domain BusinessAssistant.Application BusinessAssistant.Foundation

/-! ## One execution -/

/-- What the webhook answers, by the text of the middleware's result. -/
inductive UpdateAnswer
  | processed
  | duplicate
  | inProgress
  /-- The middleware has raised. -/
  | unavailable
  deriving DecidableEq, Repr

/-- The status code of an answer. -/
def UpdateAnswer.code : UpdateAnswer → Nat
  | .processed | .duplicate | .inProgress => 200
  | .unavailable => 503

inductive UpdatePhase
  /-- The clock has been read. -/
  | arrived
  /-- The insert has found a row. -/
  | conflicted
  | handling
  | completing
  | failing (errorCode : String)
  /-- The execution is over, with its answer if it lived to give one. -/
  | ended (answer : Option UpdateAnswer)
  deriving DecidableEq

/-- An execution for an update, with its reading of the clock. -/
structure UpdateExecution where
  updateId : Int
  now : Int
  phase : UpdatePhase := .arrived
  /-- The handler has returned without an error. -/
  handled : Bool := false
  deriving DecidableEq

inductive UpdateStep
  /-- The insert of `claim`. -/
  | insert
  /-- The locking read of `claim`, and what it comes to. -/
  | lock
  /-- The handler returns. -/
  | succeed
  /-- The handler raises. -/
  | raise (errorCode : String)
  | complete
  | fail
  /-- The execution is gone, or stopped by an error of the database. -/
  | stop
  deriving DecidableEq

/-- How an update is recorded to have ended. -/
inductive UpdateOutcome
  | completed
  | failed
  deriving DecidableEq

namespace UpdateExecution

variable (binding : TelegramBotBinding) (staleAfterSeconds : Int) (known : Int → Bool)
  (exec : UpdateExecution)

def key : TelegramUpdateKey := updateKey binding exec.updateId

/-- The execution is not over. -/
def Running : Prop := ∀ answer, exec.phase ≠ .ended answer

/-- The steps an execution can take. -/
def Takes : UpdateStep → Prop
  | .insert => exec.phase = .arrived
  | .lock => exec.phase = .conflicted
  | .succeed | .raise _ => exec.phase = .handling
  | .complete => exec.phase = .completing
  | .fail => ∃ errorCode, exec.phase = .failing errorCode
  | .stop => exec.Running

instance : Decidable exec.Running :=
  match hphase : exec.phase with
  | .arrived | .conflicted | .handling | .completing | .failing _ =>
      .isTrue fun answer hended => by rw [hphase] at hended; cases hended
  | .ended answer => .isFalse fun hrunning => hrunning answer hphase

instance (step : UpdateStep) : Decidable (exec.Takes step) :=
  match step with
  | .insert | .lock | .succeed | .raise _ | .complete => inferInstanceAs (Decidable (_ = _))
  | .fail =>
      match hphase : exec.phase with
      | .failing errorCode => .isTrue ⟨errorCode, hphase⟩
      | .arrived | .conflicted | .handling | .completing | .ended _ =>
          .isFalse fun ⟨_, hfailing⟩ => by rw [hphase] at hfailing; cases hfailing
  | .stop => inferInstanceAs (Decidable exec.Running)

/-- The update is the execution's to process. One of an unknown type has no handler. -/
def admitted : UpdateExecution :=
  { exec with phase := if known exec.updateId then .handling else .completing }

/-- What a step does to the rows and to the execution. -/
def take (clock : Int) (rows : List TelegramUpdateRow) :
    UpdateStep → List TelegramUpdateRow × UpdateExecution
  | .insert =>
      match insertClaim (exec.key binding) exec.now clock rows with
      | some rows' => (rows', exec.admitted known)
      | none => (rows, { exec with phase := .conflicted })
  | .lock =>
      match lockClaim (exec.key binding) exec.now staleAfterSeconds rows with
      | none => (rows, { exec with phase := .ended (some .unavailable) })
      | some (claim, rows') =>
          (rows',
            match claim.result with
            | .first | .retry => exec.admitted known
            | .duplicate => { exec with phase := .ended (some .duplicate) }
            | .inProgress => { exec with phase := .ended (some .inProgress) })
  | .succeed => (rows, { exec with phase := .completing, handled := true })
  | .raise errorCode => (rows, { exec with phase := .failing errorCode })
  | .complete =>
      (completeUpdate (exec.key binding) clock rows, { exec with phase := .ended (some .processed) })
  | .fail =>
      match exec.phase with
      | .failing errorCode =>
          (failUpdate (exec.key binding) clock errorCode rows,
            { exec with phase := .ended (some .unavailable) })
      | .arrived | .conflicted | .handling | .completing | .ended _ => (rows, exec)
  | .stop => (rows, { exec with phase := .ended none })

/-- The step gives the execution `FIRST` or `RETRY`. -/
def Obtains (clock : Int) (rows : List TelegramUpdateRow) : UpdateStep → Prop
  | .insert => (insertClaim (exec.key binding) exec.now clock rows).isSome
  | .lock =>
      ∃ result ∈ lockClaim (exec.key binding) exec.now staleAfterSeconds rows,
        result.1.result = .retry
  | .succeed | .raise _ | .complete | .fail | .stop => False

instance decidableObtains (clock : Int) (rows : List TelegramUpdateRow) (step : UpdateStep) :
    Decidable (exec.Obtains binding staleAfterSeconds clock rows step) :=
  match step with
  | .insert => inferInstanceAs (Decidable (_ = true))
  | .lock => inferInstanceAs (Decidable (∃ result ∈ lockClaim _ _ _ _, _))
  | .succeed | .raise _ | .complete | .fail | .stop => inferInstanceAs (Decidable False)

end UpdateExecution

/-- The outcome a step records. -/
def UpdateStep.outcome? : UpdateStep → Option UpdateOutcome
  | .complete => some .completed
  | .fail => some .failed
  | .insert | .lock | .succeed | .raise _ | .stop => none

/-! ## All executions -/

structure LedgerState where
  rows : List TelegramUpdateRow
  clock : Int
  executions : ℕ → Option UpdateExecution

inductive LedgerStep
  | tick (time : Int)
  /-- An update is delivered, and an execution for it starts. -/
  | deliver (execution : ℕ) (updateId : Int)
  | act (execution : ℕ) (step : UpdateStep)
  /-- Retention deletes rows. -/
  | delete (before : Int)

/-- What happened to each update, the latest first. -/
abbrev UpdateHistory := Int → List (LeaseEvent ℕ UpdateOutcome)

namespace LedgerState

variable (binding : TelegramBotBinding) (staleAfterSeconds : Int) (known : Int → Bool)
  (s : LedgerState)

/-- The row of an update. -/
def row? (updateId : Int) : Option TelegramUpdateRow := updateRow? (updateKey binding updateId) s.rows

def Allows : LedgerStep → Prop
  | .tick time => s.clock ≤ time
  | .deliver execution _ => s.executions execution = none
  | .act execution step => ∃ exec ∈ s.executions execution, exec.Takes step
  | .delete _ => True

instance (step : LedgerStep) : Decidable (s.Allows step) :=
  match step with
  | .tick _ => inferInstanceAs (Decidable (_ ≤ _))
  | .deliver execution _ =>
      decidable_of_iff ((s.executions execution).isNone = true) Option.isNone_iff_eq_none
  | .act execution _ => inferInstanceAs (Decidable (∃ exec ∈ s.executions execution, _))
  | .delete _ => inferInstanceAs (Decidable True)

def next : LedgerStep → LedgerState
  | .tick time => { s with clock := time }
  | .deliver execution updateId =>
      { s with
        executions := Function.update s.executions execution (some { updateId, now := s.clock }) }
  | .act execution step =>
      match s.executions execution with
      | none => s
      | some exec =>
          { s with
            rows := (exec.take binding staleAfterSeconds known s.clock s.rows step).1
            executions :=
              Function.update s.executions execution
                (some (exec.take binding staleAfterSeconds known s.clock s.rows step).2) }
  | .delete before => { s with rows := deleteCompletedBefore before s.rows }

/-- What a step adds to the history of an update. -/
def events (step : LedgerStep) (updateId : Int) : List (LeaseEvent ℕ UpdateOutcome) :=
  match step with
  | .tick _ | .deliver _ _ => []
  | .act execution step =>
      match s.executions execution with
      | none => []
      | some exec =>
          if exec.updateId ≠ updateId then []
          else if exec.Obtains binding staleAfterSeconds s.clock s.rows step then
            [.claim execution exec.now]
          else (step.outcome?.map (.report execution)).toList
  | .delete before =>
      match s.row? binding updateId with
      | none => []
      | some row => if row.Expired before then [.discard s.clock] else []

end LedgerState

/-- Any number of executions, from an empty ledger. -/
def ledger (binding : TelegramBotBinding) (staleAfterSeconds : Int) (known : Int → Bool) :
    System LedgerState LedgerStep where
  init s := s.rows = [] ∧ ∀ execution, s.executions execution = none
  step s label s' := s.Allows label ∧ s' = s.next binding staleAfterSeconds known label

/-- The executions with the histories of the updates. -/
def recordedLedger (binding : TelegramBotBinding) (staleAfterSeconds : Int) (known : Int → Bool) :
    System (LedgerState × UpdateHistory) LedgerStep :=
  (ledger binding staleAfterSeconds known).noting (fun _ => []) fun s step history updateId =>
    s.events binding staleAfterSeconds step updateId ++ history updateId

/-- A step of the recorded executions. -/
def nextHistory (binding : TelegramBotBinding) (staleAfterSeconds : Int) (known : Int → Bool)
    (s : LedgerState × UpdateHistory) (step : LedgerStep) : LedgerState × UpdateHistory :=
  (s.1.next binding staleAfterSeconds known step,
    fun updateId => s.1.events binding staleAfterSeconds step updateId ++ s.2 updateId)

/-! ## What a step of an execution can do -/

/-- Nobody may be admitted to the update of the row. -/
def TelegramUpdateRow.Taken (row : TelegramUpdateRow) (now staleAfterSeconds : Int) : Prop :=
  row.status = .completed ∨ row.InProgress now staleAfterSeconds

/-- The status an outcome is stored as. -/
def UpdateOutcome.status : UpdateOutcome → TelegramUpdateStatus
  | .completed => .completed
  | .failed => .failed

/-- The row of an update whose outcome is recorded. -/
def TelegramUpdateRow.recorded (row : TelegramUpdateRow) (outcome : UpdateOutcome) (clock : Int)
    (errorCode : Option String) : TelegramUpdateRow :=
  if row.status = .processing then
    { row with
      status := outcome.status, completedAt := some clock, lastErrorCode := errorCode }
  else row

/-- A completed update is not recorded again. -/
theorem TelegramUpdateRow.recorded_of_completed {row : TelegramUpdateRow}
    (hcompleted : row.status = .completed) (outcome : UpdateOutcome) (clock : Int)
    (errorCode : Option String) : row.recorded outcome clock errorCode = row := by
  rw [TelegramUpdateRow.recorded, if_neg]
  rw [hcompleted]
  exact nofun

namespace UpdateExecution

variable {binding : TelegramBotBinding} {staleAfterSeconds : Int} {known : Int → Bool}
  {exec exec' : UpdateExecution} {clock : Int} {rows rows' : List TelegramUpdateRow}
  {step : UpdateStep}

/-- A step admits the execution to its update, when the row lets it; or records an outcome,
on a row that is being processed; or leaves the rows alone. -/
inductive Effect (binding : TelegramBotBinding) (staleAfterSeconds : Int) (known : Int → Bool)
    (clock : Int) (exec : UpdateExecution) (rows : List TelegramUpdateRow) (step : UpdateStep)
    (rows' : List TelegramUpdateRow) (exec' : UpdateExecution) : Prop
  | admits (row : TelegramUpdateRow)
      (hobtains : exec.Obtains binding staleAfterSeconds clock rows step)
      (hopen : ∀ row ∈ updateRow? (exec.key binding) rows, ¬ row.Taken exec.now staleAfterSeconds)
      (hstatus : row.status = .processing) (hclaimed : row.claimedAt = exec.now)
      (hrows : ∀ other, updateRow? other rows' =
        if other = exec.key binding then some row else updateRow? other rows)
      (hentering : exec.phase = .arrived ∨ exec.phase = .conflicted)
      (hexec : exec' = exec.admitted known)
  | records (outcome : UpdateOutcome) (errorCode : Option String) (answer : UpdateAnswer)
      (hobtains : ¬ exec.Obtains binding staleAfterSeconds clock rows step)
      (houtcome : step.outcome? = some outcome)
      (hrows : ∀ other, updateRow? other rows' = (updateRow? other rows).map fun row =>
        if other = exec.key binding then row.recorded outcome clock errorCode else row)
      (hexec : exec' = { exec with phase := .ended (some answer) })
  | keeps (hobtains : ¬ exec.Obtains binding staleAfterSeconds clock rows step)
      (houtcome : step.outcome? = none)
      (hrows : ∀ other, updateRow? other rows' = updateRow? other rows)
      (hexec : exec'.updateId = exec.updateId ∧ exec'.now = exec.now)
      (hentering : exec.phase = .arrived ∨ exec.phase = .conflicted ∨
        exec'.phase ≠ .arrived ∧ exec'.phase ≠ .conflicted)

theorem updateRow?_recorded (key : TelegramUpdateKey) (outcome : UpdateOutcome) (clock : Int)
    (errorCode : Option String) (rows : List TelegramUpdateRow) (other : TelegramUpdateKey) :
    updateRow? other (finishUpdate key outcome.status clock errorCode rows) =
      (updateRow? other rows).map fun row =>
        if other = key then row.recorded outcome clock errorCode else row := by
  rw [updateRow?_finishUpdate]
  apply Option.map_congr
  intro row _
  simp only [TelegramUpdateRow.recorded, ite_and]

theorem effect_insert (hphase : exec.phase = .arrived) :
    Effect binding staleAfterSeconds known clock exec rows .insert
      (exec.take binding staleAfterSeconds known clock rows .insert).1
      (exec.take binding staleAfterSeconds known clock rows .insert).2 := by
  rw [take]
  split
  · next rows' hinsert =>
      obtain ⟨hnone, hrows⟩ := updateRow?_insertClaim hinsert
      apply Effect.admits (claimedRow (exec.key binding) exec.now clock)
      case hobtains =>
        rw [Obtains, hinsert]
        rfl
      case hopen =>
        intro row hrow
        rw [hnone] at hrow
        cases hrow
      case hstatus => rfl
      case hclaimed => rfl
      case hrows => exact hrows
      case hentering => exact .inl hphase
      case hexec => rfl
  · next hinsert =>
      apply Effect.keeps
      case hobtains =>
        rw [Obtains, hinsert]
        exact Bool.false_ne_true
      case houtcome => rfl
      case hrows => exact fun _ => rfl
      case hexec => exact ⟨rfl, rfl⟩
      case hentering => exact .inl hphase

theorem effect_lock (hphase : exec.phase = .conflicted) :
    Effect binding staleAfterSeconds known clock exec rows .lock
      (exec.take binding staleAfterSeconds known clock rows .lock).1
      (exec.take binding staleAfterSeconds known clock rows .lock).2 := by
  rw [take]
  split
  · next hlock =>
      apply Effect.keeps
      case hobtains =>
        rw [Obtains, hlock]
        rintro ⟨result, hresult, _⟩
        cases hresult
      case houtcome => rfl
      case hrows => exact fun _ => rfl
      case hexec => exact ⟨rfl, rfl⟩
      case hentering => exact .inr (.inl hphase)
  · next claim rows' hlock =>
      obtain ⟨row, hrow, hclaim, hrows⟩ := updateRow?_lockClaim hlock
      by_cases htaken : row.Taken exec.now staleAfterSeconds
      · -- A row that is taken is left as it is.
        have hsame : (row.claim exec.now staleAfterSeconds).2 = row ∧
            claim.result ≠ .retry ∧ claim.result ≠ .first := by
          rw [hclaim, TelegramUpdateRow.claim]
          split
          · exact ⟨rfl, by simp, by simp⟩
          · next hopen =>
              rw [if_pos (htaken.resolve_left hopen)]
              exact ⟨rfl, by simp, by simp⟩
        apply Effect.keeps
        case hobtains =>
          rw [Obtains, hlock]
          rintro ⟨result, hresult, hretry⟩
          cases hresult
          exact hsame.2.1 hretry
        case houtcome => rfl
        case hrows =>
          intro other
          rw [hrows, hsame.1]
          split
          · next hother => rw [hother, hrow]
          · rfl
        case hexec =>
          split <;> exact ⟨rfl, rfl⟩
        case hentering => exact .inr (.inl hphase)
      · have hretry : row.claim exec.now staleAfterSeconds =
            (⟨.retry, row.attempts + 1, exec.now⟩, row.retried exec.now) := by
          rw [TelegramUpdateRow.claim, if_neg fun hdone => htaken (.inl hdone),
            if_neg fun hprogress => htaken (.inr hprogress)]
        rw [hretry] at hclaim hrows
        apply Effect.admits (row.retried exec.now)
        case hobtains =>
          rw [Obtains, hlock]
          exact ⟨_, rfl, by rw [hclaim]⟩
        case hopen =>
          intro other hother
          rw [hrow] at hother
          cases hother
          exact htaken
        case hstatus => rfl
        case hclaimed => rfl
        case hrows => exact hrows
        case hentering => exact .inr hphase
        case hexec => rw [hclaim]

/-- What a step of an execution can do. -/
theorem effect (htakes : exec.Takes step) :
    Effect binding staleAfterSeconds known clock exec rows step
      (exec.take binding staleAfterSeconds known clock rows step).1
      (exec.take binding staleAfterSeconds known clock rows step).2 := by
  cases step with
  | insert => exact effect_insert htakes
  | lock => exact effect_lock htakes
  | succeed => exact .keeps id rfl (fun _ => rfl) ⟨rfl, rfl⟩ (.inr (.inr ⟨nofun, nofun⟩))
  | raise errorCode => exact .keeps id rfl (fun _ => rfl) ⟨rfl, rfl⟩ (.inr (.inr ⟨nofun, nofun⟩))
  | complete =>
      exact .records .completed none .processed id rfl
        (updateRow?_recorded (exec.key binding) .completed clock none rows) rfl
  | fail =>
      obtain ⟨errorCode, hphase⟩ := htakes
      have htake : exec.take binding staleAfterSeconds known clock rows .fail =
          (failUpdate (exec.key binding) clock errorCode rows,
            { exec with phase := .ended (some .unavailable) }) := by
        simp only [take, hphase]
      rw [htake]
      exact .records .failed (some (safeCode errorCode)) .unavailable id rfl
        (updateRow?_recorded (exec.key binding) .failed clock (some (safeCode errorCode)) rows) rfl
  | stop => exact .keeps id rfl (fun _ => rfl) ⟨rfl, rfl⟩ (.inr (.inr ⟨nofun, nofun⟩))

theorem admitted_phase : (exec.admitted known).phase = .handling ∨
    (exec.admitted known).phase = .completing := by
  rw [admitted]
  cases known exec.updateId with
  | true => exact .inl rfl
  | false => exact .inr rfl

/-- An execution keeps its update and its reading, and does not claim twice. -/
theorem Effect.moves
    (h : Effect binding staleAfterSeconds known clock exec rows step rows' exec') :
    exec'.updateId = exec.updateId ∧ exec'.now = exec.now ∧
      (exec.phase = .arrived ∨ exec.phase = .conflicted ∨
        exec'.phase ≠ .arrived ∧ exec'.phase ≠ .conflicted) := by
  cases h with
  | admits row _ _ _ _ _ hentering hexec =>
      rw [hexec]
      exact ⟨rfl, rfl, hentering.imp_right .inl⟩
  | records outcome errorCode answer _ _ _ hexec =>
      rw [hexec]
      exact ⟨rfl, rfl, .inr (.inr ⟨nofun, nofun⟩)⟩
  | keeps _ _ _ hexec hentering => exact ⟨hexec.1, hexec.2, hentering⟩

theorem Takes.running (htakes : exec.Takes step) : exec.Running := by
  intro answer hended
  cases step with
  | insert => cases htakes.symm.trans hended
  | lock => cases htakes.symm.trans hended
  | succeed => cases htakes.symm.trans hended
  | raise errorCode => cases htakes.symm.trans hended
  | complete => cases htakes.symm.trans hended
  | fail =>
      obtain ⟨errorCode, hfailing⟩ := htakes
      cases hfailing.symm.trans hended
  | stop => exact htakes answer hended

/-- A step of an execution leaves one row for each update. -/
theorem nodup_take (hunique : (rows.map (·.toTelegramUpdateKey)).Nodup) :
    ((exec.take binding staleAfterSeconds known clock rows step).1.map
      (·.toTelegramUpdateKey)).Nodup := by
  have hfinish : ∀ status errorCode, ((finishUpdate (exec.key binding) status clock errorCode
      rows).map (·.toTelegramUpdateKey)).Nodup := fun _ _ =>
    Table.nodup_update hunique fun _ => rfl
  cases step with
  | insert =>
      rw [take]
      split
      · next rows' hinsert =>
          rw [insertClaim] at hinsert
          split at hinsert
          · next hnone =>
              cases hinsert
              apply Table.nodup_append_row hunique
              intro row hrow hkey
              exact List.find?_eq_none.mp hnone row hrow (decide_eq_true hkey)
          · cases hinsert
      · exact hunique
  | lock =>
      rw [take]
      split
      · exact hunique
      · next claim rows' hlock =>
          obtain ⟨row, _, hclaim⟩ := Option.map_eq_some_iff.mp hlock
          cases hclaim
          exact Table.nodup_update hunique fun row => row.claim_key exec.now staleAfterSeconds
  | succeed => exact hunique
  | raise errorCode => exact hunique
  | complete => exact hfinish .completed none
  | fail =>
      rw [take]
      split
      · exact hfinish .failed _
      all_goals exact hunique
  | stop => exact hunique

end UpdateExecution

/-! ## What the histories say -/

/-- Where the lease of an update stands when its row has a status. -/
def TelegramUpdateStatus.phase : TelegramUpdateStatus → LeasePhase UpdateOutcome
  | .processing => .held
  | .completed => .ended .completed
  | .failed => .ended .failed

/-- The row of an update, or its absence, says where its lease stands. -/
def Tells (row : Option TelegramUpdateRow) (lease : Lease ℕ UpdateOutcome) : Prop :=
  match row with
  | none => lease.phase = .free
  | some row => lease.phase = row.status.phase ∧ ∃ who, lease.holder = some (who, row.claimedAt)

/-- Recording an outcome does to the row what it does to the lease. -/
theorem Tells.record {row : Option TelegramUpdateRow} {lease : Lease ℕ UpdateOutcome}
    (h : Tells row lease) (execution : ℕ) (outcome : UpdateOutcome) (clock : Int)
    (errorCode : Option String) :
    Tells (row.map fun row => row.recorded outcome clock errorCode)
      (lease.next (.report execution outcome)) := by
  cases row with
  | none =>
      have hfree : lease.phase = .free := h
      show (lease.next (.report execution outcome)).phase = .free
      rw [Lease.next, hfree]
      exact hfree
  | some row =>
      obtain ⟨hphase, who, hholder⟩ := h
      rw [Option.map_some, TelegramUpdateRow.recorded, Lease.next, hphase]
      cases hstatus : row.status with
      | processing =>
          cases outcome with
          | completed => exact ⟨rfl, who, hholder⟩
          | failed => exact ⟨rfl, who, hholder⟩
      | completed =>
          rw [if_neg (by simp)]
          exact ⟨hphase, who, hholder⟩
      | failed =>
          rw [if_neg (by simp)]
          exact ⟨hphase, who, hholder⟩

theorem updateKey_eq_key {binding : TelegramBotBinding} {exec : UpdateExecution} {updateId : Int} :
    updateKey binding updateId = exec.key binding ↔ exec.updateId = updateId := by
  rw [UpdateExecution.key, updateKey, updateKey, TelegramUpdateKey.mk.injEq]
  constructor
  · intro hkey
    exact hkey.2.2.symm
  · intro hid
    exact ⟨rfl, rfl, hid.symm⟩

/-- The rows, the executions and the histories agree. -/
structure Tracked (binding : TelegramBotBinding) (s : LedgerState) (history : UpdateHistory) :
    Prop where
  unique : (s.rows.map (·.toTelegramUpdateKey)).Nodup
  rows : ∀ updateId, Tells (s.row? binding updateId) (Lease.after (history updateId))
  admitted : ∀ updateId who time, .claim who time ∈ history updateId →
    ∃ exec ∈ s.executions who, exec.updateId = updateId ∧ exec.now = time ∧
      exec.phase ≠ .arrived ∧ exec.phase ≠ .conflicted
  reported : ∀ updateId who outcome, .report who outcome ∈ history updateId →
    ∃ exec ∈ s.executions who, exec.updateId = updateId ∧ ∃ answer, exec.phase = .ended answer
  readings : ∀ execution, ∀ exec ∈ s.executions execution, exec.now ≤ s.clock
  times : ∀ updateId, ∀ event ∈ history updateId, ∀ time ∈ event.time?, time ≤ s.clock

namespace Tracked

variable {binding : TelegramBotBinding} {staleAfterSeconds : Int} {known : Int → Bool}
  {s : LedgerState} {history : UpdateHistory}

/-- Where an execution moves on, what each execution has behind it stays behind it. -/
theorem exists_moved {execution : ℕ} {exec exec' : UpdateExecution}
    (hexec : s.executions execution = some exec) (hrunning : exec.Running)
    (hmoves : exec'.updateId = exec.updateId ∧ exec'.now = exec.now ∧
      (exec.phase = .arrived ∨ exec.phase = .conflicted ∨
        exec'.phase ≠ .arrived ∧ exec'.phase ≠ .conflicted))
    {who : ℕ} {old : UpdateExecution} (hold : old ∈ s.executions who) :
    ∃ new ∈ Function.update s.executions execution (some exec') who,
      new.updateId = old.updateId ∧ new.now = old.now ∧
        (old.phase ≠ .arrived ∧ old.phase ≠ .conflicted →
          new.phase ≠ .arrived ∧ new.phase ≠ .conflicted) ∧
        ∀ answer, old.phase = .ended answer → new.phase = .ended answer := by
  obtain ⟨hid, hnow, hentering⟩ := hmoves
  rw [Function.update_apply]
  split
  · next hwho =>
      rw [hwho, hexec] at hold
      cases hold
      refine ⟨exec', rfl, hid, hnow, ?_, fun answer hended => absurd hended (hrunning answer)⟩
      rintro ⟨harrived, hconflicted⟩
      exact (hentering.resolve_left harrived).resolve_left hconflicted
  · exact ⟨old, hold, rfl, rfl, fun hphase => hphase, fun _ hended => hended⟩

/-- An execution moves on, and what it did is noted in the history of its update. -/
theorem moves (h : Tracked binding s history) {execution : ℕ} {exec exec' : UpdateExecution}
    {rows' : List TelegramUpdateRow} {events : List (LeaseEvent ℕ UpdateOutcome)}
    (hexec : s.executions execution = some exec) (hrunning : exec.Running)
    (hmoves : exec'.updateId = exec.updateId ∧ exec'.now = exec.now ∧
      (exec.phase = .arrived ∨ exec.phase = .conflicted ∨
        exec'.phase ≠ .arrived ∧ exec'.phase ≠ .conflicted))
    (hunique : (rows'.map (·.toTelegramUpdateKey)).Nodup)
    (hrows : ∀ updateId, Tells (updateRow? (updateKey binding updateId) rows')
      (Lease.after ((if exec.updateId ≠ updateId then [] else events) ++ history updateId)))
    (hclaims : ∀ who time, .claim who time ∈ events → who = execution ∧ time = exec.now ∧
      exec'.phase ≠ .arrived ∧ exec'.phase ≠ .conflicted)
    (hreports : ∀ who outcome, .report who outcome ∈ events → who = execution ∧
      ∃ answer, exec'.phase = .ended answer)
    (htimes : ∀ event ∈ events, ∀ time ∈ event.time?, time ≤ s.clock) :
    Tracked binding
      { s with
        rows := rows', executions := Function.update s.executions execution (some exec') }
      (fun updateId => (if exec.updateId ≠ updateId then [] else events) ++ history updateId) := by
  have hnoted : ∀ updateId event,
      event ∈ (if exec.updateId ≠ updateId then [] else events) ++ history updateId →
        exec.updateId = updateId ∧ event ∈ events ∨ event ∈ history updateId := by
    intro updateId event hevent
    refine (List.mem_append.mp hevent).imp_left fun hnew => ?_
    by_cases hupdate : exec.updateId = updateId
    · rw [if_neg (not_not_intro hupdate)] at hnew
      exact ⟨hupdate, hnew⟩
    · rw [if_pos hupdate] at hnew
      cases hnew
  constructor
  case unique => exact hunique
  case rows => exact hrows
  case admitted =>
    intro updateId who time hclaim
    rcases hnoted updateId _ hclaim with ⟨hupdate, hnew⟩ | hbefore
    · obtain ⟨rfl, rfl, hphase⟩ := hclaims who time hnew
      exact ⟨exec', Function.update_self .., hmoves.1.trans hupdate, hmoves.2.1, hphase⟩
    · obtain ⟨old, hold, rfl, rfl, hphase⟩ := h.admitted updateId who time hbefore
      obtain ⟨new, hnew, hid, hnow, hkeeps, _⟩ := exists_moved hexec hrunning hmoves hold
      exact ⟨new, hnew, hid, hnow, hkeeps hphase⟩
  case reported =>
    intro updateId who outcome hreport
    rcases hnoted updateId _ hreport with ⟨hupdate, hnew⟩ | hbefore
    · obtain ⟨rfl, hended⟩ := hreports who outcome hnew
      exact ⟨exec', Function.update_self .., hmoves.1.trans hupdate, hended⟩
    · obtain ⟨old, hold, rfl, answer, hended⟩ := h.reported updateId who outcome hbefore
      obtain ⟨new, hnew, hid, _, _, hkeeps⟩ := exists_moved hexec hrunning hmoves hold
      exact ⟨new, hnew, hid, answer, hkeeps answer hended⟩
  case readings =>
    intro who new hnew
    simp only [Function.update_apply] at hnew
    split at hnew
    · cases hnew
      rw [hmoves.2.1]
      exact h.readings execution exec hexec
    · exact h.readings who new hnew
  case times =>
    intro updateId event hevent
    rcases hnoted updateId event hevent with ⟨_, hnew⟩ | hold
    · exact htimes event hnew
    · exact h.times updateId event hold

/-- The row of an admitted execution is being processed since its reading. -/
theorem tells_admitted (h : Tracked binding s history) {execution : ℕ} {exec : UpdateExecution}
    {row : TelegramUpdateRow} (hstatus : row.status = .processing) (hclaimed : row.claimedAt = exec.now)
    {rows' : List TelegramUpdateRow} (hrows : ∀ other, updateRow? other rows' =
      if other = exec.key binding then some row else updateRow? other s.rows) (updateId : Int) :
    Tells (updateRow? (updateKey binding updateId) rows')
      (Lease.after ((if exec.updateId ≠ updateId then [] else [.claim execution exec.now]) ++
        history updateId)) := by
  rw [hrows]
  by_cases hupdate : exec.updateId = updateId
  · rw [if_pos (updateKey_eq_key.mpr hupdate), if_neg (not_not_intro hupdate)]
    exact ⟨by rw [hstatus]; rfl, execution, by rw [hclaimed]; rfl⟩
  · rw [if_neg fun hkey => hupdate (updateKey_eq_key.mp hkey), if_pos hupdate]
    exact h.rows updateId

/-- A recorded outcome ends the lease of a row that is being processed. -/
theorem tells_recorded (h : Tracked binding s history) (execution : ℕ) {exec : UpdateExecution}
    {outcome : UpdateOutcome} {errorCode : Option String} {rows' : List TelegramUpdateRow}
    (hrows : ∀ other, updateRow? other rows' = (updateRow? other s.rows).map fun row =>
      if other = exec.key binding then row.recorded outcome s.clock errorCode else row)
    (updateId : Int) :
    Tells (updateRow? (updateKey binding updateId) rows')
      (Lease.after ((if exec.updateId ≠ updateId then [] else [.report execution outcome]) ++
        history updateId)) := by
  rw [hrows]
  by_cases hupdate : exec.updateId = updateId
  · simp only [if_pos (updateKey_eq_key.mpr hupdate), if_neg (not_not_intro hupdate)]
    exact (h.rows updateId).record execution outcome s.clock errorCode
  · simp only [if_neg fun hkey => hupdate (updateKey_eq_key.mp hkey), if_pos hupdate,
      Option.map_id']
    exact h.rows updateId

/-- An execution takes a step. -/
theorem of_effect (h : Tracked binding s history) {execution : ℕ} {step : UpdateStep}
    {exec exec' : UpdateExecution} {rows' : List TelegramUpdateRow}
    (hexec : s.executions execution = some exec) (hrunning : exec.Running)
    (heffect : exec.Effect binding staleAfterSeconds known s.clock s.rows step rows' exec')
    (hunique : (rows'.map (·.toTelegramUpdateKey)).Nodup) :
    Tracked binding
      { s with
        rows := rows', executions := Function.update s.executions execution (some exec') }
      (fun updateId =>
        (if exec.updateId ≠ updateId then []
          else if exec.Obtains binding staleAfterSeconds s.clock s.rows step then
            [.claim execution exec.now]
          else (step.outcome?.map (.report execution)).toList) ++ history updateId) := by
  have hmoves := heffect.moves
  cases heffect with
  | admits row hobtains hopen hstatus hclaimed hrows hentering hexec' =>
      simp only [if_pos hobtains]
      apply h.moves hexec hrunning hmoves hunique (h.tells_admitted hstatus hclaimed hrows)
      case hclaims =>
        intro who time hclaim
        cases List.mem_singleton.mp hclaim
        refine ⟨rfl, rfl, ?_⟩
        rw [hexec']
        rcases @UpdateExecution.admitted_phase known exec with hphase | hphase
        · rw [hphase]
          exact ⟨nofun, nofun⟩
        · rw [hphase]
          exact ⟨nofun, nofun⟩
      case hreports =>
        intro who outcome hreport
        cases List.mem_singleton.mp hreport
      case htimes =>
        intro event hevent time htime
        rw [List.mem_singleton.mp hevent] at htime
        cases htime
        exact h.readings execution exec hexec
  | records outcome errorCode answer hobtains houtcome hrows hexec' =>
      simp only [if_neg hobtains, houtcome]
      apply h.moves hexec hrunning hmoves hunique (h.tells_recorded execution hrows)
      case hclaims =>
        intro who time hclaim
        cases List.mem_singleton.mp hclaim
      case hreports =>
        intro who recorded hreport
        cases List.mem_singleton.mp hreport
        exact ⟨rfl, some answer, by rw [hexec']⟩
      case htimes =>
        intro event hevent time htime
        rw [List.mem_singleton.mp hevent] at htime
        cases htime
  | keeps hobtains houtcome hrows hexec' hentering =>
      simp only [if_neg hobtains, houtcome]
      apply h.moves hexec hrunning hmoves hunique
      case hrows =>
        intro updateId
        rw [hrows, Option.map_none, Option.toList_none, ite_self, List.nil_append]
        exact h.rows updateId
      case hclaims => exact fun _ _ habsurd => absurd habsurd List.not_mem_nil
      case hreports => exact fun _ _ habsurd => absurd habsurd List.not_mem_nil
      case htimes => exact fun _ habsurd => absurd habsurd List.not_mem_nil

theorem act (h : Tracked binding s history) {execution : ℕ} {step : UpdateStep}
    (hallows : s.Allows (.act execution step)) :
    Tracked binding (s.next binding staleAfterSeconds known (.act execution step))
      (fun updateId =>
        s.events binding staleAfterSeconds (.act execution step) updateId ++ history updateId) := by
  obtain ⟨exec, hmem, htakes⟩ := hallows
  have hexec : s.executions execution = some exec := hmem
  simp only [LedgerState.next, LedgerState.events, hexec]
  exact h.of_effect hexec htakes.running (UpdateExecution.effect htakes) (UpdateExecution.nodup_take h.unique)

theorem delete (h : Tracked binding s history) (before : Int) :
    Tracked binding (s.next binding staleAfterSeconds known (.delete before))
      (fun updateId =>
        s.events binding staleAfterSeconds (.delete before) updateId ++ history updateId) := by
  have hold : ∀ updateId, ∀ event ∈ s.events binding staleAfterSeconds (.delete before) updateId,
      event = .discard s.clock := by
    intro updateId event hevent
    simp only [LedgerState.events] at hevent
    split at hevent
    · cases hevent
    · split at hevent
      · exact List.mem_singleton.mp hevent
      · cases hevent
  constructor
  case unique => exact h.unique.sublist (List.filter_sublist.map _)
  case rows =>
    intro updateId
    have hrow : (s.next binding staleAfterSeconds known (.delete before)).row? binding updateId =
        (s.row? binding updateId).filter fun row => ¬ row.Expired before :=
      updateRow?_deleteCompletedBefore h.unique before (updateKey binding updateId)
    have htells := h.rows updateId
    rw [hrow]
    simp only [LedgerState.events]
    cases hstored : s.row? binding updateId with
    | none =>
        rw [hstored] at htells
        exact htells
    | some row =>
        rw [hstored] at htells
        by_cases hexpired : row.Expired before
        · simp only [hexpired, if_pos, Option.filter, not_true_eq_false, decide_false]
          rfl
        · simp only [hexpired, if_false, Option.filter, not_false_eq_true, decide_true]
          exact htells
  case admitted =>
    intro updateId who time hclaim
    rcases List.mem_append.mp hclaim with hnew | hclaim
    · cases hold updateId _ hnew
    · exact h.admitted updateId who time hclaim
  case reported =>
    intro updateId who outcome hreport
    rcases List.mem_append.mp hreport with hnew | hreport
    · cases hold updateId _ hnew
    · exact h.reported updateId who outcome hreport
  case readings => exact h.readings
  case times =>
    intro updateId event hevent time htime
    rcases List.mem_append.mp hevent with hnew | hevent
    · rw [hold updateId event hnew] at htime
      cases htime
      exact Int.le_refl s.clock
    · exact h.times updateId event hevent time htime

theorem tick (h : Tracked binding s history) {time : Int} (hallows : s.Allows (.tick time)) :
    Tracked binding (s.next binding staleAfterSeconds known (.tick time)) history where
  unique := h.unique
  rows := h.rows
  admitted := h.admitted
  reported := h.reported
  readings execution exec hexec := Int.le_trans (h.readings execution exec hexec) hallows
  times updateId event hevent before hbefore :=
    Int.le_trans (h.times updateId event hevent before hbefore) hallows

theorem deliver (h : Tracked binding s history) {execution : ℕ} {updateId : Int}
    (hallows : s.Allows (.deliver execution updateId)) :
    Tracked binding (s.next binding staleAfterSeconds known (.deliver execution updateId))
      history := by
  have hkept : ∀ who, ∀ exec ∈ s.executions who, exec ∈
      (s.next binding staleAfterSeconds known (.deliver execution updateId)).executions who := by
    intro who exec hexec
    have hother : who ≠ execution := by
      intro hwho
      have hnone : s.executions execution = none := hallows
      rw [hwho, hnone] at hexec
      cases hexec
    simp only [LedgerState.next, Function.update_of_ne hother]
    exact hexec
  constructor
  case unique => exact h.unique
  case rows => exact h.rows
  case admitted =>
    intro other who time hclaim
    obtain ⟨exec, hexec, hphase⟩ := h.admitted other who time hclaim
    exact ⟨exec, hkept who exec hexec, hphase⟩
  case reported =>
    intro other who outcome hreport
    obtain ⟨exec, hexec, hphase⟩ := h.reported other who outcome hreport
    exact ⟨exec, hkept who exec hexec, hphase⟩
  case readings =>
    intro who exec hexec
    simp only [LedgerState.next, Function.update_apply] at hexec
    split at hexec
    · cases hexec
      exact Int.le_refl s.clock
    · exact h.readings who exec hexec
  case times => exact h.times

theorem next (h : Tracked binding s history) {step : LedgerStep} (hallows : s.Allows step) :
    Tracked binding (s.next binding staleAfterSeconds known step)
      (fun updateId => s.events binding staleAfterSeconds step updateId ++ history updateId) := by
  cases step with
  | tick time => exact h.tick hallows
  | deliver execution updateId => exact h.deliver hallows
  | act execution step => exact h.act hallows
  | delete before => exact h.delete before

end Tracked

/-- Whatever the executions do, the histories are what the rows tell. -/
theorem tracked_of_reachable {binding : TelegramBotBinding} {staleAfterSeconds : Int}
    {known : Int → Bool} {s : LedgerState} {history : UpdateHistory}
    (hs : (recordedLedger binding staleAfterSeconds known).Reachable (s, history)) :
    Tracked binding s history := by
  refine hs.invariant (I := fun s => Tracked binding s.1 s.2) ?_ ?_
  · rintro ⟨s, history⟩ ⟨⟨hrows, hidle⟩, hhistory⟩
    cases hhistory
    constructor
    case unique => rw [hrows]; exact List.nodup_nil
    case rows => intro updateId; rw [LedgerState.row?, hrows]; rfl
    case admitted => intro _ _ _ hclaim; cases hclaim
    case reported => intro _ _ _ hreport; cases hreport
    case readings => intro execution exec hexec; rw [hidle execution] at hexec; cases hexec
    case times => intro _ _ hevent; cases hevent
  · rintro ⟨s, history⟩ step ⟨s', history'⟩ _ htracked ⟨⟨hallows, rfl⟩, rfl⟩
    exact htracked.next hallows

/-! ## A bot -/

namespace Doorman

def binding : TelegramBotBinding where
  botId := 7
  tenantId := 1#128
  botIdPositive := by decide

/-- The ledger is empty, and it is time nought. -/
def start : LedgerState × UpdateHistory :=
  ({ rows := [], clock := 0, executions := fun _ => none }, fun _ => [])

/-- What the steps lead to with a lease of a minute, for updates of known types. -/
def after (steps : List LedgerStep) : LedgerState × UpdateHistory :=
  steps.foldl (nextHistory binding 60 fun _ => true) start

/-- An execution for update 5 starts, and its insert is made. -/
def arrives (execution : ℕ) : List LedgerStep :=
  [.deliver execution 5, .act execution .insert]

/-- Steps that can be taken and meet a condition lead to a reachable state. -/
theorem reachable (condition : LedgerState × UpdateHistory → LedgerStep → Prop)
    (steps : List LedgerStep)
    (hfollows : System.Follows (fun s step => condition s step ∧ s.1.Allows step)
      (nextHistory binding 60 fun _ => true) start steps) :
    ((recordedLedger binding 60 fun _ => true).restrict condition).Reachable (after steps) := by
  have hstart : ((recordedLedger binding 60 fun _ => true).restrict condition).Reachable start :=
    .init ⟨⟨rfl, fun _ => rfl⟩, rfl⟩
  have hstep : ∀ s step, condition s step ∧ s.1.Allows step →
      ((recordedLedger binding 60 fun _ => true).restrict condition).step s step
        (nextHistory binding 60 (fun _ => true) s step) :=
    fun s step hallowed => ⟨hallowed.1, ⟨hallowed.2, rfl⟩, rfl⟩
  exact System.Reachable.of_follows hstep hstart hfollows

end Doorman

end BusinessAssistant.Persistence
