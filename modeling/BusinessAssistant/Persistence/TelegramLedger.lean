/-
# The ledger of Telegram updates

The statements of `SQLAlchemyTelegramUpdateStore`, one row for each update of a bot.
Claiming is two of them: an insert, and where the update has a row already, a locking
read of it and what follows from its status. The other two writes match a row by its
update and by being processed; which execution is processing it is not asked.
-/

import BusinessAssistant.Application.Telegram
import BusinessAssistant.Domain.Time
import BusinessAssistant.Foundation.Table

namespace BusinessAssistant.Persistence

open BusinessAssistant.Domain BusinessAssistant.Application BusinessAssistant.Foundation

inductive TelegramUpdateStatus
  | processing
  | completed
  | failed
  deriving DecidableEq, Repr

/-- What `telegram_updates` is unique by. -/
structure TelegramUpdateKey where
  tenantId : TenantId
  botId : Int
  updateId : Int
  deriving DecidableEq

structure TelegramUpdateRow extends TelegramUpdateKey where
  status : TelegramUpdateStatus
  attempts : Nat
  claimedAt : Int
  completedAt : Option Int
  lastErrorCode : Option String
  createdAt : Int
  deriving DecidableEq

/-- The key of the update of a bot. -/
def updateKey (binding : TelegramBotBinding) (updateId : Int) : TelegramUpdateKey where
  tenantId := binding.tenantId
  botId := binding.botId
  updateId := updateId

/-- The row of an update. -/
def updateRow? (key : TelegramUpdateKey) (rows : List TelegramUpdateRow) :
    Option TelegramUpdateRow :=
  rows.find? fun row => row.toTelegramUpdateKey = key

/-! ## Claiming -/

/-- The row `claim` inserts. -/
def claimedRow (key : TelegramUpdateKey) (now created : Int) : TelegramUpdateRow where
  toTelegramUpdateKey := key
  status := .processing
  attempts := 1
  claimedAt := now
  completedAt := none
  lastErrorCode := none
  createdAt := created

/-- The first statement of `claim`: an insert that does nothing where the update has a row. -/
def insertClaim (key : TelegramUpdateKey) (now created : Int) (rows : List TelegramUpdateRow) :
    Option (List TelegramUpdateRow) :=
  match updateRow? key rows with
  | none => some (rows ++ [claimedRow key now created])
  | some _ => none

namespace TelegramUpdateRow

variable (row : TelegramUpdateRow)

/-- Somebody is taken to be processing the update. -/
def InProgress (now staleAfterSeconds : Int) : Prop :=
  row.status = .processing ∧ now - seconds staleAfterSeconds < row.claimedAt

instance (now staleAfterSeconds : Int) : Decidable (row.InProgress now staleAfterSeconds) :=
  inferInstanceAs (Decidable (_ ∧ _))

/-- The row of an update that is tried again. -/
def retried (now : Int) : TelegramUpdateRow :=
  { row with
    status := .processing, attempts := row.attempts + 1, claimedAt := now, completedAt := none
    lastErrorCode := none }

/-- The rest of `claim`, on the row it has locked. -/
def claim (now staleAfterSeconds : Int) : TelegramUpdateClaim × TelegramUpdateRow :=
  if row.status = .completed then (⟨.duplicate, row.attempts, row.claimedAt⟩, row)
  else if row.InProgress now staleAfterSeconds then
    (⟨.inProgress, row.attempts, row.claimedAt⟩, row)
  else (⟨.retry, row.attempts + 1, now⟩, row.retried now)

end TelegramUpdateRow

/-- The second statement of `claim` and what follows it. There is no claim if the row has
disappeared since the first. -/
def lockClaim (key : TelegramUpdateKey) (now staleAfterSeconds : Int)
    (rows : List TelegramUpdateRow) : Option (TelegramUpdateClaim × List TelegramUpdateRow) :=
  (updateRow? key rows).map fun row =>
    ((row.claim now staleAfterSeconds).1,
      Table.update (·.toTelegramUpdateKey = key) (fun row => (row.claim now staleAfterSeconds).2) rows)

/-! ## Finishing -/

/-- An update of the row of an update that is being processed. -/
def finishUpdate (key : TelegramUpdateKey) (status : TelegramUpdateStatus) (now : Int)
    (errorCode : Option String) (rows : List TelegramUpdateRow) : List TelegramUpdateRow :=
  Table.update (fun row => row.toTelegramUpdateKey = key ∧ row.status = .processing)
    (fun row => { row with status := status, completedAt := some now, lastErrorCode := errorCode })
    rows

/-- `complete` -/
def completeUpdate (key : TelegramUpdateKey) (now : Int) : List TelegramUpdateRow →
    List TelegramUpdateRow :=
  finishUpdate key .completed now none

/-- The code `fail` stores. -/
def safeCode (errorCode : String) : String :=
  if errorCode.toList.all (·.val < 128) ∧ errorCode.length ≤ 64 then errorCode
  else "internal.error"

/-- `fail` -/
def failUpdate (key : TelegramUpdateKey) (now : Int) (errorCode : String) :
    List TelegramUpdateRow → List TelegramUpdateRow :=
  finishUpdate key .failed now (some (safeCode errorCode))

/-- The rows `delete_completed_before` deletes. -/
def TelegramUpdateRow.Expired (row : TelegramUpdateRow) (before : Int) : Prop :=
  row.status ≠ .processing ∧ row.createdAt < before

instance (row : TelegramUpdateRow) (before : Int) : Decidable (row.Expired before) :=
  inferInstanceAs (Decidable (_ ∧ _))

/-- `delete_completed_before` -/
def deleteCompletedBefore (before : Int) (rows : List TelegramUpdateRow) :
    List TelegramUpdateRow :=
  rows.filter fun row => ¬ row.Expired before

/-! ## What the statements do to the rows -/

section Rows

variable {key other : TelegramUpdateKey} {rows rows' : List TelegramUpdateRow}

@[simp]
theorem TelegramUpdateRow.claim_key (row : TelegramUpdateRow) (now staleAfterSeconds : Int) :
    (row.claim now staleAfterSeconds).2.toTelegramUpdateKey = row.toTelegramUpdateKey := by
  rw [TelegramUpdateRow.claim]
  split
  · rfl
  · split <;> rfl

theorem key_of_updateRow? {row : TelegramUpdateRow} (hrow : updateRow? key rows = some row) :
    row.toTelegramUpdateKey = key :=
  (Table.of_find? hrow).2

/-- An insert that goes through is the first of its update. -/
theorem updateRow?_insertClaim {now created : Int}
    (hinsert : insertClaim key now created rows = some rows') :
    updateRow? key rows = none ∧ ∀ other, updateRow? other rows' =
      if other = key then some (claimedRow key now created) else updateRow? other rows := by
  rw [insertClaim] at hinsert
  split at hinsert
  · next hnone =>
      cases hinsert
      have hfree : rows.find? (fun row => row.toTelegramUpdateKey =
          (claimedRow key now created).toTelegramUpdateKey) = none := hnone
      exact ⟨hnone, Table.find?_append_key hfree⟩
  · cases hinsert

/-- Claiming a locked row rewrites that row. -/
theorem updateRow?_lockClaim {now staleAfterSeconds : Int} {claim : TelegramUpdateClaim}
    (hlock : lockClaim key now staleAfterSeconds rows = some (claim, rows')) :
    ∃ row, updateRow? key rows = some row ∧ claim = (row.claim now staleAfterSeconds).1 ∧
      ∀ other, updateRow? other rows' =
        if other = key then some (row.claim now staleAfterSeconds).2
        else updateRow? other rows := by
  obtain ⟨row, hrow, hclaim⟩ := Option.map_eq_some_iff.mp hlock
  cases hclaim
  refine ⟨row, hrow, rfl, fun other => ?_⟩
  rw [updateRow?, Table.find?_update_key fun row => row.claim_key now staleAfterSeconds]
  split
  · next hother =>
      have hfound : rows.find? (fun row => row.toTelegramUpdateKey = other) = some row := by
        rw [hother]
        exact hrow
      rw [hfound, Option.map_some, if_pos (key_of_updateRow? hrow)]
  · next hother =>
      rw [updateRow?, Option.map_congr, Option.map_id']
      intro found hfound
      rw [if_neg]
      rw [key_of_updateRow? hfound]
      exact hother

/-- Finishing rewrites the row of its update, if it is being processed. -/
theorem updateRow?_finishUpdate (key : TelegramUpdateKey) (status : TelegramUpdateStatus) (now : Int)
    (errorCode : Option String) (rows : List TelegramUpdateRow) (other : TelegramUpdateKey) :
    updateRow? other (finishUpdate key status now errorCode rows) =
      (updateRow? other rows).map fun row =>
        if other = key ∧ row.status = .processing then
          { row with status := status, completedAt := some now, lastErrorCode := errorCode }
        else row := by
  refine (Table.find?_update_key (fun _ => ?_) other).trans ?_
  · rfl
  · apply Option.map_congr
    intro found hfound
    rw [key_of_updateRow? hfound]

/-- A deletion keeps the rows that have not expired. -/
theorem updateRow?_deleteCompletedBefore
    (hunique : (rows.map (·.toTelegramUpdateKey)).Nodup) (before : Int)
    (other : TelegramUpdateKey) :
    updateRow? other (deleteCompletedBefore before rows) =
      (updateRow? other rows).filter fun row => ¬ row.Expired before :=
  Table.find?_filter_key hunique _ other

end Rows

end BusinessAssistant.Persistence
