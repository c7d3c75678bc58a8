/-
# What an acknowledgement is worth

Telegram delivers an update until one delivery of it is answered 200, and not again. An
execution that finds the update being processed answers 200 at once, for another that can
still fail; and one that completes an update which was recorded as failed meanwhile answers
200 without leaving a trace. In the runs where neither goes wrong an acknowledged update is
completed as soon as nobody works on it.
-/

import BusinessAssistant.Persistence.UpdateLeases

namespace BusinessAssistant.Persistence

open BusinessAssistant.Domain BusinessAssistant.Application BusinessAssistant.Foundation

/-! ## Deliveries and answers -/

namespace LedgerState

variable (binding : TelegramBotBinding) (s : LedgerState) (history : UpdateHistory) (updateId : Int)

/-- A delivery of the update has been answered 200. -/
def Acknowledged : Prop :=
  ∃ execution, ∃ exec ∈ s.executions execution, exec.updateId = updateId ∧
    ∃ answer : UpdateAnswer, exec.phase = .ended (some answer) ∧ answer.code = 200

/-- No execution for the update is running. -/
def Idle : Prop :=
  ∀ execution, ∀ exec ∈ s.executions execution, exec.updateId = updateId → ¬ exec.Running

/-- A handler for the update has returned without an error. -/
def Handled : Prop :=
  ∃ execution, ∃ exec ∈ s.executions execution, exec.updateId = updateId ∧ exec.handled = true

/-- The ledger holds the update to be processed. -/
def Processing : Prop := ∃ row ∈ s.row? binding updateId, row.status = .processing

/-- The execution that was admitted last is running. -/
def HolderRuns : Prop :=
  ∃ holder ∈ (Lease.after (history updateId)).holder, ∃ exec ∈ s.executions holder.1, exec.Running

end LedgerState

/-- The sender delivers an update until it is acknowledged; and no row is deleted. -/
def Delivers (s : LedgerState × UpdateHistory) : LedgerStep → Prop
  | .deliver _ updateId => ¬ s.1.Acknowledged updateId
  | .delete _ => False
  | .tick _ | .act _ _ => True

/-- A step that keeps what answers promise, in a ledger no row is deleted from: "in progress"
is answered only while the execution admitted last is running; no execution completes an
update that is recorded as failed; and as long as an acknowledged update is being processed,
no failure is recorded and the execution admitted last does not stop. -/
def KeepsPromises (binding : TelegramBotBinding) (staleAfterSeconds : Int)
    (s : LedgerState × UpdateHistory) : LedgerStep → Prop
  | .tick _ | .deliver _ _ => True
  | .delete _ => False
  | .act execution step => ∀ exec ∈ s.1.executions execution,
      match step with
      | .insert | .succeed | .raise _ => True
      | .lock => ∀ row ∈ s.1.row? binding exec.updateId,
          row.InProgress exec.now staleAfterSeconds → s.1.HolderRuns s.2 exec.updateId
      | .complete => ∀ row ∈ s.1.row? binding exec.updateId, row.status ≠ .failed
      | .fail => s.1.Acknowledged exec.updateId → ¬ s.1.Processing binding exec.updateId
      | .stop => s.1.Acknowledged exec.updateId → s.1.Processing binding exec.updateId →
          (Lease.after (s.2 exec.updateId)).holder.map Prod.fst ≠ some execution

/-! ## The invariant -/

/-- What acknowledgements are worth along a run. -/
structure Promised (binding : TelegramBotBinding) (known : Int → Bool) (s : LedgerState)
    (history : UpdateHistory) : Prop where
  completing : ∀ execution, ∀ exec ∈ s.executions execution, exec.phase = .completing →
    known exec.updateId = true → exec.handled = true
  stored : ∀ execution, ∀ exec ∈ s.executions execution, exec.Running → exec.phase ≠ .arrived →
    (s.row? binding exec.updateId).isSome
  completed : ∀ updateId, known updateId = true → s.Completed binding updateId →
    s.Handled updateId
  acknowledged : ∀ updateId, s.Acknowledged updateId →
    s.Completed binding updateId ∨ s.Processing binding updateId ∧ s.HolderRuns history updateId

section Steps

variable {binding : TelegramBotBinding} {staleAfterSeconds : Int} {known : Int → Bool}
  {s : LedgerState} {history : UpdateHistory} {execution : ℕ} {exec exec' : UpdateExecution}

/-- The state after an execution has moved on. -/
def LedgerState.moved (s : LedgerState) (execution : ℕ) (exec' : UpdateExecution)
    (rows' : List TelegramUpdateRow) : LedgerState :=
  { s with rows := rows', executions := Function.update s.executions execution (some exec') }

theorem LedgerState.mem_moved {rows' : List TelegramUpdateRow} {who : ℕ} {other : UpdateExecution} :
    other ∈ (s.moved execution exec' rows').executions who ↔
      who = execution ∧ other = exec' ∨ who ≠ execution ∧ other ∈ s.executions who := by
  simp only [LedgerState.moved, Function.update_apply, Option.mem_def]
  by_cases hwho : who = execution
  · simp [hwho, eq_comm]
  · simp [hwho]

/-- The latest claimant of an update is past its claim. -/
theorem Tracked.holder (h : Tracked binding s history) {updateId : Int} {holder : ℕ × Int}
    (hholder : (Lease.after (history updateId)).holder = some holder) :
    ∃ exec ∈ s.executions holder.1, exec.updateId = updateId ∧ exec.phase ≠ .arrived ∧
      exec.phase ≠ .conflicted := by
  obtain ⟨exec, hexec, hid, _, hphase⟩ :=
    h.admitted updateId holder.1 holder.2 (Lease.claim_of_holder hholder)
  exact ⟨exec, hexec, hid, hphase⟩

/-- A step of an execution bears on its own update only. -/
theorem Promised.of_moved (h : Promised binding known s history) (htracked : Tracked binding s history)
    (hexec : s.executions execution = some exec) (hid : exec'.updateId = exec.updateId)
    {rows' : List TelegramUpdateRow} {history' : UpdateHistory}
    (hrows : ∀ updateId, exec.updateId ≠ updateId →
      updateRow? (updateKey binding updateId) rows' = s.row? binding updateId)
    (hhistory : ∀ updateId, exec.updateId ≠ updateId → history' updateId = history updateId)
    (hcompleting : exec'.phase = .completing → known exec.updateId = true → exec'.handled = true)
    (hstays : (s.row? binding exec.updateId).isSome →
      (updateRow? (updateKey binding exec.updateId) rows').isSome)
    (hstored : exec'.Running → exec'.phase ≠ .arrived →
      (updateRow? (updateKey binding exec.updateId) rows').isSome)
    (hcompleted : known exec.updateId = true →
      (s.moved execution exec' rows').Completed binding exec.updateId →
        (s.moved execution exec' rows').Handled exec.updateId)
    (hacknowledged : (s.moved execution exec' rows').Acknowledged exec.updateId →
      (s.moved execution exec' rows').Completed binding exec.updateId ∨
        (s.moved execution exec' rows').Processing binding exec.updateId ∧
          (s.moved execution exec' rows').HolderRuns history' exec.updateId) :
    Promised binding known (s.moved execution exec' rows') history' := by
  -- An execution for another update is not the one that has moved.
  have hother : ∀ updateId, exec.updateId ≠ updateId → ∀ who, ∀ other : UpdateExecution,
      other.updateId = updateId →
        (other ∈ (s.moved execution exec' rows').executions who ↔ other ∈ s.executions who) := by
    intro updateId hne who other hupdate
    rw [LedgerState.mem_moved]
    constructor
    · rintro (⟨_, rfl⟩ | ⟨_, hmem⟩)
      · exact absurd (hid.symm.trans hupdate) hne
      · exact hmem
    · intro hmem
      refine .inr ⟨fun hwho => ?_, hmem⟩
      rw [hwho, Option.mem_def, hexec] at hmem
      cases hmem
      exact hne hupdate
  constructor
  case completing =>
    intro who other hmem hphase hknown
    rcases LedgerState.mem_moved.mp hmem with ⟨_, rfl⟩ | ⟨_, hmem⟩
    · exact hcompleting hphase (hid ▸ hknown)
    · exact h.completing who other hmem hphase hknown
  case stored =>
    intro who other hmem hrunning hphase
    show (updateRow? (updateKey binding other.updateId) rows').isSome
    rcases LedgerState.mem_moved.mp hmem with ⟨_, rfl⟩ | ⟨_, hmem⟩
    · rw [hid]
      exact hstored hrunning hphase
    · have hsome := h.stored who other hmem hrunning hphase
      by_cases hsame : exec.updateId = other.updateId
      · rw [← hsame] at hsome ⊢
        exact hstays hsome
      · rw [hrows _ hsame]
        exact hsome
  case completed =>
    intro updateId hknown hdone
    by_cases hsame : exec.updateId = updateId
    · rw [← hsame] at hknown hdone ⊢
      exact hcompleted hknown hdone
    · obtain ⟨row, hrow, hstatus⟩ := hdone
      have hrow' : s.row? binding updateId = some row := (hrows updateId hsame).symm.trans hrow
      obtain ⟨who, other, hmem, hupdate, hhandled⟩ := h.completed updateId hknown ⟨row, hrow', hstatus⟩
      exact ⟨who, other, (hother updateId hsame who other hupdate).mpr hmem, hupdate, hhandled⟩
  case acknowledged =>
    intro updateId hack
    by_cases hsame : exec.updateId = updateId
    · rw [← hsame] at hack ⊢
      exact hacknowledged hack
    · obtain ⟨who, other, hmem, hupdate, hanswer⟩ := hack
      have hold : s.Acknowledged updateId :=
        ⟨who, other, (hother updateId hsame who other hupdate).mp hmem, hupdate, hanswer⟩
      have hrow : (s.moved execution exec' rows').row? binding updateId = s.row? binding updateId :=
        hrows updateId hsame
      rcases h.acknowledged updateId hold with ⟨row, hmem, hstatus⟩ | ⟨⟨row, hmem, hstatus⟩, hruns⟩
      · exact .inl ⟨row, hrow ▸ hmem, hstatus⟩
      · refine .inr ⟨⟨row, hrow ▸ hmem, hstatus⟩, ?_⟩
        obtain ⟨holder, hholder, last, hlast, hrunning⟩ := hruns
        obtain ⟨last', hlast', hlastId, _⟩ := htracked.holder hholder
        rw [Option.mem_def, hlast] at hlast'
        cases hlast'
        refine ⟨holder, ?_, last, (hother updateId hsame _ last hlastId).mpr hlast, hrunning⟩
        rw [hhistory updateId hsame]
        exact hholder

theorem acknowledged_moved (hid : exec'.updateId = exec.updateId)
    {rows' : List TelegramUpdateRow}
    (hack : (s.moved execution exec' rows').Acknowledged exec.updateId) :
    s.Acknowledged exec.updateId ∨
      ∃ answer : UpdateAnswer, exec'.phase = .ended (some answer) ∧ answer.code = 200 := by
  obtain ⟨who, other, hmem, hupdate, hanswer⟩ := hack
  rcases LedgerState.mem_moved.mp hmem with ⟨_, rfl⟩ | ⟨_, hmem⟩
  · exact .inr hanswer
  · exact .inl ⟨who, other, hmem, hupdate, hanswer⟩

theorem handled_moved (hexec : s.executions execution = some exec)
    (hid : exec'.updateId = exec.updateId)
    (hhandled : exec.handled = true → exec'.handled = true) {rows' : List TelegramUpdateRow}
    {updateId : Int} (h : s.Handled updateId) :
    (s.moved execution exec' rows').Handled updateId := by
  obtain ⟨who, other, hmem, hupdate, hdone⟩ := h
  by_cases hwho : who = execution
  · rw [hwho, Option.mem_def, hexec] at hmem
    cases hmem
    exact ⟨execution, exec', LedgerState.mem_moved.mpr (.inl ⟨rfl, rfl⟩), hid.trans hupdate,
      hhandled hdone⟩
  · exact ⟨who, other, LedgerState.mem_moved.mpr (.inr ⟨hwho, hmem⟩), hupdate, hdone⟩

/-- An execution that does not touch the rows keeps the promises, if it answers 200 only with
reason and does not stop while an acknowledged update rests on it. -/
theorem Promised.keeps (h : Promised binding known s history) (htracked : Tracked binding s history)
    (hexec : s.executions execution = some exec) (hid : exec'.updateId = exec.updateId)
    {rows' : List TelegramUpdateRow}
    (hrows : ∀ other, updateRow? other rows' = updateRow? other s.rows)
    (hhandled : exec.handled = true → exec'.handled = true)
    (hcompleting : exec'.phase = .completing → known exec.updateId = true → exec'.handled = true)
    (hstored : exec'.Running → exec'.phase ≠ .arrived → (s.row? binding exec.updateId).isSome)
    (hanswer : ∀ answer : UpdateAnswer, exec'.phase = .ended (some answer) → answer.code = 200 →
      s.Completed binding exec.updateId ∨
        s.Processing binding exec.updateId ∧ s.HolderRuns history exec.updateId)
    (hholder : s.Acknowledged exec.updateId ∨ ¬ exec'.phase = .ended none →
      s.Processing binding exec.updateId →
        (Lease.after (history exec.updateId)).holder.map Prod.fst = some execution →
          exec'.Running) :
    Promised binding known (s.moved execution exec' rows') history := by
  have hrow : ∀ updateId,
      (s.moved execution exec' rows').row? binding updateId = s.row? binding updateId :=
    fun updateId => hrows (updateKey binding updateId)
  have hruns : s.Acknowledged exec.updateId ∨ ¬ exec'.phase = .ended none →
      s.Processing binding exec.updateId → s.HolderRuns history exec.updateId →
        (s.moved execution exec' rows').HolderRuns history exec.updateId := by
    rintro hreason hprocessing ⟨holder, hlast, other, hother, hrunning⟩
    by_cases hwho : holder.1 = execution
    · have hmine : (Lease.after (history exec.updateId)).holder.map Prod.fst = some execution := by
        rw [Option.mem_def.mp hlast, Option.map_some, hwho]
      exact ⟨holder, hlast, exec', LedgerState.mem_moved.mpr (.inl ⟨hwho, rfl⟩),
        hholder hreason hprocessing hmine⟩
    · exact ⟨holder, hlast, other, LedgerState.mem_moved.mpr (.inr ⟨hwho, hother⟩), hrunning⟩
  apply h.of_moved htracked hexec hid (fun updateId _ => hrows (updateKey binding updateId))
    (fun _ _ => rfl) hcompleting
  case hstays =>
    intro hsome
    rw [hrows]
    exact hsome
  case hstored =>
    intro hrunning hphase
    rw [hrows]
    exact hstored hrunning hphase
  case hcompleted =>
    rintro hknown ⟨row, hmem, hstatus⟩
    rw [hrow] at hmem
    exact handled_moved hexec hid hhandled (h.completed _ hknown ⟨row, hmem, hstatus⟩)
  case hacknowledged =>
    intro hack
    have hbefore : (s.Acknowledged exec.updateId ∨ ¬ exec'.phase = .ended none) ∧
        (s.Completed binding exec.updateId ∨
          s.Processing binding exec.updateId ∧ s.HolderRuns history exec.updateId) := by
      rcases acknowledged_moved hid hack with hold | ⟨answer, hended, hcode⟩
      · exact ⟨.inl hold, h.acknowledged _ hold⟩
      · refine ⟨.inr fun hnone => ?_, hanswer answer hended hcode⟩
        rw [hended] at hnone
        cases hnone
    rcases hbefore.2 with ⟨row, hmem, hstatus⟩ | ⟨⟨row, hmem, hstatus⟩, hrunning⟩
    · exact .inl ⟨row, (hrow _).symm ▸ hmem, hstatus⟩
    · exact .inr ⟨⟨row, (hrow _).symm ▸ hmem, hstatus⟩,
        hruns hbefore.1 ⟨row, hmem, hstatus⟩ hrunning⟩

/-- An execution that is admitted takes the update on. -/
theorem Promised.admits (h : Promised binding known s history) (htracked : Tracked binding s history)
    (hexec : s.executions execution = some exec) {rows' : List TelegramUpdateRow}
    {row : TelegramUpdateRow} (hstatus : row.status = .processing)
    (hrows : ∀ other, updateRow? other rows' =
      if other = exec.key binding then some row else updateRow? other s.rows)
    {history' : UpdateHistory}
    (hhistory : ∀ updateId, history' updateId =
      if exec.updateId ≠ updateId then history updateId
      else .claim execution exec.now :: history updateId) :
    Promised binding known (s.moved execution (exec.admitted known) rows') history' := by
  have hrow : updateRow? (updateKey binding exec.updateId) rows' = some row := by
    rw [hrows]
    exact if_pos rfl
  have hphase := @UpdateExecution.admitted_phase known exec
  have hrunning : (exec.admitted known).Running := by
    intro answer hended
    rcases hphase with hphase | hphase
    · cases hphase.symm.trans hended
    · cases hphase.symm.trans hended
  apply h.of_moved htracked hexec
  case hid => rfl
  case hrows =>
    intro updateId hother
    rw [hrows, if_neg fun hkey => hother (updateKey_eq_key.mp hkey)]
    rfl
  case hhistory =>
    intro updateId hother
    rw [hhistory, if_pos hother]
  case hcompleting =>
    intro hcompleting hknown
    rw [UpdateExecution.admitted, hknown] at hcompleting
    cases hcompleting
  case hstays =>
    intro _
    rw [hrow]
    rfl
  case hstored =>
    intro _ _
    rw [hrow]
    rfl
  case hcompleted =>
    rintro _ ⟨other, hmem, hcompleted⟩
    cases hrow.symm.trans hmem
    rw [hstatus] at hcompleted
    cases hcompleted
  case hacknowledged =>
    intro _
    refine .inr ⟨⟨row, hrow, hstatus⟩, (execution, exec.now), ?_, exec.admitted known,
      LedgerState.mem_moved.mpr (.inl ⟨rfl, rfl⟩), hrunning⟩
    rw [hhistory, if_neg (not_not_intro rfl)]
    rfl

/-- An execution that completes its update answers for it. -/
theorem Promised.completes (h : Promised binding known s history)
    (htracked : Tracked binding s history) (hexec : s.executions execution = some exec)
    (hphase : exec.phase = .completing) (hopen : ∀ row ∈ s.row? binding exec.updateId,
      row.status ≠ .failed) {history' : UpdateHistory}
    (hhistory : ∀ updateId, exec.updateId ≠ updateId → history' updateId = history updateId) :
    Promised binding known
      (s.moved execution { exec with phase := .ended (some .processed) }
        (completeUpdate (exec.key binding) s.clock s.rows)) history' := by
  have hrows := UpdateExecution.updateRow?_recorded (exec.key binding) .completed s.clock none s.rows
  have hrunning : exec.Running := by
    intro answer hended
    cases hphase.symm.trans hended
  have hsome := h.stored execution exec hexec hrunning (by rw [hphase]; simp)
  obtain ⟨row, hrow⟩ := Option.isSome_iff_exists.mp hsome
  have hrow' : updateRow? (updateKey binding exec.updateId)
      (completeUpdate (exec.key binding) s.clock s.rows) =
        some (row.recorded .completed s.clock none) := by
    refine (hrows _).trans ?_
    rw [show updateRow? (updateKey binding exec.updateId) s.rows = some row from hrow,
      Option.map_some]
    exact congrArg some (if_pos rfl)
  have hdone : (row.recorded .completed s.clock none).status = .completed := by
    rw [TelegramUpdateRow.recorded]
    split
    · rfl
    · next hnot =>
        cases hstatus : row.status with
        | processing => exact absurd hstatus hnot
        | completed => rfl
        | failed => exact absurd hstatus (hopen row hrow)
  apply h.of_moved htracked hexec
  case hid => rfl
  case hrows =>
    intro updateId hother
    refine (hrows _).trans ?_
    simp only [if_neg fun hkey => hother (updateKey_eq_key.mp hkey), Option.map_id']
    rfl
  case hhistory => exact hhistory
  case hcompleting => exact fun habsurd => by cases habsurd
  case hstays =>
    intro _
    rw [hrow']
    rfl
  case hstored =>
    intro _ _
    rw [hrow']
    rfl
  case hcompleted =>
    intro hknown _
    exact ⟨execution, _, LedgerState.mem_moved.mpr (.inl ⟨rfl, rfl⟩), rfl,
      h.completing execution exec hexec hphase hknown⟩
  case hacknowledged => exact fun _ => .inl ⟨_, hrow', hdone⟩

/-- An execution that fails its update does so before it is acknowledged, or when it is done. -/
theorem Promised.fails (h : Promised binding known s history)
    (htracked : Tracked binding s history) (hexec : s.executions execution = some exec)
    (hfree : s.Acknowledged exec.updateId → ¬ s.Processing binding exec.updateId)
    (errorCode : String) {history' : UpdateHistory}
    (hhistory : ∀ updateId, exec.updateId ≠ updateId → history' updateId = history updateId) :
    Promised binding known
      (s.moved execution { exec with phase := .ended (some .unavailable) }
        (failUpdate (exec.key binding) s.clock errorCode s.rows)) history' := by
  have hrows := UpdateExecution.updateRow?_recorded (exec.key binding) .failed s.clock
    (some (safeCode errorCode)) s.rows
  have hmine : updateRow? (updateKey binding exec.updateId)
      (failUpdate (exec.key binding) s.clock errorCode s.rows) =
        (s.row? binding exec.updateId).map fun row =>
          row.recorded .failed s.clock (some (safeCode errorCode)) := by
    refine (hrows _).trans ?_
    apply Option.map_congr
    intro row _
    exact if_pos rfl
  apply h.of_moved htracked hexec
  case hid => rfl
  case hrows =>
    intro updateId hother
    refine (hrows _).trans ?_
    simp only [if_neg fun hkey => hother (updateKey_eq_key.mp hkey), Option.map_id']
    rfl
  case hhistory => exact hhistory
  case hcompleting => exact fun habsurd => by cases habsurd
  case hstays =>
    intro hsome
    rw [hmine, Option.isSome_map]
    exact hsome
  case hstored => exact fun hrunning => absurd rfl (hrunning _)
  case hcompleted =>
    rintro hknown ⟨row', hmem, hstatus⟩
    have hmem : updateRow? (updateKey binding exec.updateId)
      (failUpdate (exec.key binding) s.clock errorCode s.rows) = some row' := hmem
    rw [hmine, Option.map_eq_some_iff] at hmem
    obtain ⟨row, hrow, rfl⟩ := hmem
    rw [TelegramUpdateRow.recorded] at hstatus
    split at hstatus
    · cases hstatus
    · have hid : ({ exec with phase := .ended (some .unavailable) } : UpdateExecution).updateId =
          exec.updateId := rfl
      exact handled_moved hexec hid id (h.completed _ hknown ⟨row, hrow, hstatus⟩)
  case hacknowledged =>
    intro hack
    rcases acknowledged_moved rfl hack with hold | ⟨answer, hended, hcode⟩
    · rcases h.acknowledged _ hold with ⟨row, hrow, hstatus⟩ | ⟨hprocessing, _⟩
      · have hrow : s.row? binding exec.updateId = some row := hrow
        rw [hrow, Option.map_some, TelegramUpdateRow.recorded_of_completed hstatus] at hmine
        exact .inl ⟨row, hmine, hstatus⟩
      · exact absurd hprocessing (hfree hold)
    · cases hended
      cases hcode

/-- An insert that does nothing has found a row. -/
theorem isSome_of_insertClaim {key : TelegramUpdateKey} {now created : Int}
    {rows : List TelegramUpdateRow} (hinsert : insertClaim key now created rows = none) :
    (updateRow? key rows).isSome := by
  rw [insertClaim] at hinsert
  split at hinsert
  · cases hinsert
  · next row hrow =>
      rw [hrow]
      rfl

/-- A locking read that does not admit the execution answers for it. -/
theorem take_lock (known : Int → Bool) {row : TelegramUpdateRow}
    (hrow : s.row? binding exec.updateId = some row)
    (hobtains : ¬ exec.Obtains binding staleAfterSeconds s.clock s.rows .lock) :
    (row.status = .completed ∧
        (exec.take binding staleAfterSeconds known s.clock s.rows .lock).2 =
          { exec with phase := .ended (some .duplicate) }) ∨
      row.InProgress exec.now staleAfterSeconds ∧
        (exec.take binding staleAfterSeconds known s.clock s.rows .lock).2 =
          { exec with phase := .ended (some .inProgress) } := by
  have hrow : updateRow? (exec.key binding) s.rows = some row := hrow
  have hlock : lockClaim (exec.key binding) exec.now staleAfterSeconds s.rows =
      some ((row.claim exec.now staleAfterSeconds).1,
        Table.update (·.toTelegramUpdateKey = exec.key binding)
          (fun row => (row.claim exec.now staleAfterSeconds).2) s.rows) := by
    rw [lockClaim, hrow]
    rfl
  simp only [UpdateExecution.take, hlock]
  by_cases hdone : row.status = .completed
  · left
    rw [TelegramUpdateRow.claim, if_pos hdone]
    exact ⟨hdone, rfl⟩
  by_cases hprogress : row.InProgress exec.now staleAfterSeconds
  · right
    rw [TelegramUpdateRow.claim, if_neg hdone, if_pos hprogress]
    exact ⟨hprogress, rfl⟩
  · refine absurd ⟨_, hlock, ?_⟩ hobtains
    rw [TelegramUpdateRow.claim, if_neg hdone, if_neg hprogress]

/-- An insert that finds a row keeps the promises. -/
theorem Promised.inserts (h : Promised binding known s history)
    (htracked : Tracked binding s history) (hexec : s.executions execution = some exec)
    (hobtains : ¬ exec.Obtains binding staleAfterSeconds s.clock s.rows .insert) :
    Promised binding known
      (s.moved execution (exec.take binding staleAfterSeconds known s.clock s.rows .insert).2
        (exec.take binding staleAfterSeconds known s.clock s.rows .insert).1) history := by
  cases hinsert : insertClaim (exec.key binding) exec.now s.clock s.rows with
  | some rows' => exact absurd (by rw [UpdateExecution.Obtains, hinsert]; rfl) hobtains
  | none =>
      have htake : exec.take binding staleAfterSeconds known s.clock s.rows .insert =
          (s.rows, { exec with phase := .conflicted }) := by
        simp only [UpdateExecution.take, hinsert]
      rw [htake]
      apply h.keeps htracked hexec
      case hid => rfl
      case hrows => exact fun _ => rfl
      case hhandled => exact id
      case hcompleting => exact fun habsurd => by cases habsurd
      case hstored => exact fun _ _ => isSome_of_insertClaim hinsert
      case hanswer => exact fun _ habsurd => by cases habsurd
      case hholder => exact fun _ _ _ _ habsurd => by cases habsurd

/-- A locking read that answers keeps the promises. -/
theorem Promised.locks (h : Promised binding known s history) (htracked : Tracked binding s history)
    (hexec : s.executions execution = some exec) (hphase : exec.phase = .conflicted)
    (hobtains : ¬ exec.Obtains binding staleAfterSeconds s.clock s.rows .lock)
    (hpromise : ∀ row ∈ s.row? binding exec.updateId,
      row.InProgress exec.now staleAfterSeconds → s.HolderRuns history exec.updateId)
    (hrows : ∀ other, updateRow? other
      (exec.take binding staleAfterSeconds known s.clock s.rows .lock).1 =
        updateRow? other s.rows) :
    Promised binding known
      (s.moved execution (exec.take binding staleAfterSeconds known s.clock s.rows .lock).2
        (exec.take binding staleAfterSeconds known s.clock s.rows .lock).1) history := by
  have hrunning : exec.Running := by
    intro answer hended
    rw [hphase] at hended
    cases hended
  obtain ⟨row, hrow⟩ := Option.isSome_iff_exists.mp
    (h.stored execution exec hexec hrunning (by rw [hphase]; simp))
  have hlater : (Lease.after (history exec.updateId)).holder.map Prod.fst ≠ some execution := by
    intro hlast
    obtain ⟨holder, hholder, hwho⟩ := Option.map_eq_some_iff.mp hlast
    obtain ⟨other, hother, _, _, hpast⟩ := htracked.holder hholder
    rw [hwho, Option.mem_def, hexec] at hother
    cases hother
    exact hpast hphase
  have hends : ∀ answer : UpdateAnswer,
      (s.Completed binding exec.updateId ∨
        s.Processing binding exec.updateId ∧ s.HolderRuns history exec.updateId) →
      (exec.take binding staleAfterSeconds known s.clock s.rows .lock).2 =
        { exec with phase := .ended (some answer) } →
      Promised binding known
        (s.moved execution (exec.take binding staleAfterSeconds known s.clock s.rows .lock).2
          (exec.take binding staleAfterSeconds known s.clock s.rows .lock).1) history := by
    intro answer hanswer htake
    rw [htake]
    apply h.keeps htracked hexec
    case hid => rfl
    case hrows => exact hrows
    case hhandled => exact id
    case hcompleting => exact fun habsurd => by cases habsurd
    case hstored => exact fun hrunning => absurd rfl (hrunning _)
    case hanswer => exact fun _ _ _ => hanswer
    case hholder => exact fun _ _ hlast => absurd hlast hlater
  rcases take_lock known hrow hobtains with ⟨hdone, htake⟩ | ⟨hprogress, htake⟩
  · exact hends .duplicate (.inl ⟨row, hrow, hdone⟩) htake
  · exact hends .inProgress
      (.inr ⟨⟨row, hrow, hprogress.1⟩, hpromise row hrow hprogress⟩) htake

/-- A handler that returns or raises leaves the execution running. -/
theorem Promised.handles (h : Promised binding known s history)
    (htracked : Tracked binding s history) (hexec : s.executions execution = some exec)
    (hphase : exec.phase = .handling) (hid : exec'.updateId = exec.updateId)
    (hhandled : exec.handled = true → exec'.handled = true)
    (hcompleting : exec'.phase = .completing → exec'.handled = true) (hrunning : exec'.Running) :
    Promised binding known (s.moved execution exec' s.rows) history := by
  apply h.keeps htracked hexec hid (fun _ => rfl) hhandled fun hdone _ => hcompleting hdone
  case hstored =>
    intro _ _
    apply h.stored execution exec hexec
    · intro answer hended
      rw [hphase] at hended
      cases hended
    · rw [hphase]
      simp
  case hanswer => exact fun answer hended => absurd hended (hrunning _)
  case hholder => exact fun _ _ _ => hrunning

/-- An execution that stops where it is not relied on keeps the promises. -/
theorem Promised.stops (h : Promised binding known s history) (htracked : Tracked binding s history)
    (hexec : s.executions execution = some exec)
    (hpromise : s.Acknowledged exec.updateId → s.Processing binding exec.updateId →
      (Lease.after (history exec.updateId)).holder.map Prod.fst ≠ some execution) :
    Promised binding known (s.moved execution { exec with phase := .ended none } s.rows)
      history := by
  apply h.keeps htracked hexec
  case hid => rfl
  case hrows => exact fun _ => rfl
  case hhandled => exact id
  case hcompleting => exact fun habsurd => by cases habsurd
  case hstored => exact fun hrunning => absurd rfl (hrunning _)
  case hanswer => exact fun _ habsurd => by cases habsurd
  case hholder =>
    intro hreason hprocessing hlast
    exact absurd hlast (hpromise (hreason.resolve_right (not_not_intro rfl)) hprocessing)

/-- A step that leaves the rows as they are keeps the promises. -/
theorem Promised.unrecorded (h : Promised binding known s history)
    (htracked : Tracked binding s history) (hexec : s.executions execution = some exec)
    {step : UpdateStep} (htakes : exec.Takes step)
    (hkeeps : KeepsPromises binding staleAfterSeconds (s, history) (.act execution step))
    (hobtains : ¬ exec.Obtains binding staleAfterSeconds s.clock s.rows step)
    (houtcome : step.outcome? = none)
    (hrows : ∀ other, updateRow? other
      (exec.take binding staleAfterSeconds known s.clock s.rows step).1 = updateRow? other s.rows) :
    Promised binding known
      (s.moved execution (exec.take binding staleAfterSeconds known s.clock s.rows step).2
        (exec.take binding staleAfterSeconds known s.clock s.rows step).1) history := by
  have hpromise := hkeeps exec hexec
  cases step with
  | insert => exact h.inserts htracked hexec hobtains
  | lock => exact h.locks htracked hexec htakes hobtains hpromise hrows
  | succeed =>
      apply h.handles htracked hexec htakes
      case hid => rfl
      case hhandled => exact fun _ => rfl
      case hcompleting => exact fun _ => rfl
      case hrunning => exact fun _ habsurd => by cases habsurd
  | raise errorCode =>
      apply h.handles htracked hexec htakes
      case hid => rfl
      case hhandled => exact id
      case hcompleting => exact fun habsurd => by cases habsurd
      case hrunning => exact fun _ habsurd => by cases habsurd
  | stop => exact h.stops htracked hexec hpromise
  | complete => cases houtcome
  | fail => cases houtcome

/-- A step that records an outcome keeps the promises. -/
theorem Promised.recorded (h : Promised binding known s history)
    (htracked : Tracked binding s history) (hexec : s.executions execution = some exec)
    {step : UpdateStep} (htakes : exec.Takes step)
    (hkeeps : KeepsPromises binding staleAfterSeconds (s, history) (.act execution step))
    {outcome : UpdateOutcome} (houtcome : step.outcome? = some outcome) {history' : UpdateHistory}
    (hhistory : ∀ updateId, exec.updateId ≠ updateId → history' updateId = history updateId) :
    Promised binding known
      (s.moved execution (exec.take binding staleAfterSeconds known s.clock s.rows step).2
        (exec.take binding staleAfterSeconds known s.clock s.rows step).1) history' := by
  have hpromise := hkeeps exec hexec
  cases step with
  | complete => exact h.completes htracked hexec htakes hpromise hhistory
  | fail =>
      obtain ⟨errorCode, hphase⟩ := htakes
      have htake : exec.take binding staleAfterSeconds known s.clock s.rows .fail =
          (failUpdate (exec.key binding) s.clock errorCode s.rows,
            { exec with phase := .ended (some .unavailable) }) := by
        simp only [UpdateExecution.take, hphase]
      rw [htake]
      exact h.fails htracked hexec hpromise errorCode hhistory
  | insert => cases houtcome
  | lock => cases houtcome
  | succeed => cases houtcome
  | raise errorCode => cases houtcome
  | stop => cases houtcome

/-- A step of an execution keeps the promises. -/
theorem Promised.act (h : Promised binding known s history) (htracked : Tracked binding s history)
    {step : UpdateStep} (hallows : s.Allows (.act execution step))
    (hkeeps : KeepsPromises binding staleAfterSeconds (s, history) (.act execution step)) :
    Promised binding known (s.next binding staleAfterSeconds known (.act execution step))
      (fun updateId =>
        s.events binding staleAfterSeconds (.act execution step) updateId ++ history updateId) := by
  obtain ⟨exec, hmem, htakes⟩ := hallows
  have hexec : s.executions execution = some exec := hmem
  have heffect := @UpdateExecution.effect binding staleAfterSeconds known exec s.clock s.rows step
    htakes
  have hnext : s.next binding staleAfterSeconds known (.act execution step) =
      s.moved execution (exec.take binding staleAfterSeconds known s.clock s.rows step).2
        (exec.take binding staleAfterSeconds known s.clock s.rows step).1 := by
    simp only [LedgerState.next, hexec, LedgerState.moved]
  have hevents : ∀ updateId, s.events binding staleAfterSeconds (.act execution step) updateId =
      if exec.updateId ≠ updateId then []
      else if exec.Obtains binding staleAfterSeconds s.clock s.rows step then
        [.claim execution exec.now]
      else (step.outcome?.map (.report execution)).toList := by
    intro updateId
    simp only [LedgerState.events, hexec]
  rw [hnext]
  cases heffect with
  | admits row hobtains _ hstatus _ hrows _ hexec' =>
      rw [hexec']
      apply h.admits htracked hexec hstatus hrows
      intro updateId
      rw [hevents, if_pos hobtains]
      split
      · rfl
      · rfl
  | records outcome errorCode answer hobtains houtcome hrows hexec' =>
      apply h.recorded htracked hexec htakes hkeeps houtcome
      intro updateId hother
      rw [hevents, if_pos hother]
      rfl
  | keeps hobtains houtcome hrows _ _ =>
      have hhistory : (fun updateId => s.events binding staleAfterSeconds (.act execution step)
          updateId ++ history updateId) = history := by
        funext updateId
        rw [hevents, if_neg hobtains, houtcome]
        simp
      rw [hhistory]
      exact h.unrecorded htracked hexec htakes hkeeps hobtains houtcome hrows

theorem Promised.deliver (h : Promised binding known s history) {updateId : Int}
    (hallows : s.Allows (.deliver execution updateId)) :
    Promised binding known (s.moved execution { updateId, now := s.clock } s.rows) history := by
  have hnone : s.executions execution = none := hallows
  have hkept : ∀ who, ∀ other ∈ s.executions who,
      other ∈ (s.moved execution { updateId, now := s.clock } s.rows).executions who := by
    intro who other hother
    refine LedgerState.mem_moved.mpr (.inr ⟨fun hwho => ?_, hother⟩)
    rw [hwho, hnone] at hother
    cases hother
  constructor
  case completing =>
    intro who other hother hphase
    rcases LedgerState.mem_moved.mp hother with ⟨_, rfl⟩ | ⟨_, hother⟩
    · cases hphase
    · exact h.completing who other hother hphase
  case stored =>
    intro who other hother hrunning hphase
    rcases LedgerState.mem_moved.mp hother with ⟨_, rfl⟩ | ⟨_, hother⟩
    · exact absurd rfl hphase
    · exact h.stored who other hother hrunning hphase
  case completed =>
    intro update hknown hcompleted
    obtain ⟨who, other, hother, hhandled⟩ := h.completed update hknown hcompleted
    exact ⟨who, other, hkept who other hother, hhandled⟩
  case acknowledged =>
    rintro update ⟨who, other, hother, hupdate, answer, hended, hcode⟩
    rcases LedgerState.mem_moved.mp hother with ⟨_, rfl⟩ | ⟨_, hother⟩
    · cases hended
    · refine (h.acknowledged update ⟨who, other, hother, hupdate, answer, hended, hcode⟩).imp_right ?_
      rintro ⟨hprocessing, holder, hholder, last, hlast, hrunning⟩
      exact ⟨hprocessing, holder, hholder, last, hkept holder.1 last hlast, hrunning⟩

/-- In every run whose steps keep the promises. -/
theorem promised_of_reachable
    (hs : ((recordedLedger binding staleAfterSeconds known).restrict
      (KeepsPromises binding staleAfterSeconds)).Reachable (s, history)) :
    Promised binding known s history := by
  refine hs.invariant (I := fun s => Promised binding known s.1 s.2) ?_ ?_
  · rintro ⟨s, history⟩ ⟨⟨hrows, hidle⟩, _⟩
    have hnone : ∀ who (exec : UpdateExecution), exec ∉ s.executions who := by
      intro who exec hexec
      rw [hidle who] at hexec
      cases hexec
    constructor
    case completing => exact fun who exec hexec => absurd hexec (hnone who exec)
    case stored => exact fun who exec hexec => absurd hexec (hnone who exec)
    case completed =>
      rintro updateId _ ⟨row, hrow, _⟩
      rw [LedgerState.row?, hrows] at hrow
      cases hrow
    case acknowledged =>
      rintro updateId ⟨who, exec, hexec, _⟩
      exact absurd hexec (hnone who exec)
  · rintro ⟨s, history⟩ step ⟨s', history'⟩ hprior hpromised ⟨hkeeps, ⟨hallows, rfl⟩, rfl⟩
    cases step with
    | tick time => exact ⟨hpromised.1, hpromised.2, hpromised.3, hpromised.4⟩
    | deliver execution updateId => exact hpromised.deliver hallows
    | act execution step =>
        exact hpromised.act (tracked_of_reachable hprior.of_restrict) hallows hkeeps
    | delete before => exact hkeeps.elim

end Steps

/-! ## The result -/

/-- In every run whose steps keep the promises: when a delivery of an update of a known type
has been answered 200 and no execution for the update is running, the update is completed and
a handler for it has returned without an error. -/
theorem acknowledged_updates_handled {binding : TelegramBotBinding} {staleAfterSeconds : Int}
    {known : Int → Bool} {s : LedgerState} {history : UpdateHistory}
    (hs : ((recordedLedger binding staleAfterSeconds known).restrict
      (KeepsPromises binding staleAfterSeconds)).Reachable (s, history)) {updateId : Int}
    (hknown : known updateId = true) (hacknowledged : s.Acknowledged updateId)
    (hidle : s.Idle updateId) : s.Completed binding updateId ∧ s.Handled updateId := by
  have hpromised := promised_of_reachable hs
  have htracked := tracked_of_reachable hs.of_restrict
  rcases hpromised.acknowledged updateId hacknowledged with
    hcompleted | ⟨_, holder, hholder, exec, hexec, hrunning⟩
  · exact ⟨hcompleted, hpromised.completed updateId hknown hcompleted⟩
  · obtain ⟨other, hother, hupdate, _⟩ := htracked.holder hholder
    rw [Option.mem_def, hexec] at hother
    cases hother
    exact absurd hrunning (hidle holder.1 exec hexec hupdate)

/-! ## Two deliveries -/

namespace Doorman

/-- The step is one of the executions before a number. -/
def Below (bound : ℕ) : LedgerStep → Prop
  | .deliver execution _ | .act execution _ => execution < bound
  | .tick _ | .delete _ => True

instance (bound : ℕ) (step : LedgerStep) : Decidable (Below bound step) :=
  match step with
  | .deliver _ _ | .act _ _ => inferInstanceAs (Decidable (_ < _))
  | .tick _ | .delete _ => inferInstanceAs (Decidable True)

/-- No other execution has started. -/
theorem after_none {steps : List LedgerStep} {bound : ℕ} (hbelow : ∀ step ∈ steps, Below bound step)
    {who : ℕ} (hwho : bound ≤ who) : (after steps).1.executions who = none := by
  have hrun : ∀ s : LedgerState × UpdateHistory, s.1.executions who = none →
      (steps.foldl (nextHistory binding 60 fun _ => true) s).1.executions who = none := by
    induction steps with
    | nil => exact fun s hnone => hnone
    | cons step steps ih =>
        intro s hnone
        apply ih (fun other hother => hbelow other (List.mem_cons_of_mem _ hother))
        have hstep := hbelow step List.mem_cons_self
        cases step with
        | tick time => exact hnone
        | delete before => exact hnone
        | deliver execution updateId =>
            have hne : who ≠ execution := Nat.ne_of_gt (Nat.lt_of_lt_of_le hstep hwho)
            simp only [nextHistory, LedgerState.next, Function.update_of_ne hne]
            exact hnone
        | act execution step =>
            have hne : who ≠ execution := Nat.ne_of_gt (Nat.lt_of_lt_of_le hstep hwho)
            simp only [nextHistory, LedgerState.next]
            split
            · exact hnone
            · simp only [Function.update_of_ne hne]
              exact hnone
  exact hrun start rfl

/-- What holds of the executions that have started holds of all. -/
theorem forall_executions {steps : List LedgerStep} {bound : ℕ} {P : UpdateExecution → Prop}
    (hbelow : ∀ step ∈ steps, Below bound step)
    (hall : ∀ who < bound, ∀ exec ∈ (after steps).1.executions who, P exec) (who : ℕ) :
    ∀ exec ∈ (after steps).1.executions who, P exec := by
  intro exec hexec
  rcases Nat.lt_or_ge who bound with hlt | hge
  · exact hall who hlt exec hexec
  · rw [after_none hbelow hge] at hexec
    cases hexec

/-- The update is handled and completed. -/
def served : List LedgerStep := arrives 0 ++ [.act 0 .succeed, .act 0 .complete]

/-- The second delivery is answered while the first is being handled, and the handler raises. -/
def lost : List LedgerStep :=
  arrives 0 ++ (arrives 1 ++ [.act 1 .lock, .act 0 (.raise "internal.error"), .act 0 .fail])

/-- Where all executions are over, the update is idle. -/
theorem idle_after {steps : List LedgerStep} (bound : ℕ)
    (hbelow : ∀ step ∈ steps, Below bound step)
    (hover : ∀ who < bound, ∀ exec ∈ (after steps).1.executions who, ¬ exec.Running)
    (updateId : Int) : (after steps).1.Idle updateId :=
  fun who exec hexec _ => forall_executions hbelow hover who exec hexec

/-- A step that is none of those that can break a promise. -/
def Steady (s : LedgerState × UpdateHistory) : LedgerStep → Prop
  | .tick _ | .deliver _ _ => True
  | .delete _ => False
  | .act execution step =>
      match step with
      | .insert | .succeed | .raise _ => True
      | .complete => ∀ exec ∈ s.1.executions execution,
          ∀ row ∈ s.1.row? binding exec.updateId, row.status ≠ .failed
      | .lock | .fail | .stop => False

instance (s : LedgerState × UpdateHistory) (step : LedgerStep) : Decidable (Steady s step) :=
  match step with
  | .tick _ | .deliver _ _ => inferInstanceAs (Decidable True)
  | .delete _ => inferInstanceAs (Decidable False)
  | .act execution step =>
      match step with
      | .insert | .succeed | .raise _ => inferInstanceAs (Decidable True)
      | .complete => inferInstanceAs (Decidable (∀ exec ∈ s.1.executions execution, _))
      | .lock | .fail | .stop => inferInstanceAs (Decidable False)

theorem Steady.keepsPromises {s : LedgerState × UpdateHistory} {step : LedgerStep}
    (hsteady : Steady s step) : KeepsPromises binding 60 s step := by
  cases step with
  | tick time => trivial
  | deliver execution updateId => trivial
  | delete before => exact hsteady.elim
  | act execution step =>
      intro exec hexec
      cases step with
      | insert => trivial
      | succeed => trivial
      | raise errorCode => trivial
      | complete => exact hsteady exec hexec
      | lock => exact hsteady.elim
      | fail => exact hsteady.elim
      | stop => exact hsteady.elim

theorem reachable_served :
    ((recordedLedger binding 60 fun _ => true).restrict (KeepsPromises binding 60)).Reachable
      (after served) := by
  have hsteady : ((recordedLedger binding 60 fun _ => true).restrict Steady).Reachable
      (after served) := reachable Steady served (by decide +kernel)
  exact hsteady.weaken fun s step => Steady.keepsPromises

theorem reachable_acts {s : LedgerState × UpdateHistory}
    (hs : ((recordedLedger binding 60 fun _ => true).restrict Delivers).Reachable s)
    {turns : List (ℕ × UpdateStep)}
    (hfollows : System.Follows (fun s step => s.1.Allows step)
      (nextHistory binding 60 fun _ => true) s (turns.map fun turn => .act turn.1 turn.2)) :
    ((recordedLedger binding 60 fun _ => true).restrict Delivers).Reachable
      ((turns.map fun turn => .act turn.1 turn.2).foldl (nextHistory binding 60 fun _ => true) s) := by
  induction turns generalizing s with
  | nil => exact hs
  | cons turn turns ih =>
      have hacts : Delivers s (.act turn.1 turn.2) := trivial
      exact ih (.step hs ⟨hacts, ⟨hfollows.1, rfl⟩, rfl⟩) hfollows.2

/-- Telegram delivers the update once more, and executions for it take some steps. -/
theorem reachable_more {steps : List LedgerStep} (bound : ℕ)
    (hs : ((recordedLedger binding 60 fun _ => true).restrict Delivers).Reachable (after steps))
    (hbelow : ∀ step ∈ steps, Below bound step)
    (hrunning : ∀ who < bound, ∀ exec ∈ (after steps).1.executions who, exec.Running)
    (turns : List (ℕ × UpdateStep))
    (hfollows : System.Follows (fun s step => s.1.Allows step)
      (nextHistory binding 60 fun _ => true) (after steps)
      (.deliver bound 5 :: turns.map fun turn => .act turn.1 turn.2)) :
    ((recordedLedger binding 60 fun _ => true).restrict Delivers).Reachable
      (after (steps ++ .deliver bound 5 :: turns.map fun turn => .act turn.1 turn.2)) := by
  have hdelivers : Delivers (after steps) (.deliver bound 5) := by
    rintro ⟨who, exec, hexec, _, answer, hended, _⟩
    exact forall_executions hbelow hrunning who exec hexec _ hended
  have hdelivered : ((recordedLedger binding 60 fun _ => true).restrict Delivers).Reachable
      (nextHistory binding 60 (fun _ => true) (after steps) (.deliver bound 5)) :=
    .step hs ⟨hdelivers, ⟨hfollows.1, rfl⟩, rfl⟩
  rw [after, List.foldl_append, List.foldl_cons]
  exact reachable_acts hdelivered hfollows.2

/-- Both deliveries come before either is answered. -/
theorem reachable_lost :
    ((recordedLedger binding 60 fun _ => true).restrict Delivers).Reachable (after lost) := by
  have hstart : ((recordedLedger binding 60 fun _ => true).restrict Delivers).Reachable (after []) :=
    .init ⟨⟨rfl, fun _ => rfl⟩, rfl⟩
  have hfirst : ((recordedLedger binding 60 fun _ => true).restrict Delivers).Reachable
      (after (arrives 0)) :=
    reachable_more 0 hstart (by decide) (by decide) [(0, .insert)] (by decide +kernel)
  exact reachable_more 1 hfirst (by decide) (by decide +kernel)
    [(1, .insert), (1, .lock), (0, .raise "internal.error"), (0, .fail)] (by decide +kernel)

end Doorman

theorem acknowledged_updates_handled_by_doorman :
    (Doorman.after Doorman.served).1.Completed Doorman.binding 5 ∧
      (Doorman.after Doorman.served).1.Handled 5 := by
  have hacknowledged : (Doorman.after Doorman.served).1.Acknowledged 5 := by
    have hmine : ∃ exec ∈ (Doorman.after Doorman.served).1.executions 0, exec.updateId = 5 ∧
        exec.phase = .ended (some .processed) := by
      decide +kernel
    obtain ⟨exec, hexec, hupdate, hended⟩ := hmine
    exact ⟨0, exec, hexec, hupdate, .processed, hended, rfl⟩
  have hidle : (Doorman.after Doorman.served).1.Idle 5 :=
    Doorman.idle_after 1 (by decide) (by decide +kernel) 5
  exact acknowledged_updates_handled Doorman.reachable_served rfl hacknowledged hidle

/-- The update is acknowledged, nobody works on it, and it is recorded as failed. -/
theorem acknowledged_update_lost :
    ((recordedLedger Doorman.binding 60 fun _ => true).restrict Delivers).Reachable
      (Doorman.after Doorman.lost) ∧
    (Doorman.after Doorman.lost).1.Acknowledged 5 ∧ (Doorman.after Doorman.lost).1.Idle 5 ∧
    ∃ row ∈ (Doorman.after Doorman.lost).1.row? Doorman.binding 5, row.status = .failed := by
  have hanswered : ∃ exec ∈ (Doorman.after Doorman.lost).1.executions 1, exec.updateId = 5 ∧
      exec.phase = .ended (some .inProgress) := by
    decide +kernel
  obtain ⟨exec, hexec, hupdate, hended⟩ := hanswered
  exact ⟨Doorman.reachable_lost, ⟨1, exec, hexec, hupdate, .inProgress, hended, rfl⟩,
    Doorman.idle_after 2 (by decide) (by decide +kernel) 5, by decide +kernel⟩

end BusinessAssistant.Persistence
