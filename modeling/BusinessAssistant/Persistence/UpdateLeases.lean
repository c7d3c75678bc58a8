/-
# One handler at a time

The history of an update is that of a lease. Completing and failing are matched by the
update and its status alone, so an execution that was given up can fail the update of the
one that took over, and a third is admitted beside it. In the runs where this does not
happen the histories are orderly. What is completed stays completed in every run, until
its row is deleted.
-/

import BusinessAssistant.Persistence.UpdateExecutions

namespace BusinessAssistant.Persistence

open BusinessAssistant.Domain BusinessAssistant.Application BusinessAssistant.Foundation

/-- A completed update is not handled again; a failure is to be its holder's. -/
def updateTerms (staleAfterSeconds : Int) : LeaseTerms UpdateOutcome where
  length := seconds staleAfterSeconds
  Closes outcome := outcome = .completed
  Fenced outcome := outcome = .failed
  fenced_of_reopens outcome hopen := by
    cases outcome with
    | completed => exact absurd rfl hopen
    | failed => rfl

/-- A step that respects the leases: an execution is admitted by a reading of the clock that
is no older than what happened to its update before; a failure recorded while the update is
being processed is that of the execution admitted last; and a row is deleted only when the
execution admitted last has recorded an outcome or outlived its lease. -/
def KeepsLeases (binding : TelegramBotBinding) (staleAfterSeconds : Int)
    (s : LedgerState × UpdateHistory) : LedgerStep → Prop
  | .tick _ | .deliver _ _ => True
  | .act execution step => ∀ exec ∈ s.1.executions execution,
      (exec.Obtains binding staleAfterSeconds s.1.clock s.1.rows step →
        ∀ event ∈ s.2 exec.updateId, ∀ before ∈ event.time?, before ≤ exec.now) ∧
      (step = .fail → ∀ row ∈ s.1.row? binding exec.updateId, row.status = .processing →
        (Lease.after (s.2 exec.updateId)).holder.map Prod.fst = some execution)
  | .delete before => ∀ updateId, ∀ row ∈ s.1.row? binding updateId, row.Expired before →
      ∀ holder ∈ (Lease.after (s.2 updateId)).holder,
        (∃ outcome, .report holder.1 outcome ∈ s.2 updateId) ∨
          holder.2 + seconds staleAfterSeconds ≤ s.1.clock

section Orderly

variable {binding : TelegramBotBinding} {staleAfterSeconds : Int} {known : Int → Bool}
  {s : LedgerState} {history : UpdateHistory}

/-- An update whose row is not taken may be claimed. -/
theorem claimable_of_tells {row : Option TelegramUpdateRow} {lease : Lease ℕ UpdateOutcome}
    {now : Int} (htells : Tells row lease)
    (hopen : ∀ found ∈ row, ¬ found.Taken now staleAfterSeconds) :
    lease.Claimable (updateTerms staleAfterSeconds) now := by
  cases row with
  | none =>
      have hfree : lease.phase = .free := htells
      rw [Lease.Claimable, hfree]
      trivial
  | some row =>
      obtain ⟨hphase, who, hholder⟩ := htells
      have hnot := hopen row rfl
      rw [Lease.Claimable, hphase]
      cases hstatus : row.status with
      | processing =>
          intro holder hmem
          rw [hholder] at hmem
          cases hmem
          have hstale : ¬ now - seconds staleAfterSeconds < row.claimedAt :=
            fun hlate => hnot (.inr ⟨hstatus, hlate⟩)
          show row.claimedAt + seconds staleAfterSeconds ≤ now
          omega
      | completed => exact absurd (.inl hstatus) hnot
      | failed => exact fun habsurd => by cases habsurd

/-- An update whose lease is held has a row, which is being processed. -/
theorem processing_of_held {row : Option TelegramUpdateRow} {lease : Lease ℕ UpdateOutcome}
    (htells : Tells row lease) (hheld : lease.phase = .held) :
    ∃ found, row = some found ∧ found.status = .processing := by
  cases row with
  | none =>
      have hfree : lease.phase = .free := htells
      rw [hfree] at hheld
      cases hheld
  | some found =>
      refine ⟨found, rfl, ?_⟩
      rw [htells.1] at hheld
      cases hstatus : found.status with
      | processing => rfl
      | completed =>
          rw [hstatus] at hheld
          cases hheld
      | failed =>
          rw [hstatus] at hheld
          cases hheld

/-- An execution that obtains an update may claim it. -/
theorem admits_claim (known : Int → Bool) (h : Tracked binding s history) {execution : ℕ}
    {exec : UpdateExecution} (hexec : s.executions execution = some exec) {step : UpdateStep} (htakes : exec.Takes step)
    (hobtains : exec.Obtains binding staleAfterSeconds s.clock s.rows step)
    (hreading : ∀ event ∈ history exec.updateId, ∀ before ∈ event.time?, before ≤ exec.now) :
    Lease.Admits (updateTerms staleAfterSeconds) (history exec.updateId)
      (.claim execution exec.now) := by
  refine ⟨hreading, ?_, ?_⟩
  · intro outcome hreport
    obtain ⟨other, hother, _, answer, hended⟩ := h.reported exec.updateId execution outcome hreport
    rw [hexec] at hother
    cases hother
    exact htakes.running answer hended
  · cases @UpdateExecution.effect binding staleAfterSeconds known exec s.clock s.rows step htakes with
    | admits row _ hopen _ _ _ _ _ => exact claimable_of_tells (h.rows exec.updateId) hopen
    | records _ _ _ hnot _ _ _ => exact absurd hobtains hnot
    | keeps hnot _ _ _ _ => exact absurd hobtains hnot

/-- An execution may report an outcome, a failure where it was admitted last. -/
theorem admits_report (h : Tracked binding s history) {execution : ℕ} {exec : UpdateExecution}
    {step : UpdateStep} {outcome : UpdateOutcome} (houtcome : step.outcome? = some outcome)
    (hfails : step = .fail → ∀ row ∈ s.row? binding exec.updateId, row.status = .processing →
      (Lease.after (history exec.updateId)).holder.map Prod.fst = some execution) :
    Lease.Admits (updateTerms staleAfterSeconds) (history exec.updateId)
      (.report execution outcome) := by
  intro hheld hfenced
  have hfailed : outcome = .failed := hfenced
  have hstep : step = .fail := by
    rw [hfailed] at houtcome
    cases step with
    | fail => rfl
    | insert => cases houtcome
    | lock => cases houtcome
    | succeed => cases houtcome
    | raise errorCode => cases houtcome
    | complete => cases houtcome
    | stop => cases houtcome
  obtain ⟨row, hrow, hprocessing⟩ := processing_of_held (h.rows exec.updateId) hheld
  obtain ⟨holder, hholder, hwho⟩ := Option.map_eq_some_iff.mp (hfails hstep row hrow hprocessing)
  exact ⟨holder.2, by rw [← hwho]; exact hholder⟩

/-- An expired row may be deleted where its execution is through with it. -/
theorem admits_discard (h : Tracked binding s history) {updateId : Int} {row : TelegramUpdateRow}
    (hrow : s.row? binding updateId = some row) {before : Int} (hexpired : row.Expired before)
    (hthrough : ∀ holder ∈ (Lease.after (history updateId)).holder,
      (∃ outcome, .report holder.1 outcome ∈ history updateId) ∨
        holder.2 + seconds staleAfterSeconds ≤ s.clock) :
    Lease.Admits (updateTerms staleAfterSeconds) (history updateId) (.discard s.clock) := by
  refine ⟨h.times updateId, ?_, hthrough⟩
  intro hheld
  obtain ⟨found, hfound, hprocessing⟩ := processing_of_held (h.rows updateId) hheld
  rw [hrow] at hfound
  cases hfound
  exact hexpired.1 hprocessing

/-- A step that respects the leases keeps the histories orderly. -/
theorem orderly_next (known : Int → Bool) (h : Tracked binding s history)
    (horderly : ∀ updateId, Lease.Orderly (updateTerms staleAfterSeconds) (history updateId))
    {step : LedgerStep} (hallows : s.Allows step)
    (hkeeps : KeepsLeases binding staleAfterSeconds (s, history) step) (updateId : Int) :
    Lease.Orderly (updateTerms staleAfterSeconds)
      (s.events binding staleAfterSeconds step updateId ++ history updateId) := by
  cases step with
  | tick time => exact horderly updateId
  | deliver execution other => exact horderly updateId
  | act execution step =>
      obtain ⟨exec, hmem, htakes⟩ := hallows
      have hexec : s.executions execution = some exec := hmem
      obtain ⟨hreading, hfails⟩ := hkeeps exec hexec
      simp only [LedgerState.events, hexec]
      split
      · exact horderly updateId
      · next hupdate =>
          rw [not_not] at hupdate
          subst hupdate
          split
          · next hobtains =>
              exact ⟨admits_claim known h hexec htakes hobtains (hreading hobtains),
                horderly exec.updateId⟩
          · cases houtcome : step.outcome? with
            | none => exact horderly exec.updateId
            | some outcome => exact ⟨admits_report h houtcome hfails, horderly exec.updateId⟩
  | delete before =>
      simp only [LedgerState.events]
      cases hrow : s.row? binding updateId with
      | none => exact horderly updateId
      | some row =>
          by_cases hexpired : row.Expired before
          · simp only [if_pos hexpired]
            exact ⟨admits_discard h hrow hexpired (hkeeps updateId row hrow hexpired),
              horderly updateId⟩
          · simp only [if_neg hexpired]
            exact horderly updateId

/-- Where all steps respect the leases the histories are orderly. -/
theorem orderly_of_reachable
    (hs : ((recordedLedger binding staleAfterSeconds known).restrict
      (KeepsLeases binding staleAfterSeconds)).Reachable (s, history)) (updateId : Int) :
    Lease.Orderly (updateTerms staleAfterSeconds) (history updateId) := by
  refine hs.invariant (I := fun s => ∀ updateId,
    Lease.Orderly (updateTerms staleAfterSeconds) (s.2 updateId)) ?_ ?_ updateId
  · rintro ⟨s, history⟩ ⟨_, hhistory⟩ updateId
    cases hhistory
    trivial
  · rintro ⟨s, history⟩ step ⟨s', history'⟩ hprior horderly ⟨hkeeps, ⟨hallows, rfl⟩, rfl⟩
    exact orderly_next known (tracked_of_reachable hprior.of_restrict) horderly hallows hkeeps

/-! ## What is completed -/

/-- The update is recorded as completed. -/
def LedgerState.Completed (binding : TelegramBotBinding) (s : LedgerState) (updateId : Int) : Prop :=
  ∃ row ∈ s.row? binding updateId, row.status = .completed

/-- A completed update stays completed, and nobody is admitted to it, until it is deleted. -/
theorem completed_next (h : Tracked binding s history) {step : LedgerStep} (hallows : s.Allows step)
    {updateId : Int} (hcompleted : s.Completed binding updateId) :
    (∃ time, .discard time ∈ s.events binding staleAfterSeconds step updateId) ∨
      (s.next binding staleAfterSeconds known step).Completed binding updateId ∧
        ∀ who time, .claim who time ∉ s.events binding staleAfterSeconds step updateId := by
  obtain ⟨row, hrow, hstatus⟩ := hcompleted
  have hrow : updateRow? (updateKey binding updateId) s.rows = some row := hrow
  cases step with
  | tick time => exact .inr ⟨⟨row, hrow, hstatus⟩, fun _ _ hclaim => by cases hclaim⟩
  | deliver execution other => exact .inr ⟨⟨row, hrow, hstatus⟩, fun _ _ hclaim => by cases hclaim⟩
  | act execution step =>
      right
      obtain ⟨exec, hmem, htakes⟩ := hallows
      have hexec : s.executions execution = some exec := hmem
      have heffect := @UpdateExecution.effect binding staleAfterSeconds known exec s.clock s.rows
        step htakes
      have hnone : exec.updateId = updateId →
          ¬ exec.Obtains binding staleAfterSeconds s.clock s.rows step := by
        intro hupdate hobtains
        cases heffect with
        | admits _ _ hopen _ _ _ _ _ =>
            rw [← updateKey_eq_key.mpr hupdate] at hopen
            exact hopen row hrow (.inl hstatus)
        | records _ _ _ hnot _ _ _ => exact hnot hobtains
        | keeps hnot _ _ _ _ => exact hnot hobtains
      constructor
      · simp only [LedgerState.Completed, LedgerState.row?, LedgerState.next, hexec]
        cases heffect with
        | admits _ hobtains _ _ _ hrows _ _ =>
            rw [hrows, if_neg fun hkey => hnone (updateKey_eq_key.mp hkey) hobtains]
            exact ⟨row, hrow, hstatus⟩
        | records outcome errorCode _ _ _ hrows _ =>
            rw [hrows, hrow]
            simp only [Option.map_some, TelegramUpdateRow.recorded_of_completed hstatus, ite_self]
            exact ⟨row, rfl, hstatus⟩
        | keeps _ _ hrows _ _ =>
            rw [hrows]
            exact ⟨row, hrow, hstatus⟩
      · intro who time hclaim
        simp only [LedgerState.events, hexec] at hclaim
        split at hclaim
        · cases hclaim
        · next hupdate =>
            rw [if_neg (hnone (not_not.mp hupdate)), Option.mem_toList,
              Option.map_eq_some_iff] at hclaim
            obtain ⟨outcome, _, hreport⟩ := hclaim
            cases hreport
  | delete before =>
      have hstored : s.row? binding updateId = some row := hrow
      simp only [LedgerState.events, hstored]
      by_cases hexpired : row.Expired before
      · rw [if_pos hexpired]
        exact .inl ⟨s.clock, List.mem_singleton_self _⟩
      · rw [if_neg hexpired]
        refine .inr ⟨⟨row, ?_, hstatus⟩, fun _ _ hclaim => by cases hclaim⟩
        show updateRow? _ (deleteCompletedBefore before s.rows) = some row
        rw [updateRow?_deleteCompletedBefore h.unique, hrow]
        simp [Option.filter, hexpired]

/-- In every run: once completed, an update is completed and nobody is admitted to it, unless
its row has been deleted. -/
theorem completed_run {labels : List LedgerStep} {s' : LedgerState} {history' : UpdateHistory}
    (hs : (recordedLedger binding staleAfterSeconds known).Reachable (s, history))
    (hrun : (recordedLedger binding staleAfterSeconds known).Run (s, history) labels (s', history'))
    {updateId : Int} (hcompleted : s.Completed binding updateId) :
    ∃ later, history' updateId = later ++ history updateId ∧
      ((∃ time, .discard time ∈ later) ∨
        s'.Completed binding updateId ∧ ∀ who time, .claim who time ∉ later) := by
  generalize hlast : (s', history') = last at hrun
  induction hrun generalizing s' history' with
  | nil =>
      cases hlast
      exact ⟨[], rfl, .inr ⟨hcompleted, fun _ _ hclaim => by cases hclaim⟩⟩
  | @snoc middle last labels step hprior hnext ih =>
      obtain ⟨middle, between⟩ := middle
      obtain ⟨later, hlater, hkept⟩ := ih rfl
      obtain ⟨⟨hallows, hstate⟩, hnote⟩ := hnext
      rw [← hlast] at hstate hnote
      have hevents : history' updateId =
          middle.events binding staleAfterSeconds step updateId ++ between updateId :=
        congrFun hnote updateId
      refine ⟨middle.events binding staleAfterSeconds step updateId ++ later, ?_, ?_⟩
      · rw [hevents, hlater, List.append_assoc]
      · rcases hkept with ⟨time, hdiscard⟩ | ⟨hmiddle, hnone⟩
        · exact .inl ⟨time, List.mem_append_right _ hdiscard⟩
        · have htracked := tracked_of_reachable (hs.run hprior)
          have hstep := @completed_next binding staleAfterSeconds known middle between htracked
            step hallows updateId hmiddle
          rcases hstep with ⟨time, hdiscard⟩ | ⟨hcompleted', hnew⟩
          · exact .inl ⟨time, List.mem_append_left _ hdiscard⟩
          · right
            rw [show s' = middle.next binding staleAfterSeconds known step from hstate]
            refine ⟨hcompleted', fun who time hclaim => ?_⟩
            rcases List.mem_append.mp hclaim with hclaim | hclaim
            · exact hnew who time hclaim
            · exact hnone who time hclaim

end Orderly

/-! ## The result -/

/-- In every run whose steps respect the leases: after an execution is admitted to an update,
no other is admitted before its lease is over unless it has recorded an outcome. And once an
update is completed nobody is admitted to it, in whatever run goes on from there, until its
row is deleted. -/
theorem one_handler_at_a_time {binding : TelegramBotBinding} {staleAfterSeconds : Int}
    {known : Int → Bool} {s : LedgerState} {history : UpdateHistory}
    (hs : ((recordedLedger binding staleAfterSeconds known).restrict
      (KeepsLeases binding staleAfterSeconds)).Reachable (s, history)) (updateId : Int) :
    (∀ later between earlier first second since time,
      history updateId =
          later ++ .claim second time :: (between ++ .claim first since :: earlier) →
        (∃ outcome, .report first outcome ∈ between) ∨
          since + seconds staleAfterSeconds ≤ time) ∧
    ∀ labels s' history',
      (recordedLedger binding staleAfterSeconds known).Run (s, history) labels (s', history') →
        s.Completed binding updateId →
          ∃ later, history' updateId = later ++ history updateId ∧
            ((∃ time, .discard time ∈ later) ∨
              s'.Completed binding updateId ∧ ∀ who time, .claim who time ∉ later) := by
  constructor
  · intro later between earlier first second since time hhistory
    have horderly := orderly_of_reachable hs updateId
    rw [hhistory] at horderly
    exact horderly.exclusive
  · intro labels s' history' hrun hcompleted
    exact completed_run hs.of_restrict hrun hcompleted

/-! ## Three executions -/

namespace Doorman

/-- The second execution takes the update over a minute after the first. -/
def takenOver : List LedgerStep :=
  arrives 0 ++ .tick (seconds 60) :: (arrives 1 ++ [.act 1 .lock])

/-- The first fails, and a third is admitted a second later. -/
def crowded : List LedgerStep :=
  takenOver ++ [.act 0 (.raise "internal.error"), .act 0 .fail, .tick (seconds 61)] ++
    (arrives 2 ++ [.act 2 .lock])

/-- A step that respects the leases and deletes nothing. -/
def Careful (s : LedgerState × UpdateHistory) : LedgerStep → Prop
  | .delete _ => False
  | .tick _ | .deliver _ _ => True
  | .act execution step => KeepsLeases binding 60 s (.act execution step)

instance (s : LedgerState × UpdateHistory) (step : LedgerStep) : Decidable (Careful s step) :=
  match step with
  | .delete _ => inferInstanceAs (Decidable False)
  | .tick _ | .deliver _ _ => inferInstanceAs (Decidable True)
  | .act execution _ =>
      inferInstanceAs (Decidable (∀ exec ∈ s.1.executions execution, (_ → _) ∧ (_ → _)))

theorem Careful.keepsLeases {s : LedgerState × UpdateHistory} {step : LedgerStep}
    (hcareful : Careful s step) : KeepsLeases binding 60 s step := by
  cases step with
  | delete before => exact hcareful.elim
  | tick time => trivial
  | deliver execution updateId => trivial
  | act execution step => exact hcareful

theorem reachable_takenOver :
    ((recordedLedger binding 60 fun _ => true).restrict (KeepsLeases binding 60)).Reachable
      (after takenOver) := by
  have hcareful : ((recordedLedger binding 60 fun _ => true).restrict Careful).Reachable
      (after takenOver) := reachable Careful takenOver (by decide +kernel)
  exact hcareful.weaken fun s step => Careful.keepsLeases

end Doorman

theorem one_handler_at_a_time_by_doorman :
    (Doorman.after Doorman.takenOver).2 5 = [.claim 1 (seconds 60), .claim 0 0] ∧
    ((∃ outcome, .report 0 outcome ∈ ([] : List (LeaseEvent ℕ UpdateOutcome))) ∨
      0 + seconds 60 ≤ seconds 60) := by
  have hhistory : (Doorman.after Doorman.takenOver).2 5 =
      [.claim 1 (seconds 60), .claim 0 0] := by
    decide +kernel
  exact ⟨hhistory, (one_handler_at_a_time Doorman.reachable_takenOver 5).1 [] [] [] 0 1 0
    (seconds 60) hhistory⟩

/-- The third execution is admitted a second after the second, which has recorded nothing. -/
theorem third_execution_beside_second :
    (recordedLedger Doorman.binding 60 fun _ => true).Reachable (Doorman.after Doorman.crowded) ∧
    ∃ between earlier, (Doorman.after Doorman.crowded).2 5 =
        .claim 2 (seconds 61) :: (between ++ .claim 1 (seconds 60) :: earlier) ∧
      (∀ outcome, .report 1 outcome ∉ between) ∧ ¬ seconds 60 + seconds 60 ≤ seconds 61 := by
  have hreachable : ((recordedLedger Doorman.binding 60 fun _ => true).restrict
      fun _ _ => True).Reachable (Doorman.after Doorman.crowded) :=
    Doorman.reachable (fun _ _ => True) Doorman.crowded (by decide +kernel)
  have hhistory : (Doorman.after Doorman.crowded).2 5 =
      [.claim 2 (seconds 61), .report 0 .failed, .claim 1 (seconds 60), .claim 0 0] := by
    decide +kernel
  refine ⟨hreachable.of_restrict, [.report 0 .failed], [.claim 0 0], hhistory, ?_, by decide⟩
  intro outcome hreport
  cases List.mem_singleton.mp hreport

end BusinessAssistant.Persistence
