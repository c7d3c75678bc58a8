/-
# Finished sessions

A session is finished when it is completed, declined, cancelled or expired. Every
writer but one checks the status of the row it has locked; `review`, which `edit`
calls on a session it read in an earlier transaction, does not, so a finished
session comes back to life when something finishes it in between.
-/

import BusinessAssistant.Persistence.RequestRuns

namespace BusinessAssistant.Persistence

open BusinessAssistant.Domain BusinessAssistant.Application BusinessAssistant.Foundation

/-! ## One step -/

/-- The columns a finished session is to keep. -/
structure SessionResult where
  id : QualificationSessionId
  status : QualificationSessionStatus
  answers : List (Text × JsonValue)
  leadId : Option LeadId
  deriving DecidableEq

def QualificationSessionRow.result (row : QualificationSessionRow) : SessionResult where
  id := row.id
  status := row.status
  answers := row.answers
  leadId := row.leadId

/-- Every finished session has one row afterwards, with the same result. -/
def KeepsFinished (db db' : WorkflowDatabase) : Prop :=
  ∀ row ∈ db.qualificationSessions, ¬ row.Active →
    ∃ row' ∈ db'.qualificationSessions, row'.result = row.result ∧
      ∀ other ∈ db'.qualificationSessions, other.id = row.id → other = row'

variable {db db' : WorkflowDatabase}

theorem KeepsFinished.of_eq (hids : (db.origins.map (·.id)).Nodup)
    (hsame : db'.qualificationSessions = db.qualificationSessions) : KeepsFinished db db' := by
  intro row hrow _
  rw [hsame]
  refine ⟨row, hrow, rfl, ?_⟩
  intro other hother hid
  exact Table.eq_of_key_eq (WorkflowDatabase.nodup_rowIds hids) hother hrow hid

theorem KeepsFinished.trans {middle last : WorkflowDatabase} (hfirst : KeepsFinished db middle)
    (hsecond : KeepsFinished middle last) : KeepsFinished db last := by
  intro row hrow hfinished
  obtain ⟨between, hbetween, hsame, _⟩ := hfirst row hrow hfinished
  have hid : between.id = row.id := congrArg SessionResult.id hsame
  have hstatus : between.status = row.status := congrArg SessionResult.status hsame
  have hfinished' : ¬ between.Active := by
    rw [QualificationSessionRow.Active, hstatus]
    exact hfinished
  obtain ⟨after, hafter, hsame', hunique⟩ := hsecond between hbetween hfinished'
  exact ⟨after, hafter, hsame'.trans hsame, fun other hother hother_id =>
    hunique other hother (hother_id.trans hid.symm)⟩

section Calls

variable [PythonText] {cfg : WorkflowCatalogue} {env : Environment} {call : WorkflowCall}
  {s : WorkflowState}

/-- The call is no review of a finished session, unless another session of the
identity is active. -/
def RevivesNone (db : WorkflowDatabase) : WorkflowCall → Prop
  | .review identity sessionId _ =>
      ∀ row ∈ db.qualificationSessions, row.OfIdentity identity → row.id = sessionId →
        row.Active ∨ db.HasOtherActive identity sessionId
  | _ => True

instance decidableRevivesNone (db : WorkflowDatabase) : DecidablePred (RevivesNone db)
  | .review _ _ _ => inferInstanceAs (Decidable (∀ _ ∈ _, _))
  | .now | .newLeadId | .publishedSchema _ _ | .schema _ _ | .activeSession _ _ | .start _ _ _
  | .decideConsent _ _ _ _ _ | .recordAnswer _ _ _ _ _ _ | .complete _ _ _ _ _ _ _ | .cancel _
  | .addSchema _ | .publishSchema _ _ | .schedule _ | .activeHandoff _ | .createOrGet _ _ _
  | .transition _ _ _ _ | .anonymize _ _ _ => .isTrue trivial

/-- A finished session is moved on only by a review. -/
theorem SessionStep.finished {row row' : QualificationSessionRow}
    (hstep : SessionStep s.db call row row') (hissued : Issued s call) (hfinished : ¬ row.Active) :
    ∃ identity key, call = .review identity row.id key ∧ row.OfIdentity identity ∧
      ¬ s.db.HasOtherActive identity row.id := by
  have hactive : ∀ {status : QualificationSessionStatus}, row.status = status →
      status.isActive = true → False := by
    intro status hstatus hopen
    rw [QualificationSessionRow.Active, hstatus] at hfinished
    exact hfinished hopen
  cases hstep with
  | expire _ hrow _ => exact absurd (WorkflowDatabase.mem_of_activeRow? hrow).2.2 hfinished
  | decide _ _ _ hstatus => exact (hactive hstatus rfl).elim
  | record _ _ _ hstatus => exact (hactive hstatus rfl).elim
  | edit howner _ _ hother => exact ⟨_, _, rfl, howner, hother⟩
  | showReview howner _ _ _ hother => exact ⟨_, _, rfl, howner, hother⟩
  | complete _ _ hstatus => exact (hactive hstatus rfl).elim
  | cancel hrow => exact absurd (WorkflowDatabase.mem_of_activeRow? hrow).2.2 hfinished
  | anonymize => cases hissued

/-- A call that revives nothing keeps what is finished. -/
theorem keepsFinished_serve (hids : (s.db.origins.map (·.id)).Nodup) (hissued : Issued s call)
    (hrevives : RevivesNone s.db call) : KeepsFinished s.db (serve cfg call env s).2.db := by
  rcases changes_of_serve call env s with hsame | hchange
  · exact .of_eq hids (congrArg _ hsame)
  · intro row hrow hfinished
    obtain ⟨row', hrow', hid, hfate⟩ := hchange.session_after hids hrow
    refine ⟨row', hrow', ?_, ?_⟩
    · rcases hfate with rfl | hstep
      · rfl
      · obtain ⟨identity, key, rfl, howner, hother⟩ := hstep.finished hissued hfinished
        rcases hrevives row hrow howner rfl with hactive | hactive
        · exact absurd hactive hfinished
        · exact absurd hactive hother
    · intro other hother hother_id
      have hids' : ((serve cfg call env s).2.db.origins.map (·.id)).Nodup :=
        nodup_sessionIds_serve hids call env
      exact Table.eq_of_key_eq (WorkflowDatabase.nodup_rowIds hids') hother hrow'
        (hother_id.trans hid.symm)

/-- A call that commits and keeps what is finished revived nothing. -/
theorem revivesNone_of_keeps (hissued : Issued s call) {reply : call.Reply}
    (hrun : (transactionOf cfg env call).run s.db = .ok (reply, db'))
    (hkeeps : KeepsFinished s.db db') : RevivesNone s.db call := by
  cases call with
  | review identity sessionId editFieldKey =>
      cases editFieldKey with
      | none => cases hissued
      | some key =>
          intro row hrow _ hid
          have hchange : WorkflowChange env s.db (.review identity sessionId (some key)) db' :=
            QualificationStore.edit_change hrun
          cases hchange with
          | @edit _ locked _ _ hlocked _ _ _ _ =>
              have hedited : locked.edit key ∈
                  (s.db.updateSession locked.id
                    (QualificationSessionRow.edit key)).qualificationSessions :=
                Table.mem_update.mpr (.inl ⟨locked, hlocked, rfl, rfl⟩)
              by_cases hactive : row.Active
              · exact .inl hactive
              · obtain ⟨row', _, hsame, hunique⟩ := hkeeps row hrow hactive
                have hstatus : row'.status = row.status := congrArg SessionResult.status hsame
                rw [← hunique _ hedited hid.symm] at hstatus
                refine .inl ?_
                rw [QualificationSessionRow.Active, ← hstatus]
                rfl
  | _ => exact trivial

/-! ## Every run -/

/-- The call an event serves revives no finished session. -/
def LeavesFinished (pool : RequestPool) : Event Operation Environment → Prop
  | .arrive _ => True
  | .serve index _ => ∀ call ∈ pool.nextCall? index, RevivesNone pool.store.db call

instance decidableLeavesFinished (pool : RequestPool) : DecidablePred (LeavesFinished pool)
  | .arrive _ => .isTrue trivial
  | .serve index _ =>
      inferInstanceAs (Decidable (∀ call ∈ pool.nextCall? index, RevivesNone pool.store.db call))

/-- An event that revives nothing keeps what is finished. -/
theorem keepsFinished_step {schemaCode : Text} {pool pool' : RequestPool}
    {event : Event Operation Environment} (hids : (pool.store.db.origins.map (·.id)).Nodup)
    (hissued : ∀ index call, pool.nextCall? index = some call → Issued pool.store call)
    (hcondition : LeavesFinished pool event)
    (hstep : (requestSystem cfg schemaCode).step pool event pool') :
    KeepsFinished pool.store.db pool'.store.db := by
  cases event with
  | arrive operation =>
      cases hstep
      exact .of_eq hids rfl
  | serve index env =>
      obtain ⟨_, call, hserves⟩ := hstep
      have hcall := hserves.nextCall
      rw [hserves.store]
      exact keepsFinished_serve hids (hissued index call hcall) (hcondition call hcall)

/-- A committed call keeps every finished session as it is exactly when it is no
review of a finished session; and a finished session stays finished for ever in every
run without such a review. -/
theorem finished_sessions_stay {schemaCode : Text} {pool : RequestPool}
    (hpool : (requestSystem cfg schemaCode).Reachable pool) :
    (∀ index call env reply, pool.nextCall? index = some call →
      (serve cfg call env pool.store).1 = .ok reply →
        (KeepsFinished pool.store.db (serve cfg call env pool.store).2.db ↔
          RevivesNone pool.store.db call)) ∧
      ∀ events pool', ((requestSystem cfg schemaCode).restrict LeavesFinished).Run pool events
        pool' → KeepsFinished pool.store.db pool'.store.db := by
  constructor
  · intro index call env reply hcall hreply
    obtain ⟨hids, hissued⟩ := issued_of_reachable hpool
    constructor
    · exact revivesNone_of_keeps (hissued index call hcall) (run_of_serve_ok hreply)
    · exact keepsFinished_serve hids (hissued index call hcall)
  · intro events pool' hrun
    induction hrun with
    | nil => exact .of_eq (issued_of_reachable hpool).1 rfl
    | snoc prior next ih =>
        obtain ⟨hids, hissued⟩ := issued_of_reachable (hpool.run prior.of_restrict)
        obtain ⟨hcondition, hstep⟩ := next
        exact ih.trans (keepsFinished_step hids hissued hcondition hstep)

end Calls

/-! ## In the small shop -/

section Shop

open Shop

/-- A customer starts the questions; a request to edit an answer has read the session
when the customer cancels. -/
def Shop.editsWhileCancelling : List (Event Operation Environment) :=
  arrives 0 4 (.start (identity 0)) 10 1 ++
    arrives 1 4 (.edit (identity 0) (BitVec.ofNat 128 1) "need".toList) 20 0 ++
      arrives 2 2 (.cancel (identity 0)) 30 0

/-- The customer starts anew, and then the request to edit goes on. -/
def Shop.startsAnew : List (Event Operation Environment) :=
  arrives 3 4 (.start (identity 0)) 40 2 ++ [serves 1 50 0]

theorem finished_sessions_stay_in_shop :
    KeepsFinished (after editsWhileCancelling).store.db
      (after (editsWhileCancelling ++ startsAnew)).store.db := by
  have hreachable : (requestSystem workflowCatalogue intake).Reachable
      (after editsWhileCancelling) := pool_reachable (by decide +kernel)
  have hfollows : System.Follows
      (fun pool event => LeavesFinished pool event ∧ Pool.Ready (fun _ _ => True) pool event)
      (RequestPool.next workflowCatalogue intake) (after editsWhileCancelling) startsAnew := by
    decide +kernel
  have hrun : ((requestSystem workflowCatalogue intake).restrict LeavesFinished).Run
      (after editsWhileCancelling) startsAnew (after (editsWhileCancelling ++ startsAnew)) := by
    rw [after_append]
    apply System.Run.of_follows _ hfollows
    intro pool event hallowed
    exact ⟨hallowed.1, Pool.step_next hallowed.2⟩
  exact (finished_sessions_stay hreachable).2 _ _ hrun

/-- A cancelled session is in progress again when a request to edit it, which read it
before, reaches its review. -/
theorem cancelled_session_revived :
    ∃ pool event pool', (requestSystem workflowCatalogue intake).Reachable pool ∧
      (requestSystem workflowCatalogue intake).step pool event pool' ∧
      ¬ KeepsFinished pool.store.db pool'.store.db := by
  have hreachable : (requestSystem workflowCatalogue intake).Reachable
      (after editsWhileCancelling) := pool_reachable (by decide +kernel)
  have hready : Pool.Ready (fun _ _ => True) (after editsWhileCancelling) (serves 1 50 0) := by
    decide +kernel
  refine ⟨_, serves 1 50 0, _, hreachable, Pool.step_next hready, ?_⟩
  intro hkeeps
  have hfinished : ∃ row ∈ (after editsWhileCancelling).store.db.qualificationSessions,
      ¬ row.Active := by decide +kernel
  obtain ⟨row, hrow, hrow_finished⟩ := hfinished
  obtain ⟨row', hrow', hsame, _⟩ := hkeeps row hrow hrow_finished
  have hall : ∀ row ∈ ((after editsWhileCancelling).next workflowCatalogue intake
      (serves 1 50 0)).store.db.qualificationSessions, row.status = .inProgress := by
    decide +kernel
  have hstatus : row'.status = row.status := congrArg SessionResult.status hsame
  apply hrow_finished
  rw [QualificationSessionRow.Active, ← hstatus, hall row' hrow']
  rfl

end Shop

end BusinessAssistant.Persistence
