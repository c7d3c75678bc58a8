/-
# Conversations and cases

What the handoff claims are about: the statuses of conversations and the cases.
`DeskChange` says what a committed call does to these two and leaves out everything
else a transaction writes.
-/

import BusinessAssistant.Persistence.WorkflowChanges

namespace BusinessAssistant.Persistence

open BusinessAssistant.Domain BusinessAssistant.Application BusinessAssistant.Foundation

/-- The conversations with their statuses. -/
abbrev Statuses := List (ConversationId × ConversationStatus)

namespace WorkflowDatabase

def statuses (db : WorkflowDatabase) : Statuses :=
  db.conversations.map fun row => (row.id, row.status)

theorem mem_statuses {db : WorkflowDatabase} {id : ConversationId} {status : ConversationStatus} :
    (id, status) ∈ db.statuses ↔ ∃ row ∈ db.conversations, row.id = id ∧ row.status = status := by
  unfold statuses
  rw [List.mem_map]
  constructor
  · rintro ⟨row, hrow, hpair⟩
    cases hpair
    exact ⟨row, hrow, rfl, rfl⟩
  · rintro ⟨row, hrow, rfl, rfl⟩
    exact ⟨row, hrow, rfl⟩

end WorkflowDatabase

/-- Give one conversation a status. -/
def setStatus (id : ConversationId) (status : ConversationStatus) (statuses : Statuses) :
    Statuses :=
  Table.update (fun pair => pair.1 = id) (fun pair => (pair.1, status)) statuses

theorem mem_setStatus {id other : ConversationId} {status old : ConversationStatus}
    {statuses : Statuses} (hmem : (other, old) ∈ setStatus id status statuses) :
    (other = id ∧ old = status ∧ ∃ before, (id, before) ∈ statuses) ∨
      other ≠ id ∧ (other, old) ∈ statuses := by
  rcases Table.mem_update.mp hmem with ⟨⟨_, before⟩, hbefore, hselected, hpair⟩ | ⟨hold, hne⟩
  · cases hpair
    cases hselected
    exact .inl ⟨rfl, rfl, before, hbefore⟩
  · exact .inr ⟨hne, hold⟩

@[simp]
theorem map_fst_setStatus (id : ConversationId) (status : ConversationStatus)
    (statuses : Statuses) : (setStatus id status statuses).map Prod.fst = statuses.map Prod.fst :=
  Table.map_update Prod.fst fun _ => rfl

/-! ## What the writes do to statuses and cases -/

namespace WorkflowDatabase

variable (db : WorkflowDatabase)

@[simp]
theorem statuses_setConversationWorkflow (id : ConversationId) (workflow : Option Text) :
    (db.setConversationWorkflow id workflow).statuses = db.statuses := by
  simp only [statuses, setConversationWorkflow, updateConversation]
  exact Table.map_update _ fun _ => rfl

theorem statuses_updateConversation (id : ConversationId) (status : ConversationStatus)
    (change : ConversationRow → ConversationRow) (hid : ∀ row, (change row).id = row.id)
    (hstatus : ∀ row, (change row).status = status) :
    (db.updateConversation id change).statuses = setStatus id status db.statuses := by
  simp only [statuses, updateConversation, setStatus, Table.update, List.map_map]
  apply List.map_congr_left
  intro row _
  simp only [Function.comp_apply]
  by_cases hrow : row.id = id
  · simp only [if_pos hrow, hid, hstatus]
  · simp only [if_neg hrow]

@[simp]
theorem statuses_writeLead (existing : Option LeadRow) (replacement : LeadRow) :
    (db.writeLead existing replacement).statuses = db.statuses := by
  cases existing <;> rfl

@[simp]
theorem handoffCases_writeLead (existing : Option LeadRow) (replacement : LeadRow) :
    (db.writeLead existing replacement).handoffCases = db.handoffCases := by
  cases existing <;> rfl

@[simp]
theorem statuses_writeCompletion (row : QualificationSessionRow) (leadId : LeadId)
    (event : OutboxEventRow) (update : QualificationSessionUpdateRow) :
    (db.writeCompletion row leadId event update).statuses = db.statuses :=
  statuses_setConversationWorkflow _ _ _

theorem statuses_queueCase (case : HandoffCaseRow) (event : OutboxEventRow) :
    (db.queueCase case event).statuses =
      setStatus case.conversationId .handoffQueued db.statuses :=
  statuses_updateConversation (db.insertCase case) _ _ _ (fun _ => rfl) fun _ => rfl

theorem statuses_moveTo (row : HandoffCaseRow) (case : HandoffCase) (action : HandoffAction) :
    (db.moveTo row case action).statuses =
      match conversationStatus? action with
      | none => db.statuses
      | some status => setStatus row.conversationId status db.statuses := by
  unfold moveTo
  cases conversationStatus? action with
  | none => rfl
  | some status =>
      exact statuses_updateConversation _ _ status _ (fun _ => rfl) fun _ => rfl

theorem handoffCases_moveTo (row : HandoffCaseRow) (case : HandoffCase) (action : HandoffAction) :
    (db.moveTo row case action).handoffCases =
      Table.update (fun old => old.id = row.id)
        (fun old => { old with status := case.status, assigneeId := case.assigneeId })
        db.handoffCases := by
  unfold moveTo
  cases conversationStatus? action <;> rfl

end WorkflowDatabase

/-! ## What a call does to statuses and cases -/

section Desk

variable [PythonText]

/-- A case that is put in the queue, with nothing else said about it. -/
structure HandoffCaseRow.QueuedFor (case : HandoffCaseRow) (env : Environment)
    (identity : TelegramIdentity) : Prop where
  id : case.id = env.newId
  tenantId : case.tenantId = identity.tenantId
  conversationId : case.conversationId = identity.conversationId
  status : case.status = .queued

/-- The ways a committed call changes statuses and cases. -/
inductive DeskChange (env : Environment) (db db' : WorkflowDatabase) : WorkflowCall → Prop
  | kept {call : WorkflowCall}
      (hcall : ∀ tenantId handoffId action actorId,
        call ≠ .transition tenantId handoffId action actorId)
      (hstatuses : db'.statuses = db.statuses)
      (hcases : db'.handoffCases = db.handoffCases) :
      DeskChange env db db' call
  | created {identity : TelegramIdentity} {request : HandoffRequest} {now : Int}
      {case : HandoffCaseRow}
      (hnone : HandoffStore.existing? identity request.idempotencyKey db = none)
      (hconversation : ∃ row ∈ db.conversations, row.id = identity.conversationId ∧
        row.tenantId = identity.tenantId)
      (hcase : case.QueuedFor env identity)
      (hfresh : ∀ row ∈ db.handoffCases, row.id ≠ case.id)
      (hcases : db'.handoffCases = db.handoffCases ++ [case])
      (hstatuses : db'.statuses = setStatus case.conversationId .handoffQueued db.statuses) :
      DeskChange env db db' (.createOrGet identity request now)
  | escalated {identity : TelegramIdentity} {row : QualificationSessionRow} {lead : Lead Answer}
      {score : ScoreResult} {trigger : TriggerResult} {now : Int} {updateKey : Text}
      {case : HandoffCaseRow}
      (hrow : row ∈ db.qualificationSessions)
      (howner : row.OfIdentity identity)
      (hreviewing : row.status = .reviewing)
      (hkey : db.KeyUnused identity.tenantId updateKey)
      (hconversation : ∃ row ∈ db.conversations, row.id = identity.conversationId)
      (hcase : case.QueuedFor env identity)
      (hfresh : ∀ row ∈ db.handoffCases, row.id ≠ case.id)
      (hcases : db'.handoffCases = db.handoffCases ++ [case])
      (hstatuses : db'.statuses = setStatus case.conversationId .handoffQueued db.statuses) :
      DeskChange env db db'
        (.complete identity row.id lead score (some trigger) now updateKey)
  | moved {row : HandoffCaseRow} {action : HandoffAction} {actorId : Text}
      {status : HandoffStatus} {assigneeId : Option Text}
      (hrow : row ∈ db.handoffCases)
      (hconversation : ∃ conversation ∈ db.conversations, conversation.id = row.conversationId ∧
        conversation.tenantId = row.tenantId)
      (hmoves : Moves action row.status status)
      (hcases : db'.handoffCases = Table.update (fun old => old.id = row.id)
        (fun old => { old with status := status, assigneeId := assigneeId }) db.handoffCases)
      (hstatuses : db'.statuses =
        match conversationStatus? action with
        | none => db.statuses
        | some status => setStatus row.conversationId status db.statuses) :
      DeskChange env db db' (.transition row.tenantId row.id action actorId)
  | anonymized {tenantId : TenantId} {customerId : CustomerId} {idempotencyKey : Text}
      (hstatuses : db'.statuses = db.conversations.map fun row =>
        (row.id, if row.tenantId = tenantId ∧ row.customerId = customerId then .closed
          else row.status))
      (hcases : db'.handoffCases =
        Table.update (fun row => row.tenantId = tenantId ∧ row.customerId = some customerId)
          PrivacyStore.anonymizeCase db.handoffCases) :
      DeskChange env db db' (.anonymize tenantId customerId idempotencyKey)

variable {cfg : WorkflowCatalogue} {env : Environment} {db db' : WorkflowDatabase}
  {call : WorkflowCall}

/-- No call changes more of a conversation than its status and its workflow. -/
theorem WorkflowChange.conversations_map {κ : Type*} {column : ConversationRow → κ}
    (hcolumn : ∀ row status workflow,
      column { row with status := status, activeWorkflow := workflow } = column row)
    (hchange : WorkflowChange env db call db') :
    db'.conversations.map column = db.conversations.map column := by
  have hupdate (selected : ConversationRow → Prop) [DecidablePred selected]
      (change : ConversationRow → ConversationRow) (rows : List ConversationRow)
      (hchange : ∀ row, ∃ status workflow,
        change row = { row with status := status, activeWorkflow := workflow }) :
      (Table.update selected change rows).map column = rows.map column := by
    apply Table.map_update
    intro row
    obtain ⟨status, workflow, hrow⟩ := hchange row
    rw [hrow, hcolumn]
  have hworkflow (db : WorkflowDatabase) (id : ConversationId) (workflow : Option Text) :
      (db.setConversationWorkflow id workflow).conversations.map column =
        db.conversations.map column :=
    hupdate _ _ _ fun row => ⟨row.status, workflow, rfl⟩
  have hqueue (db : WorkflowDatabase) (case : HandoffCaseRow) (event : OutboxEventRow) :
      (db.queueCase case event).conversations.map column = db.conversations.map column :=
    hupdate _ _ _ fun _ => ⟨.handoffQueued, none, rfl⟩
  have hlead (existing : Option LeadRow) (replacement : LeadRow) :
      (db.writeLead existing replacement).conversations = db.conversations := by
    cases existing <;> rfl
  have hcompletion (db : WorkflowDatabase) (row : QualificationSessionRow) (leadId : LeadId)
      (event : OutboxEventRow) (update : QualificationSessionUpdateRow) :
      (db.writeCompletion row leadId event update).conversations.map column =
        db.conversations.map column :=
    hworkflow (db.updateSession row.id _) _ _
  cases hchange with
  | expireSession => exact hworkflow _ _ _
  | start hbase =>
      refine (hworkflow _ _ _).trans ?_
      cases hbase <;> rfl
  | @decideConsent _ _ _ decision =>
      cases decision with
      | accepted => rfl
      | declined => exact hworkflow _ _ _
  | recordAnswer => rfl
  | edit => rfl
  | showReview => rfl
  | @complete _ _ _ _ _ trigger _ _ _ _ _ _ _ _ _ _ _ _ _ _ _ hafter =>
      cases trigger with
      | none =>
          cases hafter
          rw [hcompletion, hlead]
      | some result =>
          obtain ⟨_, _, _, _, _, rfl⟩ := hafter
          rw [hqueue, hcompletion, hlead]
  | cancel => exact hworkflow _ _ _
  | addSchema => rfl
  | publishSchema => rfl
  | createCase => exact hqueue _ _ _
  | @transition row moved action =>
      cases action with
      | claim => exact hupdate _ _ _ fun row => ⟨.humanActive, row.activeWorkflow, rfl⟩
      | resolve => rfl
      | reopen => exact hupdate _ _ _ fun row => ⟨.handoffQueued, row.activeWorkflow, rfl⟩
      | returnToBot => exact hupdate _ _ _ fun row => ⟨.activeBot, row.activeWorkflow, rfl⟩
  | anonymize => exact hupdate _ _ _ fun _ => ⟨.closed, none, rfl⟩

/-- Every change of the workflow is one of these as far as the desk can see. -/
theorem WorkflowChange.desk (hchange : WorkflowChange env db call db') :
    DeskChange env db db' call := by
  cases hchange with
  | expireSession hrow hexpired =>
      exact .kept nofun (WorkflowDatabase.statuses_setConversationWorkflow _ _ _) rfl
  | start hbase hfresh hconversation =>
      refine .kept nofun ?_ ?_
      · rw [WorkflowDatabase.openSession, WorkflowDatabase.statuses_setConversationWorkflow]
        cases hbase <;> rfl
      · cases hbase <;> rfl
  | @decideConsent _ _ _ decision =>
      cases decision with
      | accepted => exact .kept nofun rfl rfl
      | declined => exact .kept nofun (WorkflowDatabase.statuses_setConversationWorkflow _ _ _) rfl
  | recordAnswer => exact .kept nofun rfl rfl
  | edit => exact .kept nofun rfl rfl
  | showReview => exact .kept nofun rfl rfl
  | @complete identity session _ _ _ trigger _ _ _ leadId _ hrow howner _ hkey hstatus _ _ _
      hconversation _ hafter =>
      cases trigger with
      | none =>
          cases hafter
          refine .kept nofun ?_ ?_
          · rw [WorkflowDatabase.statuses_writeCompletion, WorkflowDatabase.statuses_writeLead]
          · exact WorkflowDatabase.handoffCases_writeLead _ _ _
      | some result =>
          obtain ⟨schedule, due, _, hfresh, _, rfl⟩ := hafter
          have hcases := WorkflowDatabase.handoffCases_writeLead db
          have hcase : (triggeredCase env identity session.id leadId result schedule due).QueuedFor
              env identity := ⟨rfl, rfl, rfl, rfl⟩
          refine .escalated hrow howner hstatus hkey hconversation hcase ?_ ?_ ?_
          · intro row hrow
            exact hfresh row (by rw [WorkflowDatabase.writeCompletion]; exact hcases _ _ ▸ hrow)
          · exact congrArg (· ++ _) (hcases _ _)
          · rw [WorkflowDatabase.statuses_queueCase, WorkflowDatabase.statuses_writeCompletion,
              WorkflowDatabase.statuses_writeLead]
  | cancel hrow => exact .kept nofun (WorkflowDatabase.statuses_setConversationWorkflow _ _ _) rfl
  | addSchema => exact .kept nofun rfl rfl
  | publishSchema => exact .kept nofun rfl rfl
  | createCase hnone hconversation hfresh =>
      exact .created hnone hconversation ⟨rfl, rfl, rfl, rfl⟩ hfresh rfl
        (WorkflowDatabase.statuses_queueCase _ _ _)
  | transition hrow hconversation hmoves =>
      exact .moved hrow hconversation hmoves (WorkflowDatabase.handoffCases_moveTo _ _ _ _)
        (WorkflowDatabase.statuses_moveTo _ _ _ _)
  | @anonymize tenantId customerId key actions =>
      refine .anonymized ?_ rfl
      simp only [WorkflowDatabase.statuses, PrivacyStore.anonymizeRows, Table.update, List.map_map]
      apply List.map_congr_left
      intro row _
      simp only [Function.comp_apply]
      split <;> rfl

theorem desk_of_run {reply : call.Reply}
    (hrun : (transactionOf cfg env call).run db = .ok (reply, db')) :
    DeskChange env db db' call := by
  by_cases htransition : ∃ tenantId handoffId action actorId,
      call = .transition tenantId handoffId action actorId
  · obtain ⟨tenantId, handoffId, action, actorId, rfl⟩ := htransition
    exact (HandoffStore.transition_change hrun).desk
  · rcases changes_of_run hrun with hsame | hchange
    · rw [hsame]
      refine .kept ?_ rfl rfl
      intro tenantId handoffId action actorId hcall
      exact htransition ⟨tenantId, handoffId, action, actorId, hcall⟩
    · exact hchange.desk

/-- No call adds a conversation or takes one away. -/
theorem DeskChange.map_fst (hchange : DeskChange env db db' call) :
    db'.statuses.map Prod.fst = db.statuses.map Prod.fst := by
  cases hchange with
  | kept _ hstatuses => rw [hstatuses]
  | created _ _ _ _ _ hstatuses => rw [hstatuses, map_fst_setStatus]
  | escalated _ _ _ _ _ _ _ _ hstatuses => rw [hstatuses, map_fst_setStatus]
  | @moved _ action _ _ _ _ _ _ _ hstatuses =>
      rw [hstatuses]
      cases conversationStatus? action with
      | none => rfl
      | some status => exact map_fst_setStatus _ _ _
  | anonymized hstatuses =>
      rw [hstatuses, WorkflowDatabase.statuses, List.map_map, List.map_map]
      rfl

theorem map_fst_serve (call : WorkflowCall) (env : Environment) (s : WorkflowState) :
    (serve cfg call env s).2.db.statuses.map Prod.fst = s.db.statuses.map Prod.fst := by
  rcases serve_cases call env s with ⟨error, _, hsame⟩ | ⟨reply, _, hrun⟩
  · rw [hsame]
  · exact (desk_of_run hrun).map_fst

end Desk

end BusinessAssistant.Persistence
