/-
# Runs of retention

`run_retention` statement by statement, on rows that keep when they were last written. What
the loop over the customers and the statements after it report is dropped; the counts taken
before are what the run returns.
-/

import BusinessAssistant.Persistence.RetentionTables

namespace BusinessAssistant.Persistence.Retention

open BusinessAssistant.Domain BusinessAssistant.Application BusinessAssistant.Foundation

/-- `PrivacyResult` -/
structure PrivacyResult where
  actionId : Option UUID
  action : String
  dryRun : Bool
  policyVersion : Nat
  counts : List (String × Nat)
  idempotentReplay : Bool := false
  deriving DecidableEq

/-! ## Eligible customers -/

section Customers

variable (tenantId : TenantId)

/-- A row of a customer who has a conversation that is not closed is passed over. -/
def ActiveConversation (db : RetentionDatabase) (customerId : CustomerId) : Prop :=
  ∃ row ∈ db.conversations, row.tenantId = tenantId ∧ row.customerId = customerId ∧
    row.status ≠ .closed

instance (db : RetentionDatabase) (customerId : CustomerId) :
    Decidable (ActiveConversation tenantId db customerId) :=
  inferInstanceAs (Decidable (∃ _ ∈ _, _))

/-- The five conditions under which a customer is passed over. -/
def Busy (db : RetentionDatabase) (customerId : CustomerId) : Prop :=
  ActiveConversation tenantId db customerId ∨
    bookings.HasPending tenantId customerId db.bookings ∨
    leads.HasPending tenantId customerId db.leads ∨
    qualificationSessions.HasPending tenantId customerId db.qualificationSessions ∨
    handoffCases.HasPending tenantId customerId db.handoffCases

instance (db : RetentionDatabase) (customerId : CustomerId) :
    Decidable (Busy tenantId db customerId) :=
  inferInstanceAs (Decidable (_ ∨ _ ∨ _ ∨ _ ∨ _))

/-- The condition of `_eligible_customer_ids` on a customer -/
def Eligible (cutoff : Int) (db : RetentionDatabase) (row : CustomerRecord) : Prop :=
  row.tenantId = tenantId ∧ row.status ≠ .anonymized ∧ row.updatedAt < cutoff ∧
    ¬ Busy tenantId db row.id

instance (cutoff : Int) (db : RetentionDatabase) : DecidablePred (Eligible tenantId cutoff db) :=
  fun _ => inferInstanceAs (Decidable (_ ∧ _ ∧ _ ∧ _))

/-- `_eligible_customer_ids` -/
def eligibleCustomerIds (cutoff : Int) (db : RetentionDatabase) : List CustomerId :=
  (db.customers.filter fun row => Eligible tenantId cutoff db row).map (·.id)

/-! ## Anonymizing a customer -/

/-- Of one of these customers, by the columns every table but that of cases has. -/
def Of (customerIds : List CustomerId) (rowTenantId : TenantId) (customerId : CustomerId) : Prop :=
  rowTenantId = tenantId ∧ customerId ∈ customerIds

instance (customerIds : List CustomerId) (rowTenantId : TenantId) (customerId : CustomerId) :
    Decidable (Of tenantId customerIds rowTenantId customerId) :=
  inferInstanceAs (Decidable (_ ∧ _))

/-- The messages in the conversations of these customers -/
def OfConversations (customerIds : List CustomerId) (conversations : List ConversationRecord)
    (message : MessageRecord) : Prop :=
  message.tenantId = tenantId ∧ ∃ row ∈ conversations,
    Of tenantId customerIds row.tenantId row.customerId ∧ row.id = message.conversationId

instance (customerIds : List CustomerId) (conversations : List ConversationRecord) :
    DecidablePred (OfConversations tenantId customerIds conversations) :=
  fun _ => inferInstanceAs (Decidable (_ ∧ ∃ _ ∈ _, _))

variable (writtenAt : Int) (customerId : CustomerId)

/-- What is left of a customer. -/
def anonymizeCustomer (row : CustomerRecord) : CustomerRecord :=
  { row with
    toCustomerRow := PrivacyStore.anonymizeCustomer row.toCustomerRow
    updatedAt := writtenAt }

def closeConversation (row : ConversationRecord) : ConversationRecord :=
  { row with status := .closed, activeWorkflow := none, updatedAt := writtenAt }

def releaseHold (row : SlotHoldRecord) : SlotHoldRecord :=
  { row with status := .released, updatedAt := writtenAt }

/-- `_anonymize_customer_rows` -/
def anonymizeCustomerRows (db : RetentionDatabase) : RetentionDatabase :=
  { db with
    customers :=
      Table.update (fun row => Of tenantId [customerId] row.tenantId row.id)
        (anonymizeCustomer writtenAt) db.customers
    channelIdentities :=
      Table.update (fun row => Of tenantId [customerId] row.tenantId row.customerId)
        PrivacyStore.anonymizeIdentity db.channelIdentities
    conversations :=
      Table.update (fun row => Of tenantId [customerId] row.tenantId row.customerId)
        (closeConversation writtenAt) db.conversations
    messages :=
      db.messages.filter fun message =>
        ¬ OfConversations tenantId [customerId] db.conversations message
    bookingDrafts :=
      Table.update (WorkflowTable.OfCustomers tenantId [customerId])
        (bookingDrafts.anonymize writtenAt) db.bookingDrafts
    slotHolds :=
      Table.update
        (fun row => Of tenantId [customerId] row.tenantId row.customerId ∧ row.status = .active)
        (releaseHold writtenAt) db.slotHolds
    bookings :=
      Table.update (WorkflowTable.OfCustomers tenantId [customerId])
        (bookings.anonymize writtenAt) db.bookings
    leads :=
      Table.update (WorkflowTable.OfCustomers tenantId [customerId])
        (leads.anonymize writtenAt) db.leads
    qualificationSessions :=
      Table.update (WorkflowTable.OfCustomers tenantId [customerId])
        (qualificationSessions.anonymize writtenAt) db.qualificationSessions
    handoffCases :=
      Table.update (WorkflowTable.OfCustomers tenantId [customerId])
        (handoffCases.anonymize writtenAt) db.handoffCases }

/-- The loop of `_apply_retention` over the customers; the counts of each turn are dropped. -/
def anonymizeCustomers : List CustomerId → RetentionDatabase → RetentionDatabase
  | [], db => db
  | customerId :: customerIds, db =>
      match db.customers.find? fun row => Of tenantId [customerId] row.tenantId row.id with
      | none => anonymizeCustomers customerIds db
      | some _ =>
          anonymizeCustomers customerIds (anonymizeCustomerRows tenantId writtenAt customerId db)

end Customers

/-! ## The other conditions -/

section Conditions

variable (tenantId : TenantId) (cutoff : Int)

/-- An update that was processed long enough ago. -/
def UpdateDue (row : TelegramUpdateRow) : Prop :=
  row.tenantId = tenantId ∧ row.status ∈ [.completed, .failed] ∧ row.createdAt < cutoff

def MessageDue (row : MessageRecord) : Prop :=
  row.tenantId = tenantId ∧ row.createdAt < cutoff

def DocumentDue (row : KnowledgeDocumentRecord) : Prop :=
  row.tenantId = tenantId ∧ row.status = .archived ∧ row.updatedAt < cutoff

def OperationDue (row : AIOperationRow) : Prop :=
  row.tenantId = tenantId ∧ row.createdAt < cutoff

instance : DecidablePred (UpdateDue tenantId cutoff) :=
  fun _ => inferInstanceAs (Decidable (_ ∧ _ ∧ _))

instance : DecidablePred (MessageDue tenantId cutoff) :=
  fun _ => inferInstanceAs (Decidable (_ ∧ _))

instance : DecidablePred (DocumentDue tenantId cutoff) :=
  fun _ => inferInstanceAs (Decidable (_ ∧ _ ∧ _))

instance : DecidablePred (OperationDue tenantId cutoff) :=
  fun _ => inferInstanceAs (Decidable (_ ∧ _))

end Conditions

/-! ## Applying a policy -/

/-- Rows by the categories of the counts. -/
@[ext]
structure CategoryCounts where
  operationalMetadataDeleted : Nat
  messagesDeleted : Nat
  customersAnonymized : Nat
  workflowRecordsAnonymized : Nat
  knowledgeDocumentsDeleted : Nat
  aiTelemetryDeleted : Nat
  deriving DecidableEq

/-- The counts of `_retention_counts` -/
@[ext]
structure RetentionCounts extends CategoryCounts where
  auditEventsPreserved : Nat
  deriving DecidableEq

/-- The dictionary that is returned and stored. -/
def RetentionCounts.asDict (counts : RetentionCounts) : List (String × Nat) :=
  [("operational_metadata_deleted", counts.operationalMetadataDeleted),
    ("messages_deleted", counts.messagesDeleted),
    ("customers_anonymized", counts.customersAnonymized),
    ("workflow_records_anonymized", counts.workflowRecordsAnonymized),
    ("knowledge_documents_deleted", counts.knowledgeDocumentsDeleted),
    ("ai_telemetry_deleted", counts.aiTelemetryDeleted),
    ("audit_events_preserved", counts.auditEventsPreserved)]

/-- `at - timedelta(days=period)` -/
def cutoff (time : Int) (period : Nat) : Int := time - days period

section Policy

variable (tenantId : TenantId) (policy : RetentionPolicy) (time : Int)

/-- The customers a policy makes due. -/
def dueCustomerIds (db : RetentionDatabase) : List CustomerId :=
  eligibleCustomerIds tenantId (cutoff time policy.customerContactDays) db

/-- The counts of the five tables of `_workflow_conditions`, added up -/
def workflowCount (cutoff : Int) (db : RetentionDatabase) : Nat :=
  db.bookingDrafts.countP (fun row => bookingDrafts.Due tenantId cutoff row) +
    db.bookings.countP (fun row => bookings.Due tenantId cutoff row) +
    db.leads.countP (fun row => leads.Due tenantId cutoff row) +
    db.qualificationSessions.countP (fun row => qualificationSessions.Due tenantId cutoff row) +
    db.handoffCases.countP (fun row => handoffCases.Due tenantId cutoff row)

/-- `_retention_counts` -/
def retentionCounts (db : RetentionDatabase) : RetentionCounts where
  operationalMetadataDeleted :=
    db.telegramUpdates.countP fun row =>
      UpdateDue tenantId (cutoff time policy.operationalMetadataDays) row
  messagesDeleted :=
    db.messages.countP fun row => MessageDue tenantId (cutoff time policy.messageContentDays) row
  customersAnonymized := (dueCustomerIds tenantId policy time db).length
  workflowRecordsAnonymized :=
    workflowCount tenantId (cutoff time policy.workflowRecordsDays) db
  knowledgeDocumentsDeleted :=
    db.knowledgeDocuments.countP fun row =>
      DocumentDue tenantId (cutoff time policy.knowledgeArchiveDays) row
  aiTelemetryDeleted :=
    db.aiOperations.countP fun row => OperationDue tenantId (cutoff time policy.aiTelemetryDays) row
  auditEventsPreserved := db.auditEvents.countP fun row => row.tenantId = tenantId

/-- The documents `_apply_retention` deletes, with their chunks -/
def dueDocumentIds (db : RetentionDatabase) : List DocumentId :=
  (db.knowledgeDocuments.filter fun row =>
    DocumentDue tenantId (cutoff time policy.knowledgeArchiveDays) row).map (·.id)

/-- The statements of `_apply_retention` after the loop over the customers -/
def removeDue (serverNow : Int) (db : RetentionDatabase) : RetentionDatabase :=
  let workflowCutoff := cutoff time policy.workflowRecordsDays
  let documentIds := dueDocumentIds tenantId policy time db
  { db with
    telegramUpdates :=
      db.telegramUpdates.filter fun row =>
        ¬ UpdateDue tenantId (cutoff time policy.operationalMetadataDays) row
    messages :=
      db.messages.filter fun row =>
        ¬ MessageDue tenantId (cutoff time policy.messageContentDays) row
    bookingDrafts :=
      Table.update (bookingDrafts.Due tenantId workflowCutoff) (bookingDrafts.remove serverNow)
        db.bookingDrafts
    bookings :=
      Table.update (bookings.Due tenantId workflowCutoff) (bookings.remove serverNow) db.bookings
    leads := Table.update (leads.Due tenantId workflowCutoff) (leads.remove serverNow) db.leads
    qualificationSessions :=
      Table.update (qualificationSessions.Due tenantId workflowCutoff)
        (qualificationSessions.remove serverNow) db.qualificationSessions
    handoffCases :=
      Table.update (handoffCases.Due tenantId workflowCutoff) (handoffCases.remove serverNow)
        db.handoffCases
    knowledgeChunks :=
      db.knowledgeChunks.filter fun row => ¬ (row.tenantId = tenantId ∧ row.documentId ∈ documentIds)
    knowledgeDocuments :=
      db.knowledgeDocuments.filter fun row => ¬ (row.tenantId = tenantId ∧ row.id ∈ documentIds)
    aiOperations :=
      db.aiOperations.filter fun row =>
        ¬ OperationDue tenantId (cutoff time policy.aiTelemetryDays) row }

/-- What `_apply_retention` leaves. -/
def retained (serverNow : Int) (db : RetentionDatabase) : RetentionDatabase :=
  removeDue tenantId policy time serverNow
    (anonymizeCustomers tenantId time (dueCustomerIds tenantId policy time db) db)

end Policy

/-! ## A run -/

/-- `_replay` -/
def replay (rows : List PrivacyActionRow) (tenantId : TenantId) (key : Text) (actionType : String)
    (targetId : Option Text) : Except Failure (Option PrivacyResult) :=
  match rows.find? fun row => row.tenantId = tenantId ∧ row.idempotencyKey = key with
  | none => pure none
  | some row =>
      if row.actionType ≠ actionType ∨ row.targetId ≠ targetId then
        throw (.privacy "Privacy idempotency key is already used for another operation"
          "privacy.idempotency_conflict")
      else
        pure (some
          { actionId := some row.id
            action := row.actionType
            dryRun := false
            policyVersion := row.policyVersion
            counts := row.resultCounts
            idempotentReplay := true })

section Run

variable (env : Environment) (tenantId : TenantId) (policy : RetentionPolicy)

/-- The statement that finds the policy, and its refusal -/
def requirePolicy (db : RetentionDatabase) : Tx RetentionDatabase Failure Unit :=
  Tx.require
    (∃ stored ∈ db.retentionPolicies,
      stored.tenantId = tenantId ∧ stored.version = policy.version)
    (.privacy "Retention policy changed before execution" "privacy.policy_conflict")

/-- `run_retention` with `dry_run`; what the transaction wrote is nothing. -/
def previewRetention : Tx RetentionDatabase Failure PrivacyResult := do
  let db ← get
  requirePolicy tenantId policy db
  pure
    { actionId := none
      action := "retention_preview"
      dryRun := true
      policyVersion := policy.version
      counts := (retentionCounts tenantId policy env.now db).asDict }

variable (idempotencyKey actorId : Text)

/-- The action a run stores. -/
def executionAction (applied : List (String × Nat)) : PrivacyActionRow where
  id := env.newId
  tenantId := tenantId
  actionType := "retention_execution"
  targetId := none
  idempotencyKey := idempotencyKey
  policyVersion := policy.version
  resultCounts := applied

/-- The audit event of a run -/
def executionAudit : AuditEventRow where
  tenantId := tenantId
  actorId := actorId
  action := "privacy.retention_executed"
  targetType := "retention_policy"
  targetId := UUID.str tenantId
  occurredAt := env.now

/-- `run_retention` without `dry_run` -/
def runRetention : Tx RetentionDatabase Failure PrivacyResult := do
  let db ← get
  match ← Tx.lift (replay db.privacyActions tenantId idempotencyKey "retention_execution" none) with
  | some result => pure result
  | none => do
      requirePolicy tenantId policy db
      let applied := (retentionCounts tenantId policy env.now db).asDict
      let action := executionAction env tenantId policy idempotencyKey applied
      modify fun db =>
        { retained tenantId policy env.now env.serverNow db with
          privacyActions := db.privacyActions ++ [action]
          auditEvents := db.auditEvents ++ [executionAudit env tenantId actorId] }
      pure
        { actionId := some action.id
          action := action.actionType
          dryRun := false
          policyVersion := policy.version
          counts := applied }

end Run

/-! ## A run that is no replay -/

section Inversion

variable {env : Environment} {tenantId : TenantId} {policy : RetentionPolicy}
  {idempotencyKey actorId : Text} {db written : RetentionDatabase} {result : PrivacyResult}

theorem replay_eq_none_iff {rows : List PrivacyActionRow} {actionType : String}
    {targetId : Option Text} :
    replay rows tenantId idempotencyKey actionType targetId = .ok none ↔
      ∀ row ∈ rows, row.tenantId = tenantId → row.idempotencyKey ≠ idempotencyKey := by
  rw [replay]
  split
  · next hnone =>
      rw [List.find?_eq_none] at hnone
      simp only [except_pure_eq_ok, true_iff]
      intro row hrow htenant hkey
      exact hnone row hrow (decide_eq_true ⟨htenant, hkey⟩)
  · next row hfound =>
      obtain ⟨hrow, htenant, hkey⟩ := Table.of_find? hfound
      have hused : ¬ ∀ row ∈ rows, row.tenantId = tenantId → row.idempotencyKey ≠ idempotencyKey :=
        fun hunused => hunused row hrow htenant hkey
      simp only [hused, iff_false]
      split
      · intro hthrow
        cases hthrow
      · simp [except_pure_eq_ok]

/-- A replay says so. -/
theorem replayed_of_replay {rows : List PrivacyActionRow} {actionType : String}
    {targetId : Option Text}
    (hreplay : replay rows tenantId idempotencyKey actionType targetId = .ok (some result)) :
    result.idempotentReplay = true := by
  rw [replay] at hreplay
  split at hreplay
  · simp [except_pure_eq_ok] at hreplay
  · split at hreplay
    · cases hreplay
    · obtain rfl := Option.some.inj (except_pure_eq_ok.mp hreplay)
      rfl

/-- The tenant's policy is the one the caller read. -/
def PolicyStored (tenantId : TenantId) (policy : RetentionPolicy) (db : RetentionDatabase) : Prop :=
  ∃ stored ∈ db.retentionPolicies, stored.tenantId = tenantId ∧ stored.version = policy.version

instance (tenantId : TenantId) (policy : RetentionPolicy) (db : RetentionDatabase) :
    Decidable (PolicyStored tenantId policy db) :=
  inferInstanceAs (Decidable (∃ _ ∈ _, _))

/-- The key names no action of the tenant. -/
def KeyUnused (tenantId : TenantId) (idempotencyKey : Text) (db : RetentionDatabase) : Prop :=
  ∀ row ∈ db.privacyActions, row.tenantId = tenantId → row.idempotencyKey ≠ idempotencyKey

instance (tenantId : TenantId) (idempotencyKey : Text) (db : RetentionDatabase) :
    Decidable (KeyUnused tenantId idempotencyKey db) :=
  inferInstanceAs (Decidable (∀ _ ∈ _, _))

/-- What an execution leaves. -/
def executed (env : Environment) (tenantId : TenantId) (policy : RetentionPolicy)
    (idempotencyKey actorId : Text) (db : RetentionDatabase) : RetentionDatabase :=
  { retained tenantId policy env.now env.serverNow db with
    privacyActions := db.privacyActions ++
      [executionAction env tenantId policy idempotencyKey
        (retentionCounts tenantId policy env.now db).asDict]
    auditEvents := db.auditEvents ++ [executionAudit env tenantId actorId] }

/-- What an execution returns. -/
def executionResult (env : Environment) (tenantId : TenantId) (policy : RetentionPolicy)
    (db : RetentionDatabase) : PrivacyResult where
  actionId := some env.newId
  action := "retention_execution"
  dryRun := false
  policyVersion := policy.version
  counts := (retentionCounts tenantId policy env.now db).asDict

/-- A run replays what its key names, or executes the policy under a key that names nothing. -/
theorem runRetention_eq_ok :
    (runRetention env tenantId policy idempotencyKey actorId).run db = .ok (result, written) ↔
      (replay db.privacyActions tenantId idempotencyKey "retention_execution" none =
          .ok (some result) ∧ written = db) ∨
        KeyUnused tenantId idempotencyKey db ∧ PolicyStored tenantId policy db ∧
          result = executionResult env tenantId policy db ∧
          written = executed env tenantId policy idempotencyKey actorId db := by
  simp only [runRetention, Tx.run_get_bind_eq_ok, Tx.run_lift_bind_eq_ok]
  constructor
  · rintro ⟨value, hreplay, hrest⟩
    cases value with
    | some found =>
        cases Tx.run_pure_eq_ok.mp hrest
        exact .inl ⟨hreplay, rfl⟩
    | none =>
        simp only [requirePolicy, Tx.run_require_bind_eq_ok, Tx.run_modify_bind_eq_ok,
          Tx.run_pure_eq_ok, Prod.mk.injEq] at hrest
        exact .inr ⟨replay_eq_none_iff.mp hreplay, hrest⟩
  · rintro (⟨hreplay, rfl⟩ | ⟨hunused, hrest⟩)
    · exact ⟨some result, hreplay, Tx.run_pure_eq_ok.mpr rfl⟩
    · refine ⟨none, replay_eq_none_iff.mpr hunused, ?_⟩
      simp only [requirePolicy, Tx.run_require_bind_eq_ok, Tx.run_modify_bind_eq_ok,
        Tx.run_pure_eq_ok, Prod.mk.injEq]
      exact hrest

/-- A run that is no replay executes the policy. -/
theorem executed_of_run
    (hrun : (runRetention env tenantId policy idempotencyKey actorId).run db = .ok (result, written))
    (hfresh : result.idempotentReplay = false) :
    KeyUnused tenantId idempotencyKey db ∧ PolicyStored tenantId policy db ∧
      result = executionResult env tenantId policy db ∧
      written = executed env tenantId policy idempotencyKey actorId db := by
  rcases runRetention_eq_ok.mp hrun with ⟨hreplay, _⟩ | hexecuted
  · rw [replayed_of_replay hreplay] at hfresh
    cases hfresh
  · exact hexecuted

end Inversion

end BusinessAssistant.Persistence.Retention
