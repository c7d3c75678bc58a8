/-
# What the qualification and handoff transactions write

The kinds of write, each a function from database to database, and the names the
stores build for their events and keys.
-/

import BusinessAssistant.Application.Telegram
import BusinessAssistant.Persistence.SchemaStorage
import BusinessAssistant.Persistence.Writes

namespace BusinessAssistant.Persistence

open BusinessAssistant.Domain BusinessAssistant.Application BusinessAssistant.Foundation

/-! ## Writes to one table -/

namespace WorkflowDatabase

variable (db : WorkflowDatabase)

/-- Write the attributes of one session by primary key. -/
def updateSession (id : QualificationSessionId)
    (change : QualificationSessionRow → QualificationSessionRow) : WorkflowDatabase :=
  { db with
    qualificationSessions := Table.update (fun row => row.id = id) change db.qualificationSessions }

def insertSession (session : QualificationSessionRow) : WorkflowDatabase :=
  { db with qualificationSessions := db.qualificationSessions ++ [session] }

def insertConsent (consent : QualificationConsentRow) : WorkflowDatabase :=
  { db with qualificationConsents := db.qualificationConsents ++ [consent] }

def insertUpdate (update : QualificationSessionUpdateRow) : WorkflowDatabase :=
  { db with qualificationSessionUpdates := db.qualificationSessionUpdates ++ [update] }

def insertSchema (schema : QualificationSchemaRow) : WorkflowDatabase :=
  { db with qualificationSchemas := db.qualificationSchemas ++ [schema] }

def insertLead (lead : LeadRow) : WorkflowDatabase := { db with leads := db.leads ++ [lead] }

/-- Write the attributes of one lead by primary key. -/
def updateLead (id : LeadId) (change : LeadRow → LeadRow) : WorkflowDatabase :=
  { db with leads := Table.update (fun row => row.id = id) change db.leads }

def insertCase (case : HandoffCaseRow) : WorkflowDatabase :=
  { db with handoffCases := db.handoffCases ++ [case] }

/-- Write the attributes of one case by primary key. -/
def updateCase (id : HandoffId) (change : HandoffCaseRow → HandoffCaseRow) : WorkflowDatabase :=
  { db with handoffCases := Table.update (fun row => row.id = id) change db.handoffCases }

/-- Write the attributes of one conversation by primary key. -/
def updateConversation (id : ConversationId) (change : ConversationRow → ConversationRow) :
    WorkflowDatabase :=
  { db with
    conversations := Table.update (fun row => row.id = id) change db.conversations }

def addEvent (event : OutboxEventRow) : WorkflowDatabase :=
  { db with outboxEvents := db.outboxEvents ++ [event] }

/-- `conversation.active_workflow = workflow`, where the conversation exists. -/
def setConversationWorkflow (id : ConversationId) (workflow : Option Text) : WorkflowDatabase :=
  db.updateConversation id fun row => { row with activeWorkflow := workflow }

end WorkflowDatabase

/-! ## Rows of one customer -/

/-- A session of one customer in one conversation. -/
def QualificationSessionRow.OfIdentity (row : QualificationSessionRow)
    (identity : TelegramIdentity) : Prop :=
  row.tenantId = identity.tenantId ∧ row.customerId = identity.customerId ∧
    row.conversationId = identity.conversationId

instance (row : QualificationSessionRow) (identity : TelegramIdentity) :
    Decidable (row.OfIdentity identity) :=
  inferInstanceAs (Decidable (_ ∧ _ ∧ _))

/-- The session that `uq_qualification_sessions_tenant_identity_active` allows one of. -/
def QualificationSessionRow.Active (row : QualificationSessionRow) : Prop :=
  row.status.isActive = true

instance (row : QualificationSessionRow) : Decidable row.Active :=
  inferInstanceAs (Decidable (_ = _))

/-- A case that waits for staff or is with staff. -/
def HandoffCaseRow.Open (row : HandoffCaseRow) : Prop :=
  row.status = .queued ∨ row.status = .claimed ∨ row.status = .reopened

instance (row : HandoffCaseRow) : Decidable row.Open := inferInstanceAs (Decidable (_ ∨ _ ∨ _))

/-- A lead that a later qualification of the same schema replaces. -/
def LeadRow.Replaceable (row : LeadRow) : Prop :=
  row.status = .new ∨ row.status = .qualifying ∨ row.status = .qualified ∨
    row.status = .unqualified

instance (row : LeadRow) : Decidable row.Replaceable :=
  inferInstanceAs (Decidable (_ ∨ _ ∨ _ ∨ _))

namespace WorkflowDatabase

variable (db : WorkflowDatabase)

/-- The active session of an identity. -/
def activeRow? (identity : TelegramIdentity) : Option QualificationSessionRow :=
  db.qualificationSessions.find? fun row => row.OfIdentity identity ∧ row.Active

/-- `session.get(ConversationRow, id)` -/
def conversation? (id : ConversationId) : Option ConversationRow :=
  db.conversations.find? fun row => row.id = id

end WorkflowDatabase

/-! ## Names the stores build -/

/-- `f"qualification:{row.id}"` -/
def qualificationWorkflow (sessionId : QualificationSessionId) : Text :=
  "qualification:".toList ++ sessionId.str

/-- `f"lead-qualified:{row.id}"` -/
def leadQualifiedKey (sessionId : QualificationSessionId) : Text :=
  "lead-qualified:".toList ++ sessionId.str

/-- `f"handoff-qualified:{row.id}"` -/
def handoffQualifiedKey (sessionId : QualificationSessionId) : Text :=
  "handoff-qualified:".toList ++ sessionId.str

/-- `f"qualification:{row.id}:{trigger.reason_code}"` -/
def triggerKey (sessionId : QualificationSessionId) (reasonCode : Text) : Text :=
  qualificationWorkflow sessionId ++ ':' :: reasonCode

/-- `f"handoff:{idempotency_key}"` -/
def handoffQueuedKey (idempotencyKey : Text) : Text := "handoff:".toList ++ idempotencyKey

/-- `_outbox` -/
def outboxEvent (tenantId : TenantId) (aggregateType : String) (aggregateId : UUID)
    (eventType : String) (key : Text) (payload : EventPayload) (now : Int) : OutboxEventRow where
  eventId := eventId tenantId key
  tenantId := tenantId
  aggregateType := aggregateType
  aggregateId := aggregateId
  eventType := eventType
  payload := payload
  status := .pending
  attempts := 0
  availableAt := now
  occurredAt := now

end BusinessAssistant.Persistence
