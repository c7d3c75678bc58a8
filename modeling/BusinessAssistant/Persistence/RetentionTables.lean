/-
# Tables of retention

The rows retention reads and writes, with the times they were created or last written. Of
a workflow record it looks at whose it is, its status and its content; the five tables of
such records differ in what these are, and in what is done to them.
-/

import BusinessAssistant.Persistence.KnowledgeRows
import BusinessAssistant.Persistence.PrivacyStore
import BusinessAssistant.Persistence.TelegramLedger

namespace BusinessAssistant.Application

open BusinessAssistant.Domain

/-- `RetentionPolicy` -/
structure RetentionPolicy where
  tenantId : TenantId
  version : Nat
  operationalMetadataDays : Nat
  messageContentDays : Nat
  customerContactDays : Nat
  workflowRecordsDays : Nat
  knowledgeArchiveDays : Nat
  aiTelemetryDays : Nat
  automaticExecutionEnabled : Bool := false
  versionPositive : 1 ≤ version
  periodsValid : ∀ period ∈ [operationalMetadataDays, messageContentDays, customerContactDays,
    workflowRecordsDays, knowledgeArchiveDays, aiTelemetryDays], 1 ≤ period ∧ period ≤ 3650
  deriving DecidableEq

end BusinessAssistant.Application

namespace BusinessAssistant.Persistence.Retention

open BusinessAssistant.Domain BusinessAssistant.Application BusinessAssistant.Foundation

/-! ## Workflow records -/

/-- A row of a workflow; only a handoff case can be without a customer. -/
structure WorkflowRecord (S C : Type) where
  id : UUID
  tenantId : TenantId
  customerId : Option CustomerId
  status : S
  content : C
  updatedAt : Int
  deriving DecidableEq

/-- A column of JSON that may be null. `None` given to it is stored as the null of JSON,
which is no null of the database. -/
inductive JsonColumn (α : Type)
  | sqlNull
  | jsonNull
  | value (value : α)
  deriving DecidableEq

structure DraftContent where
  customerName : Option Text
  customerPhone : Option Text
  customerNote : Option Text
  deriving DecidableEq

structure BookingContent where
  customerSnapshot : List (String × JsonValue)
  notes : Option Text
  deriving DecidableEq

structure LeadContent where
  answers : List (Text × JsonValue)
  qualificationSnapshot : JsonColumn (QualificationSnapshot JsonValue)
  deriving DecidableEq

structure SessionContent where
  answers : List (Text × JsonValue)
  currentFieldKey : Option Text
  deriving DecidableEq

structure CaseContent where
  summary : Text
  context : List (String × ContextValue)
  deriving DecidableEq

/-- What retention goes by in a table of workflow records, and what it writes. -/
structure WorkflowTable (S C : Type) [DecidableEq S] where
  /-- The statuses `_eligible_customer_ids` looks for. -/
  pending : List S
  /-- The statuses `_anonymize_customer_rows` ends, and how. -/
  ended : List S
  endStatus : S
  /-- What `_anonymize_customer_rows` leaves of a content. -/
  anonymized : C → C
  /-- The statuses of `_workflow_conditions`, and the condition on the content. -/
  terminal : List S
  Personal : C → Prop
  decidablePersonal : DecidablePred Personal
  /-- What `_apply_retention` leaves of a content. -/
  removed : C → C

instance {S C : Type} [DecidableEq S] (table : WorkflowTable S C) : DecidablePred table.Personal :=
  table.decidablePersonal

/-- `BookingDraftRow` -/
def bookingDrafts : WorkflowTable DraftStatus DraftContent where
  pending := []
  ended := [.active]
  endStatus := .cancelled
  anonymized _ := { customerName := none, customerPhone := none, customerNote := none }
  terminal := [.cancelled, .expired, .confirmed]
  Personal content :=
    content.customerName ≠ none ∨ content.customerPhone ≠ none ∨ content.customerNote ≠ none
  decidablePersonal _ := inferInstanceAs (Decidable (_ ∨ _))
  removed _ := { customerName := none, customerPhone := none, customerNote := none }

/-- `BookingRow` -/
def bookings : WorkflowTable BookingStatus BookingContent where
  pending := [.draft, .held, .confirmed, .reschedulePending]
  ended := []
  endStatus := .cancelled
  anonymized _ := { customerSnapshot := [], notes := none }
  terminal := [.completed, .cancelled, .noShow, .expired]
  Personal content := content.customerSnapshot ≠ [] ∨ content.notes ≠ none
  decidablePersonal _ := inferInstanceAs (Decidable (_ ∨ _))
  removed _ := { customerSnapshot := [], notes := none }

/-- `LeadRow` -/
def leads : WorkflowTable LeadStatus LeadContent where
  pending := [.new, .qualifying, .qualified, .contacted, .converted]
  ended := []
  endStatus := .closed
  anonymized _ := { answers := [], qualificationSnapshot := .jsonNull }
  terminal := [.unqualified, .closed]
  Personal content := content.answers ≠ [] ∨ content.qualificationSnapshot ≠ .sqlNull
  decidablePersonal _ := inferInstanceAs (Decidable (_ ∨ _))
  removed _ := { answers := [], qualificationSnapshot := .jsonNull }

/-- `QualificationSessionRow` -/
def qualificationSessions : WorkflowTable QualificationSessionStatus SessionContent where
  pending := [.awaitingConsent, .inProgress, .reviewing]
  ended := [.awaitingConsent, .inProgress, .reviewing]
  endStatus := .cancelled
  anonymized _ := { answers := [], currentFieldKey := none }
  terminal := [.completed, .declined, .cancelled, .expired]
  Personal content := content.answers ≠ [] ∨ content.currentFieldKey ≠ none
  decidablePersonal _ := inferInstanceAs (Decidable (_ ∨ _))
  removed _ := { answers := [], currentFieldKey := none }

/-- `HandoffCaseRow` -/
def handoffCases : WorkflowTable HandoffStatus CaseContent where
  pending := [.queued, .claimed, .reopened]
  ended := [.queued, .claimed, .reopened]
  endStatus := .cancelled
  anonymized _ :=
    { summary := "Customer data removed by privacy workflow.".toList
      context := [] }
  terminal := [.resolved, .cancelled]
  Personal content :=
    content.context ≠ [] ∨ content.summary ≠ "Personal content removed by retention policy.".toList
  decidablePersonal _ := inferInstanceAs (Decidable (_ ∨ _))
  removed _ :=
    { summary := "Personal content removed by retention policy.".toList
      context := [] }

namespace WorkflowTable

variable {S C : Type} [DecidableEq S] (table : WorkflowTable S C)

/-- A record of one of these customers -/
def OfCustomers (tenantId : TenantId) (customerIds : List CustomerId) (row : WorkflowRecord S C) :
    Prop :=
  row.tenantId = tenantId ∧ ∃ customerId ∈ row.customerId, customerId ∈ customerIds

instance (tenantId : TenantId) (customerIds : List CustomerId) :
    DecidablePred (OfCustomers (S := S) (C := C) tenantId customerIds) :=
  fun row => decidable_of_iff (row.tenantId = tenantId ∧
      (row.customerId.any fun customerId => customerId ∈ customerIds) = true) <| by
    rw [OfCustomers, Option.any_eq_true]
    simp [Option.mem_def]

/-- Something of a customer is going on here. -/
def HasPending (tenantId : TenantId) (customerId : CustomerId) (rows : List (WorkflowRecord S C)) :
    Prop :=
  ∃ row ∈ rows, row.tenantId = tenantId ∧ row.customerId = some customerId ∧
    row.status ∈ table.pending

instance (tenantId : TenantId) (customerId : CustomerId) (rows : List (WorkflowRecord S C)) :
    Decidable (table.HasPending tenantId customerId rows) :=
  inferInstanceAs (Decidable (∃ _ ∈ _, _))

/-- What `_anonymize_customer_rows` leaves of a record. -/
def anonymize (writtenAt : Int) (row : WorkflowRecord S C) : WorkflowRecord S C :=
  { row with
    status := if row.status ∈ table.ended then table.endStatus else row.status
    content := table.anonymized row.content
    updatedAt := writtenAt }

/-- The condition of `_workflow_conditions` on a record -/
def Due (tenantId : TenantId) (cutoff : Int) (row : WorkflowRecord S C) : Prop :=
  row.tenantId = tenantId ∧ row.status ∈ table.terminal ∧ row.updatedAt < cutoff ∧
    table.Personal row.content

instance (tenantId : TenantId) (cutoff : Int) : DecidablePred (table.Due tenantId cutoff) :=
  fun _ => inferInstanceAs (Decidable (_ ∧ _ ∧ _ ∧ _))

/-- What `_apply_retention` leaves of a record; the server writes when. -/
def remove (serverNow : Int) (row : WorkflowRecord S C) : WorkflowRecord S C :=
  { row with content := table.removed row.content, updatedAt := serverNow }

end WorkflowTable

/-! ## Other rows -/

structure CustomerRecord extends CustomerRow where
  updatedAt : Int
  deriving DecidableEq

structure ConversationRecord extends ConversationRow where
  updatedAt : Int
  deriving DecidableEq

structure MessageRecord extends MessageRow where
  id : UUID
  createdAt : Int
  deriving DecidableEq

structure SlotHoldRecord where
  id : SlotHoldId
  tenantId : TenantId
  customerId : CustomerId
  status : HoldStatus
  updatedAt : Int
  deriving DecidableEq

structure KnowledgeDocumentRecord where
  id : DocumentId
  tenantId : TenantId
  status : KnowledgeStatus
  updatedAt : Int
  deriving DecidableEq

structure KnowledgeChunkRecord where
  id : UUID
  tenantId : TenantId
  documentId : DocumentId
  deriving DecidableEq

structure AIOperationRow where
  id : UUID
  tenantId : TenantId
  createdAt : Int
  deriving DecidableEq

structure AuditEventRow where
  tenantId : TenantId
  actorId : Text
  action : String
  targetType : String
  targetId : Text
  occurredAt : Int
  deriving DecidableEq

/-- The committed rows of all these tables. -/
structure RetentionDatabase where
  tenants : List TenantRow := []
  customers : List CustomerRecord := []
  channelIdentities : List ChannelIdentityRow := []
  conversations : List ConversationRecord := []
  messages : List MessageRecord := []
  bookingDrafts : List (WorkflowRecord DraftStatus DraftContent) := []
  slotHolds : List SlotHoldRecord := []
  bookings : List (WorkflowRecord BookingStatus BookingContent) := []
  leads : List (WorkflowRecord LeadStatus LeadContent) := []
  qualificationSessions : List (WorkflowRecord QualificationSessionStatus SessionContent) := []
  handoffCases : List (WorkflowRecord HandoffStatus CaseContent) := []
  telegramUpdates : List TelegramUpdateRow := []
  knowledgeDocuments : List KnowledgeDocumentRecord := []
  knowledgeChunks : List KnowledgeChunkRecord := []
  aiOperations : List AIOperationRow := []
  auditEvents : List AuditEventRow := []
  retentionPolicies : List RetentionPolicy := []
  privacyActions : List PrivacyActionRow := []

end BusinessAssistant.Persistence.Retention
