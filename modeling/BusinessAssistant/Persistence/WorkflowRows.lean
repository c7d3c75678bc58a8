/-
# Rows of qualification and handoff

The tables the qualification, handoff and privacy stores read and write, beside
those of booking. What is kept as JSON is kept here as the values JSON has text
for; a schema's definition is a list of records of such values.
-/

import BusinessAssistant.Application.HandoffModels
import BusinessAssistant.Application.LeadModels
import BusinessAssistant.Persistence.Rows

namespace BusinessAssistant.Persistence

open BusinessAssistant.Domain BusinessAssistant.Application

/-! ## JSON -/

/-- The JSON values the stores write: scalars and lists of strings. -/
inductive JsonValue
  | null
  | bool (value : Bool)
  | int (value : Int)
  | text (value : Text)
  | texts (values : List Text)
  deriving DecidableEq

/-! ## Schemas -/

structure ValidationDefinition where
  minLength : Option Int
  maxLength : Option Int
  minimum : Option Text
  maximum : Option Text
  options : List Text
  pattern : Option Text
  deriving DecidableEq

structure ScoreRuleDefinition where
  code : Text
  operator : String
  expected : JsonValue
  points : Int
  deriving DecidableEq

structure HandoffTriggerDefinition where
  code : Text
  operator : String
  expected : JsonValue
  reasonCode : Text
  priority : Text
  deriving DecidableEq

structure FieldDefinition where
  key : Text
  label : Text
  prompt : Text
  fieldType : String
  validation : ValidationDefinition
  required : Bool
  order : Int
  sensitivity : String
  scoreRules : List ScoreRuleDefinition
  handoffTriggers : List HandoffTriggerDefinition
  deriving DecidableEq

structure GradeBandDefinition where
  minimumScore : Int
  grade : Text
  deriving DecidableEq

@[ext]
structure QualificationSchemaRow where
  id : QualificationSchemaId
  tenantId : TenantId
  code : Text
  version : Int
  title : Text
  consentVersion : Text
  consentPurpose : Text
  definition : List FieldDefinition
  gradeBands : List GradeBandDefinition
  sessionTtlMinutes : Int
  handoffResponseMinutes : Int
  published : Bool
  active : Bool
  versionPositive : 1 ≤ version
  sessionTtlValid : 5 ≤ sessionTtlMinutes ∧ sessionTtlMinutes ≤ 10080
  handoffResponseValid : 1 ≤ handoffResponseMinutes ∧ handoffResponseMinutes ≤ 10080

instance : DecidableEq QualificationSchemaRow := fun _ _ => decidable_of_iff _ QualificationSchemaRow.ext_iff.symm

/-! ## Sessions -/

structure QualificationSessionRow where
  id : QualificationSessionId
  tenantId : TenantId
  customerId : CustomerId
  conversationId : ConversationId
  schemaId : QualificationSchemaId
  schemaCode : Text
  schemaVersion : Int
  status : QualificationSessionStatus
  answers : List (Text × JsonValue)
  currentFieldKey : Option Text
  expiresAt : Int
  consentDecision : Option ConsentDecision
  consentAt : Option Int
  leadId : Option LeadId
  schemaVersionPositive : 1 ≤ schemaVersion
  deriving DecidableEq

structure QualificationConsentRow where
  tenantId : TenantId
  sessionId : QualificationSessionId
  customerId : CustomerId
  decision : ConsentDecision
  consentVersion : Text
  purpose : Text
  decidedAt : Int
  deriving DecidableEq

structure QualificationSessionUpdateRow where
  tenantId : TenantId
  sessionId : QualificationSessionId
  updateKey : Text
  operation : String
  processedAt : Int
  deriving DecidableEq

/-! ## Leads and handoff cases -/

/-- A lead with its answers as JSON. -/
@[ext]
structure LeadRow where
  id : LeadId
  tenantId : TenantId
  customerId : CustomerId
  conversationId : ConversationId
  schemaCode : Text
  schemaVersion : Int
  source : Text
  answers : List (Text × JsonValue)
  status : LeadStatus
  score : Option Int
  priority : Option LeadPriority
  scoreExplanation : Option ScoreExplanation
  consentAt : Option Int
  qualificationSnapshot : Option (QualificationSnapshot JsonValue)
  qualifiedAt : Option Int
  updatedAt : Int
  schemaVersionPositive : 1 ≤ schemaVersion
  scoreValid : ∀ points ∈ score, 0 ≤ points ∧ points ≤ 100

instance : DecidableEq LeadRow := fun _ _ => decidable_of_iff _ LeadRow.ext_iff.symm

structure HandoffCaseRow where
  id : HandoffId
  tenantId : TenantId
  conversationId : ConversationId
  customerId : Option CustomerId
  leadId : Option LeadId
  reasonCode : Text
  priority : Text
  status : HandoffStatus
  assigneeId : Option Text
  summary : Text
  context : List (String × ContextValue)
  idempotencyKey : Option Text
  responseDueAt : Int
  createdAt : Int
  deriving DecidableEq

/-! ## Customers -/

inductive CustomerStatus
  | active
  | blocked
  | anonymized
  deriving DecidableEq, Repr

structure CustomerRow where
  id : CustomerId
  tenantId : TenantId
  displayName : Option Text
  phoneRaw : Option Text
  phoneE164 : Option Text
  phoneVerified : Bool
  email : Option Text
  contactConsentAt : Option Int
  status : CustomerStatus
  deriving DecidableEq

structure ChannelIdentityRow where
  id : UUID
  tenantId : TenantId
  customerId : CustomerId
  externalUserId : Text
  externalChatId : Text
  deriving DecidableEq

structure MessageRow where
  tenantId : TenantId
  conversationId : ConversationId
  deriving DecidableEq

structure RetentionPolicyRow where
  tenantId : TenantId
  version : Nat
  deriving DecidableEq

structure PrivacyActionRow where
  id : UUID
  tenantId : TenantId
  actionType : String
  targetId : Option Text
  idempotencyKey : Text
  policyVersion : Nat
  resultCounts : List (String × Nat)
  deriving DecidableEq

/-! ## The database -/

/-- The committed rows of all these tables, and of those of booking. -/
structure WorkflowDatabase extends Database where
  qualificationSchemas : List QualificationSchemaRow := []
  qualificationSessions : List QualificationSessionRow := []
  qualificationConsents : List QualificationConsentRow := []
  qualificationSessionUpdates : List QualificationSessionUpdateRow := []
  leads : List LeadRow := []
  handoffCases : List HandoffCaseRow := []
  customers : List CustomerRow := []
  channelIdentities : List ChannelIdentityRow := []
  messages : List MessageRow := []
  retentionPolicies : List RetentionPolicyRow := []
  privacyActions : List PrivacyActionRow := []
  deriving DecidableEq

structure TenantPublicProfileRow where
  tenantId : TenantId
  scheduleId : ScheduleId
  deriving DecidableEq

/-- The configuration of booking, and which schedule a tenant answers by. -/
structure WorkflowCatalogue extends Catalogue where
  publicProfiles : List TenantPublicProfileRow

end BusinessAssistant.Persistence
