/-
# Qualification use cases

`QualificationApplication` and `QualificationAdministration`. Every operation reads
in one transaction and writes in a later one, and other requests may be served in
between.
-/

import BusinessAssistant.Application.Ports

namespace BusinessAssistant.Application

open BusinessAssistant.Domain BusinessAssistant.Foundation

variable [PythonText]

namespace QualificationApplication

/-- `start` -/
def start (schemaCode : Text) (identity : TelegramIdentity) :
    Service (QualificationSession × QualificationSchema) := do
  let now ← Service.clockNow
  let existing ← Service.activeSession identity now
  let published ← Service.publishedSchema identity.tenantId schemaCode
  let schema ← Program.fetch published (.qualification "Qualification is not configured")
  match existing with
  | some session => pure (session, schema)
  | none => do
      let session ← Service.start identity schema now
      pure (session, schema)

/-- `active` -/
def active (identity : TelegramIdentity) :
    Service (Option (QualificationSession × QualificationSchema)) := do
  let now ← Service.clockNow
  let found ← Service.activeSession identity now
  match found with
  | none => pure none
  | some session => do
      let schema ← Service.schema identity.tenantId session.schemaId
      match schema with
      | none => pure none
      | some schema =>
          if schema.version ≠ session.schemaVersion then pure none else pure (some (session, schema))

/-- `consent` -/
def consent (identity : TelegramIdentity) (sessionId : QualificationSessionId) (accepted : Bool)
    (updateKey : Text) : Service (QualificationSession × Option QualificationField) := do
  let now ← Service.clockNow
  let session ← Service.decideConsent identity sessionId (if accepted then .accepted else .declined) now updateKey
  let active ← active identity
  match active with
  | none => pure (session, none)
  | some (_, schema) =>
      pure (session, if accepted then nextMissingField schema session.answers else none)

/-- `answer` -/
def answer (identity : TelegramIdentity) (raw updateKey : Text) :
    Service (QualificationSession × Option QualificationField) := do
  let active ← active identity
  let (session, schema) ← Program.fetch active (.valueError "No active qualification")
  let field ← Program.fetch
    (schema.fields.find? fun item => some item.key = session.currentFieldKey)
    (.valueError "Qualification is not accepting an answer")
  let answer ← Program.lift (validateAnswer field raw)
  let now ← Service.clockNow
  let session ← Service.recordAnswer identity session.id field.key answer now updateKey
  pure (session, nextMissingField schema session.answers)

/-- `edit` -/
def edit (identity : TelegramIdentity) (sessionId : QualificationSessionId) (fieldKey : Text) :
    Service QualificationField := do
  let active ← active identity
  let (session, schema) ← Program.fetch active (.valueError "No active qualification")
  let field ← Program.fetch (schema.fields.find? fun item => item.key = fieldKey)
    (.valueError "Qualification field is unavailable")
  Program.require (session.id = sessionId) (.valueError "Qualification field is unavailable")
  let _ ← Service.clockNow
  let _ ← Service.review identity session.id (some field.key)
  pure field

/-- `{"A": HIGH, "B": NORMAL}.get(grade, LOW)` -/
def priorityOf (grade : Text) : LeadPriority :=
  if grade = ['A'] then .high else if grade = ['B'] then .normal else .low

/-- The lead `submit` builds before it is scored. -/
def newLead (leadId : LeadId) (identity : TelegramIdentity) (schema : QualificationSchema)
    (answers : List (Text × Answer)) : Lead Answer where
  id := leadId
  tenantId := identity.tenantId
  customerId := identity.customerId
  conversationId := identity.conversationId
  schemaCode := schema.code
  schemaVersion := schema.version
  source := "telegram".toList
  answers := answers
  status := .qualifying
  score := none
  priority := none
  scoreExplanation := none
  consentAt := none
  qualificationSnapshot := none
  qualifiedAt := none
  identityPresent := ⟨schema.identityValid.1, schema.identityValid.2.1, by decide⟩
  scoreValid := by simp

/-- The lead `submit` hands to the store. -/
def qualifiedLead (leadId : LeadId) (identity : TelegramIdentity) (schema : QualificationSchema)
    (answers : List (Text × Answer)) (score : ScoreResult) (consentAt qualifiedAt : Int) :
    Except DomainError (Lead Answer) := do
  let lead := (newLead leadId identity schema answers).grantConsent consentAt
  let scored ← lead.applyDeterministicScore score.score (priorityOf score.grade)
    { grade := score.grade, matchedRules := score.matchedRules }
  scored.qualify
    { schemaCode := schema.code, schemaVersion := schema.version, answers := answers } qualifiedAt

/-- `submit` -/
def submit (identity : TelegramIdentity) (sessionId : QualificationSessionId) (updateKey : Text) :
    Service QualificationSession := do
  let active ← active identity
  let (session, schema) ← Program.fetch active (.valueError "No active qualification")
  Program.require (session.id = sessionId ∧ nextMissingField schema session.answers = none)
    (.valueError "Qualification is incomplete")
  let score ← Program.lift (scoreAnswers schema session.answers)
  let leadId ← Service.newLeadId
  let consentAt ← Program.fetch session.consentAt .assertion
  let qualifiedAt ← Service.clockNow
  let lead ← Program.lift <| Except.mapError .domain
    (qualifiedLead leadId identity schema session.answers score consentAt qualifiedAt)
  let trigger ← Program.lift (detectHandoff schema session.answers)
  let now ← Service.clockNow
  Service.complete identity session.id lead score trigger now updateKey

/-- `cancel` -/
def cancel (identity : TelegramIdentity) : Service Bool := do
  let _ ← Service.clockNow
  Service.cancel identity

end QualificationApplication

namespace QualificationAdministration

/-- `add_schema`, for an authorized principal of a tenant -/
def addSchema (tenantId : TenantId) (schema : QualificationSchema) : Service QualificationSchema := do
  Program.require (schema.tenantId = tenantId ∧ schema.published = false)
    (.qualification "New qualification schema versions must be tenant-owned drafts")
  Service.addSchema schema

/-- `publish`, for an authorized principal of a tenant -/
def publish (tenantId : TenantId) (schemaId : QualificationSchemaId) :
    Service QualificationSchema :=
  Service.publishSchema tenantId schemaId

end QualificationAdministration

end BusinessAssistant.Application
