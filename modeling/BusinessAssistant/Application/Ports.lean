/-
# What the services ask for

The calls the qualification and handoff services make: to the clock, for a new id,
and to the stores. A service is a program of such calls; the stores answer each one
with a transaction of its own.
-/

import BusinessAssistant.Application.HandoffModels
import BusinessAssistant.Application.LeadEngine
import BusinessAssistant.Application.Privacy
import BusinessAssistant.Application.Telegram
import BusinessAssistant.Domain.Scheduling
import BusinessAssistant.Foundation.Requests

namespace BusinessAssistant.Application

open BusinessAssistant.Domain BusinessAssistant.Foundation

variable [PythonText]

inductive WorkflowCall
  /-- `clock.now()` -/
  | now
  /-- `LeadId.new()` -/
  | newLeadId
  | publishedSchema (tenantId : TenantId) (code : Text)
  | schema (tenantId : TenantId) (schemaId : QualificationSchemaId)
  | activeSession (identity : TelegramIdentity) (now : Int)
  | start (identity : TelegramIdentity) (schema : QualificationSchema) (now : Int)
  | decideConsent (identity : TelegramIdentity) (sessionId : QualificationSessionId)
      (decision : ConsentDecision) (now : Int) (updateKey : Text)
  | recordAnswer (identity : TelegramIdentity) (sessionId : QualificationSessionId)
      (fieldKey : Text) (answer : Answer) (now : Int) (updateKey : Text)
  | review (identity : TelegramIdentity) (sessionId : QualificationSessionId)
      (editFieldKey : Option Text)
  | complete (identity : TelegramIdentity) (sessionId : QualificationSessionId)
      (lead : Lead Answer) (score : ScoreResult) (trigger : Option TriggerResult) (now : Int)
      (updateKey : Text)
  | cancel (identity : TelegramIdentity)
  | addSchema (schema : QualificationSchema)
  | publishSchema (tenantId : TenantId) (schemaId : QualificationSchemaId)
  | schedule (tenantId : TenantId)
  | activeHandoff (identity : TelegramIdentity)
  | createOrGet (identity : TelegramIdentity) (request : HandoffRequest) (now : Int)
  | transition (tenantId : TenantId) (handoffId : HandoffId) (action : HandoffAction)
      (actorId : Text)
  | anonymize (tenantId : TenantId) (customerId : CustomerId) (idempotencyKey : Text)
  deriving DecidableEq

/-- What a call returns. -/
def WorkflowCall.Reply : WorkflowCall → Type
  | now => Int
  | newLeadId => LeadId
  | publishedSchema _ _ | schema _ _ => Option QualificationSchema
  | activeSession _ _ => Option QualificationSession
  | start _ _ _ | decideConsent _ _ _ _ _ | recordAnswer _ _ _ _ _ _ | review _ _ _
  | complete _ _ _ _ _ _ _ => QualificationSession
  | cancel _ => Bool
  | addSchema _ | publishSchema _ _ => QualificationSchema
  | schedule _ => BusinessSchedule
  | activeHandoff _ => Option HandoffView
  | createOrGet _ _ _ | transition _ _ _ _ => HandoffView
  | anonymize _ _ _ => PrivacyResult

/-- A request to the services. -/
abbrev Service (α : Type) := Program WorkflowCall WorkflowCall.Reply Failure α

/-! ## The methods of the ports -/

namespace Service

def clockNow : Service Int := Program.perform WorkflowCall.now

def newLeadId : Service LeadId := Program.perform WorkflowCall.newLeadId

def publishedSchema (tenantId : TenantId) (code : Text) : Service (Option QualificationSchema) :=
  Program.perform (WorkflowCall.publishedSchema tenantId code)

def schema (tenantId : TenantId) (schemaId : QualificationSchemaId) :
    Service (Option QualificationSchema) :=
  Program.perform (WorkflowCall.schema tenantId schemaId)

def activeSession (identity : TelegramIdentity) (now : Int) :
    Service (Option QualificationSession) :=
  Program.perform (WorkflowCall.activeSession identity now)

def start (identity : TelegramIdentity) (schema : QualificationSchema) (now : Int) :
    Service QualificationSession :=
  Program.perform (WorkflowCall.start identity schema now)

def decideConsent (identity : TelegramIdentity) (sessionId : QualificationSessionId)
    (decision : ConsentDecision) (now : Int) (updateKey : Text) : Service QualificationSession :=
  Program.perform (WorkflowCall.decideConsent identity sessionId decision now updateKey)

def recordAnswer (identity : TelegramIdentity) (sessionId : QualificationSessionId)
    (fieldKey : Text) (answer : Answer) (now : Int) (updateKey : Text) :
    Service QualificationSession :=
  Program.perform (WorkflowCall.recordAnswer identity sessionId fieldKey answer now updateKey)

def review (identity : TelegramIdentity) (sessionId : QualificationSessionId)
    (editFieldKey : Option Text) : Service QualificationSession :=
  Program.perform (WorkflowCall.review identity sessionId editFieldKey)

def complete (identity : TelegramIdentity) (sessionId : QualificationSessionId)
    (lead : Lead Answer) (score : ScoreResult) (trigger : Option TriggerResult) (now : Int)
    (updateKey : Text) : Service QualificationSession :=
  Program.perform (WorkflowCall.complete identity sessionId lead score trigger now updateKey)

def cancel (identity : TelegramIdentity) : Service Bool :=
  Program.perform (WorkflowCall.cancel identity)

def addSchema (schema : QualificationSchema) : Service QualificationSchema :=
  Program.perform (WorkflowCall.addSchema schema)

def publishSchema (tenantId : TenantId) (schemaId : QualificationSchemaId) :
    Service QualificationSchema :=
  Program.perform (WorkflowCall.publishSchema tenantId schemaId)

end Service

end BusinessAssistant.Application
