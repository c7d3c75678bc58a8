/-
# The stores as a server

Each call of the services answered by its transaction. The same calls make three
systems: any order of store transactions, operations of the services served one
after the other, and operations whose transactions interleave.
-/

import BusinessAssistant.Application.QualificationService
import BusinessAssistant.Foundation.System
import BusinessAssistant.Persistence.PrivacyStore

namespace BusinessAssistant.Persistence

open BusinessAssistant.Domain BusinessAssistant.Application BusinessAssistant.Foundation

variable [PythonText]

/-- The committed rows, and the last reading of the clock. -/
structure WorkflowState where
  db : WorkflowDatabase
  clock : Int
  deriving DecidableEq

/-- The transaction that answers a call; the clock and a new id come from outside. -/
def transactionOf (cfg : WorkflowCatalogue) (env : Environment) :
    (call : WorkflowCall) → Tx WorkflowDatabase Failure call.Reply
  | .now => (pure env.now : Tx WorkflowDatabase Failure Int)
  | .newLeadId => (pure env.newId : Tx WorkflowDatabase Failure LeadId)
  | .publishedSchema tenantId code => QualificationStore.publishedSchema tenantId code
  | .schema tenantId schemaId => QualificationStore.schema tenantId schemaId
  | .activeSession identity now => QualificationStore.activeSession identity now
  | .start identity schema now => QualificationStore.start env identity schema now
  | .decideConsent identity sessionId decision now updateKey =>
      QualificationStore.decideConsent identity sessionId decision now updateKey
  | .recordAnswer identity sessionId fieldKey answer now updateKey =>
      QualificationStore.recordAnswer identity sessionId fieldKey answer now updateKey
  | .review identity sessionId editFieldKey =>
      QualificationStore.review identity sessionId editFieldKey
  | .complete identity sessionId lead score trigger now updateKey =>
      QualificationStore.complete cfg env identity sessionId lead score trigger now updateKey
  | .cancel identity => QualificationStore.cancel identity
  | .addSchema schema => QualificationStore.addSchema schema
  | .publishSchema tenantId schemaId => QualificationStore.publishSchema tenantId schemaId
  | .schedule tenantId => HandoffStore.schedule cfg tenantId
  | .activeHandoff identity => HandoffStore.active identity
  | .createOrGet identity request now => HandoffStore.createOrGet env identity request now
  | .transition tenantId handoffId action actorId =>
      HandoffStore.transition tenantId handoffId action actorId
  | .anonymize tenantId customerId idempotencyKey =>
      PrivacyStore.anonymize env tenantId customerId idempotencyKey

/-- Answer a call: what it returns or raises, and the state it leaves. -/
def serve (cfg : WorkflowCatalogue) (call : WorkflowCall) (env : Environment)
    (s : WorkflowState) : Except Failure call.Reply × WorkflowState :=
  (((transactionOf cfg env call).commit s.db).1,
    { db := ((transactionOf cfg env call).commit s.db).2, clock := env.now })

/-- The clock does not run backwards. -/
def InOrder (s : WorkflowState) (env : Environment) : Prop := s.clock ≤ env.now

instance (s : WorkflowState) : DecidablePred (InOrder s) := fun env =>
  inferInstanceAs (Decidable (s.clock ≤ env.now))

/-- A database before the first transaction of these stores: nothing of what they
write is there, and no conversation waits for staff. -/
def WorkflowDatabase.Fresh (db : WorkflowDatabase) : Prop :=
  db.qualificationSessions = [] ∧ db.qualificationConsents = [] ∧
    db.qualificationSessionUpdates = [] ∧ db.leads = [] ∧ db.handoffCases = [] ∧
    db.outboxEvents = [] ∧ (db.conversations.map (·.id)).Nodup ∧
    (db.qualificationSchemas.map (·.id)).Nodup ∧
    ∀ row ∈ db.conversations, row.status = .activeBot ∨ row.status = .closed

omit [PythonText] in
instance WorkflowDatabase.decidableFresh (db : WorkflowDatabase) : Decidable db.Fresh :=
  inferInstanceAs (Decidable (_ ∧ _ ∧ _ ∧ _ ∧ _ ∧ _ ∧ _ ∧ _ ∧ _))

/-! ## Store transactions in any order -/

/-- A call with what its transaction takes from outside. -/
structure Transaction where
  call : WorkflowCall
  env : Environment
  deriving DecidableEq

/-- Any transactions, one after the other. -/
def transactionSystem (cfg : WorkflowCatalogue) : System WorkflowState Transaction where
  init s := s.db.Fresh
  step s transaction s' := s' = (serve cfg transaction.call transaction.env s).2

/-! ## Operations of the services -/

/-- The operations of customers and administrators. The code of the schema is part
of the deployment. -/
inductive Operation
  | start (identity : TelegramIdentity)
  | active (identity : TelegramIdentity)
  | consent (identity : TelegramIdentity) (sessionId : QualificationSessionId) (accepted : Bool)
      (updateKey : Text)
  | answer (identity : TelegramIdentity) (raw updateKey : Text)
  | edit (identity : TelegramIdentity) (sessionId : QualificationSessionId) (fieldKey : Text)
  | submit (identity : TelegramIdentity) (sessionId : QualificationSessionId) (updateKey : Text)
  | cancel (identity : TelegramIdentity)
  | addSchema (tenantId : TenantId) (schema : QualificationSchema)
  | publishSchema (tenantId : TenantId) (schemaId : QualificationSchemaId)
  deriving DecidableEq

/-- What an operation returns. -/
inductive Outcome
  | page (session : QualificationSession) (schema : QualificationSchema)
  | nothing
  | progress (session : QualificationSession) (next : Option QualificationField)
  | field (field : QualificationField)
  | session (session : QualificationSession)
  | cancelled (found : Bool)
  | schema (schema : QualificationSchema)
  deriving DecidableEq

/-- The request an operation makes. -/
def Operation.program (schemaCode : Text) : Operation → Service Outcome
  | .start identity => do
      let (session, schema) ← QualificationApplication.start schemaCode identity
      pure (.page session schema)
  | .active identity => do
      match ← QualificationApplication.active identity with
      | some (session, schema) => pure (.page session schema)
      | none => pure .nothing
  | .consent identity sessionId accepted updateKey => do
      let (session, next) ←
        QualificationApplication.consent identity sessionId accepted updateKey
      pure (.progress session next)
  | .answer identity raw updateKey => do
      let (session, next) ← QualificationApplication.answer identity raw updateKey
      pure (.progress session next)
  | .edit identity sessionId fieldKey => do
      let field ← QualificationApplication.edit identity sessionId fieldKey
      pure (.field field)
  | .submit identity sessionId updateKey => do
      let session ← QualificationApplication.submit identity sessionId updateKey
      pure (.session session)
  | .cancel identity => do
      let found ← QualificationApplication.cancel identity
      pure (.cancelled found)
  | .addSchema tenantId schema => do
      let stored ← QualificationAdministration.addSchema tenantId schema
      pure (.schema stored)
  | .publishSchema tenantId schemaId => do
      let published ← QualificationAdministration.publish tenantId schemaId
      pure (.schema published)

/-- An operation with what its transactions take from outside, call by call. -/
structure Execution where
  operation : Operation
  envs : List Environment
  deriving DecidableEq

/-- What an execution returns or raises, and the state it leaves; `none` when the
environments do not fit the calls. -/
def Execution.run (cfg : WorkflowCatalogue) (schemaCode : Text) (execution : Execution)
    (s : WorkflowState) : Option (Except Failure Outcome × WorkflowState) :=
  (execution.operation.program schemaCode).exec (serve cfg) execution.envs s

/-- Operations served one after the other, by a clock that does not run backwards. -/
def operationSystem (cfg : WorkflowCatalogue) (schemaCode : Text) :
    System WorkflowState Execution where
  init s := s.db.Fresh
  step s execution s' :=
    Program.Admitted (serve cfg) InOrder (execution.operation.program schemaCode) execution.envs s ∧
      ∃ outcome, execution.run cfg schemaCode s = some (outcome, s')

/-- Operations whose transactions interleave in any order. -/
def requestSystem (cfg : WorkflowCatalogue) (schemaCode : Text) :
    System (Pool WorkflowState WorkflowCall WorkflowCall.Reply Failure Outcome)
      (Event Operation Environment) :=
  concurrent (fun s => s.db.Fresh) (fun _ _ => True) (Operation.program schemaCode) (serve cfg)

end BusinessAssistant.Persistence
