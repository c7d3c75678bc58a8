/-
# The handoff store

The transactions of `SQLAlchemyHandoffStore`. Creating a case looks for an open one
of the conversation first, under an advisory lock of its own; a transition locks
its case, checks it against the domain's table and writes the status of the
conversation without looking at it.
-/

import BusinessAssistant.Persistence.QualificationStore

namespace BusinessAssistant.Persistence

open BusinessAssistant.Domain BusinessAssistant.Application BusinessAssistant.Foundation

/-- `_handoff_view` -/
def HandoffCaseRow.toView (row : HandoffCaseRow) : HandoffView where
  id := row.id
  tenantId := row.tenantId
  customerId := row.customerId
  conversationId := row.conversationId
  leadId := row.leadId
  reasonCode := row.reasonCode
  priority := row.priority
  status := row.status
  summary := row.summary
  context := row.context
  responseDueAt := row.responseDueAt
  assigneeId := row.assigneeId

/-- `handoff_from_row` -/
def handoffFromRow (row : HandoffCaseRow) : Except Failure HandoffCase := do
  let priority ← enumeration (HandoffPriority.ofText? row.priority)
  if hpresent : ¬ row.reasonCode.Blank ∧ ¬ row.summary.Blank then
    if hassignee : row.status = .claimed → row.assigneeId.getD [] ≠ [] then
      pure
        { id := row.id
          tenantId := row.tenantId
          conversationId := row.conversationId
          reasonCode := row.reasonCode
          priority := priority
          summary := row.summary
          responseDueAt := row.responseDueAt
          status := row.status
          assigneeId := row.assigneeId
          reasonAndSummaryPresent := hpresent
          claimedHasAssignee := hassignee }
    else throw (.domain (.validation "A claimed handoff requires an assignee"))
  else throw (.domain (.validation "Handoff reason and summary are required"))

/-- The domain's transitions an action makes, in order. -/
def moveCase (case : HandoffCase) (action : HandoffAction) (actorId : Text) :
    Except Failure HandoffCase :=
  let raised {α : Type} : Except DomainError α → Except Failure α := Except.mapError .domain
  match action with
  | .claim =>
      if case.status = .reopened then do
        let queued ← raised (case.transitionTo .queued none)
        raised (queued.transitionTo .claimed (some actorId))
      else raised (case.transitionTo .claimed (some actorId))
  | .resolve => raised (case.transitionTo .resolved none)
  | .reopen => raised (case.transitionTo .reopened none)
  | .returnToBot =>
      if case.status = .resolved then pure case
      else throw (.valueError "Only a resolved handoff can return control")

/-- The status an action gives the conversation; resolving leaves it as it is. -/
def conversationStatus? : HandoffAction → Option ConversationStatus
  | .claim => some .humanActive
  | .resolve => none
  | .reopen => some .handoffQueued
  | .returnToBot => some .activeBot

namespace WorkflowDatabase

variable (db : WorkflowDatabase)

/-- The case stored under a key of a tenant. -/
def caseOfKey? (tenantId : TenantId) (key : Text) : Option HandoffCaseRow :=
  db.handoffCases.find? fun row => row.tenantId = tenantId ∧ row.idempotencyKey = some key

/-- An open case of a conversation. -/
def openCase? (tenantId : TenantId) (conversationId : ConversationId) : Option HandoffCaseRow :=
  db.handoffCases.find? fun row =>
    row.tenantId = tenantId ∧ row.conversationId = conversationId ∧ row.Open

/-- `transition` -/
def moveTo (row : HandoffCaseRow) (case : HandoffCase) (action : HandoffAction) :
    WorkflowDatabase :=
  let written := db.updateCase row.id fun old =>
    { old with status := case.status, assigneeId := case.assigneeId }
  match conversationStatus? action with
  | none => written
  | some status =>
      written.updateConversation row.conversationId fun old => { old with status := status }

end WorkflowDatabase

namespace HandoffStore

variable (cfg : WorkflowCatalogue) (env : Environment)

/-- `schedule` -/
def schedule (tenantId : TenantId) : Tx WorkflowDatabase Failure BusinessSchedule :=
  QualificationStore.loadSchedule cfg tenantId

/-- The order of times, as the one that computes. -/
local instance (priority := high) createdOrder : Preorder Int := Int.instLinearOrder.toPreorder

/-- `active` -/
def active (identity : TelegramIdentity) : Tx WorkflowDatabase Failure (Option HandoffView) := do
  let db ← get
  pure (((db.handoffCases.filter fun row =>
    row.tenantId = identity.tenantId ∧ row.conversationId = identity.conversationId ∧
      row.Open).argmax (·.createdAt)).map (·.toView))

/-- The case `create_or_get` inserts. -/
def newCase (identity : TelegramIdentity) (request : HandoffRequest) : HandoffCaseRow where
  id := env.newId
  tenantId := identity.tenantId
  conversationId := identity.conversationId
  customerId := some identity.customerId
  leadId := request.leadId
  reasonCode := request.reasonCode
  priority := request.priority
  status := .queued
  assigneeId := none
  summary := request.summary
  context := request.context
  idempotencyKey := some request.idempotencyKey
  responseDueAt := request.responseDueAt
  createdAt := env.serverNow

/-- The case `create_or_get` finds: the one stored under the key, or an open one of
the conversation. -/
def existing? (identity : TelegramIdentity) (key : Text) (db : WorkflowDatabase) :
    Option HandoffCaseRow :=
  (db.caseOfKey? identity.tenantId key).or
    (db.openCase? identity.tenantId identity.conversationId)

/-- `create_or_get` when it found no case. -/
def create (identity : TelegramIdentity) (request : HandoffRequest) (now : Int) :
    Tx WorkflowDatabase Failure HandoffView := do
  let db ← get
  let case := newCase env identity request
  let conversation ← Tx.fetch (db.conversation? identity.conversationId)
    (.valueError "Handoff conversation is unavailable")
  Tx.require (conversation.tenantId = identity.tenantId)
    (.valueError "Handoff conversation is unavailable")
  let event := outboxEvent identity.tenantId "handoff" case.id "handoff.queued"
    (handoffQueuedKey request.idempotencyKey)
    (.handoff case.id request.reasonCode request.priority) now
  Tx.require (∀ row ∈ db.handoffCases, row.id ≠ case.id) (.integrity "pk_handoff_cases")
  Tx.require
    (∀ row ∈ db.handoffCases,
      ¬ (row.tenantId = case.tenantId ∧ row.idempotencyKey = case.idempotencyKey))
    (.integrity "uq_handoff_cases_tenant_id_idempotency_key")
  Tx.require (∀ other ∈ db.outboxEvents, other.eventId ≠ event.eventId)
    (.integrity "pk_outbox_events")
  modify (·.queueCase case event)
  pure case.toView

/-- `create_or_get` -/
def createOrGet (identity : TelegramIdentity) (request : HandoffRequest) (now : Int) :
    Tx WorkflowDatabase Failure HandoffView := do
  let db ← get
  match existing? identity request.idempotencyKey db with
  | some row => pure row.toView
  | none => create env identity request now

/-- `transition` -/
def transition (tenantId : TenantId) (handoffId : HandoffId) (action : HandoffAction)
    (actorId : Text) : Tx WorkflowDatabase Failure HandoffView := do
  let db ← get
  let row ← Tx.fetch
    (db.handoffCases.find? fun row => row.tenantId = tenantId ∧ row.id = handoffId)
    (.valueError "Handoff was not found")
  let case ← Tx.lift (handoffFromRow row)
  let conversation ← Tx.fetch (db.conversation? row.conversationId)
    (.valueError "Handoff conversation is unavailable")
  Tx.require (conversation.tenantId = tenantId)
    (.valueError "Handoff conversation is unavailable")
  let moved ← Tx.lift (moveCase case action actorId)
  modify (·.moveTo row moved action)
  pure { row with status := moved.status, assigneeId := moved.assigneeId : HandoffCaseRow }.toView

end HandoffStore

end BusinessAssistant.Persistence
