/-
# The life of a tenant

Everything that can happen to a tenant's customers, one transaction after another: messages
that are resolved to an identity, bookings, the calls of qualification, handoff and
administration, anonymizations and runs of retention, each at a time of its own.

A resolve goes by columns of a conversation that the other transactions leave out. They are
kept beside the rows.
-/

import BusinessAssistant.Foundation.System
import BusinessAssistant.Persistence.IdentityStore
import BusinessAssistant.Persistence.Operations
import BusinessAssistant.Persistence.RetentionStore
import BusinessAssistant.Persistence.WorkflowServer

namespace BusinessAssistant.Persistence

open BusinessAssistant.Domain BusinessAssistant.Application BusinessAssistant.Foundation

/-- The columns of a conversation that only `resolve` goes by. -/
structure ConversationColumns where
  conversationId : ConversationId
  channelIdentityId : Option UUID
  lastMessageAt : Option Int
  createdAt : Int
  deriving DecidableEq

structure TenantState where
  db : WorkflowDatabase
  columns : List ConversationColumns

namespace TenantState

variable (s : TenantState)

/-- The keys a resolve can violate, and what a conversation's identity refers to. -/
structure Constraints : Prop where
  customers : (s.db.customers.map (·.id)).Nodup
  identities : (s.db.channelIdentities.map (·.id)).Nodup
  users : (s.db.channelIdentities.map fun row => (row.tenantId, row.externalUserId)).Nodup
  conversations : (s.db.conversations.map (·.id)).Nodup
  referred : ∀ columns ∈ s.columns, ∀ identityId ∈ columns.channelIdentityId,
    identityId ∈ s.db.channelIdentities.map (·.id)

/-! ## Resolving -/

/-- The identity of a user. -/
def identity? (request : ResolveRequest) : Option ChannelIdentityRow :=
  s.db.channelIdentities.find? fun row =>
    row.tenantId = request.tenantId ∧ row.externalUserId = request.externalUserId

/-- The columns of the conversations of an identity that are not closed. -/
def live (tenantId : TenantId) (identityId : UUID) : List ConversationColumns :=
  s.columns.filter fun columns => columns.channelIdentityId = some identityId ∧
    ∃ row ∈ s.db.conversations, row.id = columns.conversationId ∧ row.tenantId = tenantId ∧
      row.status ≠ .closed

/-- What the query for a conversation can return: one of the latest, if there is one. -/
def Selects (tenantId : TenantId) (identityId : UUID) : Option ConversationColumns → Prop
  | none => s.live tenantId identityId = []
  | some columns => columns ∈ s.live tenantId identityId ∧
      ∀ other ∈ s.live tenantId identityId, other.createdAt ≤ columns.createdAt

instance (tenantId : TenantId) (identityId : UUID) (columns : Option ConversationColumns) :
    Decidable (s.Selects tenantId identityId columns) :=
  match columns with
  | none => inferInstanceAs (Decidable (_ = _))
  | some _ => inferInstanceAs (Decidable (_ ∧ _))

/-- The identity is there; `identity.external_chat_id = external_chat_id` where it differs. -/
def greeted (request : ResolveRequest) (identity : ChannelIdentityRow) : TenantState :=
  if identity.externalChatId = request.externalChatId then s
  else
    { s with
      db :=
        { s.db with
          channelIdentities :=
            Table.update (·.id = identity.id)
              (fun row => { row with externalChatId := request.externalChatId })
              s.db.channelIdentities } }

/-- A customer and an identity are added. -/
def enrolled (customer : CustomerRow) (identity : ChannelIdentityRow) : TenantState :=
  { s with
    db :=
      { s.db with
        customers := s.db.customers ++ [customer]
        channelIdentities := s.db.channelIdentities ++ [identity] } }

/-- A conversation is added. -/
def opened (row : ConversationRow) (columns : ConversationColumns) : TenantState where
  db := { s.db with conversations := s.db.conversations ++ [row] }
  columns := s.columns ++ [columns]

/-- `conversation.last_message_at = now` -/
def touched (id : ConversationId) (now : Int) : TenantState :=
  { s with
    columns :=
      Table.update (·.conversationId = id) (fun row => { row with lastMessageAt := some now })
        s.columns }

/-- A `resolve` with what it takes from outside: the ids it draws, the server's clock, and which
of the latest conversations the query returns. -/
structure Resolve where
  request : ResolveRequest
  customerId : CustomerId
  identityId : UUID
  conversationId : ConversationId
  createdAt : Int
  selected : Option ConversationColumns

/-- The identity a resolve goes on with, and what it has written by then. -/
def identified (resolve : Resolve) : ChannelIdentityRow × TenantState :=
  match s.identity? resolve.request with
  | some identity => (identity, s.greeted resolve.request identity)
  | none =>
      let identity := newIdentity resolve.request resolve.customerId resolve.identityId
      (identity, s.enrolled (newCustomer resolve.request resolve.customerId) identity)

/-- The conversation `resolve` adds. -/
def newConversationRow (request : ResolveRequest) (customerId : CustomerId) (id : ConversationId) :
    ConversationRow where
  id := id
  tenantId := request.tenantId
  customerId := customerId
  status := .activeBot
  activeWorkflow := none

/-- What `resolve` leaves. -/
def resolved (resolve : Resolve) : TenantState :=
  let (identity, rest) := s.identified resolve
  match resolve.selected with
  | some columns => rest.touched columns.conversationId resolve.request.now
  | none =>
      rest.opened
        (newConversationRow resolve.request identity.customerId resolve.conversationId)
        { conversationId := resolve.conversationId
          channelIdentityId := some identity.id
          lastMessageAt := some resolve.request.now
          createdAt := resolve.createdAt }

/-- A `resolve` that commits: its tenant is active, the query can return what it has, and no
key is violated. -/
structure Resolves (tenants : List TenantRow) (resolve : Resolve) : Prop where
  active : ∃ tenant ∈ tenants, tenant.id = resolve.request.tenantId ∧ tenant.status = .active
  selects : (s.identified resolve).2.Selects resolve.request.tenantId (s.identified resolve).1.id
    resolve.selected
  constraints : (s.resolved resolve).Constraints

/-! ## Everything else -/

/-- A committed or a rolled back transaction of booking. -/
def booked (cfg : Catalogue) (invocation : Invocation) : TenantState :=
  { s with db := { s.db with toDatabase := (invocation.execute cfg s.db.toDatabase).2 } }

/-- A committed or a rolled back transaction of qualification, handoff, administration or
anonymization. -/
def transacted [PythonText] (cfg : WorkflowCatalogue) (transaction : Transaction) : TenantState :=
  { s with db := ((transactionOf cfg transaction.env transaction.call).commit s.db).2 }

/-- A run of retention with what it takes from outside. -/
structure RetentionRun where
  env : Environment
  tenantId : TenantId
  policyVersion : Nat
  idempotencyKey : Text
  ages : Ages
  counts : List (String × Nat)

/-- The transaction of a run of retention. -/
def RetentionRun.transaction (run : RetentionRun) : Tx WorkflowDatabase Failure PrivacyResult :=
  PrivacyStore.runRetention run.env run.tenantId run.policyVersion run.idempotencyKey run.ages
    run.counts

def retained (run : RetentionRun) : TenantState :=
  { s with db := (run.transaction.commit s.db).2 }

/-- What can happen. -/
inductive Step [PythonText]
  | resolve (resolve : Resolve)
  | book (invocation : Invocation)
  | transact (transaction : Transaction)
  | retain (run : RetentionRun)

/-- A tenant nobody has written to. -/
structure Empty (tenantId : TenantId) : Prop where
  customers : ∀ row ∈ s.db.customers, row.tenantId ≠ tenantId
  identities : ∀ row ∈ s.db.channelIdentities, row.tenantId ≠ tenantId
  conversations : ∀ row ∈ s.db.conversations, row.tenantId ≠ tenantId
  constraints : s.Constraints

end TenantState

/-- All that can happen from an empty tenant on, in any order and at any times. -/
def tenantSystem [PythonText] (cfg : WorkflowCatalogue) (tenantId : TenantId) :
    System TenantState TenantState.Step where
  init s := s.Empty tenantId
  step s step s' :=
    match step with
    | .resolve resolve => s.Resolves cfg.tenants resolve ∧ s' = s.resolved resolve
    | .book invocation => s' = s.booked cfg.toCatalogue invocation
    | .transact transaction => s' = s.transacted cfg transaction
    | .retain run => s' = s.retained run

end BusinessAssistant.Persistence
