/-
# Resolving Telegram identities

Any number of `resolve` and `anonymize_customer` transactions, statement by statement. A
resolve holds an advisory lock on its user from its first statement on; it reads the tenant,
the identity and the conversation, flushes what it adds, and commits. Anonymization takes no
such lock. It locks the row of the customer, which only keeps new rows that refer to it from
being inserted. What a transaction writes is seen by the others when it commits.

Beside the state the results of the committed resolves are kept.
-/

import BusinessAssistant.Application.Telegram
import BusinessAssistant.Foundation.System
import BusinessAssistant.Persistence.PrivacyStore
import Mathlib.Logic.Function.Basic

namespace BusinessAssistant.Persistence

open BusinessAssistant.Domain BusinessAssistant.Application BusinessAssistant.Foundation

/-! ## Rows -/

/-- A conversation with the columns `resolve` goes by. -/
structure TelegramConversationRow extends ConversationRow where
  channelIdentityId : Option UUID
  lastMessageAt : Option Int
  createdAt : Int
  deriving DecidableEq

/-- The tables `resolve` reads and writes. -/
structure IdentityDatabase where
  tenants : List TenantRow
  customers : List CustomerRow := []
  channelIdentities : List ChannelIdentityRow := []
  conversations : List TelegramConversationRow := []

/-- The customer `resolve` adds. -/
def newCustomer (request : ResolveRequest) (id : CustomerId) : CustomerRow where
  id := id
  tenantId := request.tenantId
  displayName := none
  phoneRaw := none
  phoneE164 := none
  phoneVerified := false
  email := none
  contactConsentAt := none
  status := .active

/-- The identity `resolve` adds. -/
def newIdentity (request : ResolveRequest) (customerId : CustomerId) (id : UUID) :
    ChannelIdentityRow where
  id := id
  tenantId := request.tenantId
  customerId := customerId
  externalUserId := request.externalUserId
  externalChatId := request.externalChatId

/-- The conversation `resolve` adds. -/
def newConversation (request : ResolveRequest) (identity : ChannelIdentityRow)
    (id : ConversationId) (created : Int) : TelegramConversationRow where
  id := id
  tenantId := request.tenantId
  customerId := identity.customerId
  status := .activeBot
  activeWorkflow := none
  channelIdentityId := some identity.id
  lastMessageAt := some request.now
  createdAt := created

namespace IdentityDatabase

variable (db : IdentityDatabase)

/-- The identity of a user. -/
def identity? (tenantId : TenantId) (externalUserId : Text) : Option ChannelIdentityRow :=
  db.channelIdentities.find? fun row =>
    row.tenantId = tenantId ∧ row.externalUserId = externalUserId

/-- The conversations of an identity that are not closed. -/
def live (tenantId : TenantId) (identityId : UUID) : List TelegramConversationRow :=
  db.conversations.filter fun row =>
    row.tenantId = tenantId ∧ row.channelIdentityId = some identityId ∧ row.status ≠ .closed

/-- What the query for a conversation can return: one of the latest, if there is one. -/
def Selects (tenantId : TenantId) (identityId : UUID) :
    Option TelegramConversationRow → Prop
  | none => db.live tenantId identityId = []
  | some row => row ∈ db.live tenantId identityId ∧
      ∀ other ∈ db.live tenantId identityId, other.createdAt ≤ row.createdAt

instance (tenantId : TenantId) (identityId : UUID) (row : Option TelegramConversationRow) :
    Decidable (db.Selects tenantId identityId row) :=
  match row with
  | none => inferInstanceAs (Decidable (_ = _))
  | some _ => inferInstanceAs (Decidable (_ ∧ _))

/-- What a resolve leaves that has found its identity. -/
def greeted (request : ResolveRequest) (identity : ChannelIdentityRow) : IdentityDatabase :=
  if identity.externalChatId = request.externalChatId then db
  else
    { db with
      channelIdentities :=
        Table.update (·.id = identity.id)
          (fun row => { row with externalChatId := request.externalChatId })
          db.channelIdentities }

/-- What a resolve leaves that has added its identity. -/
def enrolled (customer : CustomerRow) (identity : ChannelIdentityRow) : IdentityDatabase :=
  { db with
    customers := db.customers ++ [customer]
    channelIdentities := db.channelIdentities ++ [identity] }

/-- The conversation is inserted. -/
def opened (conversation : TelegramConversationRow) : IdentityDatabase :=
  { db with conversations := db.conversations ++ [conversation] }

/-- `conversation.last_message_at = now` -/
def touched (request : ResolveRequest) (id : ConversationId) : IdentityDatabase :=
  { db with
    conversations :=
      Table.update (·.id = id) (fun row => { row with lastMessageAt := some request.now })
        db.conversations }

/-- What `_anonymize_customer_rows` does to these tables. A replay of an earlier
anonymization does nothing. -/
def anonymized (tenantId : TenantId) (customerId : CustomerId) : IdentityDatabase :=
  { db with
    customers :=
      Table.update (fun row => row.tenantId = tenantId ∧ row.id = customerId)
        PrivacyStore.anonymizeCustomer db.customers
    channelIdentities :=
      Table.update (fun row => row.tenantId = tenantId ∧ row.customerId = customerId)
        PrivacyStore.anonymizeIdentity db.channelIdentities
    conversations :=
      Table.update (fun row => row.tenantId = tenantId ∧ row.customerId = customerId)
        (fun row => { row with status := .closed, activeWorkflow := none }) db.conversations }

end IdentityDatabase

/-! ## Transactions -/

/-- Where a resolve has its identity from. -/
inductive IdentityOrigin
  | found
  /-- It is new, and so is its customer. -/
  | created (customer : CustomerRow)

inductive ResolutionPhase
  /-- The lock is held. -/
  | locked
  /-- The tenant is active. -/
  | admitted
  /-- The identity has been read, or added. -/
  | identified (identity : ChannelIdentityRow) (origin : IdentityOrigin)
  /-- A conversation has been looked for. -/
  | selected (identity : ChannelIdentityRow) (origin : IdentityOrigin)
      (conversation : Option TelegramConversationRow)
  /-- A new conversation is inserted. -/
  | inserted (identity : ChannelIdentityRow) (origin : IdentityOrigin)
      (conversation : TelegramConversationRow)

/-- An open `resolve`. -/
structure Resolution where
  request : ResolveRequest
  phase : ResolutionPhase

inductive IdentityTransaction
  | resolve (resolution : Resolution)
  /-- An anonymization that has locked its customer. -/
  | anonymize (tenantId : TenantId) (customerId : CustomerId)

structure IdentityState where
  db : IdentityDatabase
  transactions : ℕ → Option IdentityTransaction

inductive IdentityStep
  /-- A resolve takes the lock of its user. -/
  | lock (transaction : ℕ) (request : ResolveRequest)
  | checkTenant (transaction : ℕ)
  /-- It reads the identity, or adds a customer and an identity with the ids it draws. -/
  | identify (transaction : ℕ) (customerId : CustomerId) (identityId : UUID)
  | select (transaction : ℕ) (conversation : Option TelegramConversationRow)
  | insert (transaction : ℕ) (id : ConversationId) (created : Int)
  /-- An anonymization locks the row of its customer. -/
  | anonymize (transaction : ℕ) (tenantId : TenantId) (customerId : CustomerId)
  | commit (transaction : ℕ)
  | abort (transaction : ℕ)

/-- The results of the resolves that have committed. -/
abbrev ResolveResults := List (ResolveRequest × TelegramIdentity)

namespace Resolution

variable (resolution : Resolution)

/-- The two have the same user, so that one waits for the other's lock. -/
def SameUser (first second : ResolveRequest) : Prop :=
  first.tenantId = second.tenantId ∧ first.externalUserId = second.externalUserId

/-- What its additions to the identities leave. -/
def identified (db : IdentityDatabase) (identity : ChannelIdentityRow) :
    IdentityOrigin → IdentityDatabase
  | .found => db.greeted resolution.request identity
  | .created customer => db.enrolled customer identity

/-- What it leaves when it commits, if it is ready to. -/
def commit? (db : IdentityDatabase) : Option IdentityDatabase :=
  match resolution.phase with
  | .selected identity origin (some conversation) =>
      some ((resolution.identified db identity origin).touched resolution.request conversation.id)
  | .inserted identity origin conversation =>
      some ((resolution.identified db identity origin).opened conversation)
  | .locked | .admitted | .identified _ _ | .selected _ _ none => none

/-- What it returns then. -/
def result? : Option TelegramIdentity :=
  match resolution.phase with
  | .selected identity _ (some conversation) | .inserted identity _ conversation =>
      some
        { tenantId := resolution.request.tenantId
          customerId := identity.customerId
          conversationId := conversation.id }
  | .locked | .admitted | .identified _ _ | .selected _ _ none => none

end Resolution

/-! ## The system -/

/-- The primary keys, and one identity for each user. -/
structure IdentityDatabase.Constraints (db : IdentityDatabase) : Prop where
  customers : (db.customers.map (·.id)).Nodup
  identities : (db.channelIdentities.map (·.id)).Nodup
  users : (db.channelIdentities.map fun row => (row.tenantId, row.externalUserId)).Nodup
  conversations : (db.conversations.map (·.id)).Nodup

instance (db : IdentityDatabase) : Decidable db.Constraints :=
  decidable_of_iff
    ((db.customers.map (·.id)).Nodup ∧ (db.channelIdentities.map (·.id)).Nodup ∧
      (db.channelIdentities.map fun row => (row.tenantId, row.externalUserId)).Nodup ∧
      (db.conversations.map (·.id)).Nodup)
    ⟨fun ⟨h₁, h₂, h₃, h₄⟩ => ⟨h₁, h₂, h₃, h₄⟩, fun ⟨h₁, h₂, h₃, h₄⟩ => ⟨h₁, h₂, h₃, h₄⟩⟩

/-- What a transaction leaves when it commits, if it is ready to. -/
def IdentityTransaction.commit? (db : IdentityDatabase) :
    IdentityTransaction → Option IdentityDatabase
  | .resolve resolution => resolution.commit? db
  | .anonymize tenantId customerId => some (db.anonymized tenantId customerId)

namespace IdentityState

variable (s : IdentityState)

/-- An anonymization has locked the row of the customer. -/
def CustomerLocked (tenantId : TenantId) (customerId : CustomerId) : Prop :=
  ∃ transaction, s.transactions transaction = some (.anonymize tenantId customerId)

/-- A resolve has inserted a conversation that refers to the customer. -/
def CustomerReferred (tenantId : TenantId) (customerId : CustomerId) : Prop :=
  ∃ transaction resolution identity origin conversation,
    s.transactions transaction = some (.resolve resolution) ∧
      resolution.phase = .inserted identity origin conversation ∧
        resolution.request.tenantId = tenantId ∧ identity.customerId = customerId

/-- The steps that can be taken. A statement that waits for a lock is not taken yet, and a
transaction that violates a constraint can only be aborted. -/
def Allows : IdentityStep → Prop
  | .lock transaction request =>
      s.transactions transaction = none ∧ ∀ other resolution,
        s.transactions other = some (.resolve resolution) →
          ¬ Resolution.SameUser resolution.request request
  | .checkTenant transaction =>
      ∃ request, s.transactions transaction = some (.resolve ⟨request, .locked⟩) ∧
        ∃ tenant ∈ s.db.tenants, tenant.id = request.tenantId ∧ tenant.status = .active
  | .identify transaction _ _ =>
      ∃ request, s.transactions transaction = some (.resolve ⟨request, .admitted⟩)
  | .select transaction conversation =>
      ∃ request identity origin,
        s.transactions transaction = some (.resolve ⟨request, .identified identity origin⟩) ∧
          s.db.Selects request.tenantId identity.id conversation
  | .insert transaction _ _ =>
      ∃ request identity origin,
        s.transactions transaction = some (.resolve ⟨request, .selected identity origin none⟩) ∧
          ¬ s.CustomerLocked request.tenantId identity.customerId
  | .anonymize transaction tenantId customerId =>
      s.transactions transaction = none ∧
        (∃ customer ∈ s.db.customers, customer.tenantId = tenantId ∧ customer.id = customerId) ∧
          ¬ s.CustomerLocked tenantId customerId ∧ ¬ s.CustomerReferred tenantId customerId
  | .commit transaction =>
      ∃ current db', s.transactions transaction = some current ∧ current.commit? s.db = some db' ∧
        db'.Constraints
  | .abort _ => True

/-- The transaction goes on. -/
def put (transaction : ℕ) (next : Option IdentityTransaction) : IdentityState :=
  { s with transactions := Function.update s.transactions transaction next }

/-- What a step does. -/
def next : IdentityStep → IdentityState
  | .lock transaction request => s.put transaction (some (.resolve ⟨request, .locked⟩))
  | .checkTenant transaction =>
      match s.transactions transaction with
      | some (.resolve ⟨request, .locked⟩) =>
          s.put transaction (some (.resolve ⟨request, .admitted⟩))
      | _ => s
  | .identify transaction customerId identityId =>
      match s.transactions transaction with
      | some (.resolve ⟨request, .admitted⟩) =>
          match s.db.identity? request.tenantId request.externalUserId with
          | some identity =>
              s.put transaction (some (.resolve ⟨request, .identified identity .found⟩))
          | none =>
              s.put transaction
                (some (.resolve
                  ⟨request, .identified (newIdentity request customerId identityId)
                    (.created (newCustomer request customerId))⟩))
      | _ => s
  | .select transaction conversation =>
      match s.transactions transaction with
      | some (.resolve ⟨request, .identified identity origin⟩) =>
          s.put transaction (some (.resolve ⟨request, .selected identity origin conversation⟩))
      | _ => s
  | .insert transaction id created =>
      match s.transactions transaction with
      | some (.resolve ⟨request, .selected identity origin none⟩) =>
          s.put transaction
            (some (.resolve
              ⟨request, .inserted identity origin (newConversation request identity id created)⟩))
      | _ => s
  | .anonymize transaction tenantId customerId =>
      s.put transaction (some (.anonymize tenantId customerId))
  | .commit transaction =>
      { s.put transaction none with
        db := ((s.transactions transaction).bind (·.commit? s.db)).getD s.db }
  | .abort transaction => s.put transaction none

/-- The results a step adds. -/
def results : IdentityStep → ResolveResults
  | .commit transaction =>
      match s.transactions transaction with
      | some (.resolve resolution) =>
          (resolution.result?.map fun result => (resolution.request, result)).toList
      | some (.anonymize _ _) | none => []
  | .lock _ _ | .checkTenant _ | .identify _ _ _ | .select _ _ | .insert _ _ _ | .anonymize _ _ _
  | .abort _ => []

end IdentityState

end BusinessAssistant.Persistence
