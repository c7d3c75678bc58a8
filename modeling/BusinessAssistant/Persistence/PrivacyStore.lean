/-
# Anonymizing a customer

`anonymize_customer` and the bulk updates it makes: they take the personal data
out of a customer's rows, close the conversations, and end what is still running.
-/

import BusinessAssistant.Application.Privacy
import BusinessAssistant.Persistence.HandoffStore

namespace BusinessAssistant.Persistence

open BusinessAssistant.Domain BusinessAssistant.Application BusinessAssistant.Foundation

namespace PrivacyStore

variable (env : Environment)

/-- `_replay` -/
def replay (db : WorkflowDatabase) (tenantId : TenantId) (key : Text) (actionType : String)
    (targetId : Option Text) : Except Failure (Option PrivacyResult) :=
  match db.privacyActions.find? fun row => row.tenantId = tenantId ∧ row.idempotencyKey = key with
  | none => pure none
  | some row =>
      if row.actionType ≠ actionType ∨ row.targetId ≠ targetId then
        throw (.privacy "Privacy idempotency key is already used for another operation"
          "privacy.idempotency_conflict")
      else
        pure (some
          { actionId := row.id
            actionType := row.actionType
            policyVersion := row.policyVersion
            counts := row.resultCounts
            replayed := true })

section Rows

variable (tenantId : TenantId) (customerId : CustomerId)

/-- What is left of a customer. -/
def anonymizeCustomer (row : CustomerRow) : CustomerRow :=
  { row with
    displayName := none
    phoneRaw := none
    phoneE164 := none
    phoneVerified := false
    email := none
    contactConsentAt := none
    status := .anonymized }

/-- `f"anonymized:{identity.id}"` -/
def anonymizeIdentity (row : ChannelIdentityRow) : ChannelIdentityRow :=
  { row with
    externalUserId := "anonymized:".toList ++ UUID.str row.id
    externalChatId := "anonymized:".toList ++ UUID.str row.id }

def anonymizeDraft (row : BookingDraftRow) : BookingDraftRow :=
  { row with
    customerName := none
    customerPhone := none
    customerNote := none
    status := if row.status = .active then .cancelled else row.status }

/-- The empty snapshot reads as one without name and phone. -/
def anonymizeBooking (row : BookingRow) : BookingRow :=
  { row with customerSnapshot := { name := none, phone := none }, notes := none }

def anonymizeLead (row : LeadRow) : LeadRow :=
  { row with answers := [], qualificationSnapshot := none }

def anonymizeSession (row : QualificationSessionRow) : QualificationSessionRow :=
  { row with
    answers := []
    currentFieldKey := none
    status := if row.status.isActive = true then .cancelled else row.status }

def anonymizeCase (row : HandoffCaseRow) : HandoffCaseRow :=
  { row with
    summary := "Customer data removed by privacy workflow.".toList
    context := []
    status := if row.Open then .cancelled else row.status }

/-- `_anonymize_customer_rows` -/
def anonymizeRows (db : WorkflowDatabase) : WorkflowDatabase :=
  { db with
    customers :=
      Table.update (fun row => row.tenantId = tenantId ∧ row.id = customerId) anonymizeCustomer
        db.customers
    channelIdentities :=
      Table.update (fun row => row.tenantId = tenantId ∧ row.customerId = customerId)
        anonymizeIdentity db.channelIdentities
    conversations :=
      Table.update (fun row => row.tenantId = tenantId ∧ row.customerId = customerId)
        (fun row => { row with status := .closed, activeWorkflow := none }) db.conversations
    messages :=
      db.messages.filter fun message =>
        ¬ (message.tenantId = tenantId ∧ ∃ row ∈ db.conversations, row.tenantId = tenantId ∧
          row.customerId = customerId ∧ row.id = message.conversationId)
    bookingDrafts :=
      Table.update (fun row => row.tenantId = tenantId ∧ row.customerId = customerId)
        anonymizeDraft db.bookingDrafts
    slotHolds :=
      Table.update
        (fun row => row.tenantId = tenantId ∧ row.customerId = customerId ∧ row.status = .active)
        (fun row => { row with status := .released }) db.slotHolds
    bookings :=
      Table.update (fun row => row.tenantId = tenantId ∧ row.customerId = customerId)
        anonymizeBooking db.bookings
    leads :=
      Table.update (fun row => row.tenantId = tenantId ∧ row.customerId = customerId)
        anonymizeLead db.leads
    qualificationSessions :=
      Table.update (fun row => row.tenantId = tenantId ∧ row.customerId = customerId)
        anonymizeSession db.qualificationSessions
    handoffCases :=
      Table.update (fun row => row.tenantId = tenantId ∧ row.customerId = some customerId)
        anonymizeCase db.handoffCases }

/-- The counts `_anonymize_customer_rows` returns. -/
def anonymizedCounts (db : WorkflowDatabase) : List (String × Nat) :=
  [("customers_anonymized", 1),
    ("identities_anonymized",
      db.channelIdentities.countP fun row => row.tenantId = tenantId ∧ row.customerId = customerId),
    ("conversations_closed",
      db.conversations.countP fun row => row.tenantId = tenantId ∧ row.customerId = customerId),
    ("messages_deleted",
      db.messages.countP fun message =>
        message.tenantId = tenantId ∧ ∃ row ∈ db.conversations, row.tenantId = tenantId ∧
          row.customerId = customerId ∧ row.id = message.conversationId),
    ("booking_drafts_anonymized",
      db.bookingDrafts.countP fun row => row.tenantId = tenantId ∧ row.customerId = customerId),
    ("slot_holds_released",
      db.slotHolds.countP fun row =>
        row.tenantId = tenantId ∧ row.customerId = customerId ∧ row.status = .active),
    ("bookings_anonymized",
      db.bookings.countP fun row => row.tenantId = tenantId ∧ row.customerId = customerId),
    ("leads_anonymized",
      db.leads.countP fun row => row.tenantId = tenantId ∧ row.customerId = customerId),
    ("qualification_sessions_anonymized",
      db.qualificationSessions.countP fun row =>
        row.tenantId = tenantId ∧ row.customerId = customerId),
    ("handoffs_anonymized",
      db.handoffCases.countP fun row =>
        row.tenantId = tenantId ∧ row.customerId = some customerId)]

end Rows

/-- `anonymize_customer` -/
def anonymize (tenantId : TenantId) (customerId : CustomerId) (idempotencyKey : Text) :
    Tx WorkflowDatabase Failure PrivacyResult := do
  let db ← get
  match ← Tx.lift (replay db tenantId idempotencyKey "customer_anonymization"
      (some (UUID.str customerId))) with
  | some result => pure result
  | none => do
      let policy ← Tx.fetch (db.retentionPolicies.find? fun row => row.tenantId = tenantId)
        (.privacy "Retention policy was not found" "privacy.policy_not_found")
      Tx.require (∃ row ∈ db.customers, row.tenantId = tenantId ∧ row.id = customerId)
        (.privacy "Customer was not found" "privacy.customer_not_found")
      let counts := anonymizedCounts tenantId customerId db
      let action : PrivacyActionRow :=
        { id := env.newId
          tenantId := tenantId
          actionType := "customer_anonymization"
          targetId := some (UUID.str customerId)
          idempotencyKey := idempotencyKey
          policyVersion := policy.version
          resultCounts := counts }
      modify fun db =>
        { anonymizeRows tenantId customerId db with
          privacyActions := db.privacyActions ++ [action] }
      pure
        { actionId := action.id
          actionType := action.actionType
          policyVersion := policy.version
          counts := counts
          replayed := false }

end PrivacyStore

end BusinessAssistant.Persistence
