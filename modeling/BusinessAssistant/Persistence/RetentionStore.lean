/-
# Retention

`run_retention`: customers that are left alone are anonymized and the personal
content of finished workflows is taken out, each after the days its policy gives.
Which rows are old enough is taken from outside, since when a row was last written
is not kept here; so are the counts, which include tables that are not.
-/

import BusinessAssistant.Persistence.PrivacyStore

namespace BusinessAssistant.Persistence

open BusinessAssistant.Domain BusinessAssistant.Application BusinessAssistant.Foundation

/-- Which rows were last written before the cutoff of their kind. -/
structure Ages where
  customer : CustomerId → Bool
  message : MessageRow → Bool
  draft : BookingDraftId → Bool
  booking : BookingId → Bool
  lead : LeadId → Bool
  session : QualificationSessionId → Bool
  case : HandoffId → Bool

namespace PrivacyStore

section Rows

variable (tenantId : TenantId)

/-- A booking that can still take place. -/
def BookingPending (row : BookingRow) : Prop :=
  row.status ∈ [.draft, .held, .confirmed, .reschedulePending]

instance (row : BookingRow) : Decidable (BookingPending row) :=
  inferInstanceAs (Decidable (_ ∈ _))

/-- A lead that staff may still work on. -/
def LeadPending (row : LeadRow) : Prop :=
  row.status ∈ [.new, .qualifying, .qualified, .contacted, .converted]

instance (row : LeadRow) : Decidable (LeadPending row) := inferInstanceAs (Decidable (_ ∈ _))

/-- Nothing of the customer is going on. -/
structure Idle (db : WorkflowDatabase) (customerId : CustomerId) : Prop where
  conversations : ∀ row ∈ db.conversations, row.tenantId = tenantId → row.customerId = customerId →
    row.status = .closed
  bookings : ∀ row ∈ db.bookings, row.tenantId = tenantId → row.customerId = customerId →
    ¬ BookingPending row
  leads : ∀ row ∈ db.leads, row.tenantId = tenantId → row.customerId = customerId →
    ¬ LeadPending row
  sessions : ∀ row ∈ db.qualificationSessions, row.tenantId = tenantId →
    row.customerId = customerId → row.status.isActive = false
  cases : ∀ row ∈ db.handoffCases, row.tenantId = tenantId → row.customerId = some customerId →
    ¬ row.Open

instance (db : WorkflowDatabase) (customerId : CustomerId) : Decidable (Idle tenantId db customerId) :=
  decidable_of_iff (_ ∧ _ ∧ _ ∧ _ ∧ _)
    ⟨fun ⟨hconversations, hbookings, hleads, hsessions, hcases⟩ =>
      ⟨hconversations, hbookings, hleads, hsessions, hcases⟩,
    fun h => ⟨h.conversations, h.bookings, h.leads, h.sessions, h.cases⟩⟩

variable (ages : Ages)

/-- `_eligible_customer_ids` -/
def eligibleCustomers (db : WorkflowDatabase) : List CustomerId :=
  (db.customers.filter fun row =>
    row.tenantId = tenantId ∧ row.status ≠ .anonymized ∧ ages.customer row.id = true ∧
      Idle tenantId db row.id).map (·.id)

/-! ### `_workflow_conditions` -/

def DraftDue (row : BookingDraftRow) : Prop :=
  row.tenantId = tenantId ∧ row.status ∈ [.cancelled, .expired, .confirmed] ∧
    ages.draft row.id = true ∧
    (row.customerName ≠ none ∨ row.customerPhone ≠ none ∨ row.customerNote ≠ none)

def BookingDue (row : BookingRow) : Prop :=
  row.tenantId = tenantId ∧ row.status ∈ [.completed, .cancelled, .noShow, .expired] ∧
    ages.booking row.id = true ∧
    (row.customerSnapshot ≠ { name := none, phone := none } ∨ row.notes ≠ none)

def LeadDue (row : LeadRow) : Prop :=
  row.tenantId = tenantId ∧ row.status ∈ [.unqualified, .closed] ∧ ages.lead row.id = true ∧
    (row.answers ≠ [] ∨ row.qualificationSnapshot ≠ none)

def SessionDue (row : QualificationSessionRow) : Prop :=
  row.tenantId = tenantId ∧ row.status ∈ [.completed, .declined, .cancelled, .expired] ∧
    ages.session row.id = true ∧ (row.answers ≠ [] ∨ row.currentFieldKey ≠ none)

/-- The summary of a case whose content is gone. -/
def retainedSummary : Text := "Personal content removed by retention policy.".toList

def CaseDue (row : HandoffCaseRow) : Prop :=
  row.tenantId = tenantId ∧ row.status ∈ [.resolved, .cancelled] ∧ ages.case row.id = true ∧
    (row.context ≠ [] ∨ row.summary ≠ retainedSummary)

instance : DecidablePred (DraftDue tenantId ages) := fun _ => inferInstanceAs (Decidable (_ ∧ _))

instance : DecidablePred (BookingDue tenantId ages) := fun _ => inferInstanceAs (Decidable (_ ∧ _))

instance : DecidablePred (LeadDue tenantId ages) := fun _ => inferInstanceAs (Decidable (_ ∧ _))

instance : DecidablePred (SessionDue tenantId ages) := fun _ => inferInstanceAs (Decidable (_ ∧ _))

instance : DecidablePred (CaseDue tenantId ages) := fun _ => inferInstanceAs (Decidable (_ ∧ _))

/-- The content that is taken out of finished workflows. -/
def removeContent (db : WorkflowDatabase) : WorkflowDatabase :=
  { db with
    messages :=
      db.messages.filter fun row => ¬ (row.tenantId = tenantId ∧ ages.message row = true)
    bookingDrafts :=
      Table.update (DraftDue tenantId ages)
        (fun row => { row with customerName := none, customerPhone := none, customerNote := none })
        db.bookingDrafts
    bookings := Table.update (BookingDue tenantId ages) anonymizeBooking db.bookings
    leads := Table.update (LeadDue tenantId ages) anonymizeLead db.leads
    qualificationSessions :=
      Table.update (SessionDue tenantId ages)
        (fun row => { row with answers := [], currentFieldKey := none }) db.qualificationSessions
    handoffCases :=
      Table.update (CaseDue tenantId ages)
        (fun row => { row with summary := retainedSummary, context := [] }) db.handoffCases }

/-- `_apply_retention` -/
def applyRetention (db : WorkflowDatabase) : WorkflowDatabase :=
  removeContent tenantId ages
    ((eligibleCustomers tenantId ages db).foldl
      (fun db customerId => anonymizeRows tenantId customerId db) db)

end Rows

/-- `run_retention` that is not a dry run -/
def runRetention (env : Environment) (tenantId : TenantId) (policyVersion : Nat)
    (idempotencyKey : Text) (ages : Ages) (counts : List (String × Nat)) :
    Tx WorkflowDatabase Failure PrivacyResult := do
  let db ← get
  match ← Tx.lift (replay db tenantId idempotencyKey "retention_execution" none) with
  | some result => pure result
  | none => do
      Tx.require (∃ row ∈ db.retentionPolicies, row.tenantId = tenantId ∧ row.version = policyVersion)
        (.privacy "Retention policy changed before execution" "privacy.policy_conflict")
      let action : PrivacyActionRow :=
        { id := env.newId
          tenantId := tenantId
          actionType := "retention_execution"
          targetId := none
          idempotencyKey := idempotencyKey
          policyVersion := policyVersion
          resultCounts := counts }
      modify fun db =>
        { applyRetention tenantId ages db with
          privacyActions := db.privacyActions ++ [action] }
      pure
        { actionId := action.id
          actionType := action.actionType
          policyVersion := policyVersion
          counts := counts
          replayed := false }

end PrivacyStore

end BusinessAssistant.Persistence
