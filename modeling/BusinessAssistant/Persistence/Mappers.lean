/-
# From rows to entities

`booking_from_row` and `lead_from_row`, with the checks the constructors of the
entities make; `handoff_from_row` is with the handoff store, which uses it. A row
is mapped exactly when it has what its constructor asks for.
-/

import BusinessAssistant.Persistence.HandoffStore

namespace BusinessAssistant.Persistence

open BusinessAssistant.Domain BusinessAssistant.Application BusinessAssistant.Foundation

/-! ## Bookings -/

/-- `IdempotencyKey` -/
structure IdempotencyKey where
  scope : Text
  value : Text
  valid : ¬ scope.Blank ∧ ¬ value.Blank ∧ value.length ≤ 255

/-- The snapshot of a booking whose personal content is gone. A confirmation writes
one with a name and a phone. -/
def CustomerSnapshot.empty : CustomerSnapshot where
  name := none
  phone := none

/-- `Booking`; the snapshot of its service is never empty. -/
structure Booking where
  id : BookingId
  tenantId : TenantId
  customerId : CustomerId
  serviceId : ServiceId
  startAt : Int
  endAt : Int
  idempotencyKey : IdempotencyKey
  serviceSnapshot : ServiceSnapshot
  customerSnapshot : CustomerSnapshot
  status : BookingStatus
  timeOrder : startAt < endAt
  snapshotsPresent : customerSnapshot ≠ .empty

/-- `booking_from_row` -/
def bookingFromRow (row : BookingRow) : Except Failure Booking :=
  if hkey : ¬ Text.Blank row.idempotencyScope.toList ∧ ¬ row.idempotencyValue.Blank ∧
      row.idempotencyValue.length ≤ 255 then
    if hsnapshot : row.customerSnapshot ≠ .empty then
      .ok
        { id := row.id
          tenantId := row.tenantId
          customerId := row.customerId
          serviceId := row.serviceId
          startAt := row.startAt
          endAt := row.endAt
          idempotencyKey :=
            { scope := row.idempotencyScope.toList, value := row.idempotencyValue, valid := hkey }
          serviceSnapshot := row.serviceSnapshot
          customerSnapshot := row.customerSnapshot
          status := row.status
          timeOrder := row.timeOrderValid
          snapshotsPresent := hsnapshot }
    else
      .error (.domain (.validation "Booking requires immutable service and customer snapshots"))
  else .error (.domain (.validation "Idempotency key scope and value are required"))

/-- The row is mapped to its entity. -/
def BookingRow.Loads (row : BookingRow) : Prop := ∃ booking, bookingFromRow row = .ok booking

theorem BookingRow.loads_iff (row : BookingRow) : row.Loads ↔
    (¬ Text.Blank row.idempotencyScope.toList ∧ ¬ row.idempotencyValue.Blank ∧
      row.idempotencyValue.length ≤ 255) ∧ row.customerSnapshot ≠ .empty := by
  unfold Loads bookingFromRow
  split
  · rename_i hkey
    split
    · rename_i hsnapshot
      exact iff_of_true ⟨_, rfl⟩ ⟨hkey, hsnapshot⟩
    · rename_i hsnapshot
      refine iff_of_false ?_ fun hboth => hsnapshot hboth.2
      rintro ⟨booking, hbooking⟩
      cases hbooking
  · rename_i hkey
    refine iff_of_false ?_ fun hboth => hkey hboth.1
    rintro ⟨booking, hbooking⟩
    cases hbooking

/-! ## Leads -/

/-- `lead_from_row` -/
def leadFromRow (row : LeadRow) : Except Failure (Lead JsonValue) :=
  if hidentity : ¬ row.schemaCode.Blank ∧ 1 ≤ row.schemaVersion ∧ ¬ row.source.Blank then
    .ok
      { id := row.id
        tenantId := row.tenantId
        customerId := row.customerId
        conversationId := row.conversationId
        schemaCode := row.schemaCode
        schemaVersion := row.schemaVersion
        source := row.source
        answers := row.answers
        status := row.status
        score := row.score
        priority := row.priority
        scoreExplanation := row.scoreExplanation
        consentAt := row.consentAt
        qualificationSnapshot := row.qualificationSnapshot
        qualifiedAt := row.qualifiedAt
        identityPresent := hidentity
        scoreValid := row.scoreValid }
  else .error (.domain (.validation "Lead schema identity and source are required"))

def LeadRow.Loads (row : LeadRow) : Prop := ∃ lead, leadFromRow row = .ok lead

theorem LeadRow.loads_iff (row : LeadRow) : row.Loads ↔
    ¬ row.schemaCode.Blank ∧ 1 ≤ row.schemaVersion ∧ ¬ row.source.Blank := by
  unfold Loads leadFromRow
  split
  · rename_i hidentity
    exact iff_of_true ⟨_, rfl⟩ hidentity
  · rename_i hidentity
    refine iff_of_false ?_ hidentity
    rintro ⟨lead, hlead⟩
    cases hlead

/-! ## Handoff cases -/

def HandoffCaseRow.Loads (row : HandoffCaseRow) : Prop := ∃ case, handoffFromRow row = .ok case

theorem HandoffCaseRow.loads_iff (row : HandoffCaseRow) : row.Loads ↔
    HandoffPriority.ofText? row.priority ≠ none ∧ (¬ row.reasonCode.Blank ∧ ¬ row.summary.Blank) ∧
      (row.status = .claimed → row.assigneeId.getD [] ≠ []) := by
  unfold Loads handoffFromRow
  cases hpriority : HandoffPriority.ofText? row.priority with
  | none =>
      refine iff_of_false ?_ fun hall => hall.1 rfl
      rintro ⟨case, hcase⟩
      cases hcase
  | some priority =>
      simp only [enumeration, pure, Except.pure, bind, Except.bind]
      split
      · rename_i hpresent
        split
        · rename_i hassignee
          exact iff_of_true ⟨_, rfl⟩ ⟨Option.some_ne_none _, hpresent, hassignee⟩
        · rename_i hassignee
          refine iff_of_false ?_ fun hall => hassignee hall.2.2
          rintro ⟨case, hcase⟩
          cases hcase
      · rename_i hpresent
        refine iff_of_false ?_ fun hall => hpresent hall.2.1
        rintro ⟨case, hcase⟩
        cases hcase

end BusinessAssistant.Persistence
