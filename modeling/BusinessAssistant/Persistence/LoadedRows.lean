/-
# What is stored can be loaded

Bookings, leads and handoff cases under the transactions of booking, qualification,
handoff and privacy. The rows of leads and cases map to their entities whatever is
taken out of them. A booking whose personal content is gone does not: its
constructor asks for a snapshot of the customer.
-/

import BusinessAssistant.Persistence.Mappers
import BusinessAssistant.Persistence.RetentionStore
import BusinessAssistant.Persistence.WorkflowChanges
import BusinessAssistant.Persistence.WorkflowRuns
import BusinessAssistant.Persistence.Changes

namespace BusinessAssistant.Persistence

open BusinessAssistant.Domain BusinessAssistant.Application BusinessAssistant.Foundation

/-- Every lead and handoff case maps to its entity. -/
structure WorkflowDatabase.Loads (db : WorkflowDatabase) : Prop where
  leads : ∀ row ∈ db.leads, row.Loads
  cases : ∀ row ∈ db.handoffCases, row.Loads

/-! ## What the callers promise -/

/-- A trigger as a schema declares it. -/
def TriggerResult.Declared (trigger : TriggerResult) : Prop :=
  ¬ trigger.reasonCode.Blank ∧ (HandoffPriority.ofText? trigger.priority).isSome = true

instance (trigger : TriggerResult) : Decidable (TriggerResult.Declared trigger) :=
  inferInstanceAs (Decidable (_ ∧ _))

/-- What `detect_handoff` finds was declared by the schema. -/
theorem declared_of_detectHandoff [PythonText] {schema : QualificationSchema}
    {answers : List (Text × Answer)} {trigger : TriggerResult}
    (hdetect : detectHandoff schema answers = .ok (some trigger)) :
    TriggerResult.Declared trigger := by
  simp only [detectHandoff, except_bind_eq_ok] at hdetect
  obtain ⟨found, _, hwinner⟩ := hdetect
  cases hbest : found.argmax fun trigger => toLex (priorityRank trigger.priority, trigger.code) with
  | none =>
      rw [hbest] at hwinner
      cases hwinner
  | some winner =>
      rw [hbest] at hwinner
      cases hwinner
      exact ⟨winner.identityPresent.2, winner.priorityValid⟩

/-- The case `human_help` asks for. -/
def HandoffRequest.Explicit (request : HandoffRequest) : Prop :=
  request.reasonCode = "explicit_manager_request".toList ∧ request.priority = "normal".toList ∧
    request.summary = "Customer explicitly requested human assistance.".toList

instance (request : HandoffRequest) : Decidable (HandoffRequest.Explicit request) :=
  inferInstanceAs (Decidable (_ ∧ _))

/-- A confirmation comes with the key `confirm_booking` builds for its draft. -/
def Call.AsNavigated : Call → Prop
  | .customer _ _ (.confirm draftId key) => key = confirmKey draftId
  | _ => True

/-- A trigger of a completion was found by `detect_handoff`, and a case is asked for
by `human_help`. -/
def WorkflowCall.AsNavigated [PythonText] : WorkflowCall → Prop
  | .complete _ _ _ _ trigger _ _ => ∀ result ∈ trigger, TriggerResult.Declared result
  | .createOrGet _ request _ => HandoffRequest.Explicit request
  | _ => True

/-! ## Bookings -/

section Bookings

variable {cfg : Catalogue} {env : Environment} {db db' : Database}

theorem confirmKey_valid (draftId : BookingDraftId) :
    ¬ Text.Blank (confirmKey draftId) ∧ (confirmKey draftId).length ≤ 255 := by
  constructor
  · intro hblank
    have hletter : 't' ∈ confirmKey draftId := List.mem_append_left _ (by decide)
    exact absurd ((Text.blank_iff _).mp hblank 't' hletter) (by decide)
  · unfold confirmKey
    rw [List.length_append, UUID.str_length]
    decide

/-- A new booking has a key and the contact details the confirmation asks for. -/
theorem loads_newBooking {bookingId : BookingId} {draft : BookingDraftRow} {hold : SlotHoldRow}
    {service : ServiceRow} (hnamed : truthy draft.customerName = true) :
    (newBooking bookingId draft hold service (confirmKey draft.id)).Loads := by
  obtain ⟨hpresent, hlength⟩ := confirmKey_valid draft.id
  refine (BookingRow.loads_iff _).mpr ⟨⟨?_, hpresent, hlength⟩, ?_⟩
  · show ¬ Text.Blank "confirm".toList
    decide
  · intro hempty
    have hname : draft.customerName = none := congrArg CustomerSnapshot.name hempty
    rw [hname] at hnamed
    cases hnamed

theorem loads_movedTo {booking : BookingRow} (hold : SlotHoldRow) (service : ServiceRow)
    (hbooking : booking.Loads) : (booking.movedTo hold service).Loads := by
  rw [BookingRow.loads_iff] at hbooking ⊢
  exact hbooking

/-- A change that is no confirmation writes no booking or cancels one. -/
theorem Change.bookings_load {call : Call} (hchange : Change cfg env db call db')
    (hother : ∀ tenantId customerId draftId key,
      call ≠ .customer tenantId customerId (.confirm draftId key))
    (hloads : ∀ row ∈ db.bookings, row.Loads) : ∀ row ∈ db'.bookings, row.Loads := by
  cases hchange with
  | book => exact absurd rfl (hother _ _ _ _)
  | move => exact absurd rfl (hother _ _ _ _)
  | cancelBooking =>
      apply Table.forall_update hloads
      intro row hrow
      rw [BookingRow.loads_iff] at hrow ⊢
      exact hrow
  | startDraft => exact hloads
  | getActiveDraft => exact hloads
  | selectDate => exact hloads
  | createHold => exact hloads
  | updateContact => exact hloads
  | getHold => exact hloads
  | cancelDraft => exact hloads
  | expireHolds => exact hloads

theorem BookingStore.confirm_bookings_load {tenantId : TenantId} {customerId : CustomerId}
    {draftId : BookingDraftId} {booked : BookingResult}
    (hrun : (BookingStore.confirm cfg env tenantId customerId draftId (confirmKey draftId)).run db =
      .ok (booked, db'))
    (hloads : ∀ row ∈ db.bookings, row.Loads) : ∀ row ∈ db'.bookings, row.Loads := by
  rcases BookingStore.confirm_ok hrun with ⟨_, _, _, rfl⟩ | ⟨_, hconfirm⟩
  · exact hloads
  · obtain ⟨draft, hold, service, rfl, rfl, rfl, hready, hwrite⟩ :=
      BookingStore.confirmDraft_ok hconfirm
    rcases hwrite with ⟨_, _, _, _, _, rfl⟩ | ⟨booking, hbooking, _, _, _, _, _, _, rfl⟩
    · exact Table.forall_append_row hloads (loads_newBooking hready.named)
    · apply Table.forall_update hloads
      intro row hrow
      exact loads_movedTo hold service hrow

/-- A committed call of the booking store keeps every booking loadable. -/
theorem Call.bookings_load {call : Call} {response : Response}
    (hrun : (call.transaction cfg env).run db = .ok (response, db')) (hcall : call.AsNavigated)
    (hloads : ∀ row ∈ db.bookings, row.Loads) : ∀ row ∈ db'.bookings, row.Loads := by
  by_cases hconfirm : ∃ tenantId customerId draftId key,
      call = .customer tenantId customerId (.confirm draftId key)
  · obtain ⟨tenantId, customerId, draftId, key, rfl⟩ := hconfirm
    cases (show key = confirmKey draftId from hcall)
    obtain ⟨_, _, hconfirmed, hpair⟩ := Tx.run_map_eq_ok.mp hrun
    cases hpair
    exact BookingStore.confirm_bookings_load hconfirmed hloads
  · rcases Call.transaction_ok hrun with rfl | hchange
    · exact hloads
    · refine hchange.bookings_load ?_ hloads
      intro tenantId customerId draftId key hrequest
      exact hconfirm ⟨tenantId, customerId, draftId, key, hrequest⟩

end Bookings

/-! ## Leads and cases -/

theorem loads_of_leadToRow [PythonText] {lead : Lead Answer} {serverNow : Int} {row : LeadRow}
    (hrow : leadToRow lead serverNow = .ok row) : row.Loads := by
  simp only [leadToRow, except_bind_eq_ok, except_pure_eq_ok] at hrow
  obtain ⟨_, _, _, _, rfl⟩ := hrow
  exact (LeadRow.loads_iff _).mpr lead.identityPresent

/-- A replacement has a version and a source, and the replaced lead a code. -/
theorem loads_replaceBy {replacement row : LeadRow} (hreplacement : replacement.Loads)
    (hrow : row.Loads) : (replacement.replaceBy row).Loads := by
  rw [LeadRow.loads_iff] at hreplacement hrow ⊢
  exact ⟨hrow.1, hreplacement.2⟩

theorem loads_newCase {env : Environment} {identity : TelegramIdentity} {request : HandoffRequest}
    (hrequest : HandoffRequest.Explicit request) :
    (HandoffStore.newCase env identity request).Loads := by
  obtain ⟨hreason, hpriority, hsummary⟩ := hrequest
  refine (HandoffCaseRow.loads_iff _).mpr ⟨?_, ⟨?_, ?_⟩, ?_⟩
  · show HandoffPriority.ofText? request.priority ≠ none
    rw [hpriority]
    decide
  · show ¬ request.reasonCode.Blank
    rw [hreason]
    decide
  · show ¬ request.summary.Blank
    rw [hsummary]
    decide
  · intro hclaimed
    cases hclaimed

theorem loads_triggeredCase {env : Environment} {identity : TelegramIdentity}
    {sessionId : QualificationSessionId} {leadId : LeadId} {trigger : TriggerResult}
    {schedule : BusinessSchedule} {due : Int} (htrigger : TriggerResult.Declared trigger) :
    (triggeredCase env identity sessionId leadId trigger schedule due).Loads := by
  obtain ⟨hreason, hpriority⟩ := htrigger
  refine (HandoffCaseRow.loads_iff _).mpr ⟨Option.isSome_iff_ne_none.mp hpriority, ⟨hreason, ?_⟩, ?_⟩
  · intro hblank
    have hletter : 'Q' ∈ (triggeredCase env identity sessionId leadId trigger schedule due).summary :=
      List.mem_append_left _ (List.mem_append_left _ (by decide))
    exact absurd ((Text.blank_iff _).mp hblank 'Q' hletter) (by decide)
  · intro hclaimed
    cases hclaimed

section Workflow

variable [PythonText] {cfg : WorkflowCatalogue} {env : Environment} {db db' : WorkflowDatabase}

omit [PythonText] in
theorem WorkflowDatabase.Loads.queueCase (hloads : db.Loads) {case : HandoffCaseRow}
    (hcase : case.Loads) (event : OutboxEventRow) : (db.queueCase case event).Loads where
  leads := hloads.leads
  cases := Table.forall_append_row hloads.cases hcase

omit [PythonText] in
theorem WorkflowDatabase.Loads.writeLead (hloads : db.Loads) (existing : Option LeadRow)
    {replacement : LeadRow} (hreplacement : replacement.Loads) :
    (db.writeLead existing replacement).Loads := by
  cases existing with
  | none =>
      exact
        { leads := Table.forall_append_row hloads.leads hreplacement
          cases := hloads.cases }
  | some lead =>
      refine
        { leads := ?_
          cases := hloads.cases }
      apply Table.forall_update hloads.leads
      intro row hrow
      exact loads_replaceBy hreplacement hrow

theorem loads_of_escalated {identity : TelegramIdentity} {schema : QualificationSchema}
    {sessionId : QualificationSessionId} {leadId : LeadId} {now : Int}
    {trigger : Option TriggerResult} (hloads : db.Loads)
    (htrigger : ∀ result ∈ trigger, TriggerResult.Declared result)
    (hafter : Escalated env identity schema sessionId leadId now db trigger db') : db'.Loads := by
  cases trigger with
  | none =>
      cases hafter
      exact hloads
  | some result =>
      obtain ⟨schedule, due, _, _, _, rfl⟩ := hafter
      exact hloads.queueCase (loads_triggeredCase (htrigger result rfl)) _

omit [PythonText] in
/-- A transition keeps a claimed case assigned. -/
theorem WorkflowDatabase.Loads.moveTo (hloads : db.Loads) (row : HandoffCaseRow)
    (moved : HandoffCase) (action : HandoffAction) : (db.moveTo row moved action).Loads := by
  have hcases : ∀ case ∈ (db.updateCase row.id fun old =>
      { old with status := moved.status, assigneeId := moved.assigneeId }).handoffCases,
      case.Loads := by
    apply Table.forall_update hloads.cases
    intro case hcase
    rw [HandoffCaseRow.loads_iff] at hcase ⊢
    exact ⟨hcase.1, hcase.2.1, moved.claimedHasAssignee⟩
  unfold WorkflowDatabase.moveTo
  cases conversationStatus? action with
  | none => exact ⟨hloads.leads, hcases⟩
  | some status => exact ⟨hloads.leads, hcases⟩

/-- Every change but an anonymization keeps the rows loadable. -/
theorem WorkflowChange.loads {call : WorkflowCall} (hchange : WorkflowChange env db call db')
    (hother : ∀ tenantId customerId key, call ≠ .anonymize tenantId customerId key)
    (hcall : WorkflowCall.AsNavigated call) (hloads : db.Loads) : db'.Loads := by
  cases hchange with
  | expireSession => exact ⟨hloads.leads, hloads.cases⟩
  | start hbase =>
      cases hbase with
      | none => exact ⟨hloads.leads, hloads.cases⟩
      | expired => exact ⟨hloads.leads, hloads.cases⟩
  | @decideConsent _ _ _ decision =>
      cases decision with
      | accepted => exact ⟨hloads.leads, hloads.cases⟩
      | declined => exact ⟨hloads.leads, hloads.cases⟩
  | recordAnswer => exact ⟨hloads.leads, hloads.cases⟩
  | edit => exact ⟨hloads.leads, hloads.cases⟩
  | showReview => exact ⟨hloads.leads, hloads.cases⟩
  | complete _ _ _ _ _ hreplacement _ _ _ _ hafter =>
      have hwritten existing := hloads.writeLead existing (loads_of_leadToRow hreplacement)
      refine loads_of_escalated ?_ hcall hafter
      exact ⟨(hwritten _).leads, (hwritten _).cases⟩
  | cancel => exact ⟨hloads.leads, hloads.cases⟩
  | addSchema => exact ⟨hloads.leads, hloads.cases⟩
  | publishSchema => exact ⟨hloads.leads, hloads.cases⟩
  | createCase => exact hloads.queueCase (loads_newCase hcall) _
  | transition => exact hloads.moveTo _ _ _
  | anonymize => exact absurd rfl (hother _ _ _)

/-! ## Personal content -/

/-- No privacy action of the tenant was done under the key. -/
def WorkflowDatabase.ActionUnused (db : WorkflowDatabase) (tenantId : TenantId) (key : Text) :
    Prop :=
  ∀ row ∈ db.privacyActions, ¬ (row.tenantId = tenantId ∧ row.idempotencyKey = key)

omit [PythonText] in
theorem PrivacyStore.replay_none {tenantId : TenantId} {key : Text} {actionType : String}
    {targetId : Option Text} (hreplay : replay db tenantId key actionType targetId = .ok none) :
    db.ActionUnused tenantId key := by
  intro row hrow
  unfold replay at hreplay
  split at hreplay
  · rename_i hnone
    simpa using List.find?_eq_none.mp hnone row hrow
  · split at hreplay <;> cases hreplay

omit [PythonText] in
/-- An anonymization replays an earlier one or takes the customer's content out. -/
theorem PrivacyStore.anonymize_ok {tenantId : TenantId} {customerId : CustomerId} {key : Text}
    {result : PrivacyResult}
    (hrun : (anonymize env tenantId customerId key).run db = .ok (result, db')) :
    db' = db ∨
      db.ActionUnused tenantId key ∧ (∃ policy ∈ db.retentionPolicies, policy.tenantId = tenantId) ∧
        (∃ row ∈ db.customers, row.tenantId = tenantId ∧ row.id = customerId) ∧
        ∃ actions, db' = { anonymizeRows tenantId customerId db with privacyActions := actions } := by
  simp only [anonymize, Tx.run_get_bind_eq_ok, Tx.run_lift_bind_eq_ok] at hrun
  obtain ⟨replayed, hreplay, hrest⟩ := hrun
  cases replayed with
  | some result =>
      cases Tx.run_pure_eq_ok.mp hrest
      exact .inl rfl
  | none =>
      simp only [Tx.run_fetch_bind_eq_ok, Tx.run_require_bind_eq_ok, Tx.run_modify_bind_eq_ok,
        Tx.run_pure_eq_ok] at hrest
      obtain ⟨policy, hpolicy, hcustomer, hend⟩ := hrest
      cases hend
      obtain ⟨hmem, htenant⟩ := Table.of_find? hpolicy
      exact .inr ⟨replay_none hreplay, ⟨policy, hmem, htenant⟩, hcustomer, _, rfl⟩

omit [PythonText] in
/-- A retention run replays an earlier one or applies the policy it was given. -/
theorem PrivacyStore.runRetention_ok {tenantId : TenantId} {policyVersion : Nat} {key : Text}
    {ages : Ages} {counts : List (String × Nat)} {result : PrivacyResult}
    (hrun : (runRetention env tenantId policyVersion key ages counts).run db =
      .ok (result, db')) :
    db' = db ∨
      db.ActionUnused tenantId key ∧
        (∃ policy ∈ db.retentionPolicies, policy.tenantId = tenantId ∧
          policy.version = policyVersion) ∧
        ∃ actions, db' = { applyRetention tenantId ages db with privacyActions := actions } := by
  simp only [runRetention, Tx.run_get_bind_eq_ok, Tx.run_lift_bind_eq_ok] at hrun
  obtain ⟨replayed, hreplay, hrest⟩ := hrun
  cases replayed with
  | some result =>
      cases Tx.run_pure_eq_ok.mp hrest
      exact .inl rfl
  | none =>
      simp only [Tx.run_require_bind_eq_ok, Tx.run_modify_bind_eq_ok, Tx.run_pure_eq_ok] at hrest
      obtain ⟨hpolicy, hend⟩ := hrest
      cases hend
      exact .inr ⟨replay_none hreplay, hpolicy, _, rfl⟩

omit [PythonText] in
theorem loads_anonymizeLead {row : LeadRow} (hrow : row.Loads) :
    (PrivacyStore.anonymizeLead row).Loads := by
  rw [LeadRow.loads_iff] at hrow ⊢
  exact hrow

omit [PythonText] in
/-- What replaces a summary is a summary, and a case that stays claimed is not open. -/
theorem loads_anonymizeCase {row : HandoffCaseRow} (hrow : row.Loads) :
    (PrivacyStore.anonymizeCase row).Loads := by
  rw [HandoffCaseRow.loads_iff] at hrow ⊢
  refine ⟨hrow.1, ⟨hrow.2.1.1, ?_⟩, ?_⟩
  · show ¬ Text.Blank "Customer data removed by privacy workflow.".toList
    decide
  · intro hclaimed
    by_cases hopen : row.Open
    · simp [PrivacyStore.anonymizeCase, if_pos hopen] at hclaimed
    · simp only [PrivacyStore.anonymizeCase, if_neg hopen] at hclaimed
      exact hrow.2.2 hclaimed

omit [PythonText] in
/-- Leads and cases stay loadable without their content. -/
theorem WorkflowDatabase.Loads.anonymizeRows (hloads : db.Loads) (tenantId : TenantId)
    (customerId : CustomerId) : (PrivacyStore.anonymizeRows tenantId customerId db).Loads := by
  constructor
  · apply Table.forall_update hloads.leads
    intro row hrow
    exact loads_anonymizeLead hrow
  · apply Table.forall_update hloads.cases
    intro row hrow
    exact loads_anonymizeCase hrow

omit [PythonText] in
theorem WorkflowDatabase.Loads.applyRetention (hloads : db.Loads) (tenantId : TenantId)
    (ages : Ages) : (PrivacyStore.applyRetention tenantId ages db).Loads := by
  have hmiddle (ids : List CustomerId) : (ids.foldl
      (fun db customerId => PrivacyStore.anonymizeRows tenantId customerId db) db).Loads := by
    induction ids generalizing db with
    | nil => exact hloads
    | cons customerId rest ih => exact ih (hloads.anonymizeRows tenantId customerId)
  constructor
  · apply Table.forall_update (hmiddle _).leads
    intro row hrow
    exact loads_anonymizeLead hrow
  · apply Table.forall_update (hmiddle _).cases
    intro row hrow
    rw [HandoffCaseRow.loads_iff] at hrow ⊢
    refine ⟨hrow.1, ⟨hrow.2.1.1, ?_⟩, hrow.2.2⟩
    show ¬ PrivacyStore.retainedSummary.Blank
    decide

omit [PythonText] in
/-- Nothing is taken out of the bookings of other customers. -/
theorem PrivacyStore.anonymizeRows_bookings {tenantId : TenantId} {customerId : CustomerId}
    (hnone : ∀ row ∈ db.bookings, ¬ (row.tenantId = tenantId ∧ row.customerId = customerId)) :
    (anonymizeRows tenantId customerId db).bookings = db.bookings :=
  Table.update_eq_self hnone

omit [PythonText] in
/-- A retention run under which no booking is due leaves the bookings as they are. -/
theorem PrivacyStore.applyRetention_bookings {tenantId : TenantId} {ages : Ages}
    (hidle : ∀ row ∈ db.bookings,
      ¬ (row.tenantId = tenantId ∧ row.customerId ∈ eligibleCustomers tenantId ages db))
    (hdue : ∀ row ∈ db.bookings, ¬ BookingDue tenantId ages row) :
    (applyRetention tenantId ages db).bookings = db.bookings := by
  have hmiddle (ids : List CustomerId)
      (hnone : ∀ row ∈ db.bookings, ¬ (row.tenantId = tenantId ∧ row.customerId ∈ ids)) :
      (ids.foldl (fun db customerId => anonymizeRows tenantId customerId db) db).bookings =
        db.bookings := by
    clear hidle hdue
    induction ids generalizing db with
    | nil => rfl
    | cons customerId rest ih =>
        have hsame : (anonymizeRows tenantId customerId db).bookings = db.bookings := by
          apply anonymizeRows_bookings
          intro row hrow hmine
          exact hnone row hrow ⟨hmine.1, hmine.2 ▸ List.mem_cons_self⟩
        refine Eq.trans (ih ?_) hsame
        rw [hsame]
        intro row hrow hmine
        exact hnone row hrow ⟨hmine.1, List.mem_cons_of_mem _ hmine.2⟩
  refine Eq.trans (Table.update_eq_self ?_) (hmiddle _ hidle)
  rw [hmiddle _ hidle]
  exact hdue

/-- Only an anonymization writes bookings here. -/
theorem WorkflowChange.bookings_eq {call : WorkflowCall} (hchange : WorkflowChange env db call db')
    (hother : ∀ tenantId customerId key, call ≠ .anonymize tenantId customerId key) :
    db'.bookings = db.bookings := by
  cases hchange with
  | expireSession => rfl
  | start hbase => cases hbase <;> rfl
  | @decideConsent _ _ _ decision => cases decision <;> rfl
  | recordAnswer => rfl
  | edit => rfl
  | showReview => rfl
  | @complete _ _ _ _ _ trigger _ _ _ _ _ _ _ _ _ _ _ _ _ _ _ hafter =>
      have hwritten existing (replacement : LeadRow) :
          (db.writeLead existing replacement).bookings = db.bookings := by
        cases existing <;> rfl
      cases trigger with
      | none =>
          cases hafter
          exact hwritten _ _
      | some result =>
          obtain ⟨_, _, _, _, _, rfl⟩ := hafter
          exact hwritten _ _
  | cancel => rfl
  | addSchema => rfl
  | publishSchema => rfl
  | createCase => rfl
  | @transition _ _ action => cases action <;> rfl
  | anonymize => exact absurd rfl (hother _ _ _)

/-! ## The transactions together -/

/-- A transaction that writes bookings, leads or cases, with what it takes from
outside. -/
inductive RecordStep
  | booking (invocation : Invocation)
  | workflow (transaction : Transaction)
  | retention (env : Environment) (tenantId : TenantId) (policyVersion : Nat) (key : Text)
      (ages : Ages) (counts : List (String × Nat))

/-- The rows after a transaction committed or was rolled back. -/
def RecordStep.next (cfg : WorkflowCatalogue) (db : WorkflowDatabase) :
    RecordStep → WorkflowDatabase
  | .booking invocation =>
      { db with toDatabase := (invocation.execute cfg.toCatalogue db.toDatabase).2 }
  | .workflow transaction => ((transactionOf cfg transaction.env transaction.call).commit db).2
  | .retention env tenantId policyVersion key ages counts =>
      ((PrivacyStore.runRetention env tenantId policyVersion key ages counts).commit db).2

def RecordStep.AsNavigated : RecordStep → Prop
  | .booking invocation => invocation.call.AsNavigated
  | .workflow transaction => WorkflowCall.AsNavigated transaction.call
  | .retention .. => True

/-- The transactions of all these stores in any order, as their callers make them. -/
def recordSystem (cfg : WorkflowCatalogue) : System WorkflowDatabase RecordStep where
  init db := db.toDatabase.Fresh ∧ db.Fresh
  step db step db' := step.AsNavigated ∧ db' = step.next cfg db

/-- A booking whose personal content a step takes out: an anonymization of its
customer, or a retention run that finds the customer idle or the booking due. -/
def RecordStep.Empties (db : WorkflowDatabase) (booking : BookingRow) : RecordStep → Prop
  | .booking _ => False
  | .workflow transaction =>
      match transaction.call with
      | .anonymize tenantId customerId key =>
          db.ActionUnused tenantId key ∧
            (∃ policy ∈ db.retentionPolicies, policy.tenantId = tenantId) ∧
            (∃ row ∈ db.customers, row.tenantId = tenantId ∧ row.id = customerId) ∧
            booking.tenantId = tenantId ∧ booking.customerId = customerId
      | _ => False
  | .retention _ tenantId policyVersion key ages _ =>
      db.ActionUnused tenantId key ∧
        (∃ policy ∈ db.retentionPolicies, policy.tenantId = tenantId ∧
          policy.version = policyVersion) ∧
        (booking.tenantId = tenantId ∧
            booking.customerId ∈ PrivacyStore.eligibleCustomers tenantId ages db ∨
          PrivacyStore.BookingDue tenantId ages booking)

/-- No booking loses its personal content. -/
def KeepsContent (db : WorkflowDatabase) (step : RecordStep) : Prop :=
  ∀ booking ∈ db.bookings, ¬ step.Empties db booking

/-- A committed workflow call, apart from anonymizations. -/
theorem loads_of_transaction {call : WorkflowCall} {reply : call.Reply}
    (hrun : (transactionOf cfg env call).run db = .ok (reply, db'))
    (hcall : WorkflowCall.AsNavigated call) (hloads : db.Loads) : db'.Loads := by
  by_cases hanonymize : ∃ tenantId customerId key, call = .anonymize tenantId customerId key
  · obtain ⟨tenantId, customerId, key, rfl⟩ := hanonymize
    rcases PrivacyStore.anonymize_ok hrun with rfl | ⟨_, _, _, actions, rfl⟩
    · exact hloads
    · have hnext := hloads.anonymizeRows tenantId customerId
      exact ⟨hnext.leads, hnext.cases⟩
  · rcases changes_of_run hrun with rfl | hchange
    · exact hloads
    · refine hchange.loads ?_ hcall hloads
      intro tenantId customerId key hrequest
      exact hanonymize ⟨tenantId, customerId, key, hrequest⟩

/-- Whatever is taken out of them, leads and cases stay loadable. -/
theorem RecordStep.loads (step : RecordStep) (hstep : step.AsNavigated) (hloads : db.Loads) :
    (step.next cfg db).Loads := by
  cases step with
  | booking invocation => exact ⟨hloads.leads, hloads.cases⟩
  | workflow transaction =>
      apply Tx.commit_keeps hloads
      intro reply db' hrun
      exact loads_of_transaction hrun hstep hloads
  | retention env tenantId policyVersion key ages counts =>
      apply Tx.commit_keeps hloads
      intro result db' hrun
      rcases PrivacyStore.runRetention_ok hrun with rfl | ⟨_, _, actions, rfl⟩
      · exact hloads
      · have happlied := hloads.applyRetention tenantId ages
        exact ⟨happlied.leads, happlied.cases⟩

/-- A workflow transaction that takes the content out of no booking writes none. -/
theorem bookings_eq_of_transaction {transaction : Transaction} {reply : transaction.call.Reply}
    (hrun : (transactionOf cfg transaction.env transaction.call).run db = .ok (reply, db'))
    (hkeeps : KeepsContent db (.workflow transaction)) : db'.bookings = db.bookings := by
  obtain ⟨call, env⟩ := transaction
  by_cases hanonymize : ∃ tenantId customerId key, call = .anonymize tenantId customerId key
  · obtain ⟨tenantId, customerId, key, rfl⟩ := hanonymize
    rcases PrivacyStore.anonymize_ok hrun with rfl | ⟨hunused, hpolicy, hcustomer, actions, rfl⟩
    · rfl
    · apply PrivacyStore.anonymizeRows_bookings
      intro row hrow hmine
      exact hkeeps row hrow ⟨hunused, hpolicy, hcustomer, hmine⟩
  · rcases changes_of_run hrun with rfl | hchange
    · rfl
    · apply hchange.bookings_eq
      intro tenantId customerId key hrequest
      exact hanonymize ⟨tenantId, customerId, key, hrequest⟩

/-- A step that takes the content out of no booking keeps the bookings loadable. -/
theorem RecordStep.bookings_load (step : RecordStep) (hstep : step.AsNavigated)
    (hkeeps : KeepsContent db step) (hloads : ∀ row ∈ db.bookings, row.Loads) :
    ∀ row ∈ (step.next cfg db).bookings, row.Loads := by
  cases step with
  | booking invocation =>
      refine Tx.commit_keeps (P := fun db : Database => ∀ row ∈ db.bookings, row.Loads) hloads ?_
      intro response db' hrun
      exact Call.bookings_load hrun hstep hloads
  | workflow transaction =>
      refine Tx.commit_keeps (P := fun db : WorkflowDatabase => ∀ row ∈ db.bookings, row.Loads)
        hloads ?_
      intro reply db' hrun
      rw [bookings_eq_of_transaction hrun hkeeps]
      exact hloads
  | retention env tenantId policyVersion key ages counts =>
      refine Tx.commit_keeps (P := fun db : WorkflowDatabase => ∀ row ∈ db.bookings, row.Loads)
        hloads ?_
      intro result db' hrun
      rcases PrivacyStore.runRetention_ok hrun with rfl | ⟨hunused, hpolicy, actions, rfl⟩
      · exact hloads
      · show ∀ row ∈ (PrivacyStore.applyRetention tenantId ages db).bookings, row.Loads
        rw [PrivacyStore.applyRetention_bookings]
        · exact hloads
        · intro row hrow hidle
          exact hkeeps row hrow ⟨hunused, hpolicy, .inl hidle⟩
        · intro row hrow hdue
          exact hkeeps row hrow ⟨hunused, hpolicy, .inr hdue⟩

/-- Every lead and handoff case loads, in every run. -/
theorem leads_and_cases_load (hdb : (recordSystem cfg).Reachable db) :
    (∀ row ∈ db.leads, row.Loads) ∧ ∀ row ∈ db.handoffCases, row.Loads := by
  have hloads : db.Loads := by
    apply hdb.invariant (I := WorkflowDatabase.Loads)
    · rintro db ⟨_, hfresh⟩
      obtain ⟨_, _, _, hleads, hcases, _⟩ := hfresh
      exact ⟨by rw [hleads]; exact fun _ h => absurd h List.not_mem_nil,
        by rw [hcases]; exact fun _ h => absurd h List.not_mem_nil⟩
    · rintro db step db' _ hloads ⟨hstep, rfl⟩
      exact step.loads hstep hloads
  exact ⟨hloads.leads, hloads.cases⟩

/-- In a run that takes the personal content out of no booking, every booking, lead
and handoff case loads. -/
theorem stored_rows_load (hdb : ((recordSystem cfg).restrict KeepsContent).Reachable db) :
    (∀ row ∈ db.bookings, ∃ booking, bookingFromRow row = .ok booking) ∧
      (∀ row ∈ db.leads, ∃ lead, leadFromRow row = .ok lead) ∧
      ∀ row ∈ db.handoffCases, ∃ case, handoffFromRow row = .ok case := by
  refine ⟨?_, leads_and_cases_load hdb.of_restrict⟩
  apply hdb.invariant (I := fun db => ∀ row ∈ db.bookings, row.Loads)
  · rintro db ⟨hfresh, _⟩
    obtain ⟨_, _, hbookings, _⟩ := hfresh
    rw [hbookings]
    exact fun _ h => absurd h List.not_mem_nil
  · rintro db step db' _ hloads ⟨hkeeps, hstep, rfl⟩
    exact step.bookings_load hstep hkeeps hloads

end Workflow

/-! ## In the shop -/

section Shop

open Shop

namespace Shop

/-- The rows after some steps. -/
def recordsAfter (steps : List RecordStep) : WorkflowDatabase :=
  steps.foldl (RecordStep.next workflowCatalogue) welcomed.db

theorem reachable_recordsAfter {condition : WorkflowDatabase → RecordStep → Prop}
    (steps : List RecordStep)
    (hsteps : ∀ step ∈ steps, step.AsNavigated ∧ ∀ db, condition db step) :
    ((recordSystem workflowCatalogue).restrict condition).Reachable (recordsAfter steps) := by
  have hfrom (rest : List RecordStep) :
      ∀ db, ((recordSystem workflowCatalogue).restrict condition).Reachable db →
        (∀ step ∈ rest, step.AsNavigated ∧ ∀ db, condition db step) →
        ((recordSystem workflowCatalogue).restrict condition).Reachable
          (rest.foldl (RecordStep.next workflowCatalogue) db) := by
    induction rest with
    | nil =>
        intro db hdb _
        exact hdb
    | cons step rest ih =>
        intro db hdb hrest
        obtain ⟨hstep, hcondition⟩ := hrest step List.mem_cons_self
        apply ih _ (.step hdb ⟨hcondition db, hstep, rfl⟩)
        intro later hlater
        exact hrest later (List.mem_cons_of_mem _ hlater)
  exact hfrom steps _ (.init ⟨by decide +kernel, welcomed_fresh⟩) hsteps

/-- A customer books the first slot of a day. -/
def booksOnce : List RecordStep :=
  (takesFirstSlot 0 1000 none 0 (time 0 8 0)).map .booking

theorem booksOnce_keepsContent :
    ∀ step ∈ booksOnce, step.AsNavigated ∧ ∀ db, KeepsContent db step := by
  intro step hstep
  simp only [booksOnce, takesFirstSlot, List.map_cons, List.map_nil, List.mem_cons,
    List.not_mem_nil, or_false] at hstep
  rcases hstep with rfl | rfl | rfl | rfl | rfl
  all_goals exact ⟨by trivial, fun _ _ _ hempties => hempties⟩

/-- The booking is there, and staff are asked for. -/
def asksAfterBooking : List RecordStep :=
  booksOnce ++
    [.workflow (calls
      (.createOrGet (identity 0)
        { reasonCode := "explicit_manager_request".toList
          priority := "normal".toList
          summary := "Customer explicitly requested human assistance.".toList
          context := []
          leadId := none
          responseDueAt := time 0 12 0
          idempotencyKey := "telegram-human:1".toList }
        (time 0 9 0))
      (time 0 9 0) 2000)]

/-- Another customer, who has no booking, is anonymized. -/
def forgetsOther : RecordStep :=
  .workflow (calls (.anonymize tenantId (customerId 1) "privacy".toList) (time 0 9 30) 3000)

/-- The customer who booked is anonymized. -/
def forgetsBooking : List RecordStep :=
  booksOnce ++ [.workflow (calls (.anonymize tenantId (customerId 0) "privacy".toList) (time 0 9 0) 2000)]

end Shop

theorem reachable_asksAfterBooking :
    ((recordSystem workflowCatalogue).restrict KeepsContent).Reachable
      (recordsAfter asksAfterBooking) := by
  apply reachable_recordsAfter
  intro step hstep
  rcases List.mem_append.mp hstep with hbooks | hasks
  · exact booksOnce_keepsContent step hbooks
  · cases List.mem_singleton.mp hasks
    exact ⟨⟨rfl, rfl, rfl⟩, fun _ _ _ hempties => hempties⟩

/-- A booking and a case, and nothing taken out of either when another customer is
anonymized. -/
theorem stored_rows_load_booking :
    (∃ customer ∈ (recordsAfter (asksAfterBooking ++ [forgetsOther])).customers,
      customer.status = .anonymized) ∧
      (recordsAfter (asksAfterBooking ++ [forgetsOther])).bookings.length = 1 ∧
      (recordsAfter (asksAfterBooking ++ [forgetsOther])).handoffCases.length = 1 ∧
      (∀ row ∈ (recordsAfter (asksAfterBooking ++ [forgetsOther])).bookings, ∃ booking,
        bookingFromRow row = .ok booking) ∧
      (∀ row ∈ (recordsAfter (asksAfterBooking ++ [forgetsOther])).leads, ∃ lead,
        leadFromRow row = .ok lead) ∧
      ∀ row ∈ (recordsAfter (asksAfterBooking ++ [forgetsOther])).handoffCases, ∃ case,
        handoffFromRow row = .ok case := by
  have hothers : ∀ booking ∈ (recordsAfter asksAfterBooking).bookings,
      booking.customerId = customerId 0 := by
    decide +kernel
  have hkeeps : KeepsContent (recordsAfter asksAfterBooking) forgetsOther := by
    intro booking hbooking ⟨_, _, _, _, hmine⟩
    rw [hothers booking hbooking] at hmine
    exact absurd hmine (by decide)
  have hreachable : ((recordSystem workflowCatalogue).restrict KeepsContent).Reachable
      (recordsAfter (asksAfterBooking ++ [forgetsOther])) := by
    have hlast : recordsAfter (asksAfterBooking ++ [forgetsOther]) =
        forgetsOther.next workflowCatalogue (recordsAfter asksAfterBooking) := by
      rw [recordsAfter, List.foldl_append]
      rfl
    rw [hlast]
    exact .step reachable_asksAfterBooking ⟨hkeeps, trivial, rfl⟩
  exact ⟨by decide +kernel, by decide +kernel, by decide +kernel, stored_rows_load hreachable⟩

/-- The booking of an anonymized customer is there and cannot be loaded. -/
theorem anonymized_booking_unreadable :
    (recordSystem workflowCatalogue).Reachable (recordsAfter forgetsBooking) ∧
      ∃ row ∈ (recordsAfter forgetsBooking).bookings,
        ¬ ∃ booking, bookingFromRow row = .ok booking := by
  have hreachable : ((recordSystem workflowCatalogue).restrict fun _ _ => True).Reachable
      (recordsAfter forgetsBooking) := by
    apply reachable_recordsAfter
    intro step hstep
    refine ⟨?_, fun _ => trivial⟩
    rcases List.mem_append.mp hstep with hbooks | hforgets
    · exact (booksOnce_keepsContent step hbooks).1
    · cases List.mem_singleton.mp hforgets
      trivial
  have hempty : ∃ row ∈ (recordsAfter forgetsBooking).bookings, row.customerSnapshot = .empty := by
    decide +kernel
  obtain ⟨row, hrow, hsnapshot⟩ := hempty
  refine ⟨hreachable.of_restrict, row, hrow, ?_⟩
  intro hloads
  exact ((BookingRow.loads_iff row).mp hloads).2 hsnapshot

end Shop

end BusinessAssistant.Persistence
