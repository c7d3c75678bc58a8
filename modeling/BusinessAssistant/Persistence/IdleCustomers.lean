/-
# Idle customers

Retention anonymizes customers all of whose conversations are closed. Nothing closes a
conversation but anonymizing its customer, and resolving opens one for every new customer, so
no run ever finds a customer to anonymize.
-/

import BusinessAssistant.Persistence.LoadedRows
import BusinessAssistant.Persistence.TenantLife

namespace BusinessAssistant.Persistence

open BusinessAssistant.Domain BusinessAssistant.Application BusinessAssistant.Foundation

/-! ## Conversations that stay open -/

/-- Whoever had a conversation that was not closed has one that is not closed. -/
def StaysOpen (before after : List ConversationRow) : Prop :=
  ∀ row ∈ before, row.status ≠ .closed →
    ∃ row' ∈ after, row'.tenantId = row.tenantId ∧ row'.customerId = row.customerId ∧
      row'.status ≠ .closed

theorem StaysOpen.refl (rows : List ConversationRow) : StaysOpen rows rows :=
  fun row hrow hopen => ⟨row, hrow, rfl, rfl, hopen⟩

theorem StaysOpen.trans {before middle after : List ConversationRow}
    (hfirst : StaysOpen before middle) (hsecond : StaysOpen middle after) :
    StaysOpen before after := by
  intro row hrow hopen
  obtain ⟨between, hbetween, htenant, hcustomer, hopen⟩ := hfirst row hrow hopen
  obtain ⟨last, hlast, htenant', hcustomer', hopen'⟩ := hsecond between hbetween hopen
  exact ⟨last, hlast, htenant'.trans htenant, hcustomer'.trans hcustomer, hopen'⟩

theorem StaysOpen.append (rows added : List ConversationRow) : StaysOpen rows (rows ++ added) :=
  fun row hrow hopen => ⟨row, List.mem_append_left _ hrow, rfl, rfl, hopen⟩

/-- An update that gives no conversation the status closed. -/
theorem StaysOpen.update {selected : ConversationRow → Prop} [DecidablePred selected]
    {change : ConversationRow → ConversationRow} {rows : List ConversationRow}
    (htenant : ∀ row, (change row).tenantId = row.tenantId)
    (hcustomer : ∀ row, (change row).customerId = row.customerId)
    (hstatus : ∀ row, row.status ≠ .closed → (change row).status ≠ .closed) :
    StaysOpen rows (Table.update selected change rows) := by
  intro row hrow hopen
  by_cases hselected : selected row
  · exact ⟨change row, Table.mem_update_of_selected hrow hselected, htenant row, hcustomer row,
      hstatus row hopen⟩
  · exact ⟨row, Table.mem_update_of_not_selected hrow hselected, rfl, rfl, hopen⟩

theorem Database.staysOpen_setWorkflow (db : Database) (tenantId : TenantId)
    (conversationId : ConversationId) (workflow : Option String) :
    StaysOpen db.conversations (db.setWorkflow tenantId conversationId workflow).conversations :=
  .update (fun _ => rfl) (fun _ => rfl) fun _ hopen => hopen

/-- Booking writes the workflow of a conversation and nothing else of it. -/
theorem Change.staysOpen {cfg : Catalogue} {env : Environment} {db db' : Database} {call : Call}
    (hchange : Change cfg env db call db') : StaysOpen db.conversations db'.conversations := by
  cases hchange with
  | startDraft => exact Database.staysOpen_setWorkflow _ _ _ _
  | getActiveDraft => exact .refl _
  | selectDate => exact .refl _
  | createHold => exact Database.staysOpen_setWorkflow _ _ _ _
  | updateContact => exact Database.staysOpen_setWorkflow _ _ _ _
  | getHold => exact .refl _
  | cancelDraft => exact Database.staysOpen_setWorkflow _ _ _ _
  | book => exact Database.staysOpen_setWorkflow _ _ _ _
  | move => exact Database.staysOpen_setWorkflow _ _ _ _
  | cancelBooking => exact .refl _
  | expireHolds => exact .refl _

/-! ## What leaves the customers alone -/

/-- Customers and identities are as they were, and their conversations stay open. -/
structure Unaffected (db db' : WorkflowDatabase) : Prop where
  customers : db'.customers = db.customers
  channelIdentities : db'.channelIdentities = db.channelIdentities
  conversations : StaysOpen db.conversations db'.conversations

namespace Unaffected

theorem refl (db : WorkflowDatabase) : Unaffected db db := ⟨rfl, rfl, .refl _⟩

theorem trans {db middle db' : WorkflowDatabase} (hfirst : Unaffected db middle)
    (hsecond : Unaffected middle db') : Unaffected db db' where
  customers := hsecond.customers.trans hfirst.customers
  channelIdentities := hsecond.channelIdentities.trans hfirst.channelIdentities
  conversations := hfirst.conversations.trans hsecond.conversations

/-- The workflow of a conversation is written after rows of other tables were. -/
theorem setConversationWorkflow {db base : WorkflowDatabase} {id : ConversationId}
    {workflow : Option Text} (hcustomers : base.customers = db.customers)
    (hidentities : base.channelIdentities = db.channelIdentities)
    (hconversations : base.conversations = db.conversations) :
    Unaffected db (base.setConversationWorkflow id workflow) := by
  refine ⟨hcustomers, hidentities, ?_⟩
  rw [← hconversations]
  exact .update (fun _ => rfl) (fun _ => rfl) fun _ hopen => hopen

theorem writeLead (db : WorkflowDatabase) (existing : Option LeadRow) (replacement : LeadRow) :
    Unaffected db (db.writeLead existing replacement) := by
  cases existing with
  | none => exact ⟨rfl, rfl, .refl _⟩
  | some row => exact ⟨rfl, rfl, .refl _⟩

theorem writeCompletion (db : WorkflowDatabase) (row : QualificationSessionRow) (leadId : LeadId)
    (event : OutboxEventRow) (update : QualificationSessionUpdateRow) :
    Unaffected db (db.writeCompletion row leadId event update) := by
  have hworkflow : Unaffected db ((db.updateSession row.id
      (QualificationSessionRow.complete leadId)).setConversationWorkflow row.conversationId none) :=
    .setConversationWorkflow rfl rfl rfl
  exact ⟨hworkflow.customers, hworkflow.channelIdentities, hworkflow.conversations⟩

theorem queueCase (db : WorkflowDatabase) (case : HandoffCaseRow) (event : OutboxEventRow) :
    Unaffected db (db.queueCase case event) :=
  ⟨rfl, rfl, .update (fun _ => rfl) (fun _ => rfl) fun _ _ => nofun⟩

theorem moveTo (db : WorkflowDatabase) (row : HandoffCaseRow) (case : HandoffCase)
    (action : HandoffAction) : Unaffected db (db.moveTo row case action) := by
  cases action with
  | claim => exact ⟨rfl, rfl, .update (fun _ => rfl) (fun _ => rfl) fun _ _ => nofun⟩
  | resolve => exact ⟨rfl, rfl, .refl _⟩
  | reopen => exact ⟨rfl, rfl, .update (fun _ => rfl) (fun _ => rfl) fun _ _ => nofun⟩
  | returnToBot => exact ⟨rfl, rfl, .update (fun _ => rfl) (fun _ => rfl) fun _ _ => nofun⟩

theorem escalated [PythonText] {env : Environment} {identity : TelegramIdentity} {schema : QualificationSchema}
    {sessionId : QualificationSessionId} {leadId : LeadId} {now : Int}
    {written after : WorkflowDatabase} {trigger : Option TriggerResult}
    (hafter : Escalated env identity schema sessionId leadId now written trigger after) :
    Unaffected written after := by
  cases trigger with
  | none =>
      rw [show after = written from hafter]
      exact .refl _
  | some result =>
      obtain ⟨_, _, _, _, _, rfl⟩ := hafter
      exact .queueCase _ _ _

end Unaffected

section Workflow

variable [PythonText] {env : Environment} {db db' : WorkflowDatabase}

/-- What a call leaves that anonymizes a customer -/
def Anonymizes (db db' : WorkflowDatabase) : Prop :=
  ∃ tenantId customerId actions,
    db' = { PrivacyStore.anonymizeRows tenantId customerId db with privacyActions := actions }

/-- No other call disturbs a customer. -/
theorem WorkflowChange.unaffected_or {call : WorkflowCall} (hchange : WorkflowChange env db call db') :
    Unaffected db db' ∨ Anonymizes db db' := by
  cases hchange with
  | expireSession => exact .inl (.setConversationWorkflow rfl rfl rfl)
  | start hbase =>
      cases hbase with
      | none => exact .inl (.setConversationWorkflow rfl rfl rfl)
      | expired => exact .inl (.setConversationWorkflow rfl rfl rfl)
  | @decideConsent _ _ _ decision =>
      cases decision with
      | accepted => exact .inl ⟨rfl, rfl, .refl _⟩
      | declined => exact .inl (.setConversationWorkflow rfl rfl rfl)
  | recordAnswer => exact .inl ⟨rfl, rfl, .refl _⟩
  | edit => exact .inl ⟨rfl, rfl, .refl _⟩
  | showReview => exact .inl ⟨rfl, rfl, .refl _⟩
  | complete _ _ _ _ _ _ _ _ _ _ hafter =>
      left
      have hescalated := Unaffected.escalated hafter
      exact (Unaffected.writeLead _ _ _).trans
        ((Unaffected.writeCompletion _ _ _ _ _).trans hescalated)
  | cancel => exact .inl (.setConversationWorkflow rfl rfl rfl)
  | addSchema => exact .inl ⟨rfl, rfl, .refl _⟩
  | publishSchema => exact .inl ⟨rfl, rfl, .refl _⟩
  | createCase => exact .inl (.queueCase _ _ _)
  | transition => exact .inl (.moveTo _ _ _ _)
  | anonymize actions => exact .inr ⟨_, _, actions, rfl⟩

end Workflow

/-! ## Whoever is not anonymized can be answered -/

/-- Every customer of the tenant who is not anonymized has a conversation that is not closed. -/
def Answerable (tenantId : TenantId) (db : WorkflowDatabase) : Prop :=
  ∀ customer ∈ db.customers, customer.tenantId = tenantId → customer.status ≠ .anonymized →
    ∃ row ∈ db.conversations, row.tenantId = tenantId ∧ row.customerId = customer.id ∧
      row.status ≠ .closed

section Invariant

variable {tenantId : TenantId} {db db' : WorkflowDatabase}

/-- Conversations stay open, and new customers have one. -/
theorem Answerable.grow (hdb : Answerable tenantId db)
    (hconversations : StaysOpen db.conversations db'.conversations)
    (hcustomers : ∀ customer ∈ db'.customers, customer ∈ db.customers ∨
      ∃ row ∈ db'.conversations, row.tenantId = customer.tenantId ∧ row.customerId = customer.id ∧
        row.status ≠ .closed) :
    Answerable tenantId db' := by
  intro customer hcustomer htenant hstatus
  rcases hcustomers customer hcustomer with hold | ⟨row, hrow, hrowTenant, hrowCustomer, hopen⟩
  · obtain ⟨row, hrow, hrowTenant, hrowCustomer, hopen⟩ := hdb customer hold htenant hstatus
    obtain ⟨row', hrow', hsameTenant, hsameCustomer, hopen'⟩ := hconversations row hrow hopen
    exact ⟨row', hrow', hsameTenant.trans hrowTenant, hsameCustomer.trans hrowCustomer, hopen'⟩
  · exact ⟨row, hrow, hrowTenant.trans htenant, hrowCustomer, hopen⟩

theorem Answerable.unaffected (hdb : Answerable tenantId db) (hrest : Unaffected db db') :
    Answerable tenantId db' := by
  apply hdb.grow hrest.conversations
  intro customer hcustomer
  rw [hrest.customers] at hcustomer
  exact .inl hcustomer

/-- The conversations an anonymization closes are those of the customer it anonymizes. -/
theorem Answerable.anonymizes (hdb : Answerable tenantId db) (hrest : Anonymizes db db') :
    Answerable tenantId db' := by
  obtain ⟨owner, customerId, actions, rfl⟩ := hrest
  intro customer hcustomer htenant hstatus
  rcases Table.mem_update.mp hcustomer with ⟨old, _, _, rfl⟩ | ⟨hold, hother⟩
  · exact absurd rfl hstatus
  · obtain ⟨row, hrow, hrowTenant, hrowCustomer, hopen⟩ := hdb customer hold htenant hstatus
    refine ⟨row, Table.mem_update_of_not_selected hrow ?_, hrowTenant, hrowCustomer, hopen⟩
    rintro ⟨howner, hcustomerId⟩
    apply hother
    exact ⟨htenant.trans (hrowTenant.symm.trans howner), hrowCustomer.symm.trans hcustomerId⟩

/-- A run of retention closes the conversations of those it anonymizes. -/
theorem Answerable.applyRetention (hdb : Answerable tenantId db) (owner : TenantId) (ages : Ages) :
    Answerable tenantId (PrivacyStore.applyRetention owner ages db) := by
  have hanonymized : ∀ (ids : List CustomerId) (db : WorkflowDatabase), Answerable tenantId db →
      Answerable tenantId
        (ids.foldl (fun db customerId => PrivacyStore.anonymizeRows owner customerId db) db) := by
    intro ids
    induction ids with
    | nil =>
        intro db hdb
        exact hdb
    | cons customerId ids ih =>
        intro db hdb
        exact ih _ (hdb.anonymizes ⟨owner, customerId, _, rfl⟩)
  have hremoved := hanonymized (PrivacyStore.eligibleCustomers owner ages db) db hdb
  -- Taking content out writes neither customers nor conversations.
  exact hremoved

/-- No customer with a conversation that is not closed is eligible. -/
theorem eligibleCustomers_eq_nil (hdb : Answerable tenantId db) (ages : Ages) :
    PrivacyStore.eligibleCustomers tenantId ages db = [] := by
  rw [PrivacyStore.eligibleCustomers, List.map_eq_nil_iff, List.filter_eq_nil_iff]
  intro customer hcustomer heligible
  obtain ⟨htenant, hstatus, _, hidle⟩ := of_decide_eq_true heligible
  obtain ⟨row, hrow, hrowTenant, hrowCustomer, hopen⟩ := hdb customer hcustomer htenant hstatus
  exact hopen (hidle.conversations row hrow hrowTenant hrowCustomer)

end Invariant

/-! ## The keys -/

/-- The ids of customers and identities are as they were. -/
structure SameIds (db db' : WorkflowDatabase) : Prop where
  customers : db'.customers.map (·.id) = db.customers.map (·.id)
  identities : db'.channelIdentities.map (·.id) = db.channelIdentities.map (·.id)

namespace SameIds

theorem refl (db : WorkflowDatabase) : SameIds db db := ⟨rfl, rfl⟩

theorem trans {db middle db' : WorkflowDatabase} (hfirst : SameIds db middle)
    (hsecond : SameIds middle db') : SameIds db db' where
  customers := hsecond.customers.trans hfirst.customers
  identities := hsecond.identities.trans hfirst.identities

theorem anonymizeRows (owner : TenantId) (customerId : CustomerId) (db : WorkflowDatabase) :
    SameIds db (PrivacyStore.anonymizeRows owner customerId db) where
  customers := Table.map_update (fun row : CustomerRow => row.id) fun _ => rfl
  identities := Table.map_update (fun row : ChannelIdentityRow => row.id) fun _ => rfl

theorem applyRetention (owner : TenantId) (ages : Ages) (db : WorkflowDatabase) :
    SameIds db (PrivacyStore.applyRetention owner ages db) := by
  have hanonymized : ∀ (ids : List CustomerId) (db : WorkflowDatabase), SameIds db
      (ids.foldl (fun db customerId => PrivacyStore.anonymizeRows owner customerId db) db) := by
    intro ids
    induction ids with
    | nil =>
        intro db
        exact .refl db
    | cons customerId ids ih =>
        intro db
        exact (anonymizeRows owner customerId db).trans (ih _)
  have hremoved := hanonymized (PrivacyStore.eligibleCustomers owner ages db) db
  exact ⟨hremoved.customers, hremoved.identities⟩

end SameIds

theorem Unaffected.sameIds {db db' : WorkflowDatabase} (hrest : Unaffected db db') :
    SameIds db db' where
  customers := by rw [hrest.customers]
  identities := by rw [hrest.channelIdentities]

theorem Anonymizes.sameIds {db db' : WorkflowDatabase} (hrest : Anonymizes db db') :
    SameIds db db' := by
  obtain ⟨owner, customerId, actions, rfl⟩ := hrest
  have hids := SameIds.anonymizeRows owner customerId db
  exact ⟨hids.customers, hids.identities⟩

/-! ## Every state of a tenant -/

namespace TenantState

/-- What holds of a tenant at any time. -/
structure Attended (tenantId : TenantId) (s : TenantState) : Prop where
  answerable : Answerable tenantId s.db
  customers : (s.db.customers.map (·.id)).Nodup
  referred : ∀ columns ∈ s.columns, ∀ identityId ∈ columns.channelIdentityId,
    identityId ∈ s.db.channelIdentities.map (·.id)

section Steps

variable {tenantId : TenantId} {s : TenantState}

/-- A step that keeps the ids. -/
theorem Attended.of_sameIds (hs : s.Attended tenantId) {db : WorkflowDatabase}
    (hids : SameIds s.db db) (hanswerable : Answerable tenantId db) :
    Attended tenantId { s with db := db } where
  answerable := hanswerable
  customers := by
    rw [hids.customers]
    exact hs.customers
  referred columns hcolumns identityId hidentity := by
    rw [hids.identities]
    exact hs.referred columns hcolumns identityId hidentity

theorem Attended.booked (hs : s.Attended tenantId) (cfg : Catalogue) (invocation : Invocation) :
    (s.booked cfg invocation).Attended tenantId := by
  have hconversations : StaysOpen s.db.conversations
      (invocation.execute cfg s.db.toDatabase).2.conversations := by
    rcases invocation.execute_change cfg s.db.toDatabase with hsame | hchange
    · rw [hsame]
      exact .refl _
    · exact hchange.staysOpen
  have hrest : Unaffected s.db (s.booked cfg invocation).db := ⟨rfl, rfl, hconversations⟩
  exact hs.of_sameIds hrest.sameIds (hs.answerable.unaffected hrest)

theorem Attended.transacted [PythonText] (hs : s.Attended tenantId) (cfg : WorkflowCatalogue)
    (transaction : Transaction) : (s.transacted cfg transaction).Attended tenantId := by
  rcases Tx.commit_state (transactionOf cfg transaction.env transaction.call) s.db with
    hsame | ⟨reply, hrun⟩
  · exact hs.of_sameIds (by rw [hsame]; exact .refl _) (by rw [hsame]; exact hs.answerable)
  · rcases changes_of_run hrun with hsame | hchange
    · exact hs.of_sameIds (by rw [hsame]; exact .refl _) (by rw [hsame]; exact hs.answerable)
    · rcases hchange.unaffected_or with hrest | hrest
      · exact hs.of_sameIds hrest.sameIds (hs.answerable.unaffected hrest)
      · exact hs.of_sameIds hrest.sameIds (hs.answerable.anonymizes hrest)

theorem Attended.retained (hs : s.Attended tenantId) (run : RetentionRun) :
    (s.retained run).Attended tenantId := by
  apply Tx.commit_keeps (P := fun db => Attended tenantId { s with db := db }) hs
  intro result db hrun
  rcases PrivacyStore.runRetention_ok hrun with rfl | ⟨_, _, actions, rfl⟩
  · exact hs
  · have hids := SameIds.applyRetention run.tenantId run.ages s.db
    exact hs.of_sameIds ⟨hids.customers, hids.identities⟩
      (hs.answerable.applyRetention run.tenantId run.ages)

/-! ### Resolving -/

theorem greeted_db (request : ResolveRequest) (identity : ChannelIdentityRow) :
    (s.greeted request identity).db.customers = s.db.customers ∧
      (s.greeted request identity).db.conversations = s.db.conversations := by
  unfold greeted
  split
  · exact ⟨rfl, rfl⟩
  · exact ⟨rfl, rfl⟩

/-- An identity nothing refers to has no conversation. -/
theorem live_eq_nil {owner : TenantId} {identityId : UUID}
    (hreferred : ∀ columns ∈ s.columns, columns.channelIdentityId ≠ some identityId) :
    s.live owner identityId = [] := by
  rw [live, List.filter_eq_nil_iff]
  intro columns hcolumns hlive
  exact hreferred columns hcolumns (of_decide_eq_true hlive).1

/-- The identity is there: no customer is added. -/
theorem Attended.resolved_found (hs : s.Attended tenantId) {resolve : Resolve}
    {identity : ChannelIdentityRow} (hidentity : s.identity? resolve.request = some identity) :
    Answerable tenantId (s.resolved resolve).db := by
  obtain ⟨hcustomers, hconversations⟩ := s.greeted_db resolve.request identity
  simp only [resolved, identified, hidentity]
  cases resolve.selected with
  | none =>
      apply hs.answerable.grow
      · show StaysOpen _ ((s.greeted resolve.request identity).db.conversations ++ [_])
        rw [hconversations]
        exact .append _ _
      · intro customer hcustomer
        exact .inl (hcustomers ▸ hcustomer)
  | some columns =>
      apply hs.answerable.grow
      · show StaysOpen _ (s.greeted resolve.request identity).db.conversations
        rw [hconversations]
        exact .refl _
      · intro customer hcustomer
        exact .inl (hcustomers ▸ hcustomer)

/-- The identity is new, and so are its customer and its conversation. -/
theorem Attended.resolved_new (hs : s.Attended tenantId) {tenants : List TenantRow}
    {resolve : Resolve} (hresolves : s.Resolves tenants resolve)
    (hidentity : s.identity? resolve.request = none) :
    Answerable tenantId (s.resolved resolve).db := by
  have hselects := hresolves.selects
  have hidentities := hresolves.constraints.identities
  simp only [resolved, identified, hidentity] at hselects hidentities ⊢
  cases hselected : resolve.selected with
  | none =>
      apply hs.answerable.grow (.append _ _)
      intro customer hcustomer
      rcases List.mem_append.mp hcustomer with hold | hnew
      · exact .inl hold
      · cases List.mem_singleton.mp hnew
        exact .inr ⟨_, List.mem_append_right _ (List.mem_singleton_self _), rfl, rfl, nofun⟩
  | some columns =>
      rw [hselected] at hselects hidentities
      have hfresh : resolve.identityId ∉ s.db.channelIdentities.map (·.id) := by
        have hdisjoint := (List.nodup_append.mp (List.map_append ▸ hidentities)).2.2
        intro hid
        exact hdisjoint _ hid _ (List.mem_singleton_self _) rfl
      have hnone : (s.enrolled (newCustomer resolve.request resolve.customerId)
          (newIdentity resolve.request resolve.customerId resolve.identityId)).live
            resolve.request.tenantId resolve.identityId = [] := by
        apply live_eq_nil
        intro other hother hreferred
        exact hfresh (hs.referred other hother _ hreferred)
      have hmem := hselects.1
      rw [show (newIdentity resolve.request resolve.customerId resolve.identityId).id =
        resolve.identityId from rfl, hnone] at hmem
      exact absurd hmem List.not_mem_nil

theorem Attended.resolved (hs : s.Attended tenantId) {tenants : List TenantRow} {resolve : Resolve}
    (hresolves : s.Resolves tenants resolve) : (s.resolved resolve).Attended tenantId := by
  refine ⟨?_, hresolves.constraints.customers, hresolves.constraints.referred⟩
  cases hidentity : s.identity? resolve.request with
  | none => exact hs.resolved_new hresolves hidentity
  | some identity => exact hs.resolved_found hidentity

end Steps

/-- Nothing that happens to a tenant leaves a customer who is not anonymized without a
conversation. -/
theorem attended [PythonText] {cfg : WorkflowCatalogue} {tenantId : TenantId} {s : TenantState}
    (hs : (tenantSystem cfg tenantId).Reachable s) : s.Attended tenantId := by
  apply hs.invariant
  · intro s hempty
    refine ⟨?_, hempty.constraints.customers, hempty.constraints.referred⟩
    intro customer hcustomer htenant
    exact absurd htenant (hempty.customers customer hcustomer)
  · intro s step s' _ hs hstep
    cases step with
    | resolve resolve =>
        obtain ⟨hresolves, rfl⟩ := hstep
        exact hs.resolved hresolves
    | book invocation =>
        cases hstep
        exact hs.booked _ invocation
    | transact transaction =>
        cases hstep
        exact hs.transacted cfg transaction
    | retain run =>
        cases hstep
        exact hs.retained run

/-! ## Overdue customers -/

/-- Nothing of the customer is going on, apart from conversations. -/
structure Quiet (db : WorkflowDatabase) (tenantId : TenantId) (customerId : CustomerId) : Prop where
  drafts : ∀ row ∈ db.bookingDrafts, row.tenantId = tenantId → row.customerId = customerId →
    row.status ≠ .active
  holds : ∀ row ∈ db.slotHolds, row.tenantId = tenantId → row.customerId = customerId →
    row.status ≠ .active
  bookings : ∀ row ∈ db.bookings, row.tenantId = tenantId → row.customerId = customerId →
    ¬ PrivacyStore.BookingPending row
  leads : ∀ row ∈ db.leads, row.tenantId = tenantId → row.customerId = customerId →
    ¬ PrivacyStore.LeadPending row
  sessions : ∀ row ∈ db.qualificationSessions, row.tenantId = tenantId →
    row.customerId = customerId → row.status.isActive = false
  cases : ∀ row ∈ db.handoffCases, row.tenantId = tenantId → row.customerId = some customerId →
    ¬ row.Open

/-- A customer a run is to anonymize: neither its row nor a message of its conversations is from
after the cutoff, and nothing of it is going on. -/
structure Overdue (s : TenantState) (run : RetentionRun) (customerContactDays : Nat)
    (customer : CustomerRow) : Prop where
  stored : customer ∈ s.db.customers
  tenant : customer.tenantId = run.tenantId
  status : customer.status ≠ .anonymized
  old : run.ages.customer customer.id = true
  silent : ∀ columns ∈ s.columns, (∃ row ∈ s.db.conversations, row.id = columns.conversationId ∧
    row.tenantId = run.tenantId ∧ row.customerId = customer.id) →
      ∀ lastMessageAt ∈ columns.lastMessageAt,
        lastMessageAt < run.env.now - days customerContactDays
  quiet : Quiet s.db run.tenantId customer.id

/-- The customer is anonymized. -/
def Anonymized (db : WorkflowDatabase) (customer : CustomerRow) : Prop :=
  ∃ row ∈ db.customers, row.id = customer.id ∧ row.status = .anonymized

instance (db : WorkflowDatabase) (customer : CustomerRow) : Decidable (Anonymized db customer) :=
  inferInstanceAs (Decidable (∃ row ∈ db.customers, _))

/-- A run of retention leaves the customers of its tenant as they are. -/
theorem Attended.customers_retained {s : TenantState} {run : RetentionRun}
    (hs : s.Attended run.tenantId) : (s.retained run).db.customers = s.db.customers := by
  refine Tx.commit_keeps (P := fun db : WorkflowDatabase => db.customers = s.db.customers) rfl ?_
  intro result db hrun
  rcases PrivacyStore.runRetention_ok hrun with rfl | ⟨_, _, actions, rfl⟩
  · rfl
  · show (PrivacyStore.applyRetention run.tenantId run.ages s.db).customers = s.db.customers
    rw [PrivacyStore.applyRetention, eligibleCustomers_eq_nil hs.answerable]
    rfl

/-- No run, whatever its policy and time, anonymizes an overdue customer. -/
theorem not_anonymized_of_overdue [PythonText] (cfg : WorkflowCatalogue) (s : TenantState)
    (run : RetentionRun) (hs : (tenantSystem cfg run.tenantId).Reachable s)
    (customerContactDays : Nat) (customer : CustomerRow)
    (hoverdue : s.Overdue run customerContactDays customer) :
    ¬ Anonymized (s.retained run).db customer := by
  have hattended := attended hs
  rintro ⟨row, hrow, hid, hstatus⟩
  rw [hattended.customers_retained] at hrow
  -- The primary key: the row is the customer's.
  cases Table.eq_of_key_eq hattended.customers hrow hoverdue.stored hid
  exact hoverdue.status hstatus

/-! ### A visitor -/

section Visitor

open Shop

/-- The tables before anyone has written. -/
def opening : TenantState where
  db := { retentionPolicies := [{ tenantId := Shop.tenantId, version := 1 }] }
  columns := []

/-- Someone writes to the shop once. -/
def visit : Resolve where
  request :=
    { tenantId := Shop.tenantId
      userId := 1
      chatId := 1
      now := 0
      userPositive := Nat.one_pos
      chatNonzero := by decide }
  customerId := 1#128
  identityId := 2#128
  conversationId := 3#128
  createdAt := 0
  selected := none

/-- The run of retention more than a year later. -/
def sweep : RetentionRun where
  env := { now := days 400, serverNow := days 400, newId := 4#128 }
  tenantId := Shop.tenantId
  policyVersion := 1
  idempotencyKey := "sweep".toList
  ages := ⟨fun _ => true, fun _ => true, fun _ => true, fun _ => true, fun _ => true,
    fun _ => true, fun _ => true⟩
  counts := []

/-- Who wrote. -/
def visitor : CustomerRow := newCustomer visit.request visit.customerId

/-- The tables after that. -/
def visited : TenantState where
  db :=
    { opening.db with
      customers := [visitor]
      channelIdentities := [newIdentity visit.request visit.customerId visit.identityId]
      conversations := [newConversationRow visit.request visit.customerId visit.conversationId] }
  columns :=
    [{ conversationId := visit.conversationId
       channelIdentityId := some visit.identityId
       lastMessageAt := some visit.request.now
       createdAt := visit.createdAt }]

theorem resolved_visit : opening.resolved visit = visited := rfl

theorem constraints_visited : visited.Constraints where
  customers := List.nodup_singleton _
  identities := List.nodup_singleton _
  users := List.nodup_singleton _
  conversations := List.nodup_singleton _
  referred columns hcolumns identityId hidentity := by
    cases List.mem_singleton.mp hcolumns
    cases hidentity
    exact List.mem_singleton_self _

theorem visited_reachable :
    (tenantSystem Shop.workflowCatalogue Shop.tenantId).Reachable visited := by
  have hempty : opening.Empty Shop.tenantId :=
    ⟨nofun, nofun, nofun, ⟨List.nodup_nil, List.nodup_nil, List.nodup_nil, List.nodup_nil, nofun⟩⟩
  have hinit : (tenantSystem Shop.workflowCatalogue Shop.tenantId).Reachable opening :=
    .init hempty
  have hresolves : opening.Resolves Shop.workflowCatalogue.tenants visit :=
    ⟨by decide, rfl, resolved_visit ▸ constraints_visited⟩
  have hstep : (tenantSystem Shop.workflowCatalogue Shop.tenantId).step opening (.resolve visit)
      visited := ⟨hresolves, resolved_visit.symm⟩
  exact hinit.step hstep

theorem visitor_overdue : visited.Overdue sweep 365 visitor := by
  refine ⟨by decide, rfl, by decide, rfl, by decide, ?_⟩
  exact ⟨by decide, by decide, by decide, by decide, by decide, by decide⟩

/-- The visitor is not anonymized. -/
theorem visitor_not_anonymized :
    ¬ Anonymized (visited.retained sweep).db visitor :=
  not_anonymized_of_overdue Shop.workflowCatalogue visited sweep visited_reachable
    365 visitor visitor_overdue

/-- The run commits, and the visitor is still there. -/
theorem overdue_visitor_stays : ¬ ∀ s : TenantState,
    (tenantSystem Shop.workflowCatalogue Shop.tenantId).Reachable s → ∀ run : RetentionRun,
      run.tenantId = Shop.tenantId → ∀ result written,
        run.transaction.run s.db = .ok (result, written) → ∀ customerContactDays customer,
          s.Overdue run customerContactDays customer → Anonymized written customer := by
  intro hall
  have hcommits : (sweep.transaction.commit visited.db).1 =
      .ok ⟨4#128, "retention_execution", 1, [], false⟩ := by decide +kernel
  have hrun := Tx.run_of_commit_ok hcommits
  have hanonymized := hall _ visited_reachable sweep rfl _ _ hrun 365 visitor visitor_overdue
  revert hanonymized
  decide +kernel

end Visitor

end TenantState

end BusinessAssistant.Persistence
