/-
# What retention leaves alone

Whoever has a conversation that is not closed is not among the due customers, and nothing
in progress is due by itself; after a run no customer is due and, with one exception,
nothing else either. Drafts and holds are what the conditions on a customer do not look at.
-/

import BusinessAssistant.Persistence.RetentionReport

namespace BusinessAssistant.Persistence.Retention

open BusinessAssistant.Domain BusinessAssistant.Application BusinessAssistant.Foundation

/-! ## Records -/

namespace WorkflowTable

variable {S C : Type} [DecidableEq S] (table : WorkflowTable S C)

/-- What a run leaves of the records, with the due customers and the cutoff. -/
def retain (tenantId : TenantId) (customerIds : List CustomerId) (time limit serverNow : Int)
    (rows : List (WorkflowRecord S C)) : List (WorkflowRecord S C) :=
  Table.update (table.Due tenantId limit) (table.remove serverNow)
    (Table.update (OfCustomers tenantId customerIds) (table.anonymize time) rows)

/-- A terminal record from before a time. -/
def Old (limit : Int) (row : WorkflowRecord S C) : Prop :=
  row.status ∈ table.terminal ∧ row.updatedAt < limit

variable {table} {tenantId : TenantId} {customerIds : List CustomerId} {customerId : CustomerId}
  {time limit serverNow : Int} {rows : List (WorkflowRecord S C)} {row : WorkflowRecord S C}

theorem not_due_of_not_old (hold : ¬ table.Old limit row) : ¬ table.Due tenantId limit row := by
  intro hdue
  exact hold ⟨hdue.2.1, hdue.2.2.1⟩

/-- A record of no due customer that is not due stays as it is. -/
theorem mem_retain (hrow : row ∈ rows) (hof : ¬ OfCustomers tenantId customerIds row)
    (hdue : ¬ table.Due tenantId limit row) :
    row ∈ table.retain tenantId customerIds time limit serverNow rows := by
  apply Table.mem_update_of_not_selected _ hdue
  exact Table.mem_update_of_not_selected hrow hof

/-- Records in progress are of no due customer. -/
theorem not_ofCustomers_of_pending
    (hidle : ∀ customerId ∈ customerIds, ¬ table.HasPending tenantId customerId rows)
    (hrow : row ∈ rows) (hpending : row.status ∈ table.pending) :
    ¬ OfCustomers tenantId customerIds row := by
  rintro ⟨htenant, customerId, hcustomer, hmem⟩
  exact hidle customerId hmem ⟨row, hrow, htenant, hcustomer, hpending⟩

theorem mem_retain_of_pending (hdisjoint : ∀ status ∈ table.pending, status ∉ table.terminal)
    (hidle : ∀ customerId ∈ customerIds, ¬ table.HasPending tenantId customerId rows)
    (hrow : row ∈ rows) (hpending : row.status ∈ table.pending) :
    row ∈ table.retain tenantId customerIds time limit serverNow rows := by
  apply mem_retain hrow (not_ofCustomers_of_pending hidle hrow hpending)
  exact not_due_of_not_old fun hold => hdisjoint _ hpending hold.1

/-- What is in progress for a customer is so after the run. -/
theorem hasPending_retain (hdisjoint : ∀ status ∈ table.pending, status ∉ table.terminal)
    (hidle : ∀ customerId ∈ customerIds, ¬ table.HasPending tenantId customerId rows)
    (hbusy : table.HasPending tenantId customerId rows) :
    table.HasPending tenantId customerId
      (table.retain tenantId customerIds time limit serverNow rows) := by
  obtain ⟨row, hrow, htenant, hcustomer, hpending⟩ := hbusy
  exact ⟨row, mem_retain_of_pending hdisjoint hidle hrow hpending, htenant, hcustomer, hpending⟩

/-- The run settles a table whose due records are not due once their content is removed. -/
theorem not_due_of_mem_retain (hlimit : limit ≤ time)
    (hsettles : ∀ row ∈ rows, table.Due tenantId limit row →
      ¬ OfCustomers tenantId customerIds row → ¬ table.Due tenantId limit (table.remove serverNow row))
    (hrow : row ∈ table.retain tenantId customerIds time limit serverNow rows) :
    ¬ table.Due tenantId limit row := by
  rcases Table.mem_update.mp hrow with ⟨old, hold, hdue, rfl⟩ | ⟨_, hdue⟩
  · rcases Table.mem_update.mp hold with ⟨first, _, _, rfl⟩ | ⟨hfirst, hof⟩
    · exact absurd hdue (table.not_due_of_updated hlimit)
    · exact hsettles old hfirst hdue hof
  · exact hdue

theorem not_due_remove (hremoved : ∀ content, ¬ table.Personal (table.removed content)) :
    ¬ table.Due tenantId limit (table.remove serverNow row) := by
  intro hdue
  exact hremoved row.content hdue.2.2.2

/-- A record after the run comes from one that had its identifier and its status, or the
status its end gives it. -/
theorem of_mem_retain
    (hrow : row ∈ table.retain tenantId customerIds time limit serverNow rows) :
    ∃ old ∈ rows, old.id = row.id ∧
      (OfCustomers tenantId customerIds old ∧ row.status = (table.anonymize time old).status ∨
        ¬ OfCustomers tenantId customerIds old ∧ row.status = old.status) := by
  have hloop : ∀ kept ∈ Table.update (OfCustomers tenantId customerIds) (table.anonymize time) rows,
      kept.id = row.id → kept.status = row.status → ∃ old ∈ rows, old.id = row.id ∧
        (OfCustomers tenantId customerIds old ∧ row.status = (table.anonymize time old).status ∨
          ¬ OfCustomers tenantId customerIds old ∧ row.status = old.status) := by
    intro kept hkept hid hstatus
    rcases Table.mem_update.mp hkept with ⟨old, hold, hof, rfl⟩ | ⟨hold, hof⟩
    · exact ⟨old, hold, hid, .inl ⟨hof, hstatus.symm⟩⟩
    · exact ⟨kept, hold, hid, .inr ⟨hof, hstatus.symm⟩⟩
  rcases Table.mem_update.mp hrow with ⟨kept, hkept, _, rfl⟩ | ⟨hkept, _⟩
  · exact hloop kept hkept rfl rfl
  · exact hloop row hkept rfl rfl

end WorkflowTable

/-! ### The five tables -/

theorem bookings_disjoint : ∀ status ∈ bookings.pending, status ∉ bookings.terminal := by decide

theorem leads_disjoint : ∀ status ∈ leads.pending, status ∉ leads.terminal := by decide

theorem qualificationSessions_disjoint :
    ∀ status ∈ qualificationSessions.pending, status ∉ qualificationSessions.terminal := by decide

theorem handoffCases_disjoint :
    ∀ status ∈ handoffCases.pending, status ∉ handoffCases.terminal := by decide

theorem bookingDrafts_removed (content : DraftContent) :
    ¬ bookingDrafts.Personal (bookingDrafts.removed content) := by
  simp [bookingDrafts]

theorem bookings_removed (content : BookingContent) :
    ¬ bookings.Personal (bookings.removed content) := by
  simp [bookings]

theorem qualificationSessions_removed (content : SessionContent) :
    ¬ qualificationSessions.Personal (qualificationSessions.removed content) := by
  simp [qualificationSessions]

theorem handoffCases_removed (content : CaseContent) :
    ¬ handoffCases.Personal (handoffCases.removed content) := by
  simp [handoffCases]

/-- The exception: the snapshot a lead is left with counts as content. -/
theorem leads_removed (content : LeadContent) : leads.Personal (leads.removed content) := by
  simp [leads]

section

variable {env : Environment} {tenantId : TenantId} {policy : RetentionPolicy} {time : Int}
  {serverNow : Int} {idempotencyKey actorId : Text} {db written : RetentionDatabase}
  {customerId : CustomerId} {result : PrivacyResult}

/-! ## The state after a run -/

/-- What `_apply_retention` leaves, table by table -/
theorem retained_tables (hdb : Keyed db) :
    let customerIds := dueCustomerIds tenantId policy time db
    let limit := cutoff time policy.workflowRecordsDays
    let rest := retained tenantId policy time serverNow db
    rest.bookingDrafts =
        bookingDrafts.retain tenantId customerIds time limit serverNow db.bookingDrafts ∧
      rest.bookings = bookings.retain tenantId customerIds time limit serverNow db.bookings ∧
      rest.leads = leads.retain tenantId customerIds time limit serverNow db.leads ∧
      rest.qualificationSessions =
        qualificationSessions.retain tenantId customerIds time limit serverNow
          db.qualificationSessions ∧
      rest.handoffCases =
        handoffCases.retain tenantId customerIds time limit serverNow db.handoffCases := by
  intro customerIds limit rest
  have hrest : rest = _ := retained_eq hdb serverNow
  rw [hrest]
  exact ⟨rfl, rfl, rfl, rfl, rfl⟩

theorem not_busy_of_due (hdue : customerId ∈ dueCustomerIds tenantId policy time db) :
    ¬ Busy tenantId db customerId := by
  obtain ⟨row, _, heligible, rfl⟩ := mem_dueCustomerIds.mp hdue
  exact heligible.2.2.2

theorem bookings_idle : ∀ customerId ∈ dueCustomerIds tenantId policy time db,
    ¬ bookings.HasPending tenantId customerId db.bookings :=
  fun _ hdue hpending => not_busy_of_due hdue (.inr (.inl hpending))

theorem leads_idle : ∀ customerId ∈ dueCustomerIds tenantId policy time db,
    ¬ leads.HasPending tenantId customerId db.leads :=
  fun _ hdue hpending => not_busy_of_due hdue (.inr (.inr (.inl hpending)))

theorem qualificationSessions_idle : ∀ customerId ∈ dueCustomerIds tenantId policy time db,
    ¬ qualificationSessions.HasPending tenantId customerId db.qualificationSessions :=
  fun _ hdue hpending => not_busy_of_due hdue (.inr (.inr (.inr (.inl hpending))))

theorem handoffCases_idle : ∀ customerId ∈ dueCustomerIds tenantId policy time db,
    ¬ handoffCases.HasPending tenantId customerId db.handoffCases :=
  fun _ hdue hpending => not_busy_of_due hdue (.inr (.inr (.inr (.inr hpending))))

/-- A customer who is passed over for what is going on is passed over after the run. -/
theorem busy_retained (hdb : Keyed db) (hbusy : Busy tenantId db customerId) :
    Busy tenantId (retained tenantId policy time serverNow db) customerId := by
  obtain ⟨_, hbookings, hleads, hsessions, hcases⟩ :=
    @retained_tables tenantId policy time serverNow db hdb
  have hnot : customerId ∉ dueCustomerIds tenantId policy time db :=
    fun hdue => not_busy_of_due hdue hbusy
  rcases hbusy with ⟨row, hrow, htenant, hcustomer, hstatus⟩ | hpending | hpending | hpending | hpending
  · left
    refine ⟨row, ?_, htenant, hcustomer, hstatus⟩
    rw [retained_eq hdb]
    exact Table.mem_update_of_not_selected hrow fun hof => hnot (hcustomer ▸ hof.2)
  · right; left
    rw [hbookings]
    exact WorkflowTable.hasPending_retain bookings_disjoint bookings_idle hpending
  · right; right; left
    rw [hleads]
    exact WorkflowTable.hasPending_retain leads_disjoint leads_idle hpending
  · right; right; right; left
    rw [hsessions]
    exact WorkflowTable.hasPending_retain qualificationSessions_disjoint
      qualificationSessions_idle hpending
  · right; right; right; right
    rw [hcases]
    exact WorkflowTable.hasPending_retain handoffCases_disjoint handoffCases_idle hpending

/-- After a run no customer is due. -/
theorem dueCustomerIds_retained (hdb : Keyed db) :
    dueCustomerIds tenantId policy time (retained tenantId policy time serverNow db) = [] := by
  rw [List.eq_nil_iff_forall_not_mem]
  intro customerId hdue
  obtain ⟨row, hrow, heligible, rfl⟩ := mem_dueCustomerIds.mp hdue
  have hcustomers : row ∈ Table.update
      (fun row => Of tenantId (dueCustomerIds tenantId policy time db) row.tenantId row.id)
      (anonymizeCustomer time) db.customers := by
    rw [retained_eq hdb] at hrow
    exact hrow
  rcases Table.mem_update.mp hcustomers with ⟨old, _, _, rfl⟩ | ⟨hold, hof⟩
  · exact heligible.2.1 rfl
  · apply hof
    refine ⟨heligible.1, mem_dueCustomerIds.mpr ⟨row, hold, ?_, rfl⟩⟩
    exact ⟨heligible.1, heligible.2.1, heligible.2.2.1,
      fun hbusy => heligible.2.2.2 (busy_retained hdb hbusy)⟩

/-- The leads whose content is removed are not due for it at once. -/
def LeadsSettle (tenantId : TenantId) (policy : RetentionPolicy) (time serverNow : Int)
    (db : RetentionDatabase) : Prop :=
  ∀ row ∈ db.leads, leads.Due tenantId (cutoff time policy.workflowRecordsDays) row →
    ¬ WorkflowTable.OfCustomers tenantId (dueCustomerIds tenantId policy time db) row →
      cutoff time policy.workflowRecordsDays ≤ serverNow

/-- Nothing in the tenant's tables is due. -/
structure NothingDue (tenantId : TenantId) (policy : RetentionPolicy) (time : Int)
    (db : RetentionDatabase) : Prop where
  telegramUpdates : ∀ row ∈ db.telegramUpdates,
    ¬ UpdateDue tenantId (cutoff time policy.operationalMetadataDays) row
  messages : ∀ row ∈ db.messages, ¬ MessageDue tenantId (cutoff time policy.messageContentDays) row
  bookingDrafts : ∀ row ∈ db.bookingDrafts,
    ¬ bookingDrafts.Due tenantId (cutoff time policy.workflowRecordsDays) row
  bookings : ∀ row ∈ db.bookings,
    ¬ bookings.Due tenantId (cutoff time policy.workflowRecordsDays) row
  leads : ∀ row ∈ db.leads, ¬ leads.Due tenantId (cutoff time policy.workflowRecordsDays) row
  qualificationSessions : ∀ row ∈ db.qualificationSessions,
    ¬ qualificationSessions.Due tenantId (cutoff time policy.workflowRecordsDays) row
  handoffCases : ∀ row ∈ db.handoffCases,
    ¬ handoffCases.Due tenantId (cutoff time policy.workflowRecordsDays) row
  knowledgeDocuments : ∀ row ∈ db.knowledgeDocuments,
    ¬ DocumentDue tenantId (cutoff time policy.knowledgeArchiveDays) row
  aiOperations : ∀ row ∈ db.aiOperations,
    ¬ OperationDue tenantId (cutoff time policy.aiTelemetryDays) row

/-- Where nothing is due, nothing is removed. -/
theorem removeDue_eq_self (hnothing : NothingDue tenantId policy time db) :
    removeDue tenantId policy time serverNow db = db := by
  have hdocuments : dueDocumentIds tenantId policy time db = [] := by
    rw [dueDocumentIds, List.map_eq_nil_iff, List.filter_eq_nil_iff]
    intro row hrow hdue
    exact hnothing.knowledgeDocuments row hrow (of_decide_eq_true hdue)
  have hfilter : ∀ {α : Type} (due : α → Prop) [DecidablePred due] (rows : List α),
      (∀ row ∈ rows, ¬ due row) → (rows.filter fun row => ¬ due row) = rows := by
    intro α due _ rows hnone
    exact List.filter_eq_self.mpr fun row hrow => decide_eq_true (hnone row hrow)
  have hids : ∀ documentId : DocumentId, ¬ (documentId ∈ ([] : List DocumentId)) :=
    fun _ => List.not_mem_nil
  simp only [removeDue, hdocuments]
  rw [hfilter _ _ hnothing.telegramUpdates, hfilter _ _ hnothing.messages,
    Table.update_eq_self hnothing.bookingDrafts, Table.update_eq_self hnothing.bookings,
    Table.update_eq_self hnothing.leads, Table.update_eq_self hnothing.qualificationSessions,
    Table.update_eq_self hnothing.handoffCases, hfilter _ _ hnothing.aiOperations,
    hfilter _ db.knowledgeChunks fun row _ hdue => hids _ hdue.2,
    hfilter _ db.knowledgeDocuments fun row _ hdue => hids _ hdue.2]

/-- After a run whose leads settle, nothing is due. -/
theorem nothingDue_retained (hdb : Keyed db)
    (hsettle : LeadsSettle tenantId policy time serverNow db) :
    NothingDue tenantId policy time (retained tenantId policy time serverNow db) := by
  obtain ⟨hdrafts, hbookings, hleads, hsessions, hcases⟩ :=
    @retained_tables tenantId policy time serverNow db hdb
  have hlimit := cutoff_le time policy.workflowRecordsDays
  have hfilter : ∀ {α : Type} {due : α → Prop} [DecidablePred due] {rows : List α} {row : α},
      row ∈ (rows.filter fun row => ¬ due row) → ¬ due row :=
    fun hrow => of_decide_eq_true (List.mem_filter.mp hrow).2
  refine
    { telegramUpdates := fun row hrow => ?_
      messages := fun row hrow => ?_
      bookingDrafts := fun row hrow => ?_
      bookings := fun row hrow => ?_
      leads := fun row hrow => ?_
      qualificationSessions := fun row hrow => ?_
      handoffCases := fun row hrow => ?_
      knowledgeDocuments := fun row hrow => ?_
      aiOperations := fun row hrow => ?_ }
  · rw [retained_eq hdb] at hrow
    exact hfilter hrow
  · rw [retained_eq hdb] at hrow
    exact hfilter hrow
  · rw [hdrafts] at hrow
    exact WorkflowTable.not_due_of_mem_retain hlimit
      (fun _ _ _ _ => WorkflowTable.not_due_remove bookingDrafts_removed) hrow
  · rw [hbookings] at hrow
    exact WorkflowTable.not_due_of_mem_retain hlimit
      (fun _ _ _ _ => WorkflowTable.not_due_remove bookings_removed) hrow
  · -- A lead keeps content; it settles by the time it is given.
    rw [hleads] at hrow
    exact WorkflowTable.not_due_of_mem_retain hlimit
      (fun old hold hdue hof => leads.not_due_of_updated (hsettle old hold hdue hof)) hrow
  · rw [hsessions] at hrow
    exact WorkflowTable.not_due_of_mem_retain hlimit
      (fun _ _ _ _ => WorkflowTable.not_due_remove qualificationSessions_removed) hrow
  · rw [hcases] at hrow
    exact WorkflowTable.not_due_of_mem_retain hlimit
      (fun _ _ _ _ => WorkflowTable.not_due_remove handoffCases_removed) hrow
  · rw [retained_eq hdb] at hrow
    intro hdue
    obtain ⟨hold, hkept⟩ := List.mem_filter.mp hrow
    exact of_decide_eq_true hkept ((documentDue_iff hdb hold).mpr hdue)
  · rw [retained_eq hdb] at hrow
    exact hfilter hrow

end

end BusinessAssistant.Persistence.Retention
