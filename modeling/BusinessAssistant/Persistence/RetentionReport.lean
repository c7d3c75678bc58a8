/-
# What a run of retention reports

The counts of a run are taken before it changes anything. They are the numbers of rows it
deletes and changes exactly when the customers it anonymizes have no message that is not due
by itself, and no record that is changed with them without being due; where the database's
clock is behind, leads that are due and yet left as they are can make up for such records.
-/

import BusinessAssistant.Persistence.RetentionLoop

namespace BusinessAssistant.Persistence.Retention

open BusinessAssistant.Domain BusinessAssistant.Application BusinessAssistant.Foundation

/-- The primary keys of the tables -/
structure Keyed (db : RetentionDatabase) : Prop where
  customers : (db.customers.map (·.id)).Nodup
  conversations : (db.conversations.map (·.id)).Nodup
  messages : (db.messages.map (·.id)).Nodup
  bookingDrafts : (db.bookingDrafts.map (·.id)).Nodup
  slotHolds : (db.slotHolds.map (·.id)).Nodup
  bookings : (db.bookings.map (·.id)).Nodup
  leads : (db.leads.map (·.id)).Nodup
  qualificationSessions : (db.qualificationSessions.map (·.id)).Nodup
  handoffCases : (db.handoffCases.map (·.id)).Nodup
  knowledgeDocuments : (db.knowledgeDocuments.map (·.id)).Nodup

section

variable {tenantId : TenantId} {policy : RetentionPolicy} {time : Int} {db : RetentionDatabase}

/-! ## The loop over the due customers -/

theorem mem_dueCustomerIds {customerId : CustomerId} :
    customerId ∈ dueCustomerIds tenantId policy time db ↔
      ∃ row ∈ db.customers,
        Eligible tenantId (cutoff time policy.customerContactDays) db row ∧
          row.id = customerId := by
  simp only [dueCustomerIds, eligibleCustomerIds, List.mem_map, List.mem_filter,
    decide_eq_true_eq, and_assoc]

theorem nodup_dueCustomerIds (hdb : Keyed db) :
    (dueCustomerIds tenantId policy time db).Nodup :=
  hdb.customers.sublist (List.filter_sublist.map _)

theorem loop_due (hdb : Keyed db) :
    anonymizeCustomers tenantId time (dueCustomerIds tenantId policy time db) db =
      anonymizeAll tenantId time (dueCustomerIds tenantId policy time db) db := by
  apply anonymizeCustomers_eq (nodup_dueCustomerIds hdb)
  intro customerId hcustomer
  obtain ⟨row, hrow, heligible, hid⟩ := mem_dueCustomerIds.mp hcustomer
  exact ⟨row, hrow, heligible.1, hid⟩

theorem retained_eq (hdb : Keyed db) (serverNow : Int) :
    retained tenantId policy time serverNow db =
      removeDue tenantId policy time serverNow
        (anonymizeAll tenantId time (dueCustomerIds tenantId policy time db) db) := by
  rw [retained, loop_due hdb]

/-! ## What was written is not due -/

theorem cutoff_le (time : Int) (period : Nat) : cutoff time period ≤ time := by
  unfold cutoff days
  omega

section Table

variable {S C : Type} [DecidableEq S] (table : WorkflowTable S C)

theorem WorkflowTable.not_due_of_updated {row : WorkflowRecord S C} {limit : Int}
    (hupdated : limit ≤ row.updatedAt) : ¬ table.Due tenantId limit row := by
  intro hdue
  exact absurd hdue.2.2.1 (not_lt.mpr hupdated)

end Table

/-! ## Records of a table -/

namespace WorkflowTable

section Definitions

variable {S C : Type} [DecidableEq S] [DecidableEq C] (table : WorkflowTable S C)
  (tenantId : TenantId) (customerIds : List CustomerId) (limit : Int)

/-- A record that changes with its customer and is not due. -/
def Missed (time : Int) (row : WorkflowRecord S C) : Prop :=
  OfCustomers tenantId customerIds row ∧ ¬ table.Due tenantId limit row ∧
    table.anonymize time row ≠ row

instance (time : Int) : DecidablePred (table.Missed tenantId customerIds limit time) :=
  fun _ => inferInstanceAs (Decidable (_ ∧ _ ∧ _))

/-- A record that is due, and is left as it was. -/
def LeftAsIs (serverNow : Int) (row : WorkflowRecord S C) : Prop :=
  table.Due tenantId limit row ∧ ¬ OfCustomers tenantId customerIds row ∧
    table.remove serverNow row = row

instance (serverNow : Int) : DecidablePred (table.LeftAsIs tenantId customerIds limit serverNow) :=
  fun _ => inferInstanceAs (Decidable (_ ∧ _ ∧ _))

end Definitions

variable {S C : Type} [DecidableEq S] (table : WorkflowTable S C)
  {customerIds : List CustomerId} {limit serverNow : Int}

variable (tenantId customerIds limit time serverNow) in
/-- What the loop and the statement after it leave of a record. -/
def rewritten (row : WorkflowRecord S C) : WorkflowRecord S C :=
  if OfCustomers tenantId customerIds row then table.anonymize time row
  else if table.Due tenantId limit row then table.remove serverNow row
  else row

theorem update_update_eq_rewritten (hlimit : limit ≤ time) (rows : List (WorkflowRecord S C)) :
    Table.update (table.Due tenantId limit) (table.remove serverNow)
        (Table.update (OfCustomers tenantId customerIds) (table.anonymize time) rows) =
      rows.map (table.rewritten tenantId time customerIds limit serverNow) := by
  rw [Table.update, Table.update, List.map_map]
  apply List.map_congr_left
  intro row _
  by_cases hof : OfCustomers tenantId customerIds row
  · have hdue : ¬ table.Due tenantId limit (table.anonymize time row) :=
      table.not_due_of_updated hlimit
    simp only [Function.comp_apply, rewritten, if_pos hof, if_neg hdue]
  · simp only [Function.comp_apply, rewritten, if_neg hof]

theorem id_rewritten (row : WorkflowRecord S C) :
    (table.rewritten tenantId time customerIds limit serverNow row).id = row.id := by
  unfold rewritten
  split
  · rfl
  · split
    · rfl
    · rfl

/-- A due record is changed unless it is left as it was, and one that is not due is changed
only with its customer. -/
theorem rewritten_ne_iff (hlimit : limit ≤ time) (row : WorkflowRecord S C) :
    table.rewritten tenantId time customerIds limit serverNow row ≠ row ↔
      table.Due tenantId limit row ∧ ¬ table.LeftAsIs tenantId customerIds limit serverNow row ∨
        table.Missed tenantId customerIds limit time row := by
  unfold rewritten Missed LeftAsIs
  by_cases hof : OfCustomers tenantId customerIds row
  · by_cases hdue : table.Due tenantId limit row
    · have hwritten : table.anonymize time row ≠ row := by
        intro hsame
        have htime : time = row.updatedAt := congrArg (·.updatedAt) hsame
        exact absurd hdue.2.2.1 (by omega)
      simp [hof, hdue, hwritten]
    · simp [hof, hdue]
  · by_cases hdue : table.Due tenantId limit row
    · simp [hof, hdue]
    · simp [hof, hdue]

variable [DecidableEq C]

/-- The records that change, and those that are due and left as they were, are as many as
the due ones and those that are missed. -/
theorem countChanged_add (hlimit : limit ≤ time) {rows : List (WorkflowRecord S C)}
    (hunique : (rows.map (·.id)).Nodup) :
    Table.countChanged rows
          (Table.update (table.Due tenantId limit) (table.remove serverNow)
            (Table.update (OfCustomers tenantId customerIds) (table.anonymize time) rows)) +
        rows.countP (fun row => table.LeftAsIs tenantId customerIds limit serverNow row) =
      rows.countP (fun row => table.Due tenantId limit row) +
        rows.countP fun row => table.Missed tenantId customerIds limit time row := by
  rw [table.update_update_eq_rewritten hlimit, Table.countChanged_map hunique table.id_rewritten]
  simp only [table.rewritten_ne_iff hlimit]
  exact Table.countP_exchange (fun _ hleft => hleft.1) (fun _ hmissed => hmissed.2.1) rows

/-- Where taking the content out changes it, no due record is left as it was. -/
theorem countP_leftAsIs_eq_zero
    (hremoved : ∀ content, table.Personal content → table.removed content ≠ content)
    (rows : List (WorkflowRecord S C)) :
    rows.countP (fun row => table.LeftAsIs tenantId customerIds limit serverNow row) = 0 := by
  rw [List.countP_eq_zero]
  intro row _ hleft
  obtain ⟨hdue, _, hsame⟩ := of_decide_eq_true hleft
  exact hremoved row.content hdue.2.2.2 (congrArg (·.content) hsame)

end WorkflowTable

/-! ### What makes a record due -/

theorem removed_draft_ne (content : DraftContent) (hpersonal : bookingDrafts.Personal content) :
    bookingDrafts.removed content ≠ content := by
  intro hsame
  rw [← hsame] at hpersonal
  simp [bookingDrafts] at hpersonal

theorem removed_booking_ne (content : BookingContent) (hpersonal : bookings.Personal content) :
    bookings.removed content ≠ content := by
  intro hsame
  rw [← hsame] at hpersonal
  simp [bookings] at hpersonal

theorem removed_session_ne (content : SessionContent)
    (hpersonal : qualificationSessions.Personal content) :
    qualificationSessions.removed content ≠ content := by
  intro hsame
  rw [← hsame] at hpersonal
  simp [qualificationSessions] at hpersonal

theorem removed_case_ne (content : CaseContent) (hpersonal : handoffCases.Personal content) :
    handoffCases.removed content ≠ content := by
  intro hsame
  rw [← hsame] at hpersonal
  simp [handoffCases] at hpersonal

/-! ## The categories -/

theorem documentDue_iff (hdb : Keyed db) {row : KnowledgeDocumentRecord}
    (hrow : row ∈ db.knowledgeDocuments) :
    (row.tenantId = tenantId ∧ row.id ∈ dueDocumentIds tenantId policy time db) ↔
      DocumentDue tenantId (cutoff time policy.knowledgeArchiveDays) row := by
  simp only [dueDocumentIds, List.mem_map, List.mem_filter, decide_eq_true_eq]
  constructor
  · rintro ⟨_, other, ⟨hother, hdue⟩, hid⟩
    exact Table.eq_of_key_eq hdb.knowledgeDocuments hother hrow hid ▸ hdue
  · intro hdue
    exact ⟨hdue.1, row, ⟨hrow, hdue⟩, rfl⟩

theorem mem_due_iff (hdb : Keyed db) {row : CustomerRecord} (hrow : row ∈ db.customers) :
    Of tenantId (dueCustomerIds tenantId policy time db) row.tenantId row.id ↔
      Eligible tenantId (cutoff time policy.customerContactDays) db row := by
  constructor
  · rintro ⟨_, hmem⟩
    obtain ⟨other, hother, heligible, hid⟩ := mem_dueCustomerIds.mp hmem
    exact Table.eq_of_key_eq hdb.customers hother hrow hid ▸ heligible
  · intro heligible
    exact ⟨heligible.1, mem_dueCustomerIds.mpr ⟨row, hrow, heligible, rfl⟩⟩

/-! ## What a run changes -/

/-- The rows a run deletes or changes, by the categories of its counts: the rows of each table
that are not there afterwards as they were. -/
def changedCounts (db written : RetentionDatabase) : CategoryCounts where
  operationalMetadataDeleted := Table.countChanged db.telegramUpdates written.telegramUpdates
  messagesDeleted := Table.countChanged db.messages written.messages
  customersAnonymized := Table.countChanged db.customers written.customers
  workflowRecordsAnonymized :=
    Table.countChanged db.bookingDrafts written.bookingDrafts +
      Table.countChanged db.bookings written.bookings +
      Table.countChanged db.leads written.leads +
      Table.countChanged db.qualificationSessions written.qualificationSessions +
      Table.countChanged db.handoffCases written.handoffCases
  knowledgeDocumentsDeleted :=
    Table.countChanged db.knowledgeDocuments written.knowledgeDocuments
  aiTelemetryDeleted := Table.countChanged db.aiOperations written.aiOperations

/-- The records of all tables that change with their customers and are not due. -/
def missedRecords (tenantId : TenantId) (customerIds : List CustomerId) (limit time : Int)
    (db : RetentionDatabase) : Nat :=
  db.bookingDrafts.countP (fun row => bookingDrafts.Missed tenantId customerIds limit time row) +
    db.bookings.countP (fun row => bookings.Missed tenantId customerIds limit time row) +
    db.leads.countP (fun row => leads.Missed tenantId customerIds limit time row) +
    db.qualificationSessions.countP
      (fun row => qualificationSessions.Missed tenantId customerIds limit time row) +
    db.handoffCases.countP (fun row => handoffCases.Missed tenantId customerIds limit time row)

/-- The messages the loop over the customers takes with it are due by themselves, and so are
the records that change with it, or as many due leads are left as they were. -/
structure TakenAreDue (tenantId : TenantId) (policy : RetentionPolicy) (time serverNow : Int)
    (db : RetentionDatabase) : Prop where
  messages : ∀ message ∈ db.messages,
    OfConversations tenantId (dueCustomerIds tenantId policy time db) db.conversations message →
      MessageDue tenantId (cutoff time policy.messageContentDays) message
  records :
    missedRecords tenantId (dueCustomerIds tenantId policy time db)
        (cutoff time policy.workflowRecordsDays) time db =
      db.leads.countP fun row =>
        leads.LeftAsIs tenantId (dueCustomerIds tenantId policy time db)
          (cutoff time policy.workflowRecordsDays) serverNow row

section Retained

variable {serverNow : Int}

/-- Where the database's clock is not behind by the whole period, a record that is missed is
made up for by nothing. -/
theorem takenAreDue_iff_of_clock (hclock : cutoff time policy.workflowRecordsDays ≤ serverNow) :
    TakenAreDue tenantId policy time serverNow db ↔
      (∀ message ∈ db.messages,
        OfConversations tenantId (dueCustomerIds tenantId policy time db) db.conversations message →
          MessageDue tenantId (cutoff time policy.messageContentDays) message) ∧
      missedRecords tenantId (dueCustomerIds tenantId policy time db)
        (cutoff time policy.workflowRecordsDays) time db = 0 := by
  have hnone : db.leads.countP (fun row =>
      leads.LeftAsIs tenantId (dueCustomerIds tenantId policy time db)
        (cutoff time policy.workflowRecordsDays) serverNow row) = 0 := by
    rw [List.countP_eq_zero]
    intro row _ hleft
    obtain ⟨hdue, _, hsame⟩ := of_decide_eq_true hleft
    have hwritten : serverNow = row.updatedAt := congrArg (·.updatedAt) hsame
    exact absurd hdue.2.2.1 (by omega)
  constructor
  · intro htaken
    exact ⟨htaken.messages, htaken.records.trans hnone⟩
  · rintro ⟨hmessages, hmissed⟩
    exact ⟨hmessages, hmissed.trans hnone.symm⟩

/-- As many customers change as were due. -/
theorem customers_retained (hdb : Keyed db) :
    Table.countChanged db.customers (retained tenantId policy time serverNow db).customers =
      (retentionCounts tenantId policy time db).customersAnonymized := by
  have hchanged : (retained tenantId policy time serverNow db).customers =
      db.customers.map fun row =>
        if Of tenantId (dueCustomerIds tenantId policy time db) row.tenantId row.id
        then anonymizeCustomer time row else row := by
    rw [retained_eq hdb]
    rfl
  have hkeep : ∀ row : CustomerRecord,
      (if Of tenantId (dueCustomerIds tenantId policy time db) row.tenantId row.id
        then anonymizeCustomer time row else row).id = row.id := by
    intro row
    split
    · rfl
    · rfl
  have hcounted : (retentionCounts tenantId policy time db).customersAnonymized =
      db.customers.countP fun row =>
        Eligible tenantId (cutoff time policy.customerContactDays) db row := by
    rw [retentionCounts, dueCustomerIds, eligibleCustomerIds, List.length_map,
      ← List.countP_eq_length_filter]
  rw [hchanged, Table.countChanged_map hdb.customers hkeep, hcounted]
  apply List.countP_congr
  intro row hrow
  simp only [decide_eq_true_eq]
  rw [← mem_due_iff hdb hrow]
  by_cases hdue : Of tenantId (dueCustomerIds tenantId policy time db) row.tenantId row.id
  · have hother : anonymizeCustomer time row ≠ row := by
      intro hsame
      have hstatus : CustomerStatus.anonymized = row.status := congrArg (·.status) hsame
      exact ((mem_due_iff hdb hrow).mp hdue).2.1 hstatus.symm
    simp only [hdue, if_true, ne_eq, hother, not_false_eq_true]
  · simp only [hdue, if_false, ne_eq, not_true_eq_false]

/-- As many messages are deleted as are due exactly when all that the loop deletes are. -/
theorem messages_retained_iff (hdb : Keyed db) :
    (retentionCounts tenantId policy time db).messagesDeleted =
        Table.countChanged db.messages (retained tenantId policy time serverNow db).messages ↔
      ∀ message ∈ db.messages,
        OfConversations tenantId (dueCustomerIds tenantId policy time db) db.conversations message →
          MessageDue tenantId (cutoff time policy.messageContentDays) message := by
  have hmessages : (retained tenantId policy time serverNow db).messages =
      db.messages.filter fun message =>
        ¬ (OfConversations tenantId (dueCustomerIds tenantId policy time db) db.conversations
            message ∨
          MessageDue tenantId (cutoff time policy.messageContentDays) message) := by
    rw [retained_eq hdb, removeDue, anonymizeAll, List.filter_filter]
    apply List.filter_congr
    intro message _
    simp only [not_or, Bool.decide_and, Bool.and_comm]
  rw [hmessages, Table.countChanged_filter, retentionCounts,
    Table.countP_eq_iff_of_imp fun row _ hdue => .inr hdue]
  simp only [or_imp, imp_self, and_true]

theorem documents_retained (hdb : Keyed db) :
    Table.countChanged db.knowledgeDocuments
        (retained tenantId policy time serverNow db).knowledgeDocuments =
      (retentionCounts tenantId policy time db).knowledgeDocumentsDeleted := by
  have hdocuments : (retained tenantId policy time serverNow db).knowledgeDocuments =
      db.knowledgeDocuments.filter fun row =>
        ¬ DocumentDue tenantId (cutoff time policy.knowledgeArchiveDays) row := by
    rw [retained_eq hdb, removeDue]
    apply List.filter_congr
    intro row hrow
    exact decide_eq_decide.mpr (not_congr (documentDue_iff hdb hrow))
  rw [hdocuments, Table.countChanged_filter, retentionCounts]

/-- As many records are due as change exactly when the missed ones are as many as the due ones
that are left as they were. These can only be leads: of the others, what makes them due is
taken out. -/
theorem records_retained_iff (hdb : Keyed db) :
    (retentionCounts tenantId policy time db).workflowRecordsAnonymized =
        (changedCounts db (retained tenantId policy time serverNow db)).workflowRecordsAnonymized ↔
      missedRecords tenantId (dueCustomerIds tenantId policy time db)
          (cutoff time policy.workflowRecordsDays) time db =
        db.leads.countP fun row =>
          leads.LeftAsIs tenantId (dueCustomerIds tenantId policy time db)
            (cutoff time policy.workflowRecordsDays) serverNow row := by
  have hlimit := cutoff_le time policy.workflowRecordsDays
  have hdrafts := @WorkflowTable.countChanged_add tenantId time _ _ _ bookingDrafts
    (dueCustomerIds tenantId policy time db) _ serverNow _ hlimit _ hdb.bookingDrafts
  have hbookings := @WorkflowTable.countChanged_add tenantId time _ _ _ bookings
    (dueCustomerIds tenantId policy time db) _ serverNow _ hlimit _ hdb.bookings
  have hleads := @WorkflowTable.countChanged_add tenantId time _ _ _ leads
    (dueCustomerIds tenantId policy time db) _ serverNow _ hlimit _ hdb.leads
  have hsessions := @WorkflowTable.countChanged_add tenantId time _ _ _ qualificationSessions
    (dueCustomerIds tenantId policy time db) _ serverNow _ hlimit _ hdb.qualificationSessions
  have hcases := @WorkflowTable.countChanged_add tenantId time _ _ _ handoffCases
    (dueCustomerIds tenantId policy time db) _ serverNow _ hlimit _ hdb.handoffCases
  rw [bookingDrafts.countP_leftAsIs_eq_zero removed_draft_ne] at hdrafts
  rw [bookings.countP_leftAsIs_eq_zero removed_booking_ne] at hbookings
  rw [qualificationSessions.countP_leftAsIs_eq_zero removed_session_ne] at hsessions
  rw [handoffCases.countP_leftAsIs_eq_zero removed_case_ne] at hcases
  rw [retained_eq hdb]
  simp only [retentionCounts, workflowCount, changedCounts, missedRecords, removeDue, anonymizeAll]
  omega

/-- The counts taken before a run are what it changes if and only if what the loop over the
customers takes with it is due by itself. -/
theorem counts_eq_changed_iff (hdb : Keyed db) :
    (retentionCounts tenantId policy time db).toCategoryCounts =
        changedCounts db (retained tenantId policy time serverNow db) ↔
      TakenAreDue tenantId policy time serverNow db := by
  have hupdates : Table.countChanged db.telegramUpdates
      (retained tenantId policy time serverNow db).telegramUpdates =
        (retentionCounts tenantId policy time db).operationalMetadataDeleted := by
    rw [retained_eq hdb]
    exact Table.countChanged_filter _ db.telegramUpdates
  have hoperations : Table.countChanged db.aiOperations
      (retained tenantId policy time serverNow db).aiOperations =
        (retentionCounts tenantId policy time db).aiTelemetryDeleted := by
    rw [retained_eq hdb]
    exact Table.countChanged_filter _ db.aiOperations
  have hmessages := @messages_retained_iff tenantId policy time db serverNow hdb
  have hrecords := @records_retained_iff tenantId policy time db serverNow hdb
  constructor
  · intro hsame
    exact
      { messages := hmessages.mp (congrArg (·.messagesDeleted) hsame)
        records := hrecords.mp (congrArg (·.workflowRecordsAnonymized) hsame) }
  · intro htaken
    ext
    · exact hupdates.symm
    · exact hmessages.mpr htaken.messages
    · exact (customers_retained hdb).symm
    · exact hrecords.mpr htaken.records
    · exact (documents_retained hdb).symm
    · exact hoperations.symm

end Retained

/-! ## What a run stores -/

section Run

variable {env : Environment} {idempotencyKey actorId : Text} {written : RetentionDatabase}
  {result : PrivacyResult}

/-- The counts a run stores are those a dry run returns and, category by category, the numbers
of rows it has deleted or changed. -/
structure CountsAgree (env : Environment) (tenantId : TenantId) (policy : RetentionPolicy)
    (idempotencyKey : Text) (db written : RetentionDatabase) : Prop where
  preview : ∃ action ∈ written.privacyActions, action.tenantId = tenantId ∧
    action.idempotencyKey = idempotencyKey ∧
      ∃ preview, (previewRetention env tenantId policy).commit db = (.ok preview, db) ∧
        action.resultCounts = preview.counts
  changed : ∃ action ∈ written.privacyActions, action.tenantId = tenantId ∧
    action.idempotencyKey = idempotencyKey ∧
      ∃ preserved, action.resultCounts =
        { toCategoryCounts := changedCounts db written
          auditEventsPreserved := preserved : RetentionCounts }.asDict

theorem previewRetention_commit (hpolicy : PolicyStored tenantId policy db) :
    ∃ preview, (previewRetention env tenantId policy).commit db = (.ok preview, db) ∧
      preview.counts = (retentionCounts tenantId policy env.now db).asDict := by
  have hrun : ∃ preview, (previewRetention env tenantId policy).run db = .ok (preview, db) ∧
      preview.counts = (retentionCounts tenantId policy env.now db).asDict := by
    simp only [previewRetention, requirePolicy, Tx.run_get_bind_eq_ok, Tx.run_require_bind_eq_ok,
      Tx.run_pure_eq_ok, Prod.mk.injEq, and_true]
    exact ⟨_, ⟨hpolicy, rfl⟩, rfl⟩
  obtain ⟨preview, hpreview, hcounts⟩ := hrun
  exact ⟨preview, by rw [Tx.commit, hpreview], hcounts⟩

theorem asDict_inj {first second : RetentionCounts} :
    first.asDict = second.asDict ↔ first = second := by
  constructor
  · intro hsame
    simp only [RetentionCounts.asDict, List.cons.injEq, Prod.mk.injEq, true_and, and_true] at hsame
    ext
    all_goals omega
  · rintro rfl
    rfl

/-- The stored action of a key that named none is the one the run adds. -/
theorem action_executed (hunused : KeyUnused tenantId idempotencyKey db)
    {action : PrivacyActionRow}
    (haction : action ∈ (executed env tenantId policy idempotencyKey actorId db).privacyActions)
    (htenant : action.tenantId = tenantId) (hkey : action.idempotencyKey = idempotencyKey) :
    action.resultCounts = (retentionCounts tenantId policy env.now db).asDict := by
  rcases Table.mem_append_row.mp haction with hold | rfl
  · exact absurd hkey (hunused action hold htenant)
  · rfl

theorem countsAgree_executed_iff (hunused : KeyUnused tenantId idempotencyKey db)
    (hpolicy : PolicyStored tenantId policy db) :
    CountsAgree env tenantId policy idempotencyKey db
        (executed env tenantId policy idempotencyKey actorId db) ↔
      (retentionCounts tenantId policy env.now db).toCategoryCounts =
        changedCounts db (retained tenantId policy env.now env.serverNow db) := by
  constructor
  · intro hagree
    obtain ⟨action, haction, htenant, hkey, preserved, hcounts⟩ := hagree.changed
    rw [action_executed hunused haction htenant hkey, asDict_inj] at hcounts
    exact congrArg (·.toCategoryCounts) hcounts
  · intro hcounts
    have hadded : executionAction env tenantId policy idempotencyKey
        (retentionCounts tenantId policy env.now db).asDict ∈
          (executed env tenantId policy idempotencyKey actorId db).privacyActions :=
      List.mem_append_right _ List.mem_cons_self
    obtain ⟨preview, hpreview, hsame⟩ := @previewRetention_commit tenantId policy db env hpolicy
    refine ⟨⟨_, hadded, rfl, rfl, preview, hpreview, hsame.symm⟩, _, hadded, rfl, rfl,
      (retentionCounts tenantId policy env.now db).auditEventsPreserved, ?_⟩
    have hexecuted : changedCounts db (executed env tenantId policy idempotencyKey actorId db) =
        changedCounts db (retained tenantId policy env.now env.serverNow db) := rfl
    rw [hexecuted, ← hcounts]
    rfl

/-- The counts of an execution are right if and only if what the loop over the customers
takes with it is due by itself. -/
theorem countsAgree_iff (hdb : Keyed db)
    (hrun : (runRetention env tenantId policy idempotencyKey actorId).run db = .ok (result, written))
    (hexecution : result.idempotentReplay = false) :
    CountsAgree env tenantId policy idempotencyKey db written ↔
      TakenAreDue tenantId policy env.now env.serverNow db := by
  obtain ⟨hunused, hpolicy, _, rfl⟩ := executed_of_run hrun hexecution
  rw [countsAgree_executed_iff hunused hpolicy, counts_eq_changed_iff hdb]

end Run

end

/-! ### Customers left alone -/

namespace SmallRetention

def tenantId : TenantId := 1

/-- The periods of the runbook -/
def policy : RetentionPolicy where
  tenantId := tenantId
  version := 1
  operationalMetadataDays := 30
  messageContentDays := 90
  customerContactDays := 365
  workflowRecordsDays := 730
  knowledgeArchiveDays := 365
  aiTelemetryDays := 90
  versionPositive := by decide
  periodsValid := by decide

/-- 1000 days into the epoch, by both clocks -/
def env : Environment where
  now := days 1000
  serverNow := days 1000
  newId := 9

def customer : CustomerRecord where
  id := 2
  tenantId := tenantId
  displayName := some "Ada".toList
  phoneRaw := none
  phoneE164 := none
  phoneVerified := false
  email := none
  contactConsentAt := none
  status := .active
  updatedAt := days 100

def conversation : ConversationRecord where
  id := 3
  tenantId := tenantId
  customerId := customer.id
  status := .closed
  activeWorkflow := none
  updatedAt := days 100

def message : MessageRecord where
  id := 4
  tenantId := tenantId
  conversationId := conversation.id
  createdAt := days 100

/-- A booking of the customer that took place. -/
def booking (updatedAt : Int) : WorkflowRecord BookingStatus BookingContent where
  id := 5
  tenantId := tenantId
  customerId := some customer.id
  status := .completed
  content := { customerSnapshot := [], notes := some "Window seat".toList }
  updatedAt := updatedAt

/-- A customer not seen for 900 days, with a booking written `age` days ago. -/
def db (age : Int) : RetentionDatabase where
  customers := [customer]
  conversations := [conversation]
  messages := [message]
  bookings := [booking (days (1000 - age))]
  retentionPolicies := [policy]

theorem keyed_db (age : Int) : Keyed (db age) := by
  constructor <;> simp [db]

end SmallRetention

open SmallRetention in
/-- A booking of 800 days ago is due with its customer. -/
theorem countsAgree_of_old_booking :
    TakenAreDue tenantId policy env.now env.serverNow (db 800) ∧
      CountsAgree env tenantId policy "run-1".toList (db 800)
        (executed env tenantId policy "run-1".toList "owner".toList (db 800)) := by
  have hdue : TakenAreDue tenantId policy env.now env.serverNow (db 800) :=
    ⟨by decide +kernel, by decide +kernel⟩
  have hrun : (runRetention env tenantId policy "run-1".toList "owner".toList).run (db 800) =
      .ok (executionResult env tenantId policy (db 800),
        executed env tenantId policy "run-1".toList "owner".toList (db 800)) :=
    runRetention_eq_ok.mpr (.inr ⟨by decide, by decide, rfl, rfl⟩)
  exact ⟨hdue, (countsAgree_iff (keyed_db 800) hrun rfl).mpr hdue⟩

open SmallRetention in
/-- A booking of 400 days ago is anonymized with its customer, and not counted. -/
theorem not_countsAgree_of_recent_booking :
    (runRetention env tenantId policy "run-1".toList "owner".toList).run (db 400) =
        .ok (executionResult env tenantId policy (db 400),
          executed env tenantId policy "run-1".toList "owner".toList (db 400)) ∧
      ¬ CountsAgree env tenantId policy "run-1".toList (db 400)
        (executed env tenantId policy "run-1".toList "owner".toList (db 400)) := by
  refine ⟨runRetention_eq_ok.mpr (.inr ⟨by decide, by decide, rfl, rfl⟩), ?_⟩
  rw [countsAgree_executed_iff (by decide) (by decide)]
  decide +kernel

end BusinessAssistant.Persistence.Retention
