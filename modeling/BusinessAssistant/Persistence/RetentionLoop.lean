/-
# Anonymizing all due customers

One turn of the loop after another leaves what one pass over all its customers would, since
a turn keeps whose a row is and the customers of the turns differ.
-/

import BusinessAssistant.Persistence.RetentionRun

namespace BusinessAssistant.Persistence.Retention

open BusinessAssistant.Domain BusinessAssistant.Application BusinessAssistant.Foundation

section

variable {tenantId : TenantId} {time : Int} {customerId : CustomerId}
  {customerIds : List CustomerId}

/-! ## Whose a row is -/

theorem of_cons {rowTenantId : TenantId} {other : CustomerId} :
    Of tenantId (customerId :: customerIds) rowTenantId other ↔
      Of tenantId [customerId] rowTenantId other ∨ Of tenantId customerIds rowTenantId other := by
  simp only [Of, List.mem_cons, List.not_mem_nil, or_false, ← and_or_left]

theorem not_of_of_fresh (hfresh : customerId ∉ customerIds) {rowTenantId : TenantId}
    {other : CustomerId} (hof : Of tenantId [customerId] rowTenantId other) :
    ¬ Of tenantId customerIds rowTenantId other := by
  intro hagain
  have hsame : other = customerId := List.mem_singleton.mp hof.2
  exact hfresh (hsame ▸ hagain.2)

/-- Two updates of a table by the customer of a row are one, if they keep whose it is. -/
theorem update_of {α : Type} {tenant : α → TenantId} {customer : α → CustomerId} {change : α → α}
    (hfresh : customerId ∉ customerIds) (hkeep : ∀ row, customer (change row) = customer row)
    (rows : List α) :
    Table.update (fun row => Of tenantId customerIds (tenant row) (customer row)) change
        (Table.update (fun row => Of tenantId [customerId] (tenant row) (customer row)) change
          rows) =
      Table.update (fun row => Of tenantId (customerId :: customerIds) (tenant row) (customer row))
        change rows := by
  have hdisjoint : ∀ row ∈ rows, Of tenantId [customerId] (tenant row) (customer row) →
      ¬ Of tenantId customerIds (tenant (change row)) (customer (change row)) := by
    intro row _ hof hagain
    exact not_of_of_fresh hfresh hof ⟨hof.1, hkeep row ▸ hagain.2⟩
  rw [Table.update_update_or hdisjoint]
  exact Table.update_congr fun row _ => of_cons.symm

namespace WorkflowTable

section Owner

variable {S C : Type} {row : WorkflowRecord S C}

theorem ofCustomers_iff :
    OfCustomers tenantId customerIds row ↔
      ∃ other, row.customerId = some other ∧ Of tenantId customerIds row.tenantId other := by
  constructor
  · rintro ⟨htenant, other, hother, hmem⟩
    exact ⟨other, hother, htenant, hmem⟩
  · rintro ⟨other, hother, htenant, hmem⟩
    exact ⟨htenant, other, hother, hmem⟩

theorem ofCustomers_cons :
    OfCustomers tenantId (customerId :: customerIds) row ↔
      OfCustomers tenantId [customerId] row ∨ OfCustomers tenantId customerIds row := by
  simp only [ofCustomers_iff, @of_cons tenantId customerId customerIds, and_or_left, exists_or]

theorem not_ofCustomers_nil : ¬ OfCustomers tenantId [] row := by
  rintro ⟨_, _, _, hmem⟩
  cases hmem

end Owner

variable {S C : Type} [DecidableEq S] {row : WorkflowRecord S C} (table : WorkflowTable S C)

theorem not_ofCustomers_anonymize (hfresh : customerId ∉ customerIds)
    (hof : OfCustomers tenantId [customerId] row) :
    ¬ OfCustomers tenantId customerIds (table.anonymize time row) := by
  intro hagain
  obtain ⟨other, hother, hof⟩ := ofCustomers_iff.mp hof
  obtain ⟨another, hanother, hagain⟩ := ofCustomers_iff.mp hagain
  obtain rfl : other = another := Option.some.inj (hother.symm.trans hanother)
  exact not_of_of_fresh hfresh hof hagain

/-- A turn and the turns after it are one update. -/
theorem update_ofCustomers (hfresh : customerId ∉ customerIds) (rows : List (WorkflowRecord S C)) :
    Table.update (OfCustomers tenantId customerIds) (table.anonymize time)
        (Table.update (OfCustomers tenantId [customerId]) (table.anonymize time) rows) =
      Table.update (OfCustomers tenantId (customerId :: customerIds)) (table.anonymize time)
        rows := by
  rw [Table.update_update_or fun row _ => table.not_ofCustomers_anonymize hfresh]
  exact Table.update_congr fun row _ => ofCustomers_cons.symm

end WorkflowTable

/-! ## One pass over all customers -/

section Pass

variable (tenantId time customerIds)

/-- `_anonymize_customer_rows` for all these customers at once -/
def anonymizeAll (db : RetentionDatabase) : RetentionDatabase :=
  { db with
    customers :=
      Table.update (fun row => Of tenantId customerIds row.tenantId row.id)
        (anonymizeCustomer time) db.customers
    channelIdentities :=
      Table.update (fun row => Of tenantId customerIds row.tenantId row.customerId)
        PrivacyStore.anonymizeIdentity db.channelIdentities
    conversations :=
      Table.update (fun row => Of tenantId customerIds row.tenantId row.customerId)
        (closeConversation time) db.conversations
    messages :=
      db.messages.filter fun message =>
        ¬ OfConversations tenantId customerIds db.conversations message
    bookingDrafts :=
      Table.update (WorkflowTable.OfCustomers tenantId customerIds) (bookingDrafts.anonymize time)
        db.bookingDrafts
    slotHolds :=
      Table.update
        (fun row => Of tenantId customerIds row.tenantId row.customerId ∧ row.status = .active)
        (releaseHold time) db.slotHolds
    bookings :=
      Table.update (WorkflowTable.OfCustomers tenantId customerIds) (bookings.anonymize time)
        db.bookings
    leads :=
      Table.update (WorkflowTable.OfCustomers tenantId customerIds) (leads.anonymize time) db.leads
    qualificationSessions :=
      Table.update (WorkflowTable.OfCustomers tenantId customerIds)
        (qualificationSessions.anonymize time) db.qualificationSessions
    handoffCases :=
      Table.update (WorkflowTable.OfCustomers tenantId customerIds) (handoffCases.anonymize time)
        db.handoffCases }

end Pass

theorem anonymizeCustomerRows_eq (db : RetentionDatabase) :
    anonymizeCustomerRows tenantId time customerId db = anonymizeAll tenantId time [customerId] db :=
  rfl

/-- A pass over no customers changes nothing. -/
theorem anonymizeAll_nil (db : RetentionDatabase) : anonymizeAll tenantId time [] db = db := by
  have hof : ∀ rowTenantId other, ¬ Of tenantId [] rowTenantId other := by
    rintro _ _ ⟨_, hmem⟩
    cases hmem
  have hmessages : ∀ message ∈ db.messages,
      ¬ OfConversations tenantId [] db.conversations message := by
    rintro message _ ⟨_, row, _, hrow, _⟩
    exact hof _ _ hrow
  rw [anonymizeAll, Table.update_eq_self fun row _ => hof _ _,
    Table.update_eq_self fun row _ => hof _ _, Table.update_eq_self fun row _ => hof _ _,
    Table.update_eq_self fun row _ => WorkflowTable.not_ofCustomers_nil,
    Table.update_eq_self fun row _ hrow => hof _ _ hrow.1,
    Table.update_eq_self fun row _ => WorkflowTable.not_ofCustomers_nil,
    Table.update_eq_self fun row _ => WorkflowTable.not_ofCustomers_nil,
    Table.update_eq_self fun row _ => WorkflowTable.not_ofCustomers_nil,
    Table.update_eq_self fun row _ => WorkflowTable.not_ofCustomers_nil,
    List.filter_eq_self.mpr fun message hmessage => by simpa using hmessages message hmessage]

/-- Closing conversations does not change whose they are. -/
theorem ofConversations_update {closed : ConversationRecord → Prop} [DecidablePred closed]
    {conversations : List ConversationRecord} {message : MessageRecord} :
    OfConversations tenantId customerIds
        (Table.update closed (closeConversation time) conversations) message ↔
      OfConversations tenantId customerIds conversations message := by
  simp only [OfConversations, Table.update, List.mem_map, exists_exists_and_eq_and]
  apply and_congr_right'
  apply exists_congr
  intro row
  apply and_congr_right'
  split
  · rfl
  · rfl

theorem ofConversations_cons {conversations : List ConversationRecord} {message : MessageRecord} :
    OfConversations tenantId (customerId :: customerIds) conversations message ↔
      OfConversations tenantId [customerId] conversations message ∨
        OfConversations tenantId customerIds conversations message := by
  simp only [OfConversations, @of_cons tenantId customerId customerIds, or_and_right, and_or_left,
    exists_or]

/-- A turn of the loop and a pass over the rest are a pass over both. -/
theorem anonymizeAll_cons (hfresh : customerId ∉ customerIds) (db : RetentionDatabase) :
    anonymizeAll tenantId time customerIds (anonymizeAll tenantId time [customerId] db) =
      anonymizeAll tenantId time (customerId :: customerIds) db := by
  simp only [anonymizeAll, WorkflowTable.update_ofCustomers _ hfresh, ofConversations_update,
    List.filter_filter]
  congr 1
  · apply update_of hfresh
    intro row
    rfl
  · apply update_of hfresh
    intro row
    rfl
  · apply update_of hfresh
    intro row
    rfl
  · apply List.filter_congr
    intro message _
    simp only [@ofConversations_cons tenantId customerId customerIds, not_or, Bool.decide_and,
      Bool.and_comm]
  · have hdisjoint : ∀ row ∈ db.slotHolds,
        Of tenantId [customerId] row.tenantId row.customerId ∧ row.status = .active →
          ¬ (Of tenantId customerIds row.tenantId row.customerId ∧
            (releaseHold time row).status = .active) :=
      fun row _ hrow hagain => not_of_of_fresh hfresh hrow.1 hagain.1
    rw [Table.update_update_or hdisjoint]
    exact Table.update_congr fun row _ => by rw [← or_and_right, ← of_cons]

/-! ## The loop -/

/-- The loop over customers of the tenant, no two of them the same. -/
theorem anonymizeCustomers_eq {db : RetentionDatabase} (hdistinct : customerIds.Nodup)
    (hfound : ∀ customerId ∈ customerIds,
      ∃ row ∈ db.customers, row.tenantId = tenantId ∧ row.id = customerId) :
    anonymizeCustomers tenantId time customerIds db = anonymizeAll tenantId time customerIds db := by
  induction customerIds generalizing db with
  | nil => rw [anonymizeCustomers, anonymizeAll_nil]
  | cons customerId customerIds ih =>
      obtain ⟨hfresh, hdistinct⟩ := List.nodup_cons.mp hdistinct
      obtain ⟨row, hrow, hofRow⟩ := hfound customerId List.mem_cons_self
      -- The turn finds its customer, and leaves the rest to be found.
      have hturn : ∃ found, (db.customers.find? fun row =>
          Of tenantId [customerId] row.tenantId row.id) = some found := by
        rw [← Option.isSome_iff_exists, List.find?_isSome]
        exact ⟨row, hrow, decide_eq_true ⟨hofRow.1, List.mem_singleton.mpr hofRow.2⟩⟩
      obtain ⟨found, hturn⟩ := hturn
      have hrest : ∀ other ∈ customerIds,
          ∃ row ∈ (anonymizeAll tenantId time [customerId] db).customers,
            row.tenantId = tenantId ∧ row.id = other := by
        intro other hother
        exact Table.exists_mem_update (hfound other (List.mem_cons_of_mem _ hother))
          fun row _ hrow _ => hrow
      simp only [anonymizeCustomers, hturn, anonymizeCustomerRows_eq]
      rw [ih hdistinct hrest, anonymizeAll_cons hfresh]

end

end BusinessAssistant.Persistence.Retention
