/-
# Retention spares live work and converges

What is asked of a run, and when it does so: no due customer has an active draft or hold,
and the leads whose content it removes are not due for it at once.
-/

import BusinessAssistant.Persistence.RetentionFrame
import Mathlib.Data.Fintype.EquivFin

namespace BusinessAssistant.Persistence.Retention

open BusinessAssistant.Domain BusinessAssistant.Application BusinessAssistant.Foundation

/-! ## What is asked -/

/-- The rows of a customer with a conversation that is not closed are as they were, but for
old messages and old terminal records. -/
structure SparesEngaged (policy : RetentionPolicy) (time : Int) (db written : RetentionDatabase)
    (tenantId : TenantId) (customerId : CustomerId) : Prop where
  customers : ∀ row ∈ db.customers, Of tenantId [customerId] row.tenantId row.id →
    row ∈ written.customers
  channelIdentities : ∀ row ∈ db.channelIdentities,
    Of tenantId [customerId] row.tenantId row.customerId → row ∈ written.channelIdentities
  conversations : ∀ row ∈ db.conversations, Of tenantId [customerId] row.tenantId row.customerId →
    row ∈ written.conversations
  messages : ∀ row ∈ db.messages, OfConversations tenantId [customerId] db.conversations row →
    ¬ row.createdAt < cutoff time policy.messageContentDays → row ∈ written.messages
  slotHolds : ∀ row ∈ db.slotHolds, Of tenantId [customerId] row.tenantId row.customerId →
    row ∈ written.slotHolds
  bookingDrafts : ∀ row ∈ db.bookingDrafts, WorkflowTable.OfCustomers tenantId [customerId] row →
    ¬ bookingDrafts.Old (cutoff time policy.workflowRecordsDays) row → row ∈ written.bookingDrafts
  bookings : ∀ row ∈ db.bookings, WorkflowTable.OfCustomers tenantId [customerId] row →
    ¬ bookings.Old (cutoff time policy.workflowRecordsDays) row → row ∈ written.bookings
  leads : ∀ row ∈ db.leads, WorkflowTable.OfCustomers tenantId [customerId] row →
    ¬ leads.Old (cutoff time policy.workflowRecordsDays) row → row ∈ written.leads
  qualificationSessions : ∀ row ∈ db.qualificationSessions,
    WorkflowTable.OfCustomers tenantId [customerId] row →
      ¬ qualificationSessions.Old (cutoff time policy.workflowRecordsDays) row →
        row ∈ written.qualificationSessions
  handoffCases : ∀ row ∈ db.handoffCases, WorkflowTable.OfCustomers tenantId [customerId] row →
    ¬ handoffCases.Old (cutoff time policy.workflowRecordsDays) row → row ∈ written.handoffCases

/-- A record keeps its status and its content. -/
def KeptIn {S C : Type} (rows : List (WorkflowRecord S C)) (row : WorkflowRecord S C) : Prop :=
  ∃ row' ∈ rows, row'.id = row.id ∧ row'.status = row.status ∧ row'.content = row.content

/-- What is active or pending keeps its status and its content. -/
structure SparesLive (db written : RetentionDatabase) : Prop where
  bookingDrafts : ∀ row ∈ db.bookingDrafts, row.status = .active → KeptIn written.bookingDrafts row
  slotHolds : ∀ row ∈ db.slotHolds, row.status = .active →
    ∃ row' ∈ written.slotHolds, row'.id = row.id ∧ row'.status = row.status
  bookings : ∀ row ∈ db.bookings, row.status ∈ [.draft, .held, .confirmed, .reschedulePending] →
    KeptIn written.bookings row
  leads : ∀ row ∈ db.leads, row.status ∈ [.new, .qualifying, .qualified, .contacted, .converted] →
    KeptIn written.leads row
  qualificationSessions : ∀ row ∈ db.qualificationSessions,
    row.status ∈ [.awaitingConsent, .inProgress, .reviewing] →
      KeptIn written.qualificationSessions row
  handoffCases : ∀ row ∈ db.handoffCases, row.status ∈ [.queued, .claimed, .reopened] →
    KeptIn written.handoffCases row

/-- All tables but those of the runs themselves are the same. -/
def SameData (db written : RetentionDatabase) : Prop :=
  written =
    { db with privacyActions := written.privacyActions, auditEvents := written.auditEvents }

/-- Every later run at the same time with a key that names nothing succeeds and changes no
data, whatever the server's clock says by then. -/
def Converges (env : Environment) (tenantId : TenantId) (policy : RetentionPolicy)
    (written : RetentionDatabase) : Prop :=
  ∀ (later : Environment) (idempotencyKey actorId : Text), later.now = env.now →
    KeyUnused tenantId idempotencyKey written →
      ∃ result again, (runRetention later tenantId policy idempotencyKey actorId).run written =
        .ok (result, again) ∧ SameData written again

/-- What is asked of a run. -/
structure SparesAndConverges (env : Environment) (tenantId : TenantId) (policy : RetentionPolicy)
    (db written : RetentionDatabase) : Prop where
  engaged : ∀ owner customerId, ActiveConversation owner db customerId →
    SparesEngaged policy env.now db written owner customerId
  live : SparesLive db written
  converges : Converges env tenantId policy written

section

variable {env : Environment} {tenantId : TenantId} {policy : RetentionPolicy}
  {idempotencyKey actorId : Text} {db written : RetentionDatabase} {result : PrivacyResult}

/-! ## Customers with a conversation that is not closed -/

theorem not_of_of_active {owner : TenantId} {customerId : CustomerId} {time : Int}
    (hactive : ActiveConversation owner db customerId) {rowTenantId : TenantId}
    {rowCustomerId : CustomerId} (hrow : Of owner [customerId] rowTenantId rowCustomerId) :
    ¬ Of tenantId (dueCustomerIds tenantId policy time db) rowTenantId rowCustomerId := by
  rintro ⟨htenant, hdue⟩
  have howner : owner = tenantId := hrow.1.symm.trans htenant
  have hcustomer : rowCustomerId = customerId := List.mem_singleton.mp hrow.2
  exact not_busy_of_due hdue (.inl (hcustomer ▸ howner ▸ hactive))

theorem not_ofCustomers_of_active {S C : Type} {owner : TenantId} {customerId : CustomerId}
    {time : Int} (hactive : ActiveConversation owner db customerId) {row : WorkflowRecord S C}
    (hrow : WorkflowTable.OfCustomers owner [customerId] row) :
    ¬ WorkflowTable.OfCustomers tenantId (dueCustomerIds tenantId policy time db) row := by
  intro hdue
  obtain ⟨first, hfirst, hof⟩ := WorkflowTable.ofCustomers_iff.mp hrow
  obtain ⟨second, hsecond, hdue⟩ := WorkflowTable.ofCustomers_iff.mp hdue
  obtain rfl : first = second := Option.some.inj (hfirst.symm.trans hsecond)
  exact not_of_of_active hactive hof hdue

/-- A conversation has one customer. -/
theorem not_ofConversations_of_active {owner : TenantId} {customerId : CustomerId} {time : Int}
    (hdb : Keyed db) (hactive : ActiveConversation owner db customerId) {message : MessageRecord}
    (hmessage : OfConversations owner [customerId] db.conversations message) :
    ¬ OfConversations tenantId (dueCustomerIds tenantId policy time db) db.conversations
      message := by
  rintro ⟨_, second, hsecond, hdue, hsecondId⟩
  obtain ⟨_, first, hfirst, hof, hfirstId⟩ := hmessage
  have hsame : first = second :=
    Table.eq_of_key_eq hdb.conversations hfirst hsecond (hfirstId.trans hsecondId.symm)
  exact not_of_of_active hactive hof (hsame ▸ hdue)

theorem sparesEngaged_retained {owner : TenantId} {customerId : CustomerId} {time serverNow : Int}
    (hdb : Keyed db) (hactive : ActiveConversation owner db customerId) :
    SparesEngaged policy time db (retained tenantId policy time serverNow db) owner customerId := by
  obtain ⟨hdrafts, hbookings, hleads, hsessions, hcases⟩ :=
    @retained_tables tenantId policy time serverNow db hdb
  have hrest : retained tenantId policy time serverNow db = _ := retained_eq hdb serverNow
  refine
    { customers := fun row hrow hof => ?_
      channelIdentities := fun row hrow hof => ?_
      conversations := fun row hrow hof => ?_
      messages := fun row hrow hof hold => ?_
      slotHolds := fun row hrow hof => ?_
      bookingDrafts := fun row hrow hof hold => hdrafts ▸ WorkflowTable.mem_retain hrow
        (not_ofCustomers_of_active hactive hof) (WorkflowTable.not_due_of_not_old hold)
      bookings := fun row hrow hof hold => hbookings ▸ WorkflowTable.mem_retain hrow
        (not_ofCustomers_of_active hactive hof) (WorkflowTable.not_due_of_not_old hold)
      leads := fun row hrow hof hold => hleads ▸ WorkflowTable.mem_retain hrow
        (not_ofCustomers_of_active hactive hof) (WorkflowTable.not_due_of_not_old hold)
      qualificationSessions := fun row hrow hof hold => hsessions ▸ WorkflowTable.mem_retain hrow
        (not_ofCustomers_of_active hactive hof) (WorkflowTable.not_due_of_not_old hold)
      handoffCases := fun row hrow hof hold => hcases ▸ WorkflowTable.mem_retain hrow
        (not_ofCustomers_of_active hactive hof) (WorkflowTable.not_due_of_not_old hold) }
  · rw [hrest]
    exact Table.mem_update_of_not_selected hrow (not_of_of_active hactive hof)
  · rw [hrest]
    exact Table.mem_update_of_not_selected hrow (not_of_of_active hactive hof)
  · rw [hrest]
    exact Table.mem_update_of_not_selected hrow (not_of_of_active hactive hof)
  · rw [hrest]
    apply List.mem_filter.mpr
    refine ⟨List.mem_filter.mpr ⟨hrow, decide_eq_true ?_⟩, decide_eq_true fun hdue => hold hdue.2⟩
    exact not_ofConversations_of_active hdb hactive hof
  · rw [hrest]
    exact Table.mem_update_of_not_selected hrow fun hdue => not_of_of_active hactive hof hdue.1

/-! ## What is live -/

/-- The active drafts and holds are those of customers who are not due. -/
structure NothingActive (tenantId : TenantId) (policy : RetentionPolicy) (time : Int)
    (db : RetentionDatabase) : Prop where
  bookingDrafts : ∀ row ∈ db.bookingDrafts,
    WorkflowTable.OfCustomers tenantId (dueCustomerIds tenantId policy time db) row →
      row.status ≠ .active
  slotHolds : ∀ row ∈ db.slotHolds,
    Of tenantId (dueCustomerIds tenantId policy time db) row.tenantId row.customerId →
      row.status ≠ .active

theorem keptIn_of_mem {S C : Type} {rows : List (WorkflowRecord S C)} {row : WorkflowRecord S C}
    (hrow : row ∈ rows) : KeptIn rows row :=
  ⟨row, hrow, rfl, rfl, rfl⟩

/-- An active draft that is kept is of no due customer. -/
theorem draft_not_of_due {time serverNow : Int} (hdb : Keyed db)
    {row : WorkflowRecord DraftStatus DraftContent} (hrow : row ∈ db.bookingDrafts)
    (hkept : KeptIn (retained tenantId policy time serverNow db).bookingDrafts row)
    (hof : WorkflowTable.OfCustomers tenantId (dueCustomerIds tenantId policy time db) row) :
    row.status ≠ .active := by
  intro hactive
  obtain ⟨row', hrow', hid, hstatus, _⟩ := hkept
  rw [(@retained_tables tenantId policy time serverNow db hdb).1] at hrow'
  obtain ⟨old, hold, hidOld, hcases⟩ := WorkflowTable.of_mem_retain hrow'
  have hsame : old = row := Table.eq_of_key_eq hdb.bookingDrafts hold hrow (hidOld.trans hid)
  subst hsame
  rcases hcases with ⟨_, hended⟩ | ⟨hnot, _⟩
  · rw [hstatus, WorkflowTable.anonymize, if_pos (by simp [bookingDrafts, hactive]), hactive] at hended
    cases hended
  · exact hnot hof

theorem hold_not_of_due {time serverNow : Int} (hdb : Keyed db) {row : SlotHoldRecord}
    (hrow : row ∈ db.slotHolds)
    (hkept : ∃ row' ∈ (retained tenantId policy time serverNow db).slotHolds,
      row'.id = row.id ∧ row'.status = row.status)
    (hof : Of tenantId (dueCustomerIds tenantId policy time db) row.tenantId row.customerId) :
    row.status ≠ .active := by
  intro hactive
  obtain ⟨row', hrow', hid, hstatus⟩ := hkept
  rw [retained_eq hdb] at hrow'
  rcases Table.mem_update.mp hrow' with ⟨old, _, _, rfl⟩ | ⟨hold, hnot⟩
  · rw [hactive] at hstatus
    cases hstatus
  · have hsame : row' = row := Table.eq_of_key_eq hdb.slotHolds hold hrow hid
    exact hnot (hsame ▸ ⟨hof, hactive⟩)

theorem sparesLive_iff {time serverNow : Int} (hdb : Keyed db) :
    SparesLive db (retained tenantId policy time serverNow db) ↔
      NothingActive tenantId policy time db := by
  obtain ⟨hdrafts, hbookings, hleads, hsessions, hcases⟩ :=
    @retained_tables tenantId policy time serverNow db hdb
  constructor
  · intro hlive
    refine ⟨fun row hrow hof hactive => ?_, fun row hrow hof hactive => ?_⟩
    · exact draft_not_of_due hdb hrow (hlive.bookingDrafts row hrow hactive) hof hactive
    · exact hold_not_of_due hdb hrow (hlive.slotHolds row hrow hactive) hof hactive
  · intro hnothing
    refine
      { bookingDrafts := fun row hrow hactive => ?_
        slotHolds := fun row hrow hactive => ?_
        bookings := fun row hrow hpending => hbookings ▸ keptIn_of_mem
          (WorkflowTable.mem_retain_of_pending bookings_disjoint bookings_idle hrow hpending)
        leads := fun row hrow hpending => hleads ▸ keptIn_of_mem
          (WorkflowTable.mem_retain_of_pending leads_disjoint leads_idle hrow hpending)
        qualificationSessions := fun row hrow hpending => hsessions ▸ keptIn_of_mem
          (WorkflowTable.mem_retain_of_pending qualificationSessions_disjoint
            qualificationSessions_idle hrow hpending)
        handoffCases := fun row hrow hpending => hcases ▸ keptIn_of_mem
          (WorkflowTable.mem_retain_of_pending handoffCases_disjoint handoffCases_idle hrow
            hpending) }
    · rw [hdrafts]
      apply keptIn_of_mem
      apply WorkflowTable.mem_retain hrow fun hof => hnothing.bookingDrafts row hrow hof hactive
      intro hdue
      have hterminal := hdue.2.1
      rw [hactive] at hterminal
      exact absurd hterminal (by decide)
    · refine ⟨row, ?_, rfl, rfl⟩
      rw [retained_eq hdb]
      exact Table.mem_update_of_not_selected hrow fun hof =>
        hnothing.slotHolds row hrow hof.1 hof.2

/-! ## Later runs -/

/-- A run at the same time applies to what a run left nothing but the conditions by age. -/
theorem retained_executed (hdb : Keyed db) (again : Int) :
    retained tenantId policy env.now again
        (executed env tenantId policy idempotencyKey actorId db) =
      removeDue tenantId policy env.now again
        (executed env tenantId policy idempotencyKey actorId db) := by
  have hnone : dueCustomerIds tenantId policy env.now
      (executed env tenantId policy idempotencyKey actorId db) = [] :=
    @dueCustomerIds_retained tenantId policy env.now env.serverNow db hdb
  rw [retained, hnone, anonymizeCustomers]

theorem converges_of_settle (hdb : Keyed db) (hpolicy : PolicyStored tenantId policy db)
    (hsettle : LeadsSettle tenantId policy env.now env.serverNow db) :
    Converges env tenantId policy (executed env tenantId policy idempotencyKey actorId db) := by
  intro later laterKey laterActor hnow hunused
  have hstored : PolicyStored tenantId policy
      (executed env tenantId policy idempotencyKey actorId db) := by
    rw [executed, retained_eq hdb]
    exact hpolicy
  have hnothing := nothingDue_retained hdb hsettle
  have hsame : retained tenantId policy env.now later.serverNow
      (executed env tenantId policy idempotencyKey actorId db) =
        executed env tenantId policy idempotencyKey actorId db := by
    rw [retained_executed hdb]
    exact removeDue_eq_self ⟨hnothing.telegramUpdates, hnothing.messages, hnothing.bookingDrafts,
      hnothing.bookings, hnothing.leads, hnothing.qualificationSessions, hnothing.handoffCases,
      hnothing.knowledgeDocuments, hnothing.aiOperations⟩
  refine ⟨_, _, runRetention_eq_ok.mpr (.inr ⟨hunused, hstored, rfl, rfl⟩), ?_⟩
  generalize executed env tenantId policy idempotencyKey actorId db = written at hsame
  rw [SameData, executed, hnow, hsame]

theorem exists_unusedKey (tenantId : TenantId) (db : RetentionDatabase) :
    ∃ key, KeyUnused tenantId key db := by
  obtain ⟨key, hkey⟩ :=
    Infinite.exists_notMem_finset (db.privacyActions.map (·.idempotencyKey)).toFinset
  refine ⟨key, fun row hrow _ hsame => hkey ?_⟩
  exact List.mem_toFinset.mpr (hsame ▸ List.mem_map_of_mem hrow)

/-- A lead that is due again is written again, at another time by the server's clock. -/
theorem settle_of_converges (hdb : Keyed db)
    (hconverges :
      Converges env tenantId policy (executed env tenantId policy idempotencyKey actorId db)) :
    LeadsSettle tenantId policy env.now env.serverNow db := by
  intro row hrow hdue hof
  by_contra hearly
  obtain ⟨laterKey, hunused⟩ :=
    exists_unusedKey tenantId (executed env tenantId policy idempotencyKey actorId db)
  obtain ⟨_, again, hrun, hsame⟩ := hconverges
    { env with serverNow := env.serverNow + 1 } laterKey actorId rfl hunused
  have hagain : again = executed { env with serverNow := env.serverNow + 1 } tenantId policy laterKey
      actorId (executed env tenantId policy idempotencyKey actorId db) := by
    rcases runRetention_eq_ok.mp hrun with ⟨hreplay, _⟩ | ⟨_, _, _, hagain⟩
    · rw [replay_eq_none_iff.mpr hunused] at hreplay
      cases hreplay
    · exact hagain
  have hleads : Table.update (leads.Due tenantId (cutoff env.now policy.workflowRecordsDays))
      (leads.remove (env.serverNow + 1))
        (executed env tenantId policy idempotencyKey actorId db).leads =
      (executed env tenantId policy idempotencyKey actorId db).leads := by
    calc
      _ = (retained tenantId policy env.now (env.serverNow + 1)
          (executed env tenantId policy idempotencyKey actorId db)).leads := by
        rw [retained_executed hdb]
        rfl
      _ = again.leads := by rw [hagain]; rfl
      _ = _ := congrArg (·.leads) hsame
  have hleft : leads.remove env.serverNow row ∈
      (executed env tenantId policy idempotencyKey actorId db).leads := by
    have htables := @retained_tables tenantId policy env.now env.serverNow db hdb
    rw [executed, htables.2.2.1]
    exact Table.mem_update_of_selected (Table.mem_update_of_not_selected hrow hof) hdue
  have hdueAgain : leads.Due tenantId (cutoff env.now policy.workflowRecordsDays)
      (leads.remove env.serverNow row) :=
    ⟨hdue.1, hdue.2.1, not_le.mp hearly, leads_removed row.content⟩
  have hkept := Table.update_eq_self_iff.mp hleads _ hleft hdueAgain
  have htime := congrArg (·.updatedAt) hkept
  simp only [WorkflowTable.remove] at htime
  omega

/-! ## When a run spares live work and converges -/

/-- A run does what is asked of it if and only if no due customer has an active draft or hold
and the leads whose content it removes are not due for it at once. -/
theorem sparesAndConverges_iff (hdb : Keyed db)
    (hrun : (runRetention env tenantId policy idempotencyKey actorId).run db = .ok (result, written))
    (hexecution : result.idempotentReplay = false) :
    SparesAndConverges env tenantId policy db written ↔
      NothingActive tenantId policy env.now db ∧
        LeadsSettle tenantId policy env.now env.serverNow db := by
  obtain ⟨_, hpolicy, _, rfl⟩ := executed_of_run hrun hexecution
  constructor
  · intro hasked
    have hlive : SparesLive db (retained tenantId policy env.now env.serverNow db) :=
      ⟨hasked.live.bookingDrafts, hasked.live.slotHolds, hasked.live.bookings, hasked.live.leads,
        hasked.live.qualificationSessions, hasked.live.handoffCases⟩
    exact ⟨(sparesLive_iff hdb).mp hlive, settle_of_converges hdb hasked.converges⟩
  · rintro ⟨hnothing, hsettle⟩
    refine ⟨fun owner customerId hactive => ?_, ?_, converges_of_settle hdb hpolicy hsettle⟩
    · have hspares := @sparesEngaged_retained tenantId policy db owner customerId env.now
        env.serverNow hdb hactive
      exact ⟨hspares.customers, hspares.channelIdentities, hspares.conversations, hspares.messages,
        hspares.slotHolds, hspares.bookingDrafts, hspares.bookings, hspares.leads,
        hspares.qualificationSessions, hspares.handoffCases⟩
    · have hlive : SparesLive db (retained tenantId policy env.now env.serverNow db) :=
        (sparesLive_iff hdb).mpr hnothing
      exact ⟨hlive.bookingDrafts, hlive.slotHolds, hlive.bookings, hlive.leads,
        hlive.qualificationSessions, hlive.handoffCases⟩

end

/-! ### A customer who left in the middle of booking -/

namespace SmallRetention

/-- A draft of the customer, with the customer's name in it -/
def draft (status : DraftStatus) : WorkflowRecord DraftStatus DraftContent where
  id := 6
  tenantId := tenantId
  customerId := some customer.id
  status := status
  content := { customerName := some "Ada".toList, customerPhone := none, customerNote := none }
  updatedAt := days 100

/-- A customer not seen for 900 days, with a draft of those days. -/
def drafting (status : DraftStatus) : RetentionDatabase where
  customers := [customer]
  conversations := [conversation]
  bookingDrafts := [draft status]
  retentionPolicies := [policy]

theorem keyed_drafting (status : DraftStatus) : Keyed (drafting status) := by
  constructor <;> simp [drafting]

theorem run_drafting (status : DraftStatus) :
    (runRetention env tenantId policy "run-1".toList "owner".toList).run (drafting status) =
      .ok (executionResult env tenantId policy (drafting status),
        executed env tenantId policy "run-1".toList "owner".toList (drafting status)) := by
  refine runRetention_eq_ok.mpr (.inr ⟨?_, ⟨policy, List.mem_cons_self, rfl, rfl⟩, rfl, rfl⟩)
  intro row hrow
  cases hrow

end SmallRetention

open SmallRetention in
/-- The draft was cancelled. -/
theorem sparesAndConverges_of_cancelled :
    (NothingActive tenantId policy env.now (drafting .cancelled) ∧
      LeadsSettle tenantId policy env.now env.serverNow (drafting .cancelled)) ∧
    SparesAndConverges env tenantId policy (drafting .cancelled)
      (executed env tenantId policy "run-1".toList "owner".toList (drafting .cancelled)) := by
  have hcondition : NothingActive tenantId policy env.now (drafting .cancelled) ∧
      LeadsSettle tenantId policy env.now env.serverNow (drafting .cancelled) :=
    ⟨⟨by decide +kernel, by decide +kernel⟩, fun _ hrow => by cases hrow⟩
  exact ⟨hcondition,
    (sparesAndConverges_iff (keyed_drafting .cancelled) (run_drafting .cancelled) rfl).mpr
      hcondition⟩

open SmallRetention in
/-- The run cancels a draft that was active, and takes the name out of it. -/
theorem not_spares_of_active_draft :
    (runRetention env tenantId policy "run-1".toList "owner".toList).run (drafting .active) =
        .ok (executionResult env tenantId policy (drafting .active),
          executed env tenantId policy "run-1".toList "owner".toList (drafting .active)) ∧
      ¬ SparesAndConverges env tenantId policy (drafting .active)
        (executed env tenantId policy "run-1".toList "owner".toList (drafting .active)) := by
  refine ⟨run_drafting .active, fun hasked => ?_⟩
  have hkept := hasked.live.bookingDrafts (draft .active) List.mem_cons_self rfl
  have hof : WorkflowTable.OfCustomers tenantId
      (dueCustomerIds tenantId policy env.now (drafting .active)) (draft .active) := by
    decide +kernel
  exact draft_not_of_due (keyed_drafting .active) List.mem_cons_self hkept hof rfl

end BusinessAssistant.Persistence.Retention
