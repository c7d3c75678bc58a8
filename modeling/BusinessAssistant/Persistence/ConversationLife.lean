/-
# The life of a conversation

The stores write the status of a conversation without asking the domain's table.
What a call gives is computed from the rows before it; the table is kept to exactly
when nothing is given to a closed conversation, and then closed is for ever.
-/

import BusinessAssistant.Persistence.HandoffControl
import BusinessAssistant.Persistence.Sessions

namespace BusinessAssistant.Persistence

open BusinessAssistant.Domain BusinessAssistant.Application BusinessAssistant.Foundation

section Runs

variable [PythonText] {cfg : WorkflowCatalogue} {env : Environment} {db db' : WorkflowDatabase}
  {call : WorkflowCall}

/-! ## What a call gives -/

omit [PythonText] in
instance WorkflowDatabase.decidableKeyUnused (db : WorkflowDatabase) (tenantId : TenantId)
    (updateKey : Text) : Decidable (db.KeyUnused tenantId updateKey) :=
  inferInstanceAs (Decidable (∀ _ ∈ _, _))

/-- The session of an identity with an id is under review. -/
def WorkflowDatabase.Reviewing (db : WorkflowDatabase) (identity : TelegramIdentity)
    (sessionId : QualificationSessionId) : Prop :=
  ∃ row ∈ db.qualificationSessions,
    row.OfIdentity identity ∧ row.id = sessionId ∧ row.status = .reviewing

omit [PythonText] in
instance WorkflowDatabase.decidableReviewing (db : WorkflowDatabase) (identity : TelegramIdentity)
    (sessionId : QualificationSessionId) : Decidable (db.Reviewing identity sessionId) :=
  inferInstanceAs (Decidable (∃ _ ∈ _, _))

/-- The status a call gives a conversation when it commits. -/
def givenStatus? (db : WorkflowDatabase) :
    WorkflowCall → Option (ConversationId × ConversationStatus)
  | .createOrGet identity request _ =>
      match HandoffStore.existing? identity request.idempotencyKey db with
      | some _ => none
      | none => some (identity.conversationId, .handoffQueued)
  | .complete identity sessionId _ _ (some _) _ updateKey =>
      if db.KeyUnused identity.tenantId updateKey ∧ db.Reviewing identity sessionId then
        some (identity.conversationId, .handoffQueued)
      else none
  | .transition tenantId handoffId action _ =>
      match db.handoffCases.find? fun row => row.tenantId = tenantId ∧ row.id = handoffId with
      | none => none
      | some row => (conversationStatus? action).map fun status => (row.conversationId, status)
  | _ => none

/-- The statuses with one given, or as they are. -/
def giveStatus (given : Option (ConversationId × ConversationStatus)) (statuses : Statuses) :
    Statuses :=
  match given with
  | none => statuses
  | some (id, status) => setStatus id status statuses

/-- No call gives a conversation the status closed; only anonymization closes. -/
theorem givenStatus?_ne_closed {id : ConversationId} {status : ConversationStatus}
    (hgiven : givenStatus? db call = some (id, status)) : status ≠ .closed := by
  unfold givenStatus? at hgiven
  split at hgiven
  · split at hgiven <;> cases hgiven
    decide
  · split at hgiven <;> cases hgiven
    decide
  · split at hgiven
    · cases hgiven
    · rename_i action _ _ _ _
      cases action <;> cases hgiven <;> decide
  · cases hgiven

theorem Escalated.statuses {identity : TelegramIdentity} {schema : QualificationSchema}
    {sessionId : QualificationSessionId} {leadId : LeadId} {now : Int}
    {written after : WorkflowDatabase} {trigger : Option TriggerResult}
    (hafter : Escalated env identity schema sessionId leadId now written trigger after) :
    after.statuses = giveStatus
      (trigger.map fun _ => (identity.conversationId, .handoffQueued)) written.statuses := by
  cases trigger with
  | none => exact congrArg _ hafter
  | some result =>
      obtain ⟨schedule, due, _, _, _, rfl⟩ := hafter
      exact WorkflowDatabase.statuses_queueCase _ _ _

/-- What `complete` gives, when ids of sessions are unique. -/
theorem statuses_of_complete (hids : (db.origins.map (·.id)).Nodup) {identity : TelegramIdentity}
    {sessionId : QualificationSessionId} {lead : Lead Answer} {score : ScoreResult}
    {trigger : Option TriggerResult} {now : Int} {updateKey : Text}
    {session : QualificationSession}
    (hrun : (QualificationStore.complete cfg env identity sessionId lead score trigger now
      updateKey).run db = .ok (session, db')) :
    db'.statuses = giveStatus
      (givenStatus? db (.complete identity sessionId lead score trigger now updateKey))
      db.statuses := by
  obtain ⟨row, hrow, howner, hid, hrest⟩ := QualificationStore.complete_ok hrun
  rcases hrest with ⟨hrefused, rfl⟩ | ⟨hready, hchange⟩
  · cases trigger with
    | none => rfl
    | some result =>
        have hnot : ¬ (db'.KeyUnused identity.tenantId updateKey ∧
            db'.Reviewing identity sessionId) := by
          rintro ⟨hkey, other, hother, _, hsame, hreviewing⟩
          cases Table.eq_of_key_eq (WorkflowDatabase.nodup_rowIds hids) hother hrow
            (hsame.trans hid.symm)
          rcases hrefused with hused | hstatus
          · exact hused hkey
          · exact hstatus hreviewing
        simp only [givenStatus?, if_neg hnot, giveStatus]
  · have hgiven : db.KeyUnused identity.tenantId updateKey ∧ db.Reviewing identity sessionId :=
      ⟨hready.1, row, hrow, howner, hid, hready.2⟩
    cases hchange with
    | complete _ _ _ _ _ _ _ _ _ _ hafter =>
        rw [hafter.statuses, WorkflowDatabase.statuses_writeCompletion,
          WorkflowDatabase.statuses_writeLead]
        cases trigger with
        | none => rfl
        | some result => simp only [givenStatus?, Option.map_some, if_pos hgiven]

theorem statuses_of_createOrGet {identity : TelegramIdentity} {request : HandoffRequest}
    {now : Int} {view : HandoffView}
    (hrun : (HandoffStore.createOrGet env identity request now).run db = .ok (view, db')) :
    db'.statuses = giveStatus (givenStatus? db (.createOrGet identity request now))
      db.statuses := by
  simp only [HandoffStore.createOrGet, Tx.run_get_bind_eq_ok] at hrun
  cases hexisting : HandoffStore.existing? identity request.idempotencyKey db with
  | some row =>
      rw [hexisting] at hrun
      cases Tx.run_pure_eq_ok.mp hrun
      simp only [givenStatus?, hexisting, giveStatus]
  | none =>
      rw [hexisting] at hrun
      obtain ⟨_, _, rfl⟩ := HandoffStore.create_ok hrun
      simp only [givenStatus?, hexisting]
      exact WorkflowDatabase.statuses_queueCase _ _ _

theorem statuses_of_transition {tenantId : TenantId} {handoffId : HandoffId}
    {action : HandoffAction} {actorId : Text} {view : HandoffView}
    (hrun : (HandoffStore.transition tenantId handoffId action actorId).run db =
      .ok (view, db')) :
    db'.statuses = giveStatus (givenStatus? db (.transition tenantId handoffId action actorId))
      db.statuses := by
  simp only [HandoffStore.transition, Tx.run_get_bind_eq_ok, Tx.run_fetch_bind_eq_ok,
    Tx.run_lift_bind_eq_ok, Tx.run_require_bind_eq_ok, Tx.run_modify_bind_eq_ok,
    Tx.run_pure_eq_ok] at hrun
  obtain ⟨row, hrow, case, _, _, _, _, moved, _, hend⟩ := hrun
  cases hend
  simp only [givenStatus?, hrow]
  rw [WorkflowDatabase.statuses_moveTo]
  cases conversationStatus? action with
  | none => rfl
  | some status => rfl

/-- What a committed call gives is what `givenStatus?` says. -/
theorem statuses_of_run (hids : (db.origins.map (·.id)).Nodup)
    (hcall : anonymizes call = false) {reply : call.Reply}
    (hrun : (transactionOf cfg env call).run db = .ok (reply, db')) :
    db'.statuses = giveStatus (givenStatus? db call) db.statuses := by
  cases call with
  | complete identity sessionId lead score trigger now updateKey =>
      exact statuses_of_complete hids hrun
  | createOrGet identity request now => exact statuses_of_createOrGet hrun
  | transition tenantId handoffId action actorId => exact statuses_of_transition hrun
  | anonymize => cases hcall
  | _ =>
      cases desk_of_run hrun with
      | kept _ hstatuses => exact hstatuses

/-! ## The table -/

/-- Every conversation went on by a chain of steps the domain allows. -/
def StatusesFollow (before after : Statuses) : Prop :=
  ∀ id old new, (id, old) ∈ before → (id, new) ∈ after → old.Leads new

/-- The call gives no status to a closed conversation. -/
def LeavesClosed (s : WorkflowState) (transaction : Transaction) : Prop :=
  ∀ given ∈ givenStatus? s.db transaction.call, (given.1, .closed) ∉ s.db.statuses

instance (s : WorkflowState) : DecidablePred (LeavesClosed s) := fun _ =>
  inferInstanceAs (Decidable (∀ _ ∈ _, _))

omit [PythonText] in
/-- With unique ids a conversation has one status. -/
theorem status_unique {statuses : Statuses} (hids : (statuses.map Prod.fst).Nodup)
    {id : ConversationId} {first second : ConversationStatus} (hfirst : (id, first) ∈ statuses)
    (hsecond : (id, second) ∈ statuses) : first = second :=
  congrArg Prod.snd (Table.eq_of_key_eq hids hfirst hsecond rfl)

omit [PythonText] in
theorem follow_refl {statuses : Statuses} (hids : (statuses.map Prod.fst).Nodup) :
    StatusesFollow statuses statuses := by
  intro id old new hold hnew
  rw [status_unique hids hold hnew]

omit [PythonText] in
/-- Giving a status follows the table exactly when the conversation was not closed. -/
theorem follow_setStatus {statuses : Statuses} (hids : (statuses.map Prod.fst).Nodup)
    {id : ConversationId} {status : ConversationStatus} (hopen : status ≠ .closed) :
    StatusesFollow statuses (setStatus id status statuses) ↔ (id, .closed) ∉ statuses := by
  constructor
  · intro hfollow hclosed
    have hgiven : (id, status) ∈ setStatus id status statuses :=
      Table.mem_update.mpr (.inl ⟨_, hclosed, rfl, rfl⟩)
    exact hopen (ConversationStatus.leads_of_closed (hfollow id .closed status hclosed hgiven))
  · intro hclosed other old new hold hnew
    rcases mem_setStatus hnew with ⟨rfl, rfl, _⟩ | ⟨_, hkept⟩
    · apply ConversationStatus.leads_iff.mpr
      rintro rfl
      exact absurd hold hclosed
    · rw [status_unique hids hold hkept]

omit [PythonText] in
/-- Anonymization closes conversations, which the table always allows. -/
theorem follow_anonymize (hids : (db.statuses.map Prod.fst).Nodup)
    {selected : ConversationRow → Prop} [DecidablePred selected] :
    StatusesFollow db.statuses
      (db.conversations.map fun row => (row.id, if selected row then .closed else row.status)) := by
  intro id old new hold hnew
  obtain ⟨row, hrow, hpair⟩ := List.mem_map.mp hnew
  cases hpair
  have hstatus := status_unique hids hold (WorkflowDatabase.mem_statuses.mpr ⟨row, hrow, rfl, rfl⟩)
  rw [hstatus]
  by_cases hselected : selected row
  · rw [if_pos hselected]
    exact ConversationStatus.leads_iff.mpr fun _ => rfl
  · rw [if_neg hselected]

/-- A committed call follows the table exactly when it gives no status to a closed
conversation. -/
theorem follow_of_run (hsessions : (db.origins.map (·.id)).Nodup)
    (hids : (db.statuses.map Prod.fst).Nodup) {reply : call.Reply}
    (hrun : (transactionOf cfg env call).run db = .ok (reply, db')) :
    StatusesFollow db.statuses db'.statuses ↔
      ∀ given ∈ givenStatus? db call, (given.1, .closed) ∉ db.statuses := by
  cases hanonymizes : anonymizes call with
  | true =>
      cases call <;> cases hanonymizes
      have hfollow : StatusesFollow db.statuses db'.statuses := by
        cases desk_of_run hrun with
        | kept _ hstatuses =>
            rw [hstatuses]
            exact follow_refl hids
        | anonymized hstatuses =>
            rw [hstatuses]
            exact follow_anonymize hids
      exact iff_of_true hfollow (by rintro given ⟨⟩)
  | false =>
      rw [statuses_of_run hsessions hanonymizes hrun]
      cases hgiven : givenStatus? db call with
      | none => exact iff_of_true (follow_refl hids) (by rintro given ⟨⟩)
      | some given =>
          obtain ⟨id, status⟩ := given
          exact (follow_setStatus hids (givenStatus?_ne_closed hgiven)).trans (by simp)

/-! ## Every run -/

/-- Conversations and sessions have one row each. -/
def WorkflowDatabase.Keyed (db : WorkflowDatabase) : Prop :=
  (db.origins.map (·.id)).Nodup ∧ (db.statuses.map Prod.fst).Nodup

theorem keyed_of_reachable {s : WorkflowState} (hs : (transactionSystem cfg).Reachable s) :
    s.db.Keyed := by
  apply hs.invariant
  · intro start hfresh
    refine ⟨hfresh.nodup_sessionIds, ?_⟩
    obtain ⟨_, _, _, _, _, _, hconversations, _⟩ := hfresh
    rw [WorkflowDatabase.statuses, List.map_map]
    exact hconversations
  · rintro before transaction after _ ⟨hsessions, hids⟩ rfl
    refine ⟨nodup_sessionIds_serve hsessions _ _, ?_⟩
    rw [map_fst_serve]
    exact hids

omit [PythonText] in
/-- A conversation that is there is there after a change that keeps the ids. -/
theorem exists_status {before after : Statuses}
    (hsame : after.map Prod.fst = before.map Prod.fst) {id : ConversationId}
    {old : ConversationStatus} (hold : (id, old) ∈ before) : ∃ new, (id, new) ∈ after := by
  have hid : id ∈ after.map Prod.fst := hsame ▸ List.mem_map_of_mem hold
  obtain ⟨⟨_, new⟩, hnew, rfl⟩ := List.mem_map.mp hid
  exact ⟨new, hnew⟩

/-- The two ends of a run: the same conversations, and the table kept. -/
def Follows (s s' : WorkflowState) : Prop :=
  (s.db.statuses.map Prod.fst).Nodup →
    s'.db.statuses.map Prod.fst = s.db.statuses.map Prod.fst ∧
      StatusesFollow s.db.statuses s'.db.statuses

omit [PythonText] in
theorem Follows.trans {s middle last : WorkflowState} (hfirst : Follows s middle)
    (hsecond : Follows middle last) : Follows s last := by
  intro hids
  obtain ⟨hsame, hfollow⟩ := hfirst hids
  obtain ⟨hsame', hfollow'⟩ := hsecond (hsame ▸ hids)
  refine ⟨hsame'.trans hsame, ?_⟩
  intro id old new hold hnew
  obtain ⟨between, hbetween⟩ := exists_status hsame hold
  exact (hfollow id old between hold hbetween).trans (hfollow' id between new hbetween hnew)

/-- One transaction that gives no status to a closed conversation keeps to the table. -/
theorem follows_next {s : WorkflowState} (hkeyed : s.db.Keyed) {transaction : Transaction}
    (hcondition : LeavesClosed s transaction) : Follows s (s.next cfg transaction) := by
  intro hids
  refine ⟨map_fst_serve _ _ _, ?_⟩
  rcases serve_cases transaction.call transaction.env s with
    ⟨error, _, hsame⟩ | ⟨reply, _, hrun⟩
  · rw [WorkflowState.next, hsame]
    exact follow_refl hids
  · exact (follow_of_run hkeyed.1 hids hrun).mpr hcondition

/-- A committed transaction changes statuses along the domain's table exactly when it
gives no status to a closed conversation; and a closed conversation is closed for
ever in every run whose transactions give none. -/
theorem statuses_follow_table {s : WorkflowState} (hs : (transactionSystem cfg).Reachable s) :
    (∀ transaction reply, (serve cfg transaction.call transaction.env s).1 = .ok reply →
      (StatusesFollow s.db.statuses (s.next cfg transaction).db.statuses ↔
        LeavesClosed s transaction)) ∧
      ∀ transactions s', ((transactionSystem cfg).restrict LeavesClosed).Run s transactions s' →
        StatusesFollow s.db.statuses s'.db.statuses ∧
          ∀ id, (id, .closed) ∈ s.db.statuses → (id, .closed) ∈ s'.db.statuses := by
  have hkeyed := keyed_of_reachable hs
  constructor
  · intro transaction reply hreply
    exact follow_of_run hkeyed.1 hkeyed.2 (run_of_serve_ok hreply)
  · intro transactions s' hrun
    have hends : Follows s s' := by
      induction hrun with
      | nil => exact fun hids => ⟨rfl, follow_refl hids⟩
      | snoc prior next ih =>
          obtain ⟨hcondition, rfl⟩ := next
          have hmiddle := keyed_of_reachable (hs.run prior.of_restrict)
          exact ih.trans (follows_next hmiddle hcondition)
    obtain ⟨hsame, hfollow⟩ := hends hkeyed.2
    refine ⟨hfollow, ?_⟩
    intro id hclosed
    obtain ⟨new, hnew⟩ := exists_status hsame hclosed
    exact ConversationStatus.leads_of_closed (hfollow id .closed new hclosed hnew) ▸ hnew

end Runs

/-! ## In the small shop -/

section Shop

open Shop

/-- Staff worked on a case of a customer, and then the customer is anonymized. -/
def Shop.anonymizes : List Transaction :=
  [asksForHelp 0 "first" 10 1, acts .claim 1 20, acts .resolve 1 30,
    calls (.anonymize tenantId (customerId 0) "gdpr".toList) 40 2]

theorem Shop.reachable {transactions : List Transaction} :
    (transactionSystem workflowCatalogue).Reachable
      (transactions.foldl (WorkflowState.next workflowCatalogue) welcomed) := by
  induction transactions using List.reverseRecOn with
  | nil => exact .init welcomed_fresh
  | append_singleton transactions transaction ih =>
      have hstep : (transactionSystem workflowCatalogue).step
          (transactions.foldl (WorkflowState.next workflowCatalogue) welcomed) transaction
          ((transactions ++ [transaction]).foldl (WorkflowState.next workflowCatalogue)
            welcomed) := by
        rw [List.foldl_append]
        rfl
      exact .step ih hstep

theorem statuses_follow_table_in_shop :
    StatusesFollow welcomed.db.statuses
      (Shop.anonymizes.foldl (WorkflowState.next workflowCatalogue) welcomed).db.statuses := by
  have hfollows : System.Follows LeavesClosed (WorkflowState.next workflowCatalogue) welcomed
      Shop.anonymizes := by decide +kernel
  have hrun : ((transactionSystem workflowCatalogue).restrict LeavesClosed).Run welcomed
      Shop.anonymizes (Shop.anonymizes.foldl (WorkflowState.next workflowCatalogue) welcomed) := by
    apply System.Run.of_follows _ hfollows
    intro s transaction hallowed
    exact ⟨hallowed, rfl⟩
  exact ((statuses_follow_table (.init welcomed_fresh)).2 _ _ hrun).1

/-- A resolved case of an anonymized customer can be reopened, and the closed
conversation waits for staff again. -/
theorem closed_conversation_reopened :
    ∃ s transaction reply, (transactionSystem workflowCatalogue).Reachable s ∧
      (serve workflowCatalogue transaction.call transaction.env s).1 = .ok reply ∧
      ¬ StatusesFollow s.db.statuses (s.next workflowCatalogue transaction).db.statuses := by
  have hclosed : (conversationId 0, ConversationStatus.closed) ∈
      (Shop.anonymizes.foldl (WorkflowState.next workflowCatalogue) welcomed).db.statuses := by
    decide +kernel
  have hqueued : (conversationId 0, ConversationStatus.handoffQueued) ∈
      ((Shop.anonymizes.foldl (WorkflowState.next workflowCatalogue) welcomed).next
        workflowCatalogue (acts .reopen 1 50)).db.statuses := by
    decide +kernel
  rcases serve_cases (acts .reopen 1 50).call (acts .reopen 1 50).env
    (Shop.anonymizes.foldl (WorkflowState.next workflowCatalogue) welcomed) with
    ⟨error, _, hsame⟩ | ⟨reply, hreply, _⟩
  · rw [WorkflowState.next, hsame] at hqueued
    exact absurd hqueued (by decide +kernel)
  · refine ⟨_, acts .reopen 1 50, reply, Shop.reachable, hreply, ?_⟩
    intro hfollow
    exact absurd (ConversationStatus.leads_of_closed (hfollow _ _ _ hclosed hqueued)) (by decide)

end Shop

end BusinessAssistant.Persistence
