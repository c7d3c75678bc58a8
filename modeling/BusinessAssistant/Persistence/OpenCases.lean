/-
# Open cases of a conversation

Three kinds of transaction open a case. Only the creation of one looks for another
first, under a lock that the other two do not take, and between its look and its
insert the others may commit. The phases of a creation are therefore steps of their
own here.
-/

import BusinessAssistant.Persistence.ConversationLife

namespace BusinessAssistant.Persistence

open BusinessAssistant.Domain BusinessAssistant.Application BusinessAssistant.Foundation

/-! ## Cases by their place -/

/-- Which case it is, and of which conversation. -/
structure CasePlace where
  id : HandoffId
  tenantId : TenantId
  conversationId : ConversationId
  deriving DecidableEq

def HandoffCaseRow.place (row : HandoffCaseRow) : CasePlace where
  id := row.id
  tenantId := row.tenantId
  conversationId := row.conversationId

/-- The places of the open cases are among `places`. -/
def OpenAmong (places : CasePlace → Prop) (cases : List HandoffCaseRow) : Prop :=
  ∀ row ∈ cases, row.Open → places row.place

/-- The places of the open cases. -/
def openPlace (cases : List HandoffCaseRow) (place : CasePlace) : Prop :=
  ∃ row ∈ cases, row.Open ∧ row.place = place

/-- A conversation has at most one open case. -/
def OneOpen (cases : List HandoffCaseRow) : Prop :=
  ∀ first ∈ cases, ∀ second ∈ cases, first.Open → second.Open →
    first.conversationId = second.conversationId → first.id = second.id

/-- No case of a conversation is open. -/
def NoneOpen (cases : List HandoffCaseRow) (id : ConversationId) : Prop :=
  ∀ row ∈ cases, row.conversationId = id → ¬ row.Open

instance (cases : List HandoffCaseRow) (id : ConversationId) : Decidable (NoneOpen cases id) :=
  inferInstanceAs (Decidable (∀ _ ∈ _, _))

theorem OneOpen.among {cases cases' : List HandoffCaseRow} (hone : OneOpen cases)
    (hamong : OpenAmong (openPlace cases) cases') : OneOpen cases' := by
  intro first hfirst second hsecond hopen hopen' hsame
  obtain ⟨old, hold, holdOpen, hplace⟩ := hamong first hfirst hopen
  obtain ⟨old', hold', holdOpen', hplace'⟩ := hamong second hsecond hopen'
  cases first
  cases second
  cases hplace
  cases hplace'
  exact hone old hold old' hold' holdOpen holdOpen' hsame

/-- One case may be opened in a conversation without an open one. -/
theorem OneOpen.add {cases cases' : List HandoffCaseRow} (hone : OneOpen cases)
    {place : CasePlace} (hnone : NoneOpen cases place.conversationId)
    (hamong : OpenAmong (fun other => other = place ∨ openPlace cases other) cases') :
    OneOpen cases' := by
  intro first hfirst second hsecond hopen hopen' hsame
  rcases hamong first hfirst hopen with hnew | hold
  · rcases hamong second hsecond hopen' with hnew' | ⟨old, hold, holdOpen, hplace⟩
    · exact congrArg CasePlace.id (hnew.trans hnew'.symm)
    · have hconversation : old.conversationId = place.conversationId := by
        rw [← hnew]
        exact (congrArg CasePlace.conversationId hplace).trans hsame.symm
      exact absurd holdOpen (hnone old hold hconversation)
  · obtain ⟨old, hold, holdOpen, hplace⟩ := hold
    rcases hamong second hsecond hopen' with hnew' | ⟨old', hold', holdOpen', hplace'⟩
    · have hconversation : old.conversationId = place.conversationId := by
        rw [← hnew']
        exact (congrArg CasePlace.conversationId hplace).trans hsame
      exact absurd holdOpen (hnone old hold hconversation)
    · have hconversation : old.conversationId = old'.conversationId :=
        (congrArg CasePlace.conversationId hplace).trans
          (hsame.trans (congrArg CasePlace.conversationId hplace').symm)
      exact (congrArg CasePlace.id hplace).symm.trans
        ((hone old hold old' hold' holdOpen holdOpen' hconversation).trans
          (congrArg CasePlace.id hplace'))

/-- With unique ids, that is the same as counting. -/
theorem OneOpen.count_le {cases : List HandoffCaseRow} (hids : (cases.map (·.id)).Nodup)
    (hone : OneOpen cases) (id : ConversationId) :
    cases.countP (fun row => row.conversationId = id ∧ row.Open) ≤ 1 := by
  apply Table.countP_le_one hids
  intro first hfirst second hsecond hcounted hcounted'
  obtain ⟨hid, hopen⟩ := of_decide_eq_true hcounted
  obtain ⟨hid', hopen'⟩ := of_decide_eq_true hcounted'
  exact hone first hfirst second hsecond hopen hopen' (hid.trans hid'.symm)

/-! ## Conversations and their tenants -/

namespace WorkflowDatabase

/-- The conversations with their tenants. -/
def homes (db : WorkflowDatabase) : List (ConversationId × TenantId) :=
  db.conversations.map fun row => (row.id, row.tenantId)

@[simp]
theorem homes_updateConversation (db : WorkflowDatabase) (id : ConversationId)
    {change : ConversationRow → ConversationRow}
    (hkeep : ∀ row, ((change row).id, (change row).tenantId) = (row.id, row.tenantId)) :
    (db.updateConversation id change).homes = db.homes :=
  Table.map_update (fun row : ConversationRow => (row.id, row.tenantId)) hkeep

theorem homes_queueCase (db : WorkflowDatabase) (case : HandoffCaseRow) (event : OutboxEventRow) :
    (db.queueCase case event).homes = db.homes :=
  homes_updateConversation _ _ fun _ => rfl

end WorkflowDatabase

section Homes

variable [PythonText] {cfg : WorkflowCatalogue} {env : Environment} {db db' : WorkflowDatabase}
  {call : WorkflowCall}

/-- No call moves a conversation to another tenant. -/
theorem WorkflowChange.homes (hchange : WorkflowChange env db call db') :
    db'.homes = db.homes :=
  hchange.conversations_map fun _ _ _ => rfl

/-- Cases and sessions belong to the tenant of their conversation. -/
structure WorkflowDatabase.Homed (db : WorkflowDatabase) : Prop where
  unique : (db.homes.map Prod.fst).Nodup
  cases : ∀ row ∈ db.handoffCases, (row.conversationId, row.tenantId) ∈ db.homes
  sessions : ∀ origin ∈ db.origins, (origin.conversationId, origin.tenantId) ∈ db.homes

omit [PythonText] in
theorem WorkflowDatabase.mem_homes {id : ConversationId} {tenantId : TenantId}
    (hconversation : ∃ row ∈ db.conversations, row.id = id ∧ row.tenantId = tenantId) :
    (id, tenantId) ∈ db.homes := by
  obtain ⟨row, hrow, rfl, rfl⟩ := hconversation
  exact List.mem_map.mpr ⟨row, hrow, rfl⟩

omit [PythonText] in
theorem WorkflowDatabase.Fresh.homed (hfresh : db.Fresh) : db.Homed := by
  obtain ⟨hsessions, _, _, _, hcases, _, hconversations, _⟩ := hfresh
  refine ⟨?_, ?_, ?_⟩
  · rw [WorkflowDatabase.homes, List.map_map]
    exact hconversations
  · rw [hcases]
    intro row hrow
    cases hrow
  · rw [WorkflowDatabase.origins, hsessions]
    intro origin horigin
    cases horigin

omit [PythonText] in
theorem WorkflowDatabase.Homed.queueCase (hhomed : db.Homed) {case : HandoffCaseRow}
    (hhome : (case.conversationId, case.tenantId) ∈ db.homes) (event : OutboxEventRow) :
    (db.queueCase case event).Homed := by
  have hhomes := WorkflowDatabase.homes_queueCase db case event
  refine ⟨hhomes ▸ hhomed.unique, ?_, hhomes ▸ hhomed.sessions⟩
  rw [hhomes]
  exact Table.forall_append_row hhomed.cases hhome

/-- A call keeps every case and session with its tenant. -/
theorem WorkflowDatabase.Homed.change (hhomed : db.Homed) (hchange : WorkflowChange env db call db') :
    db'.Homed := by
  have hhomes := hchange.homes
  refine ⟨hhomes ▸ hhomed.unique, ?_, ?_⟩
  · rw [hhomes]
    cases hchange.desk with
    | kept _ _ hcases => exact hcases ▸ hhomed.cases
    | created _ hconversation hcase _ hcases =>
        rw [hcases]
        apply Table.forall_append_row hhomed.cases
        rw [hcase.conversationId, hcase.tenantId]
        exact WorkflowDatabase.mem_homes hconversation
    | escalated hrow howner _ _ _ hcase _ hcases =>
        rw [hcases]
        apply Table.forall_append_row hhomed.cases
        rw [hcase.conversationId, hcase.tenantId, ← howner.1, ← howner.2.2]
        exact hhomed.sessions _ (List.mem_map_of_mem hrow)
    | moved _ _ _ hcases =>
        rw [hcases]
        exact Table.forall_update hhomed.cases fun _ hrow => hrow
    | anonymized _ hcases =>
        rw [hcases]
        exact Table.forall_update hhomed.cases fun _ hrow => hrow
  · have hopens := hchange.origins
    rw [hhomes]
    generalize db'.origins = origins at hopens ⊢
    cases hopens with
    | kept => exact hhomed.sessions
    | opened _ hconversation =>
        obtain ⟨row, hrow, hid, htenant, _⟩ := hconversation
        exact Table.forall_append_row hhomed.sessions
          (WorkflowDatabase.mem_homes ⟨row, hrow, hid, htenant⟩)

end Homes

/-! ## The system -/

section Creation

variable [PythonText]

/-- A `create_or_get` that holds its lock, found no case under its key, and has or
has not looked for an open case yet. -/
structure Creation where
  identity : TelegramIdentity
  request : HandoffRequest
  now : Int
  looked : Bool
  deriving DecidableEq

/-- What `pg_advisory_xact_lock` locks. -/
def handoffLock (identity : TelegramIdentity) : TenantId × ConversationId :=
  (identity.tenantId, identity.conversationId)

/-- The rows, and the creations under way. -/
structure CaseDesk where
  state : WorkflowState
  creating : List Creation

/-- What happens next: a transaction as a whole, or one phase of a creation. -/
inductive CaseEvent
  | transact (transaction : Transaction)
  | lock (identity : TelegramIdentity) (request : HandoffRequest) (now : Int)
  | look (index : Nat)
  | insert (index : Nat) (env : Environment)

/-- The desk after an event. -/
def CaseDesk.next (cfg : WorkflowCatalogue) (desk : CaseDesk) : CaseEvent → CaseDesk
  | .transact transaction => { desk with state := desk.state.next cfg transaction }
  | .lock identity request now =>
      match desk.state.db.caseOfKey? identity.tenantId request.idempotencyKey with
      | some _ => desk
      | none => { desk with creating := desk.creating ++ [{ identity, request, now, looked := false }] }
  | .look index =>
      match desk.creating[index]? with
      | none => desk
      | some creation =>
          match desk.state.db.openCase? creation.identity.tenantId
            creation.identity.conversationId with
          | some _ => { desk with creating := desk.creating.eraseIdx index }
          | none => { desk with creating := desk.creating.set index { creation with looked := true } }
  | .insert index env =>
      match desk.creating[index]? with
      | none => desk
      | some creation =>
          { state :=
              { db := ((HandoffStore.create env creation.identity creation.request
                  creation.now).commit desk.state.db).2
                clock := env.now }
            creating := desk.creating.eraseIdx index }

def createsCase : WorkflowCall → Bool
  | .createOrGet _ _ _ => true
  | _ => false

/-- A lock waits until it is free, and a creation goes through its phases in order. -/
def CaseDesk.Allows (desk : CaseDesk) : CaseEvent → Prop
  | .transact transaction => createsCase transaction.call = false
  | .lock identity _ _ => handoffLock identity ∉ desk.creating.map (handoffLock ·.identity)
  | .look index => (desk.creating[index]?).any (!·.looked) = true
  | .insert index _ => (desk.creating[index]?).any (·.looked) = true

instance (desk : CaseDesk) : DecidablePred desk.Allows := fun event =>
  match event with
  | .transact transaction => inferInstanceAs (Decidable (createsCase transaction.call = false))
  | .lock identity _ _ =>
      inferInstanceAs (Decidable
        (handoffLock identity ∉ desk.creating.map (handoffLock ·.identity)))
  | .look index => inferInstanceAs (Decidable ((desk.creating[index]?).any (!·.looked) = true))
  | .insert index _ => inferInstanceAs (Decidable ((desk.creating[index]?).any (·.looked) = true))

/-- Transactions and creations in any order. -/
def caseSystem (cfg : WorkflowCatalogue) : System CaseDesk CaseEvent where
  init desk := desk.state.db.Fresh ∧ desk.creating = []
  step desk event desk' := desk.Allows event ∧ desk' = desk.next cfg event

/-- A creation that nothing interrupts is the transaction `create_or_get`. -/
theorem createOrGet_eq_phases (cfg : WorkflowCatalogue) (identity : TelegramIdentity)
    (request : HandoffRequest) (now : Int) (env : Environment) (state : WorkflowState) :
    ((((⟨state, []⟩ : CaseDesk).next cfg (.lock identity request now)).next cfg (.look 0)).next cfg
      (.insert 0 env)).state.db =
        (serve cfg (.createOrGet identity request now) env state).2.db := by
  have hrun : (HandoffStore.createOrGet env identity request now).run state.db =
      (match HandoffStore.existing? identity request.idempotencyKey state.db with
        | some row => pure row.toView
        | none => HandoffStore.create env identity request now).run state.db :=
    Tx.run_get_bind
  have hserve : (serve cfg (.createOrGet identity request now) env state).2.db =
      ((HandoffStore.createOrGet env identity request now).commit state.db).2 := rfl
  rw [hserve, Tx.commit, hrun]
  cases hkey : state.db.caseOfKey? identity.tenantId request.idempotencyKey with
  | some row =>
      simp [CaseDesk.next, HandoffStore.existing?, hkey]
      rfl
  | none =>
      cases hopen : state.db.openCase? identity.tenantId identity.conversationId with
      | some row =>
          simp [CaseDesk.next, HandoffStore.existing?, hkey, hopen]
          rfl
      | none => simp [CaseDesk.next, HandoffStore.existing?, hkey, hopen, Tx.commit]

/-- The conversation in which a call, other than a creation, opens a case. -/
def openedCase? (db : WorkflowDatabase) : WorkflowCall → Option ConversationId
  | .complete identity sessionId _ _ (some _) _ updateKey =>
      if db.KeyUnused identity.tenantId updateKey ∧ db.Reviewing identity sessionId then
        some identity.conversationId
      else none
  | .transition tenantId handoffId .reopen _ =>
      match db.handoffCases.find? fun row => row.tenantId = tenantId ∧ row.id = handoffId with
      | none => none
      | some row => if row.status = .resolved then some row.conversationId else none
  | _ => none

/-- A completion with a trigger and a reopening meet no open case of their
conversation, and no creation that has already looked for one. -/
def MeetsNoCase (desk : CaseDesk) : CaseEvent → Prop
  | .transact transaction =>
      ∀ id ∈ openedCase? desk.state.db transaction.call,
        NoneOpen desk.state.db.handoffCases id ∧
          ∀ creation ∈ desk.creating, creation.looked = true →
            creation.identity.conversationId ≠ id
  | _ => True

instance (desk : CaseDesk) : DecidablePred (MeetsNoCase desk) := fun event =>
  match event with
  | .transact transaction =>
      Option.decidableForallMem (openedCase? desk.state.db transaction.call)
  | .lock _ _ _ => .isTrue trivial
  | .look _ => .isTrue trivial
  | .insert _ _ => .isTrue trivial

/-! ## The invariant -/

variable {cfg : WorkflowCatalogue} {env : Environment} {db db' : WorkflowDatabase}
  {call : WorkflowCall}

omit [PythonText] in
/-- Anonymization leaves no case of the customer open. -/
theorem not_open_anonymizeCase (row : HandoffCaseRow) :
    ¬ (PrivacyStore.anonymizeCase row).Open := by
  unfold HandoffCaseRow.Open
  by_cases hopen : row.Open
  · have hstatus : (PrivacyStore.anonymizeCase row).status = .cancelled := if_pos hopen
    simp [hstatus]
  · have hstatus : (PrivacyStore.anonymizeCase row).status = row.status := if_neg hopen
    rw [hstatus]
    exact hopen

/-- A call that is no creation opens no case, or one where `openedCase?` says. -/
theorem DeskChange.opens (hids : (db.handoffCases.map (·.id)).Nodup)
    (hcall : createsCase call = false) (hchange : DeskChange env db db' call) :
    OpenAmong (openPlace db.handoffCases) db'.handoffCases ∨
      ∃ place, openedCase? db call = some place.conversationId ∧
        OpenAmong (fun other => other = place ∨ openPlace db.handoffCases other)
          db'.handoffCases := by
  cases hchange with
  | kept _ _ hcases =>
      rw [hcases]
      exact .inl fun row hrow hopen => ⟨row, hrow, hopen, rfl⟩
  | created => cases hcall
  | escalated hrow howner hreviewing hkey _ hcase _ hcases =>
      rw [hcases]
      refine .inr ⟨_, ?_, Table.forall_append_row ?_ fun _ => .inl rfl⟩
      · rw [openedCase?, if_pos ⟨hkey, _, hrow, howner, rfl, hreviewing⟩]
        exact congrArg some hcase.conversationId.symm
      · exact fun row hrow hopen => .inr ⟨row, hrow, hopen, rfl⟩
  | @moved row action actorId status assigneeId hrow _ hmoves hcases =>
      rw [hcases]
      have hmoved : ∀ {places : CasePlace → Prop},
          ((row.move status assigneeId).Open → places row.place) →
          (∀ place, openPlace db.handoffCases place → places place) →
          OpenAmong places (moveIn db.handoffCases row status assigneeId) := by
        intro places hplace hothers other hother hopen
        rcases (Table.mem_update_key hids hrow).mp hother with rfl | ⟨hother, _⟩
        · exact hplace hopen
        · exact hothers _ ⟨other, hother, hopen, rfl⟩
      cases action with
      | claim =>
          obtain ⟨hold, rfl⟩ := hmoves
          have hopen : row.Open := by
            rcases hold with hqueued | hreopened
            · exact .inl hqueued
            · exact .inr (.inr hreopened)
          exact .inl (hmoved (fun _ => ⟨row, hrow, hopen, rfl⟩) fun _ hplace => hplace)
      | resolve =>
          obtain ⟨_, rfl⟩ := hmoves
          refine .inl (hmoved ?_ fun _ hplace => hplace)
          intro hopen
          simp [HandoffCaseRow.Open, HandoffCaseRow.move] at hopen
      | reopen =>
          obtain ⟨hresolved, rfl⟩ := hmoves
          refine .inr ⟨row.place, ?_, hmoved (fun _ => .inl rfl) fun _ hplace => .inr hplace⟩
          have hfound : db.handoffCases.find? (fun other => other.tenantId = row.tenantId ∧
              other.id = row.id) = some row := by
            apply Table.find?_eq_some_of_unique hrow ⟨rfl, rfl⟩
            rintro other hother ⟨_, hid⟩
            exact Table.eq_of_key_eq hids hother hrow hid
          simp only [openedCase?, hfound, if_pos hresolved]
          rfl
      | returnToBot =>
          obtain ⟨_, rfl⟩ := hmoves
          refine .inl (hmoved ?_ fun _ hplace => hplace)
          intro hopen
          simp [HandoffCaseRow.Open, HandoffCaseRow.move] at hopen
  | anonymized _ hcases =>
      rw [hcases]
      refine .inl ?_
      intro row hrow hopen
      rcases Table.mem_update.mp hrow with ⟨old, _, _, rfl⟩ | ⟨hold, _⟩
      · exact absurd hopen (not_open_anonymizeCase old)
      · exact ⟨row, hold, hopen, rfl⟩

/-- Ids of cases are drawn fresh, so they stay unique. -/
theorem DeskChange.nodup_caseIds (hids : (db.handoffCases.map (·.id)).Nodup)
    (hchange : DeskChange env db db' call) : (db'.handoffCases.map (·.id)).Nodup := by
  cases hchange with
  | kept _ _ hcases => exact hcases ▸ hids
  | created _ _ _ hfresh hcases => exact hcases ▸ Table.nodup_append_row hids hfresh
  | escalated _ _ _ _ _ _ hfresh hcases => exact hcases ▸ Table.nodup_append_row hids hfresh
  | moved _ _ _ hcases => exact hcases ▸ Table.nodup_update hids fun _ => rfl
  | anonymized _ hcases => exact hcases ▸ Table.nodup_update hids fun _ => rfl

/-- One open case at most, and none where a creation has looked. -/
structure CaseDesk.Coherent (desk : CaseDesk) : Prop where
  homed : desk.state.db.Homed
  caseIds : (desk.state.db.handoffCases.map (·.id)).Nodup
  one : OneOpen desk.state.db.handoffCases
  locks : (desk.creating.map (handoffLock ·.identity)).Nodup
  clear : ∀ creation ∈ desk.creating, creation.looked = true →
    ∀ place, openPlace desk.state.db.handoffCases place →
      (place.tenantId, place.conversationId) ≠ handoffLock creation.identity

omit [PythonText] in
/-- What was open and, where no case was open before and no creation has looked, one
more case: the law is kept. -/
theorem CaseDesk.Coherent.open_one {desk : CaseDesk} (hdesk : desk.Coherent) (place : CasePlace)
    (hnone : NoneOpen desk.state.db.handoffCases place.conversationId)
    {state : WorkflowState} {creating : List Creation} (hhomed : state.db.Homed)
    (hids : (state.db.handoffCases.map (·.id)).Nodup)
    (hopens : OpenAmong (fun other => other = place ∨ openPlace desk.state.db.handoffCases other)
      state.db.handoffCases)
    (hsublist : creating.Sublist desk.creating)
    (hunlooked : ∀ creation ∈ creating, creation.looked = true →
      (place.tenantId, place.conversationId) ≠ handoffLock creation.identity) :
    (⟨state, creating⟩ : CaseDesk).Coherent where
  homed := hhomed
  caseIds := hids
  one := hdesk.one.add hnone hopens
  locks := hdesk.locks.sublist (hsublist.map _)
  clear := by
    rintro creation hcreation hlooked other ⟨row, hrow, hopen, rfl⟩
    rcases hopens row hrow hopen with hnew | hold
    · rw [hnew]
      exact hunlooked creation hcreation hlooked
    · exact hdesk.clear creation (hsublist.mem hcreation) hlooked _ hold

theorem CaseDesk.Coherent.transact {desk : CaseDesk} (hdesk : desk.Coherent)
    {transaction : Transaction} (hcall : createsCase transaction.call = false)
    (hmeets : MeetsNoCase desk (.transact transaction)) :
    (desk.next cfg (.transact transaction)).Coherent := by
  rcases @serve_cases _ cfg transaction.call transaction.env desk.state with
    ⟨error, _, hsame⟩ | ⟨reply, _, hrun⟩
  · have hdb : (desk.state.next cfg transaction).db = desk.state.db := hsame
    exact ⟨hdb ▸ hdesk.homed, hdb ▸ hdesk.caseIds, hdb ▸ hdesk.one, hdesk.locks,
      hdb ▸ hdesk.clear⟩
  · have hchange := desk_of_run hrun
    have hhomed : (desk.state.next cfg transaction).db.Homed := by
      rcases changes_of_run hrun with hsame | hchange
      · exact hsame ▸ hdesk.homed
      · exact hdesk.homed.change hchange
    have hids := hchange.nodup_caseIds hdesk.caseIds
    rcases hchange.opens hdesk.caseIds hcall with hamong | ⟨place, hplace, hamong⟩
    · refine ⟨hhomed, hids, hdesk.one.among hamong, hdesk.locks, ?_⟩
      rintro creation hcreation hlooked other ⟨row, hrow, hopen, rfl⟩
      exact hdesk.clear creation hcreation hlooked _ (hamong row hrow hopen)
    · obtain ⟨hnone, hunlooked⟩ := hmeets _ hplace
      apply hdesk.open_one place hnone hhomed hids hamong (List.Sublist.refl _)
      intro creation hcreation hlooked hsame
      exact hunlooked creation hcreation hlooked (congrArg Prod.snd hsame).symm

/-- A creation inserts its case where no other is open. -/
theorem CaseDesk.Coherent.insert {desk : CaseDesk} (hdesk : desk.Coherent) {index : Nat}
    {creation : Creation} (hcreation : desk.creating[index]? = some creation)
    (hlooked : creation.looked = true) (env : Environment) :
    (desk.next cfg (.insert index env)).Coherent := by
  have hmem : creation ∈ desk.creating := List.mem_of_getElem? hcreation
  have hsublist : (desk.creating.eraseIdx index).Sublist desk.creating := List.eraseIdx_sublist _ _
  simp only [CaseDesk.next, hcreation]
  cases hrun : (HandoffStore.create env creation.identity creation.request creation.now).run
      desk.state.db with
  | error error =>
      rw [Tx.commit_of_error hrun]
      refine ⟨hdesk.homed, hdesk.caseIds, hdesk.one, hdesk.locks.sublist (hsublist.map _), ?_⟩
      intro other hother
      exact hdesk.clear other (hsublist.mem hother)
  | ok pair =>
      obtain ⟨view, written⟩ := pair
      rw [Tx.commit_of_ok hrun]
      obtain ⟨hconversation, hfresh, hwritten⟩ := HandoffStore.create_ok hrun
      cases hwritten
      have hhome := WorkflowDatabase.mem_homes hconversation
      apply hdesk.open_one (HandoffStore.newCase env creation.identity creation.request).place
      · -- A case of the conversation is one of the tenant, and the creation saw none open.
        intro row hrow hid hopen
        have hrowHome := hdesk.homed.cases row hrow
        have hsame := Table.eq_of_key_eq hdesk.homed.unique hrowHome hhome hid
        exact hdesk.clear creation hmem hlooked row.place ⟨row, hrow, hopen, rfl⟩
          (Prod.ext (congrArg Prod.snd hsame) hid)
      · exact hdesk.homed.queueCase hhome _
      · exact Table.nodup_append_row hdesk.caseIds hfresh
      · exact Table.forall_append_row (fun row hrow hopen => .inr ⟨row, hrow, hopen, rfl⟩)
          fun _ => .inl rfl
      · exact hsublist
      · intro other hother _ hsame
        exact Table.key_ne_of_mem_eraseIdx hdesk.locks hcreation hother hsame.symm

/-- A creation that looks keeps its lock, and goes on when it saw no open case. -/
theorem CaseDesk.Coherent.look {desk : CaseDesk} (hdesk : desk.Coherent) {index : Nat}
    {creation : Creation} (hcreation : desk.creating[index]? = some creation) :
    (desk.next cfg (.look index)).Coherent := by
  simp only [CaseDesk.next, hcreation]
  cases hopen : desk.state.db.openCase? creation.identity.tenantId
      creation.identity.conversationId with
  | some row =>
      have hsublist : (desk.creating.eraseIdx index).Sublist desk.creating :=
        List.eraseIdx_sublist _ _
      refine ⟨hdesk.homed, hdesk.caseIds, hdesk.one, hdesk.locks.sublist (hsublist.map _), ?_⟩
      intro other hother
      exact hdesk.clear other (hsublist.mem hother)
  | none =>
      refine ⟨hdesk.homed, hdesk.caseIds, hdesk.one, ?_, ?_⟩
      · have hlocks : (desk.creating.set index { creation with looked := true }).map
            (handoffLock ·.identity) = desk.creating.map (handoffLock ·.identity) :=
          Table.map_set_of_key_eq hcreation rfl
        exact Eq.mpr (congrArg List.Nodup hlocks) hdesk.locks
      · rintro other hother hlooked place ⟨row, hrow, hrowOpen, rfl⟩
        rcases List.mem_or_eq_of_mem_set hother with hpending | hnew
        · exact hdesk.clear other hpending hlooked _ ⟨row, hrow, hrowOpen, rfl⟩
        · rw [hnew]
          intro hsame
          have hnone := List.find?_eq_none.mp hopen row hrow
          exact hnone (by
            simpa using ⟨congrArg Prod.fst hsame, congrArg Prod.snd hsame, hrowOpen⟩)

/-- Every event keeps the law when what opens a case without looking meets none. -/
theorem CaseDesk.Coherent.next {desk : CaseDesk} (hdesk : desk.Coherent) {event : CaseEvent}
    (hallows : desk.Allows event) (hmeets : MeetsNoCase desk event) :
    (desk.next cfg event).Coherent := by
  cases event with
  | transact transaction => exact hdesk.transact hallows hmeets
  | lock identity request now =>
      simp only [CaseDesk.next]
      cases desk.state.db.caseOfKey? identity.tenantId request.idempotencyKey with
      | some row => exact hdesk
      | none =>
          refine ⟨hdesk.homed, hdesk.caseIds, hdesk.one, ?_, ?_⟩
          · exact Table.nodup_append_row hdesk.locks fun other hother hsame =>
              hallows (hsame ▸ List.mem_map_of_mem hother)
          · intro creation hcreation hlooked
            rcases Table.mem_append_row.mp hcreation with hpending | rfl
            · exact hdesk.clear creation hpending hlooked
            · cases hlooked
  | look index =>
      cases hcreation : desk.creating[index]? with
      | none => simp [CaseDesk.Allows, hcreation] at hallows
      | some creation => exact hdesk.look hcreation
  | insert index env =>
      cases hcreation : desk.creating[index]? with
      | none => simp [CaseDesk.Allows, hcreation] at hallows
      | some creation =>
          have hlooked : creation.looked = true := by
            simpa [CaseDesk.Allows, hcreation] using hallows
          exact hdesk.insert hcreation hlooked env

theorem CaseDesk.coherent_of_reachable {desk : CaseDesk}
    (hdesk : ((caseSystem cfg).restrict MeetsNoCase).Reachable desk) : desk.Coherent := by
  apply hdesk.invariant
  · rintro start ⟨hfresh, hcreating⟩
    have hcases : start.state.db.handoffCases = [] := hfresh.2.2.2.2.1
    refine ⟨hfresh.homed, ?_, ?_, ?_, ?_⟩
    · rw [hcases]
      exact List.nodup_nil
    · intro first hfirst
      rw [hcases] at hfirst
      cases hfirst
    · rw [hcreating]
      exact List.nodup_nil
    · rw [hcreating]
      intro creation hcreation
      cases hcreation
  · rintro before event after _ hcoherent ⟨hmeets, hallows, rfl⟩
    exact hcoherent.next hallows hmeets

/-! ## The law -/

/-- Every conversation has at most one open case, in every run in which completions
with a trigger and reopenings meet none and no creation that has looked. -/
theorem one_open_case {desk : CaseDesk}
    (hdesk : ((caseSystem cfg).restrict MeetsNoCase).Reachable desk) (id : ConversationId) :
    desk.state.db.handoffCases.countP (fun row => row.conversationId = id ∧ row.Open) ≤ 1 := by
  have hcoherent := CaseDesk.coherent_of_reachable hdesk
  exact hcoherent.one.count_le hcoherent.caseIds id

end Creation

/-! ## In the small shop -/

section Shop

open Shop

def Shop.caseDesk : CaseDesk where
  state := welcomed
  creating := []

/-- The phases of a creation nothing interrupts. -/
def Shop.opensCase (key : String) (now : Int) (newId : Nat) : List CaseEvent :=
  [.lock (identity 0)
      { reasonCode := "explicit_request".toList
        priority := "normal".toList
        summary := "Customer asks for a person.".toList
        context := []
        leadId := none
        responseDueAt := now
        idempotencyKey := key.toList }
      now,
    .look 0,
    .insert 0 { now := now, serverNow := now, newId := BitVec.ofNat 128 newId }]

/-- A case is claimed and resolved. -/
def Shop.closesCase (case : Nat) (now : Int) : List CaseEvent :=
  [.transact (acts .claim case now), .transact (acts .resolve case now)]

/-- A case is reopened after the one that followed it was resolved. -/
def Shop.reopensAlone : List CaseEvent :=
  Shop.opensCase "first" 10 1 ++ Shop.closesCase 1 20 ++ Shop.opensCase "second" 30 2 ++
    Shop.closesCase 2 40 ++ [.transact (acts .reopen 1 50)]

/-- A case is reopened while the one that followed it waits. -/
def Shop.reopensBeside : List CaseEvent :=
  Shop.opensCase "first" 10 1 ++ Shop.closesCase 1 20 ++ Shop.opensCase "second" 30 2 ++
    [.transact (acts .reopen 1 40)]

theorem Shop.caseDesk_reachable {condition : CaseDesk → CaseEvent → Prop} {events : List CaseEvent}
    (hfollows : System.Follows (fun desk event => condition desk event ∧ desk.Allows event)
      (CaseDesk.next workflowCatalogue) Shop.caseDesk events) :
    ((caseSystem workflowCatalogue).restrict condition).Reachable
      (events.foldl (CaseDesk.next workflowCatalogue) Shop.caseDesk) := by
  have hinit : ((caseSystem workflowCatalogue).restrict condition).Reachable Shop.caseDesk :=
    .init ⟨welcomed_fresh, rfl⟩
  apply hinit.of_follows _ hfollows
  intro desk event hallowed
  exact ⟨hallowed.1, hallowed.2, rfl⟩

theorem one_open_case_in_shop :
    (Shop.reopensAlone.foldl (CaseDesk.next workflowCatalogue)
      Shop.caseDesk).state.db.handoffCases.countP
        (fun row => row.conversationId = conversationId 0 ∧ row.Open) ≤ 1 :=
  one_open_case (Shop.caseDesk_reachable (by decide +kernel)) (conversationId 0)

/-- Reopening beside a waiting case leaves the conversation with two open ones. -/
theorem two_open_cases :
    ∃ desk, (caseSystem workflowCatalogue).Reachable desk ∧ ∃ id,
      ¬ desk.state.db.handoffCases.countP
        (fun row => row.conversationId = id ∧ row.Open) ≤ 1 := by
  have hfollows : System.Follows (fun desk event => True ∧ CaseDesk.Allows desk event)
      (CaseDesk.next workflowCatalogue) Shop.caseDesk Shop.reopensBeside := by
    decide +kernel
  refine ⟨_, (Shop.caseDesk_reachable hfollows).of_restrict, conversationId 0, ?_⟩
  decide +kernel

end Shop

end BusinessAssistant.Persistence
