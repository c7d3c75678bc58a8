/-
# Asking for a person

`create_or_get` looks for a case under the request's key before it looks for one of
the conversation, and it looks for the key in the whole tenant. The keys are built
from numbers of messages and callbacks, which count within a chat. So a request
shows the requester's own case exactly as long as the key was not used before, or
was used in the same conversation and that has a case open.
-/

import BusinessAssistant.Persistence.HandoffDesk
import BusinessAssistant.Persistence.History
import BusinessAssistant.Persistence.WorkflowRuns

namespace BusinessAssistant.Persistence

open BusinessAssistant.Domain BusinessAssistant.Application BusinessAssistant.Foundation

/-! ## Whose conversation it is -/

namespace WorkflowDatabase

/-- The conversations with their owners. -/
def residents (db : WorkflowDatabase) : List (ConversationId × TenantId × CustomerId) :=
  db.conversations.map fun row => (row.id, row.tenantId, row.customerId)

/-- An identity as its resolution found or made it. -/
def Recognizes (db : WorkflowDatabase) (identity : TelegramIdentity) : Prop :=
  (identity.conversationId, identity.tenantId, identity.customerId) ∈ db.residents

instance (db : WorkflowDatabase) (identity : TelegramIdentity) : Decidable (db.Recognizes identity) :=
  inferInstanceAs (Decidable (_ ∈ _))

end WorkflowDatabase

/-- Whose case it is, and the key it is stored under. -/
structure CaseCard where
  conversationId : ConversationId
  tenantId : TenantId
  customerId : Option CustomerId
  key : Option Text
  deriving DecidableEq

def HandoffCaseRow.card (row : HandoffCaseRow) : CaseCard where
  conversationId := row.conversationId
  tenantId := row.tenantId
  customerId := row.customerId
  key := row.idempotencyKey

namespace WorkflowDatabase

def cards (db : WorkflowDatabase) : List CaseCard := db.handoffCases.map (·.card)

def eventIds (db : WorkflowDatabase) : List EventId := db.outboxEvents.map (·.eventId)

end WorkflowDatabase

section Cards

variable [PythonText] {cfg : WorkflowCatalogue} {env : Environment} {db db' : WorkflowDatabase}
  {call : WorkflowCall}

/-- What a committed call does to owners, cards and events. -/
inductive CardChange (db db' : WorkflowDatabase) : WorkflowCall → Prop
  | kept {call : WorkflowCall} (hcards : db'.cards = db.cards)
      (hevents : ∀ id ∈ db'.eventIds, id ∈ db.eventIds ∨
        ∃ tenantId sessionId, id = eventId tenantId (leadQualifiedKey sessionId)) :
      CardChange db db' call
  | escalated {identity : TelegramIdentity} {sessionId : QualificationSessionId}
      {lead : Lead Answer} {score : ScoreResult} {trigger : Option TriggerResult} {now : Int}
      {updateKey key : Text}
      (hunused : ∀ card ∈ db.cards, ¬ (card.tenantId = identity.tenantId ∧ card.key = some key))
      (hcards : db'.cards = db.cards ++
        [⟨identity.conversationId, identity.tenantId, some identity.customerId, some key⟩])
      (hevents : ∀ id ∈ db'.eventIds, id ∈ db.eventIds ∨
        (∃ tenantId sessionId, id = eventId tenantId (leadQualifiedKey sessionId)) ∨
          ∃ tenantId sessionId, id = eventId tenantId (handoffQualifiedKey sessionId)) :
      CardChange db db' (.complete identity sessionId lead score trigger now updateKey)
  | created {identity : TelegramIdentity} {request : HandoffRequest} {now : Int}
      (hunused : ∀ card ∈ db.cards,
        ¬ (card.tenantId = identity.tenantId ∧ card.key = some request.idempotencyKey))
      (hcards : db'.cards = db.cards ++ [⟨identity.conversationId, identity.tenantId,
        some identity.customerId, some request.idempotencyKey⟩])
      (hevents : ∀ id ∈ db'.eventIds, id ∈ db.eventIds ∨
        id = eventId identity.tenantId (handoffQueuedKey request.idempotencyKey)) :
      CardChange db db' (.createOrGet identity request now)

omit [PythonText] in
theorem eventIds_append {events : List OutboxEventRow} {event : OutboxEventRow}
    (hevents : db'.outboxEvents = events ++ [event]) :
    ∀ id ∈ db'.eventIds, id ∈ events.map (·.eventId) ∨ id = event.eventId := by
  intro id hid
  rw [WorkflowDatabase.eventIds, hevents, List.map_append, List.mem_append] at hid
  exact hid.imp_right List.mem_singleton.mp

/-- The completion of a session writes a lead and its event, and where a trigger was met a case
and its event. -/
theorem CardChange.complete {identity : TelegramIdentity} {row : QualificationSessionRow}
    {schema : QualificationSchema} {lead : Lead Answer} {score : ScoreResult}
    {trigger : Option TriggerResult} {now : Int} {updateKey : Text} {existing : Option LeadRow}
    {replacement : LeadRow} {leadId : LeadId} {payload : EventPayload}
    {update : QualificationSessionUpdateRow}
    (hafter : Escalated env identity schema row.id leadId now
      ((db.writeLead existing replacement).writeCompletion row leadId
        (outboxEvent identity.tenantId "lead" leadId "lead.qualified" (leadQualifiedKey row.id)
          payload now)
        update)
      trigger db') :
    CardChange db db' (.complete identity row.id lead score trigger now updateKey) := by
  have hcases : (db.writeLead existing replacement).handoffCases = db.handoffCases := by
    cases existing <;> rfl
  have hevents : (db.writeLead existing replacement).outboxEvents = db.outboxEvents := by
    cases existing <;> rfl
  cases trigger with
  | none =>
      cases hafter
      refine .kept (congrArg (List.map _) hcases) ?_
      intro id hid
      rcases eventIds_append rfl id hid with hold | hnew
      · have hbefore : id ∈ (db.writeLead existing replacement).outboxEvents.map (·.eventId) := hold
        rw [hevents] at hbefore
        exact .inl hbefore
      · exact .inr ⟨identity.tenantId, row.id, hnew⟩
  | some result =>
      obtain ⟨schedule, due, _, _, hkey, rfl⟩ := hafter
      refine @CardChange.escalated _ db _ identity row.id _ _ _ _ _
        (triggerKey row.id result.reasonCode) ?hunused ?hcards ?hevents
      case hunused =>
        intro card hcard
        obtain ⟨case, hcase, rfl⟩ := List.mem_map.mp hcard
        apply hkey
        show case ∈ (db.writeLead existing replacement).handoffCases
        rw [hcases]
        exact hcase
      case hcards =>
        show List.map _ ((db.writeLead existing replacement).handoffCases ++ [_]) = _
        rw [hcases, List.map_append]
        rfl
      case hevents =>
        intro id hid
        rcases eventIds_append rfl id hid with hearlier | hnew
        · obtain ⟨event, hevent, rfl⟩ := List.mem_map.mp hearlier
          rcases Table.mem_append_row.mp hevent with hold | hmine
          · have hbefore : event ∈ (db.writeLead existing replacement).outboxEvents := hold
            rw [hevents] at hbefore
            exact .inl (List.mem_map_of_mem hbefore)
          · rw [hmine]
            exact .inr (.inl ⟨identity.tenantId, row.id, rfl⟩)
        · exact .inr (.inr ⟨identity.tenantId, row.id, hnew⟩)

/-- Every change writes cards and events in one of these ways. -/
theorem WorkflowChange.cards (hchange : WorkflowChange env db call db') :
    CardChange db db' call := by
  have hsame (hcases : db'.handoffCases = db.handoffCases)
      (hevents : db'.outboxEvents = db.outboxEvents) : CardChange db db' call := by
    refine .kept (congrArg (List.map _) hcases) ?_
    intro id hid
    rw [WorkflowDatabase.eventIds, hevents] at hid
    exact .inl hid
  cases hchange with
  | expireSession => exact hsame rfl rfl
  | start hbase => cases hbase <;> exact hsame rfl rfl
  | @decideConsent _ _ _ decision => cases decision <;> exact hsame rfl rfl
  | recordAnswer => exact hsame rfl rfl
  | edit => exact hsame rfl rfl
  | showReview => exact hsame rfl rfl
  | complete _ _ _ _ _ _ _ _ _ _ hafter => exact .complete hafter
  | cancel => exact hsame rfl rfl
  | addSchema => exact hsame rfl rfl
  | publishSchema => exact hsame rfl rfl
  | @createCase identity request now hnone _ _ =>
      refine .created ?_ ?_ ?_
      · intro card hcard hused
        obtain ⟨case, hcase, rfl⟩ := List.mem_map.mp hcard
        have hkeyed := (Option.or_eq_none_iff.mp hnone).1
        exact List.find?_eq_none.mp hkeyed case hcase (decide_eq_true hused)
      · show List.map _ (db.handoffCases ++ [_]) = _
        rw [List.map_append]
        rfl
      · intro id hid
        have happended : (db.queueCase (HandoffStore.newCase env identity request)
            (outboxEvent identity.tenantId "handoff" env.newId "handoff.queued"
              (handoffQueuedKey request.idempotencyKey)
              (.handoff env.newId request.reasonCode request.priority) now)).outboxEvents =
            db.outboxEvents ++ [_] := rfl
        exact eventIds_append happended id hid
  | @transition row moved action =>
      have hcards : (db.moveTo row moved action).cards = db.cards := by
        rw [WorkflowDatabase.cards, WorkflowDatabase.handoffCases_moveTo]
        exact Table.map_update _ fun _ => rfl
      refine .kept hcards ?_
      intro id hid
      cases action <;> exact .inl hid
  | @anonymize tenantId customerId key actions =>
      refine .kept (Table.map_update _ fun _ => rfl) ?_
      intro id hid
      exact .inl hid

/-! ## What holds in every run -/

/-- Cases belong to the owner of their conversation, no key is stored twice in a
tenant, and an event for a key has its case. -/
structure WorkflowDatabase.Carded (db : WorkflowDatabase) : Prop where
  unique : (db.residents.map Prod.fst).Nodup
  owners : ∀ card ∈ db.cards, ∃ customerId, card.customerId = some customerId ∧
    (card.conversationId, card.tenantId, customerId) ∈ db.residents
  keyed : (db.cards.map fun card => (card.tenantId, card.key)).Nodup
  announced : ∀ id ∈ db.eventIds, ∀ tenantId key,
    id = eventId tenantId (handoffQueuedKey key) →
      ∃ card ∈ db.cards, card.tenantId = tenantId ∧ card.key = some key

/-- The identity of a call that may open a case. -/
def openerOf? : WorkflowCall → Option TelegramIdentity
  | .createOrGet identity _ _ => some identity
  | .complete identity _ _ _ _ _ _ => some identity
  | _ => none

/-- Who asks for a case was resolved before. -/
def OpenerKnown (s : WorkflowState) (transaction : Transaction) : Prop :=
  ∀ identity ∈ openerOf? transaction.call, s.db.Recognizes identity

omit [PythonText] in
theorem handoffQueuedKey_inj {first second : Text} :
    handoffQueuedKey first = handoffQueuedKey second → first = second :=
  List.append_cancel_left

omit [PythonText] in
/-- The key of a request's event is no key of a completion's events. -/
theorem handoffQueuedKey_ne (key : Text) (sessionId : QualificationSessionId) :
    handoffQueuedKey key ≠ leadQualifiedKey sessionId ∧
      handoffQueuedKey key ≠ handoffQualifiedKey sessionId := by
  constructor
  · intro hsame
    have hfirst : some 'h' = some 'l' := congrArg (fun text : Text => text[0]?) hsame
    cases hfirst
  · intro hsame
    have hcolon : some ':' = some '-' := congrArg (fun text : Text => text[7]?) hsame
    cases hcolon

omit [PythonText] in
theorem WorkflowDatabase.Carded.append (hcarded : db.Carded) (hresidents : db'.residents = db.residents)
    {card : CaseCard}
    (howner : ∃ customerId, card.customerId = some customerId ∧
      (card.conversationId, card.tenantId, customerId) ∈ db.residents)
    (hunused : ∀ other ∈ db.cards, ¬ (other.tenantId = card.tenantId ∧ other.key = card.key))
    (hcards : db'.cards = db.cards ++ [card])
    (hevents : ∀ id ∈ db'.eventIds, ∀ tenantId key, id = eventId tenantId (handoffQueuedKey key) →
      id ∈ db.eventIds ∨ card.tenantId = tenantId ∧ card.key = some key) : db'.Carded where
  unique := hresidents ▸ hcarded.unique
  owners := by
    rw [hcards, hresidents]
    exact Table.forall_append_row hcarded.owners howner
  keyed := by
    rw [hcards]
    refine Table.nodup_append_row hcarded.keyed ?_
    intro other hother hsame
    exact hunused other hother (Prod.mk.injEq .. ▸ hsame)
  announced := by
    intro id hid tenantId key hkey
    rw [hcards]
    rcases hevents id hid tenantId key hkey with hold | hmine
    · obtain ⟨other, hother, hstored⟩ := hcarded.announced id hold tenantId key hkey
      exact ⟨other, List.mem_append_left _ hother, hstored⟩
    · exact ⟨card, List.mem_append_right _ (List.mem_singleton_self _), hmine⟩

theorem WorkflowDatabase.Carded.change (hcarded : db.Carded)
    (hopener : ∀ identity ∈ openerOf? call, db.Recognizes identity)
    (hchange : WorkflowChange env db call db') : db'.Carded := by
  have hresidents : db'.residents = db.residents := hchange.conversations_map fun _ _ _ => rfl
  cases hchange.cards with
  | kept hcards hevents =>
      refine ⟨hresidents ▸ hcarded.unique, hcards ▸ hresidents ▸ hcarded.owners,
        hcards ▸ hcarded.keyed, ?_⟩
      intro id hid tenantId key hkey
      rw [hcards]
      rcases hevents id hid with hold | ⟨other, sessionId, hlead⟩
      · exact hcarded.announced id hold tenantId key hkey
      · exact absurd (eventId_injective (hkey.symm.trans hlead)).2 (handoffQueuedKey_ne key sessionId).1
  | @escalated identity _ _ _ _ _ _ key hunused hcards hevents =>
      refine hcarded.append hresidents ?_ hunused hcards ?_
      · exact ⟨identity.customerId, rfl, hopener identity rfl⟩
      intro id hid tenantId key hkey
      rcases hevents id hid with hold | ⟨other, sessionId, hlead⟩ | ⟨other, sessionId, hhandoff⟩
      · exact .inl hold
      · exact absurd (eventId_injective (hkey.symm.trans hlead)).2 (handoffQueuedKey_ne key sessionId).1
      · exact absurd (eventId_injective (hkey.symm.trans hhandoff)).2
          (handoffQueuedKey_ne key sessionId).2
  | @created identity request now hunused hcards hevents =>
      refine hcarded.append hresidents ?_ hunused hcards ?_
      · exact ⟨identity.customerId, rfl, hopener identity rfl⟩
      intro id hid tenantId key hkey
      rcases hevents id hid with hold | hmine
      · exact .inl hold
      · obtain ⟨htenant, hsame⟩ := eventId_injective (hmine.symm.trans hkey)
        exact .inr ⟨htenant, congrArg some (handoffQueuedKey_inj hsame)⟩

theorem carded_of_reachable {s : WorkflowState}
    (hs : ((transactionSystem cfg).restrict OpenerKnown).Reachable s) : s.db.Carded := by
  apply hs.invariant (I := fun s => s.db.Carded)
  · intro s hfresh
    obtain ⟨_, _, _, _, hcases, houtbox, hconversations, _⟩ := hfresh
    have hcards : s.db.cards = [] := congrArg (List.map _) hcases
    refine ⟨?_, ?_, ?_, ?_⟩
    · rw [WorkflowDatabase.residents, List.map_map]
      exact hconversations
    · rw [hcards]
      exact fun _ h => absurd h List.not_mem_nil
    · rw [hcards]
      exact List.nodup_nil
    · rw [WorkflowDatabase.eventIds, houtbox]
      exact fun _ h => absurd h List.not_mem_nil
  · rintro s transaction s' _ hcarded ⟨hopener, rfl⟩
    rcases changes_of_serve transaction.call transaction.env s with hsame | hchange
    · rw [hsame]
      exact hcarded
    · exact hcarded.change hopener hchange

/-! ## One request -/

/-- The view of a case of an identity. -/
def ShowsOwn (identity : TelegramIdentity) (view : HandoffView) : Prop :=
  view.tenantId = identity.tenantId ∧ view.conversationId = identity.conversationId ∧
    view.customerId = some identity.customerId

/-- An open case of an identity's conversation. -/
def OpenFor (identity : TelegramIdentity) (row : HandoffCaseRow) : Prop :=
  row.tenantId = identity.tenantId ∧ row.conversationId = identity.conversationId ∧ row.Open

omit [PythonText] in
instance (identity : TelegramIdentity) : DecidablePred (OpenFor identity) := fun _ =>
  inferInstanceAs (Decidable (_ ∧ _))

/-- The conversation has exactly one open case; it is queued and announced. -/
def QueuedOnce (identity : TelegramIdentity) (db : WorkflowDatabase) : Prop :=
  ∃ case, db.handoffCases.filter (OpenFor identity) = [case] ∧ case.status = .queued ∧
    ∃ event ∈ db.outboxEvents, event.tenantId = identity.tenantId ∧
      event.eventType = "handoff.queued" ∧ event.aggregateId = case.id

/-- A request returns a case of the requester, and opens one where none was open. -/
def ShowsOwnCase (identity : TelegramIdentity) (before : WorkflowDatabase)
    (answer : Except Failure HandoffView × WorkflowState) : Prop :=
  ∃ view, answer.1 = .ok view ∧ ShowsOwn identity view ∧
    ((∀ row ∈ before.handoffCases, ¬ OpenFor identity row) → QueuedOnce identity answer.2.db)

/-- The tenant has no case under the key, or it is of the conversation, and that has
an open one. -/
def KeyIsOwn (identity : TelegramIdentity) (key : Text) (db : WorkflowDatabase) : Prop :=
  ∀ case ∈ db.handoffCases, case.tenantId = identity.tenantId → case.idempotencyKey = some key →
    case.conversationId = identity.conversationId ∧ ∃ row ∈ db.handoffCases, OpenFor identity row

omit [PythonText] in
instance (identity : TelegramIdentity) (key : Text) (db : WorkflowDatabase) :
    Decidable (KeyIsOwn identity key db) :=
  inferInstanceAs (Decidable (∀ _ ∈ _, _))

section Request

variable {identity : TelegramIdentity} {request : HandoffRequest} {now : Int} {s : WorkflowState}

omit [PythonText] in
/-- A case of the conversation is a case of its customer. -/
theorem WorkflowDatabase.Carded.shows_own (hcarded : db.Carded) (hidentity : db.Recognizes identity)
    {row : HandoffCaseRow} (hrow : row ∈ db.handoffCases)
    (htenant : row.tenantId = identity.tenantId) :
    ShowsOwn identity row.toView ↔ row.conversationId = identity.conversationId := by
  constructor
  · intro hown
    exact hown.2.1
  · intro hconversation
    obtain ⟨customerId, hcustomer, hresident⟩ := hcarded.owners _ (List.mem_map_of_mem hrow)
    have hsame : (row.conversationId, row.tenantId, customerId) =
        (identity.conversationId, identity.tenantId, identity.customerId) :=
      Table.eq_of_key_eq hcarded.unique hresident hidentity hconversation
    have howner : customerId = identity.customerId := congrArg (fun resident => resident.2.2) hsame
    exact ⟨htenant, hconversation, hcustomer.trans (congrArg some howner)⟩

omit [PythonText] in
/-- The case under a key of a tenant is the only one. -/
theorem WorkflowDatabase.Carded.keyed_eq (hcarded : db.Carded) {first second : HandoffCaseRow}
    (hfirst : first ∈ db.handoffCases) (hsecond : second ∈ db.handoffCases)
    (htenant : first.tenantId = second.tenantId)
    (hkey : first.idempotencyKey = second.idempotencyKey) : first = second := by
  have hkeyed := hcarded.keyed
  rw [WorkflowDatabase.cards, List.map_map] at hkeyed
  exact Table.eq_of_key_eq hkeyed hfirst hsecond (Prod.ext htenant hkey)

/-- A request that finds a case shows it and changes nothing. -/
theorem serve_createOrGet_found {row : HandoffCaseRow}
    (hfound : HandoffStore.existing? identity request.idempotencyKey s.db = some row) :
    (serve cfg (.createOrGet identity request now) env s).1 = .ok row.toView ∧
      (serve cfg (.createOrGet identity request now) env s).2.db = s.db := by
  have hrun : (HandoffStore.createOrGet env identity request now).run s.db =
      .ok (row.toView, s.db) := by
    rw [HandoffStore.createOrGet, Tx.run_get_bind, hfound]
    rfl
  have hcommit : (transactionOf cfg env (.createOrGet identity request now)).commit s.db =
      (.ok row.toView, s.db) := Tx.commit_of_ok hrun
  exact ⟨congrArg Prod.fst hcommit, congrArg Prod.snd hcommit⟩

/-- Such a request shows the requester's own case when it is one and a case of the
conversation is open. -/
theorem showsOwnCase_found {row : HandoffCaseRow}
    (hfound : HandoffStore.existing? identity request.idempotencyKey s.db = some row) :
    ShowsOwnCase identity s.db (serve cfg (.createOrGet identity request now) env s) ↔
      ShowsOwn identity row.toView ∧ ∃ other ∈ s.db.handoffCases, OpenFor identity other := by
  obtain ⟨hreply, hafter⟩ := @serve_createOrGet_found _ cfg env identity request now s row hfound
  constructor
  · intro ⟨view, hview, hown, hopens⟩
    cases Except.ok.inj (hreply.symm.trans hview)
    refine ⟨hown, ?_⟩
    by_contra hnone
    push Not at hnone
    obtain ⟨case, hopen, _⟩ := hopens hnone
    rw [hafter] at hopen
    have hmem : case ∈ s.db.handoffCases.filter (OpenFor identity) :=
      hopen ▸ List.mem_singleton_self case
    obtain ⟨hcase, hmine⟩ := List.mem_filter.mp hmem
    exact hnone case hcase (of_decide_eq_true hmine)
  · intro ⟨hown, other, hother, hopen⟩
    exact ⟨row.toView, hreply, hown, fun hnone => absurd hopen (hnone other hother)⟩

/-- What a request that opens a case leaves. -/
def opensCase (env : Environment) (identity : TelegramIdentity) (request : HandoffRequest)
    (now : Int) (db : WorkflowDatabase) : WorkflowDatabase :=
  db.queueCase (HandoffStore.newCase env identity request)
    (outboxEvent identity.tenantId "handoff" env.newId "handoff.queued"
      (handoffQueuedKey request.idempotencyKey)
      (.handoff env.newId request.reasonCode request.priority) now)

/-- A request that finds no case opens one, when its id was not drawn before. -/
theorem serve_createOrGet_none (hcarded : s.db.Carded) (hidentity : s.db.Recognizes identity)
    (hnone : HandoffStore.existing? identity request.idempotencyKey s.db = none)
    (hfresh : ∀ row ∈ s.db.handoffCases, row.id ≠ env.newId) :
    (serve cfg (.createOrGet identity request now) env s).1 =
        .ok (HandoffStore.newCase env identity request).toView ∧
      (serve cfg (.createOrGet identity request now) env s).2.db =
        opensCase env identity request now s.db := by
  have hunused : ∀ row ∈ s.db.handoffCases,
      ¬ (row.tenantId = identity.tenantId ∧ row.idempotencyKey = some request.idempotencyKey) := by
    intro row hrow hused
    exact List.find?_eq_none.mp (Option.or_eq_none_iff.mp hnone).1 row hrow (decide_eq_true hused)
  obtain ⟨conversation, hconversation, howner⟩ := List.mem_map.mp hidentity
  have hids : (s.db.conversations.map (·.id)).Nodup := by
    have hunique := hcarded.unique
    rw [WorkflowDatabase.residents, List.map_map] at hunique
    exact hunique
  have hfound : s.db.conversation? identity.conversationId = some conversation := by
    apply Table.find?_eq_some_of_unique hconversation (congrArg Prod.fst howner)
    intro other hother hid
    exact Table.eq_of_key_eq hids hother hconversation (hid.trans (congrArg Prod.fst howner).symm)
  have hevent : ∀ other ∈ s.db.outboxEvents,
      other.eventId ≠ eventId identity.tenantId (handoffQueuedKey request.idempotencyKey) := by
    intro other hother hsame
    obtain ⟨card, hcard, htenant, hkey⟩ :=
      hcarded.announced _ (List.mem_map_of_mem hother) _ _ hsame
    obtain ⟨row, hrow, rfl⟩ := List.mem_map.mp hcard
    exact hunused row hrow ⟨htenant, hkey⟩
  have hrun : (HandoffStore.createOrGet env identity request now).run s.db =
      .ok ((HandoffStore.newCase env identity request).toView,
        opensCase env identity request now s.db) := by
    rw [HandoffStore.createOrGet, Tx.run_get_bind, hnone]
    simp only [HandoffStore.create, Tx.run_get_bind_eq_ok, Tx.run_fetch_bind_eq_ok,
      Tx.run_require_bind_eq_ok, Tx.run_modify_bind_eq_ok, Tx.run_pure_eq_ok]
    exact ⟨conversation, hfound, congrArg (fun resident => resident.2.1) howner, hfresh, hunused,
      hevent, rfl⟩
  have hcommit : (transactionOf cfg env (.createOrGet identity request now)).commit s.db =
      (.ok (HandoffStore.newCase env identity request).toView,
        opensCase env identity request now s.db) := Tx.commit_of_ok hrun
  exact ⟨congrArg Prod.fst hcommit, congrArg Prod.snd hcommit⟩

omit [PythonText] in
/-- The case such a request opens is the only open one, and it is announced. -/
theorem queuedOnce_opensCase (hnone : ∀ row ∈ db.handoffCases, ¬ OpenFor identity row) :
    QueuedOnce identity (opensCase env identity request now db) := by
  have hopen : OpenFor identity (HandoffStore.newCase env identity request) := ⟨rfl, rfl, .inl rfl⟩
  refine ⟨HandoffStore.newCase env identity request, ?_, rfl, _,
    List.mem_append_right _ (List.mem_singleton_self _), rfl, rfl, rfl⟩
  show (db.handoffCases ++ [HandoffStore.newCase env identity request]).filter _ = [_]
  rw [List.filter_append, List.filter_eq_nil_iff.mpr, List.nil_append, List.filter_singleton,
    decide_eq_true hopen]
  · rfl
  · intro row hrow
    simpa using hnone row hrow

/-- A request shows the requester's own case, and opens one where none was open,
exactly if its key is unused in the tenant or stands for a case of the conversation
that has an open one. -/
theorem handoff_request_shows_own (hs : ((transactionSystem cfg).restrict OpenerKnown).Reachable s)
    (hidentity : s.db.Recognizes identity) (hfresh : ∀ row ∈ s.db.handoffCases, row.id ≠ env.newId) :
    ShowsOwnCase identity s.db (serve cfg (.createOrGet identity request now) env s) ↔
      KeyIsOwn identity request.idempotencyKey s.db := by
  have hcarded := carded_of_reachable hs
  cases hkeyed : s.db.caseOfKey? identity.tenantId request.idempotencyKey with
  | some row =>
      obtain ⟨hrow, htenant, hkey⟩ := Table.of_find? hkeyed
      have hfound : HandoffStore.existing? identity request.idempotencyKey s.db = some row := by
        rw [HandoffStore.existing?, hkeyed, Option.some_or]
      rw [showsOwnCase_found hfound, hcarded.shows_own hidentity hrow htenant]
      constructor
      · intro hown case hcase hcaseTenant hcaseKey
        rw [hcarded.keyed_eq hcase hrow (hcaseTenant.trans htenant.symm) (hcaseKey.trans hkey.symm)]
        exact hown
      · intro hown
        exact hown row hrow htenant hkey
  | none =>
      have hunused : KeyIsOwn identity request.idempotencyKey s.db := by
        intro case hcase htenant hkey
        exact absurd (decide_eq_true ⟨htenant, hkey⟩) (List.find?_eq_none.mp hkeyed case hcase)
      refine iff_of_true ?_ hunused
      cases hopen : s.db.openCase? identity.tenantId identity.conversationId with
      | some row =>
          obtain ⟨hrow, hmine⟩ := Table.of_find? hopen
          have hfound : HandoffStore.existing? identity request.idempotencyKey s.db = some row := by
            rw [HandoffStore.existing?, hkeyed, Option.none_or, hopen]
          rw [showsOwnCase_found hfound, hcarded.shows_own hidentity hrow hmine.1]
          exact ⟨hmine.2.1, row, hrow, hmine⟩
      | none =>
          have hnone : HandoffStore.existing? identity request.idempotencyKey s.db = none := by
            rw [HandoffStore.existing?, hkeyed, Option.none_or, hopen]
          obtain ⟨hreply, hafter⟩ :=
            @serve_createOrGet_none _ cfg env identity request now s hcarded hidentity hnone hfresh
          refine ⟨_, hreply, ⟨rfl, rfl, rfl⟩, ?_⟩
          intro hclosed
          rw [hafter]
          exact queuedOnce_opensCase hclosed

end Request

end Cards

/-! ## In the shop -/

section Shop

open Shop

namespace Shop

/-- Customers send the message with a number, each in the own chat. -/
def helpRequest : HandoffRequest where
  reasonCode := "explicit_manager_request".toList
  priority := "normal".toList
  summary := "Customer explicitly requested human assistance.".toList
  context := []
  leadId := none
  responseDueAt := 100
  idempotencyKey := "telegram-human:7".toList

/-- A customer asks for help with message 7. -/
def asksBySeven (customer : Nat) (now : Int) (newId : Nat) : Transaction :=
  calls (.createOrGet (identity customer) helpRequest now) now newId

theorem welcomed_reachable :
    ((transactionSystem workflowCatalogue).restrict OpenerKnown).Reachable welcomed :=
  .init welcomed_fresh

/-- After the first customer has asked. -/
def helped : WorkflowState := welcomed.next workflowCatalogue (asksBySeven 0 10 1)

theorem helped_reachable :
    ((transactionSystem workflowCatalogue).restrict OpenerKnown).Reachable helped := by
  apply System.Reachable.step welcomed_reachable
  refine ⟨?_, rfl⟩
  intro identity hidentity
  cases hidentity
  decide +kernel

end Shop

/-- The first customer asks again with the case still open, and is shown it. -/
theorem handoff_request_shows_own_again :
    helped.db.handoffCases.length = 1 ∧
      KeyIsOwn (identity 0) helpRequest.idempotencyKey helped.db ∧
      ShowsOwnCase (identity 0) helped.db
        (serve workflowCatalogue (.createOrGet (identity 0) helpRequest 20)
          { now := 20, serverNow := 20, newId := 2#128 } helped) := by
  have hown : KeyIsOwn (identity 0) helpRequest.idempotencyKey helped.db := by decide +kernel
  have hfresh : ∀ row ∈ helped.db.handoffCases, row.id ≠ 2#128 := by decide +kernel
  exact ⟨by decide +kernel, hown,
    (handoff_request_shows_own helped_reachable (by decide +kernel) hfresh).mpr hown⟩

/-- The second customer, whose chat has a message with the same number, is shown the
case of the first, and none of the own is opened. -/
theorem second_customer_shown_first :
    ((transactionSystem workflowCatalogue).restrict OpenerKnown).Reachable helped ∧
      helped.db.Recognizes (identity 1) ∧
      ¬ ShowsOwnCase (identity 1) helped.db
        (serve workflowCatalogue (.createOrGet (identity 1) helpRequest 20)
          { now := 20, serverNow := 20, newId := 2#128 } helped) := by
  refine ⟨helped_reachable, by decide +kernel, ?_⟩
  have hshown : ∃ view, (serve workflowCatalogue (.createOrGet (identity 1) helpRequest 20)
      { now := 20, serverNow := 20, newId := 2#128 } helped).1 = .ok view ∧
        view.customerId = some (customerId 0) := by
    have hfound : HandoffStore.existing? (identity 1) helpRequest.idempotencyKey helped.db =
        some (HandoffStore.newCase { now := 10, serverNow := 10, newId := 1#128 } (identity 0)
          helpRequest) := by
      decide +kernel
    exact ⟨_, (serve_createOrGet_found hfound).1, rfl⟩
  intro ⟨view, hview, hown, _⟩
  obtain ⟨other, hother, hcustomer⟩ := hshown
  cases Except.ok.inj (hview.symm.trans hother)
  exact absurd (hcustomer.symm.trans hown.2.2) (by decide +kernel)

end Shop

end BusinessAssistant.Persistence
