/-
# The life of a qualification session

What a committed call does to the sessions: one row at a time is moved on, or a new
one is opened. `SessionStep` is the state machine of one row, with the guards the
store checks; what a row is opened with is its origin, and never changes.
-/

import BusinessAssistant.Persistence.WorkflowChanges

namespace BusinessAssistant.Persistence

open BusinessAssistant.Domain BusinessAssistant.Application BusinessAssistant.Foundation

/-! ## Origins -/

/-- What a session is opened with. -/
structure SessionOrigin where
  id : QualificationSessionId
  tenantId : TenantId
  customerId : CustomerId
  conversationId : ConversationId
  schemaId : QualificationSchemaId
  schemaCode : Text
  schemaVersion : Int
  expiresAt : Int
  deriving DecidableEq

def QualificationSessionRow.origin (row : QualificationSessionRow) : SessionOrigin where
  id := row.id
  tenantId := row.tenantId
  customerId := row.customerId
  conversationId := row.conversationId
  schemaId := row.schemaId
  schemaCode := row.schemaCode
  schemaVersion := row.schemaVersion
  expiresAt := row.expiresAt

/-- What is shown of a session, with its answers typed. -/
def QualificationSessionRow.toSession (row : QualificationSessionRow)
    (answers : List (Text × Answer)) : QualificationSession where
  id := row.id
  tenantId := row.tenantId
  customerId := row.customerId
  conversationId := row.conversationId
  schemaId := row.schemaId
  schemaCode := row.schemaCode
  schemaVersion := row.schemaVersion
  status := row.status
  answers := answers
  currentFieldKey := row.currentFieldKey
  expiresAt := row.expiresAt
  consentDecision := row.consentDecision
  consentAt := row.consentAt
  leadId := row.leadId

theorem sessionOf_ok [PythonText] {row : QualificationSessionRow} {schema : QualificationSchema}
    {session : QualificationSession} (hread : sessionOf row schema = .ok session) :
    ∃ answers, typedAnswers schema row.answers = .ok answers ∧ session = row.toSession answers := by
  simp only [sessionOf, except_bind_eq_ok, except_pure_eq_ok] at hread
  obtain ⟨answers, htyped, rfl⟩ := hread
  exact ⟨answers, htyped, rfl⟩

namespace WorkflowDatabase

variable (db : WorkflowDatabase)

def origins : List SessionOrigin := db.qualificationSessions.map (·.origin)

theorem origins_updateSession (id : QualificationSessionId)
    {change : QualificationSessionRow → QualificationSessionRow}
    (hkeep : ∀ row, (change row).origin = row.origin) :
    (db.updateSession id change).origins = db.origins :=
  Table.map_update QualificationSessionRow.origin hkeep

theorem nodup_rowIds {db : WorkflowDatabase} (hids : (db.origins.map (·.id)).Nodup) :
    (db.qualificationSessions.map (·.id)).Nodup := by
  rw [origins, List.map_map] at hids
  exact hids

@[simp]
theorem qualificationSessions_writeConsent (row : QualificationSessionRow)
    (decision : ConsentDecision) (now : Int) (firstRequired : Option Text)
    (consent : QualificationConsentRow) (update : QualificationSessionUpdateRow) :
    (db.writeConsent row decision now firstRequired consent update).qualificationSessions =
      (db.updateSession row.id
        (QualificationSessionRow.decide decision now firstRequired)).qualificationSessions := by
  cases decision <;> rfl

@[simp]
theorem qualificationSessions_writeCompletion (existing : Option LeadRow) (replacement : LeadRow)
    (row : QualificationSessionRow) (leadId : LeadId) (event : OutboxEventRow)
    (update : QualificationSessionUpdateRow) :
    ((db.writeLead existing replacement).writeCompletion row leadId event
      update).qualificationSessions =
      (db.updateSession row.id (QualificationSessionRow.complete leadId)).qualificationSessions := by
  cases existing <;> rfl

@[simp]
theorem qualificationSessions_moveTo (row : HandoffCaseRow) (case : HandoffCase)
    (action : HandoffAction) :
    (db.moveTo row case action).qualificationSessions = db.qualificationSessions := by
  unfold moveTo
  cases conversationStatus? action <;> rfl

end WorkflowDatabase

section Steps

variable [PythonText] {cfg : WorkflowCatalogue} {env : Environment} {db db' : WorkflowDatabase}
  {call : WorkflowCall}

namespace QualificationStore

omit [PythonText] in
theorem Cleared.origins {identity : TelegramIdentity} {now : Int} {base : WorkflowDatabase}
    (hbase : Cleared db identity now base) : base.origins = db.origins := by
  cases hbase with
  | none => rfl
  | expired => exact WorkflowDatabase.origins_updateSession _ _ fun _ => rfl

end QualificationStore

/-- Opening a case touches no session. -/
theorem Escalated.qualificationSessions {identity : TelegramIdentity}
    {schema : QualificationSchema} {sessionId : QualificationSessionId} {leadId : LeadId}
    {now : Int} {written after : WorkflowDatabase} {trigger : Option TriggerResult}
    (hafter : Escalated env identity schema sessionId leadId now written trigger after) :
    after.qualificationSessions = written.qualificationSessions := by
  cases trigger with
  | none => exact congrArg _ hafter
  | some result =>
      obtain ⟨schedule, due, _, _, _, rfl⟩ := hafter
      rfl

/-- The sessions a call leaves are those that were there, and a new one when `start`
opened it. -/
inductive Opens (env : Environment) (db : WorkflowDatabase) :
    WorkflowCall → List SessionOrigin → Prop
  | kept {call : WorkflowCall} : Opens env db call db.origins
  | opened {identity : TelegramIdentity} {schema : QualificationSchema} {now : Int}
      (hfresh : ∀ origin ∈ db.origins, origin.id ≠ env.newId)
      (hconversation : ∃ row ∈ db.conversations, row.id = identity.conversationId ∧
        row.tenantId = identity.tenantId ∧ row.status = .activeBot) :
      Opens env db (.start identity schema now)
        (db.origins ++ [(QualificationStore.newSession env identity schema now).origin])

theorem WorkflowChange.origins (hchange : WorkflowChange env db call db') :
    Opens env db call db'.origins := by
  have hupdate : ∀ {id : QualificationSessionId}
      {change : QualificationSessionRow → QualificationSessionRow},
      (∀ row, (change row).origin = row.origin) →
        Opens env db call (db.updateSession id change).origins := by
    intro id change hkeep
    rw [WorkflowDatabase.origins_updateSession _ _ hkeep]
    exact .kept
  cases hchange with
  | expireSession => exact hupdate fun _ => rfl
  | @start identity schema now base hbase hfresh hconversation =>
      have horigins : (base.openSession
          (QualificationStore.newSession env identity schema now)).origins =
          db.origins ++ [(QualificationStore.newSession env identity schema now).origin] := by
        rw [← hbase.origins]
        exact List.map_append
      rw [horigins]
      refine .opened ?_ ?_
      · intro origin horigin
        rw [← hbase.origins] at horigin
        obtain ⟨row, hrow, rfl⟩ := List.mem_map.mp horigin
        exact hfresh row hrow
      · cases hbase <;> exact hconversation
  | decideConsent =>
      rw [WorkflowDatabase.origins, WorkflowDatabase.qualificationSessions_writeConsent]
      exact hupdate fun _ => rfl
  | recordAnswer => exact hupdate fun _ => rfl
  | edit => exact hupdate fun _ => rfl
  | showReview => exact hupdate fun _ => rfl
  | complete _ _ _ _ _ _ _ _ _ _ hafter =>
      rw [WorkflowDatabase.origins, hafter.qualificationSessions,
        WorkflowDatabase.qualificationSessions_writeCompletion]
      exact hupdate fun _ => rfl
  | cancel => exact hupdate fun _ => rfl
  | addSchema => exact .kept
  | publishSchema => exact .kept
  | createCase => exact .kept
  | transition =>
      rw [WorkflowDatabase.origins, WorkflowDatabase.qualificationSessions_moveTo]
      exact .kept
  | @anonymize tenantId customerId key actions =>
      have hkeep : ({ PrivacyStore.anonymizeRows tenantId customerId db with
          privacyActions := actions } : WorkflowDatabase).origins = db.origins :=
        Table.map_update QualificationSessionRow.origin fun _ => rfl
      rw [hkeep]
      exact .kept

/-- Ids of sessions are drawn fresh, so they stay unique. -/
theorem nodup_sessionIds_serve {s : WorkflowState} (hids : (s.db.origins.map (·.id)).Nodup)
    (call : WorkflowCall) (env : Environment) :
    ((serve cfg call env s).2.db.origins.map (·.id)).Nodup := by
  rcases changes_of_serve call env s with hsame | hchange
  · rw [hsame]
    exact hids
  · have hopens := hchange.origins
    generalize (serve cfg call env s).2.db.origins = origins at hopens ⊢
    cases hopens with
    | kept => exact hids
    | opened hfresh => exact Table.nodup_append_row hids hfresh

omit [PythonText] in
theorem WorkflowDatabase.Fresh.nodup_sessionIds (hfresh : db.Fresh) :
    (db.origins.map (·.id)).Nodup := by
  rw [WorkflowDatabase.origins, hfresh.1]
  exact List.nodup_nil

/-! ## The state machine of one session -/

/-- How a call moves one session row on, with what the store has checked by then. -/
inductive SessionStep (db : WorkflowDatabase) :
    WorkflowCall → QualificationSessionRow → QualificationSessionRow → Prop
  | expire {call : WorkflowCall} {identity : TelegramIdentity} {now : Int}
      {row : QualificationSessionRow}
      (hcall : call = .activeSession identity now ∨ ∃ schema, call = .start identity schema now)
      (hrow : db.activeRow? identity = some row)
      (hexpired : row.expiresAt ≤ now) :
      SessionStep db call row row.expire
  | decide {identity : TelegramIdentity} {row : QualificationSessionRow}
      {schema : QualificationSchema} {decision : ConsentDecision} {now : Int} {updateKey : Text}
      (howner : row.OfIdentity identity)
      (hschema : db.Stores identity.tenantId row.schemaId schema)
      (hkey : db.KeyUnused identity.tenantId updateKey)
      (hstatus : row.status = .awaitingConsent)
      (hconsent : ∀ consent ∈ db.qualificationConsents,
        ¬ (consent.tenantId = identity.tenantId ∧ consent.sessionId = row.id)) :
      SessionStep db (.decideConsent identity row.id decision now updateKey) row
        (row.decide decision now ((nextMissingField schema []).map (·.key)))
  | record {identity : TelegramIdentity} {row : QualificationSessionRow}
      {schema : QualificationSchema} {fieldKey : Text} {answer : Answer} {now : Int}
      {updateKey : Text} {typed : List (Text × Answer)}
      (howner : row.OfIdentity identity)
      (hschema : db.Stores identity.tenantId row.schemaId schema)
      (hkey : db.KeyUnused identity.tenantId updateKey)
      (hstatus : row.status = .inProgress)
      (hfield : row.currentFieldKey = some fieldKey)
      (htyped : typedAnswers schema (Entries.set fieldKey (storedAnswer answer) row.answers) =
        .ok typed) :
      SessionStep db (.recordAnswer identity row.id fieldKey answer now updateKey) row
        (row.record fieldKey (storedAnswer answer) ((nextMissingField schema typed).map (·.key)))
  | edit {identity : TelegramIdentity} {row : QualificationSessionRow}
      {schema : QualificationSchema} {fieldKey : Text}
      (howner : row.OfIdentity identity)
      (hschema : db.Stores identity.tenantId row.schemaId schema)
      (hfield : fieldKey ∈ schema.fields.map (·.key))
      (hother : ¬ db.HasOtherActive identity row.id) :
      SessionStep db (.review identity row.id (some fieldKey)) row (row.edit fieldKey)
  | showReview {identity : TelegramIdentity} {row : QualificationSessionRow}
      {schema : QualificationSchema} {typed : List (Text × Answer)}
      (howner : row.OfIdentity identity)
      (hschema : db.Stores identity.tenantId row.schemaId schema)
      (htyped : typedAnswers schema row.answers = .ok typed)
      (hmissing : nextMissingField schema typed = none)
      (hother : ¬ db.HasOtherActive identity row.id) :
      SessionStep db (.review identity row.id none) row row.showReview
  | complete {identity : TelegramIdentity} {row : QualificationSessionRow} {lead : Lead Answer}
      {score : ScoreResult} {trigger : Option TriggerResult} {now : Int} {updateKey : Text}
      {leadId : LeadId}
      (howner : row.OfIdentity identity)
      (hkey : db.KeyUnused identity.tenantId updateKey)
      (hstatus : row.status = .reviewing) :
      SessionStep db (.complete identity row.id lead score trigger now updateKey) row
        (row.complete leadId)
  | cancel {identity : TelegramIdentity} {row : QualificationSessionRow}
      (hrow : db.activeRow? identity = some row) :
      SessionStep db (.cancel identity) row row.cancel
  | anonymize {tenantId : TenantId} {customerId : CustomerId} {idempotencyKey : Text}
      {row : QualificationSessionRow} :
      SessionStep db (.anonymize tenantId customerId idempotencyKey) row
        (PrivacyStore.anonymizeSession row)

theorem SessionStep.origin {row row' : QualificationSessionRow}
    (hstep : SessionStep db call row row') : row'.origin = row.origin := by
  cases hstep <;> rfl

/-- Where a session row of the database after a call comes from. -/
inductive SessionSource (env : Environment) (db : WorkflowDatabase) :
    WorkflowCall → QualificationSessionRow → Prop
  | kept {call : WorkflowCall} {row : QualificationSessionRow}
      (hrow : row ∈ db.qualificationSessions) : SessionSource env db call row
  | moved {call : WorkflowCall} {row row' : QualificationSessionRow}
      (hrow : row ∈ db.qualificationSessions)
      (hstep : SessionStep db call row row') : SessionSource env db call row'
  | opened {identity : TelegramIdentity} {schema : QualificationSchema} {now : Int}
      (hfresh : ∀ origin ∈ db.origins, origin.id ≠ env.newId) :
      SessionSource env db (.start identity schema now)
        (QualificationStore.newSession env identity schema now)

/-- A session after an update by id, when ids are unique. -/
theorem SessionSource.of_updateSession (hids : (db.origins.map (·.id)).Nodup)
    {row row' : QualificationSessionRow} (hrow : row ∈ db.qualificationSessions)
    {change : QualificationSessionRow → QualificationSessionRow}
    (hstep : SessionStep db call row (change row))
    (hmem : row' ∈ (db.updateSession row.id change).qualificationSessions) :
    SessionSource env db call row' := by
  rcases (Table.mem_update_key (WorkflowDatabase.nodup_rowIds hids) hrow).mp hmem with rfl | ⟨hkept, _⟩
  · exact .moved hrow hstep
  · exact .kept hkept

omit [PythonText] in
theorem WorkflowDatabase.mem_of_activeRow? {identity : TelegramIdentity}
    {row : QualificationSessionRow} (hrow : db.activeRow? identity = some row) :
    row ∈ db.qualificationSessions ∧ row.OfIdentity identity ∧ row.Active :=
  Table.of_find? hrow

theorem WorkflowChange.session (hids : (db.origins.map (·.id)).Nodup)
    (hchange : WorkflowChange env db call db') {row : QualificationSessionRow}
    (hmem : row ∈ db'.qualificationSessions) : SessionSource env db call row := by
  cases hchange with
  | expireSession hrow hexpired =>
      exact .of_updateSession hids (WorkflowDatabase.mem_of_activeRow? hrow).1
        (.expire (.inl rfl) hrow hexpired) hmem
  | start hbase hfresh =>
      rcases Table.mem_append_row.mp hmem with hold | rfl
      · cases hbase with
        | none => exact .kept hold
        | expired hrow hexpired =>
            exact .of_updateSession hids (WorkflowDatabase.mem_of_activeRow? hrow).1
              (.expire (.inr ⟨_, rfl⟩) hrow hexpired) hold
      · apply SessionSource.opened
        intro origin horigin
        rw [← hbase.origins] at horigin
        obtain ⟨row, hrow, rfl⟩ := List.mem_map.mp horigin
        exact hfresh row hrow
  | decideConsent hrow howner hschema hkey hstatus hconsent =>
      rw [WorkflowDatabase.qualificationSessions_writeConsent] at hmem
      exact .of_updateSession hids hrow (.decide howner hschema hkey hstatus hconsent) hmem
  | recordAnswer hrow howner hschema hkey hstatus hfield htyped =>
      exact .of_updateSession hids hrow (.record howner hschema hkey hstatus hfield htyped) hmem
  | edit hrow howner hschema hfield hother =>
      exact .of_updateSession hids hrow (.edit howner hschema hfield hother) hmem
  | showReview hrow howner hschema htyped hmissing hother =>
      exact .of_updateSession hids hrow (.showReview howner hschema htyped hmissing hother) hmem
  | complete hrow howner _ hkey hstatus _ _ _ _ _ hafter =>
      rw [hafter.qualificationSessions,
        WorkflowDatabase.qualificationSessions_writeCompletion] at hmem
      exact .of_updateSession hids hrow (.complete howner hkey hstatus) hmem
  | cancel hrow =>
      exact .of_updateSession hids (WorkflowDatabase.mem_of_activeRow? hrow).1 (.cancel hrow) hmem
  | addSchema => exact .kept hmem
  | publishSchema => exact .kept hmem
  | createCase => exact .kept hmem
  | transition =>
      rw [WorkflowDatabase.qualificationSessions_moveTo] at hmem
      exact .kept hmem
  | anonymize =>
      rcases Table.mem_update.mp hmem with ⟨old, hold, _, rfl⟩ | ⟨hkept, _⟩
      · exact .moved hold .anonymize
      · exact .kept hkept

/-- What becomes of a session row: it stays as it is, or is moved on. -/
theorem WorkflowChange.session_after (hids : (db.origins.map (·.id)).Nodup)
    (hchange : WorkflowChange env db call db') {row : QualificationSessionRow}
    (hrow : row ∈ db.qualificationSessions) :
    ∃ row' ∈ db'.qualificationSessions,
      row'.id = row.id ∧ (row' = row ∨ SessionStep db call row row') := by
  have horigin : row.origin ∈ db'.origins := by
    have hopens := hchange.origins
    generalize db'.origins = origins at hopens ⊢
    cases hopens with
    | kept => exact List.mem_map_of_mem hrow
    | opened => exact List.mem_append_left _ (List.mem_map_of_mem hrow)
  obtain ⟨row', hrow', hsame⟩ := List.mem_map.mp horigin
  have hid : row'.id = row.id := congrArg SessionOrigin.id hsame
  refine ⟨row', hrow', hid, ?_⟩
  cases hchange.session hids hrow' with
  | kept hkept =>
      exact .inl (Table.eq_of_key_eq (WorkflowDatabase.nodup_rowIds hids) hkept hrow hid)
  | moved hold hstep =>
      have hold_id : _ = row'.id := congrArg SessionOrigin.id hstep.origin.symm
      cases Table.eq_of_key_eq (WorkflowDatabase.nodup_rowIds hids) hold hrow (hold_id.trans hid)
      exact .inr hstep
  | opened hfresh => exact absurd hid.symm (hfresh row.origin (List.mem_map_of_mem hrow))

end Steps

end BusinessAssistant.Persistence
