/-
# What a workflow transaction can do to the database

`WorkflowChange` lists every way a committed call alters the rows, each with the
guards the code has checked by then. The lemmas before it say what each
transaction returns and reads; the theorem after it says the list is complete.
-/

import BusinessAssistant.Persistence.WorkflowServer

namespace BusinessAssistant.Persistence

open BusinessAssistant.Domain BusinessAssistant.Application BusinessAssistant.Foundation

variable [PythonText] {cfg : WorkflowCatalogue} {env : Environment} {db db' : WorkflowDatabase}

/-- A schema as the stored row with an id of a tenant reads. -/
def WorkflowDatabase.Stores (db : WorkflowDatabase) (tenantId : TenantId)
    (schemaId : QualificationSchemaId) (schema : QualificationSchema) : Prop :=
  ∃ found, db.qualificationSchemas.find? (fun row => row.tenantId = tenantId ∧ row.id = schemaId) =
    some found ∧ schemaOf found = .ok schema

/-- The schema with an id of a tenant, where it can be read. -/
def WorkflowDatabase.stored? (db : WorkflowDatabase) (tenantId : TenantId)
    (schemaId : QualificationSchemaId) : Option QualificationSchema :=
  (db.qualificationSchemas.find? fun row => row.tenantId = tenantId ∧ row.id = schemaId).bind
    fun found => (schemaOf found).toOption

theorem WorkflowDatabase.stored?_eq_some {tenantId : TenantId} {schemaId : QualificationSchemaId}
    {schema : QualificationSchema} :
    db.stored? tenantId schemaId = some schema ↔ db.Stores tenantId schemaId schema := by
  simp only [WorkflowDatabase.stored?, WorkflowDatabase.Stores, Option.bind_eq_some_iff,
    toOption_eq_some]

/-- A schema as the published version of a code of a tenant reads. -/
def WorkflowDatabase.Publishes (db : WorkflowDatabase) (tenantId : TenantId) (code : Text)
    (schema : QualificationSchema) : Prop :=
  ∃ found, db.qualificationSchemas.find? (fun row => row.tenantId = tenantId ∧ row.code = code ∧
    row.published = true ∧ row.active = true) = some found ∧ schemaOf found = .ok schema

omit [PythonText] in
/-- No row of a tenant was recorded under an update key. -/
def WorkflowDatabase.KeyUnused (db : WorkflowDatabase) (tenantId : TenantId) (updateKey : Text) :
    Prop :=
  ∀ row ∈ db.qualificationSessionUpdates, ¬ (row.tenantId = tenantId ∧ row.updateKey = updateKey)

/-! ## What the transactions read and return -/

namespace QualificationStore

variable {identity : TelegramIdentity} {sessionId : QualificationSessionId} {now : Int}
  {updateKey : Text}

theorem schemaRow_ok {tenantId : TenantId} {schemaId : QualificationSchemaId}
    {schema : QualificationSchema}
    (hrun : (schemaRow tenantId schemaId).run db = .ok (schema, db')) :
    db.Stores tenantId schemaId schema ∧ db' = db := by
  simp only [schemaRow, Tx.run_get_bind_eq_ok, Tx.run_fetch_bind_eq_ok,
    Tx.run_lift_eq_ok] at hrun
  obtain ⟨found, hfound, hschema, hend⟩ := hrun
  exact ⟨⟨found, hfound, hschema⟩, hend⟩

theorem lockedSession_ok {row : QualificationSessionRow} {schema : QualificationSchema}
    (hrun : (lockedSession identity sessionId).run db = .ok ((row, schema), db')) :
    (row ∈ db.qualificationSessions ∧ row.OfIdentity identity ∧ row.id = sessionId) ∧
      db.Stores identity.tenantId row.schemaId schema ∧ db' = db := by
  simp only [lockedSession, Tx.run_get_bind_eq_ok, Tx.run_fetch_bind_eq_ok] at hrun
  obtain ⟨found, hfound, hrest⟩ := hrun
  obtain ⟨own, s', hschema, hend⟩ := Tx.run_bind_eq_ok.mp hrest
  cases Tx.run_pure_eq_ok.mp hend
  obtain ⟨hstores, hdb⟩ := schemaRow_ok hschema
  obtain ⟨hmem, howner, hid⟩ := Table.of_find? hfound
  exact ⟨⟨hmem, howner, hid⟩, hstores, hdb⟩

omit [PythonText] in
theorem isDuplicate_ok {tenantId : TenantId} {duplicate : Bool}
    (hrun : (isDuplicate tenantId sessionId updateKey).run db = .ok (duplicate, db')) :
    db' = db ∧ (duplicate = false → db.KeyUnused tenantId updateKey) ∧
      (duplicate = true → ∃ row ∈ db.qualificationSessionUpdates,
        row.tenantId = tenantId ∧ row.updateKey = updateKey ∧ row.sessionId = sessionId) := by
  simp only [isDuplicate, Tx.run_get_bind_eq_ok] at hrun
  cases hfound : db.qualificationSessionUpdates.find? fun row =>
      row.tenantId = tenantId ∧ row.updateKey = updateKey with
  | none =>
      rw [hfound] at hrun
      cases Tx.run_pure_eq_ok.mp hrun
      refine ⟨rfl, ?_, ?_⟩
      · intro _ row hrow
        simpa using List.find?_eq_none.mp hfound row hrow
      · intro hduplicate
        cases hduplicate
  | some found =>
      rw [hfound] at hrun
      obtain ⟨hsession, hend⟩ := Tx.run_require_bind_eq_ok.mp hrun
      cases Tx.run_pure_eq_ok.mp hend
      obtain ⟨hmem, htenant, hkey⟩ := Table.of_find? hfound
      refine ⟨rfl, ?_, ?_⟩
      · intro hduplicate
        cases hduplicate
      · intro _
        exact ⟨found, hmem, htenant, hkey, hsession⟩

theorem schema_ok {tenantId : TenantId} {schemaId : QualificationSchemaId}
    {found : Option QualificationSchema}
    (hrun : (QualificationStore.schema tenantId schemaId).run db = .ok (found, db')) :
    db' = db ∧ ∀ schema, found = some schema → db.Stores tenantId schemaId schema := by
  simp only [QualificationStore.schema, Tx.run_get_bind_eq_ok] at hrun
  cases hrow : db.qualificationSchemas.find? fun row =>
      row.tenantId = tenantId ∧ row.id = schemaId with
  | none =>
      rw [hrow] at hrun
      cases Tx.run_pure_eq_ok.mp hrun
      exact ⟨rfl, fun schema hschema => by cases hschema⟩
  | some row =>
      rw [hrow] at hrun
      obtain ⟨schema, s', hschema, hend⟩ := Tx.run_map_eq_ok.mp hrun
      obtain ⟨hread, hdb⟩ := Tx.run_lift_eq_ok.mp hschema
      cases hend
      refine ⟨hdb, ?_⟩
      intro other hother
      cases hother
      exact ⟨row, hrow, hread⟩

theorem publishedSchema_ok {tenantId : TenantId} {code : Text} {found : Option QualificationSchema}
    (hrun : (publishedSchema tenantId code).run db = .ok (found, db')) :
    db' = db ∧ ∀ schema, found = some schema → db.Publishes tenantId code schema := by
  simp only [publishedSchema, Tx.run_get_bind_eq_ok] at hrun
  cases hrow : db.qualificationSchemas.find? fun row =>
      row.tenantId = tenantId ∧ row.code = code ∧ row.published = true ∧ row.active = true with
  | none =>
      rw [hrow] at hrun
      cases Tx.run_pure_eq_ok.mp hrun
      exact ⟨rfl, fun schema hschema => by cases hschema⟩
  | some row =>
      rw [hrow] at hrun
      obtain ⟨schema, s', hschema, hend⟩ := Tx.run_map_eq_ok.mp hrun
      obtain ⟨hread, hdb⟩ := Tx.run_lift_eq_ok.mp hschema
      cases hend
      refine ⟨hdb, ?_⟩
      intro other hother
      cases hother
      exact ⟨row, hrow, hread⟩

/-- What `active_session` returns: the view of the identity's active session, or
nothing after it has run out or when there is none. -/
theorem activeSession_ok {found : Option QualificationSession}
    (hrun : (activeSession identity now).run db = .ok (found, db')) :
    (db.activeRow? identity = none ∧ found = none ∧ db' = db) ∨
      ∃ row schema, db.activeRow? identity = some row ∧
        db.Stores identity.tenantId row.schemaId schema ∧
        (row.expiresAt ≤ now ∧ found = none ∧ db' = db.expireSession row ∨
          ∃ session, now < row.expiresAt ∧ sessionOf row schema = .ok session ∧
            found = some session ∧ db' = db) := by
  simp only [activeSession, Tx.run_get_bind_eq_ok] at hrun
  cases hrow : db.activeRow? identity with
  | none =>
      rw [hrow] at hrun
      cases Tx.run_pure_eq_ok.mp hrun
      exact .inl ⟨rfl, rfl, rfl⟩
  | some row =>
      rw [hrow] at hrun
      obtain ⟨schema, s', hschema, hrest⟩ := Tx.run_bind_eq_ok.mp hrun
      obtain ⟨hstores, rfl⟩ := schemaRow_ok hschema
      refine .inr ⟨row, schema, rfl, hstores, ?_⟩
      by_cases hexpired : row.expiresAt ≤ now
      · simp only [if_pos hexpired, Tx.run_modify_bind_eq_ok, Tx.run_pure_eq_ok] at hrest
        cases hrest
        exact .inl ⟨hexpired, rfl, rfl⟩
      · rw [if_neg hexpired] at hrest
        obtain ⟨session, s'', hsession, hend⟩ := Tx.run_map_eq_ok.mp hrest
        obtain ⟨hread, hdb⟩ := Tx.run_lift_eq_ok.mp hsession
        cases hend
        exact .inr ⟨session, by omega, hread, rfl, hdb⟩

/-- What `start` opens its session on: a database in which the identity has no
active session, because there was none or because it had run out. -/
inductive Cleared (db : WorkflowDatabase) (identity : TelegramIdentity) (now : Int) :
    WorkflowDatabase → Prop
  | none (hnone : db.activeRow? identity = .none) : Cleared db identity now db
  | expired {row : QualificationSessionRow} (hrow : db.activeRow? identity = some row)
      (hexpired : row.expiresAt ≤ now) :
      Cleared db identity now (db.updateSession row.id QualificationSessionRow.expire)

theorem openSession_ok {schema : QualificationSchema} {session : QualificationSession}
    (hrun : (openSession env identity schema now).run db = .ok (session, db')) :
    (∀ row ∈ db.qualificationSessions, row.id ≠ env.newId) ∧
      (∃ row ∈ db.conversations, row.id = identity.conversationId ∧
        row.tenantId = identity.tenantId ∧ row.status = .activeBot) ∧
      sessionOf (newSession env identity schema now) schema = .ok session ∧
      db' = db.openSession (newSession env identity schema now) := by
  simp only [openSession, Tx.run_get_bind_eq_ok, Tx.run_fetch_bind_eq_ok,
    Tx.run_require_bind_eq_ok, Tx.run_modify_bind_eq_ok, Tx.run_lift_eq_ok] at hrun
  obtain ⟨hfresh, conversation, hconversation, ⟨htenant, hstatus⟩, hsession, hdb⟩ := hrun
  obtain ⟨hmem, hid⟩ := Table.of_find? hconversation
  exact ⟨hfresh, ⟨conversation, hmem, hid, htenant, hstatus⟩, hsession, hdb⟩

/-- What `start` returns: the unexpired session that is there, under its own schema,
or a new one. -/
theorem start_ok {schema : QualificationSchema} {session : QualificationSession}
    (hrun : (start env identity schema now).run db = .ok (session, db')) :
    (∃ row own, db.activeRow? identity = some row ∧ now < row.expiresAt ∧
        db.Stores identity.tenantId row.schemaId own ∧ sessionOf row own = .ok session ∧
        db' = db) ∨
      ∃ base, Cleared db identity now base ∧ (openSession env identity schema now).run base =
        .ok (session, db') := by
  simp only [start, Tx.run_get_bind_eq_ok] at hrun
  cases hrow : db.activeRow? identity with
  | none =>
      rw [hrow] at hrun
      exact .inr ⟨db, .none hrow, hrun⟩
  | some row =>
      rw [hrow] at hrun
      by_cases hlive : row.expiresAt > now
      · simp only [if_pos hlive] at hrun
        obtain ⟨own, s', hown, hrest⟩ := Tx.run_bind_eq_ok.mp hrun
        obtain ⟨hstores, rfl⟩ := schemaRow_ok hown
        obtain ⟨hread, hdb⟩ := Tx.run_lift_eq_ok.mp hrest
        exact .inl ⟨row, own, rfl, hlive, hstores, hread, hdb⟩
      · simp only [if_neg hlive, Tx.run_modify_bind_eq_ok] at hrun
        exact .inr ⟨_, .expired hrow (by omega), hrun⟩

/-- What a consent decision, an answer and a completion return: the session as it is
when the update was recorded before, and else what the body makes of the locked
row. -/
theorem oncePerKey_ok {body : QualificationSessionRow → QualificationSchema →
      Tx WorkflowDatabase Failure QualificationSession} {session : QualificationSession}
    (hrun : (oncePerKey identity sessionId updateKey body).run db = .ok (session, db')) :
    ∃ row schema, (row ∈ db.qualificationSessions ∧ row.OfIdentity identity ∧
        row.id = sessionId) ∧
      db.Stores identity.tenantId row.schemaId schema ∧
      ((∃ update ∈ db.qualificationSessionUpdates, update.tenantId = identity.tenantId ∧
          update.updateKey = updateKey ∧ update.sessionId = row.id) ∧
          sessionOf row schema = .ok session ∧ db' = db ∨
        db.KeyUnused identity.tenantId updateKey ∧
          (body row schema).run db = .ok (session, db')) := by
  obtain ⟨⟨row, schema⟩, s', hlocked, hrest⟩ := Tx.run_bind_eq_ok.mp hrun
  obtain ⟨hrow, hstores, rfl⟩ := lockedSession_ok hlocked
  obtain ⟨duplicated, s'', hduplicate, hrest⟩ := Tx.run_bind_eq_ok.mp hrest
  obtain ⟨rfl, hunused, hused⟩ := isDuplicate_ok hduplicate
  refine ⟨row, schema, hrow, hstores, ?_⟩
  cases duplicated with
  | false => exact .inr ⟨hunused rfl, hrest⟩
  | true =>
      obtain ⟨hread, hdb⟩ := Tx.run_lift_eq_ok.mp hrest
      exact .inl ⟨hused rfl, hread, hdb⟩

end QualificationStore

/-! ## What a transition of a case can be -/

omit [PythonText] in
/-- The statuses an action takes a case from and to. -/
def Moves : HandoffAction → HandoffStatus → HandoffStatus → Prop
  | .claim, old, new => (old = .queued ∨ old = .reopened) ∧ new = .claimed
  | .resolve, old, new => old = .claimed ∧ new = .resolved
  | .reopen, old, new => old = .resolved ∧ new = .reopened
  | .returnToBot, old, new => old = .resolved ∧ new = .resolved

omit [PythonText] in
theorem transitionTo_raised_ok {case moved : HandoffCase} {target : HandoffStatus}
    {assigneeId : Option Text}
    (hok : (case.transitionTo target assigneeId).mapError Failure.domain = .ok moved) :
    target ∈ case.status.transitions ∧ moved.status = target := by
  cases hmoved : case.transitionTo target assigneeId with
  | error error => rw [hmoved] at hok; cases hok
  | ok after =>
      rw [hmoved] at hok
      cases hok
      exact HandoffCase.transitionTo_ok hmoved

omit [PythonText] in
theorem moveCase_ok {case moved : HandoffCase} {action : HandoffAction} {actorId : Text}
    (hok : moveCase case action actorId = .ok moved) :
    Moves action case.status moved.status := by
  cases action with
  | claim =>
      by_cases hreopened : case.status = .reopened
      · simp only [moveCase, if_pos hreopened] at hok
        cases hqueued : (case.transitionTo .queued none).mapError Failure.domain with
        | error error => rw [hqueued] at hok; cases hok
        | ok queued =>
            rw [hqueued] at hok
            exact ⟨.inr hreopened, (transitionTo_raised_ok hok).2⟩
      · simp only [moveCase, if_neg hreopened] at hok
        obtain ⟨hallowed, hstatus⟩ := transitionTo_raised_ok hok
        refine ⟨.inl ?_, hstatus⟩
        cases hcase : case.status with
        | queued => rfl
        | claimed => rw [hcase] at hallowed; simp [HandoffStatus.transitions] at hallowed
        | resolved => rw [hcase] at hallowed; simp [HandoffStatus.transitions] at hallowed
        | reopened => exact absurd hcase hreopened
        | cancelled => rw [hcase] at hallowed; simp [HandoffStatus.transitions] at hallowed
  | resolve =>
      obtain ⟨hallowed, hstatus⟩ := transitionTo_raised_ok hok
      refine ⟨?_, hstatus⟩
      cases hcase : case.status <;> rw [hcase] at hallowed <;>
        simp [HandoffStatus.transitions] at hallowed ⊢
  | reopen =>
      obtain ⟨hallowed, hstatus⟩ := transitionTo_raised_ok hok
      refine ⟨?_, hstatus⟩
      cases hcase : case.status <;> rw [hcase] at hallowed <;>
        simp [HandoffStatus.transitions] at hallowed ⊢
  | returnToBot =>
      by_cases hresolved : case.status = .resolved
      · simp only [moveCase, if_pos hresolved] at hok
        cases hok
        exact ⟨hresolved, hresolved⟩
      · simp only [moveCase, if_neg hresolved] at hok
        cases hok

omit [PythonText] in
theorem handoffFromRow_ok {row : HandoffCaseRow} {case : HandoffCase}
    (hok : handoffFromRow row = .ok case) : case.status = row.status := by
  unfold handoffFromRow at hok
  cases hpriority : enumeration (HandoffPriority.ofText? row.priority) with
  | error error => rw [hpriority] at hok; cases hok
  | ok priority =>
      rw [hpriority] at hok
      simp only [bind, Except.bind] at hok
      split at hok
      · split at hok
        · cases hok
          rfl
        · cases hok
      · cases hok

/-! ## The changes -/

/-- What `complete` does about a trigger once the session is written: nothing
without one, and a queued case with one. -/
def Escalated (env : Environment) (identity : TelegramIdentity)
    (schema : QualificationSchema) (sessionId : QualificationSessionId) (leadId : LeadId)
    (now : Int) (written : WorkflowDatabase) : Option TriggerResult → WorkflowDatabase → Prop
  | none, after => after = written
  | some trigger, after => ∃ schedule due,
      businessDueAt schedule now (minutes schema.handoffResponseMinutes) = .ok due ∧
      (∀ row ∈ written.handoffCases, row.id ≠ env.newId) ∧
      (∀ row ∈ written.handoffCases, ¬ (row.tenantId = identity.tenantId ∧
        row.idempotencyKey = some (triggerKey sessionId trigger.reasonCode))) ∧
      after = written.queueCase
        (triggeredCase env identity sessionId leadId trigger schedule due)
        (outboxEvent identity.tenantId "handoff" env.newId "handoff.queued"
          (handoffQualifiedKey sessionId)
          (.handoff env.newId trigger.reasonCode trigger.priority) now)

/-- The ways a committed call changes the rows of `db`. -/
inductive WorkflowChange (env : Environment) (db : WorkflowDatabase) :
    WorkflowCall → WorkflowDatabase → Prop
  | expireSession {identity : TelegramIdentity} {now : Int} {row : QualificationSessionRow}
      (hrow : db.activeRow? identity = some row)
      (hexpired : row.expiresAt ≤ now) :
      WorkflowChange env db (.activeSession identity now) (db.expireSession row)
  | start {identity : TelegramIdentity} {schema : QualificationSchema} {now : Int}
      {base : WorkflowDatabase}
      (hbase : QualificationStore.Cleared db identity now base)
      (hfresh : ∀ row ∈ base.qualificationSessions, row.id ≠ env.newId)
      (hconversation : ∃ row ∈ base.conversations, row.id = identity.conversationId ∧
        row.tenantId = identity.tenantId ∧ row.status = .activeBot) :
      WorkflowChange env db (.start identity schema now)
        (base.openSession (QualificationStore.newSession env identity schema now))
  | decideConsent {identity : TelegramIdentity} {row : QualificationSessionRow}
      {schema : QualificationSchema} {decision : ConsentDecision} {now : Int} {updateKey : Text}
      (hrow : row ∈ db.qualificationSessions)
      (howner : row.OfIdentity identity)
      (hschema : db.Stores identity.tenantId row.schemaId schema)
      (hkey : db.KeyUnused identity.tenantId updateKey)
      (hstatus : row.status = .awaitingConsent)
      (hconsent : ∀ consent ∈ db.qualificationConsents,
        ¬ (consent.tenantId = identity.tenantId ∧ consent.sessionId = row.id)) :
      WorkflowChange env db (.decideConsent identity row.id decision now updateKey)
        (db.writeConsent row decision now ((nextMissingField schema []).map (·.key))
          (QualificationStore.consentRow identity row.id schema decision now)
          (QualificationStore.updateRow identity row.id updateKey "consent" now))
  | recordAnswer {identity : TelegramIdentity} {row : QualificationSessionRow}
      {schema : QualificationSchema} {fieldKey : Text} {answer : Answer} {now : Int}
      {updateKey : Text} {typed : List (Text × Answer)}
      (hrow : row ∈ db.qualificationSessions)
      (howner : row.OfIdentity identity)
      (hschema : db.Stores identity.tenantId row.schemaId schema)
      (hkey : db.KeyUnused identity.tenantId updateKey)
      (hstatus : row.status = .inProgress)
      (hfield : row.currentFieldKey = some fieldKey)
      (htyped : typedAnswers schema (Entries.set fieldKey (storedAnswer answer) row.answers) =
        .ok typed) :
      WorkflowChange env db (.recordAnswer identity row.id fieldKey answer now updateKey)
        (db.writeAnswer row fieldKey (storedAnswer answer)
          ((nextMissingField schema typed).map (·.key))
          (QualificationStore.updateRow identity row.id updateKey "answer" now))
  | edit {identity : TelegramIdentity} {row : QualificationSessionRow}
      {schema : QualificationSchema} {fieldKey : Text}
      (hrow : row ∈ db.qualificationSessions)
      (howner : row.OfIdentity identity)
      (hschema : db.Stores identity.tenantId row.schemaId schema)
      (hfield : fieldKey ∈ schema.fields.map (·.key))
      (hother : ¬ db.HasOtherActive identity row.id) :
      WorkflowChange env db (.review identity row.id (some fieldKey))
        (db.updateSession row.id (QualificationSessionRow.edit fieldKey))
  | showReview {identity : TelegramIdentity} {row : QualificationSessionRow}
      {schema : QualificationSchema} {typed : List (Text × Answer)}
      (hrow : row ∈ db.qualificationSessions)
      (howner : row.OfIdentity identity)
      (hschema : db.Stores identity.tenantId row.schemaId schema)
      (htyped : typedAnswers schema row.answers = .ok typed)
      (hmissing : nextMissingField schema typed = none)
      (hother : ¬ db.HasOtherActive identity row.id) :
      WorkflowChange env db (.review identity row.id none)
        (db.updateSession row.id QualificationSessionRow.showReview)
  | complete {identity : TelegramIdentity} {row : QualificationSessionRow}
      {schema : QualificationSchema} {lead : Lead Answer} {score : ScoreResult}
      {trigger : Option TriggerResult} {now : Int} {updateKey : Text} {replacement : LeadRow}
      {leadId : LeadId} {after : WorkflowDatabase}
      (hrow : row ∈ db.qualificationSessions)
      (howner : row.OfIdentity identity)
      (hschema : db.Stores identity.tenantId row.schemaId schema)
      (hkey : db.KeyUnused identity.tenantId updateKey)
      (hstatus : row.status = .reviewing)
      (hreplacement : leadToRow lead env.serverNow = .ok replacement)
      (hleadId : leadId = ((db.replaceableLead? identity schema.code).map (·.id)).getD
        replacement.id)
      (hfresh : db.replaceableLead? identity schema.code = none →
        ∀ row ∈ db.leads, row.id ≠ replacement.id)
      (hconversation : ∃ row ∈ db.conversations, row.id = identity.conversationId)
      (hevent : ∀ other ∈ db.outboxEvents,
        other.eventId ≠ eventId identity.tenantId (leadQualifiedKey row.id))
      (hafter : Escalated env identity schema row.id leadId now
        ((db.writeLead (db.replaceableLead? identity schema.code) replacement).writeCompletion row
          leadId
          (outboxEvent identity.tenantId "lead" leadId "lead.qualified" (leadQualifiedKey row.id)
            (.lead leadId score.score score.grade) now)
          (QualificationStore.updateRow identity row.id updateKey "complete" now))
        trigger after) :
      WorkflowChange env db (.complete identity row.id lead score trigger now updateKey) after
  | cancel {identity : TelegramIdentity} {row : QualificationSessionRow}
      (hrow : db.activeRow? identity = some row) :
      WorkflowChange env db (.cancel identity) (db.cancelSession row)
  | addSchema {schema read : QualificationSchema} {row : QualificationSchemaRow}
      (hrow : QualificationStore.newSchemaRow schema = some row)
      (hfresh : ∀ other ∈ db.qualificationSchemas, other.id ≠ row.id)
      (hread : schemaOf row = .ok read) :
      WorkflowChange env db (.addSchema schema) (db.insertSchema row)
  | publishSchema {target : QualificationSchemaRow}
      (htarget : target ∈ db.qualificationSchemas)
      (hactive : target.active = true) :
      WorkflowChange env db (.publishSchema target.tenantId target.id) (db.publish target)
  | createCase {identity : TelegramIdentity} {request : HandoffRequest} {now : Int}
      (hnone : HandoffStore.existing? identity request.idempotencyKey db = none)
      (hconversation : ∃ row ∈ db.conversations, row.id = identity.conversationId ∧
        row.tenantId = identity.tenantId)
      (hfresh : ∀ row ∈ db.handoffCases, row.id ≠ env.newId) :
      WorkflowChange env db (.createOrGet identity request now)
        (db.queueCase (HandoffStore.newCase env identity request)
          (outboxEvent identity.tenantId "handoff" env.newId "handoff.queued"
            (handoffQueuedKey request.idempotencyKey)
            (.handoff env.newId request.reasonCode request.priority) now))
  | transition {row : HandoffCaseRow} {moved : HandoffCase} {action : HandoffAction}
      {actorId : Text}
      (hrow : row ∈ db.handoffCases)
      (hconversation : ∃ conversation ∈ db.conversations, conversation.id = row.conversationId ∧
        conversation.tenantId = row.tenantId)
      (hmoves : Moves action row.status moved.status) :
      WorkflowChange env db (.transition row.tenantId row.id action actorId)
        (db.moveTo row moved action)
  | anonymize {tenantId : TenantId} {customerId : CustomerId} {idempotencyKey : Text}
      (actions : List PrivacyActionRow) :
      WorkflowChange env db (.anonymize tenantId customerId idempotencyKey)
        { PrivacyStore.anonymizeRows tenantId customerId db with privacyActions := actions }

/-! ## Inversion -/

/-- Nothing changed, or one of the listed changes was made. -/
def Changes (env : Environment) (db : WorkflowDatabase) (call : WorkflowCall)
    (db' : WorkflowDatabase) : Prop :=
  db' = db ∨ WorkflowChange env db call db'

namespace QualificationStore

variable {identity : TelegramIdentity} {sessionId : QualificationSessionId} {now : Int}
  {updateKey : Text}

theorem activeSession_changes {found : Option QualificationSession}
    (hrun : (activeSession identity now).run db = .ok (found, db')) :
    Changes env db (.activeSession identity now) db' := by
  rcases activeSession_ok hrun with ⟨_, _, hdb⟩ | ⟨row, schema, hrow, _, hrest⟩
  · exact .inl hdb
  · rcases hrest with ⟨hexpired, _, rfl⟩ | ⟨_, _, _, _, hdb⟩
    · exact .inr (.expireSession hrow hexpired)
    · exact .inl hdb

theorem start_changes {schema : QualificationSchema} {session : QualificationSession}
    (hrun : (start env identity schema now).run db = .ok (session, db')) :
    Changes env db (.start identity schema now) db' := by
  rcases start_ok hrun with ⟨_, _, _, _, _, _, hdb⟩ | ⟨base, hbase, hopen⟩
  · exact .inl hdb
  · obtain ⟨hfresh, hconversation, _, rfl⟩ := openSession_ok hopen
    exact .inr (.start hbase hfresh hconversation)

theorem decideConsent_changes {decision : ConsentDecision} {session : QualificationSession}
    (hrun : (decideConsent identity sessionId decision now updateKey).run db =
      .ok (session, db')) :
    Changes env db (.decideConsent identity sessionId decision now updateKey) db' := by
  obtain ⟨row, schema, ⟨hrow, howner, rfl⟩, hschema, hrest⟩ := oncePerKey_ok hrun
  rcases hrest with ⟨_, _, hreplay⟩ | ⟨hkey, hfresh⟩
  · exact .inl hreplay
  · simp only [Tx.run_require_bind_eq_ok, Tx.run_get_bind_eq_ok, Tx.run_modify_bind_eq_ok,
      Tx.run_lift_eq_ok] at hfresh
    obtain ⟨hstatus, hconsent, _, rfl⟩ := hfresh
    exact .inr (.decideConsent hrow howner hschema hkey hstatus hconsent)

omit [PythonText] in
theorem writeJson_ok {value written : JsonValue} (hok : writeJson value = .ok written) :
    written = value := by
  unfold writeJson at hok
  split at hok
  · split at hok
    · cases hok
      rfl
    · cases hok
  · cases hok
    rfl

/-- What `record_answer` does: nothing for an update that was recorded before, and else
its change. -/
theorem recordAnswer_ok {fieldKey : Text} {answer : Answer} {session : QualificationSession}
    (hrun : (recordAnswer identity sessionId fieldKey answer now updateKey).run db =
      .ok (session, db')) :
    ¬ db.KeyUnused identity.tenantId updateKey ∧ db' = db ∨
      db.KeyUnused identity.tenantId updateKey ∧
        WorkflowChange env db (.recordAnswer identity sessionId fieldKey answer now updateKey)
          db' := by
  obtain ⟨row, schema, ⟨hrow, howner, rfl⟩, hschema, hrest⟩ := oncePerKey_ok hrun
  rcases hrest with ⟨⟨update, hupdate, htenant, hused, _⟩, _, hreplay⟩ | ⟨hkey, hfresh⟩
  · exact .inl ⟨fun hunused => hunused update hupdate ⟨htenant, hused⟩, hreplay⟩
  · simp only [Tx.run_require_bind_eq_ok, Tx.run_lift_bind_eq_ok, Tx.run_modify_bind_eq_ok,
      Tx.run_lift_eq_ok] at hfresh
    obtain ⟨⟨hstatus, hfield⟩, typed, htyped, stored, hstored, _, rfl⟩ := hfresh
    cases writeJson_ok hstored
    exact .inr ⟨hkey, .recordAnswer hrow howner hschema hkey hstatus hfield htyped⟩

theorem recordAnswer_changes {fieldKey : Text} {answer : Answer} {session : QualificationSession}
    (hrun : (recordAnswer identity sessionId fieldKey answer now updateKey).run db =
      .ok (session, db')) :
    Changes env db (.recordAnswer identity sessionId fieldKey answer now updateKey) db' := by
  rcases recordAnswer_ok hrun with ⟨_, hsame⟩ | ⟨_, hchange⟩
  · exact .inl hsame
  · exact .inr hchange

/-- A review for a field always reopens the session for it. -/
theorem edit_change {fieldKey : Text} {session : QualificationSession}
    (hrun : (review identity sessionId (some fieldKey)).run db = .ok (session, db')) :
    WorkflowChange env db (.review identity sessionId (some fieldKey)) db' := by
  obtain ⟨⟨row, schema⟩, s', hlocked, hrest⟩ := Tx.run_bind_eq_ok.mp hrun
  obtain ⟨⟨hrow, howner, rfl⟩, hschema, rfl⟩ := lockedSession_ok hlocked
  simp only [Tx.run_get_bind_eq_ok, Tx.run_require_bind_eq_ok, Tx.run_modify_bind_eq_ok,
    Tx.run_lift_eq_ok] at hrest
  obtain ⟨hfield, hother, _, rfl⟩ := hrest
  exact .edit hrow howner hschema hfield hother

theorem review_changes {editFieldKey : Option Text} {session : QualificationSession}
    (hrun : (review identity sessionId editFieldKey).run db = .ok (session, db')) :
    Changes env db (.review identity sessionId editFieldKey) db' := by
  cases editFieldKey with
  | some key => exact .inr (edit_change hrun)
  | none =>
      obtain ⟨⟨row, schema⟩, s', hlocked, hrest⟩ := Tx.run_bind_eq_ok.mp hrun
      obtain ⟨⟨hrow, howner, rfl⟩, hschema, rfl⟩ := lockedSession_ok hlocked
      simp only [Tx.run_get_bind_eq_ok, Tx.run_lift_bind_eq_ok] at hrest
      obtain ⟨typed, htyped, hrest⟩ := hrest
      by_cases hmissing : (nextMissingField schema typed).isNone = true
      · simp only [if_pos hmissing, Tx.run_require_bind_eq_ok, Tx.run_modify_bind_eq_ok,
          Tx.run_lift_eq_ok] at hrest
        obtain ⟨hother, _, rfl⟩ := hrest
        exact .inr (.showReview hrow howner hschema htyped (Option.isNone_iff_eq_none.mp hmissing)
          hother)
      · simp only [if_neg hmissing, Tx.run_lift_eq_ok] at hrest
        exact .inl hrest.2

omit [PythonText] in
theorem loadSchedule_ok {tenantId : TenantId} {schedule : BusinessSchedule}
    (hrun : (loadSchedule cfg tenantId).run db = .ok (schedule, db')) : db' = db := by
  simp only [loadSchedule, Tx.run_fetch_bind_eq_ok, Tx.run_fetch_eq_ok] at hrun
  obtain ⟨_, _, _, hdb⟩ := hrun
  exact hdb

theorem escalate_ok {schema : QualificationSchema} {leadId : LeadId} {trigger : TriggerResult}
    (hrun : (escalate cfg env identity schema sessionId leadId trigger now).run db =
      .ok ((), db')) :
    Escalated env identity schema sessionId leadId now db (some trigger) db' := by
  obtain ⟨schedule, s', hschedule, hrest⟩ := Tx.run_bind_eq_ok.mp hrun
  cases loadSchedule_ok hschedule
  simp only [Tx.run_lift_bind_eq_ok, Tx.run_get_bind_eq_ok, Tx.run_require_bind_eq_ok,
    Tx.run_modify_eq_ok] at hrest
  obtain ⟨due, hdue, hfresh, hkey, hend⟩ := hrest
  cases hend
  exact ⟨schedule, due, hdue, hfresh, hkey, rfl⟩

/-- What `complete` does: nothing for an update that was recorded before or a session
that is completed, and else its change, on a session under review. -/
theorem complete_ok {lead : Lead Answer} {score : ScoreResult}
    {trigger : Option TriggerResult} {session : QualificationSession}
    (hrun : (complete cfg env identity sessionId lead score trigger now updateKey).run db =
      .ok (session, db')) :
    ∃ row ∈ db.qualificationSessions, row.OfIdentity identity ∧ row.id = sessionId ∧
      ((¬ db.KeyUnused identity.tenantId updateKey ∨ row.status ≠ .reviewing) ∧ db' = db ∨
        (db.KeyUnused identity.tenantId updateKey ∧ row.status = .reviewing) ∧
          WorkflowChange env db (.complete identity sessionId lead score trigger now updateKey)
            db') := by
  obtain ⟨row, schema, ⟨hrow, howner, rfl⟩, hschema, hrest⟩ := oncePerKey_ok hrun
  refine ⟨row, hrow, howner, rfl, ?_⟩
  rcases hrest with ⟨⟨update, hupdate, htenant, hused, _⟩, _, hreplay⟩ | ⟨hkey, hfresh⟩
  · exact .inl ⟨.inl fun hunused => hunused update hupdate ⟨htenant, hused⟩, hreplay⟩
  · by_cases hcompleted : row.status = .completed
    · simp only [if_pos hcompleted, Tx.run_lift_eq_ok] at hfresh
      exact .inl ⟨.inr (by rw [hcompleted]; decide), hfresh.2⟩
    · simp only [if_neg hcompleted, Tx.run_require_bind_eq_ok, Tx.run_get_bind_eq_ok,
        Tx.run_lift_bind_eq_ok, Tx.run_modify_bind_eq_ok] at hfresh
      obtain ⟨hstatus, replacement, hreplacement, hlead, hconversation, hevent, hrest⟩ := hfresh
      obtain ⟨conversation, hfound⟩ := Option.isSome_iff_exists.mp hconversation
      obtain ⟨hmem, hid⟩ := Table.of_find? hfound
      refine .inr ⟨⟨hkey, hstatus⟩, ?_⟩
      cases trigger with
      | none =>
          cases Tx.run_lift_eq_ok.mp hrest |>.2
          exact .complete hrow howner hschema hkey hstatus hreplacement rfl hlead
            ⟨conversation, hmem, hid⟩ hevent rfl
      | some result =>
          obtain ⟨_, s', hescalate, hend⟩ := Tx.run_bind_eq_ok.mp hrest
          cases Tx.run_lift_eq_ok.mp hend |>.2
          exact .complete hrow howner hschema hkey hstatus hreplacement rfl hlead
            ⟨conversation, hmem, hid⟩ hevent (escalate_ok hescalate)

theorem complete_changes {lead : Lead Answer} {score : ScoreResult}
    {trigger : Option TriggerResult} {session : QualificationSession}
    (hrun : (complete cfg env identity sessionId lead score trigger now updateKey).run db =
      .ok (session, db')) :
    Changes env db (.complete identity sessionId lead score trigger now updateKey) db' := by
  obtain ⟨_, _, _, _, ⟨_, hsame⟩ | ⟨_, hchange⟩⟩ := complete_ok hrun
  · exact .inl hsame
  · exact .inr hchange

omit [PythonText] in
theorem cancel_changes [PythonText] {found : Bool}
    (hrun : (cancel identity).run db = .ok (found, db')) :
    Changes env db (.cancel identity) db' := by
  simp only [cancel, Tx.run_get_bind_eq_ok] at hrun
  cases hrow : db.activeRow? identity with
  | none =>
      rw [hrow] at hrun
      cases Tx.run_pure_eq_ok.mp hrun
      exact .inl rfl
  | some row =>
      rw [hrow] at hrun
      simp only [Tx.run_modify_bind_eq_ok, Tx.run_pure_eq_ok] at hrun
      cases hrun
      exact .inr (.cancel hrow)

theorem addSchema_changes {schema stored : QualificationSchema}
    (hrun : (addSchema schema).run db = .ok (stored, db')) :
    Changes env db (.addSchema schema) db' := by
  simp only [addSchema, Tx.run_get_bind_eq_ok, Tx.run_fetch_bind_eq_ok,
    Tx.run_require_bind_eq_ok, Tx.run_modify_bind_eq_ok, Tx.run_lift_eq_ok] at hrun
  obtain ⟨row, hrow, hfresh, _, hread, rfl⟩ := hrun
  exact .inr (.addSchema hrow hfresh hread)

theorem publishSchema_changes {tenantId : TenantId} {schemaId : QualificationSchemaId}
    {published : QualificationSchema}
    (hrun : (publishSchema tenantId schemaId).run db = .ok (published, db')) :
    Changes env db (.publishSchema tenantId schemaId) db' := by
  simp only [publishSchema, Tx.run_get_bind_eq_ok, Tx.run_fetch_bind_eq_ok,
    Tx.run_require_bind_eq_ok, Tx.run_modify_bind_eq_ok, Tx.run_lift_eq_ok] at hrun
  obtain ⟨target, htarget, hactive, _, rfl⟩ := hrun
  obtain ⟨hmem, rfl, rfl⟩ := Table.of_find? htarget
  exact .inr (.publishSchema hmem hactive)

end QualificationStore

namespace HandoffStore

omit [PythonText] in
theorem active_ok {identity : TelegramIdentity} {view : Option HandoffView}
    (hrun : (active identity).run db = .ok (view, db')) : db' = db := by
  simp only [active, Tx.run_get_bind_eq_ok, Tx.run_pure_eq_ok] at hrun
  cases hrun
  rfl

omit [PythonText] in
theorem create_ok {identity : TelegramIdentity} {request : HandoffRequest} {now : Int}
    {view : HandoffView} (hrun : (create env identity request now).run db = .ok (view, db')) :
    (∃ row ∈ db.conversations, row.id = identity.conversationId ∧
        row.tenantId = identity.tenantId) ∧
      (∀ row ∈ db.handoffCases, row.id ≠ env.newId) ∧
      db' = db.queueCase (newCase env identity request)
        (outboxEvent identity.tenantId "handoff" env.newId "handoff.queued"
          (handoffQueuedKey request.idempotencyKey)
          (.handoff env.newId request.reasonCode request.priority) now) := by
  simp only [create, Tx.run_get_bind_eq_ok, Tx.run_fetch_bind_eq_ok, Tx.run_require_bind_eq_ok,
    Tx.run_modify_bind_eq_ok, Tx.run_pure_eq_ok] at hrun
  obtain ⟨conversation, hfound, htenant, hfresh, _, _, hend⟩ := hrun
  cases hend
  obtain ⟨hmem, hid⟩ := Table.of_find? hfound
  exact ⟨⟨conversation, hmem, hid, htenant⟩, hfresh, rfl⟩

theorem createOrGet_changes {identity : TelegramIdentity} {request : HandoffRequest} {now : Int}
    {view : HandoffView}
    (hrun : (createOrGet env identity request now).run db = .ok (view, db')) :
    Changes env db (.createOrGet identity request now) db' := by
  simp only [createOrGet, Tx.run_get_bind_eq_ok] at hrun
  cases hexisting : existing? identity request.idempotencyKey db with
  | some row =>
      rw [hexisting] at hrun
      cases Tx.run_pure_eq_ok.mp hrun
      exact .inl rfl
  | none =>
      rw [hexisting] at hrun
      obtain ⟨hconversation, hfresh, rfl⟩ := create_ok hrun
      exact .inr (.createCase hexisting hconversation hfresh)

/-- A committed transition always makes its change. -/
theorem transition_change {tenantId : TenantId} {handoffId : HandoffId} {action : HandoffAction}
    {actorId : Text} {view : HandoffView}
    (hrun : (transition tenantId handoffId action actorId).run db = .ok (view, db')) :
    WorkflowChange env db (.transition tenantId handoffId action actorId) db' := by
  simp only [transition, Tx.run_get_bind_eq_ok, Tx.run_fetch_bind_eq_ok, Tx.run_lift_bind_eq_ok,
    Tx.run_require_bind_eq_ok, Tx.run_modify_bind_eq_ok, Tx.run_pure_eq_ok] at hrun
  obtain ⟨row, hrow, case, hcase, conversation, hconversation, htenant, moved, hmoved, hend⟩ :=
    hrun
  cases hend
  obtain ⟨hmem, rfl, rfl⟩ := Table.of_find? hrow
  obtain ⟨hconversation, hid⟩ := Table.of_find? hconversation
  have hmoves := moveCase_ok hmoved
  rw [handoffFromRow_ok hcase] at hmoves
  exact .transition hmem ⟨conversation, hconversation, hid, htenant⟩ hmoves

end HandoffStore

theorem anonymize_changes {tenantId : TenantId} {customerId : CustomerId} {key : Text}
    {result : PrivacyResult}
    (hrun : (PrivacyStore.anonymize env tenantId customerId key).run db = .ok (result, db')) :
    Changes env db (.anonymize tenantId customerId key) db' := by
  simp only [PrivacyStore.anonymize, Tx.run_get_bind_eq_ok, Tx.run_lift_bind_eq_ok] at hrun
  obtain ⟨replayed, _, hrest⟩ := hrun
  cases replayed with
  | some result =>
      cases Tx.run_pure_eq_ok.mp hrest
      exact .inl rfl
  | none =>
      simp only [Tx.run_fetch_bind_eq_ok, Tx.run_require_bind_eq_ok, Tx.run_modify_bind_eq_ok,
        Tx.run_pure_eq_ok] at hrest
      obtain ⟨policy, _, _, hend⟩ := hrest
      cases hend
      exact .inr (.anonymize _)

/-- The list is complete: a committed call changed nothing or made a listed change. -/
theorem changes_of_run {call : WorkflowCall} {reply : call.Reply}
    (hrun : (transactionOf cfg env call).run db = .ok (reply, db')) :
    Changes env db call db' := by
  cases call with
  | now =>
      cases Tx.run_pure_eq_ok.mp hrun
      exact .inl rfl
  | newLeadId =>
      cases Tx.run_pure_eq_ok.mp hrun
      exact .inl rfl
  | publishedSchema tenantId code => exact .inl (QualificationStore.publishedSchema_ok hrun).1
  | schema tenantId schemaId => exact .inl (QualificationStore.schema_ok hrun).1
  | activeSession identity now => exact QualificationStore.activeSession_changes hrun
  | start identity schema now => exact QualificationStore.start_changes hrun
  | decideConsent identity sessionId decision now updateKey =>
      exact QualificationStore.decideConsent_changes hrun
  | recordAnswer identity sessionId fieldKey answer now updateKey =>
      exact QualificationStore.recordAnswer_changes hrun
  | review identity sessionId editFieldKey => exact QualificationStore.review_changes hrun
  | complete identity sessionId lead score trigger now updateKey =>
      exact QualificationStore.complete_changes hrun
  | cancel identity => exact QualificationStore.cancel_changes hrun
  | addSchema schema => exact QualificationStore.addSchema_changes hrun
  | publishSchema tenantId schemaId => exact QualificationStore.publishSchema_changes hrun
  | schedule tenantId => exact .inl (QualificationStore.loadSchedule_ok hrun)
  | activeHandoff identity => exact .inl (HandoffStore.active_ok hrun)
  | createOrGet identity request now => exact HandoffStore.createOrGet_changes hrun
  | transition tenantId handoffId action actorId =>
      exact .inr (HandoffStore.transition_change hrun)
  | anonymize tenantId customerId idempotencyKey => exact anonymize_changes hrun

/-- A served call either raised and changed no row, or its transaction committed. -/
theorem serve_cases (call : WorkflowCall) (env : Environment) (s : WorkflowState) :
    (∃ error, (serve cfg call env s).1 = .error error ∧ (serve cfg call env s).2.db = s.db) ∨
      ∃ reply, (serve cfg call env s).1 = .ok reply ∧
        (transactionOf cfg env call).run s.db = .ok (reply, (serve cfg call env s).2.db) := by
  cases hrun : (transactionOf cfg env call).run s.db with
  | error error =>
      refine .inl ⟨error, ?_, ?_⟩
      · simp only [serve, Tx.commit_of_error hrun]
      · simp only [serve, Tx.commit_of_error hrun]
  | ok pair =>
      refine .inr ⟨pair.1, ?_, ?_⟩
      · simp only [serve, Tx.commit_of_ok hrun]
      · simp only [serve, Tx.commit_of_ok hrun]

/-- A call that returned committed its transaction. -/
theorem run_of_serve_ok {call : WorkflowCall} {env : Environment} {s : WorkflowState}
    {reply : call.Reply} (hreply : (serve cfg call env s).1 = .ok reply) :
    (transactionOf cfg env call).run s.db = .ok (reply, (serve cfg call env s).2.db) :=
  Tx.run_of_commit_ok hreply

/-- What serving a call does to the rows. -/
theorem changes_of_serve (call : WorkflowCall) (env : Environment) (s : WorkflowState) :
    Changes env s.db call (serve cfg call env s).2.db := by
  rcases Tx.commit_state (transactionOf cfg env call) s.db with hsame | ⟨reply, hrun⟩
  · exact .inl hsame
  · exact changes_of_run hrun

end BusinessAssistant.Persistence
