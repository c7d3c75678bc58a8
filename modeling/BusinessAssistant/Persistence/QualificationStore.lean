/-
# The qualification store

The transactions of `SQLAlchemyQualificationStore`, statement by statement. As in
the booking store a transaction is its reads and checks followed by its writes, and
whatever raises loses the writes.

The row of a session is locked before it is read, or read under an advisory lock
and written only if its revision has not changed, so a transaction sees the row as
it is when it commits and the model needs no locks. Of the constraints, those that
a drawn id, another row or a key can violate are checked.
-/

import BusinessAssistant.Persistence.BookingStore
import BusinessAssistant.Persistence.WorkflowWrites

namespace BusinessAssistant.Persistence

open BusinessAssistant.Domain BusinessAssistant.Application BusinessAssistant.Foundation

/-! ## What the transactions write -/

namespace QualificationSessionRow

/-- `row.status = expired`, `row.current_field_key = None` -/
def expire (row : QualificationSessionRow) : QualificationSessionRow :=
  { row with status := .expired, currentFieldKey := none }

/-- What `decide_consent` makes of the row, given the first required field. -/
def decide (decision : ConsentDecision) (now : Int) (firstRequired : Option Text)
    (row : QualificationSessionRow) : QualificationSessionRow :=
  { row with
    consentDecision := some decision
    consentAt := some now
    status :=
      match decision, firstRequired with
      | .accepted, some _ => .inProgress
      | .accepted, none => .reviewing
      | .declined, _ => .declined
    currentFieldKey :=
      match decision with
      | .accepted => firstRequired
      | .declined => none }

/-- What `record_answer` makes of the row, given the next missing field. -/
def record (fieldKey : Text) (stored : JsonValue) (missing : Option Text)
    (row : QualificationSessionRow) : QualificationSessionRow :=
  { row with
    answers := Entries.set fieldKey stored row.answers
    status := if missing.isSome then .inProgress else .reviewing
    currentFieldKey := missing }

/-- What `review` makes of the row when a field is edited. -/
def edit (fieldKey : Text) (row : QualificationSessionRow) : QualificationSessionRow :=
  { row with status := .inProgress, currentFieldKey := some fieldKey }

/-- What `review` makes of the row when nothing is missing. -/
def showReview (row : QualificationSessionRow) : QualificationSessionRow :=
  { row with status := .reviewing, currentFieldKey := none }

/-- What `complete` makes of the row. -/
def complete (leadId : LeadId) (row : QualificationSessionRow) : QualificationSessionRow :=
  { row with status := .completed, leadId := some leadId }

/-- What `cancel` makes of the row. -/
def cancel (row : QualificationSessionRow) : QualificationSessionRow :=
  { row with status := .cancelled, currentFieldKey := none }

end QualificationSessionRow

section Leads

variable [PythonText]

/-- `lead_to_row`, with what JSON makes of the answers. -/
def leadToRow (lead : Lead Answer) (serverNow : Int) : Except Failure LeadRow := do
  let answers ← jsonAnswers lead.answers
  let snapshot ← lead.qualificationSnapshot.mapM fun (snapshot : QualificationSnapshot Answer) => do
    let values ← jsonAnswers snapshot.answers
    pure
      { schemaCode := snapshot.schemaCode
        schemaVersion := snapshot.schemaVersion
        answers := values : QualificationSnapshot JsonValue }
  pure
    { id := lead.id
      tenantId := lead.tenantId
      customerId := lead.customerId
      conversationId := lead.conversationId
      schemaCode := lead.schemaCode
      schemaVersion := lead.schemaVersion
      source := lead.source
      answers := answers
      status := lead.status
      score := lead.score
      priority := lead.priority
      scoreExplanation := lead.scoreExplanation
      consentAt := lead.consentAt
      qualificationSnapshot := snapshot
      qualifiedAt := lead.qualifiedAt
      updatedAt := serverNow
      schemaVersionPositive := lead.identityPresent.2.1
      scoreValid := lead.scoreValid }

end Leads

/-- What `complete` takes over from the replacement of a lead. -/
def LeadRow.replaceBy (replacement row : LeadRow) : LeadRow :=
  { replacement with
    id := row.id
    tenantId := row.tenantId
    customerId := row.customerId
    conversationId := row.conversationId
    schemaCode := row.schemaCode }

/-- The case `complete` opens for a trigger. -/
def triggeredCase (env : Environment) (identity : TelegramIdentity)
    (sessionId : QualificationSessionId) (leadId : LeadId) (trigger : TriggerResult)
    (schedule : BusinessSchedule) (due : Int) : HandoffCaseRow where
  id := env.newId
  tenantId := identity.tenantId
  conversationId := identity.conversationId
  customerId := some identity.customerId
  leadId := some leadId
  reasonCode := trigger.reasonCode
  priority := trigger.priority
  status := .queued
  assigneeId := none
  summary := "Qualification triggered escalation: ".toList ++ trigger.reasonCode ++ ['.']
  context :=
    [("matched_rules", .texts trigger.matchedRules),
      ("timezone", .text schedule.timezone.key.toList)]
  idempotencyKey := some (triggerKey sessionId trigger.reasonCode)
  responseDueAt := due
  createdAt := env.serverNow

namespace WorkflowDatabase

variable (db : WorkflowDatabase)

/-- An active session of an identity other than the one with an id. -/
def HasOtherActive (identity : TelegramIdentity) (id : QualificationSessionId) : Prop :=
  ∃ row ∈ db.qualificationSessions, row.OfIdentity identity ∧ row.Active ∧ row.id ≠ id

instance (identity : TelegramIdentity) (id : QualificationSessionId) :
    Decidable (db.HasOtherActive identity id) :=
  inferInstanceAs (Decidable (∃ _ ∈ _, _))

/-- The order of times, as the one that computes. -/
local instance (priority := high) updatedOrder : Preorder Int := Int.instLinearOrder.toPreorder

/-- The leads `complete` may replace, the last one to change first. -/
def replaceableLead? (identity : TelegramIdentity) (schemaCode : Text) : Option LeadRow :=
  (db.leads.filter fun row =>
      row.tenantId = identity.tenantId ∧ row.customerId = identity.customerId ∧
        row.conversationId = identity.conversationId ∧ row.schemaCode = schemaCode ∧
        row.Replaceable).argmax (·.updatedAt)

/-- `active_session` on a session that has run out. -/
def expireSession (row : QualificationSessionRow) : WorkflowDatabase :=
  (db.updateSession row.id QualificationSessionRow.expire).setConversationWorkflow
    row.conversationId none

/-- `start` opens a new session. -/
def openSession (row : QualificationSessionRow) : WorkflowDatabase :=
  (db.insertSession row).setConversationWorkflow row.conversationId
    (some (qualificationWorkflow row.id))

/-- `decide_consent` -/
def writeConsent (row : QualificationSessionRow) (decision : ConsentDecision) (now : Int)
    (firstRequired : Option Text) (consent : QualificationConsentRow)
    (update : QualificationSessionUpdateRow) : WorkflowDatabase :=
  let written := ((db.updateSession row.id (QualificationSessionRow.decide decision now firstRequired))
    |>.insertConsent consent).insertUpdate update
  match decision with
  | .accepted => written
  | .declined => written.setConversationWorkflow row.conversationId none

/-- `record_answer` -/
def writeAnswer (row : QualificationSessionRow) (fieldKey : Text) (stored : JsonValue)
    (missing : Option Text) (update : QualificationSessionUpdateRow) : WorkflowDatabase :=
  (db.updateSession row.id (QualificationSessionRow.record fieldKey stored missing)).insertUpdate
    update

/-- `cancel` -/
def cancelSession (row : QualificationSessionRow) : WorkflowDatabase :=
  (db.updateSession row.id QualificationSessionRow.cancel).setConversationWorkflow
    row.conversationId none

/-- `complete` inserts the lead, or takes it over into the one that is there. -/
def writeLead (existing : Option LeadRow) (replacement : LeadRow) : WorkflowDatabase :=
  match existing with
  | none => db.insertLead replacement
  | some lead => db.updateLead lead.id replacement.replaceBy

/-- `complete` on the session and its conversation. -/
def writeCompletion (row : QualificationSessionRow) (leadId : LeadId) (event : OutboxEventRow)
    (update : QualificationSessionUpdateRow) : WorkflowDatabase :=
  (((db.updateSession row.id (QualificationSessionRow.complete leadId)).setConversationWorkflow
    row.conversationId none).addEvent event).insertUpdate update

/-- `publish_schema`: the published versions of the code give way to the target. -/
def publish (target : QualificationSchemaRow) : WorkflowDatabase :=
  { db with
    qualificationSchemas :=
      Table.update (fun row => row.id = target.id) (fun row => { row with published := true })
        (Table.update
          (fun row => row.tenantId = target.tenantId ∧ row.code = target.code ∧
            row.published = true)
          (fun row => { row with published := false }) db.qualificationSchemas) }

/-- Open a case: the conversation waits for staff. -/
def queueCase (case : HandoffCaseRow) (event : OutboxEventRow) : WorkflowDatabase :=
  ((db.insertCase case).updateConversation case.conversationId fun row =>
    { row with status := .handoffQueued, activeWorkflow := none }).addEvent event

end WorkflowDatabase

/-! ## Transactions -/

namespace QualificationStore

variable [PythonText] (cfg : WorkflowCatalogue) (env : Environment)

/-- `_schema_row` and `_schema` -/
def schemaRow (tenantId : TenantId) (schemaId : QualificationSchemaId) :
    Tx WorkflowDatabase Failure QualificationSchema := do
  let db ← get
  let row ← Tx.fetch
    (db.qualificationSchemas.find? fun row => row.tenantId = tenantId ∧ row.id = schemaId)
    (.valueError "Qualification schema is unavailable")
  Tx.lift (schemaOf row)

/-- `_locked_session` -/
def lockedSession (identity : TelegramIdentity) (sessionId : QualificationSessionId) :
    Tx WorkflowDatabase Failure (QualificationSessionRow × QualificationSchema) := do
  let db ← get
  let row ← Tx.fetch
    (db.qualificationSessions.find? fun row => row.OfIdentity identity ∧ row.id = sessionId)
    (.valueError "Qualification session is unavailable")
  let schema ← schemaRow identity.tenantId row.schemaId
  pure (row, schema)

/-- `_is_duplicate` -/
def isDuplicate (tenantId : TenantId) (sessionId : QualificationSessionId) (updateKey : Text) :
    Tx WorkflowDatabase Failure Bool := do
  let db ← get
  match db.qualificationSessionUpdates.find? fun row =>
      row.tenantId = tenantId ∧ row.updateKey = updateKey with
  | none => pure false
  | some found => do
      Tx.require (found.sessionId = sessionId)
        (.valueError "Qualification update belongs to another session")
      pure true

/-- How `decide_consent`, `record_answer` and `complete` begin: with the row locked,
an update that was recorded before returns the session as it is. -/
def oncePerKey (identity : TelegramIdentity) (sessionId : QualificationSessionId)
    (updateKey : Text)
    (body : QualificationSessionRow → QualificationSchema →
      Tx WorkflowDatabase Failure QualificationSession) :
    Tx WorkflowDatabase Failure QualificationSession := do
  let (row, schema) ← lockedSession identity sessionId
  if ← isDuplicate identity.tenantId row.id updateKey then Tx.lift (sessionOf row schema)
  else body row schema

/-- The row `_record_update` adds. -/
def updateRow (identity : TelegramIdentity) (sessionId : QualificationSessionId) (updateKey : Text)
    (operation : String) (now : Int) : QualificationSessionUpdateRow where
  tenantId := identity.tenantId
  sessionId := sessionId
  updateKey := updateKey
  operation := operation
  processedAt := now

/-- `published_schema` -/
def publishedSchema (tenantId : TenantId) (code : Text) :
    Tx WorkflowDatabase Failure (Option QualificationSchema) := do
  let db ← get
  match db.qualificationSchemas.find? fun row =>
      row.tenantId = tenantId ∧ row.code = code ∧ row.published = true ∧ row.active = true with
  | none => pure none
  | some row => some <$> Tx.lift (schemaOf row)

/-- `schema` -/
def schema (tenantId : TenantId) (schemaId : QualificationSchemaId) :
    Tx WorkflowDatabase Failure (Option QualificationSchema) := do
  let db ← get
  match db.qualificationSchemas.find? fun row => row.tenantId = tenantId ∧ row.id = schemaId with
  | none => pure none
  | some row => some <$> Tx.lift (schemaOf row)

/-- `active_session` -/
def activeSession (identity : TelegramIdentity) (now : Int) :
    Tx WorkflowDatabase Failure (Option QualificationSession) := do
  let db ← get
  match db.activeRow? identity with
  | none => pure none
  | some row => do
      let schema ← schemaRow identity.tenantId row.schemaId
      if row.expiresAt ≤ now then do
        modify (·.expireSession row)
        pure none
      else some <$> Tx.lift (sessionOf row schema)

/-- The session `start` inserts. -/
def newSession (identity : TelegramIdentity) (schema : QualificationSchema) (now : Int) :
    QualificationSessionRow where
  id := env.newId
  tenantId := identity.tenantId
  customerId := identity.customerId
  conversationId := identity.conversationId
  schemaId := schema.id
  schemaCode := schema.code
  schemaVersion := schema.version
  status := .awaitingConsent
  answers := []
  currentFieldKey := none
  expiresAt := now + schema.sessionTtl
  consentDecision := none
  consentAt := none
  leadId := none
  schemaVersionPositive := schema.identityValid.2.1

/-- `start` when no unexpired session is there. -/
def openSession (identity : TelegramIdentity) (schema : QualificationSchema) (now : Int) :
    Tx WorkflowDatabase Failure QualificationSession := do
  let db ← get
  Tx.require (∀ row ∈ db.qualificationSessions, row.id ≠ env.newId)
    (.integrity "pk_qualification_sessions")
  let conversation ← Tx.fetch (db.conversation? identity.conversationId)
    (.valueError "Qualification conversation is unavailable")
  Tx.require (conversation.tenantId = identity.tenantId ∧ conversation.status = .activeBot)
    (.valueError "Qualification conversation is unavailable")
  modify (·.openSession (newSession env identity schema now))
  Tx.lift (sessionOf (newSession env identity schema now) schema)

/-- `start` -/
def start (identity : TelegramIdentity) (schema : QualificationSchema) (now : Int) :
    Tx WorkflowDatabase Failure QualificationSession := do
  let db ← get
  match db.activeRow? identity with
  | none => openSession env identity schema now
  | some existing =>
      if existing.expiresAt > now then do
        let existingSchema ← schemaRow identity.tenantId existing.schemaId
        Tx.lift (sessionOf existing existingSchema)
      else do
        modify (·.updateSession existing.id QualificationSessionRow.expire)
        openSession env identity schema now

/-- The row `decide_consent` adds: it names the policy of the session's own schema. -/
def consentRow (identity : TelegramIdentity) (sessionId : QualificationSessionId)
    (schema : QualificationSchema) (decision : ConsentDecision) (now : Int) :
    QualificationConsentRow where
  tenantId := identity.tenantId
  sessionId := sessionId
  customerId := identity.customerId
  decision := decision
  consentVersion := schema.consentVersion
  purpose := schema.consentPurpose
  decidedAt := now

/-- `decide_consent` -/
def decideConsent (identity : TelegramIdentity) (sessionId : QualificationSessionId)
    (decision : ConsentDecision) (now : Int) (updateKey : Text) :
    Tx WorkflowDatabase Failure QualificationSession :=
  oncePerKey identity sessionId updateKey fun row schema => do
    Tx.require (row.status = .awaitingConsent)
      (.valueError "Qualification consent was already decided")
    let db ← get
    Tx.require
      (∀ consent ∈ db.qualificationConsents,
        ¬ (consent.tenantId = identity.tenantId ∧ consent.sessionId = row.id))
      (.integrity "uq_qualification_consents_tenant_id")
    let firstRequired := (nextMissingField schema []).map (·.key)
    modify (·.writeConsent row decision now firstRequired
      (consentRow identity row.id schema decision now)
      (updateRow identity row.id updateKey "consent" now))
    Tx.lift (sessionOf (row.decide decision now firstRequired) schema)

/-- `record_answer` -/
def recordAnswer (identity : TelegramIdentity) (sessionId : QualificationSessionId)
    (fieldKey : Text) (answer : Answer) (now : Int) (updateKey : Text) :
    Tx WorkflowDatabase Failure QualificationSession :=
  oncePerKey identity sessionId updateKey fun row schema => do
    Tx.require (row.status = .inProgress ∧ row.currentFieldKey = some fieldKey)
      (.valueError "Qualification answer is not expected")
    let typed ← Tx.lift
      (typedAnswers schema (Entries.set fieldKey (storedAnswer answer) row.answers))
    let missing := (nextMissingField schema typed).map (·.key)
    let stored ← Tx.lift (writeJson (storedAnswer answer))
    modify (·.writeAnswer row fieldKey stored missing
      (updateRow identity row.id updateKey "answer" now))
    Tx.lift (sessionOf (row.record fieldKey stored missing) schema)

/-- `review` -/
def review (identity : TelegramIdentity) (sessionId : QualificationSessionId)
    (editFieldKey : Option Text) : Tx WorkflowDatabase Failure QualificationSession := do
  let (row, schema) ← lockedSession identity sessionId
  let db ← get
  match editFieldKey with
  | some key => do
      Tx.require (key ∈ schema.fields.map (·.key))
        (.valueError "Qualification field is unavailable")
      Tx.require (¬ db.HasOtherActive identity row.id)
        (.integrity "uq_qualification_sessions_tenant_identity_active")
      modify (·.updateSession row.id (QualificationSessionRow.edit key))
      Tx.lift (sessionOf (row.edit key) schema)
  | none => do
      let typed ← Tx.lift (typedAnswers schema row.answers)
      if (nextMissingField schema typed).isNone then do
        Tx.require (¬ db.HasOtherActive identity row.id)
          (.integrity "uq_qualification_sessions_tenant_identity_active")
        modify (·.updateSession row.id QualificationSessionRow.showReview)
        Tx.lift (sessionOf row.showReview schema)
      else Tx.lift (sessionOf row schema)

/-- `_load_schedule` -/
def loadSchedule (tenantId : TenantId) : Tx WorkflowDatabase Failure BusinessSchedule := do
  let profile ← Tx.fetch (cfg.publicProfiles.find? fun row => row.tenantId = tenantId)
    (.valueError "Handoff schedule is unavailable")
  Tx.fetch (cfg.schedule? tenantId profile.scheduleId)
    (.valueError "Handoff schedule is unavailable")

/-- `complete` opens a case for a trigger. -/
def escalate (identity : TelegramIdentity) (schema : QualificationSchema)
    (sessionId : QualificationSessionId) (leadId : LeadId) (trigger : TriggerResult) (now : Int) :
    Tx WorkflowDatabase Failure Unit := do
  let schedule ← loadSchedule cfg identity.tenantId
  let due ← Tx.lift (businessDueAt schedule now (minutes schema.handoffResponseMinutes))
  let db ← get
  let case := triggeredCase env identity sessionId leadId trigger schedule due
  Tx.require (∀ row ∈ db.handoffCases, row.id ≠ case.id) (.integrity "pk_handoff_cases")
  Tx.require
    (∀ row ∈ db.handoffCases,
      ¬ (row.tenantId = case.tenantId ∧ row.idempotencyKey = case.idempotencyKey))
    (.integrity "uq_handoff_cases_tenant_id_idempotency_key")
  modify (·.queueCase case
    (outboxEvent identity.tenantId "handoff" case.id "handoff.queued"
      (handoffQualifiedKey sessionId) (.handoff case.id trigger.reasonCode trigger.priority) now))

/-- `complete` -/
def complete (identity : TelegramIdentity) (sessionId : QualificationSessionId)
    (lead : Lead Answer) (score : ScoreResult) (trigger : Option TriggerResult) (now : Int)
    (updateKey : Text) : Tx WorkflowDatabase Failure QualificationSession :=
  oncePerKey identity sessionId updateKey fun row schema =>
    if row.status = .completed then Tx.lift (sessionOf row schema)
    else do
      Tx.require (row.status = .reviewing)
        (.valueError "Qualification is not ready for submission")
      let db ← get
      let replacement ← Tx.lift (leadToRow lead env.serverNow)
      let existing := db.replaceableLead? identity schema.code
      let leadId := (existing.map (·.id)).getD replacement.id
      Tx.require (existing = none → ∀ row ∈ db.leads, row.id ≠ replacement.id)
        (.integrity "pk_leads")
      Tx.require ((db.conversation? identity.conversationId).isSome = true)
        (.valueError "Qualification conversation is unavailable")
      let event := outboxEvent identity.tenantId "lead" leadId "lead.qualified"
        (leadQualifiedKey row.id) (.lead leadId score.score score.grade) now
      Tx.require (∀ other ∈ db.outboxEvents, other.eventId ≠ event.eventId)
        (.integrity "pk_outbox_events")
      modify fun db => (db.writeLead existing replacement).writeCompletion row leadId event
        (updateRow identity row.id updateKey "complete" now)
      if let some result := trigger then
        escalate cfg env identity schema row.id leadId result now
      Tx.lift (sessionOf (row.complete leadId) schema)

/-- `cancel` -/
def cancel (identity : TelegramIdentity) : Tx WorkflowDatabase Failure Bool := do
  let db ← get
  match db.activeRow? identity with
  | none => pure false
  | some row => do
      modify (·.cancelSession row)
      pure true

/-! ## Administration -/

/-- `int(schema.session_ttl.total_seconds() // 60)` -/
def ttlMinutes (schema : QualificationSchema) : Int := schema.sessionTtl / 60000000

/-- The row `add_schema` inserts; `none` where a check of the table refuses it. -/
def newSchemaRow (schema : QualificationSchema) : Option QualificationSchemaRow :=
  if hvalid : 5 ≤ ttlMinutes schema ∧ ttlMinutes schema ≤ 10080 then
    some
      { id := schema.id
        tenantId := schema.tenantId
        code := schema.code
        version := schema.version
        title := schema.title
        consentVersion := schema.consentVersion
        consentPurpose := schema.consentPurpose
        definition := schemaDefinition schema
        gradeBands := schema.gradeBands.map fun band =>
          { minimumScore := band.minimumScore, grade := band.grade }
        sessionTtlMinutes := ttlMinutes schema
        handoffResponseMinutes := schema.handoffResponseMinutes
        published := false
        active := schema.active
        versionPositive := schema.identityValid.2.1
        sessionTtlValid := hvalid
        handoffResponseValid := schema.responseTimeValid }
  else none

/-- `add_schema` -/
def addSchema (schema : QualificationSchema) : Tx WorkflowDatabase Failure QualificationSchema := do
  let db ← get
  let row ← Tx.fetch (newSchemaRow schema)
    (.integrity "ck_qualification_schemas_session_ttl_valid")
  Tx.require (∀ other ∈ db.qualificationSchemas, other.id ≠ row.id)
    (.integrity "pk_qualification_schemas")
  Tx.require
    (∀ other ∈ db.qualificationSchemas,
      ¬ (other.tenantId = row.tenantId ∧ other.code = row.code ∧ other.version = row.version))
    (.integrity "uq_qualification_schemas_tenant_id_code_version")
  modify (·.insertSchema row)
  Tx.lift (schemaOf row)

/-- `publish_schema` -/
def publishSchema (tenantId : TenantId) (schemaId : QualificationSchemaId) :
    Tx WorkflowDatabase Failure QualificationSchema := do
  let db ← get
  let target ← Tx.fetch
    (db.qualificationSchemas.find? fun row => row.tenantId = tenantId ∧ row.id = schemaId)
    (.valueError "Qualification schema is unavailable")
  Tx.require (target.active = true) (.valueError "Qualification schema is unavailable")
  modify (·.publish target)
  Tx.lift (schemaOf { target with published := true })

end QualificationStore

end BusinessAssistant.Persistence
