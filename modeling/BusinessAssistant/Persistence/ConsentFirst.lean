/-
# Consent before everything else

Nothing checks the consent of a customer but the status of the session: an answer
is taken in progress, and a session is in progress once consent was accepted. The
one way around it is `edit`, which puts a session in progress whatever its status,
also one that still awaits consent.
-/

import BusinessAssistant.Persistence.OperationSafety
import BusinessAssistant.Persistence.RequestRuns

namespace BusinessAssistant.Persistence

open BusinessAssistant.Domain BusinessAssistant.Application BusinessAssistant.Foundation

/-! ## What is to hold -/

/-- Something was collected in the session, or is being collected. -/
def QualificationSessionRow.Collects (row : QualificationSessionRow) : Prop :=
  row.answers ≠ [] ∨ row.status = .inProgress ∨ row.status = .reviewing ∨
    row.status = .completed ∨ row.leadId ≠ none

/-- The customer accepted, and it was recorded no later than any answer of the
session. -/
def WorkflowDatabase.Consented (db : WorkflowDatabase) (row : QualificationSessionRow) : Prop :=
  row.consentDecision = some .accepted ∧
    ∃ consent ∈ db.qualificationConsents, consent.tenantId = row.tenantId ∧
      consent.sessionId = row.id ∧ consent.decision = .accepted ∧
        ∀ update ∈ db.qualificationSessionUpdates, update.tenantId = row.tenantId →
          update.sessionId = row.id → update.operation = "answer" →
            consent.decidedAt ≤ update.processedAt

section Notes

variable [PythonText] {cfg : WorkflowCatalogue} {env : Environment} {db db' : WorkflowDatabase}
  {call : WorkflowCall}

/-- What a call adds to the consents and to the updates. -/
inductive Notes (db : WorkflowDatabase) :
    WorkflowCall → List QualificationConsentRow → List QualificationSessionUpdateRow → Prop
  | kept {call : WorkflowCall} :
      Notes db call db.qualificationConsents db.qualificationSessionUpdates
  | consented {identity : TelegramIdentity} {row : QualificationSessionRow}
      {schema : QualificationSchema} {decision : ConsentDecision} {now : Int} {updateKey : Text}
      (hrow : row ∈ db.qualificationSessions) (howner : row.OfIdentity identity) :
      Notes db (.decideConsent identity row.id decision now updateKey)
        (db.qualificationConsents ++
          [QualificationStore.consentRow identity row.id schema decision now])
        (db.qualificationSessionUpdates ++
          [QualificationStore.updateRow identity row.id updateKey "consent" now])
  | answered {identity : TelegramIdentity} {row : QualificationSessionRow} {fieldKey : Text}
      {answer : Answer} {now : Int} {updateKey : Text}
      (hrow : row ∈ db.qualificationSessions) (hstatus : row.status = .inProgress) :
      Notes db (.recordAnswer identity row.id fieldKey answer now updateKey)
        db.qualificationConsents
        (db.qualificationSessionUpdates ++
          [QualificationStore.updateRow identity row.id updateKey "answer" now])
  | completed {identity : TelegramIdentity} {row : QualificationSessionRow} {lead : Lead Answer}
      {score : ScoreResult} {trigger : Option TriggerResult} {now : Int} {updateKey : Text}
      (hrow : row ∈ db.qualificationSessions) :
      Notes db (.complete identity row.id lead score trigger now updateKey)
        db.qualificationConsents
        (db.qualificationSessionUpdates ++
          [QualificationStore.updateRow identity row.id updateKey "complete" now])

/-- Opening a case records nothing. -/
theorem Escalated.notes {identity : TelegramIdentity} {schema : QualificationSchema}
    {sessionId : QualificationSessionId} {leadId : LeadId} {now : Int}
    {written after : WorkflowDatabase} {trigger : Option TriggerResult}
    (hafter : Escalated env identity schema sessionId leadId now written trigger after) :
    after.qualificationConsents = written.qualificationConsents ∧
      after.qualificationSessionUpdates = written.qualificationSessionUpdates := by
  cases trigger with
  | none =>
      cases hafter
      exact ⟨rfl, rfl⟩
  | some result =>
      obtain ⟨schedule, due, _, _, _, rfl⟩ := hafter
      exact ⟨rfl, rfl⟩

omit [PythonText] in
theorem notes_writeCompletion (db : WorkflowDatabase) (existing : Option LeadRow)
    (replacement : LeadRow) (row : QualificationSessionRow) (leadId : LeadId)
    (event : OutboxEventRow) (update : QualificationSessionUpdateRow) :
    ((db.writeLead existing replacement).writeCompletion row leadId event
        update).qualificationConsents = db.qualificationConsents ∧
      ((db.writeLead existing replacement).writeCompletion row leadId event
        update).qualificationSessionUpdates = db.qualificationSessionUpdates ++ [update] := by
  cases existing with
  | none => exact ⟨rfl, rfl⟩
  | some lead => exact ⟨rfl, rfl⟩

theorem WorkflowChange.notes (hchange : WorkflowChange env db call db') :
    Notes db call db'.qualificationConsents db'.qualificationSessionUpdates := by
  cases hchange with
  | expireSession => exact .kept
  | start hbase => cases hbase <;> exact .kept
  | @decideConsent _ _ _ decision _ _ hrow howner =>
      cases decision <;> exact .consented hrow howner
  | recordAnswer hrow _ _ _ hstatus => exact .answered hrow hstatus
  | edit => exact .kept
  | showReview => exact .kept
  | complete hrow _ _ _ _ _ _ _ _ _ hafter =>
      obtain ⟨hconsents, hupdates⟩ := hafter.notes
      rw [hconsents, hupdates, (notes_writeCompletion db _ _ _ _ _ _).1,
        (notes_writeCompletion db _ _ _ _ _ _).2]
      exact .completed hrow
  | cancel => exact .kept
  | addSchema => exact .kept
  | publishSchema => exact .kept
  | createCase => exact .kept
  | @transition row moved action =>
      unfold WorkflowDatabase.moveTo
      cases conversationStatus? action <;> exact .kept
  | anonymize => exact .kept

/-- A call that records an answer reads the clock no earlier than any consent. -/
def AnswersLate (db : WorkflowDatabase) : WorkflowCall → Prop
  | .recordAnswer _ _ _ _ now _ => ∀ consent ∈ db.qualificationConsents, consent.decidedAt ≤ now
  | _ => True

/-- Consents stay, and a new answer is later than all of them. -/
theorem Notes.later {consents : List QualificationConsentRow}
    {updates : List QualificationSessionUpdateRow} (hnotes : Notes db call consents updates)
    (hlate : AnswersLate db call) :
    (∀ consent ∈ db.qualificationConsents, consent ∈ consents) ∧
      ∀ update ∈ updates, update ∈ db.qualificationSessionUpdates ∨
        (update.operation = "answer" →
          ∀ consent ∈ db.qualificationConsents, consent.decidedAt ≤ update.processedAt) := by
  cases hnotes with
  | kept => exact ⟨fun _ hconsent => hconsent, fun _ hupdate => .inl hupdate⟩
  | consented =>
      refine ⟨fun _ hconsent => List.mem_append_left _ hconsent, ?_⟩
      intro update hupdate
      rcases Table.mem_append_row.mp hupdate with hold | rfl
      · exact .inl hold
      · have hother : "consent" ≠ "answer" := by decide
        exact .inr fun hanswer => absurd hanswer hother
  | answered =>
      refine ⟨fun _ hconsent => hconsent, ?_⟩
      intro update hupdate
      rcases Table.mem_append_row.mp hupdate with hold | rfl
      · exact .inl hold
      · exact .inr fun _ consent hconsent => hlate consent hconsent
  | completed =>
      refine ⟨fun _ hconsent => hconsent, ?_⟩
      intro update hupdate
      rcases Table.mem_append_row.mp hupdate with hold | rfl
      · exact .inl hold
      · have hother : "complete" ≠ "answer" := by decide
        exact .inr fun hanswer => absurd hanswer hother

/-- Every update is one of a session that is there. -/
theorem Notes.known {consents : List QualificationConsentRow}
    {updates : List QualificationSessionUpdateRow} (hnotes : Notes db call consents updates)
    (hknown : ∀ update ∈ db.qualificationSessionUpdates,
      ∃ origin ∈ db.origins, origin.id = update.sessionId) :
    ∀ update ∈ updates, ∃ origin ∈ db.origins, origin.id = update.sessionId := by
  have hnew : ∀ {row : QualificationSessionRow} {update : QualificationSessionUpdateRow},
      row ∈ db.qualificationSessions → update.sessionId = row.id →
        ∀ other ∈ db.qualificationSessionUpdates ++ [update],
          ∃ origin ∈ db.origins, origin.id = other.sessionId := by
    intro row update hrow hsession other hother
    rcases Table.mem_append_row.mp hother with hold | rfl
    · exact hknown other hold
    · exact ⟨row.origin, List.mem_map_of_mem hrow, hsession.symm⟩
  cases hnotes with
  | kept => exact hknown
  | consented hrow => exact hnew hrow rfl
  | answered hrow => exact hnew hrow rfl
  | completed hrow => exact hnew hrow rfl

/-- A consent is an old one, or the one just decided. -/
theorem Notes.decided {consents : List QualificationConsentRow}
    {updates : List QualificationSessionUpdateRow} (hnotes : Notes db call consents updates)
    (consent : QualificationConsentRow) (hconsent : consent ∈ consents) :
    consent ∈ db.qualificationConsents ∨ ∃ identity sessionId decision updateKey,
      call = .decideConsent identity sessionId decision consent.decidedAt updateKey := by
  cases hnotes with
  | consented =>
      rcases Table.mem_append_row.mp hconsent with hold | rfl
      · exact .inl hold
      · exact .inr ⟨_, _, _, _, rfl⟩
  | kept => exact .inl hconsent
  | answered => exact .inl hconsent
  | completed => exact .inl hconsent

/-- A session that awaits consent gets no answer. -/
theorem Notes.unanswered {consents : List QualificationConsentRow}
    {updates : List QualificationSessionUpdateRow} (hnotes : Notes db call consents updates)
    (hids : (db.origins.map (·.id)).Nodup) {row : QualificationSessionRow}
    (hrow : row ∈ db.qualificationSessions) (hawaits : row.status = .awaitingConsent)
    (hnone : ∀ update ∈ db.qualificationSessionUpdates, update.sessionId = row.id →
      update.operation ≠ "answer") :
    ∀ update ∈ updates, update.sessionId = row.id → update.operation ≠ "answer" := by
  intro update hupdate hsession
  cases hnotes with
  | kept => exact hnone update hupdate hsession
  | consented =>
      rcases Table.mem_append_row.mp hupdate with hold | rfl
      · exact hnone update hold hsession
      · have hother : "consent" ≠ "answer" := by decide
        exact hother
  | completed =>
      rcases Table.mem_append_row.mp hupdate with hold | rfl
      · exact hnone update hold hsession
      · have hother : "complete" ≠ "answer" := by decide
        exact hother
  | answered hanswered hstatus =>
      rcases Table.mem_append_row.mp hupdate with hold | rfl
      · exact hnone update hold hsession
      · obtain rfl := Table.eq_of_key_eq (WorkflowDatabase.nodup_rowIds hids) hanswered hrow hsession
        rw [hawaits] at hstatus
        cases hstatus

/-- A session that was consented to still is, whatever becomes of its row but for the
decision. -/
theorem WorkflowDatabase.Consented.after {row row' : QualificationSessionRow}
    (hconsented : db.Consented row) (horigin : row'.origin = row.origin)
    (hdecision : row'.consentDecision = row.consentDecision)
    (hnotes : Notes db call db'.qualificationConsents db'.qualificationSessionUpdates)
    (hlate : AnswersLate db call) : db'.Consented row' := by
  obtain ⟨hconsents, hupdates⟩ := hnotes.later hlate
  obtain ⟨haccepted, consent, hconsent, htenant, hsession, hdecided, hfirst⟩ := hconsented
  have hid : row'.id = row.id := congrArg SessionOrigin.id horigin
  have htenantId : row'.tenantId = row.tenantId := congrArg SessionOrigin.tenantId horigin
  refine ⟨hdecision.trans haccepted, consent, hconsents consent hconsent,
    htenant.trans htenantId.symm, hsession.trans hid.symm, hdecided, ?_⟩
  intro update hupdate htenant' hsession' hanswer
  rcases hupdates update hupdate with hold | hnew
  · exact hfirst update hold (htenant'.trans htenantId) (hsession'.trans hid) hanswer
  · exact hnew hanswer consent hconsent

end Notes

/-! ## The invariant -/

/-- What holds of consents, updates and sessions together. -/
structure ConsentLedger (s : WorkflowState) : Prop where
  ids : (s.db.origins.map (·.id)).Nodup
  known : ∀ update ∈ s.db.qualificationSessionUpdates,
    ∃ origin ∈ s.db.origins, origin.id = update.sessionId
  decided : ∀ consent ∈ s.db.qualificationConsents, consent.decidedAt ≤ s.clock
  untouched : ∀ row ∈ s.db.qualificationSessions, row.status = .awaitingConsent →
    ¬ row.Collects ∧ ∀ update ∈ s.db.qualificationSessionUpdates, update.sessionId = row.id →
      update.operation ≠ "answer"
  consented : ∀ row ∈ s.db.qualificationSessions, row.Collects → s.db.Consented row

section Operations

variable [PythonText] {cfg : WorkflowCatalogue} {schemaCode : Text} {env : Environment}
  {e : Execution} {start s : WorkflowState} {call : WorkflowCall}

/-- The operation does not edit a field of the active session while that still awaits
consent and has not run out. -/
def AsksConsentFirst (s : WorkflowState) : Execution → Prop
  | ⟨.edit identity sessionId fieldKey, envs⟩ =>
      ∀ row ∈ s.db.activeRow? identity, row.id = sessionId → row.status = .awaitingConsent →
        (∃ env ∈ envs, env.now < row.expiresAt) →
          ∀ schema ∈ s.db.stored? row.tenantId row.schemaId, fieldKey ∉ schema.fields.map (·.key)
  | _ => True

omit [PythonText] in
/-- Closing a session collects nothing. -/
theorem QualificationSessionRow.Collects.of_closed {row row' : QualificationSessionRow}
    (hcollects : row'.Collects) (hanswers : row'.answers = row.answers)
    (hlead : row'.leadId = row.leadId)
    (hstatus : row'.status = .expired ∨ row'.status = .declined ∨ row'.status = .cancelled) :
    row.Collects := by
  rcases hcollects with hany | hopen | hopen | hopen | hpoints
  · exact .inl (hanswers ▸ hany)
  · rcases hstatus with hclosed | hclosed | hclosed <;> rw [hclosed] at hopen <;> cases hopen
  · rcases hstatus with hclosed | hclosed | hclosed <;> rw [hclosed] at hopen <;> cases hopen
  · rcases hstatus with hclosed | hclosed | hclosed <;> rw [hclosed] at hopen <;> cases hopen
  · exact .inr (.inr (.inr (.inr (hlead ▸ hpoints))))

/-- A field is edited only in a session past its consent. -/
theorem collects_of_edit {identity : TelegramIdentity} {row : QualificationSessionRow}
    {fieldKey : Text} (hexpected : Expected schemaCode e start s (.review identity row.id (some fieldKey)))
    (hcondition : AsksConsentFirst start e) (hledger : ConsentLedger s)
    (hrow : row ∈ s.db.qualificationSessions) : row.Collects := by
  obtain ⟨⟨_, session, schema, hkey, hoperation, hfinds, hid, hfield⟩, hdb⟩ := hexpected
  cases hkey
  obtain ⟨found, answers, hfound, hschema, _, rfl, _, hlive⟩ := hfinds
  obtain ⟨operation, envs⟩ := e
  cases hoperation
  rw [AsksConsentFirst, ← hdb] at hcondition
  rw [← hdb] at hfound hschema
  obtain ⟨hmem, _, hactive⟩ := WorkflowDatabase.mem_of_activeRow? hfound
  obtain rfl := Table.eq_of_key_eq (WorkflowDatabase.nodup_rowIds hledger.ids) hmem hrow hid
  have hdecided : found.status ≠ .awaitingConsent := by
    intro hawaits
    exact hcondition found hfound rfl hawaits hlive schema
      (WorkflowDatabase.stored?_eq_some.mpr hschema) hfield
  cases hstatus : found.status with
  | awaitingConsent => exact absurd hstatus hdecided
  | inProgress => exact .inr (.inl hstatus)
  | reviewing => exact .inr (.inr (.inl hstatus))
  | _ =>
      rw [QualificationSessionRow.Active, hstatus] at hactive
      cases hactive

/-- A session that collects after an expected call did so before, under the same
decision, unless consent was accepted just now. -/
theorem SessionStep.collects {row row' : QualificationSessionRow}
    (hstep : SessionStep s.db call row row') (hexpected : Expected schemaCode e start s call)
    (hcondition : AsksConsentFirst start e) (hledger : ConsentLedger s)
    (hrow : row ∈ s.db.qualificationSessions) (hcollects : row'.Collects) :
    row'.consentDecision = row.consentDecision ∧ row.Collects ∨
      row.status = .awaitingConsent ∧ row'.consentDecision = some .accepted ∧
        ∃ identity now updateKey, row.OfIdentity identity ∧
          call = .decideConsent identity row.id .accepted now updateKey := by
  cases hstep with
  | expire => exact .inl ⟨rfl, hcollects.of_closed rfl rfl (.inl rfl)⟩
  | @decide _ _ _ decision _ _ howner _ _ hstatus =>
      cases decision with
      | accepted => exact .inr ⟨hstatus, rfl, _, _, _, howner, rfl⟩
      | declined =>
          have hbefore : row.Collects := hcollects.of_closed rfl rfl (.inr (.inl rfl))
          exact absurd hbefore (hledger.untouched row hrow hstatus).1
  | record _ _ _ hstatus => exact .inl ⟨rfl, .inr (.inl hstatus)⟩
  | edit => exact .inl ⟨rfl, collects_of_edit hexpected hcondition hledger hrow⟩
  | showReview =>
      obtain ⟨⟨_, _, _, hkey, _⟩, _⟩ := hexpected
      cases hkey
  | complete _ _ hstatus => exact .inl ⟨rfl, .inr (.inr (.inl hstatus))⟩
  | cancel => exact .inl ⟨rfl, hcollects.of_closed rfl rfl (.inr (.inr rfl))⟩
  | anonymize => cases hexpected

/-- A new session has collected nothing. -/
theorem not_collects_newSession (env : Environment) (identity : TelegramIdentity)
    (schema : QualificationSchema) (now : Int) :
    ¬ (QualificationStore.newSession env identity schema now).Collects := by
  simp [QualificationSessionRow.Collects, QualificationStore.newSession]

/-- No call makes a session await consent again. -/
theorem SessionStep.not_awaiting {row row' : QualificationSessionRow}
    (hstep : SessionStep s.db call row row') (hexpected : Expected schemaCode e start s call) :
    row'.status ≠ .awaitingConsent := by
  intro hawaits
  cases hstep with
  | @decide _ _ schema decision =>
      cases decision with
      | declined => cases hawaits
      | accepted =>
          cases hmissing : (nextMissingField schema []).map (·.key) <;>
            simp [QualificationSessionRow.decide, hmissing] at hawaits
  | @record _ _ schema _ _ _ _ typed =>
      cases hmissing : (nextMissingField schema typed).map (·.key) <;>
        simp [QualificationSessionRow.record, hmissing] at hawaits
  | anonymize => cases hexpected
  | _ => cases hawaits

/-- A consent that is accepted is recorded before any answer. -/
theorem consented_of_decide {db' : WorkflowDatabase} {identity : TelegramIdentity}
    {row row' : QualificationSessionRow} {now : Int} {updateKey : Text}
    (hchange : WorkflowChange env s.db (.decideConsent identity row.id .accepted now updateKey) db')
    (hledger : ConsentLedger s) (hrow : row ∈ s.db.qualificationSessions)
    (howner : row.OfIdentity identity) (hawaits : row.status = .awaitingConsent)
    (horigin : row'.origin = row.origin) (haccepted : row'.consentDecision = some .accepted) :
    db'.Consented row' := by
  have hid : row'.id = row.id := congrArg SessionOrigin.id horigin
  have htenant : row'.tenantId = row.tenantId := congrArg SessionOrigin.tenantId horigin
  generalize hsession : row.id = sessionId at hchange
  cases hchange with
  | decideConsent =>
      refine ⟨haccepted, _, List.mem_append_right _ (List.mem_singleton_self _),
        (htenant.trans howner.1).symm, (hid.trans hsession).symm, rfl, ?_⟩
      intro update hupdate _ hupdate_session hanswer
      rcases Table.mem_append_row.mp hupdate with hold | rfl
      · exact absurd hanswer ((hledger.untouched row hrow hawaits).2 update hold
          (hupdate_session.trans hid))
      · have hother : "consent" ≠ "answer" := by decide
        exact absurd hanswer hother

omit [PythonText] in
/-- Time passes. -/
theorem ConsentLedger.of_db {s' : WorkflowState} (hledger : ConsentLedger s)
    (hdb : s'.db = s.db) (hclock : s.clock ≤ s'.clock) : ConsentLedger s' := by
  refine ⟨?_, ?_, ?_, ?_, ?_⟩
  · rw [hdb]
    exact hledger.ids
  · rw [hdb]
    exact hledger.known
  · rw [hdb]
    exact fun consent hconsent => (hledger.decided consent hconsent).trans hclock
  · rw [hdb]
    exact hledger.untouched
  · rw [hdb]
    exact hledger.consented

/-- One expected call keeps the ledger. -/
theorem ConsentLedger.serve (hledger : ConsentLedger s) (hstart : ConsentLedger start)
    (hcondition : AsksConsentFirst start e) (hexpected : Expected schemaCode e start s call)
    (hadmits : Admits e.envs s env) : ConsentLedger (serve cfg call env s).2 := by
  have hlate : AnswersLate s.db call := by
    cases call with
    | recordAnswer identity sessionId fieldKey answer now updateKey =>
        obtain ⟨_, hread, hdb⟩ := hexpected
        intro consent hconsent
        rw [hdb] at hconsent
        exact (hstart.decided consent hconsent).trans hread.1
    | _ => exact trivial
  have hkept : ∀ origin ∈ s.db.origins, origin ∈ (Persistence.serve cfg call env s).2.db.origins :=
    (rely_serve call env s).2
  have hids : ((Persistence.serve cfg call env s).2.db.origins.map (·.id)).Nodup :=
    nodup_sessionIds_serve hledger.ids call env
  have hclock : s.clock ≤ (Persistence.serve cfg call env s).2.clock := hadmits.1
  have hchanges : Changes env s.db call (Persistence.serve cfg call env s).2.db :=
    changes_of_serve call env s
  generalize (Persistence.serve cfg call env s).2 = s' at hkept hids hclock hchanges ⊢
  rcases hchanges with hsame | hchange
  · exact hledger.of_db hsame hclock
  · have hnotes := hchange.notes
    refine ⟨hids, ?_, ?_, ?_, ?_⟩
    · intro update hupdate
      obtain ⟨origin, horigin, hid⟩ := hnotes.known hledger.known update hupdate
      exact ⟨origin, hkept origin horigin, hid⟩
    · intro consent hconsent
      rcases hnotes.decided consent hconsent with hold | ⟨_, _, _, _, rfl⟩
      · exact (hledger.decided consent hold).trans hclock
      · obtain ⟨_, hread, _⟩ := hexpected
        exact hread.2.trans hclock
    · intro row hrow hawaits
      cases hchange.session hledger.ids hrow with
      | kept hold =>
          obtain ⟨hcollects, hunanswered⟩ := hledger.untouched row hold hawaits
          exact ⟨hcollects, hnotes.unanswered hledger.ids hold hawaits hunanswered⟩
      | moved _ hstep => exact absurd hawaits (hstep.not_awaiting hexpected)
      | opened hfresh =>
          refine ⟨not_collects_newSession _ _ _ _, ?_⟩
          intro update hupdate hsession
          obtain ⟨origin, horigin, hid⟩ := hnotes.known hledger.known update hupdate
          exact absurd (hid.trans hsession) (hfresh origin horigin)
    · intro row hrow hcollects
      cases hchange.session hledger.ids hrow with
      | kept hold => exact (hledger.consented row hold hcollects).after rfl rfl hnotes hlate
      | opened => exact absurd hcollects (not_collects_newSession _ _ _ _)
      | @moved _ before _ hbefore hstep =>
          rcases hstep.collects hexpected hcondition hledger hbefore hcollects with
            ⟨hdecision, hcollected⟩ | ⟨hawaits, haccepted, _, _, _, howner, rfl⟩
          · exact (hledger.consented before hbefore hcollected).after hstep.origin hdecision hnotes
              hlate
          · exact consented_of_decide hchange hledger hbefore howner hawaits hstep.origin haccepted

/-! ## Every run -/

/-- In every run of operations none of which edits a session that awaits consent,
whatever was collected was collected with consent. -/
theorem nothing_without_consent
    (hs : ((operationSystem cfg schemaCode).restrict AsksConsentFirst).Reachable s) :
    ∀ row ∈ s.db.qualificationSessions, row.Collects → s.db.Consented row := by
  have hledger : ConsentLedger s := by
    apply hs.invariant
    · intro start hfresh
      have hids := WorkflowDatabase.Fresh.nodup_sessionIds hfresh
      obtain ⟨hsessions, hconsents, hupdates, _⟩ := hfresh
      refine ⟨hids, ?_, ?_, ?_, ?_⟩
      · simp [hupdates]
      · simp [hconsents]
      · simp [hsessions]
      · simp [hsessions]
    · rintro start e after _ hledger ⟨hcondition, hadmitted, outcome, hrun⟩
      exact e.keeps
        (fun _ _ _ hnow hexpected hadmits => hnow.serve hledger hcondition hexpected hadmits)
        hledger hadmitted hrun
  exact hledger.consented

end Operations

/-! ## In the small shop -/

section Shop

open Shop

instance decidableAsksConsentFirst (s : WorkflowState) : DecidablePred (AsksConsentFirst s)
  | ⟨.edit identity sessionId fieldKey, envs⟩ =>
      inferInstanceAs (Decidable (∀ row ∈ s.db.activeRow? identity, row.id = sessionId →
        row.status = .awaitingConsent → (∃ env ∈ envs, env.now < row.expiresAt) →
          ∀ schema ∈ s.db.stored? row.tenantId row.schemaId, fieldKey ∉ schema.fields.map (·.key)))
  | ⟨.start _, _⟩ | ⟨.active _, _⟩ | ⟨.consent _ _ _ _, _⟩ | ⟨.answer _ _ _, _⟩
  | ⟨.submit _ _ _, _⟩ | ⟨.cancel _, _⟩ | ⟨.addSchema _ _, _⟩ | ⟨.publishSchema _ _, _⟩ =>
      .isTrue trivial

/-- A customer agrees, answers a question and then answers it again. -/
def Shop.answersTwice : List Execution :=
  [performs (.start (identity 0)) 4 10 1,
    performs (.consent (identity 0) (BitVec.ofNat 128 1) true "k1".toList) 5 20 0,
    performs (.answer (identity 0) "A new roof".toList "k2".toList) 5 30 0,
    performs (.edit (identity 0) (BitVec.ofNat 128 1) "need".toList) 5 40 0,
    performs (.answer (identity 0) "A new door".toList "k3".toList) 5 50 0]

theorem nothing_without_consent_in_shop :
    (∃ row ∈ (served answersTwice).db.qualificationSessions, row.answers ≠ []) ∧
      ∀ row ∈ (served answersTwice).db.qualificationSessions, row.Collects →
        (served answersTwice).db.Consented row :=
  ⟨by decide +kernel, nothing_without_consent (served_reachable (by decide +kernel))⟩

/-- A customer who has not agreed yet edits a field and answers it. -/
def Shop.editsFirst : List Execution :=
  [performs (.start (identity 0)) 4 10 1,
    performs (.edit (identity 0) (BitVec.ofNat 128 1) "need".toList) 5 20 0,
    performs (.answer (identity 0) "A new roof".toList "k1".toList) 5 30 0]

/-- An answer is stored in a session without consent. -/
theorem answer_without_consent :
    ∃ s, (operationSystem workflowCatalogue intake).Reachable s ∧
      ∃ row ∈ s.db.qualificationSessions, row.Collects ∧ ¬ s.db.Consented row := by
  have hreachable : ((operationSystem workflowCatalogue intake).restrict
      fun _ _ => True).Reachable (served editsFirst) := served_reachable (by decide +kernel)
  have hanswered : ∃ row ∈ (served editsFirst).db.qualificationSessions,
      row.answers ≠ [] ∧ row.consentDecision ≠ some .accepted := by decide +kernel
  obtain ⟨row, hrow, hanswers, hundecided⟩ := hanswered
  exact ⟨_, hreachable.of_restrict, row, hrow, .inl hanswers, fun h => hundecided h.1⟩

end Shop

end BusinessAssistant.Persistence
