/-
# Sessions that have run out

An operation on a session whose time is over accepts nothing for it where it reads the
active session before it writes: the read stores the expiry and the operation raises.
`consent` writes first.
-/

import BusinessAssistant.Persistence.ReadableSessions
import BusinessAssistant.Persistence.RequestRuns

namespace BusinessAssistant.Persistence

open BusinessAssistant.Domain BusinessAssistant.Application BusinessAssistant.Foundation

section Expiry

variable [PythonText]

/-! ## Statement -/

/-- The session an operation is about, by its id or as the active one of the customer. -/
def Operation.Names (db : WorkflowDatabase) (row : QualificationSessionRow) : Operation → Prop
  | .consent _ sessionId _ _ | .edit _ sessionId _ | .submit _ sessionId _ => row.id = sessionId
  | .answer identity _ _ => db.activeRow? identity = some row
  | _ => False

instance (db : WorkflowDatabase) (row : QualificationSessionRow) (operation : Operation) :
    Decidable (operation.Names db row) := by
  cases operation <;> unfold Operation.Names <;> infer_instance

/-- No consent, answer or lead was added for a session, its answers and its consent
decision are as they were, and it is expired or was closed before. -/
def AcceptsNothing (db db' : WorkflowDatabase) (row : QualificationSessionRow) : Prop :=
  (∀ consent ∈ db'.qualificationConsents, consent.sessionId = row.id →
      consent ∈ db.qualificationConsents) ∧
    (∀ lead ∈ db'.leads, lead ∈ db.leads) ∧
    ∃ row' ∈ db'.qualificationSessions, row'.id = row.id ∧ row'.answers = row.answers ∧
      row'.consentDecision = row.consentDecision ∧ row'.leadId = row.leadId ∧
      (row'.status = .expired ∨ ¬ row.Active)

/-- The session a tenant's update key was recorded for. -/
def WorkflowDatabase.recordedFor? (db : WorkflowDatabase) (tenantId : TenantId)
    (updateKey : Text) : Option QualificationSessionId :=
  (db.qualificationSessionUpdates.find? fun row =>
    row.tenantId = tenantId ∧ row.updateKey = updateKey).map (·.sessionId)

/-- The operation closes a session whose time is over, or finds it closed. Only the
customer's own session can be closed, and `consent` closes it only where it replays. -/
def Operation.ClosesExpired (db : WorkflowDatabase) (row : QualificationSessionRow) :
    Operation → Prop
  | .consent identity _ _ updateKey => ¬ row.Active ∨
      row.OfIdentity identity ∧ db.recordedFor? identity.tenantId updateKey = some row.id
  | .edit identity _ _ | .submit identity _ _ => ¬ row.Active ∨ row.OfIdentity identity
  | _ => True

/-! ## What a session is left with -/

section Rows

variable {db db' : WorkflowDatabase} {row : QualificationSessionRow}

/-- A change that passes a session by. -/
def Spares (row : QualificationSessionRow) (db db' : WorkflowDatabase) : Prop :=
  row ∈ db'.qualificationSessions ∧ db'.qualificationConsents = db.qualificationConsents ∧
    db'.leads = db.leads

omit [PythonText] in
theorem Spares.refl (hrow : row ∈ db.qualificationSessions) : Spares row db db :=
  ⟨hrow, rfl, rfl⟩

omit [PythonText] in
/-- A session that was passed by stays open where it was open. -/
theorem Spares.acceptsNothing_iff (hspares : Spares row db db')
    (hids : (db'.origins.map (·.id)).Nodup) : AcceptsNothing db db' row ↔ ¬ row.Active := by
  obtain ⟨hrow, hconsents, hleads⟩ := hspares
  constructor
  · intro haccepts hactive
    obtain ⟨_, _, row', hrow', hid, _, _, _, hstatus⟩ := haccepts
    have hsame : row' = row :=
      Table.eq_of_key_eq (WorkflowDatabase.nodup_rowIds hids) hrow' hrow hid
    rcases hstatus with hexpired | hclosed
    · rw [hsame] at hexpired
      rw [QualificationSessionRow.Active, hexpired] at hactive
      cases hactive
    · exact hclosed hactive
  · intro hclosed
    rw [AcceptsNothing, hconsents, hleads]
    exact ⟨fun _ hconsent _ => hconsent, fun _ hlead => hlead, row, hrow, rfl, rfl, rfl, rfl,
      .inr hclosed⟩

omit [PythonText] in
theorem acceptsNothing_expireSession (hrow : row ∈ db.qualificationSessions) :
    AcceptsNothing db (db.expireSession row) row := by
  refine ⟨fun _ hconsent _ => hconsent, fun _ hlead => hlead, row.expire, ?_, rfl, rfl, rfl, rfl,
    .inl rfl⟩
  exact Table.mem_update_of_selected hrow rfl

omit [PythonText] in
/-- Another session runs out. -/
theorem spares_expireSession {other : QualificationSessionRow}
    (hrow : row ∈ db.qualificationSessions) (hid : row.id ≠ other.id) :
    Spares row db (db.expireSession other) :=
  ⟨Table.mem_update_of_not_selected hrow hid, rfl, rfl⟩

end Rows

/-! ## Reading the active session -/

section Alone

variable {cfg : WorkflowCatalogue} {s : WorkflowState} {row : QualificationSessionRow}
  {identity : TelegramIdentity}

/-- A program served alone after a session's time is over. -/
abbrev ServedLate {α : Type} (cfg : WorkflowCatalogue) (row : QualificationSessionRow)
    (post : Except Failure α → WorkflowState → Prop) (program : Service α) (s : WorkflowState) :
    Prop :=
  Program.Safe (serve cfg) (fun _ env => row.expiresAt ≤ env.now) Eq (fun _ _ => True) post
    program s

/-- The rule for one call. -/
theorem call_late (call : WorkflowCall)
    {post : Except Failure call.Reply → WorkflowState → Prop}
    (h : ∀ env, row.expiresAt ≤ env.now → post (serve cfg call env s).1 (serve cfg call env s).2) :
    ServedLate cfg row post (Program.perform call : Service call.Reply) s := by
  apply Program.Safe.perform
  intro s' hsame
  cases hsame
  exact ⟨trivial, h⟩

theorem clock_late :
    ServedLate cfg row
      (fun outcome s' => s'.db = s.db ∧ ∃ now, outcome = .ok now ∧ row.expiresAt ≤ now)
      Service.clockNow s :=
  call_late .now fun env hlate => ⟨rfl, env.now, rfl, hlate⟩

/-- The read of a session whose time is over stores its expiry. -/
theorem activeSession_late {now : Int} (hreadable : SessionsReadable s.db)
    (hfound : s.db.activeRow? identity = some row) (hnow : row.expiresAt ≤ now) :
    ServedLate cfg row (fun outcome s' => outcome = .ok none ∧ s'.db = s.db.expireSession row)
      (Service.activeSession identity now) s := by
  refine call_late (.activeSession identity now) fun env _ => ?_
  obtain ⟨hrow, howner, _⟩ := WorkflowDatabase.mem_of_activeRow? hfound
  obtain ⟨schema, typed, ⟨found, hschema, hread⟩, _⟩ := hreadable.readable row hrow
  rw [howner.1] at hschema
  have hstored : (QualificationStore.schemaRow identity.tenantId row.schemaId).run s.db =
      .ok (schema, s.db) := by
    rw [QualificationStore.schemaRow, Tx.run_get_bind, hschema, Tx.run_fetch_bind_some, hread]
    rfl
  have hrun : (QualificationStore.activeSession identity now).run s.db =
      .ok (none, s.db.expireSession row) := by
    rw [QualificationStore.activeSession, Tx.run_get_bind]
    simp only [hfound]
    rw [Tx.run_bind_of_ok hstored, if_pos hnow]
    rfl
  have hcommit := Tx.commit_of_ok hrun
  exact ⟨congrArg Prod.fst hcommit, congrArg Prod.snd hcommit⟩

/-- Another read of the clock and of an active session passes a session by that is not
the one it finds, and returns another one. -/
theorem activeSession_spares {now : Int} (start : WorkflowDatabase) (hspares : Spares row start s.db)
    (hother : ∀ other, s.db.activeRow? identity = some other → row.id ≠ other.id) :
    ServedLate cfg row
      (fun outcome s' => Spares row start s'.db ∧
        ∀ session, outcome = .ok (some session) → session.id ≠ row.id)
      (Service.activeSession identity now) s := by
  refine call_late (.activeSession identity now) fun env _ => ?_
  rcases @serve_cases _ cfg (.activeSession identity now) env s with
    ⟨error, hreply, hdb⟩ | ⟨found, hreply, hrun⟩
  · rw [hdb, hreply]
    exact ⟨hspares, by rintro _ ⟨⟩⟩
  · rw [hreply]
    rcases QualificationStore.activeSession_ok hrun with
      ⟨_, rfl, hdb⟩ | ⟨other, schema, hfound, _, ⟨_, rfl, hdb⟩ | ⟨shown, _, hread, rfl, hdb⟩⟩
    · rw [hdb]
      exact ⟨hspares, by rintro _ ⟨⟩⟩
    · rw [hdb]
      obtain ⟨hrow, hconsents, hleads⟩ := hspares
      exact ⟨⟨(spares_expireSession hrow (hother other hfound)).1, hconsents, hleads⟩, by
        rintro _ ⟨⟩⟩
    · rw [hdb]
      refine ⟨hspares, ?_⟩
      intro session hsession
      cases hsession
      obtain ⟨answers, _, rfl⟩ := sessionOf_ok hread
      exact (hother other hfound).symm

/-- Reading a schema changes nothing. -/
theorem schema_late {tenantId : TenantId} {schemaId : QualificationSchemaId} :
    ServedLate cfg row (fun _ s' => s'.db = s.db) (Service.schema tenantId schemaId) s := by
  refine call_late (.schema tenantId schemaId) fun env _ => ?_
  rcases @serve_cases _ cfg (.schema tenantId schemaId) env s with
    ⟨error, _, hdb⟩ | ⟨found, _, hrun⟩
  · exact hdb
  · exact (QualificationStore.schema_ok hrun).1

/-- `active` on a session whose time is over -/
theorem active_late (hreadable : SessionsReadable s.db)
    (hfound : s.db.activeRow? identity = some row) :
    ServedLate cfg row (fun outcome s' => outcome = .ok none ∧ s'.db = s.db.expireSession row)
      (QualificationApplication.active identity) s := by
  unfold QualificationApplication.active
  refine Program.Safe.bind clock_late ?_ ?_
  · rintro _ middle ⟨hdb, now, ⟨⟩, hnow⟩
    rw [← hdb] at hreadable hfound ⊢
    refine (activeSession_late hreadable hfound hnow).bind ?_ ?_
    · rintro _ last ⟨⟨⟩, hlast⟩
      exact Program.Safe.returns ⟨rfl, hlast⟩
    · rintro _ last ⟨⟨⟩, _⟩
  · rintro _ middle ⟨_, _, ⟨⟩, _⟩

/-- `active` finds another session, or none. -/
theorem active_spares (hrow : row ∈ s.db.qualificationSessions)
    (hother : ∀ other, s.db.activeRow? identity = some other → row.id ≠ other.id) :
    ServedLate cfg row
      (fun outcome s' => Spares row s.db s'.db ∧
        ∀ session schema, outcome = .ok (some (session, schema)) → session.id ≠ row.id)
      (QualificationApplication.active identity) s := by
  unfold QualificationApplication.active
  refine Program.Safe.bind clock_late ?_ ?_
  · rintro now middle ⟨hdb, _⟩
    rw [← hdb] at hrow hother ⊢
    refine (activeSession_spares middle.db (.refl hrow) hother).bind ?_ ?_
    · rintro found last ⟨hspared, hreturned⟩
      cases found with
      | none => exact Program.Safe.returns ⟨hspared, by rintro _ _ ⟨⟩⟩
      | some session =>
          refine Program.Safe.bind schema_late ?_ ?_
          · intro schema end' hend
            rw [← hend] at hspared
            cases schema with
            | none => exact Program.Safe.returns ⟨hspared, by rintro _ _ ⟨⟩⟩
            | some schema =>
                simp only
                split
                · exact Program.Safe.returns ⟨hspared, by rintro _ _ ⟨⟩⟩
                · refine Program.Safe.returns ⟨hspared, ?_⟩
                  rintro other schema ⟨⟩
                  exact hreturned _ rfl
          · intro error end' hend
            rw [← hend] at hspared
            exact ⟨hspared, by rintro _ _ ⟨⟩⟩
    · rintro error last ⟨hspared, _⟩
      exact ⟨hspared, by rintro _ _ ⟨⟩⟩
  · rintro error middle ⟨_, _, ⟨⟩, _⟩

/-! ## The operations -/

/-- `edit`, `answer` and `submit` read the active session first. -/
theorem late_after_active {α : Type} (hreadable : SessionsReadable s.db)
    (hfound : s.db.activeRow? identity = some row)
    {rest : Option (QualificationSession × QualificationSchema) → Service α} {error : Failure}
    (hnone : rest none = Program.raise error) :
    ServedLate cfg row (fun _ s' => AcceptsNothing s.db s'.db row)
      (QualificationApplication.active identity >>= rest) s := by
  obtain ⟨hrow, _⟩ := WorkflowDatabase.mem_of_activeRow? hfound
  refine (active_late hreadable hfound).bind ?_ ?_
  · rintro _ last ⟨⟨⟩, hlast⟩
    rw [hnone]
    refine Program.Safe.raises ?_
    rw [hlast]
    exact acceptsNothing_expireSession hrow
  · rintro _ last ⟨⟨⟩, _⟩

/-- They raise when another session is active than the one they name. -/
theorem spares_after_active {α : Type} (hrow : row ∈ s.db.qualificationSessions)
    (hother : ∀ other, s.db.activeRow? identity = some other → row.id ≠ other.id)
    {rest : Option (QualificationSession × QualificationSchema) → Service α}
    (hrest : ∀ found, (∀ session schema, found = some (session, schema) → session.id ≠ row.id) →
      ∃ error, rest found = Program.raise error) :
    ServedLate cfg row (fun _ s' => Spares row s.db s'.db)
      (QualificationApplication.active identity >>= rest) s := by
  refine (active_spares hrow hother).bind ?_ ?_
  · rintro found last ⟨hspared, hreturned⟩
    obtain ⟨error, hraises⟩ := hrest found fun session schema hsome =>
      hreturned session schema (congrArg Except.ok hsome)
    rw [hraises]
    exact Program.Safe.raises hspared
  · rintro error last ⟨hspared, _⟩
    exact hspared

/-- An update key that was recorded for a session is answered with the session, one of
another session is refused, and under a new one the body runs on the row. -/
theorem QualificationStore.oncePerKey_run {db : WorkflowDatabase} {updateKey : Text}
    {body : QualificationSessionRow → QualificationSchema →
      Tx WorkflowDatabase Failure QualificationSession}
    (hids : (db.origins.map (·.id)).Nodup) (hrow : row ∈ db.qualificationSessions)
    (howner : row.OfIdentity identity) {schema : QualificationSchema}
    (hschema : db.Stores identity.tenantId row.schemaId schema) :
    (oncePerKey identity row.id updateKey body).run db =
      match db.recordedFor? identity.tenantId updateKey with
      | none => (body row schema).run db
      | some sessionId =>
          if sessionId = row.id then (Tx.lift (sessionOf row schema)).run db
          else .error (.valueError "Qualification update belongs to another session") := by
  obtain ⟨stored, hstored, hread⟩ := hschema
  have hlocked : (lockedSession identity row.id).run db = .ok ((row, schema), db) := by
    have hfound : db.qualificationSessions.find?
        (fun other => other.OfIdentity identity ∧ other.id = row.id) = some row := by
      refine Table.find?_eq_some_of_unique hrow ⟨howner, rfl⟩ ?_
      intro other hother hboth
      exact Table.eq_of_key_eq (WorkflowDatabase.nodup_rowIds hids) hother hrow hboth.2
    have hschema : (schemaRow identity.tenantId row.schemaId).run db = .ok (schema, db) := by
      rw [schemaRow, Tx.run_get_bind, hstored, Tx.run_fetch_bind_some, hread]
      rfl
    rw [lockedSession, Tx.run_get_bind, hfound, Tx.run_fetch_bind_some, Tx.run_bind_of_ok hschema]
    rfl
  rw [oncePerKey, Tx.run_bind_of_ok hlocked, WorkflowDatabase.recordedFor?]
  cases hfound : db.qualificationSessionUpdates.find? fun other =>
      other.tenantId = identity.tenantId ∧ other.updateKey = updateKey with
  | none =>
      have hfresh : (isDuplicate identity.tenantId row.id updateKey).run db = .ok (false, db) := by
        rw [isDuplicate, Tx.run_get_bind]
        simp only [hfound]
        rfl
      exact Tx.run_bind_of_ok hfresh
  | some found =>
      rw [Option.map_some]
      by_cases hsession : found.sessionId = row.id
      · have hduplicate : (isDuplicate identity.tenantId row.id updateKey).run db =
            .ok (true, db) := by
          rw [isDuplicate, Tx.run_get_bind]
          simp only [hfound]
          rw [Tx.run_require_bind, if_pos hsession]
          rfl
        simp only [if_pos hsession]
        exact Tx.run_bind_of_ok hduplicate
      · have hrefused : (isDuplicate identity.tenantId row.id updateKey).run db =
            .error (.valueError "Qualification update belongs to another session") := by
          rw [isDuplicate, Tx.run_get_bind]
          simp only [hfound]
          rw [Tx.run_require_bind, if_neg hsession]
        simp only [if_neg hsession]
        exact Tx.run_bind_of_error hrefused

omit [PythonText] in
theorem WorkflowDatabase.mem_writeConsent (db : WorkflowDatabase) (decision : ConsentDecision)
    (now : Int) (firstRequired : Option Text) (consent : QualificationConsentRow)
    (update : QualificationSessionUpdateRow) :
    consent ∈ (db.writeConsent row decision now firstRequired consent
      update).qualificationConsents := by
  cases decision <;> exact List.mem_append_right _ (List.mem_singleton.mpr rfl)

/-- A decision that is not replayed adds a consent, which the session had none of. -/
theorem QualificationStore.decideConsent_adds {db db' : WorkflowDatabase}
    {decision : ConsentDecision} {now : Int} {updateKey : Text} {session : QualificationSession}
    (hreadable : SessionsReadable db) (hrow : row ∈ db.qualificationSessions)
    (hnew : ¬ (row.OfIdentity identity ∧
      db.recordedFor? identity.tenantId updateKey = some row.id))
    (hrun : (decideConsent identity row.id decision now updateKey).run db = .ok (session, db')) :
    row.Active ∧ ∃ consent ∈ db'.qualificationConsents, consent.sessionId = row.id ∧
      consent ∉ db.qualificationConsents := by
  obtain ⟨schema, _, hschema, _⟩ := hreadable.readable row hrow
  have howner : row.OfIdentity identity := by
    obtain ⟨found, _, ⟨hfound, howner, hid⟩, _⟩ := oncePerKey_ok hrun
    have hsame : found = row :=
      Table.eq_of_key_eq (WorkflowDatabase.nodup_rowIds hreadable.ids) hfound hrow hid
    exact hsame ▸ howner
  rw [howner.1] at hschema
  rw [decideConsent, oncePerKey_run hreadable.ids hrow howner hschema] at hrun
  cases hrecorded : db.recordedFor? identity.tenantId updateKey with
  | some sessionId =>
      have hforeign : sessionId ≠ row.id := by
        rintro rfl
        exact hnew ⟨howner, hrecorded⟩
      rw [hrecorded] at hrun
      simp only [if_neg hforeign] at hrun
      cases hrun
  | none =>
      rw [hrecorded] at hrun
      simp only [Tx.run_require_bind_eq_ok, Tx.run_get_bind_eq_ok, Tx.run_modify_bind_eq_ok,
        Tx.run_lift_eq_ok] at hrun
      obtain ⟨hstatus, hunique, _, rfl⟩ := hrun
      refine ⟨?_, _, WorkflowDatabase.mem_writeConsent db decision now _ _ _, rfl, ?_⟩
      · rw [QualificationSessionRow.Active, hstatus]
        rfl
      · intro hold
        exact hunique _ hold ⟨rfl, rfl⟩

/-- A decision that was recorded is replayed. -/
theorem QualificationStore.decideConsent_replays {db : WorkflowDatabase}
    {decision : ConsentDecision} {now : Int} {updateKey : Text}
    (hreadable : SessionsReadable db) (hrow : row ∈ db.qualificationSessions)
    (howner : row.OfIdentity identity)
    (hrecorded : db.recordedFor? identity.tenantId updateKey = some row.id) :
    ∃ session, (decideConsent identity row.id decision now updateKey).run db =
      .ok (session, db) := by
  obtain ⟨schema, typed, hschema, htyped⟩ := hreadable.readable row hrow
  rw [howner.1] at hschema
  refine ⟨row.toSession typed, ?_⟩
  rw [decideConsent, oncePerKey_run hreadable.ids hrow howner hschema, hrecorded]
  simp only [if_true]
  rw [Tx.run_lift_eq_ok, sessionOf, htyped]
  exact ⟨rfl, rfl⟩

/-- Every call of `active` keeps the consents. -/
theorem active_keepsConsents (cfg : WorkflowCatalogue) (identity : TelegramIdentity) :
    (QualificationApplication.active identity).Makes fun call =>
      ∀ (env : Environment) (s : WorkflowState),
        (serve cfg call env s).2.db.qualificationConsents = s.db.qualificationConsents := by
  unfold QualificationApplication.active
  refine .bind (.perform fun env s => rfl) fun now => .bind (.perform ?_) fun found => ?_
  · intro env s
    rcases @changes_of_serve _ cfg (.activeSession identity now) env s with hsame | hchange
    · rw [hsame]
    · generalize (serve cfg (.activeSession identity now) env s).2.db = db' at hchange
      cases hchange
      rfl
  · cases found with
    | none => trivial
    | some session =>
        refine .bind (.perform ?_) fun found => ?_
        · intro env s
          rcases @changes_of_serve _ cfg (.schema identity.tenantId session.schemaId) env s
            with hsame | hchange
          · rw [hsame]
          · cases hchange
        · cases found with
          | none => trivial
          | some schema =>
              simp only
              split <;> trivial

/-- `decide_consent` on a session, served alone -/
theorem decideConsent_late {decision : ConsentDecision} {now : Int} {updateKey : Text}
    (hreadable : SessionsReadable s.db) (hrow : row ∈ s.db.qualificationSessions) :
    ServedLate cfg row
      (fun outcome s' =>
        (row.OfIdentity identity ∧
            s.db.recordedFor? identity.tenantId updateKey = some row.id) ∧
          (∃ session, outcome = .ok session) ∧ s'.db = s.db ∨
        ¬ (row.OfIdentity identity ∧
            s.db.recordedFor? identity.tenantId updateKey = some row.id) ∧
          ((∃ error, outcome = .error error) ∧ s'.db = s.db ∨
            row.Active ∧ ∃ consent ∈ s'.db.qualificationConsents, consent.sessionId = row.id ∧
              consent ∉ s.db.qualificationConsents))
      (Service.decideConsent identity row.id decision now updateKey) s := by
  refine call_late (.decideConsent identity row.id decision now updateKey) fun env _ => ?_
  by_cases hreplays : row.OfIdentity identity ∧
      s.db.recordedFor? identity.tenantId updateKey = some row.id
  · obtain ⟨session, hrun⟩ := @QualificationStore.decideConsent_replays _ row identity s.db
      decision now updateKey hreadable hrow hreplays.1 hreplays.2
    have hcommit := Tx.commit_of_ok hrun
    exact .inl ⟨hreplays, ⟨session, congrArg Prod.fst hcommit⟩, congrArg Prod.snd hcommit⟩
  · refine .inr ⟨hreplays, ?_⟩
    rcases @serve_cases _ cfg (.decideConsent identity row.id decision now updateKey) env s
      with ⟨error, hreply, hdb⟩ | ⟨session, _, hrun⟩
    · exact .inl ⟨⟨error, hreply⟩, hdb⟩
    · exact .inr (QualificationStore.decideConsent_adds hreadable hrow hreplays hrun)

omit [PythonText] in
/-- A session that is closed or of another customer is not the active one. -/
theorem other_of_closed {db : WorkflowDatabase} (hids : (db.origins.map (·.id)).Nodup)
    (hrow : row ∈ db.qualificationSessions) (hclosed : ¬ (row.Active ∧ row.OfIdentity identity)) :
    ∀ other, db.activeRow? identity = some other → row.id ≠ other.id := by
  intro other hfound hid
  obtain ⟨hother, howner, hactive⟩ := WorkflowDatabase.mem_of_activeRow? hfound
  have hsame : row = other :=
    Table.eq_of_key_eq (WorkflowDatabase.nodup_rowIds hids) hrow hother hid
  subst hsame
  exact hclosed ⟨hactive, howner⟩

theorem active_keeps_consent {consent : QualificationConsentRow}
    (hconsent : consent ∈ s.db.qualificationConsents) :
    ServedLate cfg row (fun _ s' => consent ∈ s'.db.qualificationConsents)
      (QualificationApplication.active identity) s := by
  refine (active_keepsConsents cfg identity).keeps
    (K := fun s : WorkflowState => consent ∈ s.db.qualificationConsents) ?_ (fun _ _ _ => trivial) ?_ hconsent
  · rintro s _ rfl hconsent
    exact hconsent
  · intro call env s hcall hconsent
    rw [hcall env s]
    exact hconsent

/-- What a program leaves, it leaves when its result is put in other words. -/
theorem late_bind_ends {α β : Type} {program : Service α} {f : α → Service β}
    {Q : WorkflowState → Prop} (h : ServedLate cfg row (fun _ s' => Q s') program s)
    (hends : ∀ value, ∃ result, f value = pure result) :
    ServedLate cfg row (fun _ s' => Q s') (program >>= f) s := by
  refine h.bind ?_ fun _ _ hpost => hpost
  intro value s' hpost
  obtain ⟨result, hresult⟩ := hends value
  rw [hresult]
  exact Program.Safe.returns hpost

/-- `active` on a customer's own session whose time is over -/
theorem active_closes (hreadable : SessionsReadable s.db) (hrow : row ∈ s.db.qualificationSessions)
    (howner : row.OfIdentity identity) :
    ServedLate cfg row
      (fun _ s' => (s'.db.origins.map (·.id)).Nodup → AcceptsNothing s.db s'.db row)
      (QualificationApplication.active identity) s := by
  by_cases hactive : row.Active
  · refine (active_late hreadable (hreadable.activeRow? hrow howner hactive)).mono ?_
    rintro _ last ⟨_, hlast⟩ _
    rw [hlast]
    exact acceptsNothing_expireSession hrow
  · have hother : ∀ other, s.db.activeRow? identity = some other → row.id ≠ other.id :=
      other_of_closed hreadable.ids hrow fun h => hactive h.1
    refine (active_spares hrow hother).mono ?_
    rintro _ last ⟨hspared, _⟩ hids
    exact (hspared.acceptsNothing_iff hids).mpr hactive

/-- `consent` leaves an expired session open unless it replays: it writes before it reads
the active session. -/
theorem consent_late {accepted : Bool} {updateKey : Text} (hreadable : SessionsReadable s.db)
    (hrow : row ∈ s.db.qualificationSessions) :
    ServedLate cfg row
      (fun _ s' => (s'.db.origins.map (·.id)).Nodup → (AcceptsNothing s.db s'.db row ↔
        ¬ row.Active ∨ row.OfIdentity identity ∧
          s.db.recordedFor? identity.tenantId updateKey = some row.id))
      (QualificationApplication.consent identity row.id accepted updateKey) s := by
  unfold QualificationApplication.consent
  refine Program.Safe.bind clock_late ?_ ?_
  · rintro now middle ⟨hdb, _⟩
    rw [← hdb] at hreadable hrow ⊢
    refine (decideConsent_late hreadable hrow).bind ?_ ?_
    · rintro session written hdecided
      refine late_bind_ends ?_ ?_
      · rcases hdecided with ⟨hreplays, _, hsame⟩ | ⟨hnew, ⟨⟨_, ⟨⟩⟩, _⟩ | ⟨hactive, hadded⟩⟩
        · rw [← hsame] at hreadable hrow hreplays ⊢
          refine (active_closes hreadable hrow hreplays.1).mono ?_
          intro _ last haccepts hids
          exact iff_of_true (haccepts hids) (.inr hreplays)
        · obtain ⟨consent, hconsent, hsession, hold⟩ := hadded
          refine (active_keeps_consent hconsent).mono ?_
          intro _ last hkept _
          exact iff_of_false (fun haccepts => hold (haccepts.1 consent hkept hsession))
            (not_or.mpr ⟨not_not.mpr hactive, hnew⟩)
      · rintro (_ | ⟨_, schema⟩)
        · exact ⟨_, rfl⟩
        · exact ⟨_, rfl⟩
    · rintro error last (⟨_, ⟨_, ⟨⟩⟩, _⟩ | ⟨hnew, ⟨_, hsame⟩ | ⟨hactive, hadded⟩⟩) hids
      · have hspares : Spares row middle.db last.db := by
          rw [hsame]
          exact .refl hrow
        rw [hspares.acceptsNothing_iff hids]
        exact (or_iff_left hnew).symm
      · obtain ⟨consent, hconsent, hsession, hold⟩ := hadded
        exact iff_of_false (fun haccepts => hold (haccepts.1 consent hconsent hsession))
          (not_or.mpr ⟨not_not.mpr hactive, hnew⟩)
  · rintro _ middle ⟨_, _, ⟨⟩, _⟩

/-- `edit`, `answer` and `submit` on a customer's own session -/
theorem active_refuses {α : Type} (hreadable : SessionsReadable s.db)
    (hrow : row ∈ s.db.qualificationSessions)
    {rest : Option (QualificationSession × QualificationSchema) → Service α}
    (hrest : ∀ found, (∀ session schema, found = some (session, schema) → session.id ≠ row.id) →
      ∃ error, rest found = Program.raise error) :
    ServedLate cfg row
      (fun _ s' => (s'.db.origins.map (·.id)).Nodup → (AcceptsNothing s.db s'.db row ↔
        ¬ row.Active ∨ row.OfIdentity identity))
      (QualificationApplication.active identity >>= rest) s := by
  by_cases hown : row.Active ∧ row.OfIdentity identity
  · obtain ⟨error, hnone⟩ := hrest none (by rintro _ _ ⟨⟩)
    have hfound := hreadable.activeRow? hrow hown.2 hown.1
    refine (late_after_active hreadable hfound hnone).mono ?_
    intro _ last haccepts _
    exact iff_of_true haccepts (.inr hown.2)
  · have hother : ∀ other, s.db.activeRow? identity = some other → row.id ≠ other.id :=
      other_of_closed hreadable.ids hrow hown
    refine (spares_after_active hrow hother hrest).mono ?_
    intro _ last hspared hids
    rw [hspared.acceptsNothing_iff hids]
    exact ⟨.inl, fun hor hactive => hor.elim (· hactive) fun howner => hown ⟨hactive, howner⟩⟩

/-- Every operation, served alone, on a session whose time is over -/
theorem operation_late {schemaCode : Text} {operation : Operation} (hreadable : SessionsReadable s.db)
    (hrow : row ∈ s.db.qualificationSessions) (hnamed : operation.Names s.db row) :
    ServedLate cfg row
      (fun _ s' => (s'.db.origins.map (·.id)).Nodup →
        (AcceptsNothing s.db s'.db row ↔ operation.ClosesExpired s.db row))
      (operation.program schemaCode) s := by
  cases operation with
  | consent identity sessionId accepted updateKey =>
      cases hnamed
      exact late_bind_ends (consent_late hreadable hrow) fun value => ⟨_, rfl⟩
  | edit identity sessionId fieldKey =>
      cases hnamed
      refine late_bind_ends (active_refuses hreadable hrow ?_) fun value => ⟨_, rfl⟩
      intro found hother
      cases found with
      | none => exact ⟨_, rfl⟩
      | some pair =>
          obtain ⟨session, schema⟩ := pair
          cases hfield : schema.fields.find? fun item => item.key = fieldKey with
          | none =>
              refine ⟨.valueError "Qualification field is unavailable", ?_⟩
              simp only [Program.fetch_bind_some, hfield, Program.fetch_bind_none]
          | some field =>
              refine ⟨.valueError "Qualification field is unavailable", ?_⟩
              simp only [Program.fetch_bind_some, hfield]
              exact Program.require_bind_of_not (hother session schema rfl)
  | submit identity sessionId updateKey =>
      cases hnamed
      refine late_bind_ends (active_refuses hreadable hrow ?_) fun value => ⟨_, rfl⟩
      intro found hother
      cases found with
      | none => exact ⟨_, rfl⟩
      | some pair =>
          obtain ⟨session, schema⟩ := pair
          have hforeign : ¬ (session.id = row.id ∧ nextMissingField schema session.answers = none) :=
            fun h => hother session schema rfl h.1
          refine ⟨.valueError "Qualification is incomplete", ?_⟩
          exact Program.require_bind_of_not hforeign
  | answer identity raw updateKey =>
      refine late_bind_ends ((late_after_active hreadable hnamed rfl).mono ?_)
        fun value => ⟨_, rfl⟩
      intro _ last haccepts _
      exact iff_of_true haccepts trivial
  | start | active | cancel | addSchema | publishSchema => cases hnamed

/-- Served alone from any state that concurrent requests lead to, an operation on a
session whose time is over accepts nothing for it exactly where it finds it closed, or
closes it: `consent` does not, unless it replays. -/
theorem accepts_nothing_iff_closes {schemaCode : Text} {pool : RequestPool}
    (hpool : (requestSystem cfg schemaCode).Reachable pool) {e : Execution}
    {outcome : Except Failure Outcome} {s' : WorkflowState}
    (hrun : e.run cfg schemaCode pool.store = some (outcome, s'))
    (hrow : row ∈ pool.store.db.qualificationSessions)
    (hnamed : e.operation.Names pool.store.db row)
    (hlate : ∀ env ∈ e.envs, row.expiresAt ≤ env.now) :
    AcceptsNothing pool.store.db s'.db row ↔ e.operation.ClosesExpired pool.store.db row := by
  have hreadable := sessionsReadable_of_reachable hpool
  have hsafe : ServedLate cfg row _ (e.operation.program schemaCode) pool.store :=
    operation_late hreadable hrow hnamed
  obtain ⟨hids, haccepts⟩ := hsafe.exec
    (I := fun s : WorkflowState => (s.db.origins.map (·.id)).Nodup) (fun _ _ => rfl)
    (fun s call env hids _ _ => nodup_sessionIds_serve hids call env)
    (Program.Admitted.of_forall fun env henv _ => hlate env henv) hreadable.ids hrun
  exact haccepts hids

end Alone

end Expiry

/-! ## In the small shop -/

section Shop

open Shop

/-- A customer starts the questions, and is gone for more than an hour. -/
def Shop.starts : List (Event Operation Environment) := arrives 0 4 (.start (identity 0)) 10 1

/-- An operation on the session, a second after its hour. -/
def Shop.performsLate (operation : Operation) (calls : Nat) : Execution :=
  performs operation calls 3601000000 0

theorem starts_reachable :
    (requestSystem workflowCatalogue intake).Reachable (after starts) :=
  pool_reachable (by decide +kernel)

theorem expired_session_closed_in_shop :
    ∃ row ∈ (after starts).store.db.qualificationSessions, row.Active ∧
      AcceptsNothing (after starts).store.db
        ((performsLate (.edit (identity 0) row.id "need".toList) 2).next workflowCatalogue intake
          (after starts).store).db row := by
  have hopen : ∃ row ∈ (after starts).store.db.qualificationSessions, row.Active ∧
      row.OfIdentity (identity 0) ∧ row.id = BitVec.ofNat 128 1 ∧
        row.expiresAt ≤ 3601000000 := by
    decide +kernel
  obtain ⟨row, hrow, hactive, howner, hid, hexpired⟩ := hopen
  refine ⟨row, hrow, hactive, ?_⟩
  rw [hid]
  have hruns : ((performsLate (.edit (identity 0) (BitVec.ofNat 128 1) "need".toList) 2).run
      workflowCatalogue intake (after starts).store).isSome = true := by
    decide +kernel
  obtain ⟨⟨outcome, s'⟩, hrun⟩ := Option.isSome_iff_exists.mp hruns
  rw [Execution.next, hrun]
  refine (accepts_nothing_iff_closes starts_reachable hrun hrow hid ?_).mpr (.inr howner)
  intro env henv
  rw [List.eq_of_mem_replicate henv]
  exact hexpired

/-- A consent given after the session's hour is recorded. -/
theorem consent_after_expiry :
    ∃ (pool : RequestPool) (e : Execution) (outcome : Except Failure Outcome) (s' : WorkflowState)
      (row : QualificationSessionRow), (requestSystem workflowCatalogue intake).Reachable pool ∧
      e.run workflowCatalogue intake pool.store = some (outcome, s') ∧
      row ∈ pool.store.db.qualificationSessions ∧ e.operation.Names pool.store.db row ∧
      (∀ env ∈ e.envs, row.expiresAt ≤ env.now) ∧ ¬ AcceptsNothing pool.store.db s'.db row := by
  let late := performsLate
    (.consent (identity 0) (BitVec.ofNat 128 1) true "telegram:7".toList) 4
  have hopen : ∃ row ∈ (after starts).store.db.qualificationSessions,
      row.id = BitVec.ofNat 128 1 ∧ row.expiresAt ≤ 3601000000 := by
    decide +kernel
  obtain ⟨row, hrow, hid, hexpired⟩ := hopen
  have hruns : ((late.run workflowCatalogue intake (after starts).store).map fun (_, s') =>
      s'.db.qualificationConsents.map (·.sessionId)) = some [BitVec.ofNat 128 1] := by
    decide +kernel
  have hnone : (after starts).store.db.qualificationConsents = [] := by
    decide +kernel
  obtain ⟨⟨outcome, s'⟩, hrun, hconsents⟩ := Option.map_eq_some_iff.mp hruns
  refine ⟨_, late, outcome, s', row, starts_reachable, hrun, hrow, hid, ?_, ?_⟩
  · intro env henv
    rw [List.eq_of_mem_replicate henv]
    exact hexpired
  · intro haccepts
    have hadded : BitVec.ofNat 128 1 ∈ s'.db.qualificationConsents.map (·.sessionId) := by
      have hsame : s'.db.qualificationConsents.map (·.sessionId) = [BitVec.ofNat 128 1] := hconsents
      rw [hsame]
      exact List.mem_singleton.mpr rfl
    obtain ⟨consent, hconsent, hsession⟩ := List.mem_map.mp hadded
    have hold := haccepts.1 consent hconsent (hsession.trans hid.symm)
    rw [hnone] at hold
    cases hold

end Shop

end BusinessAssistant.Persistence
