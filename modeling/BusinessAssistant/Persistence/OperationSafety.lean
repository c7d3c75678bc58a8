/-
# What an operation may write when it is served alone

Operations served one after the other. Nothing happens between two calls of one
operation, so what it read still holds when it writes: `Expected` says of every
call what the operation knows by then, and every invariant of these runs is
derived from it.
-/

import BusinessAssistant.Persistence.RequestSafety

namespace BusinessAssistant.Persistence

open BusinessAssistant.Domain BusinessAssistant.Application BusinessAssistant.Foundation

section Alone

variable [PythonText] {cfg : WorkflowCatalogue} {schemaCode : Text} {e : Execution}
  {start s s' : WorkflowState} {db : WorkflowDatabase} {identity : TelegramIdentity}

/-! ## What an operation knows -/

/-- The session that is active for an identity, as it is shown under its own schema,
before it runs out at one of the readings of the clock. -/
def Finds (db : WorkflowDatabase) (envs : List Environment) (identity : TelegramIdentity)
    (session : QualificationSession) (schema : QualificationSchema) : Prop :=
  ∃ row answers, db.activeRow? identity = some row ∧ db.Stores row.tenantId row.schemaId schema ∧
    typedAnswers schema row.answers = .ok answers ∧ session = row.toSession answers ∧
      schema.version = row.schemaVersion ∧ ∃ env ∈ envs, env.now < row.expiresAt

/-- A reading of the clock during an operation. -/
def Reads (start s : WorkflowState) (now : Int) : Prop := start.clock ≤ now ∧ now ≤ s.clock

/-- The calls an operation makes, with what it knows when it makes them. -/
def Expected (schemaCode : Text) (e : Execution) (start s : WorkflowState) : WorkflowCall → Prop
  | .activeSession _ now => Reads start s now
  | .start identity schema now => e.operation = .start identity ∧ Reads start s now ∧
      s.db.Publishes identity.tenantId schemaCode schema
  | .decideConsent identity sessionId decision now updateKey =>
      (∃ accepted, e.operation = .consent identity sessionId accepted updateKey ∧
        decision = if accepted then .accepted else .declined) ∧
      Reads start s now ∧ s.db = start.db
  | .recordAnswer identity sessionId fieldKey answer now updateKey =>
      (∃ raw session schema, ∃ field ∈ schema.fields,
        e.operation = .answer identity raw updateKey ∧ Finds start.db e.envs identity session schema ∧
          session.id = sessionId ∧ session.currentFieldKey = some fieldKey ∧
          field.key = fieldKey ∧ validateAnswer field raw = .ok answer) ∧
      Reads start s now ∧ s.db = start.db
  | .review identity sessionId editFieldKey =>
      (∃ fieldKey session schema, editFieldKey = some fieldKey ∧
        e.operation = .edit identity sessionId fieldKey ∧
          Finds start.db e.envs identity session schema ∧ session.id = sessionId ∧
          fieldKey ∈ schema.fields.map (·.key)) ∧
      s.db = start.db
  | .complete identity sessionId _ _ _ now updateKey =>
      (∃ session schema, e.operation = .submit identity sessionId updateKey ∧
        Finds start.db e.envs identity session schema ∧ session.id = sessionId) ∧
      Reads start s now ∧ s.db = start.db
  | .cancel identity => e.operation = .cancel identity
  | .addSchema schema => e.operation = .addSchema schema.tenantId schema
  | .publishSchema tenantId schemaId => e.operation = .publishSchema tenantId schemaId
  | .schedule _ | .activeHandoff _ | .createOrGet _ _ _ | .transition _ _ _ _
  | .anonymize _ _ _ => False
  | _ => True

/-- The environments of an execution, in order. -/
def Admits (envs : List Environment) (s : WorkflowState) (env : Environment) : Prop :=
  InOrder s env ∧ env ∈ envs

/-- A program of an operation makes only expected calls when it is served alone, and
returns as `Q` says. -/
abbrev Alone {α : Type} (cfg : WorkflowCatalogue) (schemaCode : Text) (e : Execution)
    (start : WorkflowState) (Q : α → WorkflowState → Prop) (program : Service α)
    (s : WorkflowState) : Prop :=
  Program.Safe (serve cfg) (Admits e.envs) Eq (Expected schemaCode e start) (Program.Returning Q)
    program s

/-! ## Rules -/

/-- The rule for one call. -/
theorem call_alone (call : WorkflowCall) {Q : call.Reply → WorkflowState → Prop}
    (hexpected : Expected schemaCode e start s call)
    (hreply : ∀ env reply, Admits e.envs s env →
      (transactionOf cfg env call).run s.db = .ok (reply, (serve cfg call env s).2.db) →
        Q reply (serve cfg call env s).2) :
    Alone cfg schemaCode e start Q (Program.perform call : Service call.Reply) s := by
  apply Program.Safe.returning_perform
  · rintro _ rfl
    exact hexpected
  · rintro _ env reply rfl hadmits hok
    exact hreply env reply hadmits (run_of_serve_ok hok)

/-- A call of which nothing more is to be known. -/
theorem call_last (call : WorkflowCall) (hexpected : Expected schemaCode e start s call) :
    Alone cfg schemaCode e start (fun _ _ => True) (Program.perform call : Service call.Reply) s :=
  call_alone call hexpected fun _ _ _ _ => trivial

/-- What a reading of the clock tells, and leaves. -/
theorem clock_alone (s : WorkflowState) :
    Alone cfg schemaCode e start
      (fun now s' => s'.db = s.db ∧ s'.clock = now ∧ s.clock ≤ now ∧ ∃ env ∈ e.envs, env.now = now)
      Service.clockNow s := by
  refine call_alone .now trivial ?_
  intro env reply hadmits hrun
  obtain ⟨rfl, hdb⟩ := Prod.mk.inj (Except.ok.inj hrun)
  exact ⟨hdb.symm, rfl, hadmits.1, env, hadmits.2, rfl⟩

/-- What `active_session` returns is the view of the active row; it returns it only
when it wrote nothing. -/
theorem activeSession_alone {now : Int} (hread : Reads start s now) :
    Alone cfg schemaCode e start
      (fun found s' => Reads start s' now ∧ ∀ session, found = some session → s'.db = s.db ∧
        ∃ row schema answers, s.db.activeRow? identity = some row ∧ now < row.expiresAt ∧
          s.db.Stores row.tenantId row.schemaId schema ∧
          typedAnswers schema row.answers = .ok answers ∧ session = row.toSession answers)
      (Service.activeSession identity now) s := by
  refine call_alone (.activeSession identity now) hread ?_
  intro env found hadmits hrun
  refine ⟨⟨hread.1, hread.2.trans hadmits.1⟩, ?_⟩
  rintro session rfl
  rcases QualificationStore.activeSession_ok hrun with
    ⟨_, hnone, _⟩ | ⟨row, schema, hrow, hschema, ⟨_, hnone, _⟩ | ⟨shown, hlive, hread, hshown, hdb⟩⟩
  · cases hnone
  · cases hnone
  · cases hshown
    obtain ⟨answers, htyped, rfl⟩ := sessionOf_ok hread
    rw [← (WorkflowDatabase.mem_of_activeRow? hrow).2.1.1] at hschema
    exact ⟨hdb, row, schema, answers, hrow, hlive, hschema, htyped, rfl⟩

/-- Reading the published schema of a code. -/
theorem publishedSchema_alone {tenantId : TenantId} {code : Text} {now : Int}
    (hread : Reads start s now) :
    Alone cfg schemaCode e start
      (fun found s' => Reads start s' now ∧ ∀ schema, found = some schema →
        s'.db.Publishes tenantId code schema)
      (Service.publishedSchema tenantId code) s := by
  refine call_alone (.publishedSchema tenantId code) trivial ?_
  intro env found hadmits hrun
  obtain ⟨hdb, hpublishes⟩ := QualificationStore.publishedSchema_ok hrun
  refine ⟨⟨hread.1, hread.2.trans hadmits.1⟩, ?_⟩
  rintro schema rfl
  rw [hdb]
  exact hpublishes schema rfl

/-- Reading a schema by its id. -/
theorem schema_alone (tenantId : TenantId) (schemaId : QualificationSchemaId) (s : WorkflowState) :
    Alone cfg schemaCode e start
      (fun found s' => s'.db = s.db ∧ s.clock ≤ s'.clock ∧ ∀ schema, found = some schema →
        s.db.Stores tenantId schemaId schema)
      (Service.schema tenantId schemaId) s := by
  refine call_alone (.schema tenantId schemaId) trivial ?_
  intro env found hadmits hrun
  obtain ⟨hdb, hstores⟩ := QualificationStore.schema_ok hrun
  exact ⟨hdb, hadmits.1, hstores⟩

/-- What `active` returns is the active session under its own schema; it returns it
only when it wrote nothing. -/
theorem active_alone (hclock : start.clock ≤ s.clock) :
    Alone cfg schemaCode e start
      (fun found s' => start.clock ≤ s'.clock ∧ ∀ session schema, found = some (session, schema) →
        s'.db = s.db ∧ Finds s.db e.envs identity session schema)
      (QualificationApplication.active identity) s := by
  unfold QualificationApplication.active
  refine (clock_alone s).returning_bind fun now s' hnow => ?_
  obtain ⟨hdb, rfl, hle, env, henv, hreads⟩ := hnow
  have hread : Reads start s' s'.clock := ⟨hclock.trans hle, le_refl _⟩
  refine (activeSession_alone hread).returning_bind fun found s'' hfound => ?_
  obtain ⟨hread', hfound⟩ := hfound
  cases found with
  | none =>
      apply Program.Safe.returning_pure
      refine ⟨hread'.1.trans hread'.2, ?_⟩
      intro session schema hnone
      cases hnone
  | some session =>
      obtain ⟨hdb', row, own, answers, hrow, hlive, hown, htyped, rfl⟩ := hfound session rfl
      refine (schema_alone identity.tenantId row.schemaId s'').returning_bind fun found last hschema => ?_
      obtain ⟨hdb'', hle', hschema⟩ := hschema
      have hlast : start.clock ≤ last.clock := hread'.1.trans (hread'.2.trans hle')
      cases found with
      | none =>
          apply Program.Safe.returning_pure
          refine ⟨hlast, ?_⟩
          intro session schema hnone
          cases hnone
      | some schema =>
          have howner := (WorkflowDatabase.mem_of_activeRow? hrow).2.1
          have hstored := hschema schema rfl
          rw [hdb', ← howner.1] at hstored
          cases hown.unique hstored
          by_cases hversion : own.version ≠ (row.toSession answers).schemaVersion
          · simp only [if_pos hversion]
            apply Program.Safe.returning_pure
            refine ⟨hlast, ?_⟩
            intro session schema hnone
            cases hnone
          · simp only [if_neg hversion]
            apply Program.Safe.returning_pure
            refine ⟨hlast, ?_⟩
            intro session schema hsome
            cases hsome
            rw [hdb] at hrow hown
            exact ⟨hdb''.trans (hdb'.trans hdb), row, answers, hrow, hown, htyped, rfl,
              not_not.mp hversion, env, henv, hreads ▸ hlive⟩

/-- `active` where nothing of the result is to be known. -/
theorem active_last (hclock : start.clock ≤ s.clock) :
    Alone cfg schemaCode e start (fun _ _ => True) (QualificationApplication.active identity) s :=
  (active_alone hclock).mono fun _ _ _ _ _ => trivial

/-- Drawing the id of a lead leaves the rows alone. -/
theorem newLeadId_alone (hs : start.clock ≤ s.clock ∧ s.db = start.db) :
    Alone cfg schemaCode e start (fun _ after => start.clock ≤ after.clock ∧ after.db = start.db)
      Service.newLeadId s := by
  refine call_alone .newLeadId trivial ?_
  intro env leadId hadmits hrun
  obtain ⟨rfl, hdb⟩ := Prod.mk.inj (Except.ok.inj hrun)
  exact ⟨hs.1.trans hadmits.1, hdb.symm.trans hs.2⟩

section Rules

variable {α : Type} {K : WorkflowState → Prop} (hK : K s)

include hK

theorem fetch_alone (found : Option α) (error : Failure) :
    Alone cfg schemaCode e start (fun value s => found = some value ∧ K s)
      (Program.fetch found error) s :=
  Program.Safe.returning_fetch hK

theorem lift_alone (computation : Except Failure α) :
    Alone cfg schemaCode e start (fun value s => computation = .ok value ∧ K s)
      (Program.lift computation) s :=
  Program.Safe.returning_lift hK

theorem require_alone (condition : Prop) [Decidable condition] (error : Failure) :
    Alone cfg schemaCode e start (fun _ s => condition ∧ K s) (Program.require condition error) s :=
  Program.Safe.returning_require hK

end Rules

theorem done_alone {α : Type} (outcome : Except Failure α) (s : WorkflowState) :
    Alone cfg schemaCode e start (fun _ _ => True) (.done outcome) s :=
  (lift_alone (K := fun _ => True) trivial outcome).mono fun _ _ _ _ _ => trivial

/-! ## The operations -/

section Operations

theorem start_alone (hoperation : e.operation = .start identity) :
    Alone cfg schemaCode e start (fun _ _ => True)
      (QualificationApplication.start schemaCode identity) start := by
  unfold QualificationApplication.start
  refine (clock_alone start).returning_bind fun now s hnow => ?_
  obtain ⟨_, rfl, hle, _⟩ := hnow
  refine (activeSession_alone ⟨hle, le_refl _⟩).returning_bind fun existing s' hexisting => ?_
  refine (publishedSchema_alone hexisting.1).returning_bind fun published s'' hpublished => ?_
  let K : WorkflowState → Prop := fun after => Reads start after s.clock ∧
    ∀ schema, published = some schema → after.db.Publishes identity.tenantId schemaCode schema
  refine (fetch_alone (K := K) hpublished published _).returning_bind fun schema last hschema => ?_
  obtain ⟨hfound, hread, hpublishes⟩ := hschema
  cases existing with
  | some session => exact done_alone _ _
  | none =>
      refine (call_last (.start identity schema s.clock)
        ⟨hoperation, hread, hpublishes schema hfound⟩).returning_bind fun session s _ => ?_
      exact done_alone _ _

theorem consent_alone {sessionId : QualificationSessionId} {accepted : Bool} {updateKey : Text}
    (hoperation : e.operation = .consent identity sessionId accepted updateKey) :
    Alone cfg schemaCode e start (fun _ _ => True)
      (QualificationApplication.consent identity sessionId accepted updateKey) start := by
  unfold QualificationApplication.consent
  refine (clock_alone start).returning_bind fun now s hnow => ?_
  obtain ⟨hdb, rfl, hle, _⟩ := hnow
  refine (call_alone (.decideConsent identity sessionId (if accepted then .accepted else .declined)
    s.clock updateKey) (Q := fun _ after => start.clock ≤ after.clock)
    ⟨⟨accepted, hoperation, rfl⟩, ⟨hle, le_refl _⟩, hdb⟩ ?_).returning_bind fun session s' hclock => ?_
  · intro env reply hadmits _
    exact hle.trans hadmits.1
  · refine (active_last hclock).returning_bind fun active last _ => ?_
    cases active with
    | none => exact done_alone _ _
    | some pair => exact done_alone _ _

theorem answer_alone {raw updateKey : Text}
    (hoperation : e.operation = .answer identity raw updateKey) :
    Alone cfg schemaCode e start (fun _ _ => True)
      (QualificationApplication.answer identity raw updateKey) start := by
  unfold QualificationApplication.answer
  refine (active_alone (le_refl _)).returning_bind fun active s hactive => ?_
  let K : WorkflowState → Prop := fun after => start.clock ≤ after.clock ∧
    ∀ session schema, active = some (session, schema) → after.db = start.db ∧
      Finds start.db e.envs identity session schema
  refine (fetch_alone (K := K) hactive active _).returning_bind fun pair s hpair => ?_
  obtain ⟨session, schema⟩ := pair
  obtain ⟨hfound, hclock, hall⟩ := hpair
  obtain ⟨hdb, hfinds⟩ := hall session schema hfound
  let M : WorkflowState → Prop := fun after => start.clock ≤ after.clock ∧ after.db = start.db
  refine (fetch_alone (K := M) ⟨hclock, hdb⟩ _ _).returning_bind fun field s hfield => ?_
  obtain ⟨hfield, hM⟩ := hfield
  refine (lift_alone (K := M) hM _).returning_bind fun answer s hanswer => ?_
  obtain ⟨hanswer, hclock, hdb⟩ := hanswer
  refine (clock_alone s).returning_bind fun now last hnow => ?_
  obtain ⟨hdb', rfl, hle, _⟩ := hnow
  have hmem := List.mem_of_find?_eq_some hfield
  have hcurrent : some field.key = session.currentFieldKey := by
    simpa using List.find?_some hfield
  refine (call_last (.recordAnswer identity session.id field.key answer last.clock updateKey)
    ⟨⟨raw, session, schema, field, hmem, hoperation, hfinds, rfl, hcurrent.symm, rfl, hanswer⟩,
      ⟨hclock.trans hle, le_refl _⟩, hdb'.trans hdb⟩).returning_bind fun session s _ => ?_
  exact done_alone _ _

theorem edit_alone {sessionId : QualificationSessionId} {fieldKey : Text}
    (hoperation : e.operation = .edit identity sessionId fieldKey) :
    Alone cfg schemaCode e start (fun _ _ => True)
      (QualificationApplication.edit identity sessionId fieldKey) start := by
  unfold QualificationApplication.edit
  refine (active_alone (le_refl _)).returning_bind fun active s hactive => ?_
  let K : WorkflowState → Prop := fun after => start.clock ≤ after.clock ∧
    ∀ session schema, active = some (session, schema) → after.db = start.db ∧
      Finds start.db e.envs identity session schema
  refine (fetch_alone (K := K) hactive active _).returning_bind fun pair s hpair => ?_
  obtain ⟨session, schema⟩ := pair
  obtain ⟨hfound, hclock, hall⟩ := hpair
  obtain ⟨hdb, hfinds⟩ := hall session schema hfound
  let M : WorkflowState → Prop := fun after => after.db = start.db
  refine (fetch_alone (K := M) hdb _ _).returning_bind fun field s hfield => ?_
  obtain ⟨hfield, hM⟩ := hfield
  have hmem := List.mem_of_find?_eq_some hfield
  have hkey : field.key = fieldKey := by simpa using List.find?_some hfield
  refine (require_alone (K := M) hM _ _).returning_bind fun _ s hrequired => ?_
  obtain ⟨hid, hdb⟩ := hrequired
  refine (clock_alone s).returning_bind fun _ last hnow => ?_
  refine (call_last (.review identity session.id (some field.key))
    ⟨⟨fieldKey, session, schema, by rw [hkey], by rw [hid, hoperation], hfinds, rfl, ?_⟩,
      hnow.1.trans hdb⟩).returning_bind fun _ s _ => ?_
  · rw [← hkey]
    exact List.mem_map_of_mem hmem
  · exact done_alone _ _

theorem submit_alone {sessionId : QualificationSessionId} {updateKey : Text}
    (hoperation : e.operation = .submit identity sessionId updateKey) :
    Alone cfg schemaCode e start (fun _ _ => True)
      (QualificationApplication.submit identity sessionId updateKey) start := by
  unfold QualificationApplication.submit
  refine (active_alone (le_refl _)).returning_bind fun active s hactive => ?_
  let K : WorkflowState → Prop := fun after => start.clock ≤ after.clock ∧
    ∀ session schema, active = some (session, schema) → after.db = start.db ∧
      Finds start.db e.envs identity session schema
  refine (fetch_alone (K := K) hactive active _).returning_bind fun pair s hpair => ?_
  obtain ⟨session, schema⟩ := pair
  obtain ⟨hfound, hclock, hall⟩ := hpair
  obtain ⟨hdb, hfinds⟩ := hall session schema hfound
  let M : WorkflowState → Prop := fun after => start.clock ≤ after.clock ∧ after.db = start.db
  refine (require_alone (K := M) ⟨hclock, hdb⟩ _ _).returning_bind fun _ s hrequired => ?_
  obtain ⟨⟨hid, _⟩, hM⟩ := hrequired
  refine (lift_alone (K := M) hM _).returning_bind fun score s hscored => ?_
  refine (newLeadId_alone hscored.2).returning_bind fun leadId s hM => ?_
  refine (fetch_alone (K := M) hM _ _).returning_bind fun consentAt s hconsented => ?_
  refine (clock_alone s).returning_bind fun qualifiedAt s' hqualifiedAt => ?_
  have hM : M s' := ⟨hconsented.2.1.trans (hqualifiedAt.2.2.1.trans hqualifiedAt.2.1.ge),
    hqualifiedAt.1.trans hconsented.2.2⟩
  refine (lift_alone (K := M) hM _).returning_bind fun lead s hlead => ?_
  refine (lift_alone (K := M) hlead.2 _).returning_bind fun trigger s htrigger => ?_
  obtain ⟨_, hclock, hdb⟩ := htrigger
  refine (clock_alone s).returning_bind fun now last hnow => ?_
  obtain ⟨hdb', rfl, hle, _⟩ := hnow
  exact call_last (.complete identity session.id lead score trigger last.clock updateKey)
    ⟨⟨session, schema, by rw [hid, hoperation], hfinds, rfl⟩, ⟨hclock.trans hle, le_refl _⟩,
      hdb'.trans hdb⟩

theorem cancel_alone (hoperation : e.operation = .cancel identity) :
    Alone cfg schemaCode e start (fun _ _ => True)
      (QualificationApplication.cancel identity) start := by
  unfold QualificationApplication.cancel
  refine (clock_alone start).returning_bind fun _ s _ => ?_
  exact call_last (.cancel identity) hoperation

theorem addSchema_alone {tenantId : TenantId} {schema : QualificationSchema}
    (hoperation : e.operation = .addSchema tenantId schema) :
    Alone cfg schemaCode e start (fun _ _ => True)
      (QualificationAdministration.addSchema tenantId schema) start := by
  unfold QualificationAdministration.addSchema
  refine (require_alone (K := fun _ => True) trivial _ _).returning_bind fun _ s hrequired => ?_
  obtain ⟨⟨htenant, _⟩, _⟩ := hrequired
  exact call_last (.addSchema schema) (by rw [Expected, htenant, hoperation])

theorem publish_alone {tenantId : TenantId} {schemaId : QualificationSchemaId}
    (hoperation : e.operation = .publishSchema tenantId schemaId) :
    Alone cfg schemaCode e start (fun _ _ => True)
      (QualificationAdministration.publish tenantId schemaId) start :=
  call_last (.publishSchema tenantId schemaId) hoperation

/-- Every operation makes only expected calls when it is served alone. -/
theorem operation_alone (cfg : WorkflowCatalogue) (schemaCode : Text) (e : Execution)
    (start : WorkflowState) :
    Alone cfg schemaCode e start (fun _ _ => True) (e.operation.program schemaCode) start := by
  cases hoperation : e.operation with
  | start identity => exact (start_alone hoperation).returning_bind fun _ s _ => done_alone _ _
  | active identity =>
      refine (active_last (le_refl _)).returning_bind fun found s _ => ?_
      cases found with
      | none => exact done_alone _ _
      | some pair => exact done_alone _ _
  | consent identity sessionId accepted updateKey =>
      exact (consent_alone hoperation).returning_bind fun _ s _ => done_alone _ _
  | answer identity raw updateKey =>
      exact (answer_alone hoperation).returning_bind fun _ s _ => done_alone _ _
  | edit identity sessionId fieldKey =>
      exact (edit_alone hoperation).returning_bind fun _ s _ => done_alone _ _
  | submit identity sessionId updateKey =>
      exact (submit_alone hoperation).returning_bind fun _ s _ => done_alone _ _
  | cancel identity => exact (cancel_alone hoperation).returning_bind fun _ s _ => done_alone _ _
  | addSchema tenantId schema =>
      exact (addSchema_alone hoperation).returning_bind fun _ s _ => done_alone _ _
  | publishSchema tenantId schemaId =>
      exact (publish_alone hoperation).returning_bind fun _ s _ => done_alone _ _

end Operations

/-! ## Runs of operations -/

/-- An invariant that every expected call keeps is kept by every operation. -/
theorem Execution.keeps {I : WorkflowState → Prop} {outcome : Except Failure Outcome}
    (hkeep : ∀ s call env, I s → Expected schemaCode e start s call → Admits e.envs s env →
      I (serve cfg call env s).2)
    (hstart : I start)
    (hadmitted : Program.Admitted (serve cfg) InOrder (e.operation.program schemaCode) e.envs start)
    (hrun : e.run cfg schemaCode start = some (outcome, s')) : I s' :=
  ((operation_alone cfg schemaCode e start).exec (fun _ _ => rfl) hkeep
    (hadmitted.mem fun _ henv => henv) hstart hrun).1

end Alone

end BusinessAssistant.Persistence
