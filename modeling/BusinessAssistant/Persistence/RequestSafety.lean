/-
# What the requests may write

The operations of the services, with any others served between their transactions.
Whatever the others do, no schema is rewritten and no session loses what it was
opened with, so what a request computed of them stays true until it writes.
-/

import BusinessAssistant.Persistence.SchemaLife

namespace BusinessAssistant.Persistence

open BusinessAssistant.Domain BusinessAssistant.Application BusinessAssistant.Foundation

variable [PythonText] {cfg : WorkflowCatalogue} {env : Environment} {s s' : WorkflowState}

/-! ## What others leave alone -/

/-- What a request relies on while others are served. -/
def Rely (s s' : WorkflowState) : Prop :=
  KeepsSchemas s.db s'.db ∧ ∀ origin ∈ s.db.origins, origin ∈ s'.db.origins

theorem Rely.refl (s : WorkflowState) : Rely s s := ⟨.refl _, fun _ horigin => horigin⟩

theorem Rely.trans {middle last : WorkflowState} (hfirst : Rely s middle)
    (hsecond : Rely middle last) : Rely s last :=
  ⟨hfirst.1.trans hsecond.1, fun origin horigin => hsecond.2 origin (hfirst.2 origin horigin)⟩

theorem rely_serve (call : WorkflowCall) (env : Environment) (s : WorkflowState) :
    Rely s (serve cfg call env s).2 := by
  refine ⟨keepsSchemas_serve call env s, ?_⟩
  rcases changes_of_serve call env s with hsame | hchange
  · rw [hsame]
    exact fun _ horigin => horigin
  · have hopens := hchange.origins
    generalize (serve cfg call env s).2.db.origins = origins at hopens ⊢
    cases hopens with
    | kept => exact fun _ horigin => horigin
    | opened => exact fun _ horigin => List.mem_append_left _ horigin

/-- The schema of a tenant with an id is stored, published or not. -/
def WorkflowDatabase.Knows (db : WorkflowDatabase) (tenantId : TenantId)
    (schemaId : QualificationSchemaId) (schema : QualificationSchema) : Prop :=
  ∃ stored, SameDefinition schema stored ∧ db.Stores tenantId schemaId stored

theorem WorkflowDatabase.Knows.rely {tenantId : TenantId} {schemaId : QualificationSchemaId}
    {schema : QualificationSchema} (hknows : s.db.Knows tenantId schemaId schema)
    (hrely : Rely s s') : s'.db.Knows tenantId schemaId schema := by
  obtain ⟨stored, hsame, hstores⟩ := hknows
  obtain ⟨later, hsame', hstores⟩ := hrely.1 _ _ _ hstores
  exact ⟨later, hsame.trans hsame', hstores⟩

/-- A session of a tenant and the schema it was opened with. -/
def WorkflowDatabase.Shows (db : WorkflowDatabase) (tenantId : TenantId)
    (sessionId : QualificationSessionId) (schema : QualificationSchema) : Prop :=
  ∃ origin ∈ db.origins, origin.id = sessionId ∧ origin.tenantId = tenantId ∧
    db.Knows tenantId origin.schemaId schema

theorem WorkflowDatabase.Shows.rely {tenantId : TenantId} {sessionId : QualificationSessionId}
    {schema : QualificationSchema} (hshows : s.db.Shows tenantId sessionId schema)
    (hrely : Rely s s') : s'.db.Shows tenantId sessionId schema := by
  obtain ⟨origin, horigin, hid, htenant, hknows⟩ := hshows
  exact ⟨origin, hrely.2 origin horigin, hid, htenant, hknows.rely hrely⟩

/-! ## What is issued -/

/-- What `submit` computes from a snapshot of the answers, under the schema of the
session. -/
def Computed (db : WorkflowDatabase) (identity : TelegramIdentity)
    (sessionId : QualificationSessionId) (lead : Lead Answer) (score : ScoreResult)
    (trigger : Option TriggerResult) : Prop :=
  ∃ schema answers leadId consentAt qualifiedAt,
    db.Shows identity.tenantId sessionId schema ∧ scoreAnswers schema answers = .ok score ∧
      detectHandoff schema answers = .ok trigger ∧
      QualificationApplication.qualifiedLead leadId identity schema answers score consentAt
        qualifiedAt = .ok lead

/-- The calls the qualification services make. -/
def Issued (s : WorkflowState) : WorkflowCall → Prop
  | .review _ _ editFieldKey => editFieldKey.isSome = true
  | .complete identity sessionId lead score trigger _ _ =>
      Computed s.db identity sessionId lead score trigger
  | .schedule _ | .activeHandoff _ | .createOrGet _ _ _ | .transition _ _ _ _
  | .anonymize _ _ _ => False
  | _ => True

/-- A request all of whose calls are issued by the services, and what holds when it
returns. -/
abbrev SafeRequest {α : Type} (cfg : WorkflowCatalogue) (Q : α → WorkflowState → Prop)
    (program : Service α) (s : WorkflowState) : Prop :=
  Program.Safe (serve cfg) (fun _ _ => True) Rely Issued (Program.Returning Q) program s

/-- What a request knows and others leave alone. -/
def Stable (K : WorkflowState → Prop) : Prop := ∀ s s', K s → Rely s s' → K s'

omit [PythonText] in
theorem stable_true [PythonText] : Stable fun _ => True := fun _ _ _ _ => trivial

theorem stable_shows (tenantId : TenantId) (sessionId : QualificationSessionId)
    (schema : QualificationSchema) : Stable (·.db.Shows tenantId sessionId schema) :=
  fun _ _ hshows hrely => hshows.rely hrely

/-- The rule for one call. -/
theorem call_safe (call : WorkflowCall) {Q : call.Reply → WorkflowState → Prop}
    (hissued : ∀ s', Rely s s' → Issued s' call)
    (hreply : ∀ s' env reply, Rely s s' →
      (transactionOf cfg env call).run s'.db = .ok (reply, (serve cfg call env s').2.db) →
        Q reply (serve cfg call env s').2) :
    SafeRequest cfg Q (Program.perform call : Service call.Reply) s :=
  Program.Safe.returning_perform hissued fun s' env reply hrely _ hok =>
    hreply s' env reply hrely (run_of_serve_ok hok)

/-- A call that is issued whenever something is known leaves it known. -/
theorem perform_safe {call : WorkflowCall} {K : WorkflowState → Prop} (hstable : Stable K)
    (hissued : ∀ s, K s → Issued s call) (hK : K s) :
    SafeRequest cfg (fun _ s => K s) (Program.perform call : Service call.Reply) s :=
  Program.Safe.returning_keep hK hstable
    (fun s env hK _ => hstable s _ hK (rely_serve call env s)) hissued

theorem clockNow_safe {K : WorkflowState → Prop} (hstable : Stable K) (hK : K s) :
    SafeRequest cfg (fun _ s => K s) Service.clockNow s :=
  @perform_safe _ cfg s .now K hstable (fun _ _ => trivial) hK

theorem clockNow_true (cfg : WorkflowCatalogue) (s : WorkflowState) :
    SafeRequest cfg (fun _ _ => True) Service.clockNow s :=
  clockNow_safe stable_true trivial

section Knowing

variable {α : Type} (K : WorkflowState → Prop) (hK : K s)

include hK

theorem fetch_safe {found : Option α} {error : Failure} :
    SafeRequest cfg (fun value s => found = some value ∧ K s) (Program.fetch found error) s :=
  Program.Safe.returning_fetch hK

theorem require_safe {condition : Prop} [Decidable condition] {error : Failure} :
    SafeRequest cfg (fun _ s => condition ∧ K s) (Program.require condition error) s :=
  Program.Safe.returning_require hK

theorem lift_safe {computation : Except Failure α} :
    SafeRequest cfg (fun value s => computation = .ok value ∧ K s) (Program.lift computation) s :=
  Program.Safe.returning_lift hK

end Knowing

/-! ## Reading the active session -/

/-- What `active_session` returned is a session of the identity. -/
theorem activeSession_safe (cfg : WorkflowCatalogue) (identity : TelegramIdentity) (now : Int)
    (s : WorkflowState) :
    SafeRequest cfg
      (fun found s => ∀ session, found = some session → ∃ origin ∈ s.db.origins,
        origin.id = session.id ∧ origin.tenantId = identity.tenantId ∧
          origin.schemaId = session.schemaId)
      (Service.activeSession identity now) s := by
  refine call_safe (.activeSession identity now) (fun _ _ => trivial) ?_
  intro middle env found _ hrun session hsession
  rcases QualificationStore.activeSession_ok hrun with
    ⟨_, hnone, _⟩ | ⟨row, schema, hrow, _, ⟨_, hnone, _⟩ | ⟨shown, _, hread, hshown, hdb⟩⟩
  · cases hnone.symm.trans hsession
  · cases hnone.symm.trans hsession
  · cases hshown.symm.trans hsession
    obtain ⟨answers, _, rfl⟩ := sessionOf_ok hread
    obtain ⟨hmem, howner, _⟩ := WorkflowDatabase.mem_of_activeRow? hrow
    rw [hdb]
    exact ⟨row.origin, List.mem_map_of_mem hmem, rfl, howner.1, rfl⟩

/-- The schema a session is shown with is its own. -/
theorem schema_safe (cfg : WorkflowCatalogue) {identity : TelegramIdentity}
    {session : QualificationSession} {s : WorkflowState}
    (hsession : ∃ origin ∈ s.db.origins, origin.id = session.id ∧
      origin.tenantId = identity.tenantId ∧ origin.schemaId = session.schemaId) :
    SafeRequest cfg
      (fun found s => ∀ schema, found = some schema →
        s.db.Shows identity.tenantId session.id schema)
      (Service.schema identity.tenantId session.schemaId) s := by
  refine call_safe (.schema identity.tenantId session.schemaId) (fun _ _ => trivial) ?_
  intro middle env found hrely hrun schema hschema
  obtain ⟨origin, horigin, hid, htenant, hschemaId⟩ := hsession
  obtain ⟨hdb, hstores⟩ := QualificationStore.schema_ok hrun
  rw [hdb]
  refine ⟨origin, hrely.2 origin horigin, hid, htenant, schema, .refl schema, ?_⟩
  rw [hschemaId]
  exact hstores schema hschema

/-- What `active` returned is a session of the identity with its own schema. -/
theorem active_safe (cfg : WorkflowCatalogue) (identity : TelegramIdentity) (s : WorkflowState) :
    SafeRequest cfg
      (fun found s => ∀ session schema, found = some (session, schema) →
        s.db.Shows identity.tenantId session.id schema)
      (QualificationApplication.active identity) s := by
  unfold QualificationApplication.active
  apply Program.Safe.returning_bind (clockNow_true cfg s)
  intro now s _
  apply Program.Safe.returning_bind (activeSession_safe cfg identity now s)
  intro found s hfound
  cases found with
  | none =>
      apply Program.Safe.returning_pure
      intro session schema hnone
      cases hnone
  | some session =>
      apply Program.Safe.returning_bind (schema_safe cfg (hfound session rfl))
      intro found s hfound
      cases found with
      | none =>
          apply Program.Safe.returning_pure
          intro session schema hnone
          cases hnone
      | some schema =>
          by_cases hversion : schema.version ≠ session.schemaVersion
          · simp only [if_pos hversion]
            apply Program.Safe.returning_pure
            intro session schema hnone
            cases hnone
          · simp only [if_neg hversion]
            apply Program.Safe.returning_pure
            intro other own hother
            cases hother
            exact hfound schema rfl

/-! ## Requests that need to know nothing -/

/-- A request all of whose calls are issued. -/
abbrev IssuesOnly {α : Type} (cfg : WorkflowCatalogue) (program : Service α)
    (s : WorkflowState) : Prop :=
  SafeRequest cfg (fun _ _ => True) program s

theorem SafeRequest.issuesOnly {α : Type} {Q : α → WorkflowState → Prop} {program : Service α}
    (h : SafeRequest cfg Q program s) : IssuesOnly cfg program s :=
  h.mono fun _ _ _ _ _ => trivial

section IssuesOnly

variable {α β : Type} (cfg : WorkflowCatalogue) (s : WorkflowState)

/-- A call that is always issued. -/
theorem issues_call (call : WorkflowCall) (hissued : ∀ s, Issued s call) :
    IssuesOnly cfg (Program.perform call : Service call.Reply) s :=
  call_safe call (fun s' _ => hissued s') fun _ _ _ _ _ => trivial

theorem issues_pure (value : α) : IssuesOnly cfg (pure value) s :=
  Program.Safe.returning_pure trivial

theorem issues_done (outcome : Except Failure α) : IssuesOnly cfg (.done outcome) s :=
  (lift_safe (fun _ => True) trivial).issuesOnly

theorem issues_fetch (found : Option α) (error : Failure) :
    IssuesOnly cfg (Program.fetch found error) s := by
  cases found with
  | none => exact issues_done cfg s _
  | some value => exact issues_pure cfg s value

theorem issues_require (condition : Prop) [Decidable condition] (error : Failure) :
    IssuesOnly cfg (Program.require condition error) s := by
  unfold Program.require
  split
  · exact issues_pure cfg s ()
  · exact issues_done cfg s _

theorem issues_lift (computation : Except Failure α) :
    IssuesOnly cfg (Program.lift computation) s :=
  issues_done cfg s computation

variable {cfg s}

theorem issues_bind {program : Service α} {f : α → Service β} (hprogram : IssuesOnly cfg program s)
    (hrest : ∀ value s, IssuesOnly cfg (f value) s) : IssuesOnly cfg (program >>= f) s :=
  hprogram.returning_bind fun value s _ => hrest value s

end IssuesOnly

/-! ## The operations -/

section Operations

variable (s : WorkflowState)

theorem start_issues (schemaCode : Text) (identity : TelegramIdentity) :
    IssuesOnly cfg (QualificationApplication.start schemaCode identity) s := by
  unfold QualificationApplication.start
  refine issues_bind (clockNow_true cfg s) fun now s => ?_
  refine issues_bind (issues_call cfg s (.activeSession identity now) fun _ => trivial)
    fun existing s => ?_
  refine issues_bind (issues_call cfg s (.publishedSchema identity.tenantId schemaCode)
    fun _ => trivial) fun published s => ?_
  refine issues_bind (issues_fetch cfg s published _) fun schema s => ?_
  cases existing with
  | some session => exact issues_pure cfg s _
  | none =>
      refine issues_bind (issues_call cfg s (.start identity schema now) fun _ => trivial)
        fun session s => ?_
      exact issues_pure cfg s _

theorem active_issues (identity : TelegramIdentity) :
    IssuesOnly cfg (QualificationApplication.active identity) s :=
  (active_safe cfg identity s).issuesOnly

theorem consent_issues (identity : TelegramIdentity) (sessionId : QualificationSessionId)
    (accepted : Bool) (updateKey : Text) :
    IssuesOnly cfg (QualificationApplication.consent identity sessionId accepted updateKey) s := by
  unfold QualificationApplication.consent
  refine issues_bind (clockNow_true cfg s) fun now s => ?_
  refine issues_bind (issues_call cfg s (.decideConsent identity sessionId
    (if accepted then .accepted else .declined) now updateKey) fun _ => trivial)
    fun session s => ?_
  refine issues_bind (active_issues s identity) fun active s => ?_
  cases active with
  | none => exact issues_pure cfg s _
  | some pair => exact issues_pure cfg s _

theorem answer_issues (identity : TelegramIdentity) (raw updateKey : Text) :
    IssuesOnly cfg (QualificationApplication.answer identity raw updateKey) s := by
  unfold QualificationApplication.answer
  refine issues_bind (active_issues s identity) fun active s => ?_
  refine issues_bind (issues_fetch cfg s active _) fun pair s => ?_
  obtain ⟨session, schema⟩ := pair
  refine issues_bind (issues_fetch cfg s _ _) fun field s => ?_
  refine issues_bind (issues_lift cfg s _) fun answer s => ?_
  refine issues_bind (clockNow_true cfg s) fun now s => ?_
  refine issues_bind (issues_call cfg s (.recordAnswer identity session.id field.key answer now
    updateKey) fun _ => trivial) fun session s => ?_
  exact issues_pure cfg s _

theorem edit_issues (identity : TelegramIdentity) (sessionId : QualificationSessionId)
    (fieldKey : Text) :
    IssuesOnly cfg (QualificationApplication.edit identity sessionId fieldKey) s := by
  unfold QualificationApplication.edit
  refine issues_bind (active_issues s identity) fun active s => ?_
  refine issues_bind (issues_fetch cfg s active _) fun pair s => ?_
  obtain ⟨session, schema⟩ := pair
  refine issues_bind (issues_fetch cfg s _ _) fun field s => ?_
  refine issues_bind (issues_require cfg s _ _) fun _ s => ?_
  refine issues_bind (clockNow_true cfg s) fun _ s => ?_
  refine issues_bind (issues_call cfg s (.review identity session.id (some field.key))
    fun _ => rfl) fun _ s => ?_
  exact issues_pure cfg s _

/-- `submit` completes with what it computed from the answers it read. -/
theorem submit_issues (identity : TelegramIdentity) (sessionId : QualificationSessionId)
    (updateKey : Text) :
    IssuesOnly cfg (QualificationApplication.submit identity sessionId updateKey) s := by
  unfold QualificationApplication.submit
  refine (active_safe cfg identity s).returning_bind fun active s hactive => ?_
  refine (fetch_safe (fun s => ∀ session schema, active = some (session, schema) →
    s.db.Shows identity.tenantId session.id schema) hactive).returning_bind fun pair s hpair => ?_
  obtain ⟨session, schema⟩ := pair
  obtain ⟨hfound, hall⟩ := hpair
  have hshows := hall session schema hfound
  have hstable := stable_shows identity.tenantId session.id schema
  let K : WorkflowState → Prop := (·.db.Shows identity.tenantId session.id schema)
  refine (require_safe K hshows).returning_bind fun _ s hrequired => ?_
  refine (lift_safe K hrequired.2).returning_bind fun score s hscored => ?_
  obtain ⟨hscore, hshows⟩ := hscored
  refine (@perform_safe _ cfg s .newLeadId K hstable (fun _ _ => trivial)
    hshows).returning_bind fun leadId s hshows => ?_
  refine (fetch_safe K hshows).returning_bind fun consentAt s hconsented => ?_
  refine (clockNow_safe hstable hconsented.2).returning_bind fun qualifiedAt s hshows => ?_
  refine (lift_safe K hshows).returning_bind fun lead s hqualified => ?_
  obtain ⟨hlead, hshows⟩ := hqualified
  refine (lift_safe K hshows).returning_bind fun trigger s htriggered => ?_
  obtain ⟨htrigger, hshows⟩ := htriggered
  refine (clockNow_safe hstable hshows).returning_bind fun now s hshows => ?_
  refine call_safe (.complete identity session.id lead score trigger now updateKey) ?_
    fun _ _ _ _ _ => trivial
  intro later hrely
  exact ⟨schema, session.answers, leadId, consentAt, qualifiedAt, hshows.rely hrely, hscore,
    htrigger, except_mapError_eq_ok.mp hlead⟩

theorem cancel_issues (identity : TelegramIdentity) :
    IssuesOnly cfg (QualificationApplication.cancel identity) s := by
  unfold QualificationApplication.cancel
  refine issues_bind (clockNow_true cfg s) fun _ s => ?_
  exact issues_call cfg s (.cancel identity) fun _ => trivial

theorem addSchema_issues (tenantId : TenantId) (schema : QualificationSchema) :
    IssuesOnly cfg (QualificationAdministration.addSchema tenantId schema) s := by
  unfold QualificationAdministration.addSchema
  refine issues_bind (issues_require cfg s _ _) fun _ s => ?_
  exact issues_call cfg s (.addSchema schema) fun _ => trivial

theorem publish_issues (tenantId : TenantId) (schemaId : QualificationSchemaId) :
    IssuesOnly cfg (QualificationAdministration.publish tenantId schemaId) s :=
  issues_call cfg s (.publishSchema tenantId schemaId) fun _ => trivial

/-- Every operation makes only calls that are issued. -/
theorem operation_issues (schemaCode : Text) (operation : Operation) :
    IssuesOnly cfg (operation.program schemaCode) s := by
  cases operation with
  | start identity =>
      exact issues_bind (start_issues s schemaCode identity) fun _ s => issues_pure cfg s _
  | active identity =>
      refine issues_bind (active_issues s identity) fun found s => ?_
      cases found with
      | none => exact issues_pure cfg s _
      | some pair => exact issues_pure cfg s _
  | consent identity sessionId accepted updateKey =>
      exact issues_bind (consent_issues s identity sessionId accepted updateKey)
        fun _ s => issues_pure cfg s _
  | answer identity raw updateKey =>
      exact issues_bind (answer_issues s identity raw updateKey) fun _ s => issues_pure cfg s _
  | edit identity sessionId fieldKey =>
      exact issues_bind (edit_issues s identity sessionId fieldKey)
        fun _ s => issues_pure cfg s _
  | submit identity sessionId updateKey =>
      exact issues_bind (submit_issues s identity sessionId updateKey)
        fun _ s => issues_pure cfg s _
  | cancel identity => exact issues_bind (cancel_issues s identity) fun _ s => issues_pure cfg s _
  | addSchema tenantId schema =>
      exact issues_bind (addSchema_issues s tenantId schema) fun _ s => issues_pure cfg s _
  | publishSchema tenantId schemaId =>
      exact issues_bind (publish_issues s tenantId schemaId) fun _ s => issues_pure cfg s _

end Operations

/-! ## Requests side by side -/

/-- While requests are served in any order, sessions keep their ids apart and every
call is one the services issue. -/
theorem issued_of_reachable {schemaCode : Text}
    {pool : Pool WorkflowState WorkflowCall WorkflowCall.Reply Failure Outcome}
    (hpool : (requestSystem cfg schemaCode).Reachable pool) :
    (pool.store.db.origins.map (·.id)).Nodup ∧
      ∀ index call, pool.nextCall? index = some call → Issued pool.store call := by
  have hsafe := concurrent_safe (fun _ hfresh => hfresh.nodup_sessionIds) (fun s _ => Rely.refl s)
    (fun _ _ _ => Rely.trans)
    (fun op s _ => (operation_issues s schemaCode op).mono fun _ _ _ => trivial)
    (fun s call env hids _ _ => ⟨nodup_sessionIds_serve hids call env, rely_serve call env s⟩) hpool
  exact ⟨hsafe.1, fun index call => Pool.allowed_of_safe Rely.refl hsafe.2⟩

end BusinessAssistant.Persistence
