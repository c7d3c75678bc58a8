/-
# Sessions that can be read

However requests are served, an identity has at most one active session, and every
session can be read under the schema it was opened with: the schema is stored, and the
answers have the types of its fields.
-/

import BusinessAssistant.Persistence.RequestSafety

namespace BusinessAssistant.Persistence

open BusinessAssistant.Domain BusinessAssistant.Application BusinessAssistant.Foundation

/-! ## The invariant -/

/-- The sessions of one customer in one conversation. -/
def QualificationSessionRow.Alongside (row other : QualificationSessionRow) : Prop :=
  row.tenantId = other.tenantId ∧ row.customerId = other.customerId ∧
    row.conversationId = other.conversationId

theorem QualificationSessionRow.alongside_of_identity {row other : QualificationSessionRow}
    {identity : TelegramIdentity} (hrow : row.OfIdentity identity)
    (hother : other.OfIdentity identity) : row.Alongside other :=
  ⟨hrow.1.trans hother.1.symm, hrow.2.1.trans hother.2.1.symm, hrow.2.2.trans hother.2.2.symm⟩

theorem QualificationSessionRow.Alongside.symm {row other : QualificationSessionRow}
    (h : row.Alongside other) : other.Alongside row :=
  ⟨h.1.symm, h.2.1.symm, h.2.2.symm⟩

theorem QualificationSessionRow.OfIdentity.of_alongside {row other : QualificationSessionRow}
    {identity : TelegramIdentity} (hrow : row.OfIdentity identity) (h : other.Alongside row) :
    other.OfIdentity identity :=
  ⟨h.1.trans hrow.1, h.2.1.trans hrow.2.1, h.2.2.trans hrow.2.2⟩

/-- `uq_qualification_sessions_tenant_identity_active` -/
def WorkflowDatabase.OneActive (db : WorkflowDatabase) : Prop :=
  ∀ row ∈ db.qualificationSessions, ∀ other ∈ db.qualificationSessions,
    row.Active → other.Active → row.Alongside other → row.id = other.id

section Invariant

variable [PythonText] {cfg : WorkflowCatalogue} {env : Environment} {db db' : WorkflowDatabase}
  {call : WorkflowCall} {s : WorkflowState}

/-- The schema of a session is stored, and its answers can be typed. -/
def WorkflowDatabase.CanRead (db : WorkflowDatabase) (row : QualificationSessionRow) : Prop :=
  ∃ schema typed, db.Stores row.tenantId row.schemaId schema ∧
    typedAnswers schema row.answers = .ok typed

/-- What holds of the sessions and schemas in every reachable state. -/
structure SessionsReadable (db : WorkflowDatabase) : Prop where
  ids : (db.origins.map (·.id)).Nodup
  schemaIds : (db.qualificationSchemas.map (·.id)).Nodup
  oneActive : db.OneActive
  readable : ∀ row ∈ db.qualificationSessions, db.CanRead row

/-- The active session of an identity is the only one. -/
theorem SessionsReadable.activeRow? (h : SessionsReadable db) {identity : TelegramIdentity}
    {row : QualificationSessionRow} (hrow : row ∈ db.qualificationSessions)
    (howner : row.OfIdentity identity) (hactive : row.Active) :
    db.activeRow? identity = some row := by
  refine Table.find?_eq_some_of_unique hrow ⟨howner, hactive⟩ ?_
  intro other hother hboth
  refine Table.eq_of_key_eq (WorkflowDatabase.nodup_rowIds h.ids) hother hrow ?_
  exact h.oneActive other hother row hrow hboth.2 hactive
    (QualificationSessionRow.alongside_of_identity hboth.1 howner)

/-! ## Sessions stay apart -/

theorem SessionStep.alongside {row row' other : QualificationSessionRow}
    (hstep : SessionStep db call row row') : row'.Alongside other ↔ row.Alongside other := by
  have horigin := hstep.origin
  have htenant : row'.tenantId = row.tenantId := congrArg SessionOrigin.tenantId horigin
  have hcustomer : row'.customerId = row.customerId := congrArg SessionOrigin.customerId horigin
  have hconversation : row'.conversationId = row.conversationId :=
    congrArg SessionOrigin.conversationId horigin
  unfold QualificationSessionRow.Alongside
  rw [htenant, hcustomer, hconversation]

/-- A session that a step leaves active was active, or no other of its identity is. -/
theorem SessionStep.active_cases {row row' : QualificationSessionRow}
    (hstep : SessionStep db call row row') (hactive : row'.Active) :
    row.Active ∨ ∀ other ∈ db.qualificationSessions, other.Alongside row → other.Active →
      other.id = row.id := by
  have halone : ∀ identity : TelegramIdentity, row.OfIdentity identity →
      ¬ db.HasOtherActive identity row.id → ∀ other ∈ db.qualificationSessions,
        other.Alongside row → other.Active → other.id = row.id := by
    intro identity howner hnone other hother halongside hother'
    by_contra hid
    exact hnone ⟨other, hother, howner.of_alongside halongside, hother', hid⟩
  cases hstep with
  | expire => cases hactive
  | decide _ _ _ hstatus =>
      left
      rw [QualificationSessionRow.Active, hstatus]
      rfl
  | record _ _ _ hstatus =>
      left
      rw [QualificationSessionRow.Active, hstatus]
      rfl
  | edit howner _ _ hother => exact .inr (halone _ howner hother)
  | showReview howner _ _ _ hother => exact .inr (halone _ howner hother)
  | complete => cases hactive
  | cancel => cases hactive
  | anonymize =>
      left
      unfold QualificationSessionRow.Active PrivacyStore.anonymizeSession at hactive
      split at hactive
      · cases hactive
      · exact hactive

/-- The session a call names. -/
def namedSession? : WorkflowCall → Option QualificationSessionId
  | .decideConsent _ sessionId _ _ _ | .recordAnswer _ sessionId _ _ _ _ | .review _ sessionId _
  | .complete _ sessionId _ _ _ _ _ => some sessionId
  | _ => none

/-- A session that a step leaves active is the one the call names, or was active under a
call that names none. -/
theorem SessionStep.named {row row' : QualificationSessionRow}
    (hstep : SessionStep db call row row') (hactive : row'.Active) :
    namedSession? call = some row.id ∨ namedSession? call = none ∧ row.Active := by
  cases hstep with
  | expire => cases hactive
  | cancel => cases hactive
  | anonymize =>
      refine .inr ⟨rfl, ?_⟩
      unfold QualificationSessionRow.Active PrivacyStore.anonymizeSession at hactive
      split at hactive
      · cases hactive
      · exact hactive
  | _ => exact .inl rfl

/-- A call moves at most one session, unless it leaves no more active than were. -/
theorem SessionStep.same_row {row row' other other' : QualificationSessionRow}
    (hstep : SessionStep db call row row') (hother : SessionStep db call other other')
    (hactive : row'.Active) (hactive' : other'.Active) :
    row.id = other.id ∨ row.Active ∧ other.Active := by
  rcases hstep.named hactive with hnamed | ⟨hnone, hbefore⟩
  · rcases hother.named hactive' with hnamed' | ⟨hnone', _⟩
    · exact .inl (Option.some.inj (hnamed.symm.trans hnamed'))
    · cases hnamed.symm.trans hnone'
  · rcases hother.named hactive' with hnamed' | ⟨_, hbefore'⟩
    · cases hnone.symm.trans hnamed'
    · exact .inr ⟨hbefore, hbefore'⟩

omit [PythonText] in
/-- A cleared identity has no active session. -/
theorem QualificationStore.Cleared.none_active (hone : db.OneActive)
    (hids : (db.origins.map (·.id)).Nodup) {identity : TelegramIdentity} {now : Int}
    {base : WorkflowDatabase} (hbase : QualificationStore.Cleared db identity now base) :
    ∀ row ∈ base.qualificationSessions, row.OfIdentity identity → ¬ row.Active := by
  cases hbase with
  | none hnone =>
      intro row hrow howner hactive
      have hnot := List.find?_eq_none.mp hnone row hrow
      exact hnot (decide_eq_true ⟨howner, hactive⟩)
  | expired hfound hexpired =>
      rename_i active
      obtain ⟨hmem, howner', hactive'⟩ := WorkflowDatabase.mem_of_activeRow? hfound
      intro row hrow howner hactive
      rcases (Table.mem_update_key (WorkflowDatabase.nodup_rowIds hids) hmem).mp hrow with
        rfl | ⟨hkept, hid⟩
      · cases hactive
      · exact hid (hone row hkept active hmem hactive hactive'
          (QualificationSessionRow.alongside_of_identity howner howner'))

/-- The sessions a call opens or moves stay apart from the others. -/
theorem WorkflowChange.oneActive (hone : db.OneActive) (hids : (db.origins.map (·.id)).Nodup)
    (hchange : WorkflowChange env db call db') : db'.OneActive := by
  -- The active sessions of the opened one's identity.
  have hopened : ∀ identity schema now, call = .start identity schema now →
      ∀ row ∈ db'.qualificationSessions, row.OfIdentity identity → row.Active →
        row.id = env.newId := by
    rintro identity schema now rfl row hrow howner hactive
    cases hchange with
    | start hbase _ _ =>
        rcases Table.mem_append_row.mp hrow with hold | rfl
        · exact absurd hactive (hbase.none_active hone hids row hold howner)
        · rfl
  have hnew : ∀ identity schema now,
      (QualificationStore.newSession env identity schema now).OfIdentity identity :=
    fun _ _ _ => ⟨rfl, rfl, rfl⟩
  intro row hrow other hother hactive hactive' halongside
  rcases hchange.session hids hrow with hkept | ⟨hold, hstep⟩ | hfresh
  · rcases hchange.session hids hother with hkept' | ⟨hold', hstep'⟩ | hfresh'
    · exact hone row hkept other hkept' hactive hactive' halongside
    · have hid : other.id = _ := congrArg SessionOrigin.id hstep'.origin
      have halongside' := (hstep'.alongside).mp halongside.symm
      rcases hstep'.active_cases hactive' with hbefore | halone
      · rw [hid]
        exact hone row hkept _ hold' hactive hbefore halongside'.symm
      · rw [hid]
        exact halone row hkept halongside'.symm hactive
    · exact hopened _ _ _ rfl row hrow ((hnew _ _ _).of_alongside halongside) hactive
  · have hid : row.id = _ := congrArg SessionOrigin.id hstep.origin
    have halongside' := (hstep.alongside).mp halongside
    rcases hchange.session hids hother with hkept' | ⟨hold', hstep'⟩ | hfresh'
    · rcases hstep.active_cases hactive with hbefore | halone
      · rw [hid]
        exact hone _ hold other hkept' hbefore hactive' halongside'
      · rw [hid]
        exact (halone other hkept' halongside'.symm hactive').symm
    · have hid' : other.id = _ := congrArg SessionOrigin.id hstep'.origin
      rcases hstep.same_row hstep' hactive hactive' with hsame | ⟨hbefore, hbefore'⟩
      · rw [hid, hid']
        exact hsame
      · rw [hid, hid']
        exact hone _ hold _ hold' hbefore hbefore' ((hstep'.alongside).mp halongside'.symm).symm
    · exact hopened _ _ _ rfl row hrow ((hnew _ _ _).of_alongside halongside) hactive
  · exact (hopened _ _ _ rfl other hother ((hnew _ _ _).of_alongside halongside.symm)
      hactive').symm

/-! ## Sessions stay readable -/

theorem WorkflowDatabase.CanRead.later {row : QualificationSessionRow} (h : db.CanRead row)
    (hkeeps : KeepsSchemas db db') : db'.CanRead row := by
  obtain ⟨schema, typed, hstores, htyped⟩ := h
  obtain ⟨later, hsame, hstores⟩ := hkeeps _ _ _ hstores
  exact ⟨later, typed, hstores, (typedAnswers_congr hsame _).trans htyped⟩

/-- A session is opened under a schema that is stored. -/
def OpensStored (s : WorkflowState) : WorkflowCall → Prop
  | .start identity schema _ => ∃ stored, s.db.Stores identity.tenantId schema.id stored
  | _ => True

/-- A step leaves its session with answers that can be typed. -/
theorem SessionStep.canRead {row row' : QualificationSessionRow}
    (hstep : SessionStep db call row row') (hread : db.CanRead row) : db.CanRead row' := by
  have hsame : ∀ changed : QualificationSessionRow, changed.tenantId = row.tenantId →
      changed.schemaId = row.schemaId → changed.answers = row.answers → db.CanRead changed := by
    intro changed htenant hschema hanswers
    unfold WorkflowDatabase.CanRead
    rw [htenant, hschema, hanswers]
    exact hread
  cases hstep with
  | expire => exact hsame _ rfl rfl rfl
  | decide => exact hsame _ rfl rfl rfl
  | record howner hschema _ _ _ htyped =>
      rw [← howner.1] at hschema
      exact ⟨_, _, hschema, htyped⟩
  | edit => exact hsame _ rfl rfl rfl
  | showReview => exact hsame _ rfl rfl rfl
  | complete => exact hsame _ rfl rfl rfl
  | cancel => exact hsame _ rfl rfl rfl
  | anonymize =>
      obtain ⟨schema, typed, hstores, _⟩ := hread
      exact ⟨schema, [], hstores, rfl⟩

/-- What no call changes of a schema's id. -/
theorem WorkflowChange.schemaIds (hids : (db.qualificationSchemas.map (·.id)).Nodup)
    (hchange : WorkflowChange env db call db') : (db'.qualificationSchemas.map (·.id)).Nodup := by
  have hupdated : ∀ (selected : QualificationSchemaRow → Prop) [DecidablePred selected]
      (published : Bool) (rows : List QualificationSchemaRow), (rows.map (·.id)).Nodup →
        ((Table.update selected (fun row => { row with published := published }) rows).map
          (·.id)).Nodup :=
    fun _ _ _ _ hrows => Table.nodup_update hrows fun _ => rfl
  cases hchange with
  | start hbase => cases hbase <;> exact hids
  | @decideConsent _ _ _ decision => cases decision <;> exact hids
  | @complete _ _ _ _ _ trigger _ _ _ _ _ _ _ _ _ _ _ _ _ _ _ hafter =>
      have hlead : ∀ existing replacement,
          (db.writeLead existing replacement).qualificationSchemas = db.qualificationSchemas := by
        intro existing replacement
        cases existing <;> rfl
      cases trigger with
      | none =>
          cases hafter
          exact (hlead _ _).symm ▸ hids
      | some result =>
          obtain ⟨schedule, due, _, _, _, rfl⟩ := hafter
          exact (hlead _ _).symm ▸ hids
  | addSchema _ hfresh _ => exact Table.nodup_append_row hids hfresh
  | publishSchema => exact hupdated _ _ _ (hupdated _ _ _ hids)
  | @transition row moved action =>
      unfold WorkflowDatabase.moveTo
      cases conversationStatus? action <;> exact hids
  | _ => exact hids

/-- A call that opens sessions only under stored schemas keeps the sessions readable. -/
theorem SessionsReadable.serve (h : SessionsReadable s.db) (hopens : OpensStored s call)
    (env : Environment) : SessionsReadable (serve cfg call env s).2.db := by
  have hchanges : Changes env s.db call (Persistence.serve cfg call env s).2.db :=
    changes_of_serve call env s
  rcases hchanges with hsame | hchange
  · rw [hsame]
    exact h
  · have hkeeps := hchange.keepsSchemas
    exact
      { ids := nodup_sessionIds_serve h.ids call env
        schemaIds := hchange.schemaIds h.schemaIds
        oneActive := hchange.oneActive h.oneActive h.ids
        readable := by
          intro row hrow
          have hsource := hchange.session h.ids hrow
          generalize (Persistence.serve cfg call env s).2.db = db' at hkeeps hrow
          cases hsource with
          | kept hkept => exact (h.readable row hkept).later hkeeps
          | moved hold hstep => exact (hstep.canRead (h.readable _ hold)).later hkeeps
          | @opened identity schema now hfresh =>
              obtain ⟨stored, hstores⟩ := hopens
              have hread : s.db.CanRead (QualificationStore.newSession env identity schema now) :=
                ⟨stored, [], hstores, rfl⟩
              exact hread.later hkeeps }

/-! ## What requests open sessions with -/

/-- What a request relies on when it opens a session. -/
def SchemaRely (s s' : WorkflowState) : Prop :=
  KeepsSchemas s.db s'.db ∧
    ((s.db.qualificationSchemas.map (·.id)).Nodup → (s'.db.qualificationSchemas.map (·.id)).Nodup)

theorem schemaRely_serve (call : WorkflowCall) (env : Environment) (s : WorkflowState) :
    SchemaRely s (serve cfg call env s).2 := by
  refine ⟨keepsSchemas_serve call env s, ?_⟩
  intro hids
  rcases changes_of_serve call env s with hsame | hchange
  · rw [hsame]
    exact hids
  · exact hchange.schemaIds hids

/-- The published schema of a code is the stored one with its id. -/
theorem WorkflowDatabase.Publishes.stores {tenantId : TenantId} {code : Text}
    {schema : QualificationSchema} (hpublishes : db.Publishes tenantId code schema)
    (hids : (db.qualificationSchemas.map (·.id)).Nodup) : db.Stores tenantId schema.id schema := by
  obtain ⟨found, hfound, hread⟩ := hpublishes
  obtain ⟨hmem, htenant, _⟩ := Table.of_find? hfound
  have hid := (schemaOf_ok hread).1
  refine ⟨found, ?_, hread⟩
  refine Table.find?_eq_some_of_unique hmem ⟨htenant, hid.symm⟩ ?_
  intro other hother hboth
  exact Table.eq_of_key_eq hids hother hmem (hboth.2.trans hid)

/-- A call that opens no session. -/
def OpensNone (call : WorkflowCall) : Prop :=
  ∀ identity schema now, call ≠ .start identity schema now

theorem opensStored_of_opensNone (s : WorkflowState) (call : WorkflowCall)
    (hnone : OpensNone call) : OpensStored s call := by
  cases call with
  | start identity schema now => exact absurd rfl (hnone identity schema now)
  | _ => trivial

/-- A request that opens sessions only under stored schemas. -/
abbrev OpensSafely {α : Type} (cfg : WorkflowCatalogue) (Q : α → WorkflowState → Prop)
    (program : Service α) (s : WorkflowState) : Prop :=
  Program.Safe (serve cfg) (fun _ _ => True) SchemaRely OpensStored (Program.Returning Q) program s

/-- The rule for one call. -/
theorem call_opensSafely (call : WorkflowCall) {Q : call.Reply → WorkflowState → Prop}
    (hopens : ∀ s', SchemaRely s s' → OpensStored s' call)
    (hreply : ∀ s' env reply, SchemaRely s s' →
      (transactionOf cfg env call).run s'.db = .ok (reply, (serve cfg call env s').2.db) →
        Q reply (serve cfg call env s').2) :
    OpensSafely cfg Q (Program.perform call : Service call.Reply) s :=
  Program.Safe.returning_perform hopens fun s' env reply hrely _ hok =>
    hreply s' env reply hrely (run_of_serve_ok hok)

/-- `start` opens its session under the schema it read. -/
theorem start_opensSafely (schemaCode : Text) (identity : TelegramIdentity)
    (hids : (s.db.qualificationSchemas.map (·.id)).Nodup) :
    OpensSafely cfg (fun _ _ => True) (QualificationApplication.start schemaCode identity) s := by
  let Unique : WorkflowState → Prop := fun s => (s.db.qualificationSchemas.map (·.id)).Nodup
  let Found : Option QualificationSchema → WorkflowState → Prop := fun published s =>
    ∀ schema, published = some schema → ∃ stored, s.db.Stores identity.tenantId schema.id stored
  have hkeep : ∀ (call : WorkflowCall) (s : WorkflowState), Unique s → OpensNone call →
      OpensSafely cfg (fun _ s => Unique s) (Program.perform call : Service call.Reply) s := by
    intro call s hs hnone
    refine call_opensSafely call (fun s' _ => opensStored_of_opensNone s' call hnone) ?_
    intro s' env reply hrely _
    exact (schemaRely_serve call env s').2 (hrely.2 hs)
  unfold QualificationApplication.start
  refine (hkeep .now s hids nofun).returning_bind fun now s hids => ?_
  refine (hkeep (.activeSession identity now) s hids nofun).returning_bind fun existing s hids => ?_
  have hpublished : OpensSafely cfg Found
      (Service.publishedSchema identity.tenantId schemaCode) s := by
    refine call_opensSafely (.publishedSchema identity.tenantId schemaCode) (fun _ _ => trivial) ?_
    intro s' env published hrely hrun schema hschema
    obtain ⟨hdb, hpublishes⟩ := QualificationStore.publishedSchema_ok hrun
    rw [hdb]
    exact ⟨schema, (hpublishes schema hschema).stores (hrely.2 hids)⟩
  refine hpublished.returning_bind fun published s hpublished => ?_
  refine (Program.Safe.returning_fetch (K := Found published)
    hpublished).returning_bind fun schema s hschema => ?_
  obtain ⟨hfound, hstored⟩ := hschema
  cases existing with
  | some session => exact Program.Safe.returning_pure trivial
  | none =>
      have hopens : OpensSafely cfg (fun _ _ => True) (Service.start identity schema now) s := by
        refine call_opensSafely (.start identity schema now) ?_ fun _ _ _ _ _ => trivial
        intro s' hrely
        obtain ⟨stored, hstores⟩ := hstored schema hfound
        obtain ⟨later, _, hlater⟩ := hrely.1 _ _ _ hstores
        exact ⟨later, hlater⟩
      exact hopens.returning_bind fun _ _ _ => Program.Safe.returning_pure trivial

theorem active_opensNone (identity : TelegramIdentity) :
    (QualificationApplication.active identity).Makes OpensNone := by
  unfold QualificationApplication.active
  refine .bind (.perform nofun) fun now => .bind (.perform nofun) fun found => ?_
  cases found with
  | none => trivial
  | some session =>
      refine .bind (.perform nofun) fun found => ?_
      cases found with
      | none => trivial
      | some schema =>
          simp only
          split <;> trivial

/-- Only `start` opens sessions. -/
theorem operation_opensNone (schemaCode : Text) (operation : Operation)
    (hstart : ∀ identity, operation ≠ .start identity) :
    (operation.program schemaCode).Makes OpensNone := by
  cases operation with
  | start identity => exact absurd rfl (hstart identity)
  | active identity =>
      refine .bind (active_opensNone identity) fun found => ?_
      cases found <;> trivial
  | consent identity sessionId accepted updateKey =>
      refine .bind ?_ fun _ => trivial
      refine .bind (.perform nofun) fun now => .bind (.perform nofun) fun session => ?_
      refine .bind (active_opensNone identity) fun active => ?_
      cases active <;> trivial
  | answer identity raw updateKey =>
      refine .bind ?_ fun _ => trivial
      refine .bind (active_opensNone identity) fun active => ?_
      refine .bind (.fetch _ _) fun pair => .bind (.fetch _ _) fun field => ?_
      refine .bind trivial fun answer => .bind (.perform nofun) fun now => ?_
      exact .bind (.perform nofun) fun session => trivial
  | edit identity sessionId fieldKey =>
      refine .bind ?_ fun _ => trivial
      refine .bind (active_opensNone identity) fun active => ?_
      refine .bind (.fetch _ _) fun pair => .bind (.fetch _ _) fun field => ?_
      refine .bind (.require _ _) fun _ => .bind (.perform nofun) fun now => ?_
      exact .bind (.perform nofun) fun session => trivial
  | submit identity sessionId updateKey =>
      refine .bind ?_ fun _ => trivial
      refine .bind (active_opensNone identity) fun active => ?_
      refine .bind (.fetch _ _) fun pair => .bind (.require _ _) fun _ => ?_
      refine .bind trivial fun score => .bind (.perform nofun) fun leadId => ?_
      refine .bind (.fetch _ _) fun consentAt => .bind (.perform nofun) fun qualifiedAt => ?_
      refine .bind trivial fun lead => .bind trivial fun trigger => ?_
      exact .bind (.perform nofun) fun now => .perform nofun
  | cancel identity =>
      exact .bind (.bind (.perform nofun) fun _ => .perform nofun) fun _ => trivial
  | addSchema tenantId schema =>
      exact .bind (.bind (.require _ _) fun _ => .perform nofun) fun _ => trivial
  | publishSchema tenantId schemaId => exact .bind (.perform nofun) fun _ => trivial

/-- Every operation opens sessions only under stored schemas. -/
theorem operation_opensStored (schemaCode : Text) (operation : Operation) (s : WorkflowState)
    (hids : (s.db.qualificationSchemas.map (·.id)).Nodup) :
    Program.Safe (serve cfg) (fun _ _ => True) SchemaRely OpensStored (fun _ _ => True)
      (operation.program schemaCode) s := by
  by_cases hstart : ∀ identity, operation ≠ .start identity
  · exact (operation_opensNone schemaCode operation hstart).safe opensStored_of_opensNone s
  · simp only [ne_eq, not_forall, not_not] at hstart
    obtain ⟨identity, rfl⟩ := hstart
    have hsafe : OpensSafely cfg (fun _ _ => True)
        ((Operation.start identity).program schemaCode) s :=
      (start_opensSafely schemaCode identity hids).returning_bind
        fun _ _ _ => Program.Safe.returning_pure trivial
    exact hsafe.mono fun _ _ _ => trivial

/-- While requests are served in any order, the sessions can be read. -/
theorem sessionsReadable_of_reachable {schemaCode : Text}
    {pool : Pool WorkflowState WorkflowCall WorkflowCall.Reply Failure Outcome}
    (hpool : (requestSystem cfg schemaCode).Reachable pool) : SessionsReadable pool.store.db := by
  have hfresh : ∀ s : WorkflowState, s.db.Fresh → SessionsReadable s.db := by
    intro s hs
    have hnone := hs.1
    exact
      { ids := hs.nodup_sessionIds
        schemaIds := hs.2.2.2.2.2.2.2.1
        oneActive := by
          intro row hrow
          rw [hnone] at hrow
          cases hrow
        readable := by
          intro row hrow
          rw [hnone] at hrow
          cases hrow }
  have htrans : ∀ s middle last : WorkflowState, SchemaRely s middle → SchemaRely middle last →
      SchemaRely s last :=
    fun _ _ _ hfirst hsecond => ⟨hfirst.1.trans hsecond.1, hsecond.2 ∘ hfirst.2⟩
  exact (concurrent_safe (I := fun s => SessionsReadable s.db) hfresh
    (fun s _ => ⟨.refl _, id⟩) htrans
    (fun op s h => operation_opensStored schemaCode op s h.schemaIds)
    (fun s call env h hopens _ => ⟨h.serve hopens env, schemaRely_serve call env s⟩) hpool).1

end Invariant

end BusinessAssistant.Persistence
