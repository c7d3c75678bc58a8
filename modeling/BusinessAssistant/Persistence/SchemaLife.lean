/-
# The life of a schema

A stored schema is never rewritten. Publishing changes which version of a code is
published and nothing else, so whatever was read of a schema, but for that flag,
stays true.
-/

import BusinessAssistant.Persistence.Sessions

namespace BusinessAssistant.Persistence

open BusinessAssistant.Domain BusinessAssistant.Application BusinessAssistant.Foundation

variable [PythonText] {cfg : WorkflowCatalogue} {env : Environment} {db db' : WorkflowDatabase}
  {call : WorkflowCall}

/-! ## One definition -/

/-- Schemas that differ at most in being published. -/
def SameDefinition (first second : QualificationSchema) : Prop :=
  ∃ published, second = { first with published := published }

theorem SameDefinition.refl (schema : QualificationSchema) : SameDefinition schema schema :=
  ⟨schema.published, rfl⟩

theorem SameDefinition.trans {first second third : QualificationSchema}
    (hfirst : SameDefinition first second) (hsecond : SameDefinition second third) :
    SameDefinition first third := by
  obtain ⟨_, rfl⟩ := hfirst
  obtain ⟨published, rfl⟩ := hsecond
  exact ⟨published, rfl⟩

/-- The constructor checks nothing about being published. -/
theorem make_published {id : QualificationSchemaId} {tenantId : TenantId} {code : Text}
    {version : Int} {title consentVersion consentPurpose : Text}
    {fields : List QualificationField} {gradeBands : List GradeBand}
    {sessionTtl handoffResponseMinutes : Int} {published active : Bool} (other : Bool) :
    QualificationSchema.make id tenantId code version title consentVersion consentPurpose fields
        gradeBands sessionTtl handoffResponseMinutes other active =
      (fun schema : QualificationSchema => { schema with published := other }) <$>
        QualificationSchema.make id tenantId code version title consentVersion consentPurpose
          fields gradeBands sessionTtl handoffResponseMinutes published active := by
  simp only [QualificationSchema.make, map_bind, map_pure]

/-- What a row reads as, whatever is published. -/
theorem schemaOf_published (row : QualificationSchemaRow) (published : Bool) :
    schemaOf { row with published := published } =
      (fun schema : QualificationSchema => { schema with published := published }) <$>
        schemaOf row := by
  simp only [schemaOf, map_bind]
  congr 1
  funext fields
  congr 1
  funext gradeBands
  exact make_published published

/-- The columns a schema takes over from its row. -/
theorem schemaOf_ok {row : QualificationSchemaRow} {schema : QualificationSchema}
    (hread : schemaOf row = .ok schema) :
    schema.id = row.id ∧ schema.tenantId = row.tenantId ∧ schema.code = row.code ∧
      schema.version = row.version := by
  simp only [schemaOf, QualificationSchema.make, except_bind_eq_ok, except_pure_eq_ok] at hread
  obtain ⟨fields, _, gradeBands, _, _, _, _, _, _, _, _, _, _, _, _, _, _, _, _, _, rfl⟩ := hread
  exact ⟨rfl, rfl, rfl, rfl⟩

/-! ## Stored schemas -/

theorem WorkflowDatabase.Stores.unique {tenantId : TenantId} {schemaId : QualificationSchemaId}
    {first second : QualificationSchema} (hfirst : db.Stores tenantId schemaId first)
    (hsecond : db.Stores tenantId schemaId second) : first = second := by
  obtain ⟨row, hrow, hread⟩ := hfirst
  obtain ⟨row', hrow', hread'⟩ := hsecond
  rw [hrow] at hrow'
  cases hrow'
  rw [hread] at hread'
  cases hread'
  rfl

/-- The schema a row with an id of a tenant reads as has that id and tenant. -/
theorem WorkflowDatabase.Stores.identity {tenantId : TenantId} {schemaId : QualificationSchemaId}
    {schema : QualificationSchema} (hstores : db.Stores tenantId schemaId schema) :
    schema.id = schemaId ∧ schema.tenantId = tenantId := by
  obtain ⟨row, hrow, hread⟩ := hstores
  obtain ⟨_, htenant, hid⟩ := Table.of_find? hrow
  obtain ⟨hschemaId, hschemaTenant, _⟩ := schemaOf_ok hread
  exact ⟨hschemaId.trans hid, hschemaTenant.trans htenant⟩

/-- Every stored schema is still stored, with the same definition. -/
def KeepsSchemas (db db' : WorkflowDatabase) : Prop :=
  ∀ tenantId schemaId schema, db.Stores tenantId schemaId schema →
    ∃ schema', SameDefinition schema schema' ∧ db'.Stores tenantId schemaId schema'

theorem KeepsSchemas.of_eq (hsame : db'.qualificationSchemas = db.qualificationSchemas) :
    KeepsSchemas db db' := by
  intro tenantId schemaId schema hstores
  refine ⟨schema, .refl schema, ?_⟩
  rw [WorkflowDatabase.Stores, hsame]
  exact hstores

theorem KeepsSchemas.refl (db : WorkflowDatabase) : KeepsSchemas db db := .of_eq rfl

theorem KeepsSchemas.trans {middle last : WorkflowDatabase} (hfirst : KeepsSchemas db middle)
    (hsecond : KeepsSchemas middle last) : KeepsSchemas db last := by
  intro tenantId schemaId schema hstores
  obtain ⟨between, hsame, hstores⟩ := hfirst tenantId schemaId schema hstores
  obtain ⟨after, hsame', hstores⟩ := hsecond tenantId schemaId between hstores
  exact ⟨after, hsame.trans hsame', hstores⟩

/-- A new schema takes nobody's place. -/
theorem keepsSchemas_insertSchema (db : WorkflowDatabase) (row : QualificationSchemaRow) :
    KeepsSchemas db (db.insertSchema row) := by
  rintro tenantId schemaId schema ⟨found, hfound, hread⟩
  refine ⟨schema, .refl schema, found, ?_, hread⟩
  exact (List.find?_append ..).trans (by rw [hfound]; rfl)

omit [PythonText] in
/-- What is found under an id after some rows were published or not. -/
theorem find?_update_published {rows : List QualificationSchemaRow}
    {selected : QualificationSchemaRow → Prop} [DecidablePred selected] (published : Bool)
    (tenantId : TenantId) (schemaId : QualificationSchemaId) :
    (Table.update selected (fun row => { row with published := published }) rows).find?
        (fun row => row.tenantId = tenantId ∧ row.id = schemaId) =
      (rows.find? fun row => row.tenantId = tenantId ∧ row.id = schemaId).map fun row =>
        if selected row then { row with published := published } else row := by
  rw [Table.update, List.find?_map]
  congr 2
  funext row
  simp only [Function.comp_apply]
  split <;> rfl

theorem keepsSchemas_update_published {selected : QualificationSchemaRow → Prop}
    [DecidablePred selected] (published : Bool)
    (hrows : db'.qualificationSchemas =
      Table.update selected (fun row => { row with published := published })
        db.qualificationSchemas) : KeepsSchemas db db' := by
  rintro tenantId schemaId schema ⟨found, hfound, hread⟩
  by_cases hselected : selected found
  · refine ⟨{ schema with published := published }, ⟨published, rfl⟩,
      { found with published := published }, ?_, ?_⟩
    · rw [hrows, find?_update_published, hfound, Option.map_some, if_pos hselected]
    · rw [schemaOf_published, hread]
      rfl
  · refine ⟨schema, .refl schema, found, ?_, hread⟩
    rw [hrows, find?_update_published, hfound, Option.map_some, if_neg hselected]

theorem keepsSchemas_publish (db : WorkflowDatabase) (target : QualificationSchemaRow) :
    KeepsSchemas db (db.publish target) := by
  let middle : WorkflowDatabase :=
    { db with
      qualificationSchemas :=
        Table.update
          (fun row => row.tenantId = target.tenantId ∧ row.code = target.code ∧
            row.published = true)
          (fun row => { row with published := false }) db.qualificationSchemas }
  have hunpublished : KeepsSchemas db middle := keepsSchemas_update_published false rfl
  exact hunpublished.trans (keepsSchemas_update_published true rfl)

/-- No call rewrites a schema. -/
theorem WorkflowChange.keepsSchemas (hchange : WorkflowChange env db call db') :
    KeepsSchemas db db' := by
  cases hchange with
  | expireSession => exact .of_eq rfl
  | start hbase => cases hbase <;> exact .of_eq rfl
  | @decideConsent _ _ _ decision => cases decision <;> exact .of_eq rfl
  | recordAnswer => exact .of_eq rfl
  | edit => exact .of_eq rfl
  | showReview => exact .of_eq rfl
  | @complete _ _ _ _ _ trigger _ _ _ _ _ _ _ _ _ _ _ _ _ _ _ hafter =>
      have hlead : ∀ existing replacement,
          (db.writeLead existing replacement).qualificationSchemas = db.qualificationSchemas := by
        intro existing replacement
        cases existing <;> rfl
      cases trigger with
      | none =>
          cases hafter
          exact .of_eq (hlead _ _)
      | some result =>
          obtain ⟨schedule, due, _, _, _, rfl⟩ := hafter
          exact .of_eq (hlead _ _)
  | cancel => exact .of_eq rfl
  | addSchema => exact keepsSchemas_insertSchema _ _
  | publishSchema => exact keepsSchemas_publish _ _
  | createCase => exact .of_eq rfl
  | @transition row moved action =>
      unfold WorkflowDatabase.moveTo
      cases conversationStatus? action <;> exact .of_eq rfl
  | anonymize => exact .of_eq rfl

theorem keepsSchemas_serve (call : WorkflowCall) (env : Environment) (s : WorkflowState) :
    KeepsSchemas s.db (serve cfg call env s).2.db := by
  rcases changes_of_serve call env s with hsame | hchange
  · rw [hsame]
    exact .refl _
  · exact hchange.keepsSchemas

/-! ## What the rules see -/

theorem scoreAnswers_congr {first second : QualificationSchema}
    (hsame : SameDefinition first second) (answers : List (Text × Answer)) :
    scoreAnswers second answers = scoreAnswers first answers := by
  obtain ⟨_, rfl⟩ := hsame
  rfl

theorem detectHandoff_congr {first second : QualificationSchema}
    (hsame : SameDefinition first second) (answers : List (Text × Answer)) :
    detectHandoff second answers = detectHandoff first answers := by
  obtain ⟨_, rfl⟩ := hsame
  rfl

/-- The score depends on the answers as a dictionary only. -/
theorem scoreAnswers_same (schema : QualificationSchema) {first second : List (Text × Answer)}
    (hsame : Entries.Same first second) : scoreAnswers schema second = scoreAnswers schema first := by
  have hfield : scoreField second = scoreField first := by
    funext result field
    rw [scoreField, scoreField, hsame field.key]
  rw [scoreAnswers, scoreAnswers, hfield]

/-- And so does the escalation. -/
theorem detectHandoff_same (schema : QualificationSchema) {first second : List (Text × Answer)}
    (hsame : Entries.Same first second) :
    detectHandoff schema second = detectHandoff schema first := by
  have hfield : triggerField second = triggerField first := by
    funext found field
    rw [triggerField, triggerField, hsame field.key]
  rw [detectHandoff, detectHandoff, hfield]

theorem typedAnswers_congr {first second : QualificationSchema}
    (hsame : SameDefinition first second) (answers : List (Text × JsonValue)) :
    typedAnswers second answers = typedAnswers first answers := by
  obtain ⟨_, rfl⟩ := hsame
  induction answers with
  | nil => rfl
  | cons entry rest ih =>
      rw [typedAnswers, typedAnswers, ih]
      rfl

end BusinessAssistant.Persistence
