/-
# Submitted leads

`submit` reads the answers, computes a lead, its score and the escalation from them,
and hands all of it to `complete`, which looks at the status of the session again but
not at the answers. The lead describes the answers of the completed session exactly
when these are still the ones that were read.
-/

import BusinessAssistant.Persistence.ConversationLife
import BusinessAssistant.Persistence.RequestRuns

namespace BusinessAssistant.Persistence

open BusinessAssistant.Domain BusinessAssistant.Application BusinessAssistant.Foundation

/-! ## Answers in JSON -/

/-- JSON holds answers, key by key. -/
def Writes (answers : List (Text × Answer)) (written : List (Text × JsonValue)) : Prop :=
  ∀ key, Option.Rel (fun answer value => jsonAnswer answer = .ok value) (answers.lookup key)
    (written.lookup key)

theorem writes_of_jsonAnswers {answers : List (Text × Answer)} {written : List (Text × JsonValue)}
    (hok : jsonAnswers answers = .ok written) : Writes answers written := by
  induction answers generalizing written with
  | nil =>
      cases hok
      exact fun _ => .none
  | cons entry rest ih =>
      simp only [jsonAnswers, List.mapM_cons, except_bind_eq_ok, except_pure_eq_ok] at hok
      obtain ⟨_, ⟨value, hvalue, rfl⟩, more, hmore, rfl⟩ := hok
      intro key
      rw [Entries.lookup_cons_ite, Entries.lookup_cons_ite]
      cases key == entry.1 with
      | true => exact .some hvalue
      | false => exact ih hmore key

/-- The answer JSON holds, where it is not converted first. -/
def plainAnswer? : JsonValue → Option Answer
  | .null => none
  | .bool value => some (.bool value)
  | .int value => some (.int value)
  | .text value => some (.text value)
  | .texts values => some (.choices values)

/-- What JSON writes of an answer says which answer it is. -/
theorem plainAnswer_of_jsonAnswer {answer : Answer} {value : JsonValue}
    (hok : jsonAnswer answer = .ok value) : plainAnswer? value = some answer := by
  cases answer with
  | decimal => cases hok
  | date => cases hok
  | text text => rw [@QualificationStore.writeJson_ok (.text text) value hok]; rfl
  | int number => rw [@QualificationStore.writeJson_ok (.int number) value hok]; rfl
  | bool flag => rw [@QualificationStore.writeJson_ok (.bool flag) value hok]; rfl
  | choices values => rw [@QualificationStore.writeJson_ok (.texts values) value hok]; rfl

theorem jsonAnswer_injective {first second : Answer} {value : JsonValue}
    (hfirst : jsonAnswer first = .ok value) (hsecond : jsonAnswer second = .ok value) :
    first = second := by
  have hsame := (plainAnswer_of_jsonAnswer hfirst).symm.trans (plainAnswer_of_jsonAnswer hsecond)
  exact Option.some.inj hsame

/-- JSON holds answers exactly when it holds equal ones. -/
theorem Writes.iff_same {answers other : List (Text × Answer)} {written : List (Text × JsonValue)}
    (hwrites : Writes other written) : Writes answers written ↔ Entries.Same other answers := by
  constructor
  · intro hanswers key
    have hother := hwrites key
    have hanswer := hanswers key
    generalize written.lookup key = found at hother hanswer
    generalize other.lookup key = first at hother
    generalize answers.lookup key = second at hanswer
    cases hother with
    | none =>
        cases hanswer
        rfl
    | some hfirst =>
        cases hanswer with
        | some hsecond => rw [jsonAnswer_injective hfirst hsecond]
  · intro hsame key
    rw [← hsame key]
    exact hwrites key

/-! ## What a submission computes -/

/-- The lead `submit` hands over holds the answers it read, and the score and the
grade's priority beside them. -/
theorem qualifiedLead_ok {leadId : LeadId} {identity : TelegramIdentity}
    [PythonText] {schema : QualificationSchema} {answers : List (Text × Answer)}
    {score : ScoreResult} {consentAt qualifiedAt : Int} {lead : Lead Answer}
    (hlead : QualificationApplication.qualifiedLead leadId identity schema answers score consentAt
      qualifiedAt = .ok lead) :
    lead.answers = answers ∧ lead.score = some score.score ∧
      lead.scoreExplanation = some { grade := score.grade, matchedRules := score.matchedRules } ∧
      lead.priority = some (QualificationApplication.priorityOf score.grade) := by
  simp only [QualificationApplication.qualifiedLead, Lead.applyDeterministicScore, Lead.qualify,
    except_bind_eq_ok] at hlead
  obtain ⟨scored, hscored, hqualified⟩ := hlead
  split at hscored
  · cases hscored
    split at hqualified
    · cases hqualified
    · obtain ⟨qualified, hstatus, hend⟩ := except_bind_eq_ok.mp hqualified
      cases except_pure_eq_ok.mp hend
      unfold Lead.transitionTo at hstatus
      split at hstatus
      · cases hstatus
        exact ⟨rfl, rfl, rfl, rfl⟩
      · cases hstatus
  · cases hscored

theorem leadToRow_ok {lead : Lead Answer} {serverNow : Int} {row : LeadRow}
    [PythonText] (hrow : leadToRow lead serverNow = .ok row) :
    Writes lead.answers row.answers ∧ row.score = lead.score ∧
      row.scoreExplanation = lead.scoreExplanation ∧ row.priority = lead.priority := by
  simp only [leadToRow, except_bind_eq_ok, except_pure_eq_ok] at hrow
  obtain ⟨answers, hanswers, _, _, rfl⟩ := hrow
  exact ⟨writes_of_jsonAnswers hanswers, rfl, rfl, rfl⟩

section Completion

variable [PythonText] {cfg : WorkflowCatalogue} {env : Environment} {db db' : WorkflowDatabase}
  {s : WorkflowState} {identity : TelegramIdentity} {sessionId : QualificationSessionId}
  {lead : Lead Answer} {score : ScoreResult} {trigger : Option TriggerResult} {now : Int}
  {updateKey : Text}

/-! ## What is to hold -/

/-- The answers of a session as its schema types them. -/
def WorkflowDatabase.sessionAnswers? (db : WorkflowDatabase) (row : QualificationSessionRow) :
    Option (List (Text × Answer)) :=
  (db.stored? row.tenantId row.schemaId).bind fun schema =>
    (typedAnswers schema row.answers).toOption

/-- A session that a step completed. -/
def Completes (db db' : WorkflowDatabase) (row : QualificationSessionRow) : Prop :=
  row ∈ db'.qualificationSessions ∧ row.status = .completed ∧
    ∀ old ∈ db.qualificationSessions, old.id = row.id → old.status ≠ .completed

/-- What a step did about an escalation: one case for a trigger, and none without. -/
def CaseOpened (db db' : WorkflowDatabase) : Option TriggerResult → Prop
  | none => db'.handoffCases = db.handoffCases
  | some trigger => ∃ case, db'.handoffCases = db.handoffCases ++ [case] ∧
      case.reasonCode = trigger.reasonCode ∧ case.priority = trigger.priority

/-- A lead has the answers of a session, their score, its grade's priority and the
rules that matched, and the step opened a case if they ask for one. -/
def Described (db db' : WorkflowDatabase) (row : QualificationSessionRow) (lead : LeadRow) :
    Prop :=
  ∃ schema typed score trigger,
    db'.Stores row.tenantId row.schemaId schema ∧ typedAnswers schema row.answers = .ok typed ∧
      Writes typed lead.answers ∧ scoreAnswers schema typed = .ok score ∧
      (lead.score = some score.score ∧
        lead.scoreExplanation = some { grade := score.grade, matchedRules := score.matchedRules } ∧
        lead.priority = some (QualificationApplication.priorityOf score.grade)) ∧
      detectHandoff schema typed = .ok trigger ∧ CaseOpened db db' trigger

/-- Every session a step completed points to a lead that describes it. -/
def LeadsDescribe (db db' : WorkflowDatabase) : Prop :=
  ∀ row, Completes db db' row → ∃ leadId, row.leadId = some leadId ∧
    (∃ lead ∈ db'.leads, lead.id = leadId) ∧
      ∀ lead ∈ db'.leads, lead.id = leadId → Described db db' row lead

/-- A completion that is due is handed the answers that the session has. -/
def SnapshotHolds (db : WorkflowDatabase) : WorkflowCall → Prop
  | .complete identity sessionId lead _ _ _ updateKey =>
      ∀ row ∈ db.qualificationSessions, row.OfIdentity identity → row.id = sessionId →
        row.status = .reviewing → db.KeyUnused identity.tenantId updateKey →
          ∀ typed ∈ db.sessionAnswers? row, Entries.Same lead.answers typed
  | _ => True

/-! ## What a completion writes -/

theorem WorkflowDatabase.sessionAnswers?_eq_some {row : QualificationSessionRow}
    {typed : List (Text × Answer)} :
    db.sessionAnswers? row = some typed ↔ ∃ schema,
      db.Stores row.tenantId row.schemaId schema ∧ typedAnswers schema row.answers = .ok typed := by
  simp only [WorkflowDatabase.sessionAnswers?, Option.bind_eq_some_iff, toOption_eq_some,
    WorkflowDatabase.stored?_eq_some]

omit [PythonText] in
/-- The lead a completion points to is there, and holds what it was handed. -/
theorem leads_writeLead {existing : Option LeadRow} {replacement : LeadRow} {leadId : LeadId}
    (hexisting : ∀ row ∈ existing, row ∈ db.leads)
    (hleadId : leadId = (existing.map (·.id)).getD replacement.id)
    (hfresh : existing = none → ∀ row ∈ db.leads, row.id ≠ replacement.id) :
    (∃ row ∈ (db.writeLead existing replacement).leads, row.id = leadId) ∧
      ∀ row ∈ (db.writeLead existing replacement).leads, row.id = leadId →
        row.answers = replacement.answers ∧ row.score = replacement.score ∧
          row.scoreExplanation = replacement.scoreExplanation ∧
          row.priority = replacement.priority := by
  cases existing with
  | none =>
      subst hleadId
      refine ⟨⟨replacement, List.mem_append_right _ (List.mem_singleton_self _), rfl⟩, ?_⟩
      intro row hrow hid
      rcases Table.mem_append_row.mp hrow with hold | rfl
      · exact absurd hid (hfresh rfl row hold)
      · exact ⟨rfl, rfl, rfl, rfl⟩
  | some found =>
      subst hleadId
      have hfound := hexisting found rfl
      refine ⟨⟨replacement.replaceBy found, Table.mem_update.mpr (.inl ⟨found, hfound, rfl, rfl⟩),
        rfl⟩, ?_⟩
      intro row hrow hid
      rcases Table.mem_update.mp hrow with ⟨old, _, _, rfl⟩ | ⟨_, hother⟩
      · exact ⟨rfl, rfl, rfl, rfl⟩
      · exact absurd hid hother

/-- A committed completion could type the answers of its session. -/
theorem QualificationStore.complete_typed {session : QualificationSession}
    (hrun : (complete cfg env identity sessionId lead score trigger now updateKey).run db =
      .ok (session, db')) :
    ∃ row ∈ db.qualificationSessions, row.OfIdentity identity ∧ row.id = sessionId ∧
      ∃ typed, db.sessionAnswers? row = some typed := by
  obtain ⟨row, schema, ⟨hrow, howner, hid⟩, hschema, hrest⟩ := oncePerKey_ok hrun
  refine ⟨row, hrow, howner, hid, ?_⟩
  have hread : ∀ read : QualificationSessionRow, read.answers = row.answers →
      sessionOf read schema = .ok session → ∃ typed, db.sessionAnswers? row = some typed := by
    intro read hanswers hsession
    obtain ⟨typed, htyped, _⟩ := sessionOf_ok hsession
    rw [hanswers] at htyped
    rw [← howner.1] at hschema
    exact ⟨typed, WorkflowDatabase.sessionAnswers?_eq_some.mpr ⟨schema, hschema, htyped⟩⟩
  rcases hrest with ⟨_, hsession, _⟩ | ⟨_, hfresh⟩
  · exact hread row rfl hsession
  · by_cases hcompleted : row.status = .completed
    · simp only [if_pos hcompleted, Tx.run_lift_eq_ok] at hfresh
      exact hread row rfl hfresh.1
    · simp only [if_neg hcompleted, Tx.run_require_bind_eq_ok, Tx.run_get_bind_eq_ok,
        Tx.run_lift_bind_eq_ok, Tx.run_modify_bind_eq_ok] at hfresh
      obtain ⟨_, _, _, _, _, _, hrest⟩ := hfresh
      cases trigger with
      | none => exact hread (row.complete _) rfl (Tx.run_lift_eq_ok.mp hrest).1
      | some result =>
          obtain ⟨_, _, _, hend⟩ := Tx.run_bind_eq_ok.mp hrest
          exact hread (row.complete _) rfl (Tx.run_lift_eq_ok.mp hend).1

/-- Only a completion completes a session. -/
theorem SessionStep.completed {call : WorkflowCall} {row row' : QualificationSessionRow}
    (hstep : SessionStep s.db call row row') (hissued : Issued s call)
    (hcompleted : row'.status = .completed) :
    ∃ identity lead score trigger now updateKey,
      call = .complete identity row.id lead score trigger now updateKey := by
  cases hstep with
  | complete => exact ⟨_, _, _, _, _, _, rfl⟩
  | anonymize => cases hissued
  | @decide _ _ schema decision =>
      cases decision with
      | declined => cases hcompleted
      | accepted =>
          cases hmissing : (nextMissingField schema []).map (·.key) with
          | none => simp [QualificationSessionRow.decide, hmissing] at hcompleted
          | some key => simp [QualificationSessionRow.decide, hmissing] at hcompleted
  | @record _ _ schema _ _ _ _ typed =>
      cases hmissing : (nextMissingField schema typed).map (·.key) with
      | none => simp [QualificationSessionRow.record, hmissing] at hcompleted
      | some key => simp [QualificationSessionRow.record, hmissing] at hcompleted
  | _ => cases hcompleted

/-- Only a completion completes sessions. -/
theorem completes_of_change {call : WorkflowCall} (hids : (s.db.origins.map (·.id)).Nodup)
    (hissued : Issued s call) (hchange : WorkflowChange env s.db call db')
    {row : QualificationSessionRow} (hcompletes : Completes s.db db' row) :
    ∃ identity sessionId lead score trigger now updateKey,
      call = .complete identity sessionId lead score trigger now updateKey := by
  obtain ⟨hrow, hcompleted, hbefore⟩ := hcompletes
  cases hchange.session hids hrow with
  | kept hold => exact absurd hcompleted (hbefore row hold rfl)
  | moved _ hstep =>
      obtain ⟨identity, lead, score, trigger, now, updateKey, hcall⟩ :=
        hstep.completed hissued hcompleted
      exact ⟨identity, _, lead, score, trigger, now, updateKey, hcall⟩
  | opened => cases hcompleted

omit [PythonText] in
theorem WorkflowDatabase.handoffCases_completed (existing : Option LeadRow)
    (replacement : LeadRow) (row : QualificationSessionRow) (leadId : LeadId)
    (event : OutboxEventRow) (update : QualificationSessionUpdateRow) :
    ((db.writeLead existing replacement).writeCompletion row leadId event update).handoffCases =
      db.handoffCases := by
  cases existing <;> rfl

omit [PythonText] in
theorem WorkflowDatabase.mem_of_replaceableLead? {schemaCode : Text} {row : LeadRow}
    (hrow : db.replaceableLead? identity schemaCode = some row) : row ∈ db.leads :=
  (List.mem_filter.mp (List.argmax_mem hrow)).1

/-- What opening a case leaves alone, and the case it opens. -/
theorem Escalated.caseOpened {schema : QualificationSchema} {leadId : LeadId}
    {written after : WorkflowDatabase}
    (hcases : written.handoffCases = db.handoffCases)
    (hafter : Escalated env identity schema sessionId leadId now written trigger after) :
    after.leads = written.leads ∧ CaseOpened db after trigger := by
  cases trigger with
  | none =>
      cases hafter
      exact ⟨rfl, hcases⟩
  | some result =>
      obtain ⟨schedule, due, _, _, _, rfl⟩ := hafter
      exact ⟨rfl, _, congrArg (· ++ [_]) hcases, rfl, rfl⟩

/-! ## Snapshots -/

/-- A lead that was written with the answers of a session describes the session, and
one that was written with others does not. -/
theorem described_iff {row completed : QualificationSessionRow} {leadRow : LeadRow}
    {schema : QualificationSchema} {typed : List (Text × Answer)}
    (hcomputed : Computed s.db identity row.id lead score trigger)
    (hids : (s.db.origins.map (·.id)).Nodup)
    (hrow : row ∈ s.db.qualificationSessions) (howner : row.OfIdentity identity)
    (hschema : s.db.Stores row.tenantId row.schemaId schema)
    (htyped : typedAnswers schema row.answers = .ok typed)
    (hkeeps : KeepsSchemas s.db db') (hcase : CaseOpened s.db db' trigger)
    (horigin : completed.origin = row.origin) (hanswers : completed.answers = row.answers)
    (hwrites : Writes lead.answers leadRow.answers) (hscore : leadRow.score = lead.score)
    (hexplanation : leadRow.scoreExplanation = lead.scoreExplanation)
    (hpriority : leadRow.priority = lead.priority) :
    Described s.db db' completed leadRow ↔ Entries.Same lead.answers typed := by
  have htenant : completed.tenantId = row.tenantId := congrArg SessionOrigin.tenantId horigin
  have hschemaId : completed.schemaId = row.schemaId := congrArg SessionOrigin.schemaId horigin
  obtain ⟨stored, hsame, hstores⟩ := hkeeps _ _ _ hschema
  unfold Described
  rw [htenant, hschemaId, hanswers]
  constructor
  · rintro ⟨other, answers, _, _, hother, hread, hwritten, _⟩
    cases hother.unique hstores
    rw [typedAnswers_congr hsame, htyped] at hread
    cases hread
    exact (Writes.iff_same hwrites).mp hwritten
  · intro hsame_answers
    obtain ⟨own, answers, _, _, _, ⟨origin, horigin', hid, _, known, hknown, hstored⟩, hscored,
      htriggered, hlead⟩ := hcomputed
    obtain ⟨hlead_answers, hlead_score, hlead_explanation, hlead_priority⟩ := qualifiedLead_ok hlead
    subst hlead_answers
    have hown : origin = row.origin :=
      Table.eq_of_key_eq hids horigin' (List.mem_map_of_mem hrow) hid
    rw [hown, ← howner.1] at hstored
    cases hschema.unique hstored
    refine ⟨stored, typed, score, trigger, hstores, ?_, ?_, ?_, ?_, ?_, hcase⟩
    · rw [typedAnswers_congr hsame, htyped]
    · exact (Writes.iff_same hwrites).mpr hsame_answers
    · rw [scoreAnswers_congr hsame, scoreAnswers_congr hknown,
        scoreAnswers_same own hsame_answers, hscored]
    · exact ⟨hscore.trans hlead_score, hexplanation.trans hlead_explanation,
        hpriority.trans hlead_priority⟩
    · rw [detectHandoff_congr hsame, detectHandoff_congr hknown,
        detectHandoff_same own hsame_answers, htriggered]

/-- A completion that is due writes leads that describe its session exactly when it is
handed the answers the session has. -/
theorem describe_of_completion (hids : (s.db.origins.map (·.id)).Nodup)
    {row : QualificationSessionRow} {typed : List (Text × Answer)}
    (hrow : row ∈ s.db.qualificationSessions) (howner : row.OfIdentity identity)
    (hid : row.id = sessionId) (htyped : s.db.sessionAnswers? row = some typed)
    (hcomputed : Computed s.db identity sessionId lead score trigger)
    (hchange : WorkflowChange env s.db
      (.complete identity sessionId lead score trigger now updateKey) db') :
    LeadsDescribe s.db db' ↔ Entries.Same lead.answers typed := by
  have hkeeps := hchange.keepsSchemas
  obtain ⟨schema, hschema, htyped⟩ := WorkflowDatabase.sessionAnswers?_eq_some.mp htyped
  cases hchange with
  | @complete _ locked own _ _ _ _ _ replacement leadId _ hlocked _ hown hkey hstatus hreplacement
      hleadId hfresh hconversation hevent hafter =>
      obtain rfl := Table.eq_of_key_eq (WorkflowDatabase.nodup_rowIds hids) hrow hlocked hid
      obtain ⟨hleads, hcase⟩ := hafter.caseOpened (WorkflowDatabase.handoffCases_completed ..)
      obtain ⟨hexists, hwritten⟩ := leads_writeLead
        (fun found hfound => WorkflowDatabase.mem_of_replaceableLead? hfound) hleadId hfresh
      obtain ⟨hwrites, hscore, hexplanation, hpriority⟩ := leadToRow_ok hreplacement
      have hiff : ∀ leadRow ∈ db'.leads, leadRow.id = leadId →
          (Described s.db db' (row.complete leadId) leadRow ↔ Entries.Same lead.answers typed) := by
        intro leadRow hmem hlead
        rw [hleads] at hmem
        obtain ⟨hanswers, hsame_score, hsame_explanation, hsame_priority⟩ :=
          hwritten leadRow hmem hlead
        rw [← hanswers] at hwrites
        exact described_iff hcomputed hids hrow howner hschema htyped hkeeps hcase rfl rfl hwrites
          (hsame_score.trans hscore) (hsame_explanation.trans hexplanation)
          (hsame_priority.trans hpriority)
      have hmem : ∀ other, other ∈ db'.qualificationSessions ↔
          other = row.complete leadId ∨ other ∈ s.db.qualificationSessions ∧ other.id ≠ row.id := by
        intro other
        rw [hafter.qualificationSessions, WorkflowDatabase.qualificationSessions_writeCompletion]
        exact Table.mem_update_key (WorkflowDatabase.nodup_rowIds hids) hrow
      constructor
      · intro hall
        have hcompletes : Completes s.db db' (row.complete leadId) := by
          refine ⟨(hmem _).mpr (.inl rfl), rfl, ?_⟩
          intro old hold hsame hcompleted
          obtain rfl := Table.eq_of_key_eq (WorkflowDatabase.nodup_rowIds hids) hold hrow hsame
          rw [hstatus] at hcompleted
          cases hcompleted
        obtain ⟨_, hpoints, ⟨leadRow, hleadRow, hlead⟩, hdescribed⟩ := hall _ hcompletes
        cases hpoints
        exact (hiff leadRow hleadRow hlead).mp (hdescribed leadRow hleadRow hlead)
      · intro hsame completed hcompletes
        obtain ⟨hcompleted, hstatus', hbefore⟩ := hcompletes
        rcases (hmem completed).mp hcompleted with rfl | ⟨hkept, _⟩
        · refine ⟨leadId, rfl, ?_, ?_⟩
          · rw [hleads]
            exact hexists
          · intro leadRow hleadRow hlead
            exact (hiff leadRow hleadRow hlead).mpr hsame
        · exact absurd hstatus' (hbefore completed hkept rfl)

theorem snapshotHolds_of_other {call : WorkflowCall}
    (hother : ∀ identity sessionId lead score trigger now updateKey,
      call ≠ .complete identity sessionId lead score trigger now updateKey) :
    SnapshotHolds db call := by
  cases call with
  | complete => exact absurd rfl (hother _ _ _ _ _ _ _)
  | _ => exact trivial

/-- Without a completion no session is completed. -/
theorem describe_of_other {call : WorkflowCall} (hids : (s.db.origins.map (·.id)).Nodup)
    (hissued : Issued s call) (hchanges : Changes env s.db call db')
    (hother : ∀ identity sessionId lead score trigger now updateKey,
      call ≠ .complete identity sessionId lead score trigger now updateKey) :
    LeadsDescribe s.db db' := by
  intro row hcompletes
  rcases hchanges with rfl | hchange
  · obtain ⟨hrow, hcompleted, hbefore⟩ := hcompletes
    exact absurd hcompleted (hbefore row hrow rfl)
  · obtain ⟨_, _, _, _, _, _, _, hcall⟩ := completes_of_change hids hissued hchange hcompletes
    exact absurd hcall (hother _ _ _ _ _ _ _)

/-- A committed completion, due or not. -/
theorem describe_of_complete (hids : (s.db.origins.map (·.id)).Nodup)
    (hcomputed : Computed s.db identity sessionId lead score trigger)
    {session : QualificationSession}
    (hrun : (QualificationStore.complete cfg env identity sessionId lead score trigger now
      updateKey).run s.db = .ok (session, db')) :
    LeadsDescribe s.db db' ↔
      SnapshotHolds s.db (.complete identity sessionId lead score trigger now updateKey) := by
  obtain ⟨row, hrow, howner, hid, hrest⟩ := QualificationStore.complete_ok hrun
  have hunique : ∀ other ∈ s.db.qualificationSessions, other.id = sessionId → other = row := by
    intro other hother hsame
    exact Table.eq_of_key_eq (WorkflowDatabase.nodup_rowIds hids) hother hrow
      (hsame.trans hid.symm)
  rcases hrest with ⟨hrefused, rfl⟩ | ⟨⟨hkey, hstatus⟩, hchange⟩
  · apply iff_of_true
    · rintro other ⟨hother, hcompleted, hbefore⟩
      exact absurd hcompleted (hbefore other hother rfl)
    · intro other hother _ hsame hreviewing hunused
      cases hunique other hother hsame
      rcases hrefused with hused | hstatus
      · exact absurd hunused hused
      · exact absurd hreviewing hstatus
  · obtain ⟨locked, hlocked, _, hlocked_id, typed, htyped⟩ :=
      QualificationStore.complete_typed hrun
    cases hunique locked hlocked hlocked_id
    refine (describe_of_completion hids hrow howner hid htyped hcomputed hchange).trans ?_
    constructor
    · intro hsame other hother _ hother_id _ _ answers hanswers
      cases hunique other hother hother_id
      cases hanswers.symm.trans htyped
      exact hsame
    · intro hholds
      exact hholds row hrow howner hid hstatus hkey typed htyped

/-- When a call the services issue commits, the leads of the sessions it completes
describe them exactly when a completion that is due is handed the answers the session
has. -/
theorem describe_iff_snapshot {call : WorkflowCall} (hids : (s.db.origins.map (·.id)).Nodup)
    (hissued : Issued s call) {reply : call.Reply}
    (hreply : (serve cfg call env s).1 = .ok reply) :
    LeadsDescribe s.db (serve cfg call env s).2.db ↔ SnapshotHolds s.db call := by
  by_cases hcomplete : ∃ identity sessionId lead score trigger now updateKey,
      call = .complete identity sessionId lead score trigger now updateKey
  · obtain ⟨identity, sessionId, lead, score, trigger, now, updateKey, rfl⟩ := hcomplete
    exact describe_of_complete hids hissued (run_of_serve_ok hreply)
  · have hother : ∀ identity sessionId lead score trigger now updateKey,
        call ≠ .complete identity sessionId lead score trigger now updateKey := by
      intro identity sessionId lead score trigger now updateKey hcall
      exact hcomplete ⟨identity, sessionId, lead, score, trigger, now, updateKey, hcall⟩
    exact iff_of_true (describe_of_other hids hissued (changes_of_serve call env s) hother)
      (snapshotHolds_of_other hother)

/-! ## Every run -/

/-- For every call about to be served, in any order of requests: when it commits, the
leads of the sessions it completes describe them exactly when a completion that is due
is handed the answers the session has. -/
theorem leads_describe {schemaCode : Text} {pool : RequestPool}
    (hpool : (requestSystem cfg schemaCode).Reachable pool) {index : Nat} {call : WorkflowCall}
    (hcall : pool.nextCall? index = some call) {reply : call.Reply}
    (hreply : (serve cfg call env pool.store).1 = .ok reply) :
    LeadsDescribe pool.store.db (serve cfg call env pool.store).2.db ↔
      SnapshotHolds pool.store.db call := by
  obtain ⟨hids, hissued⟩ := issued_of_reachable hpool
  exact describe_iff_snapshot hids (hissued index call hcall) hreply

end Completion

/-! ## In the small shop -/

section Shop

open Shop

instance decidableSnapshotHolds (db : WorkflowDatabase) : DecidablePred (SnapshotHolds db)
  | .complete _ _ _ _ _ _ _ => inferInstanceAs (Decidable (∀ _ ∈ _, _))
  | .now | .newLeadId | .publishedSchema _ _ | .schema _ _ | .activeSession _ _ | .start _ _ _
  | .decideConsent _ _ _ _ _ | .recordAnswer _ _ _ _ _ _ | .review _ _ _ | .cancel _
  | .addSchema _ | .publishSchema _ _ | .schedule _ | .activeHandoff _ | .createOrGet _ _ _
  | .transition _ _ _ _ | .anonymize _ _ _ => .isTrue trivial

/-- A customer answers both questions, and a request to submit has computed the lead. -/
def Shop.submits : List (Event Operation Environment) :=
  arrives 0 4 (.start (identity 0)) 10 1 ++
    arrives 1 5 (.consent (identity 0) (BitVec.ofNat 128 1) true "k1".toList) 20 0 ++
      arrives 2 5 (.answer (identity 0) "A new roof".toList "k2".toList) 30 0 ++
        arrives 3 5 (.answer (identity 0) "no".toList "k3".toList) 40 0 ++
          arrives 4 6 (.submit (identity 0) (BitVec.ofNat 128 1) "k4".toList) 50 2

/-- Before it completes the session, the customer changes an answer: it is urgent. -/
def Shop.changesAnswer : List (Event Operation Environment) :=
  arrives 5 5 (.edit (identity 0) (BitVec.ofNat 128 1) "urgent".toList) 60 0 ++
    arrives 6 5 (.answer (identity 0) "yes".toList "k5".toList) 70 0

/-- What the completion takes from outside. -/
def Shop.completing : Environment where
  now := 80
  serverNow := 80
  newId := BitVec.ofNat 128 3

theorem leads_describe_in_shop :
    ∃ call, (after submits).nextCall? 4 = some call ∧
      LeadsDescribe (after submits).store.db
        (serve workflowCatalogue call completing (after submits).store).2.db := by
  have hreachable : (requestSystem workflowCatalogue intake).Reachable (after submits) :=
    pool_reachable (by decide +kernel)
  have hcommits : Commits (after submits) 4 completing := by decide +kernel
  have hholds : ∀ call ∈ (after submits).nextCall? 4,
      SnapshotHolds (after submits).store.db call := by decide +kernel
  obtain ⟨call, hcall, reply, hreply⟩ := reply_of_commits hcommits
  exact ⟨call, hcall, (leads_describe hreachable hcall hreply).mpr (hholds call hcall)⟩

/-- An answer that changes between the read and the completion of a submission is not
in the lead, and nobody is told that it is urgent. -/
theorem lead_of_old_answers :
    ∃ pool index call env reply, (requestSystem workflowCatalogue intake).Reachable pool ∧
      pool.nextCall? index = some call ∧
      (serve workflowCatalogue call env pool.store).1 = .ok reply ∧
      ¬ LeadsDescribe pool.store.db (serve workflowCatalogue call env pool.store).2.db := by
  have hreachable : (requestSystem workflowCatalogue intake).Reachable
      (after (submits ++ changesAnswer)) := pool_reachable (by decide +kernel)
  have hcommits : Commits (after (submits ++ changesAnswer)) 4 completing := by decide +kernel
  have hstale : ∀ call ∈ (after (submits ++ changesAnswer)).nextCall? 4,
      ¬ SnapshotHolds (after (submits ++ changesAnswer)).store.db call := by decide +kernel
  obtain ⟨call, hcall, reply, hreply⟩ := reply_of_commits hcommits
  refine ⟨_, 4, call, completing, reply, hreachable, hcall, hreply, ?_⟩
  obtain ⟨hids, hissued⟩ := issued_of_reachable hreachable
  rw [describe_iff_snapshot hids (hissued 4 call hcall) hreply]
  exact hstale call hcall

end Shop

end BusinessAssistant.Persistence
