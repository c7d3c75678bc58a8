/-
# Answers come back as they were given

An answer is written by its Python type and read back by the type of its field. What
`validate_answer` accepts for a field has the Python type the field's answers are read
back as, so a session that is read shows, scores and escalates the answers that were
validated.
-/

import BusinessAssistant.Application.Scoring
import BusinessAssistant.Domain.IsoText
import BusinessAssistant.Persistence.RequestRuns

namespace BusinessAssistant.Persistence

open BusinessAssistant.Domain BusinessAssistant.Application BusinessAssistant.Foundation

/-- What an answer to a field of a type is. -/
def AnswersType (kind : QualificationFieldType) (answer : Answer) : Prop :=
  match kind with
  | .integer => ∃ value, answer = .int value
  | .decimal => ∃ value, answer = .decimal value
  | .boolean => ∃ value, answer = .bool value
  | .date => ∃ value, answer = .date value
  | .multiChoice => ∃ values, answer = .choices values
  | .shortText | .longText | .singleChoice | .phone | .email => ∃ value, answer = .text value

/-- The dictionary of answers a session stores. -/
def storedAnswers (answers : List (Text × Answer)) : List (Text × JsonValue) :=
  answers.map fun entry => (entry.1, storedAnswer entry.2)

section Storage

variable [PythonText] {schema : QualificationSchema} {answers : List (Text × Answer)}

/-- Answers to fields of a schema, each key once, as `validate_answer` returned them. -/
structure Validated (schema : QualificationSchema) (answers : List (Text × Answer)) : Prop where
  keys : (answers.map (·.1)).Nodup
  accepted : ∀ entry ∈ answers, ∃ field ∈ schema.fields, field.key = entry.1 ∧
    ∃ raw, validateAnswer field raw = .ok entry.2

/-! ## One answer -/

omit [PythonText] in
theorem answersType_of_map {α : Type} {kind : QualificationFieldType} {image : α → Answer}
    {computation : Except Failure α} {answer : Answer} (hok : image <$> computation = .ok answer)
    (himage : ∀ value, AnswersType kind (image value)) : AnswersType kind answer := by
  cases computation with
  | error => cases hok
  | ok value =>
      cases hok
      exact himage value

/-- The Python type of an accepted answer is the one its field asks for. -/
theorem answersType_of_validateAnswer {field : QualificationField} {raw : Text} {answer : Answer}
    (hvalid : validateAnswer field raw = .ok answer) : AnswersType field.fieldType answer := by
  unfold validateAnswer at hvalid
  simp only at hvalid
  cases hkind : field.fieldType with
  | shortText =>
      rw [hkind] at hvalid
      exact answersType_of_map hvalid fun value => ⟨value, rfl⟩
  | longText =>
      rw [hkind] at hvalid
      exact answersType_of_map hvalid fun value => ⟨value, rfl⟩
  | singleChoice =>
      simp only [hkind] at hvalid
      split at hvalid
      · cases hvalid
        exact ⟨_, rfl⟩
      · cases hvalid
  | multiChoice =>
      simp only [hkind] at hvalid
      split at hvalid
      · cases hvalid
      · cases hvalid
        exact ⟨_, rfl⟩
  | phone =>
      simp only [hkind] at hvalid
      split at hvalid
      · cases hvalid
        exact ⟨_, rfl⟩
      · cases hvalid
  | email =>
      simp only [hkind] at hvalid
      split at hvalid
      · cases hvalid
      · cases hvalid
        exact ⟨_, rfl⟩
  | integer =>
      simp only [hkind] at hvalid
      exact answersType_of_map hvalid fun number => ⟨number.toInt, rfl⟩
  | decimal =>
      rw [hkind] at hvalid
      exact answersType_of_map hvalid fun value => ⟨value, rfl⟩
  | boolean =>
      simp only [hkind] at hvalid
      split at hvalid
      · cases hvalid
        exact ⟨true, rfl⟩
      · split at hvalid
        · cases hvalid
          exact ⟨false, rfl⟩
        · cases hvalid
  | date =>
      simp only [hkind] at hvalid
      split at hvalid
      · cases hvalid
        exact ⟨_, rfl⟩
      · cases hvalid

/-- An answer is read back from what was stored of it. -/
theorem answerOf_storedAnswer {kind : QualificationFieldType} {answer : Answer}
    (htype : AnswersType kind answer) : answerOf (storedAnswer answer) kind = .ok answer := by
  cases kind with
  | decimal =>
      obtain ⟨number, rfl⟩ := htype
      have hread : toDecimal number.str = .ok number :=
        (toDecimal_iff number.str number).mpr (Decimal.parse_str number)
      simp only [answerOf, storedAnswer, JsonValue.str, pure_bind, hread]
      rfl
  | date =>
      obtain ⟨date, rfl⟩ := htype
      simp only [answerOf, storedAnswer, JsonValue.str, pure_bind, Date.fromisoformat_isoformat]
      rfl
  | _ =>
      obtain ⟨value, rfl⟩ := htype
      rfl

/-! ## The answers of a session -/

/-- A field is found by its key. -/
theorem fieldType?_of_mem {field : QualificationField} (hfield : field ∈ schema.fields) :
    fieldType? schema field.key = some field.fieldType := by
  have hfound : schema.fields.find? (fun other => other.key = field.key) = some field := by
    refine Table.find?_eq_some_of_unique hfield rfl ?_
    intro other hother hkey
    exact Table.eq_of_key_eq schema.keysAndOrdersUnique.1 hother hfield hkey
  rw [fieldType?, hfound]
  rfl

theorem typedAnswers_storedAnswers
    (htypes : ∀ entry ∈ answers, ∃ kind, fieldType? schema entry.1 = some kind ∧
      AnswersType kind entry.2) : typedAnswers schema (storedAnswers answers) = .ok answers := by
  induction answers with
  | nil => rfl
  | cons entry rest ih =>
      obtain ⟨kind, hkind, htype⟩ := htypes entry List.mem_cons_self
      have hrest : typedAnswers schema (storedAnswers rest) = .ok rest :=
        ih fun other hother => htypes other (List.mem_cons_of_mem entry hother)
      have hentry : readAnswer schema (entry.1, storedAnswer entry.2) =
          .ok (some (entry.1, entry.2)) := by
        simp only [readAnswer, hkind, answerOf_storedAnswer htype]
        rfl
      have hcons : storedAnswers (entry :: rest) =
          (entry.1, storedAnswer entry.2) :: storedAnswers rest := rfl
      rw [hcons, typedAnswers, hentry, hrest]
      rfl

theorem Validated.types (hvalid : Validated schema answers) :
    ∀ entry ∈ answers, ∃ kind, fieldType? schema entry.1 = some kind ∧
      AnswersType kind entry.2 := by
  intro entry hentry
  obtain ⟨field, hfield, hkey, raw, haccepted⟩ := hvalid.accepted entry hentry
  rw [← hkey]
  exact ⟨field.fieldType, fieldType?_of_mem hfield, answersType_of_validateAnswer haccepted⟩

theorem Validated.typedAnswers (hvalid : Validated schema answers) :
    typedAnswers schema (storedAnswers answers) = .ok answers :=
  typedAnswers_storedAnswers hvalid.types

/-- An accepted answer of any type is read back equal, and a session that stored accepted
answers is read back with these answers, their score and their escalation. -/
theorem answers_survive_storage :
    (∀ (field : QualificationField) (raw : Text) (answer : Answer),
      validateAnswer field raw = .ok answer →
        answerOf (storedAnswer answer) field.fieldType = .ok answer) ∧
    ∀ (schema : QualificationSchema) (answers : List (Text × Answer))
      (row : QualificationSessionRow), Validated schema answers →
        row.answers = storedAnswers answers →
        ∃ session, sessionOf row schema = .ok session ∧ session.answers = answers ∧
          scoreAnswers schema session.answers = scoreAnswers schema answers ∧
          detectHandoff schema session.answers = detectHandoff schema answers := by
  constructor
  · intro field raw answer haccepted
    exact answerOf_storedAnswer (answersType_of_validateAnswer haccepted)
  · intro schema answers row hvalid hrow
    have hread := hvalid.typedAnswers
    rw [← hrow] at hread
    rw [sessionOf, hread]
    exact ⟨_, rfl, rfl, rfl, rfl⟩

end Storage

/-! ## In the small shop -/

section Shop

open Shop

/-- What may it cost? -/
def Shop.budget : QualificationField where
  key := "budget".toList
  label := "Budget".toList
  prompt := "What may it cost?".toList
  fieldType := .decimal
  validation := Workshop.unbounded
  required := true
  order := 0
  sensitivity := .publicLevel
  scoreRules := []
  handoffTriggers := []
  identityAndCopyValid := by decide +kernel
  orderNonnegative := Workshop.brakes.orderNonnegative
  choiceIffOptions := by decide

theorem answers_survive_storage_of_budget :
    answerOf (storedAnswer (.decimal (.finite false 150 (-2)))) Shop.budget.fieldType =
      .ok (.decimal (.finite false 150 (-2))) :=
  answers_survive_storage.1 Shop.budget "1.50".toList _ (by decide +kernel)

end Shop

end BusinessAssistant.Persistence
