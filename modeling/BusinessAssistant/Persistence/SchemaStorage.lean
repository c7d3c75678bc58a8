/-
# Schemas and answers as JSON

How a schema is written to its row and read back, and how the answers of a session
are. Reading builds the values anew with the constructors of the domain, so it can
raise; an operand is read as the type of its field asks, whatever it was written
as.
-/

import BusinessAssistant.Application.LeadEngine
import BusinessAssistant.Persistence.WorkflowRows

namespace BusinessAssistant.Persistence

open BusinessAssistant.Domain BusinessAssistant.Application BusinessAssistant.Foundation

section Storage

variable [PythonText]

/-! ## Scalars -/

namespace JsonValue

/-- `str(value)` -/
def str : JsonValue → Except Failure Text
  | null => pure "None".toList
  | bool value => pure (strBool value)
  | int value => strInt value
  | text value => pure value
  | texts values => pure (PythonText.strList values)

/-- `bool(value)` -/
def truth : JsonValue → Bool
  | null => false
  | bool value => value
  | int value => value ≠ 0
  | text value => value ≠ []
  | texts values => values ≠ []

/-- `int(value)` -/
def toInt : JsonValue → Except Failure Int
  | bool value => pure (ofBool value)
  | int value => pure value
  | text value =>
      match Text.toInt? value with
      | some number => pure number
      | none => throw (.valueError "invalid literal for int() with base 10")
  | null | texts _ => throw (.typeError "int() argument must be a string or a real number")

/-- `tuple(str(item) for item in value)` -/
def toTuple : JsonValue → Except Failure (List Text)
  | texts values => pure values
  | text value => pure (value.map ([·]))
  | null | bool _ | int _ => throw (.typeError "object is not iterable")

end JsonValue

/-- `str(rule.expected) if isinstance(rule.expected, Decimal) else rule.expected` -/
def storedOperand : Operand → JsonValue
  | .text value => .text value
  | .int value => .int value
  | .decimal value => .text value.str
  | .bool value => .bool value

/-- `_rule_expected` -/
def ruleExpected (value : JsonValue) (fieldType : QualificationFieldType) :
    Except Failure Operand :=
  match fieldType with
  | .decimal => do
      let number ← toDecimal (← value.str)
      pure (.decimal number)
  | .integer => do
      let number ← JsonValue.toInt (.text (← value.str))
      pure (.int number)
  | .boolean => pure (.bool value.truth)
  | _ => do
      let text ← value.str
      pure (.text text)

/-! ## Writing a schema -/

def validationDefinition (validation : FieldValidation) : ValidationDefinition where
  minLength := validation.minLength
  maxLength := validation.maxLength
  minimum := validation.minimum.map Decimal.str
  maximum := validation.maximum.map Decimal.str
  options := validation.options
  pattern := validation.pattern

def scoreRuleDefinition (rule : ScoreRule) : ScoreRuleDefinition where
  code := rule.code
  operator := rule.operator.value
  expected := storedOperand rule.expected
  points := rule.points

def handoffTriggerDefinition (rule : HandoffTrigger) : HandoffTriggerDefinition where
  code := rule.code
  operator := rule.operator.value
  expected := storedOperand rule.expected
  reasonCode := rule.reasonCode
  priority := rule.priority

def fieldDefinition (field : QualificationField) : FieldDefinition where
  key := field.key
  label := field.label
  prompt := field.prompt
  fieldType := field.fieldType.value
  validation := validationDefinition field.validation
  required := field.required
  order := field.order
  sensitivity := field.sensitivity.value
  scoreRules := field.scoreRules.map scoreRuleDefinition
  handoffTriggers := field.handoffTriggers.map handoffTriggerDefinition

/-- `schema_definition` -/
def schemaDefinition (schema : QualificationSchema) : List FieldDefinition :=
  schema.fields.map fieldDefinition

/-! ## Reading a schema -/

/-- A value of an enumeration, read from its text. -/
def enumeration {α : Type} (found : Option α) : Except Failure α :=
  match found with
  | some value => pure value
  | none => throw (.valueError "not a valid value of the enumeration")

/-- `Decimal(value) if value is not None else None` -/
def bound (value : Option Text) : Except Failure (Option Decimal) :=
  match value with
  | none => pure none
  | some text => some <$> toDecimal text

/-- `_validation` -/
def readValidation (value : ValidationDefinition) : Except Failure FieldValidation := do
  let minimum ← bound value.minimum
  let maximum ← bound value.maximum
  FieldValidation.make value.minLength value.maxLength minimum maximum value.options value.pattern

def readScoreRule (fieldType : QualificationFieldType) (rule : ScoreRuleDefinition) :
    Except Failure ScoreRule := do
  let operator ← enumeration (MatchOperator.ofValue? rule.operator)
  let expected ← ruleExpected rule.expected fieldType
  ScoreRule.make rule.code operator expected rule.points

def readHandoffTrigger (fieldType : QualificationFieldType) (rule : HandoffTriggerDefinition) :
    Except Failure HandoffTrigger := do
  let operator ← enumeration (MatchOperator.ofValue? rule.operator)
  let expected ← ruleExpected rule.expected fieldType
  HandoffTrigger.make rule.code operator expected rule.reasonCode rule.priority

def readField (item : FieldDefinition) : Except Failure QualificationField := do
  let fieldType ← enumeration (QualificationFieldType.ofValue? item.fieldType)
  let validation ← readValidation item.validation
  let sensitivity ← enumeration (Sensitivity.ofValue? item.sensitivity)
  let scoreRules ← item.scoreRules.mapM (readScoreRule fieldType)
  let handoffTriggers ← item.handoffTriggers.mapM (readHandoffTrigger fieldType)
  QualificationField.make item.key item.label item.prompt fieldType validation item.required
    item.order sensitivity scoreRules handoffTriggers

/-- `_schema` -/
def schemaOf (row : QualificationSchemaRow) : Except Failure QualificationSchema := do
  let fields ← row.definition.mapM readField
  let gradeBands ← row.gradeBands.mapM fun item => GradeBand.make item.minimumScore item.grade
  QualificationSchema.make row.id row.tenantId row.code row.version row.title row.consentVersion
    row.consentPurpose fields gradeBands (minutes row.sessionTtlMinutes)
    row.handoffResponseMinutes row.published row.active

/-! ## Answers -/

/-- `_stored_answer` -/
def storedAnswer : Answer → JsonValue
  | .text value => .text value
  | .int value => .int value
  | .decimal value => .text value.str
  | .bool value => .bool value
  | .date value => .text value.isoformat
  | .choices values => .texts values

/-- `_answer` -/
def answerOf (value : JsonValue) (kind : QualificationFieldType) : Except Failure Answer :=
  match kind with
  | .decimal => do
      let number ← toDecimal (← value.str)
      pure (.decimal number)
  | .date => do
      match Date.fromisoformat (← value.str) with
      | some date => pure (.date date)
      | none => throw (.valueError "Invalid isoformat string")
  | .multiChoice => Answer.choices <$> value.toTuple
  | .integer => Answer.int <$> value.toInt
  | .boolean => pure (.bool value.truth)
  | _ => do
      let text ← value.str
      pure (.text text)

/-- What JSON writes: an integer digit by digit, and Python refuses to write too
many. -/
def writeJson (value : JsonValue) : Except Failure JsonValue :=
  match value with
  | .int number =>
      if (Text.ofInt? number).isSome then pure value
      else throw (.statement "Exceeds the limit (4300 digits) for integer string conversion")
  | _ => pure value

/-- What JSON writes of an answer that is not converted first: a `Decimal` and a
`date` have no text in JSON. -/
def jsonAnswer (answer : Answer) : Except Failure JsonValue :=
  match answer with
  | .decimal _ => throw (.statement "Object of type Decimal is not JSON serializable")
  | .date _ => throw (.statement "Object of type date is not JSON serializable")
  | _ => writeJson (storedAnswer answer)

/-- What JSON writes of a dictionary of answers. -/
def jsonAnswers (answers : List (Text × Answer)) : Except Failure (List (Text × JsonValue)) :=
  answers.mapM fun entry => do
    let value ← jsonAnswer entry.2
    pure (entry.1, value)

/-- The type of the field with a key. -/
def fieldType? (schema : QualificationSchema) (key : Text) : Option QualificationFieldType :=
  (schema.fields.find? fun field => field.key = key).map (·.fieldType)

/-- One entry of the answers as the session view holds it; an entry that is no field
of the schema is left out. -/
def readAnswer (schema : QualificationSchema) (entry : Text × JsonValue) :
    Except Failure (Option (Text × Answer)) :=
  match fieldType? schema entry.1 with
  | none => pure none
  | some kind => do
      let answer ← answerOf entry.2 kind
      pure (some (entry.1, answer))

/-- The answers of a session, typed by the fields of the schema. -/
def typedAnswers (schema : QualificationSchema) :
    List (Text × JsonValue) → Except Failure (List (Text × Answer))
  | [] => pure []
  | entry :: rest => do
      let found ← readAnswer schema entry
      let more ← typedAnswers schema rest
      pure (found.toList ++ more)

/-- `_session` -/
def sessionOf (row : QualificationSessionRow) (schema : QualificationSchema) :
    Except Failure QualificationSession := do
  let answers ← typedAnswers schema row.answers
  pure
    { id := row.id
      tenantId := row.tenantId
      customerId := row.customerId
      conversationId := row.conversationId
      schemaId := row.schemaId
      schemaCode := row.schemaCode
      schemaVersion := row.schemaVersion
      status := row.status
      answers := answers
      currentFieldKey := row.currentFieldKey
      expiresAt := row.expiresAt
      consentDecision := row.consentDecision
      consentAt := row.consentAt
      leadId := row.leadId }

end Storage

end BusinessAssistant.Persistence
