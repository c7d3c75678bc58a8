/-
# Qualification data contracts

Schemas, the fields and rules they consist of, and the session of a customer who
answers one. The constructors' checks are fields; `make` is the constructor itself,
which makes the checks in the order of the source and raises where one fails.
-/

import BusinessAssistant.Application.Errors
import BusinessAssistant.Domain.Calendar
import BusinessAssistant.Domain.Decimal
import BusinessAssistant.Domain.Handoffs
import BusinessAssistant.Domain.Leads
import Mathlib.Data.List.Nodup

namespace BusinessAssistant.Domain

abbrev QualificationSchemaId := UUID
abbrev QualificationSessionId := UUID

end BusinessAssistant.Domain

namespace BusinessAssistant.Application

open BusinessAssistant.Domain

/-! ## Enumerations -/

inductive QualificationFieldType
  | shortText
  | longText
  | singleChoice
  | multiChoice
  | phone
  | email
  | integer
  | decimal
  | boolean
  | date
  deriving DecidableEq, Repr

namespace QualificationFieldType

def value : QualificationFieldType → String
  | shortText => "short_text"
  | longText => "long_text"
  | singleChoice => "single_choice"
  | multiChoice => "multi_choice"
  | phone => "phone"
  | email => "email"
  | integer => "integer"
  | decimal => "decimal"
  | boolean => "boolean"
  | date => "date"

/-- `QualificationFieldType(value)`; `none` where it raises `ValueError`. -/
def ofValue? (value : String) : Option QualificationFieldType :=
  [shortText, longText, singleChoice, multiChoice, phone, email, integer, decimal, boolean,
    date].find? fun kind => kind.value = value

@[simp]
theorem ofValue?_value (kind : QualificationFieldType) : ofValue? kind.value = some kind := by
  cases kind <;> decide

/-- The types whose answers are picked from options. -/
def isChoice (kind : QualificationFieldType) : Bool := kind = singleChoice || kind = multiChoice

end QualificationFieldType

/-- `PUBLIC`, `PERSONAL` and `SENSITIVE`. -/
inductive Sensitivity
  | publicLevel
  | personal
  | sensitive
  deriving DecidableEq, Repr

namespace Sensitivity

def value : Sensitivity → String
  | publicLevel => "public"
  | personal => "personal"
  | sensitive => "sensitive"

/-- `Sensitivity(value)`; `none` where it raises `ValueError`. -/
def ofValue? (value : String) : Option Sensitivity :=
  [publicLevel, personal, sensitive].find? fun sensitivity => sensitivity.value = value

@[simp]
theorem ofValue?_value (sensitivity : Sensitivity) :
    ofValue? sensitivity.value = some sensitivity := by
  cases sensitivity <;> decide

end Sensitivity

inductive MatchOperator
  | equals
  | contains
  | greaterThanOrEqual
  | lessThanOrEqual
  deriving DecidableEq, Repr

namespace MatchOperator

def value : MatchOperator → String
  | equals => "equals"
  | contains => "contains"
  | greaterThanOrEqual => "gte"
  | lessThanOrEqual => "lte"

/-- `MatchOperator(value)`; `none` where it raises `ValueError`. -/
def ofValue? (value : String) : Option MatchOperator :=
  [equals, contains, greaterThanOrEqual, lessThanOrEqual].find? fun operator =>
    operator.value = value

@[simp]
theorem ofValue?_value (operator : MatchOperator) : ofValue? operator.value = some operator := by
  cases operator <;> decide

end MatchOperator

inductive QualificationSessionStatus
  | awaitingConsent
  | inProgress
  | reviewing
  | completed
  | declined
  | cancelled
  | expired
  deriving DecidableEq, Repr

namespace QualificationSessionStatus

/-- `("awaiting_consent", "in_progress", "reviewing")` -/
def isActive : QualificationSessionStatus → Bool
  | awaitingConsent | inProgress | reviewing => true
  | _ => false

end QualificationSessionStatus

inductive ConsentDecision
  | accepted
  | declined
  deriving DecidableEq, Repr

/-! ## Values -/

/-- `Answer = str | int | Decimal | bool | date | tuple[str, ...]` -/
inductive Answer
  | text (value : Text)
  | int (value : Int)
  | decimal (value : Decimal)
  | bool (value : Bool)
  | date (value : Date)
  | choices (values : List Text)
  deriving DecidableEq

/-- What a rule compares answers with: `str | int | Decimal | bool`. -/
inductive Operand
  | text (value : Text)
  | int (value : Int)
  | decimal (value : Decimal)
  | bool (value : Bool)
  deriving DecidableEq

/-! ## Schemas -/

/-- Raise `ValueError(message)` unless `condition` holds. -/
def check (condition : Prop) [Decidable condition] (message : String) :
    Except Failure (PLift condition) :=
  if h : condition then pure ⟨h⟩ else throw (.valueError message)

structure FieldValidation where
  minLength : Option Int
  maxLength : Option Int
  minimum : Option Decimal
  maximum : Option Decimal
  options : List Text
  pattern : Option Text
  minLengthNonnegative : ∀ least ∈ minLength, 0 ≤ least
  maxLengthPositive : ∀ most ∈ maxLength, 1 ≤ most
  lengthsOrdered : ∀ least ∈ minLength, ∀ most ∈ maxLength, least ≤ most
  valuesOrdered : ∀ least ∈ minimum, ∀ most ∈ maximum, least.le? most = some true
  optionsValid : options.Nodup ∧ ∀ option ∈ options, ¬ option.Blank
  deriving DecidableEq

/-- `FieldValidation(min_length, max_length, minimum, maximum, options, pattern)` -/
def FieldValidation.make (minLength maxLength : Option Int) (minimum maximum : Option Decimal)
    (options : List Text) (pattern : Option Text) : Except Failure FieldValidation := do
  let minLengthNonnegative ← check (∀ least ∈ minLength, 0 ≤ least)
    "Minimum length cannot be negative"
  let maxLengthPositive ← check (∀ most ∈ maxLength, 1 ≤ most) "Maximum length must be positive"
  let lengthsOrdered ← check (∀ least ∈ minLength, ∀ most ∈ maxLength, least ≤ most)
    "Minimum length cannot exceed maximum length"
  -- Comparing with a bound that is not a number raises.
  if ∃ least ∈ minimum, ∃ most ∈ maximum, least.le? most = none then throw .invalidOperation
  let valuesOrdered ← check (∀ least ∈ minimum, ∀ most ∈ maximum, least.le? most = some true)
    "Minimum value cannot exceed maximum value"
  let optionsValid ← check (options.Nodup ∧ ∀ option ∈ options, ¬ option.Blank)
    "Field options must be unique and non-blank"
  pure
    { minLength, maxLength, minimum, maximum, options, pattern
      minLengthNonnegative := minLengthNonnegative.down
      maxLengthPositive := maxLengthPositive.down
      lengthsOrdered := lengthsOrdered.down
      valuesOrdered := valuesOrdered.down
      optionsValid := optionsValid.down }

structure ScoreRule where
  code : Text
  operator : MatchOperator
  expected : Operand
  points : Int
  codeAndPointsValid : ¬ code.Blank ∧ -100 ≤ points ∧ points ≤ 100
  deriving DecidableEq

/-- `ScoreRule(code, operator, expected, points)` -/
def ScoreRule.make (code : Text) (operator : MatchOperator) (expected : Operand) (points : Int) :
    Except Failure ScoreRule := do
  let codeAndPointsValid ← check (¬ code.Blank ∧ -100 ≤ points ∧ points ≤ 100)
    "Score rule code and points are invalid"
  pure { code, operator, expected, points, codeAndPointsValid := codeAndPointsValid.down }

@[ext]
structure HandoffTrigger where
  code : Text
  operator : MatchOperator
  expected : Operand
  reasonCode : Text
  priority : Text
  identityPresent : ¬ code.Blank ∧ ¬ reasonCode.Blank
  priorityValid : (HandoffPriority.ofText? priority).isSome = true

instance : DecidableEq HandoffTrigger := fun _ _ => decidable_of_iff _ HandoffTrigger.ext_iff.symm

/-- `HandoffTrigger(code, operator, expected, reason_code, priority)` -/
def HandoffTrigger.make (code : Text) (operator : MatchOperator) (expected : Operand)
    (reasonCode priority : Text) : Except Failure HandoffTrigger := do
  let identityPresent ← check (¬ code.Blank ∧ ¬ reasonCode.Blank)
    "Handoff trigger identity is required"
  let priorityValid ← check ((HandoffPriority.ofText? priority).isSome = true)
    "Handoff trigger priority is invalid"
  pure
    { code, operator, expected, reasonCode, priority
      identityPresent := identityPresent.down
      priorityValid := priorityValid.down }

structure GradeBand where
  minimumScore : Int
  grade : Text
  valid : 0 ≤ minimumScore ∧ minimumScore ≤ 100 ∧ ¬ grade.Blank
  deriving DecidableEq

/-- `GradeBand(minimum_score, grade)` -/
def GradeBand.make (minimumScore : Int) (grade : Text) : Except Failure GradeBand := do
  let valid ← check (0 ≤ minimumScore ∧ minimumScore ≤ 100 ∧ ¬ grade.Blank)
    "Grade band is invalid"
  pure { minimumScore, grade, valid := valid.down }

section Schemas

variable [PythonText]

structure QualificationField where
  key : Text
  label : Text
  prompt : Text
  fieldType : QualificationFieldType
  validation : FieldValidation
  required : Bool
  order : Int
  sensitivity : Sensitivity
  scoreRules : List ScoreRule
  handoffTriggers : List HandoffTrigger
  identityAndCopyValid : PythonText.isidentifier key = true ∧ ¬ label.Blank ∧ ¬ prompt.Blank
  orderNonnegative : 0 ≤ order
  /-- Only choice fields require options. -/
  choiceIffOptions : fieldType.isChoice = !validation.options.isEmpty
  deriving DecidableEq

/-- `QualificationField(...)` -/
def QualificationField.make (key label prompt : Text) (fieldType : QualificationFieldType)
    (validation : FieldValidation) (required : Bool) (order : Int) (sensitivity : Sensitivity)
    (scoreRules : List ScoreRule) (handoffTriggers : List HandoffTrigger) :
    Except Failure QualificationField := do
  let identityAndCopyValid ← check
    (PythonText.isidentifier key = true ∧ ¬ label.Blank ∧ ¬ prompt.Blank)
    "Qualification field identity and copy are invalid"
  let orderNonnegative ← check (0 ≤ order) "Qualification field order cannot be negative"
  let choiceIffOptions ← check (fieldType.isChoice = !validation.options.isEmpty)
    "Only choice fields require options"
  pure
    { key, label, prompt, fieldType, validation, required, order, sensitivity, scoreRules
      handoffTriggers
      identityAndCopyValid := identityAndCopyValid.down
      orderNonnegative := orderNonnegative.down
      choiceIffOptions := choiceIffOptions.down }

@[ext]
structure QualificationSchema where
  id : QualificationSchemaId
  tenantId : TenantId
  code : Text
  version : Int
  title : Text
  consentVersion : Text
  consentPurpose : Text
  fields : List QualificationField
  gradeBands : List GradeBand
  /-- A `timedelta`, in microseconds. -/
  sessionTtl : Int
  handoffResponseMinutes : Int
  published : Bool
  active : Bool
  identityValid : ¬ code.Blank ∧ 1 ≤ version ∧ ¬ title.Blank
  consentPolicyPresent : ¬ consentVersion.Blank ∧ ¬ consentPurpose.Blank
  fieldsAndTtlPresent : fields ≠ [] ∧ 0 < sessionTtl
  keysAndOrdersUnique : (fields.map (·.key)).Nodup ∧ (fields.map (·.order)).Nodup
  fieldsInOrder : fields.Pairwise fun first second => first.order ≤ second.order
  gradesStartAtZero : gradeBands.head?.map (·.minimumScore) = some 0
  gradesInOrder : gradeBands.Pairwise fun first second => first.minimumScore ≤ second.minimumScore
  responseTimeValid : 1 ≤ handoffResponseMinutes ∧ handoffResponseMinutes ≤ 10080

instance : DecidableEq QualificationSchema := fun _ _ => decidable_of_iff _ QualificationSchema.ext_iff.symm

/-- `QualificationSchema(...)` -/
def QualificationSchema.make (id : QualificationSchemaId) (tenantId : TenantId) (code : Text)
    (version : Int) (title consentVersion consentPurpose : Text) (fields : List QualificationField)
    (gradeBands : List GradeBand) (sessionTtl handoffResponseMinutes : Int)
    (published active : Bool) : Except Failure QualificationSchema := do
  let identityValid ← check (¬ code.Blank ∧ 1 ≤ version ∧ ¬ title.Blank)
    "Qualification schema identity is invalid"
  let consentPolicyPresent ← check (¬ consentVersion.Blank ∧ ¬ consentPurpose.Blank)
    "Qualification consent policy is required"
  let fieldsAndTtlPresent ← check (fields ≠ [] ∧ 0 < sessionTtl)
    "Qualification fields and a positive session TTL are required"
  let keysAndOrdersUnique ← check
    ((fields.map (·.key)).Nodup ∧ (fields.map (·.order)).Nodup)
    "Qualification field keys and order must be unique"
  let fieldsInOrder ← check (fields.Pairwise fun first second => first.order ≤ second.order)
    "Qualification fields must be stored in order"
  let gradesStartAtZero ← check (gradeBands.head?.map (·.minimumScore) = some 0)
    "Qualification grades must start at score zero"
  let gradesInOrder ← check
    (gradeBands.Pairwise fun first second => first.minimumScore ≤ second.minimumScore)
    "Qualification grade bands must be ordered"
  let responseTimeValid ← check (1 ≤ handoffResponseMinutes ∧ handoffResponseMinutes ≤ 10080)
    "Handoff response time is invalid"
  pure
    { id, tenantId, code, version, title, consentVersion, consentPurpose, fields, gradeBands
      sessionTtl, handoffResponseMinutes, published, active
      identityValid := identityValid.down
      consentPolicyPresent := consentPolicyPresent.down
      fieldsAndTtlPresent := fieldsAndTtlPresent.down
      keysAndOrdersUnique := keysAndOrdersUnique.down
      fieldsInOrder := fieldsInOrder.down
      gradesStartAtZero := gradesStartAtZero.down
      gradesInOrder := gradesInOrder.down
      responseTimeValid := responseTimeValid.down }

end Schemas

/-! ## Sessions -/

structure QualificationSession where
  id : QualificationSessionId
  tenantId : TenantId
  customerId : CustomerId
  conversationId : ConversationId
  schemaId : QualificationSchemaId
  schemaCode : Text
  schemaVersion : Int
  status : QualificationSessionStatus
  answers : List (Text × Answer)
  currentFieldKey : Option Text
  expiresAt : Int
  consentDecision : Option ConsentDecision
  consentAt : Option Int
  leadId : Option LeadId
  deriving DecidableEq

structure ScoreResult where
  score : Int
  grade : Text
  matchedRules : List Text
  deriving DecidableEq

structure TriggerResult where
  reasonCode : Text
  priority : Text
  matchedRules : List Text
  deriving DecidableEq

end BusinessAssistant.Application
