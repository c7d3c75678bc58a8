/-
# Validation, scoring and escalation

The pure rules of qualification: reading an answer from what the customer typed,
matching answers against the rules of a schema, the score and the escalation that
follow, and the first required field that has no answer yet.

Comparing numbers can raise: a rule may compare a text as a number, and a bound or
an operand may be no number at all.
-/

import BusinessAssistant.Application.LeadModels
import BusinessAssistant.Foundation.Entries
import Mathlib.Data.Char
import Mathlib.Data.List.Lex
import Mathlib.Data.List.MinMax
import Mathlib.Data.List.Sort
import Mathlib.Data.Prod.Lex

namespace BusinessAssistant.Application

open BusinessAssistant.Domain BusinessAssistant.Foundation

variable [PythonText]

/-! ## Reading an answer -/

/-- The texts of the corrections, built around the label of the field. -/
def correction (before : String) (label : Text) (after : String) : Failure :=
  .invalidAnswer (before.toList ++ label ++ after.toList)

/-- `_text` -/
def textAnswer (value : Text) (field : QualificationField) : Except Failure Text := do
  let normalized := Text.normalizeSpaces (Text.strip value)
  let validation := field.validation
  if normalized = [] ∧ field.required = true then
    throw (correction "" field.label " is required.")
  if let some least := validation.minLength then
    if (normalized.length : Int) < least then
      throw (.invalidAnswer (field.label ++ " must contain at least ".toList ++ Text.ofInt least ++
        " characters.".toList))
  if let some most := validation.maxLength then
    if (normalized.length : Int) > most then
      throw (.invalidAnswer (field.label ++ " must contain at most ".toList ++ Text.ofInt most ++
        " characters.".toList))
  if let some pattern := validation.pattern then
    match PythonText.fullmatch pattern normalized with
    | none => throw .pattern
    | some false => throw (correction "Enter a valid value for " field.label ".")
    | some true => pure ()
  pure normalized

/-- Whether a text is `[^\s@]+@[^\s@]+\.[^\s@]+`: no spaces, one `@` with something
before it, and after it a dot with something on both sides. -/
def isEmail (value : Text) : Bool :=
  match value.splitOn '@' with
  | [name, host] =>
      !value.any Text.isSpace && name ≠ [] && (host.dropLast.drop 1).contains '.'
  | _ => false

/-- The number of an integer or decimal field. -/
def numberAnswer (field : QualificationField) (value : Text) : Except Failure Decimal :=
  match Decimal.parse value with
  | none => throw (correction "Enter a valid number for " field.label ".")
  | some number => do
      if number.isFinite = false ∨ field.fieldType = .integer ∧ number.isIntegral = false then
        throw (correction "Enter a whole number for " field.label ".")
      if let some least := field.validation.minimum then
        match least.le? number with
        | none => throw .invalidOperation
        | some false =>
            throw (.invalidAnswer
              (field.label ++ " must be at least ".toList ++ least.str ++ ".".toList))
        | some true => pure ()
      if let some most := field.validation.maximum then
        match number.le? most with
        | none => throw .invalidOperation
        | some false =>
            throw (.invalidAnswer
              (field.label ++ " must be at most ".toList ++ most.str ++ ".".toList))
        | some true => pure ()
      pure number

/-- `{item.strip().casefold() for item in value.split(",") if item.strip()}` -/
def suppliedChoices (value : Text) : List Text :=
  (((value.splitOn ',').map Text.strip).filter (· ≠ [])).map PythonText.casefold |>.dedup

/-- `validate_answer` -/
def validateAnswer (field : QualificationField) (raw : Text) : Except Failure Answer :=
  let value := Text.strip raw
  let options := field.validation.options
  match field.fieldType with
  | .shortText | .longText => Answer.text <$> textAnswer value field
  | .singleChoice =>
      match options.find? fun item => PythonText.casefold item = PythonText.casefold value with
      | some item => pure (.text item)
      | none => throw (correction "Choose one of: " (Text.joinComma options) ".")
  | .multiChoice =>
      let supplied := suppliedChoices value
      let selected := options.filter fun item => PythonText.casefold item ∈ supplied
      if selected = [] ∨ selected.length ≠ supplied.length then
        throw (correction "Choose one or more comma-separated values from: "
          (Text.joinComma options) ".")
      else pure (.choices selected)
  | .phone =>
      match PhoneNumber.parse value with
      | some number => pure (.text number.raw)
      | none =>
          throw (.invalidAnswer
            "Enter a valid phone number using digits and an optional + prefix.".toList)
  | .email =>
      if value.length > 254 ∨ isEmail value = false then
        throw (.invalidAnswer "Enter a valid email address, such as name@example.com.".toList)
      else pure (.text (PythonText.casefold value))
  | .integer => do
      let number ← numberAnswer field value
      pure (.int number.toInt)
  | .decimal => Answer.decimal <$> numberAnswer field value
  | .boolean =>
      let folded := PythonText.casefold value
      if folded ∈ ["yes".toList, "true".toList, "1".toList] then pure (.bool true)
      else if folded ∈ ["no".toList, "false".toList, "0".toList] then pure (.bool false)
      else throw (.invalidAnswer "Answer yes or no.".toList)
  | .date =>
      match Date.fromisoformat value with
      | some date => pure (.date date)
      | none => throw (.invalidAnswer "Enter a date in YYYY-MM-DD format.".toList)

/-! ## Matching a rule -/

/-- `str(number)` of an integer; it raises for one of too many digits. -/
def strInt (number : Int) : Except Failure Text :=
  match Text.ofInt? number with
  | some text => pure text
  | none => throw (.valueError "Exceeds the limit (4300 digits) for integer string conversion")

/-- `str(value)` of a truth value -/
def strBool (value : Bool) : Text := if value then "True".toList else "False".toList

/-- `str(expected)` -/
def Operand.str : Operand → Except Failure Text
  | .text value => pure value
  | .int value => strInt value
  | .decimal value => pure value.str
  | .bool value => pure (strBool value)

/-- `str(actual)` of an answer that is not a tuple; the text of a tuple starts with a
parenthesis, and all that matters here is that it is no number. -/
def Answer.str : Answer → Except Failure Text
  | .text value => pure value
  | .int value => strInt value
  | .decimal value => pure value.str
  | .bool value => pure (strBool value)
  | .date value => pure value.isoformat
  | .choices values => pure ('(' :: Text.joinComma values ++ [')'])

/-- The integer a truth value is. -/
def ofBool (value : Bool) : Int := if value then 1 else 0

/-- `Decimal(number) == operand`; it raises for a signaling operand. -/
def equalsDecimal (number operand : Decimal) : Except Failure Bool :=
  match number.eq? operand with
  | some result => pure result
  | none => throw .invalidOperation

/-- `actual == expected`: numbers of all kinds are compared by value, and values of
other kinds differ. -/
def Answer.equals : Answer → Operand → Except Failure Bool
  | .text actual, .text expected => pure (actual = expected)
  | .int actual, .int expected => pure (actual = expected)
  | .int actual, .bool expected => pure (actual = ofBool expected)
  | .int actual, .decimal expected => equalsDecimal (.ofInt actual) expected
  | .bool actual, .bool expected => pure (actual = expected)
  | .bool actual, .int expected => pure (ofBool actual = expected)
  | .bool actual, .decimal expected => equalsDecimal (.ofInt (ofBool actual)) expected
  | .decimal actual, .decimal expected => equalsDecimal actual expected
  | .decimal actual, .int expected => equalsDecimal actual (.ofInt expected)
  | .decimal actual, .bool expected => equalsDecimal actual (.ofInt (ofBool expected))
  | _, _ => pure false

/-- `Decimal(text)` -/
def toDecimal (text : Text) : Except Failure Decimal :=
  match Decimal.parse text with
  | some number => pure number
  | none => throw .invalidOperation

/-- `first <= second` -/
def decimalLe (first second : Decimal) : Except Failure Bool :=
  match first.le? second with
  | some result => pure result
  | none => throw .invalidOperation

/-- Whether a text contains another. -/
def Text.Contains (text needle : Text) : Prop := needle <:+: text

instance (text needle : Text) : Decidable (Text.Contains text needle) :=
  inferInstanceAs (Decidable (needle <:+: text))

/-- `_matches` -/
def answerMatches (actual : Answer) (operator : MatchOperator) (expected : Operand) :
    Except Failure Bool :=
  match operator with
  | .equals => actual.equals expected
  | .contains => do
      let needle := PythonText.casefold (← expected.str)
      match actual with
      | .choices values => pure (values.any fun item => needle = PythonText.casefold item)
      | _ =>
          let text ← actual.str
          pure (Text.Contains (PythonText.casefold text) needle)
  | .greaterThanOrEqual => do
      let left ← toDecimal (← actual.str)
      let right ← toDecimal (← expected.str)
      decimalLe right left
  | .lessThanOrEqual => do
      let left ← toDecimal (← actual.str)
      let right ← toDecimal (← expected.str)
      decimalLe left right

/-! ## Scoring -/

/-- One rule of an answered field: the points so far and the codes that matched. -/
def applyRule (actual : Answer) (result : Int × List Text) (rule : ScoreRule) :
    Except Failure (Int × List Text) := do
  if ← answerMatches actual rule.operator rule.expected then
    pure (result.1 + rule.points, result.2 ++ [rule.code])
  else pure result

/-- One field of the loop. -/
def scoreField (answers : List (Text × Answer)) (result : Int × List Text)
    (field : QualificationField) : Except Failure (Int × List Text) :=
  match answers.lookup field.key with
  | none => pure result
  | some actual => field.scoreRules.foldlM (applyRule actual) result

/-- The order of scores, as the one that computes. -/
local instance (priority := high) scoreOrder : Preorder Int := Int.instLinearOrder.toPreorder

/-- The grade of a score: that of the highest band the score reaches, the first of
several. -/
def gradeOf (bands : List GradeBand) (score : Int) : Except Failure Text :=
  match (bands.filter fun band => score ≥ band.minimumScore).argmax (·.minimumScore) with
  | some band => pure band.grade
  | none => throw (.valueError "max() iterable argument is empty")

/-- `score_answers` -/
def scoreAnswers (schema : QualificationSchema) (answers : List (Text × Answer)) :
    Except Failure ScoreResult := do
  let (total, matched) ← schema.fields.foldlM (scoreField answers) (0, [])
  let score := max 0 (min 100 total)
  let grade ← gradeOf schema.gradeBands score
  pure { score, grade, matchedRules := matched }

/-! ## Escalation -/

/-- `rank[priority]` -/
def priorityRank (priority : Text) : Nat :=
  match HandoffPriority.ofText? priority with
  | some .low => 0
  | some .normal => 1
  | some .high => 2
  | some .urgent => 3
  | none => 0

/-- The triggers of an answered field that match. -/
def matchedTriggers (actual : Answer) : List HandoffTrigger → Except Failure (List HandoffTrigger)
  | [] => pure []
  | trigger :: rest => do
      let matched ← answerMatches actual trigger.operator trigger.expected
      let more ← matchedTriggers actual rest
      pure (if matched then trigger :: more else more)

/-- One field of the loop. -/
def triggerField (answers : List (Text × Answer)) (found : List HandoffTrigger)
    (field : QualificationField) : Except Failure (List HandoffTrigger) :=
  match answers.lookup field.key with
  | none => pure found
  | some actual => do
      let more ← matchedTriggers actual field.handoffTriggers
      pure (found ++ more)

/-- `detect_handoff` -/
def detectHandoff (schema : QualificationSchema) (answers : List (Text × Answer)) :
    Except Failure (Option TriggerResult) := do
  let found ← schema.fields.foldlM (triggerField answers) []
  match found.argmax fun trigger => toLex (priorityRank trigger.priority, trigger.code) with
  | none => pure none
  | some winner =>
      pure (some
        { reasonCode := winner.reasonCode
          priority := winner.priority
          matchedRules := (found.map (·.code)).insertionSort (· ≤ ·) })

/-! ## Progress -/

/-- `next_missing_field` -/
def nextMissingField (schema : QualificationSchema) (answers : List (Text × Answer)) :
    Option QualificationField :=
  schema.fields.find? fun field => field.required = true ∧ ¬ Entries.Has answers field.key

end BusinessAssistant.Application
