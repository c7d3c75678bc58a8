/-
# Schemas and parsing of AI outputs

`application.ai.schemas`: an output is read strictly, entry by entry, into the result of
its task, and the provider is sent a JSON schema of what is expected.
-/

import BusinessAssistant.Application.AIModels
import Mathlib.Data.List.Sort

namespace BusinessAssistant.Application

open BusinessAssistant.Domain BusinessAssistant.Foundation

/-! ## Reading values -/

/-- `_object`: the entries of an object that has exactly the required keys. -/
def readObject (required : List Text) : Json → Except AIException (List (Text × Json))
  | .object entries =>
      if (∀ key ∈ entries.map Prod.fst, key ∈ required) ∧
          ∀ key ∈ required, key ∈ entries.map Prod.fst then
        .ok entries
      else .error (.schemaValidation "AI output object shape is invalid")
  | .null | .bool _ | .integer _ | .real _ | .string _ | .array _ =>
      .error (.schemaValidation "AI output object shape is invalid")

/-- `_string` -/
def readString (maximum : ℕ) : Json → Except AIException Text
  | .string value =>
      if Text.Blank value ∨ maximum < value.length then
        .error (.schemaValidation "AI output string is invalid")
      else .ok value
  | .null | .bool _ | .integer _ | .real _ | .array _ | .object _ =>
      .error (.schemaValidation "AI output string is invalid")

/-- `float(value)` raises `OverflowError` from this integer on, as it rounds to a power of
two that no float reaches. -/
def floatOverflow : ℕ := 2 ^ 1024 - 2 ^ 970

/-- The check of a confidence, once it is a float. Rounding moves no integer into the range
or out of it. -/
def confidenceInRange (value : ℚ) : Except AIException ModelConfidence :=
  if h : 0 ≤ value ∧ value ≤ 1 then .ok ⟨value, h⟩
  else .error (.schemaValidation "AI output confidence is out of range")

/-- `_confidence` -/
def readConfidence : Json → Except AIException ModelConfidence
  | .integer value =>
      if floatOverflow ≤ value.natAbs then .error .other else confidenceInRange value
  | .real value => confidenceInRange value
  | .null | .bool _ | .string _ | .array _ | .object _ =>
      .error (.schemaValidation "AI output confidence must be numeric")

/-- `_strings` -/
def readStrings (maximumItems maximumLength : ℕ) : Json → Except AIException (List Text)
  | .array items =>
      if maximumItems < items.length then
        .error (.schemaValidation "AI output list is too long")
      else items.mapM (readString maximumLength)
  | .null | .bool _ | .integer _ | .real _ | .string _ | .object _ =>
      .error (.schemaValidation "AI output list is invalid")

/-- A member of an enumeration by its value, as in `Intent(value)`. -/
def memberOf {α : Type} (members : List α) (value : α → Text) (text : Text) :
    Except AIException α :=
  match members.find? fun member => value member = text with
  | some member => .ok member
  | none => .error (.value "not a valid member")

section Parsing

variable [PythonText]

/-- `except ValueError` around an extracted field. -/
def asInvalidField (exception : AIException) : AIException :=
  match exception with
  | .schemaValidation _ | .value _ => .schemaValidation "AI extracted field is invalid"
  | .provider _ _ | .timeout | .cancelled | .other => exception

def fieldKeys : List Text := ["key".toList, "value".toList, "confidence".toList]

/-- `_field` -/
def readField (value : Json) : Except AIException ExtractedField := do
  let item ← readObject fieldKeys value
  Except.mapError asInvalidField do
    let key ← readString 100 (Json.entry item "key".toList)
    let value ← readString 1000 (Json.entry item "value".toList)
    let confidence ← readConfidence (Json.entry item "confidence".toList)
    ExtractedField.make key value confidence

/-- `_fields` -/
def readFields : Json → Except AIException (List ExtractedField)
  | .array items =>
      if 30 < items.length then .error (.schemaValidation "AI extracted fields are invalid")
      else items.mapM readField
  | .null | .bool _ | .integer _ | .real _ | .string _ | .object _ =>
      .error (.schemaValidation "AI extracted fields are invalid")

/-! ## Parsing a result -/

def intentKeys : List Text :=
  ["intent".toList, "confidence".toList, "entities".toList, "missing_information".toList,
    "risk_flags".toList, "suggested_action".toList, "rationale_category".toList]

def parseIntent (output : Json) : Except AIException AIResult := do
  let item ← readObject intentKeys output
  let intent ← readString 100 (Json.entry item "intent".toList)
  let intent ← memberOf Intent.members Intent.value intent
  let confidence ← readConfidence (Json.entry item "confidence".toList)
  let entities ← readFields (Json.entry item "entities".toList)
  let missing ← readStrings 10 100 (Json.entry item "missing_information".toList)
  let flags ← readStrings 4 500 (Json.entry item "risk_flags".toList)
  let flags ← flags.mapM (memberOf RiskFlag.members RiskFlag.value)
  let action ← readString 100 (Json.entry item "suggested_action".toList)
  let action ← memberOf SuggestedAction.members SuggestedAction.value action
  let rationale ← readString 100 (Json.entry item "rationale_category".toList)
  let result ← IntentResult.make intent confidence entities missing flags action rationale
  pure (.intent result)

def extractionKeys : List Text := ["fields".toList, "confidence".toList]

def parseExtraction (output : Json) : Except AIException AIResult := do
  let item ← readObject extractionKeys output
  let fields ← readFields (Json.entry item "fields".toList)
  let confidence ← readConfidence (Json.entry item "confidence".toList)
  let result ← ExtractionResult.make fields confidence
  pure (.extraction result)

def classificationKeys : List Text :=
  ["label".toList, "confidence".toList, "rationale_category".toList]

def parseClassification (output : Json) : Except AIException AIResult := do
  let item ← readObject classificationKeys output
  let label ← readString 100 (Json.entry item "label".toList)
  let confidence ← readConfidence (Json.entry item "confidence".toList)
  let rationale ← readString 100 (Json.entry item "rationale_category".toList)
  let result ← ClassificationResult.make label confidence rationale
  pure (.classification result)

def rewriteKeys : List Text := ["text".toList, "confidence".toList]

def parseRewrite (output : Json) : Except AIException AIResult := do
  let item ← readObject rewriteKeys output
  let text ← readString 2000 (Json.entry item "text".toList)
  let confidence ← readConfidence (Json.entry item "confidence".toList)
  let result ← RewriteResult.make text confidence
  pure (.rewrite result)

def summaryKeys : List Text := ["summary".toList, "key_points".toList, "confidence".toList]

def parseSummary (output : Json) : Except AIException AIResult := do
  let item ← readObject summaryKeys output
  let summary ← readString 2000 (Json.entry item "summary".toList)
  let keyPoints ← readStrings 10 500 (Json.entry item "key_points".toList)
  let confidence ← readConfidence (Json.entry item "confidence".toList)
  let result ← SummaryResult.make summary keyPoints confidence
  pure (.summary result)

/-- `except (ValueError, TypeError)` around the parsing. -/
def asUnsupported (exception : AIException) : AIException :=
  match exception with
  | .value _ => .schemaValidation "AI output contains an unsupported value"
  | .schemaValidation _ | .provider _ _ | .timeout | .cancelled | .other => exception

/-- An intent that must be answered by offering a person. -/
def IntentResult.HighRisk (result : IntentResult) : Prop :=
  result.intent = .highRisk ∨ result.intent = .complaint ∨
    ∃ flag ∈ result.riskFlags, flag = .highRisk ∨ flag = .safety ∨ flag = .complaint

instance (result : IntentResult) : Decidable result.HighRisk :=
  inferInstanceAs (Decidable (_ ∨ _ ∨ _))

/-- `validate_application_result` -/
def validateApplicationResult (request : AIRequest) : AIResult → Except AIException Unit
  | .intent result =>
      if ¬ (result.entities.map (·.key)).Nodup then
        .error (.schemaValidation "AI intent entities must be unique")
      else if result.HighRisk ∧ result.suggestedAction ≠ .offerHuman then
        .error (.schemaValidation "High-risk intent must offer human help")
      else .ok ()
  | .extraction result =>
      if ∃ item ∈ result.fields, item.key ∉ request.allowedExtractionFields then
        .error (.schemaValidation "AI extraction returned a field outside the allowlist")
      else .ok ()
  | .classification result =>
      if result.label ∉ request.allowedClassificationLabels then
        .error (.schemaValidation "AI classification returned a label outside the allowlist")
      else .ok ()
  | .rewrite _ | .summary _ => .ok ()

/-- What `parse_result` reads for a task. -/
def parseOutput : AITask → Json → Except AIException AIResult
  | .intent => parseIntent
  | .extraction => parseExtraction
  | .classification => parseClassification
  | .rewrite => parseRewrite
  | .summary => parseSummary

/-- `parse_result` -/
def parseResult (request : AIRequest) (output : Json) : Except AIException AIResult := do
  let result ← Except.mapError asUnsupported (parseOutput request.task output)
  validateApplicationResult request result
  pure result

/-- `confidence_of` -/
def confidenceOf : AIResult → ModelConfidence
  | .intent result => result.confidence
  | .extraction result => result.confidence
  | .classification result => result.confidence
  | .rewrite result => result.confidence
  | .summary result => result.confidence

/-- A result that no provider is sure of. -/
def noConfidence : ModelConfidence := ⟨0, le_rfl, zero_le_one⟩

/-- `fallback_result`: the constructors check the fallback values as they check any other. -/
def fallbackResult (request : AIRequest) : Except AIException AIResult :=
  match request.task with
  | .intent => do
      let result ← IntentResult.make .unknown noConfidence [] [] [] .offerHuman
        "deterministic_fallback".toList
      pure (.intent result)
  | .extraction => do
      let result ← ExtractionResult.make [] noConfidence
      pure (.extraction result)
  | .classification => do
      let result ← ClassificationResult.make "unknown".toList noConfidence
        "deterministic_fallback".toList
      pure (.classification result)
  | .rewrite => do
      let result ← RewriteResult.make request.inputText noConfidence
      pure (.rewrite result)
  | .summary => do
      let result ← SummaryResult.make "A verified summary is unavailable.".toList [] noConfidence
      pure (.summary result)

/-! ## The schema sent to the provider -/

/-- The order in which `sorted` puts strings. -/
def codePointsLe : Text → Text → Bool
  | [], _ => true
  | _ :: _, [] => false
  | char :: rest, other :: others =>
      char.toNat < other.toNat || (char.toNat = other.toNat && codePointsLe rest others)

/-- `sorted(values)` -/
def sortedTexts (values : List Text) : List Text :=
  values.insertionSort fun first second => codePointsLe first second = true

def confidenceSchema : Schema := .number 0 1

/-- The schema of an extracted field, with that of its key. -/
def extractedFieldSchema (key : Schema) : Schema :=
  .object
    [("key".toList, key), ("value".toList, .string (some 1) (some 1000)),
      ("confidence".toList, confidenceSchema)]
    fieldKeys

/-- `_schema` -/
def objectSchema (properties : List (Text × Schema)) : Schema :=
  .object properties (properties.map Prod.fst)

/-- `json_schema_for` -/
def jsonSchemaFor (request : AIRequest) : Schema :=
  match request.task with
  | .intent =>
      objectSchema
        [("intent".toList, .choice (Intent.members.map Intent.value)),
          ("confidence".toList, confidenceSchema),
          ("entities".toList,
            .array (extractedFieldSchema (.string (some 1) (some 100))) 30),
          ("missing_information".toList, .array (.string none (some 100)) 10),
          ("risk_flags".toList, .array (.choice (RiskFlag.members.map RiskFlag.value)) 4),
          ("suggested_action".toList, .choice (SuggestedAction.members.map SuggestedAction.value)),
          ("rationale_category".toList, .string (some 1) (some 100))]
  | .extraction =>
      objectSchema
        [("fields".toList, .array (extractedFieldSchema
            (.choice (sortedTexts request.allowedExtractionFields))) 30),
          ("confidence".toList, confidenceSchema)]
  | .classification =>
      objectSchema
        [("label".toList, .choice (sortedTexts request.allowedClassificationLabels)),
          ("confidence".toList, confidenceSchema),
          ("rationale_category".toList, .string (some 1) (some 100))]
  | .rewrite =>
      objectSchema
        [("text".toList, .string (some 1) (some 2000)), ("confidence".toList, confidenceSchema)]
  | .summary =>
      objectSchema
        [("summary".toList, .string (some 1) (some 2000)),
          ("key_points".toList, .array (.string (some 1) (some 500)) 10),
          ("confidence".toList, confidenceSchema)]

end Parsing

end BusinessAssistant.Application
