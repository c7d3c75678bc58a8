/-
# Contracts of the AI tasks

The results, prompts, policies and requests of `application.ai.models`. Each carries what
its constructor checks, so that a value that exists has passed. Python's string formatting
and the arithmetic of `decimal` are parameters.
-/

import BusinessAssistant.Domain.Decimal
import BusinessAssistant.Domain.Identifiers
import BusinessAssistant.Domain.Text
import BusinessAssistant.Foundation.Json

namespace BusinessAssistant.Application

open BusinessAssistant.Domain BusinessAssistant.Foundation

/-! ## Enumerations -/

inductive AITask
  | intent | extraction | classification | rewrite | summary
  deriving DecidableEq, Repr

inductive AICompletionStatus
  | success | fallback | disabled | cancelled
  deriving DecidableEq, Repr

inductive AIFailureCode
  | disabled | providerUnavailable | rateLimited | timeout | invalidOutput | lowConfidence | refused
  | cancelled | policyInvalid
  deriving DecidableEq, Repr

inductive Intent
  | greeting | help | businessHours | locationContact | serviceDiscovery | serviceDetail
  | faqKnowledge | book | reschedule | cancelBooking | bookingStatus | qualifyLead | humanRequest
  | complaint | highRisk | unsupported | smallTalk | unknown
  deriving DecidableEq, Repr

def Intent.value : Intent → Text
  | greeting => "greeting".toList
  | help => "help".toList
  | businessHours => "business_hours".toList
  | locationContact => "location_contact".toList
  | serviceDiscovery => "service_discovery".toList
  | serviceDetail => "service_detail".toList
  | faqKnowledge => "faq_knowledge".toList
  | book => "book".toList
  | reschedule => "reschedule".toList
  | cancelBooking => "cancel_booking".toList
  | bookingStatus => "booking_status".toList
  | qualifyLead => "qualify_lead".toList
  | humanRequest => "human_request".toList
  | complaint => "complaint".toList
  | highRisk => "high_risk".toList
  | unsupported => "unsupported".toList
  | smallTalk => "small_talk".toList
  | unknown => "unknown".toList

/-- The members of `Intent`, in their order. -/
def Intent.members : List Intent :=
  [.greeting, .help, .businessHours, .locationContact, .serviceDiscovery, .serviceDetail,
    .faqKnowledge, .book, .reschedule, .cancelBooking, .bookingStatus, .qualifyLead, .humanRequest,
    .complaint, .highRisk, .unsupported, .smallTalk, .unknown]

inductive SuggestedAction
  | showHome | showCatalog | showHours | answerKnowledge | askClarification | offerHuman | none
  deriving DecidableEq, Repr

def SuggestedAction.value : SuggestedAction → Text
  | showHome => "show_home".toList
  | showCatalog => "show_catalog".toList
  | showHours => "show_hours".toList
  | answerKnowledge => "answer_knowledge".toList
  | askClarification => "ask_clarification".toList
  | offerHuman => "offer_human".toList
  | none => "none".toList

def SuggestedAction.members : List SuggestedAction :=
  [.showHome, .showCatalog, .showHours, .answerKnowledge, .askClarification, .offerHuman, .none]

inductive RiskFlag
  | complaint | highRisk | safety | abuse
  deriving DecidableEq, Repr

def RiskFlag.value : RiskFlag → Text
  | complaint => "complaint".toList
  | highRisk => "high_risk".toList
  | safety => "safety".toList
  | abuse => "abuse".toList

def RiskFlag.members : List RiskFlag := [.complaint, .highRisk, .safety, .abuse]

/-! ## Exceptions -/

/-- What the code of the AI tasks raises. An `AISchemaValidationError` is a `ValueError`
too; the two are kept apart because they are caught apart. -/
inductive AIException
  | schemaValidation (message : String)
  | value (message : String)
  | provider (code : String) (retryable : Bool)
  | timeout
  | cancelled
  /-- Any other exception. -/
  | other
  deriving DecidableEq, Repr

/-- A check of a constructor. -/
def validated (condition : Prop) [Decidable condition] (message : String) :
    Except AIException (PLift condition) :=
  if h : condition then .ok ⟨h⟩ else .error (.value message)

/-! ## Results -/

/-- A number that `_confidence` accepts. -/
abbrev ModelConfidence := { value : ℚ // 0 ≤ value ∧ value ≤ 1 }

section Results

variable [PythonText]

structure ExtractedField where
  key : Text
  value : Text
  confidence : ModelConfidence
  valid : PythonText.isidentifier key = true ∧ ¬ value.Blank ∧ value.length ≤ 1000

/-- `ExtractedField(...)` -/
def ExtractedField.make (key value : Text) (confidence : ModelConfidence) :
    Except AIException ExtractedField := do
  let valid ← validated
    (PythonText.isidentifier key = true ∧ ¬ value.Blank ∧ value.length ≤ 1000)
    "Extracted field is invalid"
  pure { key, value, confidence, valid := valid.down }

structure IntentResult where
  intent : Intent
  confidence : ModelConfidence
  entities : List ExtractedField
  missingInformation : List Text
  riskFlags : List RiskFlag
  suggestedAction : SuggestedAction
  rationaleCategory : Text
  rationaleValid : PythonText.isidentifier rationaleCategory = true ∧ rationaleCategory.length ≤ 100

/-- `IntentResult(...)` -/
def IntentResult.make (intent : Intent) (confidence : ModelConfidence) (entities : List ExtractedField)
    (missingInformation : List Text) (riskFlags : List RiskFlag)
    (suggestedAction : SuggestedAction) (rationaleCategory : Text) :
    Except AIException IntentResult := do
  let rationaleValid ← validated
    (PythonText.isidentifier rationaleCategory = true ∧ rationaleCategory.length ≤ 100)
    "Intent rationale category is invalid"
  pure
    { intent, confidence, entities, missingInformation, riskFlags, suggestedAction
      rationaleCategory, rationaleValid := rationaleValid.down }

structure ExtractionResult where
  fields : List ExtractedField
  confidence : ModelConfidence
  keysUnique : (fields.map (·.key)).Nodup

/-- `ExtractionResult(...)` -/
def ExtractionResult.make (fields : List ExtractedField) (confidence : ModelConfidence) :
    Except AIException ExtractionResult := do
  let keysUnique ← validated ((fields.map (·.key)).Nodup) "Extracted field keys must be unique"
  pure { fields, confidence, keysUnique := keysUnique.down }

structure ClassificationResult where
  label : Text
  confidence : ModelConfidence
  rationaleCategory : Text
  valid : ¬ label.Blank ∧ PythonText.isidentifier rationaleCategory = true

/-- `ClassificationResult(...)` -/
def ClassificationResult.make (label : Text) (confidence : ModelConfidence) (rationaleCategory : Text) :
    Except AIException ClassificationResult := do
  let valid ← validated (¬ label.Blank ∧ PythonText.isidentifier rationaleCategory = true)
    "Classification result is invalid"
  pure { label, confidence, rationaleCategory, valid := valid.down }

end Results

structure RewriteResult where
  text : Text
  confidence : ModelConfidence
  valid : ¬ text.Blank ∧ text.length ≤ 2000

/-- `RewriteResult(...)` -/
def RewriteResult.make (text : Text) (confidence : ModelConfidence) :
    Except AIException RewriteResult := do
  let valid ← validated (¬ text.Blank ∧ text.length ≤ 2000) "Rewrite result is invalid"
  pure { text, confidence, valid := valid.down }

structure SummaryResult where
  summary : Text
  keyPoints : List Text
  confidence : ModelConfidence
  summaryValid : ¬ summary.Blank ∧ summary.length ≤ 2000
  keyPointsValid : keyPoints.length ≤ 10 ∧ ∀ item ∈ keyPoints, ¬ item.Blank ∧ item.length ≤ 500

/-- `SummaryResult(...)` -/
def SummaryResult.make (summary : Text) (keyPoints : List Text) (confidence : ModelConfidence) :
    Except AIException SummaryResult := do
  let summaryValid ← validated (¬ summary.Blank ∧ summary.length ≤ 2000)
    "Summary result is invalid"
  let keyPointsValid ← validated
    (keyPoints.length ≤ 10 ∧ ∀ item ∈ keyPoints, ¬ item.Blank ∧ item.length ≤ 500)
    "Summary key points are invalid"
  pure
    { summary, keyPoints, confidence, summaryValid := summaryValid.down
      keyPointsValid := keyPointsValid.down }

inductive AIResult [PythonText]
  | intent (result : IntentResult)
  | extraction (result : ExtractionResult)
  | classification (result : ClassificationResult)
  | rewrite (result : RewriteResult)
  | summary (result : SummaryResult)

/-! ## Requests -/

/-- A request. Its allowlists are sets; they are listed in order. -/
structure AIRequest [PythonText] where
  tenantId : TenantId
  conversationId : Option ConversationId
  correlationId : UUID
  task : AITask
  inputText : Text
  promptVariables : List (Text × Text)
  allowedExtractionFields : List Text
  allowedClassificationLabels : List Text
  inputValid : ¬ inputText.Blank ∧ inputText.length ≤ 8000
  fieldsListed : task = .extraction → allowedExtractionFields ≠ []
  labelsListed : task = .classification → allowedClassificationLabels ≠ []
  fieldNames : ∀ key ∈ allowedExtractionFields, PythonText.isidentifier key = true

/-! ## Prompts -/

/-- How `str.format_map` raises: with a `ValueError`, or with another exception. -/
inductive FormatFailure
  | value (message : String)
  | other

/-- Python's format strings. -/
class PythonFormat where
  /-- The names, less the empty ones, of the fields `Formatter().parse(template)` finds;
  `none` where it raises `ValueError`. -/
  fieldNames : Text → Option (List Text)
  /-- `template.format_map(values)` -/
  formatMap : Text → List (Text × Text) → Except FormatFailure Text

/-- `identifier.replace("-", "_")` -/
def underscored (identifier : Text) : Text :=
  identifier.map fun char => if char = '-' then '_' else char

section Prompts

variable [PythonText] [PythonFormat]

/-- A versioned prompt, less its metadata. -/
structure PromptTemplate where
  identifier : Text
  version : Int
  task : AITask
  template : Text
  templateVariables : List Text
  compatibleSchemas : List Text
  deprecated : Bool := false
  identityValid : PythonText.isidentifier (underscored identifier) = true ∧ 1 ≤ version
  textPresent : ¬ template.Blank ∧ compatibleSchemas ≠ []
  variableNames : ∀ name ∈ templateVariables, PythonText.isidentifier name = true
  variablesMatch : ∃ names ∈ PythonFormat.fieldNames template,
    (∀ name ∈ names, name ∈ templateVariables) ∧ ∀ name ∈ templateVariables, name ∈ names

/-- `PromptTemplate(...)` -/
def PromptTemplate.make (identifier : Text) (version : Int) (task : AITask) (template : Text)
    (templateVariables compatibleSchemas : List Text) (deprecated : Bool) :
    Except AIException PromptTemplate := do
  let identityValid ← validated
    (PythonText.isidentifier (underscored identifier) = true ∧ 1 ≤ version)
    "Prompt identity is invalid"
  let textPresent ← validated (¬ template.Blank ∧ compatibleSchemas ≠ [])
    "Prompt text and compatibility are required"
  let variableNames ← validated (∀ name ∈ templateVariables, PythonText.isidentifier name = true)
    "Prompt variable names are invalid"
  -- A template that cannot be parsed raises a `ValueError` of its own.
  let variablesMatch ← validated
    (∃ names ∈ PythonFormat.fieldNames template,
      (∀ name ∈ names, name ∈ templateVariables) ∧ ∀ name ∈ templateVariables, name ∈ names)
    "Prompt variables do not match the template"
  pure
    { identifier, version, task, template, templateVariables, compatibleSchemas, deprecated
      identityValid := identityValid.down
      textPresent := textPresent.down
      variableNames := variableNames.down
      variablesMatch := variablesMatch.down }

/-- `template.format_map(values)`, with the exceptions it raises. -/
def formatTemplate (template : Text) (values : List (Text × Text)) : Except AIException Text :=
  match PythonFormat.formatMap template values with
  | .ok rendered => .ok rendered
  | .error (.value message) => .error (.value message)
  | .error .other => .error .other

/-- `render` -/
def PromptTemplate.render (prompt : PromptTemplate) (values : List (Text × Text)) :
    Except AIException Text := do
  let _ ← validated
    ((∀ key ∈ values.map Prod.fst, key ∈ prompt.templateVariables) ∧
      ∀ key ∈ prompt.templateVariables, key ∈ values.map Prod.fst)
    "Prompt variables are incomplete or unexpected"
  let rendered ← formatTemplate prompt.template values
  let _ ← validated (¬ rendered.Blank ∧ rendered.length ≤ 20000) "Rendered prompt is invalid"
  pure rendered

end Prompts

/-! ## Policies -/

/-- A number that is at least zero. -/
def NonnegativeDecimal (number : Decimal) : Prop := (Decimal.ofInt 0).le? number = some true

instance : DecidablePred NonnegativeDecimal := fun number =>
  inferInstanceAs (Decidable ((Decimal.ofInt 0).le? number = some true))

structure ModelPolicy where
  task : AITask
  provider : Text
  model : Text
  promptId : Text
  promptVersion : Int
  schemaId : Text
  temperature : Option ℚ
  maxOutputTokens : Int
  timeoutSeconds : ℚ
  maxRetries : ℕ
  confidenceThreshold : ModelConfidence
  structuredOutputMode : String
  inputCostPerMillion : Decimal := Decimal.ofInt 0
  outputCostPerMillion : Decimal := Decimal.ofInt 0
  namesPresent : ¬ provider.Blank ∧ ¬ model.Blank ∧ ¬ schemaId.Blank
  limitsValid : 1 ≤ promptVersion ∧ 64 ≤ maxOutputTokens ∧ maxOutputTokens ≤ 32768
  retriesValid : 1 / 100 ≤ timeoutSeconds ∧ timeoutSeconds ≤ 120 ∧ maxRetries ≤ 5
  temperatureValid : ∀ value ∈ temperature, 0 ≤ value ∧ value ≤ 2
  modeValid : structuredOutputMode = "strict_json_schema"
  costsValid : NonnegativeDecimal inputCostPerMillion ∧ NonnegativeDecimal outputCostPerMillion

/-! ## Providers and executions -/

structure ProviderRequest where
  task : AITask
  model : Text
  systemPrompt : Text
  userInput : Text
  schemaName : Text
  jsonSchema : Schema
  temperature : Option ℚ
  maxOutputTokens : Int

structure ProviderResponse where
  provider : Text
  model : Text
  output : Json
  inputTokens : ℕ
  outputTokens : ℕ

structure AIExecution [PythonText] where
  status : AICompletionStatus
  result : AIResult
  failureCode : Option AIFailureCode
  attempts : ℕ

/-- A record of an execution, less its own id, its latency and its time. -/
structure AIOperationRecord where
  tenantId : TenantId
  conversationId : Option ConversationId
  correlationId : UUID
  task : AITask
  provider : Text
  model : Text
  promptId : Text
  promptVersion : Int
  schemaId : Text
  status : AICompletionStatus
  attempts : ℕ
  inputTokens : ℕ
  outputTokens : ℕ
  estimatedCost : Decimal
  failureCode : Option AIFailureCode
  costValid : NonnegativeDecimal estimatedCost

end BusinessAssistant.Application
