/-
# The AI runtime

`application.ai.runtime`: an execution calls the provider of its task's policy until a
response is accepted or the failures end, and degrades to a fallback that no provider takes
part in. What a provider answers, whether its time runs out, whether a record is stored and
whether the execution is cancelled is up to the surroundings of the program.
-/

import BusinessAssistant.Application.AISchemas
import BusinessAssistant.Foundation.Dialogues

namespace BusinessAssistant.Application

open BusinessAssistant.Domain BusinessAssistant.Foundation

/-- The arithmetic of `decimal` in its context; `none` where it raises. -/
class DecimalContext where
  multiply : Decimal → Decimal → Option Decimal
  add : Decimal → Decimal → Option Decimal
  divide : Decimal → Decimal → Option Decimal

/-- The tokens a response reports: of its input, and of its output. -/
abbrev TokenUsage := ℕ × ℕ

/-! ## Calls -/

inductive AICall
  /-- `provider.execute(request)` under `asyncio.timeout(timeoutSeconds)` -/
  | execute (provider : Text) (timeoutSeconds : ℚ) (request : ProviderRequest)
  /-- `telemetry.record(operation)` -/
  | record (operation : AIOperationRecord)
  /-- `sleep(delay)`, in seconds -/
  | sleep (delay : ℚ)

/-- What a call returns. -/
def AICall.Reply : AICall → Type
  | execute _ _ _ => ProviderResponse
  | record _ | sleep _ => Unit

abbrev AIProgram (α : Type) := Program AICall AICall.Reply AIException α

/-! ## Failures -/

/-- `_provider_failure` -/
def providerFailure (code : String) : AIFailureCode :=
  if code = "rate_limited" then .rateLimited
  else if code = "timeout" then .timeout
  else if code = "refused" then .refused
  else if code = "invalid_response" ∨ code = "incomplete" then .invalidOutput
  else .providerUnavailable

/-- What the handlers of the loop make of an exception: the failure, and whether another
attempt may follow. -/
def failureOf : AIException → AIFailureCode × Bool
  | .timeout => (.timeout, true)
  | .schemaValidation _ => (.invalidOutput, false)
  | .provider code retryable => (providerFailure code, retryable)
  | .value _ => (.invalidOutput, false)
  | .cancelled => (.cancelled, false)
  | .other => (.providerUnavailable, false)

/-- `min(2 ** (attempts - 1) * 0.1, 2.0)` -/
def retryPause (attempts : ℕ) : ℚ := min (2 ^ (attempts - 1) / 10) 2

/-! ## The runtime -/

/-- An `AIRuntime`, less the ports it only calls. -/
structure AIRuntime [PythonText] [PythonFormat] where
  enabled : Bool
  /-- `policies.for_task` -/
  policies : AITask → Option ModelPolicy
  /-- `prompts.get` -/
  prompts : Text → Int → Option PromptTemplate
  /-- Whether `providers.resolve` finds a provider. -/
  resolves : Text → Bool
  businessValidator : Option (AIRequest → AIResult → Except AIException Unit)

namespace AIRuntime

section Recording

variable [PythonText] [DecimalContext]

/-- `_cost`; `none` where the arithmetic raises. -/
def cost (policy : Option ModelPolicy) (tokens : TokenUsage) : Option Decimal :=
  match policy with
  | none => some (Decimal.ofInt 0)
  | some policy => do
      let input ← DecimalContext.multiply (Decimal.ofInt tokens.1) policy.inputCostPerMillion
      let output ← DecimalContext.multiply (Decimal.ofInt tokens.2) policy.outputCostPerMillion
      let total ← DecimalContext.add input output
      DecimalContext.divide total (Decimal.ofInt 1000000)

/-- The record of an execution. Its constructor compares the cost with zero. -/
def operation (request : AIRequest) (policy : Option ModelPolicy) (execution : AIExecution)
    (tokens : TokenUsage) : Except AIException AIOperationRecord :=
  match cost policy tokens with
  | none => .error .other
  | some cost =>
      if costValid : NonnegativeDecimal cost then
        .ok
          { tenantId := request.tenantId
            conversationId := request.conversationId
            correlationId := request.correlationId
            task := request.task
            provider := (policy.map (·.provider)).getD "none".toList
            model := (policy.map (·.model)).getD "none".toList
            promptId := (policy.map (·.promptId)).getD "none".toList
            promptVersion := (policy.map (·.promptVersion)).getD 0
            schemaId := (policy.map (·.schemaId)).getD "none".toList
            status := execution.status
            attempts := execution.attempts
            inputTokens := tokens.1
            outputTokens := tokens.2
            estimatedCost := cost
            failureCode := execution.failureCode
            costValid := costValid }
      else if (Decimal.ofInt 0).le? cost = none then .error .other
      else .error (.value "AI operation usage cannot be negative")

/-- `_record`: whatever the telemetry raises is swallowed, but for a cancellation. -/
def record (request : AIRequest) (policy : Option ModelPolicy) (execution : AIExecution)
    (tokens : TokenUsage) : AIProgram Unit := do
  let operation ← Program.lift (operation request policy execution tokens)
  .call (.record operation) fun
    | .error .cancelled => Program.raise .cancelled
    | .error _ | .ok _ => pure ()

/-- `_fallback` -/
def fallback (request : AIRequest) (policy : Option ModelPolicy) (failure : AIFailureCode)
    (attempts : ℕ) (tokens : TokenUsage) : AIProgram AIExecution := do
  let result ← Program.lift (fallbackResult request)
  let execution : AIExecution := { status := .fallback, result, failureCode := some failure, attempts }
  record request policy execution tokens
  pure execution

/-- What the handlers of the loop do with an exception; `again` is the next attempt. -/
def recover (request : AIRequest) (policy : ModelPolicy) (attempts : ℕ) (tokens : TokenUsage)
    (again : Option (AIProgram AIExecution)) : AIException → AIProgram AIExecution
  | .cancelled => do
      let result ← Program.lift (fallbackResult request)
      record request (some policy)
        { status := .cancelled, result, failureCode := some .cancelled, attempts } tokens
      Program.raise .cancelled
  | error =>
      match (failureOf error).2, again with
      | true, some next => do
          Program.perform (AICall.sleep (retryPause attempts))
          next
      | true, none | false, _ =>
          fallback request (some policy) (failureOf error).1 attempts tokens

end Recording

variable [PythonText] [PythonFormat] [DecimalContext] (runtime : AIRuntime)

/-- What the loop makes of a response before it looks at the confidence. -/
def accept (request : AIRequest) (policy : ModelPolicy) (response : ProviderResponse) :
    Except AIException AIResult := do
  if response.provider ≠ policy.provider ∨ response.model ≠ policy.model then
    throw (.provider "provider_identity_mismatch" false)
  let result ← parseResult request response.output
  match runtime.businessValidator with
  | some validate => validate request result
  | none => pure ()
  pure result

/-- The rest of the `try` block once there is a response. -/
def conclude (request : AIRequest) (policy : ModelPolicy) (response : ProviderResponse)
    (attempts : ℕ) : AIProgram AIExecution := do
  let tokens := (response.inputTokens, response.outputTokens)
  let result ← Program.lift (runtime.accept request policy response)
  if (confidenceOf result).val < policy.confidenceThreshold.val then
    fallback request (some policy) .lowConfidence attempts tokens
  else
    let execution : AIExecution := { status := .success, result, failureCode := none, attempts }
    record request (some policy) execution tokens
    pure execution

/-- One turn of the loop; `again` is the next one, with the tokens reported so far. -/
def turn (request : AIRequest) (policy : ModelPolicy) (asked : ProviderRequest) (attempts : ℕ)
    (tokens : TokenUsage) (again : Option (TokenUsage → AIProgram AIExecution)) :
    AIProgram AIExecution :=
  .call (.execute policy.provider policy.timeoutSeconds asked) fun
    | .error error => recover request policy attempts tokens (again.map (· tokens)) error
    | .ok response =>
        let tokens := (response.inputTokens, response.outputTokens)
        (conclude runtime request policy response attempts).catchError
          (recover request policy attempts tokens (again.map (· tokens)))

/-- The loop, with so many retries left after so many attempts. -/
def attemptLoop (request : AIRequest) (policy : ModelPolicy) (asked : ProviderRequest) :
    (retries attempts : ℕ) → TokenUsage → AIProgram AIExecution
  | 0, attempts, tokens => turn runtime request policy asked (attempts + 1) tokens none
  | retries + 1, attempts, tokens =>
      turn runtime request policy asked (attempts + 1) tokens
        (some (attemptLoop request policy asked retries (attempts + 1)))

/-- The prompt of a policy may be used, and its provider is there. -/
def Usable (request : AIRequest) (policy : ModelPolicy) (prompt : PromptTemplate) : Prop :=
  prompt.deprecated = false ∧ prompt.task = request.task ∧
    policy.schemaId ∈ prompt.compatibleSchemas ∧ runtime.resolves policy.provider = true

instance (request : AIRequest) (policy : ModelPolicy) (prompt : PromptTemplate) :
    Decidable (runtime.Usable request policy prompt) :=
  inferInstanceAs (Decidable (_ ∧ _ ∧ _ ∧ _))

/-- What the provider is sent. -/
def providerRequest (request : AIRequest) (policy : ModelPolicy) (renderedPrompt : Text) :
    ProviderRequest where
  task := request.task
  model := policy.model
  systemPrompt := renderedPrompt
  userInput := request.inputText
  schemaName := policy.schemaId
  jsonSchema := jsonSchemaFor request
  temperature := policy.temperature
  maxOutputTokens := policy.maxOutputTokens

/-- `execute` -/
def execute (request : AIRequest) : AIProgram AIExecution :=
  if runtime.enabled = false then do
    let result ← Program.lift (fallbackResult request)
    let execution : AIExecution :=
      { status := .disabled, result, failureCode := some .disabled, attempts := 0 }
    record request none execution (0, 0)
    pure execution
  else
    match runtime.policies request.task with
    | none => fallback request none .policyInvalid 0 (0, 0)
    | some policy =>
        match runtime.prompts policy.promptId policy.promptVersion with
        | none => fallback request (some policy) .policyInvalid 0 (0, 0)
        | some prompt =>
            if runtime.Usable request policy prompt then
              match prompt.render request.promptVariables with
              | .ok rendered =>
                  attemptLoop runtime request policy (providerRequest request policy rendered)
                    policy.maxRetries 0 (0, 0)
              | .error (.value _) | .error (.schemaValidation _) =>
                  fallback request (some policy) .policyInvalid 0 (0, 0)
              | .error error => Program.raise error
            else fallback request (some policy) .policyInvalid 0 (0, 0)

end AIRuntime

end BusinessAssistant.Application
