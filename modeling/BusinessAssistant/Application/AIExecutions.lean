/-
# What an execution comes to

An execution that returns has called the provider as its policy says: again only after a
failure that allows it, and no more often than there are retries. What it returns is decided
by the last answer, and exactly one record tells the same. An execution that raises was
cancelled, or could not make the fallback, its record or the prompt.
-/

import BusinessAssistant.Application.AIRuntime
import BusinessAssistant.Domain.CaseFolding
import BusinessAssistant.Foundation.Folds
import Mathlib.Tactic.NormNum

namespace BusinessAssistant.Application

open BusinessAssistant.Domain BusinessAssistant.Foundation BusinessAssistant.Foundation.Folds

/-! ## Reading a dialogue -/

abbrev AITrace := List (Exchange AICall AICall.Reply AIException)

namespace AITrace

/-- The answer, if a provider was called. -/
def reply? : Exchange AICall AICall.Reply AIException → Option (Except AIException ProviderResponse)
  | ⟨.execute _ _ _, answer⟩ => some answer
  | ⟨.record _, _⟩ | ⟨.sleep _, _⟩ => none

/-- The record, if one was offered. -/
def operation? : Exchange AICall AICall.Reply AIException → Option AIOperationRecord
  | ⟨.record operation, _⟩ => some operation
  | ⟨.execute _ _ _, _⟩ | ⟨.sleep _, _⟩ => none

/-- What a program of the runtime does with its surroundings, a pause with its length. -/
inductive Step
  | call
  | pause (delay : ℚ)
  | record
  deriving DecidableEq

def step : Exchange AICall AICall.Reply AIException → Step
  | ⟨.execute _ _ _, _⟩ => .call
  | ⟨.sleep delay, _⟩ => .pause delay
  | ⟨.record _, _⟩ => .record

/-- The answers of the provider, in their order. -/
def replies (trace : AITrace) : List (Except AIException ProviderResponse) :=
  trace.filterMap reply?

/-- The records that were offered. -/
def offered (trace : AITrace) : List AIOperationRecord := trace.filterMap operation?

/-- So many calls after so many attempts, a pause between each and the next, and the record. -/
def attemptSteps : (attempts calls : ℕ) → List Step
  | _, 0 => [.record]
  | _, 1 => [.call, .record]
  | attempts, calls + 2 =>
      .call :: .pause (retryPause (attempts + 1)) :: attemptSteps (attempts + 1) (calls + 1)

/-- Nothing was cancelled, and every pause was kept. -/
def Undisturbed (trace : AITrace) : Prop :=
  (∀ exchange ∈ trace, exchange.2 ≠ .error .cancelled) ∧
    ∀ delay error, ⟨.sleep delay, .error error⟩ ∉ trace

theorem Undisturbed.mono {trace part : AITrace} (h : trace.Undisturbed) (hpart : part ⊆ trace) :
    part.Undisturbed :=
  ⟨fun exchange hmem => h.1 exchange (hpart hmem),
    fun delay error hmem => h.2 delay error (hpart hmem)⟩

end AITrace

/-- The tokens the last response reported, after those reported before. -/
def usage (tokens : TokenUsage) : List (Except AIException ProviderResponse) → TokenUsage
  | [] => tokens
  | .error _ :: rest => usage tokens rest
  | .ok response :: rest => usage (response.inputTokens, response.outputTokens) rest

theorem usage_cons (tokens : TokenUsage) (reply : Except AIException ProviderResponse)
    (rest : List (Except AIException ProviderResponse)) :
    usage tokens (reply :: rest) = usage (usage tokens [reply]) rest := by
  cases reply with
  | ok response => rfl
  | error error => rfl

/-! ## What is raised -/

theorem raisesOnly_validated {P : AIException → Prop} (hvalue : ∀ message, P (.value message))
    (condition : Prop) [Decidable condition] (message : String) :
    RaisesOnly P (validated condition message) :=
  .dite (fun _ => .ok _) fun _ => .error (hvalue message)

/-- What the readers of an output raise. -/
def Unreadable : AIException → Prop
  | .schemaValidation _ | .value _ | .other => True
  | .provider _ _ | .timeout | .cancelled => False

theorem raisesOnly_readObject (required : List Text) (value : Json) :
    RaisesOnly Unreadable (readObject required value) := by
  cases value with
  | object => exact .ite (.ok _) (.error trivial)
  | null | bool | integer | real | string | array => exact .error trivial

theorem raisesOnly_readString (maximum : ℕ) (value : Json) :
    RaisesOnly Unreadable (readString maximum value) := by
  cases value with
  | string => exact .ite (.error trivial) (.ok _)
  | null | bool | integer | real | array | object => exact .error trivial

theorem raisesOnly_readConfidence (value : Json) : RaisesOnly Unreadable (readConfidence value) := by
  have hrange : ∀ number, RaisesOnly Unreadable (confidenceInRange number) := fun _ =>
    .dite (fun _ => .ok _) fun _ => .error trivial
  cases value with
  | integer =>
      unfold readConfidence
      exact .ite (.error trivial) (hrange _)
  | real => exact hrange _
  | null | bool | string | array | object => exact .error trivial

theorem raisesOnly_readStrings (maximumItems maximumLength : ℕ) (value : Json) :
    RaisesOnly Unreadable (readStrings maximumItems maximumLength value) := by
  cases value with
  | array items => exact .ite (.error trivial) (.mapM (raisesOnly_readString maximumLength) items)
  | null | bool | integer | real | string | object => exact .error trivial

theorem raisesOnly_memberOf {α : Type} (members : List α) (value : α → Text) (text : Text) :
    RaisesOnly Unreadable (memberOf members value text) := by
  unfold memberOf
  split
  · exact .ok _
  · exact .error trivial

section Raised

variable [PythonText]

theorem raisesOnly_readField (value : Json) : RaisesOnly Unreadable (readField value) := by
  have hinvalid : ∀ error, Unreadable error → Unreadable (asInvalidField error) := by
    intro error herror
    cases error with
    | schemaValidation | value | other => trivial
    | provider | timeout | cancelled => exact herror.elim
  refine (raisesOnly_readObject _ _).bind fun _ => .mapError hinvalid ?_
  exact (raisesOnly_readString _ _).bind fun _ => (raisesOnly_readString _ _).bind fun _ =>
    (raisesOnly_readConfidence _).bind fun _ =>
      (raisesOnly_validated (fun _ => trivial) _ _).bind fun _ => .ok _

theorem raisesOnly_readFields (value : Json) : RaisesOnly Unreadable (readFields value) := by
  cases value with
  | array items => exact .ite (.error trivial) (.mapM raisesOnly_readField items)
  | null | bool | integer | real | string | object => exact .error trivial

/-- Reading an output raises no cancellation and no failure of a provider. -/
theorem raisesOnly_parseOutput (task : AITask) (output : Json) :
    RaisesOnly Unreadable (parseOutput task output) := by
  have hvalidated : ∀ (condition : Prop) [Decidable condition] (message : String),
      RaisesOnly Unreadable (validated condition message) := raisesOnly_validated fun _ => trivial
  cases task with
  | intent =>
      exact (raisesOnly_readObject _ _).bind fun _ => (raisesOnly_readString _ _).bind fun _ =>
        (raisesOnly_memberOf _ _ _).bind fun _ => (raisesOnly_readConfidence _).bind fun _ =>
        (raisesOnly_readFields _).bind fun _ => (raisesOnly_readStrings _ _ _).bind fun _ =>
        (raisesOnly_readStrings _ _ _).bind fun _ =>
        (RaisesOnly.mapM (raisesOnly_memberOf _ _) _).bind fun _ =>
        (raisesOnly_readString _ _).bind fun _ => (raisesOnly_memberOf _ _ _).bind fun _ =>
        (raisesOnly_readString _ _).bind fun _ =>
        ((hvalidated _ _).bind fun _ => .ok _).bind fun _ => .ok _
  | extraction =>
      exact (raisesOnly_readObject _ _).bind fun _ => (raisesOnly_readFields _).bind fun _ =>
        (raisesOnly_readConfidence _).bind fun _ =>
        ((hvalidated _ _).bind fun _ => .ok _).bind fun _ => .ok _
  | classification =>
      exact (raisesOnly_readObject _ _).bind fun _ => (raisesOnly_readString _ _).bind fun _ =>
        (raisesOnly_readConfidence _).bind fun _ => (raisesOnly_readString _ _).bind fun _ =>
        ((hvalidated _ _).bind fun _ => .ok _).bind fun _ => .ok _
  | rewrite =>
      exact (raisesOnly_readObject _ _).bind fun _ => (raisesOnly_readString _ _).bind fun _ =>
        (raisesOnly_readConfidence _).bind fun _ =>
        ((hvalidated _ _).bind fun _ => .ok _).bind fun _ => .ok _
  | summary =>
      exact (raisesOnly_readObject _ _).bind fun _ => (raisesOnly_readString _ _).bind fun _ =>
        (raisesOnly_readStrings _ _ _).bind fun _ => (raisesOnly_readConfidence _).bind fun _ =>
        ((hvalidated _ _).bind fun _ => (hvalidated _ _).bind fun _ => .ok _).bind fun _ => .ok _

theorem raisesOnly_parseResult (request : AIRequest) (output : Json) :
    RaisesOnly Unreadable (parseResult request output) := by
  have hunsupported : ∀ error, Unreadable error → Unreadable (asUnsupported error) := by
    intro error herror
    cases error with
    | schemaValidation | value | other => trivial
    | provider | timeout | cancelled => exact herror.elim
  have happlication : ∀ result, RaisesOnly Unreadable (validateApplicationResult request result) := by
    intro result
    cases result with
    | intent => exact .ite (.error trivial) (.ite (.error trivial) (.ok _))
    | extraction | classification => exact .ite (.error trivial) (.ok _)
    | rewrite | summary => exact .ok _
  exact (RaisesOnly.mapError hunsupported (raisesOnly_parseOutput request.task output)).bind
    fun result => (happlication result).bind fun _ => .ok result

/-- The constructors of the fallback values raise nothing but `ValueError`. -/
theorem raisesOnly_fallbackResult (request : AIRequest) :
    RaisesOnly (fun error => ∃ message, error = .value message) (fallbackResult request) := by
  have hvalidated : ∀ (condition : Prop) [Decidable condition] (message : String),
      RaisesOnly (fun error => ∃ message, error = .value message) (validated condition message) :=
    raisesOnly_validated fun message => ⟨message, rfl⟩
  unfold fallbackResult
  split
  · exact ((hvalidated _ _).bind fun _ => .ok _).bind fun _ => .ok _
  · exact ((hvalidated _ _).bind fun _ => .ok _).bind fun _ => .ok _
  · exact ((hvalidated _ _).bind fun _ => .ok _).bind fun _ => .ok _
  · exact ((hvalidated _ _).bind fun _ => .ok _).bind fun _ => .ok _
  · exact ((hvalidated _ _).bind fun _ => (hvalidated _ _).bind fun _ => .ok _).bind fun _ => .ok _

/-- Of all requests only one to rewrite a long text has no value to fall back to. -/
theorem fallbackResult_missing_iff {request : AIRequest}
    (hidentifier : PythonText.isidentifier "deterministic_fallback".toList = true) :
    (∃ error, fallbackResult request = .error error) ↔
      request.task = .rewrite ∧ 2000 < request.inputText.length := by
  have hpassed : ∀ {condition : Prop} [Decidable condition] (message : String), condition →
      RaisesOnly (fun _ => False) (validated condition message) := fun _ hcondition =>
    .dite (fun _ => .ok _) fun hnot => absurd hcondition hnot
  have hpresent : RaisesOnly (fun _ => False) (fallbackResult request) →
      ¬ ∃ error, fallbackResult request = .error error := fun hraises ⟨error, herror⟩ =>
    hraises error herror
  constructor
  · intro hmissing
    by_contra hshort
    refine hpresent ?_ hmissing
    unfold fallbackResult
    split
    · exact ((hpassed _ ⟨hidentifier, by decide⟩).bind fun _ => .ok _).bind fun _ => .ok _
    · exact ((hpassed _ List.nodup_nil).bind fun _ => .ok _).bind fun _ => .ok _
    · exact ((hpassed _ ⟨by decide, hidentifier⟩).bind fun _ => .ok _).bind fun _ => .ok _
    · rename_i htask
      have hlength : request.inputText.length ≤ 2000 := not_lt.mp fun hlong => hshort ⟨htask, hlong⟩
      exact ((hpassed _ ⟨request.inputValid.1, hlength⟩).bind fun _ => .ok _).bind fun _ => .ok _
    · exact ((hpassed _ (by decide)).bind fun _ => (hpassed _ (by decide)).bind fun _ =>
        .ok _).bind fun _ => .ok _
  · intro h
    have hinvalid : ¬ (¬ request.inputText.Blank ∧ request.inputText.length ≤ 2000) := fun hvalid =>
      not_le.mpr h.2 hvalid.2
    have hrefused : RewriteResult.make request.inputText noConfidence =
        .error (.value "Rewrite result is invalid") := by
      rw [RewriteResult.make, validated, dif_neg hinvalid]
      rfl
    refine ⟨.value "Rewrite result is invalid", ?_⟩
    simp only [fallbackResult, h.1, hrefused]
    rfl

end Raised

namespace AIRuntime

open AITrace

/-! ## Records and fallbacks -/

section Recording

variable [PythonText] [DecimalContext] {request : AIRequest} {policy : Option ModelPolicy}
  {execution : AIExecution} {tokens : TokenUsage} {trace : AITrace}

/-- A record that is made is offered once, whatever becomes of it. -/
theorem record_returned {value : Unit}
    (h : (record request policy execution tokens).Dialogue trace (.ok value)) :
    ∃ operation answer, AIRuntime.operation request policy execution tokens = .ok operation ∧
      trace = [⟨.record operation, answer⟩] := by
  rcases Program.dialogue_bind_iff.mp h with ⟨operation, front, back, htrace, hfront, hback⟩ |
    ⟨error, houtcome, _⟩
  · obtain ⟨hnil, hoperation⟩ := Program.dialogue_lift_iff.mp hfront
    obtain ⟨answer, rest, hcall, hrest⟩ := Program.dialogue_call_iff.mp hback
    have hempty : rest = [] := by
      cases answer with
      | ok value => exact (Program.dialogue_pure_iff.mp hrest).1
      | error error => cases error <;> exact (Program.dialogue_done_iff.mp hrest).1
    exact ⟨operation, answer, hoperation.symm, by rw [htrace, hnil, hcall, hempty]; rfl⟩
  · cases houtcome

/-- Recording raises when there is no record to make, or when it is cancelled. -/
theorem record_raised {error : AIException}
    (h : (record request policy execution tokens).Dialogue trace (.error error)) :
    trace = [] ∧ AIRuntime.operation request policy execution tokens = .error error ∨
      error = .cancelled ∧ ∃ operation, trace = [⟨.record operation, .error .cancelled⟩] := by
  rcases Program.dialogue_bind_iff.mp h with ⟨operation, front, back, htrace, hfront, hback⟩ |
    ⟨raised, houtcome, hraised⟩
  · obtain ⟨hnil, _⟩ := Program.dialogue_lift_iff.mp hfront
    obtain ⟨answer, rest, hcall, hrest⟩ := Program.dialogue_call_iff.mp hback
    cases answer with
    | ok value => cases (Program.dialogue_pure_iff.mp hrest).2
    | error answered =>
        cases answered with
        | cancelled =>
            obtain ⟨hempty, herror⟩ := Program.dialogue_raise_iff.mp hrest
            cases herror
            exact .inr ⟨rfl, operation, by rw [htrace, hnil, hcall, hempty]; rfl⟩
        | schemaValidation | value | provider | timeout | other =>
            cases (Program.dialogue_pure_iff.mp hrest).2
  · obtain ⟨hnil, hoperation⟩ := Program.dialogue_lift_iff.mp hraised
    cases houtcome
    exact .inl ⟨hnil, hoperation.symm⟩

/-- Whether there is a record to make does not depend on what it tells. -/
theorem operation_raised {error : AIException}
    (h : AIRuntime.operation request policy execution tokens = .error error)
    (other : AIExecution) : AIRuntime.operation request policy other tokens = .error error := by
  unfold AIRuntime.operation at h ⊢
  split at h
  · exact h
  · split_ifs at h ⊢ with hcost hcompared
    · exact h
    · exact h

theorem operation_failure {error : AIException}
    (h : AIRuntime.operation request policy execution tokens = .error error) :
    error ≠ .cancelled ∧ (failureOf error).2 = false := by
  unfold AIRuntime.operation at h
  split at h
  · cases h
    exact ⟨nofun, rfl⟩
  · split_ifs at h with hcost hcompared
    · cases h
      exact ⟨nofun, rfl⟩
    · cases h
      exact ⟨nofun, rfl⟩

omit [DecimalContext] in
/-- A fallback is missing only where its constructor refuses the value. -/
theorem fallbackResult_failure {error : AIException} (h : fallbackResult request = .error error) :
    error ≠ .cancelled ∧ (failureOf error).2 = false := by
  obtain ⟨message, hmessage⟩ := raisesOnly_fallbackResult request error h
  rw [hmessage]
  exact ⟨nofun, rfl⟩

/-- What `_fallback` does, with the status it is done under. -/
def degraded (request : AIRequest) (policy : Option ModelPolicy) (status : AICompletionStatus)
    (failure : AIFailureCode) (attempts : ℕ) (tokens : TokenUsage) : AIProgram AIExecution := do
  let result ← Program.lift (fallbackResult request)
  let execution : AIExecution := { status, result, failureCode := some failure, attempts }
  record request policy execution tokens
  pure execution

variable {status : AICompletionStatus} {failure : AIFailureCode} {attempts : ℕ}

/-- A fallback that is returned has been recorded. -/
theorem degraded_returned
    (h : (degraded request policy status failure attempts tokens).Dialogue trace (.ok execution)) :
    ∃ result operation answer, fallbackResult request = .ok result ∧
      execution = { status, result, failureCode := some failure, attempts } ∧
      AIRuntime.operation request policy execution tokens = .ok operation ∧
      trace = [⟨.record operation, answer⟩] := by
  rcases Program.dialogue_bind_iff.mp h with ⟨result, front, back, htrace, hfront, hback⟩ |
    ⟨error, houtcome, _⟩
  · obtain ⟨hnil, hresult⟩ := Program.dialogue_lift_iff.mp hfront
    rcases Program.dialogue_bind_iff.mp hback with ⟨_, middle, last, hsplit, hrecord, hlast⟩ |
      ⟨error, houtcome, _⟩
    · obtain ⟨hempty, hexecution⟩ := Program.dialogue_pure_iff.mp hlast
      obtain ⟨operation, answer, hoperation, hmiddle⟩ := record_returned hrecord
      cases hexecution
      exact ⟨result, operation, answer, hresult.symm, rfl, hoperation,
        by rw [htrace, hnil, hsplit, hmiddle, hempty]; rfl⟩
    · cases houtcome
  · cases houtcome

/-- A fallback that raises has no result to give, or its record raised. -/
theorem degraded_raised {error : AIException}
    (h : (degraded request policy status failure attempts tokens).Dialogue trace (.error error)) :
    fallbackResult request = .error error ∨
      (∃ execution, AIRuntime.operation request policy execution tokens = .error error) ∨
      error = .cancelled ∧ ¬ trace.Undisturbed := by
  rcases Program.dialogue_bind_iff.mp h with ⟨result, front, back, htrace, hfront, hback⟩ |
    ⟨raised, houtcome, hraised⟩
  · obtain ⟨hnil, _⟩ := Program.dialogue_lift_iff.mp hfront
    rcases Program.dialogue_bind_iff.mp hback with ⟨_, middle, last, _, _, hlast⟩ |
      ⟨raised, houtcome, hrecord⟩
    · cases (Program.dialogue_pure_iff.mp hlast).2
    · cases houtcome
      rcases record_raised hrecord with ⟨_, hoperation⟩ | ⟨hcancelled, operation, hback⟩
      · exact .inr (.inl ⟨_, hoperation⟩)
      · refine .inr (.inr ⟨hcancelled, fun hundisturbed => ?_⟩)
        rw [htrace, hback] at hundisturbed
        exact hundisturbed.1 _ (List.mem_append_right front (List.mem_singleton.mpr rfl)) rfl
  · obtain ⟨_, hresult⟩ := Program.dialogue_lift_iff.mp hraised
    cases houtcome
    exact .inl hresult.symm

end Recording

/-! ## Handling a failure -/

section Recovery

variable [PythonText] [DecimalContext] {request : AIRequest} {policy : ModelPolicy}
  {execution : AIExecution} {attempts : ℕ} {tokens : TokenUsage} {trace : AITrace}

theorem recover_eq {again : Option (AIProgram AIExecution)} {error : AIException}
    (hcancelled : error ≠ .cancelled) :
    recover request policy attempts tokens again error =
      match (failureOf error).2, again with
      | true, some next => do
          Program.perform (AICall.sleep (retryPause attempts))
          next
      | true, none | false, _ =>
          fallback request (some policy) (failureOf error).1 attempts tokens := by
  cases error with
  | cancelled => exact absurd rfl hcancelled
  | schemaValidation | value | provider | timeout | other => rfl

/-- After a failure there is another attempt, if the failure allows it and one is left, or
else a fallback. -/
theorem recover_returned {again : Option (AIProgram AIExecution)} {error : AIException}
    (h : (recover request policy attempts tokens again error).Dialogue trace (.ok execution)) :
    (∃ next answer rest, (failureOf error).2 = true ∧ again = some next ∧
      trace = ⟨.sleep (retryPause attempts), answer⟩ :: rest ∧
      next.Dialogue rest (.ok execution)) ∨
    error ≠ .cancelled ∧ ((failureOf error).2 = true → again = none) ∧
      (fallback request (some policy) (failureOf error).1 attempts tokens).Dialogue trace
        (.ok execution) := by
  by_cases hcancelled : error = .cancelled
  · -- A cancelled execution is recorded and raises.
    rw [hcancelled] at h
    rcases Program.dialogue_bind_iff.mp h with ⟨_, _, _, _, _, hrest⟩ | ⟨_, houtcome, _⟩
    · rcases Program.dialogue_bind_iff.mp hrest with ⟨_, _, _, _, _, hlast⟩ | ⟨_, houtcome, _⟩
      · cases (Program.dialogue_raise_iff.mp hlast).2
      · cases houtcome
    · cases houtcome
  · rw [recover_eq hcancelled] at h
    cases hretryable : (failureOf error).2 with
    | false =>
        rw [hretryable] at h
        exact .inr ⟨hcancelled, Bool.noConfusion, h⟩
    | true =>
        cases again with
        | none =>
            rw [hretryable] at h
            exact .inr ⟨hcancelled, fun _ => rfl, h⟩
        | some next =>
            rw [hretryable] at h
            rcases Program.dialogue_bind_iff.mp h with
              ⟨value, front, back, htrace, hsleep, hnext⟩ | ⟨_, houtcome, _⟩
            · rw [Program.dialogue_perform_iff.mp hsleep] at htrace
              exact .inl ⟨next, _, back, rfl, rfl, htrace, hnext⟩
            · cases houtcome

/-- A handler that no failure of a fallback or a record passes on returns nothing. -/
theorem not_recovered {again : Option (AIProgram AIExecution)} {error : AIException}
    (hunrecorded : fallbackResult request = .error error ∨
      ∃ execution, AIRuntime.operation request (some policy) execution tokens = .error error)
    (h : (recover request policy attempts tokens again error).Dialogue trace (.ok execution)) :
    False := by
  have hfailure : error ≠ .cancelled ∧ (failureOf error).2 = false := by
    rcases hunrecorded with hresult | ⟨_, hoperation⟩
    · exact fallbackResult_failure hresult
    · exact operation_failure hoperation
  rcases recover_returned h with ⟨_, _, _, hretryable, _⟩ | ⟨_, _, hfallback⟩
  · rw [hfailure.2] at hretryable
    cases hretryable
  · obtain ⟨result, operation, answer, hresult, _, hoperation, _⟩ := degraded_returned hfallback
    rcases hunrecorded with hmissing | ⟨other, hmissing⟩
    · rw [hmissing] at hresult
      cases hresult
    · rw [operation_raised hmissing execution] at hoperation
      cases hoperation

end Recovery

/-! ## The loop -/

section Loop

variable [PythonText] [PythonFormat] (runtime : AIRuntime) (request : AIRequest)
  (policy : ModelPolicy)

/-- What an answer comes to: an accepted result, or a failure and whether another attempt
may follow. -/
def judge : Except AIException ProviderResponse → Except (AIFailureCode × Bool) AIResult
  | .error error => .error (failureOf error)
  | .ok response =>
      match runtime.accept request policy response with
      | .error error => .error (failureOf error)
      | .ok result =>
          if (confidenceOf result).val < policy.confidenceThreshold.val then
            .error (.lowConfidence, false)
          else .ok result

/-- What the answers decide, with so many retries left after so many attempts. -/
inductive Decides : (retries attempts : ℕ) → List (Except AIException ProviderResponse) →
    AIExecution → Prop
  | accepted {retries attempts : ℕ} {reply : Except AIException ProviderResponse}
      {result : AIResult} (hjudge : runtime.judge request policy reply = .ok result) :
      Decides retries attempts [reply]
        { status := .success, result, failureCode := none, attempts := attempts + 1 }
  | degraded {retries attempts : ℕ} {reply : Except AIException ProviderResponse}
      {failure : AIFailureCode} {retryable : Bool} {result : AIResult}
      (hjudge : runtime.judge request policy reply = .error (failure, retryable))
      (hlast : retryable = true → retries = 0) (hresult : fallbackResult request = .ok result) :
      Decides retries attempts [reply]
        { status := .fallback, result, failureCode := some failure, attempts := attempts + 1 }
  | again {retries attempts : ℕ} {reply : Except AIException ProviderResponse}
      {rest : List (Except AIException ProviderResponse)} {failure : AIFailureCode}
      {execution : AIExecution}
      (hjudge : runtime.judge request policy reply = .error (failure, true))
      (hrest : Decides retries (attempts + 1) rest execution) :
      Decides (retries + 1) attempts (reply :: rest) execution

theorem Decides.ne_nil {retries attempts : ℕ}
    {replies : List (Except AIException ProviderResponse)} {execution : AIExecution}
    (h : runtime.Decides request policy retries attempts replies execution) : replies ≠ [] := by
  cases h with
  | accepted | degraded | again => exact List.cons_ne_nil _ _

variable {runtime request policy} [DecimalContext] {asked : ProviderRequest}
  {execution : AIExecution} {attempts : ℕ} {tokens : TokenUsage} {trace : AITrace}

/-- The rest of the `try` block returns what the answer decides. -/
theorem conclude_returned {response : ProviderResponse}
    (h : (conclude runtime request policy response attempts).Dialogue trace (.ok execution)) :
    ∃ operation answer, trace = [⟨.record operation, answer⟩] ∧
      AIRuntime.operation request (some policy) execution
        (response.inputTokens, response.outputTokens) = .ok operation ∧
      ((∃ result, runtime.judge request policy (.ok response) = .ok result ∧
        execution = { status := .success, result, failureCode := none, attempts }) ∨
      ∃ result, runtime.judge request policy (.ok response) = .error (.lowConfidence, false) ∧
        fallbackResult request = .ok result ∧
        execution =
          { status := .fallback, result, failureCode := some .lowConfidence, attempts }) := by
  rcases Program.dialogue_bind_iff.mp h with ⟨result, front, back, htrace, hfront, hback⟩ |
    ⟨_, houtcome, _⟩
  · obtain ⟨hnil, haccept⟩ := Program.dialogue_lift_iff.mp hfront
    have hjudge : runtime.judge request policy (.ok response) =
        if (confidenceOf result).val < policy.confidenceThreshold.val then
          .error (.lowConfidence, false)
        else .ok result := by
      simp only [judge, ← haccept]
    rw [hnil, List.nil_append] at htrace
    by_cases hlow : (confidenceOf result).val < policy.confidenceThreshold.val
    · rw [if_pos hlow] at hback hjudge
      obtain ⟨result', operation, answer, hresult, hexecution, hoperation, hrecord⟩ :=
        degraded_returned hback
      exact ⟨operation, answer, htrace.trans hrecord, hoperation,
        .inr ⟨result', hjudge, hresult, hexecution⟩⟩
    · rw [if_neg hlow] at hback hjudge
      rcases Program.dialogue_bind_iff.mp hback with ⟨_, middle, last, hsplit, hrecord, hlast⟩ |
        ⟨_, houtcome, _⟩
      · obtain ⟨hempty, hexecution⟩ := Program.dialogue_pure_iff.mp hlast
        obtain ⟨operation, answer, hoperation, hmiddle⟩ := record_returned hrecord
        cases hexecution
        exact ⟨operation, answer, by rw [htrace, hsplit, hmiddle, hempty]; rfl, hoperation,
          .inl ⟨result, hjudge, rfl⟩⟩
      · cases houtcome
  · cases houtcome

/-- The rest of the `try` block raises what the answer is refused with, or what its record
or its fallback raises. -/
theorem conclude_raised {response : ProviderResponse} {error : AIException}
    (h : (conclude runtime request policy response attempts).Dialogue trace (.error error)) :
    trace = [] ∧ runtime.accept request policy response = .error error ∨
      fallbackResult request = .error error ∨
      (∃ execution, AIRuntime.operation request (some policy) execution
        (response.inputTokens, response.outputTokens) = .error error) ∨
      error = .cancelled ∧ ¬ trace.Undisturbed := by
  rcases Program.dialogue_bind_iff.mp h with ⟨result, front, back, htrace, hfront, hback⟩ |
    ⟨_, houtcome, hraised⟩
  · obtain ⟨hnil, _⟩ := Program.dialogue_lift_iff.mp hfront
    rw [hnil, List.nil_append] at htrace
    by_cases hlow : (confidenceOf result).val < policy.confidenceThreshold.val
    · rw [if_pos hlow] at hback
      rw [htrace]
      exact .inr (degraded_raised hback)
    · rw [if_neg hlow] at hback
      rcases Program.dialogue_bind_iff.mp hback with ⟨_, _, _, _, _, hlast⟩ |
        ⟨_, houtcome, hrecord⟩
      · cases (Program.dialogue_pure_iff.mp hlast).2
      · cases houtcome
        rcases record_raised hrecord with ⟨_, hoperation⟩ | ⟨hcancelled, operation, hoffered⟩
        · exact .inr (.inr (.inl ⟨_, hoperation⟩))
        · refine .inr (.inr (.inr ⟨hcancelled, fun hundisturbed => ?_⟩))
          rw [htrace, hoffered] at hundisturbed
          exact hundisturbed.1 _ (List.mem_singleton.mpr rfl) rfl
  · obtain ⟨hnil, haccept⟩ := Program.dialogue_lift_iff.mp hraised
    cases houtcome
    exact .inl ⟨hnil, haccept.symm⟩

/-- A turn of the loop ends with what its answer decides, or another follows. -/
theorem turn_returned {again : Option (TokenUsage → AIProgram AIExecution)}
    (h : (turn runtime request policy asked attempts tokens again).Dialogue trace
      (.ok execution)) :
    ∃ reply rest,
      trace = ⟨.execute policy.provider policy.timeoutSeconds asked, reply⟩ :: rest ∧
      ((∃ operation answer, rest = [⟨.record operation, answer⟩] ∧
        AIRuntime.operation request (some policy) execution (usage tokens [reply]) =
          .ok operation ∧
        ((∃ result, runtime.judge request policy reply = .ok result ∧
          execution = { status := .success, result, failureCode := none, attempts }) ∨
        ∃ failure retryable result,
          runtime.judge request policy reply = .error (failure, retryable) ∧
          (retryable = true → again = none) ∧ fallbackResult request = .ok result ∧
          execution = { status := .fallback, result, failureCode := some failure, attempts })) ∨
      ∃ failure next answer more,
        runtime.judge request policy reply = .error (failure, true) ∧ again = some next ∧
        rest = ⟨.sleep (retryPause attempts), answer⟩ :: more ∧
        (next (usage tokens [reply])).Dialogue more (.ok execution)) := by
  obtain ⟨reply, rest, htrace, hrest⟩ := Program.dialogue_call_iff.mp h
  refine ⟨reply, rest, htrace, ?_⟩
  -- What follows a failure is the same, whether the answer or the handling of it failed.
  have hrecovered : ∀ error trace, runtime.judge request policy reply = .error (failureOf error) →
      (recover request policy attempts (usage tokens [reply])
        (again.map (· (usage tokens [reply]))) error).Dialogue trace (.ok execution) →
      (∃ operation answer, trace = [⟨.record operation, answer⟩] ∧
        AIRuntime.operation request (some policy) execution (usage tokens [reply]) =
          .ok operation ∧
        ∃ failure retryable result,
          runtime.judge request policy reply = .error (failure, retryable) ∧
          (retryable = true → again = none) ∧ fallbackResult request = .ok result ∧
          execution = { status := .fallback, result, failureCode := some failure, attempts }) ∨
      ∃ failure next answer more,
        runtime.judge request policy reply = .error (failure, true) ∧ again = some next ∧
        trace = ⟨.sleep (retryPause attempts), answer⟩ :: more ∧
        (next (usage tokens [reply])).Dialogue more (.ok execution) := by
    intro error trace hjudge hrecover
    rcases recover_returned hrecover with ⟨next, answer, more, hretryable, hagain, htrace, hnext⟩ |
      ⟨_, hlast, hfallback⟩
    · obtain ⟨other, hother, hsame⟩ := Option.map_eq_some_iff.mp hagain
      rw [← hsame] at hnext
      exact .inr ⟨_, other, answer, more, hjudge.trans (by rw [← hretryable]), hother, htrace,
        hnext⟩
    · obtain ⟨result, operation, answer, hresult, hexecution, hoperation, hrecord⟩ :=
        degraded_returned hfallback
      exact .inl ⟨operation, answer, hrecord, hoperation, _, _, result, hjudge,
        fun hretryable => Option.map_eq_none_iff.mp (hlast hretryable), hresult, hexecution⟩
  cases reply with
  | error error =>
      rcases hrecovered error rest rfl hrest with
        ⟨operation, answer, hrecord, hoperation, hdegraded⟩ | hagain
      · exact .inl ⟨operation, answer, hrecord, hoperation, .inr hdegraded⟩
      · exact .inr hagain
  | ok response =>
      rcases Program.dialogue_catchError_iff.mp hrest with ⟨value, hvalue, hconclude⟩ |
        ⟨error, front, back, hsplit, hconclude, hrecover⟩
      · cases hvalue
        obtain ⟨operation, answer, hrecord, hoperation, hdecided⟩ := conclude_returned hconclude
        refine .inl ⟨operation, answer, hrecord, hoperation, ?_⟩
        rcases hdecided with haccepted | ⟨result, hjudge, hresult, hexecution⟩
        · exact .inl haccepted
        · exact .inr ⟨_, _, result, hjudge, nofun, hresult, hexecution⟩
      · rcases conclude_raised hconclude with ⟨hnil, haccept⟩ | hmissing | hmissing | ⟨hcancelled, _⟩
        · rw [hnil, List.nil_append] at hsplit
          have hjudge : runtime.judge request policy (.ok response) = .error (failureOf error) := by
            simp only [judge, haccept]
          rw [hsplit]
          rcases hrecovered error back hjudge hrecover with
            ⟨operation, answer, hrecord, hoperation, hdegraded⟩ | hagain
          · exact .inl ⟨operation, answer, hrecord, hoperation, .inr hdegraded⟩
          · exact .inr hagain
        · exact (not_recovered (.inl hmissing) hrecover).elim
        · exact (not_recovered (.inr hmissing) hrecover).elim
        · rcases recover_returned hrecover with ⟨_, _, _, hretryable, _⟩ | ⟨hother, _⟩
          · rw [hcancelled] at hretryable
            cases hretryable
          · exact (hother hcancelled).elim

/-- What the loop returns is what the answers decide, after a pause before each attempt but
the first, and one record tells it. -/
theorem attemptLoop_returned {retries : ℕ}
    (h : (attemptLoop runtime request policy asked retries attempts tokens).Dialogue trace
      (.ok execution)) :
    runtime.Decides request policy retries attempts (replies trace) execution ∧
      trace.map step = attemptSteps attempts (replies trace).length ∧
      ∃ operation, AIRuntime.operation request (some policy) execution
        (usage tokens (replies trace)) = .ok operation ∧ offered trace = [operation] := by
  induction retries generalizing attempts tokens trace with
  | zero =>
      obtain ⟨reply, rest, htrace, hended | ⟨_, _, _, _, _, hagain, _⟩⟩ := turn_returned h
      · obtain ⟨operation, answer, hrecord, hoperation, hdecided⟩ := hended
        subst htrace hrecord
        refine ⟨?_, rfl, operation, hoperation, rfl⟩
        rcases hdecided with ⟨result, hjudge, hexecution⟩ |
          ⟨failure, retryable, result, hjudge, _, hresult, hexecution⟩
        · rw [hexecution]
          exact .accepted hjudge
        · rw [hexecution]
          exact .degraded hjudge (fun _ => rfl) hresult
      · cases hagain
  | succ retries ih =>
      obtain ⟨reply, rest, htrace, hended | hagain⟩ := turn_returned h
      · obtain ⟨operation, answer, hrecord, hoperation, hdecided⟩ := hended
        subst htrace hrecord
        refine ⟨?_, rfl, operation, hoperation, rfl⟩
        rcases hdecided with ⟨result, hjudge, hexecution⟩ |
          ⟨failure, retryable, result, hjudge, hlast, hresult, hexecution⟩
        · rw [hexecution]
          exact .accepted hjudge
        · rw [hexecution]
          exact .degraded hjudge (fun hretryable => nomatch hlast hretryable) hresult
      · obtain ⟨failure, next, answer, more, hjudge, hnext, hrest, hmore⟩ := hagain
        cases hnext
        obtain ⟨hdecides, hsteps, operation, hoperation, hoffered⟩ := ih hmore
        subst htrace hrest
        refine ⟨.again hjudge hdecides, ?_, operation, ?_, hoffered⟩
        · obtain ⟨length, hlength⟩ := Nat.exists_eq_succ_of_ne_zero
            (List.length_pos_iff.mpr hdecides.ne_nil).ne'
          show .call :: .pause (retryPause (attempts + 1)) :: more.map step =
            attemptSteps attempts ((replies more).length + 1)
          rw [hsteps, hlength]
          rfl
        · show AIRuntime.operation request (some policy) execution
            (usage tokens (reply :: replies more)) = .ok operation
          exact (congrArg (AIRuntime.operation request (some policy) execution)
            (usage_cons tokens reply _)).trans hoperation

end Loop

/-! ## What the answers decide -/

section Decided

variable [PythonText] [PythonFormat] {runtime : AIRuntime} {request : AIRequest}
  {policy : ModelPolicy} {retries attempts : ℕ}
  {replies : List (Except AIException ProviderResponse)} {execution : AIExecution}

theorem Decides.attempts_eq (h : runtime.Decides request policy retries attempts replies execution) :
    execution.attempts = attempts + replies.length := by
  induction h with
  | accepted => rfl
  | degraded => rfl
  | again _ _ ih =>
      rw [ih, List.length_cons]
      omega

theorem Decides.length_le (h : runtime.Decides request policy retries attempts replies execution) :
    replies.length ≤ retries + 1 := by
  induction h with
  | accepted | degraded =>
      rw [List.length_singleton]
      omega
  | again _ _ ih =>
      rw [List.length_cons]
      omega

/-- Every answer but the last allows another attempt. -/
theorem Decides.retried (h : runtime.Decides request policy retries attempts replies execution) :
    ∀ reply ∈ replies.dropLast, ∃ failure, runtime.judge request policy reply =
      .error (failure, true) := by
  induction h with
  | accepted | degraded => exact fun _ hmem => absurd hmem List.not_mem_nil
  | again hjudge hrest ih =>
      intro reply hmem
      rw [List.dropLast_cons_of_ne_nil hrest.ne_nil] at hmem
      rcases List.mem_cons.mp hmem with hfirst | hlater
      · rw [hfirst]
        exact ⟨_, hjudge⟩
      · exact ih reply hlater

/-- The last answer is the one the execution tells of. -/
theorem Decides.last (h : runtime.Decides request policy retries attempts replies execution) :
    ∃ reply ∈ replies.getLast?,
      (runtime.judge request policy reply = .ok execution.result ∧
        execution.status = .success ∧ execution.failureCode = none) ∨
      ∃ failure retryable, runtime.judge request policy reply = .error (failure, retryable) ∧
        (retryable = true → replies.length = retries + 1) ∧
        fallbackResult request = .ok execution.result ∧ execution.status = .fallback ∧
        execution.failureCode = some failure := by
  induction h with
  | accepted hjudge => exact ⟨_, rfl, .inl ⟨hjudge, rfl, rfl⟩⟩
  | degraded hjudge hlast hresult =>
      refine ⟨_, rfl, .inr ⟨_, _, hjudge, fun hretryable => ?_, hresult, rfl, rfl⟩⟩
      rw [hlast hretryable, List.length_singleton]
  | again _ hrest ih =>
      obtain ⟨reply, hreply, hsettled⟩ := ih
      refine ⟨reply, ?_, hsettled.imp_right ?_⟩
      · rw [List.getLast?_cons, Option.mem_def.mp hreply]
        rfl
      · rintro ⟨failure, retryable, hjudge, hlength, hresult⟩
        refine ⟨failure, retryable, hjudge, fun hretryable => ?_, hresult⟩
        rw [List.length_cons, hlength hretryable]

end Decided

/-! ## What an execution that returns tells -/

section Accounts

variable [PythonText] [PythonFormat] (runtime : AIRuntime) (request : AIRequest)

/-- The policy an execution goes by. -/
def governing : Option ModelPolicy :=
  if runtime.enabled then runtime.policies request.task else none

/-- What the status, the result and the failure of an execution say is so. -/
def Settled (trace : AITrace) (execution : AIExecution) : Prop :=
  match execution.status with
  | .success =>
      execution.failureCode = none ∧
        ∃ policy ∈ runtime.governing request, ∃ reply ∈ trace.replies.getLast?,
          runtime.judge request policy reply = .ok execution.result
  | .fallback =>
      fallbackResult request = .ok execution.result ∧ runtime.enabled = true ∧
        (trace.replies = [] ∧ execution.failureCode = some .policyInvalid ∨
        ∃ policy ∈ runtime.governing request, ∃ reply ∈ trace.replies.getLast?,
          ∃ failure retryable, runtime.judge request policy reply = .error (failure, retryable) ∧
            (retryable = true → trace.replies.length = policy.maxRetries + 1) ∧
            execution.failureCode = some failure)
  | .disabled =>
      fallbackResult request = .ok execution.result ∧ runtime.enabled = false ∧
        execution.failureCode = some .disabled
  | .cancelled => False

/-- The account of an execution that has returned. -/
structure Accounted [DecimalContext] (trace : AITrace) (execution : AIExecution) : Prop where
  attempts : execution.attempts = trace.replies.length
  /-- Without a policy, no provider is called. -/
  budget : trace.replies.length ≤ ((runtime.governing request).map (·.maxRetries + 1)).getD 0
  retried : ∀ reply ∈ trace.replies.dropLast, ∃ policy ∈ runtime.governing request, ∃ failure,
    runtime.judge request policy reply = .error (failure, true)
  /-- The calls, with the growing pauses between them, and the record after them. -/
  steps : trace.map AITrace.step = AITrace.attemptSteps 0 trace.replies.length
  settled : runtime.Settled request trace execution
  recorded : ∃ operation, AIRuntime.operation request (runtime.governing request) execution
    (usage (0, 0) trace.replies) = .ok operation ∧ trace.offered = [operation]

variable {runtime request} [DecimalContext] {trace : AITrace} {execution : AIExecution}

/-- A fallback before any attempt has only its record to show. -/
theorem Accounted.of_refused {operation : AIOperationRecord} {answer : Except AIException Unit}
    {result : AIResult} (henabled : runtime.enabled = true)
    (hresult : fallbackResult request = .ok result)
    (hoperation : AIRuntime.operation request (runtime.governing request)
      { status := .fallback, result, failureCode := some .policyInvalid, attempts := 0 } (0, 0) =
        .ok operation) :
    runtime.Accounted request [⟨.record operation, answer⟩]
      { status := .fallback, result, failureCode := some .policyInvalid, attempts := 0 } where
  attempts := rfl
  budget := Nat.zero_le _
  retried := fun _ hmem => absurd hmem List.not_mem_nil
  steps := rfl
  settled := ⟨hresult, henabled, .inl ⟨rfl, rfl⟩⟩
  recorded := ⟨operation, hoperation, rfl⟩

theorem accounted_of_attempts {policy : ModelPolicy} {asked : ProviderRequest}
    (henabled : runtime.enabled = true) (hpolicy : runtime.governing request = some policy)
    (h : (attemptLoop runtime request policy asked policy.maxRetries 0 (0, 0)).Dialogue trace
      (.ok execution)) : runtime.Accounted request trace execution := by
  obtain ⟨hdecides, hsteps, operation, hoperation, hoffered⟩ := attemptLoop_returned h
  refine
    { attempts := hdecides.attempts_eq.trans (Nat.zero_add _)
      budget := ?_
      retried := ?_
      steps := hsteps
      settled := ?_
      recorded := ⟨operation, by rw [hpolicy]; exact hoperation, hoffered⟩ }
  · rw [hpolicy]
    exact hdecides.length_le
  · intro reply hmem
    obtain ⟨failure, hjudge⟩ := hdecides.retried reply hmem
    exact ⟨policy, hpolicy, failure, hjudge⟩
  · obtain ⟨reply, hreply, ⟨hjudge, hstatus, hfailure⟩ |
      ⟨failure, retryable, hjudge, hlength, hresult, hstatus, hfailure⟩⟩ := hdecides.last
    · unfold Settled
      rw [hstatus]
      exact ⟨hfailure, policy, hpolicy, reply, hreply, hjudge⟩
    · unfold Settled
      rw [hstatus]
      exact ⟨hresult, henabled, .inr ⟨policy, hpolicy, reply, hreply, failure, retryable, hjudge,
        hlength, hfailure⟩⟩

/-- What an execution comes down to. -/
theorem execute_cases {outcome : Except AIException AIExecution}
    (h : (runtime.execute request).Dialogue trace outcome) :
    (runtime.enabled = false ∧
      (degraded request none .disabled .disabled 0 (0, 0)).Dialogue trace outcome) ∨
    runtime.enabled = true ∧
      ((fallback request (runtime.governing request) .policyInvalid 0 (0, 0)).Dialogue trace
        outcome ∨
      ∃ policy, runtime.governing request = some policy ∧
        ((∃ asked, (attemptLoop runtime request policy asked policy.maxRetries 0 (0, 0)).Dialogue
          trace outcome) ∨
        ∃ prompt error, runtime.prompts policy.promptId policy.promptVersion = some prompt ∧
          prompt.render request.promptVariables = .error error ∧ (∀ message, error ≠ .value message) ∧
          outcome = .error error)) := by
  unfold execute at h
  split at h
  · rename_i hdisabled
    exact .inl ⟨hdisabled, h⟩
  · rename_i hnotDisabled
    have henabled : runtime.enabled = true := Bool.not_eq_false _ ▸ hnotDisabled
    have hgoverning : runtime.governing request = runtime.policies request.task := if_pos henabled
    refine .inr ⟨henabled, ?_⟩
    rw [hgoverning]
    split at h
    · rename_i hpolicy
      rw [hpolicy]
      exact .inl h
    · rename_i policy hpolicy
      rw [hpolicy]
      split at h
      · exact .inl h
      · rename_i prompt hprompt
        split at h
        · split at h
          · exact .inr ⟨policy, rfl, .inl ⟨_, h⟩⟩
          · exact .inl h
          · exact .inl h
          · rename_i error hvalue _ hrender
            exact .inr ⟨policy, rfl, .inr ⟨prompt, error, hprompt, hrender, hvalue,
              (Program.dialogue_raise_iff.mp h).2⟩⟩
        · exact .inl h

theorem accounted_of_dialogue (h : (runtime.execute request).Dialogue trace (.ok execution)) :
    runtime.Accounted request trace execution := by
  rcases execute_cases h with ⟨hdisabled, hended⟩ | ⟨henabled, hrefused |
    ⟨policy, hpolicy, ⟨asked, hattempts⟩ | ⟨_, _, _, _, _, houtcome⟩⟩⟩
  · obtain ⟨result, operation, answer, hresult, hexecution, hoperation, htrace⟩ :=
      degraded_returned hended
    subst htrace hexecution
    have hnone : runtime.governing request = none :=
      if_neg (Bool.eq_false_iff.mp hdisabled)
    exact
      { attempts := rfl
        budget := Nat.zero_le _
        retried := fun _ hmem => absurd hmem List.not_mem_nil
        steps := rfl
        settled := ⟨hresult, hdisabled, rfl⟩
        recorded := ⟨operation, by rw [hnone]; exact hoperation, rfl⟩ }
  · obtain ⟨result, operation, answer, hresult, hexecution, hoperation, htrace⟩ :=
      degraded_returned hrefused
    subst htrace hexecution
    exact .of_refused henabled hresult hoperation
  · exact accounted_of_attempts henabled hpolicy hattempts
  · cases houtcome

/-- Whatever the provider and the telemetry answer, and however the pauses end: an execution
that returns tells how often it called the provider and what the last answer came to, has
stayed within the retries of its policy and is recorded once. -/
theorem execute_accounted (runtime : AIRuntime) (request : AIRequest) :
    (runtime.execute request).Always fun trace outcome =>
      ∀ execution, outcome = .ok execution → runtime.Accounted request trace execution := by
  intro trace outcome h execution houtcome
  rw [houtcome] at h
  exact accounted_of_dialogue h

end Accounts

/-! ## What an execution raises -/

section Raising

variable [PythonText] [DecimalContext] {request : AIRequest}
  {policy : ModelPolicy} {attempts : ℕ} {tokens : TokenUsage} {trace : AITrace}
  {error : AIException}

/-- A policy whose executions can always be recorded. -/
def Priced (policy : Option ModelPolicy) : Prop :=
  ∀ tokens, ∃ amount ∈ cost policy tokens, NonnegativeDecimal amount

omit [PythonText] in
theorem priced_none : Priced none := fun _ => ⟨Decimal.ofInt 0, rfl, by decide⟩

theorem Priced.operation_ok {policy : Option ModelPolicy} (h : Priced policy)
    (execution : AIExecution) (tokens : TokenUsage) :
    ∃ operation, AIRuntime.operation request policy execution tokens = .ok operation := by
  obtain ⟨amount, hamount, hnonnegative⟩ := h tokens
  unfold AIRuntime.operation
  rw [Option.mem_def.mp hamount]
  exact ⟨_, dif_pos hnonnegative⟩

/-- With a value to fall back to, a fallback raises only when it is cancelled. -/
theorem not_undisturbed_of_degraded {policy : Option ModelPolicy} {status : AICompletionStatus}
    {failure : AIFailureCode} {result : AIResult} (hresult : fallbackResult request = .ok result)
    (hpriced : Priced policy)
    (h : (degraded request policy status failure attempts tokens).Dialogue trace (.error error)) :
    ¬ trace.Undisturbed := by
  rcases degraded_raised h with hmissing | ⟨execution, hmissing⟩ | ⟨_, hdisturbed⟩
  · rw [hresult] at hmissing
    cases hmissing
  · obtain ⟨operation, hoperation⟩ :
        ∃ operation, AIRuntime.operation request policy execution tokens = .ok operation :=
      hpriced.operation_ok execution tokens
    rw [hoperation] at hmissing
    cases hmissing
  · exact hdisturbed

/-- A failure that is no cancellation raises only when a pause or a later attempt does. -/
theorem not_undisturbed_of_recover {again : Option (AIProgram AIExecution)} {result : AIResult}
    {raised : AIException} (hresult : fallbackResult request = .ok result)
    (hpriced : Priced (some policy)) (hcancelled : raised ≠ .cancelled)
    (hagain : ∀ next ∈ again, ∀ rest, next.Dialogue rest (.error error) → ¬ Undisturbed rest)
    (h : (recover request policy attempts tokens again raised).Dialogue trace (.error error)) :
    ¬ trace.Undisturbed := by
  rw [recover_eq hcancelled] at h
  split at h
  · rename_i next hretryable
    rcases Program.dialogue_bind_iff.mp h with ⟨_, front, back, htrace, hsleep, hrest⟩ |
      ⟨answered, _, hsleep⟩
    · rw [htrace]
      exact fun hundisturbed => hagain next rfl back hrest (hundisturbed.mono
        (List.subset_append_right front back))
    · rw [Program.dialogue_perform_iff.mp hsleep]
      exact fun hundisturbed => hundisturbed.2 _ answered List.mem_cons_self
  · exact not_undisturbed_of_degraded hresult hpriced h
  · exact not_undisturbed_of_degraded hresult hpriced h

variable [PythonFormat] {runtime : AIRuntime}

/-- The configuration raises nothing of its own: prompts are refused with `ValueError`, costs
can be computed and the business rules do not cancel. -/
structure Sound (runtime : AIRuntime) : Prop where
  renders : ∀ identifier version, ∀ prompt ∈ runtime.prompts identifier version,
    ∀ values error, prompt.render values = .error error → ∃ message, error = .value message
  priced : ∀ task, ∀ policy ∈ runtime.policies task, Priced (some policy)
  uncancelled : ∀ validate ∈ runtime.businessValidator, ∀ request result,
    validate request result ≠ .error .cancelled

theorem not_undisturbed_of_turn {again : Option (TokenUsage → AIProgram AIExecution)}
    {asked : ProviderRequest} {result : AIResult} (hresult : fallbackResult request = .ok result)
    (hpriced : Priced (some policy))
    (haccept : ∀ response, runtime.accept request policy response ≠ .error .cancelled)
    (hagain : ∀ next ∈ again, ∀ tokens rest, (next tokens).Dialogue rest (.error error) →
      ¬ Undisturbed rest)
    (h : (turn runtime request policy asked attempts tokens again).Dialogue trace
      (.error error)) : ¬ trace.Undisturbed := by
  have hlater : ∀ tokens, ∀ next ∈ again.map (· tokens), ∀ rest,
      next.Dialogue rest (.error error) → ¬ Undisturbed rest := by
    intro tokens next hnext
    obtain ⟨other, hother, hsame⟩ := Option.mem_map.mp hnext
    rw [← hsame]
    exact hagain other hother tokens
  obtain ⟨reply, rest, htrace, hrest⟩ := Program.dialogue_call_iff.mp h
  intro hundisturbed
  rw [htrace] at hundisturbed
  cases reply with
  | error raised =>
      have hcancelled : raised ≠ .cancelled := fun hcancelled =>
        hundisturbed.1 _ List.mem_cons_self (congrArg Except.error hcancelled)
      exact not_undisturbed_of_recover hresult hpriced hcancelled (hlater tokens) hrest
        (hundisturbed.mono (List.subset_cons_self _ _))
  | ok response =>
      have hundisturbed := hundisturbed.mono (List.subset_cons_self _ rest)
      rcases Program.dialogue_catchError_iff.mp hrest with ⟨value, hvalue, _⟩ |
        ⟨raised, front, back, hsplit, hconclude, hrecover⟩
      · cases hvalue
      · rw [hsplit] at hundisturbed
        have hcancelled : raised ≠ .cancelled := by
          rcases conclude_raised hconclude with ⟨_, haccepted⟩ | hmissing | ⟨execution, hmissing⟩ |
            ⟨_, hdisturbed⟩
          · exact fun hcancelled => haccept response (hcancelled ▸ haccepted)
          · exact (fallbackResult_failure hmissing).1
          · exact (operation_failure hmissing).1
          · exact absurd (hundisturbed.mono (List.subset_append_left front back)) hdisturbed
        exact not_undisturbed_of_recover hresult hpriced hcancelled (hlater _) hrecover
          (hundisturbed.mono (List.subset_append_right front back))

theorem not_undisturbed_of_attemptLoop {retries : ℕ} {asked : ProviderRequest} {result : AIResult}
    (hresult : fallbackResult request = .ok result) (hpriced : Priced (some policy))
    (haccept : ∀ response, runtime.accept request policy response ≠ .error .cancelled)
    (h : (attemptLoop runtime request policy asked retries attempts tokens).Dialogue trace
      (.error error)) : ¬ trace.Undisturbed := by
  induction retries generalizing attempts tokens trace with
  | zero => exact not_undisturbed_of_turn hresult hpriced haccept (fun _ hnone => absurd hnone (Option.not_mem_none _)) h
  | succ retries ih =>
      refine not_undisturbed_of_turn hresult hpriced haccept ?_ h
      intro next hnext tokens rest hrest
      cases hnext
      exact ih hrest

/-- A sound configuration has nothing to cancel a response with. -/
theorem Sound.accept_ne_cancelled (h : runtime.Sound) (response : ProviderResponse) :
    runtime.accept request policy response ≠ .error .cancelled := by
  have hread : RaisesOnly (· ≠ .cancelled) (parseResult request response.output) := by
    intro error hparse hcancelled
    rw [hcancelled] at hparse
    exact raisesOnly_parseResult request response.output _ hparse
  have hrefused : RaisesOnly (· ≠ .cancelled) (runtime.accept request policy response) := by
    by_cases hmismatch : response.provider ≠ policy.provider ∨ response.model ≠ policy.model
    · rw [accept, if_pos hmismatch]
      exact .error (nomatch ·)
    · rw [accept, if_neg hmismatch]
      refine hread.bind fun result => ?_
      cases hvalidator : runtime.businessValidator with
      | none => exact .ok result
      | some validate =>
          refine RaisesOnly.bind (fun error hvalidate hcancelled => ?_) fun _ => .ok result
          exact h.uncancelled validate hvalidator request result (hcancelled ▸ hvalidate)
  exact fun hcancelled => hrefused .cancelled hcancelled rfl

/-- With a value to fall back to, an execution raises only when it is cancelled. -/
theorem not_undisturbed_of_execute {result : AIResult} (h : runtime.Sound)
    (hresult : fallbackResult request = .ok result)
    (hraised : (runtime.execute request).Dialogue trace (.error error)) :
    ¬ trace.Undisturbed := by
  have hpriced : Priced (runtime.governing request) := by
    unfold governing
    split
    · cases hpolicy : runtime.policies request.task with
      | none => exact priced_none
      | some policy => exact h.priced request.task policy hpolicy
    · exact priced_none
  rcases execute_cases hraised with ⟨_, hended⟩ | ⟨_, hrefused |
    ⟨policy, hpolicy, ⟨asked, hattempts⟩ | ⟨prompt, raised, hprompt, hrender, hother, _⟩⟩⟩
  · exact not_undisturbed_of_degraded hresult priced_none hended
  · exact not_undisturbed_of_degraded hresult hpriced hrefused
  · exact not_undisturbed_of_attemptLoop hresult (hpolicy ▸ hpriced) h.accept_ne_cancelled hattempts
  · obtain ⟨message, hmessage⟩ := h.renders _ _ prompt hprompt _ raised hrender
    exact absurd hmessage (hother message)

/-- Surroundings whose provider fails for good. -/
def failing (_ : ℕ) : (call : AICall) → Except AIException call.Reply
  | .execute _ _ _ => .error .other
  | .record _ | .sleep _ => .ok ()

omit [DecimalContext] [PythonFormat] in
theorem undisturbed_failing (program : AIProgram AIExecution) :
    Undisturbed (program.converse failing 0).1 := by
  have hanswers := Program.converse_answers failing 0 program
  refine ⟨fun exchange hmem => ?_, fun delay error hmem => ?_⟩
  · obtain ⟨turn, hanswer⟩ := hanswers exchange hmem
    rw [hanswer]
    cases exchange.1 with
    | execute | record | sleep => nofun
  · obtain ⟨turn, hanswer⟩ := hanswers _ hmem
    cases hanswer

/-- A provider that fails leaves nothing but the fallback. -/
theorem fallbackResult_of_failing {execution : AIExecution}
    (h : ((runtime.execute request).converse failing 0).2 = .ok execution) :
    fallbackResult request = .ok execution.result := by
  have hdialogue := Program.dialogue_converse failing 0 (runtime.execute request)
  rw [h] at hdialogue
  have hsettled : runtime.Settled request _ execution := (accounted_of_dialogue hdialogue).settled
  unfold Settled at hsettled
  split at hsettled
  · obtain ⟨_, policy, _, reply, hreply, hjudge⟩ := hsettled
    obtain ⟨⟨call, answer⟩, hmem, hexchange⟩ :=
      List.mem_filterMap.mp (List.mem_of_getLast? hreply)
    obtain ⟨turn, hanswer⟩ := Program.converse_answers failing 0 _ _ hmem
    cases call with
    | execute =>
        cases hexchange
        cases hanswer
        cases hjudge
    | record | sleep => cases hexchange
  · exact hsettled.1
  · exact hsettled.1
  · exact hsettled.elim

/-- An execution of a sound configuration that nothing cancels always returns, except that a
text too long for a rewrite is no value to fall back to. -/
theorem execute_returns_iff (hsound : runtime.Sound)
    (hidentifier : PythonText.isidentifier "deterministic_fallback".toList = true) :
    ((runtime.execute request).Always fun trace outcome =>
      Undisturbed trace → ∃ execution, outcome = .ok execution) ↔
      ¬ (request.task = .rewrite ∧ 2000 < request.inputText.length) := by
  rw [← fallbackResult_missing_iff hidentifier]
  constructor
  · rintro h ⟨error, hmissing⟩
    obtain ⟨execution, hexecution⟩ := h _ _
      (Program.dialogue_converse failing 0 (runtime.execute request)) (undisturbed_failing _)
    rw [fallbackResult_of_failing hexecution] at hmissing
    cases hmissing
  · intro hpresent trace outcome hdialogue hundisturbed
    cases outcome with
    | ok execution => exact ⟨execution, rfl⟩
    | error error =>
        cases hresult : fallbackResult request with
        | ok result =>
            exact absurd hundisturbed (not_undisturbed_of_execute hsound hresult hdialogue)
        | error missing => exact absurd ⟨missing, hresult⟩ hpresent

end Raising

end AIRuntime

/-! ## A runtime of one policy -/

namespace SmallExecution

open Ascii

/-- Templates without braces, which have no fields and are formatted as they stand. -/
scoped instance plainFormat : PythonFormat where
  fieldNames template := if '\x7b' ∈ template ∨ '\x7d' ∈ template then none else some []
  formatMap template _ :=
    if '\x7b' ∈ template ∨ '\x7d' ∈ template then
      .error (.value "Single brace encountered in format string")
    else .ok template

/-- Exact products, sums of numbers of one exponent and quotients of zero. -/
scoped instance exactly : DecimalContext where
  multiply
    | .finite negative first exponent, .finite negative' second exponent' =>
        some (.finite (negative != negative') (first * second) (exponent + exponent'))
    | _, _ => none
  add
    | .finite negative first exponent, .finite negative' second exponent' =>
        if negative = negative' ∧ exponent = exponent' then
          some (.finite negative (first + second) exponent)
        else none
    | _, _ => none
  divide
    | .finite negative 0 exponent, .finite negative' (_ + 1) exponent' =>
        some (.finite (negative != negative') 0 (exponent - exponent'))
    | _, _ => none

theorem policy_named : ¬ Text.Blank "openai".toList ∧ ¬ Text.Blank "small".toList ∧
    ¬ Text.Blank "rewrite-v1".toList := by decide

theorem policy_retries : (1 : ℚ) / 100 ≤ 8 ∧ (8 : ℚ) ≤ 120 ∧ 2 ≤ 5 := by norm_num

theorem default_temperature : ∀ value ∈ (none : Option ℚ), 0 ≤ value ∧ value ≤ 2 :=
  fun _ hnone => absurd hnone (Option.not_mem_none _)

theorem free : NonnegativeDecimal (Decimal.ofInt 0) ∧ NonnegativeDecimal (Decimal.ofInt 0) := by
  decide

/-- A policy without costs. -/
def policy : ModelPolicy where
  task := .rewrite
  provider := "openai".toList
  model := "small".toList
  promptId := "rewriter".toList
  promptVersion := 1
  schemaId := "rewrite-v1".toList
  temperature := none
  maxOutputTokens := 800
  timeoutSeconds := 8
  maxRetries := 2
  confidenceThreshold := noConfidence
  structuredOutputMode := "strict_json_schema"
  namesPresent := policy_named
  limitsValid := by decide
  retriesValid := policy_retries
  temperatureValid := default_temperature
  modeValid := rfl
  costsValid := free

theorem no_names : ∀ key ∈ ([] : List Text), PythonText.isidentifier key = true :=
  fun _ hmem => absurd hmem List.not_mem_nil

theorem prompt_fields : ∃ names ∈ PythonFormat.fieldNames "Rewrite.".toList,
    (∀ name ∈ names, name ∈ ([] : List Text)) ∧ ∀ name ∈ ([] : List Text), name ∈ names :=
  ⟨[], rfl, fun _ hmem => hmem, fun _ hmem => hmem⟩

def prompt : PromptTemplate where
  identifier := "rewriter".toList
  version := 1
  task := .rewrite
  template := "Rewrite.".toList
  templateVariables := []
  compatibleSchemas := ["rewrite-v1".toList]
  identityValid := by decide
  textPresent := by decide
  variableNames := no_names
  variablesMatch := prompt_fields

def runtime : AIRuntime where
  enabled := true
  policies _ := some policy
  prompts _ _ := some prompt
  resolves _ := true
  businessValidator := none

theorem cost_policy (tokens : TokenUsage) :
    AIRuntime.cost (some policy) tokens = some (.finite false 0 0) := by
  have hsign : ∀ count : ℕ, Decimal.ofInt count = .finite false count 0 := by
    intro count
    rw [Decimal.ofInt, decide_eq_false (Int.not_lt.mpr (Int.natCast_nonneg count))]
    rfl
  rw [AIRuntime.cost]
  simp only [hsign]
  rfl

theorem runtime_sound : runtime.Sound where
  renders := by
    intro identifier version prompt _ values error hrender
    have hvalidated : ∀ (condition : Prop) [Decidable condition] (message : String),
        RaisesOnly (fun error => ∃ message, error = .value message)
          (validated condition message) := raisesOnly_validated fun message => ⟨message, rfl⟩
    have hformat : RaisesOnly (fun error => ∃ message, error = .value message)
        (formatTemplate prompt.template values) := by
      by_cases hbrace : '\x7b' ∈ prompt.template ∨ '\x7d' ∈ prompt.template
      · simp only [formatTemplate, PythonFormat.formatMap, if_pos hbrace]
        exact .error ⟨_, rfl⟩
      · simp only [formatTemplate, PythonFormat.formatMap, if_neg hbrace]
        exact .ok _
    have hrendering : RaisesOnly (fun error => ∃ message, error = .value message)
        (prompt.render values) :=
      (hvalidated _ _).bind fun _ => hformat.bind fun rendered => (hvalidated _ _).bind fun _ =>
        .ok rendered
    exact hrendering error hrender
  priced := by
    intro task given hgiven tokens
    cases hgiven
    exact ⟨_, cost_policy tokens, by decide⟩
  uncancelled := fun _ hnone => absurd hnone (Option.not_mem_none _)

theorem request_text : ¬ Text.Blank "Good evening.".toList ∧
    "Good evening.".toList.length ≤ 8000 := by decide

theorem request_fields : AITask.rewrite = .extraction → ([] : List Text) ≠ [] := by decide

theorem request_labels : AITask.rewrite = .classification → ([] : List Text) ≠ [] := by decide

/-- A request to rewrite a greeting. -/
def request : AIRequest where
  tenantId := 1
  conversationId := none
  correlationId := 2
  task := .rewrite
  inputText := "Good evening.".toList
  promptVariables := []
  allowedExtractionFields := []
  allowedClassificationLabels := []
  inputValid := request_text
  fieldsListed := request_fields
  labelsListed := request_labels
  fieldNames := no_names

theorem request_returns :
    ((runtime.execute request).Always fun trace outcome =>
      AITrace.Undisturbed trace → ∃ execution, outcome = .ok execution) ↔
      ¬ (request.task = .rewrite ∧ 2000 < request.inputText.length) :=
  AIRuntime.execute_returns_iff runtime_sound (by decide)

end SmallExecution

end BusinessAssistant.Application
