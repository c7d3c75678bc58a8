/-
# Leads

A lead is what a finished qualification leaves to the staff: the answers, the
score that was computed from them with its explanation, and the consent they were
given under. It becomes qualified once it has all of these.
-/

import BusinessAssistant.Domain.Errors
import BusinessAssistant.Domain.Identifiers
import BusinessAssistant.Domain.Text

namespace BusinessAssistant.Domain

abbrev LeadId := UUID

inductive LeadStatus
  | new
  | qualifying
  | qualified
  | contacted
  | converted
  | unqualified
  | closed
  deriving DecidableEq, Repr

namespace LeadStatus

def value : LeadStatus → String
  | new => "new"
  | qualifying => "qualifying"
  | qualified => "qualified"
  | contacted => "contacted"
  | converted => "converted"
  | unqualified => "unqualified"
  | closed => "closed"

/-- `_TRANSITIONS[status]` -/
def transitions : LeadStatus → List LeadStatus
  | new => [qualifying, unqualified, closed]
  | qualifying => [qualified, unqualified, closed]
  | qualified => [contacted, closed]
  | contacted => [converted, closed]
  | converted => [closed]
  | unqualified => [qualifying, closed]
  | closed => [qualifying]

end LeadStatus

inductive LeadPriority
  | low
  | normal
  | high
  | urgent
  deriving DecidableEq, Repr

def LeadPriority.value : LeadPriority → String
  | low => "low"
  | normal => "normal"
  | high => "high"
  | urgent => "urgent"

/-- The explanation of a score, as the one caller builds it. -/
structure ScoreExplanation where
  grade : Text
  matchedRules : List Text
  deriving DecidableEq

/-- The snapshot of a qualification, as the one caller builds it. -/
structure QualificationSnapshot (α : Type) where
  schemaCode : Text
  schemaVersion : Int
  answers : List (Text × α)
  deriving DecidableEq

/-- A lead with answers of type `α`. -/
structure Lead (α : Type) where
  id : LeadId
  tenantId : TenantId
  customerId : CustomerId
  conversationId : ConversationId
  schemaCode : Text
  schemaVersion : Int
  source : Text
  answers : List (Text × α)
  status : LeadStatus
  score : Option Int
  priority : Option LeadPriority
  scoreExplanation : Option ScoreExplanation
  consentAt : Option Int
  qualificationSnapshot : Option (QualificationSnapshot α)
  qualifiedAt : Option Int
  /-- Lead schema identity and source are required. -/
  identityPresent : ¬ schemaCode.Blank ∧ 1 ≤ schemaVersion ∧ ¬ source.Blank
  /-- Lead score must be between 0 and 100. -/
  scoreValid : ∀ points ∈ score, 0 ≤ points ∧ points ≤ 100
  deriving DecidableEq

namespace Lead

variable {α : Type} (lead : Lead α)

/-- `lead.transition_to(target)` -/
def transitionTo (target : LeadStatus) : Except DomainError (Lead α) :=
  if target ∈ lead.status.transitions then pure { lead with status := target }
  else throw (.invalidStateTransition "Lead" lead.status.value target.value)

/-- `lead.grant_consent(at)` -/
def grantConsent (instant : Int) : Lead α := { lead with consentAt := some instant }

/-- `lead.apply_deterministic_score(score, priority, explanation)`; the explanation
is never empty. -/
def applyDeterministicScore (score : Int) (priority : LeadPriority)
    (explanation : ScoreExplanation) : Except DomainError (Lead α) :=
  if hscore : 0 ≤ score ∧ score ≤ 100 then
    pure
      { lead with
        score := some score
        priority := some priority
        scoreExplanation := some explanation
        scoreValid := by
          intro points hpoints
          cases hpoints
          exact hscore }
  else throw (.validation "Lead score must be between 0 and 100")

/-- `lead.qualify(snapshot=snapshot, qualified_at=qualified_at)` -/
def qualify (snapshot : QualificationSnapshot α) (qualifiedAt : Int) :
    Except DomainError (Lead α) :=
  if lead.consentAt = none ∨ lead.score = none ∨ lead.priority = none then
    throw (.validation "Lead requires consent and deterministic scoring before qualification")
  else do
    let qualified ← lead.transitionTo .qualified
    pure
      { qualified with
        qualificationSnapshot := some snapshot
        qualifiedAt := some qualifiedAt }

end Lead

end BusinessAssistant.Domain
