/-
# Handoff cases

A case asks staff to take a conversation over. Its status follows a table of
transitions; claiming it needs an assignee, reopening it forgets one.
-/

import BusinessAssistant.Domain.Errors
import BusinessAssistant.Domain.Identifiers
import BusinessAssistant.Domain.Text

namespace BusinessAssistant.Domain

abbrev HandoffId := UUID

inductive HandoffStatus
  | queued
  | claimed
  | resolved
  | reopened
  | cancelled
  deriving DecidableEq, Repr

namespace HandoffStatus

def value : HandoffStatus → String
  | queued => "queued"
  | claimed => "claimed"
  | resolved => "resolved"
  | reopened => "reopened"
  | cancelled => "cancelled"

/-- `_TRANSITIONS[status]` -/
def transitions : HandoffStatus → List HandoffStatus
  | queued => [claimed, cancelled]
  | claimed => [resolved, cancelled]
  | resolved => [reopened]
  | reopened => [queued]
  | cancelled => []

end HandoffStatus

inductive HandoffPriority
  | low
  | normal
  | high
  | urgent
  deriving DecidableEq, Repr

namespace HandoffPriority

def value : HandoffPriority → String
  | low => "low"
  | normal => "normal"
  | high => "high"
  | urgent => "urgent"

/-- `HandoffPriority(text)`; `none` where it raises `ValueError`. -/
def ofText? (text : Text) : Option HandoffPriority :=
  [low, normal, high, urgent].find? fun priority => priority.value.toList = text

end HandoffPriority

structure HandoffCase where
  id : HandoffId
  tenantId : TenantId
  conversationId : ConversationId
  reasonCode : Text
  priority : HandoffPriority
  summary : Text
  responseDueAt : Int
  status : HandoffStatus
  assigneeId : Option Text
  reasonAndSummaryPresent : ¬ reasonCode.Blank ∧ ¬ summary.Blank
  claimedHasAssignee : status = .claimed → assigneeId.getD [] ≠ []
  deriving DecidableEq

namespace HandoffCase

/-- `case.transition_to(target, assignee_id=assignee_id)` -/
def transitionTo (case : HandoffCase) (target : HandoffStatus) (assigneeId : Option Text) :
    Except DomainError HandoffCase :=
  if target ∉ case.status.transitions then
    throw (.invalidStateTransition "Handoff" case.status.value target.value)
  else if hclaimed : target = .claimed then
    if hassignee : (assigneeId.getD []).Blank then
      throw (.validation "Claiming a handoff requires an assignee")
    else
      pure
        { case with
          status := target
          assigneeId := assigneeId
          claimedHasAssignee := by
            intro _ hempty
            exact hassignee (by rw [hempty]; rfl) }
  else
    pure
      { case with
        status := target
        assigneeId := if target = .reopened ∨ target = .queued then none else case.assigneeId
        claimedHasAssignee := fun htarget => absurd htarget hclaimed }

/-- A transition that is made is one of the table. -/
theorem transitionTo_ok {case after : HandoffCase} {target : HandoffStatus}
    {assigneeId : Option Text} (hok : case.transitionTo target assigneeId = .ok after) :
    target ∈ case.status.transitions ∧ after.status = target := by
  unfold transitionTo at hok
  by_cases hallowed : target ∈ case.status.transitions
  · rw [if_neg (not_not_intro hallowed)] at hok
    refine ⟨hallowed, ?_⟩
    split at hok
    · split at hok
      · cases hok
      · cases hok
        rfl
    · cases hok
      rfl
  · rw [if_pos hallowed] at hok
    cases hok

end HandoffCase

end BusinessAssistant.Domain
