/-
# Handoff data contracts

What a case is created with, what is shown of it, and what staff can do with it.
-/

import BusinessAssistant.Domain.Handoffs
import BusinessAssistant.Domain.Leads

namespace BusinessAssistant.Application

open BusinessAssistant.Domain

/-- What the context of a handoff case holds under a key. -/
inductive ContextValue
  | text (value : Text)
  | texts (values : List Text)
  deriving DecidableEq

structure HandoffView where
  id : HandoffId
  tenantId : TenantId
  customerId : Option CustomerId
  conversationId : ConversationId
  leadId : Option LeadId
  reasonCode : Text
  priority : Text
  status : HandoffStatus
  summary : Text
  context : List (String × ContextValue)
  responseDueAt : Int
  assigneeId : Option Text
  deriving DecidableEq

/-- What a customer or a handler asks a case to be created with. -/
structure HandoffRequest where
  reasonCode : Text
  priority : Text
  summary : Text
  context : List (String × ContextValue)
  leadId : Option LeadId
  responseDueAt : Int
  idempotencyKey : Text
  deriving DecidableEq

/-- What staff can do with a case. -/
inductive HandoffAction
  | claim
  | resolve
  | reopen
  | returnToBot
  deriving DecidableEq, Repr

end BusinessAssistant.Application
