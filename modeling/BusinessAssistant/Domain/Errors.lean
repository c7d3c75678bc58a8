/-
# Errors of the domain model

The exceptions the domain classes raise, with what their texts are built from.
They are not `ValueError`s: a caller that catches those lets these through.
-/

import BusinessAssistant.Foundation.Members
import Mathlib.Logic.Basic

namespace BusinessAssistant.Domain

inductive DomainError
  | validation (message : String)
  | invalidStateTransition (aggregate current target : String)
  deriving DecidableEq, Repr

namespace DomainError

def code : DomainError → String
  | validation _ => "domain.validation"
  | invalidStateTransition _ _ _ => "domain.invalid_state_transition"

def message : DomainError → String
  | validation message => message
  | invalidStateTransition aggregate current target =>
      aggregate ++ " cannot transition from " ++ current ++ " to " ++ target

end DomainError

end BusinessAssistant.Domain
