/-
# Privacy data contracts

What a privacy operation reports.
-/

import BusinessAssistant.Domain.Identifiers

namespace BusinessAssistant.Application

open BusinessAssistant.Domain

structure PrivacyResult where
  actionId : UUID
  actionType : String
  policyVersion : Nat
  counts : List (String × Nat)
  replayed : Bool
  deriving DecidableEq

end BusinessAssistant.Application
