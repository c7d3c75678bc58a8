/-
# The booking state machine

The domain's own table of status changes. The persistence layer never calls it;
what it writes by hand is compared with this table.
-/

import BusinessAssistant.Foundation.Members
import Mathlib.Logic.Basic

namespace BusinessAssistant.Domain

inductive BookingStatus
  | draft
  | held
  | confirmed
  | completed
  | cancelled
  | noShow
  | reschedulePending
  | expired
  deriving DecidableEq, Repr

namespace BookingStatus

def value : BookingStatus → String
  | draft => "draft"
  | held => "held"
  | confirmed => "confirmed"
  | completed => "completed"
  | cancelled => "cancelled"
  | noShow => "no_show"
  | reschedulePending => "reschedule_pending"
  | expired => "expired"

/-- `_TRANSITIONS` -/
def transitions : BookingStatus → List BookingStatus
  | draft => [held]
  | held => [confirmed, expired]
  | confirmed => [completed, cancelled, noShow, reschedulePending]
  | reschedulePending => [confirmed, cancelled]
  | completed | cancelled | noShow | expired => []

/-- `transition_to` succeeds. -/
def CanTransition (source target : BookingStatus) : Prop := target ∈ source.transitions

instance : DecidableRel CanTransition := fun source target =>
  inferInstanceAs (Decidable (target ∈ source.transitions))

end BookingStatus

end BusinessAssistant.Domain
