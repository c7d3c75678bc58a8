/-
# Conversations

The status of a conversation says who answers the customer. The domain class
allows a table of status changes; between the statuses other than closed the
table connects everything, so all it rules out in the long run is to leave a
closed conversation.
-/

import BusinessAssistant.Foundation.Members
import Mathlib.Logic.Relation

namespace BusinessAssistant.Domain

inductive ConversationStatus
  | activeBot
  | handoffQueued
  | humanActive
  | closed
  deriving DecidableEq, Repr

namespace ConversationStatus

/-- `_TRANSITIONS[status]` -/
def transitions : ConversationStatus → List ConversationStatus
  | activeBot => [handoffQueued, closed]
  | handoffQueued => [humanActive, activeBot, closed]
  | humanActive => [activeBot, closed]
  | closed => []

/-- The domain class lets a conversation go from one status to another. -/
def Allows (current target : ConversationStatus) : Prop := target ∈ current.transitions

instance (current target : ConversationStatus) : Decidable (current.Allows target) :=
  inferInstanceAs (Decidable (target ∈ current.transitions))

/-- Reached by a chain of allowed steps. -/
abbrev Leads : ConversationStatus → ConversationStatus → Prop := Relation.ReflTransGen Allows

theorem leads_of_closed {target : ConversationStatus} (hchain : closed.Leads target) :
    target = closed := by
  induction hchain with
  | refl => rfl
  | tail _ hstep ih =>
      rw [ih] at hstep
      cases hstep

/-- An open conversation returns to the bot. -/
theorem leads_activeBot {current : ConversationStatus} (hopen : current ≠ closed) :
    current.Leads activeBot := by
  cases current with
  | activeBot => exact .refl
  | handoffQueued => exact .single (by decide)
  | humanActive => exact .single (by decide)
  | closed => exact absurd rfl hopen

/-- From the bot everything is reached. -/
theorem activeBot_leads (target : ConversationStatus) : activeBot.Leads target := by
  have hqueued : activeBot.Leads handoffQueued := .single (by decide)
  cases target with
  | activeBot => exact .refl
  | handoffQueued => exact hqueued
  | humanActive => exact hqueued.tail (by decide)
  | closed => exact .single (by decide)

/-- What chains of allowed steps reach: from an open conversation everything, from
a closed one nothing else. -/
theorem leads_iff {current target : ConversationStatus} :
    current.Leads target ↔ (current = closed → target = closed) := by
  constructor
  · intro hchain hclosed
    rw [hclosed] at hchain
    exact leads_of_closed hchain
  · intro himp
    by_cases hclosed : current = closed
    · rw [himp hclosed, hclosed]
    · exact (leads_activeBot hclosed).trans (activeBot_leads target)

end ConversationStatus

end BusinessAssistant.Domain
