/-
# Executing workflow transactions

A list of transactions determines the state it leads to. The small shop gets a
configuration for these stores: who its customers are on Telegram, which schedule
answers, and text that is plain ASCII.
-/

import BusinessAssistant.Persistence.Runs
import BusinessAssistant.Persistence.WorkflowServer

namespace BusinessAssistant.Persistence

open BusinessAssistant.Domain BusinessAssistant.Application BusinessAssistant.Foundation

/-- The state one transaction leads to. -/
def WorkflowState.next [PythonText] (cfg : WorkflowCatalogue) (s : WorkflowState)
    (transaction : Transaction) : WorkflowState :=
  (serve cfg transaction.call transaction.env s).2

namespace Shop

/-- Text without characters that need the Unicode tables, and without patterns. -/
scoped instance asciiText : PythonText where
  casefold := List.map Char.toLower
  isidentifier
    | [] => false
    | char :: rest =>
        (char.isAlpha || char = '_') && rest.all fun other => other.isAlphanum || other = '_'
  fullmatch _ _ := none
  strList values :=
    "['".toList ++ ['\'', ',', ' ', '\''].intercalate values ++ "']".toList

/-- The identity of a customer. -/
def identity (customer : Nat) : TelegramIdentity where
  tenantId := tenantId
  customerId := customerId customer
  conversationId := conversationId customer

/-- The tenant answers by its opening hours. -/
def workflowCatalogue : WorkflowCatalogue where
  toCatalogue := catalogue 0 0
  publicProfiles := [{ tenantId := tenantId, scheduleId := scheduleId }]

/-- A conversation with the bot for each of three customers. -/
def conversations : List ConversationRow :=
  [0, 1, 2].map fun customer =>
    { id := conversationId customer
      tenantId := tenantId
      customerId := customerId customer
      status := .activeBot
      activeWorkflow := none }

/-- Before the first transaction. -/
def welcomed : WorkflowState where
  db :=
    { conversations := conversations
      customers := [0, 1, 2].map fun customer =>
        { id := customerId customer
          tenantId := tenantId
          displayName := some "Ann".toList
          phoneRaw := none
          phoneE164 := none
          phoneVerified := false
          email := none
          contactConsentAt := none
          status := .active }
      retentionPolicies := [{ tenantId := tenantId, version := 1 }] }
  clock := 0

theorem welcomed_fresh : welcomed.db.Fresh := by
  decide +kernel

/-- A call made at a time, whose transaction draws an id. -/
def calls (call : WorkflowCall) (now : Int) (newId : Nat) : Transaction where
  call := call
  env := { now := now, serverNow := now, newId := BitVec.ofNat 128 newId }

/-- A customer asks for a person. -/
def asksForHelp (customer : Nat) (key : String) (now : Int) (newId : Nat) : Transaction :=
  calls
    (.createOrGet (identity customer)
      { reasonCode := "explicit_request".toList
        priority := "normal".toList
        summary := "Customer asks for a person.".toList
        context := []
        leadId := none
        responseDueAt := now
        idempotencyKey := key.toList }
      now)
    now newId

/-- Staff act on the case with an id. -/
def acts (action : HandoffAction) (case : Nat) (now : Int) : Transaction :=
  calls (.transition tenantId (BitVec.ofNat 128 case) action "staff".toList) now 0

end Shop

end BusinessAssistant.Persistence
