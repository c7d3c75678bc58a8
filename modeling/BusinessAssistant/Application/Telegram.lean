/-
# Telegram identities and updates

The identity an update was resolved to, by which every operation of a customer is
scoped, and what claiming an update for processing can give.
-/

import BusinessAssistant.Domain.Decimal
import BusinessAssistant.Domain.Identifiers

namespace BusinessAssistant.Application

open BusinessAssistant.Domain

/-- The bot an application serves, and the tenant it serves it for. -/
structure TelegramBotBinding where
  botId : Int
  tenantId : TenantId
  botIdPositive : 0 < botId

structure TelegramIdentity where
  tenantId : TenantId
  customerId : CustomerId
  conversationId : ConversationId
  deriving DecidableEq, Repr

/-- What `ResolveTelegramIdentity.execute` lets through, with its reading of the clock. -/
structure ResolveRequest where
  tenantId : TenantId
  userId : Nat
  chatId : Int
  now : Int
  userPositive : 0 < userId
  chatNonzero : chatId ≠ 0
  deriving DecidableEq

namespace ResolveRequest

variable (request : ResolveRequest)

/-- `str(external_user_id)` -/
def externalUserId : Text := Text.ofNat request.userId

/-- `str(external_chat_id)` -/
def externalChatId : Text :=
  if request.chatId < 0 then '-' :: Text.ofNat request.chatId.natAbs
  else Text.ofNat request.chatId.natAbs

end ResolveRequest

inductive TelegramUpdateClaimResult
  | first
  | retry
  | duplicate
  | inProgress
  deriving DecidableEq, Repr

/-- The outcome of claiming an update: how often it has been tried, and since when it is
being processed. -/
structure TelegramUpdateClaim where
  result : TelegramUpdateClaimResult
  attempts : Nat
  claimedAt : Int
  deriving DecidableEq, Repr

end BusinessAssistant.Application
