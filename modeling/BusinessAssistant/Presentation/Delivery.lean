/-
# Delivery of pages

`AiogramDeliveryGateway` turns the rows of a message into an inline keyboard: of
at most eight rows and two buttons a row, each with a callback token of its own. A
message that asks for the reply menu is sent with that instead.
-/

import BusinessAssistant.Presentation.CallbackTokens
import BusinessAssistant.Presentation.Messages

namespace BusinessAssistant.Presentation

open BusinessAssistant.Domain BusinessAssistant.Application BusinessAssistant.Foundation.Base64

structure InlineKeyboardButton where
  text : Text
  callbackData : Text
  deriving DecidableEq

/-- How the markup of a page fails: its tokens cannot be written, or a row is no
sequence. -/
inductive DeliveryError
  | token (failure : EncodeError)
  | typeError
  deriving DecidableEq

/-- The gateway: the codec as the settings admit it, and a digest of eight bytes. -/
structure AiogramDeliveryGateway where
  codec : SignedCallbackCodec
  digest : Text → TenantId → Text → List Byte
  versionValid : 1 ≤ codec.version ∧ codec.version ≤ 99
  expiryValid : 30 ≤ codec.expirySeconds ∧ codec.expirySeconds ≤ 86400
  digestLength : ∀ key tenantId body, (digest key tenantId body).length = 8

/-- A reading of the clock: whole seconds from 1970 to the last `datetime`. -/
structure Timestamp where
  seconds : Int
  valid : 0 ≤ seconds ∧ seconds ≤ 253402300799

/-- `REPLY_MENU` -/
def replyMenu : List (List String) :=
  [["Book appointment", "My appointment"], ["Request service", "Human help"],
    ["Services", "Business hours"], ["Privacy", "Help"], ["Cancel"]]

/-- What goes with a message. -/
inductive Markup
  | reply (keyboard : List (List String))
  | inline (keyboard : List (List InlineKeyboardButton))
  deriving DecidableEq

namespace AiogramDeliveryGateway

variable (gateway : AiogramDeliveryGateway) (now : Timestamp) (tenantId : TenantId)

/-- A button with its token. -/
def inlineButton (button : NavigationButton) : Except DeliveryError InlineKeyboardButton :=
  match gateway.codec.encode gateway.digest now.seconds tenantId button.action button.entityId
      button.page with
  | .error failure => .error (.token failure)
  | .ok token => .ok { text := button.label, callbackData := token }

/-- The buttons of a row; `row[:2]` of a button raises. -/
def inlineRow : ButtonRow → Except DeliveryError (List InlineKeyboardButton)
  | .bare _ => .error .typeError
  | .buttons row => (row.take 2).mapM (gateway.inlineButton now tenantId)

/-- `_inline_markup` -/
def inlineMarkup (page : RenderedMessage) :
    Except DeliveryError (Option (List (List InlineKeyboardButton))) :=
  if page.buttonRows = [] then .ok none
  else ((page.buttonRows.take 8).mapM (gateway.inlineRow now tenantId)).map some

/-- The markup that `send` passes on. -/
def sendMarkup (page : RenderedMessage) : Except DeliveryError (Option Markup) :=
  if page.showReplyMenu then .ok (some (.reply replyMenu))
  else (gateway.inlineMarkup now tenantId page).map (·.map .inline)

end AiogramDeliveryGateway

end BusinessAssistant.Presentation
