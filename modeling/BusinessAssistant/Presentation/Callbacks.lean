/-
# Callback tokens

What the button of a page carries: a version, an action, the id of an entity
perhaps with a page, an expiry and a signature over them, between dots and in at
most 64 bytes. The signature is the digest of the key, the tenant and the text
before it, in base64; which digest is a parameter.
-/

import BusinessAssistant.Domain.Decimal
import BusinessAssistant.Domain.Identifiers
import BusinessAssistant.Foundation.Base64
import Mathlib.Data.List.Infix

namespace BusinessAssistant.Presentation

open BusinessAssistant.Domain BusinessAssistant.Foundation BusinessAssistant.Foundation.Base64

/-! ## Numbers in base 36 -/

def base36Alphabet : Text := "0123456789abcdefghijklmnopqrstuvwxyz".toList

def base36Digit (digit : ℕ) : Char := base36Alphabet.getD digit '0'

/-- The loop of `_base36`. -/
def base36Loop (value : ℕ) (result : Text) : Text :=
  if value = 0 then result else base36Loop (value / 36) (base36Digit (value % 36) :: result)
termination_by value

/-- `_base36` of a number that is not negative; of others it does not return. -/
def base36 (value : ℕ) : Text := if value = 0 then ['0'] else base36Loop value []

/-- The value of a digit that `int(value, 36)` reads. -/
def base36Value? (char : Char) : Option ℕ :=
  if '0' ≤ char ∧ char ≤ '9' then some (char.toNat - '0'.toNat)
  else if 'a' ≤ char ∧ char ≤ 'z' then some (char.toNat - 'a'.toNat + 10)
  else if 'A' ≤ char ∧ char ≤ 'Z' then some (char.toNat - 'A'.toNat + 10)
  else none

/-- A number from its digits, most significant first. -/
def base36Number (start : ℕ) (digits : Text) : ℕ :=
  digits.foldl (fun value char => value * 36 + (base36Value? char).getD 0) start

/-- The whitespace among the ASCII characters that `int` passes over. -/
def isAsciiSpace (char : Char) : Bool := char = ' ' || (9 ≤ char.toNat && char.toNat ≤ 13)

/-- A digit, or an underscore between digits. -/
def isBase36Char (char : Char) : Bool := (base36Value? char).isSome || char = '_'

/-- `_from_base36` of an ASCII text, which is `int(value, 36)`: whitespace around
it, a sign, and single underscores between the digits; `none` where it raises. -/
def fromBase36 (value : Text) : Option Int :=
  let signed := Text.takeSign (value.dropWhile isAsciiSpace)
  let digits := signed.2.takeWhile isBase36Char
  let rest := signed.2.dropWhile isBase36Char
  if digits ≠ [] ∧ digits.head? ≠ some '_' ∧ digits.getLast? ≠ some '_' ∧
      ¬ ['_', '_'] <:+: digits ∧ rest.all isAsciiSpace = true then
    let number : Int := base36Number 0 (digits.filter (· ≠ '_'))
    some (if signed.1 then -number else number)
  else none

/-! ## Identifiers in base64 -/

def base64Symbols : Text :=
  "ABCDEFGHIJKLMNOPQRSTUVWXYZabcdefghijklmnopqrstuvwxyz0123456789-_".toList

/-- The value of a character that `urlsafe_b64decode` reads. It puts `+` and `/`
for `-` and `_` and reads what stands there already. -/
def base64Value? (char : Char) : Option (Fin 64) :=
  if char = '+' then some 62
  else if char = '/' then some 63
  else (base64Symbols.findFinIdx? (· = char)).map (Fin.cast rfl)

/-- The alphabet of `urlsafe_b64encode` and `urlsafe_b64decode`. -/
def urlsafe : Alphabet where
  symbol digit := base64Symbols.getD digit 'A'
  value? := base64Value?
  value_symbol := by decide +kernel
  value_pad := by decide +kernel

/-- `value.bytes`, so many of them. -/
def bigEndian : ℕ → ℕ → List Byte
  | 0, _ => []
  | count + 1, value => bigEndian count (value / 256) ++ [Fin.ofNat 256 value]

/-- The number that bytes are. -/
def fromBigEndian (bytes : List Byte) : ℕ := bytes.foldl (fun value byte => value * 256 + byte) 0

/-- `_encode_uuid` -/
def encodeUuid (value : UUID) : Text := unpadded urlsafe (bigEndian 16 value.toNat)

/-- `_decode_uuid`; `none` where it raises. -/
def decodeUuid (value : Text) : Option UUID :=
  (decode urlsafe (value ++ ['=', '='])).bind fun raw =>
    if raw.length = 16 then some (BitVec.ofNat 128 (fromBigEndian raw)) else none

/-! ## Actions -/

inductive CallbackAction
  | home
  | catalog
  | category
  | service
  | hours
  | privacy
  | human
  | cancel
  | book
  | bookService
  | bookDate
  | bookSlot
  | bookConfirm
  | flowCancel
  | myBooking
  | appointmentCancel
  | appointmentCancelConfirm
  | reschedule
  | qualify
  | qualifyConsentAccept
  | qualifyConsentDecline
  | qualifyEdit
  | qualifySubmit
  deriving DecidableEq, Repr

namespace CallbackAction

def value : CallbackAction → Text
  | home => ['h']
  | catalog => ['c', 'a']
  | category => ['c', 't']
  | service => ['s', 'v']
  | hours => ['h', 'r']
  | privacy => ['p', 'r']
  | human => ['h', 'u']
  | cancel => ['c', 'x']
  | book => ['b', 'k']
  | bookService => ['b', 's']
  | bookDate => ['b', 'd']
  | bookSlot => ['b', 't']
  | bookConfirm => ['b', 'c']
  | flowCancel => ['f', 'c']
  | myBooking => ['m', 'b']
  | appointmentCancel => ['a', 'c']
  | appointmentCancelConfirm => ['a', 'x']
  | reschedule => ['r', 's']
  | qualify => ['q', 'f']
  | qualifyConsentAccept => ['q', 'a']
  | qualifyConsentDecline => ['q', 'd']
  | qualifyEdit => ['q', 'e']
  | qualifySubmit => ['q', 's']

def all : List CallbackAction :=
  [home, catalog, category, service, hours, privacy, human, cancel, book, bookService, bookDate,
    bookSlot, bookConfirm, flowCancel, myBooking, appointmentCancel, appointmentCancelConfirm,
    reschedule, qualify, qualifyConsentAccept, qualifyConsentDecline, qualifyEdit, qualifySubmit]

/-- `CallbackAction(value)`; `none` where it raises. -/
def ofValue? (value : Text) : Option CallbackAction := all.find? fun action => action.value = value

def entityActions : List CallbackAction :=
  [category, service, bookService, bookDate, bookSlot, bookConfirm, appointmentCancel,
    appointmentCancelConfirm, reschedule, qualifyConsentAccept, qualifyConsentDecline, qualifyEdit,
    qualifySubmit]

def pagedActions : List CallbackAction := [catalog, category, bookDate, bookSlot, qualifyEdit]

end CallbackAction

/-! ## The codec -/

structure CallbackToken where
  action : CallbackAction
  entityId : Option UUID
  page : Option Int
  deriving DecidableEq

/-- How `encode` fails: it raises, or `_base36` of an expiry before 1970 does not
return. -/
inductive EncodeError
  | raised (message : String)
  | diverges
  deriving DecidableEq

/-- `SignedCallbackCodec`. Its clock is read as whole seconds since 1970. -/
structure SignedCallbackCodec where
  signingKey : Text
  version : Int
  expirySeconds : Int
  hasKey : signingKey ≠ []

def maxCallbackBytes : ℕ := 64

def maxCallbackPage : Int := 46655

/-- `value.isascii()` -/
def isAscii (value : Text) : Bool := value.all fun char => char.toNat < 128

/-- `len(value.encode())` -/
def utf8Length (value : Text) : ℕ := (value.map Char.utf8Size).sum

/-- The part of a token for the entity and the page. -/
def entityPart (entityId : Option UUID) (page : Option Int) : Text :=
  let entity := (entityId.map encodeUuid).getD ['-']
  match page with
  | none => entity
  | some page => entity ++ '~' :: base36 page.toNat

/-- `partition("~")` -/
def partitionPage (text : Text) : Text × Option Text :=
  match text.dropWhile (· ≠ '~') with
  | [] => (text.takeWhile (· ≠ '~'), none)
  | _ :: page => (text.takeWhile (· ≠ '~'), some page)

namespace SignedCallbackCodec

variable (digest : Text → TenantId → Text → List Byte) (codec : SignedCallbackCodec)

/-- `_signature` -/
def signature (tenantId : TenantId) (body : Text) : Text :=
  unpadded urlsafe (digest codec.signingKey tenantId body)

/-- What `encode` signs. -/
def body (now : Int) (action : CallbackAction) (entityId : Option UUID) (page : Option Int) :
    Except EncodeError Text :=
  if ∃ number ∈ page, ¬ (0 ≤ number ∧ number ≤ maxCallbackPage) then
    .error (.raised "Callback page is out of range")
  else
    let expires := now + codec.expirySeconds
    if expires < 0 then .error .diverges
    else
      .ok (['.'].intercalate
        [Text.ofInt codec.version, action.value, entityPart entityId page, base36 expires.toNat])

/-- `encode`, at a reading of the clock. -/
def encode (now : Int) (tenantId : TenantId) (action : CallbackAction) (entityId : Option UUID)
    (page : Option Int) : Except EncodeError Text :=
  (codec.body now action entityId page).bind fun body =>
    let token := body ++ '.' :: codec.signature digest tenantId body
    if utf8Length token > maxCallbackBytes then
      .error (.raised "Callback token exceeds Telegram's limit")
    else .ok token

/-- The page of a token. -/
def readPage : Option Text → Except String (Option Int)
  | none => .ok none
  | some text =>
      match fromBase36 text with
      | none => .error "Callback token has an invalid expiry"
      | some page =>
          if 0 ≤ page ∧ page ≤ maxCallbackPage then .ok (some page)
          else .error "Callback page is out of range"

/-- The entity of a token. -/
def readEntity (text : Text) : Except String (Option UUID) :=
  if text = ['-'] then .ok none
  else
    match decodeUuid text with
    | none => .error "Callback token has an invalid entity"
    | some entityId => .ok (some entityId)

/-- The combinations of an action, an entity and a page. -/
def checked (action : CallbackAction) (entityId : Option UUID) (page : Option Int) :
    Except String CallbackToken :=
  if action ∈ CallbackAction.entityActions ∧ entityId = none then
    .error "Callback entity is required"
  else if action ∉ CallbackAction.entityActions ∧ entityId ≠ none then
    .error "Callback entity is not allowed"
  else if action ∉ CallbackAction.pagedActions ∧ page ≠ none then
    .error "Callback page is not allowed"
  else .ok { action := action, entityId := entityId, page := page }

/-- What `decode` reads of a token with a valid signature. -/
def read (now : Int) (actionText entityText expiryText : Text) : Except String CallbackToken :=
  match CallbackAction.ofValue? actionText, fromBase36 expiryText with
  | none, _ => .error "Callback action is unsupported"
  | some _, none => .error "Callback token has an invalid expiry"
  | some action, some expiry =>
      if expiry ≤ now then .error "Callback token has expired"
      else
        (readPage (partitionPage entityText).2).bind fun page =>
          (readEntity (partitionPage entityText).1).bind fun entityId => checked action entityId page

/-- `decode`, at a reading of the clock. -/
def decode (now : Int) (tenantId : TenantId) (value : Text) : Except String CallbackToken :=
  if isAscii value = false ∨ utf8Length value > maxCallbackBytes then
    .error "Callback token is invalid"
  else
    match value.splitOn '.' with
    | [version, action, entity, expiry, supplied] =>
        if version ≠ Text.ofInt codec.version then .error "Callback token version is unsupported"
        else
          let body := ['.'].intercalate [version, action, entity, expiry]
          if supplied ≠ codec.signature digest tenantId body then
            .error "Callback token signature is invalid"
          else read now action entity expiry
    | _ => .error "Callback token structure is invalid"

end SignedCallbackCodec

end BusinessAssistant.Presentation
