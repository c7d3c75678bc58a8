/-
# Messages and their buttons

A message of the bot is an HTML text with rows of buttons. Here are its parts and
what the page functions share: the escaping of stored values, the making of a
button, and dates in English. The names of days and months are those of the C
locale.
-/

import BusinessAssistant.Application.Errors
import BusinessAssistant.Domain.Calendar
import BusinessAssistant.Domain.Decimal
import BusinessAssistant.Domain.Time
import BusinessAssistant.Presentation.Callbacks

namespace BusinessAssistant.Presentation

open BusinessAssistant.Domain BusinessAssistant.Application

/-! ## Messages -/

structure NavigationButton where
  label : Text
  action : CallbackAction
  entityId : Option UUID
  page : Option Int
  deriving DecidableEq

/-- What stands in the place of a row: the source declares rows of buttons, and one
page puts a button there itself. -/
inductive ButtonRow
  | buttons (row : List NavigationButton)
  | bare (button : NavigationButton)
  deriving DecidableEq

structure RenderedMessage where
  text : Text
  buttonRows : List ButtonRow := []
  showReplyMenu : Bool := false
  deriving DecidableEq

/-- How a page function raises: an exception of the application, or a time zone that
is not found. -/
inductive RenderError
  | raised (failure : Failure)
  | zoneNotFound
  deriving DecidableEq

/-- `TELEGRAM_TEXT_LIMIT` -/
def telegramTextLimit : ℕ := 4096

/-- `SAFE_TEXT_LIMIT` -/
def safeTextLimit : ℕ := 4000

/-- `PAGE_SIZE` -/
def pageSize : ℕ := 6

/-- A page that a callback token carries. -/
abbrev CallbackPage := Fin 46656

/-- `_safe`: `html.escape` without the quotes. -/
def safe (value : Text) : Text :=
  value.flatMap fun char =>
    if char = '&' then "&amp;".toList
    else if char = '<' then "&lt;".toList
    else if char = '>' then "&gt;".toList
    else [char]

/-- `_button` -/
def button (label : Text) (action : CallbackAction) (entityId : Option UUID := none)
    (page : Option Int := none) : NavigationButton :=
  { label := label.take 64, action, entityId, page }

/-- A row of one button. -/
def single (label : Text) (action : CallbackAction) (entityId : Option UUID := none)
    (page : Option Int := none) : ButtonRow :=
  .buttons [button label action entityId page]

def homeRow : ButtonRow := single "Home".toList .home

/-! ## Dates and times -/

def weekdayName (day : Fin 7) : Text :=
  (["Monday", "Tuesday", "Wednesday", "Thursday", "Friday", "Saturday", "Sunday"].getD day
    "").toList

def monthName (month : ℕ) : Text :=
  (["January", "February", "March", "April", "May", "June", "July", "August", "September",
    "October", "November", "December"].getD (month - 1) "").toList

/-- `day.strftime("%A, %d %B %Y")`; the C library of Linux does not pad the year. -/
def longDate (day : Int) : Text :=
  let (year, month, dayOfMonth) := Instant.civil day
  weekdayName (weekday day) ++ ", ".toList ++ Date.padded 2 dayOfMonth ++ ' ' :: monthName month ++
    ' ' :: Text.ofNat year

/-- `day.strftime("%a, %d %b")` -/
def shortDate (day : Int) : Text :=
  let (_, month, dayOfMonth) := Instant.civil day
  (weekdayName (weekday day)).take 3 ++ ", ".toList ++ Date.padded 2 dayOfMonth ++
    ' ' :: (monthName month).take 3

/-- A minute of the day as `HH:MM`. -/
def clockTime (minute : Int) : Text :=
  Date.padded 2 (minute / 60).toNat ++ ':' :: Date.padded 2 (minute % 60).toNat

/-- `moment.strftime("%A, %d %B %Y at %H:%M")` of a local time -/
def longMoment (moment : LocalDateTime) : Text :=
  longDate (Wall.date moment.naive) ++ " at ".toList ++ clockTime (Wall.minuteOfDay moment.naive)

/-- The day number of `BOOKING_DATE_EPOCH`, 2020-01-01. -/
def bookingDateEpoch : Int := 18262

/-- `booking_date_page` -/
def bookingDatePage (value : Int) : Except RenderError Int :=
  let page := value - bookingDateEpoch
  if 0 ≤ page ∧ page ≤ maxCallbackPage then .ok page
  else .error (.raised (.valueError "Booking date is outside the callback range"))

/-- `booking_slot_page` -/
def bookingSlotPage (startAt : Int) (timezone : ZoneInfo) : Int :=
  let moment := timezone.astimezone startAt
  Wall.minuteOfDay moment.naive + if moment.fold then 1440 else 0

end BusinessAssistant.Presentation
