/-
# The pages of the bot

What `TelegramRenderer` makes of the data of each page. Every stored value is
escaped in the text; a label is cut where it is too long, a text never is. A page
function that can raise returns its error.
-/

import BusinessAssistant.Application.LeadEngine
import BusinessAssistant.Application.HandoffModels
import BusinessAssistant.Application.PublicViews
import BusinessAssistant.Persistence.BookingStore
import BusinessAssistant.Presentation.Messages

namespace BusinessAssistant.Presentation

open BusinessAssistant.Domain BusinessAssistant.Application BusinessAssistant.Persistence

namespace TelegramRenderer

/-! ## Navigation -/

section Pages

variable (aiEnabled : Bool)

/-- A line of the contact block, for a value that is not empty. -/
def contactLine (label : String) (value : Option Text) : List Text :=
  if truthy value = true then
    ["<b>".toList ++ label.toList ++ ":</b> ".toList ++ safe (value.getD [])]
  else []

def home (profile : TenantPublicProfileDTO) : RenderedMessage :=
  let status := if profile.status.openNow then "Open now".toList else "Closed now".toList
  let contact := contactLine "Location" profile.address ++
    contactLine "Phone" profile.publicPhone ++ contactLine "Email" profile.publicEmail
  let contactBlock :=
    if contact ≠ [] then '\n' :: ['\n'].intercalate contact ++ ['\n'] else ['\n']
  let aiNotice :=
    if aiEnabled then
      "Free text may be classified by a configured AI provider, but validated application ".toList ++
        "rules remain authoritative.".toList
    else "AI is not enabled.".toList
  { text :=
      "<b>".toList ++ safe profile.name ++ "</b>\n".toList ++
        safe profile.description ++ "\n\n".toList ++
        "<b>".toList ++ status ++ "</b> · ".toList ++ safe profile.status.localTime ++ " (".toList ++
        safe profile.timezone ++ ")\n".toList ++ contactBlock ++ "\n".toList ++
        "This is a fictional portfolio demo. It can show verified business information, ".toList ++
        "and create fictional demo appointments. ".toList ++ aiNotice ++
        " It stores numeric Telegram ".toList ++
        "identifiers for continuity and duplicate protection; use Privacy for details.".toList
    buttonRows :=
      [.buttons [button "Services".toList .catalog, button "Business hours".toList .hours],
        .buttons [button "Book appointment".toList .book,
          button "My appointment".toList .myBooking],
        single "Request service".toList .qualify,
        .buttons [button "Privacy".toList .privacy, button "Human help".toList .human]]
    showReplyMenu := true }

/-- The row with the buttons to the pages before and after one, if there are any. -/
def pagingRow (action : CallbackAction) (entityId : Option UUID) (page : CallbackPage)
    (count : ℕ) : List ButtonRow :=
  let previous :=
    if 0 < page.val then [button "Previous".toList action entityId (some (page.val - 1))] else []
  let next :=
    if page.val * pageSize + pageSize < count then
      [button "Next".toList action entityId (some (page.val + 1))]
    else []
  if previous ++ next ≠ [] then [.buttons (previous ++ next)] else []

/-- `values[start : start + PAGE_SIZE]` -/
def pageOf {α : Type} (values : List α) (page : CallbackPage) : List α :=
  (values.drop (page.val * pageSize)).take pageSize

def catalog (categories : List ServiceCategoryDTO) (page : CallbackPage) : RenderedMessage :=
  let rows := (pageOf categories page).map fun category =>
    single category.name .category (some category.id)
  { text := "<b>Services</b>\nChoose a category to see active services.".toList
    buttonRows := rows ++ pagingRow .catalog none page categories.length ++ [homeRow] }

def services (category : ServiceCategoryDTO) (services : List ServiceDTO) (page : CallbackPage) :
    RenderedMessage :=
  let rows := (pageOf services page).map fun service =>
    single service.name .service (some service.id)
  { text :=
      "<b>".toList ++ safe category.name ++
        "</b>\nChoose a service for verified details.".toList
    buttonRows := rows ++ pagingRow .category (some category.id) page services.length ++
      [single "Back to services".toList .catalog] }

/-- A note of a service, for a value that is not empty. -/
def note (label : String) (value : Option Text) : Text :=
  if truthy value = true then
    "\n\n<b>".toList ++ label.toList ++ ":</b> ".toList ++ safe (value.getD [])
  else []

def service (service : ServiceDTO) : RenderedMessage :=
  let price :=
    if truthy service.price.display = true then service.price.display.getD []
    else "Price is not displayed".toList
  let notes := note "Before your visit" service.preparationNotes ++
    note "Please note" service.eligibilityNotes
  let bookable :=
    if service.bookable then "Choose Book now to continue.".toList
    else "This service is not available for booking.".toList
  { text :=
      "<b>".toList ++ safe service.name ++ "</b>\n".toList ++
        safe service.description ++ "\n\n".toList ++
        "<b>Duration:</b> ".toList ++ safe service.durationDisplay ++ "\n".toList ++
        "<b>Price:</b> ".toList ++ safe price ++ notes ++ "\n\n".toList ++ bookable
    -- The tuple that is spread here has the button for its element, not a row.
    buttonRows :=
      (if service.bookable then
        [.bare (button "Book now".toList .bookService (some service.id))]
      else []) ++ [single "Back to services".toList .catalog, homeRow] }

/-- The line of a day. -/
def dayLine (day : BusinessDayDTO) : Text :=
  let intervals :=
    if day.closed then "Closed".toList
    else Text.joinComma (day.intervals.map fun interval =>
      safe interval.startLocal ++ '-' :: safe interval.endLocal)
  safe day.dayLabel ++ ": ".toList ++ intervals

def hours (days : List BusinessDayDTO) (status : BusinessStatusDTO)
    (nextOpening : NextOpeningDTO) : RenderedMessage :=
  let current := if status.openNow then "Open now".toList else "Closed now".toList
  let opening :=
    if status.openNow = false ∧ truthy nextOpening.nextOpeningLocal = true then
      ["Next opening: ".toList ++ safe (nextOpening.nextOpeningLocal.getD []) ++ ".".toList]
    else []
  let lines := "<b>Business hours</b>".toList :: days.map dayLine ++
    [[], "<b>".toList ++ current ++ "</b> at ".toList ++ safe status.localTime ++ ".".toList] ++
    opening ++ ["Timezone: ".toList ++ safe status.timezone ++ ".".toList]
  { text := ['\n'].intercalate lines
    buttonRows := [homeRow] }

def help : RenderedMessage :=
  let freeText :=
    if aiEnabled then
      "Free-form text uses advisory AI classification and approved knowledge retrieval ".toList ++
        "with deterministic validation and fallback.".toList
    else
      ("Free-form questions receive a safe, deterministic reply because AI is not enabled.").toList
  { text :=
      "<b>Help</b>\nUse the menu to browse services, book or manage a fictional demo ".toList ++
        "appointment, and see opening times. /cancel clears only the active booking flow. ".toList ++
        freeText
    buttonRows := [homeRow]
    showReplyMenu := true }

def unknown : RenderedMessage :=
  let ending :=
    if aiEnabled then
      "The request could not be safely routed, so no AI-proposed action was executed.".toList
    else "AI and free-form business answers are not enabled.".toList
  { text :=
      "Use the menu to browse verified services, book or manage a fictional demo ".toList ++
        "appointment, view business hours, or get help. ".toList ++ ending
    buttonRows := [homeRow]
    showReplyMenu := true }

/-- The label of a source: its title, and its section where that says more. -/
def sourceLabel (item : KnowledgeEvidence) : Text :=
  match item.chunk.sectionTitle with
  | some sectionTitle =>
      if sectionTitle ≠ [] ∧ sectionTitle ≠ item.chunk.title then
        item.chunk.title ++ " — ".toList ++ sectionTitle
      else item.chunk.title
  | none => item.chunk.title

/-- The labels of all sources, each once. -/
def sourceLabels (evidence : List KnowledgeEvidence) : List Text :=
  evidence.foldl
    (fun labels item =>
      if sourceLabel item ∈ labels then labels else labels ++ [sourceLabel item])
    []

def knowledgeAnswer (answer : KnowledgeAnswer) : RenderedMessage :=
  if answer.answered = false ∨ answer.evidence = [] then unknown aiEnabled
  else
    let sources := Text.joinComma ((sourceLabels answer.evidence).map safe)
    { text := safe answer.text ++ "\n\n<b>Approved sources:</b> ".toList ++ sources
      buttonRows := [single "Ask a person".toList .human, homeRow] }

def privacy : RenderedMessage :=
  let aiProcessing :=
    if aiEnabled then
      " When AI is enabled, free-form text is sent to the configured provider for bounded ".toList ++
        "classification and, when knowledge is enabled, embedding. The application stores ".toList ++
        "AI-operation metadata such as model, latency, tokens, and outcome—not customer ".toList ++
        "prompts, message text, or provider response bodies.".toList
    else []
  { text :=
      "<b>Privacy notice · demo-v1</b>\nThis fictional demo stores Telegram numeric user ".toList ++
        "and chat identifiers to keep a tenant-scoped conversation and prevent duplicate ".toList ++
        "updates. It does not store message bodies, usernames, profile names, or raw updates. ".toList ++
        "Do not send sensitive or real customer information.".toList ++ aiProcessing
    buttonRows := [homeRow] }

def humanPlaceholder : RenderedMessage where
  text :=
    "Human handoff is not enabled in this demo phase. No request has been created. ".toList ++
      "Use the verified contact details on the home screen if you need assistance.".toList
  buttonRows := [homeRow]

end Pages

/-! ## Qualification -/

section Qualification

variable [PythonText]

def qualificationConsent (session : QualificationSession) (schema : QualificationSchema) :
    RenderedMessage where
  text :=
    "<b>".toList ++ safe schema.title ++ "</b>\n".toList ++
      "Before collecting request details, please review the purpose: ".toList ++
      safe schema.consentPurpose ++ "\n\n".toList ++
      "Consent version: <code>".toList ++ safe schema.consentVersion ++ "</code>. ".toList ++
      "Accept to continue, or decline to finish without creating a lead.".toList
  buttonRows :=
    [single "Accept and continue".toList .qualifyConsentAccept (some session.id),
      single "Decline".toList .qualifyConsentDecline (some session.id)]

def qualificationDeclined : RenderedMessage where
  text := "Consent was declined. No lead was created and qualification has ended.".toList
  buttonRows := [homeRow]

def cancelRequestRow : ButtonRow := single "Cancel request".toList .flowCancel

def qualificationQuestion (field : QualificationField) : RenderedMessage :=
  let choices :=
    if field.validation.options ≠ [] then
      "\nAllowed values: ".toList ++ safe (Text.joinComma field.validation.options) ++ ".".toList
    else []
  { text := "<b>".toList ++ safe field.label ++ "</b>\n".toList ++ safe field.prompt ++ choices
    buttonRows := [cancelRequestRow] }

def qualificationCorrection (correction : Text) : RenderedMessage where
  text := safe correction ++ " Please try again.".toList
  buttonRows := [cancelRequestRow]

/-- The text of an answer; `str` of an integer of too many digits raises. -/
def answerText : Option Answer → Except Failure Text
  | none => .ok "Not provided".toList
  | some (.choices values) => .ok (Text.joinComma values)
  | some answer => answer.str

/-- The last four characters of a phone number. -/
def masked (phone : Text) : Text :=
  if 4 ≤ phone.length then "ending ".toList ++ phone.drop (phone.length - 4)
  else "provided".toList

/-- What the review shows of an answer. -/
def shownAnswer (field : QualificationField) (shown : Text) : Text :=
  if field.sensitivity = .sensitive ∧ field.fieldType = .phone then masked shown else shown

/-- The line of a field, for the text of its answer. -/
def reviewLine (field : QualificationField) (shown : Text) : Text :=
  "<b>".toList ++ safe field.label ++ ":</b> ".toList ++ safe (shownAnswer field shown)

/-- The row to edit a field. -/
def editRow (session : QualificationSession) (field : QualificationField) : ButtonRow :=
  single ("Edit ".toList ++ field.label) .qualifyEdit (some session.id) (some field.order)

def qualificationReview (session : QualificationSession) (schema : QualificationSchema) :
    Except RenderError RenderedMessage :=
  let lines := schema.fields.mapM fun field =>
    (answerText (session.answers.lookup field.key)).map (reviewLine field)
  match lines with
  | .error failure => .error (.raised failure)
  | .ok lines =>
      .ok
        { text :=
            ['\n'].intercalate ("<b>Review your service request</b>".toList :: lines ++
              ["\nSubmit only if every detail is correct.".toList])
          buttonRows := (schema.fields.map (editRow session)).take 6 ++
            [single "Submit request".toList .qualifySubmit (some session.id), cancelRequestRow] }

def qualificationCompleted : RenderedMessage where
  text :=
    "<b>Service request submitted</b>\nThe fictional Northstar team can now review ".toList ++
      "the validated details. This did not diagnose the vehicle or create an appointment.".toList
  buttonRows := [homeRow]

/-- The time zone that a case names. -/
def handoffTimezone (handoff : HandoffView) : Text :=
  match handoff.context.lookup "timezone" with
  | none => "UTC".toList
  | some (.text value) => value
  | some (.texts values) => PythonText.strList values

/-- `handoff`, with the time zones that `ZoneInfo` finds. -/
def handoff (zoneInfo : Text → Option ZoneInfo) (handoff : HandoffView) :
    Except RenderError RenderedMessage :=
  let timezone := handoffTimezone handoff
  match zoneInfo timezone with
  | none => .error .zoneNotFound
  | some zone =>
      let localDue := zone.astimezone handoff.responseDueAt
      let state :=
        if handoff.status = .claimed then "A team member is handling this request.".toList
        else "The request is queued for a team member.".toList
      .ok
        { text :=
            "<b>Human help · ".toList ++ safe handoff.status.value.toList ++ "</b>\n".toList ++
              safe state ++ " Expected response by ".toList ++ longMoment localDue ++
              " (".toList ++ safe timezone ++
              "). Bot replies are paused until staff returns control.".toList
          buttonRows := [homeRow] }

end Qualification

/-! ## Bookings -/

def cancelled : RenderedMessage where
  text :=
    "There is no active workflow or appointment hold to cancel. Navigation was reset.".toList
  buttonRows := [homeRow]

def cancelBookingRow : ButtonRow := single "Cancel booking flow".toList .flowCancel

def bookingServices (services : List ServiceDTO) : RenderedMessage :=
  let rows := ((services.take pageSize).filter (·.bookable)).map fun item =>
    single item.name .bookService (some item.id)
  { text := "<b>Book an appointment</b>\nChoose an active service.".toList
    buttonRows := rows ++ [homeRow] }

def noSlots : RenderedMessage where
  text :=
    "No appointment times are currently available for that selection. ".toList ++
      "Refresh the booking flow to try another date.".toList
  buttonRows := [single "Book appointment".toList .book, homeRow]

def bookingDates (service : ServiceDTO) (draft : BookingDraft) (dates : List Int) :
    Except RenderError RenderedMessage :=
  let rows := dates.mapM fun item =>
    (bookingDatePage item).map fun page =>
      single (shortDate item) .bookDate (some draft.id) (some page)
  match rows with
  | .error failure => .error failure
  | .ok [] => .ok noSlots
  | .ok rows =>
      .ok
        { text := "<b>".toList ++ safe service.name ++ "</b>\nChoose an available date.".toList
          buttonRows := rows ++ [cancelBookingRow] }

def bookingTimes (service : ServiceDTO) (draft : BookingDraft) (slots : List AvailableSlot) :
    Except RenderError RenderedMessage :=
  let rows := (slots.take 12).map fun slot =>
    single (clockTime slot.localTime) .bookSlot (some draft.id)
      (some (bookingSlotPage slot.startAt slot.timezone))
  match slots, draft.selectedDate with
  | [], _ => .ok noSlots
  | _, none => .error (.raised .assertion)
  | slot :: _, some selectedDate =>
      .ok
        { text :=
            "<b>".toList ++ safe service.name ++ "</b>\n".toList ++
              "Available times for ".toList ++ longDate selectedDate ++ ". ".toList ++
              "Times use ".toList ++ safe slot.timezone.key.toList ++ ".".toList
          buttonRows := rows ++ [cancelBookingRow] }

def askName : RenderedMessage where
  text :=
    "The time is held for 5 minutes. Enter the customer name for this appointment. ".toList ++
      "Only the validated name is stored; the message body is not retained.".toList
  buttonRows := [cancelBookingRow]

def askPhone : RenderedMessage where
  text :=
    "Enter the phone number the workshop may use for this appointment. ".toList ++
      "By continuing, you consent to storing it with this fictional demo booking.".toList
  buttonRows := [cancelBookingRow]

def bookingReview (service : ServiceDTO) (draft : BookingDraft) (hold : SlotHold) :
    RenderedMessage :=
  let moment := hold.timezone.astimezone hold.timeRange.start
  let maskedPhone := masked (draft.customerPhone.getD [])
  { text :=
      "<b>Review the appointment</b>\n".toList ++
        "Service: ".toList ++ safe service.name ++ "\n".toList ++
        "When: ".toList ++ longMoment moment ++ " (".toList ++
        safe hold.timezone.key.toList ++ ")\n".toList ++
        "Customer: ".toList ++ safe (draft.customerName.getD []) ++ "\n".toList ++
        "Phone: ".toList ++ safe maskedPhone ++ "\n\n".toList ++
        "Confirm only if these details are correct. No appointment exists until ".toList ++
        "confirmation succeeds.".toList
    buttonRows :=
      [single "Confirm appointment".toList .bookConfirm (some draft.id), cancelBookingRow] }

/-- The lines on a booking that two pages share. -/
def bookingLines (booking : BookingResult) : Text :=
  let moment := booking.timezone.astimezone booking.startAt
  "Reference: <code>".toList ++ safe booking.publicReference ++ "</code>\n".toList ++
    "Service: ".toList ++ safe booking.serviceName ++ "\n".toList ++
    "When: ".toList ++ longMoment moment ++ " (".toList ++ safe booking.timezone.key.toList ++
    ")\n".toList

def bookingConfirmed (booking : BookingResult) : RenderedMessage where
  text :=
    "<b>Appointment confirmed</b>\n".toList ++ bookingLines booking ++ "\n".toList ++
      "This is a fictional portfolio demo; no real workshop appointment was created.".toList
  buttonRows := [single "My appointment".toList .myBooking]

def myBooking (booking : BookingResult) : RenderedMessage where
  text :=
    "<b>My appointment</b>\n".toList ++ bookingLines booking ++ "Status: ".toList ++
      safe booking.status.value.toList
  buttonRows :=
    [single "Reschedule".toList .reschedule (some booking.id),
      single "Cancel appointment".toList .appointmentCancel (some booking.id), homeRow]

def noBooking : RenderedMessage where
  text := "No eligible upcoming appointment was found for this Telegram identity.".toList
  buttonRows := [single "Book appointment".toList .book]

def appointmentCancelConfirmation (booking : BookingResult) : RenderedMessage where
  text :=
    "Cancel appointment <code>".toList ++ safe booking.publicReference ++ "</code>? ".toList ++
      "This action is separate from clearing the current menu flow.".toList
  buttonRows :=
    [single "Yes, cancel appointment".toList .appointmentCancelConfirm (some booking.id),
      single "Keep appointment".toList .myBooking]

def appointmentCancelled (booking : BookingResult) : RenderedMessage where
  text :=
    "Appointment <code>".toList ++ safe booking.publicReference ++ "</code> is cancelled.".toList
  buttonRows := [homeRow]

def bookingExpired : RenderedMessage where
  text :=
    "That held time expired or changed before confirmation. No appointment was created. ".toList ++
      "Choose a fresh time to continue.".toList
  buttonRows := [single "Book appointment".toList .book]

def bookingInputInvalid : RenderedMessage where
  text :=
    "That value is not valid for the current booking step. Check the requested format ".toList ++
      "and try again, or cancel the booking flow.".toList
  buttonRows := [cancelBookingRow]

/-! ## Recovery and long texts -/

def callbackRecovery : RenderedMessage where
  text := "That menu action is no longer valid. Please refresh the menu.".toList
  buttonRows := [single "Refresh".toList .home]

def error : RenderedMessage where
  text :=
    "The request could not be completed safely. Please try again from the home menu.".toList
  buttonRows := [homeRow]

/-- `text.rfind(char)`, -1 where it is not found. -/
def rfind (char : Char) (text : Text) : Int :=
  match text.reverse.idxOf? char with
  | none => -1
  | some place => text.length - 1 - place

/-- Where the loop of `split_plain_text` cuts. -/
def cutPlace (remaining : Text) : ℕ :=
  let cut := min remaining.length safeTextLimit
  if cut < remaining.length then
    (max (max (rfind '\n' (remaining.take cut)) (rfind ' ' (remaining.take cut))) 1).toNat
  else cut

/-- The text of a chunk. -/
def chunkText (chunk : Text) : Text :=
  let stripped := (chunk.reverse.dropWhile Text.isSpace).reverse
  let escaped := if safe stripped ≠ [] then safe stripped else [' ']
  if escaped.length > telegramTextLimit then escaped.take telegramTextLimit else escaped

theorem cutPlace_pos {remaining : Text} (hremaining : remaining ≠ []) : 0 < cutPlace remaining := by
  have hlength := List.length_pos_iff.mpr hremaining
  unfold cutPlace safeTextLimit
  simp only
  split
  · omega
  · omega

/-- A turn of the loop leaves less than it found. -/
theorem length_rest_lt {remaining : Text} (hremaining : remaining ≠ []) :
    ((remaining.drop (cutPlace remaining)).dropWhile Text.isSpace).length < remaining.length := by
  have hcut := cutPlace_pos hremaining
  have hlength := List.length_pos_iff.mpr hremaining
  have hspaces := (List.dropWhile_sublist Text.isSpace
    (l := remaining.drop (cutPlace remaining))).length_le
  rw [List.length_drop] at hspaces
  omega

/-- The loop of `split_plain_text`. -/
def chunks : Text → List RenderedMessage
  | [] => []
  | char :: rest =>
      let remaining := char :: rest
      { text := chunkText (remaining.take (cutPlace remaining)) } ::
        chunks ((remaining.drop (cutPlace remaining)).dropWhile Text.isSpace)
termination_by remaining => remaining.length
decreasing_by exact length_rest_lt (List.cons_ne_nil char rest)

def splitPlainText (value : Text) : List RenderedMessage :=
  if value = [] then [{ text := [' '] }] else chunks value

end TelegramRenderer

end BusinessAssistant.Presentation
