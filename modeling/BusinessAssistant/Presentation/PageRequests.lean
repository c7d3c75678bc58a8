/-
# Every page and when it fits

A request names a page function with its arguments; its pages are what the function
renders. `Fits` says of the arguments alone when these pages are within the limits
of the gateway: how many items there are, which numbers they carry and how long the
escaped texts are together.
-/

import BusinessAssistant.Presentation.Keyboards
import BusinessAssistant.Presentation.Renderer
import Mathlib.Algebra.BigOperators.Group.Finset.Basic

namespace BusinessAssistant.Presentation

open BusinessAssistant.Domain BusinessAssistant.Application BusinessAssistant.Persistence

/-- The page functions of `TelegramRenderer` with their arguments. -/
inductive PageRequest [PythonText]
  | home (profile : TenantPublicProfileDTO)
  | catalog (categories : List ServiceCategoryDTO) (page : CallbackPage)
  | services (category : ServiceCategoryDTO) (services : List ServiceDTO) (page : CallbackPage)
  | service (service : ServiceDTO)
  | hours (days : List BusinessDayDTO) (status : BusinessStatusDTO) (nextOpening : NextOpeningDTO)
  | help
  | knowledgeAnswer (answer : KnowledgeAnswer)
  | privacy
  | humanPlaceholder
  | qualificationConsent (session : QualificationSession) (schema : QualificationSchema)
  | qualificationDeclined
  | qualificationQuestion (field : QualificationField)
  | qualificationCorrection (correction : Text)
  | qualificationReview (session : QualificationSession) (schema : QualificationSchema)
  | qualificationCompleted
  | handoff (handoff : HandoffView)
  | cancelled
  | bookingServices (services : List ServiceDTO)
  | bookingDates (service : ServiceDTO) (draft : BookingDraft) (dates : List Int)
  | bookingTimes (service : ServiceDTO) (draft : BookingDraft) (slots : List AvailableSlot)
  | askName
  | askPhone
  | bookingReview (service : ServiceDTO) (draft : BookingDraft) (hold : SlotHold)
  | bookingConfirmed (booking : BookingResult)
  | myBooking (booking : BookingResult)
  | noBooking
  | appointmentCancelConfirmation (booking : BookingResult)
  | appointmentCancelled (booking : BookingResult)
  | noSlots
  | bookingExpired
  | bookingInputInvalid
  | unknown
  | callbackRecovery
  | error
  | splitPlainText (value : Text)

/-- The characters of a text after escaping: five for an ampersand and four for an
angle bracket. -/
def escapedLength (value : Text) : ℕ :=
  value.length + 4 * value.count '&' + 3 * value.count '<' + 3 * value.count '>'

/-- What an optional value adds to a text, with the characters around it; nothing
where it is missing or empty. -/
def optionalLength (around : ℕ) (value : Option Text) : ℕ :=
  if truthy value = true then around + escapedLength (value.getD []) else 0

/-- What the line of a day adds to the opening hours. -/
def dayLength (day : BusinessDayDTO) : ℕ :=
  escapedLength day.dayLabel + 3 +
    if day.closed then 6
    else (day.intervals.map fun interval =>
      escapedLength interval.startLocal + escapedLength interval.endLocal + 3).sum - 2

namespace PageRequest

variable [PythonText]

/-- The pages of a request. -/
def render (aiEnabled : Bool) (zoneInfo : Text → Option ZoneInfo) :
    PageRequest → Except RenderError (List RenderedMessage)
  | .home profile => .ok [TelegramRenderer.home aiEnabled profile]
  | .catalog categories page => .ok [TelegramRenderer.catalog categories page]
  | .services category listed page => .ok [TelegramRenderer.services category listed page]
  | .service shown => .ok [TelegramRenderer.service shown]
  | .hours days status nextOpening => .ok [TelegramRenderer.hours days status nextOpening]
  | .help => .ok [TelegramRenderer.help aiEnabled]
  | .knowledgeAnswer answer => .ok [TelegramRenderer.knowledgeAnswer aiEnabled answer]
  | .privacy => .ok [TelegramRenderer.privacy aiEnabled]
  | .humanPlaceholder => .ok [TelegramRenderer.humanPlaceholder]
  | .qualificationConsent session schema =>
      .ok [TelegramRenderer.qualificationConsent session schema]
  | .qualificationDeclined => .ok [TelegramRenderer.qualificationDeclined]
  | .qualificationQuestion field => .ok [TelegramRenderer.qualificationQuestion field]
  | .qualificationCorrection correction => .ok [TelegramRenderer.qualificationCorrection correction]
  | .qualificationReview session schema =>
      (TelegramRenderer.qualificationReview session schema).map ([·])
  | .qualificationCompleted => .ok [TelegramRenderer.qualificationCompleted]
  | .handoff view => (TelegramRenderer.handoff zoneInfo view).map ([·])
  | .cancelled => .ok [TelegramRenderer.cancelled]
  | .bookingServices listed => .ok [TelegramRenderer.bookingServices listed]
  | .bookingDates booked draft dates =>
      (TelegramRenderer.bookingDates booked draft dates).map ([·])
  | .bookingTimes booked draft slots =>
      (TelegramRenderer.bookingTimes booked draft slots).map ([·])
  | .askName => .ok [TelegramRenderer.askName]
  | .askPhone => .ok [TelegramRenderer.askPhone]
  | .bookingReview booked draft hold => .ok [TelegramRenderer.bookingReview booked draft hold]
  | .bookingConfirmed booking => .ok [TelegramRenderer.bookingConfirmed booking]
  | .myBooking booking => .ok [TelegramRenderer.myBooking booking]
  | .noBooking => .ok [TelegramRenderer.noBooking]
  | .appointmentCancelConfirmation booking =>
      .ok [TelegramRenderer.appointmentCancelConfirmation booking]
  | .appointmentCancelled booking => .ok [TelegramRenderer.appointmentCancelled booking]
  | .noSlots => .ok [TelegramRenderer.noSlots]
  | .bookingExpired => .ok [TelegramRenderer.bookingExpired]
  | .bookingInputInvalid => .ok [TelegramRenderer.bookingInputInvalid]
  | .unknown => .ok [TelegramRenderer.unknown aiEnabled]
  | .callbackRecovery => .ok [TelegramRenderer.callbackRecovery]
  | .error => .ok [TelegramRenderer.error]
  | .splitPlainText value => .ok (TelegramRenderer.splitPlainText value)

/-- Every field of the schema under review has an edit button on its page. -/
def Editable (pages : List RenderedMessage) : PageRequest → Prop
  | .qualificationReview session schema =>
      ∀ field ∈ schema.fields, ∃ page ∈ pages, ∃ row ∈ page.buttonRows, ∃ button ∈ row.all,
        button.action = .qualifyEdit ∧ button.entityId = some session.id ∧
          button.page = some field.order
  | _ => True

/-- The request is rendered, its pages survive delivery and nothing is missing on
them. -/
def SurvivesDelivery (gateway : AiogramDeliveryGateway) (now : Timestamp) (tenantId : TenantId)
    (aiEnabled : Bool) (zoneInfo : Text → Option ZoneInfo) (request : PageRequest) : Prop :=
  ∃ pages, request.render aiEnabled zoneInfo = .ok pages ∧
    (∀ page ∈ pages, Survives gateway now tenantId page) ∧ request.Editable pages

/-- What a line of the review adds to its text, for the text of the answer. -/
def reviewLength (field : QualificationField) (shown : Text) : ℕ :=
  escapedLength field.label + 10 + escapedLength (TelegramRenderer.shownAnswer field shown)

/-- The request is small enough. The numbers are the lengths of the fixed texts. -/
def Fits (aiEnabled : Bool) (zoneInfo : Text → Option ZoneInfo) : PageRequest → Prop
  | .home profile =>
      escapedLength profile.name + escapedLength profile.description +
        escapedLength profile.status.localTime + escapedLength profile.timezone +
        optionalLength 18 profile.address + optionalLength 15 profile.publicPhone +
        optionalLength 15 profile.publicEmail + (if profile.status.openNow then 0 else 2) +
        (if aiEnabled then 92 else 0) + 276 ≤ 4096
  | .catalog categories page => page.val = 46655 → categories.length ≤ 279936
  | .services category listed page =>
      (page.val = 46655 → listed.length ≤ 279936) ∧ escapedLength category.name + 46 ≤ 4096
  | .service shown =>
      -- The button to book a service is no row.
      shown.bookable = false ∧
        escapedLength shown.name + escapedLength shown.description +
          escapedLength shown.durationDisplay +
          (if truthy shown.price.display = true then
            escapedLength (shown.price.display.getD []) else 22) +
          optionalLength 28 shown.preparationNotes + optionalLength 22 shown.eligibilityNotes +
          86 ≤ 4096
  | .hours days status nextOpening =>
      (days.map dayLength).sum + (if status.openNow then 0 else 2) +
        escapedLength status.localTime + escapedLength status.timezone +
        (if status.openNow then 0 else optionalLength 16 nextOpening.nextOpeningLocal) + 55 ≤ 4096
  | .knowledgeAnswer answer =>
      answer.answered = false ∨ answer.evidence = [] ∨
        escapedLength answer.text +
          (∑ label ∈ (answer.evidence.map TelegramRenderer.sourceLabel).toFinset,
            (escapedLength label + 2)) + 25 ≤ 4096
  | .qualificationConsent _ schema =>
      escapedLength schema.title + escapedLength schema.consentPurpose +
        escapedLength schema.consentVersion + 169 ≤ 4096
  | .qualificationQuestion field =>
      escapedLength field.label + escapedLength field.prompt +
        (if field.validation.options = [] then 0
          else escapedLength (Text.joinComma field.validation.options) + 18) + 8 ≤ 4096
  | .qualificationCorrection correction => escapedLength correction + 18 ≤ 4096
  | .qualificationReview session schema =>
      schema.fields.length ≤ 6 ∧ (∀ field ∈ schema.fields, field.order ≤ maxCallbackPage) ∧
        ∃ shown : List Text,
          List.Forall₂ (fun field text =>
            TelegramRenderer.answerText (session.answers.lookup field.key) = .ok text)
            schema.fields shown ∧
          (List.zipWith reviewLength schema.fields shown).sum + 75 ≤ 4096
  | .handoff view =>
      ∃ zone, zoneInfo (TelegramRenderer.handoffTimezone view) = some zone ∧
        view.status.value.length + (if view.status = .claimed then 0 else 1) +
          (longMoment (zone.astimezone view.responseDueAt)).length +
          escapedLength (TelegramRenderer.handoffTimezone view) + 138 ≤ 4096
  | .bookingDates booked _ dates =>
      dates = [] ∨
        dates.length ≤ 7 ∧
          (∀ date ∈ dates, bookingDateEpoch ≤ date ∧ date ≤ bookingDateEpoch + maxCallbackPage) ∧
          escapedLength booked.name + 33 ≤ 4096
  | .bookingTimes booked draft slots =>
      ∀ slot ∈ slots.head?, slots.length ≤ 7 ∧ ∃ selected, draft.selectedDate = some selected ∧
        escapedLength booked.name + (longDate selected).length +
          escapedLength slot.timezone.key.toList + 41 ≤ 4096
  | .bookingReview booked draft hold =>
      escapedLength booked.name +
        (longMoment (hold.timezone.astimezone hold.timeRange.start)).length +
        escapedLength hold.timezone.key.toList + escapedLength (draft.customerName.getD []) +
        escapedLength (TelegramRenderer.masked (draft.customerPhone.getD [])) + 163 ≤ 4096
  | .bookingConfirmed booking =>
      escapedLength booking.publicReference + escapedLength booking.serviceName +
        (longMoment (booking.timezone.astimezone booking.startAt)).length +
        escapedLength booking.timezone.key.toList + 152 ≤ 4096
  | .myBooking booking =>
      escapedLength booking.publicReference + escapedLength booking.serviceName +
        (longMoment (booking.timezone.astimezone booking.startAt)).length +
        escapedLength booking.timezone.key.toList + booking.status.value.length + 75 ≤ 4096
  | .appointmentCancelConfirmation booking => escapedLength booking.publicReference + 94 ≤ 4096
  | .appointmentCancelled booking => escapedLength booking.publicReference + 39 ≤ 4096
  | _ => True

end PageRequest

end BusinessAssistant.Presentation
