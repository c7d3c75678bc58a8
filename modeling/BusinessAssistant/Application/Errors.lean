/-
# Errors the application raises

One constructor for each exception class the modelled code raises, with the
message where the class leaves it to the caller.
-/

import BusinessAssistant.Domain.Errors
import BusinessAssistant.Domain.Text

namespace BusinessAssistant.Application

open BusinessAssistant.Domain

inductive Failure
  | bookingNotFound
  | bookingConflict
  | bookingExpired
  | bookingPolicy (message : String)
  | invalidSchedule (message : String)
  | qualification (message : String)
  | handoff
  | privacy (message code : String)
  | authorization
  | domain (error : DomainError)
  | valueError (message : String)
  /-- `InvalidAnswerError`, a `ValueError`. -/
  | invalidAnswer (correction : Text)
  | zeroDivision
  /-- `decimal.InvalidOperation` -/
  | invalidOperation
  /-- `re.error` -/
  | pattern
  | typeError (message : String)
  /-- A failed `assert`. -/
  | assertion
  /-- A value the driver could not write, such as one that JSON has no text for. -/
  | statement (message : String)
  /-- A violated constraint of the database, named as the table declares it. -/
  | integrity (constraint : String)
  deriving DecidableEq, Repr

namespace Failure

/-- The stable `code` of an `ApplicationError` or a `DomainError`; other exceptions
carry none. -/
def code : Failure → Option String
  | bookingNotFound => some "booking.not_found"
  | bookingConflict => some "booking.conflict"
  | bookingExpired => some "booking.expired"
  | bookingPolicy _ => some "booking.policy"
  | invalidSchedule _ => some "schedule.invalid"
  | qualification _ => some "qualification.invalid"
  | handoff => some "handoff.invalid"
  | privacy _ code => some code
  | authorization => some "auth.forbidden"
  | domain error => some error.code
  | valueError _ | invalidAnswer _ | zeroDivision | invalidOperation | pattern | typeError _
  | assertion | statement _ | integrity _ => none

/-- The `safe_message` of an `ApplicationError`, or the text of the exception. -/
def safeMessage : Failure → String
  | bookingNotFound => "Appointment was not found"
  | bookingConflict => "That appointment time is no longer available"
  | bookingExpired => "The booking hold or draft has expired"
  | handoff => "Human handoff request is invalid or unavailable"
  | authorization => "This principal is not allowed to perform the action"
  | bookingPolicy message | invalidSchedule message | qualification message | privacy message _
  | valueError message | typeError message | statement message => message
  | domain error => error.message
  | invalidAnswer correction => String.ofList correction
  | zeroDivision => "integer modulo by zero"
  | invalidOperation | pattern | assertion => ""
  | integrity constraint => constraint

end Failure

end BusinessAssistant.Application
