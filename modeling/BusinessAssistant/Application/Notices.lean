/-
# What notifications say

The texts of notifications as functions of what they are about, and the payloads they are
rendered from. A payload that has the identifiers is rendered; a priority that it lacks, or
that is none of the four, is stated as normal.
-/

import BusinessAssistant.Application.Background

namespace BusinessAssistant.Application

open BusinessAssistant.Domain

/-! ## The texts -/

/-- What is said of a lead. -/
def leadNotice (leadId priority : Text) : Text :=
  "A lead has qualified. ".toList ++ "Lead ID: ".toList ++ leadId ++ ". ".toList ++
    "Priority: ".toList ++ priority ++ ".".toList

/-- What is said of a case. -/
def handoffNotice (handoffId priority : Text) : Text :=
  "A staff handoff is queued. ".toList ++ "Case ID: ".toList ++ handoffId ++ ". ".toList ++
    "Priority: ".toList ++ priority ++ ".".toList

/-- What happened to a booking, by the type of its event. -/
def bookingAction (eventType : String) : Text := eventType.toList.drop "booking.".length

/-- What is said of a booking. -/
def bookingNotice (action reference start : Text) : Text :=
  "An appointment was ".toList ++ action ++ ". ".toList ++ "Reference: ".toList ++ reference ++
    ". ".toList ++ "Start: ".toList ++ start ++ ".".toList

/-- What stands between the same texts can be told apart. -/
theorem between_inj {before first second after : Text} :
    before ++ first ++ after = before ++ second ++ after ↔ first = second := by
  rw [List.append_cancel_right_eq, List.append_cancel_left_eq]

/-- A lead's notice tells its priority. -/
theorem leadNotice_inj {leadId first second : Text} :
    leadNotice leadId first = leadNotice leadId second ↔ first = second :=
  between_inj

/-- A case's notice tells its priority. -/
theorem handoffNotice_inj {handoffId first second : Text} :
    handoffNotice handoffId first = handoffNotice handoffId second ↔ first = second :=
  between_inj

/-! ## Rendering -/

/-- An identifier the payload has, of a length that is let through. -/
theorem identifier_eq_ok {payload : Payload} {key : String} {value : Text}
    (hvalue : payload.lookup key = some (.text value)) (hpresent : value ≠ [])
    (hlength : value.length ≤ 100) : identifier payload key = .ok value := by
  simp only [identifier, hvalue]
  rw [if_neg]
  · rfl
  · intro hrefused
    rcases hrefused with hempty | hlong
    · exact hpresent hempty
    · omega

variable {claim : DeliveryClaim}

theorem render_lead {leadId : Text} (htype : claim.eventType = "lead.qualified")
    (hid : claim.payload.lookup "lead_id" = some (.text leadId)) (hpresent : leadId ≠ [])
    (hlength : leadId.length ≤ 100) :
    render claim = .ok (leadNotice leadId (choice claim.payload "priority" statedPriorities)) := by
  rw [render, if_pos htype, identifier_eq_ok hid hpresent hlength]
  rfl

theorem render_handoff {handoffId : Text} (htype : claim.eventType = "handoff.queued")
    (hid : claim.payload.lookup "handoff_id" = some (.text handoffId)) (hpresent : handoffId ≠ [])
    (hlength : handoffId.length ≤ 100) :
    render claim =
      .ok (handoffNotice handoffId (choice claim.payload "priority" statedPriorities)) := by
  rw [render, htype, if_neg (by decide), if_pos rfl, identifier_eq_ok hid hpresent hlength]
  rfl

theorem render_booking {reference start : Text}
    (htype : claim.eventType ∈ ["booking.confirmed", "booking.cancelled", "booking.rescheduled"])
    (hreference : claim.payload.lookup "public_reference" = some (.text reference))
    (hreferencePresent : reference ≠ []) (hreferenceLength : reference.length ≤ 100)
    (hstart : claim.payload.lookup "start_at" = some (.text start)) (hstartPresent : start ≠ [])
    (hstartLength : start.length ≤ 100) :
    render claim = .ok (bookingNotice (bookingAction claim.eventType) reference start) := by
  have hlead : claim.eventType ≠ "lead.qualified" := by
    intro hsame
    rw [hsame] at htype
    revert htype
    decide
  have hhandoff : claim.eventType ≠ "handoff.queued" := by
    intro hsame
    rw [hsame] at htype
    revert htype
    decide
  rw [render, if_neg hlead, if_neg hhandoff, if_pos htype,
    identifier_eq_ok hreference hreferencePresent hreferenceLength,
    identifier_eq_ok hstart hstartPresent hstartLength]
  rfl

/-- A priority the payload lacks is stated as normal. -/
theorem choice_of_lookup_eq_none {payload : Payload} {key : String} {choices : List Text}
    (hnone : payload.lookup key = none) : choice payload key choices = "normal".toList := by
  simp only [choice, hnone]

/-- A priority is stated as it is exactly if it is one of the choices. -/
theorem choice_eq_iff {payload : Payload} {key : String} {choices : List Text} {value : Text}
    (hvalue : payload.lookup key = some (.text value)) (hnormal : "normal".toList ∈ choices) :
    choice payload key choices = value ↔ value ∈ choices := by
  simp only [choice, hvalue]
  split
  · next hmem => exact ⟨fun _ => hmem, fun _ => rfl⟩
  · next hmissing =>
      constructor
      · intro hsame
        rw [← hsame]
        exact hnormal
      · intro hmem
        exact absurd hmem hmissing

end BusinessAssistant.Application
