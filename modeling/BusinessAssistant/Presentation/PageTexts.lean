/-
# The lengths of the texts

How long the text of each page is: the characters of its fixed parts and those of
the escaped values in it.
-/

import BusinessAssistant.Presentation.PageRequests
import Mathlib.Algebra.Order.BigOperators.Group.List

namespace BusinessAssistant.Presentation

open BusinessAssistant.Domain BusinessAssistant.Application BusinessAssistant.Persistence

/-! ## Escaping -/

@[simp]
theorem safe_nil : safe [] = [] := rfl

theorem safe_append (first second : Text) : safe (first ++ second) = safe first ++ safe second :=
  List.flatMap_append

/-- A text without the characters that are escaped keeps its length. -/
theorem escapedLength_plain {value : Text} (hvalue : '&' ∉ value ∧ '<' ∉ value ∧ '>' ∉ value) :
    escapedLength value = value.length := by
  obtain ⟨hamp, hless, hmore⟩ := hvalue
  simp [escapedLength, List.count_eq_zero_of_not_mem, hamp, hless, hmore]

@[simp]
theorem length_safe (value : Text) : (safe value).length = escapedLength value := by
  induction value with
  | nil => rfl
  | cons char rest ih =>
      have hsplit : (safe (char :: rest)).length = (safe [char]).length + (safe rest).length := by
        rw [← List.length_append, ← safe_append, List.singleton_append]
      have hchar : (safe [char]).length = escapedLength [char] := by
        by_cases hamp : char = '&'
        · subst hamp
          decide
        · by_cases hless : char = '<'
          · subst hless
            decide
          · by_cases hmore : char = '>'
            · subst hmore
              decide
            · have hkeep : safe [char] = [char] := by
                unfold safe
                rw [List.flatMap_singleton, if_neg hamp, if_neg hless, if_neg hmore]
              rw [hkeep, escapedLength_plain]
              simp [Ne.symm hamp, Ne.symm hless, Ne.symm hmore]
      rw [hsplit, hchar, ih]
      simp only [escapedLength, List.length_cons, List.length_nil, List.count_cons, List.count_nil]
      omega

theorem length_chunkText (chunk : Text) :
    (TelegramRenderer.chunkText chunk).length ≤ telegramTextLimit := by
  unfold TelegramRenderer.chunkText
  dsimp only
  generalize (if safe (chunk.reverse.dropWhile Text.isSpace).reverse ≠ [] then
    safe (chunk.reverse.dropWhile Text.isSpace).reverse else [' ']) = escaped
  split
  · exact List.length_take_le _ _
  · rename_i hshort
    exact not_lt.mp hshort

/-- The characters of texts between separators. -/
theorem length_intercalate (separator : Text) (texts : List Text) :
    (separator.intercalate texts).length =
      (texts.map fun text => text.length + separator.length).sum - separator.length := by
  induction texts with
  | nil => simp [List.intercalate]
  | cons text rest ih =>
      cases rest with
      | nil => simp [List.intercalate]
      | cons next rest =>
          rw [List.intercalate_cons_cons, List.length_append, List.length_append, ih]
          simp only [List.map_cons, List.sum_cons]
          omega

/-- The lines of a text, each with the break before it; the first has none. -/
theorem length_lines (first : Text) (rest : List Text) :
    (['\n'].intercalate (first :: rest)).length =
      first.length + (rest.map fun line => line.length + 1).sum := by
  rw [length_intercalate, List.map_cons, List.sum_cons, List.length_singleton]
  omega

/-- What an optional line or note adds. -/
theorem length_note {label : String} {around : ℕ} (haround : label.length + 11 = around)
    (value : Option Text) :
    (TelegramRenderer.note label value).length = optionalLength around value := by
  unfold TelegramRenderer.note optionalLength
  split
  · simp only [List.length_append, length_safe]
    repeat rw [String.toList_ofList]
    simp only [List.length_cons, List.length_nil, String.length_toList]
    omega
  · rfl

theorem sum_contactLine {label : String} {around : ℕ} (haround : label.length + 10 = around)
    (value : Option Text) :
    ((TelegramRenderer.contactLine label value).map fun line => line.length + 1).sum =
      optionalLength around value := by
  unfold TelegramRenderer.contactLine optionalLength
  split
  · simp only [List.map_cons, List.map_nil, List.sum_cons, List.sum_nil, List.length_append,
      length_safe]
    repeat rw [String.toList_ofList]
    simp only [List.length_cons, List.length_nil, String.length_toList]
    omega
  · rfl

/-! ## Navigation -/

namespace TelegramRenderer

theorem length_home (aiEnabled : Bool) (profile : TenantPublicProfileDTO) :
    (home aiEnabled profile).text.length =
      escapedLength profile.name + escapedLength profile.description +
        escapedLength profile.status.localTime + escapedLength profile.timezone +
        optionalLength 18 profile.address + optionalLength 15 profile.publicPhone +
        optionalLength 15 profile.publicEmail + (if profile.status.openNow then 0 else 2) +
        (if aiEnabled then 92 else 0) + 276 := by
  have hblock : ∀ lines : List Text,
      (if lines ≠ [] then '\n' :: ['\n'].intercalate lines ++ ['\n'] else ['\n']).length =
        (lines.map fun line => line.length + 1).sum + 1 := by
    intro lines
    cases lines with
    | nil => rfl
    | cons line rest =>
        rw [if_pos (List.cons_ne_nil _ _), List.length_append, List.length_cons, length_lines,
          List.map_cons, List.sum_cons, List.length_singleton]
        omega
  have haddress := sum_contactLine (by decide : "Location".length + 10 = 18) profile.address
  have hphone := sum_contactLine (by decide : "Phone".length + 10 = 15) profile.publicPhone
  have hemail := sum_contactLine (by decide : "Email".length + 10 = 15) profile.publicEmail
  unfold home
  simp only [List.length_append, length_safe, hblock, List.map_append, List.sum_append, haddress,
    hphone, hemail]
  cases profile.status.openNow <;> cases aiEnabled <;>
    (repeat rw [String.toList_ofList]
     simp only [if_true, if_false, Bool.false_eq_true, List.length_append, List.length_cons,
       List.length_nil]
     omega)

theorem length_services (category : ServiceCategoryDTO) (listed : List ServiceDTO)
    (page : CallbackPage) :
    (services category listed page).text.length = escapedLength category.name + 46 := by
  unfold services
  repeat rw [String.toList_ofList]
  simp only [List.length_append, length_safe, List.length_cons, List.length_nil]
  omega

theorem length_service {shown : ServiceDTO} (hbookable : shown.bookable = false) :
    (service shown).text.length =
      escapedLength shown.name + escapedLength shown.description +
        escapedLength shown.durationDisplay +
        (if truthy shown.price.display = true then
          escapedLength (shown.price.display.getD []) else 22) +
        optionalLength 28 shown.preparationNotes + optionalLength 22 shown.eligibilityNotes +
        86 := by
  have hpreparation := length_note (by decide : "Before your visit".length + 11 = 28)
    shown.preparationNotes
  have heligibility := length_note (by decide : "Please note".length + 11 = 22)
    shown.eligibilityNotes
  have hprice : escapedLength "Price is not displayed".toList = 22 := by
    repeat rw [String.toList_ofList]
    decide
  unfold service
  simp only [List.length_append, length_safe, hpreparation, heligibility, hbookable,
    Bool.false_eq_true, if_false, apply_ite escapedLength, hprice]
  repeat rw [String.toList_ofList]
  simp only [List.length_cons, List.length_nil]
  omega

theorem length_dayLine (day : BusinessDayDTO) : (dayLine day).length + 1 = dayLength day := by
  have hclosed : "Closed".toList.length = 6 := by decide
  have hseparator : ": ".toList.length = 2 := by decide
  unfold dayLine dayLength Text.joinComma
  simp only [List.length_append, length_safe, hseparator]
  split
  · rw [hclosed]
  · simp only [length_intercalate, List.map_map, Function.comp_def, List.length_append,
      List.length_cons, List.length_nil, length_safe]
    have hsums : (day.intervals.map fun interval => escapedLength interval.startLocal +
        (escapedLength interval.endLocal + 1) + (0 + 1 + 1)) =
          day.intervals.map fun interval => escapedLength interval.startLocal +
            escapedLength interval.endLocal + 3 := by
      apply List.map_congr_left
      intro interval _
      omega
    rw [hsums]
    omega

theorem length_hours (days : List BusinessDayDTO) (status : BusinessStatusDTO)
    (nextOpening : NextOpeningDTO) :
    (hours days status nextOpening).text.length =
      (days.map dayLength).sum + (if status.openNow then 0 else 2) +
        escapedLength status.localTime + escapedLength status.timezone +
        (if status.openNow then 0 else optionalLength 16 nextOpening.nextOpeningLocal) + 55 := by
  have hdays : (days.map fun day => (dayLine day).length + 1).sum = (days.map dayLength).sum := by
    simp only [length_dayLine]
  unfold hours
  simp only [List.cons_append, length_lines, List.map_append, List.map_cons, List.map_nil,
    List.map_map, Function.comp_def, List.sum_append, List.sum_cons, List.sum_nil, hdays,
    List.length_append, length_safe, List.length_nil]
  cases status.openNow
  · unfold optionalLength
    cases truthy nextOpening.nextOpeningLocal
    · simp only [Bool.false_eq_true, if_false, and_false, List.map_nil, List.sum_nil]
      repeat rw [String.toList_ofList]
      simp only [List.length_cons, List.length_nil]
      omega
    · simp only [Bool.false_eq_true, if_false, and_self, if_true, List.map_cons, List.map_nil,
        List.sum_cons, List.sum_nil, List.length_append, length_safe]
      repeat rw [String.toList_ofList]
      simp only [List.length_cons, List.length_nil]
      omega
  · simp only [if_true, Bool.true_eq_false, false_and, if_false, List.map_nil, List.sum_nil]
    repeat rw [String.toList_ofList]
    simp only [List.length_cons, List.length_nil]
    omega

/-- Every label of a source stands in the list once. -/
theorem sourceLabels_spec (evidence : List KnowledgeEvidence) :
    (sourceLabels evidence).Nodup ∧
      ∀ label, label ∈ sourceLabels evidence ↔ label ∈ evidence.map sourceLabel := by
  have hloop : ∀ labels : List Text, labels.Nodup →
      (evidence.foldl (fun labels item =>
        if sourceLabel item ∈ labels then labels else labels ++ [sourceLabel item]) labels).Nodup ∧
      ∀ label, label ∈ evidence.foldl (fun labels item =>
        if sourceLabel item ∈ labels then labels else labels ++ [sourceLabel item]) labels ↔
          label ∈ labels ∨ label ∈ evidence.map sourceLabel := by
    induction evidence with
    | nil =>
        intro labels hlabels
        exact ⟨hlabels, fun label => by simp⟩
    | cons item rest ih =>
        intro labels hlabels
        rw [List.foldl_cons]
        by_cases hknown : sourceLabel item ∈ labels
        · rw [if_pos hknown]
          obtain ⟨hnodup, hmem⟩ := ih labels hlabels
          refine ⟨hnodup, ?_⟩
          intro label
          rw [hmem, List.map_cons, List.mem_cons]
          constructor
          · rintro (hlabel | hlabel)
            · exact .inl hlabel
            · exact .inr (.inr hlabel)
          · rintro (hlabel | rfl | hlabel)
            · exact .inl hlabel
            · exact .inl hknown
            · exact .inr hlabel
        · rw [if_neg hknown]
          obtain ⟨hnodup, hmem⟩ := ih (labels ++ [sourceLabel item])
            (hlabels.append (List.nodup_singleton _) (by simpa using hknown))
          refine ⟨hnodup, ?_⟩
          intro label
          rw [hmem, List.map_cons, List.mem_cons, List.mem_append, List.mem_singleton, or_assoc]
  obtain ⟨hnodup, hmem⟩ := hloop [] List.nodup_nil
  exact ⟨hnodup, fun label => (hmem label).trans (by simp)⟩

theorem length_knowledgeAnswer {aiEnabled : Bool} {answer : KnowledgeAnswer}
    (hanswered : ¬ (answer.answered = false ∨ answer.evidence = [])) :
    (knowledgeAnswer aiEnabled answer).text.length =
      escapedLength answer.text +
        (∑ label ∈ (answer.evidence.map sourceLabel).toFinset, (escapedLength label + 2)) + 25 := by
  obtain ⟨hnodup, hmem⟩ := sourceLabels_spec answer.evidence
  have hsame : (answer.evidence.map sourceLabel).toFinset =
      (sourceLabels answer.evidence).toFinset := by
    ext label
    rw [List.mem_toFinset, List.mem_toFinset, hmem]
  have hsome : 2 ≤ ((sourceLabels answer.evidence).map fun label => escapedLength label + 2).sum := by
    cases hevidence : answer.evidence with
    | nil => exact absurd (.inr hevidence) hanswered
    | cons item rest =>
        have hlabel : sourceLabel item ∈ sourceLabels answer.evidence := by
          rw [hmem, hevidence]
          exact List.mem_cons_self
        rw [hevidence] at hlabel
        have hle := List.le_sum_of_mem
          (List.mem_map_of_mem (f := fun label => escapedLength label + 2) hlabel)
        omega
  rw [hsame, List.sum_toFinset _ hnodup]
  unfold knowledgeAnswer Text.joinComma
  rw [if_neg hanswered]
  simp only [List.length_append, length_safe, length_intercalate, List.map_map, Function.comp_def]
  repeat rw [String.toList_ofList]
  simp only [List.length_cons, List.length_nil, Nat.zero_add, Nat.reduceAdd]
  omega

/-! ## Qualification -/

theorem length_qualificationCorrection (correction : Text) :
    (qualificationCorrection correction).text.length = escapedLength correction + 18 := by
  unfold qualificationCorrection
  repeat rw [String.toList_ofList]
  simp only [List.length_append, length_safe, List.length_cons, List.length_nil]

section Qualification

variable [PythonText]

theorem length_qualificationConsent (session : QualificationSession)
    (schema : QualificationSchema) :
    (qualificationConsent session schema).text.length =
      escapedLength schema.title + escapedLength schema.consentPurpose +
        escapedLength schema.consentVersion + 169 := by
  unfold qualificationConsent
  repeat rw [String.toList_ofList]
  simp only [List.length_append, length_safe, List.length_cons, List.length_nil]
  omega

theorem length_qualificationQuestion (field : QualificationField) :
    (qualificationQuestion field).text.length =
      escapedLength field.label + escapedLength field.prompt +
        (if field.validation.options = [] then 0
          else escapedLength (Text.joinComma field.validation.options) + 18) + 8 := by
  unfold qualificationQuestion
  simp only [List.length_append, length_safe]
  by_cases hoptions : field.validation.options = []
  · rw [if_pos hoptions, if_neg (not_not.mpr hoptions)]
    repeat rw [String.toList_ofList]
    simp only [List.length_cons, List.length_nil]
    omega
  · rw [if_neg hoptions, if_pos hoptions]
    repeat rw [String.toList_ofList]
    simp only [List.length_append, length_safe, List.length_cons, List.length_nil]
    omega

theorem length_reviewLine (field : QualificationField) (shown : Text) :
    (reviewLine field shown).length + 1 = PageRequest.reviewLength field shown := by
  unfold reviewLine PageRequest.reviewLength
  repeat rw [String.toList_ofList]
  simp only [List.length_append, length_safe, List.length_cons, List.length_nil]
  omega

/-- The text of a case's page, in its time zone. -/
theorem length_handoff {zoneInfo : Text → Option ZoneInfo} {view : HandoffView} {zone : ZoneInfo}
    (hzone : zoneInfo (handoffTimezone view) = some zone) :
    ∃ page, handoff zoneInfo view = .ok page ∧ page.buttonRows = [homeRow] ∧
      page.text.length =
        view.status.value.length + (if view.status = .claimed then 0 else 1) +
          (longMoment (zone.astimezone view.responseDueAt)).length +
          escapedLength (handoffTimezone view) + 138 := by
  have hstatus : escapedLength view.status.value.toList = view.status.value.length := by
    cases view.status <;> decide
  have hclaimed : escapedLength "A team member is handling this request.".toList = 39 := by
    repeat rw [String.toList_ofList]
    decide
  have hqueued : escapedLength "The request is queued for a team member.".toList = 40 := by
    repeat rw [String.toList_ofList]
    decide
  unfold handoff
  simp only [hzone]
  refine ⟨_, rfl, rfl, ?_⟩
  simp only [List.length_append, length_safe, hstatus]
  split
  · rw [hclaimed]
    repeat rw [String.toList_ofList]
    simp only [List.length_cons, List.length_nil]
    omega
  · rw [hqueued]
    repeat rw [String.toList_ofList]
    simp only [List.length_cons, List.length_nil]
    omega

end Qualification

/-! ## Bookings -/

theorem length_bookingReview (booked : ServiceDTO) (draft : BookingDraft) (hold : SlotHold) :
    (bookingReview booked draft hold).text.length =
      escapedLength booked.name +
        (longMoment (hold.timezone.astimezone hold.timeRange.start)).length +
        escapedLength hold.timezone.key.toList + escapedLength (draft.customerName.getD []) +
        escapedLength (masked (draft.customerPhone.getD [])) + 163 := by
  unfold bookingReview
  repeat rw [String.toList_ofList]
  simp only [List.length_append, length_safe, List.length_cons, List.length_nil]
  omega

theorem length_bookingLines (booking : BookingResult) :
    (bookingLines booking).length =
      escapedLength booking.publicReference + escapedLength booking.serviceName +
        (longMoment (booking.timezone.astimezone booking.startAt)).length +
        escapedLength booking.timezone.key.toList + 45 := by
  unfold bookingLines
  repeat rw [String.toList_ofList]
  simp only [List.length_append, length_safe, List.length_cons, List.length_nil]
  omega

theorem length_bookingConfirmed (booking : BookingResult) :
    (bookingConfirmed booking).text.length = (bookingLines booking).length + 107 := by
  unfold bookingConfirmed
  simp only [List.length_append]
  repeat rw [String.toList_ofList]
  simp only [List.length_cons, List.length_nil]
  omega

theorem length_myBooking (booking : BookingResult) :
    (myBooking booking).text.length =
      (bookingLines booking).length + booking.status.value.length + 30 := by
  have hstatus : escapedLength booking.status.value.toList = booking.status.value.length := by
    cases booking.status <;> decide
  unfold myBooking
  simp only [List.length_append, length_safe, hstatus]
  repeat rw [String.toList_ofList]
  simp only [List.length_cons, List.length_nil]
  omega

theorem length_appointmentCancelConfirmation (booking : BookingResult) :
    (appointmentCancelConfirmation booking).text.length =
      escapedLength booking.publicReference + 94 := by
  unfold appointmentCancelConfirmation
  repeat rw [String.toList_ofList]
  simp only [List.length_append, length_safe, List.length_cons, List.length_nil]
  omega

theorem length_appointmentCancelled (booking : BookingResult) :
    (appointmentCancelled booking).text.length = escapedLength booking.publicReference + 39 := by
  unfold appointmentCancelled
  repeat rw [String.toList_ofList]
  simp only [List.length_append, length_safe, List.length_cons, List.length_nil]
  omega

end TelegramRenderer

end BusinessAssistant.Presentation
