/-
# Every page of the renderer

The pages that can raise, and the theorem on all requests: the pages of a request
survive delivery with everything on them exactly when the request fits.
-/

import BusinessAssistant.Presentation.PageLimits

namespace BusinessAssistant.Presentation

open BusinessAssistant.Domain BusinessAssistant.Application BusinessAssistant.Persistence
  BusinessAssistant.Foundation

section Survival

variable {gateway : AiogramDeliveryGateway} {now : Timestamp} {tenantId : TenantId}
  {aiEnabled : Bool} {zoneInfo : Text → Option ZoneInfo}

/-- Where a request has one page and no more is asked of it, the page decides. -/
theorem survivesDelivery_one [PythonText] {request : PageRequest} {page : RenderedMessage}
    (hrender : request.render aiEnabled zoneInfo = .ok [page])
    (heditable : ∀ pages, request.Editable pages) :
    request.SurvivesDelivery gateway now tenantId aiEnabled zoneInfo ↔
      Survives gateway now tenantId page := by
  constructor
  · intro hsurvives
    obtain ⟨pages, hpages, hall, -⟩ := hsurvives
    rw [hrender] at hpages
    cases hpages
    exact hall page List.mem_cons_self
  · intro hsurvives
    exact ⟨[page], hrender, List.forall_mem_singleton.mpr hsurvives, heditable [page]⟩

/-- Where a request has one page and no more is asked of it, what decides on the page
decides on the request. -/
theorem survivesDelivery_page [PythonText] {request : PageRequest} {page : RenderedMessage}
    {condition : Prop} (hrender : request.render aiEnabled zoneInfo = .ok [page])
    (heditable : ∀ pages, request.Editable pages)
    (hpage : Survives gateway now tenantId page ↔ condition) :
    request.SurvivesDelivery gateway now tenantId aiEnabled zoneInfo ↔ condition :=
  (survivesDelivery_one hrender heditable).trans hpage

/-! ## The review -/

section Review

variable [PythonText]

theorem survivesDelivery_review (session : QualificationSession) (schema : QualificationSchema) :
    (PageRequest.qualificationReview session schema).SurvivesDelivery gateway now tenantId
        aiEnabled zoneInfo ↔
      (PageRequest.qualificationReview session schema).Fits aiEnabled zoneInfo := by
  have htext : ∀ shown : List Text,
      (['\n'].intercalate ("<b>Review your service request</b>".toList ::
        List.zipWith TelegramRenderer.reviewLine schema.fields shown ++
          ["\nSubmit only if every detail is correct.".toList])).length =
        (List.zipWith PageRequest.reviewLength schema.fields shown).sum + 75 := by
    intro shown
    have hlines : (List.zipWith TelegramRenderer.reviewLine schema.fields shown).map
        (fun line => line.length + 1) =
          List.zipWith PageRequest.reviewLength schema.fields shown := by
      simp only [List.map_zipWith, TelegramRenderer.length_reviewLine]
    simp only [List.cons_append, length_lines, List.map_append, hlines, List.sum_append,
      List.map_cons, List.map_nil, List.sum_cons, List.sum_nil]
    repeat rw [String.toList_ofList]
    simp only [List.length_cons, List.length_nil]
    omega
  have hnodup : schema.fields.Nodup := List.Nodup.of_map _ schema.keysAndOrdersUnique.2
  have hfew : ((schema.fields.map (TelegramRenderer.editRow session)).take 6 ++
      [single "Submit request".toList .qualifySubmit (some session.id),
        TelegramRenderer.cancelRequestRow]).length ≤ 8 := by
    simp only [List.length_append, List.length_take, List.length_map, List.length_cons,
      List.length_nil]
    omega
  constructor
  · intro hsurvives
    obtain ⟨pages, hrender, hall, heditable⟩ := hsurvives
    simp only [PageRequest.render, TelegramRenderer.qualificationReview] at hrender
    split at hrender
    · cases hrender
    · rename_i lines hlines
      cases hrender
      obtain ⟨shown, hshown, rfl⟩ := Folds.mapM_map_eq_ok_iff.mp hlines
      obtain ⟨-, hrows, hlength⟩ := survives_iff.mp (hall _ List.mem_cons_self)
      have htake : ∀ field ∈ schema.fields, field ∈ schema.fields.take 6 := by
        intro field hfield
        obtain ⟨page, hpage, row, hrow, edit, hedit, haction, -, hnumber⟩ := heditable field hfield
        rw [List.mem_singleton.mp hpage] at hrow
        exact mem_take_of_editable hfield hrow hedit haction hnumber
      have hcount : schema.fields.length ≤ 6 :=
        (hnodup.subperm htake).length_le.trans (List.length_take_le _ _)
      refine ⟨hcount, ?_, shown, hshown, ?_⟩
      · intro field hfield
        rw [← fits_editRow session]
        apply hrows
        rw [← List.map_take]
        exact List.mem_append_left _ (List.mem_map_of_mem (htake field hfield))
      · rw [← htext shown]
        exact hlength
  · intro hfits
    obtain ⟨hcount, horders, shown, hshown, hlength⟩ := hfits
    have hlines := Folds.mapM_map_eq_ok_iff.mpr
      (⟨shown, hshown, rfl⟩ : ∃ values, List.Forall₂ (fun field text =>
        TelegramRenderer.answerText (session.answers.lookup field.key) = .ok text) schema.fields
          values ∧ List.zipWith TelegramRenderer.reviewLine schema.fields shown =
            List.zipWith TelegramRenderer.reviewLine schema.fields values)
    simp only [PageRequest.SurvivesDelivery, PageRequest.render,
      TelegramRenderer.qualificationReview, hlines]
    refine ⟨_, rfl, List.forall_mem_singleton.mpr (survives_iff.mpr ⟨hfew, ?_, ?_⟩), ?_⟩
    · simp only [← List.map_take, List.forall_mem_append, List.forall_mem_map,
        List.forall_mem_cons, fits_editRow, fits_single, pageInRange_none, fits_cancelRequestRow,
        List.not_mem_nil, false_implies, implies_true, and_true]
      intro field hfield
      exact horders field (List.mem_of_mem_take hfield)
    · exact (htext shown).trans_le hlength
    · intro field hfield
      refine ⟨_, List.mem_cons_self, TelegramRenderer.editRow session field, ?_, _,
        List.mem_singleton.mpr rfl, rfl, rfl, rfl⟩
      rw [List.take_of_length_le (by simpa using hcount)]
      exact List.mem_append_left _ (List.mem_map_of_mem hfield)

/-- A case whose time zone is not found has no page. -/
theorem survivesDelivery_handoff (view : HandoffView) :
    (PageRequest.handoff view).SurvivesDelivery gateway now tenantId aiEnabled zoneInfo ↔
      (PageRequest.handoff view).Fits aiEnabled zoneInfo := by
  cases hzone : zoneInfo (TelegramRenderer.handoffTimezone view) with
  | none =>
      have hrender : (PageRequest.handoff view).render aiEnabled zoneInfo =
          .error .zoneNotFound := by
        unfold PageRequest.render TelegramRenderer.handoff
        simp only [hzone]
        rfl
      constructor
      · intro hsurvives
        obtain ⟨pages, hpages, -⟩ := hsurvives
        rw [hrender] at hpages
        cases hpages
      · intro hfits
        obtain ⟨zone, hfound, -⟩ := hfits
        rw [hzone] at hfound
        cases hfound
  | some zone =>
      obtain ⟨page, hpage, hrows, hlength⟩ := TelegramRenderer.length_handoff hzone
      have hrender : (PageRequest.handoff view).render aiEnabled zoneInfo = .ok [page] := by
        unfold PageRequest.render
        simp only [hpage]
        rfl
      rw [survivesDelivery_one hrender (fun _ => trivial),
        survives_of_rows (by rw [hrows]; decide) (by rw [hrows]; simp) hlength]
      constructor
      · intro hsize
        exact ⟨zone, hzone, hsize⟩
      · intro hfits
        obtain ⟨found, hfound, hsize⟩ := hfits
        rw [hzone] at hfound
        cases hfound
        exact hsize

end Review

/-! ## Dates and times -/

theorem survives_noSlots : Survives gateway now tenantId TelegramRenderer.noSlots := by
  apply survives_fixedPages false
  simp only [fixedPages, List.mem_cons, true_or, or_true]

theorem bookingDatePage_eq_ok {date page : Int} (hpage : bookingDatePage date = .ok page) :
    page = date - bookingDateEpoch ∧ bookingDateEpoch ≤ date ∧
      date ≤ bookingDateEpoch + maxCallbackPage := by
  unfold bookingDatePage at hpage
  simp only at hpage
  split at hpage
  · cases hpage
    rename_i hrange
    omega
  · cases hpage

theorem bookingDatePage_of_range {date : Int} (hlow : bookingDateEpoch ≤ date)
    (hhigh : date ≤ bookingDateEpoch + maxCallbackPage) :
    bookingDatePage date = .ok (date - bookingDateEpoch) := by
  unfold bookingDatePage
  rw [if_pos (by omega)]

/-- The row of a date. -/
def dateRow (draft : BookingDraft) (date : Int) : ButtonRow :=
  single (shortDate date) .bookDate (some draft.id) (some (date - bookingDateEpoch))

/-- Rows are made only of dates that a token can carry. -/
theorem range_of_dateRows {draft : BookingDraft} {dates : List Int} {rows : List ButtonRow}
    (hrows : dates.mapM (fun item => (bookingDatePage item).map fun page =>
      single (shortDate item) .bookDate (some draft.id) (some page)) = .ok rows) :
    ∀ date ∈ dates, bookingDateEpoch ≤ date ∧ date ≤ bookingDateEpoch + maxCallbackPage := by
  intro date hdate
  obtain ⟨row, hrow⟩ := Folds.exists_mapM_iff.mp ⟨rows, hrows⟩ date hdate
  cases hpage : bookingDatePage date with
  | error failure =>
      rw [hpage] at hrow
      cases hrow
  | ok page => exact (bookingDatePage_eq_ok hpage).2

theorem survivesDelivery_bookingDates [PythonText] (booked : ServiceDTO) (draft : BookingDraft)
    (dates : List Int) :
    (PageRequest.bookingDates booked draft dates).SurvivesDelivery gateway now tenantId
        aiEnabled zoneInfo ↔
      (PageRequest.bookingDates booked draft dates).Fits aiEnabled zoneInfo := by
  by_cases hrange : ∀ date ∈ dates, bookingDateEpoch ≤ date ∧
      date ≤ bookingDateEpoch + maxCallbackPage
  · have hrows : dates.mapM (fun item => (bookingDatePage item).map fun page =>
        single (shortDate item) .bookDate (some draft.id) (some page)) =
          .ok (dates.map (dateRow draft)) := by
      apply Folds.mapM_eq_map
      intro date hdate
      rw [bookingDatePage_of_range (hrange date hdate).1 (hrange date hdate).2]
      rfl
    cases hdates : dates with
    | nil =>
        have hrender : (PageRequest.bookingDates booked draft []).render aiEnabled zoneInfo =
            .ok [TelegramRenderer.noSlots] := rfl
        rw [survivesDelivery_one hrender (fun _ => trivial)]
        exact iff_of_true survives_noSlots (.inl rfl)
    | cons date rest =>
        rw [hdates] at hrows hrange
        have hrender : (PageRequest.bookingDates booked draft (date :: rest)).render aiEnabled
            zoneInfo = .ok [{
              text := "<b>".toList ++ safe booked.name ++
                "</b>\nChoose an available date.".toList
              buttonRows := (date :: rest).map (dateRow draft) ++
                [TelegramRenderer.cancelBookingRow] }] := by
          unfold PageRequest.render TelegramRenderer.bookingDates
          simp only [hrows]
          rfl
        have hlength : ("<b>".toList ++ safe booked.name ++
            "</b>\nChoose an available date.".toList).length = escapedLength booked.name + 33 := by
          simp only [List.length_append, length_safe]
          repeat rw [String.toList_ofList]
          simp only [List.length_cons, List.length_nil]
          omega
        have hfits : ∀ other ∈ date :: rest, (dateRow draft other).Fits := by
          intro other hother
          obtain ⟨hlow, hhigh⟩ := hrange other hother
          rw [dateRow, fits_single, pageInRange_some]
          omega
        rw [survivesDelivery_one hrender (fun _ => trivial), survives_iff]
        simp only [hlength, telegramTextLimit, List.length_append, List.length_map,
          List.length_singleton, List.forall_mem_append, List.forall_mem_map,
          List.forall_mem_singleton, fits_cancelBookingRow, and_true]
        constructor
        · intro hpage
          obtain ⟨hcount, -, hsize⟩ := hpage
          exact .inr ⟨by omega, hrange, hsize⟩
        · intro hsmall
          rcases hsmall with hnone | ⟨hcount, -, hsize⟩
          · cases hnone
          · exact ⟨by omega, hfits, hsize⟩
  · constructor
    · intro hsurvives
      exfalso
      obtain ⟨pages, hrender, -⟩ := hsurvives
      simp only [PageRequest.render, TelegramRenderer.bookingDates] at hrender
      split at hrender
      · cases hrender
      · rename_i hrows
        exact hrange (range_of_dateRows hrows)
      · rename_i rows _ hrows
        exact hrange (range_of_dateRows hrows)
    · intro hsmall
      rcases hsmall with hnone | ⟨-, hall, -⟩
      · rw [hnone] at hrange
        exact absurd (fun _ hdate => absurd hdate List.not_mem_nil) hrange
      · exact absurd hall hrange

/-- The minute of a slot and its fold are in the range of a page. -/
theorem bookingSlotPage_range (startAt : Int) (timezone : ZoneInfo) :
    0 ≤ bookingSlotPage startAt timezone ∧ bookingSlotPage startAt timezone ≤ maxCallbackPage := by
  unfold bookingSlotPage Wall.minuteOfDay maxCallbackPage
  simp only
  split
  · omega
  · omega

theorem survivesDelivery_bookingTimes [PythonText] (booked : ServiceDTO) (draft : BookingDraft)
    (slots : List AvailableSlot) :
    (PageRequest.bookingTimes booked draft slots).SurvivesDelivery gateway now tenantId
        aiEnabled zoneInfo ↔
      (PageRequest.bookingTimes booked draft slots).Fits aiEnabled zoneInfo := by
  cases slots with
  | nil =>
      have hrender : (PageRequest.bookingTimes booked draft []).render aiEnabled zoneInfo =
          .ok [TelegramRenderer.noSlots] := rfl
      rw [survivesDelivery_one hrender (fun _ => trivial)]
      exact iff_of_true survives_noSlots (fun _ hslot => absurd hslot (by simp))
  | cons slot rest =>
      cases hselected : draft.selectedDate with
      | none =>
          constructor
          · intro hsurvives
            obtain ⟨pages, hrender, -⟩ := hsurvives
            simp only [PageRequest.render, TelegramRenderer.bookingTimes, hselected] at hrender
            cases hrender
          · intro hfits
            obtain ⟨-, selected, hsome, -⟩ := hfits slot rfl
            rw [hselected] at hsome
            cases hsome
      | some selected =>
          have hlength : ("<b>".toList ++ safe booked.name ++ "</b>\n".toList ++
              "Available times for ".toList ++ longDate selected ++ ". ".toList ++
              "Times use ".toList ++ safe slot.timezone.key.toList ++ ".".toList).length =
                escapedLength booked.name + (longDate selected).length +
                  escapedLength slot.timezone.key.toList + 41 := by
            simp only [List.length_append, length_safe]
            repeat rw [String.toList_ofList]
            simp only [List.length_cons, List.length_nil]
            omega
          have hrender := show (PageRequest.bookingTimes booked draft (slot :: rest)).render
              aiEnabled zoneInfo = .ok [_] by
            simp only [PageRequest.render, TelegramRenderer.bookingTimes, hselected]
            rfl
          rw [survivesDelivery_one hrender (fun _ => trivial), survives_iff]
          simp only [hlength, telegramTextLimit, List.length_append, List.length_map,
            List.length_take, List.length_cons, List.length_nil, List.forall_mem_append,
            List.forall_mem_map, List.forall_mem_singleton, fits_cancelBookingRow, fits_single,
            pageInRange_some, bookingSlotPage_range, and_self, implies_true, true_and]
          constructor
          · intro hpage
            obtain ⟨hcount, hsize⟩ := hpage
            intro first hfirst
            cases hfirst
            exact ⟨by simp only [List.length_cons]; omega, selected, hselected, hsize⟩
          · intro hfits
            obtain ⟨hcount, chosen, hchosen, hsize⟩ := hfits slot rfl
            rw [hselected] at hchosen
            cases hchosen
            simp only [List.length_cons] at hcount
            exact ⟨by omega, hsize⟩

/-! ## Long texts -/

/-- A text that is cut into messages survives, however long it is. -/
theorem survives_splitPlainText (value : Text) :
    ∀ page ∈ TelegramRenderer.splitPlainText value, Survives gateway now tenantId page := by
  have hchunks : ∀ page ∈ TelegramRenderer.chunks value, Survives gateway now tenantId page := by
    induction value using TelegramRenderer.chunks.induct with
    | case1 =>
        rw [TelegramRenderer.chunks]
        exact fun _ hpage => absurd hpage List.not_mem_nil
    | case2 char rest remaining ih =>
        rw [TelegramRenderer.chunks, List.forall_mem_cons]
        refine ⟨survives_made (Nat.zero_le 8) ?_ (length_chunkText _), ih⟩
        exact fun _ hrow => absurd hrow List.not_mem_nil
  unfold TelegramRenderer.splitPlainText
  split
  · rw [List.forall_mem_singleton]
    exact survives_made (Nat.zero_le 8) (fun _ hrow => absurd hrow List.not_mem_nil) (by decide)
  · exact hchunks

/-! ## All requests -/

/-- A page of the renderer survives delivery exactly when its request fits. -/
theorem survivesDelivery_iff_fits [PythonText] (gateway : AiogramDeliveryGateway)
    (now : Timestamp) (tenantId : TenantId) (aiEnabled : Bool)
    (zoneInfo : Text → Option ZoneInfo) (request : PageRequest) :
    request.SurvivesDelivery gateway now tenantId aiEnabled zoneInfo ↔
      request.Fits aiEnabled zoneInfo := by
  have hfixed : ∀ page ∈ fixedPages aiEnabled,
      (Survives gateway now tenantId page ↔ True) := fun page hpage =>
    iff_true_intro (survives_fixedPages aiEnabled page hpage)
  simp only [fixedPages, List.forall_mem_cons] at hfixed
  obtain ⟨hhelp, hprivacy, hplaceholder, hdeclined, hcompleted, hcancelled, haskName, haskPhone,
    hnoBooking, hnoSlots, hexpired, hinvalid, hunknown, hrecovery, herror, -⟩ := hfixed
  cases request with
  | home profile => exact survivesDelivery_page rfl (fun _ => trivial) (survives_home profile)
  | catalog categories page =>
      exact survivesDelivery_page rfl (fun _ => trivial) (survives_catalog categories page)
  | services category listed page =>
      exact survivesDelivery_page rfl (fun _ => trivial) (survives_services category listed page)
  | service shown => exact survivesDelivery_page rfl (fun _ => trivial) (survives_service shown)
  | hours days status nextOpening =>
      exact survivesDelivery_page rfl (fun _ => trivial) (survives_hours days status nextOpening)
  | help => exact survivesDelivery_page rfl (fun _ => trivial) hhelp
  | knowledgeAnswer answer =>
      exact survivesDelivery_page rfl (fun _ => trivial) (survives_knowledgeAnswer answer)
  | privacy => exact survivesDelivery_page rfl (fun _ => trivial) hprivacy
  | humanPlaceholder => exact survivesDelivery_page rfl (fun _ => trivial) hplaceholder
  | qualificationConsent session schema =>
      exact survivesDelivery_page rfl (fun _ => trivial)
        (survives_qualificationConsent session schema)
  | qualificationDeclined => exact survivesDelivery_page rfl (fun _ => trivial) hdeclined
  | qualificationQuestion field =>
      exact survivesDelivery_page rfl (fun _ => trivial) (survives_qualificationQuestion field)
  | qualificationCorrection correction =>
      exact survivesDelivery_page rfl (fun _ => trivial)
        (survives_qualificationCorrection correction)
  | qualificationReview session schema => exact survivesDelivery_review session schema
  | qualificationCompleted => exact survivesDelivery_page rfl (fun _ => trivial) hcompleted
  | handoff view => exact survivesDelivery_handoff view
  | cancelled => exact survivesDelivery_page rfl (fun _ => trivial) hcancelled
  | bookingServices listed =>
      exact survivesDelivery_page rfl (fun _ => trivial)
        (iff_true_intro (survives_bookingServices listed))
  | bookingDates booked draft dates => exact survivesDelivery_bookingDates booked draft dates
  | bookingTimes booked draft slots => exact survivesDelivery_bookingTimes booked draft slots
  | askName => exact survivesDelivery_page rfl (fun _ => trivial) haskName
  | askPhone => exact survivesDelivery_page rfl (fun _ => trivial) haskPhone
  | bookingReview booked draft hold =>
      exact survivesDelivery_page rfl (fun _ => trivial) (survives_bookingReview booked draft hold)
  | bookingConfirmed booking =>
      exact survivesDelivery_page rfl (fun _ => trivial) (survives_bookingConfirmed booking)
  | myBooking booking =>
      exact survivesDelivery_page rfl (fun _ => trivial) (survives_myBooking booking)
  | noBooking => exact survivesDelivery_page rfl (fun _ => trivial) hnoBooking
  | appointmentCancelConfirmation booking =>
      exact survivesDelivery_page rfl (fun _ => trivial)
        (survives_appointmentCancelConfirmation booking)
  | appointmentCancelled booking =>
      exact survivesDelivery_page rfl (fun _ => trivial) (survives_appointmentCancelled booking)
  | noSlots => exact survivesDelivery_page rfl (fun _ => trivial) hnoSlots
  | bookingExpired => exact survivesDelivery_page rfl (fun _ => trivial) hexpired
  | bookingInputInvalid => exact survivesDelivery_page rfl (fun _ => trivial) hinvalid
  | unknown => exact survivesDelivery_page rfl (fun _ => trivial) hunknown
  | callbackRecovery => exact survivesDelivery_page rfl (fun _ => trivial) hrecovery
  | error => exact survivesDelivery_page rfl (fun _ => trivial) herror
  | splitPlainText value => exact iff_true_intro ⟨_, rfl, survives_splitPlainText value, trivial⟩

end Survival

/-! ## A page that is lost -/

/-- A gateway with the settings' defaults; its digest is all zeros. -/
def zeroGateway : AiogramDeliveryGateway where
  codec := { signingKey := "key".toList, version := 1, expirySeconds := 900,
             hasKey := by decide }
  digest _ _ _ := List.replicate 8 0
  versionValid := by decide
  expiryValid := by decide
  digestLength := fun _ _ _ => rfl

/-- A service of short texts that can be booked. -/
def oilChange : ServiceDTO where
  id := 1
  name := "Oil change".toList
  description := "Oil and filter.".toList
  durationDisplay := "1 hour".toList
  price := { display := none }
  preparationNotes := none
  eligibilityNotes := none
  bookable := true

/-- Nobody sees the page of a service that can be booked: the gateway takes its first
button for a row and raises. -/
theorem bookable_service_lost :
    (∀ now tenantId, zeroGateway.inlineMarkup now tenantId (TelegramRenderer.service oilChange) =
      .error .typeError) ∧
    ¬ ∀ [PythonText] (gateway : AiogramDeliveryGateway) (now : Timestamp) (tenantId : TenantId)
        (aiEnabled : Bool) (zoneInfo : Text → Option ZoneInfo) (request : PageRequest),
        request.SurvivesDelivery gateway now tenantId aiEnabled zoneInfo := by
  constructor
  · intro now tenantId
    rfl
  · intro hall
    let _ : PythonText := ⟨id, fun _ => true, fun _ _ => none, fun _ => []⟩
    have hsurvives := hall zeroGateway ⟨1785747600, by decide⟩ 1 false (fun _ => none)
      (.service oilChange)
    obtain ⟨pages, hrender, hpages, -⟩ := hsurvives
    cases hrender
    have hpage := (survives_service_rows oilChange).mp (hpages _ List.mem_cons_self)
    exact Bool.noConfusion hpage.1

end BusinessAssistant.Presentation
