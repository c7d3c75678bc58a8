/-
# When a page survives delivery

The rows of each page, and the theorem on all of them: a page survives exactly when
its request fits. What does not fit are lists longer than the caps of the page
functions suppose, numbers outside the range of a token, texts that escaping makes
too long, and the page of a service that can be booked.
-/

import BusinessAssistant.Presentation.PageTexts

namespace BusinessAssistant.Presentation

open BusinessAssistant.Domain BusinessAssistant.Application BusinessAssistant.Persistence
  BusinessAssistant.Foundation

/-! ## Rows -/

@[simp]
theorem pageInRange_none : PageInRange none := fun _ hnumber => absurd hnumber (by simp)

@[simp]
theorem pageInRange_some (number : Int) :
    PageInRange (some number) ↔ 0 ≤ number ∧ number ≤ maxCallbackPage := by
  simp [PageInRange]

@[simp]
theorem fits_buttons (row : List NavigationButton) :
    (ButtonRow.buttons row).Fits ↔
      row.length ≤ 2 ∧ ∀ button ∈ row, PageInRange button.page := by
  simp [ButtonRow.Fits]

@[simp]
theorem not_fits_bare (button : NavigationButton) : ¬ (ButtonRow.bare button).Fits := by
  simp [ButtonRow.Fits]

@[simp]
theorem page_button (label : Text) (action : CallbackAction) (entityId : Option UUID)
    (page : Option Int) : (button label action entityId page).page = page := rfl

@[simp]
theorem fits_single (label : Text) (action : CallbackAction) (entityId : Option UUID)
    (page : Option Int) : (single label action entityId page).Fits ↔ PageInRange page := by
  simp [single]

@[simp]
theorem fits_homeRow : homeRow.Fits := by
  simp [homeRow]

@[simp]
theorem fits_cancelBookingRow : TelegramRenderer.cancelBookingRow.Fits := by
  simp [TelegramRenderer.cancelBookingRow]

@[simp]
theorem fits_cancelRequestRow : TelegramRenderer.cancelRequestRow.Fits := by
  simp [TelegramRenderer.cancelRequestRow]

theorem length_pageOf {α : Type} (values : List α) (page : CallbackPage) :
    (TelegramRenderer.pageOf values page).length ≤ 6 := by
  unfold TelegramRenderer.pageOf pageSize
  exact List.length_take_le _ _

theorem length_pagingRow (action : CallbackAction) (entityId : Option UUID) (page : CallbackPage)
    (count : ℕ) : (TelegramRenderer.pagingRow action entityId page count).length ≤ 1 := by
  unfold TelegramRenderer.pagingRow
  dsimp only
  split_ifs <;> simp

/-- The buttons to other pages fail only after the last page a token can carry. -/
theorem fits_pagingRow (action : CallbackAction) (entityId : Option UUID) (page : CallbackPage)
    (count : ℕ) :
    (∀ row ∈ TelegramRenderer.pagingRow action entityId page count, row.Fits) ↔
      (page.val = 46655 → count ≤ 279936) := by
  have hpage := page.isLt
  have hprevious : 0 < page.val → (0 : Int) ≤ page.val - 1 ∧ (page.val : Int) - 1 ≤ maxCallbackPage := by
    intro hpositive
    simp only [maxCallbackPage]
    omega
  have hnext : ((0 : Int) ≤ page.val + 1 ∧ (page.val : Int) + 1 ≤ maxCallbackPage) ↔
      page.val ≠ 46655 := by
    simp only [maxCallbackPage]
    omega
  unfold TelegramRenderer.pagingRow pageSize
  by_cases hfirst : 0 < page.val <;> by_cases hmore : page.val * 6 + 6 < count
  · simp [hfirst, hmore, hprevious hfirst]
    omega
  · simp [hfirst, hmore, hprevious hfirst]
    omega
  · simp [hfirst, hmore]
    omega
  · simp [hfirst, hmore]
    omega

section Limits

variable {gateway : AiogramDeliveryGateway} {now : Timestamp} {tenantId : TenantId}

/-- A message whose rows fit survives when its text does. -/
theorem survives_of_rows {page : RenderedMessage} {length : ℕ}
    (hfew : page.buttonRows.length ≤ 8) (hrows : ∀ row ∈ page.buttonRows, row.Fits)
    (hlength : page.text.length = length) :
    Survives gateway now tenantId page ↔ length ≤ 4096 := by
  rw [survives_iff, hlength]
  exact ⟨fun hsurvives => hsurvives.2.2, fun htext => ⟨hfew, hrows, htext⟩⟩

/-! ## Lists of categories and services -/

theorem survives_catalog (categories : List ServiceCategoryDTO) (page : CallbackPage) :
    Survives gateway now tenantId (TelegramRenderer.catalog categories page) ↔
      (page.val = 46655 → categories.length ≤ 279936) := by
  have htext : (TelegramRenderer.catalog categories page).text.length ≤ telegramTextLimit := by
    unfold TelegramRenderer.catalog
    dsimp only
    repeat rw [String.toList_ofList]
    decide
  have hpage := length_pageOf categories page
  have hpaging := length_pagingRow .catalog none page categories.length
  have hfew : (TelegramRenderer.catalog categories page).buttonRows.length ≤ 8 := by
    unfold TelegramRenderer.catalog
    simp only [List.length_append, List.length_map, List.length_singleton]
    omega
  rw [survives_iff, ← fits_pagingRow .catalog none page categories.length]
  unfold TelegramRenderer.catalog at hfew htext ⊢
  dsimp only at hfew htext ⊢
  simp only [List.forall_mem_append, List.forall_mem_map, List.forall_mem_singleton, fits_single,
    pageInRange_none, fits_homeRow, implies_true, true_and, and_true, hfew, htext]

theorem survives_services (category : ServiceCategoryDTO) (listed : List ServiceDTO)
    (page : CallbackPage) :
    Survives gateway now tenantId (TelegramRenderer.services category listed page) ↔
      (page.val = 46655 → listed.length ≤ 279936) ∧ escapedLength category.name + 46 ≤ 4096 := by
  have hpage := length_pageOf listed page
  have hpaging := length_pagingRow .category (some category.id) page listed.length
  have hfew : (TelegramRenderer.services category listed page).buttonRows.length ≤ 8 := by
    unfold TelegramRenderer.services
    simp only [List.length_append, List.length_map, List.length_singleton]
    omega
  rw [survives_iff, TelegramRenderer.length_services,
    ← fits_pagingRow .category (some category.id) page listed.length]
  unfold TelegramRenderer.services at hfew ⊢
  dsimp only at hfew ⊢
  simp only [List.forall_mem_append, List.forall_mem_map, List.forall_mem_singleton, fits_single,
    pageInRange_none, implies_true, true_and, and_true, hfew]
  exact Iff.rfl

/-- The page of a service that can be booked has a button for a row. -/
theorem survives_service_rows (shown : ServiceDTO) :
    Survives gateway now tenantId (TelegramRenderer.service shown) ↔
      shown.bookable = false ∧ (TelegramRenderer.service shown).text.length ≤ 4096 := by
  have hrows : (TelegramRenderer.service shown).buttonRows =
      (if shown.bookable then
        [ButtonRow.bare (button "Book now".toList .bookService (some shown.id))]
      else []) ++ [single "Back to services".toList .catalog, homeRow] := rfl
  rw [survives_iff, hrows, telegramTextLimit]
  generalize (TelegramRenderer.service shown).text.length = length
  cases shown.bookable
  · simp
  · simp

theorem survives_service [PythonText] {aiEnabled : Bool} {zoneInfo : Text → Option ZoneInfo}
    (shown : ServiceDTO) :
    Survives gateway now tenantId (TelegramRenderer.service shown) ↔
      (PageRequest.service shown).Fits aiEnabled zoneInfo := by
  refine (survives_service_rows shown).trans (and_congr_right fun hbookable => ?_)
  rw [TelegramRenderer.length_service hbookable]

theorem survives_bookingServices (listed : List ServiceDTO) :
    Survives gateway now tenantId (TelegramRenderer.bookingServices listed) := by
  have hbookable := List.length_filter_le (fun item : ServiceDTO => item.bookable)
    (listed.take pageSize)
  have hpage := List.length_take_le pageSize listed
  simp only [pageSize] at hbookable hpage
  unfold TelegramRenderer.bookingServices
  apply survives_iff.mpr
  dsimp only
  refine ⟨?_, ?_, ?_⟩
  · simp only [List.length_append, List.length_map, List.length_singleton, pageSize]
    omega
  · simp only [List.forall_mem_append, List.forall_mem_map, List.forall_mem_singleton, fits_single,
      pageInRange_none, fits_homeRow, implies_true, and_self]
  · repeat rw [String.toList_ofList]
    decide

/-! ## Fixed pages -/

/-- The pages whose texts are fixed. -/
def fixedPages (aiEnabled : Bool) : List RenderedMessage :=
  [TelegramRenderer.help aiEnabled, TelegramRenderer.privacy aiEnabled,
    TelegramRenderer.humanPlaceholder, TelegramRenderer.qualificationDeclined,
    TelegramRenderer.qualificationCompleted, TelegramRenderer.cancelled,
    TelegramRenderer.askName, TelegramRenderer.askPhone, TelegramRenderer.noBooking,
    TelegramRenderer.noSlots, TelegramRenderer.bookingExpired,
    TelegramRenderer.bookingInputInvalid, TelegramRenderer.unknown aiEnabled,
    TelegramRenderer.callbackRecovery, TelegramRenderer.error]

/-- A message with few rows that fit survives when its text does. -/
theorem survives_made_iff {text : Text} {rows : List ButtonRow} {showReplyMenu : Bool} {length : ℕ}
    (hfew : rows.length ≤ 8) (hrows : ∀ row ∈ rows, row.Fits) (hlength : text.length = length) :
    Survives gateway now tenantId
        { text := text, buttonRows := rows, showReplyMenu := showReplyMenu } ↔ length ≤ 4096 :=
  survives_of_rows hfew hrows hlength

theorem survives_made {text : Text} {rows : List ButtonRow} {showReplyMenu : Bool}
    (hfew : rows.length ≤ 8) (hrows : ∀ row ∈ rows, row.Fits) (htext : text.length ≤ 4096) :
    Survives gateway now tenantId
      { text := text, buttonRows := rows, showReplyMenu := showReplyMenu } :=
  survives_iff.mpr ⟨hfew, hrows, htext⟩

theorem survives_fixedPages (aiEnabled : Bool) :
    ∀ page ∈ fixedPages aiEnabled, Survives gateway now tenantId page := by
  cases aiEnabled <;>
    (simp only [fixedPages, List.forall_mem_cons]
     refine ⟨?_, ?_, ?_, ?_, ?_, ?_, ?_, ?_, ?_, ?_, ?_, ?_, ?_, ?_, ?_,
       fun _ hpage => absurd hpage List.not_mem_nil⟩ <;>
     (apply survives_made
      · decide
      · simp
      · repeat rw [String.toList_ofList]
        simp only [List.length_append, if_true, if_false, Bool.false_eq_true, List.length_cons,
          List.length_nil]
        omega))

/-! ## Pages of one text -/

section Texts

variable [PythonText] {aiEnabled : Bool} {zoneInfo : Text → Option ZoneInfo}

theorem survives_home (profile : TenantPublicProfileDTO) :
    Survives gateway now tenantId (TelegramRenderer.home aiEnabled profile) ↔
      (PageRequest.home profile).Fits aiEnabled zoneInfo :=
  survives_made_iff (by simp) (by simp) (TelegramRenderer.length_home aiEnabled profile)

theorem survives_hours (days : List BusinessDayDTO) (status : BusinessStatusDTO)
    (nextOpening : NextOpeningDTO) :
    Survives gateway now tenantId (TelegramRenderer.hours days status nextOpening) ↔
      (PageRequest.hours days status nextOpening).Fits aiEnabled zoneInfo :=
  survives_made_iff (by simp) (by simp) (TelegramRenderer.length_hours days status nextOpening)

/-- An answer without evidence is answered by the page for what is not known. -/
theorem survives_knowledgeAnswer (answer : KnowledgeAnswer) :
    Survives gateway now tenantId (TelegramRenderer.knowledgeAnswer aiEnabled answer) ↔
      (PageRequest.knowledgeAnswer answer).Fits aiEnabled zoneInfo := by
  by_cases hanswered : answer.answered = false ∨ answer.evidence = []
  · have hpage : TelegramRenderer.knowledgeAnswer aiEnabled answer =
        TelegramRenderer.unknown aiEnabled := if_pos hanswered
    have hfixed : TelegramRenderer.unknown aiEnabled ∈ fixedPages aiEnabled := by
      simp only [fixedPages, List.mem_cons, true_or, or_true]
    rw [hpage]
    exact iff_of_true (survives_fixedPages aiEnabled _ hfixed) (hanswered.imp_right .inl)
  · have hlength := @TelegramRenderer.length_knowledgeAnswer aiEnabled answer hanswered
    have hpage : TelegramRenderer.knowledgeAnswer aiEnabled answer = _ := if_neg hanswered
    refine (survives_of_rows ?_ ?_ hlength).trans ?_
    · rw [hpage]
      simp
    · rw [hpage]
      simp
    · rw [not_or] at hanswered
      exact ⟨fun hsize => .inr (.inr hsize), fun hfits =>
        (hfits.resolve_left hanswered.1).resolve_left hanswered.2⟩

theorem survives_qualificationConsent (session : QualificationSession)
    (schema : QualificationSchema) :
    Survives gateway now tenantId (TelegramRenderer.qualificationConsent session schema) ↔
      (PageRequest.qualificationConsent session schema).Fits aiEnabled zoneInfo :=
  survives_made_iff (by simp) (by simp)
    (TelegramRenderer.length_qualificationConsent session schema)

theorem survives_qualificationQuestion (field : QualificationField) :
    Survives gateway now tenantId (TelegramRenderer.qualificationQuestion field) ↔
      (PageRequest.qualificationQuestion field).Fits aiEnabled zoneInfo :=
  survives_made_iff (by simp) (by simp) (TelegramRenderer.length_qualificationQuestion field)

theorem survives_qualificationCorrection (correction : Text) :
    Survives gateway now tenantId (TelegramRenderer.qualificationCorrection correction) ↔
      (PageRequest.qualificationCorrection correction).Fits aiEnabled zoneInfo :=
  survives_made_iff (by simp) (by simp)
    (TelegramRenderer.length_qualificationCorrection correction)

theorem survives_bookingReview (booked : ServiceDTO) (draft : BookingDraft) (hold : SlotHold) :
    Survives gateway now tenantId (TelegramRenderer.bookingReview booked draft hold) ↔
      (PageRequest.bookingReview booked draft hold).Fits aiEnabled zoneInfo :=
  survives_made_iff (by simp) (by simp) (TelegramRenderer.length_bookingReview booked draft hold)

theorem survives_bookingConfirmed (booking : BookingResult) :
    Survives gateway now tenantId (TelegramRenderer.bookingConfirmed booking) ↔
      (PageRequest.bookingConfirmed booking).Fits aiEnabled zoneInfo :=
  survives_made_iff (by simp) (by simp)
    ((TelegramRenderer.length_bookingConfirmed booking).trans
      (by rw [TelegramRenderer.length_bookingLines]))

theorem survives_myBooking (booking : BookingResult) :
    Survives gateway now tenantId (TelegramRenderer.myBooking booking) ↔
      (PageRequest.myBooking booking).Fits aiEnabled zoneInfo := by
  refine survives_made_iff (by simp) (by simp)
    ((TelegramRenderer.length_myBooking booking).trans ?_)
  rw [TelegramRenderer.length_bookingLines]
  omega

theorem survives_appointmentCancelConfirmation (booking : BookingResult) :
    Survives gateway now tenantId (TelegramRenderer.appointmentCancelConfirmation booking) ↔
      (PageRequest.appointmentCancelConfirmation booking).Fits aiEnabled zoneInfo :=
  survives_made_iff (by simp) (by simp)
    (TelegramRenderer.length_appointmentCancelConfirmation booking)

theorem survives_appointmentCancelled (booking : BookingResult) :
    Survives gateway now tenantId (TelegramRenderer.appointmentCancelled booking) ↔
      (PageRequest.appointmentCancelled booking).Fits aiEnabled zoneInfo :=
  survives_made_iff (by simp) (by simp)
    (TelegramRenderer.length_appointmentCancelled booking)

end Texts

/-! ## The review -/

section Review

variable [PythonText]

/-- The rows of the review fit when the orders of the fields they edit do. -/
theorem fits_editRow (session : QualificationSession) (field : QualificationField) :
    (TelegramRenderer.editRow session field).Fits ↔ field.order ≤ maxCallbackPage := by
  simp [TelegramRenderer.editRow, field.orderNonnegative]

/-- A button to edit a field is the one of its own row: orders are distinct. -/
theorem mem_take_of_editable {session : QualificationSession} {schema : QualificationSchema}
    {field : QualificationField} (hfield : field ∈ schema.fields) {row : ButtonRow}
    (hrow : row ∈ (schema.fields.map (TelegramRenderer.editRow session)).take 6 ++
      [single "Submit request".toList .qualifySubmit (some session.id),
        TelegramRenderer.cancelRequestRow])
    {edit : NavigationButton} (hedit : edit ∈ row.all) (haction : edit.action = .qualifyEdit)
    (hpage : edit.page = some field.order) : field ∈ schema.fields.take 6 := by
  rw [List.mem_append, ← List.map_take] at hrow
  rcases hrow with hrow | hrow
  · obtain ⟨other, hother, rfl⟩ := List.mem_map.mp hrow
    rw [TelegramRenderer.editRow, single, ButtonRow.all, List.mem_singleton] at hedit
    rw [hedit] at hpage
    have horder : other.order = field.order := Option.some.inj hpage
    have hsame : other = field := List.inj_on_of_nodup_map schema.keysAndOrdersUnique.2
      (List.mem_of_mem_take hother) hfield horder
    rwa [hsame] at hother
  · simp only [List.mem_cons, List.not_mem_nil, or_false] at hrow
    rcases hrow with rfl | rfl
    · rw [single, ButtonRow.all, List.mem_singleton] at hedit
      rw [hedit] at haction
      cases haction
    · rw [TelegramRenderer.cancelRequestRow, single, ButtonRow.all, List.mem_singleton] at hedit
      rw [hedit] at haction
      cases haction

end Review

end Limits

end BusinessAssistant.Presentation
