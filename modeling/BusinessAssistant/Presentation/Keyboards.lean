/-
# What survives delivery

A token of the gateway takes 53 bytes at most, so that a button can fail for its
page number only. A message survives when it has at most eight rows of at most two
buttons with pages in range, and a text that is not too long.
-/

import BusinessAssistant.Foundation.Folds
import BusinessAssistant.Presentation.Delivery

namespace BusinessAssistant.Presentation

open BusinessAssistant.Domain BusinessAssistant.Application BusinessAssistant.Foundation
  BusinessAssistant.Foundation.Base64

/-! ## The length of a token -/

theorem length_base36Loop {digits value : ℕ} (hvalue : value < 36 ^ digits) (result : Text) :
    (base36Loop value result).length ≤ digits + result.length := by
  induction digits generalizing value result with
  | zero =>
      have hzero : value = 0 := by simpa using hvalue
      rw [hzero, base36Loop, if_pos rfl]
      exact Nat.le_add_left _ _
  | succ digits ih =>
      rw [base36Loop]
      split
      · exact Nat.le_add_left _ _
      · have hquotient : value / 36 < 36 ^ digits := by
          apply Nat.div_lt_of_lt_mul
          rw [Nat.pow_succ] at hvalue
          omega
        have hrest := ih hquotient (base36Digit (value % 36) :: result)
        rw [List.length_cons] at hrest
        omega

theorem length_base36 {digits value : ℕ} (hdigits : 0 < digits) (hvalue : value < 36 ^ digits) :
    (base36 value).length ≤ digits := by
  unfold base36
  split
  · exact hdigits
  · exact length_base36Loop hvalue []

theorem length_action (action : CallbackAction) : action.value.length ≤ 2 := by
  cases action <;> decide

theorem length_entityPart {page : Option Int} (hpage : PageInRange page) (entityId : Option UUID) :
    (entityPart entityId page).length ≤ 26 := by
  have hentity : (entityText entityId).length ≤ 22 := by
    cases entityId with
    | none => decide
    | some id => rw [entityText_some, length_encodeUuid]
  cases page with
  | none => exact hentity.trans (by decide)
  | some number =>
      obtain ⟨hlow, hhigh⟩ := hpage number rfl
      have hnumber : number.toNat < 36 ^ 3 := by
        simp only [maxCallbackPage] at hhigh
        omega
      have hdigits := length_base36 (by decide) hnumber
      change (entityText entityId ++ '~' :: base36 number.toNat).length ≤ 26
      rw [List.length_append, List.length_cons]
      omega

/-- The bytes of an ASCII text are its characters. -/
theorem utf8Length_ascii {value : Text} (hascii : isAscii value = true) :
    utf8Length value = value.length := by
  induction value with
  | nil => rfl
  | cons char rest ih =>
      simp only [isAscii, List.all_cons, Bool.and_eq_true, decide_eq_true_eq] at hascii
      have hrest := ih (by simpa [isAscii] using hascii.2)
      have hchar : char.utf8Size = 1 := by
        rw [Char.utf8Size_eq_one_iff, UInt32.le_iff_toNat_le]
        exact Nat.le_of_lt_succ hascii.1
      unfold utf8Length at hrest ⊢
      rw [List.map_cons, List.sum_cons, hrest, hchar, List.length_cons]
      omega

section Gateway

variable {gateway : AiogramDeliveryGateway} {now : Timestamp} {tenantId : TenantId}

/-- A token is short. -/
theorem length_tokenParts {action : CallbackAction} {entityId : Option UUID} {page : Option Int}
    (hpage : PageInRange page) :
    (['.'].intercalate (tokenParts gateway.digest gateway.codec now.seconds tenantId action
      entityId page)).length ≤ maxCallbackBytes := by
  obtain ⟨hlowVersion, hhighVersion⟩ := gateway.versionValid
  obtain ⟨hlowExpiry, hhighExpiry⟩ := gateway.expiryValid
  obtain ⟨hlowNow, hhighNow⟩ := now.valid
  have hversion : (Text.ofInt gateway.codec.version).length ≤ 2 := by
    unfold Text.ofInt
    rw [if_neg (by omega)]
    apply (Nat.length_toDigits_le_iff (by decide) (by decide)).mpr
    omega
  have hexpires : (base36 (now.seconds + gateway.codec.expirySeconds).toNat).length ≤ 8 := by
    apply length_base36 (by decide)
    omega
  have haction := length_action action
  have hentity := length_entityPart hpage entityId
  have hsignature : ∀ body,
      (gateway.codec.signature gateway.digest tenantId body).length = 11 := by
    intro body
    unfold SignedCallbackCodec.signature
    rw [length_unpadded, gateway.digestLength]
  simp only [tokenParts, List.cons_append, List.nil_append, intercalate_five, List.length_append,
    List.length_cons, hsignature, maxCallbackBytes]
  simp only [List.intercalate, List.intersperse, List.flatten_cons, List.flatten_nil,
    List.length_append, List.length_cons, List.length_nil]
  omega

/-- A button fails for its page number only. -/
theorem encode_iff {action : CallbackAction} {entityId : Option UUID} {page : Option Int} :
    (∃ token, gateway.codec.encode gateway.digest now.seconds tenantId action entityId page =
      .ok token) ↔ PageInRange page := by
  constructor
  · intro htoken
    obtain ⟨token, hencode⟩ := htoken
    exact (encode_eq_ok hencode).1
  · intro hpage
    refine ⟨['.'].intercalate (tokenParts gateway.digest gateway.codec now.seconds tenantId action
      entityId page), ?_⟩
    have hexpires : ¬ now.seconds + gateway.codec.expirySeconds < 0 := by
      have hlowExpiry := gateway.expiryValid.1
      have hlowNow := now.valid.1
      omega
    have hrange : ¬ ∃ number ∈ page, ¬ (0 ≤ number ∧ number ≤ maxCallbackPage) := by
      intro hout
      obtain ⟨number, hnumber, hout⟩ := hout
      exact hout (hpage number hnumber)
    have hlength := @length_tokenParts gateway now tenantId action entityId page hpage
    rw [← utf8Length_ascii ascii_parts] at hlength
    simp only [tokenParts, List.cons_append, List.nil_append, intercalate_five] at hlength ⊢
    unfold SignedCallbackCodec.encode SignedCallbackCodec.body
    rw [if_neg hrange]
    simp only [if_neg hexpires, Except.bind]
    rw [if_neg (not_lt.mpr hlength)]

theorem inlineButton_iff {button : NavigationButton} :
    (∃ inline, gateway.inlineButton now tenantId button = .ok inline) ↔
      PageInRange button.page := by
  rw [← @encode_iff gateway now tenantId button.action button.entityId]
  unfold AiogramDeliveryGateway.inlineButton
  constructor
  · intro hinline
    obtain ⟨inline, hinline⟩ := hinline
    split at hinline
    · cases hinline
    · rename_i token htoken
      exact ⟨token, htoken⟩
  · intro htoken
    obtain ⟨token, htoken⟩ := htoken
    rw [htoken]
    exact ⟨_, rfl⟩

theorem text_inlineButton {button : NavigationButton} {inline : InlineKeyboardButton}
    (hinline : gateway.inlineButton now tenantId button = .ok inline) :
    inline.text = button.label := by
  unfold AiogramDeliveryGateway.inlineButton at hinline
  split at hinline
  · cases hinline
  · cases hinline
    rfl

end Gateway

/-! ## Messages that survive -/

/-- The buttons at the place of a row. -/
def ButtonRow.all : ButtonRow → List NavigationButton
  | .buttons row => row
  | .bare button => [button]

/-- The labels of a message, row by row. -/
def RenderedMessage.labels (page : RenderedMessage) : List (List Text) :=
  page.buttonRows.map fun row => row.all.map (·.label)

/-- The texts of an inline keyboard, row by row. -/
def keyboardTexts (keyboard : List (List InlineKeyboardButton)) : List (List Text) :=
  keyboard.map fun row => row.map (·.text)

/-- A message survives delivery: it is within the limits of the gateway, whose
keyboard has every button of it, each with its token; and its text is not too long. A
message that asks for the reply menu is sent without its rows, whatever becomes of them. -/
structure Survives (gateway : AiogramDeliveryGateway) (now : Timestamp) (tenantId : TenantId)
    (page : RenderedMessage) : Prop where
  fewRows : page.buttonRows.length ≤ 8
  fewButtons : ∀ row ∈ page.buttonRows, row.all.length ≤ 2
  allShown : ∃ keyboard, gateway.inlineMarkup now tenantId page = .ok keyboard ∧
    keyboardTexts (keyboard.getD []) = page.labels
  textFits : page.text.length ≤ telegramTextLimit

/-- With a message that survives goes the keyboard of its buttons, or the reply menu. -/
theorem Survives.sendMarkup {gateway : AiogramDeliveryGateway} {now : Timestamp}
    {tenantId : TenantId} {page : RenderedMessage} (h : Survives gateway now tenantId page) :
    ∃ markup, gateway.sendMarkup now tenantId page = .ok markup ∧
      ((page.showReplyMenu = true ∧ markup = some (.reply replyMenu)) ∨
        ∃ keyboard : Option (List (List InlineKeyboardButton)), markup = keyboard.map .inline ∧
          keyboardTexts (keyboard.getD []) = page.labels) := by
  obtain ⟨keyboard, hkeyboard, hshown⟩ := h.allShown
  by_cases hmenu : page.showReplyMenu = true
  · exact ⟨_, if_pos hmenu, .inl ⟨hmenu, rfl⟩⟩
  · refine ⟨keyboard.map .inline, ?_, .inr ⟨keyboard, rfl, hshown⟩⟩
    rw [AiogramDeliveryGateway.sendMarkup, if_neg hmenu, hkeyboard]
    rfl

/-- A row of at most two buttons with pages in range. -/
def ButtonRow.Fits (row : ButtonRow) : Prop :=
  ∃ buttons, row = .buttons buttons ∧ buttons.length ≤ 2 ∧
    ∀ button ∈ buttons, PageInRange button.page

section Survival

variable {gateway : AiogramDeliveryGateway} {now : Timestamp} {tenantId : TenantId}

/-- What becomes of a row that is not too long. -/
theorem inlineRow_eq_ok {row : ButtonRow} {inline : List InlineKeyboardButton}
    (hfew : row.all.length ≤ 2) (hinline : gateway.inlineRow now tenantId row = .ok inline) :
    row.Fits ∧ inline.map (·.text) = row.all.map (·.label) := by
  cases row with
  | bare button => cases hinline
  | buttons row =>
      have hall : row.take 2 = row := List.take_of_length_le hfew
      change (row.take 2).mapM (gateway.inlineButton now tenantId) = .ok inline at hinline
      rw [hall] at hinline
      have hpages : ∀ button ∈ row, PageInRange button.page := by
        intro button hbutton
        exact inlineButton_iff.mp (Folds.exists_mapM_iff.mp ⟨inline, hinline⟩ button hbutton)
      rw [Folds.mapM_eq_ok_iff] at hinline
      have htexts : inline.map (·.text) = row.map (·.label) := by
        clear hall hfew hpages
        induction hinline with
        | nil => rfl
        | cons hbutton hrest ih => rw [List.map_cons, List.map_cons, text_inlineButton hbutton, ih]
      exact ⟨⟨row, rfl, hfew, hpages⟩, htexts⟩

/-- A row that fits is shown. -/
theorem exists_inlineRow {row : ButtonRow} (hfits : row.Fits) :
    ∃ inline, gateway.inlineRow now tenantId row = .ok inline := by
  obtain ⟨buttons, rfl, -, hpages⟩ := hfits
  change ∃ inline, (buttons.take 2).mapM (gateway.inlineButton now tenantId) = .ok inline
  rw [Folds.exists_mapM_iff]
  intro button hbutton
  exact inlineButton_iff.mpr (hpages button (List.mem_of_mem_take hbutton))

theorem ButtonRow.Fits.few {row : ButtonRow} (hfits : row.Fits) : row.all.length ≤ 2 := by
  obtain ⟨buttons, rfl, hfew, -⟩ := hfits
  exact hfew

/-- A message survives exactly when it has few rows, each of which fits, and a text
that is not too long. -/
theorem survives_iff {page : RenderedMessage} : Survives gateway now tenantId page ↔
    page.buttonRows.length ≤ 8 ∧ (∀ row ∈ page.buttonRows, row.Fits) ∧
      page.text.length ≤ telegramTextLimit := by
  have hshown : ∀ rows : List ButtonRow, (∀ row ∈ rows, row.all.length ≤ 2) →
      ∀ keyboard, List.Forall₂ (fun row inline => gateway.inlineRow now tenantId row = .ok inline)
        rows keyboard → (∀ row ∈ rows, row.Fits) ∧
          keyboardTexts keyboard = rows.map fun row => row.all.map (·.label) := by
    intro rows hfew keyboard hkeyboard
    induction hkeyboard with
    | nil => exact ⟨fun _ hrow => absurd hrow List.not_mem_nil, rfl⟩
    | cons hrow hrest ih =>
        obtain ⟨hfits, htexts⟩ := inlineRow_eq_ok (hfew _ List.mem_cons_self) hrow
        obtain ⟨hothers, hlater⟩ := ih fun row hmem => hfew row (List.mem_cons_of_mem _ hmem)
        refine ⟨List.forall_mem_cons.mpr ⟨hfits, hothers⟩, ?_⟩
        unfold keyboardTexts at hlater ⊢
        rw [List.map_cons, List.map_cons, htexts, hlater]
  constructor
  · intro hsurvives
    refine ⟨hsurvives.fewRows, ?_, hsurvives.textFits⟩
    obtain ⟨keyboard, hkeyboard, -⟩ := hsurvives.allShown
    unfold AiogramDeliveryGateway.inlineMarkup at hkeyboard
    rw [List.take_of_length_le hsurvives.fewRows] at hkeyboard
    split at hkeyboard
    · rename_i hempty
      rw [hempty]
      exact fun _ hrow => absurd hrow List.not_mem_nil
    · cases hrows : page.buttonRows.mapM (gateway.inlineRow now tenantId) with
      | error failure =>
          rw [hrows] at hkeyboard
          cases hkeyboard
      | ok rows =>
          exact (hshown _ hsurvives.fewButtons rows (Folds.mapM_eq_ok_iff.mp hrows)).1
  · intro hfits
    obtain ⟨hfew, hrows, htext⟩ := hfits
    have hbuttons : ∀ row ∈ page.buttonRows, row.all.length ≤ 2 := fun row hrow =>
      (hrows row hrow).few
    refine ⟨hfew, hbuttons, ?_, htext⟩
    unfold AiogramDeliveryGateway.inlineMarkup RenderedMessage.labels
    rw [List.take_of_length_le hfew]
    split
    · rename_i hempty
      exact ⟨none, rfl, by rw [hempty]; rfl⟩
    · obtain ⟨keyboard, hkeyboard⟩ := Folds.exists_mapM_iff.mpr fun row hrow =>
        @exists_inlineRow gateway now tenantId row (hrows row hrow)
      refine ⟨some keyboard, by rw [hkeyboard]; rfl, ?_⟩
      exact (hshown _ hbuttons keyboard (Folds.mapM_eq_ok_iff.mp hkeyboard)).2

end Survival

end BusinessAssistant.Presentation
