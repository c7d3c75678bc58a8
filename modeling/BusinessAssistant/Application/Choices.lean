/-
# Which choices can be given

A choice is matched without regard to case, after trimming, and several choices are
split at commas. So an option with outer spaces, an option whose case folding an
earlier one has and, among several, an option with a comma is offered but cannot be
given. Everything that is accepted consists of options.
-/

import BusinessAssistant.Application.LeadEngine
import BusinessAssistant.Domain.CaseFolding
import Mathlib.Data.List.Dedup

namespace BusinessAssistant.Application

open BusinessAssistant.Domain BusinessAssistant.Foundation

section Choices

variable [PythonText]

/-! ## One choice -/

/-- No option before this one has its case folding. -/
def FirstOfItsFold (options : List Text) (option : Text) : Prop :=
  ∃ before after, options = before ++ option :: after ∧
    ∀ other ∈ before, PythonText.casefold other ≠ PythonText.casefold option

theorem find_option_iff {options : List Text} {option value : Text} :
    options.find? (fun item => PythonText.casefold item = PythonText.casefold value) =
        some option ↔
      PythonText.casefold option = PythonText.casefold value ∧ FirstOfItsFold options option := by
  rw [List.find?_eq_some_iff_append, decide_eq_true_eq]
  apply and_congr_right
  intro hsame
  unfold FirstOfItsFold
  simp only [hsame, Bool.not_eq_eq_eq_not, Bool.not_true, decide_eq_false_iff_not, ne_eq]

theorem validateAnswer_single {field : QualificationField}
    (hkind : field.fieldType = .singleChoice) (raw : Text) :
    validateAnswer field raw =
      match field.validation.options.find? fun item =>
        PythonText.casefold item = PythonText.casefold (Text.strip raw) with
      | some item => .ok (.text item)
      | none => .error (correction "Choose one of: " (Text.joinComma field.validation.options)
          ".") := by
  unfold validateAnswer
  rw [hkind]
  rfl

/-- An option can be given exactly when it is trimmed and the first of its fold. -/
theorem single_given_iff {fold : Char → Text} (hfold : FoldsCharacters fold)
    {field : QualificationField} (hkind : field.fieldType = .singleChoice) (option : Text) :
    (∃ raw, validateAnswer field raw = .ok (.text option)) ↔
      option.Trimmed ∧ FirstOfItsFold field.validation.options option := by
  constructor
  · intro hgiven
    obtain ⟨raw, hraw⟩ := hgiven
    rw [validateAnswer_single hkind] at hraw
    split at hraw
    · rename_i item hitem
      cases hraw
      obtain ⟨hsame, hfirst⟩ := find_option_iff.mp hitem
      refine ⟨?_, hfirst⟩
      rw [← hfold.trimmed_casefold, hsame, hfold.trimmed_casefold]
      exact Text.trimmed_strip raw
    · cases hraw
  · intro hboth
    obtain ⟨htrimmed, hfirst⟩ := hboth
    refine ⟨option, ?_⟩
    have hfound := find_option_iff.mpr ⟨rfl, hfirst⟩
    rw [validateAnswer_single hkind, Text.strip_of_trimmed htrimmed, hfound]

/-! ## Several choices -/

theorem validateAnswer_multi {field : QualificationField}
    (hkind : field.fieldType = .multiChoice) (raw : Text) :
    validateAnswer field raw =
      if field.validation.options.filter (fun item =>
            PythonText.casefold item ∈ suppliedChoices (Text.strip raw)) = [] ∨
          (field.validation.options.filter fun item =>
            PythonText.casefold item ∈ suppliedChoices (Text.strip raw)).length ≠
              (suppliedChoices (Text.strip raw)).length then
        .error (correction "Choose one or more comma-separated values from: "
          (Text.joinComma field.validation.options) ".")
      else .ok (.choices (field.validation.options.filter fun item =>
        PythonText.casefold item ∈ suppliedChoices (Text.strip raw))) := by
  unfold validateAnswer
  rw [hkind]
  rfl

/-- What is supplied are the foldings of trimmed texts without commas. -/
theorem mem_suppliedChoices {value folded : Text} (hmem : folded ∈ suppliedChoices value) :
    ∃ item : Text, item.Trimmed ∧ ',' ∉ item ∧ folded = PythonText.casefold item := by
  unfold suppliedChoices at hmem
  rw [List.mem_dedup, List.mem_map] at hmem
  obtain ⟨item, hitem, rfl⟩ := hmem
  obtain ⟨piece, hpiece, rfl⟩ := List.mem_map.mp (List.mem_of_mem_filter hitem)
  refine ⟨_, Text.trimmed_strip piece, ?_, rfl⟩
  intro hcomma
  exact Text.not_mem_of_mem_splitOn hpiece (Text.strip_subset hcomma)

/-- What a joined list of items supplies. -/
theorem suppliedChoices_joined {items : List Text} (hitems : items ≠ [])
    (hclean : ∀ item ∈ items, item.Trimmed ∧ item ≠ [] ∧ ',' ∉ item) :
    suppliedChoices ([','].intercalate items) = (items.map PythonText.casefold).dedup := by
  have hsplit := List.splitOn_intercalate ',' (fun item hitem => (hclean item hitem).2.2) hitems
  have htrim : items.map Text.strip = items := by
    conv => rhs; rw [← List.map_id items]
    apply List.map_congr_left
    intro item hitem
    exact Text.strip_of_trimmed (hclean item hitem).1
  have hkeep : items.filter (· ≠ []) = items := by
    apply List.filter_eq_self.mpr
    intro item hitem
    exact decide_eq_true (hclean item hitem).2.1
  unfold suppliedChoices
  rw [hsplit, htrim, hkeep]

/-- Options that are trimmed, have no commas, and are chosen with every option of the
same folding. -/
structure Selectable (options chosen : List Text) : Prop where
  clean : ∀ option ∈ chosen, option.Trimmed ∧ ',' ∉ option
  together : ∀ option ∈ chosen, ∀ other ∈ options,
    PythonText.casefold other = PythonText.casefold option → other ∈ chosen

theorem selectable_of_given {fold : Char → Text} (hfold : FoldsCharacters fold)
    {field : QualificationField} (hkind : field.fieldType = .multiChoice) {chosen : List Text}
    {raw : Text} (hraw : validateAnswer field raw = .ok (.choices chosen)) :
    Selectable field.validation.options chosen := by
  rw [validateAnswer_multi hkind] at hraw
  split at hraw
  · cases hraw
  · cases hraw
    constructor
    · intro option hoption
      have hsupplied := of_decide_eq_true (List.mem_filter.mp hoption).2
      obtain ⟨item, htrimmed, hcomma, hsame⟩ := mem_suppliedChoices hsupplied
      constructor
      · rwa [← hfold.trimmed_casefold, hsame, hfold.trimmed_casefold]
      · rwa [← hfold.comma_mem_casefold, hsame, hfold.comma_mem_casefold]
    · intro option hoption other hother hsame
      rw [List.mem_filter, decide_eq_true_eq] at hoption ⊢
      exact ⟨hother, by rw [hsame]; exact hoption.2⟩

/-! ### Filling up a choice

Options of one folding are supplied by one text, and then more is selected than was
supplied. Texts longer than the folding of every option make up for it. -/

/-- `count` texts of different lengths, each longer than `bound`. -/
def longTexts (bound count : ℕ) : List Text :=
  (List.range count).map fun index => List.replicate (bound + 1 + index) 'x'

omit [PythonText] in
theorem clean_of_mem_longTexts {bound count : ℕ} {item : Text}
    (hitem : item ∈ longTexts bound count) : item.Trimmed ∧ item ≠ [] ∧ ',' ∉ item := by
  obtain ⟨index, _, rfl⟩ := List.mem_map.mp hitem
  have honly : ∀ char ∈ List.replicate (bound + 1 + index) 'x', char = 'x' :=
    fun _ hchar => List.eq_of_mem_replicate hchar
  have hletter : Text.isSpace 'x' = false := by decide
  refine ⟨⟨?_, ?_⟩, ?_, ?_⟩
  · intro char hchar
    rw [honly char (List.mem_of_mem_head? hchar)]
    exact hletter
  · intro char hchar
    rw [honly char (List.mem_of_mem_getLast? hchar)]
    exact hletter
  · intro hnil
    simp at hnil
  · intro hcomma
    exact absurd (honly ',' hcomma) (by decide)

theorem nodup_longTexts {fold : Char → Text} (hfold : FoldsCharacters fold) (bound count : ℕ) :
    ((longTexts bound count).map PythonText.casefold).Nodup := by
  unfold longTexts
  rw [List.map_map]
  apply List.Nodup.map_on _ List.nodup_range
  intro first _ second _ hsame
  have hlength := congrArg List.length hsame
  simp only [Function.comp_apply, hfold.length_casefold_replicate] at hlength
  have hpositive := List.length_pos_of_ne_nil (hfold.nonempty 'x')
  have := Nat.eq_of_mul_eq_mul_right hpositive hlength
  omega

/-- Long texts fold to texts longer than the bound. -/
theorem length_of_mem_longTexts {fold : Char → Text} (hfold : FoldsCharacters fold)
    {bound count : ℕ} {item : Text} (hitem : item ∈ longTexts bound count) :
    bound < (PythonText.casefold item).length := by
  obtain ⟨index, _, rfl⟩ := List.mem_map.mp hitem
  rw [hfold.length_casefold_replicate]
  have hpositive := List.length_pos_of_ne_nil (hfold.nonempty 'x')
  calc bound < bound + 1 + index := by omega
    _ ≤ (bound + 1 + index) * (fold 'x').length := Nat.le_mul_of_pos_right _ hpositive

omit [PythonText] in
/-- Filtering a list without duplicates by one of its sublists gives the sublist. -/
theorem filter_mem_of_sublist {chosen options : List Text} (hsublist : chosen.Sublist options)
    (hnodup : options.Nodup) : options.filter (· ∈ chosen) = chosen := by
  induction hsublist with
  | slnil => rfl
  | cons option hsublist ih =>
      obtain ⟨hnew, hnodup⟩ := List.nodup_cons.mp hnodup
      rw [List.filter_cons_of_neg, ih hnodup]
      simpa using fun hmem => hnew (hsublist.subset hmem)
  | cons_cons option hsublist ih =>
      obtain ⟨hnew, hnodup⟩ := List.nodup_cons.mp hnodup
      rw [List.filter_cons_of_pos (by simp)]
      congr 1
      conv => rhs; rw [← ih hnodup]
      apply List.filter_congr
      intro other hother
      have hdiffer : other ≠ option := fun hsame => hnew (hsame ▸ hother)
      simp [hdiffer]

theorem given_of_selectable {fold : Char → Text} (hfold : FoldsCharacters fold)
    {field : QualificationField} (hkind : field.fieldType = .multiChoice) {chosen : List Text}
    (hnonempty : chosen ≠ []) (hsublist : chosen.Sublist field.validation.options)
    (hselectable : Selectable field.validation.options chosen) :
    ∃ raw, validateAnswer field raw = .ok (.choices chosen) := by
  have hvalid := field.validation.optionsValid
  let bound := (field.validation.options.map fun option =>
    (PythonText.casefold option).length).foldr max 0
  let folded := chosen.map PythonText.casefold
  let filling := longTexts bound (chosen.length - folded.dedup.length)
  have hshort : ∀ option ∈ field.validation.options,
      (PythonText.casefold option).length ≤ bound := by
    intro option hoption
    exact List.le_max_of_le' 0 (List.mem_map_of_mem hoption) le_rfl
  have hnotFilling : ∀ option ∈ field.validation.options,
      PythonText.casefold option ∉ filling.map PythonText.casefold := by
    intro option hoption hmem
    obtain ⟨item, hitem, hsame⟩ := List.mem_map.mp hmem
    have hlong := length_of_mem_longTexts hfold hitem
    rw [hsame] at hlong
    exact absurd (hshort option hoption) (Nat.not_le.mpr hlong)
  have hclean : ∀ item ∈ chosen ++ filling, item.Trimmed ∧ item ≠ [] ∧ ',' ∉ item := by
    intro item hitem
    rcases List.mem_append.mp hitem with hchosen | hfilling
    · obtain ⟨htrimmed, hcomma⟩ := hselectable.clean item hchosen
      refine ⟨htrimmed, ?_, hcomma⟩
      intro hnil
      apply hvalid.2 item (hsublist.subset hchosen)
      rw [hnil]
      rfl
    · exact clean_of_mem_longTexts hfilling
  have htrimmed : Text.Trimmed ([','].intercalate (chosen ++ filling)) :=
    Text.trimmed_intercalate fun item hitem => ⟨(hclean item hitem).1, (hclean item hitem).2.1⟩
  have hsupplied : suppliedChoices ([','].intercalate (chosen ++ filling)) =
      folded.dedup ++ filling.map PythonText.casefold := by
    rw [suppliedChoices_joined (List.append_ne_nil_of_left_ne_nil hnonempty _) hclean,
      List.map_append, List.Disjoint.dedup_append,
      (nodup_longTexts hfold _ _).dedup]
    intro item hitem hfilling
    obtain ⟨option, hoption, rfl⟩ := List.mem_map.mp hitem
    exact hnotFilling option (hsublist.subset hoption) hfilling
  have hselected : field.validation.options.filter (fun item =>
      PythonText.casefold item ∈ folded.dedup ++ filling.map PythonText.casefold) = chosen := by
    rw [← filter_mem_of_sublist hsublist hvalid.1]
    apply List.filter_congr
    intro option hoption
    rw [decide_eq_decide, List.mem_append, List.mem_dedup, List.mem_map]
    constructor
    · intro hmem
      rcases hmem with ⟨other, hother, hsame⟩ | hfilling
      · exact hselectable.together other hother option hoption hsame.symm
      · exact absurd hfilling (hnotFilling option hoption)
    · intro hmem
      exact .inl ⟨option, hmem, rfl⟩
  have hlength : (folded.dedup ++ filling.map PythonText.casefold).length = chosen.length := by
    have hle : folded.dedup.length ≤ chosen.length := by
      calc folded.dedup.length ≤ folded.length := (List.dedup_sublist folded).length_le
        _ = chosen.length := List.length_map _
    simp only [filling, longTexts, List.length_append, List.length_map, List.length_range]
    omega
  refine ⟨[','].intercalate (chosen ++ filling), ?_⟩
  rw [validateAnswer_multi hkind, Text.strip_of_trimmed htrimmed, hsupplied, hselected, hlength,
    if_neg]
  simp [hnonempty]

/-! ## What is offered and what is accepted -/

/-- The answers a choice field offers: one of the options, or some of them in their
order. -/
def OfferedAnswer (field : QualificationField) (answer : Answer) : Prop :=
  (field.fieldType = .singleChoice ∧ ∃ option ∈ field.validation.options, answer = .text option) ∨
    (field.fieldType = .multiChoice ∧ ∃ chosen : List Text, chosen ≠ [] ∧
      chosen.Sublist field.validation.options ∧ answer = .choices chosen)

/-- The condition under which an offered answer can be given. -/
def ReachableAnswer (options : List Text) : Answer → Prop
  | .text option => option.Trimmed ∧ FirstOfItsFold options option
  | .choices chosen => Selectable options chosen
  | _ => False

/-- A choice field accepts what it offers or asks for a correction. -/
theorem accepted_or_corrected {field : QualificationField}
    (hchoice : field.fieldType.isChoice = true) (raw : Text) :
    (∃ answer, validateAnswer field raw = .ok answer ∧ OfferedAnswer field answer) ∨
      ∃ message, validateAnswer field raw = .error (.invalidAnswer message) := by
  cases hkind : field.fieldType with
  | singleChoice =>
      rw [validateAnswer_single hkind]
      split
      · rename_i option hoption
        exact .inl ⟨_, rfl, .inl ⟨hkind, option, List.mem_of_find?_eq_some hoption, rfl⟩⟩
      · exact .inr ⟨_, rfl⟩
  | multiChoice =>
      rw [validateAnswer_multi hkind]
      split
      · exact .inr ⟨_, rfl⟩
      · rename_i haccepted
        exact .inl ⟨_, rfl, .inr ⟨hkind, _, fun hnone => haccepted (.inl hnone),
          List.filter_sublist, rfl⟩⟩
  | _ =>
      rw [hkind] at hchoice
      cases hchoice

/-- An offered choice can be given exactly when it is reachable, and what a choice field
accepts is offered. -/
theorem given_iff_reachable {fold : Char → Text} (hfold : FoldsCharacters fold)
    (field : QualificationField) (hchoice : field.fieldType.isChoice = true) :
    (∀ answer, OfferedAnswer field answer →
      ((∃ raw, validateAnswer field raw = .ok answer) ↔
        ReachableAnswer field.validation.options answer)) ∧
      ∀ raw,
        (∃ answer, validateAnswer field raw = .ok answer ∧ OfferedAnswer field answer) ∨
          ∃ message, validateAnswer field raw = .error (.invalidAnswer message) := by
  refine ⟨?_, accepted_or_corrected hchoice⟩
  intro answer hoffered
  rcases hoffered with ⟨hkind, option, _, rfl⟩ | ⟨hkind, chosen, hnonempty, hsublist, rfl⟩
  · exact single_given_iff hfold hkind option
  · constructor
    · intro hgiven
      obtain ⟨raw, hraw⟩ := hgiven
      exact selectable_of_given hfold hkind hraw
    · exact given_of_selectable hfold hkind hnonempty hsublist

end Choices

/-! ## A field of the workshop -/

namespace Workshop

open scoped Ascii

/-- No bounds and no options. -/
def unbounded : FieldValidation where
  minLength := none
  maxLength := none
  minimum := none
  maximum := none
  options := []
  pattern := none
  minLengthNonnegative := by simp
  maxLengthPositive := by simp
  lengthsOrdered := by simp
  valuesOrdered := by simp
  optionsValid := by simp

/-- Which brakes to check; one option has a comma. -/
def brakes : QualificationField where
  key := "brakes".toList
  label := "Brakes".toList
  prompt := "Which brakes should we check?".toList
  fieldType := .multiChoice
  validation :=
    { unbounded with
      options := ["Front".toList, "Rear, drum".toList]
      optionsValid := by decide }
  required := true
  order := 0
  sensitivity := .publicLevel
  scoreRules := []
  handoffTriggers := []
  identityAndCopyValid := by decide
  orderNonnegative := le_rfl
  choiceIffOptions := by decide

/-- The front brakes can be chosen alone. -/
theorem front_given :
    ∃ raw, validateAnswer brakes raw = .ok (.choices ["Front".toList]) :=
  ((given_iff_reachable Ascii.foldsCharacters brakes (by decide)).1 _
    (.inr ⟨rfl, ["Front".toList], by decide, by decide, rfl⟩)).mpr
      ⟨by decide, by decide⟩

/-- The option with a comma is offered, and no text chooses it. -/
theorem drum_not_given :
    OfferedAnswer brakes (.choices ["Rear, drum".toList]) ∧
      ¬ ∃ raw, validateAnswer brakes raw = .ok (.choices ["Rear, drum".toList]) := by
  refine ⟨.inr ⟨rfl, ["Rear, drum".toList], by decide, by decide, rfl⟩, ?_⟩
  intro hgiven
  obtain ⟨raw, hraw⟩ := hgiven
  have hclean := (selectable_of_given Ascii.foldsCharacters rfl hraw).clean "Rear, drum".toList
    (List.mem_singleton.mpr rfl)
  exact hclean.2 (by decide)

end Workshop

end BusinessAssistant.Application
