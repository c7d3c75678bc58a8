/-
# Parsed AI outputs

What each reader of `application.ai.schemas` accepts, and what `parse_result` makes of it:
one equivalence for each, so that nothing later looks into the readers again.
-/

import BusinessAssistant.Application.AISchemas
import BusinessAssistant.Foundation.Folds
import BusinessAssistant.Foundation.Transaction

namespace BusinessAssistant.Application

open BusinessAssistant.Domain BusinessAssistant.Foundation

/-! ## What the readers accept -/

theorem readObject_eq_ok_iff {required : List Text} {value : Json} {item : List (Text × Json)} :
    readObject required value = .ok item ↔
      value = .object item ∧ ∀ key, key ∈ item.map Prod.fst ↔ key ∈ required := by
  cases value with
  | object entries =>
      simp only [readObject]
      split
      · rename_i hkeys
        have hsame : ∀ key, key ∈ entries.map Prod.fst ↔ key ∈ required := fun key =>
          ⟨hkeys.1 key, hkeys.2 key⟩
        simp only [Except.ok.injEq, Json.object.injEq]
        exact ⟨fun h => ⟨h, h ▸ hsame⟩, fun h => h.1⟩
      · rename_i hkeys
        simp only [reduceCtorEq, Json.object.injEq, false_iff]
        intro h
        obtain ⟨rfl, hsame⟩ := h
        exact hkeys ⟨fun key => (hsame key).mp, fun key => (hsame key).mpr⟩
  | _ => simp [readObject]

theorem readString_eq_ok_iff {maximum : ℕ} {value : Json} {text : Text} :
    readString maximum value = .ok text ↔
      value = .string text ∧ ¬ text.Blank ∧ text.length ≤ maximum := by
  cases value with
  | string given =>
      simp only [readString]
      split
      · rename_i hbad
        simp only [reduceCtorEq, Json.string.injEq, false_iff]
        intro h
        obtain ⟨rfl, hblank, hlength⟩ := h
        exact hbad.elim hblank (not_lt.mpr hlength)
      · rename_i hgood
        rw [not_or, not_lt] at hgood
        simp only [Except.ok.injEq, Json.string.injEq]
        exact ⟨fun h => ⟨h, h ▸ hgood⟩, fun h => h.1⟩
  | _ => simp [readString]

theorem one_lt_pow_sub_pow {small large : ℕ} (hsmall : 0 < small) (hlarge : small < large) :
    1 < 2 ^ large - 2 ^ small := by
  have hdouble : 2 ^ (small + 1) ≤ 2 ^ large := Nat.pow_le_pow_right Nat.two_pos hlarge
  have htwo : 2 ^ 1 ≤ 2 ^ small := Nat.pow_le_pow_right Nat.two_pos hsmall
  rw [Nat.pow_succ] at hdouble
  omega

theorem one_lt_floatOverflow : 1 < floatOverflow :=
  one_lt_pow_sub_pow (by decide) (by decide)

theorem confidenceInRange_eq_ok_iff {value : ℚ} {confidence : ModelConfidence} :
    confidenceInRange value = .ok confidence ↔ value = confidence.val := by
  unfold confidenceInRange
  split
  · rw [Except.ok.injEq, Subtype.ext_iff]
  · rename_i hout
    simp only [reduceCtorEq, false_iff]
    intro h
    exact hout (h ▸ confidence.property)

theorem readConfidence_eq_ok_iff {value : Json} {confidence : ModelConfidence} :
    readConfidence value = .ok confidence ↔ value.number? = some confidence.val := by
  cases value with
  | integer number =>
      simp only [readConfidence, Json.number?, Option.some.injEq]
      split
      · rename_i hoverflow
        simp only [reduceCtorEq, false_iff]
        intro h
        have hrange := confidence.property
        rw [← h] at hrange
        have hlow : 0 ≤ number := by exact_mod_cast hrange.1
        have hhigh : number ≤ 1 := by exact_mod_cast hrange.2
        have hlarge := one_lt_floatOverflow
        omega
      · exact confidenceInRange_eq_ok_iff
  | real number =>
      simp only [readConfidence, Json.number?, Option.some.injEq]
      exact confidenceInRange_eq_ok_iff
  | _ => simp [readConfidence, Json.number?]

theorem readStrings_eq_ok_iff {maximumItems maximumLength : ℕ} {value : Json} {texts : List Text} :
    readStrings maximumItems maximumLength value = .ok texts ↔
      value = .array (texts.map .string) ∧ texts.length ≤ maximumItems ∧
        ∀ text ∈ texts, ¬ text.Blank ∧ text.length ≤ maximumLength := by
  have hread : ∀ items : List Json, items.mapM (readString maximumLength) = .ok texts ↔
      items = texts.map .string ∧ ∀ text ∈ texts, ¬ text.Blank ∧ text.length ≤ maximumLength := by
    intro items
    rw [Folds.mapM_eq_ok_iff]
    simp only [readString_eq_ok_iff]
    constructor
    · intro h
      induction h with
      | nil => simp
      | cons hfirst _ ih =>
          rw [List.map_cons, List.forall_mem_cons, hfirst.1, ih.1]
          exact ⟨rfl, hfirst.2, ih.2⟩
    · intro h
      obtain ⟨rfl, htexts⟩ := h
      rw [List.forall₂_map_left_iff, List.forall₂_same]
      exact fun text htext => ⟨rfl, htexts text htext⟩
  cases value with
  | array items =>
      simp only [readStrings, Json.array.injEq]
      split
      · rename_i hlong
        simp only [reduceCtorEq, false_iff]
        intro h
        obtain ⟨rfl, hlength, _⟩ := h
        rw [List.length_map] at hlong
        omega
      · rename_i hshort
        rw [hread]
        constructor
        · intro h
          refine ⟨h.1, ?_, h.2⟩
          rw [h.1, List.length_map] at hshort
          exact not_lt.mp hshort
        · exact fun h => ⟨h.1, h.2.2⟩
  | _ => simp [readStrings]

/-- A member of an enumeration is found by its value. -/
theorem memberOf_eq_ok_iff {α : Type} {members : List α} {value : α → Text}
    (hmembers : ∀ member, member ∈ members) (hvalues : (members.map value).Nodup) {text : Text}
    {member : α} : memberOf members value text = .ok member ↔ value member = text := by
  unfold memberOf
  constructor
  · intro h
    split at h
    · rename_i found hfound
      cases h
      have hvalue := List.find?_some hfound
      exact of_decide_eq_true hvalue
    · cases h
  · intro h
    split
    · rename_i found hfound
      have hfind := List.find?_some hfound
      have hvalue : value found = value member := (of_decide_eq_true hfind).trans h.symm
      rw [List.inj_on_of_nodup_map hvalues (hmembers found) (hmembers member) hvalue]
    · rename_i hnone
      have hmissing := List.find?_eq_none.mp hnone member (hmembers member)
      exact absurd (decide_eq_true h) hmissing

theorem Intent.mem_members (intent : Intent) : intent ∈ Intent.members := by
  cases intent <;> decide

theorem SuggestedAction.mem_members (action : SuggestedAction) :
    action ∈ SuggestedAction.members := by
  cases action <;> decide

theorem RiskFlag.mem_members (flag : RiskFlag) : flag ∈ RiskFlag.members := by
  cases flag <;> decide

theorem Intent.value_valid (intent : Intent) : ¬ intent.value.Blank ∧ intent.value.length ≤ 100 := by
  cases intent <;> decide

theorem SuggestedAction.value_valid (action : SuggestedAction) :
    ¬ action.value.Blank ∧ action.value.length ≤ 100 := by
  cases action <;> decide

theorem RiskFlag.value_valid (flag : RiskFlag) : ¬ flag.value.Blank ∧ flag.value.length ≤ 500 := by
  cases flag <;> decide

theorem memberOf_intent {text : Text} {intent : Intent} :
    memberOf Intent.members Intent.value text = .ok intent ↔ intent.value = text :=
  memberOf_eq_ok_iff Intent.mem_members (by decide)

theorem memberOf_action {text : Text} {action : SuggestedAction} :
    memberOf SuggestedAction.members SuggestedAction.value text = .ok action ↔
      action.value = text :=
  memberOf_eq_ok_iff SuggestedAction.mem_members (by decide)

/-- Risk flags are read one by one. -/
theorem mapM_memberOf_flag {texts : List Text} {flags : List RiskFlag} :
    texts.mapM (memberOf RiskFlag.members RiskFlag.value) = .ok flags ↔
      texts = flags.map RiskFlag.value := by
  have hflag : ∀ (text : Text) (flag : RiskFlag),
      memberOf RiskFlag.members RiskFlag.value text = .ok flag ↔ text = flag.value := fun text flag =>
    (memberOf_eq_ok_iff RiskFlag.mem_members (by decide)).trans eq_comm
  rw [Folds.mapM_eq_ok_iff]
  simp only [hflag]
  rw [← List.forall₂_map_right_iff, List.forall₂_eq_eq_eq]

/-- A check that has passed, passes. -/
theorem validated_eq_ok_iff {condition : Prop} [Decidable condition] {message : String}
    (h : PLift condition) : validated condition message = .ok h ↔ True := by
  unfold validated
  rw [dif_pos h.down]
  exact iff_true_intro rfl

section Parsing

variable [PythonText]

theorem readField_eq_ok_iff {value : Json} {field : ExtractedField} :
    readField value = .ok field ↔ ∃ item, value = .object item ∧
      (∀ key, key ∈ item.map Prod.fst ↔ key ∈ fieldKeys) ∧
      Json.entry item "key".toList = .string field.key ∧ ¬ field.key.Blank ∧
      field.key.length ≤ 100 ∧ Json.entry item "value".toList = .string field.value ∧
      (Json.entry item "confidence".toList).number? = some field.confidence.val := by
  simp only [readField, except_bind_eq_ok, except_mapError_eq_ok, readObject_eq_ok_iff,
    readString_eq_ok_iff, readConfidence_eq_ok_iff, ExtractedField.make, validated_eq_ok_iff,
    except_pure_eq_ok]
  constructor
  · intro h
    obtain ⟨item, ⟨rfl, hkeys⟩, key, ⟨hkey, hblank, hlength⟩, text, ⟨htext, _⟩, confidence,
      hconfidence, _, _, rfl⟩ := h
    exact ⟨item, rfl, hkeys, hkey, hblank, hlength, htext, hconfidence⟩
  · intro h
    obtain ⟨item, rfl, hkeys, hkey, hblank, hlength, htext, hconfidence⟩ := h
    exact ⟨item, ⟨rfl, hkeys⟩, field.key, ⟨hkey, hblank, hlength⟩, field.value,
      ⟨htext, field.valid.2⟩, field.confidence, hconfidence, ⟨field.valid⟩, trivial, rfl⟩

theorem readFields_eq_ok_iff {value : Json} {fields : List ExtractedField} :
    readFields value = .ok fields ↔ ∃ items, value = .array items ∧ items.length ≤ 30 ∧
      List.Forall₂ (fun item field => readField item = .ok field) items fields := by
  cases value with
  | array items =>
      simp only [readFields, Json.array.injEq]
      split
      · rename_i hlong
        simp only [reduceCtorEq, false_iff]
        intro h
        obtain ⟨_, rfl, hlength, _⟩ := h
        omega
      · rename_i hshort
        rw [Folds.mapM_eq_ok_iff]
        exact ⟨fun h => ⟨items, rfl, not_lt.mp hshort, h⟩, fun h => by
          obtain ⟨_, rfl, _, hfields⟩ := h
          exact hfields⟩
  | _ => simp [readFields]

theorem readFields_keys {value : Json} {fields : List ExtractedField}
    (hread : readFields value = .ok fields) :
    ∀ field ∈ fields, ¬ field.key.Blank ∧ field.key.length ≤ 100 := by
  obtain ⟨items, -, -, hitems⟩ := readFields_eq_ok_iff.mp hread
  clear hread
  induction hitems with
  | nil => exact fun _ hnone => absurd hnone List.not_mem_nil
  | cons hfirst _ ih =>
      obtain ⟨_, _, _, _, hblank, hlength, _⟩ := readField_eq_ok_iff.mp hfirst
      rw [List.forall_mem_cons]
      exact ⟨⟨hblank, hlength⟩, ih⟩

/-- What `parse_result` reads for the request's task, and that it is in the allowlists. -/
theorem parseResult_eq_ok_iff {request : AIRequest} {output : Json} {result : AIResult} :
    parseResult request output = .ok result ↔
      parseOutput request.task output = .ok result ∧
        validateApplicationResult request result = .ok () := by
  simp only [parseResult, except_bind_eq_ok, except_mapError_eq_ok, except_pure_eq_ok]
  constructor
  · intro h
    obtain ⟨_, hparse, _, hvalid, rfl⟩ := h
    exact ⟨hparse, hvalid⟩
  · intro h
    exact ⟨result, h.1, (), h.2, rfl⟩

end Parsing

end BusinessAssistant.Application
