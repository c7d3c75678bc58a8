/-
# The language of AI outputs

What `parse_result` reads satisfies the schema that is sent to the provider. What satisfies
the schema is read, unless it breaks one of a few rules that the schema does not express, or
names a field or a label of the allowlist that is longer than the parser takes.
-/

import BusinessAssistant.Application.AIParsing
import BusinessAssistant.Domain.CaseFolding

namespace BusinessAssistant.Application

open BusinessAssistant.Domain BusinessAssistant.Foundation

/-! ## What is read satisfies the schema -/

/-- The schema of a string that may not be empty. -/
theorem satisfies_text {maximum : ℕ} {text : Text} (hblank : ¬ text.Blank)
    (hlength : text.length ≤ maximum) :
    Satisfies (.string (some 1) (some maximum)) (.string text) := by
  refine .string ?_ ?_
  · intro bound hbound
    cases hbound
    rw [Nat.one_le_iff_ne_zero, Ne, List.length_eq_zero_iff]
    intro hnone
    exact hblank (by rw [hnone]; rfl)
  · intro bound hbound
    cases hbound
    exact hlength

theorem satisfies_confidence {value : Json} {confidence : ModelConfidence}
    (hvalue : value.number? = some confidence.val) : Satisfies confidenceSchema value :=
  .number hvalue confidence.property.1 confidence.property.2

theorem exists_confidence {value : Json} (hschema : Satisfies confidenceSchema value) :
    ∃ confidence : ModelConfidence, value.number? = some confidence.val := by
  obtain ⟨number, hnumber, hmin, hmax⟩ := satisfies_number_iff.mp hschema
  exact ⟨⟨number, hmin, hmax⟩, hnumber⟩

/-- Values of the schema of risk flags are risk flags. -/
theorem exists_flags {items : List Json}
    (hitems : ∀ item ∈ items, Satisfies (.choice (RiskFlag.members.map RiskFlag.value)) item) :
    ∃ flags : List RiskFlag, items = (flags.map RiskFlag.value).map .string := by
  induction items with
  | nil => exact ⟨[], rfl⟩
  | cons first rest ih =>
      rw [List.forall_mem_cons] at hitems
      obtain ⟨flags, rfl⟩ := ih hitems.2
      obtain ⟨_, rfl, hmem⟩ := satisfies_choice_iff.mp hitems.1
      obtain ⟨flag, _, rfl⟩ := List.mem_map.mp hmem
      exact ⟨flag :: flags, rfl⟩

/-- An object of a schema has its keys, and each entry satisfies its own schema. -/
theorem satisfies_objectSchema_iff {properties : List (Text × Schema)} {value : Json} :
    Satisfies (objectSchema properties) value ↔ ∃ item, value = .object item ∧
      (∀ key, key ∈ item.map Prod.fst ↔ key ∈ properties.map Prod.fst) ∧
      ∀ property ∈ properties, Satisfies property.2 (Json.entry item property.1) :=
  satisfies_object_iff rfl

theorem satisfies_field_iff {keySchema : Schema} {value : Json} :
    Satisfies (extractedFieldSchema keySchema) value ↔ ∃ item, value = .object item ∧
      (∀ key, key ∈ item.map Prod.fst ↔ key ∈ fieldKeys) ∧
      Satisfies keySchema (Json.entry item "key".toList) ∧
      Satisfies (.string (some 1) (some 1000)) (Json.entry item "value".toList) ∧
      Satisfies confidenceSchema (Json.entry item "confidence".toList) := by
  have hkeys : fieldKeys = [("key".toList, keySchema), ("value".toList,
      Schema.string (some 1) (some 1000)), ("confidence".toList, confidenceSchema)].map Prod.fst := rfl
  unfold extractedFieldSchema
  rw [satisfies_object_iff hkeys]
  simp only [List.forall_mem_cons, List.not_mem_nil, false_imp_iff, implies_true, and_true]

theorem mem_sortedTexts {values : List Text} {text : Text} :
    text ∈ sortedTexts values ↔ text ∈ values :=
  List.mem_insertionSort _

section Language

variable [PythonText]

theorem satisfies_of_readField {keySchema : Schema} {value : Json} {field : ExtractedField}
    (hread : readField value = .ok field) (hkey : Satisfies keySchema (.string field.key)) :
    Satisfies (extractedFieldSchema keySchema) value := by
  obtain ⟨item, rfl, hkeys, hkeyEntry, _, _, hvalue, hconfidence⟩ := readField_eq_ok_iff.mp hread
  refine satisfies_field_iff.mpr ⟨item, rfl, hkeys, ?_, ?_, satisfies_confidence hconfidence⟩
  · rw [hkeyEntry]
    exact hkey
  · rw [hvalue]
    exact satisfies_text field.valid.2.1 field.valid.2.2

theorem satisfies_of_readFields {keySchema : Schema} {value : Json} {fields : List ExtractedField}
    (hread : readFields value = .ok fields)
    (hkeys : ∀ field ∈ fields, Satisfies keySchema (.string field.key)) :
    Satisfies (.array (extractedFieldSchema keySchema) 30) value := by
  obtain ⟨items, rfl, hlength, hitems⟩ := readFields_eq_ok_iff.mp hread
  refine .array hlength ?_
  clear hread hlength
  induction hitems with
  | nil => exact fun _ hnone => absurd hnone List.not_mem_nil
  | cons hfirst _ ih =>
      rw [List.forall_mem_cons] at hkeys ⊢
      exact ⟨satisfies_of_readField hfirst hkeys.1, ih hkeys.2⟩

theorem satisfies_of_parseIntent {request : AIRequest} {output : Json} {result : AIResult}
    (htask : request.task = .intent) (hparse : parseIntent output = .ok result) :
    Satisfies (jsonSchemaFor request) output := by
  simp only [parseIntent, except_bind_eq_ok, readObject_eq_ok_iff, readString_eq_ok_iff,
    memberOf_intent, memberOf_action, mapM_memberOf_flag, readConfidence_eq_ok_iff,
    readStrings_eq_ok_iff] at hparse
  obtain ⟨item, ⟨rfl, hkeys⟩, intent, ⟨hintent, _⟩, member, rfl, confidence, hconfidence, entities,
    hentities, missing, ⟨hmissing, hmissingLength, hmissingTexts⟩, flags,
    ⟨hflags, hflagsLength, _⟩, riskFlags, rfl, action, ⟨haction, _⟩, suggested, rfl,
    rationale, ⟨hrationale, hrationaleText⟩, _⟩ := hparse
  unfold jsonSchemaFor
  rw [htask]
  refine satisfies_objectSchema_iff.mpr ⟨item, rfl, hkeys, ?_⟩
  simp only [List.forall_mem_cons, List.not_mem_nil, false_imp_iff, implies_true, and_true]
  refine ⟨?_, satisfies_confidence hconfidence, ?_, ?_, ?_, ?_, ?_⟩
  · rw [hintent]
    exact .choice (List.mem_map_of_mem member.mem_members)
  · refine satisfies_of_readFields hentities fun field hfield => ?_
    obtain ⟨hblank, hlength⟩ := readFields_keys hentities field hfield
    exact satisfies_text hblank hlength
  · rw [hmissing]
    refine .array (by rwa [List.length_map]) ?_
    rw [List.forall_mem_map]
    intro text htext
    refine .string (fun _ hnone => by cases hnone) ?_
    intro bound hbound
    cases hbound
    exact (hmissingTexts text htext).2
  · rw [hflags]
    refine .array (by rwa [List.length_map]) ?_
    rw [List.forall_mem_map, List.forall_mem_map]
    exact fun flag _ => .choice (List.mem_map_of_mem flag.mem_members)
  · rw [haction]
    exact .choice (List.mem_map_of_mem suggested.mem_members)
  · rw [hrationale]
    exact satisfies_text hrationaleText.1 hrationaleText.2

theorem satisfies_of_parseExtraction {request : AIRequest} {output : Json} {result : AIResult}
    (htask : request.task = .extraction) (hparse : parseExtraction output = .ok result)
    (hvalid : validateApplicationResult request result = .ok ()) :
    Satisfies (jsonSchemaFor request) output := by
  simp only [parseExtraction, except_bind_eq_ok, readObject_eq_ok_iff, readConfidence_eq_ok_iff,
    ExtractionResult.make, validated_eq_ok_iff, except_pure_eq_ok] at hparse
  obtain ⟨item, ⟨rfl, hkeys⟩, fields, hfields, confidence, hconfidence, _, ⟨_, _, rfl⟩, rfl⟩ := hparse
  have hallowed : ∀ field ∈ fields, field.key ∈ request.allowedExtractionFields := by
    intro field hfield
    by_contra houtside
    rw [validateApplicationResult, if_pos ⟨field, hfield, houtside⟩] at hvalid
    cases hvalid
  unfold jsonSchemaFor
  rw [htask]
  refine satisfies_objectSchema_iff.mpr ⟨item, rfl, hkeys, ?_⟩
  simp only [List.forall_mem_cons, List.not_mem_nil, false_imp_iff, implies_true, and_true]
  refine ⟨satisfies_of_readFields hfields fun field hfield => ?_, satisfies_confidence hconfidence⟩
  exact .choice (mem_sortedTexts.mpr (hallowed field hfield))

theorem satisfies_of_parseClassification {request : AIRequest} {output : Json} {result : AIResult}
    (htask : request.task = .classification) (hparse : parseClassification output = .ok result)
    (hvalid : validateApplicationResult request result = .ok ()) :
    Satisfies (jsonSchemaFor request) output := by
  simp only [parseClassification, except_bind_eq_ok, readObject_eq_ok_iff, readString_eq_ok_iff,
    readConfidence_eq_ok_iff, ClassificationResult.make, validated_eq_ok_iff, except_pure_eq_ok]
    at hparse
  obtain ⟨item, ⟨rfl, hkeys⟩, label, ⟨hlabel, _⟩, confidence, hconfidence, rationale,
    ⟨hrationale, hrationaleText⟩, _, ⟨_, _, rfl⟩, rfl⟩ := hparse
  have hallowed : label ∈ request.allowedClassificationLabels := by
    by_contra houtside
    rw [validateApplicationResult, if_pos houtside] at hvalid
    cases hvalid
  unfold jsonSchemaFor
  rw [htask]
  refine satisfies_objectSchema_iff.mpr ⟨item, rfl, hkeys, ?_⟩
  simp only [List.forall_mem_cons, List.not_mem_nil, false_imp_iff, implies_true, and_true]
  refine ⟨?_, satisfies_confidence hconfidence, ?_⟩
  · rw [hlabel]
    exact .choice (mem_sortedTexts.mpr hallowed)
  · rw [hrationale]
    exact satisfies_text hrationaleText.1 hrationaleText.2

theorem satisfies_of_parseRewrite {request : AIRequest} {output : Json} {result : AIResult}
    (htask : request.task = .rewrite) (hparse : parseRewrite output = .ok result) :
    Satisfies (jsonSchemaFor request) output := by
  simp only [parseRewrite, except_bind_eq_ok, readObject_eq_ok_iff, readString_eq_ok_iff,
    readConfidence_eq_ok_iff] at hparse
  obtain ⟨item, ⟨rfl, hkeys⟩, text, ⟨htext, hvalid⟩, confidence, hconfidence, _⟩ := hparse
  unfold jsonSchemaFor
  rw [htask]
  refine satisfies_objectSchema_iff.mpr ⟨item, rfl, hkeys, ?_⟩
  simp only [List.forall_mem_cons, List.not_mem_nil, false_imp_iff, implies_true, and_true]
  refine ⟨?_, satisfies_confidence hconfidence⟩
  rw [htext]
  exact satisfies_text hvalid.1 hvalid.2

theorem satisfies_of_parseSummary {request : AIRequest} {output : Json} {result : AIResult}
    (htask : request.task = .summary) (hparse : parseSummary output = .ok result) :
    Satisfies (jsonSchemaFor request) output := by
  simp only [parseSummary, except_bind_eq_ok, readObject_eq_ok_iff, readString_eq_ok_iff,
    readStrings_eq_ok_iff, readConfidence_eq_ok_iff] at hparse
  obtain ⟨item, ⟨rfl, hkeys⟩, summary, ⟨hsummary, hvalid⟩, keyPoints,
    ⟨hkeyPoints, hlength, htexts⟩, confidence, hconfidence, _⟩ := hparse
  unfold jsonSchemaFor
  rw [htask]
  refine satisfies_objectSchema_iff.mpr ⟨item, rfl, hkeys, ?_⟩
  simp only [List.forall_mem_cons, List.not_mem_nil, false_imp_iff, implies_true, and_true]
  refine ⟨?_, ?_, satisfies_confidence hconfidence⟩
  · rw [hsummary]
    exact satisfies_text hvalid.1 hvalid.2
  · rw [hkeyPoints]
    refine .array (by rwa [List.length_map]) ?_
    rw [List.forall_mem_map]
    exact fun text htext => satisfies_text (htexts text htext).1 (htexts text htext).2

/-- What is read satisfies the schema that was sent. -/
theorem satisfies_of_parseResult {request : AIRequest} {output : Json} {result : AIResult}
    (hresult : parseResult request output = .ok result) :
    Satisfies (jsonSchemaFor request) output := by
  obtain ⟨hparse, hvalid⟩ := parseResult_eq_ok_iff.mp hresult
  cases htask : request.task with
  | intent =>
      rw [htask] at hparse
      exact satisfies_of_parseIntent htask hparse
  | extraction =>
      rw [htask] at hparse
      exact satisfies_of_parseExtraction htask hparse hvalid
  | classification =>
      rw [htask] at hparse
      exact satisfies_of_parseClassification htask hparse hvalid
  | rewrite =>
      rw [htask] at hparse
      exact satisfies_of_parseRewrite htask hparse
  | summary =>
      rw [htask] at hparse
      exact satisfies_of_parseSummary htask hparse

/-! ## Rules that the schema does not express -/

/-- Some string of the value is blank. -/
def HasBlank (value : Json) : Prop := ∃ text, Json.Part (.string text) value ∧ Text.Blank text

/-- Some key of a field or some rationale is not an identifier. -/
def HasBadName (value : Json) : Prop :=
  ∃ item name text, Json.Part (.object item) value ∧
    (name = "key".toList ∨ name = "rationale_category".toList) ∧ name ∈ item.map Prod.fst ∧
    Json.entry item name = .string text ∧ PythonText.isidentifier text = false

/-- The key of an extracted field. -/
def fieldKey? : Json → Option Text
  | .object item =>
      match Json.entry item "key".toList with
      | .string key => some key
      | .null | .bool _ | .integer _ | .real _ | .array _ | .object _ => none
  | .null | .bool _ | .integer _ | .real _ | .string _ | .array _ => none

/-- Two of the fields or of the entities have the same key. -/
def HasRepeatedKey (value : Json) : Prop :=
  ∃ item name items, value = .object item ∧ (name = "fields".toList ∨ name = "entities".toList) ∧
    Json.entry item name = .array items ∧ ¬ (items.filterMap fieldKey?).Nodup

/-- A high-risk intent does not offer a person. -/
def HasUnsafeAction (value : Json) : Prop :=
  ∃ item, value = .object item ∧
    (Json.entry item "intent".toList = .string Intent.highRisk.value ∨
      Json.entry item "intent".toList = .string Intent.complaint.value ∨
      ∃ items flag, Json.entry item "risk_flags".toList = .array items ∧ .string flag ∈ items ∧
        flag ∈ [RiskFlag.highRisk.value, RiskFlag.safety.value, RiskFlag.complaint.value]) ∧
    Json.entry item "suggested_action".toList ≠ .string SuggestedAction.offerHuman.value

/-- The value breaks a rule that the schema does not express. -/
def BreaksRule (value : Json) : Prop :=
  HasBlank value ∨ HasBadName value ∨ HasRepeatedKey value ∨ HasUnsafeAction value

section Clean

/-- No string is blank, and the names are identifiers. -/
structure Clean (value : Json) : Prop where
  notBlank : ¬ HasBlank value
  names : ¬ HasBadName value

variable {value : Json}

theorem Clean.part {part : Json} (h : Clean value) (hpart : Json.Part part value) :
    Clean part where
  notBlank := by
    intro hblank
    obtain ⟨text, htext, hblank⟩ := hblank
    exact h.notBlank ⟨text, htext.trans hpart, hblank⟩
  names := by
    intro hbad
    obtain ⟨item, name, text, hitem, hbad⟩ := hbad
    exact h.names ⟨item, name, text, hitem.trans hpart, hbad⟩

/-- The entries of a clean object are clean. -/
theorem Clean.entry {item : List (Text × Json)} {key : Text} (h : Clean (.object item))
    (hkey : key ∈ item.map Prod.fst) : Clean (Json.entry item key) :=
  h.part (Json.part_entry hkey)

theorem Clean.text {text : Text} (h : Clean (.string text)) : ¬ text.Blank :=
  fun hblank => h.notBlank ⟨text, .whole _, hblank⟩

theorem Clean.identifier {item : List (Text × Json)} {name text : Text} (h : Clean (.object item))
    (hname : name = "key".toList ∨ name = "rationale_category".toList)
    (hmem : name ∈ item.map Prod.fst) (hentry : Json.entry item name = .string text) :
    PythonText.isidentifier text = true := by
  by_contra hbad
  exact h.names ⟨item, name, text, .whole _, hname, hmem, hentry, Bool.eq_false_iff.mpr hbad⟩

theorem Clean.item {items : List Json} {item : Json} (h : Clean (.array items))
    (hitem : item ∈ items) : Clean item :=
  h.part (.item hitem (.whole item))

/-- A clean value of a string's schema is a string that is read. -/
theorem Clean.string {minLength : Option ℕ} {maximum : ℕ} (h : Clean value)
    (hschema : Satisfies (.string minLength (some maximum)) value) :
    ∃ text, value = .string text ∧ ¬ Text.Blank text ∧ text.length ≤ maximum := by
  obtain ⟨text, rfl, _, hmax⟩ := satisfies_string_iff.mp hschema
  exact ⟨text, rfl, h.text, hmax maximum rfl⟩

theorem Clean.strings {minLength : Option ℕ} {maximumItems maximumLength : ℕ} (h : Clean value)
    (hschema : Satisfies (.array (.string minLength (some maximumLength)) maximumItems) value) :
    ∃ texts, readStrings maximumItems maximumLength value = .ok texts := by
  obtain ⟨items, rfl, hlength, hitems⟩ := satisfies_array_iff.mp hschema
  rw [readStrings, if_neg (not_lt.mpr hlength), Folds.exists_mapM_iff]
  intro item hitem
  obtain ⟨text, htext⟩ := (h.item hitem).string (hitems item hitem)
  exact ⟨text, readString_eq_ok_iff.mpr htext⟩

end Clean

/-- A clean value of a field's schema is a field, as long as the keys of the schema are no
longer than the parser takes. -/
theorem exists_field {keySchema : Schema} {value : Json} (h : Clean value)
    (hkeys : ∀ key, Satisfies keySchema key → ∃ text, key = .string text ∧ text.length ≤ 100)
    (hschema : Satisfies (extractedFieldSchema keySchema) value) :
    ∃ field, readField value = .ok field := by
  obtain ⟨item, rfl, hsame, hkey, hvalue, hconfidence⟩ := satisfies_field_iff.mp hschema
  have hmem : ∀ key ∈ fieldKeys, key ∈ item.map Prod.fst := fun key => (hsame key).mpr
  obtain ⟨key, hkeyEntry, hlength⟩ := hkeys _ hkey
  have hkeyMem := hmem "key".toList (by decide)
  have hkeyClean := h.entry hkeyMem
  rw [hkeyEntry] at hkeyClean
  obtain ⟨text, htext, hvalid⟩ := (h.entry (hmem "value".toList (by decide))).string hvalue
  obtain ⟨confidence, hnumber⟩ := exists_confidence hconfidence
  exact ⟨⟨key, text, confidence, h.identifier (.inl rfl) hkeyMem hkeyEntry, hvalid⟩,
    readField_eq_ok_iff.mpr ⟨item, rfl, hsame, hkeyEntry, hkeyClean.text, hlength, htext, hnumber⟩⟩

theorem exists_fields {keySchema : Schema} {value : Json} (h : Clean value)
    (hkeys : ∀ key, Satisfies keySchema key → ∃ text, key = .string text ∧ text.length ≤ 100)
    (hschema : Satisfies (.array (extractedFieldSchema keySchema) 30) value) :
    ∃ fields, readFields value = .ok fields := by
  obtain ⟨items, rfl, hlength, hitems⟩ := satisfies_array_iff.mp hschema
  rw [readFields, if_neg (not_lt.mpr hlength), Folds.exists_mapM_iff]
  exact fun item hitem => exists_field (h.item hitem) hkeys (hitems item hitem)

/-- The keys of the fields that are read are those of the items. -/
theorem filterMap_fieldKey {value : Json} {fields : List ExtractedField}
    (hread : readFields value = .ok fields) :
    ∃ items, value = .array items ∧ items.filterMap fieldKey? = fields.map (·.key) := by
  obtain ⟨items, rfl, -, hitems⟩ := readFields_eq_ok_iff.mp hread
  refine ⟨items, rfl, ?_⟩
  clear hread
  induction hitems with
  | nil => rfl
  | cons hfirst _ ih =>
      obtain ⟨item, rfl, _, hkey, _⟩ := readField_eq_ok_iff.mp hfirst
      rw [List.filterMap_cons, List.map_cons, ← ih, fieldKey?, hkey]

/-- The keys that are read satisfy the schema of the keys. -/
theorem satisfies_key {keySchema : Schema} {maxItems : ℕ} {value : Json}
    {fields : List ExtractedField} (hread : readFields value = .ok fields)
    (hschema : Satisfies (.array (extractedFieldSchema keySchema) maxItems) value) :
    ∀ field ∈ fields, Satisfies keySchema (.string field.key) := by
  obtain ⟨items, rfl, -, hforall⟩ := readFields_eq_ok_iff.mp hread
  obtain ⟨_, hsame, -, hitems⟩ := satisfies_array_iff.mp hschema
  cases hsame
  clear hread hschema
  induction hforall with
  | nil => exact fun _ hnone => absurd hnone List.not_mem_nil
  | cons hfirst _ ih =>
      rw [List.forall_mem_cons] at hitems ⊢
      obtain ⟨item, rfl, _, hkey, _⟩ := readField_eq_ok_iff.mp hfirst
      obtain ⟨_, hitem, _, hkeySchema, _⟩ := satisfies_field_iff.mp hitems.1
      cases hitem
      rw [hkey] at hkeySchema
      exact ⟨hkeySchema, ih hitems.2⟩

/-! ## What satisfies the schema is read -/

/-- The allowlists name nothing that is longer than the parser takes. -/
def NamesFit (request : AIRequest) : Prop :=
  (request.task = .extraction → ∀ field ∈ request.allowedExtractionFields, field.length ≤ 100) ∧
    (request.task = .classification → ∀ label ∈ request.allowedClassificationLabels,
      label.length ≤ 100 ∨ label.Blank)

theorem exists_parseIntent {request : AIRequest} {output : Json} (htask : request.task = .intent)
    (hschema : Satisfies (jsonSchemaFor request) output) (hrules : ¬ BreaksRule output) :
    ∃ result, parseIntent output = .ok result ∧
      validateApplicationResult request result = .ok () := by
  obtain ⟨hblank, hname, hrepeated, hunsafe⟩ :
      ¬ HasBlank output ∧ ¬ HasBadName output ∧ ¬ HasRepeatedKey output ∧ ¬ HasUnsafeAction output := by
    simpa only [BreaksRule, not_or] using hrules
  have hclean : Clean output := ⟨hblank, hname⟩
  unfold jsonSchemaFor at hschema
  rw [htask] at hschema
  obtain ⟨item, rfl, hkeys, hentries⟩ := satisfies_objectSchema_iff.mp hschema
  simp only [List.forall_mem_cons, List.not_mem_nil, false_imp_iff, implies_true, and_true]
    at hentries
  obtain ⟨hintent, hconfidence, hentities, hmissing, hflags, haction, hrationale⟩ := hentries
  have hmem : ∀ key ∈ intentKeys, key ∈ item.map Prod.fst := fun key => (hkeys key).mpr
  obtain ⟨_, hintent, hintentMem⟩ := satisfies_choice_iff.mp hintent
  obtain ⟨intent, _, rfl⟩ := List.mem_map.mp hintentMem
  obtain ⟨confidence, hconfidence⟩ := exists_confidence hconfidence
  obtain ⟨entities, hentities⟩ := exists_fields
    (hclean.entry (hmem "entities".toList (by decide)))
    (fun key hkey => by
      obtain ⟨text, htext, _, hmax⟩ := satisfies_string_iff.mp hkey
      exact ⟨text, htext, hmax 100 rfl⟩) hentities
  obtain ⟨missing, hmissing⟩ :=
    (hclean.entry (hmem "missing_information".toList (by decide))).strings hmissing
  obtain ⟨items, hflagsEntry, hflagsLength, hitems⟩ := satisfies_array_iff.mp hflags
  obtain ⟨flags, rfl⟩ := exists_flags hitems
  obtain ⟨_, haction, hactionMem⟩ := satisfies_choice_iff.mp haction
  obtain ⟨action, _, rfl⟩ := List.mem_map.mp hactionMem
  have hrationaleMem := hmem "rationale_category".toList (by decide)
  obtain ⟨rationale, hrationale, hrationaleValid⟩ := (hclean.entry hrationaleMem).string hrationale
  have hidentifier := hclean.identifier (.inr rfl) hrationaleMem hrationale
  refine ⟨.intent ⟨intent, confidence, entities, missing, flags, action, rationale,
    hidentifier, hrationaleValid.2⟩, ?_, ?_⟩
  · simp only [parseIntent, except_bind_eq_ok, readObject_eq_ok_iff, readString_eq_ok_iff,
      memberOf_intent, memberOf_action, mapM_memberOf_flag, readConfidence_eq_ok_iff,
      IntentResult.make, validated_eq_ok_iff, except_pure_eq_ok]
    refine ⟨item, ⟨rfl, hkeys⟩, intent.value, ⟨hintent, intent.value_valid⟩, intent, rfl, confidence,
      hconfidence, entities, hentities, missing, hmissing, flags.map RiskFlag.value, ?_, flags, rfl,
      action.value, ⟨haction, action.value_valid⟩, action, rfl, rationale,
      ⟨hrationale, hrationaleValid⟩, _, ⟨⟨hidentifier, hrationaleValid.2⟩, trivial, rfl⟩, rfl⟩
    refine readStrings_eq_ok_iff.mpr ⟨hflagsEntry, ?_, ?_⟩
    · rwa [List.length_map] at hflagsLength
    · rw [List.forall_mem_map]
      exact fun flag _ => flag.value_valid
  · have hunique : (entities.map (·.key)).Nodup := by
      by_contra htwice
      obtain ⟨fieldItems, hentry, hfieldKeys⟩ := filterMap_fieldKey hentities
      exact hrepeated ⟨item, _, fieldItems, rfl, .inr rfl, hentry, hfieldKeys ▸ htwice⟩
    rw [validateApplicationResult, if_neg (not_not.mpr hunique), if_neg]
    intro hrisk
    obtain ⟨hhigh, hother⟩ := hrisk
    refine hunsafe ⟨item, rfl, ?_, ?_⟩
    · rcases hhigh with hhigh | hcomplaint | ⟨flag, hflag, hkind⟩
      · cases hhigh
        exact .inl hintent
      · cases hcomplaint
        exact .inr (.inl hintent)
      · refine .inr (.inr ⟨_, flag.value, hflagsEntry, ?_, ?_⟩)
        · exact List.mem_map_of_mem (List.mem_map_of_mem hflag)
        · rcases hkind with rfl | rfl | rfl <;> decide
    · rw [haction]
      intro hsame
      cases action with
      | offerHuman => exact hother rfl
      | _ => exact absurd (Json.string.inj hsame) (by decide)

theorem exists_parseExtraction {request : AIRequest} {output : Json}
    (htask : request.task = .extraction) (hschema : Satisfies (jsonSchemaFor request) output)
    (hrules : ¬ BreaksRule output)
    (hfit : ∀ field ∈ request.allowedExtractionFields, field.length ≤ 100) :
    ∃ result, parseExtraction output = .ok result ∧
      validateApplicationResult request result = .ok () := by
  obtain ⟨hblank, hname, hrepeated, _⟩ :
      ¬ HasBlank output ∧ ¬ HasBadName output ∧ ¬ HasRepeatedKey output ∧ ¬ HasUnsafeAction output := by
    simpa only [BreaksRule, not_or] using hrules
  have hclean : Clean output := ⟨hblank, hname⟩
  unfold jsonSchemaFor at hschema
  rw [htask] at hschema
  obtain ⟨item, rfl, hkeys, hentries⟩ := satisfies_objectSchema_iff.mp hschema
  simp only [List.forall_mem_cons, List.not_mem_nil, false_imp_iff, implies_true, and_true]
    at hentries
  obtain ⟨hfieldsSchema, hconfidence⟩ := hentries
  have hmem : ∀ key ∈ extractionKeys, key ∈ item.map Prod.fst := fun key => (hkeys key).mpr
  have hchoice : ∀ key, Satisfies (.choice (sortedTexts request.allowedExtractionFields)) key →
      ∃ text, key = .string text ∧ text ∈ request.allowedExtractionFields := by
    intro key hkey
    obtain ⟨text, rfl, htext⟩ := satisfies_choice_iff.mp hkey
    exact ⟨text, rfl, mem_sortedTexts.mp htext⟩
  obtain ⟨confidence, hconfidence⟩ := exists_confidence hconfidence
  obtain ⟨fields, hfields⟩ := exists_fields (hclean.entry (hmem "fields".toList (by decide)))
    (fun key hkey => by
      obtain ⟨text, htext, hallowed⟩ := hchoice key hkey
      exact ⟨text, htext, hfit text hallowed⟩) hfieldsSchema
  obtain ⟨fieldItems, hentry, hfieldKeys⟩ := filterMap_fieldKey hfields
  have hunique : (fields.map (·.key)).Nodup := by
    by_contra htwice
    exact hrepeated ⟨item, _, fieldItems, rfl, .inl rfl, hentry, hfieldKeys ▸ htwice⟩
  refine ⟨.extraction ⟨fields, confidence, hunique⟩, ?_, ?_⟩
  · simp only [parseExtraction, except_bind_eq_ok, readObject_eq_ok_iff, readConfidence_eq_ok_iff,
      ExtractionResult.make, validated_eq_ok_iff, except_pure_eq_ok]
    exact ⟨item, ⟨rfl, hkeys⟩, fields, hfields, confidence, hconfidence, _,
      ⟨⟨hunique⟩, trivial, rfl⟩, rfl⟩
  · rw [validateApplicationResult, if_neg]
    intro houtside
    obtain ⟨field, hfield, houtside⟩ := houtside
    obtain ⟨text, hsame, hallowed⟩ := hchoice _ (satisfies_key hfields hfieldsSchema field hfield)
    cases hsame
    exact houtside hallowed

theorem exists_parseClassification {request : AIRequest} {output : Json}
    (htask : request.task = .classification) (hschema : Satisfies (jsonSchemaFor request) output)
    (hclean : Clean output) (hfit : ∀ label ∈ request.allowedClassificationLabels,
      label.length ≤ 100 ∨ label.Blank) :
    ∃ result, parseClassification output = .ok result ∧
      validateApplicationResult request result = .ok () := by
  unfold jsonSchemaFor at hschema
  rw [htask] at hschema
  obtain ⟨item, rfl, hkeys, hentries⟩ := satisfies_objectSchema_iff.mp hschema
  simp only [List.forall_mem_cons, List.not_mem_nil, false_imp_iff, implies_true, and_true]
    at hentries
  obtain ⟨hlabel, hconfidence, hrationale⟩ := hentries
  have hmem : ∀ key ∈ classificationKeys, key ∈ item.map Prod.fst := fun key => (hkeys key).mpr
  obtain ⟨label, hlabel, hallowed⟩ := satisfies_choice_iff.mp hlabel
  rw [mem_sortedTexts] at hallowed
  have hlabelClean := hclean.entry (hmem "label".toList (by decide))
  rw [hlabel] at hlabelClean
  have hlength : label.length ≤ 100 := (hfit label hallowed).resolve_right hlabelClean.text
  obtain ⟨confidence, hconfidence⟩ := exists_confidence hconfidence
  have hrationaleMem := hmem "rationale_category".toList (by decide)
  obtain ⟨rationale, hrationale, hrationaleValid⟩ := (hclean.entry hrationaleMem).string hrationale
  have hidentifier := hclean.identifier (.inr rfl) hrationaleMem hrationale
  refine ⟨.classification ⟨label, confidence, rationale, hlabelClean.text, hidentifier⟩, ?_, ?_⟩
  · simp only [parseClassification, except_bind_eq_ok, readObject_eq_ok_iff, readString_eq_ok_iff,
      readConfidence_eq_ok_iff, ClassificationResult.make, validated_eq_ok_iff, except_pure_eq_ok]
    exact ⟨item, ⟨rfl, hkeys⟩, label, ⟨hlabel, hlabelClean.text, hlength⟩, confidence, hconfidence,
      rationale, ⟨hrationale, hrationaleValid⟩, _, ⟨⟨hlabelClean.text, hidentifier⟩, trivial, rfl⟩, rfl⟩
  · rw [validateApplicationResult, if_neg (not_not.mpr hallowed)]

theorem exists_parseRewrite {request : AIRequest} {output : Json} (htask : request.task = .rewrite)
    (hschema : Satisfies (jsonSchemaFor request) output) (hclean : Clean output) :
    ∃ result, parseRewrite output = .ok result ∧
      validateApplicationResult request result = .ok () := by
  unfold jsonSchemaFor at hschema
  rw [htask] at hschema
  obtain ⟨item, rfl, hkeys, hentries⟩ := satisfies_objectSchema_iff.mp hschema
  simp only [List.forall_mem_cons, List.not_mem_nil, false_imp_iff, implies_true, and_true]
    at hentries
  obtain ⟨htext, hconfidence⟩ := hentries
  obtain ⟨text, htext, hvalid⟩ :=
    (hclean.entry ((hkeys "text".toList).mpr (by decide))).string htext
  obtain ⟨confidence, hconfidence⟩ := exists_confidence hconfidence
  refine ⟨.rewrite ⟨text, confidence, hvalid⟩, ?_, rfl⟩
  simp only [parseRewrite, except_bind_eq_ok, readObject_eq_ok_iff, readString_eq_ok_iff,
    readConfidence_eq_ok_iff, RewriteResult.make, validated_eq_ok_iff, except_pure_eq_ok]
  exact ⟨item, ⟨rfl, hkeys⟩, text, ⟨htext, hvalid⟩, confidence, hconfidence, _,
    ⟨⟨hvalid⟩, trivial, rfl⟩, rfl⟩

theorem exists_parseSummary {request : AIRequest} {output : Json} (htask : request.task = .summary)
    (hschema : Satisfies (jsonSchemaFor request) output) (hclean : Clean output) :
    ∃ result, parseSummary output = .ok result ∧
      validateApplicationResult request result = .ok () := by
  unfold jsonSchemaFor at hschema
  rw [htask] at hschema
  obtain ⟨item, rfl, hkeys, hentries⟩ := satisfies_objectSchema_iff.mp hschema
  simp only [List.forall_mem_cons, List.not_mem_nil, false_imp_iff, implies_true, and_true]
    at hentries
  obtain ⟨hsummary, hkeyPoints, hconfidence⟩ := hentries
  have hmem : ∀ key ∈ summaryKeys, key ∈ item.map Prod.fst := fun key => (hkeys key).mpr
  obtain ⟨summary, hsummary, hvalid⟩ :=
    (hclean.entry (hmem "summary".toList (by decide))).string hsummary
  obtain ⟨keyPoints, hkeyPoints⟩ :=
    (hclean.entry (hmem "key_points".toList (by decide))).strings hkeyPoints
  obtain ⟨confidence, hconfidence⟩ := exists_confidence hconfidence
  have hpoints := (readStrings_eq_ok_iff.mp hkeyPoints).2
  refine ⟨.summary ⟨summary, keyPoints, confidence, hvalid, hpoints⟩, ?_, rfl⟩
  simp only [parseSummary, except_bind_eq_ok, readObject_eq_ok_iff, readString_eq_ok_iff,
    readConfidence_eq_ok_iff, SummaryResult.make, validated_eq_ok_iff, except_pure_eq_ok]
  exact ⟨item, ⟨rfl, hkeys⟩, summary, ⟨hsummary, hvalid⟩, keyPoints, hkeyPoints, confidence,
    hconfidence, _, ⟨⟨hvalid⟩, trivial, ⟨hpoints⟩, trivial, rfl⟩, rfl⟩

/-- What satisfies the schema and breaks no rule is read. -/
theorem exists_parseResult {request : AIRequest} {output : Json} (hfit : NamesFit request)
    (hschema : Satisfies (jsonSchemaFor request) output) (hrules : ¬ BreaksRule output) :
    ∃ result, parseResult request output = .ok result := by
  have hclean : Clean output :=
    ⟨fun hblank => hrules (.inl hblank), fun hname => hrules (.inr (.inl hname))⟩
  have hparse : ∃ result, parseOutput request.task output = .ok result ∧
      validateApplicationResult request result = .ok () := by
    cases htask : request.task with
    | intent => exact exists_parseIntent htask hschema hrules
    | extraction => exact exists_parseExtraction htask hschema hrules (hfit.1 htask)
    | classification => exact exists_parseClassification htask hschema hclean (hfit.2 htask)
    | rewrite => exact exists_parseRewrite htask hschema hclean
    | summary => exact exists_parseSummary htask hschema hclean
  obtain ⟨result, hresult⟩ := hparse
  exact ⟨result, parseResult_eq_ok_iff.mpr hresult⟩

/-! ## Names that are too long -/

/-- The parser and the schema describe the same outputs, up to the rules that the schema
does not express. -/
def SameLanguage (request : AIRequest) : Prop :=
  ∀ output, ((∃ result, parseResult request output = .ok result) →
      Satisfies (jsonSchemaFor request) output) ∧
    (Satisfies (jsonSchemaFor request) output →
      (¬ ∃ result, parseResult request output = .ok result) → BreaksRule output)

/-- What is documented of `str.isidentifier`: an identifier is no whitespace alone, and a
letter is an identifier. -/
structure DocumentedIdentifiers : Prop where
  notBlank : ∀ text, PythonText.isidentifier text = true → ¬ text.Blank
  letter : PythonText.isidentifier "x".toList = true

/-- The entries of a field. -/
def fieldEntries (key : Text) : List (Text × Json) :=
  [("key".toList, .string key), ("value".toList, .string "x".toList),
    ("confidence".toList, .integer 1)]

/-- An extraction of one field. -/
def oneField (key : Text) : Json :=
  .object
    [("fields".toList, .array [.object (fieldEntries key)]), ("confidence".toList, .integer 1)]

/-- A classification with a label. -/
def oneLabel (label : Text) : Json :=
  .object
    [("label".toList, .string label), ("confidence".toList, .integer 1),
      ("rationale_category".toList, .string "x".toList)]

omit [PythonText] in
theorem satisfies_one : Satisfies confidenceSchema (.integer 1) :=
  .number rfl (by decide) (by decide)

/-- An extraction of an allowed field satisfies the schema. -/
theorem satisfies_oneField {request : AIRequest} {key : Text} (htask : request.task = .extraction)
    (hkey : key ∈ request.allowedExtractionFields) :
    Satisfies (jsonSchemaFor request) (oneField key) := by
  unfold jsonSchemaFor
  rw [htask]
  refine satisfies_objectSchema_iff.mpr ⟨_, rfl, fun _ => Iff.rfl, ?_⟩
  simp only [List.forall_mem_cons, List.not_mem_nil, false_imp_iff, implies_true, and_true]
  refine ⟨.array (Nat.le_add_left 1 29) ?_, satisfies_one⟩
  rw [List.forall_mem_singleton]
  refine satisfies_field_iff.mpr ⟨_, rfl, fun _ => Iff.rfl, ?_, ?_, satisfies_one⟩
  · exact .choice (mem_sortedTexts.mpr hkey)
  · exact satisfies_text (by decide) (by decide)

theorem not_parse_oneField {request : AIRequest} {key : Text} (htask : request.task = .extraction)
    (hlong : 100 < key.length) : ¬ ∃ result, parseResult request (oneField key) = .ok result := by
  intro hread
  obtain ⟨result, hresult⟩ := hread
  have hparse := (parseResult_eq_ok_iff.mp hresult).1
  rw [htask] at hparse
  simp only [parseOutput, parseExtraction, except_bind_eq_ok, readObject_eq_ok_iff, oneField]
    at hparse
  obtain ⟨item, ⟨hitem, _⟩, fields, hfields, _⟩ := hparse
  cases hitem
  obtain ⟨items, hitems, _, hforall⟩ := readFields_eq_ok_iff.mp hfields
  cases hitems
  obtain ⟨field, _, hfield, _⟩ := List.forall₂_cons_left_iff.mp hforall
  obtain ⟨entries, hentries, _, hkey, _, hlength, _⟩ := readField_eq_ok_iff.mp hfield
  cases hentries
  have hsame : key = field.key := Json.string.inj hkey
  rw [hsame] at hlong
  omega

theorem keepsRules_oneField {key : Text} (hblank : ¬ key.Blank)
    (hname : PythonText.isidentifier key = true) : ¬ BreaksRule (oneField key) := by
  intro hrules
  rcases hrules with hrule | hrule | hrule | hrule
  · obtain ⟨text, hpart, htext⟩ := hrule
    have htexts : text = key ∨ text = ['x'] := by
      simpa [oneField, fieldEntries, Json.part_object_iff, Json.part_array_iff,
        Json.part_string_iff, Json.part_integer_iff] using hpart
    rcases htexts with rfl | rfl
    · exact hblank htext
    · exact absurd htext (by decide)
  · obtain ⟨item, name, text, hpart, hnames, hmem, hentry, hbad⟩ := hrule
    have hitems : .object item = oneField key ∨ item = fieldEntries key := by
      simpa [oneField, fieldEntries, Json.part_object_iff, Json.part_array_iff,
        Json.part_string_iff, Json.part_integer_iff] using hpart
    rcases hitems with hitem | rfl
    · cases hitem
      have hkeys : "key".toList ∉ extractionKeys ∧ "rationale_category".toList ∉ extractionKeys := by
        decide
      rcases hnames with rfl | rfl
      · exact hkeys.1 hmem
      · exact hkeys.2 hmem
    · rcases hnames with rfl | rfl
      · have hkey : key = text := Json.string.inj hentry
        rw [← hkey, hname] at hbad
        cases hbad
      · have hkeys : "rationale_category".toList ∉ fieldKeys := by decide
        exact hkeys hmem
  · obtain ⟨item, name, items, hitem, hnames, hentry, htwice⟩ := hrule
    cases hitem
    rcases hnames with rfl | rfl
    · have hitems : [.object (fieldEntries key)] = items := Json.array.inj hentry
      rw [← hitems] at htwice
      exact htwice (List.nodup_singleton _)
    · cases hentry
  · obtain ⟨item, hitem, hrisk, _⟩ := hrule
    cases hitem
    rcases hrisk with hrisk | hrisk | ⟨_, _, hrisk, _⟩ <;> cases hrisk

/-- A classification with an allowed label satisfies the schema. -/
theorem satisfies_oneLabel {request : AIRequest} {label : Text}
    (htask : request.task = .classification)
    (hlabel : label ∈ request.allowedClassificationLabels) :
    Satisfies (jsonSchemaFor request) (oneLabel label) := by
  unfold jsonSchemaFor
  rw [htask]
  refine satisfies_objectSchema_iff.mpr ⟨_, rfl, fun _ => Iff.rfl, ?_⟩
  simp only [List.forall_mem_cons, List.not_mem_nil, false_imp_iff, implies_true, and_true]
  refine ⟨.choice (mem_sortedTexts.mpr hlabel), satisfies_one, ?_⟩
  exact satisfies_text (by decide) (by decide)

theorem not_parse_oneLabel {request : AIRequest} {label : Text}
    (htask : request.task = .classification) (hlong : 100 < label.length) :
    ¬ ∃ result, parseResult request (oneLabel label) = .ok result := by
  intro hread
  obtain ⟨result, hresult⟩ := hread
  have hparse := (parseResult_eq_ok_iff.mp hresult).1
  rw [htask] at hparse
  simp only [parseOutput, parseClassification, except_bind_eq_ok, readObject_eq_ok_iff,
    readString_eq_ok_iff, oneLabel] at hparse
  obtain ⟨item, ⟨hitem, _⟩, text, ⟨htext, _, hlength⟩, _⟩ := hparse
  cases hitem
  have hsame : label = text := Json.string.inj htext
  rw [hsame] at hlong
  omega

theorem keepsRules_oneLabel {label : Text} (hblank : ¬ label.Blank)
    (hletter : PythonText.isidentifier "x".toList = true) : ¬ BreaksRule (oneLabel label) := by
  intro hrules
  rcases hrules with hrule | hrule | hrule | hrule
  · obtain ⟨text, hpart, htext⟩ := hrule
    have htexts : text = label ∨ text = ['x'] := by
      simpa [oneLabel, Json.part_object_iff, Json.part_string_iff, Json.part_integer_iff] using hpart
    rcases htexts with rfl | rfl
    · exact hblank htext
    · exact absurd htext (by decide)
  · obtain ⟨item, name, text, hpart, hnames, hmem, hentry, hbad⟩ := hrule
    have hitem : .object item = oneLabel label := by
      simpa [oneLabel, Json.part_object_iff, Json.part_string_iff, Json.part_integer_iff] using hpart
    cases hitem
    rcases hnames with rfl | rfl
    · have hkeys : "key".toList ∉ classificationKeys := by decide
      exact absurd hmem hkeys
    · have hsame : "x".toList = text := Json.string.inj hentry
      rw [← hsame, hletter] at hbad
      cases hbad
  · obtain ⟨item, name, items, hitem, hnames, hentry, _⟩ := hrule
    cases hitem
    rcases hnames with rfl | rfl <;> cases hentry
  · obtain ⟨item, hitem, hrisk, _⟩ := hrule
    cases hitem
    rcases hrisk with hrisk | hrisk | ⟨_, _, hrisk, _⟩ <;> cases hrisk

/-- A field of the allowlist that the parser does not take is a difference. -/
theorem not_sameLanguage_of_field (hidentifiers : DocumentedIdentifiers) {request : AIRequest}
    {field : Text} (htask : request.task = .extraction)
    (hfield : field ∈ request.allowedExtractionFields) (hlong : 100 < field.length) :
    ¬ SameLanguage request := by
  intro hsame
  have hname := request.fieldNames field hfield
  exact keepsRules_oneField (hidentifiers.notBlank field hname) hname
    ((hsame (oneField field)).2 (satisfies_oneField htask hfield) (not_parse_oneField htask hlong))

/-- The parser and the schema describe the same outputs just when the allowlist names nothing
longer than the hundred characters the parser takes. -/
theorem sameLanguage_iff (hidentifiers : DocumentedIdentifiers) (request : AIRequest) :
    SameLanguage request ↔ NamesFit request := by
  constructor
  · intro hsame
    refine ⟨?_, ?_⟩
    · intro htask field hfield
      by_contra hlong
      exact not_sameLanguage_of_field hidentifiers htask hfield (not_le.mp hlong) hsame
    · intro htask label hlabel
      by_contra hlong
      rw [not_or, not_le] at hlong
      exact keepsRules_oneLabel hlong.2 hidentifiers.letter
        ((hsame (oneLabel label)).2 (satisfies_oneLabel htask hlabel)
          (not_parse_oneLabel htask hlong.1))
  · intro hfit output
    refine ⟨?_, ?_⟩
    · intro hread
      obtain ⟨result, hresult⟩ := hread
      exact satisfies_of_parseResult hresult
    · intro hschema hrejected
      by_contra hrules
      exact hrejected (exists_parseResult hfit hschema hrules)

end Language

/-! ## Requests in ASCII -/

namespace SmallRuntime

open Ascii

theorem isSpace_letter {char : Char} (hletter : (char.isAlpha || char = '_') = true) :
    Text.isSpace char = false := by
  have hcode : 65 ≤ char.toNat ∧ char.toNat ≤ 122 := by
    rw [Bool.or_eq_true] at hletter
    rcases hletter with hletter | hletter
    · unfold Char.isAlpha Char.isUpper Char.isLower at hletter
      rw [Bool.or_eq_true, decide_eq_true_eq, Bool.and_eq_true, decide_eq_true_eq,
        decide_eq_true_eq] at hletter
      rcases hletter with hletter | hletter
      · have hrange : 65 ≤ char.toNat ∧ char.toNat ≤ 90 := hletter
        omega
      · have hrange : 97 ≤ char.toNat ∧ char.toNat ≤ 122 := hletter
        omega
    · rw [of_decide_eq_true hletter]
      decide
  unfold Text.isSpace
  simp only [Bool.or_eq_false_iff, Bool.and_eq_false_iff, decide_eq_false_iff_not]
  omega

/-- Identifiers of ASCII are as documented. -/
theorem documentedIdentifiers : DocumentedIdentifiers where
  notBlank := by
    intro text hidentifier hblank
    cases text with
    | nil => cases hidentifier
    | cons char rest =>
        have hspace := (Text.blank_iff _).mp hblank char List.mem_cons_self
        rw [isSpace_letter (Bool.and_eq_true_iff.mp hidentifier).1] at hspace
        cases hspace
  letter := by decide

/-- A field of a hundred and one letters. -/
def longField : Text := List.replicate 101 'a'

/-- A request to extract the field. -/
def longFieldRequest : AIRequest where
  tenantId := 1
  conversationId := none
  correlationId := 2
  task := .extraction
  inputText := "The reference is 7.".toList
  promptVariables := []
  allowedExtractionFields := [longField]
  allowedClassificationLabels := []
  inputValid := by decide
  fieldsListed := by decide
  labelsListed := by decide
  fieldNames := by decide

/-- What the provider extracts as the schema says is rejected. -/
theorem longField_rejected : ¬ SameLanguage longFieldRequest :=
  not_sameLanguage_of_field documentedIdentifiers rfl (List.mem_singleton_self longField) (by decide)

/-- A request to extract a reference. -/
def referenceRequest : AIRequest where
  tenantId := 1
  conversationId := none
  correlationId := 2
  task := .extraction
  inputText := "The reference is 7.".toList
  promptVariables := []
  allowedExtractionFields := ["reference".toList]
  allowedClassificationLabels := []
  inputValid := by decide
  fieldsListed := by decide
  labelsListed := by decide
  fieldNames := by decide

theorem referenceRequest_sameLanguage : SameLanguage referenceRequest := by
  refine (sameLanguage_iff documentedIdentifiers referenceRequest).mpr
    ⟨fun _ field hfield => ?_, nofun⟩
  rw [List.mem_singleton.mp hfield]
  decide

end SmallRuntime

end BusinessAssistant.Application
