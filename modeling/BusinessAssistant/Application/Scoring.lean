/-
# When a schema can be scored

A rule may compare any answer with any operand, and some comparisons raise: an order
with what is no number, an integer too long to be written, a signaling number. Others
never match what they denote: a date with its ISO text and a choice with the option
itself. The score, its grade and the escalation are as they should be exactly for the
schemas and answers without these.
-/

import BusinessAssistant.Application.Choices
import BusinessAssistant.Application.LeadEngine
import BusinessAssistant.Domain.CaseFolding
import BusinessAssistant.Domain.DecimalText
import BusinessAssistant.Domain.IsoText
import BusinessAssistant.Foundation.Folds
import BusinessAssistant.Foundation.Transaction

namespace BusinessAssistant.Domain.Decimal

/-! ## Numbers with an order -/

/-- `number.is_nan()` -/
def isNan : Decimal → Bool
  | .nan _ _ _ => true
  | _ => false

theorem compare?_isSome_iff (first second : Decimal) :
    (compare? first second).isSome = true ↔ first.isNan = false ∧ second.isNan = false := by
  cases first <;> cases second <;> simp [compare?, isNan]

theorem isSignaling_of_isNan {number : Decimal} (hnumber : number.isNan = false) :
    number.isSignaling = false := by
  cases number with
  | nan => cases hnumber
  | _ => rfl

end BusinessAssistant.Domain.Decimal

namespace BusinessAssistant.Application

open BusinessAssistant.Domain BusinessAssistant.Foundation

/-! ## What a comparison needs -/

/-- An integer that Python converts to text. -/
def ShortInt (number : Int) : Prop := (Text.ofNat number.natAbs).length ≤ Text.maxIntDigits

instance (number : Int) : Decidable (ShortInt number) := inferInstanceAs (Decidable (_ ≤ _))

/-- The integer of an answer has a text, where it is one. -/
def Answer.Written : Answer → Prop
  | .int number => ShortInt number
  | _ => True

/-- The integer of an operand has a text, where it is one. -/
def Operand.Written : Operand → Prop
  | .int number => ShortInt number
  | _ => True

/-- The number an answer is. -/
def Answer.number? : Answer → Option Decimal
  | .int number => some (.ofInt number)
  | .bool value => some (.ofInt (ofBool value))
  | .decimal number => some number
  | _ => none

/-- The number an operand is. -/
def Operand.number? : Operand → Option Decimal
  | .int number => some (.ofInt number)
  | .bool value => some (.ofInt (ofBool value))
  | .decimal number => some number
  | .text _ => none

/-- The number the text of an answer reads as. -/
def Answer.amount? : Answer → Option Decimal
  | .text value => Decimal.parse value
  | .int number => if ShortInt number then some (.ofInt number) else none
  | .decimal number => some number
  | _ => none

/-- The number the text of an operand reads as. -/
def Operand.amount? : Operand → Option Decimal
  | .text value => Decimal.parse value
  | .int number => if ShortInt number then some (.ofInt number) else none
  | .decimal number => some number
  | .bool _ => none

/-- The answer and the operand can be compared: no signaling number for equality, texts
for containment, and two amounts for an order. -/
def Comparable (actual : Answer) (operator : MatchOperator) (expected : Operand) : Prop :=
  match operator with
  | .equals =>
      ∀ left ∈ actual.number?, ∀ right ∈ expected.number?,
        left.isSignaling = false ∧ right.isSignaling = false
  | .contains => actual.Written ∧ expected.Written
  | .greaterThanOrEqual | .lessThanOrEqual =>
      ∃ left ∈ actual.amount?, ∃ right ∈ expected.amount?,
        left.isNan = false ∧ right.isNan = false

/-- The operand denotes the answer: the same text, an equal number, the same truth value,
the ISO text of the date, or the one option that is chosen. -/
def Denotes : Operand → Answer → Prop
  | .text expected, .text actual => actual = expected
  | .int expected, .int actual => actual = expected
  | .int expected, .decimal actual => actual.compare? (.ofInt expected) = some .eq
  | .decimal expected, .int actual => (Decimal.ofInt actual).compare? expected = some .eq
  | .decimal expected, .decimal actual => actual.compare? expected = some .eq
  | .bool expected, .bool actual => actual = expected
  | .text expected, .date actual => expected = actual.isoformat
  | .text expected, .choices actual => actual = [expected]
  | _, _ => False

/-- What equality overlooks: a date and its ISO text, a choice and its option. -/
def Overlooked (actual : Answer) (expected : Operand) : Prop :=
  (∃ date, actual = .date date ∧ expected = .text date.isoformat) ∨
    ∃ option, actual = .choices [option] ∧ expected = .text option

/-! ## Texts and numbers -/

theorem strInt_defined_iff (number : Int) {text : Text} :
    strInt number = .ok text ↔ ShortInt number ∧ text = Text.ofInt number := by
  unfold strInt Text.ofInt? ShortInt
  by_cases hshort : (Text.ofNat number.natAbs).length ≤ Text.maxIntDigits
  · simp [hshort, pure, Except.pure, eq_comm]
  · simp [hshort, throw, throwThe, MonadExceptOf.throw]

theorem Answer.str_defined_iff (actual : Answer) :
    (∃ text, actual.str = .ok text) ↔ actual.Written := by
  cases actual with
  | int number => simp [Answer.str, Answer.Written, strInt_defined_iff]
  | _ => exact ⟨fun _ => trivial, fun _ => ⟨_, rfl⟩⟩

theorem Operand.str_defined_iff (expected : Operand) :
    (∃ text, expected.str = .ok text) ↔ expected.Written := by
  cases expected with
  | int number => simp [Operand.str, Operand.Written, strInt_defined_iff]
  | _ => exact ⟨fun _ => trivial, fun _ => ⟨_, rfl⟩⟩

theorem equalsDecimal_defined_iff (left right : Decimal) :
    (∃ matched, equalsDecimal left right = .ok matched) ↔
      left.isSignaling = false ∧ right.isSignaling = false := by
  unfold equalsDecimal Decimal.eq?
  cases left.isSignaling <;> cases right.isSignaling <;>
    simp [pure, Except.pure, throw, throwThe, MonadExceptOf.throw]

theorem equals_defined_iff (actual : Answer) (expected : Operand) :
    (∃ matched, actual.equals expected = .ok matched) ↔
      ∀ left ∈ actual.number?, ∀ right ∈ expected.number?,
        left.isSignaling = false ∧ right.isSignaling = false := by
  have hinteger : ∀ number, (Decimal.ofInt number).isSignaling = false := fun _ => rfl
  cases actual <;> cases expected <;>
    simp [-Bool.exists_bool, Answer.equals, Answer.number?, Operand.number?,
      equalsDecimal_defined_iff, hinteger, pure, Except.pure]

/-- Numbers of one value are equal. -/
theorem equalsDecimal_of_compare {left right : Decimal}
    (hsame : left.compare? right = some .eq) : equalsDecimal left right = .ok true := by
  have hnumbers := (Decimal.compare?_isSome_iff left right).mp (by rw [hsame]; rfl)
  unfold equalsDecimal Decimal.eq?
  rw [Decimal.isSignaling_of_isNan hnumbers.1, Decimal.isSignaling_of_isNan hnumbers.2, hsame]
  rfl

/-- An operand matches the answer it denotes, unless it is overlooked. -/
theorem equals_of_denotes {actual : Answer} {expected : Operand} (hdenotes : Denotes expected actual)
    (hnoticed : ¬ Overlooked actual expected) : actual.equals expected = .ok true := by
  cases expected with
  | text value =>
      cases actual with
      | text _ => exact congrArg Except.ok (decide_eq_true hdenotes)
      | date date => exact absurd (.inl ⟨date, rfl, congrArg _ hdenotes⟩) hnoticed
      | choices values =>
          exact absurd (.inr ⟨value, congrArg _ hdenotes, rfl⟩) hnoticed
      | _ => cases hdenotes
  | int number =>
      cases actual with
      | int _ => exact congrArg Except.ok (decide_eq_true hdenotes)
      | decimal _ => exact equalsDecimal_of_compare hdenotes
      | _ => cases hdenotes
  | decimal number =>
      cases actual with
      | int _ => exact equalsDecimal_of_compare hdenotes
      | decimal _ => exact equalsDecimal_of_compare hdenotes
      | _ => cases hdenotes
  | bool value =>
      cases actual with
      | bool _ => exact congrArg Except.ok (decide_eq_true hdenotes)
      | _ => cases hdenotes

/-- What is overlooked is denoted and does not match. -/
theorem denotes_of_overlooked {actual : Answer} {expected : Operand}
    (hoverlooked : Overlooked actual expected) :
    Denotes expected actual ∧ actual.equals expected = .ok false := by
  rcases hoverlooked with ⟨date, rfl, rfl⟩ | ⟨option, rfl, rfl⟩
  · exact ⟨rfl, rfl⟩
  · exact ⟨rfl, rfl⟩

/-- A text that starts with an opening parenthesis is no number. -/
theorem parse_tuple (values : Text) : Decimal.parse ('(' :: values ++ [')']) = none := by
  have htrimmed : Text.Trimmed ('(' :: values ++ [')']) := by
    refine ⟨?_, ?_⟩
    · intro char hchar
      cases hchar
      decide
    · intro char hchar
      rw [List.getLast?_concat] at hchar
      cases hchar
      decide
  have hsign : ∀ rest, Text.takeSign ('(' :: rest) = (false, '(' :: rest) := fun _ => rfl
  unfold Decimal.parse
  rw [Text.strip_of_trimmed htrimmed, List.cons_append, List.filter_cons_of_pos (by decide), hsign]
  simp only [Decimal.parseFinite_eq_none false _ (by decide : Text.digitValue? '(' = none)
    (by decide), Decimal.parseSpecial_eq_none false _ (by decide : '('.toLower ∉ ['i', 'n', 's']),
    Option.or_none]

theorem parse_isoformat (date : Date) : Decimal.parse date.isoformat = none := by
  unfold Date.isoformat
  rw [List.append_assoc, List.cons_append]
  apply Decimal.parse_dashed (Date.padded_digits 4 _) Date.padded_ne_nil
  intro char hchar
  rcases List.mem_append.mp hchar with hchar | hchar
  · exact .inl (Date.padded_digits 2 _ char hchar)
  · rcases List.mem_cons.mp hchar with rfl | hchar
    · exact .inr (by decide)
    · exact .inl (Date.padded_digits 2 _ char hchar)

theorem toDecimal_iff (text : Text) (number : Decimal) :
    toDecimal text = .ok number ↔ Decimal.parse text = some number := by
  unfold toDecimal
  cases Decimal.parse text <;> simp [pure, Except.pure, throw, throwThe, MonadExceptOf.throw]

theorem parse_strBool (value : Bool) : Decimal.parse (strBool value) = none := by
  cases value <;> decide

/-- `Decimal(str(actual))` -/
theorem toDecimal_answer_iff (actual : Answer) (number : Decimal) :
    (∃ text, actual.str = .ok text ∧ toDecimal text = .ok number) ↔
      actual.amount? = some number := by
  simp only [toDecimal_iff]
  cases actual with
  | text value => simp [Answer.str, Answer.amount?, pure, Except.pure]
  | int value =>
      simp [Answer.str, Answer.amount?, strInt_defined_iff, ← Decimal.str_ofInt, Decimal.parse_str]
  | decimal value => simp [Answer.str, Answer.amount?, pure, Except.pure, Decimal.parse_str]
  | bool value => simp [Answer.str, Answer.amount?, pure, Except.pure, parse_strBool]
  | date value => simp [Answer.str, Answer.amount?, pure, Except.pure, parse_isoformat]
  | choices values =>
      have htuple := parse_tuple (Text.joinComma values)
      simp only [List.cons_append] at htuple
      simp [Answer.str, Answer.amount?, pure, Except.pure, htuple]

/-- `Decimal(str(expected))` -/
theorem toDecimal_operand_iff (expected : Operand) (number : Decimal) :
    (∃ text, expected.str = .ok text ∧ toDecimal text = .ok number) ↔
      expected.amount? = some number := by
  simp only [toDecimal_iff]
  cases expected with
  | text value => simp [Operand.str, Operand.amount?, pure, Except.pure]
  | int value =>
      simp [Operand.str, Operand.amount?, strInt_defined_iff, ← Decimal.str_ofInt,
        Decimal.parse_str]
  | decimal value => simp [Operand.str, Operand.amount?, pure, Except.pure, Decimal.parse_str]
  | bool value => simp [Operand.str, Operand.amount?, pure, Except.pure, parse_strBool]

theorem decimalLe_defined_iff (left right : Decimal) :
    (∃ matched, decimalLe left right = .ok matched) ↔
      left.isNan = false ∧ right.isNan = false := by
  rw [← Decimal.compare?_isSome_iff]
  unfold decimalLe Decimal.le?
  cases left.compare? right <;> simp [pure, Except.pure, throw, throwThe, MonadExceptOf.throw]

section Rules

variable [PythonText]

/-! ## Comparing -/

/-- A comparison that returns. -/
def Decided (actual : Answer) (operator : MatchOperator) (expected : Operand) : Prop :=
  ∃ matched, answerMatches actual operator expected = .ok matched

theorem contains_decided_iff (actual : Answer) (expected : Operand) :
    Decided actual .contains expected ↔ Comparable actual .contains expected := by
  unfold Decided Comparable
  rw [← Answer.str_defined_iff, ← Operand.str_defined_iff]
  simp only [answerMatches, except_bind_eq_ok]
  cases actual with
  | choices values =>
      constructor
      · intro hdecided
        obtain ⟨matched, needle, hneedle, -⟩ := hdecided
        exact ⟨⟨_, rfl⟩, ⟨needle, hneedle⟩⟩
      · intro hboth
        obtain ⟨-, needle, hneedle⟩ := hboth
        exact ⟨_, needle, hneedle, rfl⟩
  | _ =>
      simp only [except_bind_eq_ok]
      constructor
      · intro hdecided
        obtain ⟨matched, needle, hneedle, text, htext, -⟩ := hdecided
        exact ⟨⟨text, htext⟩, ⟨needle, hneedle⟩⟩
      · intro hboth
        obtain ⟨⟨text, htext⟩, needle, hneedle⟩ := hboth
        exact ⟨_, needle, hneedle, text, htext, rfl⟩

/-- Both orders compare the amounts the texts read as. -/
theorem order_decided_iff (actual : Answer) (expected : Operand) {operator : MatchOperator}
    (horder : operator = .greaterThanOrEqual ∨ operator = .lessThanOrEqual) :
    Decided actual operator expected ↔
      ∃ left ∈ actual.amount?, ∃ right ∈ expected.amount?,
        left.isNan = false ∧ right.isNan = false := by
  simp only [Option.mem_def, ← toDecimal_answer_iff, ← toDecimal_operand_iff]
  constructor
  · intro hdecided
    obtain ⟨matched, hmatched⟩ := hdecided
    rcases horder with rfl | rfl
    · simp only [answerMatches, except_bind_eq_ok] at hmatched
      obtain ⟨leftText, hleftText, left, hleft, rightText, hrightText, right, hright, hle⟩ :=
        hmatched
      have hnumbers := (decimalLe_defined_iff right left).mp ⟨matched, hle⟩
      exact ⟨left, ⟨leftText, hleftText, hleft⟩, right, ⟨rightText, hrightText, hright⟩,
        hnumbers.2, hnumbers.1⟩
    · simp only [answerMatches, except_bind_eq_ok] at hmatched
      obtain ⟨leftText, hleftText, left, hleft, rightText, hrightText, right, hright, hle⟩ :=
        hmatched
      have hnumbers := (decimalLe_defined_iff left right).mp ⟨matched, hle⟩
      exact ⟨left, ⟨leftText, hleftText, hleft⟩, right, ⟨rightText, hrightText, hright⟩, hnumbers⟩
  · intro hamounts
    obtain ⟨left, ⟨leftText, hleftText, hleft⟩, right, ⟨rightText, hrightText, hright⟩,
      hleftNumber, hrightNumber⟩ := hamounts
    rcases horder with rfl | rfl
    · obtain ⟨matched, hle⟩ := (decimalLe_defined_iff right left).mpr ⟨hrightNumber, hleftNumber⟩
      refine ⟨matched, ?_⟩
      simp only [answerMatches, except_bind_eq_ok]
      exact ⟨leftText, hleftText, left, hleft, rightText, hrightText, right, hright, hle⟩
    · obtain ⟨matched, hle⟩ := (decimalLe_defined_iff left right).mpr ⟨hleftNumber, hrightNumber⟩
      refine ⟨matched, ?_⟩
      simp only [answerMatches, except_bind_eq_ok]
      exact ⟨leftText, hleftText, left, hleft, rightText, hrightText, right, hright, hle⟩

/-- A comparison returns exactly when the answer and the operand can be compared. -/
theorem decided_iff_comparable (actual : Answer) (operator : MatchOperator) (expected : Operand) :
    Decided actual operator expected ↔ Comparable actual operator expected := by
  cases operator with
  | equals => exact equals_defined_iff actual expected
  | contains => exact contains_decided_iff actual expected
  | greaterThanOrEqual => exact order_decided_iff actual expected (.inl rfl)
  | lessThanOrEqual => exact order_decided_iff actual expected (.inr rfl)

/-! ## Points -/

/-- A rule that matches. -/
def Matches (actual : Answer) (rule : ScoreRule) : Prop :=
  answerMatches actual rule.operator rule.expected = .ok true

instance (actual : Answer) (rule : ScoreRule) : Decidable (Matches actual rule) :=
  inferInstanceAs (Decidable (_ = _))

/-- The sum of the points of the rules that match. -/
def matchedPoints (schema : QualificationSchema) (answers : List (Text × Answer)) : Int :=
  (schema.fields.map fun field =>
    match answers.lookup field.key with
    | none => 0
    | some actual =>
        ((field.scoreRules.filter fun rule => Matches actual rule).map (·.points)).sum).sum

/-- What a rule adds to the result. -/
def addRule (actual : Answer) (result : Int × List Text) (rule : ScoreRule) : Int × List Text :=
  if Matches actual rule then (result.1 + rule.points, result.2 ++ [rule.code]) else result

/-- What a field adds to the result. -/
def addField (answers : List (Text × Answer)) (result : Int × List Text)
    (field : QualificationField) : Int × List Text :=
  match answers.lookup field.key with
  | none => result
  | some actual => field.scoreRules.foldl (addRule actual) result

theorem applyRule_eq_ok_iff {actual : Answer} {rule : ScoreRule} {result final : Int × List Text} :
    applyRule actual result rule = .ok final ↔
      Decided actual rule.operator rule.expected ∧ final = addRule actual result rule := by
  have hturn : ∀ matched, answerMatches actual rule.operator rule.expected = .ok matched →
      (if matched = true then (result.1 + rule.points, result.2 ++ [rule.code]) else result) =
        addRule actual result rule := by
    intro matched hmatched
    have hmatches : Matches actual rule ↔ matched = true := by
      unfold Matches
      rw [hmatched, Except.ok.injEq]
    unfold addRule
    simp only [hmatches]
  unfold applyRule Decided
  rw [except_bind_eq_ok]
  constructor
  · intro happlied
    obtain ⟨matched, hmatched, hfinal⟩ := happlied
    refine ⟨⟨matched, hmatched⟩, ?_⟩
    rw [← hturn matched hmatched]
    cases matched <;> exact (Except.ok.inj hfinal).symm
  · intro hboth
    obtain ⟨⟨matched, hmatched⟩, rfl⟩ := hboth
    refine ⟨matched, hmatched, ?_⟩
    rw [← hturn matched hmatched]
    cases matched <;> rfl

theorem scoreField_eq_ok_iff {answers : List (Text × Answer)} {field : QualificationField}
    {result final : Int × List Text} :
    scoreField answers result field = .ok final ↔
      (∀ actual ∈ answers.lookup field.key, ∀ rule ∈ field.scoreRules,
        Decided actual rule.operator rule.expected) ∧ final = addField answers result field := by
  unfold scoreField addField
  cases answers.lookup field.key with
  | none => simp [pure, Except.pure, eq_comm]
  | some actual =>
      simp only [Option.mem_some_iff, forall_eq']
      have hturn : ∀ value rule final, applyRule actual value rule = .ok final ↔
          Decided actual rule.operator rule.expected ∧ final = addRule actual value rule :=
        fun _ _ _ => applyRule_eq_ok_iff
      exact Folds.foldlM_eq_ok_iff hturn

theorem addRules_fst (actual : Answer) (rules : List ScoreRule) (result : Int × List Text) :
    (rules.foldl (addRule actual) result).1 =
      result.1 + ((rules.filter fun rule => Matches actual rule).map (·.points)).sum := by
  induction rules generalizing result with
  | nil => simp
  | cons rule rest ih =>
      rw [List.foldl_cons, ih]
      unfold addRule
      by_cases hmatches : Matches actual rule
      · simp [hmatches, Int.add_assoc]
      · simp [hmatches]

theorem addFields_fst (answers : List (Text × Answer)) (fields : List QualificationField)
    (result : Int × List Text) :
    (fields.foldl (addField answers) result).1 =
      result.1 + (fields.map fun field =>
        match answers.lookup field.key with
        | none => 0
        | some actual =>
            ((field.scoreRules.filter fun rule => Matches actual rule).map
              (·.points)).sum).sum := by
  induction fields generalizing result with
  | nil => simp
  | cons field rest ih =>
      rw [List.foldl_cons, ih, List.map_cons, List.sum_cons, ← Int.add_assoc]
      congr 1
      unfold addField
      cases answers.lookup field.key with
      | none => simp
      | some actual => exact addRules_fst actual _ result

/-! ## Grades -/

/-- The grade of a highest band the score reaches. -/
def HighestGrade (bands : List GradeBand) (score : Int) (grade : Text) : Prop :=
  ∃ band ∈ bands, band.grade = grade ∧ band.minimumScore ≤ score ∧
    ∀ other ∈ bands, other.minimumScore ≤ score → other.minimumScore ≤ band.minimumScore

/-- Every score that is not negative has a grade, since the first band starts at zero. -/
theorem gradeOf_eq_ok (schema : QualificationSchema) {score : Int} (hscore : 0 ≤ score) :
    ∃ grade, gradeOf schema.gradeBands score = .ok grade ∧
      HighestGrade schema.gradeBands score grade := by
  unfold gradeOf
  cases hbest : (schema.gradeBands.filter fun band => score ≥ band.minimumScore).argmax
      (·.minimumScore) with
  | none =>
      have hstart := schema.gradesStartAtZero
      rw [List.argmax_eq_none, List.filter_eq_nil_iff] at hbest
      cases hbands : schema.gradeBands with
      | nil =>
          rw [hbands] at hstart
          cases hstart
      | cons band rest =>
          rw [hbands] at hstart
          have hzero : band.minimumScore = 0 := Option.some.inj hstart
          refine absurd ?_ (hbest band (hbands ▸ List.mem_cons_self))
          rw [hzero]
          exact decide_eq_true hscore
  | some band =>
      have hband := List.mem_filter.mp (List.argmax_mem hbest)
      refine ⟨band.grade, rfl, band, hband.1, rfl, of_decide_eq_true hband.2, ?_⟩
      intro other hother hreached
      exact List.le_of_mem_argmax (List.mem_filter.mpr ⟨hother, decide_eq_true hreached⟩) hbest

/-! ## Escalation -/

theorem matchedTriggers_defined_iff (actual : Answer) (triggers : List HandoffTrigger) :
    (∃ found, matchedTriggers actual triggers = .ok found) ↔
      ∀ trigger ∈ triggers, Decided actual trigger.operator trigger.expected := by
  induction triggers with
  | nil => exact ⟨fun _ _ hmem => absurd hmem List.not_mem_nil, fun _ => ⟨[], rfl⟩⟩
  | cons trigger rest ih =>
      rw [List.forall_mem_cons, ← ih]
      simp only [matchedTriggers, except_bind_eq_ok]
      constructor
      · intro hdefined
        obtain ⟨found, matched, hmatched, more, hmore, -⟩ := hdefined
        exact ⟨⟨matched, hmatched⟩, more, hmore⟩
      · intro hboth
        obtain ⟨⟨matched, hmatched⟩, more, hmore⟩ := hboth
        exact ⟨_, matched, hmatched, more, hmore, rfl⟩

/-- The escalation is defined where every trigger of an answered field is decided. -/
theorem detectHandoff_defined_iff (schema : QualificationSchema) (answers : List (Text × Answer)) :
    (∃ trigger, detectHandoff schema answers = .ok trigger) ↔
      ∀ field ∈ schema.fields, ∀ actual ∈ answers.lookup field.key,
        ∀ trigger ∈ field.handoffTriggers, Decided actual trigger.operator trigger.expected := by
  have hfield : ∀ (found : List HandoffTrigger) (field : QualificationField)
      (final : List HandoffTrigger), triggerField answers found field = .ok final ↔
        (∀ actual ∈ answers.lookup field.key, ∀ trigger ∈ field.handoffTriggers,
          Decided actual trigger.operator trigger.expected) ∧
        final = found ++ (match answers.lookup field.key with
          | none => []
          | some actual => match matchedTriggers actual field.handoffTriggers with
            | .ok more => more
            | .error _ => []) := by
    intro found field final
    unfold triggerField
    cases answers.lookup field.key with
    | none => simp [pure, Except.pure, eq_comm]
    | some actual =>
        simp only [Option.mem_some_iff, forall_eq', ← matchedTriggers_defined_iff]
        cases matchedTriggers actual field.handoffTriggers with
        | error failure => simp [bind, Except.bind]
        | ok more => simp [bind, Except.bind, pure, Except.pure, eq_comm]
  unfold detectHandoff
  simp only [except_bind_eq_ok, Folds.foldlM_eq_ok_iff hfield]
  constructor
  · intro hdefined
    obtain ⟨trigger, found, ⟨hall, -⟩, -⟩ := hdefined
    exact hall
  · intro hall
    let found := schema.fields.foldl (fun value field => value ++
      (match answers.lookup field.key with
        | none => []
        | some actual => match matchedTriggers actual field.handoffTriggers with
          | .ok more => more
          | .error _ => [])) []
    cases hwinner : found.argmax fun trigger =>
        toLex (priorityRank trigger.priority, trigger.code) with
    | none => exact ⟨none, found, ⟨hall, rfl⟩, by rw [hwinner]; rfl⟩
    | some winner => exact ⟨_, found, ⟨hall, rfl⟩, by rw [hwinner]; rfl⟩

/-! ## Scores -/

/-- The comparisons the rules and triggers of a field make with its answer. -/
def QualificationField.comparisons (field : QualificationField) : List (MatchOperator × Operand) :=
  (field.scoreRules.map fun rule => (rule.operator, rule.expected)) ++
    field.handoffTriggers.map fun trigger => (trigger.operator, trigger.expected)

/-- Scoring and escalation as they should be: both return, the score is the sum of the
points of the rules that match, within 0 and 100, its grade is that of a highest band it
reaches, and an equality matches where its operand denotes the answer. -/
structure ScoredWell (schema : QualificationSchema) (answers : List (Text × Answer)) : Prop where
  scored : ∃ result, scoreAnswers schema answers = .ok result ∧
    result.score = max 0 (min 100 (matchedPoints schema answers)) ∧
    HighestGrade schema.gradeBands result.score result.grade
  escalated : ∃ trigger, detectHandoff schema answers = .ok trigger
  denoted : ∀ field ∈ schema.fields, ∀ actual ∈ answers.lookup field.key,
    ∀ comparison ∈ field.comparisons, comparison.1 = .equals → Denotes comparison.2 actual →
      answerMatches actual comparison.1 comparison.2 = .ok true

/-- The score is defined where every rule of an answered field is decided. -/
theorem scoreAnswers_defined_iff (schema : QualificationSchema)
    (answers : List (Text × Answer)) :
    (∃ result, scoreAnswers schema answers = .ok result ∧
      result.score = max 0 (min 100 (matchedPoints schema answers)) ∧
      HighestGrade schema.gradeBands result.score result.grade) ↔
      ∀ field ∈ schema.fields, ∀ actual ∈ answers.lookup field.key,
        ∀ rule ∈ field.scoreRules, Decided actual rule.operator rule.expected := by
  have hturn : ∀ value field final, scoreField answers value field = .ok final ↔
      (∀ actual ∈ answers.lookup field.key, ∀ rule ∈ field.scoreRules,
        Decided actual rule.operator rule.expected) ∧ final = addField answers value field :=
    fun _ _ _ => scoreField_eq_ok_iff
  unfold scoreAnswers
  simp only [except_bind_eq_ok, Folds.foldlM_eq_ok_iff hturn]
  constructor
  · intro hscored
    obtain ⟨result, ⟨totals, ⟨hall, -⟩, -⟩, -⟩ := hscored
    exact hall
  · intro hall
    obtain ⟨grade, hgrade, hhighest⟩ := gradeOf_eq_ok schema
      (le_max_left 0 (min 100 (matchedPoints schema answers)))
    have htotal := addFields_fst answers schema.fields (0, [])
    rw [Int.zero_add] at htotal
    refine ⟨_, ⟨_, ⟨hall, rfl⟩, grade, ?_, rfl⟩, ?_, ?_⟩
    · rw [htotal]
      exact hgrade
    · rw [htotal]
      rfl
    · rw [htotal]
      exact hhighest

end Rules

/-! ## Rules of the workshop -/

namespace Workshop

open scoped Ascii

/-- Whether the customer has a fleet, with a rule that orders the truth value. -/
def fleet : QualificationField where
  key := "fleet".toList
  label := "Fleet".toList
  prompt := "Do you have more than one car?".toList
  fieldType := .boolean
  validation := unbounded
  required := false
  order := 0
  sensitivity := .publicLevel
  scoreRules :=
    [{ code := "has_fleet".toList
       operator := .greaterThanOrEqual
       expected := .int 1
       points := 10
       codeAndPointsValid := by decide }]
  handoffTriggers := []
  identityAndCopyValid := by decide
  orderNonnegative := brakes.orderNonnegative
  choiceIffOptions := by decide

/-- The day the customer asks for, with a rule for one day. -/
def visit : QualificationField where
  key := "visit".toList
  label := "Visit".toList
  prompt := "When would you like to come?".toList
  fieldType := .date
  validation := unbounded
  required := false
  order := 1
  sensitivity := .publicLevel
  scoreRules :=
    [{ code := "opening_day".toList
       operator := .equals
       expected := .text "2026-03-02".toList
       points := 20
       codeAndPointsValid := by decide }]
  handoffTriggers := []
  identityAndCopyValid := by decide
  orderNonnegative := by decide
  choiceIffOptions := by decide

def enquiry : QualificationSchema where
  id := 1
  tenantId := 2
  code := "enquiry".toList
  version := 1
  title := "Enquiry".toList
  consentVersion := "1".toList
  consentPurpose := "Answering the enquiry".toList
  fields := [fleet, visit]
  gradeBands := [{ minimumScore := 0, grade := "C".toList, valid := by decide }]
  sessionTtl := 3600000000
  handoffResponseMinutes := 30
  published := true
  active := true
  identityValid := by decide
  consentPolicyPresent := by decide
  fieldsAndTtlPresent := by decide
  keysAndOrdersUnique := by decide
  fieldsInOrder := by decide
  gradesStartAtZero := rfl
  gradesInOrder := by decide
  responseTimeValid := by decide

/-- The second of March. -/
def openingDay : Date := ⟨2026, 3, 2, by decide, by decide, by decide⟩

end Workshop

end BusinessAssistant.Application
