/-
# Reading back the text of a number

The text of a decimal number, with its sign, point and exponent where it has them,
reads back as that number. So does the text of an integer, as a decimal number.
-/

import BusinessAssistant.Domain.Decimal
import BusinessAssistant.Domain.Trimming

namespace BusinessAssistant.Domain

namespace Text

/-! ## Digits -/

/-- The ten digits of ASCII are all digits. -/
def Digits (text : Text) : Prop := ∀ char ∈ text, char.isDigit = true

theorem digits_nil : Digits [] := fun _ hchar => absurd hchar List.not_mem_nil

theorem digits_ofNat (number : Nat) : Digits (ofNat number) :=
  fun _ hchar => Nat.isDigit_of_mem_toDigits (by decide) (by decide) hchar

theorem ofNat_ne_nil (number : Nat) : ofNat number ≠ [] := Nat.toDigits_ne_nil

theorem digits_replicate_zero (count : Nat) : Digits (List.replicate count '0') := by
  intro char hchar
  rw [List.eq_of_mem_replicate hchar]
  decide

theorem Digits.append {first second : Text} (hfirst : Digits first) (hsecond : Digits second) :
    Digits (first ++ second) := by
  intro char hchar
  rcases List.mem_append.mp hchar with hchar | hchar
  · exact hfirst char hchar
  · exact hsecond char hchar

theorem isDigit_iff (char : Char) : char.isDigit = true ↔ 48 ≤ char.toNat ∧ char.toNat ≤ 57 := by
  simp [Char.isDigit, UInt32.le_iff_toNat_le]

theorem digitValue?_of_isDigit {char : Char} (hdigit : char.isDigit = true) :
    digitValue? char = some (char.toNat - 48) := by
  obtain ⟨hleast, hmost⟩ := (isDigit_iff char).mp hdigit
  have hfirst : digitZeros.find? (fun first => first ≤ char.toNat ∧ char.toNat < first + 10) =
      some 48 := by
    unfold digitZeros
    rw [List.find?_cons_of_pos]
    exact decide_eq_true ⟨hleast, by omega⟩
  unfold digitValue?
  rw [hfirst]
  rfl

/-- A rest that does not start with a digit ends the digits. -/
def EndsDigits (rest : Text) : Prop := ∀ char ∈ rest.head?, digitValue? char = none

theorem takeDigits_of_endsDigits {rest : Text} (hrest : EndsDigits rest) :
    takeDigits rest = ([], rest) := by
  cases rest with
  | nil => rfl
  | cons char rest =>
      unfold takeDigits
      rw [hrest char rfl]

theorem takeDigits_append {digits rest : Text} (hdigits : Digits digits)
    (hrest : EndsDigits rest) :
    takeDigits (digits ++ rest) = (digits.map fun char => char.toNat - 48, rest) := by
  induction digits with
  | nil => exact takeDigits_of_endsDigits hrest
  | cons char digits ih =>
      rw [List.cons_append]
      unfold takeDigits
      rw [digitValue?_of_isDigit (hdigits char List.mem_cons_self),
        ih fun other hother => hdigits other (List.mem_cons_of_mem _ hother)]
      rfl

theorem takeDigits_digits {digits : Text} (hdigits : Digits digits) :
    takeDigits digits = (digits.map fun char => char.toNat - 48, []) := by
  have hnone : EndsDigits [] := fun _ hchar => by cases hchar
  rw [← takeDigits_append hdigits hnone, List.append_nil]

theorem digitsValue_map (digits : Text) :
    digitsValue (digits.map fun char => char.toNat - 48) = Nat.ofDigitChars 10 digits 0 := by
  unfold digitsValue
  rw [List.foldl_map]
  rfl

@[simp]
theorem ofDigitChars_ofNat (number : Nat) : Nat.ofDigitChars 10 (ofNat number) 0 = number :=
  Nat.ofDigitChars_ten_toDigits

end Text

namespace Decimal

open Text

/-! ## Exponents and fractions -/

theorem takeExponent_signed (exponent : Int) :
    takeExponent ('E' :: signedExponent exponent) = some exponent := by
  have hvalue : ∀ number, ∃ digit more, takeDigits (ofNat number) = (digit :: more, []) ∧
      digitsValue (digit :: more) = number := by
    intro number
    have htake := takeDigits_digits (digits_ofNat number)
    have hread := digitsValue_map (ofNat number)
    rw [ofDigitChars_ofNat] at hread
    cases hmap : (ofNat number).map fun char => char.toNat - 48 with
    | nil => exact absurd (List.map_eq_nil_iff.mp hmap) (ofNat_ne_nil number)
    | cons digit more =>
        rw [hmap] at htake hread
        exact ⟨digit, more, htake, hread⟩
  obtain ⟨digit, more, htake, hread⟩ := hvalue exponent.natAbs
  have hsign : takeSign (signedExponent exponent) =
      (decide (exponent < 0), ofNat exponent.natAbs) := by
    unfold signedExponent
    split
    · rename_i hnegative
      rw [decide_eq_true hnegative]
      rfl
    · rename_i hpositive
      rw [decide_eq_false hpositive]
      rfl
  have hletter : 'E'.toLower = 'e' := by decide
  simp only [takeExponent, if_pos hletter, hsign, htake, hread, decide_eq_true_eq]
  congr 1
  split <;> omega

/-- The exponent of a number, where it is not zero. -/
def exponentText (power : Int) : Text := if power = 0 then [] else 'E' :: signedExponent power

theorem takeExponent_exponentText (power : Int) :
    takeExponent (exponentText power) = some power := by
  unfold exponentText
  split
  · rename_i hzero
    rw [hzero]
    rfl
  · exact takeExponent_signed power

theorem endsDigits_exponentText (power : Int) : EndsDigits (exponentText power) := by
  intro char hchar
  unfold exponentText at hchar
  split at hchar
  · cases hchar
  · cases hchar
    decide

theorem takeFraction_exponentText (power : Int) :
    takeFraction (exponentText power) = ([], exponentText power) := by
  unfold exponentText
  split
  · rfl
  · rfl

/-- The text of a number is digits, a point and more digits where there are any, and the
exponent. -/
def written (whole fraction : Text) (power : Int) : Text :=
  whole ++ (if fraction = [] then [] else '.' :: fraction) ++ exponentText power

/-- What is written reads back. -/
theorem parseFinite_written (negative : Bool) {whole fraction : Text} (power : Int)
    (hwhole : Digits whole) (hfraction : Digits fraction) (hsome : whole ≠ []) :
    parseFinite negative (written whole fraction power) =
      some (.finite negative (Nat.ofDigitChars 10 (whole ++ fraction) 0)
        (power - fraction.length)) := by
  have hdigits := digitsValue_map (whole ++ fraction)
  rw [List.map_append] at hdigits
  have hsome' : whole.map (fun char => char.toNat - 48) ++
      fraction.map (fun char => char.toNat - 48) ≠ [] := by
    intro hnil
    exact hsome (List.map_eq_nil_iff.mp (List.append_eq_nil_iff.mp hnil).1)
  by_cases hnone : fraction = []
  · have htext : written whole fraction power = whole ++ exponentText power := by
      simp only [written, if_pos hnone, List.append_nil]
    subst hnone
    unfold parseFinite
    rw [htext, takeDigits_append hwhole (endsDigits_exponentText power)]
    simp only [takeFraction_exponentText, List.map_nil] at hsome' hdigits ⊢
    rw [if_neg hsome', takeExponent_exponentText, hdigits]
    rfl
  · have htext : written whole fraction power =
        whole ++ ('.' :: (fraction ++ exponentText power)) := by
      simp only [written, if_neg hnone, List.append_assoc, List.cons_append]
    have hpoint : EndsDigits ('.' :: (fraction ++ exponentText power)) := by
      intro char hchar
      cases hchar
      decide
    unfold parseFinite
    rw [htext, takeDigits_append hwhole hpoint]
    simp only [takeFraction, takeDigits_append hfraction (endsDigits_exponentText power)]
    rw [if_neg hsome', takeExponent_exponentText, hdigits, List.length_map]
    rfl

/-! ## Numbers -/

/-- The text of a finite number is written that way: the digits of its coefficient,
filled up with zeros before a point that stands to the left of them. -/
theorem strFinite_eq_written (coefficient : Nat) (exponent : Int) :
    ∃ whole fraction power, strFinite coefficient exponent = written whole fraction power ∧
      Digits whole ∧ Digits fraction ∧ whole ≠ [] ∧ power - fraction.length = exponent ∧
      Nat.ofDigitChars 10 (whole ++ fraction) 0 = coefficient := by
  have hdigits := digits_ofNat coefficient
  have hvalue := ofDigitChars_ofNat coefficient
  have hlength := List.length_pos_of_ne_nil (ofNat_ne_nil coefficient)
  unfold strFinite
  generalize ofNat coefficient = digits at hdigits hvalue hlength ⊢
  obtain ⟨leftDigits, hleft⟩ : ∃ number : Int, number = exponent + digits.length := ⟨_, rfl⟩
  obtain ⟨dotPlace, hplace⟩ : ∃ place : Int,
      place = if exponent ≤ 0 ∧ leftDigits > -6 then leftDigits else 1 := ⟨_, rfl⟩
  have hsuffix : ∀ text : Text, (if leftDigits = dotPlace then text else
      text ++ 'E' :: signedExponent (leftDigits - dotPlace)) =
        text ++ exponentText (leftDigits - dotPlace) := by
    intro text
    unfold exponentText
    by_cases hsame : leftDigits = dotPlace
    · rw [if_pos hsame, if_pos (by omega), List.append_nil]
    · rw [if_neg hsame, if_neg (by omega)]
  simp only [← hleft, ← hplace, hsuffix]
  by_cases hbefore : dotPlace ≤ 0
  · refine ⟨['0'], List.replicate (-dotPlace).toNat '0' ++ digits, leftDigits - dotPlace, ?_, ?_,
      (digits_replicate_zero _).append hdigits, List.cons_ne_nil _ _, ?_, ?_⟩
    · rw [if_pos hbefore]
      have hsome : List.replicate (-dotPlace).toNat '0' ++ digits ≠ [] :=
        List.append_ne_nil_of_right_ne_nil _ (List.ne_nil_of_length_pos hlength)
      simp only [written, if_neg hsome, List.cons_append, List.nil_append]
    · intro char hchar
      rw [List.mem_singleton.mp hchar]
      decide
    · rw [List.length_append, List.length_replicate]
      split at hplace <;> omega
    · have hzeros : ['0'] ++ (List.replicate (-dotPlace).toNat '0' ++ digits) =
          List.replicate ((-dotPlace).toNat + 1) '0' ++ digits := by
        rw [List.replicate_succ, List.cons_append, List.cons_append, List.nil_append]
      rw [hzeros, Nat.ofDigitChars_append, Nat.ofDigitChars_replicate_zero, Nat.mul_zero, hvalue]
  · rw [if_neg hbefore]
    by_cases hafter : dotPlace ≥ digits.length
    · refine ⟨digits, [], leftDigits - dotPlace, ?_, hdigits, digits_nil,
        List.ne_nil_of_length_pos hlength, ?_, ?_⟩
      · have hnone : (dotPlace - digits.length).toNat = 0 := by
          split at hplace <;> omega
        rw [if_pos hafter, hnone]
        simp only [written, List.replicate_zero, List.append_nil, if_pos]
      · rw [List.length_nil]
        split at hplace <;> omega
      · rw [List.append_nil, hvalue]
    · have hsplit : dotPlace.toNat < digits.length := by omega
      have hsome : digits.drop dotPlace.toNat ≠ [] := by
        intro hnil
        rw [List.drop_eq_nil_iff] at hnil
        omega
      refine ⟨digits.take dotPlace.toNat, digits.drop dotPlace.toNat, leftDigits - dotPlace, ?_,
        fun char hchar => hdigits char (List.mem_of_mem_take hchar),
        fun char hchar => hdigits char (List.mem_of_mem_drop hchar), ?_, ?_, ?_⟩
      · rw [if_neg hafter]
        simp only [written, if_neg hsome, List.append_assoc, List.cons_append]
      · intro hnil
        rw [List.take_eq_nil_iff] at hnil
        rcases hnil with hzero | hempty
        · omega
        · rw [hempty] at hlength
          exact absurd hlength (Nat.lt_irrefl 0)
      · rw [List.length_drop]
        omega
      · rw [List.take_append_drop, hvalue]

theorem parseFinite_strFinite (negative : Bool) (coefficient : Nat) (exponent : Int) :
    parseFinite negative (strFinite coefficient exponent) =
      some (.finite negative coefficient exponent) := by
  obtain ⟨whole, fraction, power, htext, hwhole, hfraction, hsome, hpower, hvalue⟩ :=
    strFinite_eq_written coefficient exponent
  rw [htext, parseFinite_written negative power hwhole hfraction hsome, hpower, hvalue]

/-- The characters a number is written with. -/
def NumberChar (char : Char) : Prop :=
  char.isDigit = true ∨ char ∈ ['-', '+', '.', 'E', 's', 'N', 'a', 'I', 'n', 'f', 'i', 't', 'y']

theorem NumberChar.plain {char : Char} (hchar : NumberChar char) :
    isSpace char = false ∧ char ≠ '_' := by
  rcases hchar with hdigit | hmem
  · obtain ⟨hleast, hmost⟩ := (isDigit_iff char).mp hdigit
    refine ⟨?_, ?_⟩
    · unfold isSpace
      grind
    · intro hsame
      rw [hsame] at hmost
      exact absurd hmost (by decide)
  · exact (by decide : ∀ other ∈ ['-', '+', '.', 'E', 's', 'N', 'a', 'I', 'n', 'f', 'i', 't', 'y'],
      isSpace other = false ∧ other ≠ '_') char hmem

theorem numberChar_ofNat (number : Nat) : ∀ char ∈ ofNat number, NumberChar char :=
  fun char hchar => .inl (digits_ofNat number char hchar)

theorem numberChar_exponentText (power : Int) : ∀ char ∈ exponentText power, NumberChar char := by
  intro char hchar
  unfold exponentText at hchar
  split at hchar
  · cases hchar
  · rcases List.mem_cons.mp hchar with rfl | hchar
    · exact .inr (by decide)
    · unfold signedExponent at hchar
      split at hchar
      · rcases List.mem_cons.mp hchar with rfl | hchar
        · exact .inr (by decide)
        · exact numberChar_ofNat _ char hchar
      · rcases List.mem_cons.mp hchar with rfl | hchar
        · exact .inr (by decide)
        · exact numberChar_ofNat _ char hchar

theorem numberChar_written {whole fraction : Text} (power : Int) (hwhole : Digits whole)
    (hfraction : Digits fraction) : ∀ char ∈ written whole fraction power, NumberChar char := by
  intro char hchar
  unfold written at hchar
  rcases List.mem_append.mp hchar with hchar | hchar
  · rcases List.mem_append.mp hchar with hchar | hchar
    · exact .inl (hwhole char hchar)
    · split at hchar
      · cases hchar
      · rcases List.mem_cons.mp hchar with rfl | hchar
        · exact .inr (by decide)
        · exact .inl (hfraction char hchar)
  · exact numberChar_exponentText power char hchar

/-- A text of such characters is read as it stands, after its sign. -/
theorem parse_of_numberChar {text : Text} (htext : ∀ char ∈ text, NumberChar char) :
    parse text =
      (parseFinite (takeSign text).1 (takeSign text).2).or
        (parseSpecial (takeSign text).1 (takeSign text).2) := by
  have htrimmed : text.Trimmed :=
    ⟨fun char hchar => (htext char (List.mem_of_mem_head? hchar)).plain.1,
      fun char hchar => (htext char (List.mem_of_mem_getLast? hchar)).plain.1⟩
  have hkeep : text.filter (· ≠ '_') = text := by
    apply List.filter_eq_self.mpr
    intro char hchar
    exact decide_eq_true (htext char hchar).plain.2
  unfold parse
  rw [strip_of_trimmed htrimmed, hkeep]

/-- The sign a text is written with is taken from it. -/
theorem takeSign_signed (negative : Bool) {text : Text}
    (htext : ∀ char ∈ text.head?, char ≠ '-' ∧ char ≠ '+') :
    takeSign ((if negative then ['-'] else []) ++ text) = (negative, text) := by
  cases negative with
  | true => rfl
  | false =>
      cases text with
      | nil => rfl
      | cons char text =>
          obtain ⟨hminus, hplus⟩ := htext char rfl
          simp only [Bool.false_eq_true, if_false, List.nil_append]
          unfold takeSign
          split
          · rename_i heq
            cases heq
            exact absurd rfl hminus
          · rename_i heq
            cases heq
            exact absurd rfl hplus
          · rfl

theorem numberChar_signed (negative : Bool) {text : Text}
    (htext : ∀ char ∈ text, NumberChar char) :
    ∀ char ∈ (if negative then ['-'] else []) ++ text, NumberChar char := by
  intro char hchar
  rcases List.mem_append.mp hchar with hsign | hchar
  · split at hsign
    · rw [List.mem_singleton.mp hsign]
      exact .inr (by decide)
    · cases hsign
  · exact htext char hchar

/-- A text that starts with a letter is no finite number. -/
theorem parseFinite_eq_none (negative : Bool) {char : Char} (rest : Text)
    (hdigit : digitValue? char = none) (hpoint : char ≠ '.') :
    parseFinite negative (char :: rest) = none := by
  have hends : EndsDigits (char :: rest) := by
    intro other hother
    cases hother
    exact hdigit
  have hfraction : takeFraction (char :: rest) = ([], char :: rest) := by
    unfold takeFraction
    split
    · rename_i heq
      cases heq
      exact absurd rfl hpoint
    · rfl
  unfold parseFinite
  rw [takeDigits_of_endsDigits hends]
  simp only [hfraction, List.append_nil, if_true]

/-- Special values start with a letter of their names. -/
theorem parseSpecial_eq_none (negative : Bool) {char : Char} (rest : Text)
    (hchar : char.toLower ∉ ['i', 'n', 's']) : parseSpecial negative (char :: rest) = none := by
  simp only [List.mem_cons, List.not_mem_nil, or_false, not_or] at hchar
  unfold parseSpecial asciiLower
  simp [hchar]

/-- Digits have no capitals. -/
theorem toLower_digit {char : Char} (hdigit : char.isDigit = true) : char.toLower = char := by
  obtain ⟨hleast, hmost⟩ := (isDigit_iff char).mp hdigit
  unfold Char.toLower
  rw [dif_neg]
  intro hcapital
  have hleast' : 65 ≤ char.toNat := hcapital.1
  omega

theorem asciiLower_digits {digits : Text} (hdigits : Digits digits) :
    asciiLower digits = digits := by
  unfold asciiLower
  conv => rhs; rw [← List.map_id digits]
  apply List.map_congr_left
  intro char hchar
  exact toLower_digit (hdigits char hchar)

/-- The digits that follow `NaN`. -/
def payloadText (payload : Nat) : Text := if payload = 0 then [] else ofNat payload

theorem digits_payloadText (payload : Nat) : Digits (payloadText payload) := by
  unfold payloadText
  split
  · exact digits_nil
  · exact digits_ofNat payload

theorem ofDigitChars_payloadText (payload : Nat) :
    Nat.ofDigitChars 10 (payloadText payload) 0 = payload := by
  unfold payloadText
  split
  · rename_i hzero
    rw [hzero, Nat.ofDigitChars_nil]
  · exact ofDigitChars_ofNat payload

theorem parseSpecial_nan (negative signaling : Bool) (payload : Nat) :
    parseSpecial negative ((if signaling then ['s'] else []) ++ 'N' :: 'a' :: 'N' ::
      payloadText payload) = some (.nan negative signaling payload) := by
  have hdigits := digits_payloadText payload
  have hlower : asciiLower ((if signaling then ['s'] else []) ++ 'N' :: 'a' :: 'N' ::
      payloadText payload) =
        (if signaling then ['s'] else []) ++ 'n' :: 'a' :: 'n' :: payloadText payload := by
    cases signaling with
    | true =>
        exact congrArg (fun rest => 's' :: 'n' :: 'a' :: 'n' :: rest) (asciiLower_digits hdigits)
    | false => exact congrArg (fun rest => 'n' :: 'a' :: 'n' :: rest) (asciiLower_digits hdigits)
  have htake := takeDigits_digits hdigits
  have hvalue : digitsValue ((payloadText payload).map fun char => char.toNat - 48) = payload := by
    rw [digitsValue_map, ofDigitChars_payloadText]
  unfold parseSpecial
  rw [hlower]
  cases signaling with
  | true => simp [htake, hvalue]
  | false => simp [htake, hvalue]

/-- The text of a number reads back as the number. -/
theorem parse_str (number : Decimal) : parse number.str = some number := by
  cases number with
  | finite negative coefficient exponent =>
      obtain ⟨whole, fraction, power, htext, hwhole, hfraction, hsome, -, -⟩ :=
        strFinite_eq_written coefficient exponent
      have hchars : ∀ char ∈ strFinite coefficient exponent, NumberChar char := by
        rw [htext]
        exact numberChar_written power hwhole hfraction
      have hhead : ∀ char ∈ (strFinite coefficient exponent).head?, char ≠ '-' ∧ char ≠ '+' := by
        rw [htext]
        intro char hchar
        obtain ⟨digit, digits, rfl⟩ := List.exists_cons_of_ne_nil hsome
        have hdigit := hwhole digit List.mem_cons_self
        cases hchar
        refine ⟨?_, ?_⟩
        · rintro rfl
          exact absurd hdigit (by decide)
        · rintro rfl
          exact absurd hdigit (by decide)
      unfold str
      rw [parse_of_numberChar (numberChar_signed negative hchars), takeSign_signed negative hhead,
        parseFinite_strFinite, Option.some_or]
  | infinity negative =>
      unfold str
      rw [parse_of_numberChar, takeSign_signed]
      · have hfinite : parseFinite negative "Infinity".toList = none :=
          parseFinite_eq_none negative _ (by decide) (by decide)
        rw [hfinite, Option.none_or]
        rfl
      · decide
      · apply numberChar_signed
        intro char hchar
        exact .inr ((by decide : ∀ other ∈ "Infinity".toList, other ∈
          ['-', '+', '.', 'E', 's', 'N', 'a', 'I', 'n', 'f', 'i', 't', 'y']) char hchar)
  | nan negative signaling payload =>
      have htext : str (.nan negative signaling payload) = (if negative then ['-'] else []) ++
          ((if signaling then ['s'] else []) ++ 'N' :: 'a' :: 'N' :: payloadText payload) := by
        simp [str, payloadText]
      have hchars : ∀ char ∈ (if signaling then ['s'] else []) ++ 'N' :: 'a' :: 'N' ::
          payloadText payload, NumberChar char := by
        intro char hchar
        rcases List.mem_append.mp hchar with hsignal | hchar
        · split at hsignal
          · rw [List.mem_singleton.mp hsignal]
            exact .inr (by decide)
          · cases hsignal
        · simp only [List.mem_cons] at hchar
          rcases hchar with rfl | rfl | rfl | hchar
          · exact .inr (by decide)
          · exact .inr (by decide)
          · exact .inr (by decide)
          · exact .inl (digits_payloadText payload char hchar)
      rw [htext, parse_of_numberChar (numberChar_signed negative hchars), takeSign_signed]
      · rw [parseSpecial_nan]
        cases signaling with
        | true =>
            rw [if_pos rfl, List.singleton_append,
              parseFinite_eq_none negative _ (by decide) (by decide), Option.none_or]
        | false =>
            rw [if_neg Bool.false_ne_true, List.nil_append,
              parseFinite_eq_none negative _ (by decide) (by decide), Option.none_or]
      · cases signaling with
        | true => simp
        | false => simp

/-- Digits that are followed by a dash are no number. -/
theorem parse_dashed {digits rest : Text} (hdigits : Digits digits) (hsome : digits ≠ [])
    (hrest : ∀ char ∈ rest, NumberChar char) : parse (digits ++ '-' :: rest) = none := by
  have hchars : ∀ char ∈ digits ++ '-' :: rest, NumberChar char := by
    intro char hchar
    rcases List.mem_append.mp hchar with hchar | hchar
    · exact .inl (hdigits char hchar)
    · rcases List.mem_cons.mp hchar with rfl | hchar
      · exact .inr (by decide)
      · exact hrest char hchar
  have hends : EndsDigits ('-' :: rest) := by
    intro char hchar
    cases hchar
    decide
  have htake := takeDigits_append hdigits hends
  obtain ⟨digit, more, rfl⟩ := List.exists_cons_of_ne_nil hsome
  have hdigit := hdigits digit List.mem_cons_self
  have hsign : takeSign (digit :: more ++ '-' :: rest) = (false, digit :: more ++ '-' :: rest) := by
    apply takeSign_signed false
    intro char hchar
    cases hchar
    refine ⟨?_, ?_⟩
    · rintro rfl
      exact absurd hdigit (by decide)
    · rintro rfl
      exact absurd hdigit (by decide)
  have hspecial : digit.toLower ∉ ['i', 'n', 's'] := by
    intro hmem
    rw [toLower_digit hdigit] at hmem
    exact (by decide : ∀ letter ∈ ['i', 'n', 's'], ¬ letter.isDigit = true) digit hmem hdigit
  rw [parse_of_numberChar hchars, hsign, List.cons_append, parseSpecial_eq_none false _ hspecial,
    Option.or_none]
  unfold parseFinite
  rw [← List.cons_append, htake]
  simp [takeFraction, takeExponent]

/-- The text of an integer is that of the decimal number. -/
theorem str_ofInt (number : Int) : (ofInt number).str = Text.ofInt number := by
  have hplain : strFinite number.natAbs 0 = ofNat number.natAbs := by
    have hlength := List.length_pos_of_ne_nil (ofNat_ne_nil number.natAbs)
    unfold strFinite
    generalize ofNat number.natAbs = digits at hlength ⊢
    have hplain : ¬ (digits.length : Int) ≤ 0 := by omega
    have hnear : (0 : Int) ≤ 0 ∧ (digits.length : Int) > -6 := ⟨Int.le_refl 0, by omega⟩
    have hall : (digits.length : Int) ≥ digits.length := Int.le_refl _
    simp only [Int.zero_add, if_pos hnear, if_true, if_neg hplain, if_pos hall, Int.sub_self,
      Int.toNat_zero, List.replicate_zero, List.append_nil]
  simp only [ofInt, str, Text.ofInt, hplain]
  by_cases hnegative : number < 0
  · simp [hnegative]
  · simp [hnegative]

end Decimal

end BusinessAssistant.Domain
