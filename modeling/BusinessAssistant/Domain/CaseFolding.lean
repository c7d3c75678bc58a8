/-
# Case folding

What the code relies on when it compares texts without regard to case: the folding is
that of the characters one by one, and it leaves whitespace and separators alone. So a
folded text is trimmed, or has a comma, exactly when the text is or has.
-/

import BusinessAssistant.Domain.Trimming
import Mathlib.Data.List.Basic

namespace BusinessAssistant.Domain

/-- Case folding maps each character to one or more characters. Whitespace and the
comma are mapped to themselves, and nothing else is mapped to them. -/
structure FoldsCharacters [PythonText] (fold : Char → Text) : Prop where
  casefold_eq : ∀ value, PythonText.casefold value = value.flatMap fold
  nonempty : ∀ char, fold char ≠ []
  space : ∀ char, Text.isSpace char = true → fold char = [char]
  noSpace : ∀ char, Text.isSpace char = false → ∀ other ∈ fold char, Text.isSpace other = false
  comma : fold ',' = [',']
  noComma : ∀ char, char ≠ ',' → ',' ∉ fold char

namespace FoldsCharacters

variable [PythonText] {fold : Char → Text} (hfold : FoldsCharacters fold)

include hfold

theorem casefold_append (first second : Text) :
    PythonText.casefold (first ++ second) =
      PythonText.casefold first ++ PythonText.casefold second := by
  rw [hfold.casefold_eq, hfold.casefold_eq, hfold.casefold_eq, List.flatMap_append]

theorem casefold_singleton (char : Char) : PythonText.casefold [char] = fold char := by
  rw [hfold.casefold_eq, List.flatMap_singleton]

/-- The characters a character is mapped to are spaces when it is one. -/
theorem isSpace_of_mem {char other : Char} (hother : other ∈ fold char) :
    Text.isSpace other = Text.isSpace char := by
  cases hchar : Text.isSpace char with
  | false => exact hfold.noSpace char hchar other hother
  | true =>
      rw [hfold.space char hchar, List.mem_singleton] at hother
      rw [hother, hchar]

/-- Folding keeps whether a text is trimmed. -/
theorem trimmed_casefold (value : Text) :
    Text.Trimmed (PythonText.casefold value) ↔ value.Trimmed := by
  have hhead : (∀ char ∈ (PythonText.casefold value).head?, Text.isSpace char = false) ↔
      ∀ char ∈ value.head?, Text.isSpace char = false := by
    cases value with
    | nil => rw [hfold.casefold_eq, List.flatMap_nil]
    | cons char rest =>
        obtain ⟨first, others, hfirst⟩ := List.exists_cons_of_ne_nil (hfold.nonempty char)
        have hspace := hfold.isSpace_of_mem (hfirst ▸ List.mem_cons_self : first ∈ fold char)
        rw [hfold.casefold_eq, List.flatMap_cons, hfirst]
        simp [hspace]
  have hlast : (∀ char ∈ (PythonText.casefold value).getLast?, Text.isSpace char = false) ↔
      ∀ char ∈ value.getLast?, Text.isSpace char = false := by
    rcases List.eq_nil_or_concat' value with rfl | ⟨rest, char, rfl⟩
    · rw [hfold.casefold_eq, List.flatMap_nil]
    · obtain ⟨others, final, hfinal⟩ :=
        (List.eq_nil_or_concat' (fold char)).resolve_left (hfold.nonempty char)
      have hmem : final ∈ fold char := by
        rw [hfinal]
        exact List.mem_append_right _ (List.mem_singleton.mpr rfl)
      have hspace := hfold.isSpace_of_mem hmem
      rw [hfold.casefold_append, hfold.casefold_singleton, hfinal, ← List.append_assoc]
      simp [hspace]
  exact and_congr hhead hlast

theorem comma_mem_casefold (value : Text) : ',' ∈ PythonText.casefold value ↔ ',' ∈ value := by
  rw [hfold.casefold_eq, List.mem_flatMap]
  constructor
  · intro hmem
    obtain ⟨char, hchar, hcomma⟩ := hmem
    by_cases hsame : char = ','
    · rwa [← hsame]
    · exact absurd hcomma (hfold.noComma char hsame)
  · intro hmem
    exact ⟨',', hmem, by rw [hfold.comma]; exact List.mem_singleton.mpr rfl⟩

theorem length_casefold_replicate (char : Char) (count : ℕ) :
    (PythonText.casefold (List.replicate count char)).length = count * (fold char).length := by
  rw [hfold.casefold_eq, List.length_flatMap, List.map_replicate, List.sum_replicate_nat]

end FoldsCharacters

/-! ## Letters of ASCII -/

namespace Ascii

/-- Text whose letters are those of ASCII, and no patterns. -/
scoped instance letters : PythonText where
  casefold := List.map Char.toLower
  isidentifier
    | [] => false
    | char :: rest =>
        (char.isAlpha || char = '_') && rest.all fun other => other.isAlphanum || other = '_'
  fullmatch _ _ := none
  strList values :=
    "['".toList ++ ['\'', ',', ' ', '\''].intercalate values ++ "']".toList

/-- Lowering moves the capital letters only, to the small ones. -/
theorem toNat_toLower (char : Char) :
    char.toLower = char ∨
      65 ≤ char.toNat ∧ char.toNat ≤ 90 ∧ char.toLower.toNat = char.toNat + 32 := by
  by_cases hcapital : char.val ≥ 'A'.val ∧ char.val ≤ 'Z'.val
  · have hnumbers : 65 ≤ char.toNat ∧ char.toNat ≤ 90 := hcapital
    refine .inr ⟨hnumbers.1, hnumbers.2, ?_⟩
    unfold Char.toLower
    rw [dif_pos hcapital]
    have hsum : (char.val + ('a'.val - 'A'.val)).toNat = (char.toNat + 32) % 2 ^ 32 :=
      UInt32.toNat_add _ _
    calc (char.val + ('a'.val - 'A'.val)).toNat = (char.toNat + 32) % 2 ^ 32 := hsum
      _ = char.toNat + 32 := Nat.mod_eq_of_lt (by omega)
  · left
    unfold Char.toLower
    rw [dif_neg hcapital]

theorem isSpace_toLower (char : Char) : Text.isSpace char.toLower = Text.isSpace char := by
  rcases toNat_toLower char with hsame | ⟨hleast, hmost, hsmall⟩
  · rw [hsame]
  · unfold Text.isSpace
    rw [hsmall]
    grind

theorem toLower_eq_comma_iff (char : Char) : char.toLower = ',' ↔ char = ',' := by
  rcases toNat_toLower char with hsame | ⟨hleast, hmost, hsmall⟩
  · rw [hsame]
  · constructor
    · intro hcomma
      rw [hcomma] at hsmall
      simp at hsmall
      omega
    · intro hcomma
      rw [hcomma] at hleast
      simp at hleast

/-- The folding of ASCII is one of characters. -/
theorem foldsCharacters : FoldsCharacters fun char => [char.toLower] where
  casefold_eq value := List.map_eq_flatMap
  nonempty _ := List.cons_ne_nil _ _
  space char hspace := by
    rcases toNat_toLower char with hsame | ⟨hleast, hmost, _⟩
    · rw [hsame]
    · unfold Text.isSpace at hspace
      grind
  noSpace char hchar other hother := by
    rw [List.mem_singleton.mp hother, isSpace_toLower]
    exact hchar
  comma := by decide
  noComma char hchar hmem :=
    hchar ((toLower_eq_comma_iff char).mp (List.mem_singleton.mp hmem).symm)

end Ascii

end BusinessAssistant.Domain
