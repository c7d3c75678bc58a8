/-
# Trimmed texts

A text is trimmed when it neither starts nor ends with whitespace. Trimming makes a
text trimmed and leaves trimmed texts alone; the pieces a text is split into have no
separators; texts joined from trimmed pieces are trimmed.
-/

import BusinessAssistant.Domain.Text
import Mathlib.Data.List.TakeWhile

namespace BusinessAssistant.Domain.Text

/-- A text without whitespace at its ends. -/
def Trimmed (value : Text) : Prop :=
  (∀ char ∈ value.head?, isSpace char = false) ∧ ∀ char ∈ value.getLast?, isSpace char = false

instance (value : Text) : Decidable value.Trimmed := inferInstanceAs (Decidable (_ ∧ _))

theorem dropWhile_head (value : Text) :
    ∀ char ∈ (value.dropWhile isSpace).head?, isSpace char = false := by
  intro char hchar
  have hhead := List.head?_dropWhile_not isSpace value
  rw [hchar] at hhead
  exact hhead

theorem dropWhile_of_head {value : Text} (hhead : ∀ char ∈ value.head?, isSpace char = false) :
    value.dropWhile isSpace = value := by
  cases value with
  | nil => rfl
  | cons char rest =>
      rw [List.dropWhile_cons_of_neg]
      rw [hhead char rfl]
      exact Bool.false_ne_true

theorem strip_of_trimmed {value : Text} (htrimmed : value.Trimmed) : strip value = value := by
  unfold strip
  rw [dropWhile_of_head htrimmed.1, dropWhile_of_head, List.reverse_reverse]
  intro char hchar
  rw [List.head?_reverse] at hchar
  exact htrimmed.2 char hchar

theorem trimmed_strip (value : Text) : (strip value).Trimmed := by
  unfold strip
  constructor
  · intro char hchar
    rw [List.head?_reverse] at hchar
    -- The last character that is dropped from the reversed text is not the first of the text.
    obtain ⟨dropped, hsplit⟩ := List.dropWhile_suffix (p := isSpace)
      (l := (value.dropWhile isSpace).reverse)
    apply dropWhile_head value char
    have hwhole : (value.dropWhile isSpace).reverse.getLast? = some char := by
      rw [← hsplit]
      exact List.mem_getLast?_append_of_mem_getLast? hchar
    rwa [List.getLast?_reverse] at hwhole
  · intro char hchar
    rw [List.getLast?_reverse] at hchar
    exact dropWhile_head _ char hchar

theorem strip_eq_self_iff {value : Text} : strip value = value ↔ value.Trimmed := by
  constructor
  · intro hsame
    rw [← hsame]
    exact trimmed_strip value
  · exact strip_of_trimmed

/-- Trimming keeps some of the characters. -/
theorem strip_subset {value : Text} {char : Char} (hchar : char ∈ strip value) : char ∈ value := by
  unfold strip at hchar
  rw [List.mem_reverse] at hchar
  have hkept := (List.dropWhile_sublist isSpace).mem hchar
  rw [List.mem_reverse] at hkept
  exact (List.dropWhile_sublist isSpace).mem hkept

/-! ## Pieces between separators -/

/-- The pieces of a text that is split have no separators. -/
theorem not_mem_of_mem_splitOn {separator : Char} {value piece : Text}
    (hpiece : piece ∈ value.splitOn separator) : separator ∉ piece := by
  induction value generalizing piece with
  | nil =>
      rw [List.splitOn_nil, List.mem_singleton] at hpiece
      rw [hpiece]
      exact List.not_mem_nil
  | cons char rest ih =>
      rw [List.splitOn_cons_eq_if_modifyHead] at hpiece
      split at hpiece
      · rcases List.mem_cons.mp hpiece with rfl | hpiece
        · exact List.not_mem_nil
        · exact ih hpiece
      · rename_i hother
        cases hsplit : rest.splitOn separator with
        | nil => exact absurd hsplit (List.splitOn_ne_nil _ _)
        | cons first others =>
            rw [hsplit] at hpiece ih
            rcases List.mem_cons.mp hpiece with rfl | hpiece
            · intro hmem
              rcases List.mem_cons.mp hmem with rfl | hmem
              · simp at hother
              · exact ih List.mem_cons_self hmem
            · exact ih (List.mem_cons_of_mem _ hpiece)

theorem trimmed_append {first separator last : Text} (hfirst : first.Trimmed)
    (hlast : last.Trimmed) (hfirst' : first ≠ []) (hlast' : last ≠ []) :
    Trimmed (first ++ separator ++ last) := by
  constructor
  · intro char hchar
    cases first with
    | nil => exact absurd rfl hfirst'
    | cons head rest => exact hfirst.1 char hchar
  · intro char hchar
    rw [List.getLast?_append_of_ne_nil _ hlast'] at hchar
    exact hlast.2 char hchar

/-- A text joined from trimmed pieces is trimmed. -/
theorem trimmed_intercalate {separator : Text} {pieces : List Text}
    (hpieces : ∀ piece ∈ pieces, piece.Trimmed ∧ piece ≠ []) :
    Trimmed (separator.intercalate pieces) := by
  have hboth : Trimmed (separator.intercalate pieces) ∧
      (pieces ≠ [] → separator.intercalate pieces ≠ []) := by
    induction pieces with
    | nil => exact ⟨by simp [Trimmed, List.intercalate], fun hnone => absurd rfl hnone⟩
    | cons piece rest ih =>
        obtain ⟨htrimmed, hpiece⟩ := hpieces piece List.mem_cons_self
        obtain ⟨hlater, hnonempty⟩ := ih fun other hother =>
          hpieces other (List.mem_cons_of_mem _ hother)
        cases rest with
        | nil =>
            have hone : separator.intercalate [piece] = piece := by simp [List.intercalate]
            rw [hone]
            exact ⟨htrimmed, fun _ => hpiece⟩
        | cons next rest =>
            rw [List.intercalate_cons_cons]
            refine ⟨trimmed_append htrimmed hlater hpiece (hnonempty (List.cons_ne_nil _ _)), ?_⟩
            intro _ hnil
            exact hpiece (List.append_eq_nil_iff.mp (List.append_eq_nil_iff.mp hnil).1).1
  exact hboth.1

end BusinessAssistant.Domain.Text
