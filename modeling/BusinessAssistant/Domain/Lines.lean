/-
# Lines of text

Line ends, runs of blanks and word characters as Python sees them. What its Unicode
tables decide beyond ASCII, and the checksum of a text, are parameters.
-/

import BusinessAssistant.Domain.Trimming

namespace BusinessAssistant.Domain

/-- What Python's Unicode tables decide of text beyond ASCII, and its hash. -/
class PythonLibrary where
  /-- `unicodedata.normalize("NFKC", value)` of a text that is not all ASCII -/
  nfkc : Text → Text
  /-- `char.isalnum()` of a character that is no ASCII -/
  isalnum : Char → Bool
  /-- `hashlib.sha256(value.encode("utf-8")).hexdigest()` -/
  hexdigest : Text → Text

namespace Text

def isAscii (char : Char) : Bool := char.toNat < 128

/-- `unicodedata.normalize("NFKC", value)`, which leaves ASCII as it is. -/
def nfkc [PythonLibrary] (value : Text) : Text :=
  if value.all isAscii = true then value else PythonLibrary.nfkc value

/-- What `\w` matches. -/
def isWord [PythonLibrary] (char : Char) : Bool :=
  let code := char.toNat
  if code < 128 then
    (48 ≤ code && code ≤ 57) || (65 ≤ code && code ≤ 90) || code = 95 || (97 ≤ code && code ≤ 122)
  else !isSpace char && PythonLibrary.isalnum char

/-- The characters `str.splitlines` ends a line at. -/
def isLineEnd (char : Char) : Bool :=
  let code := char.toNat
  (10 ≤ code && code ≤ 13) || (28 ≤ code && code ≤ 30) || code = 0x85 || code = 0x2028 ||
    code = 0x2029

/-- `value.replace("\r\n", "\n").replace("\r", "\n")` -/
def unixLines : Text → Text
  | [] => []
  | '\r' :: '\n' :: rest => '\n' :: unixLines rest
  | '\r' :: rest => '\n' :: unixLines rest
  | char :: rest => char :: unixLines rest

/-- `value.splitlines()` of a text without carriage returns; `line` collects the line
being read, in reverse. -/
def linesFrom : Text → Text → List Text
  | line, [] => if line = [] then [] else [line.reverse]
  | line, char :: rest =>
      if isLineEnd char = true then line.reverse :: linesFrom [] rest
      else linesFrom (char :: line) rest

def splitlines (value : Text) : List Text := linesFrom [] value

/-- `"\n".join(lines)` -/
def joinLines (lines : List Text) : Text := ['\n'].intercalate lines

/-- `" ".join(words)` -/
def joinWords (words : List Text) : Text := [' '].intercalate words

/-- `value.split()` -/
def words (value : Text) : List Text := splitFrom [] value

/-- What `[ \t]` matches. -/
def isBlank (char : Char) : Bool := char = ' ' || char = '\t'

/-- `re.sub(r"[ \t]+", " ", value)` -/
def collapseBlanks : Text → Text
  | [] => []
  | [char] => if isBlank char = true then [' '] else [char]
  | char :: next :: rest =>
      if isBlank char = true then
        if isBlank next = true then collapseBlanks (next :: rest)
        else ' ' :: collapseBlanks (next :: rest)
      else char :: collapseBlanks (next :: rest)

/-! ## Words -/

theorem isSpace_of_isBlank {char : Char} (hblank : isBlank char = true) : isSpace char = true := by
  simp only [isBlank, Bool.or_eq_true, decide_eq_true_eq] at hblank
  rcases hblank with rfl | rfl <;> decide

theorem isSpace_of_isLineEnd {char : Char} (hend : isLineEnd char = true) :
    isSpace char = true := by
  simp only [isLineEnd, isSpace, Bool.or_eq_true, Bool.and_eq_true, decide_eq_true_eq] at hend ⊢
  omega

theorem not_isWord_of_isSpace [PythonLibrary] {char : Char} (hspace : isSpace char = true) :
    isWord char = false := by
  unfold isWord
  simp only
  split
  · simp only [isSpace, Bool.or_eq_true, Bool.and_eq_true, decide_eq_true_eq] at hspace
    simp only [Bool.or_eq_false_iff, Bool.and_eq_false_iff, decide_eq_false_iff_not]
    omega
  · rw [hspace]
    rfl

/-- The words of a text are not empty and hold no spaces. -/
theorem splitFrom_solid {word value piece : Text} (hword : ∀ char ∈ word, isSpace char = false)
    (hpiece : piece ∈ splitFrom word value) :
    piece ≠ [] ∧ ∀ char ∈ piece, isSpace char = false := by
  induction value generalizing word with
  | nil =>
      rw [splitFrom] at hpiece
      split at hpiece
      · cases hpiece
      · rename_i hsome
        rw [List.mem_singleton] at hpiece
        subst hpiece
        exact ⟨fun hnil => hsome (List.reverse_eq_nil_iff.mp hnil), fun char hchar =>
          hword char (List.mem_reverse.mp hchar)⟩
  | cons first rest ih =>
      rw [splitFrom] at hpiece
      split at hpiece
      · split at hpiece
        · exact ih (fun _ hchar => absurd hchar List.not_mem_nil) hpiece
        · rename_i hsome
          rcases List.mem_cons.mp hpiece with rfl | hlater
          · exact ⟨fun hnil => hsome (List.reverse_eq_nil_iff.mp hnil), fun char hchar =>
              hword char (List.mem_reverse.mp hchar)⟩
          · exact ih (fun _ hchar => absurd hchar List.not_mem_nil) hlater
      · rename_i hsolid
        refine ih ?_ hpiece
        intro char hchar
        rcases List.mem_cons.mp hchar with rfl | hold
        · exact Bool.eq_false_iff.mpr hsolid
        · exact hword char hold

theorem words_solid {value piece : Text} (hpiece : piece ∈ words value) :
    piece ≠ [] ∧ ∀ char ∈ piece, isSpace char = false :=
  splitFrom_solid (fun _ hchar => absurd hchar List.not_mem_nil) hpiece

theorem splitFrom_append {piece : Text} (hpiece : ∀ char ∈ piece, isSpace char = false)
    (word rest : Text) : splitFrom word (piece ++ rest) = splitFrom (piece.reverse ++ word) rest := by
  induction piece generalizing word with
  | nil => rfl
  | cons char piece ih =>
      have hchar : ¬ isSpace char = true := by
        rw [hpiece char List.mem_cons_self]
        exact Bool.false_ne_true
      rw [List.cons_append, splitFrom, if_neg hchar,
        ih fun other hother => hpiece other (List.mem_cons_of_mem _ hother)]
      simp

/-- Words that are joined by spaces are the words of the text. -/
theorem words_joinWords {pieces : List Text}
    (hsolid : ∀ piece ∈ pieces, piece ≠ [] ∧ ∀ char ∈ piece, isSpace char = false) :
    words (joinWords pieces) = pieces := by
  induction pieces with
  | nil => rfl
  | cons piece rest ih =>
      obtain ⟨hpiece, hchars⟩ := hsolid piece List.mem_cons_self
      have hlater := ih fun other hother => hsolid other (List.mem_cons_of_mem _ hother)
      have hreverse : piece.reverse ≠ [] := fun hnil => hpiece (List.reverse_eq_nil_iff.mp hnil)
      cases rest with
      | nil =>
          have hend := splitFrom_append hchars [] []
          rw [List.append_nil, List.append_nil, splitFrom, if_neg hreverse,
            List.reverse_reverse] at hend
          rw [joinWords, List.intercalate_singleton]
          exact hend
      | cons next rest =>
          have hspace : isSpace ' ' = true := by decide
          rw [joinWords, List.intercalate_cons_cons, List.append_assoc, words,
            splitFrom_append hchars, List.append_nil, List.singleton_append, splitFrom,
            if_pos hspace, if_neg hreverse, List.reverse_reverse]
          exact congrArg (piece :: ·) hlater

theorem mem_joinWords {pieces : List Text} {char : Char} (hchar : char ∈ joinWords pieces) :
    char = ' ' ∨ ∃ piece ∈ pieces, char ∈ piece := by
  induction pieces with
  | nil => cases hchar
  | cons piece rest ih =>
      cases rest with
      | nil =>
          rw [joinWords, List.intercalate_singleton] at hchar
          exact .inr ⟨piece, List.mem_cons_self, hchar⟩
      | cons next rest =>
          rw [joinWords, List.intercalate_cons_cons, List.append_assoc, List.singleton_append,
            List.mem_append, List.mem_cons] at hchar
          rcases hchar with hhere | hspace | hlater
          · exact .inr ⟨piece, List.mem_cons_self, hhere⟩
          · exact .inl hspace
          · rcases ih hlater with hspace | ⟨other, hother, hmem⟩
            · exact .inl hspace
            · exact .inr ⟨other, List.mem_cons_of_mem _ hother, hmem⟩

theorem joinWords_ne_nil {pieces : List Text} (hpieces : pieces ≠ [])
    (hsolid : ∀ piece ∈ pieces, piece ≠ []) : joinWords pieces ≠ [] := by
  cases pieces with
  | nil => exact absurd rfl hpieces
  | cons piece rest =>
      have hpiece := hsolid piece List.mem_cons_self
      cases rest with
      | nil => rwa [joinWords, List.intercalate_singleton]
      | cons =>
          rw [joinWords, List.intercalate_cons_cons]
          simp [hpiece]

theorem trimmed_joinWords {pieces : List Text}
    (hsolid : ∀ piece ∈ pieces, piece ≠ [] ∧ ∀ char ∈ piece, isSpace char = false) :
    (joinWords pieces).Trimmed := by
  apply trimmed_intercalate
  intro piece hpiece
  obtain ⟨hsome, hchars⟩ := hsolid piece hpiece
  exact ⟨⟨fun char hchar => hchars char (List.mem_of_mem_head? hchar),
    fun char hchar => hchars char (List.mem_of_getLast? hchar)⟩, hsome⟩

/-! ## Texts that are normalized already -/

theorem unixLines_eq_self {value : Text} (hvalue : '\r' ∉ value) : unixLines value = value := by
  induction value with
  | nil => rfl
  | cons char rest ih =>
      have hchar : char ≠ '\r' := fun hcr => hvalue (hcr ▸ List.mem_cons_self)
      have hlater := ih fun hcr => hvalue (List.mem_cons_of_mem _ hcr)
      rw [unixLines, hlater]
      · intro _ hcr _
        exact hchar hcr
      · exact hchar

theorem splitlines_eq_self {value : Text} (hvalue : ∀ char ∈ value, isLineEnd char = false)
    (hsome : value ≠ []) : splitlines value = [value] := by
  have hline : ∀ line value : Text, (∀ char ∈ value, isLineEnd char = false) →
      line.reverse ++ value ≠ [] → linesFrom line value = [line.reverse ++ value] := by
    intro line value hvalue hsome
    induction value generalizing line with
    | nil =>
        have hline : line ≠ [] := by simpa using hsome
        rw [linesFrom, if_neg hline, List.append_nil]
    | cons char rest ih =>
        have hchar : ¬ isLineEnd char = true := by
          rw [hvalue char List.mem_cons_self]
          exact Bool.false_ne_true
        rw [linesFrom, if_neg hchar, ih (char :: line)
          (fun other hother => hvalue other (List.mem_cons_of_mem _ hother)) (by simp)]
        simp
  exact hline [] value hvalue hsome

theorem collapseBlanks_eq_self {value : Text} (hblank : ∀ char ∈ value, isBlank char = true → char = ' ')
    (hsingle : value.IsChain fun first second =>
      ¬ (isBlank first = true ∧ isBlank second = true)) : collapseBlanks value = value := by
  induction value with
  | nil => rfl
  | cons char rest ih =>
      have hchar := hblank char List.mem_cons_self
      cases rest with
      | nil =>
          rw [collapseBlanks]
          split
          · rename_i hspace
            rw [hchar hspace]
          · rfl
      | cons next rest =>
          have hlater := ih (fun other hother => hblank other (List.mem_cons_of_mem _ hother))
            (List.isChain_cons_cons.mp hsingle).2
          rw [collapseBlanks]
          split
          · rename_i hspace
            have hnext : ¬ isBlank next = true := fun h =>
              (List.isChain_cons_cons.mp hsingle).1 ⟨hspace, h⟩
            rw [if_neg hnext, hlater, hchar hspace]
          · rw [hlater]

end Text

end BusinessAssistant.Domain
