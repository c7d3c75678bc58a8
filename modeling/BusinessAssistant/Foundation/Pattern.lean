/-
# Searching for patterns of words

Regular patterns over an alphabet with spaces and word characters. A match may look at
what is before and after it, but only at whether that is a word character; and in words
that are joined by single spaces a match lies within a bounded number of neighbouring
words. So a window of the words that holds these is searched with the same result.
-/

import BusinessAssistant.Foundation.Members
import Mathlib.Data.List.Chain

namespace BusinessAssistant.Foundation

universe u

/-- A pattern over an alphabet some of which are spaces. -/
inductive Pattern {α : Type u} (isSpace : α → Bool)
  | empty
  /-- Exactly one of what is before and what is after is a word character. -/
  | boundary
  /-- One character that is no space. -/
  | letter (accepts : α → Bool) (solid : ∀ char, accepts char = true → isSpace char = false)
  /-- One character. -/
  | single (accepts : α → Bool)
  /-- One or more spaces. -/
  | spaces
  | seq (first second : Pattern isSpace)
  | choice (first second : Pattern isSpace)

namespace Pattern

variable {α : Type u} {isSpace : α → Bool} (isWord : α → Bool)

/-! ## Search -/

/-- What is before and after the first character, if it is accepted. -/
def oneRest (accepts : α → Bool) : List α → List (Option α × List α)
  | [] => []
  | char :: rest => if accepts char = true then [(some char, rest)] else []

/-- What is before and after each run of spaces a text begins with. -/
def spacesRests (isSpace : α → Bool) : List α → List (Option α × List α)
  | [] => []
  | char :: rest =>
      if isSpace char = true then (some char, rest) :: spacesRests isSpace rest else []

/-- What is before and after each match at a place. -/
def rests : Pattern isSpace → Option α → List α → List (Option α × List α)
  | empty, before, text => [(before, text)]
  | boundary, before, text =>
      if before.any isWord = text.head?.any isWord then [] else [(before, text)]
  | letter accepts _, _, text | single accepts, _, text => oneRest accepts text
  | spaces, _, text => spacesRests isSpace text
  | seq first second, before, text =>
      (rests first before text).flatMap fun place => rests second place.1 place.2
  | choice first second, before, text => rests first before text ++ rests second before text

/-- A match at a place or a later one. -/
def foundFrom (pattern : Pattern isSpace) : Option α → List α → Bool
  | before, [] => !(pattern.rests isWord before []).isEmpty
  | before, char :: rest =>
      !(pattern.rests isWord before (char :: rest)).isEmpty || foundFrom pattern (some char) rest

/-- `re.search` -/
def found (pattern : Pattern isSpace) (text : List α) : Bool := foundFrom isWord pattern none text

/-! ## What a match is -/

/-- The pattern matches a text between what is before and after it. -/
def Spans : Pattern isSpace → Option α → List α → Option α → Prop
  | empty, _, text, _ => text = []
  | boundary, before, text, after => text = [] ∧ before.any isWord ≠ after.any isWord
  | letter accepts _, _, text, _ | single accepts, _, text, _ =>
      ∃ char, text = [char] ∧ accepts char = true
  | spaces, _, text, _ => text ≠ [] ∧ ∀ char ∈ text, isSpace char = true
  | seq first second, before, text, after =>
      ∃ left right, text = left ++ right ∧ Spans first before left (right.head?.or after) ∧
        Spans second (left.getLast?.or before) right after
  | choice first second, before, text, after =>
      Spans first before text after ∨ Spans second before text after

/-- Only whether the neighbours are word characters matters. -/
theorem Spans.congr {pattern : Pattern isSpace} {before before' after after' : Option α}
    {text : List α} (hspans : pattern.Spans isWord before text after)
    (hbefore : before.any isWord = before'.any isWord)
    (hafter : after.any isWord = after'.any isWord) :
    pattern.Spans isWord before' text after' := by
  induction pattern generalizing before before' after after' text with
  | empty => exact hspans
  | boundary => exact ⟨hspans.1, by rw [← hbefore, ← hafter]; exact hspans.2⟩
  | letter => exact hspans
  | single => exact hspans
  | spaces => exact hspans
  | seq first second hfirst hsecond =>
      obtain ⟨left, right, rfl, hleft, hright⟩ := hspans
      refine ⟨left, right, rfl, hfirst hleft hbefore ?_, hsecond hright ?_ hafter⟩
      · cases right with
        | nil => exact hafter
        | cons => rfl
      · cases hlast : left.getLast? with
        | none => exact hbefore
        | some => rfl
  | choice first second hfirst hsecond =>
      rcases hspans with hleft | hright
      · exact .inl (hfirst hleft hbefore hafter)
      · exact .inr (hsecond hright hbefore hafter)

/-- What is before the rest once a character is read. -/
theorem last_cons (char : α) (left : List α) (start : Option α) :
    (char :: left).getLast?.or start = left.getLast?.or (some char) := by
  rw [List.getLast?_cons]
  cases left.getLast? <;> rfl

/-- Only the characters around and in a match count as word characters or not. -/
theorem Spans.of_agree {isWord' : α → Bool} {pattern : Pattern isSpace} {before after : Option α}
    {text : List α} (hspans : pattern.Spans isWord before text after)
    (hagree : ∀ char, before = some char ∨ char ∈ text ∨ after = some char →
      isWord char = isWord' char) : pattern.Spans isWord' before text after := by
  have hany : ∀ place : Option α, (∀ char, place = some char → isWord char = isWord' char) →
      place.any isWord = place.any isWord' := by
    intro place hplace
    cases place with
    | none => rfl
    | some char => exact hplace char rfl
  induction pattern generalizing before after text with
  | empty => exact hspans
  | boundary =>
      refine ⟨hspans.1, ?_⟩
      rw [← hany before fun char hchar => hagree char (.inl hchar),
        ← hany after fun char hchar => hagree char (.inr (.inr hchar))]
      exact hspans.2
  | letter => exact hspans
  | single => exact hspans
  | spaces => exact hspans
  | seq first second hfirst hsecond =>
      obtain ⟨left, right, rfl, hleft, hright⟩ := hspans
      refine ⟨left, right, rfl, hfirst hleft ?_, hsecond hright ?_⟩
      · rintro char (hchar | hchar | hchar)
        · exact hagree char (.inl hchar)
        · exact hagree char (.inr (.inl (List.mem_append_left _ hchar)))
        · rcases Option.or_eq_some_iff.mp hchar with hhead | ⟨_, hafter⟩
          · exact hagree char (.inr (.inl (List.mem_append_right _ (List.mem_of_head? hhead))))
          · exact hagree char (.inr (.inr hafter))
      · rintro char (hchar | hchar | hchar)
        · rcases Option.or_eq_some_iff.mp hchar with hlast | ⟨_, hbefore⟩
          · exact hagree char (.inr (.inl (List.mem_append_left _ (List.mem_of_getLast? hlast))))
          · exact hagree char (.inl hbefore)
        · exact hagree char (.inr (.inl (List.mem_append_right _ hchar)))
        · exact hagree char (.inr (.inr hchar))
  | choice first second hfirst hsecond =>
      rcases hspans with hleft | hright
      · exact .inl (hfirst hleft hagree)
      · exact .inr (hsecond hright hagree)

theorem mem_spacesRests {text rest : List α} {before : Option α} (start : Option α) :
    (before, rest) ∈ spacesRests isSpace text ↔
      ∃ run, text = run ++ rest ∧ before = run.getLast?.or start ∧
        run ≠ [] ∧ ∀ char ∈ run, isSpace char = true := by
  induction text generalizing start with
  | nil =>
      apply iff_of_false List.not_mem_nil
      rintro ⟨run, hrun, _, hsome, _⟩
      exact hsome (List.append_eq_nil_iff.mp hrun.symm).1
  | cons char more ih =>
      rw [spacesRests]
      split
      · rename_i hspace
        rw [List.mem_cons, ih (some char)]
        constructor
        · rintro (hhere | ⟨run, rfl, hbefore, hsome, hrun⟩)
          · cases hhere
            exact ⟨[char], rfl, rfl, List.cons_ne_nil _ _, by simpa using hspace⟩
          · refine ⟨char :: run, rfl, ?_, List.cons_ne_nil _ _, ?_⟩
            · rw [hbefore, last_cons]
            · simpa [hspace] using hrun
        · rintro ⟨run, hrun, hbefore, hsome, hall⟩
          cases run with
          | nil => exact absurd rfl hsome
          | cons head run =>
              cases hrun
              cases run with
              | nil => exact .inl (by rw [hbefore]; rfl)
              | cons next run =>
                  refine .inr ⟨next :: run, rfl, ?_, List.cons_ne_nil _ _, fun other hother =>
                    hall other (List.mem_cons_of_mem _ hother)⟩
                  rw [hbefore, List.getLast?_cons_cons, List.getLast?_cons]
                  rfl
      · rename_i hspace
        apply iff_of_false List.not_mem_nil
        rintro ⟨run, hrun, _, hsome, hall⟩
        cases run with
        | nil => exact absurd rfl hsome
        | cons head run =>
            cases hrun
            exact hspace (hall _ List.mem_cons_self)

theorem mem_oneRest {accepts : α → Bool} {start before : Option α} {text rest : List α} :
    (before, rest) ∈ oneRest accepts text ↔
      ∃ run, text = run ++ rest ∧ before = run.getLast?.or start ∧
        ∃ char, run = [char] ∧ accepts char = true := by
  cases text with
  | nil =>
      apply iff_of_false List.not_mem_nil
      rintro ⟨_, hrun, _, _, rfl, _⟩
      cases hrun
  | cons head more =>
      rw [oneRest]
      split
      · rename_i haccepts
        simp only [List.mem_singleton, Prod.mk.injEq]
        constructor
        · rintro ⟨rfl, rfl⟩
          exact ⟨[head], rfl, rfl, head, rfl, haccepts⟩
        · rintro ⟨_, hrun, rfl, char, rfl, _⟩
          cases hrun
          exact ⟨rfl, rfl⟩
      · rename_i hrefuses
        apply iff_of_false List.not_mem_nil
        rintro ⟨_, hrun, _, char, rfl, haccepts⟩
        cases hrun
        exact hrefuses haccepts

/-- The matches at a place are the texts after it that the pattern spans. -/
theorem mem_rests {pattern : Pattern isSpace} {start before : Option α} {text rest : List α} :
    (before, rest) ∈ pattern.rests isWord start text ↔
      ∃ run, text = run ++ rest ∧ before = run.getLast?.or start ∧
        pattern.Spans isWord start run rest.head? := by
  induction pattern generalizing start before text rest with
  | empty =>
      simp only [rests, List.mem_singleton, Prod.mk.injEq, Spans]
      constructor
      · rintro ⟨rfl, rfl⟩
        exact ⟨[], rfl, rfl, rfl⟩
      · rintro ⟨_, rfl, rfl, rfl⟩
        exact ⟨rfl, rfl⟩
  | boundary =>
      rw [rests]
      split
      · rename_i hsame
        apply iff_of_false List.not_mem_nil
        rintro ⟨_, rfl, _, rfl, hword⟩
        exact hword hsame
      · rename_i hword
        simp only [List.mem_singleton, Prod.mk.injEq, Spans]
        constructor
        · rintro ⟨rfl, rfl⟩
          exact ⟨[], rfl, rfl, rfl, hword⟩
        · rintro ⟨_, rfl, rfl, rfl, _⟩
          exact ⟨rfl, rfl⟩
  | letter accepts solid => exact mem_oneRest
  | single accepts => exact mem_oneRest
  | spaces =>
      rw [rests]
      exact mem_spacesRests start
  | seq first second hfirst hsecond =>
      simp only [rests, List.mem_flatMap, Prod.exists, Spans]
      constructor
      · rintro ⟨middle, more, hmiddle, hlast⟩
        obtain ⟨left, rfl, rfl, hleft⟩ := hfirst.mp hmiddle
        obtain ⟨right, rfl, rfl, hright⟩ := hsecond.mp hlast
        refine ⟨left ++ right, (List.append_assoc _ _ _).symm, ?_, left, right, rfl, ?_, hright⟩
        · rw [List.getLast?_append, Option.or_assoc]
        · rwa [List.head?_append] at hleft
      · rintro ⟨_, rfl, rfl, left, right, rfl, hleft, hright⟩
        refine ⟨left.getLast?.or start, right ++ rest,
          hfirst.mpr ⟨left, List.append_assoc _ _ _, rfl, ?_⟩,
          hsecond.mpr ⟨right, rfl, ?_, hright⟩⟩
        · rwa [List.head?_append]
        · rw [List.getLast?_append, Option.or_assoc]
  | choice first second hfirst hsecond =>
      rw [rests, List.mem_append, hfirst, hsecond]
      constructor
      · rintro (⟨run, htext, hbefore, hspans⟩ | ⟨run, htext, hbefore, hspans⟩)
        · exact ⟨run, htext, hbefore, .inl hspans⟩
        · exact ⟨run, htext, hbefore, .inr hspans⟩
      · rintro ⟨run, htext, hbefore, hspans | hspans⟩
        · exact .inl ⟨run, htext, hbefore, hspans⟩
        · exact .inr ⟨run, htext, hbefore, hspans⟩

/-- A search finds a match between what is before and after it. -/
theorem foundFrom_iff {pattern : Pattern isSpace} {start : Option α} {text : List α} :
    pattern.foundFrom isWord start text = true ↔
      ∃ left run right, text = left ++ run ++ right ∧
        pattern.Spans isWord (left.getLast?.or start) run right.head? := by
  have hhere : ∀ {start : Option α} {text : List α},
      (pattern.rests isWord start text).isEmpty = false ↔
        ∃ run right, text = run ++ right ∧ pattern.Spans isWord start run right.head? := by
    intro start text
    rw [List.isEmpty_eq_false_iff_exists_mem]
    constructor
    · rintro ⟨⟨before, right⟩, hplace⟩
      obtain ⟨run, htext, _, hspans⟩ := (mem_rests isWord).mp hplace
      exact ⟨run, right, htext, hspans⟩
    · rintro ⟨run, right, htext, hspans⟩
      exact ⟨(run.getLast?.or start, right), (mem_rests isWord).mpr ⟨run, htext, rfl, hspans⟩⟩
  induction text generalizing start with
  | nil =>
      rw [foundFrom, Bool.not_eq_true', hhere]
      constructor
      · rintro ⟨run, right, htext, hspans⟩
        exact ⟨[], run, right, htext, hspans⟩
      · rintro ⟨left, run, right, htext, hspans⟩
        obtain ⟨hleft, hright⟩ := List.append_eq_nil_iff.mp htext.symm
        obtain ⟨rfl, rfl⟩ := List.append_eq_nil_iff.mp hleft
        exact ⟨[], right, htext, hspans⟩
  | cons char rest ih =>
      have hlater := @ih (some char)
      rw [foundFrom, Bool.or_eq_true, Bool.not_eq_true']
      refine (or_congr hhere hlater).trans ?_
      constructor
      · rintro (⟨run, right, htext, hspans⟩ | ⟨left, run, right, htext, hspans⟩)
        · exact ⟨[], run, right, htext, hspans⟩
        · rw [← last_cons] at hspans
          exact ⟨char :: left, run, right, by rw [htext]; rfl, hspans⟩
      · rintro ⟨left, run, right, htext, hspans⟩
        cases left with
        | nil => exact .inl ⟨run, right, htext, hspans⟩
        | cons head left =>
            cases htext
            rw [last_cons] at hspans
            exact .inr ⟨left, run, right, rfl, hspans⟩

theorem found_iff {pattern : Pattern isSpace} {text : List α} :
    pattern.found isWord text = true ↔
      ∃ left run right, text = left ++ run ++ right ∧
        pattern.Spans isWord left.getLast? run right.head? := by
  simp only [found, foundFrom_iff, Option.or_none]

/-- A search depends on the characters of its text only. -/
theorem found_of_agree {isWord' : α → Bool} {pattern : Pattern isSpace} {text : List α}
    (hagree : ∀ char ∈ text, isWord char = isWord' char)
    (hfound : pattern.found isWord text = true) : pattern.found isWord' text = true := by
  obtain ⟨left, run, right, rfl, hspans⟩ := (found_iff isWord).mp hfound
  refine (found_iff isWord').mpr ⟨left, run, right, rfl, hspans.of_agree isWord ?_⟩
  rintro char (hchar | hchar | hchar)
  · exact hagree char (by simp [List.mem_of_getLast? hchar])
  · exact hagree char (by simp [hchar])
  · exact hagree char (by simp [List.mem_of_head? hchar])

/-! Where no match can begin a search goes on. -/

/-- No match begins with a character. -/
def Refuses (pattern : Pattern isSpace) (char : α) : Prop :=
  ∀ before rest, pattern.rests isWord before (char :: rest) = []

variable {isWord}

theorem refuses_letter {accepts : α → Bool}
    {solid : ∀ char, accepts char = true → isSpace char = false} {char : α}
    (hchar : accepts char = false) : Refuses isWord (letter accepts solid) char := by
  intro before rest
  rw [rests, oneRest, hchar]
  rfl

theorem Refuses.seq {first : Pattern isSpace} {char : α} (hfirst : Refuses isWord first char)
    (second : Pattern isSpace) : Refuses isWord (first.seq second) char := by
  intro before rest
  rw [rests, hfirst]
  rfl

theorem Refuses.boundary_seq {second : Pattern isSpace} {char : α}
    (hsecond : Refuses isWord second char) : Refuses isWord (boundary.seq second) char := by
  intro before rest
  rw [rests, rests]
  split
  · rfl
  · rw [List.flatMap_singleton, hsecond]

theorem Refuses.choice {first second : Pattern isSpace} {char : α}
    (hfirst : Refuses isWord first char) (hsecond : Refuses isWord second char) :
    Refuses isWord (first.choice second) char := by
  intro before rest
  rw [rests, hfirst, hsecond]
  rfl

theorem Refuses.foundFrom {pattern : Pattern isSpace} {char : α}
    (hrefuses : Refuses isWord pattern char) (before : Option α) (rest : List α) :
    pattern.foundFrom isWord before (char :: rest) =
      pattern.foundFrom isWord (some char) rest := by
  rw [Pattern.foundFrom, hrefuses]
  rfl

/-- A search may begin anew where no word ends. -/
theorem foundFrom_eq_found {pattern : Pattern isSpace} {before : α} (hbefore : isWord before = false)
    (text : List α) : pattern.foundFrom isWord (some before) text = pattern.found isWord text := by
  have hsame : ∀ left : List α,
      (left.getLast?.or (some before)).any isWord = left.getLast?.any isWord := by
    intro left
    cases left.getLast? with
    | none => exact hbefore
    | some => rfl
  rw [Bool.eq_iff_iff, foundFrom_iff, found_iff]
  constructor
  · rintro ⟨left, run, right, htext, hspans⟩
    exact ⟨left, run, right, htext, hspans.congr isWord (hsame left) rfl⟩
  · rintro ⟨left, run, right, htext, hspans⟩
    exact ⟨left, run, right, htext, hspans.congr isWord (hsame left).symm rfl⟩

variable (isWord)

/-- What is found is found behind a text that does not end in a word. -/
theorem found_append {pattern : Pattern isSpace} {before text : List α}
    (hbefore : before.getLast?.any isWord = false) (hfound : pattern.found isWord text = true) :
    pattern.found isWord (before ++ text) = true := by
  obtain ⟨left, run, right, rfl, hspans⟩ := (found_iff isWord).mp hfound
  refine (found_iff isWord).mpr ⟨before ++ left, run, right, by simp, ?_⟩
  refine hspans.congr isWord ?_ rfl
  rw [List.getLast?_append]
  cases left.getLast? with
  | none => exact hbefore.symm
  | some => rfl

/-! ## In words that are joined by single spaces -/

/-- How many spaces a match has at most, where no two spaces meet. -/
def gaps : Pattern isSpace → Nat
  | empty | boundary | letter _ _ => 0
  | single _ | spaces => 1
  | seq first second => gaps first + gaps second
  | choice first second => max (gaps first) (gaps second)

/-- No two spaces meet. -/
abbrev SingleSpaced (isSpace : α → Bool) (text : List α) : Prop :=
  text.IsChain fun first second => ¬ (isSpace first = true ∧ isSpace second = true)

theorem Spans.countP_le {pattern : Pattern isSpace} {before after : Option α} {text : List α}
    (hspans : pattern.Spans isWord before text after) (hspaced : SingleSpaced isSpace text) :
    text.countP isSpace ≤ pattern.gaps := by
  induction pattern generalizing before after text with
  | empty =>
      cases hspans
      exact Nat.le_refl 0
  | boundary =>
      cases hspans.1
      exact Nat.le_refl 0
  | letter accepts solid =>
      obtain ⟨char, rfl, haccepts⟩ := hspans
      simp [solid char haccepts]
  | single accepts =>
      obtain ⟨char, rfl, _⟩ := hspans
      exact List.countP_le_length
  | spaces =>
      obtain ⟨_, hall⟩ := hspans
      match text, hspaced with
      | [], _ => exact Nat.zero_le 1
      | [char], _ => exact List.countP_le_length
      | first :: second :: rest, hspaced =>
          have hmeet := (List.isChain_cons_cons.mp hspaced).1
          exact absurd ⟨hall first (by simp), hall second (by simp)⟩ hmeet
  | seq first second hfirst hsecond =>
      obtain ⟨left, right, rfl, hleft, hright⟩ := hspans
      rw [List.countP_append]
      exact Nat.add_le_add (hfirst hleft hspaced.left_of_append)
        (hsecond hright hspaced.right_of_append)
  | choice first second hfirst hsecond =>
      rcases hspans with hleft | hright
      · exact Nat.le_trans (hfirst hleft hspaced) (Nat.le_max_left _ _)
      · exact Nat.le_trans (hsecond hright hspaced) (Nat.le_max_right _ _)

/-- A text that is cut anywhere is cut in one of the words it is joined from. -/
theorem exists_cut {gap : α} {words : List (List α)} (hwords : words ≠ []) {left right : List α}
    (htext : left ++ right = [gap].intercalate words) :
    ∃ before first second after, words = before ++ (first ++ second) :: after ∧
      left = [gap].intercalate (before ++ [first]) ∧
      right = [gap].intercalate (second :: after) := by
  induction words generalizing left with
  | nil => exact absurd rfl hwords
  | cons word rest ih =>
      cases rest with
      | nil =>
          rw [List.intercalate_singleton] at htext
          exact ⟨[], left, right, [], by rw [htext]; rfl, by simp, by simp⟩
      | cons next rest =>
          rw [List.intercalate_cons_cons, List.append_assoc, List.append_eq_append_iff] at htext
          rcases htext with ⟨more, rfl, hright⟩ | ⟨more, rfl, hmore⟩
          · refine ⟨[], left, more, next :: rest, rfl, by simp, ?_⟩
            rw [hright, List.intercalate_cons_cons, List.append_assoc]
          · cases more with
            | nil =>
                refine ⟨[], word, [], next :: rest, by simp, by simp, ?_⟩
                rw [List.intercalate_cons_cons]
                simpa using hmore.symm
            | cons char more =>
                have hchar : char = gap ∧ [gap].intercalate (next :: rest) = more ++ right := by
                  simpa [eq_comm] using hmore
                obtain ⟨rfl, hlater⟩ := hchar
                obtain ⟨before, first, second, after, hsplit, rfl, hafter⟩ :=
                  ih (List.cons_ne_nil _ _) hlater.symm
                refine ⟨word :: before, first, second, after, by rw [hsplit]; rfl, ?_, hafter⟩
                rw [List.cons_append, List.intercalate_cons_of_ne_nil (by simp)]
                simp

/-- A text joined from words without spaces has one space less than words. -/
theorem countP_intercalate {gap : α} (hgap : isSpace gap = true) {words : List (List α)}
    (hsolid : ∀ word ∈ words, ∀ char ∈ word, isSpace char = false) :
    ([gap].intercalate words).countP isSpace = words.length - 1 := by
  induction words with
  | nil => rfl
  | cons word rest ih =>
      have hword : word.countP isSpace = 0 := by
        rw [List.countP_eq_zero]
        intro char hchar
        simp [hsolid word List.mem_cons_self char hchar]
      cases rest with
      | nil => rw [List.intercalate_singleton, hword]; rfl
      | cons next rest =>
          have hlater := ih fun other hother => hsolid other (List.mem_cons_of_mem _ hother)
          rw [List.intercalate_cons_cons, List.countP_append, List.countP_append, hword, hlater]
          simp [hgap]
          omega

theorem singleSpaced_intercalate {gap : α} {words : List (List α)}
    (hsolid : ∀ word ∈ words, word ≠ [] ∧ ∀ char ∈ word, isSpace char = false) :
    SingleSpaced isSpace ([gap].intercalate words) := by
  have hone : ∀ word : List α, (∀ char ∈ word, isSpace char = false) →
      SingleSpaced isSpace word := by
    intro word hword
    induction word with
    | nil => exact .nil
    | cons char rest ih =>
        refine List.isChain_cons.mpr ⟨?_, ih fun other hother =>
          hword other (List.mem_cons_of_mem _ hother)⟩
        intro next _ hmeet
        rw [hword char List.mem_cons_self] at hmeet
        cases hmeet.1
  induction words with
  | nil => exact .nil
  | cons word rest ih =>
      have hword := hsolid word List.mem_cons_self
      have hrest := ih fun other hother => hsolid other (List.mem_cons_of_mem _ hother)
      cases rest with
      | nil =>
          rw [List.intercalate_singleton]
          exact hone word hword.2
      | cons next rest =>
          have hnext := hsolid next (by simp)
          have hhead : ∀ char ∈ ([gap].intercalate (next :: rest)).head?,
              isSpace char = false := by
            intro char hchar
            apply hnext.2 char
            cases next with
            | nil => exact absurd rfl hnext.1
            | cons head tail =>
                cases rest <;> simp_all [List.intercalate]
          rw [List.intercalate_cons_cons, List.append_assoc]
          refine List.isChain_append.mpr ⟨hone word hword.2, List.isChain_cons.mpr ⟨?_, hrest⟩, ?_⟩
          · intro char hchar hmeet
            rw [hhead char hchar] at hmeet
            cases hmeet.2
          · intro last hlast char _ hmeet
            rw [hword.2 last (List.mem_of_getLast? hlast)] at hmeet
            cases hmeet.1

/-- Cutting one of the words cuts the text. -/
theorem intercalate_cut (gap : α) (before : List (List α)) (first second : List α)
    (after : List (List α)) :
    [gap].intercalate (before ++ (first ++ second) :: after) =
      [gap].intercalate (before ++ [first]) ++ [gap].intercalate (second :: after) := by
  induction before with
  | nil =>
      cases after with
      | nil => simp
      | cons => simp
  | cons word rest ih =>
      rw [List.cons_append, List.cons_append, List.intercalate_cons_of_ne_nil (by simp),
        List.intercalate_cons_of_ne_nil (by simp), ih]
      simp only [List.append_assoc]

theorem head_intercalate {gap : α} (hgap : isWord gap = false) (first : List α)
    (after : List (List α)) :
    ([gap].intercalate (first :: after)).head?.any isWord = first.head?.any isWord := by
  cases after with
  | nil => rw [List.intercalate_singleton]
  | cons next rest =>
      rw [List.intercalate_cons_cons]
      cases first with
      | nil => exact hgap
      | cons => rfl

theorem last_intercalate {gap : α} (hgap : isWord gap = false) (before : List (List α))
    (last : List α) :
    ([gap].intercalate (before ++ [last])).getLast?.any isWord = last.getLast?.any isWord := by
  induction before with
  | nil => rw [List.nil_append, List.intercalate_singleton]
  | cons word rest ih =>
      rw [List.cons_append, List.intercalate_cons_of_ne_nil (by simp), List.getLast?_append, ← ih]
      cases ([gap].intercalate (rest ++ [last])).getLast? with
      | none => simp [hgap]
      | some => rfl

/-- What is found in joined words is found in any window of them that holds the few
neighbouring ones it lies in. -/
theorem exists_span_of_found {gap : α} (hgap : isSpace gap = true) (hword : isWord gap = false)
    {words : List (List α)}
    (hsolid : ∀ word ∈ words, word ≠ [] ∧ ∀ char ∈ word, isSpace char = false)
    {pattern : Pattern isSpace} (hfound : pattern.found isWord ([gap].intercalate words) = true) :
    ∃ first count, count ≤ pattern.gaps + 1 ∧ first + count ≤ words.length ∧
      ∀ start stop, start ≤ first → first + count ≤ stop →
        pattern.found isWord ([gap].intercalate ((words.take stop).drop start)) = true := by
  by_cases hsome : words = []
  · subst hsome
    refine ⟨0, 0, Nat.zero_le _, Nat.le_refl 0, ?_⟩
    intro start stop _ _
    simpa using hfound
  · obtain ⟨left, run, right, htext, hspans⟩ := (found_iff isWord).mp hfound
    rw [List.append_assoc] at htext
    obtain ⟨before, first, second, after, rfl, hleft, hmore⟩ := exists_cut hsome htext.symm
    obtain ⟨inner, third, fourth, rest, hinner, hrun, hright⟩ :=
      exists_cut (List.cons_ne_nil second after) hmore
    have hlength : after.length = inner.length + rest.length := by
      have := congrArg List.length hinner
      simp only [List.length_cons, List.length_append] at this
      omega
    -- The words of the match hold as many spaces as there are words before the last.
    have hcount : inner.length ≤ pattern.gaps := by
      have hpieces : ∀ word ∈ inner ++ [third], ∀ char ∈ word, isSpace char = false := by
        have htail : ∀ word ∈ second :: after, ∀ char ∈ word, isSpace char = false := by
          intro word hmem char hchar
          rcases List.mem_cons.mp hmem with rfl | hmem
          · exact (hsolid (first ++ word) (by simp)).2 char (List.mem_append_right _ hchar)
          · exact (hsolid word (by simp [hmem])).2 char hchar
        rw [hinner] at htail
        intro word hmem char hchar
        rcases List.mem_append.mp hmem with hmem | hmem
        · exact htail word (List.mem_append_left _ hmem) char hchar
        · rw [List.mem_singleton] at hmem
          subst hmem
          exact htail (word ++ fourth) (by simp) char (List.mem_append_left _ hchar)
      have hspaced : SingleSpaced isSpace run := by
        have hall := @singleSpaced_intercalate α isSpace gap _ hsolid
        rw [htext] at hall
        exact hall.right_of_append.left_of_append
      have hspaces := hspans.countP_le isWord hspaced
      rw [hrun, countP_intercalate hgap hpieces] at hspaces
      simpa using hspaces
    refine ⟨before.length, inner.length + 1, Nat.succ_le_succ hcount, ?_, ?_⟩
    · simp only [List.length_append, List.length_cons]
      omega
    · intro start stop hstart hstop
      obtain ⟨extra, rfl⟩ := Nat.exists_eq_add_of_le hstop
      have hwindow : ((before ++ (first ++ second) :: after).take
          (before.length + (inner.length + 1) + extra)).drop start =
            before.drop start ++ (first ++ second) :: after.take (inner.length + extra) := by
        have htake : before.length + (inner.length + 1) + extra =
            before.length + (inner.length + extra + 1) := by omega
        rw [htake, List.take_length_add_append, List.take_succ_cons,
          List.drop_append_of_le_length hstart]
      have hafter : second :: after.take (inner.length + extra) =
          inner ++ (third ++ fourth) :: rest.take extra := by
        have htake : inner.length + extra + 1 = inner.length + (extra + 1) := by omega
        rw [← List.take_succ_cons, hinner, htake, List.take_length_add_append, List.take_succ_cons]
      rw [hwindow, intercalate_cut, hafter, intercalate_cut, ← hrun, ← List.append_assoc]
      refine (found_iff isWord).mpr ⟨_, run, _, rfl, hspans.congr isWord ?_ ?_⟩
      · rw [hleft, last_intercalate isWord hword, last_intercalate isWord hword]
      · rw [hright, head_intercalate isWord hword, head_intercalate isWord hword]

end Pattern

end BusinessAssistant.Foundation
