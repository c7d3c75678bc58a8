/-
# Long texts

`split_plain_text` cuts a text at its last newline or space before the limit. Nothing but
whitespace is lost as long as the escaped pieces fit into a message: where one does not, it
is cut off, and a text without whitespace is cut one character at a time.
-/

import BusinessAssistant.Domain.Trimming
import BusinessAssistant.Foundation.Segments
import BusinessAssistant.Presentation.PageTexts

namespace BusinessAssistant.Presentation

open BusinessAssistant.Domain BusinessAssistant.Foundation

/-! ## Escapes and whitespace -/

theorem safe_eq_nil_iff {value : Text} : safe value = [] ↔ value = [] := by
  rw [← List.length_eq_zero_iff, length_safe, ← List.length_eq_zero_iff]
  unfold escapedLength
  cases value with
  | nil => simp
  | cons char rest => simp

/-- Whitespace is not escaped, and no escape has whitespace in it. -/
theorem safe_singleton (char : Char) :
    (Text.isSpace char = true ∧ safe [char] = [char]) ∨
      (Text.isSpace char = false ∧ safe [char] ≠ [] ∧
        ∀ escaped ∈ safe [char], Text.isSpace escaped = false) := by
  by_cases hamp : char = '&'
  · subst hamp
    exact .inr (by decide)
  by_cases hless : char = '<'
  · subst hless
    exact .inr (by decide)
  by_cases hmore : char = '>'
  · subst hmore
    exact .inr (by decide)
  have hkeep : safe [char] = [char] := by
    unfold safe
    rw [List.flatMap_singleton, if_neg hamp, if_neg hless, if_neg hmore]
  rw [hkeep]
  cases hspace : Text.isSpace char with
  | true => exact .inl ⟨rfl, rfl⟩
  | false => exact .inr ⟨rfl, List.cons_ne_nil _ _, by simpa using hspace⟩

/-- The characters of a text that are not whitespace. -/
def solid (value : Text) : Text := value.filter fun char => !Text.isSpace char

theorem solid_append (first second : Text) : solid (first ++ second) = solid first ++ solid second :=
  List.filter_append _ _

theorem solid_flatten (texts : List Text) : solid texts.flatten = (texts.map solid).flatten :=
  List.filter_flatten

theorem solid_safe (value : Text) : solid (safe value) = safe (solid value) := by
  induction value with
  | nil => rfl
  | cons char rest ih =>
      have hsplit : safe (char :: rest) = safe [char] ++ safe rest := safe_append [char] rest
      rw [hsplit, solid_append, ih]
      rcases safe_singleton char with ⟨hspace, hsafe⟩ | ⟨hspace, _, hsafe⟩
      · have hnone : solid (char :: rest) = solid rest := by simp [solid, hspace]
        have hlost : solid [char] = [] := by simp [solid, hspace]
        rw [hsafe, hnone, hlost, List.nil_append]
      · have hkept : solid (char :: rest) = char :: solid rest := by simp [solid, hspace]
        have hwhole : solid (safe [char]) = safe [char] := by
          unfold solid
          rw [List.filter_eq_self]
          intro escaped hescaped
          rw [hsafe escaped hescaped]
          decide
        rw [hkept, hwhole]
        exact (safe_append [char] (solid rest)).symm

/-- Cutting the end off a text that ends in no whitespace loses something solid. -/
theorem length_solid_take_lt {value : Text} {limit : ℕ} (hlimit : limit < value.length)
    (hlast : ∀ char ∈ value.getLast?, Text.isSpace char = false) :
    (solid (value.take limit)).length < (solid value).length := by
  have hsplit : solid value = solid (value.take limit) ++ solid (value.drop limit) := by
    rw [← solid_append, List.take_append_drop]
  have hdrop : value.drop limit ≠ [] := by
    rw [Ne, List.drop_eq_nil_iff]
    omega
  have hend : (value.drop limit).getLast hdrop ∈ value.getLast? := by
    rw [Option.mem_def, ← List.getLast?_eq_some_getLast hdrop, List.getLast?_drop,
      if_neg (not_le.mpr hlimit)]
  have hsolid : solid (value.drop limit) ≠ [] := by
    intro hnone
    have hspace := List.filter_eq_nil_iff.mp hnone _ (List.getLast_mem hdrop)
    rw [hlast _ hend] at hspace
    exact hspace rfl
  rw [hsplit, List.length_append]
  exact Nat.lt_add_of_pos_right (List.length_pos_iff.mpr hsolid)

/-! ## The turns of the loop -/

namespace TelegramRenderer

/-- What remains of the text at each turn of the loop of `split_plain_text`. -/
def turns : Text → List Text
  | [] => []
  | char :: rest =>
      (char :: rest) ::
        turns (((char :: rest).drop (cutPlace (char :: rest))).dropWhile Text.isSpace)
termination_by remaining => remaining.length
decreasing_by exact length_rest_lt (List.cons_ne_nil char rest)

/-- The piece that a turn takes from what remains, without the whitespace at its end. -/
def piece (remaining : Text) : Text :=
  ((remaining.take (cutPlace remaining)).reverse.dropWhile Text.isSpace).reverse

theorem chunks_eq (value : Text) : chunks value =
    (turns value).map fun remaining =>
      { text := chunkText (remaining.take (cutPlace remaining)) } := by
  induction value using turns.induct with
  | case1 => rw [turns, chunks, List.map_nil]
  | case2 char rest ih =>
      rw [turns, chunks, List.map_cons]
      exact congrArg _ ih

theorem piece_end (remaining : Text) :
    ∀ char ∈ (piece remaining).getLast?, Text.isSpace char = false := by
  intro char hchar
  unfold piece at hchar
  rw [List.getLast?_reverse] at hchar
  exact Text.dropWhile_head _ char hchar

/-- A piece is what comes before the cut, up to whitespace. -/
theorem exists_after_piece (remaining : Text) : ∃ after, (∀ char ∈ after, Text.isSpace char = true) ∧
    remaining.take (cutPlace remaining) = piece remaining ++ after := by
  refine ⟨((remaining.take (cutPlace remaining)).reverse.takeWhile Text.isSpace).reverse, ?_, ?_⟩
  · intro char hchar
    rw [List.mem_reverse] at hchar
    exact List.mem_takeWhile_imp hchar
  · unfold piece
    rw [← List.reverse_append, List.takeWhile_append_dropWhile, List.reverse_reverse]

theorem piece_eq_nil_iff {remaining : Text} : piece remaining = [] ↔
    ∀ char ∈ remaining.take (cutPlace remaining), Text.isSpace char = true := by
  unfold piece
  rw [List.reverse_eq_nil_iff, List.dropWhile_eq_nil_iff]
  simp only [List.mem_reverse]

/-- The turns take the text apart, with nothing but whitespace between their pieces. -/
theorem divides_turns (value : Text) : Divides Text.isSpace value ((turns value).map piece) := by
  induction value using turns.induct with
  | case1 =>
      rw [turns]
      exact .last fun _ hnone => absurd hnone List.not_mem_nil
  | case2 char rest ih =>
      obtain ⟨after, hafter, htake⟩ := exists_after_piece (char :: rest)
      have hrest := ih.prepend fun item (hitem : item ∈ List.takeWhile Text.isSpace
        ((char :: rest).drop (cutPlace (char :: rest)))) => List.mem_takeWhile_imp hitem
      rw [List.takeWhile_append_dropWhile] at hrest
      have hnext := @Divides.next _ Text.isSpace [] (piece (char :: rest)) _ _
        (fun _ hnone => absurd hnone List.not_mem_nil) (hrest.prepend hafter)
      rw [List.nil_append, ← List.append_assoc, ← htake, List.take_append_drop] at hnext
      rw [turns, List.map_cons]
      exact hnext

/-! ## Whether a message keeps its piece -/

/-- A message is the escape of its piece, a space where the piece is empty, unless the
escape is too long. -/
theorem chunkText_eq (remaining : Text) :
    chunkText (remaining.take (cutPlace remaining)) =
      if piece remaining = [] then [' '] else (safe (piece remaining)).take telegramTextLimit := by
  have htext : chunkText (remaining.take (cutPlace remaining)) =
      (let escaped := if safe (piece remaining) ≠ [] then safe (piece remaining) else [' ']
       if escaped.length > telegramTextLimit then escaped.take telegramTextLimit else escaped) := rfl
  rw [htext]
  by_cases hpiece : piece remaining = []
  · rw [hpiece]
    decide
  · simp only [hpiece, not_congr safe_eq_nil_iff, not_false_eq_true, if_true, if_false]
    split
    · rfl
    · rename_i hshort
      exact (List.take_of_length_le (not_lt.mp hshort)).symm

/-- The escape of the piece fits into a message. -/
def Fits (remaining : Text) : Prop := escapedLength (piece remaining) ≤ telegramTextLimit

theorem solid_chunkText_le (remaining : Text) :
    (solid (chunkText (remaining.take (cutPlace remaining)))).length ≤
      (solid (safe (piece remaining))).length := by
  rw [chunkText_eq]
  split
  · exact Nat.zero_le _
  · exact ((List.take_sublist _ _).filter _).length_le

/-- What a turn cuts off is not whitespace alone. -/
theorem solid_chunkText_lt {remaining : Text} (hlong : ¬ Fits remaining) :
    (solid (chunkText (remaining.take (cutPlace remaining)))).length <
      (solid (safe (piece remaining))).length := by
  have hlimit : telegramTextLimit < (safe (piece remaining)).length := by
    rw [length_safe]
    exact not_le.mp hlong
  have hpiece : piece remaining ≠ [] := by
    intro hnone
    rw [hnone] at hlimit
    exact absurd hlimit (by decide)
  rw [chunkText_eq, if_neg hpiece]
  refine length_solid_take_lt hlimit ?_
  -- The last character of the escape belongs to the escape of the last character.
  obtain ⟨first, char, hsplit⟩ := (List.eq_nil_or_concat (piece remaining)).resolve_left hpiece
  rw [List.concat_eq_append] at hsplit
  have hspace : Text.isSpace char = false := by
    refine piece_end remaining char ?_
    rw [hsplit]
    exact List.getLast?_concat
  rw [hsplit, safe_append]
  rcases safe_singleton char with ⟨hother, _⟩ | ⟨_, hne, hsafe⟩
  · rw [hother] at hspace
    cases hspace
  · intro escaped hescaped
    rw [List.getLast?_append_of_ne_nil _ hne] at hescaped
    exact hsafe escaped (List.mem_of_getLast? hescaped)

theorem chunkText_of_fits {remaining : Text} (hfits : Fits remaining) (hpiece : piece remaining ≠ []) :
    chunkText (remaining.take (cutPlace remaining)) = safe (piece remaining) := by
  rw [chunkText_eq, if_neg hpiece, List.take_of_length_le]
  rw [length_safe]
  exact hfits

/-- After the first turn no piece is empty, as the whitespace before it is gone. -/
theorem piece_ne_nil {value : Text} (hhead : ∀ char ∈ value.head?, Text.isSpace char = false) :
    ∀ remaining ∈ turns value, piece remaining ≠ [] := by
  induction value using turns.induct with
  | case1 =>
      rw [turns]
      exact fun _ hnone => absurd hnone List.not_mem_nil
  | case2 char rest ih =>
      rw [turns, List.forall_mem_cons]
      refine ⟨?_, ih (Text.dropWhile_head _)⟩
      intro hnone
      obtain ⟨count, hcut⟩ := Nat.exists_eq_add_of_lt (cutPlace_pos (List.cons_ne_nil char rest))
      have hfirst : char ∈ (char :: rest).take (cutPlace (char :: rest)) := by
        rw [hcut, Nat.zero_add, List.take_succ_cons]
        exact List.mem_cons_self
      have hspace := piece_eq_nil_iff.mp hnone char hfirst
      rw [hhead char rfl] at hspace
      cases hspace

theorem turns_of_ne_nil {value : Text} (hvalue : value ≠ []) : turns value =
    value :: turns ((value.drop (cutPlace value)).dropWhile Text.isSpace) := by
  cases value with
  | nil => exact absurd rfl hvalue
  | cons char rest => rw [turns]

/-! ## What the messages keep -/

/-- Messages that are the escapes of pieces of the text keep all of it that is not
whitespace. -/
theorem solid_messages {value : Text} {pieces : List Text} (h : Divides Text.isSpace value pieces) :
    solid (pieces.map safe).flatten = safe (solid value) := by
  have hflatten : (pieces.map safe).flatten = safe pieces.flatten := by
    induction pieces generalizing value with
    | nil => rfl
    | cons first others ih =>
        cases h with
        | next hbefore hrest =>
            rw [List.map_cons, List.flatten_cons, List.flatten_cons, safe_append, ih hrest]
  rw [hflatten, solid_safe]
  exact congrArg safe h.filter_flatten

theorem length_solid_flatten (texts : List Text) :
    (solid texts.flatten).length = (texts.map fun text => (solid text).length).sum := by
  rw [solid_flatten, List.length_flatten, List.map_map]
  rfl

/-- Messages that are escapes of pieces of the text leave no escape cut off: it would lack
characters that are not whitespace. -/
theorem fits_of_divides {value : Text} {pieces : List Text} (h : Divides Text.isSpace value pieces)
    (hmessages : (chunks value).map (·.text) = pieces.map safe) :
    ∀ remaining ∈ turns value, Fits remaining := by
  have hsent : (safe (solid value)).length = ((turns value).map fun remaining =>
      (solid (chunkText (remaining.take (cutPlace remaining)))).length).sum := by
    rw [← solid_messages h, length_solid_flatten, ← hmessages, chunks_eq, List.map_map, List.map_map]
    simp only [Function.comp_def]
  have htaken : (safe (solid value)).length = ((turns value).map fun remaining =>
      (solid (safe (piece remaining))).length).sum := by
    rw [← solid_messages (divides_turns value), length_solid_flatten, List.map_map, List.map_map]
    simp only [Function.comp_def]
  intro remaining hremaining
  by_contra hlong
  have hless := List.sum_lt_sum _ _ (fun remaining _ => solid_chunkText_le remaining)
    ⟨remaining, hremaining, solid_chunkText_lt hlong⟩
  rw [← hsent, ← htaken] at hless
  exact lt_irrefl _ hless

/-- What is left after a first piece of whitespace alone is what follows the whitespace the
text starts with. -/
theorem rest_of_blank {value : Text}
    (hblank : ∀ char ∈ value.take (cutPlace value), Text.isSpace char = true) :
    (value.drop (cutPlace value)).dropWhile Text.isSpace = value.dropWhile Text.isSpace := by
  conv_rhs => rw [← List.take_append_drop (cutPlace value) value]
  rw [List.dropWhile_append_of_pos hblank]

/-- Where every escape fits, the messages are escapes of pieces that divide the text, given
a space for a first piece of whitespace alone. -/
theorem exists_pieces {value : Text} (hvalue : value ≠ [])
    (hfits : ∀ remaining ∈ turns value, Fits remaining)
    (hblank : (∀ char ∈ value.take (cutPlace value), Text.isSpace char = true) →
      ' ' ∈ value.takeWhile Text.isSpace) :
    ∃ pieces, (chunks value).map (·.text) = pieces.map safe ∧ Divides Text.isSpace value pieces := by
  have hdivides := divides_turns value
  rw [turns_of_ne_nil hvalue, List.forall_mem_cons] at hfits
  obtain ⟨hfirst, hlater⟩ := hfits
  have hrest : (turns ((value.drop (cutPlace value)).dropWhile Text.isSpace)).map (fun remaining =>
      chunkText (remaining.take (cutPlace remaining))) =
      ((turns ((value.drop (cutPlace value)).dropWhile Text.isSpace)).map piece).map safe := by
    rw [List.map_map]
    refine List.map_congr_left fun remaining hremaining => ?_
    exact chunkText_of_fits (hlater remaining hremaining)
      (piece_ne_nil (Text.dropWhile_head _) remaining hremaining)
  have hmessages : (chunks value).map (·.text) = chunkText (value.take (cutPlace value)) ::
      ((turns ((value.drop (cutPlace value)).dropWhile Text.isSpace)).map piece).map safe := by
    rw [chunks_eq, List.map_map, turns_of_ne_nil hvalue, List.map_cons, ← hrest]
    rfl
  by_cases hpiece : piece value = []
  · have hspaces := piece_eq_nil_iff.mp hpiece
    obtain ⟨before, after, hsplit⟩ := List.append_of_mem (hblank hspaces)
    have hleading : ∀ char ∈ before ++ ' ' :: after, Text.isSpace char = true := by
      intro char hchar
      rw [← hsplit] at hchar
      exact List.mem_takeWhile_imp hchar
    have hbefore : ∀ char ∈ before, Text.isSpace char = true := fun char hchar =>
      hleading char (List.mem_append_left _ hchar)
    have hafter : ∀ char ∈ after, Text.isSpace char = true := fun char hchar =>
      hleading char (List.mem_append_right _ (List.mem_cons_of_mem _ hchar))
    have hwhole : value = before ++ [' '] ++ (after ++ value.dropWhile Text.isSpace) := by
      conv_lhs => rw [← List.takeWhile_append_dropWhile (p := Text.isSpace) (l := value), hsplit]
      simp
    refine ⟨[' '] :: (turns ((value.drop (cutPlace value)).dropWhile Text.isSpace)).map piece, ?_, ?_⟩
    · rw [hmessages, chunkText_eq, if_pos hpiece]
      rfl
    · conv_lhs => rw [hwhole]
      refine .next hbefore (Divides.prepend hafter ?_)
      rw [rest_of_blank hspaces]
      exact divides_turns _
  · refine ⟨(turns value).map piece, ?_, hdivides⟩
    rw [hmessages, chunkText_of_fits hfirst hpiece, turns_of_ne_nil hvalue]
    rfl

theorem eq_space_of_safe {segment : Text} (hsafe : safe segment = [' ']) : segment = [' '] := by
  have hlength := congrArg List.length hsafe
  rw [length_safe] at hlength
  cases segment with
  | nil => cases hsafe
  | cons char rest =>
      have hrest : rest = [] := by
        rw [← List.length_eq_zero_iff]
        simp only [escapedLength, List.length_cons, List.length_nil] at hlength
        omega
      subst hrest
      rcases safe_singleton char with ⟨_, hkept⟩ | ⟨_, _, hescaped⟩
      · rw [← hkept, hsafe]
      · have hspace := hescaped ' ' (by rw [hsafe]; exact List.mem_singleton_self _)
        exact absurd hspace (by decide)

/-- The message of a first piece of whitespace alone is a space, which the text must start
with then. -/
theorem space_of_blank {value : Text} {pieces : List Text} (hvalue : value ≠ [])
    (hblank : piece value = []) (hmessages : (chunks value).map (·.text) = pieces.map safe)
    (h : Divides Text.isSpace value pieces) : ' ' ∈ value.takeWhile Text.isSpace := by
  rw [chunks_eq, turns_of_ne_nil hvalue, List.map_cons, List.map_cons, chunkText_eq, if_pos hblank]
    at hmessages
  cases pieces with
  | nil => cases hmessages
  | cons first others =>
      rw [List.map_cons, List.cons.injEq] at hmessages
      rw [eq_space_of_safe hmessages.1.symm] at h
      obtain ⟨before, rest, hbefore, hsplit⟩ := h.exists_before
      rw [hsplit, List.append_assoc, List.takeWhile_append_of_pos hbefore]
      exact List.mem_append_right _ List.mem_cons_self

/-! ## How many messages there are -/

theorem rfind_of_not_mem {char : Char} {text : Text} (htext : char ∉ text) : rfind char text = -1 := by
  unfold rfind
  rw [List.idxOf?_eq_none_iff.mpr]
  rw [List.mem_reverse]
  exact htext

/-- A long text without whitespace is cut after its first character. -/
theorem cutPlace_unbroken {remaining : Text}
    (hunbroken : ∀ char ∈ remaining, Text.isSpace char = false) :
    cutPlace remaining = if safeTextLimit < remaining.length then 1 else remaining.length := by
  have hnone : ∀ char, Text.isSpace char = true → ∀ count, rfind char (remaining.take count) = -1 := by
    intro char hchar count
    refine rfind_of_not_mem fun hmem => ?_
    rw [hunbroken char (List.mem_of_mem_take hmem)] at hchar
    cases hchar
  unfold cutPlace
  dsimp only
  rw [hnone '\n' (by decide), hnone ' ' (by decide)]
  split <;> split <;> omega

theorem length_turns_unbroken {value : Text} (hvalue : value ≠ [])
    (hunbroken : ∀ char ∈ value, Text.isSpace char = false) :
    (turns value).length = max 1 (value.length - 3999) := by
  induction value using turns.induct with
  | case1 => exact absurd rfl hvalue
  | case2 char rest ih =>
      have hkept : ((char :: rest).drop (cutPlace (char :: rest))).dropWhile Text.isSpace =
          (char :: rest).drop (cutPlace (char :: rest)) := by
        refine Text.dropWhile_of_head fun other hother => ?_
        exact hunbroken other (List.mem_of_mem_drop (List.mem_of_mem_head? hother))
      rw [hkept, cutPlace_unbroken hunbroken] at ih
      rw [turns, hkept, cutPlace_unbroken hunbroken, List.length_cons]
      unfold safeTextLimit at ih ⊢
      split
      · rename_i hlong
        rw [if_pos hlong] at ih
        rw [List.length_cons] at hlong ⊢
        have hrest : rest ≠ [] := List.length_pos_iff.mp (by omega)
        rw [List.drop_succ_cons, List.drop_zero] at ih ⊢
        rw [ih hrest fun other hother => hunbroken other (List.mem_cons_of_mem _ hother)]
        omega
      · rename_i hshort
        rw [List.drop_length, turns]
        simp only [List.length_cons, List.length_nil] at hshort ⊢
        omega

/-- A short text is taken in one turn. -/
theorem turns_short {value : Text} (hvalue : value ≠ []) (hshort : value.length ≤ safeTextLimit) :
    turns value = [value] := by
  have hcut : cutPlace value = value.length := by
    unfold cutPlace
    dsimp only
    rw [Nat.min_eq_left hshort, if_neg (lt_irrefl _)]
  rw [turns_of_ne_nil hvalue, hcut, List.drop_length, List.dropWhile_nil, turns]

theorem piece_short {value : Text} (hshort : value.length ≤ safeTextLimit)
    (hunbroken : ∀ char ∈ value, Text.isSpace char = false) : piece value = value := by
  unfold piece
  rw [cutPlace_unbroken hunbroken, if_neg (not_lt.mpr hshort), List.take_length,
    Text.dropWhile_of_head, List.reverse_reverse]
  intro char hchar
  exact hunbroken char (List.mem_reverse.mp (List.mem_of_mem_head? hchar))

end TelegramRenderer

/-! ## The messages of a text -/

/-- The messages are short, they are the complete escapes of pieces of the text with nothing
but whitespace between and around them, and an unbroken text that needs no escapes takes
hardly more of them than it must. -/
structure SplitWithoutLoss (value : Text) (messages : List RenderedMessage) : Prop where
  short : ∀ message ∈ messages, message.text.length ≤ telegramTextLimit
  whole : ∃ pieces, messages.map (·.text) = pieces.map safe ∧ Divides Text.isSpace value pieces
  few : (∀ char ∈ value, Text.isSpace char = false) → '&' ∉ value ∧ '<' ∉ value ∧ '>' ∉ value →
    messages.length ≤ (value.length + 3999) / 4000 + 1

open TelegramRenderer

/-- A text is split without loss just when the escape of no turn's piece is too long, when a
first piece of whitespace alone has a space to stand for it, and when an unbroken text that
needs no escapes has no more than 4002 characters. -/
theorem splitPlainText_lossless_iff {value : Text} (hvalue : value ≠ []) :
    SplitWithoutLoss value (splitPlainText value) ↔
      (∀ remaining ∈ turns value, escapedLength (piece remaining) ≤ telegramTextLimit) ∧
      ((∀ char ∈ value.take (cutPlace value), Text.isSpace char = true) →
        ' ' ∈ value.takeWhile Text.isSpace) ∧
      ((∀ char ∈ value, Text.isSpace char = false) → '&' ∉ value ∧ '<' ∉ value ∧ '>' ∉ value →
        value.length ≤ 4002) := by
  have hmessages : splitPlainText value = chunks value := if_neg hvalue
  have hcount : (chunks value).length = (turns value).length := by rw [chunks_eq, List.length_map]
  rw [hmessages]
  constructor
  · intro hlossless
    obtain ⟨pieces, htexts, hdivides⟩ := hlossless.whole
    refine ⟨fits_of_divides hdivides htexts, ?_, ?_⟩
    · intro hspaces
      exact space_of_blank hvalue (piece_eq_nil_iff.mpr hspaces) htexts hdivides
    · intro hunbroken hplain
      have hfew := hlossless.few hunbroken hplain
      rw [hcount, length_turns_unbroken hvalue hunbroken] at hfew
      omega
  · intro hcondition
    obtain ⟨hfits, hblank, hlong⟩ := hcondition
    refine ⟨?_, exists_pieces hvalue hfits hblank, ?_⟩
    · intro message hmessage
      rw [chunks_eq] at hmessage
      obtain ⟨remaining, _, rfl⟩ := List.mem_map.mp hmessage
      exact length_chunkText _
    · intro hunbroken hplain
      have hlength := hlong hunbroken hplain
      have hpositive := List.length_pos_iff.mpr hvalue
      rw [hcount, length_turns_unbroken hvalue hunbroken]
      omega

namespace Paragraphs

def first : Text := List.replicate 3990 'a'

def second : Text := "Prices<here>".toList

/-- A long word, and a short one after an empty line. -/
def value : Text := first ++ "\n\n".toList ++ second

theorem value_ne_nil : value ≠ [] := List.append_ne_nil_of_right_ne_nil _ (by decide)

theorem cutPlace_value : cutPlace value = 3991 := by
  decide +kernel

theorem take_value : value.take (cutPlace value) = first ++ ['\n'] := by
  rw [cutPlace_value, value, List.append_assoc, first, List.take_append, List.length_replicate,
    List.take_of_length_le (by rw [List.length_replicate]; decide)]
  rfl

theorem rest_value : (value.drop (cutPlace value)).dropWhile Text.isSpace = second := by
  rw [cutPlace_value, value, List.append_assoc, first, List.drop_append, List.length_replicate,
    List.drop_eq_nil_of_le (by rw [List.length_replicate]; decide)]
  decide

theorem turns_value : turns value = [value, second] := by
  rw [turns_of_ne_nil value_ne_nil, rest_value, turns_short (by decide) (by decide)]

theorem piece_value : piece value = first := by
  have hletter : ∀ char ∈ first.reverse.head?, Text.isSpace char = false := by
    intro char hchar
    rw [List.eq_of_mem_replicate (List.mem_reverse.mp (List.mem_of_mem_head? hchar))]
    decide
  have hnewline : Text.isSpace '\n' = true := by decide
  rw [piece, take_value, List.reverse_append, List.reverse_singleton, List.singleton_append,
    List.dropWhile_cons_of_pos hnewline, Text.dropWhile_of_head hletter, List.reverse_reverse]

end Paragraphs

open Paragraphs in
/-- The text is cut between its paragraphs. -/
theorem paragraphs_whole : turns value = [value, second] ∧
    SplitWithoutLoss value (splitPlainText value) := by
  refine ⟨turns_value, (splitPlainText_lossless_iff value_ne_nil).mpr ⟨?_, ?_, ?_⟩⟩
  · rw [turns_value, List.forall_mem_cons, List.forall_mem_singleton, piece_value]
    decide +kernel
  · rw [take_value]
    intro hblank
    exact absurd (hblank 'a' (List.mem_append_left _ (List.mem_replicate.mpr ⟨by decide, rfl⟩)))
      (by decide)
  · intro hunbroken
    have hnewline : '\n' ∈ value := List.mem_append_left _ (List.mem_append_right _ (by decide))
    exact absurd (hunbroken '\n' hnewline) (by decide)

theorem escapedLength_ampersands (count : ℕ) :
    escapedLength (List.replicate count '&') = 5 * count := by
  simp only [escapedLength, List.length_replicate, List.count_replicate]
  simp
  omega

/-- The end of a thousand ampersands is lost, and the last escape with it. -/
theorem ampersands_cut : ¬ SplitWithoutLoss (List.replicate 1000 '&')
    (splitPlainText (List.replicate 1000 '&')) := by
  intro hlossless
  obtain ⟨pieces, htexts, hdivides⟩ := hlossless.whole
  have hvalue : List.replicate 1000 '&' ≠ [] := by
    rw [Ne, List.replicate_eq_nil_iff]
    decide
  have hshort : (List.replicate 1000 '&').length ≤ safeTextLimit := by
    rw [List.length_replicate]
    decide
  have hunbroken : ∀ char ∈ List.replicate 1000 '&', Text.isSpace char = false := by
    intro char hchar
    rw [List.eq_of_mem_replicate hchar]
    decide
  have hmessages : splitPlainText (List.replicate 1000 '&') = chunks (List.replicate 1000 '&') :=
    if_neg hvalue
  rw [hmessages] at htexts
  have hfits := fits_of_divides hdivides htexts
  rw [turns_short hvalue hshort, List.forall_mem_singleton] at hfits
  unfold Fits at hfits
  rw [piece_short hshort hunbroken, escapedLength_ampersands] at hfits
  exact absurd hfits (by decide)

end BusinessAssistant.Presentation
