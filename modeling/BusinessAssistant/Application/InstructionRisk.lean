/-
# Instructions in chunks

A chunk is marked when its own text holds an instruction. The patterns span at most four
words, so where windows overlap in three an instruction of a section is seen in one of
its chunks, and where they overlap in fewer the end of a window can cut one in two.
-/

import BusinessAssistant.Application.ChunkCover

namespace BusinessAssistant.Application

open BusinessAssistant.Domain BusinessAssistant.Foundation

open DeterministicKnowledgeChunker

/-! ## Headings -/

/-- A title as `_HEADING` reads it. -/
def GoodTitle (heading : Option Text) : Prop :=
  ∀ title ∈ heading, title.Trimmed ∧ title ≠ []

theorem goodTitle_headingTitle? (line : Text) : GoodTitle (headingTitle? line) := by
  intro title htitle
  unfold headingTitle? at htitle
  simp only at htitle
  split at htitle
  · rename_i hheading
    cases htitle
    exact ⟨Text.trimmed_strip _, hheading.2.2.2⟩
  · cases htitle

theorem Sections.goodTitles_closed {read : Sections} (hheading : GoodTitle read.heading)
    (hcomplete : ∀ entry ∈ read.complete, GoodTitle entry.1) :
    ∀ entry ∈ read.closed, GoodTitle entry.1 := by
  rw [Sections.closed]
  split
  · exact hcomplete
  · intro entry hentry
    rcases List.mem_append.mp hentry with hold | hnew
    · exact hcomplete entry hold
    · rw [List.mem_singleton] at hnew
      rw [hnew]
      exact hheading

theorem goodTitle_of_mem_sections {source : Text} {read : Section}
    (hread : read ∈ sections source) : GoodTitle read.heading := by
  have hfold : ∀ (lines : List Text) (read : Sections), GoodTitle read.heading →
      (∀ entry ∈ read.complete, GoodTitle entry.1) →
      GoodTitle (lines.foldl Sections.next read).heading ∧
        ∀ entry ∈ (lines.foldl Sections.next read).complete, GoodTitle entry.1 := by
    intro lines
    induction lines with
    | nil => exact fun _ hheading hcomplete => ⟨hheading, hcomplete⟩
    | cons line rest ih =>
        intro read hheading hcomplete
        rw [List.foldl_cons]
        have htitle := goodTitle_headingTitle? line
        rw [Sections.next]
        cases hline : headingTitle? line with
        | some title =>
            rw [hline] at htitle
            exact ih _ htitle (Sections.goodTitles_closed hheading hcomplete)
        | none =>
            simp only
            split
            · exact ih _ hheading hcomplete
            · exact ih _ hheading hcomplete
  obtain ⟨hheading, hcomplete⟩ := hfold (Text.splitlines source) {}
    (fun _ htitle => by cases htitle) (fun _ hentry => by cases hentry)
  obtain ⟨entry, hentry, rfl⟩ := List.mem_map.mp hread
  exact Sections.goodTitles_closed hheading hcomplete entry hentry

/-! ## What is to hold -/

section Risk

variable [PythonLibrary] {chunker : DeterministicKnowledgeChunker}

/-- A section whose words hold an instruction has a marked chunk, and a chunk that is not
marked holds no instruction. -/
def InstructionsShown (chunker : DeterministicKnowledgeChunker) (source : Text) : Prop :=
  ∀ chunks groups, chunker.markdown source = .ok chunks → Chunking chunker source groups →
    chunks = groups.flatMap (·.2) → ∀ group ∈ groups,
      (hasInstructionRisk (Text.joinWords (Text.words group.1.body)) = true →
        ∃ chunk ∈ group.2, chunk.instructionRisk = true) ∧
      ∀ chunk ∈ group.2, chunk.instructionRisk = false →
        ∀ pattern ∈ instructionPatterns, pattern.found Text.isWord chunk.text = false

/-- What a window holds, the text of its chunk holds. -/
theorem hasInstructionRisk_chunkText {heading : Option Text} (hheading : GoodTitle heading)
    {window : List Text} (hwindow : window ≠ [])
    (hsolid : ∀ word ∈ window, word ≠ [] ∧ ∀ char ∈ word, Text.isSpace char = false)
    (hrisk : hasInstructionRisk (Text.joinWords window) = true) :
    hasInstructionRisk (chunkText heading window) = true := by
  have hjoined := Text.joinWords_ne_nil hwindow fun word hword => (hsolid word hword).1
  have htrimmed := Text.trimmed_joinWords hsolid
  obtain ⟨pattern, hpattern, hfound⟩ := List.any_eq_true.mp hrisk
  refine List.any_eq_true.mpr ⟨pattern, hpattern, ?_⟩
  cases heading with
  | none =>
      have htext : chunkText none window = Text.strip (Text.joinWords window) := rfl
      rw [htext, Text.strip_of_trimmed htrimmed]
      exact hfound
  | some title =>
      obtain ⟨htitle, hsome⟩ := hheading title rfl
      have htext : chunkText (some title) window =
          Text.strip (title ++ ['\n'] ++ Text.joinWords window) := rfl
      rw [htext, Text.strip_of_trimmed (Text.trimmed_append htitle htrimmed hsome hjoined)]
      refine Pattern.found_append Text.isWord ?_ hfound
      rw [List.getLast?_concat]
      rfl

/-- A window of a section has its chunk. -/
theorem Cuts.chunk_of_mem {read : Section} {chunks : List KnowledgeChunkDraft}
    {windows : List (Nat × Nat)} (hcuts : Cuts chunker read chunks windows)
    {window : Nat × Nat} (hwindow : window ∈ windows) :
    ∃ chunk ∈ chunks, ChunkOf read.heading (Text.words read.body) window chunk := by
  have hall := hcuts.chunks
  clear hcuts
  induction hall with
  | nil => cases hwindow
  | cons hof _ ih =>
      rcases List.mem_cons.mp hwindow with rfl | hlater
      · exact ⟨_, List.mem_cons_self, hof⟩
      · obtain ⟨chunk, hchunk, hof⟩ := ih hlater
        exact ⟨chunk, List.mem_cons_of_mem _ hchunk, hof⟩

/-! ## Windows that overlap enough -/

theorem instructionsShown_of_overlap (hoverlap : 3 ≤ chunker.overlapTokens) (source : Text) :
    InstructionsShown chunker source := by
  intro chunks groups _ hchunking _ group hgroup
  obtain ⟨windows, hcuts⟩ := hchunking.cuts group hgroup
  have hsection : group.1 ∈ sections (normalizeSource source) := by
    have hmem : group.1 ∈ groups.map (·.1) := List.mem_map_of_mem hgroup
    rw [hchunking.sections] at hmem
    exact (List.mem_filter.mp hmem).1
  have hsolid : ∀ word ∈ Text.words group.1.body,
      word ≠ [] ∧ ∀ char ∈ word, Text.isSpace char = false := fun _ => Text.words_solid
  constructor
  · intro hrisk
    obtain ⟨pattern, hpattern, hfound⟩ := List.any_eq_true.mp hrisk
    have hgap : Text.isSpace ' ' = true := by decide
    obtain ⟨first, count, hcount, hlast, hspan⟩ := Pattern.exists_span_of_found Text.isWord hgap
      (Text.not_isWord_of_isSpace hgap) hsolid hfound
    have hgaps := gaps_instructionPatterns pattern hpattern
    obtain ⟨window, hwindow, hfrom, hto⟩ :=
      hcuts.slides.exists_window (by omega) (Nat.zero_le first) hlast
    obtain ⟨chunk, hchunk, hof⟩ := hcuts.chunk_of_mem hwindow
    refine ⟨chunk, hchunk, ?_⟩
    rw [hof.instructionRisk, hof.text]
    apply hasInstructionRisk_chunkText (goodTitle_of_mem_sections hsection)
    · obtain ⟨_, hlength, hend⟩ := hcuts.slides.mem_bounds window hwindow
      rw [← List.length_pos_iff_ne_nil, List.length_drop, List.length_take]
      omega
    · intro word hword
      exact hsolid word (List.mem_of_mem_take (List.mem_of_mem_drop hword))
    · exact List.any_eq_true.mpr ⟨pattern, hpattern, hspan window.1 window.2 hfrom hto⟩
  · intro chunk hchunk hunmarked pattern hpattern
    obtain ⟨window, _, hof⟩ := hcuts.window_of_mem hchunk
    rw [hof.instructionRisk] at hunmarked
    exact Bool.eq_false_iff.mpr (List.any_eq_false.mp hunmarked pattern hpattern)

/-! ## Sources of one line -/

/-- Words in one line are normalized already. -/
theorem normalizeSource_joinWords {pieces : List Text} (hpieces : pieces ≠ [])
    (hsolid : ∀ piece ∈ pieces, piece ≠ [] ∧ ∀ char ∈ piece, Text.isSpace char = false)
    (hascii : ∀ piece ∈ pieces, ∀ char ∈ piece, char.toNat < 128) :
    normalizeSource (Text.joinWords pieces) = Text.joinWords pieces := by
  have hsome := Text.joinWords_ne_nil hpieces fun piece hpiece => (hsolid piece hpiece).1
  have hstrip := Text.strip_of_trimmed (Text.trimmed_joinWords hsolid)
  have hspaces : ∀ char ∈ Text.joinWords pieces, Text.isSpace char = true → char = ' ' := by
    intro char hchar hspace
    rcases Text.mem_joinWords hchar with rfl | ⟨piece, hpiece, hmem⟩
    · rfl
    · rw [(hsolid piece hpiece).2 char hmem] at hspace
      cases hspace
  have hall : (Text.joinWords pieces).all Text.isAscii = true := by
    rw [List.all_eq_true]
    intro char hchar
    rcases Text.mem_joinWords hchar with rfl | ⟨piece, hpiece, hmem⟩
    · decide
    · exact decide_eq_true (hascii piece hpiece char hmem)
  have hreturn : '\r' ∉ Text.joinWords pieces := by
    intro hchar
    have := hspaces _ hchar (by decide)
    revert this
    decide
  have hends : ∀ char ∈ Text.joinWords pieces, Text.isLineEnd char = false := by
    intro char hchar
    rw [Bool.eq_false_iff]
    intro hend
    rw [hspaces char hchar (Text.isSpace_of_isLineEnd hend)] at hend
    revert hend
    decide
  have hblanks : Text.collapseBlanks (Text.joinWords pieces) = Text.joinWords pieces := by
    apply Text.collapseBlanks_eq_self
    · intro char hchar hblank
      exact hspaces char hchar (Text.isSpace_of_isBlank hblank)
    · refine (Pattern.singleSpaced_intercalate hsolid).imp ?_
      rintro first second hmeet ⟨hfirst, hsecond⟩
      exact hmeet ⟨Text.isSpace_of_isBlank hfirst, Text.isSpace_of_isBlank hsecond⟩
  have hkept : keepLine [] (Text.joinWords pieces) = [Text.joinWords pieces] := if_pos (.inl hsome)
  rw [normalizeSource, Text.nfkc, if_pos hall, Text.unixLines_eq_self hreturn,
    Text.splitlines_eq_self hends hsome, List.map_singleton, hblanks, hstrip, List.foldl_cons,
    List.foldl_nil, hkept, Text.joinLines, List.intercalate_singleton, hstrip]

omit [PythonLibrary] in
/-- A line that is no heading is a section. -/
theorem sections_of_line {line : Text} (hends : ∀ char ∈ line, Text.isLineEnd char = false)
    (hsome : line ≠ []) (hhead : line.head? ≠ some '#') :
    sections line = [{ heading := none, body := line }] := by
  have htitle : headingTitle? line = none := by
    have hhashes : line.takeWhile (· = '#') = [] := by
      cases line with
      | nil => rfl
      | cons char rest =>
          have hchar : char ≠ '#' := fun h => hhead (congrArg some h)
          simp [hchar]
    rw [headingTitle?, hhashes]
    rfl
  rw [sections, Text.splitlines_eq_self hends hsome, List.foldl_cons, List.foldl_nil, Sections.next,
    htitle]
  simp only [if_pos hsome, Sections.closed, List.nil_append]
  rw [if_neg (List.cons_ne_nil _ _)]
  simp [Text.joinLines]

/-! ## An instruction that is cut -/

/-- The words of an instruction. -/
def instruction : List Text :=
  ["ignore".toList, "all".toList, "previous".toList, "instructions".toList]

/-- Words that lead up to an instruction. -/
def filler (count : Nat) : List Text := List.replicate count ['a']

/-- The words of a source whose first window ends in the instruction. -/
def cutWords (chunker : DeterministicKnowledgeChunker) : List Text :=
  filler (chunker.maxTokens - chunker.overlapTokens - 1) ++ instruction

def cutSource (chunker : DeterministicKnowledgeChunker) : Text := Text.joinWords (cutWords chunker)

/-- No instruction begins with a filler or between two of them. -/
theorem refuses_filler : ∀ pattern ∈ instructionPatterns, ∀ char ∈ ['a', ' '],
    Pattern.Refuses Text.isWord pattern char := by
  have hword : ∀ (first : Char) (rest : List Char) (char : Char),
      (sameLetter first char && !Text.isSpace char) = false →
        Pattern.Refuses Text.isWord
          ((first :: rest).foldr (fun char rest => .seq (letter char) rest) .empty) char := by
    intro first rest char hrefused
    have hfirst : Pattern.Refuses Text.isWord (letter first) char := by
      apply Pattern.refuses_letter
      exact hrefused
    exact hfirst.seq _
  have hrefused : ∀ char ∈ ['a', ' '], ∀ first ∈ "isdpcur".toList,
      (sameLetter first char && !Text.isSpace char) = false := by
    decide
  intro pattern hpattern char hchar
  simp only [instructionPatterns, List.mem_cons, List.not_mem_nil, or_false] at hpattern
  rcases hpattern with rfl | rfl | rfl | rfl
  · exact ((hword 'i' _ char (hrefused char hchar 'i' (by decide))).seq _).boundary_seq
  · exact (((hword 's' _ char (hrefused char hchar 's' (by decide))).choice
      (hword 'd' _ char (hrefused char hchar 'd' (by decide)))).seq _).boundary_seq
  · exact (((hword 'c' _ char (hrefused char hchar 'c' (by decide))).choice
      ((hword 'i' _ char (hrefused char hchar 'i' (by decide))).choice
        (hword 'u' _ char (hrefused char hchar 'u' (by decide))))).seq _).boundary_seq
  · exact ((hword 'r' _ char (hrefused char hchar 'r' (by decide))).seq _).boundary_seq

/-- Fillers before other words make no difference. -/
theorem hasInstructionRisk_filler (count : Nat) {rest : List Text} (hrest : rest ≠ []) :
    hasInstructionRisk (Text.joinWords (filler count ++ rest)) =
      hasInstructionRisk (Text.joinWords rest) := by
  have hone : ∀ pattern ∈ instructionPatterns,
      pattern.found Text.isWord (Text.joinWords (filler count ++ rest)) =
        pattern.found Text.isWord (Text.joinWords rest) := by
    intro pattern hpattern
    have hspace : Text.isWord ' ' = false := Text.not_isWord_of_isSpace (by decide)
    induction count with
    | zero => rfl
    | succ count ih =>
        have hcons : Text.joinWords (filler (count + 1) ++ rest) =
            'a' :: ' ' :: Text.joinWords (filler count ++ rest) := by
          rw [filler, List.replicate_succ, List.cons_append, Text.joinWords,
            List.intercalate_cons_of_ne_nil (by simp [hrest])]
          rfl
        rw [hcons, Pattern.found, (refuses_filler pattern hpattern 'a' (by decide)).foundFrom,
          (refuses_filler pattern hpattern ' ' (by decide)).foundFrom,
          Pattern.foundFrom_eq_found hspace, ih]
  rw [Bool.eq_iff_iff, hasInstructionRisk, hasInstructionRisk, List.any_eq_true, List.any_eq_true]
  constructor
  · rintro ⟨pattern, hpattern, hfound⟩
    exact ⟨pattern, hpattern, by rwa [← hone pattern hpattern]⟩
  · rintro ⟨pattern, hpattern, hfound⟩
    exact ⟨pattern, hpattern, by rwa [hone pattern hpattern]⟩

omit [PythonLibrary] in
/-- Whether ASCII text holds an instruction does not depend on the tables. -/
theorem hasInstructionRisk_ascii (first second : PythonLibrary) {value : Text}
    (hascii : ∀ char ∈ value, char.toNat < 128)
    (hrisk : @hasInstructionRisk first value = true) : @hasInstructionRisk second value = true := by
  obtain ⟨pattern, hpattern, hfound⟩ := List.any_eq_true.mp hrisk
  refine List.any_eq_true.mpr ⟨pattern, hpattern, Pattern.found_of_agree _ ?_ hfound⟩
  intro char hchar
  have hcode := hascii char hchar
  simp only [Text.isWord, if_pos hcode]

/-- The instruction is found whole, and nothing is found in its first three words or its
last three. -/
theorem hasInstructionRisk_instruction :
    hasInstructionRisk (Text.joinWords instruction) = true ∧
      (∀ count ≤ 3, hasInstructionRisk (Text.joinWords (instruction.take count)) = false) ∧
      hasInstructionRisk (Text.joinWords (instruction.drop 1)) = false := by
  have hascii : ∀ char ∈ Text.joinWords instruction, char.toNat < 128 := by decide +kernel
  have hfirst : ∀ count ≤ 3, ∀ char ∈ Text.joinWords (instruction.take count),
      char.toNat < 128 := by
    decide +kernel
  have hlast : ∀ char ∈ Text.joinWords (instruction.drop 1), char.toNat < 128 := by
    decide +kernel
  have hwhole : @hasInstructionRisk SmallSource.asciiLibrary (Text.joinWords instruction) = true := by
    decide +kernel
  have hcut : ∀ count ≤ 3, @hasInstructionRisk SmallSource.asciiLibrary
      (Text.joinWords (instruction.take count)) = false := by
    decide +kernel
  have hrest : @hasInstructionRisk SmallSource.asciiLibrary
      (Text.joinWords (instruction.drop 1)) = false := by
    decide +kernel
  refine ⟨hasInstructionRisk_ascii _ _ hascii hwhole, ?_, ?_⟩
  · intro count hcount
    rw [Bool.eq_false_iff]
    intro hrisk
    have hsame := hasInstructionRisk_ascii _ SmallSource.asciiLibrary (hfirst count hcount) hrisk
    rw [hcut count hcount] at hsame
    cases hsame
  · rw [Bool.eq_false_iff]
    intro hrisk
    have hsame := hasInstructionRisk_ascii _ SmallSource.asciiLibrary hlast hrisk
    rw [hrest] at hsame
    cases hsame

omit [PythonLibrary] in
theorem length_cutWords (hoverlap : chunker.overlapTokens < 3) :
    (cutWords chunker).length = chunker.maxTokens - chunker.overlapTokens + 3 ∧
      chunker.maxTokens < (cutWords chunker).length := by
  have hmax := chunker.maxValid
  have hvalid := chunker.overlapValid
  have hlength : (cutWords chunker).length =
      chunker.maxTokens - chunker.overlapTokens - 1 + 4 := by
    simp [cutWords, filler, instruction]
  omega

omit [PythonLibrary] in
theorem solid_cutWords : ∀ word ∈ cutWords chunker,
    word ≠ [] ∧ ∀ char ∈ word, Text.isSpace char = false ∧ char.toNat < 128 := by
  have hfour : ∀ word ∈ instruction,
      word ≠ [] ∧ ∀ char ∈ word, Text.isSpace char = false ∧ char.toNat < 128 := by
    decide +kernel
  intro word hword
  rcases List.mem_append.mp hword with hfiller | hlast
  · rw [List.eq_of_mem_replicate hfiller]
    decide
  · exact hfour word hlast

omit [PythonLibrary] in
/-- The only windows of the source that is cut. -/
theorem windows_cutWords (hoverlap : chunker.overlapTokens < 3) {windows : List (Nat × Nat)}
    (hslides : Slides chunker.overlapTokens (cutWords chunker).length 0 windows)
    (hfull : ∀ window ∈ windows,
      window.2 = min (window.1 + chunker.maxTokens) (cutWords chunker).length) :
    ∀ window ∈ windows, window = (0, chunker.maxTokens) ∨
      window = (chunker.maxTokens - chunker.overlapTokens, (cutWords chunker).length) := by
  obtain ⟨hlength, hlong⟩ := length_cutWords hoverlap
  have hvalid := chunker.overlapValid
  have hmax := chunker.maxValid
  cases hslides with
  | last =>
      have := hfull _ (List.mem_singleton_self _)
      omega
  | @next _ stop rest _ hstop hrest =>
      have hfirst : stop = chunker.maxTokens := by
        have := hfull _ List.mem_cons_self
        omega
      subst hfirst
      intro window hwindow
      rcases List.mem_cons.mp hwindow with rfl | hlater
      · exact .inl rfl
      · cases hrest with
        | last => exact .inr (List.mem_singleton.mp hlater)
        | @next _ second more _ hsecond =>
            have := hfull (_, second) (List.mem_cons_of_mem _ List.mem_cons_self)
            omega

/-- Neither window holds the instruction. -/
theorem not_risk_of_window (hoverlap : chunker.overlapTokens < 3) {window : Nat × Nat}
    (hwindow : window = (0, chunker.maxTokens) ∨
      window = (chunker.maxTokens - chunker.overlapTokens, (cutWords chunker).length)) :
    hasInstructionRisk
      (Text.joinWords (((cutWords chunker).take window.2).drop window.1)) = false := by
  obtain ⟨_, hfirst, hlast⟩ := hasInstructionRisk_instruction
  have hmax := chunker.maxValid
  have hvalid := chunker.overlapValid
  have hfiller : (filler (chunker.maxTokens - chunker.overlapTokens - 1)).length =
      chunker.maxTokens - chunker.overlapTokens - 1 := List.length_replicate
  rcases hwindow with rfl | rfl
  · have htake : chunker.maxTokens =
        (filler (chunker.maxTokens - chunker.overlapTokens - 1)).length +
          (chunker.overlapTokens + 1) := by
      omega
    have hwords : (cutWords chunker).take chunker.maxTokens =
        filler (chunker.maxTokens - chunker.overlapTokens - 1) ++
          instruction.take (chunker.overlapTokens + 1) := by
      have hsplit := @List.take_length_add_append _
        (filler (chunker.maxTokens - chunker.overlapTokens - 1)) instruction
        (chunker.overlapTokens + 1)
      rw [← htake] at hsplit
      exact hsplit
    rw [List.drop_zero, hwords, hasInstructionRisk_filler _ (by simp [instruction])]
    exact hfirst _ (by omega)
  · have hdrop : chunker.maxTokens - chunker.overlapTokens =
        (filler (chunker.maxTokens - chunker.overlapTokens - 1)).length + 1 := by
      omega
    have hwords : (cutWords chunker).drop (chunker.maxTokens - chunker.overlapTokens) =
        instruction.drop 1 := by
      rw [hdrop, cutWords, List.drop_append]
      simp [filler]
    rw [List.take_length, hwords]
    exact hlast

theorem not_instructionsShown (hoverlap : chunker.overlapTokens < 3) :
    ¬ InstructionsShown chunker (cutSource chunker) := by
  intro hshown
  have hsolid : ∀ word ∈ cutWords chunker, word ≠ [] ∧ ∀ char ∈ word, Text.isSpace char = false :=
    fun word hword => ⟨(solid_cutWords word hword).1, fun char hchar =>
      ((solid_cutWords word hword).2 char hchar).1⟩
  have hascii : ∀ word ∈ cutWords chunker, ∀ char ∈ word, char.toNat < 128 :=
    fun word hword char hchar => ((solid_cutWords word hword).2 char hchar).2
  have hpieces : cutWords chunker ≠ [] := by simp [cutWords, instruction]
  have hsome := Text.joinWords_ne_nil hpieces fun word hword => (hsolid word hword).1
  have hends : ∀ char ∈ cutSource chunker, Text.isLineEnd char = false := by
    intro char hchar
    rcases Text.mem_joinWords hchar with rfl | ⟨word, hword, hmem⟩
    · decide
    · rw [Bool.eq_false_iff]
      intro hend
      have hspace := Text.isSpace_of_isLineEnd hend
      rw [(hsolid word hword).2 char hmem] at hspace
      cases hspace
  have hhead : (cutSource chunker).head? ≠ some '#' := by
    obtain ⟨count, hcount⟩ : ∃ count, chunker.maxTokens - chunker.overlapTokens - 1 = count + 1 := by
      have := chunker.maxValid
      have := chunker.overlapValid
      exact ⟨chunker.maxTokens - chunker.overlapTokens - 2, by omega⟩
    rw [cutSource, cutWords, hcount, filler, List.replicate_succ, List.cons_append, Text.joinWords,
      List.intercalate_cons_of_ne_nil (by simp [instruction])]
    intro hhead
    have hletter : 'a' = '#' := Option.some.inj hhead
    revert hletter
    decide
  have hsections : sections (normalizeSource (cutSource chunker)) =
      [{ heading := none, body := cutSource chunker }] := by
    rw [cutSource, normalizeSource_joinWords hpieces hsolid hascii]
    exact sections_of_line hends hsome hhead
  have hwords : Text.words (cutSource chunker) = cutWords chunker := Text.words_joinWords hsolid
  obtain ⟨chunks, hok⟩ := @exists_markdown _ chunker (cutSource chunker) (by
    rw [hsections]
    exact ⟨_, List.mem_singleton_self _, by rw [hwords]; exact hpieces⟩)
  obtain ⟨groups, hchunking, hchunks, _⟩ := markdown_ok hok
  obtain ⟨group, hgroup, hread⟩ : ∃ group ∈ groups,
      group.1 = { heading := none, body := cutSource chunker } := by
    rw [← List.mem_map, hchunking.sections, hsections, List.mem_filter]
    exact ⟨List.mem_singleton_self _, by simp [hwords, hpieces]⟩
  obtain ⟨hmarked, _⟩ := hshown chunks groups hok hchunking hchunks group hgroup
  obtain ⟨windows, hcuts⟩ := hchunking.cuts group hgroup
  rw [hread, hwords] at hmarked
  obtain ⟨chunk, hchunk, hrisk⟩ := hmarked (by
    rw [cutWords, hasInstructionRisk_filler _ (by simp [instruction])]
    exact hasInstructionRisk_instruction.1)
  obtain ⟨window, hwindow, hof⟩ := hcuts.window_of_mem hchunk
  have hslides := hcuts.slides
  have hfull := hcuts.full
  rw [hread, hwords] at hslides hfull hof
  have htext : chunk.text =
      Text.joinWords (((cutWords chunker).take window.2).drop window.1) := by
    rw [hof.text]
    have htrimmed := Text.trimmed_joinWords fun word
      (hword : word ∈ ((cutWords chunker).take window.2).drop window.1) =>
        hsolid word (List.mem_of_mem_take (List.mem_of_mem_drop hword))
    exact Text.strip_of_trimmed htrimmed
  rw [hof.instructionRisk, htext,
    not_risk_of_window hoverlap (windows_cutWords hoverlap hslides hfull window hwindow)] at hrisk
  cases hrisk

end Risk

/-! ## A chunker without overlap -/

open SmallSource

def SmallSource.apart : DeterministicKnowledgeChunker where
  maxTokens := 50
  overlapTokens := 0
  maxValid := by decide
  overlapValid := by decide

end BusinessAssistant.Application
