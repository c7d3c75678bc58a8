/-
# Chunks cover their source

`markdown` cuts every section of a source into windows of its words that follow each
other with the overlap of the chunker and leave no word out, and the sections hold the
lines of the source that are neither headings nor empty.
-/

import BusinessAssistant.Application.Chunking
import BusinessAssistant.Foundation.Windows
import Mathlib.Data.List.Forall2
import Mathlib.Data.List.TakeDrop

namespace BusinessAssistant.Application

open BusinessAssistant.Domain BusinessAssistant.Foundation

/-! ## Lines and sections -/

/-- A line that a section keeps. -/
def Kept (line : Text) : Prop := headingTitle? line = none ∧ line ≠ []

instance : DecidablePred Kept := fun _ => inferInstanceAs (Decidable (_ ∧ _))

/-- The lines of the sections that are read. -/
def Sections.lines (read : Sections) : List Text := read.closed.flatMap (·.2)

theorem Sections.lines_eq (read : Sections) :
    read.lines = read.complete.flatMap (·.2) ++ read.body := by
  rw [Sections.lines, Sections.closed]
  split
  · rename_i hempty
    rw [hempty, List.append_nil]
  · simp

theorem Sections.lines_next (read : Sections) (line : Text) :
    (read.next line).lines = read.lines ++ [line].filter Kept := by
  rw [Sections.next]
  cases htitle : headingTitle? line with
  | some title =>
      have hdropped : ¬ Kept line := by
        rintro ⟨hnone, _⟩
        rw [htitle] at hnone
        cases hnone
      rw [Sections.lines_eq]
      simp [hdropped, Sections.lines]
  | none =>
      simp only
      split
      · rename_i hsome
        have hkept : Kept line := ⟨htitle, hsome⟩
        rw [Sections.lines_eq, Sections.lines_eq]
        simp [hkept]
      · rename_i hempty
        have hdropped : ¬ Kept line := fun hkept => hempty hkept.2
        simp [hdropped]

theorem Sections.lines_foldl (lines : List Text) (read : Sections) :
    (lines.foldl Sections.next read).lines = read.lines ++ lines.filter Kept := by
  induction lines generalizing read with
  | nil => simp
  | cons line rest ih =>
      have hsplit : (line :: rest).filter Kept = [line].filter Kept ++ rest.filter Kept := by
        rw [← List.filter_append, List.singleton_append]
      rw [List.foldl_cons, ih, Sections.lines_next, hsplit, List.append_assoc]

/-- The bodies of the sections are made of lines. -/
def BodiesOf (source : Text) (kept : List Text) : Prop :=
  ∃ lines : List (List Text), (sections source).map (·.body) = lines.map Text.joinLines ∧
    lines.flatten = kept

/-- The sections hold the lines that are neither headings nor empty, in order. -/
theorem bodiesOf_kept (source : Text) :
    BodiesOf source ((Text.splitlines source).filter Kept) := by
  refine ⟨((Text.splitlines source).foldl Sections.next {}).closed.map (·.2), ?_, ?_⟩
  · simp [sections]
  · have hlines := Sections.lines_foldl (Text.splitlines source) {}
    rw [Sections.lines, List.flatMap_def] at hlines
    exact hlines

/-! ## One section -/

section Windows

variable [PythonLibrary] {chunker : DeterministicKnowledgeChunker}

open DeterministicKnowledgeChunker

/-- A chunk of some of the words of a section. -/
structure ChunkOf (title : Option Text) (tokens : List Text) (window : Nat × Nat)
    (chunk : KnowledgeChunkDraft) : Prop where
  heading : chunk.heading = title
  text : chunk.text = chunkText title ((tokens.take window.2).drop window.1)
  tokenCount : chunk.tokenCount = window.2 - window.1
  instructionRisk : chunk.instructionRisk = hasInstructionRisk chunk.text

/-- Chunks of windows that slide over the words of a section. -/
structure Cuts (chunker : DeterministicKnowledgeChunker) (read : Section)
    (chunks : List KnowledgeChunkDraft) (windows : List (Nat × Nat)) : Prop where
  slides : Slides chunker.overlapTokens (Text.words read.body).length 0 windows
  covers : ∀ token < (Text.words read.body).length,
    ∃ window ∈ windows, window.1 ≤ token ∧ token < window.2
  full : ∀ window ∈ windows,
    window.2 = min (window.1 + chunker.maxTokens) (Text.words read.body).length
  chunks : List.Forall₂ (ChunkOf read.heading (Text.words read.body)) windows chunks

omit [PythonLibrary] in
theorem not_blank_chunkText (heading : Option Text) {window : List Text} (hwindow : window ≠ [])
    (hsolid : ∀ word ∈ window, word ≠ [] ∧ ∀ char ∈ word, Text.isSpace char = false) :
    ¬ (chunkText heading window).Blank := by
  intro hblank
  unfold chunkText at hblank
  rw [Text.Blank, Text.strip_of_trimmed (Text.trimmed_strip _)] at hblank
  have hspaces := (Text.blank_iff _).mp hblank
  cases window with
  | nil => exact hwindow rfl
  | cons word rest =>
      obtain ⟨hword, hchars⟩ := hsolid word List.mem_cons_self
      obtain ⟨char, hchar⟩ := List.exists_mem_of_ne_nil word hword
      have hspace := hspaces char (List.mem_append_right _ ?_)
      · rw [hchars char hchar] at hspace
        cases hspace
      · cases rest with
        | nil => simpa [Text.joinWords] using hchar
        | cons => simp [Text.joinWords, hchar]

/-- The loop from one of the words on. -/
theorem windowChunks_ok (heading : Option Text) {tokens : List Text}
    (hsolid : ∀ word ∈ tokens, word ≠ [] ∧ ∀ char ∈ word, Text.isSpace char = false)
    {start : Nat} (hstart : start < tokens.length) (chunks : List KnowledgeChunkDraft) :
    ∃ windows more, chunker.windowChunks heading tokens start chunks = .ok (chunks ++ more) ∧
      Slides chunker.overlapTokens tokens.length start windows ∧
      (∀ window ∈ windows, window.2 = min (window.1 + chunker.maxTokens) tokens.length) ∧
      List.Forall₂ (ChunkOf heading tokens) windows more ∧
      more.map (·.ordinal) = List.range' chunks.length more.length := by
  induction hrest : tokens.length - start using Nat.strong_induction_on generalizing start chunks with
  | h count ih =>
      have hoverlap := chunker.overlap_lt_max
      let stop := min (start + chunker.maxTokens) tokens.length
      have hwindow : (tokens.drop start).take chunker.maxTokens =
          (tokens.take stop).drop start := by
        rw [List.take_drop, List.take_eq_take_min]
      have hlength : ((tokens.take stop).drop start).length = stop - start := by
        rw [List.length_drop, List.length_take, Nat.min_eq_left (Nat.min_le_right _ _)]
      have hsome : 1 ≤ stop - start := by omega
      have hpresent : (tokens.take stop).drop start ≠ [] := by
        rw [← List.length_pos_iff_ne_nil, hlength]
        exact hsome
      have hblank := not_blank_chunkText heading hpresent fun word hword =>
        hsolid word (List.mem_of_mem_take (List.mem_of_mem_drop hword))
      obtain ⟨chunk, hchunk, hordinal, hof⟩ : ∃ chunk, KnowledgeChunkDraft.make chunks.length
          (chunkText heading ((tokens.take stop).drop start)) (stop - start)
          (contentChecksum (chunkText heading ((tokens.take stop).drop start))) heading
          (hasInstructionRisk (chunkText heading ((tokens.take stop).drop start))) none =
            .ok chunk ∧ chunk.ordinal = chunks.length ∧
          ChunkOf heading tokens (start, stop) chunk := by
        rw [KnowledgeChunkDraft.make, dif_pos ⟨hblank, hsome⟩]
        exact ⟨_, rfl, rfl, rfl, rfl, rfl, rfl⟩
      rw [windowChunks, if_pos hstart]
      simp only [hwindow, hlength, hchunk]
      by_cases hlast : start + chunker.maxTokens ≥ tokens.length
      · have hstop : stop = tokens.length := Nat.min_eq_right hlast
        refine ⟨[(start, stop)], [chunk], ?_, ?_, by simp [stop], .cons hof .nil, ?_⟩
        · exact if_pos hlast
        · rw [hstop]
          exact .last hstart
        · rw [List.map_singleton, hordinal]
          rfl
      · have hstop : stop = start + chunker.maxTokens := Nat.min_eq_left (by omega)
        have hnext : stop - chunker.overlapTokens =
            start + (chunker.maxTokens - chunker.overlapTokens) := by omega
        obtain ⟨windows, more, hmore, hslides, hfull, hchunks, hordinals⟩ :=
          ih (tokens.length - (start + (chunker.maxTokens - chunker.overlapTokens))) (by omega)
            (by omega) (chunks ++ [chunk]) rfl
        refine ⟨(start, stop) :: windows, chunk :: more, ?_, ?_, ?_, .cons hof hchunks, ?_⟩
        · rw [List.append_assoc, List.singleton_append] at hmore
          rw [← hmore]
          exact if_neg hlast
        · rw [← hnext] at hslides
          exact .next (by omega) (by omega) hslides
        · intro window hmem
          rcases List.mem_cons.mp hmem with rfl | hlater
          · rfl
          · exact hfull window hlater
        · rw [List.map_cons, hordinal, hordinals, List.length_append, List.length_cons]
          rfl

/-! ## The whole source -/

/-- The chunks of the sections of a source that have a body. -/
structure Chunking (chunker : DeterministicKnowledgeChunker) (source : Text)
    (groups : List (Section × List KnowledgeChunkDraft)) : Prop where
  sections : groups.map (·.1) =
    (sections (normalizeSource source)).filter fun read => Text.words read.body ≠ []
  cuts : ∀ group ∈ groups, ∃ windows, Cuts chunker group.1 group.2 windows

/-- The loop over the sections. -/
theorem foldlM_sectionChunks (reads : List Section) (chunks : List KnowledgeChunkDraft) :
    ∃ groups : List (Section × List KnowledgeChunkDraft),
      reads.foldlM chunker.sectionChunks chunks = .ok (chunks ++ groups.flatMap (·.2)) ∧
      groups.map (·.1) = reads.filter (fun read => Text.words read.body ≠ []) ∧
      (∀ group ∈ groups, ∃ windows, Cuts chunker group.1 group.2 windows) ∧
      (groups.flatMap (·.2)).map (·.ordinal) =
        List.range' chunks.length (groups.flatMap (·.2)).length := by
  induction reads generalizing chunks with
  | nil => exact ⟨[], by simp [pure, Except.pure], rfl, by simp, rfl⟩
  | cons read rest ih =>
      rw [List.foldlM_cons]
      by_cases hempty : Text.words read.body = []
      · obtain ⟨groups, hrest, hsections, hcuts, hordinals⟩ := ih chunks
        refine ⟨groups, ?_, ?_, hcuts, hordinals⟩
        · rw [sectionChunks, if_pos hempty]
          exact hrest
        · rw [hsections]
          simp [hempty]
      · have hstart : 0 < (Text.words read.body).length := List.length_pos_iff_ne_nil.mpr hempty
        obtain ⟨windows, more, hmore, hslides, hfull, hchunks, hfirst⟩ :=
          windowChunks_ok read.heading (fun _ hword => Text.words_solid hword) hstart chunks
        obtain ⟨groups, hrest, hsections, hcuts, hordinals⟩ := ih (chunks ++ more)
        refine ⟨(read, more) :: groups, ?_, ?_, ?_, ?_⟩
        · rw [sectionChunks, if_neg hempty, hmore, List.flatMap_cons, ← List.append_assoc]
          exact hrest
        · simp [hsections, hempty]
        · intro group hgroup
          rcases List.mem_cons.mp hgroup with rfl | hlater
          · exact ⟨windows, hslides, fun _ => hslides.covers (Nat.zero_le _), hfull, hchunks⟩
          · exact hcuts group hlater
        · rw [List.flatMap_cons, List.map_append, hfirst, hordinals, List.length_append,
            List.length_append, List.range'_append_1]

/-- What `markdown` returns, where it does not raise. -/
theorem markdown_ok {source : Text} {chunks : List KnowledgeChunkDraft}
    (hok : chunker.markdown source = .ok chunks) :
    ∃ groups, Chunking chunker source groups ∧ chunks = groups.flatMap (·.2) ∧
      chunks.map (·.ordinal) = List.range' 0 chunks.length := by
  obtain ⟨groups, hrun, hsections, hcuts, hordinals⟩ :=
    @foldlM_sectionChunks _ chunker (sections (normalizeSource source)) []
  refine ⟨groups, ⟨hsections, hcuts⟩, ?_⟩
  unfold markdown at hok
  simp only at hok
  split at hok
  · cases hok
  · rw [hrun, List.nil_append] at hok
    change (if groups.flatMap (·.2) = [] then _ else _) = _ at hok
    split at hok
    · cases hok
    · cases hok
      exact ⟨rfl, hordinals⟩

/-- A chunk of a section is one of its windows. -/
theorem Cuts.window_of_mem {read : Section} {chunks : List KnowledgeChunkDraft}
    {windows : List (Nat × Nat)} (hcuts : Cuts chunker read chunks windows)
    {chunk : KnowledgeChunkDraft} (hchunk : chunk ∈ chunks) :
    ∃ window ∈ windows, ChunkOf read.heading (Text.words read.body) window chunk := by
  have hall := hcuts.chunks
  clear hcuts
  induction hall with
  | nil => cases hchunk
  | cons hof _ ih =>
      rcases List.mem_cons.mp hchunk with rfl | hlater
      · exact ⟨_, List.mem_cons_self, hof⟩
      · obtain ⟨window, hwindow, hof⟩ := ih hlater
        exact ⟨window, List.mem_cons_of_mem _ hwindow, hof⟩

theorem Cuts.tokenCount_of_mem {read : Section} {chunks : List KnowledgeChunkDraft}
    {windows : List (Nat × Nat)} (hcuts : Cuts chunker read chunks windows)
    {chunk : KnowledgeChunkDraft} (hchunk : chunk ∈ chunks) :
    1 ≤ chunk.tokenCount ∧ chunk.tokenCount ≤ chunker.maxTokens := by
  obtain ⟨window, hwindow, hof⟩ := hcuts.window_of_mem hchunk
  obtain ⟨_, hlength, _⟩ := hcuts.slides.mem_bounds window hwindow
  have hfull := hcuts.full window hwindow
  rw [hof.tokenCount]
  omega

/-- The chunks of a source are numbered in order, each is one window of at most as many
words as the chunker allows, the windows of a section follow each other with the overlap
of the chunker and hold all of its words, and the sections hold all lines that are
neither headings nor empty. -/
theorem chunks_cover {source : Text} {chunks : List KnowledgeChunkDraft}
    (hok : chunker.markdown source = .ok chunks) :
    chunks.map (·.ordinal) = List.range chunks.length ∧
      (∀ chunk ∈ chunks, 1 ≤ chunk.tokenCount ∧ chunk.tokenCount ≤ chunker.maxTokens) ∧
      (∃ groups, Chunking chunker source groups ∧ chunks = groups.flatMap (·.2)) ∧
      BodiesOf (normalizeSource source)
        ((Text.splitlines (normalizeSource source)).filter Kept) := by
  obtain ⟨groups, hchunking, rfl, hordinals⟩ := markdown_ok hok
  refine ⟨by rw [hordinals, List.range_eq_range'], ?_, ⟨groups, hchunking, rfl⟩,
    bodiesOf_kept (normalizeSource source)⟩
  intro chunk hchunk
  obtain ⟨group, hgroup, hchunk⟩ := List.mem_flatMap.mp hchunk
  obtain ⟨windows, hcuts⟩ := hchunking.cuts group hgroup
  exact hcuts.tokenCount_of_mem hchunk

/-- `markdown` succeeds on a source some section of which has a body. -/
theorem exists_markdown {source : Text}
    (hbody : ∃ read ∈ sections (normalizeSource source), Text.words read.body ≠ []) :
    ∃ chunks, chunker.markdown source = .ok chunks := by
  obtain ⟨groups, hrun, hsections, hcuts, -⟩ :=
    @foldlM_sectionChunks _ chunker (sections (normalizeSource source)) []
  obtain ⟨read, hread, hwords⟩ := hbody
  have hsource : normalizeSource source ≠ [] := by
    intro hempty
    rw [hempty] at hread
    cases hread
  obtain ⟨group, hgroup, rfl⟩ : ∃ group ∈ groups, group.1 = read := by
    rw [← List.mem_map, hsections, List.mem_filter]
    exact ⟨hread, by simpa using hwords⟩
  obtain ⟨windows, hcut⟩ := hcuts group hgroup
  have hchunks : groups.flatMap (·.2) ≠ [] := by
    intro hnone
    have hempty : group.2 = [] := List.flatMap_eq_nil_iff.mp hnone group hgroup
    have hnowindow := hcut.chunks
    rw [hempty, List.forall₂_nil_right_iff] at hnowindow
    have hslides := hcut.slides
    rw [hnowindow] at hslides
    cases hslides
  refine ⟨groups.flatMap (·.2), ?_⟩
  unfold markdown
  simp only
  rw [if_neg hsource, hrun, List.nil_append]
  exact if_neg hchunks

end Windows

/-! ## A short source -/

namespace SmallSource

/-- ASCII text, every checksum empty. -/
scoped instance asciiLibrary : PythonLibrary where
  nfkc := id
  isalnum _ := false
  hexdigest _ := []

/-- The chunker of the deployment. -/
def chunker : DeterministicKnowledgeChunker where
  maxTokens := 500
  overlapTokens := 50
  maxValid := by decide
  overlapValid := by decide

/-- Two lines with an empty one between them. -/
def source : Text := "one\n\ntwo".toList

theorem smallWindow_valid : 50 ≤ 50 ∧ 50 ≤ 1000 := by decide

/-- A chunker of the smallest windows. -/
def smallWindows : DeterministicKnowledgeChunker where
  maxTokens := 50
  overlapTokens := 10
  maxValid := smallWindow_valid
  overlapValid := by decide

def sixtyWords : List Text := List.replicate 60 ['a']

/-- Sixty words under a heading. -/
def prices : Text := "# Prices\n".toList ++ Text.joinWords sixtyWords

theorem sections_prices :
    ((sections (normalizeSource prices)).filter fun read => Text.words read.body ≠ []) =
      [{ heading := some "Prices".toList, body := Text.joinWords sixtyWords }] := by
  decide +kernel

theorem words_sixtyWords : Text.words (Text.joinWords sixtyWords) = sixtyWords := by
  decide +kernel

/-- Sixty words are two windows. -/
theorem windows_sixty {windows : List (Nat × Nat)} (hslides : Slides 10 60 0 windows)
    (hfull : ∀ window ∈ windows, window.2 = min (window.1 + 50) 60) :
    windows = [(0, 50), (40, 60)] := by
  cases hslides with
  | last _ =>
      have hwindow := hfull (0, 60) List.mem_cons_self
      omega
  | next _ _ hrest =>
      have hfirst := hfull (0, _) List.mem_cons_self
      rw [Nat.zero_add, Nat.min_eq_left (by decide)] at hfirst
      subst hfirst
      cases hrest with
      | last _ => rfl
      | next _ hstop _ =>
          have hwindow := hfull (40, _) (List.mem_cons_of_mem _ List.mem_cons_self)
          omega

end SmallSource

open SmallSource in
/-- The second window begins ten words before the end of the first. -/
theorem chunks_cover_prices :
    ∃ first second, smallWindows.markdown prices = .ok [first, second] ∧
      first.ordinal = 0 ∧ second.ordinal = 1 ∧
      ChunkOf (some "Prices".toList) sixtyWords (0, 50) first ∧
      ChunkOf (some "Prices".toList) sixtyWords (40, 60) second := by
  have hbody : ∃ read ∈ sections (normalizeSource prices), Text.words read.body ≠ [] := by
    decide +kernel
  obtain ⟨chunks, hok⟩ := @exists_markdown _ smallWindows prices hbody
  obtain ⟨hordinals, -, ⟨groups, hchunking, rfl⟩, -⟩ := chunks_cover hok
  have hsections := hchunking.sections
  rw [sections_prices, List.map_eq_singleton_iff] at hsections
  obtain ⟨⟨read, chunks⟩, rfl, rfl⟩ := hsections
  obtain ⟨windows, hcuts⟩ := hchunking.cuts _ List.mem_cons_self
  have hslides := hcuts.slides
  have hfull := hcuts.full
  have hchunks := hcuts.chunks
  rw [words_sixtyWords] at hslides hfull hchunks
  obtain rfl := windows_sixty hslides hfull
  cases hchunks with
  | cons hfirst hrest =>
      cases hrest with
      | cons hsecond hnone =>
          cases hnone
          have hnumbers := List.cons.inj hordinals
          exact ⟨_, _, hok, hnumbers.1, (List.cons.inj hnumbers.2).1, hfirst, hsecond⟩

open SmallSource in
/-- An empty line is no heading, and in no section. -/
theorem empty_line_lost : ∃ chunks, SmallSource.chunker.markdown source = .ok chunks ∧
    ¬ BodiesOf (normalizeSource source)
      ((Text.splitlines (normalizeSource source)).filter fun line => headingTitle? line = none) := by
  have hbody : ∃ read ∈ sections (normalizeSource source), Text.words read.body ≠ [] := by
    decide +kernel
  obtain ⟨chunks, hok⟩ := @exists_markdown _ SmallSource.chunker source hbody
  refine ⟨chunks, hok, ?_⟩
  rintro ⟨lines, hbodies, hlines⟩
  have hnormal : (sections (normalizeSource source)).map (·.body) = ["one\ntwo".toList] := by
    decide +kernel
  have hkept : (Text.splitlines (normalizeSource source)).filter
      (fun line => headingTitle? line = none) = ["one".toList, [], "two".toList] := by
    decide +kernel
  rw [hnormal] at hbodies
  rw [hkept] at hlines
  match lines with
  | [] =>
      have hlength := congrArg List.length hbodies
      simp at hlength
  | [only] =>
      simp only [List.flatten_cons, List.flatten_nil, List.append_nil] at hlines
      subst hlines
      revert hbodies
      decide
  | first :: second :: rest =>
      have hlength := congrArg List.length hbodies
      simp at hlength

end BusinessAssistant.Application
