/-
# Knowledge chunks

How a source is normalized, searched for instructions and cut into chunks: a Markdown
source by its headings, and each section into overlapping windows of words; a question
and its answer into one chunk.
-/

import BusinessAssistant.Domain.Errors
import BusinessAssistant.Domain.Lines
import BusinessAssistant.Foundation.Pattern

namespace BusinessAssistant.Application

open BusinessAssistant.Domain BusinessAssistant.Foundation

/-- What the code on knowledge raises. -/
inductive KnowledgeFailure
  | knowledge (message : String)
  | valueError (message : String)
  | domain (error : DomainError)
  /-- `AIProviderError` -/
  | provider
  /-- A violated constraint of the database, named as the table declares it. -/
  | integrity (constraint : String)
  deriving DecidableEq, Repr

/-! ## Normalization -/

section Normalization

variable [PythonLibrary]

/-- One turn of the loop: a line is kept if it is not empty or follows one that is not. -/
def keepLine (result : List Text) (line : Text) : List Text :=
  if line ≠ [] ∨ result ≠ [] ∧ result.getLast? ≠ some [] then result ++ [line] else result

/-- `normalize_source` -/
def normalizeSource (value : Text) : Text :=
  let normalized := Text.unixLines (Text.nfkc value)
  let lines := (Text.splitlines normalized).map fun line => Text.strip (Text.collapseBlanks line)
  Text.strip (Text.joinLines (lines.foldl keepLine []))

/-- `content_checksum` -/
def contentChecksum (value : Text) : Text := PythonLibrary.hexdigest value

end Normalization

/-! ## Instructions -/

/-- A pattern over characters. -/
abbrev TextPattern := Pattern Text.isSpace

/-- The characters a lower case letter matches where case is ignored: besides its two
cases a dotted and a dotless `i`, a long `s` and the sign of the kelvin. -/
def sameLetter (letter char : Char) : Bool :=
  char = letter || char = letter.toUpper ||
    (letter = 'i' && (char.toNat = 0x130 || char.toNat = 0x131)) ||
    (letter = 's' && char.toNat = 0x17F) || (letter = 'k' && char.toNat = 0x212A)

/-- A letter of a pattern, in any case; no space is one. -/
def letter (char : Char) : TextPattern :=
  .letter (fun other => sameLetter char other && !Text.isSpace other) fun _ hother => by
    simpa using (Bool.and_eq_true_iff.mp hother).2

/-- The letters of a word, one after the other. -/
def letters (word : String) : TextPattern :=
  word.toList.foldr (fun char rest => .seq (letter char) rest) .empty

/-- Patterns one after the other. -/
def inOrder (patterns : List TextPattern) : TextPattern := patterns.foldr .seq .empty

/-- `(pattern)?` -/
def optional (pattern : TextPattern) : TextPattern := .choice pattern .empty

/-- `_INSTRUCTION_PATTERNS` -/
def instructionPatterns : List TextPattern :=
  [inOrder [.boundary, letters "ignore", .spaces, optional (inOrder [letters "all", .spaces]),
      letters "previous", .spaces, letters "instruction", optional (letters "s"), .boundary],
    inOrder [.boundary, .choice (letters "system") (letters "developer"), .spaces,
      .choice (letters "prompt") (letters "message"), .boundary],
    inOrder [.boundary, .choice (letters "call") (.choice (letters "invoke") (letters "use")),
      .spaces, optional (inOrder [letters "a", .spaces]), letters "tool", .boundary],
    inOrder [.boundary, letters "reveal", .spaces, optional (inOrder [letters "the", .spaces]),
      .choice (letters "prompt") (.choice (letters "secret")
        (inOrder [letters "api", .single (· = ' '), letters "key"])), .boundary]]

/-- `has_instruction_risk` -/
def hasInstructionRisk [PythonLibrary] (value : Text) : Bool :=
  instructionPatterns.any fun pattern => pattern.found Text.isWord value

/-- No match has more than three spaces where they are single. -/
theorem gaps_instructionPatterns : ∀ pattern ∈ instructionPatterns, pattern.gaps ≤ 3 := by
  decide

/-! ## Chunks -/

/-- The metadata of a question and its answer. -/
structure FaqMetadata where
  aliases : List Text
  priority : Int
  question : Text
  uniqueAliases : aliases.length ≤ 20 ∧ aliases.Nodup
  priorityValid : 0 ≤ priority ∧ priority ≤ 100
  deriving DecidableEq

/-- `KnowledgeChunkDraft` -/
structure KnowledgeChunkDraft where
  ordinal : Nat
  text : Text
  tokenCount : Nat
  checksum : Text
  heading : Option Text
  instructionRisk : Bool
  /-- `none` for the empty dictionary. -/
  metadata : Option FaqMetadata
  valid : ¬ text.Blank ∧ 1 ≤ tokenCount
  deriving DecidableEq

/-- `KnowledgeChunkDraft(...)` -/
def KnowledgeChunkDraft.make (ordinal : Nat) (text : Text) (tokenCount : Nat) (checksum : Text)
    (heading : Option Text) (instructionRisk : Bool) (metadata : Option FaqMetadata) :
    Except KnowledgeFailure KnowledgeChunkDraft :=
  if valid : ¬ text.Blank ∧ 1 ≤ tokenCount then
    .ok { ordinal, text, tokenCount, checksum, heading, instructionRisk, metadata, valid }
  else .error (.valueError "Knowledge chunk is invalid")

/-- `DeterministicKnowledgeChunker` -/
structure DeterministicKnowledgeChunker where
  maxTokens : Nat
  overlapTokens : Nat
  maxValid : 50 ≤ maxTokens ∧ maxTokens ≤ 1000
  overlapValid : overlapTokens < maxTokens / 2
  deriving DecidableEq

/-- A section of a source: its heading, and the lines below it. -/
structure Section where
  heading : Option Text
  body : Text
  deriving DecidableEq

/-- `_HEADING.match(line)`: the title of a heading. No line of a normalized source ends
in a space, so a title is what follows the first run of spaces, up to its last character
that is no space. -/
def headingTitle? (line : Text) : Option Text :=
  let hashes := line.takeWhile (· = '#')
  let rest := line.dropWhile (· = '#')
  let title := Text.strip rest
  if 1 ≤ hashes.length ∧ hashes.length ≤ 6 ∧ rest.head?.any Text.isSpace = true ∧ title ≠ [] then
    some title
  else none

/-- What `_sections` has read: the sections that are complete, and the one being read. -/
structure Sections where
  complete : List (Option Text × List Text) := []
  heading : Option Text := none
  body : List Text := []

/-- `if body: sections.append((heading, body))` -/
def Sections.closed (read : Sections) : List (Option Text × List Text) :=
  if read.body = [] then read.complete else read.complete ++ [(read.heading, read.body)]

/-- One line of the loop. -/
def Sections.next (read : Sections) (line : Text) : Sections :=
  match headingTitle? line with
  | some title => { complete := read.closed, heading := some title, body := [] }
  | none => if line ≠ [] then { read with body := read.body ++ [line] } else read

/-- `_sections` -/
def sections (source : Text) : List Section :=
  ((Text.splitlines source).foldl Sections.next {}).closed.map fun read =>
    { heading := read.1, body := Text.joinLines read.2 }

namespace DeterministicKnowledgeChunker

theorem overlap_lt_max (chunker : DeterministicKnowledgeChunker) :
    chunker.overlapTokens < chunker.maxTokens := by
  have := chunker.overlapValid
  omega

/-- The text of a chunk: a window of the words of a section under its heading. -/
def chunkText (heading : Option Text) (window : List Text) : Text :=
  let before :=
    match heading with
    | some title => title ++ ['\n']
    | none => []
  Text.strip (before ++ Text.joinWords window)

variable [PythonLibrary] (chunker : DeterministicKnowledgeChunker)

/-- The loop over the windows of a section, from the one that begins at `start`. -/
def windowChunks (heading : Option Text) (tokens : List Text) (start : Nat)
    (chunks : List KnowledgeChunkDraft) : Except KnowledgeFailure (List KnowledgeChunkDraft) :=
  if start < tokens.length then do
    let window := (tokens.drop start).take chunker.maxTokens
    let text := chunkText heading window
    let chunk ← KnowledgeChunkDraft.make chunks.length text window.length (contentChecksum text)
      heading (hasInstructionRisk text) none
    if start + chunker.maxTokens ≥ tokens.length then pure (chunks ++ [chunk])
    else
      windowChunks heading tokens (start + (chunker.maxTokens - chunker.overlapTokens))
        (chunks ++ [chunk])
  else pure chunks
termination_by tokens.length - start
decreasing_by
  have := chunker.overlap_lt_max
  omega

/-- One section of the loop. -/
def sectionChunks (chunks : List KnowledgeChunkDraft) (read : Section) :
    Except KnowledgeFailure (List KnowledgeChunkDraft) :=
  if Text.words read.body = [] then pure chunks
  else chunker.windowChunks read.heading (Text.words read.body) 0 chunks

/-- `markdown` -/
def markdown (source : Text) : Except KnowledgeFailure (List KnowledgeChunkDraft) := do
  let normalized := normalizeSource source
  if normalized = [] then throw (.valueError "Markdown knowledge source is empty")
  let chunks ← (sections normalized).foldlM chunker.sectionChunks []
  if chunks = [] then throw (.valueError "Markdown knowledge source has no usable content")
  pure chunks

/-- `faq` -/
def faq (question answer : Text) (aliases : List Text) (priority : Int) :
    Except KnowledgeFailure (List KnowledgeChunkDraft) := do
  let questionValue := normalizeSource question
  let answerValue := normalizeSource answer
  let aliasValues := aliases.map normalizeSource
  if questionValue = [] ∨ answerValue = [] ∨ ¬ ∀ other ∈ aliasValues, other ≠ [] then
    throw (.valueError "FAQ question, answer, and aliases must be non-empty")
  if hunique : aliasValues.length ≤ 20 ∧ aliasValues.Nodup then
    if hpriority : 0 ≤ priority ∧ priority ≤ 100 then
      let text := "Question: ".toList ++ questionValue ++ "\nAnswer: ".toList ++ answerValue
      if (Text.words text).length > chunker.maxTokens then
        throw (.valueError "FAQ must fit in one knowledge chunk")
      let chunk ← KnowledgeChunkDraft.make 0 text (Text.words text).length (contentChecksum text)
        (some "FAQ".toList) (hasInstructionRisk text)
        (some
          { aliases := aliasValues
            priority := priority
            question := questionValue
            uniqueAliases := hunique
            priorityValid := hpriority })
      pure [chunk]
    else throw (.valueError "FAQ priority must be between 0 and 100")
  else throw (.valueError "FAQ aliases must be unique and contain at most 20 values")

end DeterministicKnowledgeChunker

end BusinessAssistant.Application
