/-
# Fusing two searches

`_fuse`: what a search by words and a search by embeddings found is scored by its ranks
in both, its words and its priority, and the best chunk of each text is returned. Scores
are rational numbers here; lower case is taken from outside.
-/

import BusinessAssistant.Foundation.Leaders
import BusinessAssistant.Persistence.KnowledgeRows
import Mathlib.Data.Finset.Basic
import Mathlib.Data.Prod.Lex
import Mathlib.Tactic.GCongr
import Mathlib.Tactic.NormNum
import Mathlib.Tactic.Positivity

namespace BusinessAssistant.Persistence

open BusinessAssistant.Domain BusinessAssistant.Application BusinessAssistant.Application.Knowledge
open BusinessAssistant.Foundation

/-! ## Words -/

/-- `_LEXICAL_STOP_WORDS` -/
def lexicalStopWords : List Text :=
  ["a", "an", "and", "are", "can", "do", "does", "for", "how", "i", "is", "it", "of", "the", "to",
    "what", "when", "where", "you"].map String.toList

/-- `re.findall(r"[A-Za-z0-9]+", value)`; `run` collects the match being read, in
reverse. -/
def runsFrom : Text → Text → List Text
  | run, [] => if run = [] then [] else [run.reverse]
  | run, char :: rest =>
      if char.isAlphanum = true then runsFrom (char :: run) rest
      else if run = [] then runsFrom [] rest
      else run.reverse :: runsFrom [] rest

/-- `_lexical_terms`; `lower` is `str.lower`. -/
def lexicalTerms (lower : Text → Text) (value : Text) : List Text :=
  (runsFrom [] (lower value)).filter fun term => term ∉ lexicalStopWords

/-! ## Scores -/

/-- A row of a search: a chunk with its document. -/
structure SearchRow (F : Type) where
  chunk : KnowledgeChunkRow F
  document : KnowledgeDocumentRow
  priorityValid : PriorityValid chunk.metadataJson

variable {F : Type}

/-- `sum(1 / (60 + rank) for rank in (lexical_rank, vector_rank) if rank is not None)` -/
def reciprocal (lexicalRank vectorRank : Option Nat) : ℚ :=
  (([lexicalRank, vectorRank].filterMap id).map fun rank => 1 / (60 + (rank : ℚ))).sum

section Scores

variable (lower : Text → Text)

/-- The share of the words of a query that a chunk has. -/
def coverage (query chunkText : Text) : ℚ :=
  let queryTerms := (lexicalTerms lower query).toFinset
  let chunkTerms := (lexicalTerms lower chunkText).toFinset
  if queryTerms = ∅ then 0 else ((queryTerms ∩ chunkTerms).card : ℚ) / queryTerms.card

/-- The score of a chunk before its priority counts. -/
def rankScore (query chunkText : Text) (lexicalRank vectorRank : Option Nat) : ℚ :=
  let score := min 1 (reciprocal lexicalRank vectorRank * (61 / 2))
  if lexicalRank.isSome = true then min 1 (score + 1 / 5 * coverage lower query chunkText)
  else score

/-- `min(1.0, score + min(priority, 100) * 0.0005)` where the priority is a number -/
def withPriority (metadataJson : List (String × JsonValue)) (score : ℚ) : ℚ :=
  match (metadataJson.lookup "priority").getD (.int 0) with
  | .int priority => min 1 (score + (min priority 100 : Int) * (1 / 2000))
  | _ => score

/-- The score of a chunk by its ranks in both searches. -/
def fusedScore (query : Text) (row : SearchRow F) (lexicalRank vectorRank : Option Nat) : ℚ :=
  let score := rankScore lower query row.chunk.chunkText lexicalRank vectorRank
  match row.document.sourceType with
  | .faq => withPriority row.chunk.metadataJson score
  | .markdown => score

end Scores

/-! ## Results -/

/-- `{chunk.id: rank for rank, (chunk, ...) in enumerate(rows, start=1)}` -/
def rankDict (rows : List (SearchRow F)) : List (UUID × Nat) :=
  Entries.fill (fun ranked : SearchRow F × Nat => ranked.1.chunk.id) Prod.snd [] (rows.zipIdx 1)

/-- `{chunk.id: (chunk, document) ...}` of both searches -/
def rowDict (lexical vector : List (SearchRow F)) : List (UUID × SearchRow F) :=
  Entries.fill (fun row : SearchRow F => row.chunk.id) id
    (Entries.fill (fun row : SearchRow F => row.chunk.id) id [] lexical) vector

/-- `section if isinstance(section, str) else None` -/
def sectionOf (metadataJson : List (String × JsonValue)) : Option Text :=
  match metadataJson.lookup "section" with
  | some (.text heading) => some heading
  | _ => none

section Fusion

variable (lower : Text → Text) (lexical vector : List (SearchRow F)) (query : Text)

/-- One turn of the loop over the rows. -/
def scoredChunk (entry : UUID × SearchRow F) : Knowledge.RetrievedKnowledgeChunk :=
  let lexicalRank := (rankDict lexical).lookup entry.1
  let vectorRank := (rankDict vector).lookup entry.1
  { documentId := entry.2.document.id
    documentVersion := entry.2.document.version
    chunkId := entry.2.chunk.id
    title := entry.2.document.title
    sourceType := entry.2.document.sourceType
    text := entry.2.chunk.chunkText
    heading := sectionOf entry.2.chunk.metadataJson
    checksum := entry.2.chunk.checksum
    score := fusedScore lower query entry.2 lexicalRank vectorRank
    lexicalRank := lexicalRank
    vectorRank := vectorRank }

/-- `results` before they are sorted -/
def candidates : List Knowledge.RetrievedKnowledgeChunk :=
  (rowDict lexical vector).map (scoredChunk lower lexical vector query)

/-- `(-item.score, str(item.chunk_id))` -/
def sortKey (item : Knowledge.RetrievedKnowledgeChunk) : Lex (ℚ × List Char) :=
  toLex (-item.score, UUID.str item.chunkId)

/-- `_fuse` -/
def fuse (resultLimit : Nat) : List Knowledge.RetrievedKnowledgeChunk :=
  firstOfKinds (fun item => item.checksum) resultLimit []
    ((candidates lower lexical vector query).insertionSort fun first second =>
      sortKey first ≤ sortKey second)

end Fusion

end BusinessAssistant.Persistence
