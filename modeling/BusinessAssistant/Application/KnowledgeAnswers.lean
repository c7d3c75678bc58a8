/-
# Knowledge answers

`answer_for_tenant`: the evidence a search returned is kept where it is relevant enough,
cited, and quoted up to the length of an answer. The embedding of the query and the
search itself are taken from outside, with what they return or raise. Pages show less of
an answer than it has, so the contracts here have a namespace of their own.
-/

import BusinessAssistant.Application.Chunking
import BusinessAssistant.Domain.Identifiers
import Mathlib.Algebra.Order.Field.Rat
import Mathlib.Data.Rat.Cast.Order

namespace BusinessAssistant.Domain

abbrev DocumentId := UUID

/-- `Confidence`, read as a rational number -/
structure Confidence where
  value : ℚ
  valid : 0 ≤ value ∧ value ≤ 1

/-- What `[a-fA-F0-9]{32,128}` matches. -/
def IsChecksum (value : Text) : Prop :=
  32 ≤ value.length ∧ value.length ≤ 128 ∧
    ∀ char ∈ value, char.isDigit = true ∨ ('a' ≤ char ∧ char ≤ 'f') ∨ ('A' ≤ char ∧ char ≤ 'F')

instance : DecidablePred IsChecksum := fun _ => inferInstanceAs (Decidable (_ ∧ _))

/-- `Citation` -/
structure Citation where
  documentId : DocumentId
  documentVersion : Int
  chunkId : Text
  score : Confidence
  contentChecksum : Text
  lineage : 1 ≤ documentVersion ∧ ¬ chunkId.Blank
  checksum : IsChecksum contentChecksum

/-- `Citation(...)` -/
def Citation.make (documentId : DocumentId) (documentVersion : Int) (chunkId : Text)
    (score : Confidence) (contentChecksum : Text) : Except DomainError Citation :=
  if lineage : 1 ≤ documentVersion ∧ ¬ chunkId.Blank then
    if checksum : IsChecksum contentChecksum then
      .ok { documentId, documentVersion, chunkId, score, contentChecksum, lineage, checksum }
    else .error (.validation "Citation checksum must be hexadecimal")
  else .error (.validation "Citation lineage must identify a document version and chunk")

end BusinessAssistant.Domain

namespace BusinessAssistant.Application.Knowledge

open BusinessAssistant.Domain BusinessAssistant.Foundation

/-! ## Contracts -/

/-- `KnowledgeSourceType` -/
inductive KnowledgeSourceType
  | markdown
  | faq
  deriving DecidableEq, Repr

/-- `RetrievedKnowledgeChunk` -/
structure RetrievedKnowledgeChunk where
  documentId : DocumentId
  documentVersion : Int
  chunkId : UUID
  title : Text
  sourceType : KnowledgeSourceType
  text : Text
  heading : Option Text
  checksum : Text
  score : ℚ
  lexicalRank : Option Nat
  vectorRank : Option Nat

/-- `KnowledgeEvidence` -/
structure KnowledgeEvidence where
  chunk : RetrievedKnowledgeChunk
  citation : Citation

/-- `KnowledgeAnswer` -/
structure KnowledgeAnswer where
  answered : Bool
  text : Text
  evidence : List KnowledgeEvidence
  fallbackReason : Option String := none

/-- `KnowledgePolicy` -/
structure KnowledgePolicy where
  embeddingModel : Text
  embeddingDimensions : Nat
  candidateLimit : Nat
  resultLimit : Nat
  minimumRelevance : ℚ
  maximumAnswerCharacters : Nat
  maximumSourceBytes : Nat
  embeddingValid : ¬ embeddingModel.Blank ∧ 1 ≤ embeddingDimensions ∧ embeddingDimensions ≤ 4096
  limitsValid : 1 ≤ resultLimit ∧ resultLimit ≤ candidateLimit ∧ candidateLimit ≤ 100
  relevanceValid : 1 / 2 ≤ minimumRelevance ∧ minimumRelevance ≤ 1
  answerValid : 200 ≤ maximumAnswerCharacters ∧ maximumAnswerCharacters ≤ 4000
  sourceValid : 1024 ≤ maximumSourceBytes ∧ maximumSourceBytes ≤ 1073741824

/-! ## Embeddings -/

/-- `_validate_embeddings`; what a component is matters only for whether it is finite. -/
def validateEmbeddings {F : Type} (isfinite : F → Bool) (vectors : List (List F))
    (expectedCount dimensions : Nat) : Except KnowledgeFailure Unit := do
  if vectors.length ≠ expectedCount ∨ ¬ ∀ vector ∈ vectors, vector.length = dimensions then
    throw (.knowledge "Embedding response shape is invalid")
  if ¬ ∀ vector ∈ vectors, ∀ value ∈ vector, isfinite value = true then
    throw (.knowledge "Embedding response contains invalid values")

/-! ## Quoting -/

/-- `value.rsplit(" ", 1)[0]` -/
def beforeLastSpace (value : Text) : Text :=
  match value.reverse.dropWhile (· ≠ ' ') with
  | [] => value
  | _ :: rest => rest.reverse

/-- `value.rstrip()` -/
def rstrip (value : Text) : Text := (value.reverse.dropWhile Text.isSpace).reverse

/-- `"\n\n".join(parts)` -/
def joinParagraphs (parts : List Text) : Text := ['\n', '\n'].intercalate parts

/-- The part of a text an answer has room for. -/
def cutText (text : Text) (available : Nat) : Text :=
  if text.length ≤ available then text else rstrip (beforeLastSpace (text.take available))

/-- The loop of `_extractive_answer` over what is left of the evidence. -/
def quoteEvidence (maximum : Nat) (parts : List Text) (size : Nat) :
    List KnowledgeEvidence → List Text
  | [] => parts
  | item :: rest =>
      let text := Text.strip item.chunk.text
      let separator := if parts = [] then 0 else 2
      -- Nothing is available where the difference is not positive.
      let available := maximum - size - separator
      if available = 0 then parts
      else
        let value := cutText text available
        let quoted := if value = [] then parts else parts ++ [value]
        let length := if value = [] then size else size + separator + value.length
        if text.length > available then quoted else quoteEvidence maximum quoted length rest

/-- `_extractive_answer` -/
def extractiveAnswer (evidence : List KnowledgeEvidence) (maximum : Nat) : Text :=
  joinParagraphs (quoteEvidence maximum [] 0 evidence)

/-! ## Answering -/

/-- `_fallback` -/
def knowledgeFallback (reason : String) : KnowledgeAnswer where
  answered := false
  text :=
    ("I don't have enough approved information to answer that reliably. " ++
      "Please ask a more specific question or contact the team.").toList
  evidence := []
  fallbackReason := some reason

/-- `Confidence(min(1.0, max(0.0, score)))` -/
def confidenceOf (score : ℚ) : Confidence where
  value := min 1 (max 0 score)
  valid := ⟨le_min zero_le_one (le_max_left 0 score), min_le_left 1 _⟩

/-- `KnowledgeEvidence(item, Citation(...))` -/
def citedEvidence (item : RetrievedKnowledgeChunk) : Except KnowledgeFailure KnowledgeEvidence :=
  match Citation.make item.documentId item.documentVersion (UUID.str item.chunkId)
      (confidenceOf item.score) item.checksum with
  | .ok citation => .ok { chunk := item, citation := citation }
  | .error error => .error (.domain error)

/-- What `except (AIProviderError, KnowledgeError, ValueError)` catches. -/
def isCaught : KnowledgeFailure → Bool
  | .knowledge _ | .valueError _ | .provider => true
  | .domain _ | .integrity _ => false

section Answering

variable [PythonLibrary] {F : Type} (isfinite : F → Bool) (policy : KnowledgePolicy)
  (embed : List Text → Except KnowledgeFailure (List (List F)))
  (hybridSearch : Text → List F → Except KnowledgeFailure (List RetrievedKnowledgeChunk))

/-- The `try` block of `answer_for_tenant`. -/
def retrieve (query : Text) : Except KnowledgeFailure (List RetrievedKnowledgeChunk) := do
  let vectors ← embed [query]
  validateEmbeddings isfinite vectors 1 policy.embeddingDimensions
  hybridSearch query (vectors.headD [])

/-- `answer_for_tenant`, without the observation of its outcome -/
def answerForTenant (query : Text) : Except KnowledgeFailure KnowledgeAnswer := do
  let queryValue := normalizeSource query
  if queryValue = [] ∨ queryValue.length > 2000 then
    throw (.knowledge "Knowledge query must contain 1-2000 characters")
  match retrieve isfinite policy embed hybridSearch queryValue with
  | .error error =>
      if isCaught error = true then pure (knowledgeFallback "retrieval_unavailable")
      else throw error
  | .ok candidates => do
      let eligible := candidates.filter fun item => item.score ≥ policy.minimumRelevance
      if eligible = [] then pure (knowledgeFallback "insufficient_evidence")
      else do
        let evidence ← eligible.mapM citedEvidence
        pure
          { answered := true
            text := extractiveAnswer evidence policy.maximumAnswerCharacters
            evidence := evidence }

end Answering

end BusinessAssistant.Application.Knowledge
