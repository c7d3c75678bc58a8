/-
# Ingesting knowledge

`ingest_markdown`, `ingest_faq`, `publish` and `archive` of a tenant whose caller may
write knowledge, as the steps of a system over the tables. The embeddings and the
identifiers of what is new are taken from outside.
-/

import BusinessAssistant.Foundation.System
import BusinessAssistant.Persistence.KnowledgeStore

namespace BusinessAssistant.Domain

/-! ## The lifecycle of a document -/

/-- `_TRANSITIONS` -/
def KnowledgeStatus.transitions : KnowledgeStatus → List KnowledgeStatus
  | .uploaded => [.parsing, .failed]
  | .parsing => [.chunking, .failed]
  | .chunking => [.embedding, .failed]
  | .embedding => [.ready, .failed]
  | .ready => [.archived]
  | .failed => [.parsing, .archived]
  | .archived => []

/-- `transition_to` -/
def KnowledgeStatus.transitionTo (status target : KnowledgeStatus) :
    Except DomainError KnowledgeStatus :=
  if target ∈ status.transitions then .ok target
  else .error (.invalidStateTransition "KnowledgeDocument" status.value target.value)

/-- The checks of `KnowledgeDocument(...)` for a new document; no source type is blank. -/
def newKnowledgeDocument (title checksum : Text) : Except DomainError KnowledgeStatus :=
  if title.Blank then .error (.validation "Knowledge title and source type are required")
  else if ¬ IsChecksum checksum then
    .error (.validation "Knowledge checksum must be hexadecimal")
  else .ok .uploaded

end BusinessAssistant.Domain

namespace BusinessAssistant.Persistence

open BusinessAssistant.Domain BusinessAssistant.Application BusinessAssistant.Application.Knowledge
open BusinessAssistant.Foundation

/-! ## Calls -/

/-- What `_ingest` is given. -/
structure Submission where
  title : Text
  source : Text
  sourceType : KnowledgeSourceType
  drafts : List KnowledgeChunkDraft

/-- What a call to ingest takes from outside: identifiers, and an embedding of texts. -/
structure IngestContext (F : Type) where
  documentId : DocumentId
  chunkId : Nat → UUID
  embed : List Text → Except KnowledgeFailure (List (List F))

/-- The calls that write knowledge. -/
inductive KnowledgeCall (F : Type)
  | ingestMarkdown (title markdown : Text) (context : IngestContext F)
  | ingestFaq (question answer : Text) (aliases : List Text) (priority : Int)
      (context : IngestContext F)
  | publish (documentId : DocumentId) (publishedAt : Int)
  | archive (documentId : DocumentId)

/-- `len(source.encode("utf-8"))` -/
def encodedLength (source : Text) : Nat := (source.map Char.utf8Size).sum

section Calls

variable [PythonLibrary] {F : Type} (isfinite : F → Bool) (policy : KnowledgePolicy)
  (chunker : DeterministicKnowledgeChunker) (tenantId : TenantId)

/-- What `ingest_markdown` passes on. -/
def markdownSubmission (title markdown : Text) : Except KnowledgeFailure Submission := do
  let source := normalizeSource markdown
  let drafts ← chunker.markdown source
  pure { title := title, source := source, sourceType := .markdown, drafts := drafts }

/-- What `ingest_faq` passes on. -/
def faqSubmission (question answer : Text) (aliases : List Text) (priority : Int) :
    Except KnowledgeFailure Submission := do
  let drafts ← chunker.faq question answer aliases priority
  let source := (drafts.head?.map fun draft => draft.text).getD []
  pure { title := normalizeSource question, source := source, sourceType := .faq, drafts := drafts }

/-- Embeddings of texts, or that there are none for now. -/
def embedSources (context : IngestContext F) (texts : List Text) :
    Except KnowledgeFailure (List (List F)) :=
  match context.embed texts with
  | .error .provider => .error (.knowledge "Knowledge embedding is temporarily unavailable")
  | outcome => outcome

/-- `zip(drafts, vectors, strict=True)` of as many vectors as drafts, each with its
identifier. -/
def preparedChunks (context : IngestContext F) (drafts : List KnowledgeChunkDraft)
    (vectors : List (List F)) : List (PreparedKnowledgeChunk F) :=
  (drafts.zip vectors).zipIdx.map fun prepared =>
    { id := context.chunkId prepared.2
      draft := prepared.1.1
      embedding := prepared.1.2
      embeddingModel := policy.embeddingModel }

/-- What `_ingest` stores. -/
def preparedDocument (context : IngestContext F) (submission : Submission)
    (vectors : List (List F)) : PreparedKnowledgeDocument F where
  id := context.documentId
  tenantId := tenantId
  title := Text.strip submission.title
  sourceType := submission.sourceType
  sourceText := submission.source
  checksum := contentChecksum submission.source
  chunks := preparedChunks policy context submission.drafts vectors

/-- What `_ingest` does between looking for a document and storing one. -/
def prepareDocument (context : IngestContext F) (submission : Submission) :
    Except KnowledgeFailure (PreparedKnowledgeDocument F) := do
  let domain {α : Type} (computation : Except DomainError α) := computation.mapError .domain
  let status ← domain (newKnowledgeDocument submission.title (contentChecksum submission.source))
  let status ← domain (status.transitionTo .parsing)
  let status ← domain (status.transitionTo .chunking)
  let status ← domain (status.transitionTo .embedding)
  let vectors ← embedSources context (submission.drafts.map (·.text))
  validateEmbeddings isfinite vectors submission.drafts.length policy.embeddingDimensions
  let _ ← domain (status.transitionTo .ready)
  pure (preparedDocument policy tenantId context submission vectors)

/-- `_ingest` -/
def ingestSubmission (context : IngestContext F) (submission : Submission) :
    KnowledgeTx F KnowledgeDocumentView := do
  Tx.require
    (¬ submission.title.Blank ∧ submission.title.length ≤ 300 ∧
      encodedLength submission.source ≤ policy.maximumSourceBytes)
    (.knowledge "Knowledge source title or size is invalid")
  let existing ← KnowledgeStore.findByChecksum tenantId (contentChecksum submission.source)
  match existing with
  | some existing => pure existing
  | none => do
      let document ← Tx.lift (prepareDocument isfinite policy tenantId context submission)
      KnowledgeStore.ingest document

/-- `ingest_markdown` -/
def ingestMarkdown (title markdown : Text) (context : IngestContext F) :
    KnowledgeTx F KnowledgeDocumentView := do
  let submission ← Tx.lift (markdownSubmission chunker title markdown)
  ingestSubmission isfinite policy tenantId context submission

/-- `ingest_faq` -/
def ingestFaq (question answer : Text) (aliases : List Text) (priority : Int)
    (context : IngestContext F) : KnowledgeTx F KnowledgeDocumentView := do
  let submission ← Tx.lift (faqSubmission chunker question answer aliases priority)
  ingestSubmission isfinite policy tenantId context submission

def KnowledgeCall.transaction : KnowledgeCall F → KnowledgeTx F KnowledgeDocumentView
  | ingestMarkdown title markdown context =>
      Persistence.ingestMarkdown isfinite policy chunker tenantId title markdown context
  | ingestFaq question answer aliases priority context =>
      Persistence.ingestFaq isfinite policy chunker tenantId question answer aliases priority context
  | publish documentId publishedAt => KnowledgeStore.publish tenantId documentId publishedAt
  | archive documentId => KnowledgeStore.archive tenantId documentId

/-- What a call ingests, where it ingests anything. -/
def KnowledgeCall.submission? : KnowledgeCall F → Option Submission
  | ingestMarkdown title markdown _ => (markdownSubmission chunker title markdown).toOption
  | ingestFaq question answer aliases priority _ =>
      (faqSubmission chunker question answer aliases priority).toOption
  | publish _ _ | archive _ => none

/-- The histories of calls of one tenant, from empty tables on. -/
def knowledgeCalls : System (KnowledgeDatabase F) (KnowledgeCall F) where
  init db := db = {}
  step db call db' :=
    db' = ((call.transaction isfinite policy chunker tenantId).commit db).2

end Calls

end BusinessAssistant.Persistence
