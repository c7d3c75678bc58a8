/-
# The store of knowledge

`SQLAlchemyKnowledgeStore`: documents are found by the checksum of their source, stored
with their chunks, published and archived. Every document is stored ready, in its first
version.
-/

import BusinessAssistant.Foundation.Table
import BusinessAssistant.Foundation.Transaction
import BusinessAssistant.Persistence.KnowledgeRows

namespace BusinessAssistant.Persistence

open BusinessAssistant.Domain BusinessAssistant.Application BusinessAssistant.Application.Knowledge
open BusinessAssistant.Foundation

/-! ## Contracts -/

/-- `PreparedKnowledgeChunk` -/
structure PreparedKnowledgeChunk (F : Type) where
  id : UUID
  draft : KnowledgeChunkDraft
  embedding : List F
  embeddingModel : Text

/-- `PreparedKnowledgeDocument` -/
structure PreparedKnowledgeDocument (F : Type) where
  id : DocumentId
  tenantId : TenantId
  title : Text
  sourceType : KnowledgeSourceType
  sourceText : Text
  checksum : Text
  chunks : List (PreparedKnowledgeChunk F)

/-- `KnowledgeDocumentView` -/
structure KnowledgeDocumentView where
  id : DocumentId
  title : Text
  sourceType : KnowledgeSourceType
  checksum : Text
  version : Int
  status : KnowledgeStatus
  publishedAt : Option Int
  chunkCount : Nat
  deriving DecidableEq

/-- The tables of knowledge. -/
structure KnowledgeDatabase (F : Type) where
  documents : List KnowledgeDocumentRow := []
  chunks : List (KnowledgeChunkRow F) := []

abbrev KnowledgeTx (F : Type) := Tx (KnowledgeDatabase F) KnowledgeFailure

namespace KnowledgeStore

variable {F : Type}

/-! ## Rows -/

/-- A chunk belongs to a document. -/
def ChunkOfDocument (document : KnowledgeDocumentRow) (chunk : KnowledgeChunkRow F) : Prop :=
  chunk.tenantId = document.tenantId ∧ chunk.documentId = document.id ∧
    chunk.documentVersion = document.version

instance (document : KnowledgeDocumentRow) :
    DecidablePred (ChunkOfDocument (F := F) document) :=
  fun _ => inferInstanceAs (Decidable (_ ∧ _ ∧ _))

def chunksOf (db : KnowledgeDatabase F) (document : KnowledgeDocumentRow) :
    List (KnowledgeChunkRow F) :=
  db.chunks.filter fun chunk => ChunkOfDocument document chunk

/-- `_view` -/
def view (db : KnowledgeDatabase F) (row : KnowledgeDocumentRow) : KnowledgeDocumentView where
  id := row.id
  title := row.title
  sourceType := row.sourceType
  checksum := row.checksum
  version := row.version
  status := row.status
  publishedAt := row.publishedAt
  chunkCount := (chunksOf db row).length

/-- The row of a prepared document -/
def documentRow (document : PreparedKnowledgeDocument F) : KnowledgeDocumentRow where
  id := document.id
  tenantId := document.tenantId
  title := document.title
  sourceType := document.sourceType
  checksum := document.checksum
  sourceText := document.sourceText
  version := 1
  status := .ready
  publishedAt := none

/-- The row of a prepared chunk of a document -/
def chunkRow (document : PreparedKnowledgeDocument F) (chunk : PreparedKnowledgeChunk F) :
    KnowledgeChunkRow F where
  id := chunk.id
  tenantId := document.tenantId
  documentId := document.id
  documentVersion := 1
  ordinal := chunk.draft.ordinal
  chunkText := chunk.draft.text
  tokenCount := chunk.draft.tokenCount
  embedding := some (chunk.embedding, chunk.embeddingModel)
  instructionRisk := chunk.draft.instructionRisk
  metadataJson := storedMetadata chunk.draft
  checksum := chunk.draft.checksum

/-! ## Operations -/

/-- The row `find_by_checksum` selects -/
def documentByChecksum (db : KnowledgeDatabase F) (tenantId : TenantId) (checksum : Text) :
    Option KnowledgeDocumentRow :=
  db.documents.find? fun row => row.tenantId = tenantId ∧ row.checksum = checksum

/-- `find_by_checksum` -/
def findByChecksum (tenantId : TenantId) (checksum : Text) :
    KnowledgeTx F (Option KnowledgeDocumentView) := do
  let db ← get
  pure ((documentByChecksum db tenantId checksum).map (view db))

/-- `ingest` -/
def ingest (document : PreparedKnowledgeDocument F) : KnowledgeTx F KnowledgeDocumentView := do
  let db ← get
  let row := documentRow document
  Tx.require (row.id ∉ db.documents.map (·.id)) (.integrity "pk_knowledge_documents")
  Tx.require
    ((row.tenantId, row.checksum, row.version) ∉
      db.documents.map fun other => (other.tenantId, other.checksum, other.version))
    (.integrity "uq_knowledge_documents_tenant_id_checksum_version")
  let chunks := document.chunks.map (chunkRow document)
  Tx.require ((db.chunks ++ chunks).map (·.id)).Nodup (.integrity "pk_knowledge_chunks")
  Tx.require (((chunksOf db row) ++ chunks).map (·.ordinal)).Nodup
    (.integrity "uq_knowledge_chunks_tenant_id_document_id_document_version_ordinal")
  modify fun db =>
    { db with documents := db.documents ++ [row], chunks := db.chunks ++ chunks }
  let db ← get
  pure (view db row)

/-- `_locked_document` -/
def lockedDocument (tenantId : TenantId) (documentId : DocumentId) :
    KnowledgeTx F KnowledgeDocumentRow := do
  let db ← get
  Tx.fetch (db.documents.find? fun row => row.tenantId = tenantId ∧ row.id = documentId)
    (.knowledge "Knowledge document was not found")

/-- Rewrite the row of a document and show it. -/
def rewrite (row : KnowledgeDocumentRow) (change : KnowledgeDocumentRow → KnowledgeDocumentRow) :
    KnowledgeTx F KnowledgeDocumentView := do
  modify fun db =>
    { db with documents := Table.update (fun other => other.id = row.id) change db.documents }
  let db ← get
  pure (view db (change row))

/-- `publish` -/
def publish (tenantId : TenantId) (documentId : DocumentId) (publishedAt : Int) :
    KnowledgeTx F KnowledgeDocumentView := do
  let row ← lockedDocument tenantId documentId
  Tx.require (row.status = .ready) (.knowledge "Only ready knowledge can be published")
  rewrite row fun row => { row with publishedAt := some publishedAt }

/-- `archive` -/
def archive (tenantId : TenantId) (documentId : DocumentId) :
    KnowledgeTx F KnowledgeDocumentView := do
  let row ← lockedDocument tenantId documentId
  Tx.require (row.status = .ready) (.knowledge "Only ready knowledge can be archived")
  rewrite row fun row => { row with status := .archived, publishedAt := none }

end KnowledgeStore

end BusinessAssistant.Persistence
