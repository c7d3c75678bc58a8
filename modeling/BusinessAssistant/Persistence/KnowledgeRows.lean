/-
# Rows of knowledge

The two tables knowledge is kept in. A chunk keeps the metadata of its draft as JSON,
with the heading it stands under as its section.
-/

import BusinessAssistant.Application.KnowledgeAnswers
import BusinessAssistant.Foundation.Entries
import BusinessAssistant.Persistence.WorkflowRows

namespace BusinessAssistant.Domain

/-- `KnowledgeStatus` -/
inductive KnowledgeStatus
  | uploaded
  | parsing
  | chunking
  | embedding
  | ready
  | failed
  | archived
  deriving DecidableEq

/-- What a status is called. -/
def KnowledgeStatus.value : KnowledgeStatus → String
  | .uploaded => "uploaded"
  | .parsing => "parsing"
  | .chunking => "chunking"
  | .embedding => "embedding"
  | .ready => "ready"
  | .failed => "failed"
  | .archived => "archived"

end BusinessAssistant.Domain

namespace BusinessAssistant.Persistence

open BusinessAssistant.Domain BusinessAssistant.Application BusinessAssistant.Application.Knowledge
open BusinessAssistant.Foundation

/-- `KnowledgeDocumentRow` -/
structure KnowledgeDocumentRow where
  id : DocumentId
  tenantId : TenantId
  title : Text
  sourceType : KnowledgeSourceType
  checksum : Text
  sourceText : Text
  version : Int
  status : KnowledgeStatus
  publishedAt : Option Int
  deriving DecidableEq

/-- `KnowledgeChunkRow`; what a component of an embedding is does not matter. -/
structure KnowledgeChunkRow (F : Type) where
  id : UUID
  tenantId : TenantId
  documentId : DocumentId
  documentVersion : Int
  ordinal : Nat
  chunkText : Text
  tokenCount : Nat
  embedding : Option (List F × Text)
  instructionRisk : Bool
  metadataJson : List (String × JsonValue)
  checksum : Text

/-! ## Metadata -/

/-- `{**dict(draft.metadata), "section": draft.section}` -/
def storedMetadata (draft : KnowledgeChunkDraft) : List (String × JsonValue) :=
  let metadata :=
    match draft.metadata with
    | some faq =>
        [("aliases", JsonValue.texts faq.aliases), ("priority", .int faq.priority),
          ("question", .text faq.question)]
    | none => []
  Entries.set "section" (draft.heading.elim .null .text) metadata

/-- A priority in the metadata of a chunk is one `faq` admits. -/
def PriorityValid (metadataJson : List (String × JsonValue)) : Prop :=
  ∀ priority, metadataJson.lookup "priority" = some (.int priority) →
    0 ≤ priority ∧ priority ≤ 100

theorem priorityValid_storedMetadata (draft : KnowledgeChunkDraft) :
    PriorityValid (storedMetadata draft) := by
  intro priority hpriority
  rw [storedMetadata, Entries.lookup_set, if_neg (by decide)] at hpriority
  cases hmetadata : draft.metadata with
  | none =>
      rw [hmetadata] at hpriority
      cases hpriority
  | some faq =>
      rw [hmetadata] at hpriority
      cases hpriority
      exact faq.priorityValid

end BusinessAssistant.Persistence
