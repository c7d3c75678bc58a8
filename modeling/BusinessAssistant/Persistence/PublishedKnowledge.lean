/-
# Publishing what was ingested

A call to ingest returns the document that has the checksum of its source already, if
there is one, whatever became of it. What it returns can be published as what the call
was given exactly where that document is ready and holds the same.
-/

import BusinessAssistant.Application.QuotedEvidence
import BusinessAssistant.Persistence.KnowledgeIngestion

namespace BusinessAssistant.Persistence

open BusinessAssistant.Domain BusinessAssistant.Application BusinessAssistant.Application.Knowledge
open BusinessAssistant.Foundation

/-! ## What is to hold -/

/-- What a chunk says, and where it stands. -/
structure ChunkContent where
  ordinal : Nat
  text : Text
  tokenCount : Nat
  checksum : Text
  instructionRisk : Bool
  metadataJson : List (String × JsonValue)
  deriving DecidableEq

def KnowledgeChunkRow.content {F : Type} (chunk : KnowledgeChunkRow F) : ChunkContent where
  ordinal := chunk.ordinal
  text := chunk.chunkText
  tokenCount := chunk.tokenCount
  checksum := chunk.checksum
  instructionRisk := chunk.instructionRisk
  metadataJson := chunk.metadataJson

def draftContent (draft : KnowledgeChunkDraft) : ChunkContent where
  ordinal := draft.ordinal
  text := draft.text
  tokenCount := draft.tokenCount
  checksum := draft.checksum
  instructionRisk := draft.instructionRisk
  metadataJson := storedMetadata draft

/-- A document has the source type of a submission, and its chunks with their metadata. -/
def Holds {F : Type} (db : KnowledgeDatabase F) (row : KnowledgeDocumentRow)
    (submission : Submission) : Prop :=
  row.sourceType = submission.sourceType ∧
    (KnowledgeStore.chunksOf db row).map KnowledgeChunkRow.content =
      submission.drafts.map draftContent

instance {F : Type} (db : KnowledgeDatabase F) (row : KnowledgeDocumentRow)
    (submission : Submission) : Decidable (Holds db row submission) :=
  inferInstanceAs (Decidable (_ ∧ _))

/-- A document can be published, and holds a submission then. -/
def PublishesAs {F : Type} (tenantId : TenantId) (db : KnowledgeDatabase F)
    (documentId : DocumentId) (submission : Submission) : Prop :=
  ∀ publishedAt, ∃ shown db', (KnowledgeStore.publish tenantId documentId publishedAt).run db =
      .ok (shown, db') ∧
    ∃ row ∈ db'.documents, row.id = documentId ∧ row.publishedAt = some publishedAt ∧
      Holds db' row submission

/-- What every history keeps. -/
structure KnowledgeDatabase.Consistent {F : Type} (db : KnowledgeDatabase F) : Prop where
  ids : (db.documents.map fun row => row.id).Nodup
  documents : ∀ chunk ∈ db.chunks, chunk.documentId ∈ db.documents.map fun row => row.id
  priorities : ∀ chunk ∈ db.chunks, PriorityValid chunk.metadataJson

/-! ## Operations of the store -/

namespace KnowledgeStore

variable {F : Type} {tenantId : TenantId} {db db' : KnowledgeDatabase F}
  {shown : KnowledgeDocumentView}

theorem ingest_ok {document : PreparedKnowledgeDocument F}
    (hrun : (ingest document).run db = .ok (shown, db')) :
    document.id ∉ db.documents.map (fun row => row.id) ∧
      db' =
        { documents := db.documents ++ [documentRow document]
          chunks := db.chunks ++ document.chunks.map (chunkRow document) } ∧
      shown = view db' (documentRow document) := by
  rw [ingest, Tx.run_get_bind_eq_ok, Tx.run_require_bind_eq_ok, Tx.run_require_bind_eq_ok,
    Tx.run_require_bind_eq_ok, Tx.run_require_bind_eq_ok, Tx.run_modify_bind_eq_ok,
    Tx.run_get_bind_eq_ok, Tx.run_pure_eq_ok] at hrun
  obtain ⟨hid, _, _, _, hresult⟩ := hrun
  cases hresult
  exact ⟨hid, rfl, rfl⟩

theorem rewrite_ok {row : KnowledgeDocumentRow}
    {change : KnowledgeDocumentRow → KnowledgeDocumentRow} :
    (rewrite row change).run db = .ok (shown, db') ↔
      db' = { db with
        documents := Table.update (fun other => other.id = row.id) change db.documents } ∧
      shown = view db' (change row) := by
  rw [rewrite, Tx.run_modify_bind_eq_ok, Tx.run_get_bind_eq_ok, Tx.run_pure_eq_ok, Prod.mk.injEq]
  constructor
  · rintro ⟨rfl, rfl⟩
    exact ⟨rfl, rfl⟩
  · rintro ⟨rfl, rfl⟩
    exact ⟨rfl, rfl⟩

theorem lockedDocument_ok {documentId : DocumentId} {row : KnowledgeDocumentRow} :
    (lockedDocument tenantId documentId).run db = .ok (row, db') ↔
      db.documents.find? (fun row => row.tenantId = tenantId ∧ row.id = documentId) = some row ∧
        db' = db := by
  rw [lockedDocument, Tx.run_get_bind_eq_ok, Tx.run_fetch_eq_ok]

/-- A ready document is rewritten by `publish` and by `archive`. -/
theorem rewriteReady_ok {documentId : DocumentId} {error : KnowledgeFailure}
    {change : KnowledgeDocumentRow → KnowledgeDocumentRow} :
    (do
        let row ← lockedDocument tenantId documentId
        Tx.require (row.status = .ready) error
        rewrite row change : KnowledgeTx F KnowledgeDocumentView).run db = .ok (shown, db') ↔
      ∃ row, db.documents.find? (fun row => row.tenantId = tenantId ∧ row.id = documentId) =
          some row ∧ row.status = .ready ∧ (rewrite row change).run db = .ok (shown, db') := by
  rw [Tx.run_bind_eq_ok]
  constructor
  · rintro ⟨row, db'', hrow, hrest⟩
    obtain ⟨hfind, rfl⟩ := lockedDocument_ok.mp hrow
    rw [Tx.run_require_bind_eq_ok] at hrest
    exact ⟨row, hfind, hrest.1, hrest.2⟩
  · rintro ⟨row, hfind, hready, hrewrite⟩
    refine ⟨row, db, lockedDocument_ok.mpr ⟨hfind, rfl⟩, ?_⟩
    rw [Tx.run_require_bind_eq_ok]
    exact ⟨hready, hrewrite⟩

/-! ## What they keep -/

theorem consistent_ingest {document : PreparedKnowledgeDocument F} (hdb : db.Consistent)
    (hrun : (ingest document).run db = .ok (shown, db')) : db'.Consistent := by
  obtain ⟨hid, rfl, _⟩ := ingest_ok hrun
  have hchunk : ∀ chunk ∈ document.chunks.map (chunkRow document),
      ∃ prepared ∈ document.chunks, chunk = chunkRow document prepared := by
    intro chunk hchunk
    obtain ⟨prepared, hprepared, rfl⟩ := List.mem_map.mp hchunk
    exact ⟨prepared, hprepared, rfl⟩
  exact
    { ids := Table.nodup_append_row hdb.ids fun other hother heq =>
        hid (List.mem_map.mpr ⟨other, hother, heq⟩)
      documents := by
        intro chunk hmem
        rw [List.map_append, List.mem_append]
        rcases List.mem_append.mp hmem with hbefore | hnew
        · exact .inl (hdb.documents chunk hbefore)
        · obtain ⟨prepared, _, rfl⟩ := hchunk chunk hnew
          exact .inr (List.mem_singleton_self _)
      priorities := by
        intro chunk hmem
        rcases List.mem_append.mp hmem with hbefore | hnew
        · exact hdb.priorities chunk hbefore
        · obtain ⟨prepared, _, rfl⟩ := hchunk chunk hnew
          exact priorityValid_storedMetadata prepared.draft }

theorem consistent_rewrite {row : KnowledgeDocumentRow}
    {change : KnowledgeDocumentRow → KnowledgeDocumentRow} (hkeep : ∀ row, (change row).id = row.id)
    (hdb : db.Consistent) (hrun : (rewrite row change).run db = .ok (shown, db')) :
    db'.Consistent := by
  obtain ⟨rfl, _⟩ := rewrite_ok.mp hrun
  have hids : (Table.update (fun other => other.id = row.id) change db.documents).map
      (fun row => row.id) = db.documents.map fun row => row.id := Table.map_update _ hkeep
  exact
    { ids := hids ▸ hdb.ids
      documents := hids ▸ hdb.documents
      priorities := hdb.priorities }

/-- A document is published as what it holds where it is ready. -/
theorem publishesAs_iff (hdb : db.Consistent) {row : KnowledgeDocumentRow}
    (hrow : row ∈ db.documents) (htenant : row.tenantId = tenantId) (submission : Submission) :
    PublishesAs tenantId db row.id submission ↔ row.status = .ready ∧ Holds db row submission := by
  have hfind : db.documents.find? (fun other => other.tenantId = tenantId ∧ other.id = row.id) =
      some row :=
    Table.find?_eq_some_of_unique hrow ⟨htenant, rfl⟩ fun other hother hkey =>
      Table.eq_of_key_eq hdb.ids hother hrow hkey.2
  have hwritten (publishedAt : Int) (other : KnowledgeDocumentRow) :
      other ∈ Table.update (fun old => old.id = row.id)
          (fun row => { row with publishedAt := some publishedAt }) db.documents ↔
        other = { row with publishedAt := some publishedAt } ∨
          other ∈ db.documents ∧ other.id ≠ row.id := Table.mem_update_key hdb.ids hrow
  constructor
  · intro hpublishes
    obtain ⟨shown, db', hrun, other, hother, hid, _, hholds⟩ := hpublishes 0
    obtain ⟨found, hfound, hready, hrewrite⟩ := rewriteReady_ok.mp hrun
    obtain ⟨rfl, _⟩ := rewrite_ok.mp hrewrite
    have hsame : row = found := Option.some.inj (hfind.symm.trans hfound)
    subst hsame
    rcases (hwritten 0 other).mp hother with rfl | ⟨_, hne⟩
    · exact ⟨hready, hholds⟩
    · exact absurd hid hne
  · rintro ⟨hready, hholds⟩ publishedAt
    exact ⟨_, _, rewriteReady_ok.mpr ⟨row, hfind, hready, rewrite_ok.mpr ⟨rfl, rfl⟩⟩, _,
      (hwritten publishedAt _).mpr (.inl rfl), rfl, rfl, hholds⟩

end KnowledgeStore

/-! ## Calls -/

section Calls

variable [PythonLibrary] {F : Type} {isfinite : F → Bool} {policy : KnowledgePolicy}
  {chunker : DeterministicKnowledgeChunker} {tenantId : TenantId} {db db' : KnowledgeDatabase F}
  {shown : KnowledgeDocumentView} {context : IngestContext F} {submission : Submission}

/-- What is stored of a submission is made of its drafts. -/
theorem prepareDocument_ok {document : PreparedKnowledgeDocument F}
    (hprepared : prepareDocument isfinite policy tenantId context submission = .ok document) :
    ∃ vectors, vectors.length = submission.drafts.length ∧
      document = preparedDocument policy tenantId context submission vectors := by
  rw [prepareDocument] at hprepared
  obtain ⟨_, _, hprepared⟩ := except_bind_eq_ok.mp hprepared
  obtain ⟨_, _, hprepared⟩ := except_bind_eq_ok.mp hprepared
  obtain ⟨_, _, hprepared⟩ := except_bind_eq_ok.mp hprepared
  obtain ⟨_, _, hprepared⟩ := except_bind_eq_ok.mp hprepared
  obtain ⟨vectors, _, hprepared⟩ := except_bind_eq_ok.mp hprepared
  obtain ⟨_, hvalid, hprepared⟩ := except_bind_eq_ok.mp hprepared
  obtain ⟨_, _, hprepared⟩ := except_bind_eq_ok.mp hprepared
  refine ⟨vectors, ?_, (except_pure_eq_ok.mp hprepared).symm⟩
  by_contra hlength
  rw [validateEmbeddings] at hvalid
  simp only [hlength, ne_eq, not_false_eq_true, true_or, if_true] at hvalid
  cases hvalid

theorem ingestSubmission_ok
    (hrun : (ingestSubmission isfinite policy tenantId context submission).run db =
      .ok (shown, db')) :
    (∃ row, KnowledgeStore.documentByChecksum db tenantId (contentChecksum submission.source) =
        some row ∧ shown = KnowledgeStore.view db row ∧ db' = db) ∨
      KnowledgeStore.documentByChecksum db tenantId (contentChecksum submission.source) = none ∧
        ∃ vectors, vectors.length = submission.drafts.length ∧
          (KnowledgeStore.ingest
            (preparedDocument policy tenantId context submission vectors)).run db =
              .ok (shown, db') := by
  rw [ingestSubmission, Tx.run_require_bind_eq_ok, KnowledgeStore.findByChecksum,
    Tx.run_bind_eq_ok] at hrun
  obtain ⟨_, existing, between, hfound, hrest⟩ := hrun
  rw [Tx.run_get_bind_eq_ok, Tx.run_pure_eq_ok] at hfound
  cases hfound
  cases hrow : KnowledgeStore.documentByChecksum db tenantId (contentChecksum submission.source) with
  | some row =>
      rw [hrow, Option.map_some] at hrest
      simp only [Tx.run_pure_eq_ok] at hrest
      cases hrest
      exact .inl ⟨row, rfl, rfl, rfl⟩
  | none =>
      rw [hrow, Option.map_none] at hrest
      simp only [Tx.run_lift_bind_eq_ok] at hrest
      obtain ⟨document, hdocument, hingest⟩ := hrest
      obtain ⟨vectors, hlength, rfl⟩ := prepareDocument_ok hdocument
      exact .inr ⟨rfl, vectors, hlength, hingest⟩

theorem consistent_ingestSubmission (hdb : db.Consistent)
    (hrun : (ingestSubmission isfinite policy tenantId context submission).run db =
      .ok (shown, db')) : db'.Consistent := by
  rcases ingestSubmission_ok hrun with ⟨_, _, _, rfl⟩ | ⟨_, _, _, hingest⟩
  · exact hdb
  · exact KnowledgeStore.consistent_ingest hdb hingest

/-- Every call keeps the tables consistent. -/
theorem consistent_transaction {call : KnowledgeCall F} (hdb : db.Consistent)
    (hrun : (call.transaction isfinite policy chunker tenantId).run db = .ok (shown, db')) :
    db'.Consistent := by
  cases call with
  | ingestMarkdown title markdown context =>
      rw [KnowledgeCall.transaction, ingestMarkdown, Tx.run_lift_bind_eq_ok] at hrun
      obtain ⟨_, _, hingest⟩ := hrun
      exact consistent_ingestSubmission hdb hingest
  | ingestFaq question answer aliases priority context =>
      rw [KnowledgeCall.transaction, ingestFaq, Tx.run_lift_bind_eq_ok] at hrun
      obtain ⟨_, _, hingest⟩ := hrun
      exact consistent_ingestSubmission hdb hingest
  | publish documentId publishedAt =>
      obtain ⟨_, _, _, hrewrite⟩ := KnowledgeStore.rewriteReady_ok.mp hrun
      refine KnowledgeStore.consistent_rewrite ?_ hdb hrewrite
      exact fun _ => rfl
  | archive documentId =>
      obtain ⟨_, _, _, hrewrite⟩ := KnowledgeStore.rewriteReady_ok.mp hrun
      refine KnowledgeStore.consistent_rewrite ?_ hdb hrewrite
      exact fun _ => rfl

theorem consistent_knowledge
    (hreach : (knowledgeCalls isfinite policy chunker tenantId).Reachable db) :
    db.Consistent := by
  refine System.Reachable.invariant (fun db hinit => ?_) (fun db call db' _ hdb hstep => ?_) hreach
  · rw [show db = {} from hinit]
    exact { ids := List.nodup_nil, documents := by simp, priorities := by simp }
  · rw [show db' = _ from hstep]
    exact Tx.commit_keeps hdb fun shown written hrun => consistent_transaction hdb hrun

theorem ingestSubmission_of_call {call : KnowledgeCall F}
    (hsubmission : call.submission? chunker = some submission)
    (hrun : (call.transaction isfinite policy chunker tenantId).run db = .ok (shown, db')) :
    ∃ context : IngestContext F,
      (ingestSubmission isfinite policy tenantId context submission).run db = .ok (shown, db') := by
  cases call with
  | ingestMarkdown title markdown context =>
      rw [KnowledgeCall.transaction, ingestMarkdown, Tx.run_lift_bind_eq_ok] at hrun
      obtain ⟨passed, hpassed, hingest⟩ := hrun
      rw [KnowledgeCall.submission?, hpassed] at hsubmission
      cases hsubmission
      exact ⟨context, hingest⟩
  | ingestFaq question answer aliases priority context =>
      rw [KnowledgeCall.transaction, ingestFaq, Tx.run_lift_bind_eq_ok] at hrun
      obtain ⟨passed, hpassed, hingest⟩ := hrun
      rw [KnowledgeCall.submission?, hpassed] at hsubmission
      cases hsubmission
      exact ⟨context, hingest⟩
  | publish documentId publishedAt => cases hsubmission
  | archive documentId => cases hsubmission

/-- The chunks of a document just stored are those of its drafts. -/
theorem holds_stored (hdb : db.Consistent) {vectors : List (List F)}
    (hlength : vectors.length = submission.drafts.length)
    (hrun : (KnowledgeStore.ingest
      (preparedDocument policy tenantId context submission vectors)).run db = .ok (shown, db')) :
    Holds db' (KnowledgeStore.documentRow
      (preparedDocument policy tenantId context submission vectors)) submission := by
  obtain ⟨hid, rfl, _⟩ := KnowledgeStore.ingest_ok hrun
  refine ⟨rfl, ?_⟩
  have hbefore : db.chunks.filter (fun chunk => KnowledgeStore.ChunkOfDocument
      (KnowledgeStore.documentRow
        (preparedDocument policy tenantId context submission vectors)) chunk) = [] := by
    rw [List.filter_eq_nil_iff]
    intro chunk hchunk hof
    have hdocument : chunk.documentId = context.documentId := (of_decide_eq_true hof).2.1
    have hmem := hdb.documents chunk hchunk
    rw [hdocument] at hmem
    exact hid hmem
  have hnew : ∀ chunk ∈
      (preparedDocument policy tenantId context submission vectors).chunks.map
        (KnowledgeStore.chunkRow (preparedDocument policy tenantId context submission vectors)),
      KnowledgeStore.ChunkOfDocument (KnowledgeStore.documentRow
        (preparedDocument policy tenantId context submission vectors)) chunk := by
    intro chunk hchunk
    obtain ⟨prepared, _, rfl⟩ := List.mem_map.mp hchunk
    exact ⟨rfl, rfl, rfl⟩
  have hdrafts : (preparedDocument policy tenantId context submission vectors).chunks.map
      (·.draft) = submission.drafts := by
    rw [preparedDocument, preparedChunks, List.map_map]
    have hzip := List.map_map (f := Prod.fst) (g := Prod.fst)
      (l := (submission.drafts.zip vectors).zipIdx)
    rw [List.zipIdx_map_fst, List.map_fst_zip hlength.ge] at hzip
    exact hzip.symm
  rw [KnowledgeStore.chunksOf, List.filter_append, hbefore, List.nil_append,
    List.filter_eq_self.mpr fun chunk hchunk => decide_eq_true (hnew chunk hchunk), List.map_map]
  have hcontents := congrArg (List.map draftContent) hdrafts
  rw [List.map_map] at hcontents
  exact hcontents

/-- What ingesting returns can be published as what it was given, exactly where the
document that has the checksum already, if there is one, is ready and holds the same. -/
theorem publishesAs_ingested_iff
    (hreach : (knowledgeCalls isfinite policy chunker tenantId).Reachable db)
    {call : KnowledgeCall F} (hsubmission : call.submission? chunker = some submission)
    (hrun : (call.transaction isfinite policy chunker tenantId).run db = .ok (shown, db')) :
    PublishesAs tenantId db' shown.id submission ↔
      ∀ row, KnowledgeStore.documentByChecksum db tenantId (contentChecksum submission.source) =
        some row → row.status = .ready ∧ Holds db row submission := by
  have hdb := consistent_knowledge hreach
  have hdb' := consistent_transaction hdb hrun
  obtain ⟨context, hingested⟩ := ingestSubmission_of_call hsubmission hrun
  rcases ingestSubmission_ok hingested with
    ⟨row, hrow, rfl, rfl⟩ | ⟨hnone, vectors, hlength, hingest⟩
  · obtain ⟨hmem, htenant, _⟩ := Table.of_find? hrow
    have hiff := KnowledgeStore.publishesAs_iff hdb hmem htenant submission
    constructor
    · intro hpublishes other hother
      cases hrow.symm.trans hother
      exact hiff.mp hpublishes
    · intro hall
      exact hiff.mpr (hall row hrow)
  · have hholds := holds_stored hdb hlength hingest
    obtain ⟨_, hwritten, rfl⟩ := KnowledgeStore.ingest_ok hingest
    have hmem : KnowledgeStore.documentRow
        (preparedDocument policy tenantId context submission vectors) ∈ db'.documents := by
      rw [hwritten]
      exact List.mem_append_right _ (List.mem_singleton_self _)
    have hpublishes := (KnowledgeStore.publishesAs_iff hdb' hmem rfl submission).mpr ⟨rfl, hholds⟩
    constructor
    · intro _ row hrow
      rw [hnone] at hrow
      cases hrow
    · intro _
      exact hpublishes

end Calls

/-! ## A question and its answer -/

namespace SmallKnowledge

/-- ASCII text, and the checksum of the one question here. -/
scoped instance library : PythonLibrary where
  nfkc := id
  isalnum _ := false
  hexdigest _ := "63c7ff1c30a24cd44a57d1d51e015d1221ea8dec3fd77b1d2eb312e237344852".toList

def context : IngestContext Nat where
  documentId := 1
  chunkId index := BitVec.ofNat 128 (index + 2)
  embed texts := .ok (texts.map fun _ => [0])

def call : KnowledgeCall Nat := .ingestFaq "When".toList "Now".toList [] 0 context

def transaction : KnowledgeTx Nat KnowledgeDocumentView :=
  call.transaction (fun _ => true) SmallAnswer.policy SmallSource.chunker 1

/-- The tables once the document is stored. -/
def stored : KnowledgeDatabase Nat := (transaction.commit {}).2

/-- The tables once it is archived. -/
def archived : KnowledgeDatabase Nat := ((KnowledgeStore.archive 1 1).commit stored).2

/-- The histories of calls of this tenant -/
def calls : System (KnowledgeDatabase Nat) (KnowledgeCall Nat) :=
  knowledgeCalls (fun _ => true) SmallAnswer.policy SmallSource.chunker 1

theorem reachable_stored : calls.Reachable stored := by
  have hempty : calls.Reachable {} := .init rfl
  have hstore : calls.step {} call stored := rfl
  exact .step hempty hstore

theorem reachable_archived : calls.Reachable archived := by
  have harchive : calls.step stored (.archive 1) archived := rfl
  exact .step reachable_stored harchive

/-- The document that is stored is ready and holds what was ingested. -/
theorem stored_holds {submission : Submission}
    (hsubmission : call.submission? SmallSource.chunker = some submission) :
    ∀ row ∈ stored.documents, row.status = .ready ∧ Holds stored row submission := by
  have hall : ((call.submission? SmallSource.chunker).all fun submission =>
      stored.documents.all fun row => row.status = .ready ∧ Holds stored row submission) = true := by
    decide +kernel
  rw [hsubmission, Option.all_some, List.all_eq_true] at hall
  exact fun row hrow => of_decide_eq_true (hall row hrow)

end SmallKnowledge

open SmallKnowledge in
/-- What is ingested again while it is ready is stored once, and can be published. -/
theorem second_ingest_published : ∃ submission shown db',
    transaction.run stored = .ok (shown, db') ∧ db'.documents.length = 1 ∧
      PublishesAs 1 db' shown.id submission := by
  have hok : (transaction.run stored).toBool = true := by decide +kernel
  have hsome : (call.submission? SmallSource.chunker).isSome = true := by decide +kernel
  have hone : ((transaction.run stored).toOption.map fun result => result.2.documents.length) =
      some 1 := by
    decide +kernel
  obtain ⟨submission, hsubmission⟩ := Option.isSome_iff_exists.mp hsome
  cases hrun : transaction.run stored with
  | error failure =>
      rw [hrun] at hok
      cases hok
  | ok result =>
      rw [hrun] at hone
      have hiff := publishesAs_ingested_iff reachable_stored hsubmission hrun
      refine ⟨submission, result.1, result.2, rfl, Option.some.inj hone, hiff.mpr ?_⟩
      intro row hrow
      exact stored_holds hsubmission row (Table.of_find? hrow).1

open SmallKnowledge in
/-- What is ingested again after it was archived cannot be published. -/
theorem archived_not_published : ∃ submission shown db',
    calls.Reachable archived ∧ call.submission? SmallSource.chunker = some submission ∧
      transaction.run archived = .ok (shown, db') ∧ ¬ PublishesAs 1 db' shown.id submission := by
  have hok : (transaction.run archived).toBool = true := by decide +kernel
  have hsome : (call.submission? SmallSource.chunker).isSome = true := by decide +kernel
  obtain ⟨submission, hsubmission⟩ := Option.isSome_iff_exists.mp hsome
  cases hrun : transaction.run archived with
  | error failure =>
      rw [hrun] at hok
      cases hok
  | ok result =>
      refine ⟨submission, result.1, result.2, reachable_archived, hsubmission, rfl, ?_⟩
      have hdb := consistent_knowledge reachable_archived
      have hstatus : (KnowledgeStore.documentByChecksum archived 1
          (contentChecksum submission.source)).map (·.status) = some .archived := by
        exact (by decide +kernel : (KnowledgeStore.documentByChecksum archived 1
          (contentChecksum [])).map (·.status) = some .archived)
      obtain ⟨context, hingested⟩ := ingestSubmission_of_call hsubmission hrun
      rcases ingestSubmission_ok hingested with ⟨row, hrow, hshown, hsame⟩ | ⟨hnone, _⟩
      · rw [hrow] at hstatus
        obtain ⟨hmem, htenant, _⟩ := Table.of_find? hrow
        rw [hshown, hsame]
        intro hpublishes
        have hready := (KnowledgeStore.publishesAs_iff hdb hmem htenant submission).mp hpublishes
        rw [Option.map_some, hready.1] at hstatus
        cases hstatus
      · rw [hnone] at hstatus
        cases hstatus

end BusinessAssistant.Persistence
