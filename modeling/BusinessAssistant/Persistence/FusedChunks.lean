/-
# What fusion returns

The chunks `_fuse` returns are the best of those either search found, one of each text;
a better rank never lowers a score.
-/

import BusinessAssistant.Foundation.Table
import BusinessAssistant.Persistence.Fusion
import Mathlib.Data.List.Enum
import Mathlib.Tactic.Linarith

namespace BusinessAssistant.Persistence

open BusinessAssistant.Domain BusinessAssistant.Application BusinessAssistant.Application.Knowledge
open BusinessAssistant.Foundation

/-! ## What is to hold -/

/-- The best of some chunks, one of each text, and as many as there is room for. -/
structure BestChunks (found result : List Knowledge.RetrievedKnowledgeChunk) (limit : Nat) :
    Prop where
  retrieved : ∀ chunk ∈ result, chunk ∈ found
  length : result.length ≤ limit
  distinct : (result.map fun chunk => chunk.checksum).Nodup
  ordered : result.Pairwise fun first second =>
    second.score < first.score ∨
      first.score = second.score ∧ UUID.str first.chunkId < UUID.str second.chunkId
  range : ∀ chunk ∈ result, 0 ≤ chunk.score ∧ chunk.score ≤ 1
  best : ∀ chunk ∈ result, ∀ other ∈ found, other.checksum = chunk.checksum →
    other.score ≤ chunk.score
  omitted : result.length = limit → ∀ chunk ∈ result, ∀ other ∈ found,
    other.checksum ∉ result.map (fun chunk => chunk.checksum) → other.score ≤ chunk.score
  complete : result.length < limit → ∀ other ∈ found,
    other.checksum ∈ result.map fun chunk => chunk.checksum

/-- A row is moved to a better rank. -/
def Moved {α : Type} (row : α) (rows better : List α) : Prop :=
  ∃ before middle after, rows = before ++ middle ++ row :: after ∧
    better = before ++ row :: (middle ++ after)

/-- No chunk is found at a lower score than before. -/
def NoWorse (chunkId : UUID) (found better : List Knowledge.RetrievedKnowledgeChunk) : Prop :=
  ∀ chunk ∈ found, chunk.chunkId = chunkId →
    ∃ other ∈ better, other.chunkId = chunkId ∧ chunk.score ≤ other.score

/-! ## Scores -/

/-- A rank is at least as good as another. -/
def Improves (better worse : Option Nat) : Prop :=
  better.isSome = worse.isSome ∧ ∀ rank ∈ better, ∀ other ∈ worse, rank ≤ other

theorem Improves.refl (rank : Option Nat) : Improves rank rank := by
  refine ⟨rfl, fun first hfirst second hsecond => ?_⟩
  rw [Option.mem_unique hfirst hsecond]

theorem improves_some {better worse : Nat} (hle : better ≤ worse) :
    Improves (some better) (some worse) := by
  refine ⟨rfl, fun first hfirst second hsecond => ?_⟩
  cases hfirst
  cases hsecond
  exact hle

/-- What one rank adds to a score -/
def share (rank : Option Nat) : ℚ := rank.elim 0 fun rank => 1 / (60 + (rank : ℚ))

theorem reciprocal_eq (lexicalRank vectorRank : Option Nat) :
    reciprocal lexicalRank vectorRank = share lexicalRank + share vectorRank := by
  cases lexicalRank with
  | none =>
      cases vectorRank with
      | none => simp [reciprocal, share]
      | some rank => simp [reciprocal, share]
  | some first =>
      cases vectorRank with
      | none => simp [reciprocal, share]
      | some second => simp [reciprocal, share]

theorem share_nonneg (rank : Option Nat) : 0 ≤ share rank := by
  cases rank with
  | none => exact le_refl 0
  | some rank =>
      show (0 : ℚ) ≤ 1 / (60 + (rank : ℚ))
      positivity

theorem Improves.share_le {better worse : Option Nat} (himproves : Improves better worse) :
    share worse ≤ share better := by
  obtain ⟨hsome, hle⟩ := himproves
  cases better with
  | none =>
      cases worse with
      | none => exact le_refl _
      | some rank => cases hsome
  | some first =>
      cases worse with
      | none => cases hsome
      | some second =>
          have hranks : (first : ℚ) ≤ second := by exact_mod_cast hle first rfl second rfl
          show 1 / (60 + (second : ℚ)) ≤ 1 / (60 + (first : ℚ))
          gcongr

section Scores

variable (lower : Text → Text)

theorem coverage_nonneg (query chunkText : Text) : 0 ≤ coverage lower query chunkText := by
  rw [coverage]
  split
  · exact le_refl 0
  · positivity

theorem rankScore_range (query chunkText : Text) (lexicalRank vectorRank : Option Nat) :
    0 ≤ rankScore lower query chunkText lexicalRank vectorRank ∧
      rankScore lower query chunkText lexicalRank vectorRank ≤ 1 := by
  have hcoverage := coverage_nonneg lower query chunkText
  have hbase : 0 ≤ min 1 (reciprocal lexicalRank vectorRank * (61 / 2)) := by
    rw [reciprocal_eq]
    have hlexical := share_nonneg lexicalRank
    have hvector := share_nonneg vectorRank
    exact le_min zero_le_one (by positivity)
  rw [rankScore]
  split
  · exact ⟨le_min zero_le_one (by linarith), min_le_left 1 _⟩
  · exact ⟨hbase, min_le_left 1 _⟩

/-- A priority keeps a score within its bounds. -/
theorem withPriority_range {metadataJson : List (String × JsonValue)}
    (hpriority : PriorityValid metadataJson) {score : ℚ} (hscore : 0 ≤ score ∧ score ≤ 1) :
    0 ≤ withPriority metadataJson score ∧ withPriority metadataJson score ≤ 1 := by
  rw [withPriority]
  split
  · rename_i priority hvalue
    have hbonus : 0 ≤ min priority 100 := by
      cases hlookup : metadataJson.lookup "priority" with
      | none =>
          rw [hlookup] at hvalue
          cases hvalue
          decide
      | some value =>
          rw [hlookup, Option.getD_some] at hvalue
          rw [hvalue] at hlookup
          exact le_min (hpriority priority hlookup).1 (by decide)
    have hbonus' : (0 : ℚ) ≤ (min priority 100 : Int) := by exact_mod_cast hbonus
    exact ⟨le_min zero_le_one (by linarith), min_le_left 1 _⟩
  · exact hscore

variable {F : Type} (query : Text) (row : SearchRow F)

theorem fusedScore_range (lexicalRank vectorRank : Option Nat) :
    0 ≤ fusedScore lower query row lexicalRank vectorRank ∧
      fusedScore lower query row lexicalRank vectorRank ≤ 1 := by
  have hscore := rankScore_range lower query row.chunk.chunkText lexicalRank vectorRank
  rw [fusedScore]
  cases row.document.sourceType with
  | faq => exact withPriority_range row.priorityValid hscore
  | markdown => exact hscore

theorem rankScore_le {lexicalRank vectorRank lexicalRank' vectorRank' : Option Nat}
    (hlexical : Improves lexicalRank' lexicalRank) (hvector : Improves vectorRank' vectorRank)
    (chunkText : Text) :
    rankScore lower query chunkText lexicalRank vectorRank ≤
      rankScore lower query chunkText lexicalRank' vectorRank' := by
  have hbase : min 1 (reciprocal lexicalRank vectorRank * (61 / 2)) ≤
      min 1 (reciprocal lexicalRank' vectorRank' * (61 / 2)) := by
    rw [reciprocal_eq, reciprocal_eq]
    have hfirst := hlexical.share_le
    have hsecond := hvector.share_le
    gcongr
  rw [rankScore, rankScore, hlexical.1]
  split
  · gcongr
  · exact hbase

theorem withPriority_le (metadataJson : List (String × JsonValue)) {score score' : ℚ}
    (hle : score ≤ score') : withPriority metadataJson score ≤ withPriority metadataJson score' := by
  rw [withPriority, withPriority]
  split
  · gcongr
  · exact hle

/-- Better ranks give no lower score. -/
theorem fusedScore_le {lexicalRank vectorRank lexicalRank' vectorRank' : Option Nat}
    (hlexical : Improves lexicalRank' lexicalRank) (hvector : Improves vectorRank' vectorRank) :
    fusedScore lower query row lexicalRank vectorRank ≤
      fusedScore lower query row lexicalRank' vectorRank' := by
  have hscore := rankScore_le lower query hlexical hvector row.chunk.chunkText
  rw [fusedScore, fusedScore]
  cases row.document.sourceType with
  | faq => exact withPriority_le row.chunk.metadataJson hscore
  | markdown => exact hscore

end Scores

/-! ## Ranks and rows -/

section Rows

variable {F : Type} {lexical vector rows better : List (SearchRow F)} {row : SearchRow F}

/-- The chunk a row is about -/
def chunkId (row : SearchRow F) : UUID := row.chunk.id

theorem Moved.perm {α : Type} {item : α} {items better : List α} (hmoved : Moved item items better) :
    items.Perm better := by
  obtain ⟨before, middle, after, rfl, rfl⟩ := hmoved
  rw [List.append_assoc]
  exact List.Perm.append_left before List.perm_middle

/-- Ranks count from one where no chunk is found twice. -/
theorem rankDict_lookup {before after : List (SearchRow F)}
    (hids : ((before ++ row :: after).map chunkId).Nodup) :
    (rankDict (before ++ row :: after)).lookup (chunkId row) = some (before.length + 1) := by
  have hranked : (row, before.length + 1) ∈ (before ++ row :: after).zipIdx 1 := by
    rw [List.mk_mem_zipIdx_iff_le_and_getElem?_sub]
    exact ⟨Nat.le_add_left 1 _, by simp⟩
  have hkeys : (((before ++ row :: after).zipIdx 1).map fun ranked => chunkId ranked.1).Nodup := by
    have hmap := List.map_map (f := Prod.fst) (g := chunkId)
      (l := (before ++ row :: after).zipIdx 1)
    rw [List.zipIdx_map_fst] at hmap
    exact hmap ▸ hids
  exact Entries.lookup_fill_of_mem (fun ranked : SearchRow F × Nat => chunkId ranked.1) Prod.snd
    hkeys hranked

/-- The chunk that is moved has the better rank. -/
theorem Moved.improves (hmoved : Moved row rows better) (hids : (rows.map chunkId).Nodup) :
    Improves ((rankDict better).lookup (chunkId row)) ((rankDict rows).lookup (chunkId row)) := by
  have hids' := (hmoved.perm.map chunkId).nodup_iff.mp hids
  obtain ⟨before, middle, after, rfl, rfl⟩ := hmoved
  rw [rankDict_lookup hids, rankDict_lookup hids']
  apply improves_some
  rw [List.length_append]
  omega

/-- Moving a chunk leaves the rows what they were. -/
theorem rowDict_lookup_perm {lexical' vector' : List (SearchRow F)}
    (hlexical : lexical.Perm lexical') (hvector : vector.Perm vector')
    (hlexicalIds : (lexical.map chunkId).Nodup) (hvectorIds : (vector.map chunkId).Nodup)
    (id : UUID) : (rowDict lexical vector).lookup id = (rowDict lexical' vector').lookup id :=
  Entries.lookup_fill_perm _ _ hvector hvectorIds
    (Entries.lookup_fill_perm _ _ hlexical hlexicalIds rfl)

theorem nodup_rowDict : ((rowDict lexical vector).map Prod.fst).Nodup :=
  Entries.nodup_fill _ _ vector (Entries.nodup_fill _ _ lexical List.nodup_nil)

/-- A row is kept under the id of its chunk. -/
theorem rowDict_key {id : UUID} (hrow : (rowDict lexical vector).lookup id = some row) :
    chunkId row = id :=
  Entries.forall_lookup_fill (P := fun id row => chunkId row = id) _ _ vector
    (fun _ hvalue => Entries.forall_lookup_fill (P := fun id row => chunkId row = id) _ _
      lexical (fun _ hnone => by cases hnone) (fun _ _ => rfl) hvalue)
    (fun _ _ => rfl) hrow

/-- The chunk of every row of either search is kept. -/
theorem exists_rowDict (hrow : row ∈ lexical ++ vector) :
    ∃ other, (rowDict lexical vector).lookup (chunkId row) = some other := by
  have hhas : Entries.Has (rowDict lexical vector) (chunkId row) := by
    rw [rowDict, Entries.has_fill, Entries.has_fill]
    rcases List.mem_append.mp hrow with hlexical | hvector
    · exact .inr (.inl (List.mem_map_of_mem hlexical))
    · exact .inl (List.mem_map_of_mem hvector)
  exact Option.isSome_iff_exists.mp (Entries.has_iff_lookup.mp hhas)

end Rows

/-! ## Candidates -/

section Candidates

variable {F : Type} (lower : Text → Text) (lexical vector : List (SearchRow F)) (query : Text)

theorem mem_candidates {chunk : Knowledge.RetrievedKnowledgeChunk} :
    chunk ∈ candidates lower lexical vector query ↔
      ∃ row, (rowDict lexical vector).lookup (chunkId row) = some row ∧
        scoredChunk lower lexical vector query (chunkId row, row) = chunk := by
  rw [candidates, List.mem_map]
  constructor
  · rintro ⟨⟨id, row⟩, hentry, hchunk⟩
    have hlookup := (Entries.mem_iff_lookup nodup_rowDict).mp hentry
    have hid := rowDict_key hlookup
    rw [← hid] at hlookup hchunk
    exact ⟨row, hlookup, hchunk⟩
  · rintro ⟨row, hlookup, hchunk⟩
    exact ⟨_, (Entries.mem_iff_lookup nodup_rowDict).mpr hlookup, hchunk⟩

/-- No chunk is scored twice. -/
theorem nodup_candidates : ((candidates lower lexical vector query).map (·.chunkId)).Nodup := by
  have hids : (candidates lower lexical vector query).map (·.chunkId) =
      (rowDict lexical vector).map Prod.fst := by
    rw [candidates, List.map_map]
    apply List.map_congr_left
    rintro ⟨id, row⟩ hentry
    exact rowDict_key ((Entries.mem_iff_lookup nodup_rowDict).mp hentry)
  rw [hids]
  exact nodup_rowDict

theorem candidates_range {chunk : Knowledge.RetrievedKnowledgeChunk}
    (hchunk : chunk ∈ candidates lower lexical vector query) :
    0 ≤ chunk.score ∧ chunk.score ≤ 1 := by
  obtain ⟨row, _, rfl⟩ := (mem_candidates lower lexical vector query).mp hchunk
  exact fusedScore_range lower query row _ _

/-- Every chunk found is scored. -/
theorem exists_candidate {row : SearchRow F} (hrow : row ∈ lexical ++ vector) :
    ∃ chunk ∈ candidates lower lexical vector query, chunk.chunkId = chunkId row := by
  obtain ⟨other, hother⟩ := exists_rowDict hrow
  have hid := rowDict_key hother
  refine ⟨_, (mem_candidates lower lexical vector query).mpr ⟨other, ?_, rfl⟩, hid⟩
  rw [hid]
  exact hother

variable {lexical vector}

/-- With the same rows and better ranks, a chunk is found at no lower score. -/
theorem noWorse_of_improves {lexical' vector' : List (SearchRow F)} {id : UUID}
    (hrows : (rowDict lexical vector).lookup id = (rowDict lexical' vector').lookup id)
    (hlexical : Improves ((rankDict lexical').lookup id) ((rankDict lexical).lookup id))
    (hvector : Improves ((rankDict vector').lookup id) ((rankDict vector).lookup id)) :
    NoWorse id (candidates lower lexical vector query)
      (candidates lower lexical' vector' query) := by
  intro chunk hchunk hid
  obtain ⟨row, hrow, rfl⟩ := (mem_candidates lower lexical vector query).mp hchunk
  have hkey : chunkId row = id := hid
  subst hkey
  refine ⟨scoredChunk lower lexical' vector' query (chunkId row, row), ?_, rfl, ?_⟩
  · exact (mem_candidates lower lexical' vector' query).mpr ⟨row, hrows ▸ hrow, rfl⟩
  · exact fusedScore_le lower query row hlexical hvector

end Candidates

/-! ## The chunks returned -/

section Returned

variable {F : Type} (lower : Text → Text) (lexical vector : List (SearchRow F)) (query : Text)

theorem sortKey_le {first second : Knowledge.RetrievedKnowledgeChunk}
    (hle : sortKey first ≤ sortKey second) :
    second.score < first.score ∨
      first.score = second.score ∧ UUID.str first.chunkId ≤ UUID.str second.chunkId := by
  rcases Prod.Lex.toLex_le_toLex.mp hle with hlt | ⟨heq, hstr⟩
  · exact .inl (neg_lt_neg_iff.mp hlt)
  · exact .inr ⟨neg_inj.mp heq, hstr⟩

theorem score_le_of_sortKey {first second : Knowledge.RetrievedKnowledgeChunk}
    (hle : sortKey first ≤ sortKey second) : second.score ≤ first.score := by
  rcases sortKey_le hle with hlt | ⟨heq, _⟩
  · exact hlt.le
  · exact heq.ge

theorem bestChunks_fuse {resultLimit : Nat} (hlimit : 0 < resultLimit) :
    BestChunks (candidates lower lexical vector query)
      (fuse lower lexical vector query resultLimit) resultLimit := by
  have hperm := List.perm_insertionSort (fun first second : Knowledge.RetrievedKnowledgeChunk =>
    sortKey first ≤ sortKey second) (candidates lower lexical vector query)
  have hsorted := List.pairwise_insertionSort (fun first second : Knowledge.RetrievedKnowledgeChunk =>
    sortKey first ≤ sortKey second) (candidates lower lexical vector query)
  have hbest : BestOfKinds (fun item => item.checksum)
      (fun first second => sortKey first ≤ sortKey second) resultLimit _
      (fuse lower lexical vector query resultLimit) :=
    bestOfKinds (fun item => le_refl (sortKey item)) hlimit hsorted
  have hitem {item : Knowledge.RetrievedKnowledgeChunk}
      (hmem : item ∈ candidates lower lexical vector query) := hperm.mem_iff.mpr hmem
  have hfound : ∀ chunk ∈ fuse lower lexical vector query resultLimit,
      chunk ∈ candidates lower lexical vector query := fun chunk hchunk =>
    hperm.mem_iff.mp (hbest.sublist.mem hchunk)
  have hids : ((fuse lower lexical vector query resultLimit).map (·.chunkId)).Nodup :=
    (hbest.sublist.map _).nodup
      ((hperm.map (·.chunkId)).nodup_iff.mpr (nodup_candidates lower lexical vector query))
  exact
    { retrieved := hfound
      length := hbest.length
      distinct := hbest.distinct
      ordered := by
        have hdifferent := List.pairwise_map.mp hids
        refine List.Pairwise.imp₂ ?_ (hsorted.sublist hbest.sublist) hdifferent
        intro first second hle hne
        rcases sortKey_le hle with hlt | ⟨heq, hstr⟩
        · exact .inl hlt
        · exact .inr ⟨heq, lt_of_le_of_ne hstr fun hsame => hne (UUID.str_injective hsame)⟩
      range := fun chunk hchunk =>
        candidates_range lower lexical vector query (hfound chunk hchunk)
      best := fun chunk hchunk other hother hchecksum =>
        score_le_of_sortKey (hbest.ofKind chunk hchunk other (hitem hother) hchecksum)
      omitted := fun _ chunk hchunk other hother hchecksum =>
        score_le_of_sortKey (hbest.ofOthers chunk hchunk other (hitem hother) hchecksum)
      complete := fun hfew other hother => hbest.complete hfew other (hitem hother) }

variable {lexical vector}

/-- Fusion returns the best chunks of different texts, and a chunk that moves to a better
rank in one search is scored no lower. -/
theorem fuse_best (hlexical : (lexical.map chunkId).Nodup) (hvector : (vector.map chunkId).Nodup)
    {resultLimit : Nat} (hlimit : 0 < resultLimit) :
    BestChunks (candidates lower lexical vector query)
        (fuse lower lexical vector query resultLimit) resultLimit ∧
      (∀ row ∈ lexical ++ vector,
        ∃ chunk ∈ candidates lower lexical vector query, chunk.chunkId = chunkId row) ∧
      (∀ row better, Moved row lexical better →
        NoWorse (chunkId row) (candidates lower lexical vector query)
          (candidates lower better vector query)) ∧
      ∀ row better, Moved row vector better →
        NoWorse (chunkId row) (candidates lower lexical vector query)
          (candidates lower lexical better query) := by
  refine ⟨bestChunks_fuse lower lexical vector query hlimit,
    fun row hrow => exists_candidate lower lexical vector query hrow,
    fun row better hmoved => ?_, fun row better hmoved => ?_⟩
  · exact noWorse_of_improves lower query
      (rowDict_lookup_perm hmoved.perm (List.Perm.refl vector) hlexical hvector _)
      (hmoved.improves hlexical) (Improves.refl _)
  · exact noWorse_of_improves lower query
      (rowDict_lookup_perm (List.Perm.refl lexical) hmoved.perm hlexical hvector _)
      (Improves.refl _) (hmoved.improves hvector)

end Returned

/-! ## A small search -/

namespace SmallSearch

def document : KnowledgeDocumentRow where
  id := 1
  tenantId := 1
  title := "Delivery".toList
  sourceType := .faq
  checksum := List.replicate 64 'a'
  sourceText := "Delivery takes two days".toList
  version := 1
  status := .ready
  publishedAt := some 0

def row (id : UUID) (text : Text) : SearchRow Nat where
  chunk :=
    { id := id
      tenantId := 1
      documentId := 1
      documentVersion := 1
      ordinal := 0
      chunkText := text
      tokenCount := 1
      embedding := none
      instructionRisk := false
      metadataJson := [("section", .text "FAQ".toList), ("priority", .int 50)]
      checksum := text }
  document := document
  priorityValid := by
    intro priority hpriority
    cases hpriority
    decide

def delivery : SearchRow Nat := row 2 "Delivery takes two days".toList

def returns : SearchRow Nat := row 3 "Returns are free".toList

end SmallSearch

open SmallSearch in
/-- Of two chunks found, the one asked for comes first when it moves up. -/
theorem fuse_best_moved :
    NoWorse 3 (candidates (List.map Char.toLower) [delivery, returns] [delivery] "returns".toList)
      (candidates (List.map Char.toLower) [returns, delivery] [delivery] "returns".toList) := by
  have hlexical : ([delivery, returns].map chunkId).Nodup := by decide
  have hvector : ([delivery].map chunkId).Nodup := by decide
  have hlimit : 0 < 4 := by decide
  obtain ⟨_, _, hmoved, _⟩ :=
    fuse_best (List.map Char.toLower) "returns".toList hlexical hvector hlimit
  exact hmoved returns [returns, delivery] ⟨[], [delivery], [], rfl, rfl⟩

end BusinessAssistant.Persistence
