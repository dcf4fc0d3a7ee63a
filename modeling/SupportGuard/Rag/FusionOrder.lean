import SupportGuard.Foundation.Newest
import SupportGuard.Foundation.RankFusion
import SupportGuard.Rag.ComparisonLanes

/-! # How a fusion orders its hits

`reciprocal_rank_fusion` with exact scores: the score of a hit is what the channels give it, and
the bonus of its document, which hits of one document have in common. -/

namespace SupportGuard

open Foundation Fallible RankFusion

namespace Retrieval

/-- Scores without rounding. -/
def exactDoubles : Doubles ℚ where
  ofInt value := value
  add := (· + ·)
  reciprocal rank := 1 / rank
  coherenceWeight score := 3 / 20 * score
  sum := List.sum
  timestamp instant := instant.microseconds

abbrev ExactChunk : Type :=
  ParsedChunk ℚ

def chunkIds (channel : List ExactChunk) : List String :=
  channel.map ParsedChunk.chunkId

/-! ## Scores -/

/-- The score a table has for an id. -/
def scoreIn (merged : List (String × RankedChunk ℚ)) (id : String) : ℚ :=
  (merged.lookup id).elim 0 RankedChunk.rrfScore

/-- The hit adds the reciprocal of its rank. -/
def AddsReciprocal (hit : Nat → ExactChunk → RankedChunk ℚ → RankedChunk ℚ) : Prop :=
  ∀ rank chunk item, (hit rank chunk item).rrfScore =
    item.rrfScore + 1 / ((rankConstant + rank : Nat) : ℚ)

theorem vectorHit_adds : AddsReciprocal (vectorHit exactDoubles) := fun _ _ _ => rfl

theorem keywordHit_adds : AddsReciprocal (keywordHit exactDoubles) := fun _ _ _ => rfl

variable {hit : Nat → ExactChunk → RankedChunk ℚ → RankedChunk ℚ}

theorem scoreIn_recallHit (adds : AddsReciprocal hit) (merged : List (String × RankedChunk ℚ))
    (ranked : ExactChunk × Nat) (id : String) :
    scoreIn (recallHit exactDoubles hit merged ranked) id = scoreIn merged id +
      if ranked.1.chunkId = id then 1 / ((rankConstant + ranked.2 : Nat) : ℚ) else 0 := by
  unfold scoreIn recallHit
  by_cases same : ranked.1.chunkId = id
  · rw [← same, lookup_assign_self, if_pos rfl]
    change (hit _ _ _).rrfScore = _
    rw [adds]
    cases merged.lookup ranked.1.chunkId with
    | none => rfl
    | some item => rfl
  · rw [lookup_assign_of_ne (Ne.symm same), if_neg same, add_zero]

theorem scoreIn_foldl (adds : AddsReciprocal hit) (hits : List (ExactChunk × Nat))
    (merged : List (String × RankedChunk ℚ)) (id : String) :
    scoreIn (hits.foldl (recallHit exactDoubles hit) merged) id = scoreIn merged id +
      (hits.map fun ranked =>
        if ranked.1.chunkId = id then 1 / ((rankConstant + ranked.2 : Nat) : ℚ) else 0).sum := by
  induction hits generalizing merged with
  | nil => exact (add_zero _).symm
  | cons ranked rest induction =>
      rw [List.foldl_cons, induction, scoreIn_recallHit adds, List.map_cons, List.sum_cons,
        add_assoc]

theorem scoreIn_channel (adds : AddsReciprocal hit) {channel : List ExactChunk}
    (distinct : (chunkIds channel).Nodup) (merged : List (String × RankedChunk ℚ)) (id : String) :
    scoreIn ((channel.zipIdx 1).foldl (recallHit exactDoubles hit) merged) id =
      scoreIn merged id + channelScore rankConstant (chunkIds channel) id := by
  rw [scoreIn_foldl adds, sum_reciprocals distinct]
  rfl

theorem scoreIn_of_mem {merged : List (String × RankedChunk ℚ)} (filed : Filed merged)
    {entry : String × RankedChunk ℚ} (member : entry ∈ merged) :
    scoreIn merged entry.2.chunkId = entry.2.rrfScore := by
  have found := (Newest.mem_iff_lookup filed.1).mp member
  rw [scoreIn, filed.2 entry member, found]
  rfl

variable {vector keyword : List ExactChunk}

/-- A hit has the sum of what the two channels give it. -/
theorem mergedHits_score (vectorDistinct : (chunkIds vector).Nodup)
    (keywordDistinct : (chunkIds keyword).Nodup) {entry : String × RankedChunk ℚ}
    (member : entry ∈ mergedHits exactDoubles vector keyword) :
    entry.2.rrfScore = channelScore rankConstant (chunkIds vector) entry.2.chunkId +
      channelScore rankConstant (chunkIds keyword) entry.2.chunkId := by
  rw [← scoreIn_of_mem (mergedHits_filed vector keyword) member, mergedHits,
    scoreIn_channel keywordHit_adds keywordDistinct,
    scoreIn_channel vectorHit_adds vectorDistinct]
  change 0 + _ + _ = _
  rw [zero_add]

/-! ## Which hits there are -/

theorem mem_keys_recall (hits : List (ExactChunk × Nat)) (merged : List (String × RankedChunk ℚ))
    (id : String) : id ∈ (hits.foldl (recallHit exactDoubles hit) merged).map Prod.fst ↔
      id ∈ merged.map Prod.fst ∨ id ∈ hits.map fun ranked => ranked.1.chunkId := by
  induction hits generalizing merged with
  | nil => simp
  | cons ranked rest induction =>
      rw [List.foldl_cons, induction, recallHit, mem_keys_assign, List.map_cons, List.mem_cons]
      tauto

theorem zipIdx_chunkIds (channel : List ExactChunk) :
    ((channel.zipIdx 1).map fun ranked => ranked.1.chunkId) = chunkIds channel := by
  have split := List.map_map (l := channel.zipIdx 1) (f := Prod.fst) (g := ParsedChunk.chunkId)
  rw [List.zipIdx_map_fst] at split
  exact split.symm

theorem mem_keys_mergedHits (vector keyword : List ExactChunk) (id : String) :
    id ∈ (mergedHits exactDoubles vector keyword).map Prod.fst ↔
      id ∈ chunkIds vector ∨ id ∈ chunkIds keyword := by
  rw [mergedHits, mem_keys_recall, mem_keys_recall, zipIdx_chunkIds, zipIdx_chunkIds]
  simp

/-! ## The order of a fusion -/

/-- A hit with the bonus of its document. -/
def coherent (merged : List (RankedChunk ℚ)) (item : RankedChunk ℚ) : RankedChunk ℚ :=
  { item with
    rrfScore := exactDoubles.add item.rrfScore
      (exactDoubles.coherenceWeight (coherence exactDoubles merged item.chunk.documentId)) }

/-- All hits by their scores, before the heads of the channels are moved to the front. -/
def fusedHits (vector keyword : List ExactChunk) : List (RankedChunk ℚ) :=
  let merged := (mergedHits exactDoubles vector keyword).map Prod.snd
  (merged.map (coherent merged)).insertionSort fusedBefore

def channelHeads (vector keyword : List ExactChunk) : List String :=
  chunkIds (vector.take 1 ++ keyword.take 1)

def isHead (vector keyword : List ExactChunk) (item : RankedChunk ℚ) : Bool :=
  item.chunkId ∈ channelHeads vector keyword

theorem reciprocalRankFusion_eq (vector keyword : List ExactChunk) :
    reciprocalRankFusion exactDoubles vector keyword =
      (fusedHits vector keyword).filter (isHead vector keyword) ++
        (fusedHits vector keyword).filter fun item => !isHead vector keyword item := by
  unfold reciprocalRankFusion
  dsimp only
  simp only [decide_not]
  rfl

theorem mem_fusion {item : RankedChunk ℚ} :
    item ∈ reciprocalRankFusion exactDoubles vector keyword ↔ item ∈ fusedHits vector keyword := by
  rw [reciprocalRankFusion_eq]
  exact (List.filter_append_perm _ _).mem_iff

theorem mem_fusedHits {item : RankedChunk ℚ} :
    item ∈ fusedHits vector keyword ↔
      ∃ entry ∈ mergedHits exactDoubles vector keyword,
        item = coherent ((mergedHits exactDoubles vector keyword).map Prod.snd) entry.2 := by
  unfold fusedHits
  rw [(List.perm_insertionSort _ _).mem_iff]
  simp only [List.mem_map]
  constructor
  · intro found
    rcases found with ⟨_, ⟨entry, member, rfl⟩, same⟩
    exact ⟨entry, member, same.symm⟩
  · intro found
    rcases found with ⟨entry, member, same⟩
    exact ⟨entry.2, ⟨entry, member, rfl⟩, same.symm⟩

instance fusedBefore_total : Std.Total (@fusedBefore ℚ _) where
  total left right := by
    rcases lt_trichotomy left.rrfScore right.rrfScore with lower | equal | higher
    · exact .inr (.inl lower)
    · rcases le_total left.chunkId right.chunkId with ordered | ordered
      · exact .inl (.inr ⟨equal, ordered⟩)
      · exact .inr (.inr ⟨equal.symm, ordered⟩)
    · exact .inl (.inl higher)

instance fusedBefore_trans : IsTrans (RankedChunk ℚ) fusedBefore where
  trans first second third firstBefore secondBefore := by
    rcases firstBefore with higher | ⟨equal, ordered⟩
    · rcases secondBefore with further | ⟨level, _⟩
      · exact .inl (further.trans higher)
      · exact .inl (level ▸ higher)
    · rcases secondBefore with further | ⟨level, later⟩
      · exact .inl (equal ▸ further)
      · exact .inr ⟨equal.trans level, ordered.trans later⟩

theorem fusedHits_pairwise (vector keyword : List ExactChunk) :
    (fusedHits vector keyword).Pairwise fusedBefore :=
  List.pairwise_insertionSort fusedBefore _

/-! ## What a fusion promises -/

/-- No channel has the second hit before the first; what a channel does not have comes last. -/
structure NoWorse (vector keyword : List ExactChunk) (first second : RankedChunk ℚ) : Prop where
  vector : (chunkIds vector).idxOf first.chunkId ≤ (chunkIds vector).idxOf second.chunkId
  keyword : (chunkIds keyword).idxOf first.chunkId ≤ (chunkIds keyword).idxOf second.chunkId

structure RespectsChannels (vector keyword : List ExactChunk) (fused : List (RankedChunk ℚ)) :
    Prop where
  distinct : (fused.map RankedChunk.chunkId).Nodup
  complete : ∀ id, id ∈ fused.map RankedChunk.chunkId ↔ id ∈ chunkIds (vector ++ keyword)
  headsFirst : ∃ heads rest, fused = heads ++ rest ∧
    ∀ id, id ∈ heads.map RankedChunk.chunkId ↔ id ∈ channelHeads vector keyword
  dominance : ∀ first ∈ fused, ∀ second ∈ fused,
    first.chunkId ≠ second.chunkId → first.chunk.documentId = second.chunk.documentId →
    NoWorse vector keyword first second → [first, second].Sublist fused

/-- Of two hits of one document the one that no channel has behind scores higher. -/
theorem fused_score_lt (vectorDistinct : (chunkIds vector).Nodup)
    (keywordDistinct : (chunkIds keyword).Nodup) {first second : RankedChunk ℚ}
    (firstMember : first ∈ fusedHits vector keyword)
    (secondMember : second ∈ fusedHits vector keyword) (different : first.chunkId ≠ second.chunkId)
    (document : first.chunk.documentId = second.chunk.documentId)
    (noWorse : NoWorse vector keyword first second) : second.rrfScore < first.rrfScore := by
  rcases mem_fusedHits.mp firstMember with ⟨entry, member, firstIs⟩
  rcases mem_fusedHits.mp secondMember with ⟨other, otherMember, secondIs⟩
  have present := (mem_keys_mergedHits vector keyword entry.1).mp (List.mem_map_of_mem member)
  have key := (mergedHits_filed vector keyword).2 entry member
  have firstScore := mergedHits_score vectorDistinct keywordDistinct member
  have secondScore := mergedHits_score vectorDistinct keywordDistinct otherMember
  subst firstIs secondIs
  change entry.2.chunkId ≠ other.2.chunkId at different
  change entry.2.chunk.documentId = other.2.chunk.documentId at document
  rcases noWorse with ⟨byVector, byKeyword⟩
  change (chunkIds vector).idxOf entry.2.chunkId ≤ (chunkIds vector).idxOf other.2.chunkId
    at byVector
  change (chunkIds keyword).idxOf entry.2.chunkId ≤ (chunkIds keyword).idxOf other.2.chunkId
    at byKeyword
  have channels : channelScore rankConstant (chunkIds vector) other.2.chunkId +
        channelScore rankConstant (chunkIds keyword) other.2.chunkId <
      channelScore rankConstant (chunkIds vector) entry.2.chunkId +
        channelScore rankConstant (chunkIds keyword) entry.2.chunkId := by
    rw [← key] at present
    rcases present with inVector | inKeyword
    · exact add_lt_add_of_lt_of_le (channelScore_lt byVector different inVector)
        (channelScore_le byKeyword)
    · exact add_lt_add_of_le_of_lt (channelScore_le byVector)
        (channelScore_lt byKeyword different inKeyword)
  change other.2.rrfScore + _ < entry.2.rrfScore + _
  rw [firstScore, secondScore, document]
  exact add_lt_add_left channels _

/-- Whatever hits two channels bring, each of them once in its channel, their fusion has each
hit once, the heads first, and of one document what no channel has behind. -/
theorem reciprocalRankFusion_respects (vector keyword : List ExactChunk)
    (vectorDistinct : (chunkIds vector).Nodup) (keywordDistinct : (chunkIds keyword).Nodup) :
    RespectsChannels vector keyword (reciprocalRankFusion exactDoubles vector keyword) := by
  have ids : ∀ id, id ∈ (fusedHits vector keyword).map RankedChunk.chunkId ↔
      id ∈ chunkIds (vector ++ keyword) := by
    intro id
    rw [chunkIds, List.map_append, List.mem_append]
    apply Iff.trans _ (mem_keys_mergedHits vector keyword id)
    simp only [List.mem_map, mem_fusedHits]
    constructor
    · intro found
      rcases found with ⟨_, ⟨entry, member, rfl⟩, same⟩
      exact ⟨entry, member, ((mergedHits_filed vector keyword).2 entry member).symm.trans same⟩
    · intro found
      rcases found with ⟨entry, member, same⟩
      exact ⟨_, ⟨entry, member, rfl⟩,
        ((mergedHits_filed vector keyword).2 entry member).trans same⟩
  constructor
  · exact reciprocalRankFusion_distinct vector keyword
  · intro id
    rw [← ids]
    simp only [List.mem_map, mem_fusion]
  · refine ⟨_, _, reciprocalRankFusion_eq vector keyword, ?_⟩
    intro id
    have inFused : id ∈ channelHeads vector keyword →
        id ∈ (fusedHits vector keyword).map RankedChunk.chunkId := by
      intro head
      rw [ids]
      unfold channelHeads chunkIds at head
      unfold chunkIds
      simp only [List.map_append, List.mem_append] at head ⊢
      rcases head with inVector | inKeyword
      · exact .inl (List.map_subset _ (List.take_subset 1 vector) inVector)
      · exact .inr (List.map_subset _ (List.take_subset 1 keyword) inKeyword)
    simp only [List.mem_map, List.mem_filter, isHead, decide_eq_true_eq] at inFused ⊢
    constructor
    · intro found
      rcases found with ⟨item, ⟨_, head⟩, rfl⟩
      exact head
    · intro head
      rcases inFused head with ⟨item, member, rfl⟩
      exact ⟨item, ⟨member, head⟩, rfl⟩
  · intro first firstMember second secondMember different document noWorse
    have score := fused_score_lt vectorDistinct keywordDistinct (mem_fusion.mp firstMember)
      (mem_fusion.mp secondMember) different document noWorse
    have apart : first ≠ second := by
      intro same
      exact different (congrArg RankedChunk.chunkId same)
    rw [reciprocalRankFusion_eq]
    apply sublist_partition
    · apply sublist_of_pairwise (fusedHits_pairwise vector keyword) (mem_fusion.mp firstMember)
        (mem_fusion.mp secondMember) apart
      intro behind
      rcases behind with higher | ⟨equal, _⟩
      · exact absurd higher (not_lt_of_gt score)
      · exact absurd equal (ne_of_lt score)
    · -- Only the head of a channel is no worse than its head.
      intro head
      have headIs := of_decide_eq_true head
      unfold channelHeads chunkIds at headIs
      rw [List.map_append, List.mem_append, List.map_take, List.map_take] at headIs
      rcases headIs with inVector | inKeyword
      · exact absurd (eq_of_idxOf_le noWorse.vector inVector) different
      · exact absurd (eq_of_idxOf_le noWorse.keyword inKeyword) different

/-- A chunk of a manual. -/
def manualChunk (chunkId : String) : ExactChunk where
  chunkId
  documentId := "manual"
  title := "limits".toList
  sectionPath := "limits".toList
  content := "429".toList
  tokenCount := 1
  contentHash := chunkId
  version := "5"
  status := "active"
  effectiveAt := ⟨0, Instant.first_inRange⟩
  effectiveUntil := none
  documentFamilyKey := "limits"
  authorityLevel := 90
  applicablePlan := none
  applicableRegion := none
  sourceLocator := none
  vectorSimilarity := none
  keywordScore := none
  exactTokenMatch := false
  evidenceGroup := none
  origin := .recalled

theorem reciprocalRankFusion_respects_manual :
    RespectsChannels [manualChunk "c1", manualChunk "c2"] [manualChunk "c2", manualChunk "c3"]
      (reciprocalRankFusion exactDoubles [manualChunk "c1", manualChunk "c2"]
        [manualChunk "c2", manualChunk "c3"]) :=
  reciprocalRankFusion_respects _ _ (by decide) (by decide)

end Retrieval

end SupportGuard
