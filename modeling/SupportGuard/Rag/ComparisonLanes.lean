import SupportGuard.Rag.RetrievalAccount

/-! # The lanes of a comparison

A property of the chunks that a lane is given is one of the evidence that it selects, when it does
not depend on what a fusion changes. So the current and the historical evidence stay apart. -/

namespace SupportGuard

open Foundation Fallible

namespace Retrieval

section

variable {Score : Type} {doubles : Doubles Score} {holds : ParsedChunk Score → Prop}

/-! ## Properties of the given chunks -/

/-- A fusion copies a chunk to mark it as an exact match. This does not change the property. -/
def KeptByFusion (holds : ParsedChunk Score → Prop) : Prop :=
  ∀ chunk, holds chunk → holds { chunk with exactTokenMatch := true, origin := .copied }

theorem chunk_keywordHit (kept : KeptByFusion holds) (rank : Nat) (chunk : ParsedChunk Score)
    {item : RankedChunk Score} (before : holds item.chunk) :
    holds (keywordHit doubles rank chunk item).chunk := by
  unfold keywordHit
  dsimp only
  split
  · rename_i marked
    rw [marked.2]
    exact kept _ before
  · exact before

theorem chunks_recall {hit : Nat → ParsedChunk Score → RankedChunk Score → RankedChunk Score}
    (keeps : ∀ rank chunk item, holds item.chunk → holds (hit rank chunk item).chunk)
    {merged : List (String × RankedChunk Score)} {ranked : ParsedChunk Score × Nat}
    (given : holds ranked.1) (before : ∀ entry ∈ merged, holds entry.2.chunk) :
    ∀ entry ∈ recallHit doubles hit merged ranked, holds entry.2.chunk := by
  intro entry member
  rcases mem_assign member with old | new
  · exact before entry old
  · rw [new]
    apply keeps
    cases held : merged.lookup ranked.1.chunkId with
    | none => exact given
    | some item => exact before _ (mem_of_lookup held)

theorem chunks_foldl {hit : Nat → ParsedChunk Score → RankedChunk Score → RankedChunk Score}
    (keeps : ∀ rank chunk item, holds item.chunk → holds (hit rank chunk item).chunk)
    {hits : List (ParsedChunk Score × Nat)} (given : ∀ ranked ∈ hits, holds ranked.1)
    {merged : List (String × RankedChunk Score)}
    (before : ∀ entry ∈ merged, holds entry.2.chunk) :
    ∀ entry ∈ hits.foldl (recallHit doubles hit) merged, holds entry.2.chunk := by
  induction hits generalizing merged with
  | nil => exact before
  | cons ranked rest induction =>
      rcases List.forall_mem_cons.mp given with ⟨first, others⟩
      exact induction others (chunks_recall keeps first before)

variable {hits : List (ParsedChunk Score)}

theorem chunks_zipIdx (given : ∀ hit ∈ hits, holds hit) :
    ∀ ranked ∈ hits.zipIdx 1, holds ranked.1 := by
  intro ranked member
  apply given
  have first := List.mem_map_of_mem (f := Prod.fst) member
  rwa [List.zipIdx_map_fst] at first

/-- The chunks of a fusion are the given ones, up to what it changes. -/
theorem reciprocalRankFusion_chunks [LinearOrder Score] (kept : KeptByFusion holds)
    {vector keyword : List (ParsedChunk Score)} (vectorGiven : ∀ hit ∈ vector, holds hit)
    (keywordGiven : ∀ hit ∈ keyword, holds hit) :
    ∀ item ∈ reciprocalRankFusion doubles vector keyword, holds item.chunk := by
  have merged : ∀ entry ∈ mergedHits doubles vector keyword, holds entry.2.chunk := by
    apply chunks_foldl (fun rank chunk item => chunk_keywordHit kept rank chunk)
      (chunks_zipIdx keywordGiven)
    apply @chunks_foldl _ _ _ (vectorHit doubles) (fun rank chunk item before => before) _
      (chunks_zipIdx vectorGiven)
    intro entry member
    cases member
  intro item member
  have coherent : ∃ source ∈ (mergedHits doubles vector keyword).map Prod.snd,
      source.chunk = item.chunk := by
    unfold reciprocalRankFusion at member
    dsimp only at member
    simp only [decide_not] at member
    have inFused := (List.filter_append_perm _ _).subset member
    have inCoherent := (List.perm_insertionSort _ _).subset inFused
    rcases List.mem_map.mp inCoherent with ⟨source, sourceMember, rfl⟩
    exact ⟨source, sourceMember, rfl⟩
  rcases coherent with ⟨source, sourceMember, same⟩
  rcases List.mem_map.mp sourceMember with ⟨entry, entryMember, rfl⟩
  exact same ▸ merged entry entryMember

/-! ## Selected evidence -/

variable [LinearOrder Score]

omit [LinearOrder Score] in
theorem scopeFamilies_subset {members : List (List (RankedChunk Score))}
    {winners : List (RankedChunk Score)} {omitted : Omissions}
    (returned : scopeFamilies members = .ok (winners, omitted)) :
    winners ⊆ members.flatten := by
  induction members generalizing winners omitted with
  | nil =>
      cases returned
      exact List.Subset.refl _
  | cons family rest induction =>
      unfold scopeFamilies at returned
      split at returned
      · dsimp only at returned
        split at returned
        · cases returned
        · rename_i others later laterReturned
          cases returned
          rw [List.flatten_cons]
          apply List.append_subset.mpr
          constructor
          · exact fun item member =>
              List.mem_append_left _ (List.mem_filter.mp member).1
          · exact fun item member =>
              List.mem_append_right _ (induction laterReturned member)
      · cases returned

omit [LinearOrder Score] in
theorem pick_subset (tokenBudget maxItems : Int) (selected items : List (RankedChunk Score)) :
    (pick tokenBudget maxItems selected items).1 ⊆ selected ++ items := by
  induction items generalizing selected with
  | nil =>
      rw [List.append_nil]
      exact List.Subset.refl _
  | cons item rest induction =>
      unfold pick
      split
      · intro chosen member
        rcases List.mem_append.mp (induction selected member) with before | later
        · exact List.mem_append_left _ before
        · exact List.mem_append_right _ (List.mem_cons_of_mem _ later)
      · intro chosen member
        have found := induction (selected ++ [item]) member
        rwa [List.append_assoc, List.singleton_append] at found

theorem selectEvidence_subset (options : SelectionOptions)
    (candidates : List (RankedChunk Score)) :
    (selectEvidence doubles options candidates).1.chunks ⊆ candidates := by
  unfold selectEvidence
  split
  · exact List.nil_subset _
  · rename_i winners unspecific scoping
    dsimp only
    rw [evidenceOf_chunks]
    intro item member
    have sorted := pick_subset _ _ _ _ member
    rw [List.nil_append] at sorted
    have inWinners := (List.perm_insertionSort _ _).subset sorted
    have admitted := (families_flatten_perm _).subset (scopeFamilies_subset scoping inWinners)
    exact (List.mem_filter.mp admitted).1

variable {service : RetrievalService Score} {lane : Lane Score}

/-- The evidence of a lane keeps a property of its hits, and is marked with the group. -/
theorem Lane.evidence_chunks (kept : KeptByFusion holds)
    (vectorGiven : ∀ hit ∈ lane.vectorHits, holds hit)
    (keywordGiven : ∀ hit ∈ lane.keywordHits, holds hit) :
    ∀ item ∈ (lane.evidence service).chunks, ∃ chunk, holds chunk ∧
      item.chunk = { chunk with evidenceGroup := some lane.group } := by
  intro item member
  unfold Lane.evidence at member
  rcases List.mem_map.mp member with ⟨chosen, chosenMember, rfl⟩
  have eligible := selectEvidence_subset _ _ chosenMember
  rcases Lane.judgedFrom_of_mem (List.mem_filter.mp eligible).1 with ⟨original, fused, judged⟩
  refine ⟨original.chunk, ?_, ?_⟩
  · exact reciprocalRankFusion_chunks kept vectorGiven keywordGiven original fused
  · rw [judged.chunk_eq]

/-! ## Two lanes -/

omit [LinearOrder Score] in
theorem mem_copyMatching {predicate : ParsedChunk Score → Bool} {hit : ParsedChunk Score}
    (member : hit ∈ RetrievalRequest.copyMatching hits predicate) :
    ∃ source, predicate source = true ∧ hit = { source with origin := .copied } := by
  rcases List.mem_map.mp member with ⟨source, sourceMember, rfl⟩
  exact ⟨source, (List.mem_filter.mp sourceMember).2, rfl⟩

variable (service) in
/-- The lanes that a comparison builds. -/
def RetrievalRequest.comparedLanes (request : RetrievalRequest Score) : List (Lane Score) :=
  request.currentLane :: request.historicalLanes service (request.currentLane.evidence service)

variable (service) in
/-- What a historical chunk satisfies: the anchors of the request, or it explains a transition. -/
def RetrievalRequest.Anchors (request : RetrievalRequest Score) (chunk : ParsedChunk Score) :
    Prop :=
  if request.anchored then
    (∀ version, request.historicalVersion = some version → chunk.version = version) ∧
      ∀ asOf, request.explicitAsOf = some asOf → intervalContains chunk asOf = true
  else 0 < historicalTransitionScore service.casefold chunk

/-- What a chunk is a part of. -/
def publication (item : RankedChunk Score) : String × String :=
  (item.chunk.documentId, item.chunk.version)

def RetrievalResult.group (result : RetrievalResult Score) (group : EvidenceGroup) :
    List (RankedChunk Score) :=
  result.evidence.chunks.filter fun item => item.chunk.evidenceGroup = some group

variable (service) in
/-- The current and the historical evidence of a comparison stay apart. -/
structure RetrievalRequest.Isolates (request : RetrievalRequest Score)
    (result : RetrievalResult Score) : Prop where
  current : ∀ item ∈ result.group .current,
    item.chunk.status = "active" ∧ intervalContains item.chunk request.now = true
  historical : ∀ item ∈ result.group .historical, request.Anchors service item.chunk
  discovered : request.anchored = false → ∀ item ∈ result.group .historical,
    (∀ other ∈ result.group .historical, publication other = publication item) ∧
      ∀ other ∈ result.group .current, publication other ≠ publication item
  grouped : result.evidence.chunks = result.group .current ++ result.group .historical
  refusal : result.evidence.refusalReason = none ↔
    result.group .current ≠ [] ∧ result.group .historical ≠ [] ∧
      ∀ lane ∈ result.lanes, lane.evidence.conflict = false
  /-- What the lanes write, they write into copies of the hits. -/
  copies : ∀ lane ∈ request.comparedLanes service, ∀ item ∈ lane.fusedHits service,
    item.chunk.origin = .copied

/-! ## What the lanes are given -/

omit [LinearOrder Score] in
theorem RetrievalRequest.currentLane_given {request : RetrievalRequest Score} :
    ∀ hit ∈ copyMatching hits request.currentPredicate,
      hit.status = "active" ∧ intervalContains hit request.now = true := by
  intro hit member
  rcases mem_copyMatching member with ⟨source, admitted, rfl⟩
  rw [currentPredicate, Bool.and_eq_true, decide_eq_true_eq] at admitted
  exact admitted

omit [LinearOrder Score] in
/-- The score reads the path and the content of a chunk. -/
theorem historicalTransitionScore_congr {casefold : List Char → List Char}
    {chunk other : ParsedChunk Score} (path : chunk.sectionPath = other.sectionPath)
    (content : chunk.content = other.content) :
    historicalTransitionScore casefold chunk = historicalTransitionScore casefold other := by
  unfold historicalTransitionScore
  rw [path, content]

variable (service) in
/-- A chunk of the lane of a selector. -/
structure RetrievalRequest.Selects (request : RetrievalRequest Score)
    (selector : Option String × Option String) (chunk : ParsedChunk Score) : Prop where
  anchors : request.Anchors service chunk
  published : request.anchored = false → (some chunk.documentId, some chunk.version) = selector

variable {request : RetrievalRequest Score}

variable {selector : Option String × Option String}

omit [LinearOrder Score] in
theorem RetrievalRequest.Selects.congr {chunk other : ParsedChunk Score}
    (selects : request.Selects service selector chunk)
    (document : other.documentId = chunk.documentId) (version : other.version = chunk.version)
    (path : other.sectionPath = chunk.sectionPath) (content : other.content = chunk.content)
    (start : other.effectiveAt = chunk.effectiveAt)
    (stop : other.effectiveUntil = chunk.effectiveUntil) :
    request.Selects service selector other := by
  constructor
  · have anchors := selects.anchors
    unfold Anchors at anchors ⊢
    unfold intervalContains at anchors ⊢
    rw [version, start, stop, historicalTransitionScore_congr path content]
    exact anchors
  · rw [document, version]
    exact selects.published

variable {current : EvidenceSet Score}

theorem RetrievalRequest.historicalLane_given
    (chosen : selector ∈ request.candidateSelectors service current) :
    ∀ hit ∈ copyMatching hits (request.historicalPredicate service selector),
      request.Selects service selector hit := by
  intro hit member
  rcases mem_copyMatching member with ⟨source, admitted, rfl⟩
  apply Selects.congr _ rfl rfl rfl rfl rfl rfl
  unfold historicalPredicate at admitted
  by_cases anchored : request.anchored = true
  · rw [candidateSelectors, if_pos anchored, List.mem_singleton] at chosen
    rw [if_pos anchored, chosen] at admitted
    constructor
    · rw [Anchors, if_pos anchored]
      split at admitted
      · cases admitted
      · rename_i sameVersion
        constructor
        · intro version given
          rw [given, Option.any_some] at sameVersion
          simpa using sameVersion
        · intro asOf given
          rw [given] at admitted
          exact admitted
    · intro unanchored
      rw [anchored] at unanchored
      cases unanchored
  · rw [if_neg anchored, Bool.and_eq_true, Bool.and_eq_true, decide_eq_true_eq,
      decide_eq_true_eq, decide_eq_true_eq] at admitted
    constructor
    · rw [Anchors, if_neg anchored]
      exact admitted.2
    · intro _
      rw [admitted.1.1, admitted.1.2]

/-- Without an anchor, no current chunk is of a selected publication. -/
theorem RetrievalRequest.candidateSelectors_apart (unanchored : request.anchored = false)
    (chosen : selector ∈ request.candidateSelectors service current) :
    ∀ item ∈ current.chunks, (some item.chunk.documentId, some item.chunk.version) ≠ selector := by
  have given (hits : List (ParsedChunk Score)) :
      ∀ hit ∈ discoveryHits service current hits,
        ∀ item ∈ current.chunks, publication item ≠ (hit.documentId, hit.version) := by
    intro hit member item itemMember same
    have admitted := (List.mem_filter.mp member).2
    rw [Bool.and_eq_true, Bool.and_eq_true, decide_eq_true_eq, decide_eq_true_eq] at admitted
    exact admitted.1.2 (List.mem_map.mpr ⟨item, itemMember, same⟩)
  have apart := @reciprocalRankFusion_chunks _ service.doubles
    (fun chunk => ∀ item ∈ current.chunks,
      publication item ≠ (chunk.documentId, chunk.version)) _
    (fun chunk before => before) _ _ (given request.vectorHits) (given request.keywordHits)
  rw [candidateSelectors, unanchored, if_neg Bool.false_ne_true, Grouping.mem_distinct] at chosen
  rcases List.mem_map.mp chosen with ⟨item, itemMember, rfl⟩
  have ranked := List.mem_of_mem_take (List.mem_filter.mp itemMember).1
  have discovered := (List.perm_insertionSort _ _).subset ranked
  intro other otherMember same
  apply apart item discovered other otherMember
  rw [Prod.mk.injEq, Option.some.injEq, Option.some.injEq] at same
  exact Prod.ext same.1 same.2

/-! ## Results -/

theorem RetrievalRequest.currentLane_chunks {item : RankedChunk Score}
    (member : item ∈ (request.currentLane.evidence service).chunks) :
    item.chunk.evidenceGroup = some .current ∧
      item.chunk.status = "active" ∧ intervalContains item.chunk request.now = true := by
  rcases @Lane.evidence_chunks _ (fun chunk =>
      chunk.status = "active" ∧ intervalContains chunk request.now = true) _ _ _
    (fun chunk before => before) request.currentLane_given request.currentLane_given item member
    with ⟨chunk, active, same⟩
  rw [same]
  exact ⟨rfl, active⟩

theorem RetrievalRequest.historicalLane_chunks
    (chosen : selector ∈ request.candidateSelectors service current) {item : RankedChunk Score}
    (member : item ∈ ((request.historicalLane service current selector).evidence service).chunks) :
    item.chunk.evidenceGroup = some .historical ∧ request.Selects service selector item.chunk := by
  rcases @Lane.evidence_chunks _ (request.Selects service selector) _ _ _
    (fun chunk before => before.congr rfl rfl rfl rfl rfl rfl)
    (RetrievalRequest.historicalLane_given chosen) (RetrievalRequest.historicalLane_given chosen)
    item member with ⟨chunk, selects, same⟩
  rw [same]
  exact ⟨rfl, selects.congr rfl rfl rfl rfl rfl rfl⟩

/-- A comparison publishes its current lane and, if one is selected, a historical lane. -/
theorem RetrievalRequest.buildPublishedComparison_returns {result : RetrievalResult Score}
    (returned : request.buildPublishedComparison service = .ok result) :
    ∃ (current : LaneResult Score)
      (selected : Option ((Option String × Option String) × LaneResult Score)),
      current.evidence = request.currentLane.evidence service ∧
      (∀ built ∈ selected, built.1 ∈ request.candidateSelectors service current.evidence ∧
        built.2.evidence =
          (request.historicalLane service current.evidence built.1).evidence service) ∧
      result.evidence = comparedEvidence current.evidence
        (selected.map fun built => built.2.evidence) ∧
      result.lanes = current :: (selected.map Prod.snd).toList := by
  rcases bind_eq_ok_iff.mp returned with ⟨current, built, returned⟩
  rcases bind_eq_ok_iff.mp returned with ⟨historical, mapped, equal⟩
  rcases Lane.build_eq_ok_iff.mp built with ⟨_, omissions, _, currentEqual⟩
  cases equal
  refine ⟨current, _, by rw [currentEqual], ?_, rfl, rfl⟩
  intro found chosen
  have paired := greatest?_mem chosen
  refine ⟨(List.of_mem_zip paired).1, ?_⟩
  have builtEach := mapM_forall₂ mapped
  rw [historicalLanes, List.forall₂_map_left_iff] at builtEach
  rcases Lane.build_eq_ok_iff.mp (List.forall₂_zip builtEach paired) with ⟨_, _, _, foundEqual⟩
  rw [foundEqual]

omit [LinearOrder Score] in
theorem RetrievalRequest.comparedEvidence_refusal {historical : Option (EvidenceSet Score)} :
    (comparedEvidence current historical).refusalReason = none ↔
      current.chunks ≠ [] ∧ (∃ older ∈ historical, older.chunks ≠ []) ∧
        current.conflict = false ∧ ∀ older ∈ historical, older.conflict = false := by
  unfold comparedEvidence
  dsimp only
  cases historical with
  | none => simp
  | some older =>
      simp only [Option.getD_some, Option.mem_def, Option.some.injEq, exists_eq_left',
        forall_eq', List.isEmpty_iff]
      by_cases missing : current.chunks = [] ∨ older.chunks = []
      · rw [if_pos missing]
        constructor
        · intro reason
          cases reason
        · intro complete
          rcases missing with nothing | nothing
          · exact absurd nothing complete.1
          · exact absurd nothing complete.2.1
      · rw [if_neg missing]
        rcases not_or.mp missing with ⟨first, second⟩
        cases current.conflict with
        | true => simp
        | false =>
            cases older.conflict with
            | true => simp
            | false => simp [first, second]

omit [LinearOrder Score] in
/-- The published groups are the current lane and the historical lane that is selected. -/
theorem RetrievalResult.groups_eq {result : RetrievalResult Score}
    {current historical : List (RankedChunk Score)}
    (chunks : result.evidence.chunks = current ++ historical)
    (currentMarked : ∀ item ∈ current, item.chunk.evidenceGroup = some .current)
    (historicalMarked : ∀ item ∈ historical, item.chunk.evidenceGroup = some .historical) :
    result.group .current = current ∧ result.group .historical = historical := by
  have outside {items : List (RankedChunk Score)} {group other : EvidenceGroup}
      (different : group ≠ other)
      (marked : ∀ item ∈ items, item.chunk.evidenceGroup = some group) :
      (items.filter fun item => item.chunk.evidenceGroup = some other) = [] := by
    rw [List.filter_eq_nil_iff]
    intro item member same
    rw [decide_eq_true_eq, marked item member, Option.some.injEq] at same
    exact different same
  have inside {items : List (RankedChunk Score)} {group : EvidenceGroup}
      (marked : ∀ item ∈ items, item.chunk.evidenceGroup = some group) :
      (items.filter fun item => item.chunk.evidenceGroup = some group) = items := by
    rw [List.filter_eq_self]
    intro item member
    exact decide_eq_true (marked item member)
  unfold RetrievalResult.group
  rw [chunks, List.filter_append, List.filter_append, inside currentMarked,
    inside historicalMarked, outside _ historicalMarked, outside _ currentMarked,
    List.append_nil, List.nil_append]
  · exact ⟨rfl, rfl⟩
  · intro same
    cases same
  · intro same
    cases same

theorem Lane.fusedHits_copied (vectorGiven : ∀ hit ∈ lane.vectorHits, hit.origin = .copied)
    (keywordGiven : ∀ hit ∈ lane.keywordHits, hit.origin = .copied) :
    ∀ item ∈ lane.fusedHits service, item.chunk.origin = .copied :=
  @reciprocalRankFusion_chunks _ _ (fun chunk => chunk.origin = .copied) _
    (fun _ _ => rfl) _ _ vectorGiven keywordGiven

omit [LinearOrder Score] in
theorem copyMatching_copied {predicate : ParsedChunk Score → Bool} :
    ∀ hit ∈ RetrievalRequest.copyMatching hits predicate, hit.origin = .copied := by
  intro hit member
  rcases mem_copyMatching member with ⟨source, _, rfl⟩
  rfl

theorem RetrievalRequest.comparedLanes_copied :
    ∀ lane ∈ request.comparedLanes service, ∀ item ∈ lane.fusedHits service,
      item.chunk.origin = .copied := by
  intro lane member
  rcases List.mem_cons.mp member with same | historical
  · rw [same]
    exact Lane.fusedHits_copied copyMatching_copied copyMatching_copied
  · rcases List.mem_map.mp historical with ⟨selector, _, rfl⟩
    exact Lane.fusedHits_copied copyMatching_copied copyMatching_copied

/-- The chunks of the historical lane that is selected. -/
def selectedChunks :
    Option ((Option String × Option String) × LaneResult Score) → List (RankedChunk Score)
  | none => []
  | some built => built.2.evidence.chunks

omit [LinearOrder Score] in
theorem RetrievalRequest.comparedEvidence_chunks
    {selected : Option ((Option String × Option String) × LaneResult Score)} :
    (comparedEvidence current (selected.map fun built => built.2.evidence)).chunks =
      current.chunks ++ selectedChunks selected := by
  cases selected with
  | none => rfl
  | some built => rfl

/-- What a comparison returns keeps the current and the historical evidence apart. -/
theorem buildPublishedComparison_isolates (request : RetrievalRequest Score)
    (result : RetrievalResult Score)
    (returned : request.buildPublishedComparison service = .ok result) :
    request.Isolates service result := by
  rcases RetrievalRequest.buildPublishedComparison_returns returned with
    ⟨current, selected, currentEvidence, built, resultEvidence, resultLanes⟩
  have chunks : result.evidence.chunks = current.evidence.chunks ++ selectedChunks selected := by
    rw [resultEvidence, RetrievalRequest.comparedEvidence_chunks]
  have currentGroup : ∀ item ∈ current.evidence.chunks, item.chunk.evidenceGroup = some .current ∧
      item.chunk.status = "active" ∧ intervalContains item.chunk request.now = true := by
    rw [currentEvidence]
    exact fun item => RetrievalRequest.currentLane_chunks
  have historicalGroup : ∀ item ∈ selectedChunks selected,
      item.chunk.evidenceGroup = some .historical ∧
      ∃ selector ∈ request.candidateSelectors service current.evidence,
        request.Selects service selector item.chunk ∧
        ∀ other ∈ selectedChunks selected, request.Selects service selector other.chunk := by
    intro item member
    cases selected with
    | none => cases member
    | some pair =>
        rcases built pair rfl with ⟨chosen, evidence⟩
        have each (other : RankedChunk Score) (otherMember : other ∈ pair.2.evidence.chunks) :=
          RetrievalRequest.historicalLane_chunks chosen (evidence ▸ otherMember)
        exact ⟨(each item member).1, pair.1, chosen, (each item member).2,
          fun other otherMember => (each other otherMember).2⟩
  rcases RetrievalResult.groups_eq chunks (fun item member => (currentGroup item member).1)
    (fun item member => (historicalGroup item member).1) with ⟨currentSame, historicalSame⟩
  constructor
  case current =>
    rw [currentSame]
    exact fun item member => (currentGroup item member).2
  case historical =>
    rw [historicalSame]
    intro item member
    rcases (historicalGroup item member).2 with ⟨selector, _, selects, _⟩
    exact selects.anchors
  case discovered =>
    rw [currentSame, historicalSame]
    intro unanchored item member
    rcases (historicalGroup item member).2 with ⟨selector, chosen, selects, others⟩
    have itemPublished := selects.published unanchored
    constructor
    · intro other otherMember
      have otherPublished := (others other otherMember).published unanchored
      rw [← itemPublished, Prod.mk.injEq, Option.some.injEq, Option.some.injEq] at otherPublished
      exact Prod.ext otherPublished.1 otherPublished.2
    · intro other otherMember same
      apply RetrievalRequest.candidateSelectors_apart unanchored chosen other otherMember
      rw [← itemPublished]
      rw [publication, publication, Prod.mk.injEq] at same
      rw [same.1, same.2]
  case grouped =>
    rw [currentSame, historicalSame]
    exact chunks
  case refusal =>
    rw [currentSame, historicalSame, resultEvidence, resultLanes,
      RetrievalRequest.comparedEvidence_refusal]
    cases selected with
    | none => simp [selectedChunks]
    | some pair => simp [selectedChunks]
  case copies => exact RetrievalRequest.comparedLanes_copied

end

/-! A current publication and two that came before it. -/

/-- The earlier version is named, or is to be discovered. -/
def comparedRequest (named : Option String) : RetrievalRequest Int :=
  { contestedRequest with
    intent := .compare
    historicalVersion := named
    vectorHits :=
      [policyChunk "c1" "limits" none none,
        { policyChunk "c2" "limits" none none with
          status := "deprecated", version := "4", sectionPath := "history".toList },
        { policyChunk "c3" "limits" none none with
          status := "deprecated", version := "3", sectionPath := "历史".toList }] }

/-- The versions that are compared, where evidence of both groups is returned. -/
def comparedVersions : Except RetrievalRaise (RetrievalResult Int) → List String
  | .error _ => []
  | .ok result =>
      if result.evidence.refusalReason.isNone then
        result.evidence.chunks.map (·.chunk.version)
      else []

theorem comparedRequest_compares :
    comparedVersions ((comparedRequest (some "4")).buildPublishedComparison asciiService) =
        ["5", "4"] ∧
      comparedVersions ((comparedRequest none).buildPublishedComparison asciiService) =
        ["5", "3"] := by
  decide +kernel

/-- What is returned keeps apart the evidence of both groups. -/
def Compares (named : Option String) : Prop :=
  ∃ result, (comparedRequest named).buildPublishedComparison asciiService = .ok result ∧
    result.evidence.refusalReason = none ∧ (comparedRequest named).Isolates asciiService result

theorem buildPublishedComparison_isolates_versions : Compares (some "4") ∧ Compares none := by
  have each : ∀ named,
      comparedVersions ((comparedRequest named).buildPublishedComparison asciiService) ≠ [] →
        Compares named := by
    intro named compared
    cases returned : (comparedRequest named).buildPublishedComparison asciiService with
    | error raised =>
        rw [returned] at compared
        exact absurd rfl compared
    | ok result =>
        rw [returned, comparedVersions] at compared
        split at compared
        · next unrefused =>
            exact ⟨result, returned, Option.isNone_iff_eq_none.mp unrefused,
              buildPublishedComparison_isolates _ _ returned⟩
        · exact absurd rfl compared
  constructor
  · apply each
    simp [comparedRequest_compares]
  · apply each
    simp [comparedRequest_compares]

end Retrieval

end SupportGuard
