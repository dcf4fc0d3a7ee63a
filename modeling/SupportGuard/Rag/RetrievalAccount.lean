import SupportGuard.Rag.RetrievalLanes

/-! # What a search accounts for

A lane returns when each eligible candidate is selected or has a reason. That is so when all of
them have locators and, if the scopes of a family contest each other, no other family is there. -/

namespace SupportGuard

open Foundation Fallible

namespace Retrieval

section

variable {Score : Type} [LinearOrder Score] {service : RetrievalService Score}

/-! ## Candidates of a lane -/

/-- A candidate as it is judged: the chunk stays, and its eligibility is decided. -/
structure Lane.JudgedFrom (service : RetrievalService Score) (lane : Lane Score)
    (original item : RankedChunk Score) : Prop where
  chunk_eq : item.chunk = original.chunk
  outcome_eq : item.eligibilityOutcome =
    some (decideEvidenceEligibility service.config (lane.eligibilityInput service original)).1
  reason_eq : item.eligibilityReason =
    some (decideEvidenceEligibility service.config (lane.eligibilityInput service original)).2

variable {lane : Lane Score}

theorem Lane.JudgedFrom.judge (item : RankedChunk Score) :
    lane.JudgedFrom service item (lane.judge service item) :=
  ⟨rfl, rfl, rfl⟩

theorem Lane.JudgedFrom.rerankByTopic {original item : RankedChunk Score}
    (judged : lane.JudgedFrom service original item) :
    lane.JudgedFrom service original (lane.rerankByTopic service item) := by
  unfold Lane.rerankByTopic
  split
  · exact judged
  · exact ⟨judged.chunk_eq, judged.outcome_eq, judged.reason_eq⟩

theorem Lane.JudgedFrom.rerankReserved {original item : RankedChunk Score}
    (judged : lane.JudgedFrom service original item) (eligible : List (RankedChunk Score)) :
    lane.JudgedFrom service original (lane.rerankReserved service eligible item) := by
  unfold Lane.rerankReserved
  split
  · split
    · exact judged
    · exact ⟨judged.chunk_eq, judged.outcome_eq, judged.reason_eq⟩
  · exact judged

theorem Lane.judged_forall₂ (service : RetrievalService Score) (lane : Lane Score) :
    List.Forall₂ (lane.JudgedFrom service) (lane.fusedHits service) (lane.judged service) := by
  unfold Lane.judged
  dsimp only
  rw [List.map_map, List.forall₂_map_right_iff, List.forall₂_same]
  intro item _
  have decided : lane.JudgedFrom service item
      (if isEligible (lane.judge service item) then
        lane.rerankByTopic service (lane.judge service item) else lane.judge service item) := by
    split
    · exact (Lane.JudgedFrom.judge item).rerankByTopic
    · exact Lane.JudgedFrom.judge item
  rw [Function.comp_apply]
  generalize (if isEligible (lane.judge service item) then
    lane.rerankByTopic service (lane.judge service item) else lane.judge service item) = candidate
    at decided ⊢
  split
  · exact decided.rerankReserved _
  · exact decided

theorem Lane.judged_ids (service : RetrievalService Score) (lane : Lane Score) :
    (lane.judged service).map RankedChunk.chunkId =
      (lane.fusedHits service).map RankedChunk.chunkId := by
  have same : List.Forall₂ (· = ·) ((lane.judged service).map RankedChunk.chunkId)
      ((lane.fusedHits service).map RankedChunk.chunkId) := by
    rw [List.forall₂_map_left_iff, List.forall₂_map_right_iff]
    exact (Lane.judged_forall₂ service lane).flip.imp fun item original judged =>
      congrArg ParsedChunk.chunkId judged.chunk_eq
  rwa [List.forall₂_eq_eq_eq] at same

theorem Lane.judged_distinct (service : RetrievalService Score) (lane : Lane Score) :
    ((lane.judged service).map RankedChunk.chunkId).Nodup := by
  rw [Lane.judged_ids]
  exact reciprocalRankFusion_distinct _ _

theorem Lane.eligible_distinct (service : RetrievalService Score) (lane : Lane Score) :
    ((lane.eligible service).map RankedChunk.chunkId).Nodup :=
  (Lane.judged_distinct service lane).sublist (List.filter_sublist.map _)

theorem Lane.judgedFrom_of_mem {item : RankedChunk Score} (member : item ∈ lane.judged service) :
    ∃ original ∈ lane.fusedHits service, lane.JudgedFrom service original item :=
  exists_of_forall₂ (Lane.judged_forall₂ service lane) member

/-! ## Admission of eligible candidates -/

theorem decideEvidenceEligibility_eligible {config : EvidenceEligibilityConfig Score}
    {input : EvidenceEligibilityInput Score}
    (eligible : (decideEvidenceEligibility config input).1 = .eligible) :
    input.scopeMatch = true ∧ input.timeMatch = true ∧
      (input.retrievalIntent = .current → input.status = "active") := by
  unfold decideEvidenceEligibility at eligible
  split at eligible
  · cases eligible
  split at eligible
  · cases eligible
  rename_i inScope
  split at eligible
  · cases eligible
  rename_i inTime
  split at eligible
  · cases eligible
  split at eligible
  · cases eligible
  split at eligible
  · cases eligible
  rename_i current
  refine ⟨by simpa using inScope, by simpa using inTime, ?_⟩
  intro intent
  by_contra other
  exact current ⟨intent, other⟩

/-- The options of a lane ask nothing of an eligible candidate that its eligibility does not. -/
structure Lane.Consistent (lane : Lane Score) : Prop where
  time : lane.options.versionScoped = true ∨
    lane.ignoreClaimTime = false ∧ lane.claimEffectiveTime = some lane.options.now
  status : lane.options.historical = true ∨ lane.intent = .current

theorem Lane.admits_of_eligible (consistent : lane.Consistent)
    (accepted : ¬lane.Refused service) {item : RankedChunk Score}
    (member : item ∈ lane.eligible service) :
    admits lane.options item = true ↔ item.chunk.sourceLocator ≠ none := by
  rcases List.mem_filter.mp member with ⟨inJudged, eligible⟩
  rcases Lane.judgedFrom_of_mem inJudged with ⟨original, found, judged⟩
  have valid : (lane.eligibilityInput service original).Valid service.doubles := by
    by_contra refused
    exact accepted ⟨original, found, refused⟩
  rw [isEligible, judged.outcome_eq, decide_eq_true_eq, Option.some.injEq] at eligible
  rcases decideEvidenceEligibility_eligible eligible with ⟨inScope, inTime, status⟩
  have statusHolds : item.chunk.status ∈
      if lane.options.historical then ["active", "deprecated"] else ["active"] := by
    rw [judged.chunk_eq]
    split
    · exact valid.1
    · rename_i current
      rcases consistent.status with historical | intent
      · exact absurd historical current
      · exact List.mem_singleton.mpr (status intent)
  have timeHolds : (lane.options.versionScoped ||
      intervalContains item.chunk lane.options.now) = true := by
    rw [judged.chunk_eq, Bool.or_eq_true]
    rcases consistent.time with versionScoped | ⟨asked, claim⟩
    · exact .inl versionScoped
    · right
      simpa [Lane.eligibilityInput, asked, claim] using inTime
  have scopeHolds : scopeMatches lane.options.plan lane.options.region item.chunk = true := by
    rw [judged.chunk_eq]
    exact inScope
  unfold admits
  rw [scopeHolds, timeHolds, decide_eq_true statusHolds, Bool.and_true, Bool.and_true,
    Bool.and_true, Option.isSome_iff_ne_none]

/-! ## Lanes -/

/-- The eligible candidates have locators, and are of one family if a family is contested. -/
def Lane.Covered (service : RetrievalService Score) (lane : Lane Score) : Prop :=
  (∀ item ∈ lane.eligible service, item.chunk.sourceLocator ≠ none) ∧
    (Contested (lane.eligible service) → ∀ item ∈ lane.eligible service,
      ∀ other ∈ lane.eligible service, documentFamilyKey item = documentFamilyKey other)

/-- Each candidate is selected or omitted, and only once. -/
def LaneResult.Accounted (result : LaneResult Score) : Prop :=
  ∀ item ∈ result.fused,
    (result.selected.map SelectedCandidate.chunkId).count item.chunkId +
      (result.omissions.map OmissionDecision.chunkId).count item.chunkId = 1

theorem Lane.selectedTrace_ids (service : RetrievalService Score) (lane : Lane Score) :
    (lane.selectedTrace service).map SelectedCandidate.chunkId =
      (lane.selection service).1.chunks.map RankedChunk.chunkId := by
  unfold Lane.selectedTrace Lane.evidence
  rw [List.map_map]
  have ids : (SelectedCandidate.chunkId ∘ fun ranked : RankedChunk Score × Nat =>
      ({ rank := ranked.2
         chunkId := ranked.1.chunkId
         locatorHash := ranked.1.chunk.sourceLocator.map SourceLocator.locatorHash
         group := lane.group } : SelectedCandidate)) = RankedChunk.chunkId ∘ Prod.fst := rfl
  rw [ids, ← List.map_map, List.zipIdx_map_fst, List.map_map]
  rfl

theorem Lane.settle_eligible (item : RankedChunk Score) :
    isEligible (lane.settle service item) = isEligible item := by
  apply decide_eq_decide.mpr
  simp only [Lane.settle]

theorem Lane.settle_omissionReason (item : RankedChunk Score) :
    (lane.settle service item).omissionReason =
      (lane.selection service).2.lookup item.chunkId := by
  simp only [Lane.settle]

theorem Lane.settle_eligibilityReason (item : RankedChunk Score) :
    (lane.settle service item).eligibilityReason = item.eligibilityReason := by
  simp only [Lane.settle]

theorem Lane.settle_chunkId (item : RankedChunk Score) :
    (lane.settle service item).chunkId = item.chunkId := by
  simp only [RankedChunk.chunkId, Lane.settle]

theorem Lane.settled_ids (service : RetrievalService Score) (lane : Lane Score) :
    (lane.settled service).map RankedChunk.chunkId =
      (lane.judged service).map RankedChunk.chunkId := by
  unfold Lane.settled
  rw [List.map_map]
  apply List.map_congr_left
  intro item _
  exact Lane.settle_chunkId item

/-- Each eligible candidate is selected or has a reason just when the lane is covered. -/
theorem Lane.covered_iff (consistent : lane.Consistent) (accepted : ¬lane.Refused service) :
    lane.Covered service ↔ ∀ item ∈ lane.eligible service,
      item.chunkId ∈ accountedIds (lane.selection service) := by
  rcases @selectEvidence_accounts _ service.doubles _ lane.options
    (lane.eligible service) with ⟨silent, account, alone⟩
  have distinct := account.nodup_iff.mpr (Lane.eligible_distinct service lane)
  have covered : lane.Covered service ↔ silent = [] := by
    rw [alone]
    unfold Lane.Covered
    constructor
    · intro both
      exact ⟨fun item member =>
        (Lane.admits_of_eligible consistent accepted member).mpr (both.1 item member), both.2⟩
    · intro both
      exact ⟨fun item member =>
        (Lane.admits_of_eligible consistent accepted member).mp (both.1 item member), both.2⟩
  rw [covered]
  constructor
  · intro nothing item member
    rw [nothing, List.append_nil] at account
    exact account.symm.subset (List.mem_map_of_mem member)
  · intro every
    apply List.eq_nil_iff_forall_not_mem.mpr
    intro id member
    have candidate := account.subset (List.mem_append_right _ member)
    rcases List.mem_map.mp candidate with ⟨item, itemMember, rfl⟩
    exact List.disjoint_of_nodup_append distinct (every item itemMember) member

theorem Lane.lookup_omission_eq_none {id : String} :
    (lane.selection service).2.lookup id = none ↔
      id ∉ (lane.selection service).2.map Prod.fst := by
  rw [List.lookup_eq_none_iff]
  constructor
  · intro missing present
    rcases List.mem_map.mp present with ⟨entry, entryMember, same⟩
    have different := missing entry entryMember
    rw [same, bne_self_eq_false] at different
    cases different
  · intro missing entry entryMember
    rw [bne_iff_ne]
    intro same
    exact missing (same ▸ List.mem_map_of_mem entryMember)

/-- A candidate has no reason just when it is eligible and the selection gave it none. -/
theorem Lane.omissionDecision_raises {item : RankedChunk Score}
    (member : item ∈ lane.judged service) {raised : RetrievalRaise} :
    lane.omissionDecision (lane.settle service item) = .error raised ↔
      raised = .omissionReasonMissing ∧ isEligible item = true ∧
        item.chunkId ∉ (lane.selection service).2.map Prod.fst := by
  rcases Lane.judgedFrom_of_mem member with ⟨original, _, judged⟩
  unfold Lane.omissionDecision
  rw [Lane.settle_eligible, Lane.settle_omissionReason, Lane.settle_eligibilityReason]
  by_cases eligible : isEligible item = true
  · rw [if_pos eligible, ← Lane.lookup_omission_eq_none]
    cases held : (lane.selection service).2.lookup item.chunkId with
    | none =>
        constructor
        · intro equal
          cases equal
          exact ⟨rfl, eligible, rfl⟩
        · intro both
          rw [both.1]
    | some text =>
        constructor
        · intro equal
          cases equal
        · intro both
          cases both.2.2
  · rw [if_neg eligible, judged.reason_eq]
    constructor
    · intro equal
      cases equal
    · intro both
      exact absurd both.2.1 eligible

theorem error_of_mapM {Input Value Error : Type} {compute : Input → Except Error Value}
    {inputs : List Input} {error : Error} (raised : inputs.mapM compute = .error error) :
    ∃ front input rest, inputs = front ++ input :: rest ∧ compute input = .error error ∧
      ∃ values, front.mapM compute = .ok values := by
  induction inputs with
  | nil => cases raised
  | cons input rest induction =>
      cases computed : compute input with
      | error other =>
          rw [List.mapM_cons, computed] at raised
          cases raised
          exact ⟨[], input, rest, rfl, computed, [], rfl⟩
      | ok value =>
          rw [List.mapM_cons, computed] at raised
          cases later : rest.mapM compute with
          | ok values =>
              rw [later] at raised
              cases raised
          | error other =>
              rw [later] at raised
              cases raised
              rcases induction later with ⟨front, failing, behind, rfl, fails, values, mapped⟩
              refine ⟨input :: front, failing, behind, rfl, fails, value :: values, ?_⟩
              rw [List.mapM_cons, computed, mapped]
              rfl

/-- The candidates of the lane that are not selected. -/
def Lane.unselected (service : RetrievalService Score) (lane : Lane Score) :
    List (RankedChunk Score) :=
  (lane.settled service).filter fun item =>
    item.chunkId ∉ (lane.selectedTrace service).map SelectedCandidate.chunkId

theorem Lane.build_eq_ok_iff {result : LaneResult Score} :
    lane.build service = .ok result ↔ ¬lane.Refused service ∧
      ∃ omissions, (lane.unselected service).mapM lane.omissionDecision = .ok omissions ∧
        result = { evidence := lane.evidence service, fused := lane.settled service,
                   selected := lane.selectedTrace service, omissions } := by
  unfold Lane.build
  rw [refuseWhen_bind_eq_ok_iff, bind_eq_ok_iff]
  apply and_congr_right
  intro _
  constructor
  · intro returned
    rcases returned with ⟨omissions, mapped, equal⟩
    exact ⟨omissions, mapped, (Except.ok.inj equal).symm⟩
  · intro returned
    rcases returned with ⟨omissions, mapped, equal⟩
    exact ⟨omissions, mapped, congrArg Except.ok equal.symm⟩

/-- Every candidate that is not selected has a reason just when the lane is covered. -/
theorem Lane.reasons_iff (consistent : lane.Consistent) (accepted : ¬lane.Refused service) :
    (∃ omissions, (lane.unselected service).mapM lane.omissionDecision = .ok omissions) ↔
      lane.Covered service := by
  rw [mapM_returns_iff, Lane.covered_iff consistent accepted]
  constructor
  · intro returns item member
    rcases List.mem_filter.mp member with ⟨judged, eligible⟩
    rw [accountedIds, List.mem_append]
    by_contra missing
    rcases not_or.mp missing with ⟨unselected, silent⟩
    have inUnselected : lane.settle service item ∈ lane.unselected service := by
      apply List.mem_filter.mpr ⟨List.mem_map_of_mem judged, _⟩
      rw [Lane.selectedTrace_ids, Lane.settle_chunkId]
      exact decide_eq_true unselected
    rcases returns _ inUnselected with ⟨decision, decided⟩
    rw [(Lane.omissionDecision_raises judged).mpr ⟨rfl, eligible, silent⟩] at decided
    cases decided
  · intro every item member
    rcases List.mem_filter.mp member with ⟨settled, unselected⟩
    rcases List.mem_map.mp settled with ⟨judged, judgedMember, rfl⟩
    rw [Lane.selectedTrace_ids, Lane.settle_chunkId] at unselected
    cases decided : lane.omissionDecision (lane.settle service judged) with
    | ok decision => exact ⟨decision, rfl⟩
    | error raised =>
        rcases (Lane.omissionDecision_raises judgedMember).mp decided with ⟨_, eligible, silent⟩
        have accounted := every judged (List.mem_filter.mpr ⟨judgedMember, eligible⟩)
        rcases List.mem_append.mp accounted with selected | omitted
        · exact absurd selected (of_decide_eq_true unselected)
        · exact absurd omitted silent

/-- What a lane returns accounts for each of its candidates. -/
theorem Lane.build_accounted {result : LaneResult Score}
    (returned : lane.build service = .ok result) : result.Accounted := by
  rcases Lane.build_eq_ok_iff.mp returned with ⟨_, omissions, mapped, rfl⟩
  have ids : omissions.map OmissionDecision.chunkId =
      (lane.unselected service).map RankedChunk.chunkId := by
    have same : List.Forall₂ (· = ·) ((lane.unselected service).map RankedChunk.chunkId)
        (omissions.map OmissionDecision.chunkId) := by
      rw [List.forall₂_map_left_iff, List.forall₂_map_right_iff]
      apply (mapM_forall₂ mapped).imp
      intro item decision decided
      unfold Lane.omissionDecision at decided
      split at decided
      · cases decided
      · cases decided
        rfl
    rw [List.forall₂_eq_eq_eq] at same
    exact same.symm
  have settledDistinct : ((lane.settled service).map RankedChunk.chunkId).Nodup := by
    rw [Lane.settled_ids]
    exact Lane.judged_distinct service lane
  have selectedDistinct : ((lane.selectedTrace service).map SelectedCandidate.chunkId).Nodup := by
    rcases @selectEvidence_accounts _ service.doubles _ lane.options
      (lane.eligible service) with ⟨silent, account, _⟩
    rw [Lane.selectedTrace_ids]
    have distinct := account.nodup_iff.mpr (Lane.eligible_distinct service lane)
    exact ((List.nodup_append.mp (List.nodup_append.mp distinct).1).1)
  have unselectedDistinct : ((lane.unselected service).map RankedChunk.chunkId).Nodup :=
    settledDistinct.sublist (List.filter_sublist.map _)
  intro item member
  dsimp only at member ⊢
  rw [ids]
  by_cases selected : item.chunkId ∈ (lane.selectedTrace service).map SelectedCandidate.chunkId
  · have absent : item.chunkId ∉ (lane.unselected service).map RankedChunk.chunkId := by
      intro present
      rcases List.mem_map.mp present with ⟨other, otherMember, same⟩
      have notSelected := of_decide_eq_true (List.mem_filter.mp otherMember).2
      rw [same] at notSelected
      exact notSelected selected
    rw [List.count_eq_one_of_mem selectedDistinct selected, List.count_eq_zero_of_not_mem absent]
  · have present : item ∈ lane.unselected service :=
      List.mem_filter.mpr ⟨member, decide_eq_true selected⟩
    rw [List.count_eq_zero_of_not_mem selected,
      List.count_eq_one_of_mem unselectedDistinct (List.mem_map_of_mem present)]

/-- A lane is refused, or it is not covered and raises, or it is covered and returns. -/
theorem Lane.build_cases (consistent : lane.Consistent) :
    (lane.Refused service ∧ lane.build service = .error .validationError) ∨
      (¬lane.Refused service ∧ ¬lane.Covered service ∧
        lane.build service = .error .omissionReasonMissing) ∨
      ¬lane.Refused service ∧ lane.Covered service ∧
        ∃ result, lane.build service = .ok result := by
  by_cases refused : lane.Refused service
  · left
    refine ⟨refused, ?_⟩
    rw [Lane.build, refuseWhen, if_pos refused]
    rfl
  · right
    rw [← Lane.reasons_iff consistent refused]
    have started : lane.build service = ((lane.unselected service).mapM lane.omissionDecision).bind
        fun omissions => .ok { evidence := lane.evidence service, fused := lane.settled service,
                               selected := lane.selectedTrace service, omissions } := by
      rw [Lane.build, refuseWhen, if_neg refused]
      rfl
    rw [started]
    cases mapped : (lane.unselected service).mapM lane.omissionDecision with
    | ok omissions => exact .inr ⟨refused, ⟨omissions, rfl⟩, _, rfl⟩
    | error raised =>
        rcases error_of_mapM mapped with ⟨front, item, rest, split, decided, _⟩
        have member : item ∈ lane.unselected service := by
          rw [split]
          exact List.mem_append_right _ List.mem_cons_self
        rcases List.mem_map.mp (List.mem_filter.mp member).1 with ⟨judged, judgedMember, rfl⟩
        rw [((Lane.omissionDecision_raises judgedMember).mp decided).1]
        refine .inl ⟨refused, ?_, rfl⟩
        intro returned
        rcases returned with ⟨omissions, impossible⟩
        cases impossible

/-! ## Searches -/

/-- As far as lanes are built one after the other, each is covered. -/
def LanesCovered (service : RetrievalService Score) : List (Lane Score) → Prop
  | [] => True
  | lane :: rest => ¬lane.Refused service → lane.Covered service ∧ LanesCovered service rest

/-- The lanes of a search, in the order in which it builds them. -/
def RetrievalRequest.lanes (service : RetrievalService Score) (request : RetrievalRequest Score) :
    List (Lane Score) :=
  if request.intent = .historical ∧ request.historicalVersion = none ∧
      request.explicitAsOf = none then []
  else if request.intent = .compare then
    request.currentLane :: request.historicalLanes service (request.currentLane.evidence service)
  else [request.singleLane]

theorem lanes_covered_iff {lanes : List (Lane Score)}
    (consistent : ∀ lane ∈ lanes, lane.Consistent) :
    lanes.mapM (fun lane => lane.build service) ≠ .error .omissionReasonMissing ↔
      LanesCovered service lanes := by
  induction lanes with
  | nil =>
      refine ⟨fun _ => trivial, fun _ => ?_⟩
      intro raised
      cases raised
  | cons lane rest induction =>
      rcases List.forall_mem_cons.mp consistent with ⟨first, others⟩
      rw [LanesCovered, List.mapM_cons]
      rcases @Lane.build_cases _ _ service _ first with ⟨refused, built⟩ |
        ⟨accepted, uncovered, built⟩ | ⟨accepted, covered, result, built⟩
      · rw [built]
        refine ⟨fun _ accepted => absurd refused accepted, fun _ => ?_⟩
        intro raised
        cases raised
      · rw [built]
        constructor
        · intro other
          exact absurd rfl other
        · intro lanesCovered
          exact absurd (lanesCovered accepted).1 uncovered
      · rw [built]
        have later : (do
              let results ← rest.mapM fun lane => lane.build service
              pure (result :: results)) = Except.error RetrievalRaise.omissionReasonMissing ↔
            rest.mapM (fun lane => lane.build service) = .error .omissionReasonMissing := by
          cases rest.mapM fun lane => lane.build service with
          | ok results =>
              constructor
              · intro raised
                cases raised
              · intro raised
                cases raised
          | error raised =>
              constructor
              · intro equal
                cases equal
                rfl
              · intro equal
                cases equal
                rfl
        rw [← induction others]
        constructor
        · intro other _
          exact ⟨covered, fun raised => other (later.mpr raised)⟩
        · intro lanesCovered raised
          exact (lanesCovered accepted).2 (later.mp raised)

theorem selectorClaimTime_eq_none {logicalTime : Instant} {version : Option String}
    {explicitAsOf : Option Instant}
    (timeless : selectorClaimTime logicalTime version explicitAsOf = none) :
    explicitAsOf = none ∧ version ≠ none := by
  unfold selectorClaimTime at timeless
  cases explicitAsOf with
  | some asOf => cases timeless
  | none =>
      refine ⟨rfl, ?_⟩
      intro unversioned
      rw [unversioned] at timeless
      cases timeless

omit [LinearOrder Score] in
theorem RetrievalRequest.currentLane_consistent (request : RetrievalRequest Score) :
    request.currentLane.Consistent :=
  ⟨.inr ⟨rfl, rfl⟩, .inr rfl⟩

omit [LinearOrder Score] in
theorem RetrievalRequest.singleLane_consistent (request : RetrievalRequest Score)
    (single : request.intent ≠ .compare) : request.singleLane.Consistent := by
  have status : request.singleLane.options.historical = true ∨
      request.singleLane.intent = .current := by
    cases intent : request.intent with
    | current => exact .inr intent
    | historical => exact .inl (decide_eq_true intent)
    | compare => exact absurd intent single
  refine ⟨?_, status⟩
  cases claim : request.singleLane.claimEffectiveTime with
  | some time =>
      right
      refine ⟨rfl, ?_⟩
      have now : request.singleLane.options.now =
        request.singleLane.claimEffectiveTime.getD request.now := rfl
      rw [now, claim, Option.getD_some]
  | none =>
      left
      by_cases historical : request.intent = .historical
      · have timeless : selectorClaimTime request.now request.historicalVersion
            request.explicitAsOf = none := by
          have whole := claim
          unfold RetrievalRequest.singleLane at whole
          simpa [historical] using whole
        rcases selectorClaimTime_eq_none timeless with ⟨undated, versioned⟩
        have scoped' : request.singleLane.options.versionScoped =
          (request.historicalVersion.isSome && request.explicitAsOf.isNone) := rfl
        rw [scoped', undated, Option.isSome_iff_ne_none.mpr versioned]
        rfl
      · exfalso
        have whole := claim
        unfold RetrievalRequest.singleLane at whole
        simp [historical, selectorClaimTime] at whole

theorem RetrievalRequest.historicalLane_consistent (request : RetrievalRequest Score)
    (current : EvidenceSet Score) {selector : Option String × Option String}
    (member : selector ∈ request.candidateSelectors service current) :
    (request.historicalLane service current selector).Consistent := by
  refine ⟨?_, .inl rfl⟩
  have scoped' : (request.historicalLane service current selector).options.versionScoped =
    (!request.anchored || (selector.2.isSome && request.explicitAsOf.isNone)) := rfl
  have ignored : (request.historicalLane service current selector).ignoreClaimTime =
    !request.anchored := rfl
  rw [scoped', ignored]
  by_cases anchored : request.anchored = true
  · rw [candidateSelectors, if_pos anchored, List.mem_singleton] at member
    subst member
    cases dated : request.explicitAsOf with
    | some asOf =>
        right
        rw [anchored]
        refine ⟨rfl, ?_⟩
        have claim : (request.historicalLane service current
            (none, request.historicalVersion)).claimEffectiveTime =
          selectorClaimTime request.now request.historicalVersion request.explicitAsOf := rfl
        have now : (request.historicalLane service current
            (none, request.historicalVersion)).options.now =
          request.explicitAsOf.getD request.now := rfl
        rw [claim, now, dated]
        rfl
    | none =>
        left
        have versioned : request.historicalVersion.isSome = true := by
          have either := anchored
          rw [RetrievalRequest.anchored, dated, Option.isSome_none, Bool.or_false] at either
          exact either
        dsimp only
        rw [versioned]
        exact Bool.or_true _
  · left
    rw [Bool.not_eq_true] at anchored
    rw [anchored]
    rfl

theorem RetrievalRequest.lanes_consistent (request : RetrievalRequest Score) :
    ∀ lane ∈ request.lanes service, lane.Consistent := by
  unfold RetrievalRequest.lanes
  intro lane member
  split at member
  · cases member
  · split at member
    · rcases List.mem_cons.mp member with same | historical
      · rw [same]
        exact request.currentLane_consistent
      · rcases List.mem_map.mp historical with ⟨selector, selectorMember, rfl⟩
        exact request.historicalLane_consistent _ selectorMember
    · rename_i single
      rw [List.mem_singleton.mp member]
      exact request.singleLane_consistent single

theorem greatest?_mem {Item Key : Type} [LinearOrder Key] {key : Item → Key} {items : List Item}
    {found : Item} (greatest : greatest? key items = some found) : found ∈ items := by
  cases items with
  | nil => cases greatest
  | cons first rest =>
      cases greatest
      have held (best : Item) : rest.foldl (fun best item =>
          if key best < key item then item else best) best ∈ best :: rest := by
        induction rest generalizing best with
        | nil => exact List.mem_singleton_self best
        | cons item later induction =>
            rw [List.foldl_cons]
            rcases List.mem_cons.mp (induction (if key best < key item then item else best)) with
              same | member
            · rw [same]
              split
              · exact List.mem_cons_of_mem _ List.mem_cons_self
              · exact List.mem_cons_self
            · exact List.mem_cons_of_mem _ (List.mem_cons_of_mem _ member)
      exact held first

omit [LinearOrder Score] in
/-- The chunks that were filtered out before add no decision about a candidate of the lane. -/
theorem RetrievalRequest.decisionsWithFilter_count (request : RetrievalRequest Score)
    (lane : LaneResult Score) (group : EvidenceGroup) {id : String}
    (settled : id ∈ lane.selected.map SelectedCandidate.chunkId ∨
      id ∈ lane.omissions.map OmissionDecision.chunkId) :
    ((request.decisionsWithFilter lane group).map OmissionDecision.chunkId).count id =
      (lane.omissions.map OmissionDecision.chunkId).count id := by
  unfold RetrievalRequest.decisionsWithFilter
  generalize lane.omissions = decisions at settled ⊢
  induction request.preFilterCandidates generalizing decisions with
  | nil => rfl
  | cons candidate rest induction =>
      rw [List.foldl_cons]
      split
      · exact induction decisions settled
      · rename_i fresh
        rcases not_or.mp (not_or.mp fresh).2 with ⟨unselected, undecided⟩
        cases candidate.filterReasons with
        | nil => exact induction decisions settled
        | cons reason later =>
            have different : candidate.chunkId ≠ id := by
              intro same
              rcases settled with selected | decided
              · exact unselected (same ▸ selected)
              · exact undecided (same ▸ decided)
            dsimp only
            rw [induction]
            · rw [List.map_append, List.count_append, List.map_singleton,
                List.count_singleton, if_neg (by simpa using different), Nat.add_zero]
            · rcases settled with selected | decided
              · exact .inl selected
              · right
                rw [List.map_append]
                exact List.mem_append_left _ decided

omit [LinearOrder Score] in
theorem RetrievalRequest.singleLane_accounted (request : RetrievalRequest Score)
    {result : LaneResult Score} (accounted : result.Accounted) (group : EvidenceGroup) :
    LaneResult.Accounted
      { result with omissions := request.decisionsWithFilter result group } := by
  intro item member
  have once := accounted item member
  dsimp only
  rw [request.decisionsWithFilter_count, once]
  by_contra neither
  rcases not_or.mp neither with ⟨unselected, undecided⟩
  rw [List.count_eq_zero_of_not_mem unselected, List.count_eq_zero_of_not_mem undecided] at once
  cases once

/-- The lanes of a comparison are those that are built one after the other. -/
theorem RetrievalRequest.buildPublishedComparison_raises (request : RetrievalRequest Score) :
    request.buildPublishedComparison service = .error .omissionReasonMissing ↔
      (request.currentLane :: request.historicalLanes service
        (request.currentLane.evidence service)).mapM (fun lane => lane.build service) =
          .error .omissionReasonMissing := by
  rw [List.mapM_cons]
  unfold RetrievalRequest.buildPublishedComparison
  cases built : request.currentLane.build service with
  | error raised =>
      constructor
      · intro equal
        cases equal
        rfl
      · intro equal
        cases equal
        rfl
  | ok current =>
      rcases Lane.build_eq_ok_iff.mp built with ⟨_, omissions, _, equal⟩
      have evidence : current.evidence = request.currentLane.evidence service := by
        rw [equal]
      simp only [bind, Except.bind]
      rw [evidence]
      cases (request.historicalLanes service (request.currentLane.evidence service)).mapM
          fun lane => lane.build service with
      | error raised =>
          constructor
          · intro equal
            cases equal
            rfl
          · intro equal
            cases equal
            rfl
      | ok historical =>
          constructor
          · intro equal
            cases equal
          · intro equal
            cases equal

/-- The lanes that a comparison publishes have been built. -/
theorem RetrievalRequest.buildPublishedComparison_lanes (request : RetrievalRequest Score)
    {result : RetrievalResult Score}
    (returned : request.buildPublishedComparison service = .ok result)
    {lane : LaneResult Score} (member : lane ∈ result.lanes) :
    ∃ source ∈ request.currentLane :: request.historicalLanes service
      (request.currentLane.evidence service), source.build service = .ok lane := by
  rcases bind_eq_ok_iff.mp returned with ⟨current, built, returned⟩
  rcases bind_eq_ok_iff.mp returned with ⟨historical, mapped, equal⟩
  rcases Lane.build_eq_ok_iff.mp built with ⟨_, omissions, _, currentEqual⟩
  have evidence : current.evidence = request.currentLane.evidence service := by
    rw [currentEqual]
  cases equal
  rcases List.mem_cons.mp member with same | later
  · exact ⟨_, List.mem_cons_self, same ▸ built⟩
  · rw [Option.mem_toList, Option.map_eq_some_iff] at later
    rcases later with ⟨selected, chosen, rfl⟩
    rcases mem_of_mapM mapped (List.of_mem_zip (greatest?_mem chosen)).2 with
      ⟨source, sourceMember, sourceBuilt⟩
    rw [evidence] at sourceMember
    exact ⟨source, List.mem_cons_of_mem _ sourceMember, sourceBuilt⟩

theorem search_accounts_iff (request : RetrievalRequest Score) :
    (request.search service ≠ .error .omissionReasonMissing ∧
      ∀ result, request.search service = .ok result → ∀ lane ∈ result.lanes, lane.Accounted) ↔
      LanesCovered service (request.lanes service) := by
  rw [← lanes_covered_iff (request.lanes_consistent)]
  unfold RetrievalRequest.search RetrievalRequest.lanes
  split
  · constructor
    · intro _ raised
      cases raised
    · intro _
      refine ⟨?_, ?_⟩
      · intro raised
        cases raised
      · intro result returned lane member
        cases returned
        cases member
  · split
    · rw [Ne, request.buildPublishedComparison_raises]
      constructor
      · exact And.left
      · intro returns
        refine ⟨returns, ?_⟩
        intro result returned lane member
        rcases request.buildPublishedComparison_lanes returned member with ⟨source, _, built⟩
        exact Lane.build_accounted built
    · rw [List.mapM_cons, List.mapM_nil]
      cases built : request.singleLane.build service with
      | error raised =>
          constructor
          · intro both equal
            cases equal
            exact both.1 rfl
          · intro other
            refine ⟨?_, ?_⟩
            · intro equal
              cases equal
              exact other rfl
            · intro result returned
              cases returned
      | ok single =>
          constructor
          · intro _ equal
            cases equal
          · intro _
            refine ⟨?_, ?_⟩
            · intro equal
              cases equal
            · intro result returned lane member
              cases returned
              rw [List.mem_singleton.mp member]
              exact request.singleLane_accounted (Lane.build_accounted built) _

/-- A search never misses a reason, and accounts for each candidate of its lanes, just when its
lanes are covered. -/
theorem retrieveWithTrace_accounts_iff (request : RetrievalRequest Score) :
    (request.retrieveWithTrace service ≠ .error .omissionReasonMissing ∧
      ∀ result, request.retrieveWithTrace service = .ok result →
        ∀ lane ∈ result.lanes, lane.Accounted) ↔
      LanesCovered service (request.canonical.lanes service) :=
  search_accounts_iff request.canonical

end

/-! Three hits: two scopes of one family contest each other, and the third is of another family. -/

/-- Scores as millionths. -/
def millionths : Doubles Int where
  ofInt value := value * 1000000
  add := (· + ·)
  reciprocal rank := 1000000 / rank
  coherenceWeight score := score * 15 / 100
  sum := List.sum
  timestamp instant := instant.microseconds

def asciiService : RetrievalService Int where
  doubles := millionths
  casefold := List.map Char.toLower
  config := { minimumAuthority := 50, crossChannelVectorFloor := 550000, vectorOnlyFloor := 720000 }
  query := { normalized := "429".toList, exactTokens := ["429".toList] }

def policyChunk (chunkId family : String) (plan region : Option String) : ParsedChunk Int where
  chunkId
  documentId := chunkId
  title := "limits".toList
  sectionPath := "limits".toList
  content := "429".toList
  tokenCount := 1
  contentHash := chunkId
  version := "5"
  status := "active"
  effectiveAt := ⟨0, Instant.first_inRange⟩
  effectiveUntil := none
  documentFamilyKey := family
  authorityLevel := 90
  applicablePlan := plan
  applicableRegion := region
  sourceLocator := some (.v1
    { documentId := chunkId, version := "5", sourceHash := chunkId, byteStart := 0, byteEnd := 3
      spanHash := chunkId, locatorHash := chunkId })
  vectorSimilarity := some 900000
  keywordScore := none
  exactTokenMatch := true
  evidenceGroup := none
  origin := .recalled

def contestedRequest : RetrievalRequest Int where
  intent := .current
  plan := some "pro"
  region := some "eu"
  now := ⟨30000000, Instant.halfMinute_inRange⟩
  explicitAsOf := none
  historicalVersion := none
  vectorHits :=
    [policyChunk "c1" "limits" (some "pro") none, policyChunk "c2" "limits" none (some "eu"),
      policyChunk "c3" "pricing" none none]
  keywordHits := []
  preFilterCandidates := []

def raises (raised : RetrievalRaise) : Except RetrievalRaise (RetrievalResult Int) → Bool
  | .error other => other = raised
  | .ok _ => false

theorem eq_error_of_raises {outcome : Except RetrievalRaise (RetrievalResult Int)}
    {raised : RetrievalRaise} (holds : raises raised outcome = true) : outcome = .error raised := by
  cases outcome with
  | error other => exact congrArg Except.error (of_decide_eq_true holds)
  | ok result => cases holds

/-- The refusal of the contested family is a crash, since the third hit has no reason. -/
theorem retrieveWithTrace_contested :
    contestedRequest.retrieveWithTrace asciiService = .error .omissionReasonMissing := by
  apply eq_error_of_raises
  decide +kernel

end Retrieval

end SupportGuard
