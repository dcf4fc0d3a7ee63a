import SupportGuard.Rag.EvidenceSelection
import SupportGuard.Rag.SupportingSpans

/-! # Retrieval

`rag/service.py`: a search is answered from one lane of candidates, or from a current and a
historical lane. A candidate of a lane is selected as evidence or it is omitted for a reason; a
candidate that has no reason raises. -/

namespace SupportGuard

open Foundation Fallible

namespace Retrieval

/-! ## Texts -/

section

variable {Score : Type} (casefold : List Char → List Char)

def historicalMarkers : List String :=
  ["旧", "旧版", "历史", "此前", "曾经", "原为", "deprecated", "legacy", "previous", "previously",
    "prior", "formerly"]

def transitionMarkers : List String :=
  ["当前", "现行", "新版", "自", "起", "调整", "提升", "变更", "改为", "不再", "current", "now", "since",
    "changed", "increased", "updated"]

def historicalSectionMarkers : List String :=
  ["版本冲突", "变更", "历史", "迁移", "changelog", "version conflict", "historical", "history",
    "migration"]

def versionReference : Regex :=
  .compile ["(?<![a-z0-9])", "(?:v?\\d+(?:\\.\\d+)+(?:\\.x)?|", "20\\d{2,2}(?:[-年]\\d{1,2})?|",
    "\\d{2,4}\\s*k)", "(?![a-z0-9])"]

def backgroundSectionMarkers : List String :=
  ["失败注入", "复盘要点", "回归测试", "failure injection", "regression test"]

def checklistSectionMarkers : List String :=
  ["检查清单", "checklist"]

def decisionSectionMarkers : List String :=
  ["决策矩阵", "decision matrix"]

def markerHits (markers : List String) (text : List Char) : Nat :=
  (markers.filter fun marker => marker.toList <:+: text).length

/-- `_answer_section_priority`. -/
def answerSectionPriority (chunk : ParsedChunk Score) : Nat :=
  let name := casefold chunk.sectionPath
  if 0 < markerHits backgroundSectionMarkers name then 0
  else if 0 < markerHits checklistSectionMarkers name then 1
  else if 0 < markerHits decisionSectionMarkers name then 2
  else 3

/-- How many versions the text refers to. The pattern asks for no letters of words. -/
def versionReferences (text : List Char) : Nat :=
  (Grouping.distinct ((versionReference.finditer (fun _ => false) text 0 text.length).map
    fun found => textSlice text found.start found.stop)).length

/-- `_historical_transition_score`. -/
def historicalTransitionScore (chunk : ParsedChunk Score) : Nat :=
  let content := casefold chunk.content
  let historicalHits := markerHits historicalMarkers content
  let transitionHits := markerHits transitionMarkers content
  let sectionHits := markerHits historicalSectionMarkers (casefold chunk.sectionPath)
  let references := versionReferences content
  if sectionHits = 0 ∧ (historicalHits = 0 ∨ transitionHits = 0) then 0
  else if sectionHits = 0 ∧ references < 2 then 0
  else sectionHits * 8 + min historicalHits 3 * 3 + min transitionHits 3 * 2 + min references 3

def exactTokenBonus (term : List Char) : Nat :=
  if 2 ≤ term.length ∧ term.all (fun character =>
      isWordCharacter character && !character.isUpper) then 4 else 1

/-- `_topic_coherence_scores`. -/
def topicCoherenceScores (query : List Char) (candidates : List (ParsedChunk Score)) :
    List (String × Nat) :=
  let terms := SupportingSpans.lexicalQueryTerms query
  let surfaces := candidates.foldl (fun surfaces chunk =>
    assign surfaces chunk.chunkId (casefold (chunk.sectionPath ++ '\n' :: chunk.content))) []
  let frequency (term : List Char) :=
    (surfaces.filter fun surface => term <:+: surface.2).length
  surfaces.map fun surface => (surface.1, ((terms.filter fun term => term <:+: surface.2).map
    fun term => term.length ^ 2 * (surfaces.length + 1 - frequency term) *
      exactTokenBonus term).sum)

end

/-! ## Lanes -/

structure NormalizedQuery where
  normalized : List Char
  exactTokens : List (List Char)

/-- What is given to `build_lane`: a group, its filter and the hits that pass the filter. -/
structure Lane (Score : Type) where
  group : EvidenceGroup
  intent : RetrievalIntent
  claimEffectiveTime : Option Instant
  vectorHits : List (ParsedChunk Score)
  keywordHits : List (ParsedChunk Score)
  options : SelectionOptions
  ignoreClaimTime : Bool := false
  topicScores : Option (List (String × Nat)) := none
  structuredScores : Option (List (String × Nat)) := none
  reserveTransition : Bool := false

structure SelectedCandidate where
  rank : Nat
  chunkId : String
  locatorHash : Option String
  group : EvidenceGroup

structure OmissionDecision where
  chunkId : String
  reason : String
  group : EvidenceGroup

structure LaneResult (Score : Type) where
  evidence : EvidenceSet Score
  fused : List (RankedChunk Score)
  selected : List SelectedCandidate
  omissions : List OmissionDecision

/-- The service and its query: the arithmetic, the case folding, the thresholds. -/
structure RetrievalService (Score : Type) where
  doubles : Doubles Score
  casefold : List Char → List Char
  config : EvidenceEligibilityConfig Score
  query : NormalizedQuery

/-- `max(items, key=...)`: the first of the greatest items. -/
def greatest? {Item Key : Type} [LinearOrder Key] (key : Item → Key) : List Item → Option Item
  | [] => none
  | first :: rest =>
      some (rest.foldl (fun best item => if key best < key item then item else best) first)

def scoreOf (scores : List (String × Nat)) (chunkId : String) : Nat :=
  (scores.lookup chunkId).getD 0

section

variable {Score : Type} [LinearOrder Score] (service : RetrievalService Score)

namespace Lane

variable (lane : Lane Score)

def fusedHits : List (RankedChunk Score) :=
  reciprocalRankFusion service.doubles lane.vectorHits lane.keywordHits

def eligibilityInput (item : RankedChunk Score) : EvidenceEligibilityInput Score where
  retrievalIntent := lane.intent
  status := item.chunk.status
  authority := item.chunk.authorityLevel
  scopeMatch := scopeMatches lane.options.plan lane.options.region item.chunk
  timeMatch := lane.ignoreClaimTime ||
    lane.claimEffectiveTime.all (intervalContains item.chunk)
  exactTokenMatch := item.chunk.exactTokenMatch
  structuredFieldMatch := lane.structuredScores.any fun scores =>
    0 < scoreOf scores item.chunkId && 0 < historicalTransitionScore service.casefold item.chunk
  vectorSimilarity := item.vectorSimilarity.getD (service.doubles.ofInt (-1))
  keywordChannelMatch := item.keywordRank.isSome

def judge (item : RankedChunk Score) : RankedChunk Score :=
  { item with
    eligibilityOutcome :=
      some (decideEvidenceEligibility service.config (lane.eligibilityInput service item)).1
    eligibilityReason :=
      some (decideEvidenceEligibility service.config (lane.eligibilityInput service item)).2 }

end Lane

def isEligible (item : RankedChunk Score) : Bool :=
  item.eligibilityOutcome = some .eligible

namespace Lane

variable (lane : Lane Score)

/-- The scores of the topic, where the lane has them. -/
def rerankByTopic (item : RankedChunk Score) : RankedChunk Score :=
  match lane.topicScores with
  | none => item
  | some scores =>
      { item with
        rerankScore := some (service.doubles.add (service.doubles.ofInt
          (answerSectionPriority service.casefold item.chunk * 1000 +
            scoreOf scores item.chunkId)) item.rrfScore) }

/-- The item that leads a lane. -/
def primary? (eligible : List (RankedChunk Score)) : Option (RankedChunk Score) :=
  greatest? (fun item => toLex (answerSectionPriority service.casefold item.chunk,
    toLex (item.rrfScore, item.chunkId))) eligible

/-- The item of the family of the leading one that explains a transition. -/
def transition? (eligible : List (RankedChunk Score)) (primary : RankedChunk Score) :
    Option (RankedChunk Score) :=
  let scores := topicCoherenceScores service.casefold service.query.normalized
    (eligible.map RankedChunk.chunk)
  greatest? (fun item => toLex (answerSectionPriority service.casefold item.chunk,
      toLex (scoreOf scores item.chunkId,
        toLex (historicalTransitionScore service.casefold item.chunk,
          toLex (item.rrfScore, item.chunkId)))))
    (eligible.filter fun item => documentFamilyKey item = documentFamilyKey primary &&
      0 < historicalTransitionScore service.casefold item.chunk)

/-- The places that are kept for the leading item and for a transition. -/
def rerankReserved (eligible : List (RankedChunk Score)) (item : RankedChunk Score) :
    RankedChunk Score :=
  if lane.reserveTransition ∧ service.query.exactTokens ≠ [] ∧ 1 < eligible.length ∧
      1 < lane.options.maxItems then
    match primary? service eligible with
    | none => item
    | some primary =>
        let bonus : Option Int :=
          if item.chunkId = primary.chunkId then some 2
          else if (transition? service eligible primary).any
              fun transition => item.chunkId = transition.chunkId then some 1
          else none
        { item with
          rerankScore := some (match bonus with
            | some value => service.doubles.add (service.doubles.ofInt value) item.rrfScore
            | none => item.rrfScore) }
  else item

/-- The candidates with their eligibility and their new scores. -/
def judged : List (RankedChunk Score) :=
  let candidates := (lane.fusedHits service).map fun item =>
    let decided := lane.judge service item
    if isEligible decided then lane.rerankByTopic service decided else decided
  candidates.map fun item =>
    if isEligible item then lane.rerankReserved service (candidates.filter isEligible) item
    else item

def eligible : List (RankedChunk Score) :=
  (lane.judged service).filter isEligible

def selection : EvidenceSet Score × Omissions :=
  selectEvidence service.doubles lane.options (lane.eligible service)

/-- The evidence of the lane; without eligible candidates, the first reason is its refusal. -/
def evidence : EvidenceSet Score :=
  let chosen := (lane.selection service).1
  { chosen with
    chunks := chosen.chunks.map fun item =>
      { item with chunk := { item.chunk with evidenceGroup := some lane.group } }
    refusalReason :=
      if (lane.eligible service).isEmpty then
        (((lane.judged service).filterMap RankedChunk.eligibilityReason).head?).or
          chosen.refusalReason
      else chosen.refusalReason }

def selectedTrace : List SelectedCandidate :=
  ((lane.evidence service).chunks.zipIdx 1).map fun ranked =>
    { rank := ranked.2
      chunkId := ranked.1.chunkId
      locatorHash := ranked.1.chunk.sourceLocator.map SourceLocator.locatorHash
      group := lane.group }

/-- A candidate as the selection leaves it. -/
def settle (item : RankedChunk Score) : RankedChunk Score :=
  { item with omissionReason := (lane.selection service).2.lookup item.chunkId }

def settled : List (RankedChunk Score) :=
  (lane.judged service).map (lane.settle service)

def omissionDecision (item : RankedChunk Score) : Except RetrievalRaise OmissionDecision :=
  match if isEligible item then item.omissionReason else item.eligibilityReason with
  | none => .error .omissionReasonMissing
  | some reason => .ok { chunkId := item.chunkId, reason, group := lane.group }

/-- The candidates whose input the eligibility model refuses. -/
def Refused : Prop :=
  ∃ item ∈ lane.fusedHits service, ¬(lane.eligibilityInput service item).Valid service.doubles

instance : Decidable (lane.Refused service) :=
  inferInstanceAs (Decidable (∃ item ∈ lane.fusedHits service, _))

/-- `build_lane`. -/
def build : Except RetrievalRaise (LaneResult Score) := do
  refuseWhen (lane.Refused service) .validationError
  let omissions ← ((lane.settled service).filter fun item =>
    item.chunkId ∉ (lane.selectedTrace service).map SelectedCandidate.chunkId).mapM
      lane.omissionDecision
  .ok { evidence := lane.evidence service
        fused := lane.settled service
        selected := lane.selectedTrace service
        omissions }

end Lane

/-! ## Searches -/

structure PreFilterCandidate where
  chunkId : String
  filterOutcome : String
  filterReasons : List String

/-- The arguments of `retrieve_with_trace`, and what the repository has found for them. -/
structure RetrievalRequest (Score : Type) where
  intent : RetrievalIntent
  plan : Option String
  region : Option String
  now : Instant
  explicitAsOf : Option Instant
  historicalVersion : Option String
  vectorHits : List (ParsedChunk Score)
  keywordHits : List (ParsedChunk Score)
  preFilterCandidates : List PreFilterCandidate

/-- What is published of a search: its lanes, the current one first. -/
structure RetrievalResult (Score : Type) where
  evidence : EvidenceSet Score
  lanes : List (LaneResult Score)

def RetrievalResult.omissionDecisions {Score : Type} (result : RetrievalResult Score) :
    List OmissionDecision :=
  result.lanes.flatMap LaneResult.omissions

def canonicalDocumentVersion (value : Option String) : Option String :=
  value.bind fun text =>
    let normalized := stripSpace text.toList
    let numbered :=
      if normalized.head? = some 'v' ∨ normalized.head? = some 'V' then normalized.tail
      else normalized
    if numbered = [] then none else some (String.ofList numbered)

/-- The claim time of `build_temporal_selector`. -/
def selectorClaimTime (logicalTime : Instant) (historicalVersion : Option String)
    (explicitAsOf : Option Instant) : Option Instant :=
  let versioned := historicalVersion.any fun version => version ≠ "" && version ≠ "v"
  match explicitAsOf with
  | some asOf => some asOf
  | none => if versioned then none else some logicalTime

namespace RetrievalRequest

variable (request : RetrievalRequest Score)

def canonical : RetrievalRequest Score :=
  { request with historicalVersion := canonicalDocumentVersion request.historicalVersion }

/-- The lane of a search that compares nothing. -/
def singleLane : Lane Score :=
  let historical := request.intent = .historical
  let claimTime := selectorClaimTime request.now
    (if historical then request.historicalVersion else none)
    (if historical then request.explicitAsOf else none)
  { group := if historical then .historical else .current
    intent := request.intent
    claimEffectiveTime := claimTime
    vectorHits := request.vectorHits
    keywordHits := request.keywordHits
    options :=
      { plan := request.plan
        region := request.region
        now := claimTime.getD request.now
        historical
        versionScoped := request.historicalVersion.isSome && request.explicitAsOf.isNone } }

def laneOptions (now : Instant) (historical versionScoped : Bool) (maxItems : Int) :
    SelectionOptions where
  plan := request.plan
  region := request.region
  maxItems
  now
  historical
  versionScoped

/-- `copy_matching`. -/
def copyMatching (hits : List (ParsedChunk Score)) (predicate : ParsedChunk Score → Bool) :
    List (ParsedChunk Score) :=
  (hits.filter predicate).map fun chunk => { chunk with origin := .copied }

def currentPredicate (chunk : ParsedChunk Score) : Bool :=
  chunk.status = "active" && intervalContains chunk request.now

def currentLane : Lane Score where
  group := .current
  intent := .current
  claimEffectiveTime := selectorClaimTime request.now none none
  vectorHits := copyMatching request.vectorHits request.currentPredicate
  keywordHits := copyMatching request.keywordHits request.currentPredicate
  options := request.laneOptions request.now false false 2
  reserveTransition := true

/-! ## Discovery -/

/-- The hits that explain a transition and are of no document version that is current. -/
def discoveryHits (current : EvidenceSet Score) (hits : List (ParsedChunk Score)) :
    List (ParsedChunk Score) :=
  hits.filter fun chunk =>
    chunk.chunkId ∉ current.chunks.map RankedChunk.chunkId &&
      (chunk.documentId, chunk.version) ∉ current.chunks.map (fun item =>
        (item.chunk.documentId, item.chunk.version)) &&
      0 < historicalTransitionScore service.casefold chunk

def discovered (current : EvidenceSet Score) : List (RankedChunk Score) :=
  reciprocalRankFusion service.doubles (discoveryHits service current request.vectorHits)
    (discoveryHits service current request.keywordHits)

/-- Lines of text with line feeds between them. -/
def joinLines (lines : List (List Char)) : List Char :=
  List.intercalate ['\n'] lines

/-- The titles and the paths of the current evidence. -/
def topicBridge (current : EvidenceSet Score) : List Char :=
  let surfaces := (current.chunks.flatMap fun item =>
    [stripSpace item.chunk.title, stripSpace item.chunk.sectionPath]).filter (· ≠ [])
  joinLines ((Grouping.distinct surfaces).insertionSort fun left right =>
    String.ofList left ≤ String.ofList right)

def discoveryTopicScores (current : EvidenceSet Score) : List (String × Nat) :=
  topicCoherenceScores service.casefold
    (joinLines ([service.query.normalized, topicBridge current].filter (· ≠ [])))
    ((request.discovered service current).map RankedChunk.chunk)

def discoveryBridgeScores (current : EvidenceSet Score) : List (String × Nat) :=
  if topicBridge current = [] then []
  else topicCoherenceScores service.casefold (topicBridge current)
    ((request.discovered service current).map RankedChunk.chunk)

/-- The four best discoveries: topic, kind of section, transition, score, id. -/
def rankedDiscovered (current : EvidenceSet Score) : List (RankedChunk Score) :=
  let scores := request.discoveryTopicScores service current
  let rank (item : RankedChunk Score) :=
    toLex (OrderDual.toDual (scoreOf scores item.chunkId),
      toLex (OrderDual.toDual (answerSectionPriority service.casefold item.chunk),
        toLex (OrderDual.toDual (historicalTransitionScore service.casefold item.chunk),
          toLex (OrderDual.toDual item.rrfScore, item.chunkId))))
  ((request.discovered service current).insertionSort fun left right =>
    rank left ≤ rank right).take 4

/-- The documents and versions of the historical lanes. -/
def anchored : Bool :=
  request.historicalVersion.isSome || request.explicitAsOf.isSome

def candidateSelectors (current : EvidenceSet Score) : List (Option String × Option String) :=
  if request.anchored then [(none, request.historicalVersion)]
  else Grouping.distinct (((request.rankedDiscovered service current).filter fun item =>
    item.chunk.version ≠ "").map fun item => (some item.chunk.documentId, some item.chunk.version))

def historicalPredicate (selector : Option String × Option String) (chunk : ParsedChunk Score) :
    Bool :=
  if request.anchored then
    if selector.2.any fun version => chunk.version ≠ version then false
    else match request.explicitAsOf with
      | some asOf => intervalContains chunk asOf
      | none => chunk.status = "deprecated" && chunk.effectiveAt ≤ request.now
  else some chunk.documentId = selector.1 && some chunk.version = selector.2 &&
    0 < historicalTransitionScore service.casefold chunk

def historicalLane (current : EvidenceSet Score) (selector : Option String × Option String) :
    Lane Score where
  group := .historical
  intent := .historical
  claimEffectiveTime := selectorClaimTime request.now selector.2 request.explicitAsOf
  vectorHits := copyMatching request.vectorHits (request.historicalPredicate service selector)
  keywordHits := copyMatching request.keywordHits (request.historicalPredicate service selector)
  options := request.laneOptions (request.explicitAsOf.getD request.now) true
    (!request.anchored || (selector.2.isSome && request.explicitAsOf.isNone))
    (if request.anchored then 2 else 1)
  ignoreClaimTime := !request.anchored
  topicScores :=
    if request.anchored then none else some (request.discoveryTopicScores service current)
  structuredScores :=
    if request.anchored then none else some (request.discoveryBridgeScores service current)

def historicalLanes (current : EvidenceSet Score) : List (Lane Score) :=
  (request.candidateSelectors service current).map (request.historicalLane service current)

/-! ## Results -/

/-- By what the historical lane is selected: evidence, topic, score, document and version. -/
def historicalOrder (scores : List (String × Nat))
    (built : (Option String × Option String) × LaneResult Score) :
    Bool ×ₗ Nat ×ₗ Score ×ₗ String ×ₗ String :=
  toLex (!built.2.evidence.chunks.isEmpty,
    toLex ((built.2.fused.map fun item => scoreOf scores item.chunkId).foldl max 0,
      toLex (((greatest? id (built.2.fused.map evidenceScore)).getD (service.doubles.ofInt 0)),
        toLex (built.1.1.getD "", built.1.2.getD ""))))

def comparedEvidence (current : EvidenceSet Score) (historical : Option (EvidenceSet Score)) :
    EvidenceSet Score :=
  let older := historical.getD { chunks := [], citations := [] }
  { chunks := current.chunks ++ older.chunks
    citations := current.citations ++ older.citations
    conflict := current.conflict || older.conflict
    refusalReason :=
      if current.chunks.isEmpty ∨ older.chunks.isEmpty then some "compare_evidence_group_missing"
      else if current.conflict then
        some (current.refusalReason.getD "conflicting_current_evidence")
      else if older.conflict then
        some (older.refusalReason.getD "conflicting_historical_evidence")
      else none }

/-- `_build_published_comparison`. -/
def buildPublishedComparison : Except RetrievalRaise (RetrievalResult Score) := do
  let current ← request.currentLane.build service
  let historical ←
    (request.historicalLanes service current.evidence).mapM fun lane => lane.build service
  let selected := greatest? (historicalOrder service
      (if request.anchored then [] else request.discoveryTopicScores service current.evidence))
    ((request.candidateSelectors service current.evidence).zip historical)
  .ok { evidence := comparedEvidence current.evidence (selected.map fun built => built.2.evidence)
        lanes := current :: (selected.map Prod.snd).toList }

/-- The decisions of a lane, with the first reason of each chunk that was filtered out before. -/
def decisionsWithFilter (lane : LaneResult Score) (group : EvidenceGroup) :
    List OmissionDecision :=
  request.preFilterCandidates.foldl (fun decisions candidate =>
    if candidate.filterOutcome ≠ "excluded" ∨
        candidate.chunkId ∈ lane.selected.map SelectedCandidate.chunkId ∨
        candidate.chunkId ∈ decisions.map OmissionDecision.chunkId then decisions
    else match candidate.filterReasons with
      | [] => decisions
      | reason :: _ => decisions ++ [{ chunkId := candidate.chunkId, reason, group }])
    lane.omissions

/-- What a search does when it has its hits. -/
def search : Except RetrievalRaise (RetrievalResult Score) :=
  if request.intent = .historical ∧ request.historicalVersion = none ∧
      request.explicitAsOf = none then
    .ok { evidence :=
            { chunks := [], citations := []
              refusalReason := some "ambiguous_historical_anchor" }
          lanes := [] }
  else if request.intent = .compare then request.buildPublishedComparison service
  else do
    let lane ← request.singleLane.build service
    .ok { evidence := lane.evidence
          lanes :=
            [{ lane with
                omissions := request.decisionsWithFilter lane request.singleLane.group }] }

/-- `retrieve_with_trace`, from what the repository has found. -/
def retrieveWithTrace : Except RetrievalRaise (RetrievalResult Score) :=
  request.canonical.search service

end RetrievalRequest

end

end Retrieval

end SupportGuard
