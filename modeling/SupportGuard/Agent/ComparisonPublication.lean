import SupportGuard.Agent.Obligations
import SupportGuard.Foundation.Grouping

/-! # Comparison of versions

The readers of `agent/evidence.py` that find the values an old and a current version differ in,
and `agent/comparison_publication.py`, which closes a comparison over the citations of both
versions. Texts that are searched are lists of characters. -/

namespace SupportGuard

open Foundation

/-! ## Evidence and its bindings -/

/-- One piece of retrieved evidence, with the hash of its source locator. -/
structure EvidenceItem where
  evidenceId : Option String := none
  evidenceGroup : Option String := none
  chunkId : Option String := none
  documentId : Option String := none
  version : Option String := none
  contentHash : Option String := none
  locatorHash : Option String := none
  supportingSpanEligible : Bool := false
  supportingSpan : String := ""
  sectionPath : String := ""
deriving DecidableEq

/-- What a citation binding of the provider's context stands for. -/
structure BindingDetails where
  evidenceId : Option String := none
  evidenceGroup : Option String := none
  chunkId : Option String := none
  documentId : Option String := none
  version : Option String := none
  contentHash : Option String := none
  locatorHash : Option String := none
deriving DecidableEq

/-- The bindings of a context in their order, each under its own identifier. -/
structure BindingMap where
  entries : List (String × BindingDetails)
  unique : (entries.map Prod.fst).Nodup

def BindingMap.empty : BindingMap := ⟨[], List.nodup_nil⟩

/-- `value or ""`. -/
def presentText (value : Option String) : String :=
  value.getD ""

/-- `binding_map.get(binding_id, {}).get(field)` where that is a text with characters. -/
def BindingMap.field (bindings : BindingMap) (field : BindingDetails → Option String)
    (bindingId : String) : Option String :=
  ((bindings.entries.lookup bindingId).bind field).filter (· ≠ "")

def BindingMap.chunkOf (bindings : BindingMap) : String → Option String :=
  bindings.field BindingDetails.chunkId

def BindingMap.locatorOf (bindings : BindingMap) : String → Option String :=
  bindings.field BindingDetails.locatorHash

/-- `item.get("evidence_group") or "current"`. -/
def EvidenceItem.group (item : EvidenceItem) : String :=
  if presentText item.evidenceGroup = "" then "current" else presentText item.evidenceGroup

/-- The item is the one that the binding stands for. -/
def EvidenceItem.matchesBinding (item : EvidenceItem) (details : BindingDetails) : Bool :=
  item.supportingSpanEligible && item.chunkId = details.chunkId &&
    item.documentId = details.documentId && item.version = details.version &&
    item.contentHash = details.contentHash && item.locatorHash = details.locatorHash &&
    (presentText details.evidenceId = "" || item.evidenceId = details.evidenceId) &&
    (presentText details.evidenceGroup = "" || some item.group = details.evidenceGroup)

/-! ## Quantified markers -/

namespace ComparisonPattern

def quantifiedMarker : Regex :=
  .compile [
    r"(?<![A-Za-z0-9])",
    r"(?:\d+(?:\.\d+)?\s*",
    r"(?:tokens?|tok|kb|mb|gb|tb|ms|qps|rps|k|m|b|%|％|万|亿))",
    r"(?![A-Za-z0-9])"]

def currentCue : Regex :=
  .compile [r"(?:当前|新版|现行|最新|\b(?:current|new|latest)\b)"]

def historicalCue : Regex :=
  .compile [r"(?:旧|历史|此前|原来|\b(?:old|legacy|historical|previous)\b)"]

def transitionCue : Regex :=
  .compile [
    r"(?:从.+?(?:到|至)|提升至|提高到|降低至|变更为|",
    r"\b(?:from|changed|increased|decreased).+?\bto\b)"]

def clauseBoundary : Regex :=
  .compile [r"[。！？!?；;，,\n]+|\b(?:while|whereas)\b|(?:而|但)"]

end ComparisonPattern

section

variable (tables : TextTables)

/-- `re.sub(r"\s+", "", text).casefold()`. -/
def compactText (text : List Char) : List Char :=
  tables.casefold (text.filter fun character => !isTextSpace character)

/-- The clauses of a span. -/
def comparisonClauses (span : List Char) : List (List Char) :=
  ((ComparisonPattern.clauseBoundary.splitText tables.isWord span).map stripSpace).filter (· ≠ [])

def patternStarts (pattern : Regex) (text : List Char) : List Nat :=
  (pattern.finditer tables.isWord text 0 text.length).map RegexMatch.start

/-- The markers of a text with the places where they start. -/
def quantifiedMarkers (text : List Char) : List (Nat × List Char) :=
  (ComparisonPattern.quantifiedMarker.finditer tables.isWord text 0 text.length).map fun found =>
    (found.start, compactText tables (textSlice text found.start found.stop))

/-- The distance to the nearest cue. -/
def nearestCue (position : Nat) (cues : List Nat) : Option Nat :=
  (cues.map fun cue => (position - cue) + (cue - position)).min?

def appendNew (items : List (List Char)) (item : List Char) : List (List Char) :=
  if item ∈ items then items else items ++ [item]

/-- The old and the current markers so far, with one more marker of a clause. -/
def placeMarker (historicalCues currentCues : List Nat)
    (placed : List (List Char) × List (List Char)) (marker : Nat × List Char) :
    List (List Char) × List (List Char) :=
  match nearestCue marker.1 historicalCues, nearestCue marker.1 currentCues with
  | some historical, some current =>
      if historical < current then (appendNew placed.1 marker.2, placed.2)
      else (placed.1, appendNew placed.2 marker.2)
  | some _, none => (appendNew placed.1 marker.2, placed.2)
  | none, some _ => (placed.1, appendNew placed.2 marker.2)
  | none, none => placed

/-- `_comparison_explicit_role_pair`. -/
def comparisonExplicitRolePair (span : List Char) : Option (List Char × List Char) :=
  let placed := (comparisonClauses tables span).foldl (fun placed clause =>
    (quantifiedMarkers tables clause).foldl
      (placeMarker (patternStarts tables ComparisonPattern.historicalCue clause)
        (patternStarts tables ComparisonPattern.currentCue clause)) placed) ([], [])
  placed.1.findSome? fun historical =>
    (placed.2.find? (· ≠ historical)).map fun current => (historical, current)

/-- `_comparison_marker_pair`. -/
def comparisonMarkerPair (span : List Char) : Option (List Char × List Char) :=
  (comparisonExplicitRolePair tables span).or <|
    let markers := (comparisonClauses tables span).foldl (fun markers clause =>
      (((quantifiedMarkers tables clause).map Prod.snd).filter (· ≠ [])).foldl appendNew
        markers) []
    if ComparisonPattern.transitionCue.found tables.isWord span && 2 ≤ markers.length then
      match markers.head?, markers.getLast? with
      | some first, some last => some (first, last)
      | _, _ => none
    else none

/-- The markers of the eligible spans of one group. -/
def groupMarkers (evidence : List EvidenceItem) (group : String) : List (List Char) :=
  let grouped := evidence.filter fun item =>
    item.supportingSpanEligible && item.evidenceGroup = some group
  grouped.foldl (fun markers item =>
    (((quantifiedMarkers tables item.supportingSpan.toList).map Prod.snd).filter (· ≠ [])).foldl
      appendNew markers) []

/-- `comparison_transition_markers`. -/
def comparisonTransitionMarkers (evidence : List EvidenceItem) : List (List Char) :=
  let historical := groupMarkers tables evidence "historical"
  let shared := (groupMarkers tables evidence "current").filter (· ∈ historical)
  if 2 ≤ shared.length then shared.take 4
  else
    let grouped := evidence.filter fun item => item.supportingSpanEligible &&
      (item.evidenceGroup = some "current" || item.evidenceGroup = some "historical")
    match grouped.findSome? fun item => comparisonMarkerPair tables item.supportingSpan.toList with
    | some pair => [pair.1, pair.2]
    | none => []

/-- `comparison_transition_claim` of one item. -/
def comparisonTransitionClaim (item : EvidenceItem) : Option String :=
  if item.supportingSpanEligible then
    (comparisonMarkerPair tables item.supportingSpan.toList).map fun pair =>
      "关键版本变化是：旧版本为 " ++ String.ofList pair.1 ++ "，当前版本为 " ++
        String.ofList pair.2 ++ "。"
  else none

/-- `candidate_public_claim_text`. -/
def candidatePublicClaimText (candidate : CandidateResponse) : List Char :=
  let claims := (candidate.materialClaims.map fun claim => stripSpace claim.text.toList).filter
    (· ≠ [])
  if claims = [] then candidate.answer.toList else List.intercalate ['\n'] claims

/-- `missing_comparison_transition_markers`. -/
def missingComparisonTransitionMarkers (candidate : CandidateResponse)
    (required : List (List Char)) : List (List Char) :=
  required.filter fun marker =>
    !decide (marker <:+: compactText tables (candidatePublicClaimText candidate))

/-- `comparison_transition_roles_explicit`. -/
def comparisonTransitionRolesExplicit (candidate : CandidateResponse)
    (required : List (List Char)) : Bool :=
  if required = [] then true
  else match comparisonExplicitRolePair tables (candidatePublicClaimText candidate) with
    | none => false
    | some pair => required.all fun marker => marker = pair.1 || marker = pair.2

/-! ## Closing a comparison -/

/-- `_exact_context_evidence`. -/
def exactContextEvidence (evidence : List EvidenceItem) (details : BindingDetails) :
    Option EvidenceItem :=
  match evidence.filter (EvidenceItem.matchesBinding · details) with
  | [item] => some item
  | _ => none

def carriesAll (markers : List (List Char)) (text : List Char) : Bool :=
  markers.all fun marker => marker <:+: compactText tables text

/-- `_transition_supports_markers`. -/
def transitionSupportsMarkers (markers : List (List Char)) (item : EvidenceItem) : Bool :=
  (comparisonTransitionClaim tables item).isSome &&
    carriesAll tables markers item.supportingSpan.toList

/-- `_mentions_transition`. -/
def mentionsTransition (markers : List (List Char)) (item : EvidenceItem) : Bool :=
  markers.any fun marker => marker <:+: compactText tables item.supportingSpan.toList

/-- One claim of `_augment_transition_claims`. -/
def augmentTransitionClaim (markers : List (List Char)) (additions : List (String × EvidenceItem))
    (claim : MaterialClaim) : MaterialClaim :=
  if carriesAll tables markers claim.text.toList then
    let supporting := additions.filter fun addition =>
      transitionSupportsMarkers tables markers addition.2
    { claim with
      citationBindingIds := Grouping.distinct
        (claim.citationBindingIds ++ supporting.map Prod.fst)
      knowledgeLocatorHashes := Grouping.distinct (claim.knowledgeLocatorHashes ++
        (supporting.map fun addition => presentText addition.2.locatorHash).filter
          (·.length = 64)) }
  else claim

/-- The bindings whose evidence is the only one to match them. -/
def eligibleBindings (bindings : BindingMap) (evidence : List EvidenceItem) :
    List (String × EvidenceItem) :=
  bindings.entries.filterMap fun entry =>
    (exactContextEvidence evidence entry.2).map fun item => (entry.1, item)

/-- The binding that would stand for a group that no citation has. -/
def groupAddition (markers : List (List Char)) (eligible : List (String × EvidenceItem))
    (group : String) : Option (String × EvidenceItem) :=
  eligible.find? fun binding =>
    binding.2.group = group && mentionsTransition tables markers binding.2

/-- The bindings that `canonicalize_comparison_citation_groups` adds: one for each group that no
citation of the candidate has, where there is one for each. -/
def comparisonAdditions (candidate : CandidateResponse) (evidence : List EvidenceItem)
    (bindings : BindingMap) (comparisonComplete : Bool) (evidenceReplanCount : Nat) :
    List (String × EvidenceItem) :=
  let markers := comparisonTransitionMarkers tables evidence
  let eligible := eligibleBindings bindings evidence
  if candidate.action ≠ .answer ∨ comparisonComplete = false ∨ evidenceReplanCount < 1 ∨
      markers = [] ∨ (eligible.any fun binding =>
        transitionSupportsMarkers tables markers binding.2) = false then []
  else
    let existing := (eligible.filter fun binding =>
      binding.1 ∈ candidate.knowledgeCitations).map fun binding => binding.2.group
    ((["current", "historical"].filter (· ∉ existing)).mapM
      (groupAddition tables markers eligible)).getD []

/-- `canonicalize_comparison_citation_groups`. -/
def canonicalizeComparisonCitationGroups (candidate : CandidateResponse)
    (evidence : List EvidenceItem) (bindings : BindingMap) (comparisonComplete : Bool)
    (evidenceReplanCount : Nat) : CandidateResponse :=
  match comparisonAdditions tables candidate evidence bindings comparisonComplete
      evidenceReplanCount with
  | [] => candidate
  | additions =>
      { candidate with
        knowledgeCitations := candidate.knowledgeCitations ++ additions.map Prod.fst
        knowledgeChunkIds := Grouping.distinct (candidate.knowledgeChunkIds ++
          additions.filterMap fun addition => addition.2.chunkId.filter (· ≠ ""))
        materialClaims := candidate.materialClaims.map (augmentTransitionClaim tables
          (comparisonTransitionMarkers tables evidence) additions) }

end

end SupportGuard
