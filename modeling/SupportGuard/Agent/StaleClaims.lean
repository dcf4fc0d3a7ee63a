import SupportGuard.Agent.PolicyGate

/-! # Claims about stale observations

`agent/freshness.py` takes the claims out of a candidate that rest on business observations
which are no longer fresh; `assess_terminal_evidence` and `observation_is_fresh` of
`agent/evidence.py` judge the same claims again. Both read one clock here. -/

namespace SupportGuard

open Foundation

namespace Freshness

section

variable (contracts : AssemblerContracts)

/-! ## Observations -/

/-- `observation_is_fresh`. -/
def observationIsFresh (now : Instant) (observation : EvidenceObservation) : Bool :=
  (observation.members.value "freshness_status").pyEq (.string "fresh") &&
    (evidenceTime contracts observation.freshUntil).any fun freshUntil =>
      (now.microseconds : Int) ≤ DateTime.universal freshUntil

def succeeded (observation : EvidenceObservation) : Bool :=
  (observation.members.value "status").pyEq (.string "ok")

def reads (tool : String) (observation : EvidenceObservation) : Bool :=
  (observation.members.value "tool_name").pyEq (.string tool)

/-- `source_to_observation.get(source_id)`: a later observation takes the place of an earlier
one. -/
def sourceObservation (observations : List EvidenceObservation) (sourceId : String) :
    Option EvidenceObservation :=
  observations.reverse.find? fun observation =>
    succeeded observation && !reads "search_knowledge" observation &&
      (sourceIds contracts observation.members).contains sourceId

/-- The source is one of `publishable_source_ids`. -/
def publishable (now : Instant) (observations : List EvidenceObservation)
    (sourceId : String) : Bool :=
  (sourceObservation contracts observations sourceId).any (observationIsFresh contracts now)

/-! ## The candidate without its stale claims -/

def keepsClaim (now : Instant) (observations : List EvidenceObservation)
    (claim : MaterialClaim) : Bool :=
  claim.observationSourceIds.all (publishable contracts now observations)

def keptAnswer (kept : List MaterialClaim) : String :=
  let texts := Grouping.distinct ((kept.map MaterialClaim.strippedText).filter (· ≠ []))
  if texts = [] then "用于判断当前状态的实时数据已过期，无法确认此刻的状态。"
  else String.ofList (List.intercalate ['\n'] texts)

def pruneStaleBusinessClaims (now : Instant) (observations : List EvidenceObservation)
    (bindings : BindingMap) (candidate : CandidateResponse) : CandidateResponse × Nat :=
  let kept := candidate.materialClaims.filter (keepsClaim contracts now observations)
  let removedCount := candidate.materialClaims.length - kept.length
  if removedCount = 0 then (candidate, 0)
  else
    let keptBindings := kept.flatMap MaterialClaim.citationBindingIds
    let keptSources := kept.flatMap MaterialClaim.observationSourceIds
    let keptChunks := keptBindings.filterMap bindings.chunkOf
    ({ candidate with
        answer := keptAnswer kept
        knowledgeChunkIds := candidate.knowledgeChunkIds.filter (· ∈ keptChunks)
        knowledgeCitations := candidate.knowledgeCitations.filter (· ∈ keptBindings)
        businessSourceIds := candidate.businessSourceIds.filter (· ∈ keptSources)
        materialClaims := kept },
      removedCount)

/-! ## The assessment -/

/-- What `assess_terminal_evidence` is told beside the candidate, the observations and the
clock. -/
structure TerminalContext where
  issueType : IssueType
  evidenceConflict : Bool
  specifiedRequest : Bool
  canReplan : Bool
  explainableComparison : Bool := false

/-- A knowledge read that an answer may rest on. -/
def usableKnowledge (explainableComparison : Bool) (observation : EvidenceObservation) : Bool :=
  reads "search_knowledge" observation &&
    match observation.members.value "data" with
    | .object data =>
        (JsonMembers.value data "evidence").truthy &&
          (!(JsonMembers.value data "refusal_reason").truthy || explainableComparison &&
            (JsonMembers.value data "refusal_reason").pyEq
              (.string "unresolved_published_version_conflict"))
    | _ => false

def speaksFor (explainableComparison : Bool) (group : String)
    (observation : EvidenceObservation) : Bool :=
  succeeded observation &&
    match group with
    | "knowledge" => usableKnowledge explainableComparison observation
    | "request_trace" => reads "query_request_trace" observation
    | "billing_record" => reads "query_billing_record" observation
    | "api_key_metadata" => reads "query_api_key_metadata" observation
    | "subscription" => reads "query_subscription" observation
    | _ => false

def requiredGroups (context : TerminalContext) (candidate : CandidateResponse) : List String :=
  (if context.issueType.needsKnowledge then ["knowledge"] else []) ++
    (if (context.issueType = .apiDiagnostics ∨ context.issueType = .incidentSupport) ∧
      context.specifiedRequest then ["request_trace"] else []) ++
    (proposalGroup candidate.action).toList

/-- The group of an observation that is stale, under the name of its tool. -/
def staleGroup (now : Instant) (observation : EvidenceObservation) : Option String :=
  if observationIsFresh contracts now observation then none
  else
    let toolName := observation.members.value "tool_name"
    some (if toolName.truthy then contracts.str toolName else "business_observation")

def assessTerminalEvidence (context : TerminalContext) (now : Instant)
    (observations : List EvidenceObservation) (candidate : CandidateResponse) :
    EvidenceAssessment :=
  if candidate.action = .reject ∨ candidate.action = .manualTakeover then
    { sufficient := true, result := .accept }
  else
    let required := requiredGroups context candidate
    let satisfied := required.filter fun group =>
      observations.any (speaksFor context.explainableComparison group)
    let claimed := Grouping.distinct
      (candidate.materialClaims.flatMap MaterialClaim.observationSourceIds)
    let observed := claimed.map (sourceObservation contracts observations)
    let missing := required.filter (!satisfied.contains ·) ++
      (if observed.any Option.isNone then ["business_observation"] else []) ++
      (if context.evidenceConflict ∧ context.explainableComparison = false then
        ["non_conflicting_knowledge"] else [])
    let stale := Grouping.distinct ((observed.filterMap id).filterMap (staleGroup contracts now))
    if missing = [] ∧ stale = [] then
      { sufficient := true
        requiredGroups := required
        satisfiedGroups := satisfied
        result := .accept }
    else
      { sufficient := false
        requiredGroups := required
        satisfiedGroups := satisfied
        missingGroups := missing
        staleGroups := stale
        result := if context.canReplan then .replan else .terminal
        errorCode := some (if stale ≠ [] then "evidence_freshness_insufficient"
          else "evidence_group_incomplete") }

/-! ## What is left of a candidate -/

/-- Every source of the claim is the source of a fresh and successful business observation. -/
def RestsOnFresh (now : Instant) (observations : List EvidenceObservation)
    (claim : MaterialClaim) : Prop :=
  ∀ sourceId ∈ claim.observationSourceIds,
    publishable contracts now observations sourceId = true

/-- Nothing stale is left, nothing fresh is gone, and both judges agree. -/
structure PrunedSoundly (now : Instant) (observations : List EvidenceObservation)
    (bindings : BindingMap) (candidate pruned : CandidateResponse) : Prop where
  claims : ∀ claim ∈ pruned.materialClaims, RestsOnFresh contracts now observations claim
  sources : ∀ sourceId ∈ pruned.businessSourceIds,
    publishable contracts now observations sourceId = true
  kept : pruned.materialClaims =
    candidate.materialClaims.filter (keepsClaim contracts now observations)
  notStale : ∀ context,
    (assessTerminalEvidence contracts context now observations pruned).staleGroups = []
  notMissing : ∀ context, "business_observation" ∉
    (assessTerminalEvidence contracts context now observations pruned).missingGroups
  again : pruneStaleBusinessClaims contracts now observations bindings pruned = (pruned, 0)

variable {contracts} {now : Instant} {observations : List EvidenceObservation}
  {bindings : BindingMap} {candidate : CandidateResponse}

theorem keepsClaim_iff {claim : MaterialClaim} :
    keepsClaim contracts now observations claim = true ↔
      RestsOnFresh contracts now observations claim := by
  rw [keepsClaim, List.all_eq_true, RestsOnFresh]

/-- The claims that are kept, whichever way the function ends. -/
theorem pruneStaleBusinessClaims_materialClaims :
    (pruneStaleBusinessClaims contracts now observations bindings candidate).1.materialClaims =
      candidate.materialClaims.filter (keepsClaim contracts now observations) := by
  rw [pruneStaleBusinessClaims]
  dsimp only
  split
  · next none =>
      have whole := List.length_filter_le (keepsClaim contracts now observations)
        candidate.materialClaims
      have same := List.length_filter_eq_length_iff.mp (Nat.le_antisymm whole (by omega))
      exact (List.filter_eq_self.mpr same).symm
  · rfl

theorem pruneStaleBusinessClaims_claims :
    ∀ claim ∈ (pruneStaleBusinessClaims contracts now observations bindings
      candidate).1.materialClaims, RestsOnFresh contracts now observations claim := by
  rw [pruneStaleBusinessClaims_materialClaims]
  intro claim member
  exact keepsClaim_iff.mp (List.mem_filter.mp member).2

/-- A candidate whose claims all rest on fresh observations is left as it is. -/
theorem pruneStaleBusinessClaims_of_fresh
    (fresh : ∀ claim ∈ candidate.materialClaims, RestsOnFresh contracts now observations claim) :
    pruneStaleBusinessClaims contracts now observations bindings candidate = (candidate, 0) := by
  have whole : candidate.materialClaims.filter (keepsClaim contracts now observations) =
      candidate.materialClaims :=
    List.filter_eq_self.mpr fun claim member => keepsClaim_iff.mpr (fresh claim member)
  rw [pruneStaleBusinessClaims]
  dsimp only
  rw [whole, Nat.sub_self, if_pos rfl]

theorem businessObservation_not_required (context : TerminalContext)
    (candidate : CandidateResponse) :
    "business_observation" ∉ requiredGroups context candidate := by
  rw [requiredGroups]
  cases candidate.action <;> split <;> split <;> decide

/-- Every source that a candidate claims is observed, and freshly. -/
theorem assessTerminalEvidence_of_fresh (context : TerminalContext)
    (fresh : ∀ claim ∈ candidate.materialClaims, RestsOnFresh contracts now observations claim) :
    (assessTerminalEvidence contracts context now observations candidate).staleGroups = [] ∧
      "business_observation" ∉
        (assessTerminalEvidence contracts context now observations candidate).missingGroups := by
  have observed : ∀ outcome ∈ (Grouping.distinct
      (candidate.materialClaims.flatMap MaterialClaim.observationSourceIds)).map
        (sourceObservation contracts observations),
      ∃ observation, outcome = some observation ∧
        observationIsFresh contracts now observation = true := by
    intro outcome member
    rcases List.mem_map.mp member with ⟨sourceId, claimed, rfl⟩
    rcases List.mem_flatMap.mp (Grouping.mem_distinct.mp claimed) with ⟨claim, among, named⟩
    exact (Option.any_eq_true _ _).mp (fresh claim among sourceId named)
  have present : (((Grouping.distinct
      (candidate.materialClaims.flatMap MaterialClaim.observationSourceIds)).map
        (sourceObservation contracts observations)).any Option.isNone) = false := by
    rw [List.any_eq_false]
    intro outcome member
    rcases observed outcome member with ⟨observation, rfl, _⟩
    exact Bool.false_ne_true
  have stale : (((Grouping.distinct
      (candidate.materialClaims.flatMap MaterialClaim.observationSourceIds)).map
        (sourceObservation contracts observations)).filterMap id).filterMap
          (staleGroup contracts now) = [] := by
    rw [List.filterMap_eq_nil_iff]
    intro observation member
    rcases List.mem_filterMap.mp member with ⟨outcome, among, same⟩
    rcases observed outcome among with ⟨seen, is, current⟩
    have named : seen = observation := Option.some_inj.mp (is.symm.trans same)
    rw [staleGroup, if_pos (named ▸ current)]
  have unmissing : ∀ satisfied : List String, "business_observation" ∉
      (requiredGroups context candidate).filter (!satisfied.contains ·) ++ [] ++
        (if context.evidenceConflict ∧ context.explainableComparison = false then
          ["non_conflicting_knowledge"] else []) := by
    intro satisfied member
    rw [List.append_nil] at member
    rcases List.mem_append.mp member with required | conflict
    · exact businessObservation_not_required context candidate (List.mem_filter.mp required).1
    · split at conflict
      · exact absurd (List.mem_singleton.mp conflict) (by decide)
      · exact List.not_mem_nil conflict
  rw [assessTerminalEvidence]
  dsimp only
  rw [present, stale, if_neg Bool.false_ne_true]
  apply iteInduction (motive := fun assessment : EvidenceAssessment =>
    assessment.staleGroups = [] ∧
      "business_observation" ∉ assessment.missingGroups)
  · intro _
    exact ⟨rfl, List.not_mem_nil⟩
  intro _
  apply iteInduction (motive := fun assessment : EvidenceAssessment =>
    assessment.staleGroups = [] ∧
      "business_observation" ∉ assessment.missingGroups)
  · intro _
    exact ⟨rfl, List.not_mem_nil⟩
  · intro _
    exact ⟨rfl, unmissing _⟩

/-- Once a claim is taken out, the sources are those of the claims that are left. -/
theorem pruneStaleBusinessClaims_sources_of_removed
    (removed : ∃ claim ∈ candidate.materialClaims,
      ¬RestsOnFresh contracts now observations claim) :
    ∀ sourceId ∈ (pruneStaleBusinessClaims contracts now observations bindings
      candidate).1.businessSourceIds, publishable contracts now observations sourceId = true := by
  have fewer : candidate.materialClaims.length -
      (candidate.materialClaims.filter (keepsClaim contracts now observations)).length ≠ 0 := by
    intro none
    rcases removed with ⟨claim, among, stale⟩
    have whole := List.length_filter_le (keepsClaim contracts now observations)
      candidate.materialClaims
    have every := List.length_filter_eq_length_iff.mp (Nat.le_antisymm whole (by omega))
    exact stale (keepsClaim_iff.mp (every claim among))
  intro sourceId member
  rw [pruneStaleBusinessClaims] at member
  dsimp only at member
  rw [if_neg fewer] at member
  have named := of_decide_eq_true (List.mem_filter.mp member).2
  rcases List.mem_flatMap.mp named with ⟨claim, left, source⟩
  exact keepsClaim_iff.mp (List.mem_filter.mp left).2 sourceId source

/-- All but the sources holds of every candidate. -/
theorem prunedSoundly_of_sources
    (sources : ∀ sourceId ∈ (pruneStaleBusinessClaims contracts now observations bindings
      candidate).1.businessSourceIds, publishable contracts now observations sourceId = true) :
    PrunedSoundly contracts now observations bindings candidate
      (pruneStaleBusinessClaims contracts now observations bindings candidate).1 where
  claims := pruneStaleBusinessClaims_claims
  sources := sources
  kept := pruneStaleBusinessClaims_materialClaims
  notStale context :=
    (assessTerminalEvidence_of_fresh context pruneStaleBusinessClaims_claims).1
  notMissing context :=
    (assessTerminalEvidence_of_fresh context pruneStaleBusinessClaims_claims).2
  again := pruneStaleBusinessClaims_of_fresh pruneStaleBusinessClaims_claims

/-- A usage read that was stale when it was made. -/
def staleUsage : EvidenceObservation where
  members := [("status", .string "ok"), ("tool_name", .string "query_api_usage"),
    ("freshness_status", .string "stale"),
    ("source_refs", .array [.object [("source_id", .string "usage")]])]
  observedAt := .datetime ⟨⟨0, Instant.first_inRange⟩, none⟩
  freshUntil := .datetime ⟨⟨0, Instant.first_inRange⟩, none⟩

/-- An answer without a claim that names the source of the usage read. -/
def sourceWithoutClaim : CandidateResponse where
  answer := "ok"
  action := .answer
  businessSourceIds := ["usage"]
  proposedArguments := []
  uniqueArguments := List.nodup_nil

end

end Freshness

end SupportGuard
