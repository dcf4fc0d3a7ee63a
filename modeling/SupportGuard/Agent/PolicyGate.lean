import SupportGuard.Agent.LoopState

/-! # The policy gate

`agent/policy.py`, `agent/freshness.py` and `ActionFlowNodes.policy` of
`agent/nodes/action_flow.py`: a candidate is rewritten, checked, and then published or sent
back for another decision. -/

namespace SupportGuard

open Foundation

/-! ## What the gate is told -/

/-- What the readers of the customer's message, of the history and of the observations say to
the gate, and what the database says about the citation bindings. What is shown of the gate holds
whatever they say. -/
structure PolicyHost where
  tables : TextTables
  asksComparedApplicability : AgentState → Bool
  conflictClarification : AgentState → String
  hasActiveActionContext : AgentState → Bool
  lexicalScore : AgentState → EvidenceItem → Nat
  applicabilityConditions : AgentState → List String
  applicabilityDimensions : AgentState → List String
  referentialRequirements : AgentState → List EvidenceItem → List String
  supportedReferentialFacets : EvidenceItem → List String → List String
  applicabilityScopeClaim : String → EvidenceItem → List String → Option String
  applicabilityDimensionAnswered : String → String → Bool
  applicabilityDimensionClaim : String → EvidenceItem → Option String
  missingReferentialRequirements : CandidateResponse → List String → List String
  durableBindingsValid : AgentState → List String → Bool
  readOnlyFactContractValid : AgentState → CandidateResponse → Bool
  requestedFactContractValid : AgentState → CandidateResponse → Bool
  requestedFactRequirements : AgentState → List String
  requestedFactReadsComplete : AgentState → Bool
  requestedFactStatus : AgentState → CandidateResponse → List String × List String
  mixedAccountMissingGroups : AgentState → CandidateResponse → List String
  clarificationRequiresKnowledgeFirst : AgentState → Bool
  usableCurrentKnowledge : AgentState → Bool
  messageSpecifiesRequest : AgentState → Bool
  hasSecretRedaction : AgentState → Bool
  proposalEligible : AgentState → CandidateResponse → Option Bool
  observationIsFresh : LoopObservation → Bool
  safeApplicabilityConditionAnswer : List String → String
  safeFailureAnswer : String → String

/-! ## `agent/policy.py` -/

structure PolicyInput where
  candidate : CandidateResponse
  evidenceConflict : Bool
  citationIntegrity : Bool
  proposalEligible : Option Bool
  finishReason : Option String
  safeStopReason : Option String
  requestedActionUnresolved : Bool
  evidenceAssessmentResult : EvidenceResult
  evidenceAssessmentErrorCode : Option String
  hasSecretRedaction : Bool
  policyBoundary : PolicyBoundary
  knowledgeComparisonRequested : Bool
  knowledgeComparisonComplete : Bool
  explainableComparison : Bool
  comparisonCitationsComplete : Bool
  missingTransitionMarkers : List (List Char)
  groundedConflictClarification : Bool
  requestedCurrentFactMissing : Bool
  mixedAccountApplicabilityMissing : Bool

structure PublicationDecision where
  candidate : CandidateResponse
  route : PolicyRoute
  finishReason : Option String
  unsafeTerminalReason : Option String

def CandidateAction.isProposal : CandidateAction → Bool
  | .refundProposal | .apiKeyRevocationProposal | .entitlementChangeProposal => true
  | .answer | .escalate | .reject | .manualTakeover => false

/-- `decide_policy`. -/
def decidePolicy (input : PolicyInput) : PolicyRoute :=
  if input.citationIntegrity = false then .answer
  else if input.candidate.action.isProposal then
    if input.proposalEligible = some true then .awaitHumanApproval else .answer
  else if input.candidate.action = .reject then .reject
  else .answer

/-- The route and the reason before a terminal boundary is applied. -/
def routedReason (input : PolicyInput) : PolicyRoute × Option String :=
  let (route, finishReason) :=
    if input.safeStopReason.isSome then (.answer, input.safeStopReason)
    else if input.requestedActionUnresolved then (.answer, some "requested_action_unresolved")
    else if input.evidenceAssessmentResult = .terminal then
      (.answer, some (input.evidenceAssessmentErrorCode.getD "evidence_group_incomplete"))
    else (decidePolicy input, input.finishReason)
  if input.hasSecretRedaction then (.answer, some "credential_redaction_guidance")
  else if input.policyBoundary ≠ .allowed then (.reject, some "rejected")
  else if finishReason = some "needs_clarification" then (.answer, finishReason)
  else if input.proposalEligible = some false then (.answer, some "proposal_eligibility_failed")
  else if route = .awaitHumanApproval then (route, some "proposal_policy_approved")
  else if route = .reject then (route, some "rejected")
  else (route, finishReason)

/-- Why the candidate is not published. -/
def unsafeTerminalReason (input : PolicyInput) (finishReason : Option String) : Option String :=
  if input.candidate.action = .escalate ∨ input.candidate.action = .manualTakeover then
    some "human_handoff_unavailable"
  else if input.knowledgeComparisonRequested ∧ input.knowledgeComparisonComplete = false then
    some "comparison_evidence_incomplete"
  else if input.knowledgeComparisonComplete ∧ input.explainableComparison = false then
    if input.comparisonCitationsComplete ∧ input.missingTransitionMarkers ≠ [] then
      some "comparison_transition_incomplete"
    else some "comparison_citation_incomplete"
  else if input.evidenceConflict ∧
      ¬((input.groundedConflictClarification ∧ input.citationIntegrity) ∨
        input.explainableComparison) then
    some "evidence_conflict"
  else if input.citationIntegrity = false ∧ input.safeStopReason = none ∧
      finishReason ∉ [some "needs_clarification", some "proposal_eligibility_failed",
        some "requested_action_unresolved", some "credential_redaction_guidance"] then
    some "citation_binding_incomplete"
  else if input.requestedCurrentFactMissing then some "explicit_current_fact_incomplete"
  else if input.mixedAccountApplicabilityMissing then
    some "mixed_account_applicability_incomplete"
  else none

/-- `evaluate_policy`. -/
def evaluatePolicy (safeFailureAnswer : String → String) (input : PolicyInput) :
    PublicationDecision :=
  let (route, finishReason) := routedReason input
  match unsafeTerminalReason input finishReason with
  | some reason =>
      { candidate := plainResponse .answer (safeFailureAnswer reason)
        route := .answer
        finishReason := some reason
        unsafeTerminalReason := some reason }
  | none => { candidate := input.candidate, route, finishReason, unsafeTerminalReason := none }

/-! ## `agent/freshness.py` -/

/-- The last successful business read that names a source. -/
def sourceObservation (observations : List LoopObservation) (sourceId : String) :
    Option LoopObservation :=
  observations.reverse.find? fun item =>
    item.status = "ok" && item.toolName ≠ "search_knowledge" && sourceId ≠ "" &&
      item.sourceIds.contains sourceId

def claimIsFresh (observationIsFresh : LoopObservation → Bool)
    (observations : List LoopObservation) (claim : MaterialClaim) : Bool :=
  claim.observationSourceIds.all fun sourceId =>
    (sourceObservation observations sourceId).any observationIsFresh

def MaterialClaim.strippedText (claim : MaterialClaim) : List Char :=
  stripSpace claim.text.toList

/-- `prune_stale_business_claims`. -/
def pruneStaleBusinessClaims (observationIsFresh : LoopObservation → Bool)
    (observations : List LoopObservation) (bindings : BindingMap)
    (candidate : CandidateResponse) : CandidateResponse :=
  let kept := candidate.materialClaims.filter (claimIsFresh observationIsFresh observations)
  if kept.length = candidate.materialClaims.length then candidate
  else
    let keptBindings := kept.flatMap MaterialClaim.citationBindingIds
    let keptSources := kept.flatMap MaterialClaim.observationSourceIds
    let keptChunks := keptBindings.filterMap bindings.chunkOf
    let texts := Grouping.distinct ((kept.map MaterialClaim.strippedText).filter (· ≠ []))
    { candidate with
      answer := if texts = [] then "用于判断当前状态的实时数据已过期，无法确认此刻的状态。"
        else String.ofList (List.intercalate ['\n'] texts)
      knowledgeChunkIds := candidate.knowledgeChunkIds.filter (· ∈ keptChunks)
      knowledgeCitations := candidate.knowledgeCitations.filter (· ∈ keptBindings)
      businessSourceIds := candidate.businessSourceIds.filter (· ∈ keptSources)
      materialClaims := kept }

section

variable (host : PolicyHost) (state : AgentState)

/-! ## The contracts of a candidate -/

/-- The last binding whose chunk has the key. -/
def BindingMap.bindingOf (bindings : BindingMap) (key : BindingDetails → Option String)
    (chunk : String) : Option String :=
  (bindings.entries.reverse.find? fun entry => key entry.2 = some chunk).map Prod.fst

/-- One more piece of evidence for `_canonicalize_grounded_conflict_clarification`: the first
one of each group, two at most. -/
def selectGrounded (bindings : BindingMap) (selected : List (String × EvidenceItem))
    (item : EvidenceItem) : List (String × EvidenceItem) :=
  if selected.length = 2 then selected
  else match bindings.bindingOf (fun details => details.chunkId.filter (· ≠ ""))
      (presentText item.chunkId) with
    | none => selected
    | some bindingId =>
        if bindingId = "" ∨ (presentText item.locatorHash).length ≠ 64 ∨
            item.supportingSpanEligible = false ∨
            (selected.any fun chosen => chosen.2.group = item.group) then selected
        else selected ++ [(bindingId, item)]

/-- `_canonicalize_grounded_conflict_clarification`; none where the candidate stays. -/
def canonicalizeGroundedConflictClarification (candidate : CandidateResponse) :
    Option CandidateResponse :=
  if candidate.action ≠ .answer ∨ state.classification.issueType ≠ .productKnowledge ∨
      state.classification.policyBoundary ≠ .allowed ∨
      host.asksComparedApplicability state = false ∨ state.evidenceConflict = false ∨
      state.hasCurrentSuccessfulObservation "search_knowledge" = false then none
  else
    let selected := state.evidence.foldl (selectGrounded state.citationBindingMap) []
    let groups := selected.map fun chosen => chosen.2.group
    if groups = ["current", "historical"] ∨ groups = ["historical", "current"] then
      some
        { answer := host.conflictClarification state
          action := .answer
          knowledgeChunkIds := selected.map fun chosen => presentText chosen.2.chunkId
          knowledgeCitations := selected.map Prod.fst
          materialClaims :=
            [{ text := host.conflictClarification state
               citationBindingIds := selected.map Prod.fst
               knowledgeLocatorHashes := selected.map fun chosen =>
                 presentText chosen.2.locatorHash }]
          proposedArguments := []
          uniqueArguments := List.nodup_nil }
    else none

/-- The last quotable evidence of a chunk. -/
def quotableEvidence (evidence : List EvidenceItem) (chunk : String) : Option EvidenceItem :=
  evidence.reverse.find? fun item => item.chunkId = some chunk && chunk ≠ "" &&
    item.supportingSpanEligible && stripSpace item.supportingSpan.toList ≠ []

/-- The evidence that the customer's turn ranks first, with its binding. -/
def rankedEvidence : Option (String × EvidenceItem) :=
  let ranked := state.evidence.filterMap fun item => do
    let quoted ← quotableEvidence state.evidence (presentText item.chunkId)
    let bindingId ← state.citationBindingMap.bindingOf
      (fun details => some (details.chunkId.getD "None")) (presentText item.chunkId)
    return (bindingId, quoted)
  ranked.foldl (fun best next => match best with
    | none => some next
    | some chosen =>
        if host.lexicalScore state chosen.2 < host.lexicalScore state next.2 then some next
        else some chosen) none

/-- `_canonicalize_pending_action_policy_candidate`. -/
def canonicalizePendingActionPolicyCandidate (candidate : CandidateResponse) :
    CandidateResponse :=
  if state.classification.issueType ≠ .billingRefund ∨
      state.classification.policyBoundary ≠ .allowed ∨
      state.classification.requestedAction ≠ none ∨ host.hasActiveActionContext state = false ∨
      state.hasCurrentSuccessfulObservation "search_knowledge" = false ∨
      state.evidenceConflict then candidate
  else match rankedEvidence host state with
    | none => candidate
    | some (bindingId, item) =>
        if presentText item.locatorHash = "" then candidate
        else
          let text := String.ofList (stripSpace item.supportingSpan.toList)
          { answer := text
            action := .answer
            knowledgeChunkIds := [presentText item.chunkId]
            knowledgeCitations := [bindingId]
            materialClaims :=
              [{ text
                 citationBindingIds := [bindingId]
                 knowledgeLocatorHashes := [presentText item.locatorHash] }]
            proposedArguments := []
            uniqueArguments := List.nodup_nil }

/-- The response has neither references nor claims nor arguments. -/
def CandidateResponse.isBare (candidate : CandidateResponse) : Bool :=
  candidate.knowledgeChunkIds = [] && candidate.knowledgeCitations = [] &&
    candidate.materialClaims.isEmpty && candidate.proposedArguments.isEmpty

/-- `_action_state_contract_valid`. -/
def actionStateContractValid (candidate : CandidateResponse) : Bool :=
  state.actionStateTrusted && state.actionStateAnswer = some candidate.answer &&
    candidate.action = .answer && candidate.isBare && candidate.businessSourceIds = []

/-- `_terminal_business_contract_valid`. -/
def terminalBusinessContractValid (candidate : CandidateResponse) : Bool :=
  match state.terminalBusinessOutcome, state.actionObligationLedger, state.actionAdmission with
  | some outcome, some ledger, .current admission =>
      ledger.nextState = .explainTerminal && ledger.terminalOutcome = some outcome &&
        ledger.runId = state.runId && ledger.tenantId = state.tenantId &&
        ledger.customerId = state.customerId && ledger.scopeHash = admission.scopeHash &&
        admission.status = .admitted && admission.actionType = some outcome.actionType &&
        outcome.tenantId = state.tenantId && outcome.customerId = state.customerId &&
        outcome.scopeHash = admission.scopeHash && candidate.action = .answer &&
        candidate.answer = outcome.rendering && candidate.isBare &&
        (candidate.businessSourceIds.all (outcome.sourceIds.contains ·) &&
          outcome.sourceIds.all (candidate.businessSourceIds.contains ·)) &&
        (state.toolObservations.find? fun item =>
            item.runId = state.runId && item.identity = outcome.observationId).any fun observed =>
          observed.contentHash = outcome.observationContentHash &&
            outcome.sourceIds.all (observed.sourceIds.contains ·)
  | _, _, _ => false

structure PolicyContracts where
  candidate : CandidateResponse
  groundedConflictClarification : Bool
  platformContract : Bool
  terminalContract : Bool
  actionStateContract : Bool
  authoritativeFactContract : Bool
  requestedFactContract : Bool

/-- `_prepare_policy_contracts`. -/
def preparePolicyContracts (stored : CandidateResponse) : PolicyContracts :=
  let grounded := canonicalizeGroundedConflictClarification host state stored
  let candidate := canonicalizePendingActionPolicyCandidate host state (grounded.getD stored)
  { candidate
    groundedConflictClarification := grounded.isSome
    platformContract := (trustedPlatformAnswer state.classification.supportSubject).isSome
    terminalContract := terminalBusinessContractValid state candidate
    actionStateContract := actionStateContractValid state candidate
    authoritativeFactContract := host.readOnlyFactContractValid state candidate
    requestedFactContract := host.requestedFactContractValid state candidate }

/-! ## Evidence of a candidate -/

/-- The evidence of the state that has a chunk. -/
def AgentState.evidenceItems (state : AgentState) : List EvidenceItem :=
  state.evidence.filter fun item => presentText item.chunkId ≠ ""

/-- `_evidence_for_binding`. -/
def evidenceForBinding (bindingId : String) : Option EvidenceItem :=
  (state.citationBindingMap.entries.lookup bindingId).bind fun details =>
    state.evidenceItems.find? (EvidenceItem.matchesBinding · details)

/-- `citation_bindings_valid`. -/
def citationBindingsValid (candidate : CandidateResponse) : Bool :=
  candidate.knowledgeCitations.all fun bindingId => (evidenceForBinding state bindingId).isSome

/-- The sources of the business reads. -/
def AgentState.allowedSources (state : AgentState) : List String :=
  (state.toolObservations.filter (·.toolName ≠ "search_knowledge")).flatMap
    LoopObservation.sourceIds

/-- The cited bindings in their order with the evidence they stand for. -/
def orderedBoundEvidence (candidate : CandidateResponse) : List (String × EvidenceItem) :=
  candidate.knowledgeCitations.filterMap fun bindingId =>
    (evidenceForBinding state bindingId).map fun item => (bindingId, item)

/-- The claim that one binding supports, if its locator has a hash. -/
def boundClaim (bindings : BindingMap) (text : String) (bindingId : String) :
    Option MaterialClaim :=
  let locatorHash := (bindings.locatorOf bindingId).getD ""
  if locatorHash.length = 64 then
    some { text, citationBindingIds := [bindingId], knowledgeLocatorHashes := [locatorHash] }
  else none

/-! ## Claims about applicability -/

/-- The claim that the best supported binding makes about one condition. -/
def conditionClaim (candidate : CandidateResponse) (condition : String) : Option MaterialClaim :=
  let requirements := host.referentialRequirements state state.evidenceItems
  let ranked := ((orderedBoundEvidence state candidate).map fun bound =>
    (bound, host.supportedReferentialFacets bound.2 requirements)).insertionSort
      fun first second => second.2.length ≤ first.2.length
  ranked.findSome? fun scope =>
    (host.applicabilityScopeClaim condition scope.1.2 scope.2).bind fun text =>
      boundClaim state.citationBindingMap text scope.1.1

/-- The text is not yet in the claims. -/
def isNewText (candidate : CandidateResponse) (claim : MaterialClaim) : Bool :=
  !decide (host.tables.casefold claim.text.toList <:+:
    host.tables.casefold (List.intercalate ['\n']
      (candidate.materialClaims.map fun existing => existing.text.toList)))

def joinLines (lines : List String) : String :=
  String.intercalate "\n" lines

/-- One more dimension: its claim joins the others and their text. -/
def addDimensionClaim (candidate : CandidateResponse) (added : List MaterialClaim × String)
    (dimension : String) : List MaterialClaim × String :=
  if host.applicabilityDimensionAnswered added.2 dimension then added
  else match (orderedBoundEvidence state candidate).findSome? fun bound =>
      (host.applicabilityDimensionClaim dimension bound.2).bind fun text =>
        boundClaim state.citationBindingMap text bound.1 with
    | none => added
    | some claim => (added.1 ++ [claim], joinLines [claim.text, added.2])

/-- The claims that `_canonicalize_policy_applicability` puts first. -/
def applicabilityScopeClaims (candidate : CandidateResponse) : List MaterialClaim :=
  if candidate.action ≠ .answer ∨ candidate.knowledgeCitations = [] ∨
      citationBindingsValid state candidate = false then []
  else
    let conditions := ((host.applicabilityConditions state).filterMap
      (conditionClaim host state candidate)).filter (isNewText host candidate)
    ((host.applicabilityDimensions state).foldl (addDimensionClaim host state candidate)
      (conditions, joinLines (candidate.answer :: conditions.map MaterialClaim.text))).1

/-- The claims before the others, their texts before the answer. -/
def CandidateResponse.withFirstClaims (candidate : CandidateResponse)
    (claims : List MaterialClaim) : CandidateResponse :=
  if claims.isEmpty then candidate
  else
    { candidate with
      answer := joinLines (claims.map MaterialClaim.text ++ [candidate.answer])
      materialClaims := claims ++ candidate.materialClaims }

/-- `_canonicalize_policy_applicability`. -/
def canonicalizePolicyApplicability (candidate : CandidateResponse) : CandidateResponse :=
  candidate.withFirstClaims (applicabilityScopeClaims host state candidate)

/-! ## The claim about a transition -/

/-- The cited bindings that carry the required markers, with the claims of their spans. -/
def transitionSources (required : List (List Char)) (candidate : CandidateResponse) :
    List (String × MaterialClaim) :=
  (orderedBoundEvidence state candidate).filterMap fun bound => do
    let text ← comparisonTransitionClaim host.tables bound.2
    let claim ← boundClaim state.citationBindingMap text bound.1
    if carriesAll host.tables required text.toList then return (bound.1, claim) else none

/-- The claim that `_canonicalize_policy_comparison` puts first. -/
def comparisonTransitionClaims (candidate : CandidateResponse) : List MaterialClaim :=
  let markers := comparisonTransitionMarkers host.tables state.evidenceItems
  let missing := missingComparisonTransitionMarkers host.tables candidate markers
  let rolesMissing := comparisonTransitionRolesExplicit host.tables candidate markers = false
  let closeMissing : Prop := missing ≠ [] ∧ 1 ≤ state.evidenceReplanCount
  let closeRoles : Prop := markers ≠ [] ∧ missing = [] ∧ rolesMissing
  if candidate.action = .answer ∧ state.knowledgeComparisonComplete = true ∧
      candidate.knowledgeCitations ≠ [] ∧ citationBindingsValid state candidate = true ∧
      (closeMissing ∨ closeRoles) then
    match transitionSources host state (if closeRoles then markers else missing) candidate with
    | [] => []
    | (bindingId, first) :: rest =>
        [{ text := first.text
           citationBindingIds := bindingId :: rest.map Prod.fst
           knowledgeLocatorHashes := Grouping.distinct
             ((first :: rest.map Prod.snd).flatMap MaterialClaim.knowledgeLocatorHashes) }]
  else []

/-- `_canonicalize_policy_comparison`. -/
def canonicalizePolicyComparison (candidate : CandidateResponse) : CandidateResponse :=
  candidate.withFirstClaims (comparisonTransitionClaims host state candidate)

/-- The candidate that is checked: closed over both versions, then with the claims about
applicability and about the transition. -/
def rewrittenCandidate (candidate : CandidateResponse) : CandidateResponse :=
  let closed := canonicalizeComparisonCitationGroups host.tables candidate state.evidenceItems
    state.citationBindingMap state.knowledgeComparisonComplete state.evidenceReplanCount
  canonicalizePolicyComparison host state (canonicalizePolicyApplicability host state closed)

/-! ## Integrity -/

structure PolicyIntegrity where
  failureCodes : List String
  integrity : Bool
  citedGroups : List String
  availableGroups : List String
  missingMarkers : List (List Char)
  citationsComplete : Bool
  explainableComparison : Bool
  finishReason : Option String

/-- Set equality of two lists. -/
def sameTexts (left right : List String) : Bool :=
  left.all (right.contains ·) && right.all (left.contains ·)

/-- A claim's bindings are cited ones, stand for evidence, and have the claim's locators. -/
def claimLocatorsAllowed (claim : MaterialClaim) : Bool :=
  (claim.citationBindingIds.all fun bindingId => (evidenceForBinding state bindingId).isSome) &&
    sameTexts claim.knowledgeLocatorHashes
      (claim.citationBindingIds.filterMap state.citationBindingMap.locatorOf)

/-- The checks on claims are waived: `trusted_terminal_contract`. -/
def claimChecksWaived (contracts : PolicyContracts) (candidate : CandidateResponse) : Bool :=
  contracts.platformContract || contracts.terminalContract || contracts.actionStateContract ||
    candidate.action = .manualTakeover || candidate.action = .reject

/-- The checks of `_assess_policy_integrity` under their codes. -/
def integrityChecks (contracts : PolicyContracts) (candidate : CandidateResponse) :
    List (String × Bool) :=
  let waived := claimChecksWaived contracts candidate
  let claims := candidate.materialClaims
  [("knowledge_chunks_allowed", candidate.knowledgeChunkIds.all fun chunk =>
      state.evidenceItems.any fun item => item.chunkId = some chunk),
    ("citation_chunks_match", sameTexts
      (candidate.knowledgeCitations.filterMap state.citationBindingMap.chunkOf)
      candidate.knowledgeChunkIds),
    ("citation_bindings_current", citationBindingsValid state candidate),
    ("citation_bindings_durable",
      host.durableBindingsValid state candidate.knowledgeCitations),
    ("business_sources_allowed",
      candidate.businessSourceIds.all (state.allowedSources.contains ·)),
    ("claim_support_present", waived || (!claims.isEmpty && claims.all fun claim =>
      claim.knowledgeLocatorHashes ≠ [] || claim.observationSourceIds ≠ [])),
    ("claim_bindings_selected", waived || claims.all fun claim =>
      claim.citationBindingIds.all (candidate.knowledgeCitations.contains ·)),
    ("claim_locators_allowed", waived || claims.all (claimLocatorsAllowed state)),
    ("claim_sources_allowed", waived || claims.all fun claim =>
      claim.observationSourceIds.all (state.allowedSources.contains ·))]

/-- `_assess_policy_integrity`. -/
def assessPolicyIntegrity (contracts : PolicyContracts) (candidate : CandidateResponse) :
    PolicyIntegrity :=
  let failureCodes := ((integrityChecks host state contracts candidate).filter
    fun check => !check.2).map Prod.fst
  let citedGroups := ((orderedBoundEvidence state candidate).filter fun bound =>
    bound.2.supportingSpanEligible && (presentText bound.2.locatorHash).length = 64).map
      fun bound => bound.2.group
  let missingMarkers := missingComparisonTransitionMarkers host.tables candidate
    (comparisonTransitionMarkers host.tables state.evidenceItems)
  let citationsComplete := candidate.action = .answer && failureCodes.isEmpty &&
    citedGroups.contains "current" && citedGroups.contains "historical"
  { failureCodes
    integrity := failureCodes.isEmpty
    citedGroups
    availableGroups := (state.evidenceItems.filter (·.supportingSpanEligible)).map
      EvidenceItem.group
    missingMarkers
    citationsComplete
    explainableComparison := state.knowledgeComparisonComplete && citationsComplete &&
      missingMarkers.isEmpty
    finishReason := if candidate.action.isProposal then some "action_candidate_assembled"
      else state.agentFinishReason }

/-! ## What is required -/

structure PolicyRequirements where
  hasReplanBudget : Bool
  canReplan : Bool
  missingApplicability : List String
  missingReferential : List String
  mixedAccountMissing : List String
  requestedFactMissing : List String
  requestedFactStale : List String
  requestedActionUnresolved : Bool
  allowedReject : Bool

def expectedProposal : ActionType → CandidateAction
  | .refund => .refundProposal
  | .apiKeyRevocation => .apiKeyRevocationProposal
  | .entitlementChange => .entitlementChangeProposal

/-- The budget for another decision. -/
def hasReplanBudget : Bool :=
  state.evidenceReplanCount < 1 && state.llmCalls < AgentBudget.maxLlmCalls &&
    ((state.toolRounds < AgentBudget.maxToolRounds &&
        state.toolAttempts < AgentBudget.maxToolAttempts) ||
      host.requestedFactReadsComplete state)

/-- `_prepare_policy_requirements`. -/
def preparePolicyRequirements (contracts : PolicyContracts) (integrity : PolicyIntegrity)
    (candidate : CandidateResponse) : PolicyRequirements :=
  let published := host.tables.casefold (candidatePublicClaimText candidate)
  { hasReplanBudget := hasReplanBudget host state
    canReplan := state.safeStopReason.isNone &&
      integrity.finishReason ≠ some "needs_clarification" && hasReplanBudget host state
    missingApplicability := (host.applicabilityConditions state).filter fun condition =>
      !decide (host.tables.casefold condition.toList <:+: published)
    missingReferential := host.missingReferentialRequirements candidate
      (host.referentialRequirements state state.evidenceItems)
    mixedAccountMissing := host.mixedAccountMissingGroups state candidate
    requestedFactMissing := (host.requestedFactStatus state candidate).1
    requestedFactStale := (host.requestedFactStatus state candidate).2
    requestedActionUnresolved :=
      (state.classification.requestedAction.any fun action =>
        candidate.action ≠ expectedProposal action) &&
      integrity.finishReason ≠ some "needs_clarification" && !state.evidenceConflict &&
      !host.hasActiveActionContext state && !contracts.terminalContract &&
      !contracts.actionStateContract
    allowedReject := state.classification.policyBoundary = .allowed &&
      candidate.action = .reject && !contracts.platformContract }

/-- The groups of a comparison that are not among the given ones. -/
def groupsWithout (groups : List String) : List String :=
  ["current", "historical"].filter (!groups.contains ·)

def orElseGroup (groups : List String) (otherwise : String) : List String :=
  if groups = [] then [otherwise] else groups

def replanFor (required missing stale : List String) (errorCode : String) :
    EvidenceAssessment where
  sufficient := false
  requiredGroups := required
  missingGroups := missing
  staleGroups := stale
  result := .replan
  errorCode := some errorCode

/-- `_required_policy_replan`. -/
def requiredPolicyReplan (integrity : PolicyIntegrity) (requirements : PolicyRequirements) :
    Option EvidenceAssessment :=
  if integrity.finishReason = some "needs_clarification" ∧ requirements.hasReplanBudget ∧
      host.clarificationRequiresKnowledgeFirst state then
    some (replanFor ["knowledge"] ["knowledge"] [] "conflict_evidence_required")
  else if state.knowledgeComparisonRequested ∧ state.knowledgeComparisonComplete = false ∧
      requirements.hasReplanBudget then
    some (replanFor ["current", "historical"]
      (orElseGroup (groupsWithout integrity.availableGroups) "complete_comparison_observation")
      [] "comparison_evidence_incomplete")
  else if state.knowledgeComparisonComplete ∧ integrity.explainableComparison = false ∧
      requirements.hasReplanBudget then
    if integrity.citationsComplete ∧ integrity.missingMarkers ≠ [] then
      some (replanFor ["current", "historical"] ["material_comparison_transition"] []
        "comparison_transition_incomplete")
    else
      some (replanFor ["current", "historical"]
        (orElseGroup (groupsWithout integrity.citedGroups) "valid_comparison_citations") []
        "comparison_citation_incomplete")
  else if requirements.requestedFactMissing ≠ [] ∧ requirements.canReplan then
    some (replanFor (host.requestedFactRequirements state) requirements.requestedFactMissing
      requirements.requestedFactStale "explicit_current_fact_incomplete")
  else if requirements.mixedAccountMissing ≠ [] ∧ requirements.canReplan then
    some (replanFor ["knowledge_claim", "current_account_claim"]
      requirements.mixedAccountMissing [] "mixed_account_applicability_incomplete")
  else none

/-! ## The candidate that is left -/

structure PolicyResolution where
  candidate : CandidateResponse
  integrity : Bool
  finishReason : Option String
  applicabilityUnresolved : Bool := false

/-- The candidate omits a condition that the evidence could answer. -/
def omitsApplicability (requirements : PolicyRequirements) (candidate : CandidateResponse) :
    Bool :=
  (requirements.missingApplicability ≠ [] || requirements.missingReferential ≠ []) &&
    host.usableCurrentKnowledge state && candidate.action = .answer

def unresolvedActionGroup : Option ActionType → String
  | some .refund => "billing_record"
  | some .apiKeyRevocation => "api_key_metadata"
  | some .entitlementChange => "subscription"
  | none => "supported_answer"

/-- The replan of `_resolve_policy_candidate`. -/
def resolutionReplan (requirements : PolicyRequirements) (candidate : CandidateResponse) :
    Option EvidenceAssessment :=
  if requirements.canReplan = false then none
  else if omitsApplicability host state requirements candidate then
    some (replanFor
      ((host.applicabilityConditions state).map ("applicability:" ++ ·) ++
        (host.referentialRequirements state state.evidenceItems).map ("topic_facet:" ++ ·))
      (requirements.missingApplicability.map ("applicability:" ++ ·) ++
        requirements.missingReferential) []
      (if requirements.missingReferential ≠ [] then "referential_applicability_incomplete"
        else "applicability_condition_omitted"))
  else if requirements.requestedActionUnresolved then
    let group := unresolvedActionGroup state.classification.requestedAction
    some (replanFor [group] [group] [] "requested_action_unresolved")
  else if requirements.allowedReject then
    some (replanFor ["supported_answer"] ["supported_answer"] [] "allowed_request_rejected")
  else none

/-- What `_resolve_policy_candidate` hands on where it does not plan again. -/
def resolvePolicyCandidate (integrity : PolicyIntegrity) (requirements : PolicyRequirements)
    (candidate : CandidateResponse) : PolicyResolution :=
  if omitsApplicability host state requirements candidate then
    { candidate := plainResponse .answer
        (host.safeApplicabilityConditionAnswer (host.applicabilityConditions state))
      integrity := true
      finishReason := some "applicability_condition_unresolved"
      applicabilityUnresolved := true }
  else
    { candidate, integrity := integrity.integrity, finishReason := integrity.finishReason }

/-! ## Evidence at the end -/

def IssueType.needsKnowledge : IssueType → Bool
  | .unknown => false
  | _ => true

def proposalGroup : CandidateAction → Option String
  | .refundProposal => some "billing_record"
  | .apiKeyRevocationProposal => some "api_key_metadata"
  | .entitlementChangeProposal => some "subscription"
  | .answer | .escalate | .reject | .manualTakeover => none

/-- A successful read speaks for a group. -/
def speaksFor (explainableComparison : Bool) (group : String) (item : LoopObservation) : Bool :=
  item.status = "ok" &&
    match group with
    | "knowledge" => item.toolName = "search_knowledge" && (item.data.value "evidence").truthy &&
        (!(item.data.value "refusal_reason").truthy || (explainableComparison &&
          item.data.value "refusal_reason" = .string "unresolved_published_version_conflict"))
    | "request_trace" => item.toolName = "query_request_trace"
    | "billing_record" => item.toolName = "query_billing_record"
    | "api_key_metadata" => item.toolName = "query_api_key_metadata"
    | "subscription" => item.toolName = "query_subscription"
    | _ => false

/-- `assess_terminal_evidence`. -/
def assessTerminalEvidence (canReplan explainableComparison : Bool)
    (candidate : CandidateResponse) : EvidenceAssessment :=
  if candidate.action = .reject ∨ candidate.action = .manualTakeover then
    { sufficient := true, result := .accept }
  else
    let issue := state.classification.issueType
    let required := (if issue.needsKnowledge then ["knowledge"] else []) ++
      (if (issue = .apiDiagnostics ∨ issue = .incidentSupport) ∧
        host.messageSpecifiesRequest state then ["request_trace"] else []) ++
      (proposalGroup candidate.action).toList
    let satisfied := required.filter fun group =>
      state.toolObservations.any (speaksFor explainableComparison group)
    let sources := Grouping.distinct
      (candidate.materialClaims.flatMap MaterialClaim.observationSourceIds)
    let observed := sources.map (sourceObservation state.toolObservations)
    let missing := required.filter (!satisfied.contains ·) ++
      (if observed.any Option.isNone then ["business_observation"] else []) ++
      (if state.evidenceConflict ∧ explainableComparison = false then
        ["non_conflicting_knowledge"] else [])
    let stale := Grouping.distinct ((observed.filterMap id).filterMap fun item =>
      if host.observationIsFresh item then none
      else some (if item.toolName = "" then "business_observation" else item.toolName))
    if missing = [] ∧ stale = [] then
      { sufficient := true
        requiredGroups := required
        satisfiedGroups := satisfied
        result := .accept }
    else
      { sufficient := false
        requiredGroups := required
        satisfiedGroups := satisfied
        missingGroups := missing
        staleGroups := stale
        result := if canReplan then .replan else .terminal
        errorCode := some (if stale ≠ [] then "evidence_freshness_insufficient"
          else "evidence_group_incomplete") }

/-- `_current_evidence_decision_assessment`: the decision of the latest attempt. -/
def currentEvidenceAssessment : Option EvidenceAssessment :=
  (state.evidenceDecision.filter fun decision =>
    some decision.providerAttemptId = state.latestProviderAttemptId).map
      AttemptEvidence.assessment

def terminalFor (required missing stale : List String) (errorCode : String) :
    EvidenceAssessment :=
  { replanFor required missing stale errorCode with result := .terminal }

/-- The end does not ask for evidence. -/
def acceptsWithoutEvidence (contracts : PolicyContracts) (resolution : PolicyResolution) : Bool :=
  resolution.finishReason = some "needs_clarification" || state.safeStopReason.isSome ||
    contracts.platformContract || contracts.terminalContract || contracts.actionStateContract ||
    contracts.authoritativeFactContract || contracts.requestedFactContract ||
    resolution.applicabilityUnresolved || resolution.candidate.action = .reject ||
    resolution.candidate.action = .manualTakeover || resolution.candidate.action = .escalate

/-- `_terminal_policy_evidence`. -/
def terminalPolicyEvidence (contracts : PolicyContracts) (integrity : PolicyIntegrity)
    (requirements : PolicyRequirements) (resolution : PolicyResolution) : EvidenceAssessment :=
  if requirements.requestedFactMissing ≠ [] ∨ requirements.requestedFactStale ≠ [] then
    terminalFor (host.requestedFactRequirements state) requirements.requestedFactMissing
      requirements.requestedFactStale
      (if requirements.requestedFactMissing ≠ [] then "explicit_current_fact_incomplete"
        else "evidence_freshness_insufficient")
  else if requirements.mixedAccountMissing ≠ [] then
    terminalFor ["knowledge_claim", "current_account_claim"] requirements.mixedAccountMissing []
      "mixed_account_applicability_incomplete"
  else if acceptsWithoutEvidence state contracts resolution then
    { sufficient := true, result := .accept }
  else (currentEvidenceAssessment state).getD
    (assessTerminalEvidence host state requirements.canReplan integrity.explainableComparison
      resolution.candidate)

/-! ## Publication -/

/-- What the gate publishes. -/
structure Publication where
  candidate : CandidateResponse
  route : PolicyRoute
  citationIntegrity : Bool
  finishReason : Option String
  assessment : EvidenceAssessment
  safeDecision : Option AgentDecision := none

inductive PolicyOutcome
  | replan (assessment : EvidenceAssessment)
  | publish (publication : Publication)

/-- The input of `evaluate_policy`. -/
def policyInput (contracts : PolicyContracts) (integrity : PolicyIntegrity)
    (requirements : PolicyRequirements) (resolution : PolicyResolution)
    (assessment : EvidenceAssessment) (checked : CandidateResponse) : PolicyInput where
  candidate := resolution.candidate
  evidenceConflict := state.evidenceConflict
  citationIntegrity := resolution.integrity
  proposalEligible := host.proposalEligible state checked
  finishReason := resolution.finishReason
  safeStopReason := state.safeStopReason
  requestedActionUnresolved := requirements.requestedActionUnresolved
  evidenceAssessmentResult := assessment.result
  evidenceAssessmentErrorCode := assessment.errorCode
  hasSecretRedaction := host.hasSecretRedaction state
  policyBoundary := state.classification.policyBoundary
  knowledgeComparisonRequested := state.knowledgeComparisonRequested
  knowledgeComparisonComplete := state.knowledgeComparisonComplete
  explainableComparison := integrity.explainableComparison
  comparisonCitationsComplete := integrity.citationsComplete
  missingTransitionMarkers := integrity.missingMarkers
  groundedConflictClarification := contracts.groundedConflictClarification
  requestedCurrentFactMissing := requirements.requestedFactMissing ≠ []
  mixedAccountApplicabilityMissing := requirements.mixedAccountMissing ≠ []

/-- The assessment that `_apply_pure_policy` hands on. -/
def terminalAssessment (integrity : PolicyIntegrity) (assessment : EvidenceAssessment) :
    Option String → EvidenceAssessment
  | some "comparison_transition_incomplete" =>
      terminalFor ["current", "historical"] ["material_comparison_transition"] []
        "comparison_transition_incomplete"
  | some "comparison_citation_incomplete" =>
      terminalFor ["current", "historical"]
        (orElseGroup (groupsWithout integrity.citedGroups) "valid_comparison_citations") []
        "comparison_citation_incomplete"
  | _ => assessment

/-- The stale claims of what is left are removed before it is published. -/
def prunesStaleClaims (decision : PublicationDecision) : Bool :=
  decision.finishReason = some "evidence_freshness_insufficient" &&
    decision.candidate.materialClaims.any fun claim =>
      !claimIsFresh host.observationIsFresh state.toolObservations claim

/-- `_apply_policy_freshness` and the update that `_publish_policy_decision` makes of it. -/
def publishPolicyDecision (integrity : PolicyIntegrity) (requirements : PolicyRequirements)
    (resolution : PolicyResolution) (assessment : EvidenceAssessment)
    (decision : PublicationDecision) : Publication :=
  let assessment := terminalAssessment integrity assessment decision.unsafeTerminalReason
  let safeDecision := decision.unsafeTerminalReason.map fun _ =>
    AgentDecision.finalCandidate decision.candidate
  if prunesStaleClaims host state decision then
    let candidate := pruneStaleBusinessClaims host.observationIsFresh state.toolObservations
      state.citationBindingMap decision.candidate
    let reassessed := assessTerminalEvidence host state false integrity.explainableComparison
      candidate
    let answered := state.classification.needsRealtimeFacts = false ∧
      requirements.requestedFactMissing = [] ∧ requirements.requestedFactStale = [] ∧
      reassessed.sufficient = true
    { candidate
      route := decision.route
      citationIntegrity := resolution.integrity
      finishReason := if answered then some "answered" else decision.finishReason
      assessment := if answered then reassessed else assessment
      safeDecision }
  else
    { candidate := decision.candidate
      route := decision.route
      citationIntegrity := resolution.integrity
      finishReason := decision.finishReason.or (state.agentFinishReason.or (some "answered"))
      assessment
      safeDecision }

/-- What is left of a rewritten candidate, with the evidence it ends on. -/
def resolvedCandidate (contracts : PolicyContracts) (candidate : CandidateResponse) :
    PolicyResolution × EvidenceAssessment :=
  let integrity := assessPolicyIntegrity host state contracts candidate
  let requirements := preparePolicyRequirements host state contracts integrity candidate
  let resolution := resolvePolicyCandidate host state integrity requirements candidate
  (resolution, terminalPolicyEvidence host state contracts integrity requirements resolution)

/-- The decision of `_apply_pure_policy`. -/
def pureDecision (contracts : PolicyContracts) (candidate : CandidateResponse) :
    PublicationDecision :=
  let integrity := assessPolicyIntegrity host state contracts candidate
  let requirements := preparePolicyRequirements host state contracts integrity candidate
  let (resolution, assessment) := resolvedCandidate host state contracts candidate
  evaluatePolicy host.safeFailureAnswer
    (policyInput host state contracts integrity requirements resolution assessment candidate)

/-- What is decided about a rewritten candidate. -/
def judgePolicy (contracts : PolicyContracts) (candidate : CandidateResponse) : PolicyOutcome :=
  let integrity := assessPolicyIntegrity host state contracts candidate
  let requirements := preparePolicyRequirements host state contracts integrity candidate
  let (resolution, assessment) := resolvedCandidate host state contracts candidate
  match requiredPolicyReplan host state integrity requirements with
  | some required => .replan required
  | none => match resolutionReplan host state requirements candidate with
    | some unresolved => .replan unresolved
    | none =>
        if assessment.result = .replan then .replan assessment
        else .publish (publishPolicyDecision host state integrity requirements resolution
          assessment (pureDecision host state contracts candidate))

/-- The outcome of `ActionFlowNodes.policy` for the stored candidate. -/
def policyOutcome (stored : CandidateResponse) : PolicyOutcome :=
  let contracts := preparePolicyContracts host state stored
  judgePolicy host state contracts (rewrittenCandidate host state contracts.candidate)

/-- `ActionFlowNodes.policy`; none where the stored candidate is not a response. -/
def policy : Option AgentState :=
  state.candidate.validate.map fun stored => match policyOutcome host state stored with
    | .replan assessment =>
        { state with
          candidate := .empty
          agentFinishReason := none
          policyRoute := none
          evidenceAssessment := some assessment
          evidenceReplanRequired := true
          evidenceReplanCount := state.evidenceReplanCount + 1 }
    | .publish publication =>
        { state with
          candidate := .response publication.candidate
          policyRoute := some publication.route
          citationIntegrity := publication.citationIntegrity
          agentFinishReason := publication.finishReason
          evidenceAssessment := some publication.assessment
          evidenceReplanRequired := false
          agentDecision := publication.safeDecision.or state.agentDecision }

end

end SupportGuard
