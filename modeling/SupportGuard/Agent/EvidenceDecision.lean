import Mathlib.Data.List.Infix
import SupportGuard.Agent.ProposalAssembler
import SupportGuard.Foundation.Grouping

/-! # The evidence behind an answer

`decide_evidence` of `agent/evidence.py`, with the records of `agent/evidence_contracts.py`:
whether the observations and citations of a run are enough to ask for an answer. -/

namespace SupportGuard

open Foundation Fallible

/-! ## Groups -/

inductive EvidenceGroup
  | knowledge
  | requestTrace
  | billingRecord
  | apiKeyMetadata
  | subscription
  | account
  | apiUsage
deriving DecidableEq

namespace EvidenceGroup

def name : EvidenceGroup → String
  | knowledge => "knowledge"
  | requestTrace => "request_trace"
  | billingRecord => "billing_record"
  | apiKeyMetadata => "api_key_metadata"
  | subscription => "subscription"
  | account => "account"
  | apiUsage => "api_usage"

/-- The groups in the order of their names. -/
def sorted : List EvidenceGroup :=
  [account, apiKeyMetadata, apiUsage, billingRecord, knowledge, requestTrace, subscription]

/-- The group that a tool reads. -/
def ofTool : String → Option EvidenceGroup
  | "search_knowledge" => some knowledge
  | "query_request_trace" => some requestTrace
  | "query_billing_record" => some billingRecord
  | "query_api_key_metadata" => some apiKeyMetadata
  | "query_subscription" => some subscription
  | "query_account" => some account
  | "query_api_usage" => some apiUsage
  | _ => none

end EvidenceGroup

structure EvidenceRequirements where
  requiredGroups : List EvidenceGroup
  unique : requiredGroups.Nodup

/-! ## Records -/

/-- The value of a time: a date-time, or what JSON gives. -/
inductive TimeValue
  | datetime (value : DateTime)
  | json (value : Json)

/-- An observation of a run. Its times stand apart from its other members. -/
structure EvidenceObservation where
  members : JsonMembers
  observedAt : TimeValue
  freshUntil : TimeValue

structure EligibleCitation where
  citationBindingId : String
  providerAttemptId : String
  evidenceId : String
  documentId : String
  chunkId : String
  contentHash : String
  locatorHash : String
deriving DecidableEq

structure FreshScopedObservation where
  observationId : String
  toolCallId : String
  toolName : String
  runId : String
  tenantId : String
  customerId : String
  scopeHash : String
  observedAt : DateTime
  freshUntil : DateTime
  sourceIds : List String
  evidenceIds : List String
  resourceVersion : Option String

inductive EvidenceResult
  | accept
  | replan
  | terminal
deriving DecidableEq

structure EvidenceDecision where
  runId : String
  tenantId : String
  customerId : String
  providerAttemptId : String
  requirements : EvidenceRequirements
  sufficient : Bool
  result : EvidenceResult
  eligibleCitations : List EligibleCitation
  freshScopedObservations : List FreshScopedObservation
  satisfiedGroups : List EvidenceGroup
  missingGroups : List EvidenceGroup
  staleGroups : List EvidenceGroup
  conflictReasons : List String
  insufficientReasons : List String
  errorCode : Option String

/-- A text field with its bounds. -/
def boundedText (maximum : Nat) (text : String) : Bool :=
  1 ≤ text.length && text.length ≤ maximum

/-- The checks of `EvidenceDecision`: those of its fields, then those of
`validate_decision_contract`. -/
@[mk_iff]
structure EvidenceDecision.Valid (decision : EvidenceDecision) : Prop where
  identities : boundedText 128 decision.runId ∧ boundedText 128 decision.tenantId ∧
    boundedText 128 decision.customerId ∧ boundedText 128 decision.providerAttemptId
  accepted : decision.sufficient = decide (decision.result = .accept)
  unqualified : decision.sufficient = true →
    decision.insufficientReasons = [] ∧ decision.errorCode = none
  explained : decision.sufficient = false → decision.insufficientReasons ≠ []
  scope : ∀ item ∈ decision.freshScopedObservations, item.runId = decision.runId ∧
    item.tenantId = decision.tenantId ∧ item.customerId = decision.customerId
  citations : (decision.eligibleCitations.map EligibleCitation.citationBindingId).Nodup
  observations :
    (decision.freshScopedObservations.map FreshScopedObservation.observationId).Nodup
  attempt : ∀ item ∈ decision.eligibleCitations,
    item.providerAttemptId = decision.providerAttemptId
  resolved : ∀ group ∈ EvidenceGroup.sorted, group ∈ decision.requirements.requiredGroups ↔
    group ∈ decision.satisfiedGroups ∨ group ∈ decision.missingGroups ∨
      group ∈ decision.staleGroups
  unique : decision.satisfiedGroups.Nodup ∧ decision.missingGroups.Nodup ∧
    decision.staleGroups.Nodup
  apart : ∀ group ∈ EvidenceGroup.sorted,
    ¬(group ∈ decision.satisfiedGroups ∧ group ∈ decision.missingGroups) ∧
    ¬(group ∈ decision.satisfiedGroups ∧ group ∈ decision.staleGroups) ∧
    ¬(group ∈ decision.missingGroups ∧ group ∈ decision.staleGroups)

instance (decision : EvidenceDecision) : Decidable decision.Valid :=
  decidable_of_iff _ (EvidenceDecision.valid_iff decision).symm

/-! ## Observations -/

structure EvidenceRequest where
  requirements : EvidenceRequirements
  observations : List EvidenceObservation
  citationBindings : List JsonMembers
  runId : String
  tenantId : String
  customerId : String
  providerAttemptId : String
  evidenceConflict : Bool
  canReplan : Bool
  explainableComparison : Bool
  now : Instant

def canonicalScopeHash (tenantId customerId : String) : String :=
  Sha256.hexDigest (JsonText.utf8 (JsonText.encodeAscii (.object
    [("customer_id", .string customerId), ("tenant_id", .string tenantId)])))

section

variable (contracts : AssemblerContracts)

/-- `_evidence_time`. -/
def evidenceTime : TimeValue → Option DateTime
  | .datetime value =>
      some (if value.offset = none then
        { value with offset := some ⟨0, UtcOffset.utc_bounded⟩ } else value)
  | .json value => parseTime contracts value

/-- `str(value or "")`. -/
def textOrEmpty (value : Json) : String :=
  if value.truthy then contracts.str value else ""

/-- `_observation_scope_matches`. -/
def observationScopeMatches (request : EvidenceRequest) (observation : JsonMembers) : Bool :=
  match observation.value "trusted_scope" with
  | .object trusted =>
      let expected := canonicalScopeHash request.tenantId request.customerId
      (observation.value "run_id").pyEq (.string request.runId) &&
        (observation.value "tenant_id").pyEq (.string request.tenantId) &&
        (observation.value "customer_id").pyEq (.string request.customerId) &&
        (observation.value "scope_hash").pyEq (.string expected) &&
        (JsonMembers.value trusted "tenant_id").pyEq (.string request.tenantId) &&
        (JsonMembers.value trusted "customer_id").pyEq (.string request.customerId) &&
        (JsonMembers.value trusted "scope_hash").pyEq (.string expected)
  | _ => false

/-- `observed_at <= now <= fresh_until`. -/
def DateTime.spans (observedAt freshUntil : DateTime) (now : Instant) : Bool :=
  DateTime.universal observedAt ≤ now.microseconds &&
    (now.microseconds : Int) ≤ DateTime.universal freshUntil

/-- The evidence items of an observation whose span may be quoted. -/
def eligibleEvidence (observation : JsonMembers) : List String :=
  match observation.value "data" with
  | .object data =>
      match (data.lookup "evidence").getD (.array []) with
      | .array items => items.filterMap fun item => match item with
          | .object members =>
              if (JsonMembers.value members "evidence_id").truthy = true ∧
                  JsonMembers.value members "supporting_span_eligible" = .bool true then
                some (contracts.str (JsonMembers.value members "evidence_id"))
              else none
          | _ => none
      | _ => []
  | _ => []

/-- The version of an observation, else that of its data. -/
def observedVersion (observation : JsonMembers) : Option String :=
  let version := match observation.value "resource_version" with
    | .null => match observation.value "data" with
        | .object data =>
            if (JsonMembers.value data "resource_version").truthy then
              JsonMembers.value data "resource_version"
            else JsonMembers.value data "version"
        | _ => .null
    | version => version
  match version with
  | .null => none
  | version => some (contracts.str version)

inductive ObservationRefusal
  | notCurrentScope
  | notSuccessful
  | notFresh
  | identityIncomplete
  | sourceIdentityDuplicate
  | evidenceIdentityDuplicate
  | projectionInvalid
deriving DecidableEq

def ObservationRefusal.reason : ObservationRefusal → String
  | notCurrentScope => "observation_not_current_scope"
  | notSuccessful => "observation_not_successful"
  | notFresh => "observation_not_fresh_at_decision_time"
  | identityIncomplete => "observation_identity_incomplete"
  | sourceIdentityDuplicate => "observation_source_identity_duplicate"
  | evidenceIdentityDuplicate => "observation_evidence_identity_duplicate"
  | projectionInvalid => "observation_projection_invalid"

/-- The checks of `FreshScopedObservation`. -/
def FreshScopedObservation.accepted (observation : FreshScopedObservation) : Bool :=
  boundedText 128 observation.observationId && boundedText 128 observation.toolCallId &&
    boundedText 128 observation.toolName && boundedText 128 observation.runId &&
    boundedText 128 observation.tenantId && boundedText 128 observation.customerId &&
    isSha256Hex observation.scopeHash

/-- `_fresh_scoped_observation`. -/
def freshScopedObservation (request : EvidenceRequest) (observation : EvidenceObservation) :
    Except ObservationRefusal FreshScopedObservation := do
  let members := observation.members
  refuseWhen (observationScopeMatches request members = false) .notCurrentScope
  refuseWhen ((members.value "status").pyEq (.string "ok") = false) .notSuccessful
  refuseWhen ((members.value "freshness_status").pyEq (.string "fresh") = false) .notFresh
  let toolCallId := textOrEmpty contracts (members.value "tool_call_id")
  let observationId :=
    if (members.value "observation_id").truthy then
      contracts.str (members.value "observation_id")
    else toolCallId
  let toolName := textOrEmpty contracts (members.value "tool_name")
  match evidenceTime contracts observation.observedAt,
    evidenceTime contracts observation.freshUntil with
  | some observedAt, some freshUntil => do
      refuseWhen (toolCallId = "" ∨ observationId = "" ∨ toolName = "") .identityIncomplete
      refuseWhen (DateTime.spans observedAt freshUntil request.now = false) .notFresh
      refuseWhen (¬(sourceIds contracts members).Nodup) .sourceIdentityDuplicate
      refuseWhen (¬(eligibleEvidence contracts members).Nodup) .evidenceIdentityDuplicate
      let projected : FreshScopedObservation :=
        { observationId, toolCallId, toolName
          runId := request.runId
          tenantId := request.tenantId
          customerId := request.customerId
          scopeHash := canonicalScopeHash request.tenantId request.customerId
          observedAt, freshUntil
          sourceIds := sourceIds contracts members
          evidenceIds := eligibleEvidence contracts members
          resourceVersion := observedVersion contracts members }
      refuseWhen (projected.accepted = false) .projectionInvalid
      return projected
  | _, _ => .error .identityIncomplete

/-! ## Citations -/

/-- The checks of `EligibleCitation`. -/
def EligibleCitation.accepted (citation : EligibleCitation) : Bool :=
  boundedText 128 citation.citationBindingId && boundedText 128 citation.providerAttemptId &&
    boundedText 256 citation.evidenceId && boundedText 256 citation.documentId &&
    boundedText 256 citation.chunkId && isSha256Hex citation.contentHash &&
    isSha256Hex citation.locatorHash

def bindingId (binding : JsonMembers) : String :=
  textOrEmpty contracts (binding.value "citation_binding_id")

/-- The citation of a binding that has its id for itself, or why there is none. -/
def reviewBinding (providerAttemptId id : String) (rows : List JsonMembers) :
    Except String EligibleCitation :=
  match rows with
  | [raw] =>
      if (raw.value "provider_attempt_id").pyEq (.string providerAttemptId) then
        let citation : EligibleCitation :=
          { citationBindingId := id
            providerAttemptId := textOrEmpty contracts (raw.value "provider_attempt_id")
            evidenceId := textOrEmpty contracts (raw.value "evidence_id")
            documentId := textOrEmpty contracts (raw.value "document_id")
            chunkId := textOrEmpty contracts (raw.value "chunk_id")
            contentHash := textOrEmpty contracts (raw.value "content_hash")
            locatorHash := textOrEmpty contracts (raw.value "locator_hash") }
        if citation.accepted then .ok citation
        else .error ("citation_binding_invalid:" ++ id)
      else .error ("citation_binding_not_current:" ++ id)
  | _ => .error ("citation_binding_not_unique:" ++ id)

/-- The reviews of the bindings, in the order of their ids. -/
def bindingReviews (request : EvidenceRequest) : List (Except String EligibleCitation) :=
  let identified := request.citationBindings.filter fun binding => bindingId contracts binding ≠ ""
  (Grouping.distinct (identified.map (bindingId contracts))).map fun id =>
    reviewBinding contracts request.providerAttemptId id
      (Grouping.group (bindingId contracts) identified id)

def reviewed (review : Except String EligibleCitation) : Option EligibleCitation :=
  review.toOption

def reviewReason : Except String EligibleCitation → Option String
  | .ok _ => none
  | .error reason => some reason

/-- The citations of evidence that may be quoted. -/
def citedEvidence (request : EvidenceRequest) (eligibleEvidenceIds : List String) :
    List EligibleCitation :=
  ((bindingReviews contracts request).filterMap reviewed).filter fun item =>
    item.evidenceId ∈ eligibleEvidenceIds

/-- The citations that share their evidence with others. -/
def ambiguousCitations (cited : List EligibleCitation) : List String :=
  (cited.filter fun item =>
    1 < (Grouping.group EligibleCitation.evidenceId cited item.evidenceId).length).map
    EligibleCitation.citationBindingId

/-- `_eligible_citations`. -/
def eligibleCitations (request : EvidenceRequest) (eligibleEvidenceIds : List String) :
    List EligibleCitation × List String :=
  let reviews := bindingReviews contracts request
  let cited := citedEvidence contracts request eligibleEvidenceIds
  let ambiguous := (ambiguousCitations cited).insertionSort (· ≤ ·)
  (cited.filter fun item => item.citationBindingId ∉ ambiguous,
    (request.citationBindings.filter fun binding => bindingId contracts binding = "").map
        (fun _ => "citation_binding_identity_missing") ++
      reviews.filterMap reviewReason ++
      ((reviews.filterMap reviewed).filter fun item =>
        item.evidenceId ∉ eligibleEvidenceIds).map
        (fun item => "citation_evidence_not_eligible:" ++ item.citationBindingId) ++
      ambiguous.map ("citation_evidence_identity_ambiguous:" ++ ·))

/-! ## The decision -/

abbrev EvidencePair : Type :=
  EvidenceObservation × FreshScopedObservation

def projectedPair (request : EvidenceRequest) (observation : EvidenceObservation) :
    Option EvidencePair :=
  (freshScopedObservation contracts request observation).toOption.map (observation, ·)

/-- Another scope and an unsuccessful call are no shortcoming. -/
def projectionReason (request : EvidenceRequest) (observation : EvidenceObservation) :
    Option String :=
  match freshScopedObservation contracts request observation with
  | .ok _ | .error .notCurrentScope | .error .notSuccessful => none
  | .error refusal => some refusal.reason

def projectedPairs (request : EvidenceRequest) : List EvidencePair :=
  request.observations.filterMap (projectedPair contracts request)

def pairId (pair : EvidencePair) : String :=
  pair.2.observationId

def freshPairs (request : EvidenceRequest) : List EvidencePair :=
  Grouping.singles pairId (projectedPairs contracts request)

/-- The sources of an observation with their types. -/
def sourceTypes (pair : EvidencePair) : List (String × String) :=
  match pair.1.members.value "source_refs" with
  | .array refs => refs.filterMap fun item => match item with
      | .object members =>
          if (JsonMembers.value members "source_id").truthy then
            some (contracts.str (JsonMembers.value members "source_id"),
              textOrEmpty contracts (JsonMembers.value members "source_type"))
          else none
      | _ => none
  | _ => []

/-- The sources that occur with several types. -/
def conflictingSources (types : List (String × String)) : List String :=
  (Grouping.distinct (types.map Prod.fst)).filter fun source =>
    1 < (Grouping.distinct ((Grouping.group Prod.fst types source).map Prod.snd)).length

def observationReasons (request : EvidenceRequest) : List String :=
  request.observations.filterMap (projectionReason contracts request) ++
    (Grouping.repeated pairId (projectedPairs contracts request)).map
      ("observation_identity_ambiguous:" ++ ·) ++
    (conflictingSources ((freshPairs contracts request).flatMap (sourceTypes contracts))).map
      ("observation_source_identity_conflict:" ++ ·)

def eligibleEvidenceIds (request : EvidenceRequest) : List String :=
  (freshPairs contracts request).flatMap fun pair => pair.2.evidenceIds

def conflictReason (pair : EvidencePair) : Option String :=
  match pair.1.members.value "data" with
  | .object data =>
      if (JsonMembers.value data "refusal_reason").truthy then
        some (contracts.str (JsonMembers.value data "refusal_reason"))
      else if JsonMembers.value data "conflict" = .bool true then some "knowledge_conflict"
      else none
  | _ => none

/-- `_conflict_reasons`. -/
def conflictReasons (request : EvidenceRequest) : List String :=
  let reasons := (freshPairs contracts request).filterMap (conflictReason contracts)
  if request.evidenceConflict = true ∧ reasons = [] then ["evidence_conflict"]
  else Grouping.distinct reasons

/-- The conflicts that count: a comparison may explain published versions that differ. -/
def unexplainedConflicts (request : EvidenceRequest) : List String :=
  let conflicts := conflictReasons contracts request
  if request.explainableComparison = true ∧
      (∀ reason ∈ conflicts, reason = "unresolved_published_version_conflict") then []
  else conflicts

/-- `_evidence_group`. -/
def evidenceGroup (observation : FreshScopedObservation) : Option EvidenceGroup :=
  match EvidenceGroup.ofTool observation.toolName with
  | some .knowledge => if observation.evidenceIds = [] then none else some .knowledge
  | group => group

def isObserved (request : EvidenceRequest) (group : EvidenceGroup) : Bool :=
  (freshPairs contracts request).any fun pair => evidenceGroup pair.2 = some group

def citations (request : EvidenceRequest) : List EligibleCitation × List String :=
  eligibleCitations contracts request (eligibleEvidenceIds contracts request)

/-- Knowledge counts only when it is cited. -/
def isSatisfied (request : EvidenceRequest) (group : EvidenceGroup) : Bool :=
  isObserved contracts request group &&
    !(group = .knowledge && (citations contracts request).1 = [])

/-- An observation of the group, of this scope and successful, that is not fresh. -/
def isOutdated (request : EvidenceRequest) (group : EvidenceGroup)
    (observation : EvidenceObservation) : Bool :=
  EvidenceGroup.ofTool (textOrEmpty contracts (observation.members.value "tool_name")) =
      some group &&
    (observation.members.value "status").pyEq (.string "ok") &&
    observationScopeMatches request observation.members &&
    (!(observation.members.value "freshness_status").pyEq (.string "fresh") ||
      match evidenceTime contracts observation.observedAt,
        evidenceTime contracts observation.freshUntil with
      | some observedAt, some freshUntil => !DateTime.spans observedAt freshUntil request.now
      | _, _ => true)

def isStale (request : EvidenceRequest) (group : EvidenceGroup) : Bool :=
  decide (group ∈ request.requirements.requiredGroups) &&
    request.observations.any (isOutdated contracts request group) &&
    !isSatisfied contracts request group

def isMissing (request : EvidenceRequest) (group : EvidenceGroup) : Bool :=
  decide (group ∈ request.requirements.requiredGroups) &&
    !isSatisfied contracts request group && !isStale contracts request group

/-- Everything that speaks against the evidence, in the order it is found. -/
def insufficientReasons (request : EvidenceRequest) : List String :=
  Grouping.distinct (observationReasons contracts request ++
    (citations contracts request).2 ++
    (unexplainedConflicts contracts request).map ("conflict:" ++ ·) ++
    (if isObserved contracts request .knowledge = true ∧ (citations contracts request).1 = [] then
      ["eligible_knowledge_citation_missing"] else []) ++
    (EvidenceGroup.sorted.filter (isMissing contracts request)).map
      (fun group => "missing_evidence_group:" ++ group.name) ++
    (EvidenceGroup.sorted.filter (isStale contracts request)).map
      (fun group => "stale_evidence_group:" ++ group.name))

/-- `part in text`. -/
def mentions (part text : String) : Bool :=
  part.toList <:+: text.toList

def evidenceErrorCode (reasons : List String) : String :=
  if reasons.any fun reason => "conflict:".toList.isPrefixOf reason.toList then
    "evidence_conflict"
  else if reasons.any fun reason => mentions "observation" reason || mentions "source" reason then
    "evidence_freshness_insufficient"
  else if reasons.any fun reason => mentions "citation" reason || mentions "locator" reason then
    "citation_binding_incomplete"
  else "evidence_group_incomplete"

def isSufficient (request : EvidenceRequest) : Bool :=
  decide (insufficientReasons contracts request = []) &&
    EvidenceGroup.sorted.all fun group =>
      !isMissing contracts request group && !isStale contracts request group

/-- The fields of the decision. -/
def evidenceFields (request : EvidenceRequest) : EvidenceDecision :=
  let reasons := insufficientReasons contracts request
  let required := request.requirements.requiredGroups
  let sufficient := isSufficient contracts request
  { runId := request.runId
    tenantId := request.tenantId
    customerId := request.customerId
    providerAttemptId := request.providerAttemptId
    requirements := request.requirements
    sufficient
    result := if sufficient then .accept else if request.canReplan then .replan else .terminal
    eligibleCitations := (citations contracts request).1
    freshScopedObservations := (freshPairs contracts request).map Prod.snd
    satisfiedGroups := required.filter (isSatisfied contracts request)
    missingGroups := required.filter (isMissing contracts request)
    staleGroups := required.filter (isStale contracts request)
    conflictReasons := conflictReasons contracts request
    insufficientReasons := reasons
    errorCode := if sufficient then none else some (evidenceErrorCode reasons) }

/-- `decide_evidence`; none where the record refuses its fields. -/
def decideEvidence (request : EvidenceRequest) : Option EvidenceDecision :=
  if (evidenceFields contracts request).Valid then some (evidenceFields contracts request)
  else none

/-! ## What is accepted -/

/-- An observation of the run and its scope, successful and fresh now. -/
structure IsFresh (request : EvidenceRequest) (observation : EvidenceObservation) : Prop where
  scope : observationScopeMatches request observation.members = true
  successful : (observation.members.value "status").pyEq (.string "ok") = true
  fresh : (observation.members.value "freshness_status").pyEq (.string "fresh") = true
  now : ∃ observedAt freshUntil, evidenceTime contracts observation.observedAt = some observedAt ∧
    evidenceTime contracts observation.freshUntil = some freshUntil ∧
    DateTime.universal observedAt ≤ request.now.microseconds ∧
    (request.now.microseconds : Int) ≤ DateTime.universal freshUntil

/-- The group of an observation, by its tool. -/
def toolGroup (observation : EvidenceObservation) : Option EvidenceGroup :=
  EvidenceGroup.ofTool (textOrEmpty contracts (observation.members.value "tool_name"))

section Lemmas

variable {contracts} {request : EvidenceRequest} {observation : EvidenceObservation}
  {projected : FreshScopedObservation}

theorem EvidenceGroup.mem_sorted (group : EvidenceGroup) : group ∈ EvidenceGroup.sorted := by
  cases group <;> decide

/-- What a projection says about its observation. -/
theorem freshScopedObservation_spec
    (projects : freshScopedObservation contracts request observation = .ok projected) :
    IsFresh contracts request observation ∧
      projected.toolName = textOrEmpty contracts (observation.members.value "tool_name") ∧
      projected.evidenceIds = eligibleEvidence contracts observation.members ∧
      projected.runId = request.runId ∧ projected.tenantId = request.tenantId ∧
      projected.customerId = request.customerId := by
  unfold freshScopedObservation at projects
  simp only [refuseWhen_bind_eq_ok_iff] at projects
  obtain ⟨scope, successful, fresh, rest⟩ := projects
  split at rest
  · rename_i observedAt freshUntil seen until_
    simp only [refuseWhen_bind_eq_ok_iff] at rest
    obtain ⟨_, spans, _, _, _, returned⟩ := rest
    cases returned
    have within : DateTime.spans observedAt freshUntil request.now = true := by
      simpa using spans
    simp only [DateTime.spans, Bool.and_eq_true, decide_eq_true_eq] at within
    refine ⟨⟨by simpa using scope, by simpa using successful, by simpa using fresh,
      observedAt, freshUntil, seen, until_, within⟩, rfl, rfl, rfl, rfl, rfl⟩
  · cases rest

theorem mem_freshPairs {pair : EvidencePair} (member : pair ∈ freshPairs contracts request) :
    pair.1 ∈ request.observations ∧
      freshScopedObservation contracts request pair.1 = .ok pair.2 := by
  have projects := Grouping.mem_of_mem_singles member
  rw [projectedPairs, List.mem_filterMap] at projects
  obtain ⟨observation, known, found⟩ := projects
  rw [projectedPair, Option.map_eq_some_iff] at found
  obtain ⟨projected, fresh, same⟩ := found
  rw [← same]
  refine ⟨known, ?_⟩
  cases outcome : freshScopedObservation contracts request observation with
  | error _ =>
      rw [outcome] at fresh
      cases fresh
  | ok value =>
      rw [outcome] at fresh
      cases fresh
      rfl

theorem nodup_observationIds (contracts : AssemblerContracts) (request : EvidenceRequest) :
    (((freshPairs contracts request).map Prod.snd).map
      FreshScopedObservation.observationId).Nodup := by
  rw [List.map_map]
  exact Grouping.nodup_singles _

/-! ### Citations -/

/-- `str(text or "")` of a text. -/
theorem textOrEmpty_string (texts : ∀ text, contracts.str (.string text) = text) (text : String) :
    textOrEmpty contracts (.string text) = text := by
  unfold textOrEmpty
  split
  · exact texts text
  · rename_i empty
    simpa [Json.truthy] using Eq.symm (by simpa [Json.truthy] using empty)

theorem reviewBinding_spec {attempt id : String} {rows : List JsonMembers}
    {citation : EligibleCitation} (texts : ∀ text, contracts.str (.string text) = text)
    (found : reviewBinding contracts attempt id rows = .ok citation) :
    citation.citationBindingId = id ∧ citation.providerAttemptId = attempt := by
  unfold reviewBinding at found
  split at found
  · split at found
    · rename_i current
      dsimp only at found
      split at found
      · cases found
        refine ⟨rfl, ?_⟩
        rw [Json.pyEq_string current, textOrEmpty_string texts]
      · cases found
    · cases found
  · cases found

/-- The bindings that have an id. -/
def identifiedBindings (contracts : AssemblerContracts) (request : EvidenceRequest) :
    List JsonMembers :=
  request.citationBindings.filter fun binding => bindingId contracts binding ≠ ""

/-- The citation under an id. -/
def citationOf (contracts : AssemblerContracts) (request : EvidenceRequest) (id : String) :
    Option EligibleCitation :=
  reviewed (reviewBinding contracts request.providerAttemptId id
    (Grouping.group (bindingId contracts) (identifiedBindings contracts request) id))

theorem citationOf_spec {id : String} {citation : EligibleCitation}
    (texts : ∀ text, contracts.str (.string text) = text)
    (found : citationOf contracts request id = some citation) :
    citation.citationBindingId = id ∧ citation.providerAttemptId = request.providerAttemptId := by
  unfold citationOf at found
  cases review : reviewBinding contracts request.providerAttemptId id
      (Grouping.group (bindingId contracts) (identifiedBindings contracts request) id) with
  | error _ =>
      rw [review] at found
      cases found
  | ok value =>
      rw [review] at found
      cases found
      exact reviewBinding_spec texts review

theorem filterMap_bindingReviews (contracts : AssemblerContracts) (request : EvidenceRequest) :
    (bindingReviews contracts request).filterMap reviewed =
      (Grouping.distinct ((identifiedBindings contracts request).map
        (bindingId contracts))).filterMap (citationOf contracts request) := by
  rw [bindingReviews, List.filterMap_map]
  rfl

/-- Every citation has its id for itself. -/
theorem nodup_reviewed (texts : ∀ text, contracts.str (.string text) = text) :
    (((bindingReviews contracts request).filterMap reviewed).map
      EligibleCitation.citationBindingId).Nodup := by
  rw [filterMap_bindingReviews]
  have inverse : ∀ ids : List String, (ids.filterMap (citationOf contracts request)).map
      EligibleCitation.citationBindingId =
        ids.filter fun id => (citationOf contracts request id).isSome := by
    intro ids
    induction ids with
    | nil => rfl
    | cons id rest induction =>
        cases found : citationOf contracts request id with
        | none => simp [found, induction]
        | some citation => simp [found, induction, (citationOf_spec texts found).1]
  rw [inverse]
  exact (Grouping.nodup_distinct _).filter _

theorem citations_sublist (contracts : AssemblerContracts) (request : EvidenceRequest) :
    (citations contracts request).1.Sublist
      ((bindingReviews contracts request).filterMap reviewed) :=
  List.filter_sublist.trans List.filter_sublist

theorem mem_citations {citation : EligibleCitation}
    (texts : ∀ text, contracts.str (.string text) = text)
    (member : citation ∈ (citations contracts request).1) :
    citation.providerAttemptId = request.providerAttemptId ∧
      citation.evidenceId ∈ eligibleEvidenceIds contracts request := by
  constructor
  · have known := (citations_sublist contracts request).subset member
    rw [filterMap_bindingReviews, List.mem_filterMap] at known
    obtain ⟨id, _, found⟩ := known
    exact (citationOf_spec texts found).2
  · have cited := List.mem_of_mem_filter member
    simpa using (List.mem_filter.mp cited).2

/-! ### The record -/

variable {group : EvidenceGroup}

theorem insufficientReasons_of_missing (missing : isMissing contracts request group = true) :
    "missing_evidence_group:" ++ group.name ∈ insufficientReasons contracts request := by
  rw [insufficientReasons, Grouping.mem_distinct]
  apply List.mem_append_left
  apply List.mem_append_right
  exact List.mem_map.mpr ⟨group, List.mem_filter.mpr ⟨group.mem_sorted, missing⟩, rfl⟩

theorem insufficientReasons_of_stale (stale : isStale contracts request group = true) :
    "stale_evidence_group:" ++ group.name ∈ insufficientReasons contracts request := by
  rw [insufficientReasons, Grouping.mem_distinct]
  apply List.mem_append_right
  exact List.mem_map.mpr ⟨group, List.mem_filter.mpr ⟨group.mem_sorted, stale⟩, rfl⟩

/-- A missing or stale group is a reason of its own. -/
theorem isSufficient_iff :
    isSufficient contracts request = true ↔ insufficientReasons contracts request = [] := by
  rw [isSufficient, Bool.and_eq_true, decide_eq_true_eq]
  constructor
  · intro sufficient
    exact sufficient.1
  · intro none_
    refine ⟨none_, ?_⟩
    rw [List.all_eq_true]
    intro group _
    cases missing : isMissing contracts request group with
    | true =>
        have reason := insufficientReasons_of_missing missing
        rw [none_] at reason
        cases reason
    | false =>
        cases stale : isStale contracts request group with
        | true =>
            have reason := insufficientReasons_of_stale stale
            rw [none_] at reason
            cases reason
        | false => rfl

/-- The record takes what the decision gives it. -/
theorem evidenceFields_valid (texts : ∀ text, contracts.str (.string text) = text)
    (run : boundedText 128 request.runId) (tenant : boundedText 128 request.tenantId)
    (customer : boundedText 128 request.customerId)
    (attempt : boundedText 128 request.providerAttemptId) :
    (evidenceFields contracts request).Valid where
  identities := ⟨run, tenant, customer, attempt⟩
  accepted := by
    simp only [evidenceFields]
    split
    · rename_i sufficient
      rw [sufficient]
      rfl
    · rename_i insufficient
      rw [Bool.eq_false_iff.mpr insufficient]
      cases request.canReplan <;> rfl
  unqualified := by
    intro sufficient
    have given : isSufficient contracts request = true := sufficient
    refine ⟨isSufficient_iff.mp given, ?_⟩
    simp only [evidenceFields, given, if_true]
  explained := by
    intro insufficient empty
    have given : isSufficient contracts request = false := insufficient
    rw [isSufficient_iff.mpr empty] at given
    cases given
  scope := by
    intro item member
    obtain ⟨pair, fresh, same⟩ := List.mem_map.mp member
    obtain ⟨_, _, _, scope⟩ := freshScopedObservation_spec (mem_freshPairs fresh).2
    rw [← same]
    exact scope
  citations := (nodup_reviewed texts).sublist ((citations_sublist contracts request).map _)
  observations := nodup_observationIds contracts request
  attempt := by
    intro item member
    exact (mem_citations texts member).1
  resolved := by
    intro group _
    simp only [evidenceFields, List.mem_filter, isMissing]
    cases isSatisfied contracts request group <;> cases isStale contracts request group <;> simp
  unique := ⟨request.requirements.unique.filter _, request.requirements.unique.filter _,
    request.requirements.unique.filter _⟩
  apart := by
    intro group _
    have unsatisfied : isStale contracts request group = true →
        isSatisfied contracts request group = false := by
      simp [isStale]
    simp only [evidenceFields, List.mem_filter, isMissing]
    cases satisfied : isSatisfied contracts request group with
    | false => cases isStale contracts request group <;> simp
    | true =>
        have current : isStale contracts request group = false := by
          cases stale : isStale contracts request group with
          | false => rfl
          | true => exact satisfied.symm.trans (unsatisfied stale)
        simp [current]

/-! ### Acceptance -/

/-- A group that counts has an observation that is fresh now. -/
theorem isSatisfied_spec (satisfied : isSatisfied contracts request group = true) :
    ∃ observation ∈ request.observations, IsFresh contracts request observation ∧
      toolGroup contracts observation = some group ∧
      (group = .knowledge → eligibleEvidence contracts observation.members ≠ []) := by
  unfold isSatisfied at satisfied
  have observed := (Bool.and_eq_true _ _ ▸ satisfied : _ ∧ _).1
  rw [isObserved, List.any_eq_true] at observed
  obtain ⟨pair, member, grouped⟩ := observed
  obtain ⟨known, projects⟩ := mem_freshPairs member
  obtain ⟨fresh, tool, evidence, _⟩ := freshScopedObservation_spec projects
  have found : evidenceGroup pair.2 = some group := by simpa using grouped
  refine ⟨pair.1, known, fresh, ?_, ?_⟩
  · rw [toolGroup, ← tool]
    unfold evidenceGroup at found
    split at found
    · split at found
      · cases found
      · rename_i isKnowledge _
        rw [isKnowledge, found]
    · exact found
  · intro isKnowledge
    rw [← evidence]
    rw [isKnowledge] at found
    unfold evidenceGroup at found
    split at found
    · split at found
      · cases found
      · assumption
    · rename_i other
      exact absurd found other

theorem satisfied_of_sufficient (sufficient : isSufficient contracts request = true)
    (required : group ∈ request.requirements.requiredGroups) :
    isSatisfied contracts request group = true := by
  rw [isSufficient, Bool.and_eq_true, List.all_eq_true] at sufficient
  have resolved := sufficient.2 group group.mem_sorted
  cases satisfied : isSatisfied contracts request group with
  | true => rfl
  | false =>
      simp [isMissing, required, satisfied] at resolved

/-- What an accepted decision rests on. -/
structure AcceptedSoundly (contracts : AssemblerContracts) (request : EvidenceRequest)
    (decision : EvidenceDecision) : Prop where
  groups : ∀ group ∈ request.requirements.requiredGroups, ∃ observation ∈ request.observations,
    IsFresh contracts request observation ∧ toolGroup contracts observation = some group ∧
      (group = .knowledge → eligibleEvidence contracts observation.members ≠ [])
  identities :
    (decision.freshScopedObservations.map FreshScopedObservation.observationId).Nodup
  cited : EvidenceGroup.knowledge ∈ request.requirements.requiredGroups →
    ∃ citation ∈ decision.eligibleCitations,
      citation.providerAttemptId = request.providerAttemptId ∧
      ∃ observation ∈ request.observations, IsFresh contracts request observation ∧
        citation.evidenceId ∈ eligibleEvidence contracts observation.members

theorem acceptedSoundly (texts : ∀ text, contracts.str (.string text) = text)
    (sufficient : isSufficient contracts request = true) :
    AcceptedSoundly contracts request (evidenceFields contracts request) where
  groups := by
    intro group required
    exact isSatisfied_spec (satisfied_of_sufficient sufficient required)
  identities := nodup_observationIds contracts request
  cited := by
    intro required
    have satisfied := satisfied_of_sufficient sufficient required
    have some_ : (citations contracts request).1 ≠ [] := by
      intro nothing
      simp [isSatisfied, nothing] at satisfied
    obtain ⟨citation, rest, found⟩ := List.exists_cons_of_ne_nil some_
    have member : citation ∈ (citations contracts request).1 := by
      rw [found]
      exact List.mem_cons_self ..
    obtain ⟨attempt, eligible⟩ := mem_citations texts member
    rw [eligibleEvidenceIds, List.mem_flatMap] at eligible
    obtain ⟨pair, fresh, quoted⟩ := eligible
    obtain ⟨known, projects⟩ := mem_freshPairs fresh
    obtain ⟨isFresh, _, evidence, _⟩ := freshScopedObservation_spec projects
    exact ⟨citation, member, attempt, pair.1, known, isFresh, evidence ▸ quoted⟩

/-! ### Order -/

/-- The same request with its observations and bindings in another order. -/
structure Reordered (request request' : EvidenceRequest) : Prop where
  observations : request.observations.Perm request'.observations
  citationBindings : request.citationBindings.Perm request'.citationBindings
  rest : request' = { request with
    observations := request'.observations, citationBindings := request'.citationBindings }

theorem any_perm {α : Type} {items items' : List α} (same : items.Perm items')
    (test : α → Bool) : items.any test = items'.any test := by
  rw [Bool.eq_iff_iff, List.any_eq_true, List.any_eq_true]
  simp only [same.mem_iff]

theorem eq_nil_congr {α : Type} {items items' : List α} (same : items.Perm items') :
    items = [] ↔ items' = [] := by
  rw [← List.length_eq_zero_iff, ← List.length_eq_zero_iff, same.length_eq]

theorem conflictingSources_perm {types types' : List (String × String)}
    (same : types.Perm types') :
    (conflictingSources types).Perm (conflictingSources types') := by
  have rule : (fun source => decide (1 < (Grouping.distinct
        ((Grouping.group Prod.fst types source).map Prod.snd)).length)) =
      fun source => decide (1 < (Grouping.distinct
        ((Grouping.group Prod.fst types' source).map Prod.snd)).length) := by
    funext source
    rw [(Grouping.distinct_perm ((Grouping.group_perm same source).map Prod.snd)).length_eq]
  unfold conflictingSources
  rw [rule]
  exact (Grouping.distinct_perm (same.map Prod.fst)).filter _

theorem reviewBinding_perm {attempt id : String} {rows rows' : List JsonMembers}
    (same : rows.Perm rows') :
    reviewBinding contracts attempt id rows = reviewBinding contracts attempt id rows' := by
  by_cases alone : ∃ raw, rows = [raw]
  · obtain ⟨raw, found⟩ := alone
    rw [found] at same
    rw [found, List.perm_singleton.mp same.symm]
  · have alone' : ¬∃ raw, rows' = [raw] := by
      intro ⟨raw, found⟩
      rw [found] at same
      exact alone ⟨raw, List.perm_singleton.mp same⟩
    unfold reviewBinding
    split
    · exact absurd ⟨_, rfl⟩ alone
    · split
      · exact absurd ⟨_, rfl⟩ alone'
      · rfl

theorem ambiguousCitations_perm {cited cited' : List EligibleCitation}
    (same : cited.Perm cited') :
    (ambiguousCitations cited).Perm (ambiguousCitations cited') := by
  have rule : (fun item : EligibleCitation => decide (1 < (Grouping.group
        EligibleCitation.evidenceId cited item.evidenceId).length)) =
      fun item => decide (1 < (Grouping.group
        EligibleCitation.evidenceId cited' item.evidenceId).length) := by
    funext item
    rw [(Grouping.group_perm same item.evidenceId).length_eq]
  unfold ambiguousCitations
  rw [rule]
  exact (same.filter _).map _

section Reordering

variable (contracts) {request' : EvidenceRequest} (reordered : Reordered request request')
include reordered

theorem Reordered.freshScopedObservation :
    freshScopedObservation contracts request' = freshScopedObservation contracts request := by
  rw [reordered.rest]
  rfl

theorem Reordered.projectedPairs :
    (projectedPairs contracts request).Perm (projectedPairs contracts request') := by
  have rule : projectedPair contracts request' = projectedPair contracts request := by
    funext observation
    rw [projectedPair, projectedPair, reordered.freshScopedObservation contracts]
  unfold SupportGuard.projectedPairs
  rw [rule]
  exact reordered.observations.filterMap _

theorem Reordered.freshPairs :
    (freshPairs contracts request).Perm (freshPairs contracts request') :=
  Grouping.singles_perm (reordered.projectedPairs contracts)

theorem Reordered.observationReasons :
    (observationReasons contracts request).Perm (observationReasons contracts request') := by
  have rule : projectionReason contracts request' = projectionReason contracts request := by
    funext observation
    rw [projectionReason, projectionReason, reordered.freshScopedObservation contracts]
  unfold SupportGuard.observationReasons
  rw [rule]
  apply List.Perm.append
  · exact (reordered.observations.filterMap _).append
      ((Grouping.repeated_perm (reordered.projectedPairs contracts)).map _)
  · exact (conflictingSources_perm ((reordered.freshPairs contracts).flatMap_right _)).map _

theorem Reordered.eligibleEvidenceIds :
    (eligibleEvidenceIds contracts request).Perm (eligibleEvidenceIds contracts request') :=
  (reordered.freshPairs contracts).flatMap_right _

theorem Reordered.bindingReviews :
    (bindingReviews contracts request).Perm (bindingReviews contracts request') := by
  have identified : (identifiedBindings contracts request).Perm
      (identifiedBindings contracts request') :=
    reordered.citationBindings.filter _
  have attempt : request'.providerAttemptId = request.providerAttemptId := by
    rw [reordered.rest]
  have rule : (fun id => reviewBinding contracts request.providerAttemptId id
        (Grouping.group (bindingId contracts) (identifiedBindings contracts request) id)) =
      fun id => reviewBinding contracts request'.providerAttemptId id
        (Grouping.group (bindingId contracts) (identifiedBindings contracts request') id) := by
    funext id
    rw [attempt]
    exact reviewBinding_perm (Grouping.group_perm identified id)
  have reviews : ∀ request, SupportGuard.bindingReviews contracts request =
      (Grouping.distinct ((identifiedBindings contracts request).map (bindingId contracts))).map
        fun id => reviewBinding contracts request.providerAttemptId id
          (Grouping.group (bindingId contracts) (identifiedBindings contracts request) id) :=
    fun _ => rfl
  rw [reviews, reviews, rule]
  exact (Grouping.distinct_perm (identified.map _)).map _

theorem Reordered.citedEvidence :
    (citedEvidence contracts request (SupportGuard.eligibleEvidenceIds contracts request)).Perm
      (citedEvidence contracts request'
        (SupportGuard.eligibleEvidenceIds contracts request')) := by
  have rule : (fun item : EligibleCitation =>
        decide (item.evidenceId ∈ SupportGuard.eligibleEvidenceIds contracts request)) =
      fun item => decide (item.evidenceId ∈
        SupportGuard.eligibleEvidenceIds contracts request') := by
    funext item
    exact decide_eq_decide.mpr (reordered.eligibleEvidenceIds contracts).mem_iff
  unfold SupportGuard.citedEvidence
  rw [rule]
  exact ((reordered.bindingReviews contracts).filterMap _).filter _

theorem Reordered.citations :
    (citations contracts request).1.Perm (citations contracts request').1 ∧
      (citations contracts request).2.Perm (citations contracts request').2 := by
  have cited := (reordered.citedEvidence contracts)
  have ambiguous := ambiguousCitations_perm cited
  have sorted := ((List.perm_insertionSort (· ≤ ·) _).trans ambiguous).trans
    (List.perm_insertionSort (· ≤ ·) _).symm
  have unambiguous : (fun item : EligibleCitation => decide (item.citationBindingId ∉
        (ambiguousCitations (SupportGuard.citedEvidence contracts request
          (SupportGuard.eligibleEvidenceIds contracts request))).insertionSort (· ≤ ·))) =
      fun item => decide (item.citationBindingId ∉
        (ambiguousCitations (SupportGuard.citedEvidence contracts request'
          (SupportGuard.eligibleEvidenceIds contracts request'))).insertionSort (· ≤ ·)) := by
    funext item
    exact decide_eq_decide.mpr (not_congr sorted.mem_iff)
  have ineligible : (fun item : EligibleCitation => decide (item.evidenceId ∉
        SupportGuard.eligibleEvidenceIds contracts request)) =
      fun item => decide (item.evidenceId ∉
        SupportGuard.eligibleEvidenceIds contracts request') := by
    funext item
    exact decide_eq_decide.mpr (not_congr (reordered.eligibleEvidenceIds contracts).mem_iff)
  unfold SupportGuard.citations eligibleCitations
  dsimp only
  rw [unambiguous, ineligible]
  refine ⟨cited.filter _, ?_⟩
  apply List.Perm.append _ (sorted.map _)
  apply List.Perm.append _ ((((reordered.bindingReviews contracts).filterMap _).filter _).map _)
  exact ((reordered.citationBindings.filter _).map _).append
    ((reordered.bindingReviews contracts).filterMap _)

theorem Reordered.conflictReasons :
    (conflictReasons contracts request).Perm (conflictReasons contracts request') := by
  have reasons := (reordered.freshPairs contracts).filterMap (conflictReason contracts)
  have flag : request'.evidenceConflict = request.evidenceConflict := by
    rw [reordered.rest]
  unfold SupportGuard.conflictReasons
  dsimp only
  simp only [flag, eq_nil_congr reasons]
  split
  · exact List.Perm.refl _
  · exact Grouping.distinct_perm reasons

theorem Reordered.unexplainedConflicts :
    (unexplainedConflicts contracts request).Perm (unexplainedConflicts contracts request') := by
  have conflicts := (reordered.conflictReasons contracts)
  have flag : request'.explainableComparison = request.explainableComparison := by
    rw [reordered.rest]
  unfold SupportGuard.unexplainedConflicts
  dsimp only
  simp only [flag, conflicts.mem_iff]
  split
  · exact List.Perm.refl _
  · exact conflicts

theorem Reordered.isObserved :
    isObserved contracts request' = isObserved contracts request := by
  funext group
  exact (any_perm (reordered.freshPairs contracts) _).symm

theorem Reordered.isSatisfied :
    isSatisfied contracts request' = isSatisfied contracts request := by
  funext group
  unfold SupportGuard.isSatisfied
  simp only [reordered.isObserved contracts, eq_nil_congr (reordered.citations contracts).1]

theorem Reordered.isStale : isStale contracts request' = isStale contracts request := by
  funext group
  have outdated : isOutdated contracts request' group = isOutdated contracts request group := by
    rw [reordered.rest]
    rfl
  have required : request'.requirements = request.requirements := by
    rw [reordered.rest]
  unfold SupportGuard.isStale
  rw [reordered.isSatisfied contracts, outdated, required, any_perm reordered.observations]

theorem Reordered.isMissing : isMissing contracts request' = isMissing contracts request := by
  funext group
  have required : request'.requirements = request.requirements := by
    rw [reordered.rest]
  unfold SupportGuard.isMissing
  rw [reordered.isSatisfied contracts, reordered.isStale contracts, required]

theorem Reordered.insufficientReasons :
    (insufficientReasons contracts request).Perm (insufficientReasons contracts request') := by
  unfold SupportGuard.insufficientReasons
  apply Grouping.distinct_perm
  simp only [reordered.isObserved contracts, reordered.isMissing contracts,
    reordered.isStale contracts, eq_nil_congr (reordered.citations contracts).1]
  apply List.Perm.append _ (List.Perm.refl _)
  apply List.Perm.append _ (List.Perm.refl _)
  apply List.Perm.append _ (List.Perm.refl _)
  apply List.Perm.append _ ((reordered.unexplainedConflicts contracts).map _)
  exact (reordered.observationReasons contracts).append (reordered.citations contracts).2

theorem Reordered.isSufficient :
    isSufficient contracts request' = isSufficient contracts request := by
  unfold SupportGuard.isSufficient
  simp only [reordered.isMissing contracts, reordered.isStale contracts,
    eq_nil_congr (reordered.insufficientReasons contracts)]

end Reordering

theorem evidenceErrorCode_perm {reasons reasons' : List String} (same : reasons.Perm reasons') :
    evidenceErrorCode reasons = evidenceErrorCode reasons' := by
  unfold evidenceErrorCode
  rw [any_perm same, any_perm same, any_perm same]

/-- Two decisions that say the same. -/
structure SameVerdict (left right : EvidenceDecision) : Prop where
  result : left.result = right.result
  sufficient : left.sufficient = right.sufficient
  satisfied : left.satisfiedGroups = right.satisfiedGroups
  missing : left.missingGroups = right.missingGroups
  stale : left.staleGroups = right.staleGroups
  errorCode : left.errorCode = right.errorCode

theorem Reordered.sameVerdict {request' : EvidenceRequest}
    (reordered : Reordered request request') :
    SameVerdict (evidenceFields contracts request) (evidenceFields contracts request') := by
  have required : request'.requirements = request.requirements := by
    rw [reordered.rest]
  have replan : request'.canReplan = request.canReplan := by
    rw [reordered.rest]
  have code := evidenceErrorCode_perm (reordered.insufficientReasons contracts)
  constructor
  all_goals
    simp only [evidenceFields, reordered.isSufficient contracts, reordered.isSatisfied contracts,
      reordered.isMissing contracts, reordered.isStale contracts, required, replan, code]

end Lemmas

end

/-! ## An account that cites -/

/-- Python's texts; no text is parsed here. -/
def plainContracts : AssemblerContracts where
  str := Json.toStr
  casefold := id
  int := fun _ => none
  fromIsoformat := fun _ => none
  validateAdmission := fun _ => none
  validateLedger := fun _ => none

/-- A successful observation of tenant `t` and customer `c`, with one piece of evidence. -/
def sampleObservation (toolName evidenceId : String) : EvidenceObservation where
  members :=
    let scope := canonicalScopeHash "t" "c"
    [("run_id", .string "run"), ("tenant_id", .string "t"), ("customer_id", .string "c"),
      ("scope_hash", .string scope),
      ("trusted_scope", .object [("tenant_id", .string "t"), ("customer_id", .string "c"),
        ("scope_hash", .string scope)]),
      ("status", .string "ok"), ("freshness_status", .string "fresh"),
      ("tool_call_id", .string toolName), ("tool_name", .string toolName),
      ("data", .object [("evidence", .array [.object [("evidence_id", .string evidenceId),
        ("supporting_span_eligible", .bool true)]])])]
  observedAt := .datetime ⟨⟨0, Instant.first_inRange⟩, none⟩
  freshUntil := .datetime ⟨⟨0, Instant.first_inRange⟩, none⟩

def sampleCitation (evidenceId : String) : JsonMembers :=
  let hash := String.ofList (List.replicate 64 '0')
  [("citation_binding_id", .string "binding"), ("provider_attempt_id", .string "attempt"),
    ("evidence_id", .string evidenceId), ("document_id", .string "document"),
    ("chunk_id", .string "chunk"), ("content_hash", .string hash), ("locator_hash", .string hash)]

/-- Knowledge is required; it was found, and so was an account. -/
def sampleRequest (citedEvidence runId : String) : EvidenceRequest where
  requirements := ⟨[.knowledge], by decide⟩
  observations := [sampleObservation "search_knowledge" "article",
    sampleObservation "query_account" "account"]
  citationBindings := [sampleCitation citedEvidence]
  runId
  tenantId := "t"
  customerId := "c"
  providerAttemptId := "attempt"
  evidenceConflict := false
  canReplan := true
  explainableComparison := false
  now := ⟨0, Instant.first_inRange⟩

end SupportGuard
