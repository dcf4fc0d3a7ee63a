import Mathlib.Data.List.Infix
import SupportGuard.Agent.ProposalAssembler

/-! # The ledger of obligations

`agent/obligations.py`: what the observations of a run and the citations of a provider's
context settle of the evidence that an admitted action needs. The ledger is rebuilt from
them on every call. -/

namespace SupportGuard

open Foundation Fallible

/-! ## Inputs -/

/-- A citation that one provider context has produced. -/
structure ContextCitationBinding where
  citationBindingId : String
  providerAttemptId : String
  evidenceId : String
  documentId : String
  chunkId : String
  contentHash : String
  locatorHash : String

/-- What the ledger also takes from Python: `int` of a decoded value, and the numbers that
`re.findall(r"\d+", text)` reads in a version. -/
structure LedgerContracts extends AssemblerContracts where
  intOf : Json → Option Int
  versionNumbers : String → List Nat

/-- An exception that leaves the evaluation. -/
inductive LedgerStop
  | valueError
  | typeError
  | keyError
  | attributeError
deriving DecidableEq

/-- `left or right`. -/
def Json.orElse (left right : Json) : Json :=
  if left.truthy then left else right

/-- `needle in text`. -/
def textContains (needle text : String) : Bool :=
  needle.toList <:+: text.toList

/-- A value under nested keys. -/
def nestedValue : JsonMembers → List String → Option Json
  | _, [] => none
  | members, [key] => members.lookup key
  | members, key :: path => match members.lookup key with
      | some (.object inner) => nestedValue inner path
      | _ => none

/-- `members[key] = value`. -/
def JsonMembers.set (members : JsonMembers) (key : String) (value : Json) : JsonMembers :=
  if members.any fun member => member.1 = key then
    members.map fun member => if member.1 = key then (key, value) else member
  else members ++ [(key, value)]

/-- `data` where it is a dictionary, and an empty one elsewhere. -/
def observedData (observation : JsonMembers) : JsonMembers :=
  match observation.value "data" with
  | .object data => data
  | _ => []

section

variable (contracts : LedgerContracts)

/-- `str(members.get(key, default))`. -/
def textAt (members : JsonMembers) (key default : String) : String :=
  match members.lookup key with
  | some value => contracts.str value
  | none => default

/-- `str(value or "")`. -/
def strOrEmpty (value : Json) : String :=
  if value.truthy then contracts.str value else ""

/-! ## Bindings -/

/-- `observation.get("data", {})`, as the receiver of a further `get`. -/
def dataReceiver (observation : JsonMembers) : Except LedgerStop JsonMembers :=
  match observation.lookup "data" with
  | none => .ok []
  | some (.object data) => .ok data
  | some _ => .error .attributeError

/-- The version an observation gives of its resource. -/
def observationVersion (observation : JsonMembers) : Except LedgerStop (Option String) :=
  let own := observation.value "resource_version"
  if own.truthy then .ok (some (contracts.str own))
  else do
    let data ← dataReceiver observation
    if own = .null ∧ data.value "version" = .null ∧ data.value "resource_version" = .null then
      .ok none
    else
      .ok (some (contracts.str
        (Json.orElse (Json.orElse own (data.value "version")) (data.value "resource_version"))))

/-- `_base_binding`, for the scope that the caller has read. -/
def baseBinding (observation : JsonMembers) (scope : String × String × String)
    (resourceId : Option String) (evidenceIds citationBindingIds : List String) :
    Except LedgerStop ObligationBinding := do
  let resourceVersion ← observationVersion contracts observation
  let hash := observedHash contracts.toAssemblerContracts observation
  refuseWhen (isSha256Hex hash = false ∨ isSha256Hex scope.2.2 = false) .valueError
  let named (first second : String) :=
    if (observation.value first).truthy then contracts.str (observation.value first)
    else if (observation.value second).truthy then contracts.str (observation.value second)
    else textAt contracts observation "tool_call_id" ""
  .ok
    { toolName := textAt contracts observation "tool_name" ""
      invocationId := named "invocation_id" "logical_invocation_id"
      observationId := named "observation_id" "id"
      observationContentHash := hash
      resourceId
      resourceVersion
      tenantId := scope.1
      customerId := scope.2.1
      scopeHash := scope.2.2
      freshnessStatus := textAt contracts observation "freshness_status" "unknown"
      freshUntil := parseTime contracts.toAssemblerContracts (observation.value "fresh_until")
      sourceIds := sourceIds contracts.toAssemblerContracts observation
      evidenceIds
      citationBindingIds }

/-- `_freshness_reason`; the time of the evaluation has an offset. -/
def freshnessReason (now : DateTime) (observation : JsonMembers) : Option String :=
  if (observation.value "freshness_status").pyEq (.string "fresh") = false then
    some "observation_freshness_not_fresh"
  else match parseTime contracts.toAssemblerContracts (observation.value "fresh_until") with
    | none => some "observation_expired"
    | some freshUntil =>
        if DateTime.universal freshUntil < DateTime.universal now then some "observation_expired"
        else none

/-! ## The observations of a capability -/

/-- Later observations sort after earlier ones. -/
structure ObservationRank where
  time : Int
  attempt : Int
  identity : String
deriving DecidableEq

def ObservationRank.le (left right : ObservationRank) : Bool :=
  left.time < right.time || left.time = right.time &&
    (left.attempt < right.attempt || left.attempt = right.attempt &&
      left.identity ≤ right.identity)

def observationRank (observation : JsonMembers) : Except LedgerStop ObservationRank :=
  match contracts.intOf ((observation.lookup "attempt_index").getD (.integer 0)) with
  | none => .error .valueError
  | some attempt =>
      .ok
        { time := ((parseTime contracts.toAssemblerContracts
            (observation.value "observed_at")).map DateTime.universal).getD 0
          attempt
          identity := strOrEmpty contracts
            (Json.orElse (observation.value "observation_id") (observation.value "id")) }

/-- The observations of a run by one capability, the latest first. -/
def relevantObservations (observations : List JsonMembers) (runId capability : String) :
    Except LedgerStop (List JsonMembers) := do
  let current := observations.filter fun item =>
    (item.value "run_id").pyEq (.string runId) && (item.value "tool_name").pyEq (.string capability)
  let ranked ← current.mapM fun item => do
    let rank ← observationRank contracts item
    .ok (rank, item)
  .ok ((ranked.insertionSort fun left right => right.1.le left.1).map Prod.snd)

/-! ## Entries without a binding -/

def unboundEntry (obligation : EvidenceObligationSpec) (status : ObligationStatus)
    (reasonCode : String) : ObligationEntry where
  obligationId := obligation.obligationId
  kind := obligation.kind
  status
  capabilities := obligation.capabilities
  reasonCode

/-- `_failure_entry`. -/
def failureEntry (obligation : EvidenceObligationSpec) (observation : JsonMembers) :
    ObligationEntry :=
  let status := textAt contracts observation "status" "invalid_result"
  let reason (default : String) :=
    if (observation.value "error_code").truthy then
      contracts.str (observation.value "error_code")
    else default
  if status = "conflict" then
    unboundEntry obligation .conflicted (reason "observation_conflicted")
  else if status ∈ ["timeout", "unavailable", "invalid_result", "invalid_input",
      "forbidden_tool"] then
    unboundEntry obligation .failed (reason "read_capability_failed")
  else unboundEntry obligation .pending (reason "read_result_not_qualifying")

def scopeErrorCodes : List String :=
  ["billing_scope_violation", "ticket_scope_violation", "cross_tenant_argument",
    "cross_tenant_observation", "observation_scope_mismatch", "knowledge_scope_mismatch"]

def forbiddenErrorCodes : List String :=
  ["forbidden_surface", "forbidden_tool", "forbidden_tool_surface"]

def admittedScope (admission : ActionAdmission) : String × String × String :=
  (admission.tenantId, admission.customerId, admission.scopeHash)

/-- `_hard_terminal_entry`, for one observation. -/
def hardTerminalEntry (obligation : EvidenceObligationSpec) (admission : ActionAdmission)
    (observation : JsonMembers) : Option ObligationEntry :=
  let scope := observationScope contracts.toAssemblerContracts observation
  if scope ≠ ("", "", "") ∧ scope ≠ admittedScope admission then
    some (unboundEntry obligation .failed "observation_scope_mismatch")
  else
    let status := textAt contracts observation "status" "invalid_result"
    let errorCode := strOrEmpty contracts (observation.value "error_code")
    if status ∈ ["timeout", "unavailable", "forbidden_tool"] ∨ errorCode ∈ scopeErrorCodes ∨
        errorCode ∈ forbiddenErrorCodes ∨ textContains "retry_exhausted" errorCode then
      let failed := failureEntry contracts obligation observation
      if failed.status = .failed then some failed
      else some (unboundEntry obligation .failed
        (if errorCode = "" then "hard_terminal_read_failure" else errorCode))
    else none

/-! ## Terminal outcomes -/

/-- `_terminal_rule_matches`. -/
def terminalRuleMatches (obligation : EvidenceObligationSpec) (admission : ActionAdmission)
    (observation : JsonMembers) (predicate : TerminalOutcomePredicate) :
    Except LedgerStop Bool :=
  let status := textAt contracts observation "status" "invalid_result"
  let data := observedData observation
  match predicate with
  | .observationStatusIn values => .ok (status ∈ values)
  | .resourceStatusNotAllowed =>
      let observed := textAt contracts data "status" ""
      .ok (status = "ok" ∧ observed ≠ "" ∧ obligation.allowedResourceStatuses ≠ [] ∧
        observed ∉ obligation.allowedResourceStatuses)
  | .observationFieldFalsy field =>
      .ok (status = "ok" ∧ (data.lookup field).any fun value => !value.truthy)
  | .admissionNotInObservation path field =>
      if status ≠ "ok" then .ok false
      else match nestedValue admission.extractedArguments path, data.lookup field with
        | some admitted, some (.array items) =>
            match admitted with
            -- A set has no lists and dictionaries to compare with.
            | .array _ | .object _ => .error .typeError
            | _ => .ok ((items.map contracts.str).all fun item =>
                !admitted.pyEq (.string item))
        | _, _ => .ok false
  | .admissionEqualsObservation path field =>
      if status ≠ "ok" then .ok false
      else match nestedValue admission.extractedArguments path, data.lookup field with
        | some admitted, some observed => .ok (admitted.pyEq observed)
        | _, _ => .ok false

/-- The texts by which a resource may be named: its identifier and its fingerprint. -/
def equivalentRefs (obligation : EvidenceObligationSpec) (data : JsonMembers) : List String :=
  [textAt contracts data (obligation.observedResourceField.getD "") "",
    textAt contracts data "fingerprint" ""].filter (· ≠ "")

/-- The observation is of the resource that was admitted. -/
def refersTo (obligation : EvidenceObligationSpec) (admission : ActionAdmission)
    (data : JsonMembers) : Bool :=
  match obligation.resourceRefArgument with
  | none => true
  | some argument =>
      let admitted := textAt contracts admission.extractedArguments argument ""
      admitted ≠ "" && contracts.casefold admitted ∈
        (equivalentRefs contracts obligation data).map contracts.casefold

/-- Whether the rules apply to an observation at all. -/
def terminalCandidate (obligation : EvidenceObligationSpec) (admission : ActionAdmission)
    (now : DateTime) (observation : JsonMembers) : Bool :=
  let status := textAt contracts observation "status" "invalid_result"
  let data := observedData observation
  observationScope contracts.toAssemblerContracts observation = admittedScope admission &&
    if status = "ok" then
      !(obligation.requireFreshness && (freshnessReason contracts now observation).isSome) &&
        (obligation.observedResourceField.all fun field => (data.value field).truthy) &&
        refersTo contracts obligation admission data
    else obligation.resourceRefArgument.all fun argument =>
      let admitted := textAt contracts admission.extractedArguments argument ""
      match observation.value "request_binding" with
      | .object requested => admitted ≠ "" &&
          contracts.casefold (textAt contracts requested "resource_ref" "") =
            contracts.casefold admitted
      | _ => false

/-- The reference under which an outcome names its resource. -/
def outcomeResourceRef (obligation : EvidenceObligationSpec) (admission : ActionAdmission)
    (data : JsonMembers) : Option String :=
  let nonempty (text : String) : Option String := if text = "" then none else some text
  let admitted := obligation.resourceRefArgument.bind fun argument =>
    nonempty (textAt contracts admission.extractedArguments argument "")
  admitted.orElse fun _ => obligation.observedResourceField.bind fun field =>
    nonempty (strOrEmpty contracts (data.value field))

def outcomeFacts (rule : TerminalOutcomeRule) (admission : ActionAdmission)
    (data : JsonMembers) : JsonMembers :=
  let observed := rule.publicObservationFields.filterMap fun field =>
    (data.lookup field).map fun value => (field, value)
  rule.publicAdmissionPaths.foldl (fun facts path =>
    match nestedValue admission.extractedArguments path with
    | some value => facts.set ("requested_" ++ "_".intercalate path) value
    | none => facts) observed

/-- The entry of the first rule that matches. -/
def firstTerminalRule (spec : ActionSpec) (obligation : EvidenceObligationSpec)
    (admission : ActionAdmission) (observation : JsonMembers) :
    List TerminalOutcomeRule → Except LedgerStop (Option ObligationEntry)
  | [] => .ok none
  | rule :: rest => do
      let matched ← if rule.obligationId ≠ obligation.obligationId then .ok false
        else terminalRuleMatches contracts obligation admission observation rule.predicate
      if matched = false then firstTerminalRule spec obligation admission observation rest
      else if rule.requireBusinessSource ∧
          sourceIds contracts.toAssemblerContracts observation = [] then .ok none
      else do
        let data := observedData observation
        let facts := outcomeFacts rule admission data
        let resourceRef := outcomeResourceRef contracts obligation admission data
        let binding ← baseBinding contracts observation
          (observationScope contracts.toAssemblerContracts observation) resourceRef [] []
        .ok (some
          { unboundEntry obligation .terminal rule.outcomeCode with
            binding := some binding
            terminalOutcome := some
              { actionType := spec.actionType
                terminalClass := rule.terminalClass
                outcomeCode := rule.outcomeCode
                obligationId := obligation.obligationId
                resourceRef
                observedFacts := facts
                binding
                customerMessageKey := rule.customerMessageKey
                recommendedNextStep := rule.recommendedNextStep
                outcomeHash := payloadDigest (.object
                  [("action_type", .string spec.actionType.text),
                    ("binding_hash", .string binding.observationContentHash),
                    ("observed_facts", .object facts),
                    ("obligation_id", .string obligation.obligationId),
                    ("outcome_code", .string rule.outcomeCode),
                    ("resource_ref", Json.optionalText resourceRef),
                    ("scope_hash", .string admission.scopeHash)]) } })

/-- `_terminal_outcome_entry`. -/
def terminalOutcomeEntry (spec : ActionSpec) (obligation : EvidenceObligationSpec)
    (admission : ActionAdmission) (now : DateTime) (observation : JsonMembers) :
    Except LedgerStop (Option ObligationEntry) :=
  if terminalCandidate contracts obligation admission now observation then
    firstTerminalRule contracts spec obligation admission observation spec.terminalOutcomes
  else .ok none

/-- The outcome of the first observation that has one. -/
def firstTerminalOutcome (spec : ActionSpec) (obligation : EvidenceObligationSpec)
    (admission : ActionAdmission) (now : DateTime) :
    List JsonMembers → Except LedgerStop (Option ObligationEntry)
  | [] => .ok none
  | observation :: rest => do
      match ← terminalOutcomeEntry contracts spec obligation admission now observation with
      | some entry => .ok (some entry)
      | none => firstTerminalOutcome spec obligation admission now rest

/-! ## Resources -/

/-- The observation is in the scope of the admission. -/
def inScope (admission : ActionAdmission) (observation : JsonMembers) : Bool :=
  observationScope contracts.toAssemblerContracts observation = admittedScope admission

def statusAllowed (obligation : EvidenceObligationSpec) (data : JsonMembers) : Bool :=
  obligation.allowedResourceStatuses = [] ||
    contracts.str (data.value "status") ∈ obligation.allowedResourceStatuses

/-- `_resource_observation_qualifies`. -/
def resourceObservationQualifies (obligation : EvidenceObligationSpec)
    (admission : ActionAdmission) (now : DateTime) (observation : JsonMembers) : Bool :=
  match observation.value "data" with
  | .object data =>
      (observation.value "status").pyEq (.string "ok") && inScope contracts admission observation &&
        !(obligation.requireFreshness && (freshnessReason contracts now observation).isSome) &&
        !(obligation.requiredDataFields.any fun field => JsonMembers.value data field = .null) &&
        !(obligation.requiredTruthyDataFields.any fun field =>
          !(JsonMembers.value data field).truthy) &&
        statusAllowed contracts obligation data &&
        (obligation.observedResourceField.all fun field =>
          (JsonMembers.value data field).truthy) &&
        refersTo contracts obligation admission data &&
        sourceIds contracts.toAssemblerContracts observation ≠ []
  | _ => false

/-- The identifier of the resource; empty where there is none. -/
def resourceIdentity (obligation : EvidenceObligationSpec) (data : JsonMembers) : Option String :=
  obligation.observedResourceField.map fun field => strOrEmpty contracts (data.value field)

/-- What `_resource_entry` makes of the observation it has chosen. -/
def resourceObservationEntry (obligation : EvidenceObligationSpec) (admission : ActionAdmission)
    (now : DateTime) (observation : JsonMembers) : Except LedgerStop ObligationEntry :=
  let data := observedData observation
  if (observation.value "status").pyEq (.string "ok") = false then
    .ok (failureEntry contracts obligation observation)
  else if inScope contracts admission observation = false then
    .ok (unboundEntry obligation .failed "observation_scope_mismatch")
  else match if obligation.requireFreshness then freshnessReason contracts now observation
      else none with
    | some reason => .ok (unboundEntry obligation .stale reason)
    | none =>
        if obligation.requiredDataFields.any fun field => data.value field = .null then
          .ok (unboundEntry obligation .pending "required_resource_fields_missing")
        else if obligation.requiredTruthyDataFields.any fun field =>
            !(data.value field).truthy then
          .ok (unboundEntry obligation .pending "required_resource_value_missing")
        else if statusAllowed contracts obligation data = false then
          .ok (unboundEntry obligation .conflicted "resource_status_conflict")
        else if resourceIdentity contracts obligation data = some "" then
          .ok (unboundEntry obligation .pending "resource_identity_missing")
        else if refersTo contracts obligation admission data = false then
          .ok (unboundEntry obligation .pending "resource_identity_mismatch")
        else if sourceIds contracts.toAssemblerContracts observation = [] then
          .ok (unboundEntry obligation .failed "resource_source_binding_missing")
        else do
          let binding ← baseBinding contracts observation
            (observationScope contracts.toAssemblerContracts observation)
            (resourceIdentity contracts obligation data) [] []
          .ok
            { unboundEntry obligation .satisfied "resource_obligation_satisfied" with
              binding := some binding }

/-- `_resource_entry`. -/
def resourceEntry (spec : ActionSpec) (obligation : EvidenceObligationSpec)
    (admission : ActionAdmission) (observations : List JsonMembers) (runId : String)
    (now : DateTime) : Except LedgerStop ObligationEntry := do
  let found ← obligation.capabilities.mapM fun capability =>
    relevantObservations contracts observations runId capability
  match found.flatten with
  | [] => .ok (unboundEntry obligation .pending "required_read_missing")
  | first :: rest =>
      match (first :: rest).findSome? (hardTerminalEntry contracts obligation admission) with
      | some entry => .ok entry
      | none => do
          match ← firstTerminalOutcome contracts spec obligation admission now
              (first :: rest) with
          | some entry => .ok entry
          | none =>
              resourceObservationEntry contracts obligation admission now
                (((first :: rest).find? (resourceObservationQualifies contracts obligation
                  admission now)).getD first)

/-! ## Knowledge -/

/-- `_version_key`. -/
def versionKey (value : Json) : List Nat :=
  match contracts.versionNumbers (contracts.str value) with
  | [] => [0]
  | numbers => numbers

/-- `_knowledge_evidence_qualifies`. -/
def knowledgeEvidenceQualifies (obligation : EvidenceObligationSpec) (indexVersion : String)
    (now : DateTime) (evidence : JsonMembers) : Bool :=
  let span := textAt contracts evidence "supporting_span" ""
  let surface := contracts.casefold
    (textAt contracts evidence "section_path" "" ++ "\n" ++ span)
  textAt contracts evidence "document_id" "" ∈ obligation.allowedDocumentKeys &&
    textAt contracts evidence "document_type" "" ∈ obligation.allowedDocumentTypes &&
    !(versionKey contracts (evidence.value "version") <
      versionKey contracts (Json.optionalText obligation.minimumVersion)) &&
    evidence.value "supporting_span_eligible" = .bool true &&
    span ≠ "" && (evidence.value "content_hash").truthy &&
    (obligation.allowedSectionTerms.any fun term =>
      textContains (contracts.casefold term) surface) &&
    match evidence.value "source_locator", evidence.value "eligibility_envelope" with
    | .object locator, .object eligibility =>
        (JsonMembers.value locator "locator_hash").truthy &&
          (JsonMembers.value eligibility "status").pyEq (.string "active") &&
          (JsonMembers.value eligibility "outcome").pyEq (.string "eligible") &&
          (JsonMembers.value eligibility "index_version").pyEq (.string indexVersion) &&
          ((parseTime contracts.toAssemblerContracts
              (JsonMembers.value eligibility "effective_from")).any fun time =>
            DateTime.universal time ≤ DateTime.universal now) &&
          ((parseTime contracts.toAssemblerContracts
              (JsonMembers.value eligibility "effective_until")).all fun time =>
            DateTime.universal now < DateTime.universal time) &&
          (JsonMembers.value locator "index_version" = .null ||
            (JsonMembers.value locator "index_version").pyEq (.string indexVersion))
    | _, _ => false

/-- What the data of a search offers: the version of the index and the evidence, where the
search was not refused and found some. -/
def offeredEvidence (data : JsonMembers) : Option (String × List Json) :=
  let indexVersion := strOrEmpty contracts (data.value "index_version")
  match data.value "evidence" with
  | .array items =>
      if (data.value "refusal_reason").truthy ∨ items = [] ∨ indexVersion = "" then none
      else some (indexVersion, items)
  | _ => none

def qualifiedEvidence (obligation : EvidenceObligationSpec) (now : DateTime)
    (indexVersion : String) (items : List Json) : List JsonMembers :=
  items.filterMap fun item => match item with
    | .object evidence =>
        if knowledgeEvidenceQualifies contracts obligation indexVersion now evidence then
          some evidence
        else none
    | _ => none

/-- One of the sources of an observation is a chunk that qualified. -/
def sourcesQualified (observation : JsonMembers) (qualified : List JsonMembers) : Bool :=
  (sourceIds contracts.toAssemblerContracts observation).any fun source =>
    qualified.any fun evidence => source =
      contracts.str (Json.orElse (evidence.value "chunk_id") (evidence.value "evidence_id"))

/-- `_knowledge_observation_qualifies`. -/
def knowledgeObservationQualifies (obligation : EvidenceObligationSpec)
    (admission : ActionAdmission) (now : DateTime) (observation : JsonMembers) : Bool :=
  match observation.value "data" with
  | .object data =>
      (observation.value "status").pyEq (.string "ok") && inScope contracts admission observation &&
        JsonMembers.value data "conflict" ≠ .bool true &&
        (offeredEvidence contracts data).any fun (indexVersion, items) =>
          let qualified := qualifiedEvidence contracts obligation now indexVersion items
          qualified ≠ [] && sourcesQualified contracts observation qualified
  | _ => false

/-- A citation of the provider's context names a piece of evidence. -/
def citesEvidence (binding : ContextCitationBinding) (evidence : JsonMembers) : Bool :=
  let locator : JsonMembers := match evidence.value "source_locator" with
    | .object members => members
    | _ => []
  (evidence.value "evidence_id").pyEq (.string binding.evidenceId) &&
    (evidence.value "document_id").pyEq (.string binding.documentId) &&
    (evidence.value "chunk_id").pyEq (.string binding.chunkId) &&
    (evidence.value "content_hash").pyEq (.string binding.contentHash) &&
    (locator.value "locator_hash").pyEq (.string binding.locatorHash)

/-- The citations of one provider attempt that name qualified evidence. -/
def matchedCitations (citations : List ContextCitationBinding) (providerAttemptId : Option String)
    (qualified : List JsonMembers) : List String :=
  (citations.filter fun binding => some binding.providerAttemptId = providerAttemptId &&
    qualified.any (citesEvidence binding)).map ContextCitationBinding.citationBindingId

/-- `str(item["evidence_id"])`. -/
def evidenceIdentity (evidence : JsonMembers) : Except LedgerStop String :=
  match evidence.lookup "evidence_id" with
  | some value => .ok (contracts.str value)
  | none => .error .keyError

/-- What `_knowledge_entry` makes of the observation it has chosen. -/
def knowledgeObservationEntry (obligation : EvidenceObligationSpec) (admission : ActionAdmission)
    (now : DateTime) (citations : List ContextCitationBinding)
    (providerAttemptId : Option String) (observation : JsonMembers) :
    Except LedgerStop ObligationEntry :=
  let data := observedData observation
  if (observation.value "status").pyEq (.string "ok") = false then
    .ok (failureEntry contracts obligation observation)
  else if inScope contracts admission observation = false then
    .ok (unboundEntry obligation .failed "knowledge_scope_mismatch")
  else if data.value "conflict" = .bool true then
    .ok (unboundEntry obligation .conflicted "knowledge_policy_conflict")
  else match offeredEvidence contracts data with
    | none => .ok (unboundEntry obligation .pending "knowledge_evidence_empty")
    | some (indexVersion, items) =>
        let qualified := qualifiedEvidence contracts obligation now indexVersion items
        if qualified = [] then
          .ok (unboundEntry obligation .pending "knowledge_evidence_not_qualified")
        else do
          let evidenceIds ← qualified.mapM (evidenceIdentity contracts)
          if sourcesQualified contracts observation qualified = false then
            .ok (unboundEntry obligation .failed "knowledge_source_binding_missing")
          else do
            let matched := matchedCitations citations providerAttemptId qualified
            let binding ← baseBinding contracts observation
              (observationScope contracts.toAssemblerContracts observation) none evidenceIds
              (matched.dedup.insertionSort (· ≤ ·))
            let entry := if matched = [] then
                unboundEntry obligation .readQualified "knowledge_read_qualified"
              else unboundEntry obligation .satisfied "knowledge_obligation_satisfied"
            .ok { entry with binding := some binding }

/-- `_knowledge_entry`. -/
def knowledgeEntry (obligation : EvidenceObligationSpec) (admission : ActionAdmission)
    (observations : List JsonMembers) (runId : String) (now : DateTime)
    (citations : List ContextCitationBinding) (providerAttemptId : Option String) :
    Except LedgerStop ObligationEntry := do
  match ← relevantObservations contracts observations runId "search_knowledge" with
  | [] => .ok (unboundEntry obligation .pending "knowledge_read_missing")
  | first :: rest =>
      match (first :: rest).findSome? (hardTerminalEntry contracts obligation admission) with
      | some entry => .ok entry
      | none =>
          knowledgeObservationEntry contracts obligation admission now citations
            providerAttemptId (((first :: rest).find? (knowledgeObservationQualifies contracts
              obligation admission now)).getD first)

/-! ## The ledger -/

/-- A time without an offset reads UTC. -/
def atUtc (time : DateTime) : DateTime :=
  if time.offset = none then { time with offset := some ⟨0, UtcOffset.utc_bounded⟩ } else time

def ledgerState (entries : List ObligationEntry) : LedgerNextState × String :=
  if entries.any fun entry => entry.status = .failed then
    (.safeStop, ((entries.find? fun entry =>
      entry.status = .failed && entry.reasonCode ≠ "").map
        ObligationEntry.reasonCode).getD "obligation_hard_failure")
  else match entries.findSome? ObligationEntry.terminalOutcome with
    | some outcome => (.explainTerminal, outcome.outcomeCode)
    | none =>
        if entries ≠ [] ∧ entries.all fun entry => entry.status = .satisfied then
          (.assembleCandidate, "all_obligations_satisfied")
        else if entries.all fun entry =>
            entry.status = .satisfied || entry.status = .readQualified then
          (.synthesize, "all_reads_qualified")
        else if entries.any fun entry => entry.status = .conflicted then
          (.safeStop, "obligation_conflict")
        else (.collectReads, "obligations_pending")

def unsatisfiedCapabilities (entries : List ObligationEntry) : List String :=
  if (entries.findSome? ObligationEntry.terminalOutcome).isSome then []
  else (((entries.filter fun entry => entry.status = .pending || entry.status = .stale).flatMap
    ObligationEntry.capabilities).dedup).insertionSort (· ≤ ·)

/-- `evaluate_action_obligations`. -/
def evaluateActionObligations (spec : ActionSpec) (admission : ActionAdmission)
    (observations : List JsonMembers) (runId : String) (citations : List ContextCitationBinding)
    (providerAttemptId : Option String) (now : DateTime) :
    Except LedgerStop ActionObligationLedger := do
  refuseWhen (admission.status ≠ .admitted ∨ admission.actionType ≠ some spec.actionType)
    .valueError
  let entries ← spec.obligations.mapM fun obligation =>
    if obligation.kind = .knowledge then
      knowledgeEntry contracts obligation admission observations runId (atUtc now) citations
        providerAttemptId
    else resourceEntry contracts spec obligation admission observations runId (atUtc now)
  let (nextState, reasonCode) := ledgerState entries
  .ok
    { actionType := spec.actionType
      runId
      tenantId := admission.tenantId
      customerId := admission.customerId
      scopeHash := admission.scopeHash
      obligations := entries
      unsatisfiedCapabilities := unsatisfiedCapabilities entries
      nextState
      reasonCode
      terminalOutcome := entries.findSome? ObligationEntry.terminalOutcome }

end

end SupportGuard
