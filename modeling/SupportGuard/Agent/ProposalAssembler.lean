import SupportGuard.Agent.ActionSpecs

/-! # Eligibility of proposals

`agent/proposal_assembler.py`: a candidate that a model drafted becomes a proposal only
when the admission, the obligation ledger and the bound observations account for each of
its arguments. -/

namespace SupportGuard

open Foundation Fallible

/-! ## Inputs -/

/-- A decoded JSON object. -/
abbrev JsonMembers : Type :=
  List (String × Json)

/-- `members.get(key)`. -/
def JsonMembers.value (members : JsonMembers) (key : String) : Json :=
  (members.lookup key).getD .null

inductive CandidateAction
  | answer
  | escalate
  | refundProposal
  | apiKeyRevocationProposal
  | entitlementChangeProposal
  | reject
  | manualTakeover
deriving DecidableEq, Repr

def getActionSpecByProposal : CandidateAction → Option ActionSpec
  | .refundProposal => some (actionSpec .refund)
  | .apiKeyRevocationProposal => some (actionSpec .apiKeyRevocation)
  | .entitlementChangeProposal => some (actionSpec .entitlementChange)
  | .answer | .escalate | .reject | .manualTakeover => none

structure MaterialClaim where
  text : String
  citationBindingIds : List String := []
  knowledgeLocatorHashes : List String := []
  observationSourceIds : List String := []

structure CandidateResponse where
  answer : String
  action : CandidateAction
  knowledgeChunkIds : List String := []
  knowledgeCitations : List String := []
  businessSourceIds : List String := []
  materialClaims : List MaterialClaim := []
  proposedArguments : JsonMembers := []
  uniqueArguments : (proposedArguments.map Prod.fst).Nodup

structure ActionAdmission where
  status : AdmissionStatus
  actionType : Option ActionType := none
  extractedArguments : JsonMembers := []
  requestReason : Option String := none
  tenantId : String
  customerId : String
  scopeHash : String

inductive ObligationStatus
  | pending
  | readQualified
  | satisfied
  | stale
  | conflicted
  | failed
  | terminal
deriving DecidableEq, Repr

structure ObligationBinding where
  toolName : String
  invocationId : String
  observationId : String
  observationContentHash : String
  resourceId : Option String := none
  resourceVersion : Option String := none
  tenantId : String
  customerId : String
  scopeHash : String
  freshnessStatus : String
  freshUntil : Option DateTime := none
  sourceIds : List String := []
  evidenceIds : List String := []
  citationBindingIds : List String := []
deriving DecidableEq

/-- Why an admitted action cannot proceed. It allows no proposal, approval or execution. -/
structure TerminalBusinessOutcome where
  actionType : ActionType
  terminalClass : TerminalOutcomeClass
  outcomeCode : String
  obligationId : String
  resourceRef : Option String := none
  observedFacts : JsonMembers := []
  binding : ObligationBinding
  customerMessageKey : String
  recommendedNextStep : String
  outcomeHash : String
deriving DecidableEq

structure ObligationEntry where
  obligationId : String
  kind : ObligationKind
  status : ObligationStatus
  capabilities : List String := []
  binding : Option ObligationBinding := none
  terminalOutcome : Option TerminalBusinessOutcome := none
  reasonCode : String := ""
deriving DecidableEq

inductive LedgerNextState
  | collectReads
  | synthesize
  | assembleCandidate
  | clarify
  | safeStop
  | explainTerminal
deriving DecidableEq, Repr

structure ActionObligationLedger where
  actionType : ActionType
  runId : String
  tenantId : String := ""
  customerId : String := ""
  scopeHash : String := ""
  obligations : List ObligationEntry
  unsatisfiedCapabilities : List String := []
  nextState : LedgerNextState := .collectReads
  reasonCode : String := ""
  terminalOutcome : Option TerminalBusinessOutcome := none
deriving DecidableEq

namespace ActionObligationLedger

def allObligationsSatisfied (ledger : ActionObligationLedger) : Bool :=
  ledger.obligations.all fun entry => entry.status = .satisfied

def entry? (ledger : ActionObligationLedger) (obligationId : String) :
    Option ObligationEntry :=
  ledger.obligations.find? fun entry => entry.obligationId = obligationId

def bindingsOf (ledger : ActionObligationLedger) (wanted : ObligationKind → Bool) :
    List ObligationBinding :=
  (ledger.obligations.filter fun entry => wanted entry.kind).filterMap ObligationEntry.binding

end ActionObligationLedger

/-- What the assembler takes from Python's text functions and from the validation of the
admission and the ledger. -/
structure AssemblerContracts where
  str : Json → String
  casefold : String → String
  int : String → Option Int
  fromIsoformat : String → Option DateTime
  validateAdmission : Json → Option ActionAdmission
  validateLedger : Json → Option ActionObligationLedger

/-! ## The schemas of the arguments -/

def validText (minimum maximum : Nat) : Json → Bool
  | .string text => minimum ≤ text.length && text.length ≤ maximum
  | _ => false

def validInteger (minimum maximum : Int) : Json → Bool
  | .integer value => minimum ≤ value && value ≤ maximum
  | _ => false

/-- The declared members in their order; none when one is missing, invalid or
undeclared. -/
def validateMembers (declared : List (String × (Json → Bool))) (members : JsonMembers) :
    Option JsonMembers :=
  if members.all fun member => declared.any fun field => field.1 = member.1 then
    declared.mapM fun field =>
      ((members.lookup field.1).filter field.2).map fun value => (field.1, value)
  else none

/-- A null target counts as absent, and exactly one is present. -/
def validateQuotaTarget (target : JsonMembers) : Option JsonMembers :=
  let nullable (valid : Json → Bool) (value : Json) := value = .null || valid value
  let fields := [("rpm_limit", nullable (validInteger 1 10000000)),
    ("concurrency_limit", nullable (validInteger 1 100000))]
  if (target.all fun member => fields.any fun field =>
      field.1 = member.1 && field.2 member.2) then
    match ["rpm_limit", "concurrency_limit"].filterMap fun name =>
        ((target.lookup name).filter (· ≠ .null)).map fun value => (name, value) with
    | [member] => some [member]
    | _ => none
  else none

/-- `validate_entitlement_target`. -/
def validateEntitlementTarget (changeType : Json) (target : JsonMembers) :
    Option JsonMembers :=
  if changeType = .string "quota_change" then validateQuotaTarget target
  else validateMembers [("plan", validText 1 64)] target

def validateEntitlementArguments (arguments : JsonMembers) : Option JsonMembers := do
  let anyObject : Json → Bool
    | .object members => members ≠ []
    | _ => false
  let changeType (value : Json) : Bool :=
    value = .string "quota_change" || value = .string "plan_change"
  let validated ← validateMembers
    [("subscription_id", validText 1 128), ("change_type", changeType),
      ("target", anyObject), ("reason", validText 5 2000)] arguments
  match JsonMembers.value validated "target" with
  | .object target =>
      let target ← validateEntitlementTarget (JsonMembers.value validated "change_type") target
      some (validated.map fun member =>
        if member.1 = "target" then (member.1, .object target) else member)
  | _ => none

/-- `proposal_schema.model_validate(...).model_dump(mode="json")`. -/
def validateArguments : ActionType → JsonMembers → Option JsonMembers
  | .refund => validateMembers
      [("billing_record_id", validText 1 64), ("refund_reason", validText 5 2000)]
  | .apiKeyRevocation => validateMembers
      [("api_key_id", validText 1 128), ("reason", validText 5 2000)]
  | .entitlementChange => validateEntitlementArguments

/-- The bounds of the quota targets. -/
def quotaBounds : List (String × Int) :=
  [("rpm_limit", 10000000), ("concurrency_limit", 100000)]

/-- A target that names one quota is valid just within the bounds of that quota. -/
theorem validateQuotaTarget_single {name : String} {most limit : Int}
    (bounded : (name, most) ∈ quotaBounds) :
    validateQuotaTarget [(name, .integer limit)] =
      if 1 ≤ limit ∧ limit ≤ most then some [(name, .integer limit)] else none := by
  have present : (["rpm_limit", "concurrency_limit"].filterMap fun field =>
      ((List.lookup field [(name, Json.integer limit)]).filter (· ≠ .null)).map
        fun value => (field, value)) = [(name, .integer limit)] := by
    rcases List.mem_cons.mp bounded with rpm | later
    · cases rpm
      rfl
    · cases List.mem_singleton.mp later
      rfl
  rw [validateQuotaTarget]
  dsimp only
  rw [present]
  rcases List.mem_cons.mp bounded with rpm | later
  · cases rpm
    simp [validInteger]
  · cases List.mem_singleton.mp later
    simp [validInteger]
/-! ## Stops -/

/-- A denial ends in an ineligible result, and an exception leaves the function. -/
inductive AssemblyStop
  | denied (errorCode : String)
  | typeError
  | attributeError
  | stopIteration
deriving DecidableEq

def denyWhen (condition : Prop) [Decidable condition] (errorCode : String) :
    Except AssemblyStop Unit :=
  refuseWhen condition (.denied errorCode)

def orDeny {α : Type} (value : Option α) (errorCode : String) : Except AssemblyStop α :=
  match value with
  | some present => .ok present
  | none => .error (.denied errorCode)

structure ProposalEligibility where
  eligible : Bool
  actionType : Option ActionType
  resourceType : Option String := none
  resourceId : Option String := none
  resourceVersion : Option Int := none
  trustedArguments : JsonMembers := []
  observationBinding : List JsonMembers := []
  citationBindingIds : List String := []
  errorCode : Option String := none

def deniedEligibility (actionType : Option ActionType) (errorCode : String) :
    ProposalEligibility where
  eligible := false
  actionType
  errorCode := some errorCode

section

variable (contracts : AssemblerContracts)

/-! ## Observations -/

/-- The observations that fit a binding of the ledger. -/
def boundObservations (ledger : ActionObligationLedger) (binding : ObligationBinding)
    (observations : List JsonMembers) : List JsonMembers :=
  observations.filter fun item =>
    (item.value "run_id").pyEq (.string ledger.runId) &&
      (item.value "tool_name").pyEq (.string binding.toolName) &&
      ((item.value "observation_id").pyEq (.string binding.observationId) ||
        !(item.value "observation_id").truthy &&
          (item.value "tool_call_id").pyEq (.string binding.observationId))

/-- The only observation that fits. -/
def boundObservation (ledger : ActionObligationLedger) (binding : ObligationBinding)
    (observations : List JsonMembers) : Option JsonMembers :=
  match boundObservations ledger binding observations with
  | [observation] => some observation
  | _ => none

def payloadDigest (payload : Json) : String :=
  Sha256.hexDigest (JsonText.utf8 (JsonText.encode payload))

/-- `text.replace("Z", "+00:00")`. -/
def spellOffset (text : String) : String :=
  String.ofList (text.toList.flatMap fun character =>
    if character = 'Z' then "+00:00".toList else [character])

/-- A text without an offset reads UTC. -/
def parseTime (value : Json) : Option DateTime :=
  match value with
  | .string text => (contracts.fromIsoformat (spellOffset text)).map fun time =>
      if time.offset = none then { time with offset := some ⟨0, UtcOffset.utc_bounded⟩ }
      else time
  | _ => none

/-- The tenant, the customer and the scope hash an observation names. -/
def observationScope (observation : JsonMembers) : String × String × String :=
  let scope := match observation.value "trusted_scope" with
    | .object members => members
    | _ => observation
  let text (key : String) := match scope.lookup key with
    | some value => contracts.str value
    | none => ""
  let tenantId := text "tenant_id"
  let customerId := text "customer_id"
  let scopeHash := text "scope_hash"
  if scopeHash = "" ∧ tenantId ≠ "" ∧ customerId ≠ "" then
    (tenantId, customerId, payloadDigest (.object
      [("customer_id", .string customerId), ("tenant_id", .string tenantId)]))
  else (tenantId, customerId, scopeHash)

def sourceIds (observation : JsonMembers) : List String :=
  match observation.value "source_refs" with
  | .array refs => refs.filterMap fun item => match item with
      | .object members =>
          if (JsonMembers.value members "source_id").truthy then
            some (contracts.str (JsonMembers.value members "source_id"))
          else none
      | _ => none
  | _ => []

/-- The hash an observation carries, or that of the observation when it carries none. -/
def observedHash (observation : JsonMembers) : String :=
  if (observation.value "observation_content_hash").truthy then
    contracts.str (observation.value "observation_content_hash")
  else if (observation.value "content_hash").truthy then
    contracts.str (observation.value "content_hash")
  else payloadDigest (.object observation)

/-- Microseconds since the start of the calendar, at UTC. -/
def DateTime.universal (time : DateTime) : Int :=
  time.reading.microseconds - (time.offset.map UtcOffset.microseconds).getD 0

/-- `left < right`, between times that both have an offset or both have none. -/
def earlier (left right : DateTime) : Except AssemblyStop Bool :=
  if left.offset.isSome = right.offset.isSome then
    .ok (DateTime.universal left < DateTime.universal right)
  else .error .typeError

/-- The observation is fresh and stays so until `now` at least. -/
def isFresh (now : DateTime) (observation : JsonMembers) (binding : ObligationBinding) :
    Except AssemblyStop Bool := do
  if (observation.value "freshness_status").pyEq (.string "fresh") = false ∨
      binding.freshnessStatus ≠ "fresh" then
    return false
  match parseTime contracts (observation.value "fresh_until") with
  | none => return false
  | some observed => do
      if ← earlier observed now then return false
      match binding.freshUntil with
      | none => return false
      | some bound => return !(← earlier bound now)

/-! ## The context of a candidate -/

structure EligibilityContext where
  actionSpec : ActionSpec
  admission : ActionAdmission
  ledger : ActionObligationLedger
  effectiveNow : DateTime
  claimCitations : List String

/-- `payload or {}`. -/
def payloadOrEmpty (payload : Option Json) : Json :=
  (payload.filter Json.truthy).getD (.object [])

def validateCandidateContext (spec : ActionSpec) (candidate : CandidateResponse)
    (admissionPayload ledgerPayload : Option Json) (now : DateTime) :
    Except AssemblyStop EligibilityContext := do
  let admission ← orDeny (contracts.validateAdmission (payloadOrEmpty admissionPayload))
    "proposal_action_admission_missing"
  let ledger ← orDeny (contracts.validateLedger (payloadOrEmpty ledgerPayload))
    "proposal_obligation_ledger_missing"
  denyWhen (admission.status ≠ .admitted ∨ admission.actionType ≠ some spec.actionType ∨
      ledger.actionType ≠ spec.actionType ∨ ledger.runId = "")
    "proposal_action_binding_mismatch"
  denyWhen (ledger.allObligationsSatisfied = false)
    (if ledger.obligations.any fun entry => entry.status = .stale then
      "proposal_resource_observation_stale"
    else "proposal_obligation_not_satisfied")
  let targets := spec.proposalFields.map ProposalFieldBinding.targetField
  let names := candidate.proposedArguments.map Prod.fst
  denyWhen (¬(names ⊆ targets ∧ targets ⊆ names)) "proposal_argument_contract_mismatch"
  let validated ← orDeny (validateArguments spec.actionType candidate.proposedArguments)
    "proposal_argument_schema_invalid"
  denyWhen ((Json.object validated).pyEq (.object candidate.proposedArguments) = false)
    "proposal_argument_not_canonical"
  let claimCitations := (candidate.materialClaims.flatMap MaterialClaim.citationBindingIds).dedup
  let claimSources := candidate.materialClaims.flatMap MaterialClaim.observationSourceIds
  let knowledgeCitations :=
    (ledger.bindingsOf (· = .knowledge)).flatMap ObligationBinding.citationBindingIds
  let businessSources := (ledger.bindingsOf (· ≠ .knowledge)).flatMap ObligationBinding.sourceIds
  denyWhen (knowledgeCitations = []) "proposal_knowledge_evidence_missing"
  denyWhen (claimCitations = [] ∨ ¬claimCitations ⊆ knowledgeCitations)
    "proposal_claim_citation_missing"
  denyWhen (claimSources = [] ∨ ¬claimSources ⊆ businessSources)
    "proposal_business_source_binding_missing"
  .ok { actionSpec := spec, admission, ledger, effectiveNow := now, claimCitations }

/-! ## The bound observations -/

structure BoundResource where
  resourceType : String
  resourceId : String
  resourceVersion : Int
deriving DecidableEq

def checkFreshness (context : EligibilityContext) (obligation : EvidenceObligationSpec)
    (binding : ObligationBinding) (observation : JsonMembers) : Except AssemblyStop Unit :=
  if obligation.requireFreshness then do
    let fresh ← isFresh contracts context.effectiveNow observation binding
    denyWhen (fresh = false) "proposal_resource_observation_stale"
  else .ok ()

/-- The checks on the observation that an obligation is bound to. -/
def checkObservation (context : EligibilityContext) (obligation : EvidenceObligationSpec)
    (binding : ObligationBinding) (observation data : JsonMembers) :
    Except AssemblyStop Unit := do
  let scope := observationScope contracts observation
  let admission := context.admission
  denyWhen ((observation.value "status").pyEq (.string "ok") = false ∨
      scope ≠ (admission.tenantId, admission.customerId, admission.scopeHash) ∨
      binding.tenantId ≠ admission.tenantId ∨ binding.customerId ≠ admission.customerId ∨
      binding.scopeHash ≠ admission.scopeHash)
    "proposal_observation_scope_mismatch"
  denyWhen (observedHash contracts observation ≠ binding.observationContentHash)
    "proposal_observation_content_mismatch"
  denyWhen (binding.sourceIds = [] ∨ ¬binding.sourceIds ⊆ sourceIds contracts observation)
    "proposal_observation_source_mismatch"
  denyWhen ((obligation.requiredDataFields.any fun field => data.value field = .null) ∨
      obligation.requiredTruthyDataFields.any fun field => !(data.value field).truthy)
    "proposal_observation_data_incomplete"
  denyWhen (obligation.allowedResourceStatuses ≠ [] ∧
      contracts.str (data.value "status") ∉ obligation.allowedResourceStatuses)
    "proposal_resource_status_conflict"
  checkFreshness contracts context obligation binding observation
  match obligation.resourceRefArgument with
  | none => .ok ()
  | some argument =>
      let text (members : JsonMembers) (key : String) := match members.lookup key with
        | some value => contracts.str value
        | none => ""
      let admitted := text admission.extractedArguments argument
      let equivalent := [text data (obligation.observedResourceField.getD ""),
        text data "fingerprint"].filter (· ≠ "")
      denyWhen (admitted = "" ∨
          contracts.casefold admitted ∉ equivalent.map contracts.casefold)
        "proposal_resource_observation_mismatch"

/-- The resource an observation identifies. -/
def boundResource (obligation : EvidenceObligationSpec) (binding : ObligationBinding)
    (data : JsonMembers) : Except AssemblyStop (Option BoundResource) :=
  match obligation.kind, obligation.observedResourceField with
  | .knowledge, _ | _, none => .ok none
  | _, some field => do
      let resourceVersion ← orDeny (contracts.int (binding.resourceVersion.getD ""))
        "proposal_resource_version_missing"
      .ok (some
        { resourceType := field
          resourceId := if (data.value field).truthy then contracts.str (data.value field)
            else ""
          resourceVersion })

def projectedBinding (context : EligibilityContext) (obligation : EvidenceObligationSpec)
    (binding : ObligationBinding) (observation data : JsonMembers)
    (resource : Option BoundResource) : JsonMembers :=
  [("tool_name", .string binding.toolName),
    ("tool_call_id", observation.value "tool_call_id"),
    ("invocation_id", .string binding.invocationId),
    ("observation_id", .string binding.observationId),
    ("observation_content_hash", .string binding.observationContentHash),
    ("turn_group_id", observation.value "turn_group_id"),
    ("status", .string "ok"),
    ("observed_at", observation.value "observed_at"),
    ("source_refs", (observation.lookup "source_refs").getD (.array []))] ++
  if obligation.kind = .knowledge then
    [("index_version", data.value "index_version"),
      ("citation_binding_ids",
        .array ((context.claimCitations.insertionSort (· ≤ ·)).map .string))]
  else match resource with
    | none => []
    | some resource =>
        [("resource_field", .string resource.resourceType),
          ("resource_id", .string resource.resourceId),
          ("resource_version", .integer resource.resourceVersion)]

def validateObservationBinding (context : EligibilityContext)
    (observations : List JsonMembers) (obligation : EvidenceObligationSpec) :
    Except AssemblyStop (JsonMembers × Option BoundResource) := do
  let binding ← orDeny ((context.ledger.entry? obligation.obligationId).bind
    ObligationEntry.binding) "proposal_observation_binding_missing"
  let observation ← orDeny (boundObservation context.ledger binding observations)
    "proposal_resource_observation_mismatch"
  match observation.value "data" with
  | .object data => do
      checkObservation contracts context obligation binding observation data
      let resource ← boundResource contracts obligation binding data
      .ok (projectedBinding context obligation binding observation data resource, resource)
  | _ => .error (.denied "proposal_observation_data_missing")

/-- The bindings of some obligations, and the first resource among them. -/
def collectBindings (context : EligibilityContext) (observations : List JsonMembers) :
    List EvidenceObligationSpec → Except AssemblyStop (List JsonMembers × Option BoundResource)
  | [] => .ok ([], none)
  | obligation :: rest => do
      let (value, resource) ← validateObservationBinding contracts context observations obligation
      let (values, later) ← collectBindings context observations rest
      .ok (value :: values, resource.orElse fun _ => later)

def validateObservationBindings (context : EligibilityContext)
    (observations : List JsonMembers) :
    Except AssemblyStop (List JsonMembers × BoundResource) := do
  let (values, resource) ← collectBindings contracts context observations
    context.actionSpec.obligations
  let resource ← orDeny (resource.filter fun resource => resource.resourceId ≠ "")
    "proposal_resource_identity_missing"
  .ok (values, resource)

/-! ## The arguments -/

/-- What an argument has to equal. -/
def expectedValue (context : EligibilityContext) (observations : List JsonMembers)
    (field : ProposalFieldBinding) : Except AssemblyStop Json :=
  match field.source with
  | .admission => .ok (context.admission.extractedArguments.value field.sourcePath)
  | .requestReason => .ok (Json.optionalText context.admission.requestReason)
  | .observation obligationId =>
      match context.ledger.entry? obligationId with
      | none => .error .stopIteration
      | some entry => do
          let binding ← orDeny entry.binding "proposal_observation_binding_missing"
          match boundObservation context.ledger binding observations with
          | none => .ok .null
          | some observation => match observation.lookup "data" with
              | none => .ok .null
              | some (.object data) => .ok (JsonMembers.value data field.sourcePath)
              | some _ => .error .attributeError

def checkProposalFields (candidate : CandidateResponse) (context : EligibilityContext)
    (observations : List JsonMembers) : List ProposalFieldBinding → Except AssemblyStop Unit
  | [] => .ok ()
  | field :: rest => do
      let expected ← expectedValue context observations field
      denyWhen ((candidate.proposedArguments.value field.targetField).pyEq expected = false)
        ("proposal_field_binding_mismatch:" ++ field.targetField)
      checkProposalFields candidate context observations rest

def assembleEligibility (spec : ActionSpec) (candidate : CandidateResponse)
    (admissionPayload ledgerPayload : Option Json) (observations : List JsonMembers)
    (now : DateTime) : Except AssemblyStop ProposalEligibility := do
  let context ← validateCandidateContext contracts spec candidate admissionPayload
    ledgerPayload now
  let (values, resource) ← validateObservationBindings contracts context observations
  checkProposalFields candidate context observations spec.proposalFields
  .ok
    { eligible := true
      actionType := some spec.actionType
      resourceType := some resource.resourceType
      resourceId := some resource.resourceId
      resourceVersion := some resource.resourceVersion
      trustedArguments := candidate.proposedArguments
      observationBinding := values
      citationBindingIds := context.claimCitations.insertionSort (· ≤ ·) }

def evaluateActionCandidateEligibility (candidate : CandidateResponse)
    (admissionPayload ledgerPayload : Option Json) (observations : List JsonMembers)
    (now : DateTime) : Except AssemblyStop ProposalEligibility :=
  match getActionSpecByProposal candidate.action with
  | none => .ok (deniedEligibility none "not_proposal")
  | some spec =>
      match assembleEligibility contracts spec candidate admissionPayload ledgerPayload
          observations now with
      | .error (.denied errorCode) => .ok (deniedEligibility (some spec.actionType) errorCode)
      | outcome => outcome

/-! ## What an eligible candidate has passed -/

theorem denyWhen_eq_ok_iff {condition : Prop} [Decidable condition] {errorCode : String}
    {result : Unit} : denyWhen condition errorCode = .ok result ↔ ¬condition :=
  refuseWhen_eq_ok_iff

theorem orDeny_eq_ok_iff {α : Type} {value : Option α} {errorCode : String} {result : α} :
    orDeny value errorCode = .ok result ↔ value = some result := by
  cases value <;> simp [orDeny]

structure ContextFor (spec : ActionSpec) (candidate : CandidateResponse)
    (admissionPayload ledgerPayload : Option Json) (now : DateTime)
    (context : EligibilityContext) : Prop where
  actionSpec : context.actionSpec = spec
  admission : contracts.validateAdmission (payloadOrEmpty admissionPayload) =
    some context.admission
  ledger : contracts.validateLedger (payloadOrEmpty ledgerPayload) = some context.ledger
  effectiveNow : context.effectiveNow = now
  names : ∀ name, name ∈ candidate.proposedArguments.map Prod.fst ↔
    name ∈ spec.proposalFields.map ProposalFieldBinding.targetField

variable {context : EligibilityContext} {admissionPayload ledgerPayload : Option Json}
  {candidate : CandidateResponse} {now : DateTime}

theorem validateCandidateContext_ok {spec : ActionSpec}
    (validated : validateCandidateContext contracts spec candidate admissionPayload
      ledgerPayload now = .ok context) :
    ContextFor contracts spec candidate admissionPayload ledgerPayload now context := by
  simp only [validateCandidateContext, bind_eq_ok_iff, orDeny_eq_ok_iff,
    denyWhen_eq_ok_iff, Except.ok.injEq] at validated
  rcases validated with ⟨admission, admitted, ledger, read, _, _, _, _, _, names, _, _, _, _,
    _, _, _, _, _, _, rfl⟩
  have both := not_not.mp names
  exact ⟨rfl, admitted, read, rfl, fun name => ⟨fun member => both.1 member,
    fun member => both.2 member⟩⟩

/-- A candidate that is eligible has a specification, and it has passed every check. -/
theorem evaluateActionCandidateEligibility_ok {observations : List JsonMembers}
    {result : ProposalEligibility}
    (evaluated : evaluateActionCandidateEligibility contracts candidate admissionPayload
      ledgerPayload observations now = .ok result) (eligible : result.eligible = true) :
    ∃ spec, getActionSpecByProposal candidate.action = some spec ∧
      assembleEligibility contracts spec candidate admissionPayload ledgerPayload observations
        now = .ok result := by
  unfold evaluateActionCandidateEligibility at evaluated
  split at evaluated
  · cases evaluated
    simp [deniedEligibility] at eligible
  · rename_i spec found
    refine ⟨spec, found, ?_⟩
    split at evaluated
    · cases evaluated
      simp [deniedEligibility] at eligible
    · exact evaluated

theorem assembleEligibility_ok {spec : ActionSpec} {observations : List JsonMembers}
    {result : ProposalEligibility}
    (assembled : assembleEligibility contracts spec candidate admissionPayload ledgerPayload
      observations now = .ok result) :
    ∃ context values resource,
      ContextFor contracts spec candidate admissionPayload ledgerPayload now context ∧
      validateObservationBindings contracts context observations = .ok (values, resource) ∧
      checkProposalFields candidate context observations spec.proposalFields = .ok () ∧
      result.resourceType = some resource.resourceType ∧
      result.resourceId = some resource.resourceId ∧
      result.resourceVersion = some resource.resourceVersion ∧
      result.trustedArguments = candidate.proposedArguments := by
  simp only [assembleEligibility, bind_eq_ok_iff, Except.ok.injEq] at assembled
  rcases assembled with ⟨context, validated, ⟨values, resource⟩, bound, _, checked, rfl⟩
  exact ⟨context, values, resource, validateCandidateContext_ok contracts validated, bound,
    checked, rfl, rfl, rfl, rfl⟩

/-! ## Nothing depends on the candidate -/

/-- Two contexts that differ in the citations of their candidates only. -/
structure SameAuthority (left right : EligibilityContext) : Prop where
  actionSpec : left.actionSpec = right.actionSpec
  admission : left.admission = right.admission
  ledger : left.ledger = right.ledger
  effectiveNow : left.effectiveNow = right.effectiveNow

theorem ContextFor.sameAuthority {spec : ActionSpec} {left right : CandidateResponse}
    {leftContext rightContext : EligibilityContext}
    (leftFor : ContextFor contracts spec left admissionPayload ledgerPayload now leftContext)
    (rightFor : ContextFor contracts spec right admissionPayload ledgerPayload now
      rightContext) : SameAuthority leftContext rightContext where
  actionSpec := leftFor.actionSpec.trans rightFor.actionSpec.symm
  admission := Option.some.inj (leftFor.admission.symm.trans rightFor.admission)
  ledger := Option.some.inj (leftFor.ledger.symm.trans rightFor.ledger)
  effectiveNow := leftFor.effectiveNow.trans rightFor.effectiveNow.symm

variable {contracts} {left right : EligibilityContext} {observations : List JsonMembers}

theorem SameAuthority.expectedValue (same : SameAuthority left right)
    (field : ProposalFieldBinding) :
    expectedValue left observations field = expectedValue right observations field := by
  unfold SupportGuard.expectedValue
  rw [same.admission, same.ledger]

variable {obligation : EvidenceObligationSpec}

theorem validateObservationBinding_ok {value : JsonMembers} {resource : Option BoundResource}
    (validated : validateObservationBinding contracts context observations obligation =
      .ok (value, resource)) :
    ∃ entry binding observation data,
      context.ledger.entry? obligation.obligationId = some entry ∧
      entry.binding = some binding ∧
      boundObservation context.ledger binding observations = some observation ∧
      observation.value "data" = .object data ∧
      checkObservation contracts context obligation binding observation data = .ok () ∧
      boundResource contracts obligation binding data = .ok resource := by
  simp only [validateObservationBinding, bind_eq_ok_iff, orDeny_eq_ok_iff,
    Option.bind_eq_some_iff] at validated
  rcases validated with ⟨binding, ⟨entry, found, bound⟩, observation, fits, rest⟩
  split at rest
  · rename_i data equal
    simp only [bind_eq_ok_iff, Except.ok.injEq, Prod.mk.injEq] at rest
    rcases rest with ⟨_, checked, _, identified, _, rfl⟩
    exact ⟨entry, binding, observation, data, found, bound, fits, equal, checked, identified⟩
  · cases rest

theorem SameAuthority.resource (same : SameAuthority left right)
    {leftValue rightValue : JsonMembers} {leftResource rightResource : Option BoundResource}
    (leftValidated : validateObservationBinding contracts left observations obligation =
      .ok (leftValue, leftResource))
    (rightValidated : validateObservationBinding contracts right observations obligation =
      .ok (rightValue, rightResource)) : leftResource = rightResource := by
  rcases validateObservationBinding_ok leftValidated with
    ⟨entry, binding, observation, data, found, bound, fits, equal, _, identified⟩
  rcases validateObservationBinding_ok rightValidated with
    ⟨entry', binding', observation', data', found', bound', fits', equal', _, identified'⟩
  rw [same.ledger, found', Option.some.injEq] at found
  subst found
  rw [bound, Option.some.injEq] at bound'
  subst bound'
  rw [same.ledger, fits', Option.some.injEq] at fits
  subst fits
  rw [equal, Json.object.injEq] at equal'
  subst equal'
  rw [identified, Except.ok.injEq] at identified'
  exact identified'

theorem SameAuthority.collectBindings (same : SameAuthority left right) :
    ∀ {obligations : List EvidenceObligationSpec} {leftResult rightResult},
      collectBindings contracts left observations obligations = .ok leftResult →
      collectBindings contracts right observations obligations = .ok rightResult →
      leftResult.2 = rightResult.2
  | [], _, _, leftCollected, rightCollected => by
      cases leftCollected
      cases rightCollected
      rfl
  | obligation :: rest, _, _, leftCollected, rightCollected => by
      simp only [SupportGuard.collectBindings, bind_eq_ok_iff, Except.ok.injEq]
        at leftCollected rightCollected
      rcases leftCollected with ⟨⟨_, _⟩, leftFirst, ⟨_, _⟩, leftRest, rfl⟩
      rcases rightCollected with ⟨⟨_, _⟩, rightFirst, ⟨_, _⟩, rightRest, rfl⟩
      have first := same.resource leftFirst rightFirst
      have later := SameAuthority.collectBindings same leftRest rightRest
      simp only at later
      subst first
      subst later
      rfl

theorem SameAuthority.validateObservationBindings (same : SameAuthority left right)
    {leftValues rightValues : List JsonMembers} {leftResource rightResource : BoundResource}
    (leftValidated : validateObservationBindings contracts left observations =
      .ok (leftValues, leftResource))
    (rightValidated : validateObservationBindings contracts right observations =
      .ok (rightValues, rightResource)) : leftResource = rightResource := by
  simp only [SupportGuard.validateObservationBindings, bind_eq_ok_iff, orDeny_eq_ok_iff,
    Except.ok.injEq, Prod.mk.injEq] at leftValidated rightValidated
  rcases leftValidated with ⟨⟨_, _⟩, leftCollected, _, leftFound, _, rfl⟩
  rcases rightValidated with ⟨⟨_, _⟩, rightCollected, _, rightFound, _, rfl⟩
  rw [same.actionSpec] at leftCollected
  have equal := same.collectBindings leftCollected rightCollected
  simp only at equal leftFound rightFound
  rw [equal, rightFound] at leftFound
  exact (Option.some.inj leftFound).symm

/-! ## Trusted arguments -/

/-- The observation says that it is fresh until `now` at least. -/
def FreshAt (contracts : AssemblerContracts) (now : DateTime) (observation : JsonMembers) :
    Prop :=
  observation.value "freshness_status" = .string "fresh" ∧
    ∃ freshUntil, parseTime contracts (observation.value "fresh_until") = some freshUntil ∧
      DateTime.universal now ≤ DateTime.universal freshUntil

theorem earlier_eq_false {left right : DateTime} (compared : earlier left right = .ok false) :
    DateTime.universal right ≤ DateTime.universal left := by
  unfold earlier at compared
  split at compared
  · simpa using compared
  · cases compared

theorem isFresh_freshAt {observation : JsonMembers} {binding : ObligationBinding}
    (fresh : isFresh contracts now observation binding = .ok true) :
    FreshAt contracts now observation := by
  unfold isFresh at fresh
  split at fresh
  · cases fresh
  · rename_i named
    rw [not_or, Bool.not_eq_false] at named
    refine ⟨Json.pyEq_string named.1, ?_⟩
    split at fresh
    · cases fresh
    · rename_i freshUntil parsed
      rcases bind_eq_ok_iff.mp fresh with ⟨late, compared, rest⟩
      cases late with
      | false => exact ⟨freshUntil, parsed, earlier_eq_false compared⟩
      | true => cases rest

/-- What `checkObservation` leaves to rely on. -/
theorem checkObservation_ok {binding : ObligationBinding} {observation data : JsonMembers}
    (checked : checkObservation contracts context obligation binding observation data =
      .ok ()) :
    (observationScope contracts observation).1 = context.admission.tenantId ∧
      (observationScope contracts observation).2.1 = context.admission.customerId ∧
      observedHash contracts observation = binding.observationContentHash ∧
      (obligation.requireFreshness = true →
        FreshAt contracts context.effectiveNow observation) := by
  simp only [checkObservation, bind_eq_ok_iff, denyWhen_eq_ok_iff] at checked
  rcases checked with ⟨_, inScope, _, hashed, _, _, _, _, _, _, _, freshness, _⟩
  simp only [not_or, not_not] at inScope hashed
  refine ⟨by rw [inScope.2.1], by rw [inScope.2.1], hashed, ?_⟩
  intro required
  simp only [checkFreshness, required, ↓reduceIte, bind_eq_ok_iff, denyWhen_eq_ok_iff]
    at freshness
  rcases freshness with ⟨fresh, decided, kept⟩
  rw [Bool.not_eq_false] at kept
  subst kept
  exact isFresh_freshAt decided

/-- Where the value of an argument comes from. An observed value is the declared field of
the only observation that the ledger's binding fits. -/
def TrustedValue (contracts : AssemblerContracts) (spec : ActionSpec)
    (admission : ActionAdmission) (ledger : ActionObligationLedger)
    (observations : List JsonMembers) (now : DateTime) (field : ProposalFieldBinding)
    (value : Json) : Prop :=
  match field.source with
  | .admission => value.pyEq (admission.extractedArguments.value field.sourcePath) = true
  | .requestReason => value.pyEq (Json.optionalText admission.requestReason) = true
  | .observation obligationId =>
      ∃ obligation ∈ spec.obligations, ∃ entry binding observation, ∃ data : JsonMembers,
        obligation.obligationId = obligationId ∧
        ledger.entry? obligationId = some entry ∧ entry.binding = some binding ∧
        boundObservations ledger binding observations = [observation] ∧
        (observationScope contracts observation).1 = admission.tenantId ∧
        (observationScope contracts observation).2.1 = admission.customerId ∧
        observedHash contracts observation = binding.observationContentHash ∧
        (obligation.requireFreshness = true → FreshAt contracts now observation) ∧
        observation.value "data" = .object data ∧
        value.pyEq (data.value field.sourcePath) = true

theorem boundObservation_eq_some {ledger : ActionObligationLedger}
    {binding : ObligationBinding} {observation : JsonMembers}
    (bound : boundObservation ledger binding observations = some observation) :
    boundObservations ledger binding observations = [observation] := by
  unfold boundObservation at bound
  split at bound
  · rename_i only
    rw [only, Option.some.inj bound]
  · cases bound

theorem collectBindings_mem :
    ∀ {obligations : List EvidenceObligationSpec} {result},
      collectBindings contracts context observations obligations = .ok result →
      ∀ obligation ∈ obligations, ∃ value resource,
        validateObservationBinding contracts context observations obligation =
          .ok (value, resource)
  | [], _, _, _, member => absurd member List.not_mem_nil
  | first :: rest, _, collected, obligation, member => by
      simp only [collectBindings, bind_eq_ok_iff, Except.ok.injEq] at collected
      rcases collected with ⟨⟨value, resource⟩, validated, _, remaining, _⟩
      rcases List.mem_cons.mp member with rfl | later
      · exact ⟨value, resource, validated⟩
      · exact collectBindings_mem remaining obligation later

theorem checkProposalFields_ok :
    ∀ {fields : List ProposalFieldBinding},
      checkProposalFields candidate context observations fields = .ok () →
      ∀ field ∈ fields, ∃ expected, expectedValue context observations field = .ok expected ∧
        (candidate.proposedArguments.value field.targetField).pyEq expected = true
  | [], _, _, member => absurd member List.not_mem_nil
  | first :: rest, checked, field, member => by
      simp only [checkProposalFields, bind_eq_ok_iff, denyWhen_eq_ok_iff,
        Bool.not_eq_false] at checked
      rcases checked with ⟨expected, found, _, equal, remaining⟩
      rcases List.mem_cons.mp member with rfl | later
      · exact ⟨expected, found, equal⟩
      · exact checkProposalFields_ok remaining field later

/-- What an argument has to equal, once the bindings are validated. -/
theorem expectedValue_trusted {spec : ActionSpec} {values : List JsonMembers}
    {resource : BoundResource} {field : ProposalFieldBinding} {expected value : Json}
    (ofSpec : context.actionSpec = spec)
    (validated : validateObservationBindings contracts context observations =
      .ok (values, resource)) (member : field ∈ spec.proposalFields)
    (found : expectedValue context observations field = .ok expected)
    (equal : value.pyEq expected = true) :
    TrustedValue contracts spec context.admission context.ledger observations
      context.effectiveNow field value := by
  unfold TrustedValue
  unfold expectedValue at found
  split at found
  · rename_i source
    cases found
    exact equal
  · cases found
    exact equal
  · rename_i obligationId source
    have known := spec.knownObligations field member obligationId (by rw [source]; rfl)
    rcases List.mem_map.mp known with ⟨obligation, declared, same⟩
    simp only [validateObservationBindings, bind_eq_ok_iff] at validated
    rcases validated with ⟨collection, collected, _⟩
    rw [ofSpec] at collected
    rcases collectBindings_mem collected obligation declared with ⟨_, _, one⟩
    rcases validateObservationBinding_ok one with
      ⟨entry, binding, observation, data, entered, bound, fits, equalData, checked, _⟩
    rw [same] at entered
    rcases checkObservation_ok checked with ⟨tenant, customer, hashed, fresh⟩
    refine ⟨obligation, declared, entry, binding, observation, data, same, entered, bound,
      boundObservation_eq_some fits, tenant, customer, hashed, fresh, equalData, ?_⟩
    have lookedUp : observation.lookup "data" = some (.object data) := by
      cases present : observation.lookup "data" with
      | none => simp [JsonMembers.value, present] at equalData
      | some other => simpa [JsonMembers.value, present] using equalData
    simp only [entered, bind_eq_ok_iff, orDeny_eq_ok_iff, bound, Option.some.injEq] at found
    rcases found with ⟨_, rfl, found⟩
    simp only [fits, lookedUp, Except.ok.injEq] at found
    rw [found]
    exact equal

end

/-! ## The arguments are not the model's -/

theorem value_of_mem {members : JsonMembers} {key : String} {value : Json}
    (unique : (members.map Prod.fst).Nodup) (member : (key, value) ∈ members) :
    members.value key = value := by
  induction members with
  | nil => cases member
  | cons head tail induction =>
      rcases head with ⟨name, first⟩
      rw [List.map_cons, List.nodup_cons] at unique
      rcases List.mem_cons.mp member with equal | later
      · cases equal
        simp [JsonMembers.value]
      · have different : key ≠ name := by
          intro equal
          subst equal
          exact unique.1 (List.mem_map.mpr ⟨(key, value), later, rfl⟩)
        have found := induction unique.2 later
        simp only [JsonMembers.value, List.lookup_cons, beq_false_of_ne different] at found ⊢
        exact found

/-- Whatever two models draft for one action, eligible drafts have the same arguments and
name the same resource, and each argument comes from the admission or from the observation
that the ledger binds. -/
theorem trustedArguments_not_authored (contracts : AssemblerContracts)
    (admissionPayload ledgerPayload : Option Json) (observations : List JsonMembers)
    (now : DateTime) (left right : CandidateResponse) (same : left.action = right.action)
    {leftResult rightResult : ProposalEligibility}
    (leftEvaluated : evaluateActionCandidateEligibility contracts left admissionPayload
      ledgerPayload observations now = .ok leftResult)
    (rightEvaluated : evaluateActionCandidateEligibility contracts right admissionPayload
      ledgerPayload observations now = .ok rightResult)
    (leftEligible : leftResult.eligible = true) (rightEligible : rightResult.eligible = true) :
    (Json.object leftResult.trustedArguments).pyEq (.object rightResult.trustedArguments) =
        true ∧
      leftResult.resourceType = rightResult.resourceType ∧
      leftResult.resourceId = rightResult.resourceId ∧
      leftResult.resourceVersion = rightResult.resourceVersion ∧
      ∃ spec admission ledger, getActionSpecByProposal left.action = some spec ∧
        contracts.validateAdmission (payloadOrEmpty admissionPayload) = some admission ∧
        contracts.validateLedger (payloadOrEmpty ledgerPayload) = some ledger ∧
        ∀ key value, (key, value) ∈ leftResult.trustedArguments →
          ∃ field ∈ spec.proposalFields, field.targetField = key ∧
            TrustedValue contracts spec admission ledger observations now field value := by
  rcases evaluateActionCandidateEligibility_ok contracts leftEvaluated leftEligible with
    ⟨spec, leftSpec, leftAssembled⟩
  rcases evaluateActionCandidateEligibility_ok contracts rightEvaluated rightEligible with
    ⟨rightSpec, rightFound, rightAssembled⟩
  rw [← same, leftSpec, Option.some.injEq] at rightFound
  subst rightFound
  rcases assembleEligibility_ok contracts leftAssembled with
    ⟨leftContext, _, leftResource, leftFor, leftBound, leftChecked, leftType, leftId,
      leftVersion, leftArguments⟩
  rcases assembleEligibility_ok contracts rightAssembled with
    ⟨rightContext, _, rightResource, rightFor, rightBound, rightChecked, rightType, rightId,
      rightVersion, rightArguments⟩
  have authority := ContextFor.sameAuthority contracts leftFor rightFor
  have resource := authority.validateObservationBindings leftBound rightBound
  subst resource
  refine ⟨?_, leftType.trans rightType.symm, leftId.trans rightId.symm,
    leftVersion.trans rightVersion.symm, spec, leftContext.admission, leftContext.ledger,
    leftSpec, leftFor.admission, leftFor.ledger, ?_⟩
  · rw [leftArguments, rightArguments]
    apply Json.pyEq_object left.uniqueArguments right.uniqueArguments
    · intro key
      exact (leftFor.names key).trans (rightFor.names key).symm
    · intro key value other member otherMember
      have named := (leftFor.names key).mp (List.mem_map_of_mem member)
      rcases List.mem_map.mp named with ⟨field, declared, rfl⟩
      rcases checkProposalFields_ok leftChecked field declared with ⟨expected, found, equal⟩
      rcases checkProposalFields_ok rightChecked field declared with
        ⟨otherExpected, otherFound, otherEqual⟩
      rw [authority.expectedValue, otherFound, Except.ok.injEq] at found
      subst found
      rw [value_of_mem left.uniqueArguments member] at equal
      rw [value_of_mem right.uniqueArguments otherMember] at otherEqual
      exact Json.pyEq_trans equal (Json.pyEq_symm otherEqual)
  · intro key value member
    rw [leftArguments] at member
    have named := (leftFor.names key).mp (List.mem_map_of_mem member)
    rcases List.mem_map.mp named with ⟨field, declared, rfl⟩
    rcases checkProposalFields_ok leftChecked field declared with ⟨expected, found, equal⟩
    rw [value_of_mem left.uniqueArguments member] at equal
    refine ⟨field, declared, rfl, ?_⟩
    rw [← leftFor.effectiveNow]
    exact expectedValue_trusted leftFor.actionSpec leftBound declared found equal

/-! A refund that two models draft with different answers and claims. -/

def exampleBinding (observationId toolName : String) : ObligationBinding where
  toolName
  invocationId := "invocation"
  observationId
  observationContentHash := "hash"
  resourceVersion := some "2"
  tenantId := "tenant"
  customerId := "customer"
  scopeHash := "scope"
  freshnessStatus := "fresh"
  freshUntil := some ⟨⟨2000, Instant.twoMilliseconds_inRange⟩, some ⟨0, UtcOffset.utc_bounded⟩⟩
  sourceIds := ["source"]
  citationBindingIds := ["citation_1", "citation_2"]

def exampleAdmission : ActionAdmission where
  status := .admitted
  actionType := some .refund
  extractedArguments := [("billing_record_id", .string "bill_1")]
  requestReason := some "charged twice"
  tenantId := "tenant"
  customerId := "customer"
  scopeHash := "scope"

def exampleLedger : ActionObligationLedger where
  actionType := .refund
  runId := "run"
  obligations :=
    [{ obligationId := "billing_record_current"
       kind := .resource
       status := .satisfied
       binding := some (exampleBinding "observation_1" "query_billing_record") },
      { obligationId := "refund_policy_current"
        kind := .knowledge
        status := .satisfied
        binding := some (exampleBinding "observation_2" "search_knowledge") }]

/-- The functions agree with the real ones on the texts of the example. -/
def exampleContracts : AssemblerContracts where
  str
    | .string text => text
    | _ => ""
  casefold text := text
  int text := if text = "2" then some 2 else none
  fromIsoformat text :=
    if text = "0001-01-01T00:00:00.002+00:00" then
      some ⟨⟨2000, Instant.twoMilliseconds_inRange⟩, some ⟨0, UtcOffset.utc_bounded⟩⟩
    else none
  validateAdmission _ := some exampleAdmission
  validateLedger _ := some exampleLedger

def exampleObservation (observationId toolName : String) (data : JsonMembers) : JsonMembers :=
  [("run_id", .string "run"), ("tool_name", .string toolName),
    ("observation_id", .string observationId), ("status", .string "ok"),
    ("tenant_id", .string "tenant"), ("customer_id", .string "customer"),
    ("scope_hash", .string "scope"), ("content_hash", .string "hash"),
    ("source_refs", .array [.object [("source_id", .string "source")]]),
    ("freshness_status", .string "fresh"),
    ("fresh_until", .string "0001-01-01T00:00:00.002Z"), ("data", .object data)]

def exampleObservations : List JsonMembers :=
  [exampleObservation "observation_1" "query_billing_record"
      (billingRecordCurrent.requiredDataFields.map fun field =>
        (field, if field = "billing_record_id" then .string "bill_1"
          else if field = "status" then .string "charged"
          else .string "present")),
    exampleObservation "observation_2" "search_knowledge"
      [("evidence", .array []), ("index_version", .string "3")]]

def exampleCandidate (answer citation : String) : CandidateResponse where
  answer
  action := .refundProposal
  materialClaims :=
    [{ text := answer, citationBindingIds := [citation], observationSourceIds := ["source"] }]
  proposedArguments :=
    [("billing_record_id", .string "bill_1"), ("refund_reason", .string "charged twice")]
  uniqueArguments := by decide

def candidateNow : DateTime :=
  ⟨⟨1000, by decide⟩, some ⟨0, UtcOffset.utc_bounded⟩⟩

def exampleEvaluation (answer citation : String) : Except AssemblyStop ProposalEligibility :=
  evaluateActionCandidateEligibility exampleContracts (exampleCandidate answer citation) none
    none exampleObservations candidateNow

theorem exampleEvaluation_eligible {answer citation : String}
    (eligible : (exampleEvaluation answer citation).toOption.map ProposalEligibility.eligible =
      some true) :
    ∃ result, exampleEvaluation answer citation = .ok result ∧ result.eligible = true := by
  cases evaluated : exampleEvaluation answer citation with
  | error stop => simp [evaluated, Except.toOption] at eligible
  | ok result => exact ⟨result, rfl, by simpa [evaluated, Except.toOption] using eligible⟩

theorem trustedArguments_not_authored_refund :
    ∃ leftResult rightResult,
      exampleEvaluation "refund it" "citation_1" = .ok leftResult ∧
      exampleEvaluation "twice the same charge" "citation_2" = .ok rightResult ∧
      leftResult.eligible = true ∧ rightResult.eligible = true ∧
      (Json.object leftResult.trustedArguments).pyEq (.object rightResult.trustedArguments) =
        true ∧
      leftResult.resourceId = rightResult.resourceId := by
  have first : ((exampleEvaluation "refund it" "citation_1").toOption.map
      ProposalEligibility.eligible) = some true := by
    decide +kernel
  have second : ((exampleEvaluation "twice the same charge" "citation_2").toOption.map
      ProposalEligibility.eligible) = some true := by
    decide +kernel
  rcases exampleEvaluation_eligible first with ⟨left, leftEvaluated, leftEligible⟩
  rcases exampleEvaluation_eligible second with ⟨right, rightEvaluated, rightEligible⟩
  have trusted := trustedArguments_not_authored exampleContracts none none exampleObservations
    candidateNow (exampleCandidate "refund it" "citation_1")
    (exampleCandidate "twice the same charge" "citation_2") rfl leftEvaluated rightEvaluated
    leftEligible rightEligible
  exact ⟨left, right, leftEvaluated, rightEvaluated, leftEligible, rightEligible, trusted.1,
    trusted.2.2.1⟩

end SupportGuard
