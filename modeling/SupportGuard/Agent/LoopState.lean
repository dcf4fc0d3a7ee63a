import SupportGuard.Agent.CandidateAssembly
import SupportGuard.Agent.ComparisonPublication
import SupportGuard.Agent.EvidenceDecision

/-! # The state of the agent loop

`agent/state.py` and `agent/schemas.py`: what the nodes of the graph between the intake and the
final outcome read and write. Ids that the runtime draws (`new_id`, `uuid4`) come from a
counter, so that no two are the same; the provider chooses its own. -/

namespace SupportGuard

open Foundation

/-! ## Budgets -/

def AgentBudget.maxLlmCalls : Nat := 6

def AgentBudget.maxToolRounds : Nat := 2

def AgentBudget.maxToolAttempts : Nat := 6

/-! ## What the intake leaves -/

inductive IssueType
  | productKnowledge
  | apiDiagnostics
  | incidentSupport
  | billingRefund
  | credentialSecurity
  | entitlementChange
  | unknown
deriving DecidableEq

inductive PolicyBoundary
  | allowed
  | outOfScope
  | prohibited
deriving DecidableEq

inductive SupportSubject
  | customerProblem
  | supportguardIdentity
  | supportguardCapabilities
  | supportguardGreeting
deriving DecidableEq

structure Classification where
  issueType : IssueType
  policyBoundary : PolicyBoundary := .allowed
  requestedAction : Option ActionType := none
  needsRealtimeFacts : Bool := false
  supportSubject : SupportSubject := .customerProblem
deriving DecidableEq

/-- What an admission says to the loop. -/
structure LoopAdmission where
  status : AdmissionStatus
  actionType : Option ActionType := none
  clarificationQuestion : Option String := none
  tenantId : String
  customerId : String
  scopeHash : String
  admittedAction : status = .admitted → actionType.isSome = true
deriving DecidableEq

/-- The admission of the state. The first version is read from old checkpoints only. -/
inductive AdmissionPayload
  | absent
  | legacy (clarificationQuestion : Option String)
  | current (admission : LoopAdmission)
deriving DecidableEq

/-! ## Observations and the ledger -/

inductive LoopId
  | chosen (text : String)
  | drawn (serial : Nat)
deriving DecidableEq

/-- A settled read. Its identity is `observation_id`, else `id`, else `tool_call_id`. -/
structure LoopObservation where
  identity : LoopId
  runId : String
  toolName : String
  status : String
  errorCode : Option String := none
  contentHash : String := ""
  sourceIds : List String := []
  data : JsonMembers := []

/-- A terminal business outcome with the observation it is bound to, and the answer that
`render_terminal_business_outcome` gives it. -/
structure LoopOutcome where
  actionType : ActionType
  outcomeCode : String
  observationId : LoopId
  observationContentHash : String
  tenantId : String
  customerId : String
  scopeHash : String
  sourceIds : List String
  rendering : String
deriving DecidableEq

structure LoopLedger where
  runId : String
  tenantId : String
  customerId : String
  scopeHash : String
  nextState : LedgerNextState
  reasonCode : String
  unsatisfiedCapabilities : List String := []
  terminalOutcome : Option LoopOutcome := none
deriving DecidableEq

/-! ## Decisions -/

structure NativeReadToolCall where
  toolCallId : LoopId
  name : String
deriving DecidableEq

/-- `AgentDecision`, with the fields that its shape allows. -/
inductive AgentDecision
  | toolCalls (calls : List NativeReadToolCall)
  | finalCandidate (candidate : CandidateResponse)
  | needsClarification (question : String) (candidate : Option CandidateResponse)
  | manualTakeover (candidate : Option CandidateResponse)

/-- What stands under `candidate`: nothing, a synthesis or a response. -/
inductive StoredCandidate
  | empty
  | synthesis (value : BoundEvidenceSynthesis)
  | response (value : CandidateResponse)

/-- `CandidateResponse.model_validate(state["candidate"])`; a synthesis has no action and a
field of its own. -/
def StoredCandidate.validate : StoredCandidate → Option CandidateResponse
  | .response value => some value
  | .empty | .synthesis _ => none

structure EvidenceAssessment where
  sufficient : Bool
  requiredGroups : List String := []
  satisfiedGroups : List String := []
  missingGroups : List String := []
  staleGroups : List String := []
  result : EvidenceResult
  errorCode : Option String := none

/-- The decision about evidence before a candidate, for one attempt of the provider. -/
structure AttemptEvidence where
  providerAttemptId : Nat
  assessment : EvidenceAssessment

inductive PolicyRoute
  | answer
  | awaitHumanApproval
  | reject
deriving DecidableEq

/-! ## The state -/

/-- `AgentState`. A text that may be absent or empty is absent, and `policyRoute` is absent
where the route is to plan again. `actionStateAnswer` is the answer that the query about
existing actions has, which no node of the loop changes. -/
structure AgentState where
  runId : String
  tenantId : String
  customerId : String
  classification : Classification
  actionAdmission : AdmissionPayload := .absent
  actionStateAnswer : Option String := none
  actionStateTrusted : Bool := false
  actionObligationLedger : Option LoopLedger := none
  terminalBusinessOutcome : Option LoopOutcome := none
  obligationSynthesisMode : Bool := false
  agentDecision : Option AgentDecision := none
  toolObservations : List LoopObservation := []
  evidence : List EvidenceItem := []
  evidenceConflict : Bool := false
  knowledgeComparisonRequested : Bool := false
  knowledgeComparisonComplete : Bool := false
  candidate : StoredCandidate := .empty
  policyRoute : Option PolicyRoute := none
  citationIntegrity : Bool := false
  structureRepairUsed : Bool := false
  llmCalls : Nat := 0
  toolRounds : Nat := 0
  toolAttempts : Nat := 0
  agentFinishReason : Option String := none
  safeStopReason : Option String := none
  latestProviderAttemptId : Option Nat := none
  citationBindingMap : BindingMap := .empty
  toolRoundRejected : Bool := false
  evidenceAssessment : Option EvidenceAssessment := none
  evidenceDecision : Option AttemptEvidence := none
  evidenceReplanRequired : Bool := false
  evidenceReplanCount : Nat := 0
  nextSerial : Nat := 0

namespace AgentState

/-- `_has_current_successful_observation`. -/
def hasCurrentSuccessfulObservation (state : AgentState) (toolName : String) : Bool :=
  state.toolObservations.any fun item =>
    item.toolName = toolName && item.status = "ok" && item.runId = state.runId

end AgentState

/-- `_trusted_platform_answer`. -/
def trustedPlatformAnswer : SupportSubject → Option String
  | .customerProblem => none
  | .supportguardGreeting => some ("你好，我是 SupportGuard。你可以向我咨询产品功能、API 错误、用量、账单、" ++
      "API Key、配额或服务异常。请告诉我你遇到的具体问题。")
  | .supportguardIdentity => some ("我是 SupportGuard，一个面向 AI SaaS 客服场景的证据优先支持 Agent。" ++
      "我会在当前租户范围内查询产品资料和实时业务事实；任何高风险操作都只会先形成" ++
      "申请，通过独立审批后再由系统安全执行。")
  | .supportguardCapabilities =>
      some ("SupportGuard 可以回答产品能力问题，诊断 API 与事故影响，核验计费、API Key " ++
        "和配额状态，并为符合条件的退款、Key 撤销或配额变更生成待审批申请。" ++
        "它不能跨租户读取数据，也不会让模型直接执行高风险操作。")

/-- A response without references. -/
def plainResponse (action : CandidateAction) (answer : String) : CandidateResponse where
  answer
  action
  proposedArguments := []
  uniqueArguments := List.nodup_nil

end SupportGuard
