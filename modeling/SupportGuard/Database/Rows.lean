import SupportGuard.Foundation.Calendar
import SupportGuard.Foundation.Json

/-! # Database rows

The tables of `db/entities` that the modelled services read and write, with the
columns those services use. Integer columns are integers, nullable columns are
options, and closed vocabularies that a check constraint enforces are
enumerations. -/

namespace SupportGuard

open Foundation

/-! ## Vocabularies -/

inductive JobKind
  | agentStart
  | approvalResume
deriving DecidableEq, Repr

def JobKind.ofText? (text : String) : Option JobKind :=
  if text = "agent_start" then some .agentStart
  else if text = "approval_resume" then some .approvalResume
  else none

inductive JobStatus
  | queued
  | leased
  | succeeded
  | retryWait
  | dead
deriving DecidableEq, Repr

inductive ApprovalStatus
  | pending
  | approved
  | executed
  | rejected
  | stale
  | withdrawn
  | failed
  | manualTakeover
deriving DecidableEq, Repr

inductive ProposalStatus
  | draft
  | bound
  | stale
deriving DecidableEq, Repr

inductive MarkerStatus
  | prepared
  | checkpointWritten
  | finalized
  | aborted
deriving DecidableEq, Repr

inductive CallKind
  | llm
  | structureRepair
  | readMcp
  | toolPreflight
deriving DecidableEq, Repr

def CallKind.ofText? (text : String) : Option CallKind :=
  if text = "llm" then some .llm
  else if text = "structure_repair" then some .structureRepair
  else if text = "read_mcp" then some .readMcp
  else if text = "tool_preflight" then some .toolPreflight
  else none

inductive AttemptStatus
  | started
  | succeeded
  | failed
  | unknown
deriving DecidableEq, Repr

inductive TransportStatus
  | reserved
  | executing
  | succeeded
  | failed
  | unknown
deriving DecidableEq, Repr

inductive TurnGroupStatus
  | «open»
  | completing
  | closed
  | aborted
deriving DecidableEq, Repr

inductive InvocationLifecycle
  | received
  | validated
  | authorized
  | executing
  | terminal
deriving DecidableEq, Repr

/-! ## Conversations -/

structure SupportTicket where
  id : String
  tenantId : String
  customerId : String
  status : String := "open"
  lifecycle : String := "active"
  automationMode : String := "agent"
  issueType : String := "unknown"
  risk : String := "low"
  version : Int := 1
  nextEventSequence : Int := 0
  nextMessageSequence : Int := 0
  nextDispatchSequence : Nat := 0
  finalResponse : Option String := none
deriving DecidableEq

structure ConversationTurn where
  id : String
  tenantId : String
  ticketId : String
  customerMessageId : String
  runId : Option String := none
  ordinal : Int
  activityState : String := "accepted"
  resultState : Option String := none
  model : Option String := none
  providerMode : Option String := none
  toolCallMode : Option String := none
  contextVersion : Option String := none
deriving DecidableEq

structure TicketMessage where
  id : String
  tenantId : String
  ticketId : String
  turnId : Option String := none
  runId : Option String := none
  approvalId : Option String := none
  conversationSequence : Option Int := none
  messageKind : String := "customer"
  publicationKey : Option String := none
  role : String
deriving DecidableEq

/-! ## Runs, jobs and events -/

structure AgentRun where
  id : String
  tenantId : String
  ticketId : String
  customerId : String
  messageId : String := ""
  turnId : Option String := none
  status : String := "running"
  statusVersion : Int := 1
  nextRunSequence : Int := 0
  activeJobId : Option String := none
  activeFencingToken : Option Nat := none
  canonicalCheckpointNs : Option String := none
  canonicalCheckpointId : Option String := none
  canonicalCheckpointHash : Option String := none
  canonicalCheckpointVersion : Int := 0
  agentFinishReason : Option String := none
  checkpointStage : String := "request_created"
  checkpointId : Option String := none
  stepIndex : Int := 0
  toolRounds : Int := 0
  toolAttempts : Nat := 0
  llmCalls : Nat := 0
  model : String := ""
  providerMode : String := ""
  toolCallMode : String := ""
  contextVersion : String := ""
  errorCode : Option String := none
deriving DecidableEq

structure RuntimeJob where
  id : String
  tenantId : String
  ticketId : String
  runId : String
  dispatchSequence : Nat
  approvalId : Option String
  kind : JobKind
  status : JobStatus := .queued
  statusVersion : Int := 1
  attempt : Nat := 0
  availableAt : Instant
  leaseOwner : Option String := none
  leaseExpiresAt : Option Instant := none
  heartbeatAt : Option Instant := none
  fencingToken : Nat := 0
  outcome : Option String := none
  lastError : Option String := none
  createdAt : Instant
deriving DecidableEq

structure CheckpointCommitMarker where
  id : String
  tenantId : String
  runId : String
  jobId : String
  fencingToken : Nat
  segmentKind : String
  status : MarkerStatus := .prepared
  statusVersion : Int := 1
  privateNamespace : String
  canonicalParentId : Option String := none
  canonicalParentHash : Option String := none
  parentCheckpointVersion : Int := 0
  expectedRunVersion : Int
  expectedRunStatus : String
  preparedPayloadHash : String
  finalCheckpointId : Option String := none
  finalCheckpointHash : Option String := none
  finalCheckpointVersion : Option Int := none
deriving DecidableEq

structure OutboxEvent where
  id : String
  deliveryId : String
  tenantId : String
  jobId : String
  runId : String
  eventType : String
  traceparent : String
deriving DecidableEq

structure AgentEvent where
  id : String
  tenantId : String
  runId : String
  ticketId : String
  customerId : String
  sequence : Int
  ticketSequence : Int
  runSequence : Int
  jobId : Option String
  stepIndex : Int
  toolRound : Int
  eventType : String
  status : String
  visibility : String
  toolCallId : Option String
  payload : JsonDocument
  payloadHash : String
  previousEventId : Option String
  parentEventHash : String
  eventHash : String
  eventSchemaVersion : String
  canonicalizationVersion : String
  eventHashSchemaVersion : String
  correlationId : String
  causationId : Option String
  idempotencyId : Option String
  deliveryGeneration : Option Int
  fencingToken : Option Int
  createdAt : DateTime
deriving DecidableEq

/-! ## Approvals -/

structure ApprovalRequest where
  id : String
  tenantId : String
  ticketId : String
  customerId : String
  runId : String
  proposalId : String
  actionType : String
  resourceType : String
  resourceId : String
  actionPayload : Json
  businessVersion : Int
  idempotencyKey : String
  status : ApprovalStatus := .pending
  statusVersion : Int := 1
  consumedAt : Option Instant := none
  selectedRevisionId : Option String := none
  selectedRevisionNumber : Option Int := none
  actionHash : String := ""
  markerId : Option String := none
  checkpointId : Option String := none
  canonicalCheckpointNs : Option String := none
  canonicalCheckpointHash : Option String := none
  checkpointVersion : Int := 0
  expectedTicketHeadEventId : Option String := none
  expectedTicketSequence : Option Int := none
  expectedTicketEventHash : Option String := none
deriving DecidableEq

structure ProposalRecord where
  id : String
  tenantId : String
  actionType : String
  resourceId : String
  refundOriginalResourceId : Option String := none
  refundOriginalVersion : Option Int := none
  refundPairHash : Option String := none
  status : ProposalStatus := .draft
  statusVersion : Int := 1
  runId : String := ""
  resourceVersion : Int := 0
  actionPayload : List (String × Json) := []
  actionHash : String := ""
  observationBinding : List Json := []
deriving DecidableEq

/-- The action as it was proposed, revision 0, or as an approver edited it. -/
structure ApprovalActionRevision where
  id : String
  tenantId : String
  approvalId : String
  proposalId : String
  snapshotId : String
  revisionNumber : Int
  actionPayload : List (String × Json)
  actionHash : String
  resourceVersion : Int
  createdByRef : String
  revisionReason : String
deriving DecidableEq

structure HumanDecision where
  id : String
  tenantId : String
  approvalId : String
  actionRevisionId : Option String
  actorId : String
  decision : String
  reason : String
  actionHash : Option String
  decisionHash : Option String
  canonicalEventId : Option String
  canonicalEventHash : Option String
  createdAt : Instant
deriving DecidableEq

structure ProposalWithdrawal where
  id : String
  tenantId : String
  ticketId : String
  customerId : String
  approvalId : String
  proposalId : String
  actorId : String
  reason : String
  idempotencyKey : String
  createdAt : Instant
deriving DecidableEq

structure BusinessAction where
  id : String
  tenantId : String
  ticketId : String
  customerId : String
  actionType : String
  resourceId : String
  resourceVersion : Int
  actionHash : String
  approvalId : String
  humanDecisionId : Option String := none
  actionRevisionId : String
  decisionHash : Option String := none
  effectIdentity : String
  canonicalEventId : Option String := none
  canonicalEventHash : Option String := none
  status : String
  idempotencyKey : String
  result : Json
deriving DecidableEq

/-- A request is identified by who made it, where, and under which key. -/
structure IdempotencyScope where
  tenantId : String
  principalId : String
  route : String
  key : String
deriving DecidableEq

/-- The values that the commands keep of a response. -/
inductive SnapshotValue
  | text (value : String)
  | flag (value : Bool)
  | null
deriving DecidableEq

structure IdempotencyRequest where
  scope : IdempotencyScope
  requestHash : String
  resourceIds : List (String × String)
  responseSnapshot : List (String × SnapshotValue)
deriving DecidableEq

/-! ## Approvers -/

structure Membership where
  tenantId : String
  userId : String
  role : String
  status : String
deriving DecidableEq

structure ApproverTenantScope where
  userId : String
  tenantId : String
deriving DecidableEq

/-! ## Business resources -/

structure BillingRecord where
  id : String
  tenantId : String
  customerId : String
  /-- A `numeric(12,2)` in hundredths. -/
  amount : Int
  currency : String
  status : String
  chargedAt : Instant
  servicePeriodStart : CivilDate
  servicePeriodEnd : CivilDate
  duplicateOf : Option String
  version : Int
deriving DecidableEq

structure ApiKeyMetadata where
  id : String
  tenantId : String
  customerId : String
  keyId : String
  fingerprint : String
  status : String
  version : Int
deriving DecidableEq

structure Subscription where
  id : String
  tenantId : String
  customerId : String
  plan : String
  rpmLimit : Int
  concurrencyLimit : Int
  version : Int
deriving DecidableEq

structure PlanCatalog where
  id : String
  plan : String
  minRpm : Int
  maxRpm : Int
  minConcurrency : Int
  maxConcurrency : Int
  version : Int
deriving DecidableEq

structure MutationKillSwitch where
  tenantId : String
  actionType : String
  enabled : Bool
deriving DecidableEq

/-! ## Calls and tools -/

structure AgentCallAttempt where
  id : String
  tenantId : String
  runId : String
  jobId : String
  fencingToken : Nat
  callKind : CallKind
  ordinal : Nat
  logicalInvocationId : Option String
  transportOrdinal : Option Int
  status : AttemptStatus := .started
  promptTokens : Int := 0
  completionTokens : Int := 0
  latencyMs : Option Int := none
  errorCode : Option String := none
deriving DecidableEq

structure ToolTransportAttempt where
  id : String
  tenantId : String
  runId : String
  jobId : String
  invocationId : String
  agentCallAttemptId : String
  fencingToken : Nat
  transportOrdinal : Int
  status : TransportStatus := .reserved
  errorCode : Option String := none
deriving DecidableEq

structure TurnGroup where
  id : String
  tenantId : String
  runId : String
  jobId : String
  segmentId : String
  fencingToken : Nat
  decisionOrdinal : Int
  toolRound : Int
  expectedInvocations : Nat
  decisionHash : String
  contextHash : String
  toolSchemaHash : String
  status : TurnGroupStatus := .open
deriving DecidableEq

structure ToolInvocation where
  id : String
  tenantId : String
  runId : String
  jobId : String
  turnGroupId : String
  segmentId : String
  fencingToken : Nat
  providerToolCallId : String
  logicalInvocationId : String
  ordinal : Int
  toolName : String
  argumentsHash : String
  requestedCost : Int := 1
  lifecycle : InvocationLifecycle := .received
  outcome : Option String := none
deriving DecidableEq

structure ToolObservation where
  id : String
  tenantId : String
  runId : String
  jobId : String
  invocationId : String
  segmentId : String
  fencingToken : Nat
  status : String
  attemptIndex : Int
  contentHash : String
  payload : Json
deriving DecidableEq

/-! ## The database -/

/-- The tables, and the database's own clock. -/
structure Database where
  tickets : List SupportTicket := []
  runs : List AgentRun := []
  events : List AgentEvent := []
  turns : List ConversationTurn := []
  messages : List TicketMessage := []
  jobs : List RuntimeJob := []
  markers : List CheckpointCommitMarker := []
  outbox : List OutboxEvent := []
  approvals : List ApprovalRequest := []
  proposals : List ProposalRecord := []
  attempts : List AgentCallAttempt := []
  transports : List ToolTransportAttempt := []
  turnGroups : List TurnGroup := []
  invocations : List ToolInvocation := []
  observations : List ToolObservation := []
  revisions : List ApprovalActionRevision := []
  decisions : List HumanDecision := []
  withdrawals : List ProposalWithdrawal := []
  actions : List BusinessAction := []
  idempotency : List IdempotencyRequest := []
  memberships : List Membership := []
  approverScopes : List ApproverTenantScope := []
  billing : List BillingRecord := []
  apiKeys : List ApiKeyMetadata := []
  subscriptions : List Subscription := []
  planCatalog : List PlanCatalog := []
  killSwitches : List MutationKillSwitch := []
  clock : Instant := ⟨0, Instant.first_inRange⟩

end SupportGuard
