import SupportGuard.Agent.ProposalAssembler
import SupportGuard.Services.ProjectionFailures

/-! # Action states of one approval and of a ticket

`ConversationActionStateProjector` of `services/conversation_action_state.py`. One approval and
a list of approvals are projected by the same code, which reads the rows of all of them at once
and gives each the first that is its own. A row has the columns that are read. -/

namespace SupportGuard

open Foundation Fallible

namespace ActionStates

/-! ## Rows -/

structure ApprovalRow where
  id : String
  tenantId : String
  ticketId : String
  customerId : String
  proposalId : Option String
  runId : Option String
  actionType : String
  resourceType : String
  resourceId : String
  originTurnId : String
  businessVersion : Int
  status : String
  statusVersion : Int
  expectedTicketHeadEventId : Option String := none
  expectedTicketEventHash : Option String := none
  createdAt : DateTime
  updatedAt : DateTime

structure DecisionRow where
  id : String
  tenantId : String
  approvalId : String
  decision : String
  canonicalEventId : Option String := none
  canonicalEventHash : Option String := none
  createdAt : DateTime
  updatedAt : DateTime

structure ActionRow where
  id : String
  tenantId : String
  ticketId : String
  customerId : String
  approvalId : Option String
  actionType : String
  resourceId : Option String
  resourceVersion : Option Int
  status : String
  canonicalEventId : Option String := none
  canonicalEventHash : Option String := none
  createdAt : DateTime
  updatedAt : DateTime

structure EventRow where
  id : String
  tenantId : String
  runId : String
  ticketId : String
  customerId : String
  ticketSequence : Int
  jobId : Option String
  eventType : String
  eventHash : String
  payload : JsonMembers

structure MessageRow where
  tenantId : String
  ticketId : String
  approvalId : Option String

/-- The tables that are read. Proposals, withdrawals and jobs have the columns of their facts.
Approvals and jobs have primary keys, and the keys that approvals are given are not empty. -/
structure Tables where
  approvals : List ApprovalRow
  proposals : List ProposalActionSourceFact := []
  decisions : List DecisionRow := []
  actions : List ActionRow := []
  withdrawals : List ProposalWithdrawalActionSourceFact := []
  jobs : List ApprovalRuntimeJobSourceFact := []
  events : List EventRow := []
  messages : List MessageRow := []
  approvalsUnique : (approvals.map ApprovalRow.id).Nodup
  approvalsNamed : ∀ approval ∈ approvals, approval.id ≠ ""
  jobsUnique : (jobs.map ApprovalRuntimeJobSourceFact.id).Nodup

/-- `ConversationActionOrmSources`. -/
structure OrmSources where
  approval : ApprovalRow
  proposal : Option ProposalActionSourceFact
  decision : Option DecisionRow
  businessAction : Option ActionRow
  withdrawal : Option ProposalWithdrawalActionSourceFact
  runtimeJob : Option ApprovalRuntimeJobSourceFact
  transitionEvent : Option EventRow

def transitionEventType? (text : String) : Option TransitionEventType :=
  if text = "proposal_withdrawn" then some .proposalWithdrawn
  else if text = "runtime_action_reconciliation" then some .runtimeActionReconciliation
  else if text = "runtime_failed" then some .runtimeFailed
  else if text = "approval_staled_duplicate_identity" then
    some .approvalStaledDuplicateIdentity
  else none

/-! ## Facts of rows -/

/-- What a transition event tells, with a hash that is one. -/
structure Transition where
  eventId : String
  eventHash : String
  eventType : TransitionEventType
  hashValid : isSha256Hex eventHash = true

def readTransition (event : EventRow) : Except ProjectionRaise Transition :=
  match transitionEventType? event.eventType with
  | none => .error (.validationError "transition_event_type: Input should be a literal")
  | some eventType =>
      if hashValid : isSha256Hex event.eventHash = true then
        .ok { eventId := event.id, eventHash := event.eventHash, eventType, hashValid }
      else .error (.validationError "transition_event_hash: String should match pattern")

theorem Transition.hashes_valid (transition : Option Transition) :
    ∀ hash ∈ transition.map Transition.eventHash, isSha256Hex hash = true := by
  intro hash found
  rcases Option.map_eq_some_iff.mp found with ⟨event, _, same⟩
  rw [← same]
  exact event.hashValid

theorem Transition.complete (transition : Option Transition) :
    (transition.map Transition.eventId).isSome = (transition.map Transition.eventHash).isSome ∧
      (transition.map Transition.eventHash).isSome =
        (transition.map Transition.eventType).isSome := by
  cases transition <;> exact ⟨rfl, rfl⟩

def approvalFact (approval : ApprovalRow) (transition : Option Transition) :
    Except ProjectionRaise ApprovalActionSourceFact :=
  if complete : approval.expectedTicketHeadEventId.isSome =
      approval.expectedTicketEventHash.isSome then
    .ok
      { id := approval.id, tenantId := approval.tenantId, ticketId := approval.ticketId
        customerId := approval.customerId, proposalId := approval.proposalId
        runId := approval.runId, actionType := approval.actionType
        resourceType := approval.resourceType, resourceId := approval.resourceId
        originTurnId := approval.originTurnId, businessVersion := approval.businessVersion
        status := approval.status, statusVersion := approval.statusVersion
        expectedTicketHeadEventId := approval.expectedTicketHeadEventId
        expectedTicketEventHash := approval.expectedTicketEventHash
        transitionEventId := transition.map Transition.eventId
        transitionEventHash := transition.map Transition.eventHash
        transitionEventType := transition.map Transition.eventType
        createdAt := approval.createdAt, updatedAt := approval.updatedAt
        transitionHashValid := Transition.hashes_valid transition
        transitionComplete := Transition.complete transition
        ticketHeadComplete := complete }
  else .error (.validationError "approval event identity must be complete or absent")

def decisionFact (decision : DecisionRow) :
    Except ProjectionRaise HumanDecisionActionSourceFact :=
  if complete : decision.canonicalEventId.isSome = decision.canonicalEventHash.isSome then
    .ok
      { id := decision.id, tenantId := decision.tenantId, approvalId := decision.approvalId
        decision := decision.decision, canonicalEventId := decision.canonicalEventId
        canonicalEventHash := decision.canonicalEventHash
        createdAt := decision.createdAt, updatedAt := decision.updatedAt
        canonicalEventComplete := complete }
  else .error (.validationError "decision event identity must be complete or absent")

def actionFact (action : ActionRow) : Except ProjectionRaise BusinessActionSourceFact :=
  if complete : action.canonicalEventId.isSome = action.canonicalEventHash.isSome then
    .ok
      { id := action.id, tenantId := action.tenantId, ticketId := action.ticketId
        customerId := action.customerId, approvalId := action.approvalId
        actionType := action.actionType, resourceId := action.resourceId
        resourceVersion := action.resourceVersion, status := action.status
        canonicalEventId := action.canonicalEventId
        canonicalEventHash := action.canonicalEventHash
        createdAt := action.createdAt, updatedAt := action.updatedAt
        canonicalEventComplete := complete }
  else .error (.validationError "business action event identity must be complete or absent")

/-- `conversation_action_sources_from_orm`. -/
def conversationActionSourcesFromOrm (sources : OrmSources) :
    Except ProjectionRaise ConversationActionSources := do
  let transition ← sources.transitionEvent.mapM readTransition
  let approval ← approvalFact sources.approval transition
  let decision ← sources.decision.mapM decisionFact
  let businessAction ← sources.businessAction.mapM actionFact
  return {
    approval
    proposal := sources.proposal
    decision
    businessAction
    withdrawal := sources.withdrawal
    runtimeJob := sources.runtimeJob }

def project (sources : OrmSources) : Except ProjectionRaise ConversationActionStateV1 :=
  conversationActionSourcesFromOrm sources >>= projectConversationActionState

/-! ## Queries -/

local instance lawfulIds : LawfulBEq (Option String) := inferInstance

section

variable {Row : Type}

/-- `ORDER BY created_at DESC, id DESC`. -/
def newer (createdAt : Row → DateTime) (id : Row → String) (left right : Row) : Prop :=
  DateTime.universal (createdAt right) < DateTime.universal (createdAt left) ∨
    DateTime.universal (createdAt right) = DateTime.universal (createdAt left) ∧
      id right ≤ id left

instance (createdAt : Row → DateTime) (id : Row → String) :
    DecidableRel (newer createdAt id) :=
  fun _ _ => inferInstanceAs (Decidable (_ ∨ _))

def newestFirst (createdAt : Row → DateTime) (id : Row → String) (rows : List Row) : List Row :=
  rows.insertionSort (newer createdAt id)

/-- The first row of the approval among those of all the approvals, as `setdefault` keeps it. -/
def firstOf (tenantOf : Row → String) (approvalOf : Row → Option String) (tenantId : String)
    (approvals : List ApprovalRow) (approval : ApprovalRow) (rows : List Row) : Option Row :=
  (rows.filter fun row => tenantOf row = tenantId ∧
    approvalOf row ∈ approvals.map fun listed => some listed.id).find? fun row =>
      approvalOf row = some approval.id

end

def maxActionStatesPerTicket : Nat := 100

/-- `ORDER BY ticket_sequence DESC, id DESC`. -/
def laterEvent (left right : EventRow) : Prop :=
  right.ticketSequence < left.ticketSequence ∨
    right.ticketSequence = left.ticketSequence ∧ right.id ≤ left.id

instance : DecidableRel laterEvent :=
  fun _ _ => inferInstanceAs (Decidable (_ ∨ _))

section

variable (str : Json → String) (tables : Tables) (tenantId : String)
  (approvals : List ApprovalRow)

/-- The runs whose events are read. -/
def runIds : List String :=
  match approvals.filterMap ApprovalRow.runId with
  | [] => ["<none>"]
  | first :: rest => first :: rest

def transitionEvents : List EventRow :=
  ((tables.events.insertionSort laterEvent).filter fun event =>
    event.tenantId = tenantId ∧ event.runId ∈ runIds approvals ∧
      (transitionEventType? event.eventType).isSome).take (maxActionStatesPerTicket * 4)

def resumeJobs : List ApprovalRuntimeJobSourceFact :=
  (newestFirst ApprovalRuntimeJobSourceFact.createdAt ApprovalRuntimeJobSourceFact.id
    tables.jobs).filter fun job => job.tenantId = tenantId ∧
      (job.approvalId ∈ approvals.map fun listed => some listed.id) ∧
      job.kind = "approval_resume"

/-- `approval_id_by_job`. -/
def approvalIdByJob (jobs : List ApprovalRuntimeJobSourceFact) (jobId : String) :
    Option String :=
  ((jobs.filter fun job => job.id = jobId).getLast?).bind ApprovalRuntimeJobSourceFact.approvalId

/-- The approval an event is about, by its payload or by its job. -/
def eventApprovalId (jobs : List ApprovalRuntimeJobSourceFact) (event : EventRow) : String :=
  let named := if (event.payload.value "approval_id").truthy then
    str (event.payload.value "approval_id") else ""
  if named = "" then
    match event.jobId with
    | some jobId => if jobId = "" then "" else (approvalIdByJob jobs jobId).getD ""
    | none => ""
  else named

/-- The event is one that the status of the approval expects, in the scope of the approval. -/
def eventFits (approval : ApprovalRow) (event : EventRow) : Bool :=
  ((ApprovalStatus.ofText? approval.status).any fun status =>
    (transitionEventType? event.eventType).any fun eventType =>
      eventType ∈ expectedTransitionEvents status) &&
    event.ticketId = approval.ticketId && some event.runId = approval.runId &&
    event.customerId = approval.customerId

/-- `transition_event_by_approval`, for one of the approvals. -/
def transitionEventOf (approval : ApprovalRow) : Option EventRow :=
  let jobs := resumeJobs tables tenantId approvals
  (transitionEvents tables tenantId approvals).find? fun event =>
    (approvals.find? fun listed => listed.id = eventApprovalId str jobs event).any fun listed =>
      listed.id = approval.id && eventFits listed event

def proposalOf (approval : ApprovalRow) : Option ProposalActionSourceFact :=
  approval.proposalId.bind fun proposalId =>
    ((tables.proposals.filter fun proposal => proposal.tenantId = tenantId ∧
      proposal.id ∈ (approvals.filterMap ApprovalRow.proposalId).filter (· ≠ "")).filter
        fun proposal => proposal.id = proposalId).getLast?

/-- The rows of one of the approvals, read with those of all of them. -/
def sourcesOf (approval : ApprovalRow) : OrmSources where
  approval
  proposal := proposalOf tables tenantId approvals approval
  decision := firstOf DecisionRow.tenantId (fun row => some row.approvalId) tenantId approvals
    approval (newestFirst DecisionRow.createdAt DecisionRow.id tables.decisions)
  businessAction := firstOf ActionRow.tenantId ActionRow.approvalId tenantId approvals approval
    (newestFirst ActionRow.createdAt ActionRow.id tables.actions)
  withdrawal := firstOf ProposalWithdrawalActionSourceFact.tenantId
    (fun row => some row.approvalId) tenantId approvals approval
    (newestFirst ProposalWithdrawalActionSourceFact.createdAt
      ProposalWithdrawalActionSourceFact.id tables.withdrawals)
  runtimeJob := (resumeJobs tables tenantId approvals).find? fun job =>
    job.approvalId = some approval.id
  transitionEvent := transitionEventOf str tables tenantId approvals approval

/-- `_project_many`. -/
def projectMany : Except ProjectionRaise (List ConversationActionStateV1) :=
  match approvals with
  | [] => .ok []
  | first :: rest => do
      refuse (∃ other ∈ rest, other.tenantId ≠ first.tenantId)
        "action state batch crosses tenant scope"
      (first :: rest).mapM fun approval =>
        project (sourcesOf str tables first.tenantId (first :: rest) approval)

end

section

variable (str : Json → String) (tables : Tables) (tenantId customerId : String)

def getForApproval (approvalId : String) :
    Except ProjectionRaise (Option ConversationActionStateV1) :=
  match tables.approvals.find? fun approval => approval.tenantId = tenantId ∧
      approval.customerId = customerId ∧ approval.id = approvalId with
  | none => .ok none
  | some approval => do
      let states ← projectMany str tables [approval]
      return states.head?

/-- What listing the states of a ticket may raise. -/
inductive ListRaise
  | valueError
  | projection (raised : ProjectionRaise)
deriving DecidableEq

/-- The approval is of the ticket, or a message of the ticket is about it. -/
def concernsTicket (ticketId : String) (approval : ApprovalRow) : Prop :=
  approval.ticketId = ticketId ∨ ∃ message ∈ tables.messages, message.tenantId = tenantId ∧
    message.ticketId = ticketId ∧ message.approvalId = some approval.id

instance (ticketId : String) : DecidablePred (concernsTicket tables tenantId ticketId) :=
  fun _ => inferInstanceAs (Decidable (_ ∨ _))

/-- `ORDER BY updated_at DESC, created_at DESC, id DESC`. -/
def laterApproval (left right : ApprovalRow) : Prop :=
  DateTime.universal right.updatedAt < DateTime.universal left.updatedAt ∨
    DateTime.universal right.updatedAt = DateTime.universal left.updatedAt ∧
      newer ApprovalRow.createdAt ApprovalRow.id left right

instance : DecidableRel laterApproval :=
  fun _ _ => inferInstanceAs (Decidable (_ ∨ _))

def listedApprovals (ticketId : String) (limit : Nat) : List ApprovalRow :=
  ((tables.approvals.insertionSort laterApproval).filter fun approval =>
    approval.tenantId = tenantId ∧ approval.customerId = customerId ∧
      concernsTicket tables tenantId ticketId approval).take limit

def listForTicket (ticketId : String) (limit : Int := maxActionStatesPerTicket) :
    Except ListRaise (List ConversationActionStateV1) :=
  if limit < 1 ∨ (maxActionStatesPerTicket : Int) < limit then .error .valueError
  else (projectMany str tables
    (listedApprovals tables tenantId customerId ticketId limit.toNat)).mapError .projection

end

end ActionStates

end SupportGuard
