import SupportGuard.Contracts.ActionPreconditions
import SupportGuard.Database.Rows

/-! # The customer-visible state of one action

`services/conversation_action_state.py`: the rows that describe an approval and
its effect are checked against each other and projected to one status. Row
statuses are free text in the source and stay free text here; the literals of
the result are enumerations. -/

namespace SupportGuard

open Foundation Fallible

/-! ## Vocabulary -/

/-- The stored spellings of an approval status; any other text is no status. -/
def ApprovalStatus.ofText? (text : String) : Option ApprovalStatus :=
  if text = "pending" then some .pending
  else if text = "approved" then some .approved
  else if text = "executed" then some .executed
  else if text = "rejected" then some .rejected
  else if text = "stale" then some .stale
  else if text = "withdrawn" then some .withdrawn
  else if text = "failed" then some .failed
  else if text = "manual_takeover" then some .manualTakeover
  else none

/-- `ACTION_RESOURCE_TYPES`: the observed resource field of each action's sole
resource obligation. -/
def actionResourceType : ActionType → String
  | .refund => "billing_record_id"
  | .apiKeyRevocation => "api_key_id"
  | .entitlementChange => "subscription_id"

inductive ProjectionStatus
  | pending
  | approved
  | executing
  | verificationPending
  | executed
  | rejected
  | stale
  | withdrawn
  | failed
  | manualTakeoverLegacy
deriving DecidableEq, Repr

inductive DecisionClass
  | none
  | approve
  | editAndApprove
  | reject
  | customerWithdrawal
  | systemTransition
  | legacyManualTakeover
deriving DecidableEq, Repr

inductive ExecutionState
  | notStarted
  | queued
  | inProgress
  | verificationPending
  | succeeded
  | notExecuted
  | failed
  | legacyStopped
deriving DecidableEq, Repr

inductive TransitionEventType
  | proposalWithdrawn
  | runtimeActionReconciliation
  | runtimeFailed
  | approvalStaledDuplicateIdentity
deriving DecidableEq, Repr

inductive CustomerAction
  | withdraw
deriving DecidableEq, Repr

def customerSafeReasonCode : ProjectionStatus → String
  | .pending => "approval_pending"
  | .approved => "approval_approved_awaiting_execution"
  | .executing => "action_execution_in_progress"
  | .verificationPending => "action_execution_verification_pending"
  | .executed => "action_execution_confirmed"
  | .rejected => "approval_rejected_no_effect"
  | .stale => "action_requires_fresh_verification"
  | .withdrawn => "approval_withdrawn_no_effect"
  | .failed => "action_failed_confirmed_no_effect"
  | .manualTakeoverLegacy => "legacy_manual_takeover_no_operator"

/-! ## Evidence contracts -/

inductive EvidenceSource
  | proposal
  | decision
  | businessAction
  | withdrawal
  | runtimeJob
  | transitionEvent
deriving DecidableEq, Repr

structure LifecycleEvidenceContract where
  requiredSources : List EvidenceSource
  forbiddenSources : List EvidenceSource
  allowedDecisions : List String := []
  allowedTransitionEvents : List TransitionEventType := []

def lifecycleEvidence : ApprovalStatus → LifecycleEvidenceContract
  | .pending =>
      { requiredSources := [.proposal]
        forbiddenSources :=
          [.decision, .businessAction, .withdrawal, .runtimeJob, .transitionEvent] }
  | .approved =>
      { requiredSources := [.proposal, .decision, .runtimeJob]
        forbiddenSources := [.withdrawal, .transitionEvent]
        allowedDecisions := ["approve", "edit_and_approve"] }
  | .executed =>
      { requiredSources := [.proposal, .decision, .businessAction]
        forbiddenSources := [.withdrawal, .transitionEvent]
        allowedDecisions := ["approve", "edit_and_approve"] }
  | .rejected =>
      { requiredSources := [.proposal, .decision]
        forbiddenSources := [.businessAction, .withdrawal, .runtimeJob, .transitionEvent]
        allowedDecisions := ["reject"] }
  | .withdrawn =>
      { requiredSources := [.proposal, .withdrawal, .transitionEvent]
        forbiddenSources := [.decision, .businessAction, .runtimeJob]
        allowedTransitionEvents := [.proposalWithdrawn] }
  | .stale =>
      { requiredSources := [.proposal, .transitionEvent]
        forbiddenSources := [.withdrawal]
        allowedDecisions := ["approve", "edit_and_approve"]
        allowedTransitionEvents :=
          [.runtimeActionReconciliation, .approvalStaledDuplicateIdentity] }
  | .failed =>
      { requiredSources := [.proposal, .runtimeJob, .transitionEvent]
        forbiddenSources := [.withdrawal]
        allowedDecisions := ["approve", "edit_and_approve"]
        allowedTransitionEvents := [.runtimeFailed] }
  | .manualTakeover =>
      { requiredSources := [.proposal]
        forbiddenSources := [.businessAction, .withdrawal, .runtimeJob]
        allowedDecisions := ["manual_takeover"] }

/-! ## Source facts -/

/-- Sixty-four lowercase hexadecimal characters. -/
def isSha256Hex (text : String) : Bool :=
  text.toList.length == 64 &&
    text.toList.all fun character =>
      ('0' ≤ character && character ≤ '9') || ('a' ≤ character && character ≤ 'f')

structure ApprovalActionSourceFact where
  id : String
  tenantId : String
  ticketId : String
  customerId : String
  proposalId : Option String
  runId : Option String
  actionType : String
  resourceType : String
  resourceId : String
  originTurnId : String
  businessVersion : Int
  status : String
  statusVersion : Int
  expectedTicketHeadEventId : Option String := none
  expectedTicketEventHash : Option String := none
  transitionEventId : Option String := none
  transitionEventHash : Option String := none
  transitionEventType : Option TransitionEventType := none
  createdAt : DateTime
  updatedAt : DateTime
  transitionHashValid : ∀ hash ∈ transitionEventHash, isSha256Hex hash = true
  transitionComplete : transitionEventId.isSome = transitionEventHash.isSome ∧
    transitionEventHash.isSome = transitionEventType.isSome
  ticketHeadComplete :
    expectedTicketHeadEventId.isSome = expectedTicketEventHash.isSome

structure ProposalActionSourceFact where
  id : String
  tenantId : String
  runId : String
  actionType : String
  resourceId : String
  resourceVersion : Int
  status : String
  createdAt : DateTime
  updatedAt : DateTime

structure HumanDecisionActionSourceFact where
  id : String
  tenantId : String
  approvalId : String
  decision : String
  canonicalEventId : Option String := none
  canonicalEventHash : Option String := none
  createdAt : DateTime
  updatedAt : DateTime
  canonicalEventComplete : canonicalEventId.isSome = canonicalEventHash.isSome

structure BusinessActionSourceFact where
  id : String
  tenantId : String
  ticketId : String
  customerId : String
  approvalId : Option String
  actionType : String
  resourceId : Option String
  resourceVersion : Option Int
  status : String
  canonicalEventId : Option String := none
  canonicalEventHash : Option String := none
  createdAt : DateTime
  updatedAt : DateTime
  canonicalEventComplete : canonicalEventId.isSome = canonicalEventHash.isSome

structure ProposalWithdrawalActionSourceFact where
  id : String
  tenantId : String
  ticketId : String
  customerId : String
  approvalId : String
  proposalId : String
  createdAt : DateTime
  updatedAt : DateTime

structure ApprovalRuntimeJobSourceFact where
  id : String
  tenantId : String
  ticketId : String
  runId : String
  approvalId : Option String
  kind : String
  status : String
  outcome : Option String := none
  deliveryHoldReason : Option String := none
  createdAt : DateTime
  updatedAt : DateTime

structure ConversationActionSources where
  approval : ApprovalActionSourceFact
  proposal : Option ProposalActionSourceFact := none
  decision : Option HumanDecisionActionSourceFact := none
  businessAction : Option BusinessActionSourceFact := none
  withdrawal : Option ProposalWithdrawalActionSourceFact := none
  runtimeJob : Option ApprovalRuntimeJobSourceFact := none

/-! ## Validation -/

/-- What the projector may raise: its own error, the overflow of a time-zone
conversion, or the error of the result model's validators. -/
inductive ProjectionRaise
  | projectionError (message : String)
  | overflowError (message : String)
  | validationError (message : String)
deriving DecidableEq

def refuse (condition : Prop) [Decidable condition] (message : String) :
    Except ProjectionRaise Unit :=
  refuseWhen condition (.projectionError message)

/-- What the identity check on an approval row establishes about its texts. -/
structure ApprovalIdentity where
  status : ApprovalStatus
  actionType : ActionType
  runId : String

def validateApproval (approval : ApprovalActionSourceFact) :
    Except ProjectionRaise ApprovalIdentity :=
  let invalid := .error (.projectionError "approval canonical action identity is invalid")
  match ApprovalStatus.ofText? approval.status, approval.runId,
      ActionType.ofText? approval.actionType with
  | some status, some runId, some actionType =>
      if actionResourceType actionType ≠ approval.resourceType ∨
          approval.resourceId = "" ∨ approval.businessVersion < 1 ∨
          approval.statusVersion < 1 ∨ approval.originTurnId = "" then
        invalid
      else .ok { status, actionType, runId }
  | _, _, _ => invalid

def expectedTransitionEvents : ApprovalStatus → List TransitionEventType
  | .withdrawn => [.proposalWithdrawn]
  | .stale => [.runtimeActionReconciliation, .approvalStaledDuplicateIdentity]
  | .failed => [.runtimeFailed]
  | _ => []

def expectedProposalStatuses : ApprovalStatus → List String
  | .pending => ["bound"]
  | .approved => ["bound"]
  | .manualTakeover => ["bound", "stale"]
  | _ => ["stale"]

def terminalWithoutEffect : List ApprovalStatus :=
  [.rejected, .stale, .withdrawn, .failed, .manualTakeover]

def unresolvedActionStatuses : List String :=
  ["unknown", "verification_pending", "pending", "running", "executing"]

def presentSources (sources : ConversationActionSources) : EvidenceSource → Bool
  | .proposal => sources.proposal.isSome
  | .decision => sources.decision.isSome
  | .businessAction => sources.businessAction.isSome
  | .withdrawal => sources.withdrawal.isSome
  | .runtimeJob => sources.runtimeJob.isSome
  | .transitionEvent => sources.approval.transitionEventType.isSome

/-- The checks of one approval status on the rows its contract admits. -/
def validateStatusEvidence (sources : ConversationActionSources) :
    ApprovalStatus → Except ProjectionRaise Unit
  | .approved => match sources.runtimeJob with
      | none => .error (.projectionError
          "approved approval lacks authoritative runtime evidence")
      | some job => do
          refuse (sources.businessAction.any fun action => action.status == "succeeded")
            "successful business action requires an executed approval"
          refuse (job.status = "dead") "dead approval job has not converged the approval"
          refuse (job.status = "succeeded" ∧ job.outcome ≠ some "verification_pending" ∧
              job.deliveryHoldReason ≠ some "state_unknown")
            "completed approval job has not converged the approval"
  | .executed => match sources.businessAction with
      | none => .error (.projectionError
          "executed approval lacks authoritative effect evidence")
      | some action =>
          refuse (action.status ≠ "succeeded" ∨ action.canonicalEventId = none)
            "executed approval lacks authoritative effect evidence"
  | .stale =>
      refuse (sources.businessAction.any fun action => action.status == "succeeded")
        "stale approval conflicts with successful business action"
  | .failed => match sources.runtimeJob with
      | none => .error (.projectionError
          "failed approval lacks confirmed-zero-effect runtime evidence")
      | some job => do
          refuse (¬(job.status = "dead" ∨ job.outcome = some "failed" ∨
              job.outcome = some "infrastructure_exhausted" ∨
              job.outcome = some "verified_zero_effect"))
            "failed approval lacks confirmed-zero-effect runtime evidence"
          refuse (sources.businessAction.any fun action =>
              ("succeeded" :: unresolvedActionStatuses).contains action.status)
            "failed approval conflicts with unresolved or successful business action"
  | .manualTakeover =>
      refuse sources.businessAction.isSome
        "legacy manual takeover conflicts with business action evidence"
  | _ => .ok ()

def validateLifecycleEvidence (sources : ConversationActionSources)
    (status : ApprovalStatus) : Except ProjectionRaise Unit := do
  let contract := lifecycleEvidence status
  refuse (contract.requiredSources.any (fun source => !presentSources sources source) ∨
      contract.forbiddenSources.any (presentSources sources))
    "approval lifecycle evidence is incomplete or contradictory"
  refuse (sources.decision.any fun decision =>
      contract.allowedDecisions.isEmpty ||
        !contract.allowedDecisions.contains decision.decision ||
        decision.canonicalEventId.isNone)
    "human decision conflicts with approval lifecycle"
  refuse (sources.approval.transitionEventType.any fun eventType =>
      !contract.allowedTransitionEvents.contains eventType)
    "transition event conflicts with approval lifecycle"
  validateStatusEvidence sources status

def proposalConflicts (approval : ApprovalActionSourceFact) :
    Option ProposalActionSourceFact → Bool
  | none => true
  | some proposal =>
      approval.proposalId != some proposal.id ||
      approval.tenantId != proposal.tenantId ||
      approval.runId != some proposal.runId ||
      approval.actionType != proposal.actionType ||
      approval.resourceId != proposal.resourceId ||
      approval.businessVersion != proposal.resourceVersion

def validateSources (sources : ConversationActionSources) :
    Except ProjectionRaise ApprovalIdentity := do
  let approval := sources.approval
  let identity ← validateApproval approval
  let status := identity.status
  refuse (approval.transitionEventType.any fun eventType =>
      !(expectedTransitionEvents status).contains eventType)
    "transition event conflicts with approval status"
  refuse (proposalConflicts approval sources.proposal)
    "proposal canonical action identity is missing or conflicts with approval"
  refuse (sources.proposal.any fun proposal =>
      !(expectedProposalStatuses status).contains proposal.status)
    "proposal lifecycle conflicts with approval"
  refuse (sources.decision.any fun decision =>
      decision.tenantId != approval.tenantId || decision.approvalId != approval.id)
    "human decision identity conflicts with approval"
  refuse (sources.businessAction.any fun action =>
      action.tenantId != approval.tenantId ||
      action.ticketId != approval.ticketId ||
      action.customerId != approval.customerId ||
      action.approvalId != some approval.id ||
      action.actionType != approval.actionType ||
      action.resourceId != some approval.resourceId ||
      action.resourceVersion != some approval.businessVersion)
    "business action identity conflicts with approval"
  refuse (sources.withdrawal.any fun withdrawal =>
      withdrawal.tenantId != approval.tenantId ||
      withdrawal.ticketId != approval.ticketId ||
      withdrawal.customerId != approval.customerId ||
      withdrawal.approvalId != approval.id ||
      some withdrawal.proposalId != approval.proposalId)
    "withdrawal identity conflicts with approval"
  refuse (sources.withdrawal.isSome ∧
      sources.businessAction.any fun action => action.status == "succeeded")
    "withdrawal conflicts with successful business action"
  refuse (sources.withdrawal.isSome ∧ status ≠ .withdrawn)
    "withdrawal conflicts with approval status"
  refuse (status ∈ terminalWithoutEffect ∧ sources.businessAction.any fun action =>
      unresolvedActionStatuses.contains action.status)
    "unresolved business action conflicts with no-effect approval terminal state"
  refuse (sources.runtimeJob.any fun job =>
      job.kind != "approval_resume" ||
      job.tenantId != approval.tenantId ||
      job.ticketId != approval.ticketId ||
      some job.runId != approval.runId ||
      job.approvalId != some approval.id)
    "approval runtime job identity conflicts with approval"
  refuse ((sources.runtimeJob.any fun job => job.status == "dead") ∧ status ≠ .failed)
    "dead approval job has not converged the approval"
  validateLifecycleEvidence sources status
  .ok identity

/-! ## Projection -/

def projectionStatus (sources : ConversationActionSources) (status : ApprovalStatus) :
    ProjectionStatus :=
  if status = .manualTakeover then .manualTakeoverLegacy
  else if sources.withdrawal.isSome ∨ status = .withdrawn then .withdrawn
  else match status with
    | .executed => .executed
    | .rejected => .rejected
    | .stale => .stale
    | .failed => .failed
    | .approved =>
        if (sources.runtimeJob.any fun job =>
              job.outcome == some "verification_pending") ∨
            (sources.runtimeJob.any fun job =>
              job.deliveryHoldReason == some "state_unknown") ∨
            (sources.businessAction.any fun action =>
              ["unknown", "verification_pending"].contains action.status) then
          .verificationPending
        else if (sources.runtimeJob.any fun job => job.status == "leased") ∨
            (sources.businessAction.any fun action =>
              ["pending", "running", "executing"].contains action.status) then
          .executing
        else .approved
    | _ => .pending

def decisionClass (sources : ConversationActionSources) (projection : ProjectionStatus) :
    DecisionClass :=
  let decided := sources.decision.map HumanDecisionActionSourceFact.decision
  if projection = .manualTakeoverLegacy ∨ decided = some "manual_takeover" then
    .legacyManualTakeover
  else if sources.withdrawal.isSome ∨ projection = .withdrawn then .customerWithdrawal
  else if decided = some "approve" then .approve
  else if decided = some "edit_and_approve" then .editAndApprove
  else if decided = some "reject" then .reject
  else if projection ∈ [.executed, .rejected, .stale, .failed] then .systemTransition
  else .none

def executionState : ProjectionStatus → ExecutionState
  | .pending => .notStarted
  | .approved => .queued
  | .executing => .inProgress
  | .verificationPending => .verificationPending
  | .executed => .succeeded
  | .rejected => .notExecuted
  | .stale => .notExecuted
  | .withdrawn => .notExecuted
  | .failed => .failed
  | .manualTakeoverLegacy => .legacyStopped

/-- The event that is the source of the projected state: its id and hash. -/
def sourceEvent (sources : ConversationActionSources) (status : ApprovalStatus) :
    Option String × Option String :=
  let approval := sources.approval
  let approvalHead := (approval.expectedTicketHeadEventId, approval.expectedTicketEventHash)
  match status with
  | .withdrawn => (approval.transitionEventId, approval.transitionEventHash)
  | .stale => (approval.transitionEventId, approval.transitionEventHash)
  | .failed => (approval.transitionEventId, approval.transitionEventHash)
  | .executed => match sources.businessAction with
      | some action => (action.canonicalEventId, action.canonicalEventHash)
      | none => approvalHead
  | .approved => match sources.decision with
      | some decision => (decision.canonicalEventId, decision.canonicalEventHash)
      | none => approvalHead
  | .rejected => match sources.decision with
      | some decision => (decision.canonicalEventId, decision.canonicalEventHash)
      | none => approvalHead
  | .manualTakeover => match sources.decision with
      | some decision =>
          if decision.decision = "manual_takeover" then
            (decision.canonicalEventId, decision.canonicalEventHash)
          else approvalHead
      | none => approvalHead
  | .pending => approvalHead

def timestampKey (value : DateTime) : Except ProjectionRaise Instant :=
  match value.instant? with
  | some instant => .ok instant
  | none => .error (.overflowError "date value out of range")

/-- The first of the latest timestamps, as `max` with a key returns it. -/
def latestOf : DateTime → Instant → List DateTime → Except ProjectionRaise DateTime
  | latest, _, [] => .ok latest
  | latest, key, next :: rest => do
      let nextKey ← timestampKey next
      if key < nextKey then latestOf next nextKey rest else latestOf latest key rest

def latestUpdate (sources : ConversationActionSources) :
    Except ProjectionRaise DateTime := do
  let first := sources.approval.updatedAt
  let key ← timestampKey first
  latestOf first key
    ((sources.proposal.map ProposalActionSourceFact.updatedAt).toList ++
      (sources.decision.map HumanDecisionActionSourceFact.updatedAt).toList ++
      (sources.businessAction.map BusinessActionSourceFact.updatedAt).toList ++
      (sources.withdrawal.map ProposalWithdrawalActionSourceFact.updatedAt).toList ++
      (sources.runtimeJob.map ApprovalRuntimeJobSourceFact.updatedAt).toList)

/-! ## The result -/

structure ActionStateFields where
  approvalId : String
  originRunId : String
  originTurnId : String
  actionType : ActionType
  resourceType : String
  resourceId : String
  resourceVersion : Int
  approvalStatus : ApprovalStatus
  projectionStatus : ProjectionStatus
  statusVersion : Int
  actionable : Bool
  allowedCustomerActions : List CustomerAction
  decisionClass : DecisionClass
  customerSafeReasonCode : String
  executionState : ExecutionState
  businessActionId : Option String
  createdAt : DateTime
  updatedAt : DateTime
  sourceEventId : Option String
  sourceEventHash : Option String

/-- The constraints of the result model: field bounds first, then the shape. -/
def ActionStateFields.refusal? (fields : ActionStateFields) : Option String :=
  if fields.resourceVersion < 1 then
    some "resource_version: Input should be greater than or equal to 1"
  else if fields.statusVersion < 1 then
    some "status_version: Input should be greater than or equal to 1"
  else if fields.sourceEventHash.any fun hash => !isSha256Hex hash then
    some "source_event_hash: String should match pattern"
  else if fields.sourceEventId.isNone ≠ fields.sourceEventHash.isNone then
    some "source event identity must be complete or absent"
  else if fields.actionable ≠ !fields.allowedCustomerActions.isEmpty then
    some "actionable must match allowed customer actions"
  else if fields.allowedCustomerActions ≠ [] ∧
      fields.allowedCustomerActions ≠ [.withdraw] then
    some "unsupported customer action"
  else if fields.allowedCustomerActions ≠ [] ∧ fields.projectionStatus ≠ .pending then
    some "only a pending approval may be withdrawn"
  else if fields.customerSafeReasonCode ≠
      SupportGuard.customerSafeReasonCode fields.projectionStatus then
    some "customer-safe reason does not match projection status"
  else none

structure ConversationActionStateV1 extends ActionStateFields where
  valid : toActionStateFields.refusal? = none

def ActionStateFields.validate (fields : ActionStateFields) :
    Except ProjectionRaise ConversationActionStateV1 :=
  match refusal : fields.refusal? with
  | none => .ok ⟨fields, refusal⟩
  | some message => .error (.validationError message)

def projectConversationActionState (sources : ConversationActionSources) :
    Except ProjectionRaise ConversationActionStateV1 := do
  let identity ← validateSources sources
  let approval := sources.approval
  let projection := projectionStatus sources identity.status
  let (sourceEventId, sourceEventHash) := sourceEvent sources identity.status
  let allowedCustomerActions := if projection = .pending then [.withdraw] else []
  let updatedAt ← latestUpdate sources
  ActionStateFields.validate
    { approvalId := approval.id
      originRunId := identity.runId
      originTurnId := approval.originTurnId
      actionType := identity.actionType
      resourceType := approval.resourceType
      resourceId := approval.resourceId
      resourceVersion := approval.businessVersion
      approvalStatus := identity.status
      projectionStatus := projection
      statusVersion := approval.statusVersion
      actionable := !allowedCustomerActions.isEmpty
      allowedCustomerActions
      decisionClass := decisionClass sources projection
      customerSafeReasonCode := customerSafeReasonCode projection
      executionState := executionState projection
      businessActionId := sources.businessAction.map BusinessActionSourceFact.id
      createdAt := approval.createdAt
      updatedAt
      sourceEventId
      sourceEventHash }

/-! ## Executed exactly when the effect succeeded -/

/-- The bundle holds a business action that succeeded. -/
def ConversationActionSources.Succeeded (sources : ConversationActionSources) : Prop :=
  ∃ action, sources.businessAction = some action ∧ action.status = "succeeded"

theorem refuse_eq_ok_iff {condition : Prop} [Decidable condition] {message : String}
    {result : Unit} : refuse condition message = .ok result ↔ ¬condition :=
  refuseWhen_eq_ok_iff

theorem refuse_bind_eq_ok_iff {α : Type} {condition : Prop} [Decidable condition]
    {message : String} {next : Unit → Except ProjectionRaise α} {result : α} :
    (refuse condition message >>= next) = .ok result ↔
      ¬condition ∧ next () = .ok result :=
  refuseWhen_bind_eq_ok_iff

variable {sources : ConversationActionSources}

/-- What validation establishes about withdrawals and lifecycle evidence. -/
theorem validateSources_eq_ok {identity : ApprovalIdentity}
    (accepted : validateSources sources = .ok identity) :
    (sources.withdrawal.isSome → identity.status = .withdrawn) ∧
      validateLifecycleEvidence sources identity.status = .ok () := by
  rcases bind_eq_ok_iff.mp accepted with ⟨read, _, checks⟩
  simp only [refuse_bind_eq_ok_iff] at checks
  rcases checks with ⟨_, _, _, _, _, _, _, withdrawal, _, _, _, remaining⟩
  rcases bind_eq_ok_iff.mp remaining with ⟨_, evidence, equal⟩
  cases equal
  refine ⟨?_, evidence⟩
  intro present
  by_contra other
  exact withdrawal ⟨present, other⟩

/-- What lifecycle evidence establishes: nothing the contract forbids is there,
and the checks of the status itself passed. -/
theorem validateLifecycleEvidence_eq_ok {status : ApprovalStatus}
    (accepted : validateLifecycleEvidence sources status = .ok ()) :
    (∀ source ∈ (lifecycleEvidence status).forbiddenSources,
        presentSources sources source = false) ∧
      validateStatusEvidence sources status = .ok () := by
  simp only [validateLifecycleEvidence, refuse_bind_eq_ok_iff] at accepted
  rcases accepted with ⟨contract, _, _, evidence⟩
  refine ⟨?_, evidence⟩
  intro source member
  rw [Bool.eq_false_iff]
  intro present
  exact contract (.inr (List.any_eq_true.mpr ⟨source, member, present⟩))

theorem not_succeeded_of_none (absent : sources.businessAction.isSome = false) :
    ¬sources.Succeeded := by
  intro succeeded
  rcases succeeded with ⟨action, present, _⟩
  simp [present] at absent

theorem any_succeeded_iff :
    (sources.businessAction.any fun action => action.status == "succeeded") = true ↔
      sources.Succeeded := by
  cases present : sources.businessAction with
  | none => simp [ConversationActionSources.Succeeded, present]
  | some action => simp [ConversationActionSources.Succeeded, present]

/-- The evidence of an approval shows a successful effect exactly when the
approval is executed. -/
theorem succeeded_iff_executed {status : ApprovalStatus}
    (accepted : validateLifecycleEvidence sources status = .ok ()) :
    sources.Succeeded ↔ status = .executed := by
  rcases validateLifecycleEvidence_eq_ok accepted with ⟨forbidden, evidence⟩
  have forbiddenAction (member : EvidenceSource.businessAction ∈
      (lifecycleEvidence status).forbiddenSources) : ¬sources.Succeeded :=
    not_succeeded_of_none (forbidden .businessAction member)
  cases status with
  | pending => simpa using forbiddenAction (by simp [lifecycleEvidence])
  | rejected => simpa using forbiddenAction (by simp [lifecycleEvidence])
  | withdrawn => simpa using forbiddenAction (by simp [lifecycleEvidence])
  | manualTakeover => simpa using forbiddenAction (by simp [lifecycleEvidence])
  | approved =>
      cases job : sources.runtimeJob with
      | none => simp [validateStatusEvidence, job] at evidence
      | some runtimeJob =>
          simp only [validateStatusEvidence, job, refuse_bind_eq_ok_iff,
            any_succeeded_iff] at evidence
          simpa using evidence.1
  | stale =>
      simp only [validateStatusEvidence, refuse_eq_ok_iff, any_succeeded_iff] at evidence
      simpa using evidence
  | failed =>
      cases job : sources.runtimeJob with
      | none => simp [validateStatusEvidence, job] at evidence
      | some runtimeJob =>
          simp only [validateStatusEvidence, job, refuse_bind_eq_ok_iff,
            refuse_eq_ok_iff] at evidence
          simp only [reduceCtorEq, iff_false]
          intro succeeded
          rcases succeeded with ⟨action, present, status⟩
          exact evidence.2 (by simp [present, status])
  | executed =>
      cases present : sources.businessAction with
      | none => simp [validateStatusEvidence, present] at evidence
      | some action =>
          simp only [validateStatusEvidence, present, refuse_eq_ok_iff, not_or,
            not_not] at evidence
          simp only [iff_true]
          exact ⟨action, present, evidence.1⟩

theorem projectionStatus_eq_executed_iff {status : ApprovalStatus}
    (withdrawal : sources.withdrawal.isSome → status = .withdrawn) :
    projectionStatus sources status = .executed ↔ status = .executed := by
  by_cases present : sources.withdrawal.isSome
  · simp [projectionStatus, withdrawal present]
  · cases status with
    | approved =>
        simp only [projectionStatus, present, reduceCtorEq]
        split_ifs <;> simp
    | _ => simp [projectionStatus, present]

theorem projectConversationActionState_eq_ok {state : ConversationActionStateV1}
    (projected : projectConversationActionState sources = .ok state) :
    ∃ identity, validateSources sources = .ok identity ∧
      state.projectionStatus = projectionStatus sources identity.status := by
  rcases bind_eq_ok_iff.mp projected with ⟨identity, validated, built⟩
  rcases bind_eq_ok_iff.mp built with ⟨updatedAt, _, built⟩
  unfold ActionStateFields.validate at built
  split at built
  · cases built
    exact ⟨identity, validated, rfl⟩
  · cases built

/-- A projected action is shown as executed exactly when its bundle holds a
business action that succeeded. -/
theorem projectConversationActionState_executed_iff
    (sources : ConversationActionSources) (state : ConversationActionStateV1)
    (projected : projectConversationActionState sources = .ok state) :
    state.projectionStatus = .executed ↔ ∃ action,
      sources.businessAction = some action ∧ action.status = "succeeded" := by
  rcases projectConversationActionState_eq_ok projected with
    ⟨identity, validated, status⟩
  rcases validateSources_eq_ok validated with ⟨withdrawal, evidence⟩
  rw [status, projectionStatus_eq_executed_iff withdrawal]
  exact (succeeded_iff_executed evidence).symm

def executedExampleTime : DateTime :=
  ⟨⟨63919670400000000, Instant.july2026_inRange⟩, some ⟨0, UtcOffset.utc_bounded⟩⟩

/-- The rows of an approved, executed refund. -/
def executedExample : ConversationActionSources where
  approval :=
    { id := "approval_1", tenantId := "tenant", ticketId := "ticket_1"
      customerId := "customer", proposalId := some "proposal_1", runId := some "run_1"
      actionType := "refund", resourceType := "billing_record_id"
      resourceId := "bill_1", originTurnId := "turn_1", businessVersion := 3
      status := "executed", statusVersion := 4
      createdAt := executedExampleTime, updatedAt := executedExampleTime
      transitionHashValid := by simp
      transitionComplete := by simp
      ticketHeadComplete := by simp }
  proposal := some
    { id := "proposal_1", tenantId := "tenant", runId := "run_1", actionType := "refund"
      resourceId := "bill_1", resourceVersion := 3, status := "stale"
      createdAt := executedExampleTime, updatedAt := executedExampleTime }
  decision := some
    { id := "decision_1", tenantId := "tenant", approvalId := "approval_1"
      decision := "approve", canonicalEventId := some "event_1"
      canonicalEventHash := some (String.ofList (List.replicate 64 'a'))
      createdAt := executedExampleTime, updatedAt := executedExampleTime
      canonicalEventComplete := rfl }
  businessAction := some
    { id := "action_1", tenantId := "tenant", ticketId := "ticket_1"
      customerId := "customer", approvalId := some "approval_1", actionType := "refund"
      resourceId := some "bill_1", resourceVersion := some 3, status := "succeeded"
      canonicalEventId := some "event_2"
      canonicalEventHash := some (String.ofList (List.replicate 64 'b'))
      createdAt := executedExampleTime, updatedAt := executedExampleTime
      canonicalEventComplete := rfl }

theorem projectConversationActionState_executed_refund :
    ∃ state, projectConversationActionState executedExample = .ok state ∧
      (state.projectionStatus = .executed ↔ ∃ action,
        executedExample.businessAction = some action ∧ action.status = "succeeded") := by
  have projected : ∃ state, projectConversationActionState executedExample = .ok state :=
    ⟨_, rfl⟩
  rcases projected with ⟨state, projected⟩
  exact ⟨state, projected,
    projectConversationActionState_executed_iff executedExample state projected⟩

end SupportGuard
