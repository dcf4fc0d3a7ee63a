import SupportGuard.Services.ApprovalCommands
import SupportGuard.Services.ConversationActionState

/-! # Executing an approved action

`RuntimeActionExecutor` of `services/actions.py`, as it acts on a database that is not
PostgreSQL. Audit rows are left out; nothing reads them. -/

namespace SupportGuard

open Foundation Program

/-! ## Results -/

structure ActionResult where
  businessActionId : Option String
  actionType : String
  resourceId : String
  reused : Bool
  status : String := "succeeded"
  reason : Option String := none
deriving DecidableEq

/-- What an execution draws from outside the database, and the worker it runs for. -/
structure ExecutionDraws where
  actionId : String
  eventId : String
  now : Instant
  worker : Option WorkerExecutionContext := none

def ConversionError.toRuntime (convert : String) : ConversionError → RuntimeRaise
  | .typeError => .typeError convert
  | .valueError => .valueError convert
  | .overflowError => .overflowError

/-- `int(value)`. -/
def intOf (value : Json) : Except RuntimeRaise Int :=
  value.toInt.mapError (ConversionError.toRuntime "int")

/-- `dict(value)`. -/
def dictOf (value : Json) : Except RuntimeRaise (List (String × Json)) :=
  value.toDict.mapError (ConversionError.toRuntime "dict")

/-- `members.get(key, default)`. -/
def memberOr (members : List (String × Json)) (key : String) (default : Json) : Json :=
  (members.lookup key).getD default

/-- `members.get(key)`. -/
def member (members : List (String × Json)) (key : String) : Json :=
  memberOr members key .null

/-! ## The resource of an action -/

/-- `primary_read_capability`. -/
def primaryReadCapability : ActionType → String
  | .refund => "query_billing_record"
  | .apiKeyRevocation => "query_api_key_metadata"
  | .entitlementChange => "query_subscription"

/-- `_resource_id`. -/
def resourceIdOf (approval : ApprovalRequest) (revision : ApprovalActionRevision) :
    Program Database RuntimeRaise String := do
  let missingResource := RuntimeRaise.runtimeConflict "approval_resource_missing"
  let actionType ← require (ActionType.ofText? approval.actionType) missingResource
  refuseWhen (approval.resourceType ≠ actionResourceType actionType ∨
      approval.resourceId = "" ∨ revision.resourceVersion ≠ approval.businessVersion)
    missingResource
  pure approval.resourceId

/-- `_effect_identity`. -/
def effectIdentity (approval : ApprovalRequest) (revision : ApprovalActionRevision)
    (resourceId : String) : Except RuntimeRaise String :=
  canonicalHash (.dict
    [(pyKey "tenant_id", pyText approval.tenantId),
      (pyKey "action_type", pyText approval.actionType),
      (pyKey "resource_id", pyText resourceId),
      (pyKey "resource_version", .integer revision.resourceVersion)])

def Database.actionFor? (database : Database) (tenantId actionType resourceId : String)
    (resourceVersion : Int) : Option BusinessAction :=
  database.actions.find? fun action =>
    action.tenantId = tenantId && action.actionType = actionType &&
      action.resourceId = resourceId && action.resourceVersion = resourceVersion

/-! ## The binding of an execution -/

/-- `revision_matches_approval_edit`. -/
def revisionMatchesApprovalEdit (actionType : String)
    (basePayload revisionPayload : List (String × Json)) : Bool :=
  let matchesEdit (editedPayload : List (String × Json)) : Bool :=
    (applyApprovalEdit actionType basePayload editedPayload).any fun expected =>
      (Json.object expected).pyEq (.object revisionPayload)
  if actionType = "refund" then
    matchesEdit [("refund_reason", member revisionPayload "refund_reason")]
  else if actionType = "entitlement_change" then
    match revisionPayload.lookup "target" with
    | some (.object target) =>
        matchesEdit [("target_concurrency", member target "concurrency_limit")]
    | _ => false
  else false

/-- The revision is the proposal itself or one edit away from it. -/
def validateRevision (approval : ApprovalRequest) (proposal : ProposalRecord)
    (revision : ApprovalActionRevision) : Program Database RuntimeRaise Unit :=
  if revision.revisionNumber = 0 then
    refuseWhen
      ((Json.object revision.actionPayload).pyEq (.object proposal.actionPayload) = false ∨
        revision.actionHash ≠ proposal.actionHash)
      (.runtimeConflict "proposal_snapshot_binding_conflict")
  else do
    let conflict := RuntimeRaise.runtimeConflict "proposal_revision_binding_conflict"
    refuseWhen (revision.revisionNumber ≠ 1 ∨ revisionMatchesApprovalEdit approval.actionType
        proposal.actionPayload revision.actionPayload = false)
      conflict
    let hash ← ofExcept (actionHash revision.actionPayload)
    refuseWhen (hash ≠ revision.actionHash) conflict

/-- An item of a proposal's binding that observes the resource. The version is converted
last, and only for an item that passed the other tests. -/
def observesResource (tool resourceId : String) (version : Int)
    (item : List (String × Json)) : Except RuntimeRaise Bool :=
  if member item "tool_name" = .string tool ∧ member item "status" = .string "ok" ∧
      member item "resource_id" = .string resourceId then
    (intOf (memberOr item "resource_version" (.integer (-1)))).map fun observed =>
      decide (observed = version)
  else .ok false

def observesPolicy (item : List (String × Json)) : Bool :=
  member item "tool_name" = .string "search_knowledge" && member item "status" = .string "ok" &&
    (member item "source_refs").truthy

/-- Only dictionaries have members to look at. -/
def bindingItems (binding : List Json) : Except RuntimeRaise (List (List (String × Json))) :=
  binding.mapM fun item => match item with
    | .object members => .ok members
    | _ => .error (.typeError "get")

/-- The observation that an item of a binding names, as the ledger has it. -/
def Database.ledgerObservation? (database : Database) (approval : ApprovalRequest)
    (item : List (String × Json)) : Option ToolObservation :=
  database.observations.find? fun observation =>
    member item "observation_id" = .string observation.id &&
      member item "invocation_id" = .string observation.invocationId &&
      member item "observation_content_hash" = .string observation.contentHash &&
      observation.tenantId = approval.tenantId && observation.runId = approval.runId &&
      observation.status = "ok" &&
      database.invocations.any fun invocation =>
        invocation.id = observation.invocationId &&
          member item "tool_name" = .string invocation.toolName &&
          invocation.lifecycle = .terminal && invocation.outcome = some "succeeded" &&
          database.turnGroups.any fun turn =>
            turn.id = invocation.turnGroupId &&
              member item "turn_group_id" = .string turn.id && turn.status = .closed

/-- An item of a binding against the ledger of tools. -/
def validateObservation (approval : ApprovalRequest) (revision : ApprovalActionRevision)
    (tool resourceField resourceId : String) (item : List (String × Json)) :
    Program Database RuntimeRaise Unit := do
  let database ← reads id
  let observation ← require (database.ledgerObservation? approval item)
    (.runtimeConflict "proposal_observation_ledger_conflict")
  if member item "tool_name" = .string tool then do
    let conflict := RuntimeRaise.runtimeConflict "proposal_business_observation_conflict"
    let data ← ofExcept (dictOf ((observation.payload.get? "data").getD (.object [])))
    refuseWhen ((memberOr data resourceField (.string "")).toStr ≠ resourceId) conflict
    let version ← ofExcept (intOf (memberOr data "version" (.integer (-1))))
    refuseWhen (version ≠ revision.resourceVersion) conflict
  else
    refuseWhen (((observation.payload.get? "source_refs").getD .null).truthy = false)
      (.runtimeConflict "proposal_policy_evidence_conflict")

/-- `validate_execution_binding`: the proposal still rests on the observations it was made
from. -/
def validateExecutionBinding (approval : ApprovalRequest) (revision : ApprovalActionRevision) :
    Program Database RuntimeRaise ProposalRecord := do
  let database ← reads id
  let conflict := RuntimeRaise.runtimeConflict "proposal_snapshot_binding_conflict"
  let proposal ← require (Table.find ProposalRecord.id database.proposals approval.proposalId)
    conflict
  refuseWhen (proposal.tenantId ≠ approval.tenantId ∨ proposal.runId ≠ approval.runId ∨
      proposal.actionType ≠ approval.actionType ∨
      proposal.resourceVersion ≠ revision.resourceVersion)
    conflict
  validateRevision approval proposal revision
  let actionType ← require (ActionType.ofText? approval.actionType)
    (.runtimeConflict "unsupported_runtime_action")
  let tool := primaryReadCapability actionType
  let resourceField := actionResourceType actionType
  let resourceId := (memberOr revision.actionPayload resourceField (.string "")).toStr
  let items ← ofExcept (bindingItems proposal.observationBinding)
  let business ← ofExcept (items.filterM
    (observesResource tool resourceId revision.resourceVersion))
  match business, (items.filter observesPolicy).getLast? with
  | [resource], some policy => do
      validateObservation approval revision tool resourceField resourceId resource
      validateObservation approval revision tool resourceField resourceId policy
      pure proposal
  | _, _ => raise (.runtimeConflict "proposal_observation_binding_conflict")

/-- `assert_mutation_enabled`. -/
def assertMutationEnabled (tenantId actionType : String) :
    Program Database RuntimeRaise Unit := do
  let database ← reads id
  let switch := database.killSwitches.find? fun switch =>
    switch.tenantId = tenantId && switch.actionType = actionType
  refuseWhen (switch.all fun switch => !switch.enabled)
    (.runtimeConflict ("mutation_disabled:" ++ actionType))

def RuntimeRaise.isConflict : RuntimeRaise → Bool
  | .runtimeConflict _ => true
  | _ => false

/-- Whether the scope or the binding is refused; other exceptions pass. -/
def executionBindingStale (approval : ApprovalRequest) (decision : HumanDecision)
    (revision : ApprovalActionRevision) : Program Database RuntimeRaise Bool :=
  rescue
    (do
      assertActiveApproverScope approval.tenantId decision.actorId
      let _ ← validateExecutionBinding approval revision
      pure false)
    RuntimeRaise.isConflict fun _ => pure true

/-! ## Stale actions -/

section

variable (redactPii : PyText → PyText)

/-- Publish that an action was not carried out, right behind the decision. -/
def publishReconciliation (draws : ExecutionDraws) (approval : ApprovalRequest)
    (reason : String) (run : AgentRun) : Program Database RuntimeRaise Unit := do
  let database ← reads id
  let unbound := RuntimeRaise.runtimeConflict "action_decision_event_binding_missing"
  let decision ← require (database.decisionFor? approval.id) unbound
  refuseWhen (missing decision.canonicalEventId ∨ missing decision.canonicalEventHash) unbound
  forgetResult (mapError (headConflict "action_expected_head_conflict") (appendEvent redactPii
    { runId := run.id
      eventType := "runtime_action_reconciliation"
      payload := .dict
        [(pyKey "approval_id", pyText approval.id),
          (pyKey "status", pyText "stale"),
          (pyKey "reason", pyText reason)]
      visibility := "approver"
      expectedTicketHeadEventId := some decision.canonicalEventId
      expectedTicketEventHash := some decision.canonicalEventHash
      worker := draws.worker
      eventId := draws.eventId
      now := draws.now }))

/-- `_mark_stale`. -/
def markStale (draws : ExecutionDraws) (approval : ApprovalRequest) (resourceId : String)
    (reason : String) : Program Database RuntimeRaise ActionResult := do
  let _ ← transition approval .stale approval.status (some approval.statusVersion)
  onlyIf (approval.proposalId ≠ "") (retireProposal approval.proposalId)
  let database ← reads id
  whenSome (Table.find AgentRun.id database.runs approval.runId)
    (publishReconciliation redactPii draws approval reason)
  pure
    { businessActionId := none
      actionType := approval.actionType
      resourceId
      reused := false
      status := "stale"
      reason := some reason }

/-! ## Effects -/

/-- `_action`. -/
def buildAction (draws : ExecutionDraws) (approval : ApprovalRequest)
    (revision : ApprovalActionRevision) (resourceId : String)
    (result : List (String × Json)) : Except RuntimeRaise BusinessAction := do
  let identity ← effectIdentity approval revision resourceId
  .ok
    { id := draws.actionId
      tenantId := approval.tenantId
      ticketId := approval.ticketId
      customerId := approval.customerId
      actionType := approval.actionType
      resourceId
      resourceVersion := revision.resourceVersion
      actionHash := revision.actionHash
      approvalId := approval.id
      actionRevisionId := revision.id
      effectIdentity := identity
      status := "succeeded"
      idempotencyKey :=
        if approval.actionType = "refund" then approval.idempotencyKey
        else "effect:" ++ approval.tenantId ++ ":" ++ approval.actionType ++ ":" ++ resourceId ++
          ":" ++ toString revision.resourceVersion
      result := .object (("approval_id", .string approval.id) :: result) }

def insertAction (action : BusinessAction) : Program Database RuntimeRaise Unit := do
  let database ← reads id
  refuseWhen (database.actions.any fun other => other.id = action.id)
    (.integrityError "business_actions_pkey")
  refuseWhen (database.actions.any fun other =>
      other.actionType = action.actionType && other.idempotencyKey = action.idempotencyKey)
    (.integrityError "uq_action_type_idempotency")
  refuseWhen (database.actionFor? action.tenantId action.actionType action.resourceId
      action.resourceVersion).isSome
    (.integrityError "uq_business_action_resource_effect")
  refuseWhen (database.actions.any fun other =>
      other.tenantId = action.tenantId && other.effectIdentity = action.effectIdentity)
    (.integrityError "uq_business_action_effect_identity")
  modify fun database => { database with actions := database.actions ++ [action] }

/-- Write the changed resource together with the action that changed it. -/
def commitEffect (change : Database → Database) (action : BusinessAction) :
    Program Database RuntimeRaise ActionResult := do
  modify change
  insertAction action
  pure
    { businessActionId := some action.id
      actionType := action.actionType
      resourceId := action.resourceId
      reused := false }

/-! ## Refunds -/

/-- The charge and the pair it belongs to are as the action was proposed. -/
def refundSnapshotValid (approval : ApprovalRequest) (revision : ApprovalActionRevision)
    (proposal : Option ProposalRecord) (billing : BillingRecord)
    (evaluation : RefundPairEvaluation) : Bool :=
  let payload := revision.actionPayload
  billing.customerId = approval.customerId &&
    member payload "customer_id" = .string approval.customerId &&
    billing.status = "charged" && billing.version = revision.resourceVersion &&
    (Json.integer revision.resourceVersion).pyEq (member payload "business_version") &&
    numericText billing.amount = (member payload "amount").toStr &&
    member payload "currency" = .string billing.currency &&
    proposal.any (refundPairMatchesProposal evaluation)

def markRefunded (billing : BillingRecord) (database : Database) : Database :=
  { database with
    billing := Table.update BillingRecord.id billing.id
      (fun row => { row with status := "refunded", version := row.version + 1 })
      database.billing }

/-- The approvals that wait for a refund of the same charge. -/
def Database.siblingRefunds (database : Database) (approval : ApprovalRequest)
    (billing : BillingRecord) : List ApprovalRequest :=
  database.approvals.filter fun sibling =>
    sibling.id ≠ approval.id && sibling.tenantId = approval.tenantId &&
      sibling.customerId = approval.customerId && sibling.status = .pending &&
      sibling.actionType = "refund" &&
      sibling.actionPayload.get? "billing_record_id" = some (.string billing.id)

def staleSiblings : List ApprovalRequest → Program Database RuntimeRaise Unit
  | [] => pure ()
  | sibling :: rest => do
      let _ ← transition sibling .stale .pending (some sibling.statusVersion)
      staleSiblings rest

/-- `_refund`. -/
def refund (draws : ExecutionDraws) (approval : ApprovalRequest)
    (revision : ApprovalActionRevision) (resourceId : String) :
    Program Database RuntimeRaise ActionResult := do
  let database ← reads id
  let evaluated ← ofExcept (evaluateBillingRefundPair database approval.tenantId
    approval.customerId resourceId draws.now)
  let proposal := Table.find ProposalRecord.id database.proposals approval.proposalId
  match evaluated.filter fun evaluated =>
      refundSnapshotValid approval revision proposal evaluated.1 evaluated.2 with
  | none => markStale redactPii draws approval resourceId "refund_snapshot_stale"
  | some (billing, _) => do
      let action ← ofExcept (buildAction draws approval revision resourceId
        [("billing_record_id", .string billing.id),
          ("amount", .string (numericText billing.amount)),
          ("currency", .string billing.currency)])
      let result ← commitEffect (markRefunded billing) action
      staleSiblings (database.siblingRefunds approval billing)
      pure result

/-! ## Keys -/

def Database.apiKeyOf? (database : Database) (tenantId customerId keyId : String) :
    Option ApiKeyMetadata :=
  database.apiKeys.find? fun key =>
    key.tenantId = tenantId && key.customerId = customerId && key.keyId = keyId

def markRevoked (key : ApiKeyMetadata) (database : Database) : Database :=
  { database with
    apiKeys := Table.update ApiKeyMetadata.id key.id
      (fun row => { row with status := "revoked", version := row.version + 1 })
      database.apiKeys }

/-- `_revoke_key`. -/
def revokeKey (draws : ExecutionDraws) (approval : ApprovalRequest)
    (revision : ApprovalActionRevision) (resourceId : String) :
    Program Database RuntimeRaise ActionResult := do
  let database ← reads id
  match (database.apiKeyOf? approval.tenantId approval.customerId resourceId).filter fun key =>
      key.status = "active" && key.version = revision.resourceVersion &&
        member revision.actionPayload "fingerprint" = .string key.fingerprint with
  | none => markStale redactPii draws approval resourceId "api_key_snapshot_stale"
  | some key => do
      let action ← ofExcept (buildAction draws approval revision resourceId
        [("status", .string "revoked")])
      commitEffect (markRevoked key) action

/-! ## Entitlements -/

def Database.subscriptionOf? (database : Database)
    (tenantId customerId subscriptionId : String) : Option Subscription :=
  database.subscriptions.find? fun subscription =>
    subscription.tenantId = tenantId && subscription.customerId = customerId &&
      subscription.id = subscriptionId

/-- A limit within the bounds of the plan. -/
def limitWithin (minimum maximum : Int) (limit : Json) : Except RuntimeRaise Bool :=
  (intOf limit).map fun value => decide (minimum ≤ value ∧ value ≤ maximum)

/-- The latest catalog of the plan allows the one limit that is changed. -/
def quotaAllowed (catalog : Option PlanCatalog) (target : List (String × Json)) :
    Except RuntimeRaise Bool :=
  match catalog with
  | none => .ok false
  | some catalog =>
      if onlyKey target "rpm_limit" then
        limitWithin catalog.minRpm catalog.maxRpm (member target "rpm_limit")
      else if onlyKey target "concurrency_limit" then
        limitWithin catalog.minConcurrency catalog.maxConcurrency
          (member target "concurrency_limit")
      else .ok false

/-- Why the change is out of date; none when it is not. -/
def entitlementStale? (database : Database) (subscription : Subscription)
    (changeType : String) (target : List (String × Json)) :
    Except RuntimeRaise (Option String) := do
  if changeType = "quota_change" then
    let catalog := Table.latest? PlanCatalog.version
      (database.planCatalog.filter fun catalog => catalog.plan = subscription.plan)
    let allowed ← quotaAllowed catalog target
    .ok (if allowed then none else some "entitlement_policy_stale")
  else if changeType = "plan_change" then
    let plan := (memberOr target "plan" (.string "")).toStr
    .ok (if plan = "" ∨ (database.planCatalog.all fun catalog => catalog.plan ≠ plan) then
      some "entitlement_plan_stale" else none)
  else .ok (some "entitlement_change_type_stale")

/-- The limit of a target, or the current one. -/
def limitOr (target : List (String × Json)) (key : String) (current : Int) :
    Except RuntimeRaise Int :=
  match target.lookup key with
  | some value => intOf value
  | none => .ok current

def markEntitled (subscription : Subscription) (plan : String)
    (rpmLimit concurrencyLimit : Int) (database : Database) : Database :=
  { database with
    subscriptions := Table.update Subscription.id subscription.id
      (fun row => { row with plan, rpmLimit, concurrencyLimit, version := row.version + 1 })
      database.subscriptions }

/-- `_change_entitlement`. -/
def changeEntitlement (draws : ExecutionDraws) (approval : ApprovalRequest)
    (revision : ApprovalActionRevision) (resourceId : String) :
    Program Database RuntimeRaise ActionResult := do
  let database ← reads id
  match (database.subscriptionOf? approval.tenantId approval.customerId resourceId).filter
      fun subscription => subscription.version = revision.resourceVersion with
  | none => markStale redactPii draws approval resourceId "entitlement_snapshot_stale"
  | some subscription => do
      let payload := revision.actionPayload
      let target ← ofExcept (dictOf (memberOr payload "target" (.object [])))
      let changeType := (memberOr payload "change_type" (.string "")).toStr
      match ← ofExcept (entitlementStale? database subscription changeType target) with
      | some reason => markStale redactPii draws approval resourceId reason
      | none => do
          let plan := ((target.lookup "plan").map Json.toStr).getD subscription.plan
          let rpmLimit ← ofExcept (limitOr target "rpm_limit" subscription.rpmLimit)
          let concurrencyLimit ← ofExcept
            (limitOr target "concurrency_limit" subscription.concurrencyLimit)
          let action ← ofExcept (buildAction draws approval revision resourceId
            [("before", .object
                [("plan", .string subscription.plan),
                  ("rpm_limit", .integer subscription.rpmLimit),
                  ("concurrency_limit", .integer subscription.concurrencyLimit)]),
              ("after", .object target)])
          commitEffect (markEntitled subscription plan rpmLimit concurrencyLimit) action

/-! ## Execution -/

def Database.updateAction (database : Database) (actionId : String)
    (change : BusinessAction → BusinessAction) : Database :=
  { database with actions := Table.update BusinessAction.id actionId change database.actions }

/-- `_bind_action_event`: the effect is on record right behind the decision. -/
def bindActionEvent (draws : ExecutionDraws) (approval : ApprovalRequest)
    (decision : HumanDecision) (action : BusinessAction) :
    Program Database RuntimeRaise Unit := do
  refuseWhen (missing decision.decisionHash) (.runtimeConflict "decision_hash_missing")
  let database ← reads id
  let run ← require (Table.find AgentRun.id database.runs approval.runId)
    (.runtimeConflict "action_run_missing")
  let event ← mapError (headConflict "action_expected_head_conflict") (appendEvent redactPii
    { runId := run.id
      eventType := "runtime_action_committed"
      payload := .dict
        [(pyKey "approval_id", pyText approval.id),
          (pyKey "human_decision_id", pyText decision.id),
          (pyKey "decision_hash", pyText (decision.decisionHash.getD "")),
          (pyKey "business_action_id", pyText action.id),
          (pyKey "effect_identity", pyText action.effectIdentity),
          (pyKey "action_hash", pyText action.actionHash)]
      visibility := "approver"
      expectedTicketHeadEventId := some decision.canonicalEventId
      expectedTicketEventHash := some decision.canonicalEventHash
      worker := draws.worker
      eventId := draws.eventId
      now := draws.now })
  modify fun database => database.updateAction action.id fun row =>
    { row with
      humanDecisionId := some decision.id
      decisionHash := decision.decisionHash
      canonicalEventId := some event.id
      canonicalEventHash := some event.eventHash }

/-- The approval is used up. -/
def consumeApproval (draws : ExecutionDraws) (approval : ApprovalRequest) :
    Program Database RuntimeRaise Unit := do
  let _ ← transition approval .executed .approved (some approval.statusVersion)
  modify fun database => database.updateApproval approval.id fun row =>
    { row with consumedAt := some draws.now, statusVersion := row.statusVersion + 1 }

/-- The decision that approved an action, and the revision it approved. -/
def approvedRevision (approval : ApprovalRequest) :
    Program Database RuntimeRaise (HumanDecision × ApprovalActionRevision) := do
  let database ← reads id
  let conflict := RuntimeRaise.runtimeConflict "action_decision_binding_conflict"
  let decision ← require (database.decisionFor? approval.id) conflict
  let revision ← require (Table.find ApprovalActionRevision.id database.revisions
    (approval.selectedRevisionId.getD "")) conflict
  refuseWhen (decision.actionRevisionId ≠ some revision.id ∨
      decision.decision ∉ ["approve", "edit_and_approve"] ∨
      decision.actionHash ≠ some revision.actionHash)
    conflict
  pure (decision, revision)

/-- An action that was carried out before is reported, once it is sure to be this one. -/
def reconcileAction (draws : ExecutionDraws) (approval : ApprovalRequest)
    (decision : HumanDecision) (revision : ApprovalActionRevision) (resourceId : String)
    (existing : BusinessAction) : Program Database RuntimeRaise ActionResult := do
  let conflict := RuntimeRaise.runtimeConflict "action_effect_binding_conflict"
  refuseWhen (existing.actionHash ≠ revision.actionHash ∨
      existing.result.get? "approval_id" ≠ some (.string approval.id) ∨
      existing.approvalId ≠ approval.id ∨ existing.humanDecisionId ≠ some decision.id ∨
      existing.decisionHash ≠ decision.decisionHash ∨
      existing.actionRevisionId ≠ revision.id)
    conflict
  let identity ← ofExcept (effectIdentity approval revision resourceId)
  refuseWhen (existing.effectIdentity ≠ identity ∨ missing existing.canonicalEventId ∨
      missing existing.canonicalEventHash)
    conflict
  refuseWhen (approval.status ≠ .approved ∧ approval.status ≠ .executed)
    (.runtimeConflict "approval_not_executable")
  onlyIf (approval.status = .approved) (consumeApproval draws approval)
  onlyIf (approval.proposalId ≠ "") (retireProposal approval.proposalId)
  pure
    { businessActionId := some existing.id
      actionType := existing.actionType
      resourceId
      reused := true }

/-- The effect of an action, by its type. -/
def performEffect (draws : ExecutionDraws) (approval : ApprovalRequest)
    (revision : ApprovalActionRevision) (resourceId : String) :
    Program Database RuntimeRaise ActionResult :=
  match ActionType.ofText? approval.actionType with
  | some .refund => refund redactPii draws approval revision resourceId
  | some .apiKeyRevocation => revokeKey redactPii draws approval revision resourceId
  | some .entitlementChange => changeEntitlement redactPii draws approval revision resourceId
  | none => raise (.runtimeConflict "unsupported_runtime_action")

/-- The other proposals for the resource have nothing left to propose. -/
def retireProposalsFor (approval : ApprovalRequest) (resourceId : String) :
    Program Database RuntimeRaise Unit :=
  modify fun database =>
    { database with
      proposals := database.proposals.map fun proposal =>
        if proposal.tenantId = approval.tenantId ∧ proposal.actionType = approval.actionType ∧
            proposal.resourceId = resourceId ∧
            (proposal.status = .draft ∨ proposal.status = .bound) then
          { proposal with status := .stale, statusVersion := proposal.statusVersion + 1 }
        else proposal }

/-- An action that was not carried out before. -/
def executeNew (draws : ExecutionDraws) (approval : ApprovalRequest)
    (decision : HumanDecision) (revision : ApprovalActionRevision) (resourceId : String) :
    Program Database RuntimeRaise ActionResult := do
  let stale ← executionBindingStale approval decision revision
  if stale then markStale redactPii draws approval resourceId "action_snapshot_stale"
  else do
    assertMutationEnabled approval.tenantId approval.actionType
    refuseWhen (approval.status ≠ .approved ∨ approval.consumedAt.isSome)
      (.runtimeConflict "approval_not_executable")
    let hash ← ofExcept (actionHash revision.actionPayload)
    if hash ≠ revision.actionHash then
      markStale redactPii draws approval resourceId "action_snapshot_stale"
    else do
      let result ← performEffect redactPii draws approval revision resourceId
      if result.status = "stale" then pure result
      else do
        let database ← reads id
        let action ← require (Table.find BusinessAction.id database.actions
          (result.businessActionId.getD "")) (.runtimeConflict "business_action_missing")
        bindActionEvent redactPii draws approval decision action
        consumeApproval draws approval
        retireProposalsFor approval resourceId
        pure result

/-- Carry out an approved action under a lease, at most once. -/
def RuntimeActionExecutor.execute (draws : ExecutionDraws) (lease : JobLease)
    (approvalId : String) : Program Database RuntimeRaise ActionResult := do
  let _ ← assertFence lease
  let database ← reads id
  let approval ← require ((Table.find ApprovalRequest.id database.approvals approvalId).filter
    fun approval => approval.runId = lease.runId) (.runtimeConflict "approval_not_found")
  let (decision, revision) ← approvedRevision approval
  let resourceId ← resourceIdOf approval revision
  match database.actionFor? approval.tenantId approval.actionType resourceId
      revision.resourceVersion with
  | some existing => reconcileAction draws approval decision revision resourceId existing
  | none => executeNew redactPii draws approval decision revision resourceId

end

end SupportGuard
