import SupportGuard.Services.ApprovalChecks

/-! # Deciding an approval

`ApprovalCommandCoordinator` of `services/approval_commands.py`, as it acts on a database
that is not PostgreSQL. Audit rows are left out; nothing reads them. -/

namespace SupportGuard

open Foundation Program

/-! ## Reading rows -/

namespace Database

def approvalOf? (database : Database) (tenantId approvalId : String) :
    Option ApprovalRequest :=
  (Table.find ApprovalRequest.id database.approvals approvalId).filter fun approval =>
    approval.tenantId = tenantId

def proposalOf? (database : Database) (tenantId proposalId : String) :
    Option ProposalRecord :=
  (Table.find ProposalRecord.id database.proposals proposalId).filter fun proposal =>
    proposal.tenantId = tenantId

def markerOf? (database : Database) (tenantId markerId : String) :
    Option CheckpointCommitMarker :=
  (Table.find CheckpointCommitMarker.id database.markers markerId).filter fun marker =>
    marker.tenantId = tenantId

def decisionFor? (database : Database) (approvalId : String) : Option HumanDecision :=
  database.decisions.find? fun decision => decision.approvalId = approvalId

def jobFor? (database : Database) (approvalId : String) : Option RuntimeJob :=
  database.jobs.find? fun job => job.approvalId = some approvalId

def updateProposal (database : Database) (proposalId : String)
    (change : ProposalRecord → ProposalRecord) : Database :=
  { database with
    proposals := Table.update ProposalRecord.id proposalId change database.proposals }

end Database

/-! ## Requests -/

structure DecisionRequest where
  tenantId : String
  approvalId : String
  decision : String
  actorId : String
  idempotencyKey : String
  reason : String
  traceId : String
  approverNote : Option String := none
  editedPayload : List (String × Json) := []

namespace DecisionRequest

def scope (request : DecisionRequest) (approval : ApprovalRequest) : IdempotencyScope where
  tenantId := approval.tenantId
  principalId := request.actorId
  route := "POST /api/approvals/" ++ request.approvalId ++ "/decision"
  key := request.idempotencyKey

def payload (request : DecisionRequest) : Json :=
  .object
    [("decision", .string request.decision),
      ("reason", .string request.reason),
      ("approver_note", Json.optionalText request.approverNote),
      ("edited_payload", .object request.editedPayload)]

/-- The status an approval gets. -/
def persistedStatus (request : DecisionRequest) : ApprovalStatus :=
  if request.decision = "reject" then .rejected else .approved

end DecisionRequest

/-- What a decision draws from outside the database, and what the activation of the next
turn draws. -/
structure DecisionDraws where
  revisionId : String
  decisionId : String
  jobId : String
  eventId : String
  outboxId : String
  deliveryId : String
  messageId : String
  now : Instant
  next : Draws

structure DecisionAccepted where
  approvalId : String
  ticketId : String
  runId : String
  jobId : Option String
  decision : String
  acceptedAt : Instant
  reused : Bool
deriving DecidableEq

/-! ## Earlier decisions -/

/-- The response of an earlier request with the same key. -/
def replayedDecision (approval : ApprovalRequest) (snapshot : List (String × SnapshotValue)) :
    Except RuntimeRaise DecisionAccepted := do
  let approvalId ← snapshotText snapshot "approval_id"
  let runId ← snapshotText snapshot "run_id"
  let decision ← snapshotText snapshot "decision"
  let acceptedAt ← snapshotInstant snapshot "accepted_at"
  .ok
    { approvalId
      ticketId := approval.ticketId
      runId
      jobId := snapshotText? snapshot "job_id"
      decision
      acceptedAt
      reused := true }

/-- `_store_idempotent_response`. -/
def storeDecision (scope : IdempotencyScope) (accepted : DecisionAccepted) :
    Program Database RuntimeRaise Unit :=
  storeResponse scope
    ([("approval_id", accepted.approvalId), ("ticket_id", accepted.ticketId),
        ("run_id", accepted.runId)] ++
      (accepted.jobId.map fun jobId => ("job_id", jobId)).toList)
    [("schema_version", .text "decision-accepted.v1"),
      ("approval_id", .text accepted.approvalId),
      ("ticket_id", .text accepted.ticketId),
      ("run_id", .text accepted.runId),
      ("job_id", (accepted.jobId.map SnapshotValue.text).getD .null),
      ("decision", .text accepted.decision),
      ("accepted_at", .text accepted.acceptedAt.isoformat),
      ("status", .text "decision_accepted"),
      ("status_url", (accepted.jobId.map fun _ =>
        SnapshotValue.text ("/api/runs/" ++ accepted.runId)).getD .null),
      ("events_url", .text ("/api/tickets/" ++ accepted.ticketId ++ "/events/stream")),
      ("reused", .flag false)]

/-- The same decision under another key. -/
def reuseDecision (request : DecisionRequest) (approval : ApprovalRequest)
    (existing : HumanDecision) : Program Database RuntimeRaise DecisionAccepted := do
  let database ← reads id
  let job := database.jobFor? approval.id
  refuseWhen (existing.decision ≠ request.decision ∨ request.decision ≠ "reject" ∧ job = none)
    (.runtimeConflict "approval_decision_conflict")
  let accepted : DecisionAccepted :=
    { approvalId := approval.id
      ticketId := approval.ticketId
      runId := approval.runId
      jobId := if request.decision = "reject" then none else job.map RuntimeJob.id
      decision := request.decision
      acceptedAt := existing.createdAt
      reused := true }
  storeDecision (request.scope approval) accepted
  pure accepted

/-! ## The binding of an approval -/

def checkpointBindingConflict : RuntimeRaise :=
  .runtimeConflict "checkpoint_binding_conflict"

/-- The rows agree on the checkpoint at which the run waits. -/
def bindingHolds (approval : ApprovalRequest) (run : AgentRun) (proposal : ProposalRecord)
    (marker : CheckpointCommitMarker) : Bool :=
  approval.status = .pending && proposal.status = .bound && marker.status = .finalized &&
    run.status = "interrupted" &&
    run.canonicalCheckpointNs = approval.canonicalCheckpointNs &&
    run.canonicalCheckpointId = approval.checkpointId &&
    run.canonicalCheckpointHash = approval.canonicalCheckpointHash &&
    marker.finalCheckpointId = approval.checkpointId &&
    marker.finalCheckpointHash = approval.canonicalCheckpointHash &&
    run.canonicalCheckpointVersion = approval.checkpointVersion &&
    marker.finalCheckpointVersion = some approval.checkpointVersion &&
    approval.expectedTicketSequence.isSome

/-- The chain of a ticket verifies. -/
def verifyChain (ticketId : String) : Program Database RuntimeRaise Unit := do
  let database ← reads id
  match verifyTicketEventChain database.events ticketId with
  | .ok _ => pure ()
  | .error (.runtimeError _) | .error (.canonicalEventHeadConflict _) =>
      raise (.runtimeConflict "event_chain_conflict")
  | .error raised => raise (.event raised)

def frozenHead? (database : Database) (ticket : SupportTicket) (approval : ApprovalRequest) :
    Option AgentEvent :=
  database.events.find? fun event =>
    event.ticketId = ticket.id && some event.id = approval.expectedTicketHeadEventId &&
      some event.ticketSequence = approval.expectedTicketSequence &&
      some event.eventHash = approval.expectedTicketEventHash

/-- `_validate_binding`. -/
def validateBinding (approval : ApprovalRequest) :
    Program Database RuntimeRaise (AgentRun × SupportTicket × ProposalRecord) := do
  refuseWhen (approval.runId = "" ∨ approval.proposalId = "" ∨ missing approval.markerId)
    checkpointBindingConflict
  let database ← reads id
  let run ← require (database.runOf? approval.tenantId approval.runId)
    checkpointBindingConflict
  let ticket ← require (database.ticketOf? approval.tenantId approval.ticketId)
    checkpointBindingConflict
  let proposal ← require (database.proposalOf? approval.tenantId approval.proposalId)
    checkpointBindingConflict
  let marker ← require (database.markerOf? approval.tenantId (approval.markerId.getD ""))
    checkpointBindingConflict
  refuseWhen (bindingHolds approval run proposal marker = false) checkpointBindingConflict
  verifyChain ticket.id
  refuseWhen (frozenHead? database ticket approval = none)
    (.runtimeConflict "approval_expected_head_conflict")
  pure (run, ticket, proposal)

/-! ## The revision that is decided on -/

/-- The revision an approval selects is the proposal as it was made. -/
def selectedRevision (approval : ApprovalRequest) (proposal : ProposalRecord) :
    Program Database RuntimeRaise ApprovalActionRevision := do
  let database ← reads id
  let conflict := RuntimeRaise.runtimeConflict "approval_revision_binding_conflict"
  let revision ← require (Table.find ApprovalActionRevision.id database.revisions
    (approval.selectedRevisionId.getD "")) conflict
  refuseWhen (revision.approvalId ≠ approval.id ∨
      some revision.revisionNumber ≠ approval.selectedRevisionNumber ∨
      revision.revisionNumber ≠ 0 ∨
      proposal.actionType ≠ approval.actionType ∨
      (Json.object revision.actionPayload).pyEq (.object proposal.actionPayload) = false ∨
      revision.actionHash ≠ proposal.actionHash ∨
      approval.actionHash ≠ proposal.actionHash)
    conflict
  pure revision

def insertRevision (revision : ApprovalActionRevision) :
    Program Database RuntimeRaise Unit := do
  let database ← reads id
  refuseWhen (database.revisions.any fun other => other.id = revision.id)
    (.integrityError "approval_action_revisions_pkey")
  refuseWhen (database.revisions.any fun other =>
      other.approvalId = revision.approvalId && other.revisionNumber = revision.revisionNumber)
    (.integrityError "uq_approval_revision_number")
  modify fun database => { database with revisions := database.revisions ++ [revision] }

/-- An edit makes a new revision and selects it. The session writes the approval before it
reads the charges of a refund, and the version column advances then. -/
def reviseAction (draws : DecisionDraws) (request : DecisionRequest)
    (approval : ApprovalRequest) (proposal : ProposalRecord)
    (revision : ApprovalActionRevision) :
    Program Database RuntimeRaise ApprovalActionRevision := do
  refuseWhen ((request.decision = "edit_and_approve") ≠ (request.editedPayload ≠ []))
    (.runtimeConflict "approval_edit_not_allowed")
  if request.editedPayload = [] then pure revision
  else do
    let payload ← require
      (applyApprovalEdit approval.actionType revision.actionPayload request.editedPayload)
      (.runtimeConflict "approval_edit_not_allowed")
    let hash ← ofExcept (actionHash payload)
    let edited : ApprovalActionRevision :=
      { id := draws.revisionId
        tenantId := approval.tenantId
        approvalId := approval.id
        proposalId := proposal.id
        snapshotId := revision.snapshotId
        revisionNumber := revision.revisionNumber + 1
        actionPayload := payload
        actionHash := hash
        resourceVersion := revision.resourceVersion
        createdByRef := request.actorId
        revisionReason := "edit_and_approve" }
    insertRevision edited
    modify fun database => database.updateApproval approval.id fun row =>
      { row with
        selectedRevisionId := some edited.id
        selectedRevisionNumber := some edited.revisionNumber
        statusVersion := if approval.actionType = "refund" then row.statusVersion + 1
          else row.statusVersion }
    pure edited

/-- The charges behind a refund are still the ones that were proposed. -/
def checkRefundPair (draws : DecisionDraws) (request : DecisionRequest)
    (approval : ApprovalRequest) (proposal : ProposalRecord) :
    Program Database RuntimeRaise Unit :=
  onlyIf (request.decision ≠ "reject" ∧ approval.actionType = "refund") do
    let database ← reads id
    let evaluated ← ofExcept (evaluateBillingRefundPair database approval.tenantId
      approval.customerId approval.resourceId draws.now)
    refuseWhen (evaluated.all fun evaluated =>
        !evaluated.2.eligible || !refundPairMatchesProposal evaluated.2 proposal)
      (.runtimeConflict "refund_pair_approval_stale")

/-! ## A new decision -/

def decisionHash (request : DecisionRequest) (approval : ApprovalRequest)
    (revision : ApprovalActionRevision) : Except RuntimeRaise String :=
  canonicalHash (.dict
    [(pyKey "approval_id", pyText approval.id),
      (pyKey "actor_id", pyText request.actorId),
      (pyKey "decision", pyText request.decision),
      (pyKey "reason", pyText request.reason),
      (pyKey "approver_note", pyText (request.approverNote.getD "")),
      (pyKey "action_hash", pyText revision.actionHash),
      (pyKey "revision_id", pyText revision.id),
      (pyKey "revision_number", .integer revision.revisionNumber)])

/-- The job that resumes the run; a rejection needs none. -/
def resumeJob (draws : DecisionDraws) (request : DecisionRequest) (approval : ApprovalRequest)
    (run : AgentRun) (ticket : SupportTicket) :
    Program Database RuntimeRaise (Option RuntimeJob) :=
  if request.decision = "reject" then pure none
  else do
    let database ← reads id
    let job ← dispatchJob
      { id := draws.jobId
        tenantId := approval.tenantId
        ticketId := approval.ticketId
        runId := run.id
        dispatchSequence := 0
        approvalId := some approval.id
        kind := .approvalResume
        availableAt := database.clock
        createdAt := database.clock } ticket
    pure (some job)

/-- An event that is refused for its place in the log raises a conflict of its own. -/
def headConflict (code : String) : EventRaise → RuntimeRaise
  | .canonicalEventHeadConflict _ => .runtimeConflict code
  | raised => .event raised

def insertDecision (decision : HumanDecision) : Program Database RuntimeRaise Unit := do
  let database ← reads id
  refuseWhen (database.decisions.any fun other => other.id = decision.id)
    (.integrityError "human_decisions_pkey")
  refuseWhen (database.decisions.any fun other => other.approvalId = decision.approvalId)
    (.integrityError "uq_human_decision_approval")
  modify fun database => { database with decisions := database.decisions ++ [decision] }

def insertMessage (message : TicketMessage) : Program Database RuntimeRaise Unit := do
  let database ← reads id
  refuseWhen (database.messages.any fun other => other.id = message.id)
    (.integrityError "ticket_messages_pkey")
  modify fun database => { database with messages := database.messages ++ [message] }

section

variable (redactPii : PyText → PyText)

/-- Put the decision on record behind the current head of the ticket's log. -/
def recordDecision (draws : DecisionDraws) (request : DecisionRequest)
    (approval : ApprovalRequest) (run : AgentRun) (ticket : SupportTicket)
    (revision : ApprovalActionRevision) (hash : String) :
    Program Database RuntimeRaise HumanDecision := do
  let database ← reads id
  let head ← require
    (Table.latest? AgentEvent.ticketSequence (database.ticketLog ticket.id))
    (.runtimeConflict "event_chain_conflict")
  let event ← mapError (headConflict "approval_expected_head_conflict") (appendEvent redactPii
    { runId := run.id
      eventType := "human_decision_accepted"
      payload := .dict
        [(pyKey "approval_id", pyText approval.id),
          (pyKey "human_decision_id", pyText draws.decisionId),
          (pyKey "decision", pyText request.decision),
          (pyKey "decision_hash", pyText hash),
          (pyKey "action_hash", pyText revision.actionHash),
          (pyKey "revision_id", pyText revision.id),
          (pyKey "revision_number", .integer revision.revisionNumber)]
      visibility := "approver"
      idempotencyId := some request.idempotencyKey
      expectedTicketHeadEventId := some (some head.id)
      expectedTicketSequence := some head.ticketSequence
      expectedTicketEventHash := some (some head.eventHash)
      eventId := draws.eventId
      now := draws.now })
  let decision : HumanDecision :=
    { id := draws.decisionId
      tenantId := approval.tenantId
      approvalId := approval.id
      actionRevisionId := some revision.id
      actorId := request.actorId
      decision := request.decision
      reason := request.reason
      actionHash := some revision.actionHash
      decisionHash := some hash
      canonicalEventId := some event.id
      canonicalEventHash := some event.eventHash
      createdAt := database.clock }
  insertDecision decision
  pure decision

/-- Announce the job that resumes the run, and queue the run and the ticket. -/
def queueResume (draws : DecisionDraws) (request : DecisionRequest) (approval : ApprovalRequest)
    (run : AgentRun) (ticket : SupportTicket) (job : RuntimeJob) :
    Program Database RuntimeRaise Unit := do
  modify fun database =>
    { database with
      outbox := database.outbox ++
        [{ id := draws.outboxId
           deliveryId := draws.deliveryId
           tenantId := approval.tenantId
           jobId := job.id
           runId := run.id
           eventType := "runtime_job_available"
           traceparent := request.traceId }] }
  modify fun database => database.updateRun run.id fun row =>
    { row with status := "queued", statusVersion := row.statusVersion + 1 }
  modify fun database => database.updateTicket ticket.id fun row =>
    { row with status := "queued", version := row.version + 1 }

def rejectedResponse : String :=
  "审批者已拒绝这项申请，因此没有执行任何业务操作。你仍可以在当前对话继续咨询。"

/-- Tell the customer about an approval that ended, once. -/
def publishUpdate (messageId publicationKey : String) (approval : ApprovalRequest)
    (run : Option AgentRun) (ticketId : String) : Program Database RuntimeRaise Unit := do
  let database ← reads id
  let ticket ← require (Table.find SupportTicket.id database.tickets ticketId)
    (.runtimeConflict "ticket_not_found")
  modify fun database => database.updateTicket ticket.id fun row =>
    { row with nextMessageSequence := row.nextMessageSequence + 1 }
  insertMessage
    { id := messageId
      tenantId := approval.tenantId
      ticketId := ticket.id
      turnId := run.bind AgentRun.turnId
      runId := run.map AgentRun.id
      approvalId := some approval.id
      conversationSequence := some (ticket.nextMessageSequence + 1)
      messageKind := "action_update"
      publicationKey := some publicationKey
      role := "action" }

/-- End the run that waited for the approval, and the turn it answered. -/
def endRun (run : AgentRun) (reason : String) (clearError : Bool) :
    Program Database RuntimeRaise Unit := do
  modify fun database => database.updateRun run.id fun row =>
    { row with
      status := "completed"
      checkpointStage := "completed"
      agentFinishReason := some reason
      errorCode := if clearError then none else row.errorCode
      activeJobId := none
      activeFencingToken := none
      statusVersion := row.statusVersion + 1 }
  onlyIf (missing run.turnId = false)
    (modify fun database => database.updateTurn (run.turnId.getD "") fun turn =>
      { turn with activityState := "completed", resultState := some reason })

/-- Let the next turn of the ticket run, and derive the ticket's status again. -/
def continueTicket (draws : Draws) (ticketId traceId defaultStatus : String) :
    Program Database RuntimeRaise Unit := do
  let database ← reads id
  let ticket ← require (Table.find SupportTicket.id database.tickets ticketId)
    (.runtimeConflict "ticket_not_found")
  let _ ← activateNextTurn redactPii draws ticket (traceId ++ ":next-turn")
  let database ← reads id
  let ticket ← require (Table.find SupportTicket.id database.tickets ticketId)
    (.runtimeConflict "ticket_not_found")
  let _ ← convergeTicket ticket defaultStatus
  pure ()

/-- `_converge_rejected_decision`. -/
def convergeRejectedDecision (draws : DecisionDraws) (request : DecisionRequest)
    (approval : ApprovalRequest) (proposal : ProposalRecord) (run : AgentRun)
    (ticket : SupportTicket) : Program Database RuntimeRaise Unit := do
  retireProposal proposal.id
  endRun run "rejected" true
  modify fun database => database.updateTicket ticket.id fun row =>
    { row with
      status := "rejected"
      finalResponse := some rejectedResponse
      version := row.version + 1 }
  let database ← reads id
  let publicationKey := "approval:" ++ approval.id ++ ":rejected"
  onlyIf (¬database.messages.any fun message =>
      message.tenantId = approval.tenantId && message.publicationKey = some publicationKey)
    (publishUpdate draws.messageId publicationKey approval (some run) ticket.id)
  continueTicket redactPii draws.next ticket.id request.traceId "rejected"

/-- The first decision on an approval. -/
def newDecision (draws : DecisionDraws) (request : DecisionRequest)
    (approval : ApprovalRequest) : Program Database RuntimeRaise DecisionAccepted := do
  let (run, ticket, proposal) ← validateBinding approval
  refuseWhen (request.decision ∉ ["approve", "edit_and_approve", "reject"])
    (.runtimeConflict "invalid_approval_decision")
  let selected ← selectedRevision approval proposal
  let revision ← reviseAction draws request approval proposal selected
  checkRefundPair draws request approval proposal
  let _ ← transition approval request.persistedStatus .pending (some approval.statusVersion)
  let hash ← ofExcept (decisionHash request approval revision)
  let job ← resumeJob draws request approval run ticket
  let decision ← recordDecision redactPii draws request approval run ticket revision hash
  match job with
  | some job => queueResume draws request approval run ticket job
  | none => convergeRejectedDecision redactPii draws request approval proposal run ticket
  let accepted : DecisionAccepted :=
    { approvalId := approval.id
      ticketId := ticket.id
      runId := run.id
      jobId := job.map RuntimeJob.id
      decision := request.decision
      acceptedAt := decision.createdAt
      reused := false }
  storeDecision (request.scope approval) accepted
  pure accepted

/-- Decide an approval, or report how it was decided. -/
def ApprovalCommandCoordinator.decide (draws : DecisionDraws) (request : DecisionRequest) :
    Program Database RuntimeRaise DecisionAccepted := do
  refuseWhen (request.decision = "manual_takeover")
    (.runtimeConflict "manual_takeover_public_unsupported")
  let database ← reads id
  let approval ← require (database.approvalOf? request.tenantId request.approvalId)
    (.runtimeConflict "approval_not_found")
  assertActiveApproverScope approval.tenantId request.actorId
  let accepted ← IdempotencyRepository.accept (request.scope approval) request.payload [] []
  if accepted.reused ∧ accepted.record.responseSnapshot ≠ [] then
    ofExcept (replayedDecision approval accepted.record.responseSnapshot)
  else do
    let database ← reads id
    match database.decisionFor? approval.id with
    | some existing => reuseDecision request approval existing
    | none => newDecision redactPii draws request approval

end

/-! ## Stale bindings -/

structure StaleBinding where
  approvalId : String
  reused : Bool
deriving DecidableEq

/-- `mark_binding_stale`. -/
def markBindingStale (tenantId approvalId : String) :
    Program Database RuntimeRaise StaleBinding := do
  let database ← reads id
  match (database.approvalOf? tenantId approvalId).filter fun approval =>
      approval.status = .pending with
  | none => pure { approvalId, reused := true }
  | some approval => do
      let _ ← transition approval .stale .pending (some approval.statusVersion)
      onlyIf (approval.proposalId ≠ "" ∧
          (database.proposalOf? tenantId approval.proposalId).any fun proposal =>
            proposal.status = .draft || proposal.status = .bound)
        (retireProposal approval.proposalId)
      pure { approvalId, reused := false }

end SupportGuard
