import SupportGuard.Contracts.Finalizer
import SupportGuard.Services.ActionExecution
import SupportGuard.Services.CapabilityLedger

/-! # Finalizing an interrupt

`finalize_interrupt` of `services/segment_approval.py`, on a database that is not PostgreSQL:
the proposal of an interrupted run becomes an approval, or joins the approval that its
resource already has. -/

namespace SupportGuard

open Foundation Program

/-! ## What the call reads and draws -/

/-- The stored payload of a marker, with what its validation gives. -/
structure FinalizerPayloadRow where
  markerId : String
  fencingToken : Nat
  verified : Option FinalizerPayloadV2

/-- A citation that a trace supports. -/
structure CitationBindingRow where
  id : String
  tenantId : String
  runId : String
  traceStatus : String

/-- What the call reads beside the tables of the runtime: the markers' outcomes, the payloads,
the citations and the ledger of capabilities. The payload is built again from the tables by
`_build_payload_v2`, and `CitationPublicationValidator` objects to a citation with a reason. -/
structure InterruptRecords where
  segmentOutcomes : List (String × String)
  payloads : List FinalizerPayloadRow
  citations : List CitationBindingRow
  invocations : List PolicyCapabilityInvocation
  results : List PolicyCapabilityResult
  rebuild : Database → JobLease → CheckpointCommitMarker → List (String × Json) → String →
    Except RuntimeRaise String
  citationConflict : Database → String → List (String × Json) → Option String

structure InterruptDraws where
  approvalId : String
  snapshotId : String
  revisionId : String
  answerId : String
  updateId : String
  eventIds : Nat → String
  worker : Option WorkerExecutionContext
  now : Instant
  next : Draws

/-- A call that returns, or that has committed its failure before it raises. -/
inductive InterruptOutcome
  | created (approval : ApprovalRequest)
  | reused (approval : ApprovalRequest)
  | aborted (reason : String)

def interruptNotFinalizable : RuntimeRaise :=
  .runtimeConflict "interrupt_not_finalizable"

/-- The stored spelling of a status. -/
def ApprovalStatus.text : ApprovalStatus → String
  | .pending => "pending"
  | .approved => "approved"
  | .executed => "executed"
  | .rejected => "rejected"
  | .stale => "stale"
  | .withdrawn => "withdrawn"
  | .failed => "failed"
  | .manualTakeover => "manual_takeover"

/-! ## The aggregate -/

structure InterruptDomain where
  ticket : SupportTicket
  proposal : ProposalRecord
  run : AgentRun
  activeApproval : Option ApprovalRequest

/-- `lease.ticket_id or job_probe.ticket_id`. -/
def interruptTicketId (lease : JobLease) (job : RuntimeJob) : String :=
  if missing lease.ticketId then job.ticketId else lease.ticketId.getD ""

def activeApprovals (database : Database) (tenantId customerId actionType resourceType
    resourceId : String) : List ApprovalRequest :=
  database.approvals.filter fun approval =>
    approval.tenantId = tenantId && approval.customerId = customerId &&
      approval.actionType = actionType && approval.resourceType = resourceType &&
      approval.resourceId = resourceId && approval.status.isActive

/-- `_lock_interrupt_finalize_domain`. In one transaction the rows that are read again under
the locks are the rows of the first reads. -/
def lockInterruptFinalizeDomain (lease : JobLease) (proposalId : String) :
    Program Database RuntimeRaise InterruptDomain := do
  let database ← reads id
  let job ← require ((Table.find RuntimeJob.id database.jobs lease.jobId).filter fun job =>
    job.tenantId = lease.tenantId && job.runId = lease.runId) staleFencingToken
  let proposal ← require ((Table.find ProposalRecord.id database.proposals proposalId).filter
    fun proposal => proposal.tenantId = lease.tenantId && proposal.runId = lease.runId)
    staleFencingToken
  let ticketId := interruptTicketId lease job
  let ticket ← require (database.ticketOf? lease.tenantId ticketId) interruptNotFinalizable
  let actionType ← require (ActionType.ofText? proposal.actionType) interruptNotFinalizable
  let active := activeApprovals database lease.tenantId ticket.customerId proposal.actionType
    (actionResourceType actionType) proposal.resourceId
  refuseWhen (1 < active.length) (.runtimeConflict "active_approval_identity_conflict")
  let run ← require ((database.runOf? lease.tenantId lease.runId).filter fun run =>
    run.ticketId = ticketId) interruptNotFinalizable
  refuseWhen (job.ticketId ≠ ticketId) interruptNotFinalizable
  let _ ← assertFence lease
  refuseWhen (proposal.status ≠ .draft) interruptNotFinalizable
  pure { ticket, proposal, run, activeApproval := active.head? }

/-! ## Failing closed -/

section

variable (redactPii : PyText → PyText)

/-- The version column advances when the status changes. -/
def setProposalStatus (proposalId : String) (status : ProposalStatus) :
    Program Database RuntimeRaise Unit :=
  modify fun database => database.updateProposal proposalId fun row =>
    if row.status = status then row
    else { row with status, statusVersion := row.statusVersion + 1 }

def setMarkerStatus (markerId : String) (status : MarkerStatus) :
    Program Database RuntimeRaise Unit :=
  modify fun database =>
    { database with
      markers := Table.update CheckpointCommitMarker.id markerId (fun row =>
        { row with status, statusVersion := row.statusVersion + 1 }) database.markers }

/-- `finalize_control`. -/
def finalizeControl (lease : JobLease) (status : JobStatus) (outcome : String) :
    Program Database RuntimeRaise Unit := do
  let database ← reads id
  let job ← require (Table.find RuntimeJob.id database.jobs lease.jobId) staleFencingToken
  modify fun database => database.updateJob job.id fun row =>
    { row.release status with
      outcome := some outcome
      lastError := if status = .dead then some (shortened outcome) else none }

/-- The run, its turn and its ticket fail. -/
def failAggregate (run : AgentRun) (reason : String) : Program Database RuntimeRaise Unit := do
  modify fun database => database.updateRun run.id fun row =>
    { row with
      status := "failed"
      errorCode := some reason
      activeJobId := none
      activeFencingToken := none
      statusVersion := row.statusVersion + 1 }
  failTurn run
  modify fun database => database.updateTicket run.ticketId fun row =>
    { row with status := "failed", version := row.version + 1 }

/-- `_abort_finalizer`: what is committed before the conflict is raised. -/
def abortFinalizer (draws : InterruptDraws) (lease : JobLease) (markerId proposalId : String)
    (reason : String) : Program Database RuntimeRaise InterruptOutcome := do
  setMarkerStatus markerId .aborted
  setProposalStatus proposalId .stale
  let database ← reads id
  let job := Table.find RuntimeJob.id database.jobs lease.jobId
  refuseWhen (job.any fun job => job.runId ≠ lease.runId || job.tenantId ≠ lease.tenantId ||
    job.fencingToken ≠ lease.fencingToken) staleFencingToken
  let run := Table.find AgentRun.id database.runs lease.runId
  whenSome run fun run => failAggregate run reason
  finalizeControl lease .dead reason
  whenSome run fun run => whenSome job fun job =>
    convergeDeadAggregates redactPii draws.next job run reason
  pure (.aborted reason)

/-! ## Events and messages -/

def isHeadConflict : RuntimeRaise → Bool
  | .event (.canonicalEventHeadConflict _) => true
  | _ => false

/-- An event, or none where the head is not the expected one. -/
def appendOrConflict (request : EventRequest) :
    Program Database RuntimeRaise (Option AgentEvent) :=
  rescue (do
      let event ← mapError .event (appendEvent redactPii request)
      pure (some event))
    isHeadConflict fun _ => pure none

/-- The head that the first event of a segment expects. -/
def expecting (heads : Option FinalizerHeadsV2) (request : EventRequest) : EventRequest :=
  { request with
    expectedTicketHeadEventId := heads.map FinalizerHeadsV2.expectedTicketHeadEventId
    expectedTicketSequence := heads.map FinalizerHeadsV2.expectedTicketSequence
    expectedTicketEventHash := heads.map FinalizerHeadsV2.expectedTicketEventHash }

def textField (event : List (String × Json)) (key : String) (default : Option String) :
    Except RuntimeRaise (Option String) :=
  match event.lookup key with
  | none => .ok default
  | some .null => .ok none
  | some (.string text) => .ok (some text)
  | some _ => .error (.typeError key)

/-- One of the events that the state of a segment lists. -/
def segmentEventRequest (draws : InterruptDraws) (runId : String) (index : Nat)
    (event : List (String × Json)) : Except RuntimeRaise EventRequest := do
  let eventType ← match event.lookup "event_type" with
    | some value => .ok value.toStr
    | none => .error (.keyError "event_type")
  let payload ← dictOf (memberOr event "payload" (.object []))
  let visibility ← textField event "visibility" (some "internal")
  let toolCallId ← textField event "tool_call_id" none
  let stepIndex ← intOf (memberOr event "step_index" (.integer 0))
  let toolRound ← intOf (memberOr event "tool_round" (.integer 0))
  match visibility with
  | none => .error (.typeError "visibility")
  | some visibility =>
      .ok
        { runId
          eventType
          payload := PyValue.ofJson (.object payload)
          visibility
          status := (memberOr event "status" (.string "completed")).toStr
          toolCallId
          stepIndex := some stepIndex
          toolRound := some toolRound
          worker := draws.worker
          eventId := draws.eventIds index
          now := draws.now }

/-- The items that a `for` loop visits. -/
def iterated : Json → Except RuntimeRaise (List Json)
  | .array items => .ok items
  | .string text => .ok (text.toList.map fun character => .string (String.ofList [character]))
  | .object members => .ok (members.map fun member => .string member.1)
  | _ => .error (.typeError "iterable")

def asDictionary (raised : RuntimeRaise) : Json → Except RuntimeRaise (List (String × Json))
  | .object members => .ok members
  | _ => .error raised

/-- Whether all events were appended; the first of them expects the given head. -/
def appendSegmentEvents (draws : InterruptDraws) (runId : String) (heads : FinalizerHeadsV2) :
    Nat → List Json → Program Database RuntimeRaise Bool
  | _, [] => pure true
  | index, item :: rest => do
      let event ← ofExcept (asDictionary (.typeError "segment_events") item)
      let request ← ofExcept (segmentEventRequest draws runId index event)
      let appended ← appendOrConflict redactPii
        (expecting (if index = 0 then some heads else none) request)
      match appended with
      | none => pure false
      | some _ => appendSegmentEvents draws runId heads (index + 1) rest

/-- The events of the segment and the event that closes it; none on a conflict. -/
def appendInterruptEvents (draws : InterruptDraws) (runId : String)
    (verified : FinalizerPayloadV2) (eventType : String) (payload : Json) :
    Program Database RuntimeRaise (Option AgentEvent) := do
  let events ← ofExcept (iterated
    (memberOr verified.stateDelta.state "segment_events" (.array [])))
  let appended ← appendSegmentEvents redactPii draws runId verified.expectedHeads 0 events
  if appended then
    appendOrConflict redactPii
      (expecting (if events = [] then some verified.expectedHeads else none)
        { runId
          eventType
          payload := PyValue.ofJson payload
          visibility := "customer"
          worker := draws.worker
          eventId := draws.eventIds events.length
          now := draws.now })
  else pure none

/-- `_publish_message`. -/
def publishMessage (messageId ticketId : String) (run : AgentRun)
    (kind publicationKey approvalId : String) : Program Database RuntimeRaise Unit := do
  let database ← reads id
  let ticket ← require (Table.find SupportTicket.id database.tickets ticketId)
    (.runtimeConflict "ticket_not_found")
  if database.messages.any fun message => message.tenantId = ticket.tenantId &&
      message.publicationKey = some publicationKey then
    pure ()
  else do
    modify fun database => database.updateTicket ticket.id fun row =>
      { row with nextMessageSequence := row.nextMessageSequence + 1 }
    insertMessage
      { id := messageId
        tenantId := ticket.tenantId
        ticketId := ticket.id
        turnId := run.turnId
        runId := some run.id
        approvalId := some approvalId
        conversationSequence := some (ticket.nextMessageSequence + 1)
        messageKind := kind
        publicationKey := some publicationKey
        role := if kind = "assistant" then "assistant" else "action" }

/-- `_activate_and_converge_application_fallback`. -/
def activateAndConverge (draws : InterruptDraws) (ticketId runId defaultStatus : String) :
    Program Database RuntimeRaise Unit := do
  let database ← reads id
  let ticket ← require (Table.find SupportTicket.id database.tickets ticketId)
    (.runtimeConflict "ticket_not_found")
  let _ ← activateNextTurn redactPii draws.next ticket ("turn-dispatch:" ++ runId)
  let database ← reads id
  let ticket ← require (Table.find SupportTicket.id database.tickets ticketId)
    (.runtimeConflict "ticket_not_found")
  let _ ← convergeTicket ticket defaultStatus
  pure ()

/-! ## The two ways to end -/

/-- What both ways write to the run. -/
def canonicalRun (marker : CheckpointCommitMarker) (run : AgentRun) : AgentRun :=
  { run with
    canonicalCheckpointNs := some marker.privateNamespace
    canonicalCheckpointId := marker.finalCheckpointId
    canonicalCheckpointHash := marker.finalCheckpointHash
    canonicalCheckpointVersion := marker.finalCheckpointVersion.getD 0
    checkpointId := marker.finalCheckpointId
    activeJobId := none
    activeFencingToken := none
    statusVersion := run.statusVersion + 1 }

/-- The proposal, the marker, the run, its turn and the ticket move together. -/
def moveAggregate (domain : InterruptDomain) (marker : CheckpointCommitMarker)
    (proposalStatus : ProposalStatus) (changeRun : AgentRun → AgentRun)
    (activityState resultState ticketStatus : String) :
    Program Database RuntimeRaise Unit := do
  setProposalStatus domain.proposal.id proposalStatus
  setMarkerStatus marker.id .finalized
  modify fun database => database.updateRun domain.run.id fun row =>
    changeRun (canonicalRun marker row)
  onlyIf (missing domain.run.turnId = false)
    (modify fun database => database.updateTurn (domain.run.turnId.getD "") fun turn =>
      { turn with activityState, resultState := some resultState })
  modify fun database => database.updateTicket domain.ticket.id fun row =>
    { row with status := ticketStatus, risk := "high", version := row.version + 1 }

def completeRun (run : AgentRun) : AgentRun :=
  { run with
    status := "completed"
    checkpointStage := "completed"
    agentFinishReason := some "active_approval_reused" }

def interruptRun (run : AgentRun) : AgentRun :=
  { run with status := "interrupted", checkpointStage := "awaiting_approval" }

/-- The answer and a message about the action, the end of the job, and the next turn. -/
def concludeInterrupt (draws : InterruptDraws) (lease : JobLease) (domain : InterruptDomain)
    (kind publicationKey approvalId outcome defaultStatus : String) :
    Program Database RuntimeRaise Unit := do
  publishMessage draws.answerId domain.ticket.id domain.run "assistant"
    ("assistant:" ++ domain.run.id) approvalId
  publishMessage draws.updateId domain.ticket.id domain.run kind publicationKey approvalId
  finalizeControl lease .succeeded outcome
  activateAndConverge redactPii draws domain.ticket.id domain.run.id defaultStatus

/-- `_finalize_reused_approval`. -/
def finalizeReusedApproval (draws : InterruptDraws) (lease : JobLease) (domain : InterruptDomain)
    (marker : CheckpointCommitMarker) (active : ApprovalRequest)
    (verified : FinalizerPayloadV2) : Program Database RuntimeRaise InterruptOutcome := do
  moveAggregate domain marker .stale completeRun "completed" "answered" "resolved"
  let appended ← appendInterruptEvents redactPii draws domain.run.id verified "approval_reused"
    (.object [("approval_id", .string active.id), ("proposal_id", .string domain.proposal.id),
      ("resource_type", .string active.resourceType), ("resource_id", .string active.resourceId),
      ("status", .string active.status.text)])
  match appended with
  | none =>
      abortFinalizer redactPii draws lease marker.id domain.proposal.id
        "finalizer_actual_head_conflict"
  | some _ => do
      concludeInterrupt redactPii draws lease domain "action_update"
        ("approval:" ++ active.id ++ ":reused:" ++ domain.run.id) active.id "completed" "resolved"
      pure (.reused active)

/-- The citations that the bindings of a proposal name. -/
def citationBindingRefs (observationBinding : List Json) :
    Except RuntimeRaise (List String) := do
  let names ← observationBinding.mapM fun binding => do
    let members ← asDictionary (.typeError "observation_binding") binding
    let ids ← iterated (memberOr members "citation_binding_ids" (.array []))
    .ok (ids.map Json.toStr)
  .ok names.flatten.dedup

/-- The citations that are found for a run, by their identifiers. -/
def foundCitations (records : InterruptRecords) (lease : JobLease) (runId : String)
    (refs : List String) : List String :=
  (records.citations.filter fun citation =>
    citation.tenantId = lease.tenantId && citation.runId = runId && citation.id ∈ refs &&
      citation.traceStatus = "terminal_ok").map CitationBindingRow.id

def expectedCapability : ActionType → String
  | .refund => "propose_refund"
  | .apiKeyRevocation => "propose_api_key_revocation"
  | .entitlementChange => "propose_entitlement_change"

/-- The calls of this segment that have proposed the action. -/
def proposalCapabilities (records : InterruptRecords) (lease : JobLease)
    (marker : CheckpointCommitMarker) (run : AgentRun) (proposal : ProposalRecord) :
    List (PolicyCapabilityInvocation × PolicyCapabilityResult) :=
  (records.invocations.flatMap fun invocation => records.results.map fun result =>
    (invocation, result)).filter fun (invocation, result) =>
      result.invocationId = invocation.id && invocation.tenantId = lease.tenantId &&
        invocation.runId = run.id && invocation.jobId = lease.jobId &&
        invocation.segmentId = marker.id && invocation.fencingToken = lease.fencingToken &&
        (ActionType.ofText? proposal.actionType).map expectedCapability =
          some invocation.capabilityName &&
        invocation.status = .succeeded && result.tenantId = lease.tenantId &&
        result.runId = run.id && result.jobId = lease.jobId && result.status = .succeeded &&
        result.payload.get? "proposal_id" = some (.string proposal.id)

def insertApproval (approval : ApprovalRequest) : Program Database RuntimeRaise Unit := do
  let database ← reads id
  refuseWhen (database.approvals.any fun other => other.id = approval.id)
    (.integrityError "approval_requests_pkey")
  refuseWhen (database.approvals.any fun other =>
      other.idempotencyKey = approval.idempotencyKey)
    (.integrityError "uq_approval_idempotency")
  refuseWhen (database.approvals.any fun other => other.proposalId = approval.proposalId)
    (.integrityError "approval_requests_proposal_id_key")
  refuseWhen (approval.status.isActive ∧ database.approvals.any fun other =>
      other.status.isActive && other.tenantId = approval.tenantId &&
        other.customerId = approval.customerId && other.actionType = approval.actionType &&
        other.resourceId = approval.resourceId)
    (.integrityError "uq_approval_active_resource")
  modify fun database => { database with approvals := database.approvals ++ [approval] }

/-- The approval that a proposal asks for, behind the event that announces it. -/
def requestedApproval (draws : InterruptDraws) (lease : JobLease) (domain : InterruptDomain)
    (marker : CheckpointCommitMarker) (actionType : ActionType) (event : AgentEvent) :
    ApprovalRequest where
  id := draws.approvalId
  tenantId := lease.tenantId
  ticketId := domain.ticket.id
  customerId := domain.run.customerId
  runId := domain.run.id
  proposalId := domain.proposal.id
  actionType := domain.proposal.actionType
  resourceType := actionResourceType actionType
  resourceId := domain.proposal.resourceId
  actionPayload := .object domain.proposal.actionPayload
  businessVersion := domain.proposal.resourceVersion
  idempotencyKey := "approval:" ++ domain.proposal.id
  selectedRevisionId := some draws.revisionId
  selectedRevisionNumber := some 0
  actionHash := domain.proposal.actionHash
  markerId := some marker.id
  checkpointId := marker.finalCheckpointId
  canonicalCheckpointNs := some marker.privateNamespace
  canonicalCheckpointHash := marker.finalCheckpointHash
  checkpointVersion := marker.finalCheckpointVersion.getD 0
  expectedTicketHeadEventId := some event.id
  expectedTicketSequence := some event.ticketSequence
  expectedTicketEventHash := some event.eventHash

/-- The rest of `finalize_interrupt`, where the resource has no approval yet. -/
def finalizeNewApproval (records : InterruptRecords) (draws : InterruptDraws) (lease : JobLease)
    (domain : InterruptDomain) (marker : CheckpointCommitMarker) (actionType : ActionType)
    (verified : FinalizerPayloadV2) (testCapability : Bool) :
    Program Database RuntimeRaise InterruptOutcome := do
  let refs ← ofExcept (citationBindingRefs domain.proposal.observationBinding)
  let found := foundCitations records lease domain.run.id refs
  refuseWhen (testCapability = false ∧ (refs = [] ∨ ¬(found ⊆ refs ∧ refs ⊆ found)))
    (.runtimeConflict "approval_citation_lineage_missing")
  refuseWhen (testCapability = false ∧
      (proposalCapabilities records lease marker domain.run domain.proposal).length ≠ 1)
    (.runtimeConflict "approval_policy_binding_missing")
  moveAggregate domain marker .bound interruptRun "waiting_external" "proposal_created"
    "awaiting_approval"
  let appended ← appendInterruptEvents redactPii draws domain.run.id verified
    "approval_interrupted" (.object [("approval_id", .string draws.approvalId),
      ("proposal_id", .string domain.proposal.id)])
  match appended with
  | none =>
      abortFinalizer redactPii draws lease marker.id domain.proposal.id
        "finalizer_actual_head_conflict"
  | some event => do
      let approval := requestedApproval draws lease domain marker actionType event
      insertApproval approval
      concludeInterrupt redactPii draws lease domain "action_proposal"
        ("approval:" ++ approval.id ++ ":proposal") approval.id "interrupted" "awaiting_approval"
      insertRevision
        { id := draws.revisionId
          tenantId := lease.tenantId
          approvalId := approval.id
          proposalId := domain.proposal.id
          snapshotId := draws.snapshotId
          revisionNumber := 0
          actionPayload := domain.proposal.actionPayload
          actionHash := domain.proposal.actionHash
          resourceVersion := domain.proposal.resourceVersion
          createdByRef := "interrupt_finalizer"
          revisionReason := "base_interrupt" }
      pure (.created approval)

/-! ## The call -/

/-- `assert_ticket_head`. -/
def ticketHeadIs (database : Database) (run : AgentRun) (ticket : SupportTicket)
    (heads : FinalizerHeadsV2) : Bool :=
  let parent := Table.latest? AgentEvent.ticketSequence (database.ticketLog run.ticketId)
  let sequence := (parent.map AgentEvent.ticketSequence).getD 0
  ticket.nextEventSequence = sequence &&
    parent.map AgentEvent.id = heads.expectedTicketHeadEventId &&
    sequence = heads.expectedTicketSequence &&
    parent.map AgentEvent.eventHash = heads.expectedTicketEventHash

/-- The run has not moved since the marker was prepared, and the marker has its checkpoint. -/
def parentHolds (run : AgentRun) (marker : CheckpointCommitMarker) : Bool :=
  run.statusVersion = marker.expectedRunVersion && run.status = marker.expectedRunStatus &&
    run.canonicalCheckpointId = marker.canonicalParentId &&
    run.canonicalCheckpointHash = marker.canonicalParentHash &&
    run.canonicalCheckpointVersion = marker.parentCheckpointVersion &&
    !missing marker.finalCheckpointId && !missing marker.finalCheckpointHash &&
    marker.finalCheckpointVersion = some (marker.parentCheckpointVersion + 1)

def hasMaterialClaims (state : List (String × Json)) : Bool :=
  match state.lookup "final" with
  | some (.object final) => (memberOr final "material_claims" .null).truthy
  | _ => false

/-- The reason for which a verified payload is not published. -/
def interruptConflict (records : InterruptRecords) (database : Database)
    (domain : InterruptDomain) (marker : CheckpointCommitMarker) (verified : FinalizerPayloadV2)
    (rebuiltHash : String) : Option String :=
  let state := verified.stateDelta.state
  if rebuiltHash ≠ verified.payloadHash then some "finalizer_head_conflict"
  else if state = [] then some "finalizer_empty_state_delta"
  else match if hasMaterialClaims state then
      records.citationConflict database domain.run.id state else none with
    | some reason => some reason
    | none =>
        if !parentHolds domain.run marker then some "canonical_parent_conflict"
        else if !ticketHeadIs database domain.run domain.ticket verified.expectedHeads then
          some "finalizer_actual_head_conflict"
        else none

/-- `canonical_approval_identity`: the action whose resource the proposal names. -/
def canonicalAction? (proposal : ProposalRecord) (run : AgentRun) : Option ActionType :=
  (ActionType.ofText? proposal.actionType).filter fun _ =>
    proposal.tenantId = run.tenantId && proposal.runId = run.id && proposal.resourceId ≠ "" &&
      1 ≤ proposal.resourceVersion && !missing run.turnId

/-- The delta is that of an interrupt for the proposal. -/
def interruptsFor (proposalId : String) : DomainDeltaV2 → Bool
  | .hitlInterrupt named _ _ _ => named = proposalId
  | _ => false

/-- `finalize_interrupt`. -/
def finalizeInterrupt (records : InterruptRecords) (draws : InterruptDraws) (lease : JobLease)
    (markerId proposalId : String) (testCapability : Bool) :
    Program Database RuntimeRaise InterruptOutcome := do
  let database ← reads id
  let marker ← require (Table.find CheckpointCommitMarker.id database.markers markerId)
    interruptNotFinalizable
  let domain ← lockInterruptFinalizeDomain lease proposalId
  refuseWhen (marker.status ≠ .checkpointWritten) (.runtimeConflict "marker_not_finalizable")
  refuseWhen (records.segmentOutcomes.lookup marker.id ≠ some "interrupted" ∨
      marker.tenantId ≠ lease.tenantId ∨ marker.runId ≠ lease.runId ∨
      marker.jobId ≠ lease.jobId ∨ marker.fencingToken ≠ lease.fencingToken)
    interruptNotFinalizable
  let payload ← require ((Table.find FinalizerPayloadRow.markerId records.payloads
      marker.id).filter fun payload => payload.fencingToken = lease.fencingToken)
    (.runtimeConflict "finalizer_payload_missing")
  match payload.verified with
  | none =>
      abortFinalizer redactPii draws lease marker.id domain.proposal.id
        "finalizer_payload_hash_mismatch"
  | some verified => do
      refuseWhen (interruptsFor proposalId verified.domainDelta = false)
        (.runtimeConflict "finalizer_proposal_mismatch")
      let rebuiltHash ← ofExcept (records.rebuild database lease marker
        verified.stateDelta.state proposalId)
      match interruptConflict records database domain marker verified rebuiltHash with
      | some reason =>
          abortFinalizer redactPii draws lease marker.id domain.proposal.id reason
      | none => do
          let actionType ← require (canonicalAction? domain.proposal domain.run)
            (.runtimeConflict "approval_canonical_identity_invalid")
          match domain.activeApproval with
          | some active =>
              finalizeReusedApproval redactPii draws lease domain marker active verified
          | none =>
              finalizeNewApproval redactPii records draws lease domain marker actionType verified
                testCapability

end

end SupportGuard
