import SupportGuard.Services.ApprovalCommands

/-! # Accepting messages

`CommandCoordinator.accept_message` of `services/commands.py`, as it acts on a database
that is not PostgreSQL. The title of a conversation, its time of last activity and the
audit trail, which nothing here reads, are left out. -/

namespace SupportGuard

open Foundation Program

structure MessageRequest where
  ticketId : String
  customerId : String
  principalId : String
  idempotencyKey : String
  message : String
  traceId : String

/-- What a call draws, and the application's time at which it accepts. -/
structure MessageDraws extends Draws where
  turnId : String
  acceptedAt : Instant

structure ProviderIdentity where
  model : String := "deterministic-fake"
  providerMode : String := "fake"
  toolCallMode : String := "native_fixture"

structure CommandAccepted where
  ticketId : String
  runId : Option String
  jobId : Option String
  acceptedAt : Instant
  reused : Bool
  status : String := "queued"
deriving DecidableEq

/-! ## Requests -/

def MessageRequest.scope (request : MessageRequest) (ticket : SupportTicket) :
    IdempotencyScope where
  tenantId := ticket.tenantId
  principalId := request.principalId
  route := "POST /api/tickets/" ++ request.ticketId ++ "/messages"
  key := request.idempotencyKey

/-- The request that is hashed, with its redacted text. -/
def messagePayload (text : String) : Json :=
  .object [("message", .string text)]

/-- Only the agent's tickets get a run for a message. -/
def SupportTicket.schedules (ticket : SupportTicket) : Bool :=
  ticket.automationMode = "agent"

def messageResources (draws : MessageDraws) (ticket : SupportTicket) : List (String × String) :=
  ("ticket_id", ticket.id) ::
    if ticket.schedules then [("run_id", draws.runId), ("job_id", draws.jobId)] else []

def messageSnapshot (draws : MessageDraws) (ticket : SupportTicket) :
    List (String × SnapshotValue) :=
  [("schema_version", .text "command-accepted.v1"),
    ("ticket_id", .text ticket.id),
    ("run_id", if ticket.schedules then .text draws.runId else .null),
    ("job_id", if ticket.schedules then .text draws.jobId else .null),
    ("accepted_at", .text draws.acceptedAt.isoformat),
    ("status", .text (if ticket.schedules then "queued" else "accepted")),
    ("status_url", if ticket.schedules then .text ("/api/runs/" ++ draws.runId) else .null),
    ("events_url", .text ("/api/tickets/" ++ ticket.id ++ "/events/stream")),
    ("reused", .flag false)]

/-- `str(snapshot[key]) if snapshot.get(key) else None`. -/
def snapshotPresent? (snapshot : List (String × SnapshotValue)) (key : String) :
    Option String :=
  match snapshot.lookup key with
  | some (.text value) => if value = "" then none else some value
  | some (.flag true) => some "True"
  | _ => none

/-- `_accepted_from_record`. -/
def acceptedFromRecord (record : IdempotencyRequest) : Except RuntimeRaise CommandAccepted := do
  let ticketId ← snapshotText record.responseSnapshot "ticket_id"
  let acceptedAt ← snapshotInstant record.responseSnapshot "accepted_at"
  .ok
    { ticketId
      runId := snapshotPresent? record.responseSnapshot "run_id"
      jobId := snapshotPresent? record.responseSnapshot "job_id"
      acceptedAt
      reused := true
      status := ((record.responseSnapshot.lookup "status").map SnapshotValue.str).getD "queued" }

/-! ## Rows -/

/-- A message of a customer has no publication key, so that constraint is not in its way. -/
def insertCustomerMessage (message : TicketMessage) : Program Database RuntimeRaise Unit := do
  let database ← reads id
  refuseWhen (database.messages.any fun other =>
      other.ticketId = message.ticketId &&
        other.conversationSequence = message.conversationSequence)
    (.integrityError "uq_ticket_message_conversation_sequence")
  insertMessage message

def insertTurn (turn : ConversationTurn) : Program Database RuntimeRaise Unit := do
  let database ← reads id
  refuseWhen (database.turns.any fun other => other.id = turn.id)
    (.integrityError "conversation_turns_pkey")
  refuseWhen (database.turns.any fun other =>
      other.ticketId = turn.ticketId && other.ordinal = turn.ordinal)
    (.integrityError "uq_conversation_turn_ticket_ordinal")
  refuseWhen (database.turns.any fun other =>
      other.customerMessageId = turn.customerMessageId)
    (.integrityError "uq_conversation_turn_customer_message")
  modify fun database => { database with turns := database.turns ++ [turn] }

/-- A turn and a run belong to one another alone. -/
def checkPairing (turnId runId : String) : Program Database RuntimeRaise Unit := do
  let database ← reads id
  refuseWhen (database.runs.any fun other => other.id ≠ runId && other.turnId = some turnId)
    (.integrityError "uq_agent_runs_turn")
  refuseWhen (database.turns.any fun other => other.id ≠ turnId && other.runId = some runId)
    (.integrityError "uq_conversation_turn_run")

/-- A number of a lane is given out once. -/
def checkDispatchSequence (job : RuntimeJob) : Program Database RuntimeRaise Unit := do
  let database ← reads id
  refuseWhen (database.jobs.any fun other =>
      other.id ≠ job.id && other.tenantId = job.tenantId && other.ticketId = job.ticketId &&
        other.dispatchSequence = job.dispatchSequence)
    (.integrityError "uq_runtime_jobs_ticket_dispatch_sequence")

/-- A new row announces the first delivery of its job. -/
def insertOutbox (event : OutboxEvent) : Program Database RuntimeRaise Unit := do
  let database ← reads id
  refuseWhen (database.outbox.any fun other => other.id = event.id)
    (.integrityError "outbox_events_pkey")
  refuseWhen (database.outbox.any fun other => other.deliveryId = event.deliveryId)
    (.integrityError "outbox_events_delivery_id_key")
  refuseWhen (database.outbox.any fun other => other.jobId = event.jobId)
    (.integrityError "uq_outbox_job_generation")
  modify fun database => { database with outbox := database.outbox ++ [event] }

/-! ## The command -/

def customerMessage (draws : MessageDraws) (ticket : SupportTicket) : TicketMessage where
  id := draws.messageId
  tenantId := ticket.tenantId
  ticketId := ticket.id
  role := "user"
  messageKind := "customer"
  conversationSequence := some (ticket.nextMessageSequence + 1)

def customerTurn (identity : ProviderIdentity) (draws : MessageDraws) (ticket : SupportTicket) :
    ConversationTurn where
  id := draws.turnId
  tenantId := ticket.tenantId
  ticketId := ticket.id
  customerMessageId := draws.messageId
  ordinal := ticket.nextMessageSequence + 1
  activityState :=
    if ticket.schedules then "queued"
    else if ticket.automationMode = "human_queue" then "completed"
    else "accepted"
  resultState := if ticket.automationMode = "human_queue" then some "human_queue" else none
  model := some identity.model
  providerMode := some identity.providerMode
  toolCallMode := some identity.toolCallMode
  contextVersion := some contextVersion

/-- Add the message and its turn to the conversation. -/
def recordMessage (identity : ProviderIdentity) (draws : MessageDraws) (ticket : SupportTicket) :
    Program Database RuntimeRaise Unit := do
  modify fun database => database.updateTicket ticket.id fun row =>
    { row with nextMessageSequence := row.nextMessageSequence + 1 }
  insertCustomerMessage (customerMessage draws ticket)
  insertTurn (customerTurn identity draws ticket)
  modify fun database => database.updateMessage draws.messageId fun row =>
    { row with turnId := some draws.turnId }
  modify fun database => database.updateTicket ticket.id fun row =>
    { row with
      status := if ticket.schedules then "queued" else row.status
      version := row.version + 1 }

section

variable (redactPii : PyText → PyText)

/-- Give the turn its run and its job. -/
def scheduleTurn (identity : ProviderIdentity) (draws : MessageDraws) (request : MessageRequest)
    (ticket : SupportTicket) : Program Database RuntimeRaise CommandAccepted := do
  let runId ← createRun redactPii draws.toDraws ticket (customerTurn identity draws ticket)
    identity.model identity.providerMode identity.toolCallMode
  modify fun database => database.updateRun runId fun row =>
    { row with
      tenantId := ticket.tenantId
      status := "queued"
      turnId := some draws.turnId }
  modify fun database => database.updateTurn draws.turnId fun row =>
    { row with runId := some runId }
  modify fun database => database.updateMessage draws.messageId fun row =>
    { row with runId := some runId }
  checkPairing draws.turnId runId
  let job ← create
    { tenantId := ticket.tenantId
      runId
      kind := "agent_start"
      jobId := some draws.jobId
      ticketId := some ticket.id
      drawnId := draws.jobId }
  checkDispatchSequence job
  insertOutbox
    { id := draws.outboxId
      deliveryId := draws.deliveryId
      tenantId := ticket.tenantId
      jobId := job.id
      runId
      eventType := "runtime_job_available"
      traceparent := request.traceId }
  pure
    { ticketId := ticket.id
      runId := some runId
      jobId := some job.id
      acceptedAt := draws.acceptedAt
      reused := false }

/-- Accept a message of the ticket's customer under its key, once. -/
def CommandCoordinator.acceptMessage (identity : ProviderIdentity) (draws : MessageDraws)
    (request : MessageRequest) : Program Database RuntimeRaise CommandAccepted := do
  let database ← reads id
  let ticket ← require
    ((Table.find SupportTicket.id database.tickets request.ticketId).filter fun ticket =>
      ticket.customerId = request.customerId)
    (.runtimeConflict "ticket_not_found")
  -- The record of the request expires a day later, which has to be a date.
  let _ ← require (draws.acceptedAt.add? microsecondsPerDay) .overflowError
  let text ← require (PyText.encode? (redactPii (PyText.ofString request.message)))
    (.event .unicodeEncodeError)
  let accepted ← IdempotencyRepository.accept (request.scope ticket) (messagePayload text)
    (messageResources draws ticket) (messageSnapshot draws ticket)
  if accepted.reused then ofExcept (acceptedFromRecord accepted.record)
  else do
    refuseWhen (ticket.lifecycle ≠ "active") (.runtimeConflict "conversation_archived")
    recordMessage identity draws ticket
    if ticket.schedules then scheduleTurn redactPii identity draws request ticket
    else
      pure
        { ticketId := ticket.id
          runId := none
          jobId := none
          acceptedAt := draws.acceptedAt
          reused := false
          status := "accepted" }

end

end SupportGuard
