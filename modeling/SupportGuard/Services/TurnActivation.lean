import SupportGuard.Agent.AppendEvent

/-! # Activating the next turn

`services/turn_activation.py` promotes the oldest accepted turn of a ticket to a
queued run with a job of its own; the run comes from `AgentRunStore.create`. -/

namespace SupportGuard

open Foundation Program

/-! ## Exceptions and draws -/

inductive RuntimeRaise
  | runtimeConflict (code : String)
  | valueError (message : String)
  | overflowError
  | integrityError (constraint : String)
  | keyError (key : String)
  | typeError (message : String)
  | event (raised : EventRaise)
deriving DecidableEq

/-- What a call draws from outside the database: new identifiers, the application's
time, and the payload that describes a started run. -/
structure Draws where
  runId : String
  jobId : String
  messageId : String
  eventId : String
  outboxId : String
  deliveryId : String
  now : Instant
  startedPayload : PyValue

namespace Database

def updateJob (database : Database) (jobId : String) (change : RuntimeJob → RuntimeJob) :
    Database :=
  { database with jobs := Table.update RuntimeJob.id jobId change database.jobs }

def updateTurn (database : Database) (turnId : String)
    (change : ConversationTurn → ConversationTurn) : Database :=
  { database with turns := Table.update ConversationTurn.id turnId change database.turns }

def updateMessage (database : Database) (messageId : String)
    (change : TicketMessage → TicketMessage) : Database :=
  { database with
    messages := Table.update TicketMessage.id messageId change database.messages }

end Database

/-! ## Rows -/

def insertRun (run : AgentRun) : Program Database RuntimeRaise Unit := do
  let database ← reads id
  refuseWhen (database.runs.any fun other => other.id = run.id)
    (.integrityError "agent_runs_pkey")
  modify fun database => { database with runs := database.runs ++ [run] }

/-- The other constraints of the table only refuse more. -/
def insertJob (job : RuntimeJob) : Program Database RuntimeRaise Unit := do
  let database ← reads id
  refuseWhen (database.jobs.any fun other => other.id = job.id)
    (.integrityError "runtime_jobs_pkey")
  modify fun database => { database with jobs := database.jobs ++ [job] }

/-- Take the next dispatch number of a ticket for a new job. -/
def dispatchJob (job : RuntimeJob) (ticket : SupportTicket) :
    Program Database RuntimeRaise RuntimeJob := do
  let job :=
    { job with ticketId := ticket.id, dispatchSequence := ticket.nextDispatchSequence + 1 }
  modify fun database => database.updateTicket ticket.id fun row =>
    { row with nextDispatchSequence := row.nextDispatchSequence + 1 }
  insertJob job
  pure job

def earlierTurn (left right : ConversationTurn) : Bool :=
  left.ordinal < right.ordinal || left.ordinal = right.ordinal && left.id ≤ right.id

/-- `ORDER BY ordinal, id LIMIT 1`. -/
def firstTurn : List ConversationTurn → Option ConversationTurn
  | [] => none
  | turn :: rest => match firstTurn rest with
      | none => some turn
      | some best => if earlierTurn turn best then some turn else some best

def contextVersion : String := "context-v1.2"

/-- Absent and empty texts are both false. -/
def missing (text : Option String) : Bool :=
  text.getD "" = ""

/-! ## Operations -/

section

variable (redactPii : PyText → PyText)

/-- `AgentRunStore.create`: the run of a message, which exists at most once. -/
def createRun (draws : Draws) (ticket : SupportTicket) (turn : ConversationTurn)
    (model providerMode toolCallMode : String) :
    Program Database RuntimeRaise String := do
  let database ← reads id
  let unbound := RuntimeRaise.valueError
    "Agent Run must bind an existing message from the same ticket"
  let message ← require (database.messages.find? fun message =>
    message.id = turn.customerMessageId && message.ticketId = ticket.id) unbound
  let owner ← require (database.tickets.find? fun owner =>
    owner.id = ticket.id && owner.customerId = ticket.customerId) unbound
  refuseWhen (message.tenantId ≠ owner.tenantId) unbound
  match database.runs.find? fun run => run.messageId = turn.customerMessageId with
  | some existing => pure existing.id
  | none =>
      insertRun
        { id := draws.runId
          tenantId := owner.tenantId
          ticketId := ticket.id
          customerId := ticket.customerId
          messageId := turn.customerMessageId
          status := "running"
          model, providerMode, toolCallMode
          contextVersion := if missing turn.contextVersion then contextVersion
            else turn.contextVersion.getD "" }
      let _ ← mapError .event (appendEvent redactPii
        { runId := draws.runId
          eventType := "run_started"
          visibility := "customer"
          payload := draws.startedPayload
          eventId := draws.eventId
          now := draws.now })
      pure draws.runId

/-- Tie a run to the turn and the message it answers, and queue both. -/
def bindTurn (turn : ConversationTurn) (runId : String) :
    Program Database RuntimeRaise Unit := do
  modify fun database => database.updateRun runId fun run =>
    { run with status := "queued", turnId := some turn.id }
  modify fun database => database.updateTurn turn.id fun turn =>
    { turn with runId := some runId }
  let database ← reads id
  let message ← require
    (Table.find TicketMessage.id database.messages turn.customerMessageId)
    (.runtimeConflict "accepted_turn_customer_message_missing")
  modify fun database => database.updateMessage message.id fun message =>
    { message with runId := some runId }
  modify fun database => database.updateTurn turn.id fun turn =>
    { turn with activityState := "queued" }

/-- Announce a job through the outbox and show its ticket as queued. -/
def announceJob (draws : Draws) (ticket : SupportTicket) (job : RuntimeJob)
    (traceId : String) : Program Database RuntimeRaise Unit := do
  modify fun database =>
    { database with
      outbox := database.outbox ++
        [{ id := draws.outboxId
           deliveryId := draws.deliveryId
           tenantId := ticket.tenantId
           jobId := job.id
           runId := job.runId
           eventType := "runtime_job_available"
           traceparent := traceId }] }
  modify fun database => database.updateTicket ticket.id fun ticket =>
    { ticket with status := "queued", version := ticket.version + 1 }

/-- Promote the oldest accepted turn, unless a turn is active or the ticket is not the
agent's. -/
def activateNextTurn (draws : Draws) (ticket : SupportTicket) (traceId : String) :
    Program Database RuntimeRaise (Option (String × String)) := do
  let database ← reads id
  let ofTicket := database.turns.filter fun turn => turn.ticketId = ticket.id
  if (ofTicket.any fun turn =>
      turn.activityState = "queued" || turn.activityState = "running") ||
      ticket.automationMode ≠ "agent" || ticket.lifecycle ≠ "active" then
    pure none
  else match firstTurn (ofTicket.filter fun turn => turn.activityState = "accepted") with
    | none => pure none
    | some turn =>
        refuseWhen (missing turn.model || missing turn.providerMode ||
            missing turn.toolCallMode)
          (.runtimeConflict "accepted_turn_runtime_identity_missing")
        let runId ← createRun redactPii draws ticket turn (turn.model.getD "")
          (turn.providerMode.getD "") (turn.toolCallMode.getD "")
        bindTurn turn runId
        let job ← dispatchJob
          { id := draws.jobId
            tenantId := ticket.tenantId
            ticketId := ticket.id
            runId
            dispatchSequence := 0
            approvalId := none
            kind := .agentStart
            availableAt := database.clock
            createdAt := database.clock } ticket
        announceJob draws ticket job traceId
        pure (some (runId, job.id))

end

end SupportGuard
