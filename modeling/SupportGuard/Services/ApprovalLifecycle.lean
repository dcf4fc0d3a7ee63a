import SupportGuard.Services.TurnActivation

/-! # Approval lifecycle

`ActionLifecycleService` of `services/approval_lifecycle.py`, as it acts on a database
that is not PostgreSQL: the transitions of an approval, and the status of a ticket
derived from the work below it. -/

namespace SupportGuard

open Foundation Program

/-! ## Transitions -/

namespace ApprovalStatus

/-- `ACTIVE_APPROVAL_STATUSES`. -/
def isActive : ApprovalStatus → Bool
  | .pending | .approved => true
  | _ => false

/-- `APPROVAL_TRANSITIONS`. -/
def transitions : ApprovalStatus → List ApprovalStatus
  | .pending => [.approved, .rejected, .withdrawn, .stale, .failed]
  | .approved => [.executed, .stale, .failed]
  | _ => []

end ApprovalStatus

def Database.updateApproval (database : Database) (approvalId : String)
    (change : ApprovalRequest → ApprovalRequest) : Database :=
  { database with
    approvals := Table.update ApprovalRequest.id approvalId change database.approvals }

/-- Whether the status changed. The version column advances with every write of an
approval. -/
def transition (approval : ApprovalRequest) (toStatus expectedStatus : ApprovalStatus)
    (expectedVersion : Option Int) : Program Database RuntimeRaise Bool :=
  if approval.status = toStatus then pure false
  else do
    refuseWhen (toStatus = .manualTakeover)
      (.runtimeConflict "approval_transition_invalid")
    refuseWhen (approval.status ≠ expectedStatus ∨
        expectedVersion.any fun version => approval.statusVersion ≠ version)
      (.runtimeConflict "approval_state_conflict")
    refuseWhen (approval.status.isActive = false)
      (.runtimeConflict "approval_terminal_conflict")
    refuseWhen (toStatus ∉ approval.status.transitions)
      (.runtimeConflict "approval_transition_invalid")
    modify fun database => database.updateApproval approval.id fun row =>
      { row with status := toStatus, statusVersion := row.statusVersion + 1 }
    pure true

/-! ## The status of a ticket -/

/-- The statuses of a job that still occupies its ticket's lane. -/
def JobStatus.occupiesLane : JobStatus → Bool
  | .queued | .retryWait | .leased => true
  | .succeeded | .dead => false

namespace Database

def hasActiveTurn (database : Database) (ticket : SupportTicket) : Bool :=
  database.turns.any fun turn =>
    turn.tenantId = ticket.tenantId && turn.ticketId = ticket.id &&
      (turn.activityState = "queued" || turn.activityState = "running")

def hasActiveJob (database : Database) (ticket : SupportTicket) : Bool :=
  database.jobs.any fun job =>
    job.tenantId = ticket.tenantId && job.ticketId = ticket.id && job.status.occupiesLane

/-- An approved action whose job ended without knowing the effect. -/
def hasPendingVerification (database : Database) (ticket : SupportTicket) : Bool :=
  database.approvals.any fun approval =>
    approval.tenantId = ticket.tenantId && approval.ticketId = ticket.id &&
      approval.status = .approved &&
      database.jobs.any fun job =>
        job.tenantId = approval.tenantId && job.ticketId = approval.ticketId &&
          job.approvalId = some approval.id && job.status = .succeeded &&
          job.outcome = some "verification_pending"

def hasActiveApproval (database : Database) (ticket : SupportTicket) : Bool :=
  database.approvals.any fun approval =>
    approval.tenantId = ticket.tenantId && approval.ticketId = ticket.id &&
      approval.status.isActive

end Database

/-- The status that the turns, jobs and approvals of a ticket call for. -/
def convergedStatus (database : Database) (ticket : SupportTicket)
    (defaultStatus : String) : String :=
  if database.hasActiveTurn ticket || database.hasActiveJob ticket then "queued"
  else if database.hasPendingVerification ticket then "verification_pending"
  else if database.hasActiveApproval ticket then "awaiting_approval"
  else defaultStatus

def clearsResponse (status : String) : Bool :=
  status ∈ ["running", "queued", "awaiting_approval", "verification_pending"]

def convergeTicket (ticket : SupportTicket) (defaultStatus : String) :
    Program Database RuntimeRaise String :=
  if ticket.lifecycle ≠ "active" || ticket.automationMode ≠ "agent" then
    pure ticket.status
  else do
    let database ← reads id
    let status := convergedStatus database ticket defaultStatus
    onlyIf (ticket.status ≠ status ∨ clearsResponse status ∧ ticket.finalResponse.isSome)
      (modify fun database => database.updateTicket ticket.id fun row =>
        { row with
          status
          finalResponse := if clearsResponse status then none else row.finalResponse
          version := row.version + 1 })
    pure status

end SupportGuard
