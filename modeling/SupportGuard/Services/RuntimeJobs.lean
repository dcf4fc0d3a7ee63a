import SupportGuard.Services.ApprovalLifecycle

/-! # Runtime jobs

`RuntimeJobRepository` of `services/runtime_jobs.py`, as the application runs it on a
database that is not PostgreSQL. Rows are selected by their primary key, so a row with
further conditions is the keyed row when it meets them. -/

namespace SupportGuard

open Foundation Program

/-! ## Reading rows -/

namespace Database

def ticketOf? (database : Database) (tenantId ticketId : String) : Option SupportTicket :=
  (Table.find SupportTicket.id database.tickets ticketId).filter fun ticket =>
    ticket.tenantId = tenantId

def runOf? (database : Database) (tenantId runId : String) : Option AgentRun :=
  (Table.find AgentRun.id database.runs runId).filter fun run => run.tenantId = tenantId

/-- The jobs that still occupy a ticket's lane. -/
def laneJobs (database : Database) (tenantId ticketId : String) : List RuntimeJob :=
  database.jobs.filter fun job =>
    job.tenantId = tenantId && job.ticketId = ticketId && job.status.occupiesLane

def laneHead? (database : Database) (tenantId ticketId : String) : Option Nat :=
  ((database.laneJobs tenantId ticketId).map RuntimeJob.dispatchSequence).min?

def laneLeased (database : Database) (tenantId ticketId : String) : Bool :=
  database.jobs.any fun job =>
    job.tenantId = tenantId && job.ticketId = ticketId && job.status = .leased

end Database

/-- `error_code[:128]`. -/
def shortened (errorCode : String) : String :=
  String.ofList (errorCode.toList.take 128)

/-! ## Creating a job -/

/-- The arguments of `create`, and the identifier it draws. -/
structure JobRequest where
  tenantId : String
  runId : String
  kind : String
  approvalId : Option String := none
  jobId : Option String := none
  ticketId : Option String := none
  drawnId : String

def JobRequest.identifier (request : JobRequest) : String :=
  if missing request.jobId then request.drawnId else request.jobId.getD ""

def create (request : JobRequest) : Program Database RuntimeRaise RuntimeJob := do
  let database ← reads id
  let invalid := RuntimeRaise.runtimeConflict "runtime_job_kind_approval_shape_invalid"
  let kind ← require (JobKind.ofText? request.kind) invalid
  refuseWhen (kind = .agentStart ∧ request.approvalId.isSome) invalid
  refuseWhen (kind = .approvalResume ∧ missing request.approvalId) invalid
  let run ← require (database.runOf? request.tenantId request.runId)
    (.runtimeConflict "job_ticket_mismatch")
  refuseWhen (request.ticketId.any fun ticketId => ticketId ≠ run.ticketId)
    (.runtimeConflict "job_ticket_mismatch")
  refuseWhen (kind = .approvalResume ∧ ¬database.approvals.any fun approval =>
      some approval.id = request.approvalId && approval.tenantId = request.tenantId &&
        approval.runId = request.runId && approval.ticketId = run.ticketId)
    (.runtimeConflict "runtime_job_approval_mismatch")
  let ticket ← require (database.ticketOf? request.tenantId run.ticketId)
    (.runtimeConflict "ticket_not_found")
  dispatchJob
    { id := request.identifier
      tenantId := request.tenantId
      ticketId := run.ticketId
      runId := request.runId
      dispatchSequence := 0
      approvalId := request.approvalId
      kind
      availableAt := database.clock
      createdAt := database.clock } ticket

/-! ## Leases -/

structure JobLease where
  jobId : String
  runId : String
  tenantId : String
  owner : String
  fencingToken : Nat
  expiresAt : Instant
  kind : JobKind := .agentStart
  approvalId : Option String := none
  attempt : Nat := 1
  ticketId : Option String := none
  dispatchSequence : Option Nat := none
deriving DecidableEq

/-- The database advances the version once for every real transition. -/
def transitionStatus (job : RuntimeJob) (status : JobStatus) : RuntimeJob :=
  if job.status = status then job
  else { job with status, statusVersion := job.statusVersion + 1 }

def RuntimeJob.lease (job : RuntimeJob) (owner : String) (now expiresAt : Instant) :
    RuntimeJob :=
  { transitionStatus job .leased with
    attempt := job.attempt + 1
    leaseOwner := some owner
    heartbeatAt := some now
    leaseExpiresAt := some expiresAt
    fencingToken := job.fencingToken + 1 }

def RuntimeJob.release (job : RuntimeJob) (status : JobStatus) : RuntimeJob :=
  { transitionStatus job status with
    leaseOwner := none
    leaseExpiresAt := none
    heartbeatAt := none }

/-- The approval of a job that resumes one is approved. -/
def Database.resumable (database : Database) (job : RuntimeJob) : Bool :=
  database.approvals.any fun approval =>
    some approval.id = job.approvalId && approval.tenantId = job.tenantId &&
      approval.runId = job.runId && approval.ticketId = job.ticketId &&
      approval.status = .approved

def startTurn (job : RuntimeJob) (run : AgentRun) (turn : ConversationTurn) :
    ConversationTurn :=
  if job.kind = .agentStart ∧ ¬missing run.turnId then
    { turn with activityState := "running" }
  else turn

def claim (jobId owner : String) (leaseSeconds : Int) :
    Program Database RuntimeRaise JobLease := do
  let database ← reads id
  let job ← require (Table.find RuntimeJob.id database.jobs jobId)
    (.runtimeConflict "job_not_claimable")
  let ticket ← require (database.ticketOf? job.tenantId job.ticketId)
    (.runtimeConflict "ticket_not_claimable")
  refuseWhen (ticket.lifecycle ≠ "active" ∨ ticket.automationMode = "human_queue")
    (.runtimeConflict "ticket_not_claimable")
  refuseWhen (job.status ≠ .queued ∧ job.status ≠ .retryWait)
    (.runtimeConflict "job_not_claimable")
  refuseWhen (database.laneHead? job.tenantId job.ticketId ≠ some job.dispatchSequence)
    (.runtimeConflict "ticket_fifo_blocked")
  refuseWhen (database.laneLeased job.tenantId job.ticketId)
    (.runtimeConflict "ticket_lane_leased")
  refuseWhen (database.clock < job.availableAt) (.runtimeConflict "job_not_due")
  let run ← require (database.runOf? job.tenantId job.runId)
    (.runtimeConflict "run_not_claimable")
  refuseWhen (run.status ∉ ["queued", "interrupted", "running"])
    (.runtimeConflict "run_not_claimable")
  refuseWhen (job.kind = .approvalResume ∧ ¬database.resumable job)
    (.runtimeConflict "approval_resume_not_claimable")
  let expiresAt ← require (database.clock.add? (leaseSeconds * 1000000)) .overflowError
  modify fun database => database.updateJob job.id fun row =>
    row.lease owner database.clock expiresAt
  modify fun database => database.updateRun run.id fun row =>
    { row with
      activeJobId := some job.id
      activeFencingToken := some (job.fencingToken + 1)
      status := "running"
      statusVersion := row.statusVersion + 1 }
  modify fun database => database.updateTurn (run.turnId.getD "") (startTurn job run)
  -- The run is compared with the lane only now; the writes above are then undone.
  refuseWhen (run.ticketId ≠ job.ticketId) (.runtimeConflict "job_ticket_mismatch")
  modify fun database => database.updateTicket ticket.id fun row =>
    if row.status = "queued" then
      { row with status := "running", version := row.version + 1 }
    else row
  pure
    { jobId := job.id
      runId := job.runId
      tenantId := job.tenantId
      owner
      fencingToken := job.fencingToken + 1
      expiresAt
      kind := job.kind
      approvalId := job.approvalId
      attempt := job.attempt + 1
      ticketId := some job.ticketId
      dispatchSequence := some job.dispatchSequence }

/-! ## The fence -/

/-- The conditions under which a job row is the one a lease is for, and still is. -/
def JobLease.matches (lease : JobLease) (job : RuntimeJob) (run : AgentRun)
    (now : Instant) : Bool :=
  job.status = .leased && job.leaseOwner = some lease.owner &&
    job.fencingToken = lease.fencingToken &&
    (job.leaseExpiresAt.any fun expiresAt => now < expiresAt) &&
    run.activeJobId = some lease.jobId &&
    run.activeFencingToken = some lease.fencingToken &&
    lease.dispatchSequence.all fun sequence => job.dispatchSequence = sequence

/-- A lease that names no ticket is for the ticket of its run. -/
def Database.leaseTicket? (database : Database) (lease : JobLease) : Option String :=
  match lease.ticketId with
  | some ticketId => some ticketId
  | none => (database.runOf? lease.tenantId lease.runId).map AgentRun.ticketId

/-- The job a lease holds, and none when the lease is stale. -/
def fencedJob? (database : Database) (lease : JobLease) : Option RuntimeJob := do
  let ticketId ← database.leaseTicket? lease
  let _ ← database.ticketOf? lease.tenantId ticketId
  let job ← (Table.find RuntimeJob.id database.jobs lease.jobId).filter fun job =>
    job.tenantId = lease.tenantId && job.runId = lease.runId && job.ticketId = ticketId
  let run ← database.runOf? job.tenantId lease.runId
  if lease.matches job run database.clock then some job else none

def staleFencingToken : RuntimeRaise :=
  .runtimeConflict "stale_fencing_token"

def assertFence (lease : JobLease) : Program Database RuntimeRaise RuntimeJob := do
  let database ← reads id
  require (fencedJob? database lease) staleFencingToken

def heartbeat (lease : JobLease) (leaseSeconds : Int) :
    Program Database RuntimeRaise Unit := do
  let job ← assertFence lease
  let database ← reads id
  let expiresAt ← require (database.clock.add? (leaseSeconds * 1000000)) .overflowError
  modify fun database => database.updateJob job.id fun row =>
    { row with heartbeatAt := some database.clock, leaseExpiresAt := some expiresAt }

/-! ## Failure -/

structure RetryDecision where
  terminal : Bool
  nextStatus : JobStatus
  availableAt : Instant
  reason : String
  attempt : Nat
deriving DecidableEq

/-- Up to a second, in milliseconds, drawn from the job and its attempt. -/
def jitterMilliseconds (jobId : String) (attempt : Nat) : Nat :=
  let digest := Sha256.digest (JsonText.utf8 (jobId.toList ++ ':' :: Nat.toDigits 10 attempt))
  match digest with
  | high :: low :: _ => (high * 256 + low) % 1001
  | _ => 0

def retryDecision (jobId : String) (attempt : Nat) (createdAt now : Instant)
    (maxAttempts maxAgeSeconds : Int) : Except RuntimeRaise RetryDecision := do
  let maxAge := duration? (maxAgeSeconds * 1000000)
  -- The age is looked at only while attempts are left.
  if (attempt : Int) < maxAttempts ∧ maxAge = none then throw .overflowError
  let terminal : Bool := maxAttempts ≤ (attempt : Int) ∨
    maxAge.any fun age => age ≤ (now.microseconds : Int) - createdAt.microseconds
  -- Two to the power 1024 is beyond the range of a float.
  if 1024 ≤ attempt then throw .overflowError
  let backoff := min 30000 (2 ^ attempt * 1000) + jitterMilliseconds jobId attempt
  match now.add? (backoff * 1000) with
  | none => throw .overflowError
  | some availableAt =>
      .ok
        { terminal
          nextStatus := if terminal then .dead else .retryWait
          availableAt
          reason := if terminal then "max_attempts_or_age" else "bounded_backoff"
          attempt }

/-! ### Convergence of dead work -/

def failRun (run : AgentRun) (reason : String) : Program Database RuntimeRaise Unit :=
  modify fun database => database.updateRun run.id fun row =>
    { row with
      status := "failed"
      errorCode := some (shortened reason)
      activeJobId := none
      activeFencingToken := none }

def failTurn (run : AgentRun) : Program Database RuntimeRaise Unit :=
  modify fun database =>
    if missing run.turnId then database
    else database.updateTurn (run.turnId.getD "") fun turn =>
      { turn with activityState := "failed", resultState := some "failed" }

/-- Mark the ticket failed and publish one reply for the job. -/
def publishFailure (draws : Draws) (job : RuntimeJob) (run : AgentRun) :
    Program Database RuntimeRaise Unit := do
  let database ← reads id
  match Table.find SupportTicket.id database.tickets run.ticketId with
  | none => pure ()
  | some ticket =>
      if ticket.automationMode = "human_queue" then pure ()
      else do
        modify fun database => database.updateTicket ticket.id fun row =>
          { row with status := "failed", version := row.version + 1 }
        let publicationKey := "runtime-failure:" ++ job.id
        if database.messages.any fun message =>
            message.tenantId = job.tenantId &&
              message.publicationKey = some publicationKey then
          pure ()
        else do
          modify fun database => database.updateTicket ticket.id fun row =>
            { row with nextMessageSequence := row.nextMessageSequence + 1 }
          modify fun database =>
            { database with
              messages := database.messages ++
                [{ id := draws.messageId
                   tenantId := job.tenantId
                   ticketId := ticket.id
                   turnId := run.turnId
                   runId := some run.id
                   approvalId := job.approvalId
                   conversationSequence := some (ticket.nextMessageSequence + 1)
                   messageKind := "assistant"
                   publicationKey := some publicationKey
                   role := "assistant" }] }

def retireProposal (proposalId : String) : Program Database RuntimeRaise Unit :=
  modify fun database =>
    { database with
      proposals := Table.update ProposalRecord.id proposalId (fun proposal =>
        if proposal.status = .stale then proposal
        else
          { proposal with status := .stale, statusVersion := proposal.statusVersion + 1 })
        database.proposals }

/-- Fail the approval of the job and retire its proposal, unless it is decided. -/
def failApproval (job : RuntimeJob) : Program Database RuntimeRaise Unit := do
  let database ← reads id
  match (Table.find ApprovalRequest.id database.approvals (job.approvalId.getD "")).filter
      fun approval => !missing job.approvalId && approval.status.isActive with
  | none => pure ()
  | some approval => do
      let _ ← transition approval .failed approval.status (some approval.statusVersion)
      retireProposal approval.proposalId

def abortMarkers (job : RuntimeJob) : Program Database RuntimeRaise Unit :=
  modify fun database =>
    { database with
      markers := database.markers.map fun marker =>
        if marker.jobId = job.id ∧
            (marker.status = .prepared ∨ marker.status = .checkpointWritten) then
          { marker with status := .aborted, statusVersion := marker.statusVersion + 1 }
        else marker }

section

variable (redactPii : PyText → PyText)

/-- Let the next turn of the ticket run, and derive the ticket's status again. -/
def releaseTicket (draws : Draws) (job : RuntimeJob) (run : AgentRun) :
    Program Database RuntimeRaise Unit := do
  let database ← reads id
  match Table.find SupportTicket.id database.tickets run.ticketId with
  | none => pure ()
  | some ticket =>
      if ticket.automationMode = "agent" ∧ ticket.lifecycle = "active" then do
        let _ ← activateNextTurn redactPii draws ticket ("runtime-failure:" ++ job.id)
        let database ← reads id
        match Table.find SupportTicket.id database.tickets run.ticketId with
        | none => pure ()
        | some ticket => do
            let _ ← convergeTicket ticket "failed"
            pure ()
      else pure ()

def convergeDeadAggregates (draws : Draws) (job : RuntimeJob) (run : AgentRun)
    (reason : String) : Program Database RuntimeRaise Unit := do
  failRun run reason
  failTurn run
  publishFailure draws job run
  failApproval job
  abortMarkers job
  releaseTicket redactPii draws job run

/-! ### The failing calls -/

def fail (draws : Draws) (lease : JobLease) (errorCode : String)
    (maxAttempts maxAgeSeconds : Int) : Program Database RuntimeRaise JobStatus := do
  let job ← assertFence lease
  let database ← reads id
  let run ← require (Table.find AgentRun.id database.runs lease.runId)
    (.runtimeConflict "run_not_found")
  let decision ← ofExcept (retryDecision job.id job.attempt job.createdAt database.clock
    maxAttempts maxAgeSeconds)
  modify fun database => database.updateJob job.id fun row =>
    { row.release decision.nextStatus with
      lastError := some (shortened errorCode)
      availableAt := decision.availableAt }
  modify fun database => database.updateRun run.id fun row =>
    { row with
      activeJobId := none
      activeFencingToken := none
      status := if decision.terminal then "failed" else "queued"
      errorCode := if decision.terminal then some (shortened errorCode) else none
      statusVersion := row.statusVersion + 1 }
  onlyIf decision.terminal (convergeDeadAggregates redactPii draws job run errorCode)
  pure decision.nextStatus

def terminalFail (draws : Draws) (lease : JobLease) (errorCode : String) :
    Program Database RuntimeRaise JobStatus := do
  let job ← assertFence lease
  let database ← reads id
  let run ← require (Table.find AgentRun.id database.runs lease.runId)
    (.runtimeConflict "run_not_found")
  modify fun database => database.updateJob job.id fun row =>
    { row.release .dead with lastError := some (shortened errorCode) }
  convergeDeadAggregates redactPii draws job run errorCode
  modify fun database => database.updateRun run.id fun row =>
    { row with statusVersion := row.statusVersion + 1 }
  pure .dead

end

/-! ## Completion -/

/-- The status a run is left in; other outcomes leave it as it is. -/
def completedStatus (outcome status : String) : String :=
  if outcome = "interrupted" then "interrupted"
  else if outcome ∈ ["completed", "rejected", "manual_takeover"] then "completed"
  else status

def complete (lease : JobLease) (outcome : String) :
    Program Database RuntimeRaise Unit := do
  let job ← assertFence lease
  let database ← reads id
  let run ← require (Table.find AgentRun.id database.runs lease.runId)
    (.runtimeConflict "run_not_found")
  modify fun database => database.updateJob job.id fun row =>
    { row.release .succeeded with outcome := some outcome }
  modify fun database => database.updateRun run.id fun row =>
    { row with
      activeJobId := none
      activeFencingToken := none
      status := completedStatus outcome row.status
      statusVersion := row.statusVersion + 1 }

end SupportGuard
