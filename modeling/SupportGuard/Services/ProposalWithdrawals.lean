import SupportGuard.Services.ApprovalCommands

/-! # Withdrawing a proposal

`ProposalWithdrawalCoordinator` of `services/proposal_withdrawals.py`, as it acts on a
database that is not PostgreSQL. -/

namespace SupportGuard

open Foundation Program

structure WithdrawalRequest where
  tenantId : String
  customerId : String
  principalId : String
  approvalId : String
  idempotencyKey : String
  reason : String
  traceId : String

structure WithdrawalDraws where
  withdrawalId : String
  messageId : String
  now : Instant
  next : Draws

structure WithdrawalAccepted where
  approvalId : String
  ticketId : String
  withdrawalId : String
  acceptedAt : Instant
  reused : Bool
deriving DecidableEq

def WithdrawalRequest.scope (request : WithdrawalRequest) (ticket : SupportTicket)
    (approval : ApprovalRequest) : IdempotencyScope where
  tenantId := request.tenantId
  principalId := request.principalId
  route := "POST /api/conversations/" ++ ticket.id ++ "/actions/" ++ approval.id ++ "/withdraw"
  key := request.idempotencyKey

/-- The response of an earlier request with the same key. -/
def replayedWithdrawal (approval : ApprovalRequest) (ticket : SupportTicket)
    (snapshot : List (String × SnapshotValue)) : Except RuntimeRaise WithdrawalAccepted := do
  let withdrawalId ← snapshotText snapshot "withdrawal_id"
  let acceptedAt ← snapshotInstant snapshot "accepted_at"
  .ok
    { approvalId := approval.id
      ticketId := ticket.id
      withdrawalId
      acceptedAt
      reused := true }

/-- `_store_response`. -/
def storeWithdrawal (scope : IdempotencyScope) (accepted : WithdrawalAccepted) :
    Program Database RuntimeRaise Unit :=
  storeResponse scope
    [("approval_id", accepted.approvalId), ("ticket_id", accepted.ticketId),
      ("withdrawal_id", accepted.withdrawalId)]
    [("schema_version", .text "withdrawal-accepted.v1"),
      ("approval_id", .text accepted.approvalId),
      ("ticket_id", .text accepted.ticketId),
      ("withdrawal_id", .text accepted.withdrawalId),
      ("accepted_at", .text accepted.acceptedAt.isoformat),
      ("action_status", .text "withdrawn"),
      ("reused", .flag false)]

def insertWithdrawal (withdrawal : ProposalWithdrawal) :
    Program Database RuntimeRaise Unit := do
  let database ← reads id
  refuseWhen (database.withdrawals.any fun other => other.id = withdrawal.id)
    (.integrityError "proposal_withdrawals_pkey")
  refuseWhen (database.withdrawals.any fun other => other.approvalId = withdrawal.approvalId)
    (.integrityError "uq_proposal_withdrawal_approval")
  modify fun database => { database with withdrawals := database.withdrawals ++ [withdrawal] }

section

variable (redactPii : PyText → PyText)

/-- The first withdrawal of a proposal. -/
def newWithdrawal (draws : WithdrawalDraws) (request : WithdrawalRequest)
    (approval : ApprovalRequest) (ticket : SupportTicket) :
    Program Database RuntimeRaise WithdrawalAccepted := do
  let database ← reads id
  let conflict := RuntimeRaise.runtimeConflict "proposal_withdrawal_conflict"
  refuseWhen (approval.status ≠ .pending ∨ (database.decisionFor? approval.id).isSome ∨
      approval.proposalId = "") conflict
  let proposal ← require ((database.proposalOf? request.tenantId approval.proposalId).filter
    fun proposal => proposal.status = .bound) conflict
  let _ ← transition approval .withdrawn .pending (some approval.statusVersion)
  retireProposal proposal.id
  let run := Table.find AgentRun.id database.runs approval.runId
  whenSome run fun run => endRun run "withdrawn" false
  modify fun database => database.updateTicket ticket.id fun row =>
    { row with status := "open", version := row.version + 1 }
  insertWithdrawal
    { id := draws.withdrawalId
      tenantId := request.tenantId
      ticketId := ticket.id
      customerId := request.customerId
      approvalId := approval.id
      proposalId := proposal.id
      actorId := request.principalId
      reason := request.reason
      idempotencyKey := request.idempotencyKey
      createdAt := draws.now }
  publishUpdate draws.messageId ("action:" ++ approval.id ++ ":withdrawn:1") approval run
    ticket.id
  let accepted : WithdrawalAccepted :=
    { approvalId := approval.id
      ticketId := ticket.id
      withdrawalId := draws.withdrawalId
      acceptedAt := draws.now
      reused := false }
  storeWithdrawal (request.scope ticket approval) accepted
  continueTicket redactPii draws.next ticket.id request.traceId "open"
  pure accepted

/-- Withdraw a proposal that waits for its decision. A withdrawal that is read back from
SQLite has lost the zone of its time, which the response needs. -/
def ProposalWithdrawalCoordinator.withdraw (draws : WithdrawalDraws)
    (request : WithdrawalRequest) : Program Database RuntimeRaise WithdrawalAccepted := do
  let database ← reads id
  let notFound := RuntimeRaise.runtimeConflict "approval_not_found"
  let approval ← require (database.approvalOf? request.tenantId request.approvalId) notFound
  refuseWhen (approval.customerId ≠ request.customerId) notFound
  let ticket ← require ((database.ticketOf? request.tenantId approval.ticketId).filter
    fun ticket => ticket.customerId = request.customerId) notFound
  let accepted ← IdempotencyRepository.accept (request.scope ticket approval)
    (.object [("reason", .string request.reason)]) [] []
  if accepted.reused ∧ accepted.record.responseSnapshot ≠ [] then
    ofExcept (replayedWithdrawal approval ticket accepted.record.responseSnapshot)
  else do
    let database ← reads id
    match database.withdrawals.find? fun withdrawal =>
        withdrawal.approvalId = approval.id && withdrawal.tenantId = request.tenantId with
    | some _ => raise (.valueError "canonical_timestamp_requires_aware_datetime")
    | none => newWithdrawal redactPii draws request approval ticket

end

end SupportGuard
