import SupportGuard.Services.ProposalWithdrawals
import SupportGuard.Services.TicketLane
import SupportGuard.Services.WriteSets

/-! # The outcome of an approval

Decisions, withdrawals and stale bindings compete for an approval. The first of them that
commits is the outcome; the others are refused or report it. -/

namespace SupportGuard

open Foundation Program

/-! ## What is on record -/

/-- The rows that say how an approval ended. -/
structure ApprovalOutcome where
  status : Option ApprovalStatus
  decisions : List HumanDecision := []
  withdrawals : List ProposalWithdrawal := []
  /-- The jobs that resume the run. -/
  resumes : List RuntimeJob := []
deriving DecidableEq

def Database.outcomeOf (approvalId : String) (database : Database) : ApprovalOutcome where
  status := (Table.find ApprovalRequest.id database.approvals approvalId).map
    ApprovalRequest.status
  decisions := database.decisions.filter fun decision => decision.approvalId = approvalId
  withdrawals := database.withdrawals.filter fun withdrawal =>
    withdrawal.approvalId = approvalId
  resumes := database.jobs.filter fun job =>
    job.approvalId = some approvalId && job.kind = .approvalResume

theorem Database.approvalOf?_eq_some {database : Database} {tenantId approvalId : String}
    {approval : ApprovalRequest}
    (found : database.approvalOf? tenantId approvalId = some approval) :
    approval.id = approvalId ∧ (database.outcomeOf approvalId).status = some approval.status := by
  rcases Option.filter_eq_some_iff.mp found with ⟨row, _⟩
  refine ⟨(Table.find_mem row).2, ?_⟩
  simp [outcomeOf, row]

/-! ## Calls beside the outcome -/

section Frames

variable {ε α : Type} {approvalId : String}

/-- A call that writes other tables does not show. -/
theorem WritesOnly.keepsOutcome {tables : List DatabaseTable} {program : Program Database ε α}
    (writes : WritesOnly tables program)
    (apart : ∀ table ∈ [DatabaseTable.approvals, .decisions, .withdrawals, .jobs],
      table ∉ tables) : Keeps (Database.outcomeOf approvalId) program := by
  intro database
  have approvals : _ = _ := writes database .approvals (apart _ (by simp))
  have decisions : _ = _ := writes database .decisions (apart _ (by simp))
  have withdrawals : _ = _ := writes database .withdrawals (apart _ (by simp))
  have jobs : _ = _ := writes database .jobs (apart _ (by simp))
  simp only [Database.outcomeOf, approvals, decisions, withdrawals, jobs]

theorem writesOnly_updateTicket (ticketId : String) (change : SupportTicket → SupportTicket) :
    WritesOnly [.tickets] (modify fun database => database.updateTicket ticketId change :
      Program Database RuntimeRaise Unit) :=
  writesOnly_modify .tickets (by decide) fun database => same_updateTicket database _ _

theorem writesOnly_accept (scope : IdempotencyScope) (payload : Json)
    (resourceIds : List (String × String)) (responseSnapshot : List (String × SnapshotValue)) :
    WritesOnly [.idempotency]
      (IdempotencyRepository.accept scope payload resourceIds responseSnapshot) := by
  apply writesOnly_bind (writesOnly_reads _)
  intro database
  split
  · apply writesOnly_refuseWhen_bind
    exact writesOnly_pure _
  · apply writesOnly_bind (writesOnly_modify .idempotency (by decide) ?_)
    · intro _
      exact writesOnly_pure _
    · intro database table other
      cases table <;> first | rfl | exact absurd rfl other

theorem writesOnly_storeResponse (scope : IdempotencyScope)
    (resourceIds : List (String × String)) (responseSnapshot : List (String × SnapshotValue)) :
    WritesOnly [.idempotency] (storeResponse scope resourceIds responseSnapshot) := by
  apply writesOnly_modify .idempotency (by decide)
  intro database table other
  cases table <;> first | rfl | exact absurd rfl other

theorem writesOnly_insertMessage (message : TicketMessage) :
    WritesOnly [.messages] (insertMessage message) := by
  apply writesOnly_bind (writesOnly_reads _)
  intro database
  apply writesOnly_refuseWhen_bind
  apply writesOnly_modify .messages (by decide)
  intro database table other
  cases table <;> first | rfl | exact absurd rfl other

theorem writesOnly_publishUpdate (messageId publicationKey : String)
    (approval : ApprovalRequest) (run : Option AgentRun) (ticketId : String) :
    WritesOnly [.tickets, .messages]
      (publishUpdate messageId publicationKey approval run ticketId) := by
  apply writesOnly_bind (writesOnly_reads _)
  intro database
  apply writesOnly_bind (writesOnly_require _ _)
  intro ticket
  apply writesOnly_bind (writesOnly_modify .tickets (by decide) fun database =>
    same_updateTicket database _ _)
  intro _
  exact (writesOnly_insertMessage _).mono (by decide)

theorem writesOnly_endRun (run : AgentRun) (reason : String) (clearError : Bool) :
    WritesOnly [.runs, .turns] (endRun run reason clearError) := by
  apply writesOnly_bind (writesOnly_modify .runs (by decide) fun database =>
    same_updateRun database _ _)
  intro _
  exact writesOnly_onlyIf _ (writesOnly_modify .turns (by decide) fun database =>
    same_updateTurn database _ _)

theorem writesOnly_queueResume (draws : DecisionDraws) (request : DecisionRequest)
    (approval : ApprovalRequest) (run : AgentRun) (ticket : SupportTicket) (job : RuntimeJob) :
    WritesOnly [.outbox, .runs, .tickets]
      (queueResume draws request approval run ticket job) := by
  apply writesOnly_bind (writesOnly_modify .outbox (by decide) ?_)
  · intro _
    apply writesOnly_bind (writesOnly_modify .runs (by decide) fun database =>
      same_updateRun database _ _)
    intro _
    exact writesOnly_modify .tickets (by decide) fun database =>
      same_updateTicket database _ _
  · intro database table other
    cases table <;> first | rfl | exact absurd rfl other

theorem writesOnly_insertRevision (revision : ApprovalActionRevision) :
    WritesOnly [.revisions] (insertRevision revision) := by
  apply writesOnly_bind (writesOnly_reads _)
  intro database
  apply writesOnly_refuseWhen_bind
  apply writesOnly_refuseWhen_bind
  apply writesOnly_modify .revisions (by decide)
  intro database table other
  cases table <;> first | rfl | exact absurd rfl other

theorem writesOnly_reuseDecision (request : DecisionRequest) (approval : ApprovalRequest)
    (existing : HumanDecision) :
    WritesOnly [.idempotency] (reuseDecision request approval existing) := by
  apply writesOnly_bind (writesOnly_reads _)
  intro database
  apply writesOnly_refuseWhen_bind
  apply writesOnly_bind (writesOnly_storeResponse _ _ _)
  intro _
  exact writesOnly_pure _

end Frames

section Reads

variable {ν : Type*} {view : Database → ν}

theorem keeps_verifyChain (ticketId : String) : Keeps view (verifyChain ticketId) := by
  apply keeps_bind (keeps_reads _)
  intro database
  split
  · exact keeps_pure ()
  · exact keeps_raise _
  · exact keeps_raise _
  · exact keeps_raise _

theorem keeps_validateBinding (approval : ApprovalRequest) :
    Keeps view (validateBinding approval) := by
  apply keeps_refuseWhen_bind
  apply keeps_bind (keeps_reads _)
  intro database
  apply keeps_bind (keeps_require _ _)
  intro run
  apply keeps_bind (keeps_require _ _)
  intro ticket
  apply keeps_bind (keeps_require _ _)
  intro proposal
  apply keeps_bind (keeps_require _ _)
  intro marker
  apply keeps_refuseWhen_bind
  apply keeps_bind (keeps_verifyChain _)
  intro _
  apply keeps_refuseWhen_bind
  exact keeps_pure _

theorem keeps_selectedRevision (approval : ApprovalRequest) (proposal : ProposalRecord) :
    Keeps view (selectedRevision approval proposal) := by
  apply keeps_bind (keeps_reads _)
  intro database
  apply keeps_bind (keeps_require _ _)
  intro revision
  apply keeps_refuseWhen_bind
  exact keeps_pure _

theorem keeps_checkRefundPair (draws : DecisionDraws) (request : DecisionRequest)
    (approval : ApprovalRequest) (proposal : ProposalRecord) :
    Keeps view (checkRefundPair draws request approval proposal) := by
  apply keeps_onlyIf
  apply keeps_bind (keeps_reads _)
  intro database
  apply keeps_bind (keeps_ofExcept _)
  intro evaluated
  exact keeps_refuseWhen _ _

theorem keeps_assertActiveApproverScope (tenantId actorId : String) :
    Keeps view (assertActiveApproverScope tenantId actorId) :=
  keeps_bind (keeps_reads _) fun _ => keeps_refuseWhen _ _

end Reads

/-! ## Calls that write its tables -/

section Outcome

variable {approvalId : String} {before after : Database}

theorem Database.outcomeOf_updateApproval (database : Database) (approvalId : String)
    {change : ApprovalRequest → ApprovalRequest} (keeps : ∀ row, (change row).id = row.id) :
    (database.updateApproval approvalId change).outcomeOf approvalId =
      { database.outcomeOf approvalId with
        status := (Table.find ApprovalRequest.id database.approvals approvalId).map
          fun row => (change row).status } := by
  simp only [outcomeOf, updateApproval, Table.find_update_self keeps, Option.map_map]
  rfl

variable {approval : ApprovalRequest}

/-- An approval leaves the status it was read with. -/
theorem transition_returns {toStatus expectedStatus : ApprovalStatus} {expectedVersion : Option Int}
    {changed : Bool} (moves : approval.status ≠ toStatus)
    (present : (before.outcomeOf approval.id).status = some approval.status)
    (returned : (transition approval toStatus expectedStatus expectedVersion).Returns before
      changed after) :
    approval.status = expectedStatus ∧
      after.outcomeOf approval.id =
        { before.outcomeOf approval.id with status := some toStatus } := by
  simp only [transition, if_neg moves, returns_bind, returns_refuseWhen, returns_modify,
    returns_pure, exists_eq_left, exists_and_left, exists_const, and_assoc] at returned
  rcases returned with ⟨_, fresh, _, _, _, rfl⟩
  rw [not_or, not_not] at fresh
  refine ⟨fresh.1, ?_⟩
  rcases Option.map_eq_some_iff.mp present with ⟨row, found, _⟩
  rw [Database.outcomeOf_updateApproval, found]
  · rfl
  · exact fun _ => rfl

/-- Jobs that do not resume the run of the approval do not show. -/
theorem keepsOutcome_dispatchJob {job : RuntimeJob} (other : job.approvalId ≠ some approvalId)
    (ticket : SupportTicket) :
    Keeps (Database.outcomeOf approvalId) (dispatchJob job ticket) := by
  apply keeps_bind ((writesOnly_updateTicket _ _).keepsOutcome (by decide))
  intro _
  apply keeps_bind
  · apply keeps_bind (keeps_reads _)
    intro database
    apply keeps_refuseWhen_bind
    apply keeps_modify
    intro database
    simp [Database.outcomeOf, List.filter_append, other]
  · intro _
    exact keeps_pure _

theorem keepsOutcome_activateNextTurn (redactPii : PyText → PyText) (draws : Draws)
    (ticket : SupportTicket) (traceId : String) :
    Keeps (Database.outcomeOf approvalId)
      (activateNextTurn redactPii draws ticket traceId) := by
  apply keeps_bind (keeps_reads _)
  intro database
  apply keeps_ite (keeps_pure none)
  split
  · exact keeps_pure none
  · apply keeps_refuseWhen_bind
    apply keeps_bind
      ((writesOnly_createRun redactPii draws ticket _ _ _ _).keepsOutcome (by decide))
    intro runId
    apply keeps_bind ((writesOnly_bindTurn _ runId).keepsOutcome (by decide))
    intro _
    apply keeps_bind (keepsOutcome_dispatchJob (by simp) ticket)
    intro job
    apply keeps_bind
      ((writesOnly_announceJob draws ticket job traceId).keepsOutcome (by decide))
    intro _
    exact keeps_pure _

theorem keepsOutcome_continueTicket (redactPii : PyText → PyText) (draws : Draws)
    (ticketId traceId defaultStatus : String) :
    Keeps (Database.outcomeOf approvalId)
      (continueTicket redactPii draws ticketId traceId defaultStatus) := by
  apply keeps_bind (keeps_reads _)
  intro database
  apply keeps_bind (keeps_require _ _)
  intro ticket
  apply keeps_bind (keepsOutcome_activateNextTurn redactPii draws ticket _)
  intro _
  apply keeps_bind (keeps_reads _)
  intro database
  apply keeps_bind (keeps_require _ _)
  intro ticket
  apply keeps_bind ((writesOnly_convergeTicket ticket defaultStatus).keepsOutcome (by decide))
  intro _
  exact keeps_pure ()

theorem keepsOutcome_convergeRejectedDecision (redactPii : PyText → PyText)
    (draws : DecisionDraws) (request : DecisionRequest) (approval : ApprovalRequest)
    (proposal : ProposalRecord) (run : AgentRun) (ticket : SupportTicket) :
    Keeps (Database.outcomeOf approvalId)
      (convergeRejectedDecision redactPii draws request approval proposal run ticket) := by
  apply keeps_bind ((writesOnly_retireProposal _).keepsOutcome (by decide))
  intro _
  apply keeps_bind ((writesOnly_endRun run _ _).keepsOutcome (by decide))
  intro _
  apply keeps_bind ((writesOnly_updateTicket _ _).keepsOutcome (by decide))
  intro _
  apply keeps_bind (keeps_reads _)
  intro database
  apply keeps_bind (keeps_onlyIf _
    ((writesOnly_publishUpdate _ _ approval _ _).keepsOutcome (by decide)))
  intro _
  exact keepsOutcome_continueTicket redactPii _ _ _ _

theorem keepsOutcome_reviseAction (draws : DecisionDraws) (request : DecisionRequest)
    (approval : ApprovalRequest) (proposal : ProposalRecord)
    (revision : ApprovalActionRevision) :
    Keeps (Database.outcomeOf approval.id)
      (reviseAction draws request approval proposal revision) := by
  apply keeps_refuseWhen_bind
  apply keeps_ite (keeps_pure _)
  apply keeps_bind (keeps_require _ _)
  intro payload
  apply keeps_bind (keeps_ofExcept _)
  intro hash
  apply keeps_bind ((writesOnly_insertRevision _).keepsOutcome (by decide))
  intro _
  apply keeps_bind (keeps_modify ?_) fun _ => keeps_pure _
  intro database
  rw [Database.outcomeOf_updateApproval]
  · rfl
  · exact fun _ => rfl

variable {request : DecisionRequest} {draws : DecisionDraws}

theorem resumeJob_returns {run : AgentRun} {ticket : SupportTicket} {job : Option RuntimeJob}
    (returned : (resumeJob draws request approval run ticket).Returns before job after) :
    job.isSome = decide (request.decision ≠ "reject") ∧
      after.outcomeOf approval.id =
        { before.outcomeOf approval.id with
          resumes := (before.outcomeOf approval.id).resumes ++ job.toList } := by
  rw [resumeJob] at returned
  split at returned
  · rename_i rejected
    rcases returns_pure.mp returned with ⟨rfl, rfl⟩
    simp [rejected]
  · rename_i kept
    rcases returns_bind.mp (returns_readsId_bind.mp returned) with
      ⟨dispatched, middle, dispatches, last⟩
    rcases returns_pure.mp last with ⟨rfl, rfl⟩
    rcases dispatchJob_returns dispatches with ⟨rfl, _, rfl⟩
    simp [kept, Database.outcomeOf, Database.updateTicket, List.filter_append]

theorem insertDecision_returns {decision : HumanDecision} {result : Unit}
    (returned : (insertDecision decision).Returns before result after) :
    after.outcomeOf decision.approvalId =
      { before.outcomeOf decision.approvalId with
        decisions := (before.outcomeOf decision.approvalId).decisions ++ [decision] } := by
  simp only [insertDecision, returns_bind, returns_reads, returns_refuseWhen, returns_modify,
    and_assoc, exists_and_left, exists_eq_left, exists_const, id] at returned
  rw [returned.2.2]
  simp [Database.outcomeOf, List.filter_append]

theorem recordDecision_returns {redactPii : PyText → PyText} {run : AgentRun}
    {ticket : SupportTicket} {revision : ApprovalActionRevision} {hash : String}
    {decision : HumanDecision}
    (returned : (recordDecision redactPii draws request approval run ticket revision
      hash).Returns before decision after) :
    decision.decision = request.decision ∧
      after.outcomeOf approval.id =
        { before.outcomeOf approval.id with
          decisions := (before.outcomeOf approval.id).decisions ++ [decision] } := by
  simp only [recordDecision, returns_bind, returns_reads, returns_require, returns_pure,
    returns_mapError, and_assoc, exists_and_left, exists_eq_left, id] at returned
  rcases returned with ⟨head, _, event, logged, appends, _, _, inserts, rfl, rfl⟩
  have same : logged.outcomeOf approval.id = before.outcomeOf approval.id :=
    ((writesOnly_appendEvent redactPii _).keepsOutcome (by decide)).returns appends
  rw [← same]
  exact ⟨rfl, insertDecision_returns inserts⟩

/-- A validated binding is that of an approval that waits for its decision. -/
theorem validateBinding_returns {bound : AgentRun × SupportTicket × ProposalRecord}
    (returned : (validateBinding approval).Returns before bound after) :
    approval.status = .pending ∧ after = before := by
  have keeps : Keeps (fun database => database) (validateBinding approval) :=
    keeps_validateBinding approval
  refine ⟨?_, keeps.returns returned⟩
  have rest := (returns_refuseWhen_bind.mp returned).2
  rcases returns_require_bind.mp (returns_readsId_bind.mp rest) with ⟨run, _, rest⟩
  rcases returns_require_bind.mp rest with ⟨ticket, _, rest⟩
  rcases returns_require_bind.mp rest with ⟨proposal, _, rest⟩
  rcases returns_require_bind.mp rest with ⟨marker, _, rest⟩
  have holds := (returns_refuseWhen_bind.mp rest).1
  simp only [bindingHolds, Bool.not_eq_false, Bool.and_eq_true, decide_eq_true_eq] at holds
  tauto

/-- How a decision ends an approval. -/
structure Decided (request : DecisionRequest) (before after : ApprovalOutcome) : Prop where
  pending : before.status = some .pending
  undecided : before.decisions = []
  supported : request.decision ∈ ["approve", "edit_and_approve", "reject"]
  recorded : ∃ (decision : HumanDecision) (job : Option RuntimeJob),
    decision.decision = request.decision ∧
      job.isSome = decide (request.decision ≠ "reject") ∧
      after =
        { before with
          status := some request.persistedStatus
          decisions := [decision]
          resumes := before.resumes ++ job.toList }

theorem newDecision_returns {redactPii : PyText → PyText} {accepted : DecisionAccepted}
    (present : (before.outcomeOf approval.id).status = some approval.status)
    (undecided : (before.outcomeOf approval.id).decisions = [])
    (returned : (newDecision redactPii draws request approval).Returns before accepted after) :
    Decided request (before.outcomeOf approval.id) (after.outcomeOf approval.id) := by
  rcases returns_bind.mp returned with ⟨bound, validated, validates, rest⟩
  rcases bound with ⟨run, ticket, proposal⟩
  rcases validateBinding_returns validates with ⟨pending, sameValidated⟩
  rcases returns_refuseWhen_bind.mp rest with ⟨supported, rest⟩
  rcases returns_bind.mp rest with ⟨selected, found, selects, rest⟩
  rcases returns_bind.mp rest with ⟨revision, revised, revises, rest⟩
  rcases returns_bind.mp rest with ⟨_, compared, compares, rest⟩
  rcases returns_bind.mp rest with ⟨_, moved, moves, rest⟩
  rcases returns_ofExcept_bind.mp rest with ⟨hash, _, rest⟩
  rcases returns_bind.mp rest with ⟨job, resumed, resumes, rest⟩
  rcases returns_bind.mp rest with ⟨decision, recorded, records, rest⟩
  have closed : after.outcomeOf approval.id = recorded.outcomeOf approval.id := by
    have stores : ∀ accepted, Keeps (Database.outcomeOf approval.id)
        (do storeDecision (request.scope approval) accepted; pure accepted) := by
      intro accepted
      apply keeps_bind ((writesOnly_storeResponse _ _ _).keepsOutcome (by decide))
      intro _
      exact keeps_pure _
    cases job with
    | some job =>
        refine Keeps.returns (keeps_bind ?_ fun _ => stores _) rest
        exact (writesOnly_queueResume draws request approval run ticket job).keepsOutcome
          (by decide)
    | none =>
        refine Keeps.returns (keeps_bind ?_ fun _ => stores _) rest
        exact keepsOutcome_convergeRejectedDecision redactPii draws request approval proposal
          run ticket
  rw [sameValidated] at selects
  have sameCompared : compared.outcomeOf approval.id = before.outcomeOf approval.id :=
    calc compared.outcomeOf approval.id
      _ = revised.outcomeOf approval.id :=
          (keeps_checkRefundPair draws request approval proposal).returns compares
      _ = found.outcomeOf approval.id :=
          (keepsOutcome_reviseAction draws request approval proposal selected).returns revises
      _ = before.outcomeOf approval.id :=
          (keeps_selectedRevision approval proposal).returns selects
  have leaves : approval.status ≠ request.persistedStatus := by
    rw [pending, DecisionRequest.persistedStatus]
    split <;> decide
  have moved := (transition_returns leaves (by rw [sameCompared]; exact present) moves).2
  rcases resumeJob_returns resumes with ⟨jobKind, resumed⟩
  rcases recordDecision_returns records with ⟨recordedDecision, recorded⟩
  refine ⟨by rw [present, pending], undecided, not_not.mp supported, decision, job,
    recordedDecision, jobKind, ?_⟩
  rw [closed, recorded, resumed, moved, sameCompared]
  simp [undecided]

theorem decisionFor?_eq_none {database : Database} {approvalId : String}
    (none : database.decisionFor? approvalId = none) :
    (database.outcomeOf approvalId).decisions = [] := by
  apply List.filter_eq_nil_iff.mpr
  exact List.find?_eq_none.mp none

/-- A decision is the first one, or nothing changes. -/
theorem decide_returns {redactPii : PyText → PyText} {accepted : DecisionAccepted}
    (returned : (ApprovalCommandCoordinator.decide redactPii draws request).Returns before
      accepted after) :
    after.outcomeOf request.approvalId = before.outcomeOf request.approvalId ∨
      Decided request (before.outcomeOf request.approvalId)
        (after.outcomeOf request.approvalId) := by
  have rest := (returns_refuseWhen_bind.mp returned).2
  rcases returns_require_bind.mp (returns_readsId_bind.mp rest) with
    ⟨approval, isApproval, rest⟩
  rcases returns_bind.mp rest with ⟨_, admitted, admits, rest⟩
  rcases returns_bind.mp rest with ⟨command, accepted, accepts, rest⟩
  rcases Database.approvalOf?_eq_some isApproval with ⟨identified, present⟩
  rw [← identified] at present ⊢
  have sameAccepted : accepted.outcomeOf approval.id = before.outcomeOf approval.id :=
    calc accepted.outcomeOf approval.id
      _ = admitted.outcomeOf approval.id :=
          ((writesOnly_accept _ _ _ _).keepsOutcome (by decide)).returns accepts
      _ = before.outcomeOf approval.id :=
          (keeps_assertActiveApproverScope _ _).returns admits
  split at rest
  · left
    rw [(returns_ofExcept.mp rest).2, sameAccepted]
  · rw [returns_readsId_bind] at rest
    split at rest
    · left
      rw [← sameAccepted]
      exact ((writesOnly_reuseDecision _ _ _).keepsOutcome (by decide)).returns rest
    · rename_i none
      right
      rw [← sameAccepted] at present ⊢
      exact newDecision_returns present (decisionFor?_eq_none none) rest

theorem insertWithdrawal_returns {withdrawal : ProposalWithdrawal} {result : Unit}
    (returned : (insertWithdrawal withdrawal).Returns before result after) :
    after.outcomeOf withdrawal.approvalId =
      { before.outcomeOf withdrawal.approvalId with
        withdrawals :=
          (before.outcomeOf withdrawal.approvalId).withdrawals ++ [withdrawal] } := by
  simp only [insertWithdrawal, returns_bind, returns_reads, returns_refuseWhen,
    returns_modify, and_assoc, exists_and_left, exists_eq_left, exists_const, id] at returned
  rw [returned.2.2]
  simp [Database.outcomeOf, List.filter_append]

/-- How a withdrawal ends an approval. -/
structure Withdrawn (before after : ApprovalOutcome) : Prop where
  pending : before.status = some .pending
  undecided : before.decisions = []
  recorded : ∃ withdrawal : ProposalWithdrawal,
    after =
      { before with
        status := some .withdrawn
        withdrawals := before.withdrawals ++ [withdrawal] }

theorem newWithdrawal_returns {redactPii : PyText → PyText} {draws : WithdrawalDraws}
    {request : WithdrawalRequest} {ticket : SupportTicket} {accepted : WithdrawalAccepted}
    (present : (before.outcomeOf approval.id).status = some approval.status)
    (returned : (newWithdrawal redactPii draws request approval ticket).Returns before accepted
      after) : Withdrawn (before.outcomeOf approval.id) (after.outcomeOf approval.id) := by
  rcases returns_refuseWhen_bind.mp (returns_readsId_bind.mp returned) with ⟨waits, rest⟩
  rcases returns_require_bind.mp rest with ⟨proposal, isProposal, rest⟩
  rcases returns_bind.mp rest with ⟨_, moved, moves, rest⟩
  rcases returns_bind.mp rest with ⟨_, retired, retires, rest⟩
  rcases returns_bind.mp rest with ⟨_, ended, ends, rest⟩
  rcases returns_bind.mp rest with ⟨_, reopened, reopens, rest⟩
  rcases returns_bind.mp rest with ⟨_, inserted, inserts, rest⟩
  rcases returns_bind.mp rest with ⟨_, published, publishes, rest⟩
  rcases returns_bind.mp rest with ⟨_, stored, stores, rest⟩
  rcases returns_bind.mp rest with ⟨_, continued, continues, rest⟩
  rw [(returns_pure.mp rest).2]
  simp only [not_or, not_not, Option.isSome_iff_ne_none, ne_eq] at waits
  rcases waits with ⟨pending, undecided, _⟩
  have moved : moved.outcomeOf approval.id =
      { before.outcomeOf approval.id with status := some .withdrawn } :=
    (transition_returns (by rw [pending]; decide) present moves).2
  have sameReopened : reopened.outcomeOf approval.id = _ :=
    calc reopened.outcomeOf approval.id
      _ = ended.outcomeOf approval.id :=
          ((writesOnly_updateTicket _ _).keepsOutcome (by decide)).returns reopens
      _ = retired.outcomeOf approval.id :=
          ((writesOnly_whenSome _ fun run =>
            writesOnly_endRun run _ _).keepsOutcome (by decide)).returns ends
      _ = _ := ((writesOnly_retireProposal _).keepsOutcome (by decide)).returns retires
  have sameContinued : continued.outcomeOf approval.id = _ :=
    calc continued.outcomeOf approval.id
      _ = stored.outcomeOf approval.id :=
          (keepsOutcome_continueTicket redactPii _ _ _ _).returns continues
      _ = published.outcomeOf approval.id :=
          ((writesOnly_storeResponse _ _ _).keepsOutcome (by decide)).returns stores
      _ = _ :=
          ((writesOnly_publishUpdate _ _ _ _ _).keepsOutcome (by decide)).returns publishes
  have written := insertWithdrawal_returns inserts
  dsimp only at written
  rw [sameReopened, moved] at written
  exact ⟨by rw [present, pending], decisionFor?_eq_none undecided, _,
    sameContinued.trans written⟩

/-- A withdrawal is the first one, or nothing changes. -/
theorem withdraw_returns {redactPii : PyText → PyText} {draws : WithdrawalDraws}
    {request : WithdrawalRequest} {accepted : WithdrawalAccepted}
    (returned : (ProposalWithdrawalCoordinator.withdraw redactPii draws request).Returns before
      accepted after) :
    after.outcomeOf request.approvalId = before.outcomeOf request.approvalId ∨
      Withdrawn (before.outcomeOf request.approvalId) (after.outcomeOf request.approvalId) := by
  rcases returns_require_bind.mp (returns_readsId_bind.mp returned) with
    ⟨approval, isApproval, rest⟩
  have rest := (returns_refuseWhen_bind.mp rest).2
  rcases returns_require_bind.mp rest with ⟨ticket, isTicket, rest⟩
  rcases returns_bind.mp rest with ⟨command, accepted, accepts, rest⟩
  rcases Database.approvalOf?_eq_some isApproval with ⟨identified, present⟩
  rw [← identified] at present ⊢
  have sameAccepted : accepted.outcomeOf approval.id = before.outcomeOf approval.id :=
    ((writesOnly_accept _ _ _ _).keepsOutcome (by decide)).returns accepts
  split at rest
  · left
    rw [(returns_ofExcept.mp rest).2, sameAccepted]
  · rw [returns_readsId_bind] at rest
    split at rest
    · exact absurd rest returns_raise
    · right
      rw [← sameAccepted] at present ⊢
      exact newWithdrawal_returns present rest

/-- A binding goes stale while its approval waits, or nothing changes. -/
theorem markBindingStale_returns {tenantId approvalId : String} {binding : StaleBinding}
    (returned : (markBindingStale tenantId approvalId).Returns before binding after) :
    binding.reused = true ∧ after = before ∨
      binding.reused = false ∧ (before.outcomeOf approvalId).status = some .pending ∧
        after.outcomeOf approvalId =
          { before.outcomeOf approvalId with status := some .stale } := by
  rw [markBindingStale, returns_readsId_bind] at returned
  split at returned
  · left
    rcases returns_pure.mp returned with ⟨rfl, same⟩
    exact ⟨rfl, same⟩
  · rename_i approval isApproval
    right
    rcases Option.filter_eq_some_iff.mp isApproval with ⟨found, pending⟩
    have pending : approval.status = .pending := by simpa using pending
    rcases Database.approvalOf?_eq_some found with ⟨identified, present⟩
    rcases returns_bind.mp returned with ⟨_, moved, moves, rest⟩
    rcases returns_bind.mp rest with ⟨_, retired, retires, last⟩
    rcases returns_pure.mp last with ⟨rfl, rfl⟩
    have sameRetired : after.outcomeOf approvalId = moved.outcomeOf approvalId :=
      ((writesOnly_onlyIf _ (writesOnly_retireProposal _)).keepsOutcome (by decide)).returns
        retires
    rw [← identified] at present sameRetired ⊢
    have leaves : approval.status ≠ .stale := by rw [pending]; decide
    refine ⟨rfl, by rw [present, pending], ?_⟩
    rw [sameRetired, (transition_returns leaves present moves).2]

end Outcome

/-! ## Histories -/

/-- A database, and whether the binding of the approval was ever marked stale. -/
structure ApprovalHistory where
  database : Database
  staled : Bool := false

namespace ApprovalHistory

def outcome (approvalId : String) (history : ApprovalHistory) : ApprovalOutcome :=
  history.database.outcomeOf approvalId

end ApprovalHistory

section History

variable (redactPii : PyText → PyText) (approvalId : String)

/-- One call on an approval, as a transaction of its own. Work that does not touch the
rows of the approval may come in between. -/
inductive ApprovalStep : ApprovalHistory → ApprovalHistory → Prop
  | decides (history : ApprovalHistory) (draws : DecisionDraws) (request : DecisionRequest)
      (target : request.approvalId = approvalId) :
      ApprovalStep history
        { history with
          database := (atomically (ApprovalCommandCoordinator.decide redactPii draws request)
            history.database).2 }
  | withdraws (history : ApprovalHistory) (draws : WithdrawalDraws)
      (request : WithdrawalRequest) (target : request.approvalId = approvalId) :
      ApprovalStep history
        { history with
          database := (atomically (ProposalWithdrawalCoordinator.withdraw redactPii draws
            request) history.database).2 }
  | marksStale (history : ApprovalHistory) (tenantId : String) :
      ApprovalStep history
        (match atomically (markBindingStale tenantId approvalId) history.database with
        | (.ok binding, database) =>
            { database, staled := history.staled || !binding.reused }
        | (.error _, database) => { history with database })
  | elsewhere (history : ApprovalHistory) (database : Database)
      (untouched : database.outcomeOf approvalId = history.outcome approvalId) :
      ApprovalStep history { history with database }

abbrev ApprovalRun : ApprovalHistory → ApprovalHistory → Prop :=
  Relation.ReflTransGen (ApprovalStep redactPii approvalId)

end History

/-- A decision that lets the action go ahead. -/
def HumanDecision.approves (decision : HumanDecision) : Bool :=
  decision.decision ∈ ["approve", "edit_and_approve"]

/-- The outcomes an approval can have. -/
inductive ApprovalPhase : ApprovalOutcome → Bool → Prop
  | waiting : ApprovalPhase { status := some .pending } false
  | approved (decision : HumanDecision) (job : RuntimeJob) (approves : decision.approves = true) :
      ApprovalPhase
        { status := some .approved, decisions := [decision], resumes := [job] } false
  | rejected (decision : HumanDecision) (rejects : decision.approves = false) :
      ApprovalPhase { status := some .rejected, decisions := [decision] } false
  | withdrawn (withdrawal : ProposalWithdrawal) :
      ApprovalPhase { status := some .withdrawn, withdrawals := [withdrawal] } false
  | stale : ApprovalPhase { status := some .stale } true

variable {staled : Bool}

theorem ApprovalPhase.eq_waiting {outcome : ApprovalOutcome} (phase : ApprovalPhase outcome staled)
    (pending : outcome.status = some .pending) :
    outcome = { status := some .pending } ∧ staled = false := by
  cases phase with
  | waiting => exact ⟨rfl, rfl⟩
  | approved => simp at pending
  | rejected => simp at pending
  | withdrawn => simp at pending
  | stale => simp at pending

theorem Decided.phase {request : DecisionRequest} {before after : ApprovalOutcome}
    (decided : Decided request before after) (phase : ApprovalPhase before staled) :
    ApprovalPhase after staled := by
  rcases phase.eq_waiting decided.pending with ⟨rfl, rfl⟩
  rcases decided.recorded with ⟨decision, job, same, kind, rfl⟩
  by_cases rejects : request.decision = "reject"
  · cases job with
    | some job => simp [rejects] at kind
    | none =>
        rw [DecisionRequest.persistedStatus, if_pos rejects]
        exact .rejected decision (by simp [HumanDecision.approves, same, rejects])
  · cases job with
    | none => simp [rejects] at kind
    | some job =>
        have approves := decided.supported
        simp only [List.mem_cons, rejects, List.not_mem_nil, or_false] at approves
        rw [DecisionRequest.persistedStatus, if_neg rejects]
        exact .approved decision job (by simpa [HumanDecision.approves, same] using approves)

theorem Withdrawn.phase {before after : ApprovalOutcome} (withdrawn : Withdrawn before after)
    (phase : ApprovalPhase before staled) :
    ApprovalPhase after staled := by
  rcases phase.eq_waiting withdrawn.pending with ⟨rfl, rfl⟩
  rcases withdrawn.recorded with ⟨withdrawal, rfl⟩
  exact .withdrawn withdrawal

/-- What a transaction leaves behind when its body does nothing or ends the wait. -/
theorem atomically_outcome {ε α : Type} {program : Program Database ε α} {approvalId : String}
    {before : Database} {Ended : ApprovalOutcome → ApprovalOutcome → Prop}
    (returns : ∀ {result after}, program.Returns before result after →
      after.outcomeOf approvalId = before.outcomeOf approvalId ∨
        Ended (before.outcomeOf approvalId) (after.outcomeOf approvalId))
    (pending : ∀ {after}, Ended (before.outcomeOf approvalId) after →
      (before.outcomeOf approvalId).status = some .pending ∧ ApprovalPhase after staled) :
    (atomically program before).2.outcomeOf approvalId = before.outcomeOf approvalId ∨
      (before.outcomeOf approvalId).status = some .pending ∧
        ApprovalPhase ((atomically program before).2.outcomeOf approvalId) staled := by
  rcases atomically_cases program before with ⟨result, after, returned, equal⟩ | ⟨_, equal⟩
  · rw [equal]
    exact (returns returned).imp_right pending
  · rw [equal]
    exact .inl rfl

/-- A call does nothing to the outcome, or it ends the wait. -/
theorem ApprovalStep.outcome_cases {redactPii : PyText → PyText} {approvalId : String}
    {before after : ApprovalHistory} (step : ApprovalStep redactPii approvalId before after)
    (phase : ApprovalPhase (before.outcome approvalId) before.staled) :
    after.outcome approvalId = before.outcome approvalId ∧ after.staled = before.staled ∨
      (before.outcome approvalId).status = some .pending ∧
        ApprovalPhase (after.outcome approvalId) after.staled := by
  cases step with
  | decides draws request target =>
      subst target
      exact (atomically_outcome decide_returns fun decided =>
        ⟨decided.pending, decided.phase phase⟩).imp_left fun same => ⟨same, rfl⟩
  | withdraws draws request target =>
      subst target
      exact (atomically_outcome withdraw_returns fun withdrawn =>
        ⟨withdrawn.pending, withdrawn.phase phase⟩).imp_left fun same => ⟨same, rfl⟩
  | marksStale tenantId =>
      rcases atomically_cases (markBindingStale tenantId approvalId) before.database with
        ⟨binding, marked, returned, equal⟩ | ⟨_, equal⟩
      · rw [equal]
        rcases markBindingStale_returns returned with ⟨reused, rfl⟩ | ⟨new, pending, staled⟩
        · left
          simp [ApprovalHistory.outcome, reused]
        · right
          refine ⟨pending, ?_⟩
          rcases phase.eq_waiting pending with ⟨waiting, notYet⟩
          simp only [ApprovalHistory.outcome] at waiting
          simp only [ApprovalHistory.outcome, staled, waiting, new, notYet]
          exact .stale
      · rw [equal]
        exact .inl ⟨rfl, rfl⟩
  | elsewhere database untouched => exact .inl ⟨untouched, rfl⟩

theorem ApprovalRun.phase {redactPii : PyText → PyText} {approvalId : String}
    {initial reached : ApprovalHistory} (run : ApprovalRun redactPii approvalId initial reached)
    (phase : ApprovalPhase (initial.outcome approvalId) initial.staled) :
    ApprovalPhase (reached.outcome approvalId) reached.staled := by
  have keeps : ∀ before after, ApprovalStep redactPii approvalId before after →
      ApprovalPhase (before.outcome approvalId) before.staled →
        ApprovalPhase (after.outcome approvalId) after.staled := by
    intro before after step phase
    rcases step.outcome_cases phase with ⟨same, staled⟩ | ⟨_, ended⟩
    · rw [same, staled]
      exact phase
    · exact ended
  exact Run.preserves keeps run phase

/-- An approval that no longer waits keeps its outcome. -/
theorem ApprovalRun.outcome_eq {redactPii : PyText → PyText} {approvalId : String}
    {initial reached : ApprovalHistory} (run : ApprovalRun redactPii approvalId initial reached)
    (phase : ApprovalPhase (initial.outcome approvalId) initial.staled)
    (ended : (initial.outcome approvalId).status ≠ some .pending) :
    reached.outcome approvalId = initial.outcome approvalId := by
  induction run with
  | refl => rfl
  | tail earlier step induction =>
      rcases step.outcome_cases (ApprovalRun.phase earlier phase) with
        ⟨same, _⟩ | ⟨pending, _⟩
      · rw [same, induction]
      · rw [induction] at pending
        exact absurd pending ended

/-! ## One outcome -/

structure OneOutcome (outcome : ApprovalOutcome) (staled : Bool) : Prop where
  decisions : outcome.decisions.length ≤ 1
  withdrawals : outcome.withdrawals.length ≤ 1
  notBoth : outcome.decisions = [] ∨ outcome.withdrawals = []
  /-- A run is resumed once when its action was approved, and never otherwise. -/
  resumes : outcome.resumes.length =
    if outcome.decisions.any HumanDecision.approves then 1 else 0
  pending : outcome.status = some .pending ↔
    outcome.decisions = [] ∧ outcome.withdrawals = [] ∧ staled = false

theorem ApprovalPhase.oneOutcome {outcome : ApprovalOutcome}
    (phase : ApprovalPhase outcome staled) : OneOutcome outcome staled := by
  cases phase with
  | waiting => constructor <;> simp
  | approved decision job approves => constructor <;> simp [approves]
  | rejected decision rejects => constructor <;> simp [rejects]
  | withdrawn withdrawal => constructor <;> simp
  | stale => constructor <;> simp

/-- Whatever decisions, withdrawals and stale bindings are tried on an approval, and in
whatever order, it has one outcome, and it never waits again once it has it. -/
theorem approval_hasOneOutcome (redactPii : PyText → PyText) (approvalId : String)
    {initial reached : ApprovalHistory}
    (waits : initial.outcome approvalId = { status := some .pending })
    (fresh : initial.staled = false)
    (run : ApprovalRun redactPii approvalId initial reached) :
    OneOutcome (reached.outcome approvalId) reached.staled ∧
      ((reached.outcome approvalId).status ≠ some .pending →
        ∀ later, ApprovalRun redactPii approvalId reached later →
          (later.outcome approvalId).status ≠ some .pending) := by
  have start : ApprovalPhase (initial.outcome approvalId) initial.staled := by
    rw [waits, fresh]
    exact .waiting
  have phase := run.phase start
  refine ⟨phase.oneOutcome, ?_⟩
  intro ended later further
  rw [further.outcome_eq phase ended]
  exact ended

/-- A run waits for an approval behind the first event of its ticket. -/
def waitingApproval : Database where
  tickets :=
    [{ id := "ticket_1", tenantId := "tenant", customerId := "customer", nextEventSequence := 1 }]
  runs :=
    [{ id := "run_1", tenantId := "tenant", ticketId := "ticket_1", customerId := "customer",
       status := "interrupted", nextRunSequence := 1 }]
  events := [exampleEvent ascendingPayload]
  markers :=
    [{ id := "marker", tenantId := "tenant", runId := "run_1", jobId := "job",
       fencingToken := 1, segmentKind := "interrupt", status := .finalized,
       privateNamespace := "namespace", expectedRunVersion := 1, expectedRunStatus := "running",
       preparedPayloadHash := "hash", finalCheckpointVersion := some 0 }]
  proposals :=
    [{ id := "proposal", tenantId := "tenant", actionType := "refund", resourceId := "charge",
       status := .bound }]
  revisions :=
    [{ id := "revision", tenantId := "tenant", approvalId := "approval",
       proposalId := "proposal", snapshotId := "snapshot", revisionNumber := 0,
       actionPayload := [], actionHash := "", resourceVersion := 1, createdByRef := "agent",
       revisionReason := "initial" }]
  approvals :=
    [{ id := "approval", tenantId := "tenant", ticketId := "ticket_1", customerId := "customer",
       runId := "run_1", proposalId := "proposal", actionType := "refund",
       resourceType := "billing_record", resourceId := "charge", actionPayload := .null,
       businessVersion := 1, idempotencyKey := "key", selectedRevisionId := some "revision",
       selectedRevisionNumber := some 0, markerId := some "marker",
       expectedTicketHeadEventId := some "event_1", expectedTicketSequence := some 1,
       expectedTicketEventHash := some firstHash }]
  memberships :=
    [{ tenantId := "tenant", userId := "approver", role := "support_approver",
       status := "active" }]
  approverScopes := [{ userId := "approver", tenantId := "tenant" }]

def decisionDraws : DecisionDraws where
  revisionId := "revision2"
  decisionId := "decision2"
  jobId := "job2"
  eventId := "event2"
  outboxId := "outbox2"
  deliveryId := "delivery2"
  messageId := "message2"
  now := ⟨0, Instant.first_inRange⟩
  next :=
    { runId := "run2", jobId := "job3", messageId := "message3", eventId := "event3",
      outboxId := "outbox3", deliveryId := "delivery3", now := ⟨0, Instant.first_inRange⟩,
      startedPayload := .none }

def withdrawalDraws : WithdrawalDraws where
  withdrawalId := "withdrawal"
  messageId := "message"
  now := decisionDraws.now
  next := decisionDraws.next

def chargeRejection : DecisionRequest where
  tenantId := "tenant"
  approvalId := "approval"
  decision := "reject"
  actorId := "approver"
  idempotencyKey := "first"
  reason := "refused"
  traceId := "trace"

def chargeWithdrawal : WithdrawalRequest where
  tenantId := "tenant"
  customerId := "customer"
  principalId := "customer"
  approvalId := "approval"
  idempotencyKey := "second"
  reason := "mistaken"
  traceId := "trace"

def rejectCharge : Database → Except RuntimeRaise DecisionAccepted × Database :=
  atomically (ApprovalCommandCoordinator.decide (fun text => text) decisionDraws chargeRejection)

def withdrawCharge : Database → Except RuntimeRaise WithdrawalAccepted × Database :=
  atomically (ProposalWithdrawalCoordinator.withdraw (fun text => text) withdrawalDraws
    chargeWithdrawal)

def contestedFrom (database : Database) : ApprovalHistory where
  database := (withdrawCharge (rejectCharge database).2).2

theorem contestedFrom_run (database : Database) :
    ApprovalRun (fun text => text) "approval" { database } (contestedFrom database) :=
  (Relation.ReflTransGen.single (.decides _ decisionDraws chargeRejection rfl)).tail
    (.withdraws { database := (rejectCharge database).2 } withdrawalDraws chargeWithdrawal rfl)

/-- The decision is accepted, and the withdrawal behind it is refused. -/
theorem approval_hasOneOutcome_contested :
    (rejectCharge waitingApproval).1.isOk = true ∧
      (withdrawCharge (rejectCharge waitingApproval).2).1.isOk = false ∧
      ((contestedFrom waitingApproval).outcome "approval").status = some .rejected ∧
      OneOutcome ((contestedFrom waitingApproval).outcome "approval") false := by
  have evaluated : (rejectCharge waitingApproval).1.isOk = true ∧
      (withdrawCharge (rejectCharge waitingApproval).2).1.isOk = false ∧
      ((contestedFrom waitingApproval).outcome "approval").status = some .rejected := by
    decide +kernel
  have run := contestedFrom_run waitingApproval
  exact ⟨evaluated.1, evaluated.2.1, evaluated.2.2,
    (approval_hasOneOutcome _ "approval" rfl rfl run).1⟩

end SupportGuard
