import SupportGuard.Services.ApprovalOutcomes

/-! # Accepted decisions

Whether the decision that is reported as accepted is the one on record, with the revision
that the request asks for. -/

namespace SupportGuard

open Foundation Program

/-! ## What is on record -/

/-- The rows that say what was decided of an approval. -/
structure DecidedAction where
  decisions : List HumanDecision
  /-- The type of the action and the revision that the approval selects. -/
  selection : Option (String × Option String)
  revisions : List ApprovalActionRevision

def Database.decidedAction (approvalId : String) (database : Database) : DecidedAction where
  decisions := database.decisions.filter fun decision => decision.approvalId = approvalId
  selection := (Table.find ApprovalRequest.id database.approvals approvalId).map fun row =>
    (row.actionType, row.selectedRevisionId)
  revisions := database.revisions

/-- The payload that a request asks for. -/
def DecisionRequest.requested (request : DecisionRequest) (actionType : String)
    (basePayload : List (String × Json)) : Option (List (String × Json)) :=
  if request.editedPayload = [] then some basePayload
  else applyApprovalEdit actionType basePayload request.editedPayload

/-- The only decision on record is the one a request names, and the selected revision is the
one the request makes of the base. -/
structure DecidedAction.Records (action : DecidedAction) (request : DecisionRequest) : Prop where
  decision : ∃ decision, action.decisions = [decision] ∧ decision.decision = request.decision
  payload : ∃ actionType selected revision base,
    action.selection = some (actionType, selected) ∧
      Table.find ApprovalActionRevision.id action.revisions (selected.getD "") = some revision ∧
        base ∈ action.revisions ∧ base.approvalId = request.approvalId ∧
          base.revisionNumber = 0 ∧
            request.requested actionType base.actionPayload = some revision.actionPayload

/-- Nothing is decided yet, and no response is kept under the key of the request. -/
def Database.Undecided (database : Database) (request : DecisionRequest) : Prop :=
  database.decisionFor? request.approvalId = none ∧
    ∀ approval record, database.approvalOf? request.tenantId request.approvalId = some approval →
      Table.find IdempotencyRequest.scope database.idempotency (request.scope approval) =
        some record → record.responseSnapshot = []

/-! ## Calls beside the decision -/

section Frames

variable {ε α : Type} {approvalId : String} {tables : List DatabaseTable}

/-- A call that writes other tables does not show. -/
theorem WritesOnly.keepsDecidedAction {program : Program Database ε α}
    (writes : WritesOnly tables program)
    (apart : ∀ table ∈ [DatabaseTable.approvals, .decisions, .revisions], table ∉ tables) :
    Keeps (Database.decidedAction approvalId) program := by
  intro database
  have approvals : _ = _ := writes database .approvals (apart _ (by simp))
  have decisions : _ = _ := writes database .decisions (apart _ (by simp))
  have revisions : _ = _ := writes database .revisions (apart _ (by simp))
  simp only [Database.decidedAction, approvals, decisions, revisions]

theorem writesOnly_continueTicket (redactPii : PyText → PyText) (draws : Draws)
    (ticketId traceId defaultStatus : String) :
    WritesOnly [.tickets, .runs, .events, .turns, .messages, .jobs, .outbox]
      (continueTicket redactPii draws ticketId traceId defaultStatus) := by
  apply writesOnly_bind (writesOnly_reads _)
  intro database
  apply writesOnly_bind (writesOnly_require _ _)
  intro ticket
  apply writesOnly_bind (writesOnly_activateNextTurn redactPii draws ticket _)
  intro _
  apply writesOnly_bind (writesOnly_reads _)
  intro database
  apply writesOnly_bind (writesOnly_require _ _)
  intro ticket
  apply writesOnly_bind ((writesOnly_convergeTicket ticket defaultStatus).mono (by decide))
  intro _
  exact writesOnly_pure ()

theorem writesOnly_convergeRejectedDecision (redactPii : PyText → PyText)
    (draws : DecisionDraws) (request : DecisionRequest) (approval : ApprovalRequest)
    (proposal : ProposalRecord) (run : AgentRun) (ticket : SupportTicket) :
    WritesOnly [.proposals, .tickets, .runs, .events, .turns, .messages, .jobs, .outbox]
      (convergeRejectedDecision redactPii draws request approval proposal run ticket) := by
  apply writesOnly_bind ((writesOnly_retireProposal _).mono (by decide))
  intro _
  apply writesOnly_bind ((writesOnly_endRun run _ _).mono (by decide))
  intro _
  apply writesOnly_bind ((writesOnly_updateTicket _ _).mono (by decide))
  intro _
  apply writesOnly_bind (writesOnly_reads _)
  intro database
  apply writesOnly_bind (writesOnly_onlyIf _
    ((writesOnly_publishUpdate _ _ approval _ _).mono (by decide)))
  intro _
  exact (writesOnly_continueTicket redactPii _ _ _ _).mono (by decide)

theorem writesOnly_resumeJob (draws : DecisionDraws) (request : DecisionRequest)
    (approval : ApprovalRequest) (run : AgentRun) (ticket : SupportTicket) :
    WritesOnly [.tickets, .jobs] (resumeJob draws request approval run ticket) := by
  apply writesOnly_ite (writesOnly_pure none)
  apply writesOnly_bind (writesOnly_reads _)
  intro database
  apply writesOnly_bind (writesOnly_dispatchJob _ ticket)
  intro job
  exact writesOnly_pure _

theorem writesOnly_insertDecision (decision : HumanDecision) :
    WritesOnly [.decisions] (insertDecision decision) := by
  apply writesOnly_bind (writesOnly_reads _)
  intro database
  apply writesOnly_refuseWhen_bind
  apply writesOnly_refuseWhen_bind
  apply writesOnly_modify .decisions (by decide)
  intro database table other
  cases table <;> first | rfl | exact absurd rfl other

theorem writesOnly_recordDecision (redactPii : PyText → PyText) (draws : DecisionDraws)
    (request : DecisionRequest) (approval : ApprovalRequest) (run : AgentRun)
    (ticket : SupportTicket) (revision : ApprovalActionRevision) (hash : String) :
    WritesOnly [.events, .tickets, .runs, .decisions]
      (recordDecision redactPii draws request approval run ticket revision hash) := by
  apply writesOnly_bind (writesOnly_reads _)
  intro database
  apply writesOnly_bind (writesOnly_require _ _)
  intro head
  apply writesOnly_bind
    (writesOnly_mapError ((writesOnly_appendEvent redactPii _).mono (by decide)))
  intro event
  apply writesOnly_bind ((writesOnly_insertDecision _).mono (by decide))
  intro _
  exact writesOnly_pure _

end Frames

/-! ## Calls that write its rows -/

section Steps

variable {before after : Database} {request : DecisionRequest} {approval : ApprovalRequest}
  {draws : DecisionDraws}

theorem keepsDecidedAction_transition (toStatus expectedStatus : ApprovalStatus)
    (expectedVersion : Option Int) :
    Keeps (Database.decidedAction approval.id)
      (transition approval toStatus expectedStatus expectedVersion) := by
  apply keeps_ite (keeps_pure false)
  apply keeps_refuseWhen_bind
  apply keeps_refuseWhen_bind
  apply keeps_refuseWhen_bind
  apply keeps_refuseWhen_bind
  apply keeps_bind (keeps_modify ?_) fun _ => keeps_pure true
  intro database
  simp only [Database.decidedAction, Database.updateApproval]
  congr 1
  apply Table.map_find_update
  · exact fun _ => rfl
  · exact fun _ => rfl

/-- The revision a decision starts from is the base of the approval. -/
theorem selectedRevision_returns {proposal : ProposalRecord} {selected : ApprovalActionRevision}
    (returned : (selectedRevision approval proposal).Returns before selected after) :
    Table.find ApprovalActionRevision.id before.revisions
        (approval.selectedRevisionId.getD "") = some selected ∧
      selected.approvalId = approval.id ∧ selected.revisionNumber = 0 ∧ after = before := by
  rcases returns_require_bind.mp (returns_readsId_bind.mp returned) with ⟨revision, found, rest⟩
  rcases returns_refuseWhen_bind.mp rest with ⟨agrees, last⟩
  rcases returns_pure.mp last with ⟨rfl, same⟩
  push Not at agrees
  exact ⟨found, agrees.1, agrees.2.2.1, same⟩

theorem insertRevision_returns {revision : ApprovalActionRevision} {result : Unit}
    (returned : (insertRevision revision).Returns before result after) :
    (∀ other ∈ before.revisions, other.id ≠ revision.id) ∧
      after = { before with revisions := before.revisions ++ [revision] } := by
  rcases returns_refuseWhen_bind.mp (returns_readsId_bind.mp returned) with ⟨newId, rest⟩
  have rest := (returns_refuseWhen_bind.mp rest).2
  exact ⟨by simpa using newId, returns_modify.mp rest⟩

/-- The revision that is decided on is selected, and is what the request asks for. -/
structure Selects (request : DecisionRequest) (base revision : ApprovalActionRevision)
    (before after : DecidedAction) : Prop where
  decisions : after.decisions = before.decisions
  among : ∀ other ∈ before.revisions, other ∈ after.revisions
  selected : ∃ actionType selected, after.selection = some (actionType, selected) ∧
    Table.find ApprovalActionRevision.id after.revisions (selected.getD "") = some revision ∧
      request.requested actionType base.actionPayload = some revision.actionPayload

theorem reviseAction_returns {proposal : ProposalRecord}
    {base revision : ApprovalActionRevision}
    (present : Table.find ApprovalRequest.id before.approvals approval.id = some approval)
    (found : Table.find ApprovalActionRevision.id before.revisions
      (approval.selectedRevisionId.getD "") = some base)
    (returned : (reviseAction draws request approval proposal base).Returns before revision
      after) :
    Selects request base revision (before.decidedAction approval.id)
      (after.decidedAction approval.id) := by
  have rest := (returns_refuseWhen_bind.mp returned).2
  split at rest
  · rename_i plain
    rcases returns_pure.mp rest with ⟨rfl, rfl⟩
    have selection : (after.decidedAction approval.id).selection =
        some (approval.actionType, approval.selectedRevisionId) := by
      simp only [Database.decidedAction, present, Option.map_some]
    exact ⟨rfl, fun _ member => member, _, _, selection, found, by
      rw [DecisionRequest.requested, if_pos plain]⟩
  · rename_i edits
    rcases returns_require_bind.mp rest with ⟨payload, applied, rest⟩
    rcases returns_ofExcept_bind.mp rest with ⟨hash, _, rest⟩
    rcases returns_bind.mp rest with ⟨_, inserted, inserts, rest⟩
    rcases returns_bind.mp rest with ⟨_, updated, updates, last⟩
    rcases returns_pure.mp last with ⟨rfl, rfl⟩
    rcases insertRevision_returns inserts with ⟨fresh, rfl⟩
    rw [returns_modify.mp updates]
    refine ⟨rfl, ?_, approval.actionType, some draws.revisionId, ?_, ?_, ?_⟩
    · intro other member
      exact List.mem_append_left _ member
    · simp only [Database.decidedAction, Database.updateApproval]
      rw [Table.find_update_self, present]
      · rfl
      · exact fun _ => rfl
    · exact Table.find_append_new fresh
    · rw [DecisionRequest.requested, if_neg edits, applied]

/-- A first decision is on record, with the revision the request asks for. -/
theorem newDecision_records {redactPii : PyText → PyText} {accepted : DecisionAccepted}
    (identified : approval.id = request.approvalId)
    (present : Table.find ApprovalRequest.id before.approvals approval.id = some approval)
    (undecided : (before.decidedAction approval.id).decisions = [])
    (returned : (newDecision redactPii draws request approval).Returns before accepted after) :
    (after.decidedAction approval.id).Records request := by
  rcases returns_bind.mp returned with ⟨bound, validated, validates, rest⟩
  rcases bound with ⟨run, ticket, proposal⟩
  have sameValidated := (validateBinding_returns validates).2
  rcases returns_refuseWhen_bind.mp rest with ⟨_, rest⟩
  rcases returns_bind.mp rest with ⟨base, found, selects, rest⟩
  rcases selectedRevision_returns selects with ⟨isBase, owner, first, sameFound⟩
  rcases returns_bind.mp rest with ⟨revision, revised, revises, rest⟩
  rcases returns_bind.mp rest with ⟨_, compared, compares, rest⟩
  rcases returns_bind.mp rest with ⟨_, moved, moves, rest⟩
  rcases returns_ofExcept_bind.mp rest with ⟨hash, _, rest⟩
  rcases returns_bind.mp rest with ⟨job, resumed, resumes, rest⟩
  rcases returns_bind.mp rest with ⟨decision, recorded, records, rest⟩
  rw [sameValidated] at sameFound isBase
  rw [sameFound] at revises
  have chosen := reviseAction_returns present isBase revises
  have sameResumed : resumed.decidedAction approval.id = revised.decidedAction approval.id :=
    calc resumed.decidedAction approval.id
      _ = moved.decidedAction approval.id :=
          ((writesOnly_resumeJob _ _ _ _ _).keepsDecidedAction (by decide)).returns resumes
      _ = compared.decidedAction approval.id :=
          (keepsDecidedAction_transition _ _ _).returns moves
      _ = revised.decidedAction approval.id :=
          (keeps_checkRefundPair draws request approval proposal).returns compares
  have closed : after.decidedAction approval.id = recorded.decidedAction approval.id := by
    have stores : ∀ accepted, Keeps (Database.decidedAction approval.id)
        (do storeDecision (request.scope approval) accepted; pure accepted) := by
      intro accepted
      apply keeps_bind ((writesOnly_storeResponse _ _ _).keepsDecidedAction (by decide))
      intro _
      exact keeps_pure _
    cases job with
    | some job =>
        apply Keeps.returns _ rest
        apply keeps_bind _ fun _ => stores _
        exact (writesOnly_queueResume draws request approval run ticket job).keepsDecidedAction
          (by decide)
    | none =>
        apply Keeps.returns _ rest
        apply keeps_bind _ fun _ => stores _
        exact (writesOnly_convergeRejectedDecision redactPii draws request approval proposal run
          ticket).keepsDecidedAction (by decide)
  rcases recordDecision_returns records with ⟨named, outcome⟩
  have writes := writesOnly_recordDecision redactPii draws request approval run ticket revision
    hash
  have sameApprovals : _ = _ := writes.returns records .approvals (by decide)
  have sameRevisions : _ = _ := writes.returns records .revisions (by decide)
  have decisions : (recorded.decidedAction approval.id).decisions =
      (resumed.decidedAction approval.id).decisions ++ [decision] :=
    congrArg ApprovalOutcome.decisions outcome
  rw [closed]
  constructor
  · refine ⟨decision, ?_, named⟩
    rw [decisions, sameResumed, chosen.decisions, undecided, List.nil_append]
  · have kept : (recorded.decidedAction approval.id).selection =
          (revised.decidedAction approval.id).selection ∧
        (recorded.decidedAction approval.id).revisions =
          (revised.decidedAction approval.id).revisions := by
      rw [← sameResumed]
      simp only [Database.decidedAction, sameApprovals, sameRevisions, and_self]
    rcases chosen.selected with ⟨actionType, selected, selection, isRevision, requested⟩
    refine ⟨actionType, selected, revision, base, ?_, ?_, ?_, owner.trans identified, first,
      requested⟩
    · rw [kept.1, selection]
    · rw [kept.2, isRevision]
    · rw [kept.2]
      exact chosen.among base (Table.find_mem isBase).1

end Steps

/-! ## Accepted requests -/

section Accepted

variable {before after : Database} {request : DecisionRequest}

/-- A command is the one kept under its scope, or a new one without a response. -/
theorem accept_returns {scope : IdempotencyScope} {payload : Json} {command : AcceptedCommand}
    (returned : (IdempotencyRepository.accept scope payload [] []).Returns before command after) :
    (Table.find IdempotencyRequest.scope before.idempotency scope = some command.record ∧
        command.reused = true) ∨
      Table.find IdempotencyRequest.scope before.idempotency scope = none ∧
        command.reused = false := by
  have rest := returns_readsId_bind.mp returned
  split at rest
  · rename_i existing found
    have last := (returns_refuseWhen_bind.mp rest).2
    rcases returns_pure.mp last with ⟨rfl, _⟩
    exact .inl ⟨found, rfl⟩
  · rename_i missing
    dsimp only at rest
    rw [returns_modify_bind] at rest
    rcases returns_pure.mp rest with ⟨rfl, _⟩
    exact .inr ⟨missing, rfl⟩

/-- A decision is a first one, which is then on record as requested, or an earlier one, which
stays as it is. -/
theorem decide_records {redactPii : PyText → PyText} {draws : DecisionDraws}
    {accepted : DecisionAccepted}
    (returned : (ApprovalCommandCoordinator.decide redactPii draws request).Returns before
      accepted after) :
    (before.Undecided request ∧ (after.decidedAction request.approvalId).Records request) ∨
      ¬before.Undecided request ∧
        after.decidedAction request.approvalId = before.decidedAction request.approvalId := by
  have rest := (returns_refuseWhen_bind.mp returned).2
  rcases returns_require_bind.mp (returns_readsId_bind.mp rest) with
    ⟨approval, isApproval, rest⟩
  rcases returns_bind.mp rest with ⟨_, admitted, admits, rest⟩
  rcases returns_bind.mp rest with ⟨command, kept, accepts, rest⟩
  have stays : Keeps (fun database => database)
      (assertActiveApproverScope approval.tenantId request.actorId) :=
    keeps_assertActiveApproverScope _ _
  have sameAdmitted : admitted = before := stays.returns admits
  rw [sameAdmitted] at accepts
  have writes := writesOnly_accept (request.scope approval) request.payload [] []
  have sameKept : kept.decidedAction request.approvalId =
      before.decidedAction request.approvalId :=
    (writes.keepsDecidedAction (by decide)).returns accepts
  have sameApprovals : _ = _ := writes.returns accepts .approvals (by decide)
  have sameDecisions : _ = _ := writes.returns accepts .decisions (by decide)
  have found := (Option.filter_eq_some_iff.mp isApproval).1
  have identified := (Table.find_mem found).2
  split at rest
  · rename_i replayed
    right
    rw [(returns_ofExcept.mp rest).2]
    refine ⟨?_, sameKept⟩
    intro undecided
    rcases accept_returns accepts with ⟨known, _⟩ | ⟨_, new⟩
    · exact replayed.2 (undecided.2 approval _ isApproval known)
    · rw [new] at replayed
      cases replayed.1
  · rename_i anew
    rw [returns_readsId_bind] at rest
    have sameDecision : kept.decisionFor? approval.id = before.decisionFor? approval.id := by
      rw [Database.decisionFor?, sameDecisions, Database.decisionFor?]
    split at rest
    · rename_i existing decided
      right
      rw [sameDecision, identified] at decided
      refine ⟨?_, ?_⟩
      · intro undecided
        rw [undecided.1] at decided
        cases decided
      · rw [← sameKept]
        exact ((writesOnly_reuseDecision _ _ _).keepsDecidedAction (by decide)).returns rest
    · rename_i none
      left
      rw [← sameApprovals] at found
      have present : Table.find ApprovalRequest.id kept.approvals approval.id = some approval := by
        rw [identified]
        exact found
      refine ⟨⟨?_, ?_⟩, ?_⟩
      · rw [← identified, ← sameDecision]
        exact none
      · intro other record isOther known
        cases isApproval.symm.trans isOther
        rcases accept_returns accepts with ⟨same, reused⟩ | ⟨missing, _⟩
        · cases known.symm.trans same
          by_contra responds
          exact anew ⟨reused, responds⟩
        · cases missing.symm.trans known
      · rw [← identified]
        exact newDecision_records identified present (decisionFor?_eq_none none) rest

/-- An accepted decision is the one on record, with the revision the request asks for, just
when it is the first one or the one on record already is. -/
theorem decide_records_iff {redactPii : PyText → PyText} {draws : DecisionDraws}
    {accepted : DecisionAccepted}
    (returned : (ApprovalCommandCoordinator.decide redactPii draws request).Returns before
      accepted after) :
    (after.decidedAction request.approvalId).Records request ↔
      before.Undecided request ∨ (before.decidedAction request.approvalId).Records request := by
  rcases decide_records returned with ⟨undecided, records⟩ | ⟨decided, same⟩
  · exact iff_of_true records (.inl undecided)
  · rw [same]
    constructor
    · exact .inr
    · intro cause
      exact cause.resolve_left decided

end Accepted

/-! ### A change of a limit that was edited to 48 -/

def limitRevision (name : String) (number limit : Int) : ApprovalActionRevision where
  id := "revision" ++ name
  tenantId := "acme"
  approvalId := "approval"
  proposalId := "proposal"
  snapshotId := "snapshot"
  revisionNumber := number
  actionPayload :=
    [("change_type", .string "quota_change"),
      ("target", .object [("concurrency_limit", .integer limit)])]
  actionHash := "hash" ++ name
  resourceVersion := 1
  createdByRef := "approver"
  revisionReason := "edit_and_approve"

def editedLimit : Database where
  approvals :=
    [{ id := "approval", tenantId := "acme", ticketId := "ticket", customerId := "customer",
       runId := "run", proposalId := "proposal", actionType := "entitlement_change",
       resourceType := "subscription_id", resourceId := "subscription", actionPayload := .null,
       businessVersion := 1, idempotencyKey := "request", status := .approved,
       selectedRevisionId := some "revision1", selectedRevisionNumber := some 1 }]
  revisions := [limitRevision "0" 0 40, limitRevision "1" 1 48]
  decisions :=
    [{ id := "decision", tenantId := "acme", approvalId := "approval",
       actionRevisionId := some "revision1", actorId := "approver",
       decision := "edit_and_approve", reason := "agreed", actionHash := some "hash1",
       decisionHash := some "hash", canonicalEventId := some "event",
       canonicalEventHash := some "hash", createdAt := ⟨0, Instant.first_inRange⟩ }]
  jobs :=
    [{ id := "job", tenantId := "acme", ticketId := "ticket", runId := "run",
       dispatchSequence := 1, approvalId := some "approval", kind := .approvalResume,
       availableAt := ⟨0, Instant.first_inRange⟩, createdAt := ⟨0, Instant.first_inRange⟩ }]
  memberships :=
    [{ tenantId := "acme", userId := "approver", role := "support_approver",
       status := "active" }]
  approverScopes := [{ userId := "approver", tenantId := "acme" }]

/-- The limit under a key that was not used before. -/
def limitRequest (limit : Int) : DecisionRequest where
  tenantId := "acme"
  approvalId := "approval"
  decision := "edit_and_approve"
  actorId := "approver"
  idempotencyKey := "second"
  reason := "agreed"
  traceId := "trace"
  editedPayload := [("target_concurrency", .integer limit)]

def decideLimit (limit : Int) : Program Database RuntimeRaise DecisionAccepted :=
  ApprovalCommandCoordinator.decide (fun text => text) decisionDraws (limitRequest limit)

theorem editedLimit_records :
    (editedLimit.decidedAction "approval").Records (limitRequest 48) := by
  constructor
  · exact ⟨_, rfl, rfl⟩
  · exact ⟨_, _, limitRevision "1" 1 48, limitRevision "0" 0 40, rfl, by decide, by decide, rfl,
      rfl, by decide⟩

/-- The same edit under another key. -/
theorem decide_records_repeated :
    ∃ accepted after, (decideLimit 48).Returns editedLimit accepted after ∧
      (after.decidedAction "approval").Records (limitRequest 48) := by
  have ran : (decideLimit 48 editedLimit).1.isOk = true := by decide +kernel
  rcases returns_of_isOk ran with ⟨accepted, returned⟩
  exact ⟨accepted, _, returned, (decide_records_iff returned).mpr (.inr editedLimit_records)⟩

theorem editedLimit_differs :
    ¬(editedLimit.decidedAction "approval").Records (limitRequest 96) := by
  intro records
  rcases records.payload with
    ⟨actionType, selected, revision, base, selection, found, member, _, first, requested⟩
  cases selection
  have isRevision : revision = limitRevision "1" 1 48 := by
    apply Option.some.inj
    rw [← found]
    decide
  have isBase : base = limitRevision "0" 0 40 := by
    rcases List.mem_pair.mp member with same | same
    · exact same
    · rw [same] at first
      cases first
  rw [isRevision, isBase] at requested
  exact absurd requested (by decide)

/-- Another edit is reported as accepted while the first one stays on record. -/
theorem decide_records_otherEdit :
    ∃ accepted after, (decideLimit 96).Returns editedLimit accepted after ∧
      accepted.decision = "edit_and_approve" ∧
        ¬(after.decidedAction "approval").Records (limitRequest 96) := by
  have ran : ((decideLimit 96 editedLimit).1.toOption.any fun accepted =>
      decide (accepted.decision = "edit_and_approve")) = true := by
    decide +kernel
  rcases @returns_of_check _ _ _ (decideLimit 96) editedLimit
    (fun accepted _ => decide (accepted.decision = "edit_and_approve")) ran
    with ⟨accepted, after, returned, named⟩
  refine ⟨accepted, after, returned, of_decide_eq_true named, ?_⟩
  rcases decide_records returned with ⟨undecided, _⟩ | ⟨_, same⟩
  · exact absurd undecided.1 (by decide)
  · intro records
    have before : (editedLimit.decidedAction "approval").Records (limitRequest 96) :=
      same ▸ records
    exact editedLimit_differs before

end SupportGuard
