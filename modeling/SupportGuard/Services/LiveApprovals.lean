import SupportGuard.Services.InterruptFrames

/-! # One live approval for each resource

Interrupts create approvals and join existing ones while the lifecycle moves those on. At
most one approval of a resource is live in every state that such steps reach, and a call
that returns has either created the approval of its own proposal or joined the live one. -/

namespace SupportGuard

open Foundation Program

/-! ## Live approvals -/

structure SingleLive (approvals : List ApprovalRequest) : Prop where
  ids : (approvals.map ApprovalRequest.id).Nodup
  proposals : (approvals.map ApprovalRequest.proposalId).Nodup
  live : ((approvals.filter fun approval => approval.status.isActive).map
    ApprovalRequest.liveIdentity).Nodup

theorem ApprovalsAdvance.singleLive {before after : Database}
    (advance : ApprovalsAdvance before after)
    (single : SingleLive before.approvals) : SingleLive after.approvals where
  ids := by
    rw [advance.ids]
    exact single.ids
  proposals := by
    rw [advance.map_eq ApprovalRequest.MovesTo.proposalId]
    exact single.proposals
  live := by
    rcases advance with ⟨change, moves, equal⟩
    rw [equal]
    apply List.Nodup.sublist _ single.live
    apply Table.filter_map_key_sublist
    · intro row member
      exact (moves row member).liveIdentity
    · intro row member
      exact (moves row member).live

/-- A new approval that the table has accepted. -/
theorem insertApproval_returns {approval : ApprovalRequest} {before after : Database}
    {result : Unit} (returned : (insertApproval approval).Returns before result after) :
    after = { before with approvals := before.approvals ++ [approval] } ∧
      (∀ other ∈ before.approvals, other.id ≠ approval.id) ∧
      (∀ other ∈ before.approvals, other.proposalId ≠ approval.proposalId) ∧
      (approval.status.isActive = true → ∀ other ∈ before.approvals,
        other.status.isActive = true → other.liveIdentity ≠ approval.liveIdentity) := by
  simp only [insertApproval, returns_readsId_bind, returns_refuseWhen_bind, returns_modify,
    List.any_eq_true, decide_eq_true_eq, not_exists, not_and, Bool.and_eq_true] at returned
  rcases returned with ⟨ids, _, proposals, live, equal⟩
  refine ⟨equal, ids, proposals, ?_⟩
  intro active other member otherActive same
  simp only [ApprovalRequest.liveIdentity, Prod.mk.injEq] at same
  rcases same with ⟨tenant, customer, action, resource⟩
  exact live active other member ⟨⟨⟨otherActive, tenant⟩, customer⟩, action⟩ resource

theorem SingleLive.insert {approvals : List ApprovalRequest} {approval : ApprovalRequest}
    (single : SingleLive approvals) (ids : ∀ other ∈ approvals, other.id ≠ approval.id)
    (proposals : ∀ other ∈ approvals, other.proposalId ≠ approval.proposalId)
    (live : approval.status.isActive = true → ∀ other ∈ approvals,
      other.status.isActive = true → other.liveIdentity ≠ approval.liveIdentity) :
    SingleLive (approvals ++ [approval]) where
  ids := Table.nodup_append_new single.ids ids
  proposals := Table.nodup_append_new single.proposals proposals
  live := by
    rw [List.filter_append]
    cases active : approval.status.isActive with
    | false =>
        rw [show [approval].filter (fun approval => approval.status.isActive) = [] by
          simp [active], List.append_nil]
        exact single.live
    | true =>
        rw [show [approval].filter (fun approval => approval.status.isActive) = [approval] by
          simp [active]]
        apply Table.nodup_append_new single.live
        intro other member
        rw [List.mem_filter] at member
        exact live active other member.1 member.2

/-! ## The parts of a call -/

/-- A message is added unless its key is taken. -/
def publish (tenantId publicationKey approvalId : String)
    (publications : List (String × Option String × Option String)) :
    List (String × Option String × Option String) :=
  if publications.any fun (tenant, key, _) => tenant = tenantId && key = some publicationKey then
    publications
  else publications ++ [(tenantId, some publicationKey, some approvalId)]

theorem publishMessage_returns {messageId ticketId kind publicationKey approvalId : String}
    {run : AgentRun} {before after : Database} {result : Unit}
    (returned : (publishMessage messageId ticketId run kind publicationKey approvalId).Returns
      before result after) :
    ∃ ticket ∈ before.tickets, ticket.id = ticketId ∧
      after.publications =
        publish ticket.tenantId publicationKey approvalId before.publications := by
  unfold publishMessage at returned
  simp only [returns_readsId_bind, returns_require_bind] at returned
  rcases returned with ⟨ticket, found, returned⟩
  refine ⟨ticket, (Table.find_mem found).1, (Table.find_mem found).2, ?_⟩
  have taken : (before.messages.any fun message => message.tenantId = ticket.tenantId &&
      message.publicationKey = some publicationKey) =
      before.publications.any fun (tenant, key, _) =>
        tenant = ticket.tenantId && key = some publicationKey := by
    rw [Database.publications, List.any_map]
    rfl
  unfold publish
  rw [taken] at returned
  split at returned
  · rename_i present
    rw [if_pos present, (returns_pure.mp returned).2]
  · rename_i absent
    rw [if_neg absent]
    simp only [returns_modify_bind, insertMessage, returns_readsId_bind,
      returns_refuseWhen_bind, returns_modify] at returned
    rw [returned.2]
    simp [Database.publications, Database.updateTicket, TicketMessage.publication]

/-- What the last part of a call keeps. -/
structure Continues (before after : Database) : Prop where
  linked : after.Linked
  publications : after.publications = before.publications
  ended : ∀ {runId turnId}, Ended before runId turnId → Ended after runId turnId

theorem activateAndConverge_continues {redactPii : PyText → PyText} {draws : InterruptDraws}
    {ticketId runId defaultStatus : String} {before after : Database} {result : Unit}
    (linked : before.Linked)
    (returned : (activateAndConverge redactPii draws ticketId runId defaultStatus).Returns
      before result after) : Continues before after := by
  unfold activateAndConverge at returned
  simp only [returns_readsId_bind, returns_require_bind] at returned
  rcases returned with ⟨ticket, _, returned⟩
  rcases returns_bind.mp returned with ⟨_, middle, activated, returned⟩
  simp only [returns_readsId_bind, returns_require_bind] at returned
  rcases returned with ⟨ticket', _, returned⟩
  rcases returns_bind.mp returned with ⟨_, final, converged, returned⟩
  rw [(returns_pure.mp returned).2]
  have next := activateNextTurn_returns activated
  have writes := writesOnly_convergeTicket ticket' defaultStatus
  have links : final.links = middle.links :=
    (keepsLinks_convergeTicket ticket' defaultStatus).returns converged
  have messages : final.messages = middle.messages :=
    writes.returns converged .messages (by decide)
  have progress : final.progress = middle.progress :=
    (writes.keepsProgress (by decide)).returns converged
  refine ⟨?_, ?_, ?_⟩
  · rw [Database.Linked, links]
    exact next.sound linked
  · rw [Database.publications, messages]
    exact next.publications
  · intro runId turnId ended
    exact (next.ended linked ended).of_progress progress

/-- What is known of the rows under the locks of an interrupt. -/
structure LockedDomain (database : Database) (lease : JobLease) (proposalId : String)
    (domain : InterruptDomain) : Prop where
  proposal : Table.find ProposalRecord.id database.proposals proposalId = some domain.proposal
  run : Table.find AgentRun.id database.runs lease.runId = some domain.run
  ticket : domain.ticket ∈ database.tickets
  tenant : domain.ticket.tenantId = lease.tenantId
  owns : domain.run.ticketId = domain.ticket.id
  active : ∀ approval, domain.activeApproval = some approval → approval ∈ database.approvals ∧
    approval.status.isActive = true ∧ approval.liveIdentity = (lease.tenantId,
      domain.ticket.customerId, domain.proposal.actionType, domain.proposal.resourceId)

theorem lockInterruptFinalizeDomain_returns {lease : JobLease} {proposalId : String}
    {domain : InterruptDomain} {before after : Database}
    (returned : (lockInterruptFinalizeDomain lease proposalId).Returns before domain after) :
    after = before ∧ LockedDomain before lease proposalId domain := by
  unfold lockInterruptFinalizeDomain at returned
  simp only [returns_readsId_bind, returns_require_bind, returns_refuseWhen_bind] at returned
  rcases returned with ⟨job, _, proposal, proposalFound, ticket, ticketFound, actionType, _, _,
    run, runFound, _, returned⟩
  rcases returns_bind.mp returned with ⟨_, middle, fenced, returned⟩
  have unchanged : Keeps (fun database : Database => database) (assertFence lease) :=
    keeps_assertFence lease
  have same : middle = before := unchanged.returns fenced
  rw [returns_refuseWhen_bind] at returned
  rcases returns_pure.mp returned.2 with ⟨domainIs, equal⟩
  refine ⟨equal.trans same, ?_⟩
  rw [domainIs]
  rw [Option.filter_eq_some_iff] at proposalFound runFound
  have ticketRow := Option.filter_eq_some_iff.mp ticketFound
  have runRow := Option.filter_eq_some_iff.mp runFound.1
  have ticketNamed := Table.find_mem ticketRow.1
  refine ⟨proposalFound.1, runRow.1, ticketNamed.1, by simpa using ticketRow.2, ?_, ?_⟩
  · have placed : run.ticketId = interruptTicketId lease job := by simpa using runFound.2
    rw [placed]
    exact ticketNamed.2.symm
  · intro approval first
    have member : approval ∈ activeApprovals before lease.tenantId ticket.customerId
        proposal.actionType (actionResourceType actionType) proposal.resourceId :=
      List.mem_of_mem_head? first
    simp only [activeApprovals, List.mem_filter, Bool.and_eq_true, decide_eq_true_eq] at member
    rcases member with ⟨stored, ⟨⟨⟨⟨tenant, customer⟩, action⟩, _⟩, resource⟩, live⟩
    refine ⟨stored, live, ?_⟩
    rw [ApprovalRequest.liveIdentity, tenant, customer, action, resource]

/-- The proposal that is found under an identifier has a status. -/
def Database.ProposalIs (database : Database) (proposalId : String) (status : ProposalStatus) :
    Prop :=
  ∃ proposal, Table.find ProposalRecord.id database.proposals proposalId = some proposal ∧
    proposal.status = status

theorem Database.ProposalIs.of_same {before after : Database} {proposalId : String}
    {status : ProposalStatus} (settled : before.ProposalIs proposalId status)
    (same : after.proposals = before.proposals) : after.ProposalIs proposalId status := by
  rw [Database.ProposalIs, same]
  exact settled

section Aggregate

variable {domain : InterruptDomain} {marker : CheckpointCommitMarker}
  {proposalStatus : ProposalStatus} {changeRun : AgentRun → AgentRun}
  {activityState resultState ticketStatus : String} {before after : Database} {result : Unit}

theorem moveAggregate_proposal
    (found : Table.find ProposalRecord.id before.proposals domain.proposal.id =
      some domain.proposal)
    (returned : (moveAggregate domain marker proposalStatus changeRun activityState resultState
      ticketStatus).Returns before result after) :
    after.ProposalIs domain.proposal.id proposalStatus := by
  have updated : after.proposals = Table.update ProposalRecord.id domain.proposal.id (fun row =>
      if row.status = proposalStatus then row
      else { row with status := proposalStatus, statusVersion := row.statusVersion + 1 })
      before.proposals := by
    simp only [moveAggregate, setProposalStatus, setMarkerStatus, returns_modify_bind] at returned
    rcases returns_bind.mp returned with ⟨_, middle, moved, last⟩
    rw [returns_modify.mp last]
    rw [returns_onlyIf] at moved
    split at moved
    · rw [returns_modify.mp moved]
      rfl
    · rw [moved]
      rfl
  rw [Database.ProposalIs, updated]
  refine ⟨_, Table.find_update_of_find ?_ found, ?_⟩
  · intro row
    split <;> rfl
  · split
    · assumption
    · rfl

/-- The run and the turn of the aggregate are completed. -/
theorem moveAggregate_ended {turnId : String} (stored : domain.run ∈ before.runs)
    (bound : domain.run.turnId = some turnId) (named : turnId ≠ "")
    (returned : (moveAggregate domain marker proposalStatus completeRun "completed" resultState
      ticketStatus).Returns before result after) :
    Ended after domain.run.id turnId := by
  have present : missing (some turnId) = false := by
    simpa [missing] using named
  simp only [moveAggregate, setProposalStatus, setMarkerStatus, onlyIf, bound, present, if_true,
    Option.getD_some, returns_modify_bind, returns_modify] at returned
  rw [returned]
  refine ⟨⟨completeRun (canonicalRun marker domain.run), ?_, rfl, bound⟩, ?_, ?_⟩
  · simp only [Database.updateTicket, Database.updateTurn, Database.updateRun,
      Database.updateProposal]
    rw [Table.mem_update]
    exact .inr ⟨domain.run, stored, rfl, rfl⟩
  · intro run member same
    simp only [Database.updateTicket, Database.updateTurn, Database.updateRun,
      Database.updateProposal, Table.mem_update] at member
    rcases member with ⟨_, different⟩ | ⟨old, _, _, equal⟩
    · exact absurd same different
    · rw [equal]
      rfl
  · intro turn member same
    simp only [Database.updateTicket, Database.updateTurn, Database.updateRun,
      Database.updateProposal, Table.mem_update] at member
    rcases member with ⟨_, different⟩ | ⟨old, _, _, equal⟩
    · exact absurd same different
    · rw [equal]

end Aggregate

theorem ticket_tenantId {database : Database} (linked : database.Linked)
    {ticket other : SupportTicket} (placed : ticket.link ∈ database.links.tickets)
    (member : other ∈ database.tickets) (same : other.id = ticket.id) :
    other.tenantId = ticket.tenantId := by
  have links : other.link = ticket.link :=
    List.inj_on_of_nodup_map linked.ticketIds (List.mem_map_of_mem member) placed same
  exact congrArg (fun link => link.2.1) links

section Conclusion

variable {redactPii : PyText → PyText} {draws : InterruptDraws} {lease : JobLease}
  {domain : InterruptDomain} {kind publicationKey approvalId outcome defaultStatus : String}
  {before after : Database} {result : Unit}

/-- The two messages carry the approval, and nothing that has ended starts again. -/
theorem concludeInterrupt_returns (linked : before.Linked)
    (placed : domain.ticket.link ∈ before.links.tickets)
    (returned : (concludeInterrupt redactPii draws lease domain kind publicationKey approvalId
      outcome defaultStatus).Returns before result after) :
    after.Linked ∧
      after.publications = publish domain.ticket.tenantId publicationKey approvalId
        (publish domain.ticket.tenantId ("assistant:" ++ domain.run.id) approvalId
          before.publications) ∧
      ∀ {runId turnId}, Ended before runId turnId → Ended after runId turnId := by
  rcases returns_bind.mp returned with ⟨_, answered, answer, returned⟩
  rcases returns_bind.mp returned with ⟨_, updated, update, returned⟩
  rcases returns_bind.mp returned with ⟨_, released, control, activated⟩
  have answerLinks : answered.links = before.links :=
    (keepsLinks_publishMessage _ _ _ _ _ _).returns answer
  have updateLinks : updated.links = answered.links :=
    (keepsLinks_publishMessage _ _ _ _ _ _).returns update
  have controlWrites := writesOnly_finalizeControl lease .succeeded outcome
  have controlLinks : released.links = updated.links :=
    (controlWrites.keepsLinks (by decide)).returns control
  have answeredLinked : answered.Linked := by
    rw [Database.Linked, answerLinks]
    exact linked
  have continues : Continues released after := by
    apply activateAndConverge_continues _ activated
    rw [Database.Linked, controlLinks, updateLinks]
    exact answeredLinked
  refine ⟨continues.linked, ?_, ?_⟩
  · rcases publishMessage_returns answer with ⟨first, firstMember, firstNamed, answerIs⟩
    rcases publishMessage_returns update with ⟨second, secondMember, secondNamed, updateIs⟩
    have messages : released.messages = updated.messages :=
      controlWrites.returns control .messages (by decide)
    rw [continues.publications, Database.publications, messages]
    rw [Database.publications] at updateIs
    rw [updateIs, answerIs, ticket_tenantId linked placed firstMember firstNamed]
    rw [ticket_tenantId answeredLinked _ secondMember secondNamed]
    rw [answerLinks]
    exact placed
  · intro runId turnId ended
    apply continues.ended
    apply Ended.of_progress _ ((controlWrites.keepsProgress (by decide)).returns control)
    apply Ended.of_progress _
      (((writesOnly_publishMessage _ _ _ _ _ _).keepsProgress (by decide)).returns update)
    exact ended.of_progress
      (((writesOnly_publishMessage _ _ _ _ _ _).keepsProgress (by decide)).returns answer)

end Conclusion

/-! ## The outcomes of a call -/

structure InterruptCall where
  records : InterruptRecords
  draws : InterruptDraws
  lease : JobLease
  markerId : String
  proposalId : String
  testCapability : Bool

def InterruptCall.run (redactPii : PyText → PyText) (call : InterruptCall) :
    Program Database RuntimeRaise InterruptOutcome :=
  finalizeInterrupt redactPii call.records call.draws call.lease call.markerId call.proposalId
    call.testCapability

/-- The proposal has an approval of its own now. -/
structure InterruptCreated (call : InterruptCall) (approval : ApprovalRequest)
    (before after : Database) : Prop where
  approvals : after.approvals = before.approvals ++ [approval]
  own : approval.proposalId = call.proposalId
  pending : approval.status = .pending
  bound : after.ProposalIs call.proposalId .bound

/-- The proposal has given way to a live approval of its resource. -/
structure InterruptReused (call : InterruptCall) (active : ApprovalRequest)
    (before after : Database) : Prop where
  approvals : after.approvals = before.approvals
  stored : active ∈ before.approvals
  live : active.status.isActive = true
  identity : ∃ proposal run,
    Table.find ProposalRecord.id before.proposals call.proposalId = some proposal ∧
      Table.find AgentRun.id before.runs call.lease.runId = some run ∧
      active.liveIdentity =
        (call.lease.tenantId, run.customerId, proposal.actionType, proposal.resourceId)
  stale : after.ProposalIs call.proposalId .stale
  completed : ∃ run ∈ after.runs, ∃ turn ∈ after.turns, run.id = call.lease.runId ∧
    run.status = "completed" ∧ run.turnId = some turn.id ∧ turn.activityState = "completed"
  published : after.publications = publish call.lease.tenantId
    ("approval:" ++ active.id ++ ":reused:" ++ call.lease.runId) active.id
    (publish call.lease.tenantId ("assistant:" ++ call.lease.runId) active.id
      before.publications)

/-- What a call has done when it ends. -/
def InterruptCall.Ends (call : InterruptCall) (before after : Database) :
    InterruptOutcome → Prop
  | .created approval => InterruptCreated call approval before after
  | .reused active => InterruptReused call active before after
  | .aborted _ => after.approvals.map ApprovalRequest.id = before.approvals.map ApprovalRequest.id

/-- What holds of the database after a call. -/
structure InterruptKeeps (call : InterruptCall) (before after : Database)
    (outcome : InterruptOutcome) : Prop where
  ends : call.Ends before after outcome
  linked : after.Linked
  single : SingleLive before.approvals → SingleLive after.approvals

theorem Ended.completed {database : Database} {runId turnId : String} (linked : database.Linked)
    (ended : Ended database runId turnId) :
    ∃ run ∈ database.runs, ∃ turn ∈ database.turns, run.id = runId ∧ run.status = "completed" ∧
      run.turnId = some turn.id ∧ turn.activityState = "completed" := by
  rcases ended.run with ⟨run, member, named, bound⟩
  rcases List.mem_map.mp (linked.run_answers member bound) with ⟨turn, turnMember, link⟩
  have turnNamed : turn.id = turnId := congrArg Prod.fst link
  refine ⟨run, member, turn, turnMember, named, ended.runs run member named, ?_,
    ended.turns turn turnMember turnNamed⟩
  rw [turnNamed]
  exact bound

section Outcomes

variable {redactPii : PyText → PyText} {call : InterruptCall} {before after : Database}
  {outcome : InterruptOutcome}

/-- A call that is aborted has kept what it found. -/
theorem abortFinalizer_keeps {middle : Database} {markerId proposalId reason : String}
    (linked : middle.Linked) (same : middle.approvals = before.approvals)
    (returned : (abortFinalizer redactPii call.draws call.lease markerId proposalId
      reason).Returns middle outcome after) : InterruptKeeps call before after outcome := by
  have advance : ApprovalsAdvance before after :=
    (ApprovalsAdvance.of_same same).trans
      (abortFinalizer_advances redactPii _ _ _ _ _ returned)
  have aborted : outcome = .aborted reason := by
    unfold abortFinalizer at returned
    rcases returns_bind.mp returned with ⟨_, _, _, returned⟩
    rcases returns_bind.mp returned with ⟨_, _, _, returned⟩
    rw [returns_readsId_bind] at returned
    simp only [returns_refuseWhen_bind] at returned
    rcases returns_bind.mp returned.2 with ⟨_, _, _, returned⟩
    rcases returns_bind.mp returned with ⟨_, _, _, returned⟩
    rcases returns_bind.mp returned with ⟨_, _, _, returned⟩
    exact (returns_pure.mp returned).1
  rw [aborted]
  refine ⟨advance.ids, abortFinalizer_linked redactPii _ _ _ _ _ returned linked,
    advance.singleLive⟩

/-- The aggregate has moved and its events are in the log. -/
structure Announced (before after : Database) (proposalId : String) (status : ProposalStatus) :
    Prop where
  links : after.links = before.links
  approvals : after.approvals = before.approvals
  publications : after.publications = before.publications
  proposal : after.ProposalIs proposalId status

variable {verified : FinalizerPayloadV2}

theorem announced {domain : InterruptDomain} {marker : CheckpointCommitMarker}
    {status : ProposalStatus} {changeRun : AgentRun → AgentRun}
    {activityState resultState ticketStatus eventType : String} {payload : Json}
    {moved logged : Database} {result : Unit} {event : Option AgentEvent}
    (keeps : ∀ run, (changeRun run).link = run.link)
    (locked : LockedDomain before call.lease call.proposalId domain)
    (moves : (moveAggregate domain marker status changeRun activityState resultState
      ticketStatus).Returns before result moved)
    (appends : (appendInterruptEvents redactPii call.draws domain.run.id verified eventType
      payload).Returns moved event logged) :
    Announced before logged call.proposalId status ∧ logged.progress = moved.progress := by
  have movedWrites := writesOnly_moveAggregate domain marker status changeRun activityState
    resultState ticketStatus
  have loggedWrites := writesOnly_appendInterruptEvents redactPii call.draws domain.run.id
    verified eventType payload
  have movedLinks : moved.links = before.links :=
    (keepsLinks_moveAggregate domain marker status keeps _ _ _).returns moves
  have loggedLinks : logged.links = moved.links :=
    (keeps_appendInterruptEvents redactPii (keepsLinks_appendEvent redactPii) _ _ _ _
      _).returns appends
  have movedApprovals : moved.approvals = before.approvals :=
    movedWrites.returns moves .approvals (by decide)
  have loggedApprovals : logged.approvals = moved.approvals :=
    loggedWrites.returns appends .approvals (by decide)
  have movedMessages : moved.messages = before.messages :=
    movedWrites.returns moves .messages (by decide)
  have loggedMessages : logged.messages = moved.messages :=
    loggedWrites.returns appends .messages (by decide)
  have named : domain.proposal.id = call.proposalId := (Table.find_mem locked.proposal).2
  refine ⟨⟨loggedLinks.trans movedLinks, loggedApprovals.trans movedApprovals, ?_, ?_⟩, ?_⟩
  · rw [Database.publications, loggedMessages, movedMessages]
    rfl
  · apply Database.ProposalIs.of_same _ (loggedWrites.returns appends .proposals (by decide))
    rw [← named]
    apply moveAggregate_proposal _ moves
    rw [named]
    exact locked.proposal
  · exact (keeps_appendInterruptEvents redactPii (keepsProgress_appendEvent redactPii) _ _ _ _
      _).returns appends

theorem LockedDomain.customerId {lease : JobLease} {proposalId : String}
    {domain : InterruptDomain} (locked : LockedDomain before lease proposalId domain)
    (linked : before.Linked) : domain.ticket.customerId = domain.run.customerId := by
  have stored := (Table.find_mem locked.run).1
  have link : domain.ticket.link =
      (domain.run.ticketId, domain.run.tenantId, domain.run.customerId) :=
    List.inj_on_of_nodup_map linked.ticketIds (List.mem_map_of_mem locked.ticket)
      (linked.run_scope stored) locked.owns.symm
  exact congrArg (fun link => link.2.2) link

theorem finalizeReusedApproval_keeps {domain : InterruptDomain} {marker : CheckpointCommitMarker}
    {active : ApprovalRequest} {turnId : String} (linked : before.Linked)
    (locked : LockedDomain before call.lease call.proposalId domain)
    (joined : domain.activeApproval = some active) (bound : domain.run.turnId = some turnId)
    (named : turnId ≠ "")
    (returned : (finalizeReusedApproval redactPii call.draws call.lease domain marker active
      verified).Returns before outcome after) : InterruptKeeps call before after outcome := by
  rcases returns_bind.mp returned with ⟨_, moved, moves, returned⟩
  rcases returns_bind.mp returned with ⟨event, logged, appends, returned⟩
  have changes : ∀ run, (completeRun run).link = run.link := fun _ => rfl
  rcases announced changes locked moves appends with ⟨announced, progress⟩
  have loggedLinked : logged.Linked := by
    rw [Database.Linked, announced.links]
    exact linked
  cases event with
  | none => exact abortFinalizer_keeps loggedLinked announced.approvals returned
  | some event =>
      dsimp only at returned
      rcases returns_bind.mp returned with ⟨_, final, concludes, returned⟩
      rcases returns_pure.mp returned with ⟨outcomeIs, equal⟩
      rw [outcomeIs, equal]
      have runFound := Table.find_mem locked.run
      have placed : domain.ticket.link ∈ logged.links.tickets := by
        rw [announced.links]
        exact List.mem_map_of_mem locked.ticket
      rcases concludeInterrupt_returns loggedLinked placed concludes with
        ⟨finalLinked, published, keepsEnded⟩
      have writes := writesOnly_concludeInterrupt redactPii call.draws call.lease domain
        "action_update" ("approval:" ++ active.id ++ ":reused:" ++ domain.run.id) active.id
        "completed" "resolved"
      have approvals : final.approvals = before.approvals :=
        (writes.returns concludes .approvals (by decide)).trans announced.approvals
      have ended : Ended final domain.run.id turnId :=
        keepsEnded ((moveAggregate_ended runFound.1 bound named moves).of_progress progress)
      rw [locked.tenant, runFound.2, announced.publications] at published
      rw [runFound.2] at ended
      rcases locked.active active joined with ⟨stored, live, identity⟩
      refine ⟨?_, finalLinked, ?_⟩
      · refine ⟨approvals, stored, live, ⟨domain.proposal, domain.run, locked.proposal,
          locked.run, ?_⟩, ?_, ended.completed finalLinked, published⟩
        · rw [identity, locked.customerId linked]
        · exact announced.proposal.of_same (writes.returns concludes .proposals (by decide))
      · rw [approvals]
        exact id

theorem finalizeNewApproval_keeps {domain : InterruptDomain} {marker : CheckpointCommitMarker}
    {actionType : ActionType} (linked : before.Linked)
    (locked : LockedDomain before call.lease call.proposalId domain)
    (returned : (finalizeNewApproval redactPii call.records call.draws call.lease domain marker
      actionType verified call.testCapability).Returns before outcome after) :
    InterruptKeeps call before after outcome := by
  unfold finalizeNewApproval at returned
  simp only [returns_ofExcept_bind, returns_refuseWhen_bind] at returned
  rcases returned with ⟨refs, _, _, _, returned⟩
  rcases returns_bind.mp returned with ⟨_, moved, moves, returned⟩
  rcases returns_bind.mp returned with ⟨event, logged, appends, returned⟩
  have changes : ∀ run, (interruptRun run).link = run.link := fun _ => rfl
  have announced := (announced changes locked moves appends).1
  have loggedLinked : logged.Linked := by
    rw [Database.Linked, announced.links]
    exact linked
  cases event with
  | none => exact abortFinalizer_keeps loggedLinked announced.approvals returned
  | some event =>
      dsimp only at returned
      rcases returns_bind.mp returned with ⟨_, inserted, inserts, returned⟩
      rcases returns_bind.mp returned with ⟨_, final, concludes, returned⟩
      rcases returns_bind.mp returned with ⟨_, revised, revises, returned⟩
      rcases returns_pure.mp returned with ⟨outcomeIs, equal⟩
      rw [outcomeIs, equal]
      rcases insertApproval_returns inserts with ⟨insertedIs, ids, proposals, live⟩
      rw [announced.approvals] at ids proposals live
      have insertedLinks : inserted.links = logged.links := by rw [insertedIs]; rfl
      have insertedLinked : inserted.Linked := by
        rw [Database.Linked, insertedLinks]
        exact loggedLinked
      have placed : domain.ticket.link ∈ inserted.links.tickets := by
        rw [insertedLinks, announced.links]
        exact List.mem_map_of_mem locked.ticket
      have finalLinked := (concludeInterrupt_returns insertedLinked placed concludes).1
      simp only [insertRevision, returns_readsId_bind, returns_refuseWhen_bind, returns_modify]
        at revises
      have revisedIs := revises.2.2
      have writes := writesOnly_concludeInterrupt redactPii call.draws call.lease domain
        "action_proposal" ("approval:" ++ (requestedApproval call.draws call.lease domain marker
          actionType event).id ++ ":proposal") (requestedApproval call.draws call.lease domain
          marker actionType event).id "interrupted" "awaiting_approval"
      have approvals : revised.approvals = before.approvals ++
          [requestedApproval call.draws call.lease domain marker actionType event] := by
        rw [revisedIs, ← announced.approvals]
        have same : final.approvals = inserted.approvals :=
          writes.returns concludes .approvals (by decide)
        exact same.trans (by rw [insertedIs])
      have settled : revised.ProposalIs call.proposalId .bound := by
        apply announced.proposal.of_same
        rw [revisedIs]
        have same : final.proposals = inserted.proposals :=
          writes.returns concludes .proposals (by decide)
        exact same.trans (by rw [insertedIs])
      refine ⟨⟨approvals, (Table.find_mem locked.proposal).2, rfl, settled⟩, ?_, ?_⟩
      · rw [revisedIs]
        exact finalLinked
      · intro single
        rw [approvals]
        exact single.insert ids proposals live

theorem finalizeInterrupt_keeps (linked : before.Linked)
    (returned : (call.run redactPii).Returns before outcome after) :
    InterruptKeeps call before after outcome := by
  unfold InterruptCall.run finalizeInterrupt at returned
  simp only [returns_readsId_bind, returns_require_bind] at returned
  rcases returned with ⟨marker, _, returned⟩
  rcases returns_bind.mp returned with ⟨domain, locking, locks, returned⟩
  rcases lockInterruptFinalizeDomain_returns locks with ⟨same, locked⟩
  rw [same] at returned
  simp only [returns_refuseWhen_bind, returns_require_bind] at returned
  rcases returned with ⟨_, _, payload, _, returned⟩
  split at returned
  · exact abortFinalizer_keeps linked rfl returned
  · simp only [returns_refuseWhen_bind, returns_ofExcept_bind] at returned
    rcases returned with ⟨_, rebuilt, _, returned⟩
    split at returned
    · exact abortFinalizer_keeps linked rfl returned
    · rw [returns_require_bind] at returned
      rcases returned with ⟨actionType, canonical, returned⟩
      split at returned
      · rename_i active joined
        have named : missing domain.run.turnId = false := by
          have checked := (Option.filter_eq_some_iff.mp canonical).2
          simp only [Bool.and_eq_true, Bool.not_eq_true'] at checked
          exact checked.2
        cases bound : domain.run.turnId with
        | none =>
            rw [bound] at named
            cases named
        | some turnId =>
            apply finalizeReusedApproval_keeps linked locked joined bound _ returned
            intro empty
            rw [bound, empty] at named
            cases named
      · exact finalizeNewApproval_keeps linked locked returned

end Outcomes

/-! ## Runs -/

/-- The steps on the approvals of a tenant's tickets: an interrupt that returns or is aborted,
a transition of a stored approval, and any other work, which leaves the approvals alone. A call
that raises is rolled back. -/
inductive LiveStep (redactPii : PyText → PyText) (before after : Database) : Prop
  | interrupt (call : InterruptCall) (outcome : InterruptOutcome)
      (returned : (call.run redactPii).Returns before outcome after)
  | transition (approval : ApprovalRequest) (toStatus expectedStatus : ApprovalStatus)
      (expectedVersion : Option Int) (changed : Bool) (stored : approval ∈ before.approvals)
      (returned : (transition approval toStatus expectedStatus expectedVersion).Returns before
        changed after)
  | other (same : after.approvals = before.approvals) (linked : after.Linked)

/-- What every step keeps. -/
structure ApprovalsSound (database : Database) : Prop where
  single : SingleLive database.approvals
  linked : database.Linked

theorem LiveStep.sound {redactPii : PyText → PyText} {before after : Database}
    (step : LiveStep redactPii before after) (sound : ApprovalsSound before) :
    ApprovalsSound after := by
  cases step with
  | interrupt call outcome returned =>
      have kept := finalizeInterrupt_keeps sound.linked returned
      exact ⟨kept.single sound.single, kept.linked⟩
  | transition approval toStatus expectedStatus expectedVersion changed stored returned =>
      have advance := transition_advances_stored sound.single.ids stored returned
      have links : after.links = before.links :=
        ((writesOnly_transition _ _ _ _).keepsLinks (by decide)).returns returned
      refine ⟨advance.singleLive sound.single, ?_⟩
      rw [Database.Linked, links]
      exact sound.linked
  | other same linked =>
      refine ⟨?_, linked⟩
      rw [same]
      exact sound.single

/-- In every state that interrupts and transitions reach, a resource has one live approval at
most and a proposal one approval at most; and whatever call returns next, it has created the
approval of its own proposal, or joined the live approval of the same resource, or added no
approval. -/
theorem oneLiveApproval (redactPii : PyText → PyText) {initial database : Database}
    (sound : ApprovalsSound initial)
    (reached : Relation.ReflTransGen (LiveStep redactPii) initial database) :
    SingleLive database.approvals ∧
      ∀ (call : InterruptCall) (outcome : InterruptOutcome) (after : Database),
        (call.run redactPii).Returns database outcome after →
          call.Ends database after outcome := by
  have kept : ApprovalsSound database :=
    Run.preserves (fun _ _ step => step.sound) reached sound
  refine ⟨kept.single, ?_⟩
  intro call outcome after returned
  exact (finalizeInterrupt_keeps kept.linked returned).ends

/-! ### Two conversations about one key -/

def contestedLease (name : String) : JobLease where
  jobId := "job" ++ name
  runId := "run" ++ name
  tenantId := "tenant"
  owner := "worker"
  fencingToken := 1
  expiresAt := ⟨60000000, Instant.minute_inRange⟩
  ticketId := some ("ticket" ++ name)

/-- Two tickets of a customer whose runs have proposed to revoke the same key. -/
def contested : Database where
  tickets := ["1", "2"].map fun name =>
    { id := "ticket" ++ name, tenantId := "tenant", customerId := "customer" }
  turns := ["1", "2"].map fun name =>
    { id := "turn" ++ name, tenantId := "tenant", ticketId := "ticket" ++ name,
      customerMessageId := "message" ++ name, runId := some ("run" ++ name), ordinal := 1,
      activityState := "running" }
  runs := ["1", "2"].map fun name =>
    { id := "run" ++ name, tenantId := "tenant", ticketId := "ticket" ++ name,
      customerId := "customer", messageId := "message" ++ name,
      turnId := some ("turn" ++ name), activeJobId := some ("job" ++ name),
      activeFencingToken := some 1 }
  jobs := ["1", "2"].map fun name =>
    { id := "job" ++ name, tenantId := "tenant", ticketId := "ticket" ++ name,
      runId := "run" ++ name, dispatchSequence := 1, approvalId := none, kind := .agentStart,
      status := .leased, attempt := 1, availableAt := ⟨0, Instant.first_inRange⟩,
      leaseOwner := some "worker", leaseExpiresAt := some ⟨60000000, Instant.minute_inRange⟩,
      fencingToken := 1, createdAt := ⟨0, Instant.first_inRange⟩ }
  markers := ["1", "2"].map fun name =>
    { id := "marker" ++ name, tenantId := "tenant", runId := "run" ++ name,
      jobId := "job" ++ name, fencingToken := 1, segmentKind := "agent_start",
      status := .checkpointWritten, privateNamespace := "private", expectedRunVersion := 1,
      expectedRunStatus := "running", preparedPayloadHash := "",
      finalCheckpointId := some "checkpoint", finalCheckpointHash := some "hash",
      finalCheckpointVersion := some 1 }
  proposals := ["1", "2"].map fun name =>
    { id := "proposal" ++ name, tenantId := "tenant", actionType := "api_key_revocation",
      resourceId := "key", runId := "run" ++ name, resourceVersion := 1 }

def contestedState : StateDelta where
  state := [("user_message", .string "revoke")]
  uniqueKeys := by simp [Json.UniqueKeys, Json.MembersUniqueKeys]
  embeddedFinal := trivial

def contestedPayload (name : String) : FinalizerPayloadV2 :=
  { segmentPayload contestedState with
    ticketId := "ticket" ++ name
    runId := "run" ++ name
    jobId := "job" ++ name
    segmentId := "marker" ++ name
    markerId := "marker" ++ name
    preparedPayloadHash := ""
    expectedHeads :=
      { segmentHeads with
        finalCheckpointId := "checkpoint"
        finalCheckpointHash := "hash"
        expectedToolLedgerHead := ""
        expectedCapabilityLedgerHead := ""
        expectedProposalLedgerHead := ""
        expectedBudgetLedgerHead := ""
        expectedContextSnapshotHash := ""
        expectedContextLedgerHash := "" }
    stateDeltaRef := ""
    stateDeltaHash := ""
    domainDelta := .hitlInterrupt ("proposal" ++ name) "" "" ""
    domainDeltaRef := ""
    domainDeltaHash := "" }

def contestedCall (name : String) : InterruptCall where
  records :=
    { segmentOutcomes := [("marker" ++ name, "interrupted")]
      payloads := [⟨"marker" ++ name, 1, some (contestedPayload name)⟩]
      citations := []
      invocations := []
      results := []
      rebuild := fun _ _ _ _ _ => .ok "payload"
      citationConflict := fun _ _ _ => none }
  draws :=
    { approvalId := "approval" ++ name
      snapshotId := "snapshot" ++ name
      revisionId := "revision" ++ name
      answerId := "answer" ++ name
      updateId := "update" ++ name
      eventIds := fun index => "event" ++ name ++ toString index
      worker := none
      now := ⟨0, Instant.first_inRange⟩
      next :=
        { runId := "", jobId := "", messageId := "", eventId := "", outboxId := "",
          deliveryId := "", now := ⟨0, Instant.first_inRange⟩, startedPayload := .none } }
  lease := contestedLease name
  markerId := "marker" ++ name
  proposalId := "proposal" ++ name
  testCapability := true

def contestedRuns : Program Database RuntimeRaise InterruptOutcome := do
  let _ ← (contestedCall "1").run fun text => text
  (contestedCall "2").run fun text => text

theorem contested_sound : ApprovalsSound contested where
  single := ⟨by decide, by decide, by decide⟩
  linked := ⟨by decide, by decide, by decide, by decide, by decide, by decide⟩

/-- The first proposal is bound and the second has given way to its approval. -/
theorem contestedRuns_statuses :
    (contestedRuns contested).1.isOk = true ∧
      (contestedRuns contested).2.approvals.map ApprovalRequest.id = ["approval1"] ∧
      (contestedRuns contested).2.proposals.map ProposalRecord.status = [.bound, .stale] := by
  decide +kernel

theorem oneLiveApproval_contested :
    ∃ final, Relation.ReflTransGen (LiveStep fun text => text) contested final ∧
      final.approvals.map ApprovalRequest.id = ["approval1"] ∧
      final.proposals.map ProposalRecord.status = [.bound, .stale] ∧
      SingleLive final.approvals := by
  rcases contestedRuns_statuses with ⟨ran, approvals, proposals⟩
  rcases returns_of_isOk ran with ⟨result, returned⟩
  rcases returns_bind.mp returned with ⟨first, middle, created, reused⟩
  have run := (Relation.ReflTransGen.single (LiveStep.interrupt _ _ created)).tail
    (LiveStep.interrupt _ _ reused)
  exact ⟨_, run, approvals, proposals, (oneLiveApproval _ contested_sound run).1⟩

end SupportGuard
