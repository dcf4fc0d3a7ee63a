import SupportGuard.Services.InterruptFinalizer
import SupportGuard.Services.RunLinks

/-! # What an interrupt leaves alone

The parts of `finalize_interrupt`, by what they keep: approvals only move on in their
lifecycle, and the links of the runs stay sound. -/

namespace SupportGuard

open Foundation Program

/-! ## Approvals move on -/

/-- What names the resource of an approval in the index of live approvals. -/
def ApprovalRequest.liveIdentity (approval : ApprovalRequest) :
    String × String × String × String :=
  (approval.tenantId, approval.customerId, approval.actionType, approval.resourceId)

/-- The approval has a status of its own later, and is not live again. -/
structure ApprovalRequest.MovesTo (old new : ApprovalRequest) : Prop where
  row : new = { old with status := new.status, statusVersion := new.statusVersion }
  live : new.status.isActive = true → old.status.isActive = true

namespace ApprovalRequest.MovesTo

theorem refl (approval : ApprovalRequest) : approval.MovesTo approval where
  row := rfl
  live live := live

theorem trans {first second third : ApprovalRequest} (left : first.MovesTo second)
    (right : second.MovesTo third) : first.MovesTo third where
  row := by
    rw [right.row, left.row]
  live := left.live ∘ right.live

theorem id {old new : ApprovalRequest} (moves : old.MovesTo new) : new.id = old.id := by
  rw [moves.row]

theorem proposalId {old new : ApprovalRequest} (moves : old.MovesTo new) :
    new.proposalId = old.proposalId := by
  rw [moves.row]

theorem liveIdentity {old new : ApprovalRequest} (moves : old.MovesTo new) :
    new.liveIdentity = old.liveIdentity := by
  rw [moves.row]
  rfl

end ApprovalRequest.MovesTo

/-- No approval is added, and those that exist move on. -/
def ApprovalsAdvance (before after : Database) : Prop :=
  ∃ change : ApprovalRequest → ApprovalRequest,
    (∀ row ∈ before.approvals, row.MovesTo (change row)) ∧
      after.approvals = before.approvals.map change

namespace ApprovalsAdvance

theorem of_same {before after : Database} (same : after.approvals = before.approvals) :
    ApprovalsAdvance before after :=
  ⟨fun row => row, fun row _ => .refl row, by rw [same, List.map_id']⟩

theorem trans {first second third : Database} (left : ApprovalsAdvance first second)
    (right : ApprovalsAdvance second third) : ApprovalsAdvance first third := by
  rcases left with ⟨change, moves, equal⟩
  rcases right with ⟨change', moves', equal'⟩
  refine ⟨change' ∘ change, ?_, ?_⟩
  · intro row member
    apply (moves row member).trans
    apply moves'
    rw [equal]
    exact List.mem_map_of_mem member
  · rw [equal', equal, List.map_map]

instance : Std.Refl ApprovalsAdvance where
  refl _ := of_same rfl

instance : IsTrans Database ApprovalsAdvance where
  trans _ _ _ := trans

theorem map_eq {β : Type} {before after : Database} {column : ApprovalRequest → β}
    (advance : ApprovalsAdvance before after)
    (keeps : ∀ {old new : ApprovalRequest}, old.MovesTo new → column new = column old) :
    after.approvals.map column = before.approvals.map column := by
  rcases advance with ⟨change, moves, equal⟩
  rw [equal, List.map_map]
  apply List.map_congr_left
  intro row member
  exact keeps (moves row member)

theorem ids {before after : Database} (advance : ApprovalsAdvance before after) :
    after.approvals.map ApprovalRequest.id = before.approvals.map ApprovalRequest.id :=
  advance.map_eq ApprovalRequest.MovesTo.id

/-- Rows that move on where they stand. -/
theorem of_update {database : Database} {approvalId : String}
    {change : ApprovalRequest → ApprovalRequest}
    (moves : ∀ row ∈ database.approvals, row.id = approvalId → row.MovesTo (change row)) :
    ApprovalsAdvance database (database.updateApproval approvalId change) := by
  refine ⟨fun row => if row.id = approvalId then change row else row, ?_, rfl⟩
  intro row member
  dsimp only
  split
  · rename_i named
    exact moves row member named
  · exact .refl row

end ApprovalsAdvance

section Advancing

variable {α : Type}

/-- A call that does not write approvals. -/
theorem WritesOnly.advances {tables : List DatabaseTable}
    {program : Program Database RuntimeRaise α} (writes : WritesOnly tables program)
    (outside : .approvals ∉ tables) : Relates ApprovalsAdvance program := by
  intro initial result final returned
  exact .of_same (writes.returns returned .approvals outside)

end Advancing

/-- A transition moves its approval on, where a live outcome finds it live. -/
theorem transition_advances {approval : ApprovalRequest}
    {toStatus expectedStatus : ApprovalStatus} {expectedVersion : Option Int}
    {changed : Bool} {before after : Database}
    (live : approval.status.isActive = true → toStatus.isActive = true →
      ∀ row ∈ before.approvals, row.id = approval.id → row.status.isActive = true)
    (returned : (transition approval toStatus expectedStatus expectedVersion).Returns before
      changed after) : ApprovalsAdvance before after := by
  unfold transition at returned
  split at returned
  · rw [(returns_pure.mp returned).2]
    exact .of_same rfl
  · simp only [returns_refuseWhen_bind, returns_modify_bind, returns_pure] at returned
    rcases returned with ⟨_, _, active, _, _, equal⟩
    rw [equal]
    apply ApprovalsAdvance.of_update
    intro row member named
    exact ⟨rfl, fun reached => live (by simpa using active) reached row member named⟩

theorem transition_advances_stored {approval : ApprovalRequest}
    {toStatus expectedStatus : ApprovalStatus} {expectedVersion : Option Int}
    {changed : Bool} {before after : Database}
    (ids : (before.approvals.map ApprovalRequest.id).Nodup) (stored : approval ∈ before.approvals)
    (returned : (transition approval toStatus expectedStatus expectedVersion).Returns before
      changed after) : ApprovalsAdvance before after := by
  apply transition_advances _ returned
  intro active _ row member named
  have same : row = approval := List.inj_on_of_nodup_map ids member stored named
  rw [same]
  exact active

theorem failApproval_advances (job : RuntimeJob) :
    Relates ApprovalsAdvance (failApproval job) := by
  refine relates_bind (Keeps.relates (keeps_reads _)) ?_
  intro database
  split
  · exact relates_pure ()
  · apply relates_bind
    · intro initial result final returned
      exact transition_advances (fun _ reached => by cases reached) returned
    · intro _
      exact (writesOnly_retireProposal _).advances (by decide)

theorem convergeDeadAggregates_advances (redactPii : PyText → PyText) (draws : Draws)
    (job : RuntimeJob) (run : AgentRun) (reason : String) :
    Relates ApprovalsAdvance (convergeDeadAggregates redactPii draws job run reason) := by
  apply relates_bind ((writesOnly_failRun run reason).advances (by decide))
  intro _
  apply relates_bind ((writesOnly_failTurn run).advances (by decide))
  intro _
  apply relates_bind ((writesOnly_publishFailure draws job run).advances (by decide))
  intro _
  apply relates_bind (failApproval_advances job)
  intro _
  apply relates_bind ((writesOnly_abortMarkers job).advances (by decide))
  intro _
  exact (writesOnly_releaseTicket redactPii draws job run).advances (by decide)

/-! ## The tables of an interrupt -/

theorem writesOnly_setProposalStatus (proposalId : String) (status : ProposalStatus) :
    WritesOnly [.proposals] (setProposalStatus proposalId status) := by
  apply writesOnly_modify .proposals (by decide)
  intro database table other
  cases table <;> first | rfl | exact absurd rfl other

theorem writesOnly_setMarkerStatus (markerId : String) (status : MarkerStatus) :
    WritesOnly [.markers] (setMarkerStatus markerId status) := by
  apply writesOnly_modify .markers (by decide)
  intro database table other
  cases table <;> first | rfl | exact absurd rfl other

theorem writesOnly_finalizeControl (lease : JobLease) (status : JobStatus) (outcome : String) :
    WritesOnly [.jobs] (finalizeControl lease status outcome) := by
  apply writesOnly_bind (writesOnly_reads _)
  intro database
  apply writesOnly_bind (writesOnly_require _ _)
  intro job
  exact writesOnly_modify .jobs (by decide) fun database => same_updateJob database _ _

theorem writesOnly_failAggregate (run : AgentRun) (reason : String) :
    WritesOnly [.runs, .turns, .tickets] (failAggregate run reason) := by
  apply writesOnly_bind (writesOnly_modify .runs (by decide) fun database =>
    same_updateRun database _ _)
  intro _
  apply writesOnly_bind ((writesOnly_failTurn run).mono (by decide))
  intro _
  exact writesOnly_modify .tickets (by decide) fun database => same_updateTicket database _ _

section

variable (redactPii : PyText → PyText)

theorem writesOnly_appendOrConflict (request : EventRequest) :
    WritesOnly [.events, .tickets, .runs] (appendOrConflict redactPii request) := by
  apply writesOnly_rescue
  · apply writesOnly_bind (writesOnly_mapError (writesOnly_appendEvent redactPii request))
    intro event
    exact writesOnly_pure _
  · intro error
    exact writesOnly_pure _

theorem writesOnly_appendSegmentEvents (draws : InterruptDraws) (runId : String)
    (heads : FinalizerHeadsV2) (index : Nat) (events : List Json) :
    WritesOnly [.events, .tickets, .runs]
      (appendSegmentEvents redactPii draws runId heads index events) := by
  induction events generalizing index with
  | nil => exact writesOnly_pure true
  | cons item rest induction =>
      apply writesOnly_bind (writesOnly_ofExcept _)
      intro event
      apply writesOnly_bind (writesOnly_ofExcept _)
      intro request
      apply writesOnly_bind (writesOnly_appendOrConflict redactPii _)
      intro appended
      cases appended with
      | none => exact writesOnly_pure false
      | some _ => exact induction (index + 1)

theorem writesOnly_appendInterruptEvents (draws : InterruptDraws) (runId : String)
    (verified : FinalizerPayloadV2) (eventType : String) (payload : Json) :
    WritesOnly [.events, .tickets, .runs]
      (appendInterruptEvents redactPii draws runId verified eventType payload) := by
  apply writesOnly_bind (writesOnly_ofExcept _)
  intro events
  apply writesOnly_bind (writesOnly_appendSegmentEvents redactPii draws runId _ 0 events)
  intro appended
  apply writesOnly_ite (writesOnly_appendOrConflict redactPii _)
  exact writesOnly_pure none

theorem writesOnly_publishMessage (messageId ticketId : String) (run : AgentRun)
    (kind publicationKey approvalId : String) :
    WritesOnly [.tickets, .messages]
      (publishMessage messageId ticketId run kind publicationKey approvalId) := by
  apply writesOnly_bind (writesOnly_reads _)
  intro database
  apply writesOnly_bind (writesOnly_require _ _)
  intro ticket
  apply writesOnly_ite (writesOnly_pure ())
  apply writesOnly_bind (writesOnly_modify .tickets (by decide) fun database =>
    same_updateTicket database _ _)
  intro _
  apply writesOnly_bind (writesOnly_reads _)
  intro _
  apply writesOnly_refuseWhen_bind
  apply writesOnly_modify .messages (by decide)
  intro database table other
  cases table <;> first | rfl | exact absurd rfl other

theorem writesOnly_activateAndConverge (draws : InterruptDraws)
    (ticketId runId defaultStatus : String) :
    WritesOnly [.tickets, .runs, .events, .turns, .messages, .jobs, .outbox]
      (activateAndConverge redactPii draws ticketId runId defaultStatus) := by
  apply writesOnly_bind (writesOnly_reads _)
  intro database
  apply writesOnly_bind (writesOnly_require _ _)
  intro ticket
  apply writesOnly_bind (writesOnly_activateNextTurn redactPii draws.next ticket _)
  intro _
  apply writesOnly_bind (writesOnly_reads _)
  intro database
  apply writesOnly_bind (writesOnly_require _ _)
  intro ticket
  apply writesOnly_bind ((writesOnly_convergeTicket ticket defaultStatus).mono (by decide))
  intro _
  exact writesOnly_pure ()

theorem writesOnly_concludeInterrupt (draws : InterruptDraws) (lease : JobLease)
    (domain : InterruptDomain) (kind publicationKey approvalId outcome defaultStatus : String) :
    WritesOnly [.tickets, .runs, .events, .turns, .messages, .jobs, .outbox]
      (concludeInterrupt redactPii draws lease domain kind publicationKey approvalId outcome
        defaultStatus) := by
  apply writesOnly_bind ((writesOnly_publishMessage _ _ _ _ _ _).mono (by decide))
  intro _
  apply writesOnly_bind ((writesOnly_publishMessage _ _ _ _ _ _).mono (by decide))
  intro _
  apply writesOnly_bind ((writesOnly_finalizeControl _ _ _).mono (by decide))
  intro _
  exact writesOnly_activateAndConverge redactPii draws _ _ _

theorem writesOnly_moveAggregate (domain : InterruptDomain) (marker : CheckpointCommitMarker)
    (proposalStatus : ProposalStatus) (changeRun : AgentRun → AgentRun)
    (activityState resultState ticketStatus : String) :
    WritesOnly [.proposals, .markers, .runs, .turns, .tickets]
      (moveAggregate domain marker proposalStatus changeRun activityState resultState
        ticketStatus) := by
  apply writesOnly_bind ((writesOnly_setProposalStatus _ _).mono (by decide))
  intro _
  apply writesOnly_bind ((writesOnly_setMarkerStatus _ _).mono (by decide))
  intro _
  apply writesOnly_bind (writesOnly_modify .runs (by decide) fun database =>
    same_updateRun database _ _)
  intro _
  apply writesOnly_bind (writesOnly_onlyIf _ (writesOnly_modify .turns (by decide)
    fun database => same_updateTurn database _ _))
  intro _
  exact writesOnly_modify .tickets (by decide) fun database => same_updateTicket database _ _

theorem abortFinalizer_advances (draws : InterruptDraws) (lease : JobLease)
    (markerId proposalId reason : String) :
    Relates ApprovalsAdvance
      (abortFinalizer redactPii draws lease markerId proposalId reason) := by
  apply relates_bind ((writesOnly_setMarkerStatus _ _).advances (by decide))
  intro _
  apply relates_bind ((writesOnly_setProposalStatus _ _).advances (by decide))
  intro _
  refine relates_bind (Keeps.relates (keeps_reads _)) ?_
  intro database
  refine relates_bind (Keeps.relates (keeps_refuseWhen _ _)) ?_
  intro _
  apply relates_bind
  · apply (writesOnly_whenSome _ fun run => writesOnly_failAggregate run reason).advances
    decide
  intro _
  apply relates_bind ((writesOnly_finalizeControl lease .dead reason).advances (by decide))
  intro _
  refine relates_bind ?_ fun _ => relates_pure _
  cases Table.find AgentRun.id database.runs lease.runId with
  | none => exact relates_pure ()
  | some run =>
      cases Table.find RuntimeJob.id database.jobs lease.jobId with
      | none => exact relates_pure ()
      | some job => exact convergeDeadAggregates_advances redactPii draws.next job run reason

/-! ## The links of an interrupt -/

/-- The links of the runs are sound. -/
def Database.Linked (database : Database) : Prop :=
  database.links.Sound

theorem keepsLinks_failTurn (run : AgentRun) : Keeps Database.links (failTurn run) := by
  apply keeps_modify
  intro database
  split
  · rfl
  · apply Database.links_updateTurn
    intro turn
    rfl

theorem keepsLinks_publishFailure (draws : Draws) (job : RuntimeJob) (run : AgentRun) :
    Keeps Database.links (publishFailure draws job run) := by
  apply keeps_bind (keeps_reads _)
  intro database
  split
  · exact keeps_pure ()
  · apply keeps_ite (keeps_pure ())
    apply keeps_bind
    · apply keeps_modify
      intro database
      apply Database.links_updateTicket
      intro ticket
      rfl
    intro _
    apply keeps_ite (keeps_pure ())
    apply keeps_bind
    · apply keeps_modify
      intro database
      apply Database.links_updateTicket
      intro ticket
      rfl
    intro _
    apply keeps_modify
    intro database
    rfl

theorem keepsLinks_convergeTicket (ticket : SupportTicket) (defaultStatus : String) :
    Keeps Database.links (convergeTicket ticket defaultStatus) := by
  apply keeps_ite (keeps_pure _)
  apply keeps_bind (keeps_reads _)
  intro database
  apply keeps_bind
  · apply keeps_onlyIf
    apply keeps_modify
    intro database
    apply Database.links_updateTicket
    intro row
    rfl
  intro _
  exact keeps_pure _

theorem activateNextTurn_linked (draws : Draws) (ticket : SupportTicket) (traceId : String) :
    Maintains Database.Linked (activateNextTurn redactPii draws ticket traceId) := by
  intro initial result final returned linked
  exact (activateNextTurn_returns returned).sound linked

theorem releaseTicket_linked (draws : Draws) (job : RuntimeJob) (run : AgentRun) :
    Maintains Database.Linked (releaseTicket redactPii draws job run) := by
  apply maintains_bind ((keeps_reads _).maintains Links.Sound)
  intro database
  split
  · exact (keeps_pure ()).maintains Links.Sound
  · apply maintains_ite _ ((keeps_pure ()).maintains Links.Sound)
    apply maintains_bind (activateNextTurn_linked redactPii draws _ _)
    intro _
    apply maintains_bind ((keeps_reads _).maintains Links.Sound)
    intro database
    split
    · exact (keeps_pure ()).maintains Links.Sound
    · apply maintains_bind ((keepsLinks_convergeTicket _ _).maintains Links.Sound)
      intro _
      exact (keeps_pure ()).maintains Links.Sound

theorem convergeDeadAggregates_linked (draws : Draws) (job : RuntimeJob) (run : AgentRun)
    (reason : String) :
    Maintains Database.Linked (convergeDeadAggregates redactPii draws job run reason) := by
  have failed : Keeps Database.links (failRun run reason) := by
    apply keeps_modify
    intro database
    apply Database.links_updateRun
    intro row
    rfl
  apply maintains_bind (failed.maintains Links.Sound)
  intro _
  apply maintains_bind ((keepsLinks_failTurn run).maintains Links.Sound)
  intro _
  apply maintains_bind ((keepsLinks_publishFailure draws job run).maintains Links.Sound)
  intro _
  apply maintains_bind (((writesOnly_failApproval job).keepsLinks (by decide)).maintains
    Links.Sound)
  intro _
  apply maintains_bind (((writesOnly_abortMarkers job).keepsLinks (by decide)).maintains
    Links.Sound)
  intro _
  exact releaseTicket_linked redactPii draws job run

theorem keepsLinks_failAggregate (run : AgentRun) (reason : String) :
    Keeps Database.links (failAggregate run reason) := by
  apply keeps_bind
  · apply keeps_modify
    intro database
    apply Database.links_updateRun
    intro row
    rfl
  intro _
  apply keeps_bind (keepsLinks_failTurn run)
  intro _
  apply keeps_modify
  intro database
  apply Database.links_updateTicket
  intro row
  rfl

theorem abortFinalizer_linked (draws : InterruptDraws) (lease : JobLease)
    (markerId proposalId reason : String) :
    Maintains Database.Linked
      (abortFinalizer redactPii draws lease markerId proposalId reason) := by
  apply maintains_bind (((writesOnly_setMarkerStatus _ _).keepsLinks (by decide)).maintains
    Links.Sound)
  intro _
  apply maintains_bind (((writesOnly_setProposalStatus _ _).keepsLinks (by decide)).maintains
    Links.Sound)
  intro _
  apply maintains_bind ((keeps_reads _).maintains Links.Sound)
  intro database
  apply maintains_bind ((keeps_refuseWhen _ _).maintains Links.Sound)
  intro _
  apply maintains_bind
  · apply Keeps.maintains _ Links.Sound
    exact keeps_whenSome _ fun run => keepsLinks_failAggregate run reason
  intro _
  apply maintains_bind (((writesOnly_finalizeControl lease .dead reason).keepsLinks
    (by decide)).maintains Links.Sound)
  intro _
  refine maintains_bind ?_ fun _ => (keeps_pure _).maintains Links.Sound
  cases Table.find AgentRun.id database.runs lease.runId with
  | none => exact (keeps_pure ()).maintains Links.Sound
  | some run =>
      cases Table.find RuntimeJob.id database.jobs lease.jobId with
      | none => exact (keeps_pure ()).maintains Links.Sound
      | some job => exact convergeDeadAggregates_linked redactPii draws.next job run reason

theorem keepsLinks_moveAggregate (domain : InterruptDomain) (marker : CheckpointCommitMarker)
    (proposalStatus : ProposalStatus) {changeRun : AgentRun → AgentRun}
    (same : ∀ run, (changeRun run).link = run.link)
    (activityState resultState ticketStatus : String) :
    Keeps Database.links
      (moveAggregate domain marker proposalStatus changeRun activityState resultState
        ticketStatus) := by
  apply keeps_bind ((writesOnly_setProposalStatus _ _).keepsLinks (by decide))
  intro _
  apply keeps_bind ((writesOnly_setMarkerStatus _ _).keepsLinks (by decide))
  intro _
  apply keeps_bind
  · apply keeps_modify
    intro database
    apply Database.links_updateRun
    intro row
    exact same (canonicalRun marker row)
  intro _
  apply keeps_bind
  · apply keeps_onlyIf
    apply keeps_modify
    intro database
    apply Database.links_updateTurn
    intro turn
    rfl
  intro _
  apply keeps_modify
  intro database
  apply Database.links_updateTicket
  intro row
  rfl

/-- A view that events keep is kept by the events of an interrupt. -/
theorem keeps_appendInterruptEvents {ν : Type*} {view : Database → ν}
    (events : ∀ request, Keeps view (appendEvent redactPii request)) (draws : InterruptDraws)
    (runId : String) (verified : FinalizerPayloadV2) (eventType : String) (payload : Json) :
    Keeps view (appendInterruptEvents redactPii draws runId verified eventType payload) := by
  have single : ∀ request, Keeps view (appendOrConflict redactPii request) := by
    intro request
    apply keeps_rescue
    · exact keeps_bind (keeps_mapError (events request)) fun _ => keeps_pure _
    · intro error
      exact keeps_pure _
  have segment : ∀ heads index items,
      Keeps view (appendSegmentEvents redactPii draws runId heads index items) := by
    intro heads index items
    induction items generalizing index with
    | nil => exact keeps_pure true
    | cons item rest induction =>
        apply keeps_bind (keeps_ofExcept _)
        intro event
        apply keeps_bind (keeps_ofExcept _)
        intro request
        apply keeps_bind (single _)
        intro appended
        cases appended with
        | none => exact keeps_pure false
        | some _ => exact induction (index + 1)
  apply keeps_bind (keeps_ofExcept _)
  intro items
  apply keeps_bind (segment _ 0 items)
  intro appended
  exact keeps_ite (single _) (keeps_pure none)

theorem keepsLinks_publishMessage (messageId ticketId : String) (run : AgentRun)
    (kind publicationKey approvalId : String) :
    Keeps Database.links
      (publishMessage messageId ticketId run kind publicationKey approvalId) := by
  apply keeps_bind (keeps_reads _)
  intro database
  apply keeps_bind (keeps_require _ _)
  intro ticket
  apply keeps_ite (keeps_pure ())
  apply keeps_bind
  · apply keeps_modify
    intro database
    apply Database.links_updateTicket
    intro row
    rfl
  intro _
  apply keeps_bind (keeps_reads _)
  intro _
  apply keeps_refuseWhen_bind
  apply keeps_modify
  intro database
  rfl

end

end SupportGuard
