import SupportGuard.Services.ToolLedger

/-! # What the calls leave alone

Most writes of the runtime services are beside the point of an invariant over lanes or
budgets. A view that such writes do not touch is kept by every call built from them. -/

namespace SupportGuard

open Foundation Program

/-! ## Changes of rows -/

/-- The change keeps what numbers the jobs of a ticket. -/
structure KeepsNumbering (change : SupportTicket → SupportTicket) : Prop where
  id : ∀ ticket, (change ticket).id = ticket.id
  tenantId : ∀ ticket, (change ticket).tenantId = ticket.tenantId
  next : ∀ ticket, (change ticket).nextDispatchSequence = ticket.nextDispatchSequence

/-- The lease that holds a run. -/
def AgentRun.holder (run : AgentRun) : Option (String × Nat) :=
  run.activeJobId.bind fun jobId => run.activeFencingToken.map fun token => (jobId, token)

/-- The calls a run has spent: of models, of tools, and rounds of tools. -/
structure Budget where
  llmCalls : Nat
  toolAttempts : Nat
  toolRounds : Int
deriving DecidableEq

def AgentRun.budget (run : AgentRun) : Budget where
  llmCalls := run.llmCalls
  toolAttempts := run.toolAttempts
  toolRounds := run.toolRounds

/-- The change keeps the place of a run. -/
structure KeepsPlace (change : AgentRun → AgentRun) : Prop where
  id : ∀ run, (change run).id = run.id
  tenantId : ∀ run, (change run).tenantId = run.tenantId
  ticketId : ∀ run, (change run).ticketId = run.ticketId

/-- The change also keeps the lease that holds the run and what the run has spent. -/
structure KeepsRun (change : AgentRun → AgentRun) : Prop extends KeepsPlace change where
  holder : ∀ run, (change run).holder = run.holder
  budget : ∀ run, (change run).budget = run.budget

/-- The change keeps what identifies a call in the budget of its run. -/
structure KeepsCall (change : AgentCallAttempt → AgentCallAttempt) : Prop where
  runId : ∀ attempt, (change attempt).runId = attempt.runId
  callKind : ∀ attempt, (change attempt).callKind = attempt.callKind
  ordinal : ∀ attempt, (change attempt).ordinal = attempt.ordinal

/-! ## Views that do not see them -/

structure Aside {ν : Type*} (view : Database → ν) : Prop where
  tickets : ∀ (database : Database) (ticketId : String)
    (change : SupportTicket → SupportTicket), KeepsNumbering change →
      view (database.updateTicket ticketId change) = view database
  runs : ∀ (database : Database) (runId : String) (change : AgentRun → AgentRun),
    KeepsRun change → view (database.updateRun runId change) = view database
  attempts : ∀ (database : Database) (change : AgentCallAttempt → AgentCallAttempt),
    KeepsCall change →
      view { database with attempts := database.attempts.map change } = view database
  events : ∀ (database : Database) rows,
    view { database with events := rows } = view database
  turns : ∀ (database : Database) rows, view { database with turns := rows } = view database
  messages : ∀ (database : Database) rows,
    view { database with messages := rows } = view database
  outbox : ∀ (database : Database) rows,
    view { database with outbox := rows } = view database
  approvals : ∀ (database : Database) rows,
    view { database with approvals := rows } = view database
  proposals : ∀ (database : Database) rows,
    view { database with proposals := rows } = view database
  markers : ∀ (database : Database) rows,
    view { database with markers := rows } = view database
  transports : ∀ (database : Database) rows,
    view { database with transports := rows } = view database
  turnGroups : ∀ (database : Database) rows,
    view { database with turnGroups := rows } = view database
  invocations : ∀ (database : Database) rows,
    view { database with invocations := rows } = view database
  observations : ∀ (database : Database) rows,
    view { database with observations := rows } = view database

/-- A view that does not see the invocations and their observations. -/
structure CallsAside {ν : Type*} (view : Database → ν) : Prop where
  invocations : ∀ (database : Database) rows,
    view { database with invocations := rows } = view database
  observations : ∀ (database : Database) rows,
    view { database with observations := rows } = view database

section

variable {ν : Type*} {view : Database → ν}

theorem Aside.calls (aside : Aside view) : CallsAside view :=
  ⟨aside.invocations, aside.observations⟩

/-! ## Events and turns -/

theorem Aside.appendEvent (aside : Aside view) {redactPii : PyText → PyText}
    {request : EventRequest} {event : AgentEvent} {before after : Database}
    (returned : (appendEvent redactPii request).Returns before event after) :
    view after = view before := by
  rcases appendEvent_returns redactPii returned with
    ⟨run, ticket, payload, _, _, _, _, _, equal⟩
  rw [equal]
  rw [aside.events, aside.runs, aside.runs, aside.tickets]
  · exact ⟨fun _ => rfl, fun _ => rfl, fun _ => rfl⟩
  · exact ⟨⟨fun _ => rfl, fun _ => rfl, fun _ => rfl⟩, fun _ => rfl, fun _ => rfl⟩
  · exact ⟨⟨fun _ => rfl, fun _ => rfl, fun _ => rfl⟩, fun _ => rfl, fun _ => rfl⟩

theorem Aside.bindTurn (aside : Aside view) (turn : ConversationTurn) (runId : String) :
    Keeps view (bindTurn turn runId) := by
  refine keeps_bind (keeps_modify fun database => aside.runs database runId _ ?_) fun _ => ?_
  · exact ⟨⟨fun _ => rfl, fun _ => rfl, fun _ => rfl⟩, fun _ => rfl, fun _ => rfl⟩
  refine keeps_bind (keeps_modify fun database => aside.turns database _) fun _ => ?_
  refine keeps_bind (keeps_reads _) fun _ => ?_
  refine keeps_bind (keeps_require _ _) fun _ => ?_
  refine keeps_bind (keeps_modify fun database => aside.messages database _) fun _ => ?_
  exact keeps_modify fun database => aside.turns database _

theorem Aside.announceJob (aside : Aside view) (draws : Draws) (ticket : SupportTicket)
    (job : RuntimeJob) (traceId : String) :
    Keeps view (announceJob draws ticket job traceId) := by
  refine keeps_bind (keeps_modify fun database => aside.outbox database _) fun _ => ?_
  refine keeps_modify fun database => aside.tickets database ticket.id _ ?_
  exact ⟨fun _ => rfl, fun _ => rfl, fun _ => rfl⟩

/-! ## Failure -/

theorem Aside.failTurn (aside : Aside view) (run : AgentRun) :
    Keeps view (failTurn run) := by
  refine keeps_modify fun database => ?_
  split
  · rfl
  · exact aside.turns database _

theorem Aside.publishFailure (aside : Aside view) (draws : Draws) (job : RuntimeJob)
    (run : AgentRun) : Keeps view (publishFailure draws job run) := by
  refine keeps_bind (keeps_reads _) fun database => ?_
  split
  · exact keeps_pure ()
  · refine keeps_ite (keeps_pure ()) ?_
    refine keeps_bind (keeps_modify fun database => aside.tickets database _ _ ?_) fun _ => ?_
    · exact ⟨fun _ => rfl, fun _ => rfl, fun _ => rfl⟩
    refine keeps_ite (keeps_pure ()) ?_
    refine keeps_bind (keeps_modify fun database => aside.tickets database _ _ ?_) fun _ => ?_
    · exact ⟨fun _ => rfl, fun _ => rfl, fun _ => rfl⟩
    exact keeps_modify fun database => aside.messages database _

theorem Aside.transition (aside : Aside view) (approval : ApprovalRequest)
    (toStatus expectedStatus : ApprovalStatus) (expectedVersion : Option Int) :
    Keeps view (transition approval toStatus expectedStatus expectedVersion) := by
  refine keeps_ite (keeps_pure false) ?_
  apply keeps_refuseWhen_bind
  apply keeps_refuseWhen_bind
  apply keeps_refuseWhen_bind
  apply keeps_refuseWhen_bind
  refine keeps_bind (keeps_modify fun database => aside.approvals database _) fun _ => ?_
  exact keeps_pure true

theorem Aside.failApproval (aside : Aside view) (job : RuntimeJob) :
    Keeps view (failApproval job) := by
  refine keeps_bind (keeps_reads _) fun database => ?_
  split
  · exact keeps_pure ()
  · refine keeps_bind (aside.transition _ _ _ _) fun _ => ?_
    exact keeps_modify fun database => aside.proposals database _

theorem Aside.abortMarkers (aside : Aside view) (job : RuntimeJob) :
    Keeps view (abortMarkers job) :=
  keeps_modify fun database => aside.markers database _

theorem Aside.convergeTicket (aside : Aside view) (ticket : SupportTicket)
    (defaultStatus : String) : Keeps view (convergeTicket ticket defaultStatus) := by
  refine keeps_ite (keeps_pure _) ?_
  refine keeps_bind (keeps_reads _) fun database => ?_
  refine keeps_bind (keeps_onlyIf _ (keeps_modify fun database => ?_)) fun _ => keeps_pure _
  exact aside.tickets database _ _ ⟨fun _ => rfl, fun _ => rfl, fun _ => rfl⟩

/-! ## Calls under a fence -/

theorem keeps_assertFence (lease : JobLease) : Keeps view (assertFence lease) :=
  keeps_bind (keeps_reads _) fun _ => keeps_require _ _

theorem keeps_checkRepair (lease : JobLease) (request : AttemptRequest) :
    Keeps view (checkRepair lease request) := by
  refine keeps_bind (keeps_reads _) fun _ => ?_
  refine keeps_bind (keeps_require _ _) fun _ => ?_
  exact keeps_bind (keeps_refuseWhen _ _) fun _ => keeps_refuseWhen _ _

theorem Aside.insertTransport (aside : Aside view) (transport : ToolTransportAttempt) :
    Keeps view (insertTransport transport) := by
  refine keeps_bind (keeps_reads _) fun _ => ?_
  apply keeps_refuseWhen_bind
  apply keeps_refuseWhen_bind
  apply keeps_refuseWhen_bind
  exact keeps_modify fun database => aside.transports database _

theorem keeps_checkErrorPaths (kind : CallKind) (status : AttemptStatus)
    (paths : List String) : Keeps view (checkErrorPaths kind status paths) := by
  apply keeps_refuseWhen_bind
  exact keeps_bind (keeps_refuseWhen _ _) fun _ => keeps_refuseWhen _ _

theorem keeps_checkTransportAttempts (kind : CallKind) (count : Int) :
    Keeps view (checkTransportAttempts kind count) :=
  keeps_bind (keeps_refuseWhen _ _) fun _ => keeps_refuseWhen _ _

theorem keeps_checkLifecycle (lease : JobLease) (reserved : ReservedAttempt)
    (lifecycle : List (String × Json)) :
    Keeps view (checkLifecycle lease reserved lifecycle) := by
  apply keeps_refuseWhen_bind
  exact keeps_bind (keeps_refuseWhen _ _) fun _ => keeps_refuseWhen _ _

theorem Aside.updateAttempt (aside : Aside view) (database : Database) (attemptId : String)
    {change : AgentCallAttempt → AgentCallAttempt} (keeps : KeepsCall change) :
    view (database.updateAttempt attemptId change) = view database := by
  refine aside.attempts database _ ⟨?_, ?_, ?_⟩
  · intro attempt
    split
    · exact keeps.runId attempt
    · rfl
  · intro attempt
    split
    · exact keeps.callKind attempt
    · rfl
  · intro attempt
    split
    · exact keeps.ordinal attempt
    · rfl

theorem Aside.finishTransport (aside : Aside view) (lease : JobLease)
    (reserved : ReservedAttempt) (status : AttemptStatus) (outcome : AttemptOutcome)
    (transportId : String) :
    Keeps view (finishTransport lease reserved status outcome transportId) := by
  refine keeps_bind (keeps_reads _) fun _ => ?_
  refine keeps_bind (keeps_require _ _) fun _ => ?_
  apply keeps_refuseWhen_bind
  refine keeps_bind (keeps_modify fun database => aside.transports database _) fun _ => ?_
  exact keeps_whenSome _ fun lifecycle => keeps_checkLifecycle lease reserved lifecycle

theorem Aside.finish (aside : Aside view) (lease : JobLease) (reserved : ReservedAttempt)
    (outcome : AttemptOutcome) : Keeps view (finish lease reserved outcome) := by
  refine keeps_bind (keeps_assertFence lease) fun _ => ?_
  refine keeps_bind (keeps_reads _) fun _ => ?_
  refine keeps_bind (keeps_require _ _) fun attempt => ?_
  apply keeps_refuseWhen_bind
  refine keeps_bind (keeps_require _ _) fun status => ?_
  refine keeps_bind (keeps_whenSome _ (keeps_checkErrorPaths _ _)) fun _ => ?_
  refine keeps_bind (keeps_modify fun database => ?_) fun _ => ?_
  · exact aside.updateAttempt database _ ⟨fun _ => rfl, fun _ => rfl, fun _ => rfl⟩
  refine keeps_bind (keeps_whenSome _ (keeps_checkTransportAttempts _)) fun _ => ?_
  exact keeps_whenSome _ (aside.finishTransport lease reserved status outcome)

/-! ## The tool ledger -/

theorem Aside.insertTurnGroup (aside : Aside view) (turn : TurnGroup) :
    Keeps view (insertTurnGroup turn) := by
  refine keeps_bind (keeps_reads _) fun _ => ?_
  apply keeps_refuseWhen_bind
  apply keeps_refuseWhen_bind
  exact keeps_modify fun database => aside.turnGroups database _

theorem CallsAside.insertInvocations (aside : CallsAside view) (invocations : List ToolInvocation) :
    Keeps view (insertInvocations invocations) := by
  induction invocations with
  | nil => exact keeps_pure ()
  | cons invocation rest induction =>
      refine keeps_bind ?_ fun _ => induction
      refine keeps_bind (keeps_reads _) fun _ => ?_
      apply keeps_refuseWhen_bind
      apply keeps_refuseWhen_bind
      exact keeps_modify fun database => aside.invocations database _

theorem CallsAside.insertObservation (aside : CallsAside view) (observation : ToolObservation) :
    Keeps view (insertObservation observation) := by
  refine keeps_bind (keeps_reads _) fun _ => ?_
  apply keeps_refuseWhen_bind
  apply keeps_refuseWhen_bind
  exact keeps_modify fun database => aside.observations database _

theorem Aside.openTurn (aside : Aside view) (registryHash : String) (lease : JobLease)
    (request : TurnRequest) : Keeps view (openTurn registryHash lease request) := by
  refine keeps_bind (keeps_assertFence lease) fun _ => ?_
  apply keeps_refuseWhen_bind
  refine keeps_bind (keeps_reads _) fun _ => ?_
  apply keeps_refuseWhen_bind
  refine keeps_bind (keeps_ofExcept _) fun _ => ?_
  refine keeps_bind (keeps_ofExcept _) fun _ => ?_
  refine keeps_bind (aside.insertTurnGroup _) fun _ => ?_
  refine keeps_bind (keeps_ofExcept _) fun invocations => ?_
  exact keeps_bind (aside.calls.insertInvocations invocations) fun _ => keeps_pure _

theorem CallsAside.markExecuting (aside : CallsAside view) (lease : JobLease)
    (invocationId : String) : Keeps view (markExecuting lease invocationId) := by
  refine keeps_bind (keeps_assertFence lease) fun _ => ?_
  refine keeps_bind (keeps_reads _) fun _ => ?_
  refine keeps_bind (keeps_require _ _) fun _ => ?_
  apply keeps_refuseWhen_bind
  refine keeps_bind (keeps_modify fun database => aside.invocations database _) fun _ => ?_
  exact keeps_pure _

theorem CallsAside.terminalize (aside : CallsAside view) (lease : JobLease)
    (invocationId outcome : String) (observation : Observation)
    (trustedRetrievalIntent : Option PyValue) (observationId : String) :
    Keeps view (terminalize lease invocationId outcome observation trustedRetrievalIntent
      observationId) := by
  refine keeps_bind (keeps_assertFence lease) fun _ => ?_
  refine keeps_bind (keeps_reads _) fun _ => ?_
  refine keeps_bind (keeps_require _ _) fun _ => ?_
  apply keeps_refuseWhen_bind
  refine keeps_bind (keeps_ofExcept _) fun _ => ?_
  refine keeps_bind (keeps_ofExcept _) fun _ => ?_
  dsimp only
  split
  · exact keeps_bind (keeps_refuseWhen _ _) fun _ => keeps_pure _
  · apply keeps_refuseWhen_bind
    refine keeps_bind (aside.insertObservation _) fun _ => ?_
    refine keeps_bind (keeps_modify fun database => aside.invocations database _) fun _ => ?_
    exact keeps_pure _

theorem Aside.closeTurn (aside : Aside view) (lease : JobLease) (turnId : String) :
    Keeps view (closeTurn lease turnId) := by
  refine keeps_bind (keeps_assertFence lease) fun _ => ?_
  refine keeps_bind (keeps_reads _) fun _ => ?_
  refine keeps_bind (keeps_require _ _) fun _ => ?_
  apply keeps_refuseWhen_bind
  apply keeps_refuseWhen_bind
  refine keeps_bind (keeps_modify fun database => aside.turnGroups database _) fun _ => ?_
  exact keeps_pure _

theorem Aside.takeover (aside : Aside view) (lease : JobLease) (turnId : String) :
    Keeps view (takeover lease turnId) := by
  refine keeps_bind (keeps_assertFence lease) fun _ => ?_
  refine keeps_bind (keeps_reads _) fun _ => ?_
  refine keeps_bind (keeps_require _ _) fun _ => ?_
  apply keeps_refuseWhen_bind
  apply keeps_refuseWhen_bind
  apply keeps_refuseWhen_bind
  refine keeps_bind (keeps_modify fun database => ?_) fun _ => ?_
  · refine (aside.transports { database with attempts := _ } _).trans
      (aside.attempts database _ ⟨?_, ?_, ?_⟩)
    all_goals
      intro attempt
      split
      · rfl
      · rfl
  refine keeps_bind (keeps_modify fun database => aside.invocations database _) fun _ => ?_
  refine keeps_bind (keeps_modify fun database => aside.turnGroups database _) fun _ => ?_
  exact keeps_pure _

theorem CallsAside.abortInvocations (aside : CallsAside view)
    (dumpAborted : AbortedCall → List (PyKey × PyValue)) (lease : JobLease)
    (ticketId reason : String) (now : Instant) (draw : String → String)
    (invocations : List ToolInvocation) :
    Keeps view (abortInvocations dumpAborted lease ticketId reason now draw invocations) := by
  induction invocations with
  | nil => exact keeps_pure ()
  | cons invocation rest induction =>
      refine keeps_bind (keeps_onlyIf _ ?_) fun _ => induction
      refine keeps_bind (keeps_reads _) fun _ => ?_
      exact keeps_bind (aside.terminalize _ _ _ _ _ _) fun _ => keeps_pure ()

theorem Aside.abortPending (aside : Aside view)
    (dumpAborted : AbortedCall → List (PyKey × PyValue)) (lease : JobLease)
    (turnId ticketId reason : String) (now : Instant) (draw : String → String) :
    Keeps view (abortPending dumpAborted lease turnId ticketId reason now draw) := by
  refine keeps_bind (keeps_assertFence lease) fun _ => ?_
  refine keeps_bind (keeps_reads _) fun database => ?_
  refine keeps_bind (keeps_require _ _) fun turn => ?_
  apply keeps_refuseWhen_bind
  refine keeps_bind (aside.calls.abortInvocations _ _ _ _ _ _ _) fun _ => ?_
  refine keeps_bind (keeps_modify fun database => aside.turnGroups database _) fun _ => ?_
  exact keeps_pure _

end

end SupportGuard
