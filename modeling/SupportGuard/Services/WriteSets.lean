import SupportGuard.Services.RuntimeFrames

/-! # The tables a call writes

Every call of the runtime services writes to a few tables only. What is proved about the
others carries over. -/

namespace SupportGuard

open Foundation Program

inductive DatabaseTable
  | tickets
  | runs
  | events
  | turns
  | messages
  | jobs
  | markers
  | outbox
  | approvals
  | proposals
  | attempts
  | transports
  | turnGroups
  | invocations
  | observations
  | revisions
  | decisions
  | withdrawals
  | actions
  | idempotency
  | memberships
  | approverScopes
  | billing
  | apiKeys
  | subscriptions
  | planCatalog
  | killSwitches
  | clock
deriving DecidableEq

/-- Two databases agree on a table. -/
def Database.Same (left right : Database) : DatabaseTable → Prop
  | .tickets => left.tickets = right.tickets
  | .runs => left.runs = right.runs
  | .events => left.events = right.events
  | .turns => left.turns = right.turns
  | .messages => left.messages = right.messages
  | .jobs => left.jobs = right.jobs
  | .markers => left.markers = right.markers
  | .outbox => left.outbox = right.outbox
  | .approvals => left.approvals = right.approvals
  | .proposals => left.proposals = right.proposals
  | .attempts => left.attempts = right.attempts
  | .transports => left.transports = right.transports
  | .turnGroups => left.turnGroups = right.turnGroups
  | .invocations => left.invocations = right.invocations
  | .observations => left.observations = right.observations
  | .revisions => left.revisions = right.revisions
  | .decisions => left.decisions = right.decisions
  | .withdrawals => left.withdrawals = right.withdrawals
  | .actions => left.actions = right.actions
  | .idempotency => left.idempotency = right.idempotency
  | .memberships => left.memberships = right.memberships
  | .approverScopes => left.approverScopes = right.approverScopes
  | .billing => left.billing = right.billing
  | .apiKeys => left.apiKeys = right.apiKeys
  | .subscriptions => left.subscriptions = right.subscriptions
  | .planCatalog => left.planCatalog = right.planCatalog
  | .killSwitches => left.killSwitches = right.killSwitches
  | .clock => left.clock = right.clock

theorem Database.Same.refl (database : Database) (table : DatabaseTable) :
    database.Same database table := by
  cases table <;> rfl

theorem Database.Same.trans {first second third : Database} {table : DatabaseTable}
    (left : first.Same second table) (right : second.Same third table) :
    first.Same third table := by
  cases table <;> exact Eq.trans left right

/-- However the program ends, the other tables are as they were. -/
def WritesOnly {ε α : Type} (tables : List DatabaseTable) (program : Program Database ε α) :
    Prop :=
  ∀ (database : Database) (table : DatabaseTable), table ∉ tables →
    (program database).2.Same database table

section Rules

variable {ε α β : Type} {tables : List DatabaseTable}

variable {program : Program Database ε α}

theorem WritesOnly.returns (writes : WritesOnly tables program) {before after : Database}
    {result : α} (returned : program.Returns before result after) (table : DatabaseTable)
    (outside : table ∉ tables) : after.Same before table := by
  have same := writes before table outside
  rw [show program before = (.ok result, after) from returned] at same
  exact same

theorem WritesOnly.mono {fewer : List DatabaseTable} (writes : WritesOnly fewer program)
    (subset : fewer ⊆ tables) :
    WritesOnly tables program :=
  fun database table outside => writes database table fun member => outside (subset member)

/-- A program that changes nothing. -/
theorem writesOnly_of_keeps (keeps : Keeps (fun database => database) program) :
    WritesOnly tables program := by
  intro database table _
  rw [show (program database).2 = database from keeps database]
  exact .refl database table

theorem writesOnly_pure (value : α) :
    WritesOnly tables (pure value : Program Database ε α) :=
  writesOnly_of_keeps (keeps_pure value)

theorem writesOnly_raise (error : ε) :
    WritesOnly tables (raise error : Program Database ε α) :=
  writesOnly_of_keeps (keeps_raise error)

theorem writesOnly_reads (view : Database → α) :
    WritesOnly tables (reads view : Program Database ε α) :=
  writesOnly_of_keeps (keeps_reads view)

theorem writesOnly_require (value : Option α) (error : ε) :
    WritesOnly tables (require value error : Program Database ε α) :=
  writesOnly_of_keeps (keeps_require value error)

theorem writesOnly_refuseWhen (condition : Prop) [Decidable condition] (error : ε) :
    WritesOnly tables (refuseWhen condition error : Program Database ε Unit) :=
  writesOnly_of_keeps (keeps_refuseWhen condition error)

theorem writesOnly_ofExcept (outcome : Except ε α) :
    WritesOnly tables (ofExcept outcome : Program Database ε α) :=
  writesOnly_of_keeps (keeps_ofExcept outcome)

theorem writesOnly_bind {first : Program Database ε α} {next : α → Program Database ε β}
    (writesFirst : WritesOnly tables first) (writesNext : ∀ value, WritesOnly tables (next value)) :
    WritesOnly tables (first >>= next) := by
  intro database table outside
  have same := writesFirst database table outside
  simp only [bind]
  cases ran : first database with
  | mk outcome middle =>
      rw [ran] at same
      cases outcome with
      | ok value => exact (writesNext value middle table outside).trans same
      | error error => exact same

theorem writesOnly_refuseWhen_bind {condition : Prop} [Decidable condition] {error : ε}
    {next : Unit → Program Database ε β} (writesNext : WritesOnly tables (next ())) :
    WritesOnly tables (refuseWhen condition error >>= next) :=
  writesOnly_bind (writesOnly_refuseWhen condition error) fun _ => writesNext

theorem writesOnly_ite {condition : Prop} [Decidable condition]
    {first second : Program Database ε α} (writesFirst : WritesOnly tables first)
    (writesSecond : WritesOnly tables second) :
    WritesOnly tables (if condition then first else second) := by
  split
  · exact writesFirst
  · exact writesSecond

theorem writesOnly_onlyIf (condition : Prop) [Decidable condition]
    {program : Program Database ε Unit} (writes : WritesOnly tables program) :
    WritesOnly tables (onlyIf condition program) :=
  writesOnly_ite writes (writesOnly_pure ())

theorem writesOnly_whenSome (value : Option α) {program : α → Program Database ε Unit}
    (writes : ∀ present, WritesOnly tables (program present)) :
    WritesOnly tables (whenSome value program) := by
  cases value with
  | none => exact writesOnly_pure ()
  | some present => exact writes present

theorem writesOnly_mapError {ε' : Type} {wrap : ε → ε'} (writes : WritesOnly tables program) :
    WritesOnly tables (mapError wrap program) := by
  intro database table outside
  have same := writes database table outside
  unfold mapError
  cases ran : program database with
  | mk outcome middle =>
      rw [ran] at same
      cases outcome <;> exact same

theorem writesOnly_forgetResult (writes : WritesOnly tables program) :
    WritesOnly tables (forgetResult program) :=
  writesOnly_bind writes fun _ => writesOnly_pure ()

theorem writesOnly_rescue {caught : ε → Bool} {handler : ε → Program Database ε α}
    (writes : WritesOnly tables program) (handled : ∀ error, WritesOnly tables (handler error)) :
    WritesOnly tables (rescue program caught handler) := by
  intro database table outside
  have same := writes database table outside
  unfold rescue
  cases ran : program database with
  | mk outcome middle =>
      rw [ran] at same
      cases outcome with
      | ok value => exact same
      | error error =>
          dsimp only
          split
          · exact (handled error middle table outside).trans same
          · exact same

/-- A change of one table. -/
theorem writesOnly_modify {change : Database → Database} (written : DatabaseTable)
    (member : written ∈ tables)
    (others : ∀ database table, table ≠ written → (change database).Same database table) :
    WritesOnly tables (modify change : Program Database ε Unit) := by
  intro database table outside
  apply others
  intro equal
  subst equal
  exact outside member

theorem same_updateTicket (database : Database) (ticketId : String)
    (change : SupportTicket → SupportTicket) (table : DatabaseTable)
    (other : table ≠ .tickets) :
    (database.updateTicket ticketId change).Same database table := by
  cases table <;> first | rfl | exact absurd rfl other

theorem same_updateRun (database : Database) (runId : String) (change : AgentRun → AgentRun)
    (table : DatabaseTable) (other : table ≠ .runs) :
    (database.updateRun runId change).Same database table := by
  cases table <;> first | rfl | exact absurd rfl other

theorem same_updateJob (database : Database) (jobId : String)
    (change : RuntimeJob → RuntimeJob) (table : DatabaseTable) (other : table ≠ .jobs) :
    (database.updateJob jobId change).Same database table := by
  cases table <;> first | rfl | exact absurd rfl other

theorem same_updateTurn (database : Database) (turnId : String)
    (change : ConversationTurn → ConversationTurn) (table : DatabaseTable)
    (other : table ≠ .turns) : (database.updateTurn turnId change).Same database table := by
  cases table <;> first | rfl | exact absurd rfl other

theorem same_updateMessage (database : Database) (messageId : String)
    (change : TicketMessage → TicketMessage) (table : DatabaseTable)
    (other : table ≠ .messages) :
    (database.updateMessage messageId change).Same database table := by
  cases table <;> first | rfl | exact absurd rfl other

theorem same_updateApproval (database : Database) (approvalId : String)
    (change : ApprovalRequest → ApprovalRequest) (table : DatabaseTable)
    (other : table ≠ .approvals) :
    (database.updateApproval approvalId change).Same database table := by
  cases table <;> first | rfl | exact absurd rfl other

end Rules

/-! ## Rows and events -/

theorem writesOnly_insertEvent (event : AgentEvent) :
    WritesOnly [.events] (insertEvent event) := by
  apply writesOnly_bind (writesOnly_reads _)
  intro database
  split
  · exact writesOnly_raise _
  · apply writesOnly_modify .events (by decide)
    intro database table other
    cases table <;> first | rfl | exact absurd rfl other

theorem writesOnly_appendEvent (redactPii : PyText → PyText) (request : EventRequest) :
    WritesOnly [.events, .tickets, .runs] (appendEvent redactPii request) := by
  apply writesOnly_bind (writesOnly_reads _)
  intro database
  apply writesOnly_bind (writesOnly_require _ _)
  intro run
  apply writesOnly_bind (writesOnly_require _ _)
  intro ticket
  apply writesOnly_refuseWhen_bind
  apply writesOnly_refuseWhen_bind
  apply writesOnly_refuseWhen_bind
  apply writesOnly_refuseWhen_bind
  apply writesOnly_refuseWhen_bind
  apply writesOnly_bind (writesOnly_modify .tickets (by decide) fun database =>
    same_updateTicket database _ _)
  intro _
  apply writesOnly_bind (writesOnly_modify .runs (by decide) fun database =>
    same_updateRun database _ _)
  intro _
  apply writesOnly_refuseWhen_bind
  apply writesOnly_bind (writesOnly_require _ _)
  intro payload
  apply writesOnly_bind (writesOnly_ofExcept _)
  intro event
  apply writesOnly_bind ((writesOnly_insertEvent event).mono (by decide))
  intro _
  apply writesOnly_bind (writesOnly_modify .runs (by decide) fun database =>
    same_updateRun database _ _)
  intro _
  exact writesOnly_pure event

theorem writesOnly_insertRun (run : AgentRun) : WritesOnly [.runs] (insertRun run) := by
  apply writesOnly_bind (writesOnly_reads _)
  intro database
  apply writesOnly_refuseWhen_bind
  apply writesOnly_modify .runs (by decide)
  intro database table other
  cases table <;> first | rfl | exact absurd rfl other

theorem writesOnly_insertJob (job : RuntimeJob) : WritesOnly [.jobs] (insertJob job) := by
  apply writesOnly_bind (writesOnly_reads _)
  intro database
  apply writesOnly_refuseWhen_bind
  apply writesOnly_modify .jobs (by decide)
  intro database table other
  cases table <;> first | rfl | exact absurd rfl other

theorem writesOnly_dispatchJob (job : RuntimeJob) (ticket : SupportTicket) :
    WritesOnly [.tickets, .jobs] (dispatchJob job ticket) := by
  apply writesOnly_bind (writesOnly_modify .tickets (by decide) fun database =>
    same_updateTicket database _ _)
  intro _
  apply writesOnly_bind ((writesOnly_insertJob _).mono (by decide))
  intro _
  exact writesOnly_pure _

/-! ## Turns -/

theorem writesOnly_createRun (redactPii : PyText → PyText) (draws : Draws)
    (ticket : SupportTicket) (turn : ConversationTurn)
    (model providerMode toolCallMode : String) :
    WritesOnly [.runs, .events, .tickets]
      (createRun redactPii draws ticket turn model providerMode toolCallMode) := by
  apply writesOnly_bind (writesOnly_reads _)
  intro database
  apply writesOnly_bind (writesOnly_require _ _)
  intro message
  apply writesOnly_bind (writesOnly_require _ _)
  intro owner
  apply writesOnly_refuseWhen_bind
  split
  · exact writesOnly_pure _
  · apply writesOnly_bind ((writesOnly_insertRun _).mono (by decide))
    intro _
    apply writesOnly_bind
      (writesOnly_mapError ((writesOnly_appendEvent redactPii _).mono (by decide)))
    intro _
    exact writesOnly_pure _

theorem writesOnly_bindTurn (turn : ConversationTurn) (runId : String) :
    WritesOnly [.runs, .turns, .messages] (bindTurn turn runId) := by
  apply writesOnly_bind (writesOnly_modify .runs (by decide) fun database =>
    same_updateRun database _ _)
  intro _
  apply writesOnly_bind (writesOnly_modify .turns (by decide) fun database =>
    same_updateTurn database _ _)
  intro _
  apply writesOnly_bind (writesOnly_reads _)
  intro database
  apply writesOnly_bind (writesOnly_require _ _)
  intro message
  apply writesOnly_bind (writesOnly_modify .messages (by decide) fun database =>
    same_updateMessage database _ _)
  intro _
  exact writesOnly_modify .turns (by decide) fun database => same_updateTurn database _ _

theorem writesOnly_announceJob (draws : Draws) (ticket : SupportTicket) (job : RuntimeJob)
    (traceId : String) :
    WritesOnly [.outbox, .tickets] (announceJob draws ticket job traceId) := by
  apply writesOnly_bind (writesOnly_modify .outbox (by decide) ?_)
  · intro _
    exact writesOnly_modify .tickets (by decide) fun database =>
      same_updateTicket database _ _
  · intro database table other
    cases table <;> first | rfl | exact absurd rfl other

theorem writesOnly_activateNextTurn (redactPii : PyText → PyText) (draws : Draws)
    (ticket : SupportTicket) (traceId : String) :
    WritesOnly [.tickets, .runs, .events, .turns, .messages, .jobs, .outbox]
      (activateNextTurn redactPii draws ticket traceId) := by
  apply writesOnly_bind (writesOnly_reads _)
  intro database
  apply writesOnly_ite (writesOnly_pure none)
  split
  · exact writesOnly_pure none
  · apply writesOnly_refuseWhen_bind
    apply writesOnly_bind ((writesOnly_createRun redactPii draws ticket _ _ _ _).mono
      (by decide))
    intro runId
    apply writesOnly_bind ((writesOnly_bindTurn _ runId).mono (by decide))
    intro _
    apply writesOnly_bind ((writesOnly_dispatchJob _ ticket).mono (by decide))
    intro job
    apply writesOnly_bind ((writesOnly_announceJob draws ticket job traceId).mono (by decide))
    intro _
    exact writesOnly_pure _

/-! ## Approvals and tickets -/

theorem writesOnly_transition (approval : ApprovalRequest)
    (toStatus expectedStatus : ApprovalStatus) (expectedVersion : Option Int) :
    WritesOnly [.approvals] (transition approval toStatus expectedStatus expectedVersion) := by
  apply writesOnly_ite (writesOnly_pure false)
  apply writesOnly_refuseWhen_bind
  apply writesOnly_refuseWhen_bind
  apply writesOnly_refuseWhen_bind
  apply writesOnly_refuseWhen_bind
  apply writesOnly_bind (writesOnly_modify .approvals (by decide) fun database =>
    same_updateApproval database _ _)
  intro _
  exact writesOnly_pure true

theorem writesOnly_convergeTicket (ticket : SupportTicket) (defaultStatus : String) :
    WritesOnly [.tickets] (convergeTicket ticket defaultStatus) := by
  apply writesOnly_ite (writesOnly_pure _)
  apply writesOnly_bind (writesOnly_reads _)
  intro database
  apply writesOnly_bind (writesOnly_onlyIf _ (writesOnly_modify .tickets (by decide)
    fun database => same_updateTicket database _ _))
  intro _
  exact writesOnly_pure _

/-! ## Failure -/

theorem writesOnly_failRun (run : AgentRun) (reason : String) :
    WritesOnly [.runs] (failRun run reason) :=
  writesOnly_modify .runs (by decide) fun database => same_updateRun database _ _

theorem writesOnly_failTurn (run : AgentRun) : WritesOnly [.turns] (failTurn run) := by
  apply writesOnly_modify .turns (by decide)
  intro database table other
  split
  · exact .refl database table
  · exact same_updateTurn database _ _ table other

theorem writesOnly_publishFailure (draws : Draws) (job : RuntimeJob) (run : AgentRun) :
    WritesOnly [.tickets, .messages] (publishFailure draws job run) := by
  apply writesOnly_bind (writesOnly_reads _)
  intro database
  split
  · exact writesOnly_pure ()
  · apply writesOnly_ite (writesOnly_pure ())
    apply writesOnly_bind (writesOnly_modify .tickets (by decide) fun database =>
      same_updateTicket database _ _)
    intro _
    apply writesOnly_ite (writesOnly_pure ())
    apply writesOnly_bind (writesOnly_modify .tickets (by decide) fun database =>
      same_updateTicket database _ _)
    intro _
    apply writesOnly_modify .messages (by decide)
    intro database table other
    cases table <;> first | rfl | exact absurd rfl other

theorem writesOnly_retireProposal (proposalId : String) :
    WritesOnly [.proposals] (retireProposal proposalId) := by
  apply writesOnly_modify .proposals (by decide)
  intro database table other
  cases table <;> first | rfl | exact absurd rfl other

theorem writesOnly_failApproval (job : RuntimeJob) :
    WritesOnly [.approvals, .proposals] (failApproval job) := by
  apply writesOnly_bind (writesOnly_reads _)
  intro database
  split
  · exact writesOnly_pure ()
  · apply writesOnly_bind ((writesOnly_transition _ _ _ _).mono (by decide))
    intro _
    exact (writesOnly_retireProposal _).mono (by decide)

theorem writesOnly_abortMarkers (job : RuntimeJob) :
    WritesOnly [.markers] (abortMarkers job) := by
  apply writesOnly_modify .markers (by decide)
  intro database table other
  cases table <;> first | rfl | exact absurd rfl other

theorem writesOnly_releaseTicket (redactPii : PyText → PyText) (draws : Draws)
    (job : RuntimeJob) (run : AgentRun) :
    WritesOnly [.tickets, .runs, .events, .turns, .messages, .jobs, .outbox]
      (releaseTicket redactPii draws job run) := by
  apply writesOnly_bind (writesOnly_reads _)
  intro database
  split
  · exact writesOnly_pure ()
  · apply writesOnly_ite ?_ (writesOnly_pure ())
    apply writesOnly_bind (writesOnly_activateNextTurn redactPii draws _ _)
    intro _
    apply writesOnly_bind (writesOnly_reads _)
    intro database
    split
    · exact writesOnly_pure ()
    · apply writesOnly_bind ((writesOnly_convergeTicket _ _).mono (by decide))
      intro _
      exact writesOnly_pure ()

/-- The tables of a failure: everything but the calls and the tools. -/
def failureTables : List DatabaseTable :=
  [.tickets, .runs, .events, .turns, .messages, .jobs, .markers, .outbox, .approvals,
    .proposals]

theorem writesOnly_convergeDeadAggregates (redactPii : PyText → PyText) (draws : Draws)
    (job : RuntimeJob) (run : AgentRun) (reason : String) :
    WritesOnly failureTables (convergeDeadAggregates redactPii draws job run reason) := by
  apply writesOnly_bind ((writesOnly_failRun run reason).mono (by decide))
  intro _
  apply writesOnly_bind ((writesOnly_failTurn run).mono (by decide))
  intro _
  apply writesOnly_bind ((writesOnly_publishFailure draws job run).mono (by decide))
  intro _
  apply writesOnly_bind ((writesOnly_failApproval job).mono (by decide))
  intro _
  apply writesOnly_bind ((writesOnly_abortMarkers job).mono (by decide))
  intro _
  exact (writesOnly_releaseTicket redactPii draws job run).mono (by decide)

theorem writesOnly_assertFence {tables : List DatabaseTable} (lease : JobLease) :
    WritesOnly tables (assertFence lease) :=
  writesOnly_bind (writesOnly_reads _) fun _ => writesOnly_require _ _

theorem writesOnly_fail (redactPii : PyText → PyText) (draws : Draws) (lease : JobLease)
    (errorCode : String) (maxAttempts maxAgeSeconds : Int) :
    WritesOnly failureTables
      (fail redactPii draws lease errorCode maxAttempts maxAgeSeconds) := by
  apply writesOnly_bind (writesOnly_assertFence lease)
  intro job
  apply writesOnly_bind (writesOnly_reads _)
  intro database
  apply writesOnly_bind (writesOnly_require _ _)
  intro run
  apply writesOnly_bind (writesOnly_ofExcept _)
  intro decision
  apply writesOnly_bind (writesOnly_modify .jobs (by decide) fun database =>
    same_updateJob database _ _)
  intro _
  apply writesOnly_bind (writesOnly_modify .runs (by decide) fun database =>
    same_updateRun database _ _)
  intro _
  apply writesOnly_bind (writesOnly_onlyIf _
    (writesOnly_convergeDeadAggregates redactPii draws job run errorCode))
  intro _
  exact writesOnly_pure _

theorem writesOnly_terminalFail (redactPii : PyText → PyText) (draws : Draws)
    (lease : JobLease) (errorCode : String) :
    WritesOnly failureTables (terminalFail redactPii draws lease errorCode) := by
  apply writesOnly_bind (writesOnly_assertFence lease)
  intro job
  apply writesOnly_bind (writesOnly_reads _)
  intro database
  apply writesOnly_bind (writesOnly_require _ _)
  intro run
  apply writesOnly_bind (writesOnly_modify .jobs (by decide) fun database =>
    same_updateJob database _ _)
  intro _
  apply writesOnly_bind
    (writesOnly_convergeDeadAggregates redactPii draws job run errorCode)
  intro _
  apply writesOnly_bind (writesOnly_modify .runs (by decide) fun database =>
    same_updateRun database _ _)
  intro _
  exact writesOnly_pure _

/-! ## Leases -/

theorem writesOnly_create (request : JobRequest) :
    WritesOnly [.tickets, .jobs] (create request) := by
  apply writesOnly_bind (writesOnly_reads _)
  intro database
  apply writesOnly_bind (writesOnly_require _ _)
  intro kind
  apply writesOnly_refuseWhen_bind
  apply writesOnly_refuseWhen_bind
  apply writesOnly_bind (writesOnly_require _ _)
  intro run
  apply writesOnly_refuseWhen_bind
  apply writesOnly_refuseWhen_bind
  apply writesOnly_bind (writesOnly_require _ _)
  intro ticket
  exact writesOnly_dispatchJob _ ticket

theorem writesOnly_claim (jobId owner : String) (leaseSeconds : Int) :
    WritesOnly [.jobs, .runs, .turns, .tickets] (claim jobId owner leaseSeconds) := by
  apply writesOnly_bind (writesOnly_reads _)
  intro database
  apply writesOnly_bind (writesOnly_require _ _)
  intro job
  apply writesOnly_bind (writesOnly_require _ _)
  intro ticket
  apply writesOnly_refuseWhen_bind
  apply writesOnly_refuseWhen_bind
  apply writesOnly_refuseWhen_bind
  apply writesOnly_refuseWhen_bind
  apply writesOnly_refuseWhen_bind
  apply writesOnly_bind (writesOnly_require _ _)
  intro run
  apply writesOnly_refuseWhen_bind
  apply writesOnly_refuseWhen_bind
  apply writesOnly_bind (writesOnly_require _ _)
  intro expiresAt
  apply writesOnly_bind (writesOnly_modify .jobs (by decide) fun database =>
    same_updateJob database _ _)
  intro _
  apply writesOnly_bind (writesOnly_modify .runs (by decide) fun database =>
    same_updateRun database _ _)
  intro _
  apply writesOnly_bind (writesOnly_modify .turns (by decide) fun database =>
    same_updateTurn database _ _)
  intro _
  apply writesOnly_refuseWhen_bind
  apply writesOnly_bind (writesOnly_modify .tickets (by decide) fun database =>
    same_updateTicket database _ _)
  intro _
  exact writesOnly_pure _

theorem writesOnly_heartbeat (lease : JobLease) (leaseSeconds : Int) :
    WritesOnly [.jobs] (heartbeat lease leaseSeconds) := by
  apply writesOnly_bind (writesOnly_assertFence lease)
  intro job
  apply writesOnly_bind (writesOnly_reads _)
  intro database
  apply writesOnly_bind (writesOnly_require _ _)
  intro expiresAt
  exact writesOnly_modify .jobs (by decide) fun database => same_updateJob database _ _

theorem writesOnly_complete (lease : JobLease) (outcome : String) :
    WritesOnly [.jobs, .runs] (complete lease outcome) := by
  apply writesOnly_bind (writesOnly_assertFence lease)
  intro job
  apply writesOnly_bind (writesOnly_reads _)
  intro database
  apply writesOnly_bind (writesOnly_require _ _)
  intro run
  apply writesOnly_bind (writesOnly_modify .jobs (by decide) fun database =>
    same_updateJob database _ _)
  intro _
  exact writesOnly_modify .runs (by decide) fun database => same_updateRun database _ _

/-! ## Calls of a run -/

theorem writesOnly_insertAttempt (attempt : AgentCallAttempt) :
    WritesOnly [.attempts] (insertAttempt attempt) := by
  apply writesOnly_bind (writesOnly_reads _)
  intro database
  apply writesOnly_refuseWhen_bind
  apply writesOnly_refuseWhen_bind
  apply writesOnly_modify .attempts (by decide)
  intro database table other
  cases table <;> first | rfl | exact absurd rfl other

theorem writesOnly_insertTransport (transport : ToolTransportAttempt) :
    WritesOnly [.transports] (insertTransport transport) := by
  apply writesOnly_bind (writesOnly_reads _)
  intro database
  apply writesOnly_refuseWhen_bind
  apply writesOnly_refuseWhen_bind
  apply writesOnly_refuseWhen_bind
  apply writesOnly_modify .transports (by decide)
  intro database table other
  cases table <;> first | rfl | exact absurd rfl other

theorem writesOnly_checkRepair {tables : List DatabaseTable} (lease : JobLease)
    (request : AttemptRequest) : WritesOnly tables (checkRepair lease request) := by
  apply writesOnly_bind (writesOnly_reads _)
  intro database
  apply writesOnly_bind (writesOnly_require _ _)
  intro original
  exact writesOnly_bind (writesOnly_refuseWhen _ _) fun _ => writesOnly_refuseWhen _ _

theorem writesOnly_spend (lease : JobLease) (kind : CallKind) (request : AttemptRequest)
    (run : AgentRun) : WritesOnly [.runs] (spend lease kind request run) := by
  have llm : WritesOnly [.runs] (spendLlmCall run) := by
    apply writesOnly_refuseWhen_bind
    exact writesOnly_modify .runs (by decide) fun database => same_updateRun database _ _
  have tool : WritesOnly [.runs] (spendToolAttempt lease kind request run) := by
    apply writesOnly_bind (writesOnly_reads _)
    intro database
    apply writesOnly_bind (writesOnly_require _ _)
    intro invocationId
    apply writesOnly_bind (writesOnly_require _ _)
    intro invocation
    apply writesOnly_refuseWhen_bind
    apply writesOnly_refuseWhen_bind
    apply writesOnly_refuseWhen_bind
    apply writesOnly_refuseWhen_bind
    exact writesOnly_modify .runs (by decide) fun database => same_updateRun database _ _
  cases kind with
  | llm => exact llm
  | structureRepair => exact llm
  | readMcp => exact tool
  | toolPreflight => exact tool

theorem writesOnly_recordAttempt (lease : JobLease) (kind : CallKind)
    (request : AttemptRequest) :
    WritesOnly [.attempts, .transports] (recordAttempt lease kind request) := by
  apply writesOnly_bind (writesOnly_reads _)
  intro database
  apply writesOnly_bind ((writesOnly_insertAttempt _).mono (by decide))
  intro _
  apply writesOnly_ite ?_ (writesOnly_pure _)
  apply writesOnly_bind (writesOnly_require _ _)
  intro invocationId
  apply writesOnly_bind (writesOnly_require _ _)
  intro transportOrdinal
  apply writesOnly_bind ((writesOnly_insertTransport _).mono (by decide))
  intro _
  exact writesOnly_pure _

theorem writesOnly_reserve (lease : JobLease) (request : AttemptRequest) :
    WritesOnly [.runs, .attempts, .transports] (reserve lease request) := by
  apply writesOnly_bind (writesOnly_assertFence lease)
  intro job
  apply writesOnly_refuseWhen_bind
  apply writesOnly_refuseWhen_bind
  apply writesOnly_bind (writesOnly_reads _)
  intro database
  apply writesOnly_bind (writesOnly_require _ _)
  intro run
  apply writesOnly_bind (writesOnly_onlyIf _ (writesOnly_checkRepair lease request))
  intro _
  apply writesOnly_bind (writesOnly_require _ _)
  intro kind
  apply writesOnly_bind ((writesOnly_spend lease kind request run).mono (by decide))
  intro _
  exact (writesOnly_recordAttempt lease kind request).mono (by decide)

theorem writesOnly_reserveToolRound (lease : JobLease) :
    WritesOnly [.runs] (reserveToolRound lease) := by
  apply writesOnly_bind (writesOnly_assertFence lease)
  intro job
  apply writesOnly_bind (writesOnly_reads _)
  intro database
  apply writesOnly_bind (writesOnly_require _ _)
  intro run
  apply writesOnly_refuseWhen_bind
  apply writesOnly_bind (writesOnly_modify .runs (by decide) fun database =>
    same_updateRun database _ _)
  intro _
  exact writesOnly_pure _

theorem writesOnly_finish (lease : JobLease) (reserved : ReservedAttempt)
    (outcome : AttemptOutcome) :
    WritesOnly [.attempts, .transports] (finish lease reserved outcome) := by
  apply writesOnly_bind (writesOnly_assertFence lease)
  intro job
  apply writesOnly_bind (writesOnly_reads _)
  intro database
  apply writesOnly_bind (writesOnly_require _ _)
  intro attempt
  apply writesOnly_refuseWhen_bind
  apply writesOnly_bind (writesOnly_require _ _)
  intro status
  apply writesOnly_bind (writesOnly_whenSome _ fun paths =>
    writesOnly_of_keeps (keeps_checkErrorPaths _ _ paths))
  intro _
  apply writesOnly_bind (writesOnly_modify .attempts (by decide) ?_)
  · intro _
    apply writesOnly_bind (writesOnly_whenSome _ fun count =>
      writesOnly_of_keeps (keeps_checkTransportAttempts _ count))
    intro _
    apply writesOnly_whenSome
    intro transportId
    apply writesOnly_bind (writesOnly_reads _)
    intro database
    apply writesOnly_bind (writesOnly_require _ _)
    intro transport
    apply writesOnly_refuseWhen_bind
    apply writesOnly_bind (writesOnly_modify .transports (by decide) ?_)
    · intro _
      apply writesOnly_whenSome
      intro lifecycle
      exact writesOnly_of_keeps (keeps_checkLifecycle _ _ lifecycle)
    · intro database table other
      cases table <;> first | rfl | exact absurd rfl other
  · intro database table other
    cases table <;> first | rfl | exact absurd rfl other

end SupportGuard
