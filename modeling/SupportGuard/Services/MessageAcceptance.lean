import SupportGuard.Services.MessageCommands

/-! # Messages are accepted once and in order

Every message that a customer sends to an open ticket of the agent becomes one message,
one turn, one run and one job, however often it is sent. -/

namespace SupportGuard

open Foundation Program

/-! ## Event logs that a change does not concern -/

/-- The part of a database that the invariant of the event logs is about. -/
def Database.logView (database : Database) :
    List AgentEvent × (String → Option Int) × (String → Option (Int × String)) :=
  (database.events,
    fun ticketId => (Table.find SupportTicket.id database.tickets ticketId).map
      SupportTicket.nextEventSequence,
    fun runId => (Table.find AgentRun.id database.runs runId).map fun run =>
      (run.nextRunSequence, run.ticketId))

theorem EventLogInvariant.of_logView {before after : Database}
    (invariant : EventLogInvariant before) (same : after.logView = before.logView) :
    EventLogInvariant after := by
  have events : after.events = before.events := congrArg Prod.fst same
  have tickets := congrFun (congrArg (fun view => view.2.1) same)
  have runs := congrFun (congrArg (fun view => view.2.2) same)
  simp only [Database.logView] at tickets runs
  have ticketLogs : after.ticketLog = before.ticketLog := by
    funext ticketId
    simp only [Database.ticketLog, events]
  have runLogs : after.runLog = before.runLog := by
    funext runId
    simp only [Database.runLog, events]
  constructor
  case verified =>
    rw [ticketLogs]
    exact invariant.verified
  case ticketCounter =>
    intro ticketId ticket found nonempty
    rw [ticketLogs] at nonempty ⊢
    have known := tickets ticketId
    rw [found, Option.map_some, eq_comm, Option.map_eq_some_iff] at known
    rcases known with ⟨earlier, earlierFound, counter⟩
    rw [← counter]
    exact invariant.ticketCounter ticketId earlier earlierFound nonempty
  case runNumbers =>
    rw [runLogs]
    exact invariant.runNumbers
  case runCounter =>
    intro runId run found nonempty
    rw [runLogs] at nonempty ⊢
    have known := runs runId
    rw [found, Option.map_some, eq_comm, Option.map_eq_some_iff] at known
    rcases known with ⟨earlier, earlierFound, counter⟩
    rw [← (Prod.mk.inj counter).1]
    exact invariant.runCounter runId earlier earlierFound nonempty
  case runTicket =>
    intro event member
    rw [events] at member
    rcases invariant.runTicket event member with ⟨earlier, earlierFound, ticketId⟩
    have known := runs event.runId
    rw [earlierFound, Option.map_some, Option.map_eq_some_iff] at known
    rcases known with ⟨run, found, counter⟩
    exact ⟨run, found, (Prod.mk.inj counter).2.trans ticketId⟩

/-- A run without events may join the table. -/
theorem EventLogInvariant.insertRun {database : Database} {run : AgentRun}
    (invariant : EventLogInvariant database) (new : ∀ other ∈ database.runs, other.id ≠ run.id) :
    EventLogInvariant { database with runs := database.runs ++ [run] } where
  verified := invariant.verified
  ticketCounter := invariant.ticketCounter
  runNumbers := invariant.runNumbers
  runCounter := by
    intro runId other found nonempty
    by_cases same : run.id = runId
    · rcases List.exists_mem_of_ne_nil _ nonempty with ⟨event, member⟩
      rcases List.mem_filter.mp member with ⟨eventMember, ofRun⟩
      rcases invariant.runTicket event eventMember with ⟨owner, ownerFound, _⟩
      have owned := Table.find_mem ownerFound
      have named : owner.id = run.id := by
        rw [owned.2, same]
        simpa using ofRun
      exact absurd named (new owner owned.1)
    · rw [Table.find_append_of_ne same] at found
      exact invariant.runCounter runId other found nonempty
  runTicket := by
    intro event member
    rcases invariant.runTicket event member with ⟨owner, found, ticketId⟩
    have owned := Table.find_mem found
    have other : run.id ≠ event.runId := fun same => new owner owned.1 (owned.2.trans same.symm)
    refine ⟨owner, ?_, ticketId⟩
    rw [Table.find_append_of_ne other]
    exact found

theorem EventLogInvariant.runLog_eq_nil {database : Database} {runId : String}
    (invariant : EventLogInvariant database) (new : ∀ run ∈ database.runs, run.id ≠ runId) :
    database.runLog runId = [] := by
  apply List.filter_eq_nil_iff.mpr
  intro event member named
  rcases invariant.runTicket event member with ⟨owner, found, _⟩
  have owned := Table.find_mem found
  apply new owner owned.1
  rw [owned.2]
  simpa using named

/-- The number behind the last event of a ticket is free. -/
theorem EventLogInvariant.eventConflict_eq_none {database : Database} {event : AgentEvent}
    (invariant : EventLogInvariant database)
    (newEvent : ∀ other ∈ database.events, other.id ≠ event.id)
    (newRun : ∀ run ∈ database.runs, run.id ≠ event.runId)
    (behind : event.ticketSequence = (database.ticketLog event.ticketId).length + 1) :
    eventConflict database.events event = none := by
  have idFree : (database.events.any fun other => other.id = event.id) = false := by
    simpa using newEvent
  have runFree : (database.events.any fun other =>
      other.runId = event.runId && other.runSequence = event.runSequence) = false := by
    apply List.any_eq_false.mpr
    intro other member
    have absent := List.filter_eq_nil_iff.mp (invariant.runLog_eq_nil newRun) other member
    simp only [decide_eq_true_eq] at absent
    simp [absent]
  have numberFree : (database.events.any fun other =>
      other.ticketId = event.ticketId && other.ticketSequence = event.ticketSequence) =
        false := by
    apply List.any_eq_false.mpr
    intro other member taken
    simp only [Bool.and_eq_true, decide_eq_true_eq] at taken
    have logged : other.ticketSequence ∈
        (database.ticketLog event.ticketId).map AgentEvent.ticketSequence :=
      List.mem_map_of_mem (List.mem_filter.mpr ⟨member, by simpa using taken.1⟩)
    rw [invariant.ticketNumbers, Table.consecutive, List.mem_map] at logged
    rcases logged with ⟨index, inside, number⟩
    rw [List.mem_range] at inside
    omega
  simp only [eventConflict, idFree, runFree, numberFree, Bool.false_eq_true, if_false]

/-! ## The parts of a new message -/

section Parts

variable {redactPii : PyText → PyText} {before : Database} {ticket : SupportTicket}

theorem accept_new {scope : IdempotencyScope} {payload : Json}
    {resourceIds : List (String × String)} {snapshot : List (String × SnapshotValue)}
    (unknown : Table.find IdempotencyRequest.scope before.idempotency scope = none) :
    (IdempotencyRepository.accept scope payload resourceIds snapshot).Returns before
      { record :=
          { scope
            requestHash := canonicalRequestHash payload
            resourceIds
            responseSnapshot := snapshot }
        reused := false }
      { before with
        idempotency := before.idempotency ++
          [{ scope
             requestHash := canonicalRequestHash payload
             resourceIds
             responseSnapshot := snapshot }] } := by
  rw [IdempotencyRepository.accept, returns_readsId_bind, unknown, returns_modify_bind]
  exact returns_pure.mpr ⟨rfl, rfl⟩

/-- The identifiers of a call are used nowhere yet. -/
structure Fresh (database : Database) (draws : MessageDraws) : Prop where
  messages : ∀ message ∈ database.messages, message.id ≠ draws.messageId
  turns : ∀ turn ∈ database.turns, turn.id ≠ draws.turnId ∧
    turn.customerMessageId ≠ draws.messageId ∧ turn.runId ≠ some draws.runId
  runs : ∀ run ∈ database.runs, run.id ≠ draws.runId ∧
    run.messageId ≠ draws.messageId ∧ run.turnId ≠ some draws.turnId
  jobs : ∀ job ∈ database.jobs, job.id ≠ draws.jobId
  events : ∀ event ∈ database.events, event.id ≠ draws.eventId
  outbox : ∀ event ∈ database.outbox, event.id ≠ draws.outboxId ∧
    event.deliveryId ≠ draws.deliveryId ∧ event.jobId ≠ draws.jobId

/-- A ticket of the agent that takes messages, in a database whose counters are ahead of
its rows. -/
structure TakesMessages (database : Database) (ticket : SupportTicket) : Prop where
  found : Table.find SupportTicket.id database.tickets ticket.id = some ticket
  active : ticket.lifecycle = "active"
  agent : ticket.automationMode = "agent"
  log : EventLogInvariant database
  events : ticket.nextEventSequence = (database.ticketLog ticket.id).length
  messages : ∀ message ∈ database.messages, message.ticketId = ticket.id →
    ∀ sequence ∈ message.conversationSequence, sequence ≤ ticket.nextMessageSequence
  turns : ∀ turn ∈ database.turns, turn.ticketId = ticket.id →
    turn.ordinal ≤ ticket.nextMessageSequence
  jobs : ∀ job ∈ database.jobs, job.ticketId = ticket.id →
    job.dispatchSequence ≤ ticket.nextDispatchSequence

theorem TakesMessages.schedules (takes : TakesMessages before ticket) :
    ticket.schedules = true := by
  simp [SupportTicket.schedules, takes.agent]

/-- The message as it is before its run is known. -/
def recordedMessage (draws : MessageDraws) (ticket : SupportTicket) : TicketMessage :=
  { customerMessage draws ticket with turnId := some draws.turnId }

/-- The ticket once the message is on record. -/
def recordedTicket (row : SupportTicket) : SupportTicket :=
  { row with
    nextMessageSequence := row.nextMessageSequence + 1
    status := "queued"
    version := row.version + 1 }

theorem insertCustomerMessage_new {message : TicketMessage}
    (new : ∀ other ∈ before.messages, other.id ≠ message.id)
    (free : ∀ other ∈ before.messages, other.ticketId = message.ticketId →
      other.conversationSequence ≠ message.conversationSequence) :
    (insertCustomerMessage message).Returns before ()
      { before with messages := before.messages ++ [message] } := by
  rw [insertCustomerMessage, returns_readsId_bind]
  apply returns_of_refuseWhen (by simpa using free)
  rw [insertMessage, returns_readsId_bind]
  apply returns_of_refuseWhen (by simpa using new)
  exact returns_modify.mpr rfl

theorem insertTurn_new {turn : ConversationTurn}
    (new : ∀ other ∈ before.turns, other.id ≠ turn.id)
    (free : ∀ other ∈ before.turns, other.ticketId = turn.ticketId →
      other.ordinal ≠ turn.ordinal)
    (unanswered : ∀ other ∈ before.turns, other.customerMessageId ≠ turn.customerMessageId) :
    (insertTurn turn).Returns before () { before with turns := before.turns ++ [turn] } := by
  rw [insertTurn, returns_readsId_bind]
  apply returns_of_refuseWhen (by simpa using new)
  apply returns_of_refuseWhen (by simpa using free)
  apply returns_of_refuseWhen (by simpa using unanswered)
  exact returns_modify.mpr rfl

theorem recordMessage_new {identity : ProviderIdentity} {draws : MessageDraws}
    (scheduled : ticket.schedules = true)
    (newMessage : ∀ message ∈ before.messages, message.id ≠ draws.messageId)
    (newTurn : ∀ turn ∈ before.turns, turn.id ≠ draws.turnId)
    (unanswered : ∀ turn ∈ before.turns, turn.customerMessageId ≠ draws.messageId)
    (messages : ∀ message ∈ before.messages, message.ticketId = ticket.id →
      ∀ sequence ∈ message.conversationSequence, sequence ≤ ticket.nextMessageSequence)
    (turns : ∀ turn ∈ before.turns, turn.ticketId = ticket.id →
      turn.ordinal ≤ ticket.nextMessageSequence) :
    (recordMessage identity draws ticket).Returns before ()
      { before with
        tickets := Table.update SupportTicket.id ticket.id recordedTicket before.tickets
        messages := before.messages ++ [recordedMessage draws ticket]
        turns := before.turns ++ [customerTurn identity draws ticket] } := by
  have newNumber : ∀ message ∈ before.messages, message.ticketId = ticket.id →
      message.conversationSequence ≠ some (ticket.nextMessageSequence + 1) := by
    intro message member inTicket taken
    have bound := messages message member inTicket _ taken
    omega
  have newOrdinal : ∀ turn ∈ before.turns, turn.ticketId = ticket.id →
      turn.ordinal ≠ ticket.nextMessageSequence + 1 := by
    intro turn member inTicket taken
    have bound := turns turn member inTicket
    omega
  have named : Table.update TicketMessage.id draws.messageId
      (fun row => { row with turnId := some draws.turnId })
      (before.messages ++ [customerMessage draws ticket]) =
        before.messages ++ [recordedMessage draws ticket] :=
    Table.update_append_new newMessage rfl
  rw [recordMessage, returns_modify_bind]
  apply returns_of_bind
    (insertCustomerMessage_new (by exact newMessage) (by exact newNumber))
  apply returns_of_bind
    (insertTurn_new (by exact newTurn) (by exact newOrdinal) (by exact unanswered))
  rw [returns_modify_bind]
  apply returns_modify.mpr
  simp only [Database.updateMessage, Database.updateTicket, named, Database.mk.injEq, and_true,
    scheduled, if_true]
  symm
  apply Table.update_update
  exact fun _ => rfl

/-- A run joins the table together with its first event. -/
def Database.startRun (database : Database) (run : AgentRun) (counter : Int)
    (event : AgentEvent) : Database :=
  { database with
    tickets := Table.update SupportTicket.id run.ticketId
      (fun row => { row with nextEventSequence := counter }) database.tickets
    runs := database.runs ++ [{ run with nextRunSequence := 1 }]
    events := database.events ++ [event] }

theorem appendEvent_first (request : EventRequest) (run : AgentRun) {owner : SupportTicket}
    (log : EventLogInvariant before) (newRun : ∀ other ∈ before.runs, other.id ≠ run.id)
    (unnumbered : run.nextRunSequence = 0) (named : request.runId = run.id)
    (found : Table.find SupportTicket.id before.tickets run.ticketId = some owner)
    (counter : owner.nextEventSequence = (before.ticketLog run.ticketId).length)
    (newEvent : ∀ event ∈ before.events, event.id ≠ request.eventId)
    (anyHead : request.expectedTicketHeadEventId = none)
    (anySequence : request.expectedTicketSequence = none)
    (anyHash : request.expectedTicketEventHash = none) (noWorker : request.worker = none)
    (noStep : request.stepIndex = none)
    (storable : (storedPayload? redactPii request.payload).isSome) :
    ∃ event : AgentEvent, event.id = request.eventId ∧ event.ticketId = run.ticketId ∧
      (appendEvent redactPii request).Returns { before with runs := before.runs ++ [run] } event
        (before.startRun run (owner.nextEventSequence + 1) event) := by
  have inserted : EventLogInvariant { before with runs := before.runs ++ [run] } :=
    log.insertRun newRun
  have runFound : Table.find AgentRun.id (before.runs ++ [run]) request.runId = some run := by
    rw [named]
    exact Table.find_append_new newRun
  rcases Option.isSome_iff_exists.mp storable with ⟨payload, stored⟩
  have ticketCounter : owner.nextEventSequence = ((Table.latest? AgentEvent.ticketSequence
      (before.ticketLog run.ticketId)).map AgentEvent.ticketSequence).getD 0 := by
    rw [Table.latest?_of_map_eq_consecutive (log.ticketNumbers run.ticketId)]
    exact counter
  have runCounter : run.nextRunSequence = ((Table.latest? AgentEvent.runSequence
      (before.runLog run.id)).map AgentEvent.runSequence).getD 0 := by
    rw [log.runLog_eq_nil newRun, unnumbered]
    rfl
  have unique : ∀ event : AgentEvent, event.id = request.eventId → event.runId = run.id →
      event.ticketId = run.ticketId → event.runSequence = run.nextRunSequence + 1 →
      event.ticketSequence = owner.nextEventSequence + 1 →
      eventConflict before.events event = none := by
    intro event eventId runId ticketId _ sequence
    apply log.eventConflict_eq_none
    · rw [eventId]
      exact newEvent
    · rw [runId]
      exact newRun
    · rw [sequence, counter, ticketId]
  have succeeds : ∃ event after, (appendEvent redactPii request).Returns
      { before with runs := before.runs ++ [run] } event after :=
    appendEvent_succeeds redactPii runFound found ticketCounter runCounter anyHead anySequence
      anyHash noWorker stored unique
  rcases succeeds with ⟨event, after, appended⟩
  rcases appendEvent_returns redactPii appended with
    ⟨ranRun, ranTicket, ranPayload, ranFound, ranTicketFound, _, _, sealed, final⟩
  cases (runFound.symm.trans ranFound : some run = some ranRun)
  cases (found.symm.trans ranTicketFound : some owner = some ranTicket)
  rcases sealEvent_eq_ok sealed with ⟨hash, _, built⟩
  have stepIndex : event.stepIndex = run.stepIndex := by
    rw [built]
    simp [buildEvent, noStep]
  have runsAfter : Table.update AgentRun.id run.id
      (fun row => { row with stepIndex := max row.stepIndex event.stepIndex })
      (Table.update AgentRun.id run.id
        (fun row => { row with nextRunSequence := run.nextRunSequence + 1 })
        (before.runs ++ [run])) = before.runs ++ [{ run with nextRunSequence := 1 }] := by
    rw [Table.update_update, Table.update_append_new newRun rfl, stepIndex, unnumbered]
    · simp
    · exact fun _ => rfl
  refine ⟨event, by rw [built]; rfl, by rw [built]; rfl, ?_⟩
  have finalEq : after = before.startRun run (owner.nextEventSequence + 1) event := by
    rw [final, Database.startRun, ← runsAfter]
    rfl
  rw [← finalEq]
  exact appended

theorem insertRun_new {run : AgentRun} (new : ∀ other ∈ before.runs, other.id ≠ run.id) :
    (insertRun run).Returns before () { before with runs := before.runs ++ [run] } := by
  rw [insertRun, returns_readsId_bind]
  apply returns_of_refuseWhen (by simpa using new)
  exact returns_modify.mpr rfl

/-- The run that `AgentRunStore.create` starts for a message. -/
def startedRun (identity : ProviderIdentity) (draws : MessageDraws) (ticket : SupportTicket) :
    AgentRun where
  id := draws.runId
  tenantId := ticket.tenantId
  ticketId := ticket.id
  customerId := ticket.customerId
  messageId := draws.messageId
  model := identity.model
  providerMode := identity.providerMode
  toolCallMode := identity.toolCallMode
  contextVersion := contextVersion

theorem createRun_new (identity : ProviderIdentity) {draws : MessageDraws}
    {owner : SupportTicket} {message : TicketMessage} (log : EventLogInvariant before)
    (found : Table.find SupportTicket.id before.tickets ticket.id = some owner)
    (customer : owner.customerId = ticket.customerId) (tenant : owner.tenantId = ticket.tenantId)
    (counter : owner.nextEventSequence = (before.ticketLog ticket.id).length)
    (messageFound : (before.messages.find? fun message =>
      message.id = draws.messageId && message.ticketId = ticket.id) = some message)
    (messageTenant : message.tenantId = ticket.tenantId)
    (newRun : ∀ run ∈ before.runs, run.id ≠ draws.runId)
    (unstarted : ∀ run ∈ before.runs, run.messageId ≠ draws.messageId)
    (newEvent : ∀ event ∈ before.events, event.id ≠ draws.eventId)
    (storable : (storedPayload? redactPii draws.startedPayload).isSome) :
    ∃ event : AgentEvent, event.id = draws.eventId ∧ event.ticketId = ticket.id ∧
      (createRun redactPii draws.toDraws ticket (customerTurn identity draws ticket)
        identity.model identity.providerMode identity.toolCallMode).Returns before draws.runId
        (before.startRun (startedRun identity draws ticket) (owner.nextEventSequence + 1)
          event) ∧
      EventLogInvariant (before.startRun (startedRun identity draws ticket)
        (owner.nextEventSequence + 1) event) := by
  have first := appendEvent_first
    { runId := draws.runId
      eventType := "run_started"
      visibility := "customer"
      payload := draws.startedPayload
      eventId := draws.eventId
      now := draws.now }
    (startedRun identity draws ticket) log newRun rfl rfl found counter newEvent rfl rfl rfl rfl
    rfl storable
  rcases first with ⟨event, eventId, ticketId, appended⟩
  refine ⟨event, eventId, ticketId, ?_, (log.insertRun newRun).append redactPii appended⟩
  have ownerFound : (before.tickets.find? fun other =>
      other.id = ticket.id && other.customerId = ticket.customerId) = some owner :=
    Table.find?_and_of_find found customer
  rw [createRun, returns_readsId_bind]
  apply returns_of_require messageFound
  apply returns_of_require ownerFound
  apply returns_of_refuseWhen (by simp [messageTenant, tenant])
  split
  · rename_i existing taken
    have started := List.find?_some taken
    exact absurd (of_decide_eq_true started)
      (unstarted existing (List.mem_of_find?_eq_some taken))
  · rw [tenant]
    apply returns_of_bind (insertRun_new newRun)
    apply returns_of_bind (returns_mapError.mpr appended)
    exact returns_pure.mpr ⟨rfl, rfl⟩

theorem insertJob_new {job : RuntimeJob} (new : ∀ other ∈ before.jobs, other.id ≠ job.id) :
    (insertJob job).Returns before () { before with jobs := before.jobs ++ [job] } := by
  rw [insertJob, returns_readsId_bind]
  apply returns_of_refuseWhen (by simpa using new)
  exact returns_modify.mpr rfl

/-- The job of a message, with the time of the database. -/
def startJob (draws : MessageDraws) (ticket : SupportTicket) (clock : Instant) : RuntimeJob where
  id := draws.jobId
  tenantId := ticket.tenantId
  ticketId := ticket.id
  runId := draws.runId
  dispatchSequence := ticket.nextDispatchSequence + 1
  approvalId := none
  kind := .agentStart
  availableAt := clock
  createdAt := clock

theorem create_new {draws : MessageDraws} (owner : SupportTicket) (run : AgentRun)
    (runFound : Table.find AgentRun.id before.runs draws.runId = some run)
    (runTenant : run.tenantId = ticket.tenantId) (runTicket : run.ticketId = ticket.id)
    (found : Table.find SupportTicket.id before.tickets ticket.id = some owner)
    (tenant : owner.tenantId = ticket.tenantId) (sameId : owner.id = ticket.id)
    (counter : owner.nextDispatchSequence = ticket.nextDispatchSequence)
    (newJob : ∀ job ∈ before.jobs, job.id ≠ draws.jobId) :
    (create
      { tenantId := ticket.tenantId
        runId := draws.runId
        kind := "agent_start"
        jobId := some draws.jobId
        ticketId := some ticket.id
        drawnId := draws.jobId }).Returns before (startJob draws ticket before.clock)
      { before with
        tickets := Table.update SupportTicket.id ticket.id
          (fun row => { row with nextDispatchSequence := row.nextDispatchSequence + 1 })
          before.tickets
        jobs := before.jobs ++ [startJob draws ticket before.clock] } := by
  have runOf : before.runOf? ticket.tenantId draws.runId = some run := by
    simp [Database.runOf?, runFound, runTenant]
  have ticketOf : before.ticketOf? ticket.tenantId run.ticketId = some owner := by
    simp [Database.ticketOf?, runTicket, found, tenant]
  have kind : JobKind.ofText? "agent_start" = some .agentStart := rfl
  rw [create, returns_readsId_bind]
  apply returns_of_require kind
  apply returns_of_refuseWhen (by simp)
  apply returns_of_refuseWhen (by simp)
  apply returns_of_require runOf
  apply returns_of_refuseWhen (by simp [runTicket])
  apply returns_of_refuseWhen (by simp)
  apply returns_of_require ticketOf
  have identifier : JobRequest.identifier
      { tenantId := ticket.tenantId
        runId := draws.runId
        kind := "agent_start"
        jobId := some draws.jobId
        ticketId := some ticket.id
        drawnId := draws.jobId } = draws.jobId := by
    simp [JobRequest.identifier]
  rw [identifier, dispatchJob, returns_modify_bind, sameId, counter]
  apply returns_of_bind (insertJob_new (by exact newJob))
  exact returns_pure.mpr ⟨rfl, rfl⟩

theorem insertOutbox_new {event : OutboxEvent}
    (new : ∀ other ∈ before.outbox, other.id ≠ event.id ∧ other.deliveryId ≠ event.deliveryId ∧
      other.jobId ≠ event.jobId) :
    (insertOutbox event).Returns before () { before with outbox := before.outbox ++ [event] } := by
  rw [insertOutbox, returns_readsId_bind]
  apply returns_of_refuseWhen (by simpa using fun other member => (new other member).1)
  apply returns_of_refuseWhen (by simpa using fun other member => (new other member).2.1)
  apply returns_of_refuseWhen (by simpa using fun other member => (new other member).2.2)
  exact returns_modify.mpr rfl

/-! ## The rows of a new message -/

section Rows

variable (identity : ProviderIdentity) (draws : MessageDraws) (request : MessageRequest)

def acceptedMessage (ticket : SupportTicket) : TicketMessage :=
  { recordedMessage draws ticket with runId := some draws.runId }

def acceptedTurn (ticket : SupportTicket) : ConversationTurn :=
  { customerTurn identity draws ticket with runId := some draws.runId }

def acceptedRun (ticket : SupportTicket) : AgentRun :=
  { startedRun identity draws ticket with
    nextRunSequence := 1
    status := "queued"
    turnId := some draws.turnId }

def acceptedOutbox (ticket : SupportTicket) : OutboxEvent where
  id := draws.outboxId
  deliveryId := draws.deliveryId
  tenantId := ticket.tenantId
  jobId := draws.jobId
  runId := draws.runId
  eventType := "runtime_job_available"
  traceparent := request.traceId

/-- The request of a message with its redacted text, as it is kept. -/
def messageRecord (ticket : SupportTicket) (text : String) : IdempotencyRequest where
  scope := request.scope ticket
  requestHash := canonicalRequestHash (messagePayload text)
  resourceIds := messageResources draws ticket
  responseSnapshot := messageSnapshot draws ticket

/-- The counters of a ticket behind a message. -/
def admittedTicket (row : SupportTicket) : SupportTicket :=
  { row with
    nextMessageSequence := row.nextMessageSequence + 1
    nextEventSequence := row.nextEventSequence + 1
    nextDispatchSequence := row.nextDispatchSequence + 1
    status := "queued"
    version := row.version + 1 }

/-- The response to a message. -/
def acceptedCommand (ticket : SupportTicket) : CommandAccepted where
  ticketId := ticket.id
  runId := some draws.runId
  jobId := some draws.jobId
  acceptedAt := draws.acceptedAt
  reused := false

end Rows

/-- The database once the request and the message are on record. -/
def Database.recorded (database : Database) (identity : ProviderIdentity) (draws : MessageDraws)
    (request : MessageRequest) (ticket : SupportTicket) (text : String) : Database :=
  { database with
    idempotency := database.idempotency ++ [messageRecord draws request ticket text]
    tickets := Table.update SupportTicket.id ticket.id recordedTicket database.tickets
    messages := database.messages ++ [recordedMessage draws ticket]
    turns := database.turns ++ [customerTurn identity draws ticket] }

theorem logView_recorded (identity : ProviderIdentity) (draws : MessageDraws)
    (request : MessageRequest) (text : String) :
    (before.recorded identity draws request ticket text).logView = before.logView := by
  simp only [Database.logView, Database.recorded, Prod.mk.injEq, true_and, and_true]
  funext ticketId
  exact Table.map_find_update (fun _ => rfl) fun _ => rfl

theorem recordedMessage_found {draws : MessageDraws} (fresh : Fresh before draws) :
    ((before.messages ++ [recordedMessage draws ticket]).find? fun message =>
      message.id = draws.messageId && message.ticketId = ticket.id) =
        some (recordedMessage draws ticket) := by
  have named : Table.find TicketMessage.id (before.messages ++ [recordedMessage draws ticket])
      draws.messageId = some (recordedMessage draws ticket) :=
    Table.find_append_new fresh.messages
  exact Table.find?_and_of_find named rfl

theorem createRun_recorded {identity : ProviderIdentity} {draws : MessageDraws}
    (request : MessageRequest) (text : String) (takes : TakesMessages before ticket)
    (fresh : Fresh before draws)
    (storable : (storedPayload? redactPii draws.startedPayload).isSome) :
    ∃ event : AgentEvent, event.id = draws.eventId ∧ event.ticketId = ticket.id ∧
      (createRun redactPii draws.toDraws ticket (customerTurn identity draws ticket)
        identity.model identity.providerMode identity.toolCallMode).Returns
        (before.recorded identity draws request ticket text) draws.runId
        ((before.recorded identity draws request ticket text).startRun
          (startedRun identity draws ticket) (ticket.nextEventSequence + 1) event) ∧
      EventLogInvariant ((before.recorded identity draws request ticket text).startRun
        (startedRun identity draws ticket) (ticket.nextEventSequence + 1) event) := by
  have log : EventLogInvariant (before.recorded identity draws request ticket text) :=
    takes.log.of_logView (logView_recorded identity draws request text)
  have found : Table.find SupportTicket.id
      (before.recorded identity draws request ticket text).tickets ticket.id =
        some (recordedTicket ticket) := by
    apply Table.find_update_of_find _ takes.found
    exact fun _ => rfl
  have newRun : ∀ run ∈ before.runs, run.id ≠ draws.runId :=
    fun run member => (fresh.runs run member).1
  have unstarted : ∀ run ∈ before.runs, run.messageId ≠ draws.messageId :=
    fun run member => (fresh.runs run member).2.1
  have created := createRun_new identity log found rfl rfl takes.events
    (recordedMessage_found fresh) rfl newRun unstarted fresh.events storable
  exact created

theorem checkPairing_new {turnId runId : String}
    (alone : ∀ run ∈ before.runs, run.id ≠ runId → run.turnId ≠ some turnId)
    (single : ∀ turn ∈ before.turns, turn.id ≠ turnId → turn.runId ≠ some runId) :
    (checkPairing turnId runId).Returns before () before := by
  rw [checkPairing, returns_readsId_bind]
  apply returns_of_refuseWhen (by simpa using alone)
  exact returns_refuseWhen.mpr ⟨by simpa using single, rfl⟩

theorem checkDispatchSequence_new {job : RuntimeJob}
    (free : ∀ other ∈ before.jobs, other.id ≠ job.id → other.ticketId = job.ticketId →
      other.dispatchSequence ≠ job.dispatchSequence) :
    (checkDispatchSequence job).Returns before () before := by
  rw [checkDispatchSequence, returns_readsId_bind]
  apply returns_refuseWhen.mpr ⟨_, rfl⟩
  simp only [List.any_eq_true, Bool.and_eq_true, decide_eq_true_eq, not_exists, not_and]
  intro other member distinct
  exact free other member distinct.1.1 distinct.2

/-- The database behind a message, in one piece. -/
def Database.admitted (database : Database) (identity : ProviderIdentity) (draws : MessageDraws)
    (request : MessageRequest) (ticket : SupportTicket) (text : String) (event : AgentEvent) :
    Database :=
  { database with
    messages := database.messages ++ [acceptedMessage draws ticket]
    turns := database.turns ++ [acceptedTurn identity draws ticket]
    runs := database.runs ++ [acceptedRun identity draws ticket]
    jobs := database.jobs ++ [startJob draws ticket database.clock]
    outbox := database.outbox ++ [acceptedOutbox draws request ticket]
    events := database.events ++ [event]
    idempotency := database.idempotency ++ [messageRecord draws request ticket text]
    tickets := Table.update SupportTicket.id ticket.id
      (fun row => { admittedTicket row with nextEventSequence := ticket.nextEventSequence + 1 })
      database.tickets }

theorem runs_bound (identity : ProviderIdentity) {draws : MessageDraws}
    (fresh : Fresh before draws) :
    Table.update AgentRun.id draws.runId
      (fun row =>
        { row with
          tenantId := ticket.tenantId
          status := "queued"
          turnId := some draws.turnId })
      (before.runs ++ [{ startedRun identity draws ticket with nextRunSequence := 1 }]) =
        before.runs ++ [acceptedRun identity draws ticket] :=
  Table.update_append_new (fun run member => (fresh.runs run member).1) rfl

theorem tickets_bound (tickets : List SupportTicket) :
    Table.update SupportTicket.id ticket.id
      (fun row => { row with nextDispatchSequence := row.nextDispatchSequence + 1 })
      (Table.update SupportTicket.id ticket.id
        (fun row => { row with nextEventSequence := ticket.nextEventSequence + 1 })
        (Table.update SupportTicket.id ticket.id recordedTicket tickets)) =
      Table.update SupportTicket.id ticket.id
        (fun row => { admittedTicket row with nextEventSequence := ticket.nextEventSequence + 1 })
        tickets := by
  rw [Table.update_update, Table.update_update]
  · rfl
  · exact fun _ => rfl
  · exact fun _ => rfl

theorem logView_admitted (identity : ProviderIdentity) {draws : MessageDraws}
    (request : MessageRequest) (text : String) (event : AgentEvent) (fresh : Fresh before draws) :
    (before.admitted identity draws request ticket text event).logView =
      ((before.recorded identity draws request ticket text).startRun
        (startedRun identity draws ticket) (ticket.nextEventSequence + 1) event).logView := by
  simp only [Database.logView, Database.admitted, Database.startRun, Database.recorded,
    Prod.mk.injEq, true_and]
  constructor
  · funext ticketId
    rw [← tickets_bound]
    exact Table.map_find_update (fun _ => rfl) fun _ => rfl
  · funext runId
    rw [← runs_bound identity fresh]
    exact Table.map_find_update (fun _ => rfl) fun _ => rfl

theorem scheduleTurn_new {identity : ProviderIdentity} {draws : MessageDraws}
    {request : MessageRequest} {text : String} (takes : TakesMessages before ticket)
    (fresh : Fresh before draws)
    (storable : (storedPayload? redactPii draws.startedPayload).isSome) :
    ∃ event : AgentEvent, event.id = draws.eventId ∧ event.ticketId = ticket.id ∧
      (scheduleTurn redactPii identity draws request ticket).Returns
        (before.recorded identity draws request ticket text) (acceptedCommand draws ticket)
        (before.admitted identity draws request ticket text event) ∧
      EventLogInvariant (before.admitted identity draws request ticket text event) := by
  rcases createRun_recorded request text takes fresh storable with
    ⟨event, eventId, eventTicket, created, log⟩
  refine ⟨event, eventId, eventTicket, ?_,
    log.of_logView (logView_admitted identity request text event fresh)⟩
  have turnsBound : Table.update ConversationTurn.id draws.turnId
      (fun row => { row with runId := some draws.runId })
      (before.turns ++ [customerTurn identity draws ticket]) =
        before.turns ++ [acceptedTurn identity draws ticket] :=
    Table.update_append_new (fun turn member => (fresh.turns turn member).1) rfl
  have messagesBound : Table.update TicketMessage.id draws.messageId
      (fun row => { row with runId := some draws.runId })
      (before.messages ++ [recordedMessage draws ticket]) =
        before.messages ++ [acceptedMessage draws ticket] :=
    Table.update_append_new fresh.messages rfl
  have alone : ∀ run ∈ before.runs ++ [acceptedRun identity draws ticket],
      run.id ≠ draws.runId → run.turnId ≠ some draws.turnId := by
    intro run member other
    rcases List.mem_append.mp member with earlier | last
    · exact (fresh.runs run earlier).2.2
    · exact absurd (congrArg AgentRun.id (List.mem_singleton.mp last)) other
  have single : ∀ turn ∈ before.turns ++ [acceptedTurn identity draws ticket],
      turn.id ≠ draws.turnId → turn.runId ≠ some draws.runId := by
    intro turn member other
    rcases List.mem_append.mp member with earlier | last
    · exact (fresh.turns turn earlier).2.2
    · exact absurd (congrArg ConversationTurn.id (List.mem_singleton.mp last)) other
  have runFound : Table.find AgentRun.id
      (before.runs ++ [acceptedRun identity draws ticket]) draws.runId =
        some (acceptedRun identity draws ticket) :=
    Table.find_append_new fun run member => (fresh.runs run member).1
  have found : Table.find SupportTicket.id
      (Table.update SupportTicket.id ticket.id
        (fun row => { row with nextEventSequence := ticket.nextEventSequence + 1 })
        (Table.update SupportTicket.id ticket.id recordedTicket before.tickets)) ticket.id =
        some { recordedTicket ticket with
          nextEventSequence := ticket.nextEventSequence + 1 } := by
    apply Table.find_update_of_find
    · exact fun _ => rfl
    · apply Table.find_update_of_find _ takes.found
      exact fun _ => rfl
  have free : ∀ other ∈ before.jobs ++ [startJob draws ticket before.clock],
      other.id ≠ draws.jobId → other.ticketId = ticket.id →
      other.dispatchSequence ≠ ticket.nextDispatchSequence + 1 := by
    intro other member distinct inTicket taken
    rcases List.mem_append.mp member with earlier | last
    · have bound := takes.jobs other earlier inTicket
      omega
    · exact distinct (congrArg RuntimeJob.id (List.mem_singleton.mp last))
  rw [scheduleTurn]
  apply returns_of_bind created
  rw [returns_modify_bind, returns_modify_bind, returns_modify_bind]
  simp only [Database.updateRun, Database.updateTurn, Database.updateMessage,
    Database.startRun, Database.recorded]
  rw [runs_bound identity fresh, turnsBound, messagesBound]
  apply returns_of_bind (checkPairing_new (by exact alone) (by exact single))
  apply returns_of_bind (create_new
    { recordedTicket ticket with nextEventSequence := ticket.nextEventSequence + 1 }
    (acceptedRun identity draws ticket) (by exact runFound) rfl rfl (by exact found) rfl rfl rfl
    (by exact fresh.jobs))
  apply returns_of_bind (checkDispatchSequence_new (by exact free))
  apply returns_of_bind (insertOutbox_new (by exact fresh.outbox))
  apply returns_pure.mpr ⟨rfl, _⟩
  rw [Database.admitted, ← tickets_bound]
  rfl

/-- The ticket takes messages as before, and its counters are ahead of the new rows. -/
theorem TakesMessages.admitted {identity : ProviderIdentity} {draws : MessageDraws}
    {request : MessageRequest} {text : String} {event : AgentEvent}
    (takes : TakesMessages before ticket) (eventTicket : event.ticketId = ticket.id)
    (log : EventLogInvariant (before.admitted identity draws request ticket text event)) :
    TakesMessages (before.admitted identity draws request ticket text event)
      (admittedTicket ticket) where
  found := by
    apply Table.find_update_of_find _ takes.found
    exact fun _ => rfl
  active := takes.active
  agent := takes.agent
  log := log
  events := by
    have longer : (before.admitted identity draws request ticket text event).ticketLog ticket.id =
        before.ticketLog ticket.id ++ if event.ticketId = ticket.id then [event] else [] :=
      ticketLog_append rfl ticket.id
    have counter := takes.events
    simp only [admittedTicket]
    rw [longer, if_pos eventTicket, List.length_append, List.length_singleton]
    omega
  messages := by
    intro message member inTicket sequence numbered
    simp only [admittedTicket]
    rcases List.mem_append.mp member with earlier | last
    · have bound := takes.messages message earlier inTicket sequence numbered
      omega
    · rw [List.mem_singleton.mp last] at numbered
      cases numbered
      exact Int.le_refl _
  turns := by
    intro turn member inTicket
    simp only [admittedTicket]
    rcases List.mem_append.mp member with earlier | last
    · have bound := takes.turns turn earlier inTicket
      omega
    · rw [List.mem_singleton.mp last]
      exact Int.le_refl _
  jobs := by
    intro job member inTicket
    simp only [admittedTicket]
    rcases List.mem_append.mp member with earlier | last
    · have bound := takes.jobs job earlier inTicket
      omega
    · rw [List.mem_singleton.mp last]
      exact Nat.le_refl _

end Parts

/-! ## Calls -/

/-- A call of `accept_message`, in a process with its provider and at a time of the
database. -/
structure MessageCall where
  identity : ProviderIdentity
  draws : MessageDraws
  request : MessageRequest
  clock : Instant

/-- Who sent a message, and under which key. -/
def MessageCall.sender (call : MessageCall) : String × String :=
  (call.request.principalId, call.request.idempotencyKey)

def Database.at (database : Database) (clock : Instant) : Database :=
  { database with clock }

section Calls

variable (redactPii : PyText → PyText)

def MessageCall.text (call : MessageCall) : String :=
  (PyText.encode? (redactPii (PyText.ofString call.request.message))).getD ""

/-- The bytes that stand for the request in its hash. -/
def MessageCall.hashed (call : MessageCall) : List UInt8 :=
  JsonText.utf8 (JsonText.encode (messagePayload (call.text redactPii)))

/-- A call is a transaction of its own. -/
def MessageCall.perform (call : MessageCall) (database : Database) :
    Except RuntimeRaise CommandAccepted × Database :=
  atomically
    (CommandCoordinator.acceptMessage redactPii call.identity call.draws call.request)
    (database.at call.clock)

/-- The database behind a run of calls. -/
def Database.receive (database : Database) (calls : List MessageCall) : Database :=
  calls.foldl (fun database call => (call.perform redactPii database).2) database

/-- What a call relies on: its identifiers are not empty, the day after it is a date, the
redacted text has an encoding, and what describes its run can be stored. -/
structure MessageCall.Served (call : MessageCall) : Prop where
  runId : call.draws.runId ≠ ""
  jobId : call.draws.jobId ≠ ""
  expires : (call.draws.acceptedAt.add? microsecondsPerDay).isSome
  encodable : (PyText.encode? (redactPii (PyText.ofString call.request.message))).isSome
  storable : (storedPayload? redactPii call.draws.startedPayload).isSome

/-- No identifier is drawn twice. -/
structure MessageDraws.Apart (left right : MessageDraws) : Prop where
  messageId : left.messageId ≠ right.messageId
  turnId : left.turnId ≠ right.turnId
  runId : left.runId ≠ right.runId
  jobId : left.jobId ≠ right.jobId
  eventId : left.eventId ≠ right.eventId
  outboxId : left.outboxId ≠ right.outboxId
  deliveryId : left.deliveryId ≠ right.deliveryId

variable {redactPii} {before : Database} {ticket : SupportTicket} {call : MessageCall}

theorem MessageCall.Served.encoded (served : call.Served redactPii) :
    PyText.encode? (redactPii (PyText.ofString call.request.message)) =
      some (call.text redactPii) := by
  rcases Option.isSome_iff_exists.mp served.encodable with ⟨text, encoded⟩
  rw [MessageCall.text, encoded, Option.getD_some]

theorem TakesMessages.at (takes : TakesMessages before ticket) (clock : Instant) :
    TakesMessages (before.at clock) ticket where
  found := takes.found
  active := takes.active
  agent := takes.agent
  log := takes.log.of_logView rfl
  events := takes.events
  messages := takes.messages
  turns := takes.turns
  jobs := takes.jobs

/-- A first message of a sender is accepted. -/
theorem acceptMessage_new (takes : TakesMessages before ticket)
    (fresh : Fresh before call.draws) (served : call.Served redactPii)
    (ticketId : call.request.ticketId = ticket.id)
    (customer : call.request.customerId = ticket.customerId)
    (unknown : Table.find IdempotencyRequest.scope before.idempotency
      (call.request.scope ticket) = none) :
    ∃ event : AgentEvent, event.id = call.draws.eventId ∧
      (CommandCoordinator.acceptMessage redactPii call.identity call.draws call.request).Returns
        before (acceptedCommand call.draws ticket)
        (before.admitted call.identity call.draws call.request ticket (call.text redactPii)
          event) ∧
      TakesMessages
        (before.admitted call.identity call.draws call.request ticket (call.text redactPii) event)
        (admittedTicket ticket) := by
  rcases scheduleTurn_new takes fresh served.storable with
    ⟨event, eventId, eventTicket, scheduled, log⟩
  refine ⟨event, eventId, ?_, takes.admitted eventTicket log⟩
  have found : (Table.find SupportTicket.id before.tickets call.request.ticketId).filter
      (fun row => row.customerId = call.request.customerId) = some ticket := by
    simp [ticketId, takes.found, customer]
  rcases Option.isSome_iff_exists.mp served.expires with ⟨expiresAt, expires⟩
  rw [CommandCoordinator.acceptMessage, returns_readsId_bind]
  apply returns_of_require found
  apply returns_of_require expires
  apply returns_of_require served.encoded
  apply returns_of_bind (accept_new unknown)
  simp only [Bool.false_eq_true, if_false]
  apply returns_of_refuseWhen (by simp [takes.active])
  apply returns_of_bind (recordMessage_new takes.schedules (by exact fresh.messages)
    (by exact fun turn member => (fresh.turns turn member).1)
    (by exact fun turn member => (fresh.turns turn member).2.1) (by exact takes.messages)
    (by exact takes.turns))
  rw [if_pos takes.schedules]
  exact scheduled

theorem ticket_owned (found : Table.find SupportTicket.id before.tickets ticket.id = some ticket)
    (ticketId : call.request.ticketId = ticket.id) :
    (Table.find SupportTicket.id before.tickets call.request.ticketId).filter
        (fun row => row.customerId = call.request.customerId) =
      if call.request.customerId = ticket.customerId then some ticket else none := by
  by_cases customer : call.request.customerId = ticket.customerId
  · simp [ticketId, found, customer]
  · simp [ticketId, found, customer, Ne.symm customer]

/-- The same request again. -/
theorem acceptMessage_same {record : IdempotencyRequest} {response : CommandAccepted}
    (found : Table.find SupportTicket.id before.tickets ticket.id = some ticket)
    (served : call.Served redactPii) (ticketId : call.request.ticketId = ticket.id)
    (customer : call.request.customerId = ticket.customerId)
    (known : Table.find IdempotencyRequest.scope before.idempotency
      (call.request.scope ticket) = some record)
    (same : record.requestHash = canonicalRequestHash (messagePayload (call.text redactPii)))
    (replayed : acceptedFromRecord record = .ok response) :
    (CommandCoordinator.acceptMessage redactPii call.identity call.draws call.request).Returns
      before response before := by
  have owned := ticket_owned found ticketId
  rw [if_pos customer] at owned
  rcases Option.isSome_iff_exists.mp served.expires with ⟨expiresAt, expires⟩
  have accepted : (IdempotencyRepository.accept (call.request.scope ticket)
      (messagePayload (call.text redactPii)) (messageResources call.draws ticket)
      (messageSnapshot call.draws ticket)).Returns before { record, reused := true } before := by
    rw [IdempotencyRepository.accept, returns_readsId_bind, known]
    apply returns_of_refuseWhen (by simp [same])
    exact returns_pure.mpr ⟨rfl, rfl⟩
  rw [CommandCoordinator.acceptMessage, returns_readsId_bind]
  apply returns_of_require owned
  apply returns_of_require expires
  apply returns_of_require served.encoded
  apply returns_of_bind accepted
  exact returns_ofExcept.mpr ⟨replayed, rfl⟩

/-- Another request under the same key. -/
theorem acceptMessage_other {record : IdempotencyRequest}
    (found : Table.find SupportTicket.id before.tickets ticket.id = some ticket)
    (served : call.Served redactPii) (ticketId : call.request.ticketId = ticket.id)
    (customer : call.request.customerId = ticket.customerId)
    (known : Table.find IdempotencyRequest.scope before.idempotency
      (call.request.scope ticket) = some record)
    (other : record.requestHash ≠ canonicalRequestHash (messagePayload (call.text redactPii))) :
    (CommandCoordinator.acceptMessage redactPii call.identity call.draws call.request).Raises
      before (.runtimeConflict "idempotency_conflict") before := by
  have owned := ticket_owned found ticketId
  rw [if_pos customer] at owned
  rcases Option.isSome_iff_exists.mp served.expires with ⟨expiresAt, expires⟩
  have refused : (IdempotencyRepository.accept (call.request.scope ticket)
      (messagePayload (call.text redactPii)) (messageResources call.draws ticket)
      (messageSnapshot call.draws ticket)).Raises before
        (.runtimeConflict "idempotency_conflict") before := by
    apply raises_of_bind (returns_reads.mpr ⟨rfl, rfl⟩)
    simp only [id, known]
    exact bind_of_error (raises_refuseWhen.mpr ⟨other, rfl, rfl⟩)
  apply raises_of_bind (returns_reads.mpr ⟨rfl, rfl⟩)
  apply raises_of_bind (returns_require.mpr ⟨owned, rfl⟩)
  apply raises_of_bind (returns_require.mpr ⟨expires, rfl⟩)
  apply raises_of_bind (returns_require.mpr ⟨served.encoded, rfl⟩)
  exact bind_of_error refused

/-- The request of another customer. -/
theorem acceptMessage_foreign
    (found : Table.find SupportTicket.id before.tickets ticket.id = some ticket)
    (ticketId : call.request.ticketId = ticket.id)
    (customer : call.request.customerId ≠ ticket.customerId) :
    (CommandCoordinator.acceptMessage redactPii call.identity call.draws call.request).Raises
      before (.runtimeConflict "ticket_not_found") before := by
  have owned := ticket_owned found ticketId
  rw [if_neg customer] at owned
  apply raises_of_bind (returns_reads.mpr ⟨rfl, rfl⟩)
  exact bind_of_error (raises_require.mpr ⟨owned, rfl, rfl⟩)

/-- The response of a message that was accepted before. -/
def replayedCommand (draws : MessageDraws) (ticket : SupportTicket) : CommandAccepted :=
  { acceptedCommand draws ticket with reused := true }

theorem acceptedFromRecord_messageRecord {draws : MessageDraws} {request : MessageRequest}
    {text : String} (scheduled : ticket.schedules = true) (runId : draws.runId ≠ "")
    (jobId : draws.jobId ≠ "") :
    acceptedFromRecord (messageRecord draws request ticket text) =
      .ok (replayedCommand draws ticket) := by
  have snapshot : (messageRecord draws request ticket text).responseSnapshot =
      messageSnapshot draws ticket := rfl
  simp only [acceptedFromRecord, snapshot, messageSnapshot, scheduled, if_true, snapshotText,
    snapshotInstant, snapshotPresent?, List.lookup_cons]
  simp [parseCanonicalUtcTimestamp_isoformat, SnapshotValue.str, runId, jobId, replayedCommand,
    acceptedCommand, bind, Except.bind]

end Calls

end SupportGuard
