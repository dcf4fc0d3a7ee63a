import SupportGuard.Agent.EventChain
import SupportGuard.Agent.SafePayload
import SupportGuard.Foundation.Program
import SupportGuard.Foundation.Run

/-! # Appending events

`AgentRunStore.append_event`: one event is added behind the current head of its
ticket and of its run. -/

namespace SupportGuard

open Foundation Program

/-! ## The operation -/

structure WorkerExecutionContext where
  tenantId : String
  ticketId : String
  runId : String
  jobId : String
  deliveryGeneration : Int
  fencingToken : Int

/-- The arguments of a call, the worker context it runs in, and the id and the
time it draws. An expectation that is not given is not checked. -/
structure EventRequest where
  runId : String
  eventType : String
  payload : PyValue
  visibility : String := "internal"
  status : String := "completed"
  toolCallId : Option String := none
  stepIndex : Option Int := none
  toolRound : Option Int := none
  idempotencyId : Option String := none
  expectedTicketHeadEventId : Option (Option String) := none
  expectedTicketSequence : Option Int := none
  expectedTicketEventHash : Option (Option String) := none
  worker : Option WorkerExecutionContext := none
  eventId : String
  now : Instant

namespace Database

def ticketLog (database : Database) (ticketId : String) : List AgentEvent :=
  database.events.filter fun event => event.ticketId = ticketId

def runLog (database : Database) (runId : String) : List AgentEvent :=
  database.events.filter fun event => event.runId = runId

def updateTicket (database : Database) (ticketId : String)
    (change : SupportTicket → SupportTicket) : Database :=
  { database with tickets := Table.update SupportTicket.id ticketId change database.tickets }

def updateRun (database : Database) (runId : String) (change : AgentRun → AgentRun) :
    Database :=
  { database with runs := Table.update AgentRun.id runId change database.runs }

end Database

/-- The unique constraints of the event table. -/
def eventConflict (events : List AgentEvent) (event : AgentEvent) : Option String :=
  if events.any fun other => other.id = event.id then some "agent_events_pkey"
  else if events.any fun other =>
      other.runId = event.runId && other.runSequence = event.runSequence then
    some "uq_agent_event_run_sequence_v12"
  else if events.any fun other =>
      other.ticketId = event.ticketId && other.ticketSequence = event.ticketSequence then
    some "uq_agent_event_ticket_sequence_v12"
  else none

/-- Add the hash of an event whose parent hash is set. -/
def sealEvent (unhashed : AgentEvent) : Except EventRaise AgentEvent := do
  let hash ← eventHash unhashed unhashed.parentEventHash
  .ok { unhashed with eventHash := hash }

def insertEvent (event : AgentEvent) : Program Database EventRaise Unit := do
  let database ← reads id
  match eventConflict database.events event with
  | some constraint => raise (.integrityError constraint)
  | none => modify fun database => { database with events := database.events ++ [event] }

/-- The event a call builds, apart from its own hash. -/
def buildEvent (request : EventRequest) (run : AgentRun) (parent : Option AgentEvent)
    (payload : JsonDocument) (ticketSequence runSequence : Int) : AgentEvent where
  id := request.eventId
  tenantId := run.tenantId
  runId := run.id
  ticketId := run.ticketId
  customerId := run.customerId
  sequence := runSequence
  ticketSequence := ticketSequence
  runSequence := runSequence
  stepIndex := request.stepIndex.getD run.stepIndex
  toolRound := request.toolRound.getD run.toolRounds
  eventType := request.eventType
  status := request.status
  visibility := request.visibility
  toolCallId := request.toolCallId
  payload := payload
  payloadHash := eventPayloadHash payload.value
  previousEventId := parent.bind fun event =>
    if event.runId = run.id then some event.id else none
  parentEventHash := (parent.map AgentEvent.eventHash).getD genesisEventHash
  eventHash := ""
  eventSchemaVersion := eventSchemaVersion
  canonicalizationVersion := canonicalizationVersion
  eventHashSchemaVersion := eventHashSchemaVersion
  correlationId := run.id
  causationId := parent.map AgentEvent.id
  idempotencyId := request.idempotencyId
  jobId := request.worker.map WorkerExecutionContext.jobId
  deliveryGeneration := request.worker.map WorkerExecutionContext.deliveryGeneration
  fencingToken := request.worker.map WorkerExecutionContext.fencingToken
  createdAt := ⟨request.now, some ⟨0, UtcOffset.utc_bounded⟩⟩

section

variable (redactPii : PyText → PyText)

/-- The payload that is stored; none when it cannot be encoded. -/
def storedPayload? (payload : PyValue) : Option JsonDocument :=
  match encoded : payloadJson? (safePayload redactPii none payload) with
  | some value => some ⟨value,
      payloadJson?_uniqueKeys encoded (safePayload_uniqueKeys redactPii none payload)⟩
  | none => none

/-- The caller's run object is the session's, so re-reading the locked row
refreshes it; both are `run` here. -/
def appendEvent (request : EventRequest) : Program Database EventRaise AgentEvent := do
  let database ← reads id
  let run ← require (Table.find AgentRun.id database.runs request.runId)
    (.runtimeError "event owner disappeared")
  let ticket ← require (Table.find SupportTicket.id database.tickets run.ticketId)
    (.runtimeError "event owner disappeared")
  let parent := Table.latest? AgentEvent.ticketSequence (database.ticketLog run.ticketId)
  let actualSequence := (parent.map AgentEvent.ticketSequence).getD 0
  refuseWhen (ticket.nextEventSequence ≠ actualSequence)
    (.canonicalEventHeadConflict "ticket_event_sequence_counter_conflict")
  refuseWhen (request.expectedTicketHeadEventId.any fun expected =>
      parent.map AgentEvent.id ≠ expected)
    (.canonicalEventHeadConflict "ticket_event_head_id_conflict")
  refuseWhen (request.expectedTicketSequence.any fun expected => actualSequence ≠ expected)
    (.canonicalEventHeadConflict "ticket_event_head_sequence_conflict")
  refuseWhen (request.expectedTicketEventHash.any fun expected =>
      parent.map AgentEvent.eventHash ≠ expected)
    (.canonicalEventHeadConflict "ticket_event_head_hash_conflict")
  let runParent := Table.latest? AgentEvent.runSequence (database.runLog run.id)
  refuseWhen (run.nextRunSequence ≠ (runParent.map AgentEvent.runSequence).getD 0)
    (.canonicalEventHeadConflict "run_event_sequence_counter_conflict")
  let ticketSequence := ticket.nextEventSequence + 1
  let runSequence := run.nextRunSequence + 1
  -- The counters move before the remaining checks, which may still raise.
  modify fun database => database.updateTicket run.ticketId fun ticket =>
    { ticket with nextEventSequence := ticketSequence }
  modify fun database => database.updateRun run.id fun run =>
    { run with nextRunSequence := runSequence }
  refuseWhen (request.worker.any fun worker =>
      worker.tenantId ≠ run.tenantId || worker.ticketId ≠ run.ticketId ||
        worker.runId ≠ run.id)
    (.runtimeError "worker event context does not match event aggregate")
  let payload ← require (storedPayload? redactPii request.payload) .unicodeEncodeError
  let event ← ofExcept (sealEvent
    (buildEvent request run parent payload ticketSequence runSequence))
  insertEvent event
  modify fun database => database.updateRun run.id fun run =>
    { run with stepIndex := max run.stepIndex event.stepIndex }
  pure event

/-! ## What a successful call does -/

variable {event : AgentEvent} {before after : Database}

theorem insertEvent_returns {result : Unit}
    (returned : (insertEvent event).Returns before result after) :
    after = { before with events := before.events ++ [event] } := by
  simp only [insertEvent, returns_bind, returns_reads, and_assoc, exists_and_left,
    exists_eq_left, id] at returned
  split at returned
  · exact absurd returned returns_raise
  · exact returns_modify.mp returned

variable {request : EventRequest}

/-- What a call that returned has read, built and written. -/
theorem appendEvent_returns
    (returned : (appendEvent redactPii request).Returns before event after) :
    ∃ run ticket payload,
      Table.find AgentRun.id before.runs request.runId = some run ∧
      Table.find SupportTicket.id before.tickets run.ticketId = some ticket ∧
      ticket.nextEventSequence = ((Table.latest? AgentEvent.ticketSequence
        (before.ticketLog run.ticketId)).map AgentEvent.ticketSequence).getD 0 ∧
      run.nextRunSequence = ((Table.latest? AgentEvent.runSequence
        (before.runLog run.id)).map AgentEvent.runSequence).getD 0 ∧
      sealEvent (buildEvent request run
        (Table.latest? AgentEvent.ticketSequence (before.ticketLog run.ticketId)) payload
        (ticket.nextEventSequence + 1) (run.nextRunSequence + 1)) = .ok event ∧
      after =
        { ((before.updateTicket run.ticketId fun row =>
              { row with nextEventSequence := ticket.nextEventSequence + 1 }).updateRun
            run.id fun row => { row with nextRunSequence := run.nextRunSequence + 1 }).updateRun
            run.id fun row => { row with stepIndex := max row.stepIndex event.stepIndex }
          with events := before.events ++ [event] } := by
  simp only [appendEvent, returns_bind, returns_reads, returns_require,
    returns_refuseWhen, returns_modify, returns_ofExcept, and_assoc, exists_and_left,
    exists_eq_left, exists_const, id, returns_pure, ne_eq, not_not] at returned
  rcases returned with ⟨run, runFound, ticket, ticketFound, ticketCounter, _, _, _,
    runCounter, _, payload, _, built, sealed, result, middle, inserted, equal, final⟩
  subst equal
  refine ⟨run, ticket, payload, runFound, ticketFound, ticketCounter, runCounter, sealed,
    ?_⟩
  rw [final, insertEvent_returns inserted]
  rfl

/-- An event of this moment is always sealed. -/
theorem sealEvent_buildEvent (request : EventRequest) (run : AgentRun)
    (parent : Option AgentEvent) (payload : JsonDocument) (ticketSequence runSequence : Int) :
    ∃ event, sealEvent (buildEvent request run parent payload ticketSequence runSequence) =
      .ok event := by
  have instant : canonicalCreatedAt
      (buildEvent request run parent payload ticketSequence runSequence).createdAt =
        .ok request.now.isoformat := by
    simp [canonicalCreatedAt, buildEvent, DateTime.instant?, Instant.add?_zero]
  simp only [sealEvent, eventHash, eventEnvelope, instant]
  exact ⟨_, rfl⟩

theorem insertEvent_succeeds {before : Database}
    (unique : eventConflict before.events event = none) :
    (insertEvent event).Returns before () { before with events := before.events ++ [event] } := by
  rw [insertEvent, returns_readsId_bind, unique]
  exact returns_modify.mpr rfl

/-- A call that expects nothing of the head of its ticket appends its event when the
counters agree with the logs, and the payload and the identifier can be stored. -/
theorem appendEvent_succeeds {before : Database} {run : AgentRun} {ticket : SupportTicket}
    {payload : JsonDocument}
    (runFound : Table.find AgentRun.id before.runs request.runId = some run)
    (ticketFound : Table.find SupportTicket.id before.tickets run.ticketId = some ticket)
    (ticketCounter : ticket.nextEventSequence = ((Table.latest? AgentEvent.ticketSequence
      (before.ticketLog run.ticketId)).map AgentEvent.ticketSequence).getD 0)
    (runCounter : run.nextRunSequence = ((Table.latest? AgentEvent.runSequence
      (before.runLog run.id)).map AgentEvent.runSequence).getD 0)
    (anyHead : request.expectedTicketHeadEventId = none)
    (anySequence : request.expectedTicketSequence = none)
    (anyHash : request.expectedTicketEventHash = none) (noWorker : request.worker = none)
    (stored : storedPayload? redactPii request.payload = some payload)
    (unique : ∀ event : AgentEvent, event.id = request.eventId → event.runId = run.id →
      event.ticketId = run.ticketId → event.runSequence = run.nextRunSequence + 1 →
      event.ticketSequence = ticket.nextEventSequence + 1 →
      eventConflict before.events event = none) :
    ∃ event after, (appendEvent redactPii request).Returns before event after := by
  rcases sealEvent_buildEvent request run
    (Table.latest? AgentEvent.ticketSequence (before.ticketLog run.ticketId)) payload
    (ticket.nextEventSequence + 1) (run.nextRunSequence + 1) with ⟨event, sealed⟩
  have free : eventConflict before.events event = none := by
    rcases Fallible.bind_eq_ok_iff.mp sealed with ⟨hash, _, built⟩
    cases built
    exact unique _ rfl rfl rfl rfl rfl
  apply Exists.intro event
  apply Exists.intro
  rw [appendEvent, returns_readsId_bind]
  apply returns_of_require runFound
  apply returns_of_require ticketFound
  apply returns_of_refuseWhen (by simpa using ticketCounter)
  apply returns_of_refuseWhen (by simp [anyHead])
  apply returns_of_refuseWhen (by simp [anySequence])
  apply returns_of_refuseWhen (by simp [anyHash])
  apply returns_of_refuseWhen (by simpa using runCounter)
  rw [returns_modify_bind, returns_modify_bind]
  apply returns_of_refuseWhen (by simp [noWorker])
  apply returns_of_require stored
  apply returns_of_ofExcept sealed
  apply returns_of_bind (insertEvent_succeeds (by exact free))
  rw [returns_modify_bind]
  exact returns_pure.mpr ⟨rfl, rfl⟩

/-! ## The logs stay well formed -/

/-- The state of the event tables after any number of appends: each ticket's log
verifies, each run's events are numbered from one, the counters of a ticket and
a run with events are the numbers last given out, and a run writes to one
ticket only. -/
structure EventLogInvariant (database : Database) : Prop where
  verified : ∀ ticketId, verifyEvents {} (database.ticketLog ticketId) =
    .ok (ChainCursor.behind {} (database.ticketLog ticketId))
  ticketCounter : ∀ ticketId ticket,
    Table.find SupportTicket.id database.tickets ticketId = some ticket →
    database.ticketLog ticketId ≠ [] →
    ticket.nextEventSequence = (database.ticketLog ticketId).length
  runNumbers : ∀ runId, (database.runLog runId).map AgentEvent.runSequence =
    Table.consecutive 1 (database.runLog runId).length
  runCounter : ∀ runId run, Table.find AgentRun.id database.runs runId = some run →
    database.runLog runId ≠ [] → run.nextRunSequence = (database.runLog runId).length
  runTicket : ∀ event ∈ database.events, ∃ run,
    Table.find AgentRun.id database.runs event.runId = some run ∧
      run.ticketId = event.ticketId

theorem EventLogInvariant.of_empty {database : Database} (empty : database.events = []) :
    EventLogInvariant database where
  verified ticketId := by simp [Database.ticketLog, empty, verifyEvents]
  ticketCounter ticketId ticket _ nonempty := by
    simp [Database.ticketLog, empty] at nonempty
  runNumbers runId := by simp [Database.runLog, empty, Table.consecutive]
  runCounter runId run _ nonempty := by simp [Database.runLog, empty] at nonempty
  runTicket event member := by simp [empty] at member

theorem EventLogInvariant.ticketNumbers {database : Database}
    (invariant : EventLogInvariant database) (ticketId : String) :
    (database.ticketLog ticketId).map AgentEvent.ticketSequence =
      Table.consecutive 1 (database.ticketLog ticketId).length :=
  (verifyEvents_ticketSequence (invariant.verified ticketId)).2

/-- The latest event of a ticket is the last one of its log. -/
theorem EventLogInvariant.latest_ticket {database : Database}
    (invariant : EventLogInvariant database) (ticketId : String) :
    Table.latest? AgentEvent.ticketSequence (database.ticketLog ticketId) =
      (database.ticketLog ticketId).getLast? :=
  Table.latest?_of_pairwise _
    (Table.pairwise_of_map_eq_consecutive (invariant.ticketNumbers ticketId))

theorem ticketLog_append (events : after.events = before.events ++ [event]) (ticketId : String) :
    after.ticketLog ticketId = before.ticketLog ticketId ++
      if event.ticketId = ticketId then [event] else [] := by
  by_cases same : event.ticketId = ticketId <;>
    simp [Database.ticketLog, events, List.filter_append, same]

theorem runLog_append (events : after.events = before.events ++ [event]) (runId : String) :
    after.runLog runId = before.runLog runId ++
      if event.runId = runId then [event] else [] := by
  by_cases same : event.runId = runId <;>
    simp [Database.runLog, events, List.filter_append, same]

theorem sealEvent_eq_ok {unhashed event : AgentEvent}
    (sealed : sealEvent unhashed = .ok event) :
    ∃ hash, eventHash unhashed unhashed.parentEventHash = .ok hash ∧
      event = { unhashed with eventHash := hash } := by
  rcases Fallible.bind_eq_ok_iff.mp sealed with ⟨hash, hashed, equal⟩
  cases equal
  exact ⟨hash, hashed, rfl⟩

/-- The event built behind the last event of a verified log is linked to it. -/
theorem linked_of_sealEvent {run : AgentRun} {payload : JsonDocument} {log : List AgentEvent}
    {counter runSequence : Int} (verified : verifyEvents {} log = .ok (ChainCursor.behind {} log))
    (counted : counter = (log.getLast?.map AgentEvent.ticketSequence).getD 0)
    (sealed : sealEvent (buildEvent request run log.getLast? payload (counter + 1)
      runSequence) = .ok event) :
    LinkedEvent (ChainCursor.behind {} log) event := by
  rcases sealEvent_eq_ok sealed with ⟨hash, hashed, rfl⟩
  cases log using List.reverseRecOn with
  | nil =>
      subst counted
      exact ⟨rfl, rfl, rfl, rfl, rfl, rfl, rfl, rfl, hashed⟩
  | append_singleton rest last =>
      rcases verifyEvents_append_singleton.mp verified with ⟨_, lastLinked, _⟩
      rw [List.getLast?_concat] at counted hashed ⊢
      rw [ChainCursor.behind_append_singleton]
      refine ⟨?_, rfl, ?_, rfl, rfl, rfl, rfl, rfl, hashed⟩
      · rw [ChainCursor.after, ← lastLinked.ticketSequence, counted]
        rfl
      · simp [buildEvent, ChainCursor.after]

/-- A call moves only the counters and the step index of its run, and only the
event counter of its ticket. -/
theorem appendEvent_frame (returned : (appendEvent redactPii request).Returns before event after) :
    after.events = before.events ++ [event] ∧
      (∀ ticketId, Table.find SupportTicket.id after.tickets ticketId =
        (Table.find SupportTicket.id before.tickets ticketId).map fun row =>
          if ticketId = event.ticketId then
            { row with nextEventSequence := event.ticketSequence } else row) ∧
      ∀ runId, Table.find AgentRun.id after.runs runId =
        (Table.find AgentRun.id before.runs runId).map fun row =>
          if runId = event.runId then
            { row with
              nextRunSequence := event.runSequence
              stepIndex := max row.stepIndex event.stepIndex } else row := by
  rcases appendEvent_returns redactPii returned with
    ⟨run, ticket, payload, _, _, _, _, sealed, equal⟩
  rcases sealEvent_eq_ok sealed with ⟨hash, _, built⟩
  have ticketId : event.ticketId = run.ticketId := by rw [built]; rfl
  have runId : event.runId = run.id := by rw [built]; rfl
  have ticketSequence : event.ticketSequence = ticket.nextEventSequence + 1 := by
    rw [built]; rfl
  have runSequence : event.runSequence = run.nextRunSequence + 1 := by rw [built]; rfl
  rw [equal]
  refine ⟨rfl, ?_, ?_⟩
  · intro wanted
    rw [ticketId, ticketSequence]
    exact Table.find_update fun _ => rfl
  · intro wanted
    rw [runId, runSequence]
    simp only [Database.updateRun, Database.updateTicket]
    rw [Table.find_update, Table.find_update, Option.map_map]
    · congr 1
      funext row
      by_cases same : wanted = run.id <;> simp [same]
    · exact fun _ => rfl
    · exact fun _ => rfl

theorem EventLogInvariant.append (invariant : EventLogInvariant before)
    (returned : (appendEvent redactPii request).Returns before event after) :
    EventLogInvariant after := by
  rcases appendEvent_frame redactPii returned with ⟨events, tickets, runs⟩
  rcases appendEvent_returns redactPii returned with
    ⟨run, ticket, payload, runFound, ticketFound, ticketCounter, runCounter, sealed, _⟩
  rw [invariant.latest_ticket] at sealed
  have linked := linked_of_sealEvent (invariant.verified run.ticketId)
    (invariant.latest_ticket run.ticketId ▸ ticketCounter) sealed
  rw [Table.latest?_of_map_eq_consecutive (invariant.ticketNumbers _)] at ticketCounter
  rw [Table.latest?_of_map_eq_consecutive (invariant.runNumbers _)] at runCounter
  rcases sealEvent_eq_ok sealed with ⟨hash, _, built⟩
  have ticketId : event.ticketId = run.ticketId := by rw [built]; rfl
  have runId : event.runId = run.id := by rw [built]; rfl
  have ticketSequence : event.ticketSequence = ticket.nextEventSequence + 1 := by
    rw [built]; rfl
  have runSequence : event.runSequence = run.nextRunSequence + 1 := by rw [built]; rfl
  have runKey : run.id = request.runId := (Table.find_mem runFound).2
  constructor
  case verified =>
    intro wanted
    rw [ticketLog_append events]
    by_cases same : event.ticketId = wanted
    · rw [if_pos same, ← same, ticketId]
      exact verifyEvents_append_singleton.mpr ⟨invariant.verified _, linked, rfl⟩
    · rw [if_neg same, List.append_nil]
      exact invariant.verified wanted
  case ticketCounter =>
    intro wanted row found nonempty
    rw [tickets, Option.map_eq_some_iff] at found
    rcases found with ⟨old, oldFound, equal⟩
    rw [ticketLog_append events] at nonempty ⊢
    by_cases same : event.ticketId = wanted
    · rw [if_pos same.symm] at equal
      rw [if_pos same, List.length_append, List.length_singleton, ← equal, ticketSequence,
        ticketCounter, ← same, ticketId]
      rfl
    · rw [if_neg fun other => same other.symm] at equal
      rw [if_neg same, List.append_nil] at nonempty ⊢
      rw [← equal]
      exact invariant.ticketCounter wanted old oldFound nonempty
  case runNumbers =>
    intro wanted
    rw [runLog_append events]
    by_cases same : event.runId = wanted
    · rw [if_pos same, List.map_append, List.length_append, List.length_singleton,
        Table.consecutive_succ, invariant.runNumbers, List.map_singleton, runSequence,
        runCounter, ← same, runId, Int.add_comm]
    · rw [if_neg same, List.append_nil]
      exact invariant.runNumbers wanted
  case runCounter =>
    intro wanted row found nonempty
    rw [runs, Option.map_eq_some_iff] at found
    rcases found with ⟨old, oldFound, equal⟩
    rw [runLog_append events] at nonempty ⊢
    by_cases same : event.runId = wanted
    · rw [if_pos same.symm] at equal
      rw [if_pos same, List.length_append, List.length_singleton, ← equal, runSequence,
        runCounter, ← same, runId]
      rfl
    · rw [if_neg fun other => same other.symm] at equal
      rw [if_neg same, List.append_nil] at nonempty ⊢
      rw [← equal]
      exact invariant.runCounter wanted old oldFound nonempty
  case runTicket =>
    intro other member
    rw [events] at member
    have source : ∃ owner, Table.find AgentRun.id before.runs other.runId = some owner ∧
        owner.ticketId = other.ticketId := by
      rcases List.mem_append.mp member with earlier | last
      · exact invariant.runTicket other earlier
      · rw [List.mem_singleton] at last
        subst last
        exact ⟨run, by rw [runId, runKey, runFound], ticketId.symm⟩
    rcases source with ⟨owner, found, owned⟩
    rw [runs, found]
    refine ⟨_, rfl, ?_⟩
    rw [← owned]
    split <;> rfl

/-! ## Every run of appends builds verified chains -/

/-- One successful call, with any arguments and in any worker context. -/
def Appends (before after : Database) : Prop :=
  ∃ request event, (appendEvent redactPii request).Returns before event after

theorem EventLogInvariant.reached {initial database : Database}
    (empty : initial.events = [])
    (reached : Relation.ReflTransGen (Appends redactPii) initial database) :
    EventLogInvariant database := by
  refine Run.preserves ?_ reached (.of_empty empty)
  intro before after appended invariant
  rcases appended with ⟨request, event, returned⟩
  exact invariant.append redactPii returned

end

/-- The persisted events of a ticket, as the verifier reads them. -/
structure TicketChain (database : Database) (ticketId : String) : Prop where
  verifies : ∃ head, verifyTicketEventChain database.events ticketId = .ok head
  ticketNumbers : (ticketEvents database.events ticketId).map AgentEvent.ticketSequence =
    Table.consecutive 1 (ticketEvents database.events ticketId).length
  ticketCounter : ∀ ticket,
    Table.find SupportTicket.id database.tickets ticketId = some ticket →
    ticket.nextEventSequence = (ticketEvents database.events ticketId).length
  runNumbers : ∀ event ∈ ticketEvents database.events ticketId,
    (database.runLog event.runId).map AgentEvent.runSequence =
        Table.consecutive 1 (database.runLog event.runId).length ∧
      database.runLog event.runId = (ticketEvents database.events ticketId).filter
        fun other => other.runId = event.runId
  runCounter : ∀ event ∈ ticketEvents database.events ticketId, ∀ run,
    Table.find AgentRun.id database.runs event.runId = some run →
    run.nextRunSequence = (database.runLog event.runId).length
  firstLink : ∀ first ∈ (ticketEvents database.events ticketId).head?,
    first.previousEventId = none
  links : (ticketEvents database.events ticketId).IsChain fun before event =>
    event.previousEventId = if before.runId = event.runId then some before.id else none

theorem EventLogInvariant.ticketEvents_eq {database : Database}
    (invariant : EventLogInvariant database) (ticketId : String) :
    ticketEvents database.events ticketId = database.ticketLog ticketId :=
  (Table.pairwise_of_map_eq_consecutive (invariant.ticketNumbers ticketId)).insertionSort_eq

/-- The events of a run are those of its ticket that carry the run's id. -/
theorem EventLogInvariant.runLog_eq {database : Database}
    (invariant : EventLogInvariant database) {ticketId : String} {event : AgentEvent}
    (member : event ∈ database.ticketLog ticketId) :
    database.runLog event.runId = (database.ticketLog ticketId).filter
      fun other => other.runId = event.runId := by
  rw [Database.runLog, Database.ticketLog, List.filter_filter]
  apply List.filter_congr
  intro other otherMember
  by_cases sameRun : other.runId = event.runId
  · rw [Database.ticketLog, List.mem_filter] at member
    rcases invariant.runTicket event member.1 with ⟨owner, found, owned⟩
    rcases invariant.runTicket other otherMember with ⟨otherOwner, otherFound, otherOwned⟩
    rw [sameRun, found, Option.some.injEq] at otherFound
    have inTicket : other.ticketId = ticketId := by
      rw [← otherOwned, ← otherFound, owned]
      simpa using member.2
    simp [sameRun, inTicket]
  · simp [sameRun]

theorem EventLogInvariant.ticketChain {database : Database}
    (invariant : EventLogInvariant database) {ticketId : String}
    (nonempty : ticketEvents database.events ticketId ≠ []) :
    TicketChain database ticketId := by
  have selected := invariant.ticketEvents_eq ticketId
  have verified := invariant.verified ticketId
  have links := verifyEvents_previousEventId verified
  rw [← selected] at verified links
  constructor
  case verifies =>
    unfold verifyTicketEventChain
    cases events : ticketEvents database.events ticketId with
    | nil => exact absurd events nonempty
    | cons first rest =>
        rw [events] at verified
        simp only [verified]
        exact ⟨_, rfl⟩
  case ticketNumbers =>
    rw [selected]
    exact invariant.ticketNumbers ticketId
  case ticketCounter =>
    rw [selected] at nonempty ⊢
    intro ticket found
    exact invariant.ticketCounter ticketId ticket found nonempty
  case runNumbers =>
    rw [selected]
    intro event member
    exact ⟨invariant.runNumbers event.runId, invariant.runLog_eq member⟩
  case runCounter =>
    rw [selected]
    intro event member run found
    apply invariant.runCounter event.runId run found
    rw [invariant.runLog_eq member]
    apply List.ne_nil_of_mem
    exact List.mem_filter.mpr ⟨member, by simp⟩
  case firstLink => exact links.1
  case links => exact links.2

/-- Starting without events, any interleaving of successful appends leaves every
ticket that has events with a chain the verifier accepts. -/
theorem appends_build_ticketChain (redactPii : PyText → PyText)
    (initial database : Database) (empty : initial.events = [])
    (reached : Relation.ReflTransGen (Appends redactPii) initial database)
    (ticketId : String) (nonempty : ticketEvents database.events ticketId ≠ []) :
    TicketChain database ticketId :=
  (EventLogInvariant.reached redactPii empty reached).ticketChain nonempty

/-- A ticket with two runs and no events. -/
def appendExample : Database where
  tickets := [{ id := "ticket_1", tenantId := "tenant", customerId := "customer" }]
  runs :=
    [{ id := "run_1", tenantId := "tenant", ticketId := "ticket_1", customerId := "customer" },
      { id := "run_2", tenantId := "tenant", ticketId := "ticket_1",
        customerId := "customer" }]

def appendExampleRequest (runId eventId : String) : EventRequest where
  runId := runId
  eventType := "run_started"
  payload := .dict [(.string (PyText.ofString "note"), .string (PyText.ofString "hello"))]
  visibility := "customer"
  eventId := eventId
  now := ⟨63919670400000000, Instant.july2026_inRange⟩

def appendExampleFirst : Database :=
  (appendEvent id (appendExampleRequest "run_1" "event_1") appendExample).2

def appendExampleSecond : Database :=
  (appendEvent id (appendExampleRequest "run_2" "event_2") appendExampleFirst).2

/-- Two runs of one ticket append in turn. -/
theorem appends_build_ticketChain_interleaved :
    ticketEvents appendExampleSecond.events "ticket_1" ≠ [] ∧
      TicketChain appendExampleSecond "ticket_1" := by
  have first : Appends id appendExample appendExampleFirst :=
    ⟨appendExampleRequest "run_1" "event_1", _, rfl⟩
  have second : Appends id appendExampleFirst appendExampleSecond :=
    ⟨appendExampleRequest "run_2" "event_2", _, rfl⟩
  have nonempty : ticketEvents appendExampleSecond.events "ticket_1" ≠ [] :=
    List.ne_nil_of_length_pos (show 0 < 2 by decide)
  exact ⟨nonempty, appends_build_ticketChain id appendExample appendExampleSecond rfl
    ((Relation.ReflTransGen.single first).tail second) "ticket_1" nonempty⟩

end SupportGuard
