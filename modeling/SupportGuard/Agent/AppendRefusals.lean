import SupportGuard.Agent.AppendEvent

/-! # Appends that raise

`append_event` compares the heads of the ticket and of the run before it moves their
counters, and it checks the worker and encodes the payload afterwards. A call that raises
there leaves the counters ahead of the log. -/

namespace SupportGuard

open Foundation Program

section

variable (redactPii : PyText → PyText)

/-! ## The checks before the counters move -/

/-- The rows of a call are there, and the heads are those that it and they expect. -/
structure HeadsAgree (request : EventRequest) (database : Database) (run : AgentRun)
    (ticket : SupportTicket) : Prop where
  runFound : Table.find AgentRun.id database.runs request.runId = some run
  ticketFound : Table.find SupportTicket.id database.tickets run.ticketId = some ticket
  ticketCounter : ticket.nextEventSequence = ((Table.latest? AgentEvent.ticketSequence
    (database.ticketLog run.ticketId)).map AgentEvent.ticketSequence).getD 0
  headId : ∀ expected, request.expectedTicketHeadEventId = some expected →
    (Table.latest? AgentEvent.ticketSequence (database.ticketLog run.ticketId)).map
      AgentEvent.id = expected
  headSequence : ∀ expected, request.expectedTicketSequence = some expected →
    ((Table.latest? AgentEvent.ticketSequence (database.ticketLog run.ticketId)).map
      AgentEvent.ticketSequence).getD 0 = expected
  headHash : ∀ expected, request.expectedTicketEventHash = some expected →
    (Table.latest? AgentEvent.ticketSequence (database.ticketLog run.ticketId)).map
      AgentEvent.eventHash = expected
  runCounter : run.nextRunSequence = ((Table.latest? AgentEvent.runSequence
    (database.runLog run.id)).map AgentEvent.runSequence).getD 0

/-- The worker that a call runs in, if any, works on the run of the call. -/
def WorkerFits (request : EventRequest) (run : AgentRun) : Prop :=
  ∀ worker, request.worker = some worker →
    worker.tenantId = run.tenantId ∧ worker.ticketId = run.ticketId ∧ worker.runId = run.id

/-- The counters of the tickets and the runs, and the events. -/
def eventCounters (database : Database) :
    List (String × Int) × List (String × Int × Int) × List AgentEvent :=
  (database.tickets.map fun ticket => (ticket.id, ticket.nextEventSequence),
    database.runs.map fun run => (run.id, run.nextRunSequence, run.stepIndex),
    database.events)

/-- The database once the counters have moved. -/
def counted (database : Database) (run : AgentRun) (ticket : SupportTicket) : Database :=
  (database.updateTicket run.ticketId fun row =>
    { row with nextEventSequence := ticket.nextEventSequence + 1 }).updateRun run.id fun row =>
      { row with nextRunSequence := run.nextRunSequence + 1 }

theorem insertEvent_raises {event : AgentEvent} {before after : Database} {error : EventRaise}
    (raised : (insertEvent event).Raises before error after) :
    ∃ constraint, error = .integrityError constraint := by
  rcases raises_bind.mp raised with impossible | ⟨database, middle, _, raised⟩
  · exact absurd impossible raises_reads
  · split at raised
    · exact ⟨_, (raises_raise.mp raised).1⟩
    · exact absurd raised raises_modify

/-- A call that raises other than for a constraint has either found the heads wrong and
changed nothing, or moved the counters and then met a foreign worker or a payload that
cannot be encoded. -/
theorem appendEvent_raises {request : EventRequest} {before after : Database}
    {error : EventRaise} (raised : (appendEvent redactPii request).Raises before error after)
    (noConstraint : ∀ constraint, error ≠ .integrityError constraint) :
    after = before ∨ ∃ run ticket, HeadsAgree request before run ticket ∧
      (¬WorkerFits request run ∨ storedPayload? redactPii request.payload = none) ∧
      after = counted before run ticket := by
  rw [appendEvent, raises_readsId_bind, raises_require_bind] at raised
  rcases raised with refused | ⟨run, runFound, raised⟩
  · exact .inl refused.2.2
  rw [raises_require_bind] at raised
  rcases raised with refused | ⟨ticket, ticketFound, raised⟩
  · exact .inl refused.2.2
  dsimp only at raised
  rw [raises_refuseWhen_bind] at raised
  rcases raised with refused | ⟨ticketCounter, raised⟩
  · exact .inl refused.2.2
  rw [raises_refuseWhen_bind] at raised
  rcases raised with refused | ⟨headId, raised⟩
  · exact .inl refused.2.2
  rw [raises_refuseWhen_bind] at raised
  rcases raised with refused | ⟨headSequence, raised⟩
  · exact .inl refused.2.2
  rw [raises_refuseWhen_bind] at raised
  rcases raised with refused | ⟨headHash, raised⟩
  · exact .inl refused.2.2
  rw [raises_refuseWhen_bind] at raised
  rcases raised with refused | ⟨runCounter, raised⟩
  · exact .inl refused.2.2
  simp only [Option.any_eq_true, decide_eq_true_eq, not_exists, not_and, not_not]
    at headId headSequence headHash
  have agree : HeadsAgree request before run ticket :=
    ⟨runFound, ticketFound, not_not.mp ticketCounter, headId, headSequence, headHash,
      not_not.mp runCounter⟩
  -- From here on the counters have moved.
  refine .inr ⟨run, ticket, agree, ?_⟩
  rw [raises_modify_bind, raises_modify_bind, raises_refuseWhen_bind] at raised
  rcases raised with refused | ⟨_, raised⟩
  · refine ⟨.inl ?_, refused.2.2⟩
    intro fits
    have foreign := refused.1
    simp only [Option.any_eq_true, Bool.or_eq_true, decide_eq_true_eq] at foreign
    rcases foreign with ⟨worker, given, foreign⟩
    have same := fits worker given
    simp [same] at foreign
  · rw [raises_require_bind] at raised
    rcases raised with refused | ⟨payload, stored, raised⟩
    · exact ⟨.inr refused.1, refused.2.2⟩
    · rcases sealEvent_buildEvent request run
        (Table.latest? AgentEvent.ticketSequence (before.ticketLog run.ticketId)) payload
        (ticket.nextEventSequence + 1) (run.nextRunSequence + 1) with ⟨event, sealed⟩
      rw [sealed, raises_bind] at raised
      rcases raised with impossible | ⟨sealedEvent, middle, _, raised⟩
      · cases impossible
      · rcases raises_bind.mp raised with inserted | ⟨_, later, _, raised⟩
        · rcases insertEvent_raises inserted with ⟨constraint, equal⟩
          exact absurd equal (noConstraint constraint)
        · rw [raises_modify_bind] at raised
          exact absurd raised raises_pure

/-- What is left of a call once the counters have moved. -/
def afterCounting (request : EventRequest) (run : AgentRun) (ticket : SupportTicket)
    (parent : Option AgentEvent) : Program Database EventRaise AgentEvent := do
  refuseWhen (request.worker.any fun worker =>
      worker.tenantId ≠ run.tenantId || worker.ticketId ≠ run.ticketId ||
        worker.runId ≠ run.id)
    (.runtimeError "worker event context does not match event aggregate")
  let payload ← require (storedPayload? redactPii request.payload) .unicodeEncodeError
  let event ← ofExcept (sealEvent (buildEvent request run parent payload
    (ticket.nextEventSequence + 1) (run.nextRunSequence + 1)))
  insertEvent event
  modify fun database => database.updateRun run.id fun run =>
    { run with stepIndex := max run.stepIndex event.stepIndex }
  pure event

theorem HeadsAgree.raises_of_afterCounting {request : EventRequest} {before after : Database}
    {run : AgentRun} {ticket : SupportTicket} {error : EventRaise}
    (agree : HeadsAgree request before run ticket)
    (raised : (afterCounting redactPii request run ticket
      (Table.latest? AgentEvent.ticketSequence (before.ticketLog run.ticketId))).Raises
        (counted before run ticket) error after) :
    (appendEvent redactPii request).Raises before error after := by
  rw [appendEvent, raises_readsId_bind, raises_require_bind]
  refine .inr ⟨run, agree.runFound, ?_⟩
  rw [raises_require_bind]
  refine .inr ⟨ticket, agree.ticketFound, ?_⟩
  dsimp only
  rw [raises_refuseWhen_bind]
  refine .inr ⟨not_not.mpr agree.ticketCounter, ?_⟩
  rw [raises_refuseWhen_bind]
  refine .inr ⟨?_, ?_⟩
  · simp only [Option.any_eq_true, decide_eq_true_eq, not_exists, not_and, not_not]
    exact agree.headId
  rw [raises_refuseWhen_bind]
  refine .inr ⟨?_, ?_⟩
  · simp only [Option.any_eq_true, decide_eq_true_eq, not_exists, not_and, not_not]
    exact agree.headSequence
  rw [raises_refuseWhen_bind]
  refine .inr ⟨?_, ?_⟩
  · simp only [Option.any_eq_true, decide_eq_true_eq, not_exists, not_and, not_not]
    exact agree.headHash
  rw [raises_refuseWhen_bind]
  exact .inr ⟨not_not.mpr agree.runCounter, raised⟩

/-- Where the heads agree, a foreign worker or such a payload stops a call too late. -/
theorem HeadsAgree.raises {request : EventRequest} {before : Database} {run : AgentRun}
    {ticket : SupportTicket} (agree : HeadsAgree request before run ticket)
    (late : ¬WorkerFits request run ∨ storedPayload? redactPii request.payload = none) :
    ∃ error, (∀ constraint, error ≠ .integrityError constraint) ∧
      (appendEvent redactPii request).Raises before error (counted before run ticket) := by
  by_cases fits : WorkerFits request run
  · have missing := late.resolve_left (not_not.mpr fits)
    refine ⟨.unicodeEncodeError, by simp,
      agree.raises_of_afterCounting redactPii ?_⟩
    rw [afterCounting, raises_refuseWhen_bind]
    refine .inr ⟨?_, raises_require_bind.mpr (.inl ⟨missing, rfl, rfl⟩)⟩
    simp only [Option.any_eq_true, Bool.or_eq_true, decide_eq_true_eq, not_exists, not_and]
    intro worker given
    simp [fits worker given]
  · refine ⟨.runtimeError "worker event context does not match event aggregate", by simp,
      agree.raises_of_afterCounting redactPii ?_⟩
    rw [afterCounting, raises_refuseWhen_bind]
    refine .inl ⟨?_, rfl, rfl⟩
    simp only [WorkerFits, not_forall] at fits
    rcases fits with ⟨worker, given, foreign⟩
    rw [given]
    simp only [Option.any_some, Bool.or_eq_true, decide_eq_true_eq]
    by_contra same
    simp only [not_or, not_not] at same
    exact foreign ⟨same.1.1, same.1.2, same.2⟩

theorem eventCounters_counted {before : Database} {run : AgentRun} {ticket : SupportTicket}
    (found : Table.find SupportTicket.id before.tickets run.ticketId = some ticket) :
    eventCounters (counted before run ticket) ≠ eventCounters before := by
  intro same
  have tickets := congrArg Prod.fst same
  simp only [eventCounters, counted, Database.updateTicket, Database.updateRun, Table.update,
    List.map_map] at tickets
  rcases Table.find_mem found with ⟨member, named⟩
  have counter := List.map_inj_left.mp tickets ticket member
  simp [named] at counter

/-- A message with a lone surrogate, such as a decoded `"\ud800"`. -/
def surrogateRequest : EventRequest :=
  { appendExampleRequest "run_1" "event_1" with
    payload := .dict [(.string (PyText.ofString "note"), .string [.surrogate 0])] }

end

end SupportGuard
