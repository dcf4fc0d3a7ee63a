import SupportGuard.Services.WriteSets

/-! # Runs and what they answer

A run belongs to a ticket of its customer and answers the message of its turn. The calls
that end a run and activate the next turn keep it so, and the next turn is not the turn of
a run that has ended. -/

namespace SupportGuard

open Foundation Program

/-! ## Links -/

structure RunLink where
  id : String
  tenantId : String
  ticketId : String
  customerId : String
  messageId : String
  turnId : Option String

/-- Tickets with their tenants and customers, turns with their messages, and runs. -/
structure Links where
  tickets : List (String × String × String)
  turns : List (String × String)
  runs : List RunLink

def SupportTicket.link (ticket : SupportTicket) : String × String × String :=
  (ticket.id, ticket.tenantId, ticket.customerId)

def ConversationTurn.link (turn : ConversationTurn) : String × String :=
  (turn.id, turn.customerMessageId)

def AgentRun.link (run : AgentRun) : RunLink where
  id := run.id
  tenantId := run.tenantId
  ticketId := run.ticketId
  customerId := run.customerId
  messageId := run.messageId
  turnId := run.turnId

def Database.links (database : Database) : Links where
  tickets := database.tickets.map SupportTicket.link
  turns := database.turns.map ConversationTurn.link
  runs := database.runs.map AgentRun.link

/-- The keys of the three tables, the scope of a run, and the message that a run and its
turn have in common. -/
structure Links.Sound (links : Links) : Prop where
  ticketIds : (links.tickets.map Prod.fst).Nodup
  turnIds : (links.turns.map Prod.fst).Nodup
  turnMessages : (links.turns.map Prod.snd).Nodup
  runIds : (links.runs.map RunLink.id).Nodup
  scope : ∀ run ∈ links.runs, (run.ticketId, run.tenantId, run.customerId) ∈ links.tickets
  answers : ∀ run ∈ links.runs, ∀ turnId, run.turnId = some turnId →
    (turnId, run.messageId) ∈ links.turns

/-! ## Calls that keep the links -/

section Keeping

variable {ε α : Type}

theorem WritesOnly.keepsLinks {tables : List DatabaseTable} {program : Program Database ε α}
    (writes : WritesOnly tables program)
    (outside : .tickets ∉ tables ∧ .turns ∉ tables ∧ .runs ∉ tables) :
    Keeps Database.links program := by
  intro database
  have tickets : (program database).2.tickets = database.tickets :=
    writes database .tickets outside.1
  have turns : (program database).2.turns = database.turns := writes database .turns outside.2.1
  have runs : (program database).2.runs = database.runs := writes database .runs outside.2.2
  unfold Database.links
  rw [tickets, turns, runs]

end Keeping

theorem Database.links_updateTicket {change : SupportTicket → SupportTicket}
    (same : ∀ ticket, (change ticket).link = ticket.link) (database : Database)
    (ticketId : String) : (database.updateTicket ticketId change).links = database.links := by
  unfold Database.links Database.updateTicket
  rw [Table.map_update same]

theorem Database.links_updateTurn {change : ConversationTurn → ConversationTurn}
    (same : ∀ turn, (change turn).link = turn.link) (database : Database) (turnId : String) :
    (database.updateTurn turnId change).links = database.links := by
  unfold Database.links Database.updateTurn
  rw [Table.map_update same]

theorem Database.links_updateRun {change : AgentRun → AgentRun}
    (same : ∀ run, (change run).link = run.link) (database : Database) (runId : String) :
    (database.updateRun runId change).links = database.links := by
  unfold Database.links Database.updateRun
  rw [Table.map_update same]

/-- A view that does not see the counters and the log is kept by an event, however it
ends. -/
theorem keeps_appendEvent {ν : Type*} {view : Database → ν}
    (tickets : ∀ (database : Database) ticketId sequence,
      view (database.updateTicket ticketId fun row => { row with nextEventSequence := sequence }) =
        view database)
    (runs : ∀ (database : Database) runId (change : AgentRun → AgentRun),
      (∀ run, ∃ sequence index,
        change run = { run with nextRunSequence := sequence, stepIndex := index }) →
        view (database.updateRun runId change) = view database)
    (events : ∀ (database : Database) rows, view { database with events := rows } = view database)
    (redactPii : PyText → PyText) (request : EventRequest) :
    Keeps view (appendEvent redactPii request) := by
  apply keeps_bind (keeps_reads _)
  intro database
  apply keeps_bind (keeps_require _ _)
  intro run
  apply keeps_bind (keeps_require _ _)
  intro ticket
  apply keeps_refuseWhen_bind
  apply keeps_refuseWhen_bind
  apply keeps_refuseWhen_bind
  apply keeps_refuseWhen_bind
  apply keeps_refuseWhen_bind
  apply keeps_bind (keeps_modify fun database => tickets database _ _)
  intro _
  apply keeps_bind (keeps_modify fun database => runs database _ _ fun run => ⟨_, _, rfl⟩)
  intro _
  apply keeps_refuseWhen_bind
  apply keeps_bind (keeps_require _ _)
  intro payload
  apply keeps_bind (keeps_ofExcept _)
  intro event
  apply keeps_bind
  · apply keeps_bind (keeps_reads _)
    intro database
    split
    · exact keeps_raise _
    · exact keeps_modify fun database => events database _
  intro _
  apply keeps_bind (keeps_modify fun database => runs database _ _ fun run => ⟨_, _, rfl⟩)
  intro _
  exact keeps_pure event

theorem keepsLinks_appendEvent (redactPii : PyText → PyText) (request : EventRequest) :
    Keeps Database.links (appendEvent redactPii request) := by
  apply keeps_appendEvent
  · intro database ticketId sequence
    apply Database.links_updateTicket
    intro ticket
    rfl
  · intro database runId change changed
    apply Database.links_updateRun
    intro run
    rcases changed run with ⟨sequence, index, equal⟩
    rw [equal]
    rfl
  · intro database rows
    rfl

/-! ## The next turn -/

theorem firstTurn_mem {turns : List ConversationTurn} {turn : ConversationTurn}
    (found : firstTurn turns = some turn) : turn ∈ turns := by
  induction turns with
  | nil => cases found
  | cons head rest induction =>
      unfold firstTurn at found
      split at found
      · cases found
        exact List.mem_cons_self
      · rename_i best later
        split at found
        · cases found
          exact List.mem_cons_self
        · cases found
          exact List.mem_cons_of_mem _ (induction later)

/-- The run of a turn's message after `createRun`: it exists, or it is added. -/
structure RunOfTurn (turn : ConversationTurn) (before : Database)
    (runId : String) (after : Database) : Prop where
  tickets : after.links.tickets = before.links.tickets
  turns : after.turns = before.turns
  messages : after.messages = before.messages
  runs : (∃ run ∈ before.runs, run.id = runId ∧ run.messageId = turn.customerMessageId ∧
      after.runs = before.runs) ∨
    ((∀ run ∈ before.runs, run.id ≠ runId) ∧ ∃ run : AgentRun, run.id = runId ∧
      (run.ticketId, run.tenantId, run.customerId) ∈ before.links.tickets ∧
      run.messageId = turn.customerMessageId ∧ after.runs = before.runs ++ [run])

section

variable {redactPii : PyText → PyText}

theorem createRun_returns {draws : Draws} {ticket : SupportTicket} {turn : ConversationTurn}
    {model providerMode toolCallMode runId : String} {before after : Database}
    (returned : (createRun redactPii draws ticket turn model providerMode toolCallMode).Returns
      before runId after) : RunOfTurn turn before runId after := by
  unfold createRun at returned
  simp only [returns_readsId_bind, returns_require_bind, returns_refuseWhen_bind] at returned
  rcases returned with ⟨message, _, owner, ownerFound, _, returned⟩
  have owned : (ticket.id, owner.tenantId, ticket.customerId) ∈ before.links.tickets := by
    have matched := List.find?_some ownerFound
    simp only [Bool.and_eq_true, decide_eq_true_eq] at matched
    rw [← matched.1, ← matched.2]
    exact List.mem_map_of_mem (List.mem_of_find?_eq_some ownerFound)
  split at returned
  · rename_i existing found
    rcases returns_pure.mp returned with ⟨named, equal⟩
    subst equal
    refine ⟨rfl, rfl, rfl, .inl ⟨existing, List.mem_of_find?_eq_some found, named.symm,
      ?_, rfl⟩⟩
    simpa using List.find?_some found
  · rcases returns_bind.mp returned with ⟨_, middle, inserted, returned⟩
    rcases returns_bind.mp returned with ⟨event, final, appended, returned⟩
    rcases returns_pure.mp returned with ⟨named, equal⟩
    subst named equal
    simp only [insertRun, returns_readsId_bind, returns_refuseWhen_bind, returns_modify]
      at inserted
    rcases inserted with ⟨new, inserted⟩
    have fresh : ∀ run ∈ before.runs, run.id ≠ draws.runId := by
      intro run member named
      apply new
      rw [List.any_eq_true]
      exact ⟨run, member, by simpa using named⟩
    rcases appendEvent_returns redactPii (returns_mapError.mp appended) with
      ⟨run, owning, payload, runFound, _, _, _, _, equal⟩
    have named : run.id = draws.runId := (Table.find_mem runFound).2
    have added : ∀ (row : AgentRun) (change : AgentRun → AgentRun), row.id = run.id →
        Table.update AgentRun.id run.id change (before.runs ++ [row]) =
          before.runs ++ [change row] := by
      intro row change same
      apply Table.update_append_new _ same
      rw [named]
      exact fresh
    subst inserted
    rw [equal]
    refine ⟨?_, rfl, rfl, .inr ⟨fresh, ?_⟩⟩
    · simp only [Database.links, Database.updateRun, Database.updateTicket]
      rw [Table.map_update]
      intro ticket
      rfl
    · simp only [Database.updateRun, Database.updateTicket]
      rw [added _ _ named.symm, added _ _ named.symm]
      exact ⟨_, rfl, owned, rfl, rfl⟩

/-- A message as its readers know it. -/
def TicketMessage.publication (message : TicketMessage) :
    String × Option String × Option String :=
  (message.tenantId, message.publicationKey, message.approvalId)

def Database.publications (database : Database) : List (String × Option String × Option String) :=
  database.messages.map TicketMessage.publication

def queuedTurn (runId : String) (turn : ConversationTurn) : ConversationTurn :=
  { turn with runId := some runId, activityState := "queued" }

def queuedRun (turnId : String) (run : AgentRun) : AgentRun :=
  { run with status := "queued", turnId := some turnId }

theorem bindTurn_returns {turn : ConversationTurn} {runId : String} {before after : Database}
    {result : Unit} (returned : (bindTurn turn runId).Returns before result after) :
    after.tickets = before.tickets ∧ after.publications = before.publications ∧
      after.turns =
        Table.update ConversationTurn.id turn.id (queuedTurn runId) before.turns ∧
      after.runs = Table.update AgentRun.id runId (queuedRun turn.id) before.runs := by
  simp only [bindTurn, returns_modify_bind, returns_readsId_bind, returns_require_bind,
    returns_modify] at returned
  rcases returned with ⟨message, _, equal⟩
  rw [equal]
  refine ⟨rfl, ?_, ?_, rfl⟩
  · simp only [Database.publications, Database.updateTurn, Database.updateRun,
      Database.updateMessage]
    rw [Table.map_update]
    intro message
    rfl
  · simp only [Database.updateTurn, Database.updateRun, Database.updateMessage]
    rw [Table.update_update]
    · rfl
    · intro row
      rfl

/-- The rows that a job of a turn is dispatched beside. -/
def Database.besideJobs (database : Database) :
    List (String × String × String) × List ConversationTurn × List AgentRun ×
      List TicketMessage :=
  (database.links.tickets, database.turns, database.runs, database.messages)

theorem Database.besideJobs_updateTicket {change : SupportTicket → SupportTicket}
    (same : ∀ ticket, (change ticket).link = ticket.link) (database : Database)
    (ticketId : String) :
    (database.updateTicket ticketId change).besideJobs = database.besideJobs := by
  unfold Database.besideJobs
  rw [Database.links_updateTicket same]
  rfl

theorem keeps_dispatchJob_besideJobs (job : RuntimeJob) (ticket : SupportTicket) :
    Keeps Database.besideJobs (dispatchJob job ticket) := by
  apply keeps_bind
  · apply keeps_modify
    intro database
    apply Database.besideJobs_updateTicket
    intro row
    rfl
  intro _
  apply keeps_bind
  · apply keeps_bind (keeps_reads _)
    intro database
    apply keeps_refuseWhen_bind
    exact keeps_modify fun _ => rfl
  intro _
  exact keeps_pure _

theorem keeps_announceJob_besideJobs (draws : Draws) (ticket : SupportTicket)
    (job : RuntimeJob) (traceId : String) :
    Keeps Database.besideJobs (announceJob draws ticket job traceId) := by
  apply keeps_bind
  · apply keeps_modify
    intro database
    rfl
  intro _
  apply keeps_modify
  intro database
  apply Database.besideJobs_updateTicket
  intro row
  rfl

/-- What the activation of a turn leaves: nothing has changed, or the turn and its run are
queued. -/
inductive NextTurn (before after : Database) : Prop
  | idle (same : after = before)
  | queued (turn : ConversationTurn) (runId : String) (middle : Database)
      (stored : turn ∈ before.turns) (accepted : turn.activityState = "accepted")
      (run : RunOfTurn turn before runId middle)
      (tickets : after.links.tickets = before.links.tickets)
      (publications : after.publications = before.publications)
      (turns : after.turns =
        Table.update ConversationTurn.id turn.id (queuedTurn runId) before.turns)
      (runs : after.runs = Table.update AgentRun.id runId (queuedRun turn.id) middle.runs)

theorem activateNextTurn_returns {draws : Draws} {ticket : SupportTicket} {traceId : String}
    {result : Option (String × String)} {before after : Database}
    (returned : (activateNextTurn redactPii draws ticket traceId).Returns before result after) :
    NextTurn before after := by
  unfold activateNextTurn at returned
  rw [returns_readsId_bind] at returned
  dsimp only at returned
  split at returned
  · exact .idle (returns_pure.mp returned).2
  split at returned
  · exact .idle (returns_pure.mp returned).2
  rename_i turn first
  rw [returns_refuseWhen_bind] at returned
  rcases returns_bind.mp returned.2 with ⟨runId, created, ranCreate, returned⟩
  rcases returns_bind.mp returned with ⟨_, bound, ranBind, returned⟩
  rcases returns_bind.mp returned with ⟨job, dispatched, ranDispatch, returned⟩
  rcases returns_bind.mp returned with ⟨_, announced, ranAnnounce, returned⟩
  rw [(returns_pure.mp returned).2]
  have member := firstTurn_mem first
  simp only [List.mem_filter, decide_eq_true_eq] at member
  have run := createRun_returns ranCreate
  rcases bindTurn_returns ranBind with ⟨tickets, publications, turns, runs⟩
  have beside : announced.besideJobs = bound.besideJobs :=
    ((keeps_announceJob_besideJobs _ _ _ _).returns ranAnnounce).trans
      ((keeps_dispatchJob_besideJobs _ _).returns ranDispatch)
  simp only [Database.besideJobs, Prod.mk.injEq] at beside
  apply NextTurn.queued turn runId created member.1.1 member.2 run
  · rw [beside.1, ← run.tickets]
    exact congrArg (List.map SupportTicket.link) tickets
  · rw [Database.publications, beside.2.2.2]
    rw [Database.publications] at publications
    rw [publications, Database.publications, Database.publications, run.messages]
  · rw [beside.2.1, turns, run.turns]
  · rw [beside.2.2.1, runs]

/-! ## What an activation keeps -/

namespace Links.Sound

variable {database : Database} (sound : database.links.Sound)

include sound

theorem runKeys : (database.runs.map AgentRun.id).Nodup := by
  have ids := sound.runIds
  rw [Database.links, List.map_map] at ids
  exact ids

theorem run_scope {run : AgentRun} (member : run ∈ database.runs) :
    (run.ticketId, run.tenantId, run.customerId) ∈ database.links.tickets :=
  sound.scope run.link (List.mem_map_of_mem member)

theorem run_answers {run : AgentRun} (member : run ∈ database.runs) {turnId : String}
    (bound : run.turnId = some turnId) : (turnId, run.messageId) ∈ database.links.turns :=
  sound.answers run.link (List.mem_map_of_mem member) turnId bound

end Links.Sound

namespace RunOfTurn

variable {turn : ConversationTurn} {runId : String}
  {before after : Database}

theorem others (run : RunOfTurn turn before runId after) {other : AgentRun}
    (member : other ∈ after.runs) (different : other.id ≠ runId) : other ∈ before.runs := by
  rcases run.runs with ⟨_, _, _, _, same⟩ | ⟨_, new, named, _, _, added⟩
  · rw [same] at member
    exact member
  · rw [added, List.mem_append, List.mem_singleton] at member
    rcases member with old | equal
    · exact old
    · rw [equal] at different
      exact absurd named different

theorem keeps (run : RunOfTurn turn before runId after) {row : AgentRun}
    (member : row ∈ before.runs) : row ∈ after.runs := by
  rcases run.runs with ⟨_, _, _, _, same⟩ | ⟨_, new, _, _, _, added⟩
  · rw [same]
    exact member
  · rw [added]
    exact List.mem_append_left _ member

theorem keys (run : RunOfTurn turn before runId after)
    (distinct : (before.runs.map AgentRun.id).Nodup) :
    (after.runs.map AgentRun.id).Nodup := by
  rcases run.runs with ⟨_, _, _, _, same⟩ | ⟨fresh, new, named, _, _, added⟩
  · rw [same]
    exact distinct
  · rw [added]
    apply Table.nodup_append_new distinct
    rw [named]
    exact fresh

/-- The run of the turn has the message of the turn and belongs to the ticket's customer. -/
theorem named (run : RunOfTurn turn before runId after) (sound : before.links.Sound)
    {row : AgentRun} (member : row ∈ after.runs) (found : row.id = runId) :
    row.messageId = turn.customerMessageId ∧
      (row.ticketId, row.tenantId, row.customerId) ∈ before.links.tickets := by
  rcases run.runs with ⟨old, oldMember, named, message, same⟩ |
    ⟨fresh, new, _, owned, message, added⟩
  · rw [same] at member
    have equal : row = old :=
      List.inj_on_of_nodup_map sound.runKeys member oldMember (found.trans named.symm)
    rw [equal]
    exact ⟨message, sound.run_scope oldMember⟩
  · rw [added, List.mem_append, List.mem_singleton] at member
    rcases member with old | equal
    · exact absurd found (fresh row old)
    · rw [equal]
      exact ⟨message, owned⟩

end RunOfTurn

namespace NextTurn

variable {before after : Database}

theorem sound (next : NextTurn before after) (sound : before.links.Sound) :
    after.links.Sound := by
  cases next with
  | idle same =>
      rw [same]
      exact sound
  | queued turn runId middle stored _ run tickets _ turns runs =>
      have turnLinks : after.links.turns = before.links.turns := by
        simp only [Database.links]
        rw [turns, Table.map_update]
        intro row
        rfl
      -- A run of the result is another run of before, or the run of the turn.
      have rows : ∀ row ∈ after.links.runs,
          row ∈ before.links.runs ∨ ∃ old ∈ middle.runs, old.id = runId ∧
            row = (queuedRun turn.id old).link := by
        intro row member
        rcases List.mem_map.mp member with ⟨source, sourceMember, equal⟩
        rw [runs, Table.mem_update] at sourceMember
        rcases sourceMember with ⟨kept, different⟩ | ⟨old, oldMember, named, changed⟩
        · rw [← equal]
          exact .inl (List.mem_map_of_mem (run.others kept different))
        · exact .inr ⟨old, oldMember, named, by rw [← equal, changed]⟩
      refine ⟨?_, ?_, ?_, ?_, ?_, ?_⟩
      · rw [tickets]
        exact sound.ticketIds
      · rw [turnLinks]
        exact sound.turnIds
      · rw [turnLinks]
        exact sound.turnMessages
      · have keys : after.links.runs.map RunLink.id = middle.runs.map AgentRun.id := by
          rw [Database.links, List.map_map, runs]
          apply Table.map_update
          intro row
          rfl
        rw [keys]
        exact run.keys sound.runKeys
      · intro row member
        rw [tickets]
        rcases rows row member with kept | ⟨old, oldMember, named, equal⟩
        · exact sound.scope row kept
        · rw [equal]
          exact (run.named sound oldMember named).2
      · intro row member turnId bound
        rw [turnLinks]
        rcases rows row member with kept | ⟨old, oldMember, named, equal⟩
        · exact sound.answers row kept turnId bound
        · rw [equal] at bound ⊢
          have same : turnId = turn.id := (Option.some.inj bound).symm
          have message : (queuedRun turn.id old).link.messageId = turn.customerMessageId :=
            (run.named sound oldMember named).1
          rw [same, message]
          exact List.mem_map_of_mem stored

theorem publications (next : NextTurn before after) :
    after.publications = before.publications := by
  cases next with
  | idle same => rw [same]
  | queued _ _ _ _ _ _ _ publications => exact publications

end NextTurn

/-- The run and its turn have ended. -/
structure Ended (database : Database) (runId turnId : String) : Prop where
  run : ∃ run ∈ database.runs, run.id = runId ∧ run.turnId = some turnId
  runs : ∀ run ∈ database.runs, run.id = runId → run.status = "completed"
  turns : ∀ turn ∈ database.turns, turn.id = turnId → turn.activityState = "completed"

/-- What shows whether a run and its turn have ended. -/
def Database.progress (database : Database) :
    List (String × Option String × String) × List (String × String) :=
  (database.runs.map fun run => (run.id, run.turnId, run.status),
    database.turns.map fun turn => (turn.id, turn.activityState))

theorem Ended.of_progress {before after : Database} {runId turnId : String}
    (ended : Ended before runId turnId) (same : after.progress = before.progress) :
    Ended after runId turnId := by
  simp only [Database.progress, Prod.mk.injEq] at same
  refine ⟨?_, ?_, ?_⟩
  · rcases ended.run with ⟨run, member, named, bound⟩
    have shown := List.mem_map_of_mem
      (f := fun run : AgentRun => (run.id, run.turnId, run.status)) member
    rw [← same.1] at shown
    rcases List.mem_map.mp shown with ⟨row, rowMember, equal⟩
    simp only [Prod.mk.injEq] at equal
    exact ⟨row, rowMember, equal.1.trans named, equal.2.1.trans bound⟩
  · intro run member named
    have shown := List.mem_map_of_mem
      (f := fun run : AgentRun => (run.id, run.turnId, run.status)) member
    rw [same.1] at shown
    rcases List.mem_map.mp shown with ⟨row, rowMember, equal⟩
    simp only [Prod.mk.injEq] at equal
    rw [← equal.2.2]
    exact ended.runs row rowMember (equal.1.trans named)
  · intro turn member named
    have shown := List.mem_map_of_mem
      (f := fun turn : ConversationTurn => (turn.id, turn.activityState)) member
    rw [same.2] at shown
    rcases List.mem_map.mp shown with ⟨row, rowMember, equal⟩
    simp only [Prod.mk.injEq] at equal
    rw [← equal.2]
    exact ended.turns row rowMember (equal.1.trans named)

theorem WritesOnly.keepsProgress {ε α : Type} {tables : List DatabaseTable}
    {program : Program Database ε α} (writes : WritesOnly tables program)
    (outside : .runs ∉ tables ∧ .turns ∉ tables) : Keeps Database.progress program := by
  intro database
  have runs : (program database).2.runs = database.runs := writes database .runs outside.1
  have turns : (program database).2.turns = database.turns := writes database .turns outside.2
  unfold Database.progress
  rw [runs, turns]

theorem keepsProgress_appendEvent (redactPii : PyText → PyText) (request : EventRequest) :
    Keeps Database.progress (appendEvent redactPii request) := by
  apply keeps_appendEvent
  · intro database ticketId sequence
    rfl
  · intro database runId change changed
    unfold Database.progress Database.updateRun
    rw [Table.map_update]
    intro run
    rcases changed run with ⟨sequence, index, equal⟩
    rw [equal]
  · intro database rows
    rfl

/-- Another turn is activated than that of a run that has ended. -/
theorem NextTurn.ended {before after : Database}
    (next : NextTurn before after) (sound : before.links.Sound) {runId turnId : String}
    (ended : Ended before runId turnId) : Ended after runId turnId := by
  cases next with
  | idle same =>
      rw [same]
      exact ended
  | queued turn started middle stored accepted run _ _ turns runs =>
      rcases ended.run with ⟨own, ownMember, ownNamed, ownTurn⟩
      have otherTurn : turn.id ≠ turnId := by
        intro same
        have completed := ended.turns turn stored same
        rw [accepted] at completed
        exact absurd completed (by decide)
      have otherRun : started ≠ runId := by
        intro same
        rcases run.runs with ⟨old, oldMember, named, message, _⟩ | ⟨fresh, _⟩
        · have equal : old = own := List.inj_on_of_nodup_map sound.runKeys oldMember ownMember
            (named.trans (same.trans ownNamed.symm))
          have answered := sound.run_answers ownMember ownTurn
          have answering : (turn.id, turn.customerMessageId) ∈ before.links.turns :=
            List.mem_map_of_mem stored
          have pair := List.inj_on_of_nodup_map sound.turnMessages answering answered
            (by rw [← message, equal])
          exact otherTurn (congrArg Prod.fst pair)
        · exact fresh own ownMember (ownNamed.trans same.symm)
      refine ⟨⟨own, ?_, ownNamed, ownTurn⟩, ?_, ?_⟩
      · rw [runs, Table.mem_update]
        exact .inl ⟨run.keeps ownMember, fun same => otherRun (same.symm.trans ownNamed)⟩
      · intro row member named
        rw [runs, Table.mem_update] at member
        rcases member with ⟨kept, different⟩ | ⟨old, _, oldNamed, equal⟩
        · exact ended.runs row (run.others kept different) named
        · rw [equal] at named
          exact absurd (oldNamed.symm.trans named) otherRun
      · intro row member named
        rw [turns, Table.mem_update] at member
        rcases member with ⟨kept, _⟩ | ⟨old, _, oldNamed, equal⟩
        · exact ended.turns row kept named
        · rw [equal] at named
          exact absurd (oldNamed.symm.trans named) otherTurn

end

end SupportGuard
