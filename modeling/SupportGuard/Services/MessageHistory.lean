import SupportGuard.Services.MessageAcceptance

/-! # Runs of messages

A ticket is sent messages in any order, by anyone and any number of times. What is
accepted are the first calls of each sender; the database is the original one with the
rows of those calls, one behind the other. -/

namespace SupportGuard

open Foundation Program

/-! ## The ticket behind some messages -/

def SupportTicket.behind (ticket : SupportTicket) : Nat → SupportTicket
  | 0 => ticket
  | count + 1 => admittedTicket (ticket.behind count)

section Behind

variable (ticket : SupportTicket) (count : Nat)

@[simp] theorem behind_id : (ticket.behind count).id = ticket.id := by
  induction count with
  | zero => rfl
  | succ count induction => exact induction

@[simp] theorem behind_tenantId : (ticket.behind count).tenantId = ticket.tenantId := by
  induction count with
  | zero => rfl
  | succ count induction => exact induction

@[simp] theorem behind_customerId : (ticket.behind count).customerId = ticket.customerId := by
  induction count with
  | zero => rfl
  | succ count induction => exact induction

@[simp] theorem behind_schedules : (ticket.behind count).schedules = ticket.schedules := by
  induction count with
  | zero => rfl
  | succ count induction => exact induction

@[simp] theorem behind_nextMessageSequence :
    (ticket.behind count).nextMessageSequence = ticket.nextMessageSequence + count := by
  induction count with
  | zero => simp [SupportTicket.behind]
  | succ count induction =>
      simp only [SupportTicket.behind, admittedTicket, induction, Nat.cast_add, Nat.cast_one]
      omega

@[simp] theorem behind_nextDispatchSequence :
    (ticket.behind count).nextDispatchSequence = ticket.nextDispatchSequence + count := by
  induction count with
  | zero => rfl
  | succ count induction =>
      simp only [SupportTicket.behind, admittedTicket, induction]
      omega

theorem scope_behind (request : MessageRequest) :
    request.scope (ticket.behind count) = request.scope ticket := by
  simp [MessageRequest.scope]

theorem messageRecord_behind (draws : MessageDraws) (request : MessageRequest) (text : String) :
    messageRecord draws request (ticket.behind count) text =
      messageRecord draws request ticket text := by
  simp [messageRecord, scope_behind, messageResources, messageSnapshot]

theorem acceptedRun_behind (identity : ProviderIdentity) (draws : MessageDraws) :
    acceptedRun identity draws (ticket.behind count) = acceptedRun identity draws ticket := by
  simp [acceptedRun, startedRun]

theorem acceptedOutbox_behind (draws : MessageDraws) (request : MessageRequest) :
    acceptedOutbox draws request (ticket.behind count) = acceptedOutbox draws request ticket := by
  simp [acceptedOutbox]

theorem acceptedCommand_behind (draws : MessageDraws) :
    acceptedCommand draws (ticket.behind count) = acceptedCommand draws ticket := by
  simp [acceptedCommand]

end Behind

/-! ## What is accepted -/

section History

variable (redactPii : PyText → PyText) (initial : Database) (ticket : SupportTicket)

/-- The calls of the ticket's customer. -/
def ownCalls (calls : List MessageCall) : List MessageCall :=
  calls.filter fun call => call.request.customerId = ticket.customerId

/-- The calls that are accepted: of each sender the first. -/
def acceptedCalls (calls : List MessageCall) : List MessageCall :=
  Table.firsts MessageCall.sender (ownCalls ticket calls)

/-- The database is the original one with the rows of the accepted calls. -/
structure Received (accepted : List MessageCall) (database : Database) : Prop where
  takes : TakesMessages database (ticket.behind accepted.length)
  messages : database.messages = initial.messages ++ accepted.mapIdx fun index call =>
    acceptedMessage call.draws (ticket.behind index)
  turns : database.turns = initial.turns ++ accepted.mapIdx fun index call =>
    acceptedTurn call.identity call.draws (ticket.behind index)
  runs : database.runs = initial.runs ++ accepted.map fun call =>
    acceptedRun call.identity call.draws ticket
  jobs : database.jobs = initial.jobs ++ accepted.mapIdx fun index call =>
    startJob call.draws (ticket.behind index) call.clock
  outbox : database.outbox = initial.outbox ++ accepted.map fun call =>
    acceptedOutbox call.draws call.request ticket
  events : database.events.map AgentEvent.id =
    initial.events.map AgentEvent.id ++ accepted.map fun call => call.draws.eventId
  idempotency : database.idempotency = initial.idempotency ++ accepted.map fun call =>
    messageRecord call.draws call.request ticket (call.text redactPii)

variable {redactPii initial ticket} {accepted : List MessageCall} {database : Database}
  {call : MessageCall}

theorem Received.start (takes : TakesMessages initial ticket) :
    Received redactPii initial ticket [] initial where
  takes := takes
  messages := by simp
  turns := by simp
  runs := by simp
  jobs := by simp
  outbox := by simp
  events := by simp
  idempotency := by simp

theorem Received.at (received : Received redactPii initial ticket accepted database)
    (clock : Instant) : Received redactPii initial ticket accepted (database.at clock) where
  takes := received.takes.at clock
  messages := received.messages
  turns := received.turns
  runs := received.runs
  jobs := received.jobs
  outbox := received.outbox
  events := received.events
  idempotency := received.idempotency

/-- Identifiers that were new in the beginning and are apart from those of the accepted
calls are still new. -/
theorem Received.fresh (received : Received redactPii initial ticket accepted database)
    {draws : MessageDraws} (new : Fresh initial draws)
    (apart : ∀ call ∈ accepted, call.draws.Apart draws) : Fresh database draws where
  messages := by
    intro message member
    rw [received.messages, List.mem_append, List.mem_mapIdx] at member
    rcases member with earlier | ⟨index, inside, rfl⟩
    · exact new.messages message earlier
    · exact (apart _ (List.getElem_mem inside)).messageId
  turns := by
    intro turn member
    rw [received.turns, List.mem_append, List.mem_mapIdx] at member
    rcases member with earlier | ⟨index, inside, rfl⟩
    · exact new.turns turn earlier
    · have other := apart _ (List.getElem_mem inside)
      exact ⟨other.turnId, other.messageId, fun same => other.runId (Option.some.inj same)⟩
  runs := by
    intro run member
    rw [received.runs, List.mem_append, List.mem_map] at member
    rcases member with earlier | ⟨call, inside, rfl⟩
    · exact new.runs run earlier
    · have other := apart call inside
      exact ⟨other.runId, other.messageId, fun same => other.turnId (Option.some.inj same)⟩
  jobs := by
    intro job member
    rw [received.jobs, List.mem_append, List.mem_mapIdx] at member
    rcases member with earlier | ⟨index, inside, rfl⟩
    · exact new.jobs job earlier
    · exact (apart _ (List.getElem_mem inside)).jobId
  events := by
    intro event member
    have logged := List.mem_map_of_mem (f := AgentEvent.id) member
    rw [received.events, List.mem_append, List.mem_map, List.mem_map] at logged
    rcases logged with ⟨earlier, earlierMember, same⟩ | ⟨call, inside, same⟩
    · rw [← same]
      exact new.events earlier earlierMember
    · rw [← same]
      exact (apart call inside).eventId
  outbox := by
    intro event member
    rw [received.outbox, List.mem_append, List.mem_map] at member
    rcases member with earlier | ⟨call, inside, rfl⟩
    · exact new.outbox event earlier
    · have other := apart call inside
      exact ⟨other.outboxId, other.deliveryId, other.jobId⟩

/-- The request of a sender is on record with the sender's accepted call. -/
theorem Received.find_record (received : Received redactPii initial ticket accepted database)
    (unused : ∀ record ∈ initial.idempotency,
      record.scope.route ≠ (call.request.scope ticket).route)
    (sameTicket : ∀ other ∈ accepted, other.request.ticketId = call.request.ticketId) :
    Table.find IdempotencyRequest.scope database.idempotency (call.request.scope ticket) =
      (Table.find MessageCall.sender accepted call.sender).map fun first =>
        messageRecord first.draws first.request ticket (first.text redactPii) := by
  have earlier : Table.find IdempotencyRequest.scope initial.idempotency
      (call.request.scope ticket) = none := by
    apply Table.find_eq_none.mpr
    intro record member same
    exact unused record member (congrArg IdempotencyScope.route same)
  rw [received.idempotency, Table.find_append_of_none earlier]
  apply Table.find_map
  intro other member
  have ticketId := sameTicket other member
  simp [messageRecord, MessageRequest.scope, MessageCall.sender, ticketId]

/-! ## One call -/

/-- What the theorems assume of the calls: they are for the ticket, find what they rely on,
and draw identifiers that are new. -/
structure Arrives (redactPii : PyText → PyText) (initial : Database) (ticket : SupportTicket)
    (call : MessageCall) : Prop where
  ticketId : call.request.ticketId = ticket.id
  served : call.Served redactPii
  fresh : Fresh initial call.draws

/-- No message was sent to the ticket before. -/
def Unaddressed (initial : Database) (ticket : SupportTicket) : Prop :=
  ∀ record ∈ initial.idempotency,
    record.scope.route ≠ "POST /api/tickets/" ++ ticket.id ++ "/messages"

theorem Received.find_request (received : Received redactPii initial ticket accepted database)
    (unaddressed : Unaddressed initial ticket)
    (arrived : ∀ other ∈ accepted, Arrives redactPii initial ticket other)
    (arrives : Arrives redactPii initial ticket call) :
    Table.find IdempotencyRequest.scope database.idempotency
        (call.request.scope (ticket.behind accepted.length)) =
      (Table.find MessageCall.sender accepted call.sender).map fun first =>
        messageRecord first.draws first.request ticket (first.text redactPii) := by
  rw [scope_behind]
  apply received.find_record
  · intro record member
    simp only [MessageRequest.scope, arrives.ticketId]
    exact unaddressed record member
  · intro other member
    rw [(arrived other member).ticketId, arrives.ticketId]

/-- A new message is the next of the accepted ones. -/
theorem Received.new (received : Received redactPii initial ticket accepted database)
    (unaddressed : Unaddressed initial ticket)
    (arrived : ∀ other ∈ accepted, Arrives redactPii initial ticket other)
    (arrives : Arrives redactPii initial ticket call)
    (apart : ∀ other ∈ accepted, other.draws.Apart call.draws)
    (customer : call.request.customerId = ticket.customerId)
    (first : Table.find MessageCall.sender accepted call.sender = none) :
    ∃ after, call.perform redactPii database = (.ok (acceptedCommand call.draws ticket), after) ∧
      Received redactPii initial ticket (accepted ++ [call]) after := by
  have received := received.at call.clock
  have unknown := received.find_request unaddressed arrived arrives
  rw [first, Option.map_none] at unknown
  have ticketId : call.request.ticketId = (ticket.behind accepted.length).id := by
    rw [behind_id]
    exact arrives.ticketId
  have owner : call.request.customerId = (ticket.behind accepted.length).customerId := by
    rw [behind_customerId]
    exact customer
  rcases acceptMessage_new received.takes (received.fresh arrives.fresh apart) arrives.served
    ticketId owner unknown with ⟨event, eventId, returned, takes⟩
  rw [acceptedCommand_behind] at returned
  refine ⟨_, returns_atomically.mpr returned, ?_⟩
  constructor
  case takes =>
    rw [List.length_append, List.length_singleton]
    exact takes
  case messages =>
    rw [List.mapIdx_concat, ← List.append_assoc, ← received.messages]
    rfl
  case turns =>
    rw [List.mapIdx_concat, ← List.append_assoc, ← received.turns]
    rfl
  case runs =>
    rw [List.map_append, ← List.append_assoc, ← received.runs, List.map_singleton,
      ← acceptedRun_behind ticket accepted.length]
    rfl
  case jobs =>
    rw [List.mapIdx_concat, ← List.append_assoc, ← received.jobs]
    rfl
  case outbox =>
    rw [List.map_append, ← List.append_assoc, ← received.outbox, List.map_singleton,
      ← acceptedOutbox_behind ticket accepted.length]
    rfl
  case events =>
    rw [List.map_append, ← List.append_assoc, ← received.events, List.map_singleton, ← eventId]
    exact List.map_append
  case idempotency =>
    rw [List.map_append, ← List.append_assoc, ← received.idempotency, List.map_singleton,
      ← messageRecord_behind ticket accepted.length]
    rfl

/-- A message with the hash of the one that was accepted is not accepted again. -/
theorem Received.again {first : MessageCall}
    (received : Received redactPii initial ticket accepted database)
    (unaddressed : Unaddressed initial ticket) (scheduled : ticket.schedules = true)
    (arrived : ∀ other ∈ accepted, Arrives redactPii initial ticket other)
    (arrives : Arrives redactPii initial ticket call)
    (customer : call.request.customerId = ticket.customerId)
    (found : Table.find MessageCall.sender accepted call.sender = some first)
    (same : canonicalRequestHash (messagePayload (first.text redactPii)) =
      canonicalRequestHash (messagePayload (call.text redactPii))) :
    call.perform redactPii database =
      (.ok (replayedCommand first.draws ticket), database.at call.clock) := by
  have received := received.at call.clock
  have known := received.find_request unaddressed arrived arrives
  rw [found, Option.map_some] at known
  have accepts := arrived first (Table.find_mem found).1
  apply returns_atomically.mpr
  apply acceptMessage_same received.takes.found arrives.served _ _ known same
  · exact acceptedFromRecord_messageRecord scheduled accepts.served.runId accepts.served.jobId
  · rw [behind_id]
    exact arrives.ticketId
  · rw [behind_customerId]
    exact customer

/-- Another text under a key that is taken is refused. -/
theorem Received.conflict {first : MessageCall}
    (received : Received redactPii initial ticket accepted database)
    (unaddressed : Unaddressed initial ticket)
    (arrived : ∀ other ∈ accepted, Arrives redactPii initial ticket other)
    (arrives : Arrives redactPii initial ticket call)
    (customer : call.request.customerId = ticket.customerId)
    (found : Table.find MessageCall.sender accepted call.sender = some first)
    (other : canonicalRequestHash (messagePayload (first.text redactPii)) ≠
      canonicalRequestHash (messagePayload (call.text redactPii))) :
    call.perform redactPii database =
      (.error (.runtimeConflict "idempotency_conflict"), database.at call.clock) := by
  have received := received.at call.clock
  have known := received.find_request unaddressed arrived arrives
  rw [found, Option.map_some] at known
  apply raises_atomically
  apply acceptMessage_other received.takes.found arrives.served _ _ known other
  · rw [behind_id]
    exact arrives.ticketId
  · rw [behind_customerId]
    exact customer

theorem Received.foreign (received : Received redactPii initial ticket accepted database)
    (arrives : Arrives redactPii initial ticket call)
    (customer : call.request.customerId ≠ ticket.customerId) :
    call.perform redactPii database =
      (.error (.runtimeConflict "ticket_not_found"), database.at call.clock) := by
  have received := received.at call.clock
  apply raises_atomically
  apply acceptMessage_foreign received.takes.found
  · rw [behind_id]
    exact arrives.ticketId
  · rw [behind_customerId]
    exact customer

/-! ## Texts and their hashes -/

theorem messagePayload_injective {left right : String}
    (same : JsonText.encode (messagePayload left) = JsonText.encode (messagePayload right)) :
    left = right := by
  have values := JsonText.write_injective same
  simpa [messagePayload, Json.sortKeys, Json.sortMembers, List.insertionSort] using values

variable {calls : List MessageCall}

/-- Without collisions among the requests, other texts have other hashes. -/
theorem canonicalRequestHash_ne {first call : MessageCall}
    (collisionFree : HashChain.CollisionFree Sha256.hexDigest
      (calls.map (MessageCall.hashed redactPii))) (firstMember : first ∈ calls)
    (member : call ∈ calls) (other : call.text redactPii ≠ first.text redactPii) :
    canonicalRequestHash (messagePayload (first.text redactPii)) ≠
      canonicalRequestHash (messagePayload (call.text redactPii)) := by
  intro same
  have bytes := collisionFree _ (List.mem_map_of_mem firstMember) _ (List.mem_map_of_mem member)
    same
  exact other (messagePayload_injective (JsonText.utf8_injective bytes)).symm

/-! ## Every run of calls -/

theorem acceptedCalls_append_singleton (calls : List MessageCall) (call : MessageCall) :
    acceptedCalls ticket (calls ++ [call]) =
      if call.request.customerId = ticket.customerId then
        Table.insertNew MessageCall.sender (acceptedCalls ticket calls) call
      else acceptedCalls ticket calls := by
  by_cases customer : call.request.customerId = ticket.customerId
  · have own : ownCalls ticket (calls ++ [call]) = ownCalls ticket calls ++ [call] := by
      simp [ownCalls, List.filter_append, customer]
    rw [if_pos customer, acceptedCalls, own, Table.firsts_append_singleton]
    rfl
  · have foreign : ownCalls ticket (calls ++ [call]) = ownCalls ticket calls := by
      simp [ownCalls, List.filter_append, customer]
    rw [if_neg customer, acceptedCalls, foreign]
    rfl

theorem acceptedCalls_subset (calls : List MessageCall) : acceptedCalls ticket calls ⊆ calls :=
  List.Subset.trans (Table.firsts_subset _ _) List.filter_sublist.subset

theorem receive_append_singleton (calls : List MessageCall) (call : MessageCall) :
    initial.receive redactPii (calls ++ [call]) =
      (call.perform redactPii (initial.receive redactPii calls)).2 := by
  simp [Database.receive]

/-- Whatever is sent, the database holds the rows of the accepted calls and no others. -/
theorem Received.run (takes : TakesMessages initial ticket)
    (unaddressed : Unaddressed initial ticket)
    (arrive : ∀ call ∈ calls, Arrives redactPii initial ticket call)
    (apart : calls.Pairwise fun earlier later => earlier.draws.Apart later.draws) :
    Received redactPii initial ticket (acceptedCalls ticket calls)
      (initial.receive redactPii calls) := by
  induction calls using List.reverseRecOn with
  | nil => exact .start takes
  | append_singleton calls call induction =>
      rw [List.pairwise_append] at apart
      have received := induction (fun other member => arrive other (by simp [member])) apart.1
      have arrived : ∀ other ∈ acceptedCalls ticket calls,
          Arrives redactPii initial ticket other := by
        intro other member
        exact arrive other (List.mem_append_left _ (acceptedCalls_subset calls member))
      have arrives := arrive call (by simp)
      rw [receive_append_singleton, acceptedCalls_append_singleton]
      by_cases customer : call.request.customerId = ticket.customerId
      · rw [if_pos customer, Table.insertNew]
        cases found : Table.find MessageCall.sender (acceptedCalls ticket calls) call.sender with
        | none =>
            have others : ∀ other ∈ acceptedCalls ticket calls,
                other.draws.Apart call.draws := by
              intro other member
              exact apart.2.2 other (acceptedCalls_subset calls member) call (by simp)
            rcases received.new unaddressed arrived arrives others customer found with
              ⟨after, performed, next⟩
            rw [performed]
            exact next
        | some first =>
            by_cases same : canonicalRequestHash (messagePayload (first.text redactPii)) =
                canonicalRequestHash (messagePayload (call.text redactPii))
            · rw [received.again unaddressed takes.schedules arrived arrives customer found same]
              exact received.at call.clock
            · rw [received.conflict unaddressed arrived arrives customer found same]
              exact received.at call.clock
      · rw [if_neg customer, received.foreign arrives customer]
        exact received.at call.clock

/-! ## Once and in order -/

variable (redactPii initial ticket)

/-- The senders of a run of calls, each once. -/
def senders (calls : List MessageCall) : List (String × String) :=
  ((ownCalls ticket calls).map MessageCall.sender).dedup

/-- What the rows and the responses of a run of calls are. The calls that are accepted come
in the order of the run. -/
structure AcceptedOnce (calls : List MessageCall) : Prop where
  messages : ∃ created, (initial.receive redactPii calls).messages = initial.messages ++ created ∧
    created.length = (senders ticket calls).length ∧
    (created.map TicketMessage.id =
      (acceptedCalls ticket calls).map fun call => call.draws.messageId) ∧
    (∀ message ∈ created, message.ticketId = ticket.id ∧ message.messageKind = "customer") ∧
    created.Pairwise fun earlier later => ∃ first second : Int,
      earlier.conversationSequence = some first ∧ later.conversationSequence = some second ∧
        first < second
  turns : ∃ created, (initial.receive redactPii calls).turns = initial.turns ++ created ∧
    created.length = (senders ticket calls).length ∧
    created.map ConversationTurn.customerMessageId =
      (acceptedCalls ticket calls).map fun call => call.draws.messageId
  runs : ∃ created, (initial.receive redactPii calls).runs = initial.runs ++ created ∧
    created.length = (senders ticket calls).length ∧
    created.map AgentRun.messageId =
      (acceptedCalls ticket calls).map fun call => call.draws.messageId
  jobs : ∃ created, (initial.receive redactPii calls).jobs = initial.jobs ++ created ∧
    created.length = (senders ticket calls).length ∧
    (created.map RuntimeJob.runId = (acceptedCalls ticket calls).map fun call =>
      call.draws.runId) ∧
    (∀ job ∈ created, job.ticketId = ticket.id ∧ job.kind = .agentStart) ∧
    created.Pairwise fun earlier later => earlier.dispatchSequence < later.dispatchSequence
  /-- The first call of a sender is accepted. -/
  first : ∀ earlier call later, calls = earlier ++ call :: later →
    call.request.customerId = ticket.customerId →
    call.sender ∉ senders ticket earlier →
    (call.perform redactPii (initial.receive redactPii earlier)).1 =
      .ok (acceptedCommand call.draws ticket)
  /-- A retry returns what the first call did, and changes nothing. -/
  retry : ∀ earlier call later, calls = earlier ++ call :: later →
    call.request.customerId = ticket.customerId →
    ∀ first ∈ acceptedCalls ticket earlier, first.sender = call.sender →
    first.text redactPii = call.text redactPii →
    call.perform redactPii (initial.receive redactPii earlier) =
      (.ok (replayedCommand first.draws ticket),
        (initial.receive redactPii earlier).at call.clock)
  /-- Another text under the same key is a conflict, and changes nothing. -/
  conflict : ∀ earlier call later, calls = earlier ++ call :: later →
    call.request.customerId = ticket.customerId →
    ∀ first ∈ acceptedCalls ticket earlier, first.sender = call.sender →
    first.text redactPii ≠ call.text redactPii →
    call.perform redactPii (initial.receive redactPii earlier) =
      (.error (.runtimeConflict "idempotency_conflict"),
        (initial.receive redactPii earlier).at call.clock)

variable {redactPii initial ticket}

theorem length_acceptedCalls (calls : List MessageCall) :
    (acceptedCalls ticket calls).length = (senders ticket calls).length :=
  Table.length_firsts MessageCall.sender _

theorem find_acceptedCalls {first : MessageCall} (member : first ∈ acceptedCalls ticket calls)
    (same : first.sender = call.sender) :
    Table.find MessageCall.sender (acceptedCalls ticket calls) call.sender = some first := by
  rw [← same]
  exact Table.find_of_mem (Table.nodup_firsts _ _) member

theorem find_acceptedCalls_eq_none (new : call.sender ∉ senders ticket calls) :
    Table.find MessageCall.sender (acceptedCalls ticket calls) call.sender = none := by
  apply Table.find_eq_none.mpr
  intro other member same
  apply new
  rw [senders, List.mem_dedup, ← Table.mem_map_firsts, ← same]
  exact List.mem_map_of_mem member

theorem map_mapIdx {Row Column : Type} {row : Nat → MessageCall → Row} {column : Row → Column}
    {value : MessageCall → Column} (same : ∀ index call, column (row index call) = value call) :
    (calls.mapIdx row).map column = calls.map value := by
  apply List.ext_getElem
  · simp
  · intro index _ _
    rw [List.getElem_map, List.getElem_map, List.getElem_mapIdx]
    exact same _ _

/-- Rows that are made in order have what grows with their place in order. -/
theorem pairwise_mapIdx {Row : Type} {row : Nat → MessageCall → Row} {before : Row → Row → Prop}
    (calls : List MessageCall)
    (grows : ∀ first second left right, first < second →
      before (row first left) (row second right)) : (calls.mapIdx row).Pairwise before := by
  apply List.pairwise_iff_getElem.mpr
  intro first second firstInside secondInside less
  rw [List.getElem_mapIdx, List.getElem_mapIdx]
  exact grows _ _ _ _ less

/-- However messages are sent to an open ticket of the agent, each sender's first one is
accepted, once and in order, and the others change nothing. -/
theorem messages_acceptedOnce (redactPii : PyText → PyText) (initial : Database)
    (ticket : SupportTicket) (calls : List MessageCall) (takes : TakesMessages initial ticket)
    (unaddressed : Unaddressed initial ticket)
    (arrive : ∀ call ∈ calls, Arrives redactPii initial ticket call)
    (apart : calls.Pairwise fun earlier later => earlier.draws.Apart later.draws)
    (collisionFree : HashChain.CollisionFree Sha256.hexDigest
      (calls.map (MessageCall.hashed redactPii))) :
    AcceptedOnce redactPii initial ticket calls := by
  have received := Received.run takes unaddressed arrive apart
  have number : (acceptedCalls ticket calls).length = (senders ticket calls).length :=
    length_acceptedCalls calls
  have behind : ∀ earlier call later, calls = earlier ++ call :: later →
      Received redactPii initial ticket (acceptedCalls ticket earlier)
        (initial.receive redactPii earlier) ∧
      (∀ other ∈ acceptedCalls ticket earlier, Arrives redactPii initial ticket other) ∧
      (∀ other ∈ acceptedCalls ticket earlier, other ∈ calls ∧
        other.draws.Apart call.draws) ∧
      call ∈ calls := by
    intro earlier call later split
    subst split
    rw [List.pairwise_append] at apart
    have here : ∀ other ∈ earlier, other ∈ earlier ++ call :: later :=
      fun other member => List.mem_append_left _ member
    have run := Received.run takes unaddressed
      (fun other member => arrive other (here other member)) apart.1
    refine ⟨run, ?_, ?_, by simp⟩
    · intro other member
      exact arrive other (here other (acceptedCalls_subset earlier member))
    · intro other member
      have known := acceptedCalls_subset earlier member
      exact ⟨here other known, apart.2.2 other known call (by simp)⟩
  constructor
  case messages =>
    refine ⟨_, received.messages, by rw [List.length_mapIdx, number], ?_, ?_, ?_⟩
    · exact map_mapIdx fun _ _ => rfl
    · intro message member
      rcases List.mem_mapIdx.mp member with ⟨index, inside, rfl⟩
      exact ⟨behind_id ticket index, rfl⟩
    · apply pairwise_mapIdx
      intro first second left right less
      refine ⟨_, _, rfl, rfl, ?_⟩
      simp only [behind_nextMessageSequence]
      omega
  case turns =>
    refine ⟨_, received.turns, by rw [List.length_mapIdx, number], ?_⟩
    exact map_mapIdx fun _ _ => rfl
  case runs =>
    refine ⟨_, received.runs, by rw [List.length_map, number], ?_⟩
    rw [List.map_map]
    rfl
  case jobs =>
    refine ⟨_, received.jobs, by rw [List.length_mapIdx, number], ?_, ?_, ?_⟩
    · exact map_mapIdx fun _ _ => rfl
    · intro job member
      rcases List.mem_mapIdx.mp member with ⟨index, inside, rfl⟩
      exact ⟨behind_id ticket index, rfl⟩
    · apply pairwise_mapIdx
      intro first second left right less
      simp only [startJob, behind_nextDispatchSequence]
      omega
  case first =>
    intro earlier call later split customer new
    rcases behind earlier call later split with ⟨run, arrived, others, member⟩
    rcases run.new unaddressed arrived (arrive call member) (fun other known =>
      (others other known).2) customer (find_acceptedCalls_eq_none new) with
      ⟨after, performed, _⟩
    rw [performed]
  case retry =>
    intro earlier call later split customer first accepted same text
    rcases behind earlier call later split with ⟨run, arrived, others, member⟩
    apply run.again unaddressed takes.schedules arrived (arrive call member) customer
      (find_acceptedCalls accepted same)
    rw [text]
  case conflict =>
    intro earlier call later split customer first accepted same text
    rcases behind earlier call later split with ⟨run, arrived, others, member⟩
    apply run.conflict unaddressed arrived (arrive call member) customer
      (find_acceptedCalls accepted same)
    exact canonicalRequestHash_ne collisionFree (others first accepted).1 member (Ne.symm text)

end History

/-! A ticket is sent a message, the same again, another one under the same key, and one
under a key of its own. -/

def messagesTicket : SupportTicket where
  id := "ticket_1"
  tenantId := "tenant"
  customerId := "customer"

def messagesExample : Database where
  tickets := [messagesTicket]

def exampleInstant : Instant :=
  ⟨63919670400000000, Instant.july2026_inRange⟩

theorem exampleInstant_expires : (exampleInstant.add? microsecondsPerDay).isSome := by
  decide +kernel

def exampleCall (number key message : String) : MessageCall where
  identity := {}
  draws :=
    { runId := "run_" ++ number
      jobId := "job_" ++ number
      messageId := "msg_" ++ number
      eventId := "event_" ++ number
      outboxId := "outbox_" ++ number
      deliveryId := "delivery_" ++ number
      now := exampleInstant
      startedPayload := .dict []
      turnId := "turn_" ++ number
      acceptedAt := exampleInstant }
  request :=
    { ticketId := "ticket_1"
      customerId := "customer"
      principalId := "principal"
      idempotencyKey := key
      message
      traceId := "trace" }
  clock := exampleInstant

def exampleCalls : List MessageCall :=
  [exampleCall "1" "first" "hi", exampleCall "2" "first" "hi", exampleCall "3" "first" "no",
    exampleCall "4" "second" "no"]

theorem messagesExample_takes : TakesMessages messagesExample messagesTicket where
  found := rfl
  active := rfl
  agent := rfl
  log := .of_empty rfl
  events := rfl
  messages := by simp [messagesExample]
  turns := by simp [messagesExample]
  jobs := by simp [messagesExample]

theorem exampleCall_arrives (number key message : String) :
    Arrives id messagesExample messagesTicket (exampleCall number key message) where
  ticketId := rfl
  served :=
    { runId := by simp [exampleCall]
      jobId := by simp [exampleCall]
      expires := exampleInstant_expires
      encodable := by
        rw [id, PyText.encode?_eq_some.mpr rfl]
        rfl
      storable := rfl }
  fresh :=
    { messages := by simp [messagesExample]
      turns := by simp [messagesExample]
      runs := by simp [messagesExample]
      jobs := by simp [messagesExample]
      events := by simp [messagesExample]
      outbox := by simp [messagesExample] }

theorem exampleCall_text (number key message : String) :
    (exampleCall number key message).text id = message := by
  rw [MessageCall.text, id, PyText.encode?_eq_some.mpr rfl, Option.getD_some]
  rfl

theorem exampleCall_apart {number other : String} (different : number ≠ other)
    (key otherKey message otherMessage : String) :
    (exampleCall number key message).draws.Apart
      (exampleCall other otherKey otherMessage).draws := by
  constructor <;> simpa [exampleCall] using different

theorem exampleHashes : Sha256.hexDigest (JsonText.utf8 (JsonText.encode (messagePayload "hi"))) ≠
    Sha256.hexDigest (JsonText.utf8 (JsonText.encode (messagePayload "no"))) := by
  decide +kernel

theorem collisionFree_of_two {first second : List UInt8} {occurring : List (List UInt8)}
    (different : Sha256.hexDigest first ≠ Sha256.hexDigest second)
    (only : ∀ one ∈ occurring, one = first ∨ one = second) :
    HashChain.CollisionFree Sha256.hexDigest occurring := by
  intro left leftMember right rightMember same
  rcases only left leftMember with leftIs | leftIs <;>
    rcases only right rightMember with rightIs | rightIs <;> rw [leftIs, rightIs] at same
  · rw [leftIs, rightIs]
  · exact absurd same different
  · exact absurd same.symm different
  · rw [leftIs, rightIs]

theorem messages_acceptedOnce_retried :
    (senders messagesTicket exampleCalls).length = 2 ∧
      AcceptedOnce id messagesExample messagesTicket exampleCalls := by
  refine ⟨by decide, ?_⟩
  apply messages_acceptedOnce id messagesExample messagesTicket exampleCalls messagesExample_takes
  · simp [Unaddressed, messagesExample]
  · intro call member
    simp only [exampleCalls, List.mem_cons, List.not_mem_nil, or_false] at member
    rcases member with rfl | rfl | rfl | rfl <;> exact exampleCall_arrives _ _ _
  · simp only [exampleCalls, List.pairwise_cons, List.mem_cons, List.not_mem_nil, or_false,
      forall_eq_or_imp, forall_eq, false_implies, implies_true, and_true, List.Pairwise.nil]
    refine ⟨⟨?_, ?_, ?_⟩, ⟨?_, ?_⟩, ?_⟩ <;> exact exampleCall_apart (by decide) _ _ _ _
  · apply collisionFree_of_two exampleHashes
    intro one member
    simp only [exampleCalls, List.map_cons, List.map_nil, MessageCall.hashed, exampleCall_text,
      List.mem_cons, List.not_mem_nil, or_false] at member
    tauto

end SupportGuard
