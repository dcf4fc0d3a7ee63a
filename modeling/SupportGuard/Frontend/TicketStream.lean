import SupportGuard.Agent.AppendEvent
import SupportGuard.Api.Sse
import SupportGuard.Foundation.JsValue
import SupportGuard.Foundation.Run

/-! # Following a ticket's events

`useTicketStream.ts`: the loop that reads the event stream, drops what it has already
handled, and reconnects from its cursor. -/

namespace SupportGuard

open Foundation

/-! ## The loop -/

/-- The cursor survives a connection. The events handled so far are in order. -/
structure StreamClient where
  cursor : Int
  handled : List JsValue := []

namespace StreamClient

/-- One frame: what is no event, or no event past the cursor, is skipped. None where the
loop throws, which a text that is no JSON makes it do, and a null. -/
def handleFrame (client : StreamClient) (frame : List Char) : Option StreamClient :=
  match (frame.splitOn '\n').find? (dataLabel.isPrefixOf ·) with
  | none => some client
  | some line =>
      match JsValue.parse? (line.drop 6) with
      | none | some .null => none
      | some event =>
          match event.property? "ticket_sequence" with
          | some (.number sequence) =>
              if sequence.den = 1 ∧ client.cursor < sequence.num then
                some { cursor := sequence.num, handled := client.handled ++ [event] }
              else some client
          | _ => some client

/-- The frames of a chunk in turn, and whether the loop goes on after them. -/
def handleFrames : StreamClient → List (List Char) → StreamClient × Bool
  | client, [] => (client, true)
  | client, frame :: frames =>
      match client.handleFrame frame with
      | none => (client, false)
      | some next => next.handleFrames frames

/-- Read the chunks of one connection. Its reader starts empty. -/
def readStream : StreamClient → FrameReader → List (List UInt8) → StreamClient
  | client, _, [] => client
  | client, reader, chunk :: chunks =>
      let (next, frames) := reader.read chunk
      match client.handleFrames frames with
      | (last, true) => last.readStream next chunks
      | (last, false) => last

/-- The header the loop sends. Sequence numbers are 64-bit integers, which the script
language writes without an exponent. -/
def lastEventId (client : StreamClient) : List Char :=
  JsonText.writeInteger client.cursor

end StreamClient

/-- One attempt to follow the stream. It fails, or the server accepts the cursor and a part
of what it sends arrives, cut into chunks anywhere. -/
inductive Follows (scope : StreamScope) (log : List AgentEvent) :
    StreamClient → StreamClient → Prop
  | failed (client : StreamClient) : Follows scope log client client
  | connected {client : StreamClient} {order : StringFieldOrder} {cursor : Int}
      {queries : List StreamQuery} {chunks : List (List UInt8)}
      (accepted : lastEventCursor (some client.lastEventId) = some cursor)
      (visible : SeesPrefix scope log queries)
      (carried : chunks.flatten <+: JsonText.utf8
        ((eventStream scope cursor queries).flatMap (StreamItem.text order))) :
      Follows scope log client (client.readStream {} chunks)

/-- A handled value is the object that was serialised for the event. -/
def Carries (value : JsValue) (event : AgentEvent) : Prop :=
  ∃ order, value = JsValue.exactly (eventObject order event)

/-! ## Events -/

/-- The numbers of an event that the script language holds exactly. -/
def ExactNumbers (event : AgentEvent) : Prop :=
  event.ticketSequence.natAbs ≤ 2 ^ 53 ∧ event.runSequence.natAbs ≤ 2 ^ 53

section

variable (order : StringFieldOrder) {event : AgentEvent}

theorem publicText_some {payload : Json} {admissible : String → Bool} {key : String}
    {member : String × Json} (found : publicText payload admissible key = some member) :
    member.1 = key ∧ ∃ text, member.2 = .string text := by
  unfold publicText at found
  split at found
  · split at found
    · cases found
      exact ⟨rfl, _, rfl⟩
    · cases found
  · cases found

theorem publicSourceCount_some {payload : Json} {member : String × Json}
    (found : publicSourceCount payload = some member) :
    ∃ count : Int, member.2 = .integer count ∧ count.natAbs ≤ 100 := by
  unfold publicSourceCount at found
  split at found
  · split at found
    · cases found
      exact ⟨_, rfl, by omega⟩
    · cases found
  · cases found

/-- A public payload holds texts and a small count. -/
theorem mem_safePublicEventPayload {payload : Json} {member : String × Json}
    (present : member ∈ safePublicEventPayload order payload) :
    (∃ text, member.2 = .string text) ∨
      ∃ count : Int, member.2 = .integer count ∧ count.natAbs ≤ 100 := by
  simp only [safePublicEventPayload, List.mem_append, List.mem_filterMap,
    Option.mem_toList] at present
  rcases present with ⟨key, _, found⟩ | found | found | found
  · exact .inl (publicText_some found).2
  · exact .inl (publicText_some found).2
  · exact .inl (publicText_some found).2
  · exact .inr (publicSourceCount_some found)

theorem standard_payload (payload : Json) :
    JsValue.standardMembers (safePublicEventPayload order payload) = true := by
  apply JsValue.standardMembers_of_forall
  intro member present
  rcases mem_safePublicEventPayload order present with ⟨text, equal⟩ | ⟨count, equal, _⟩
  · rw [equal]
    rfl
  · rw [equal]
    rfl

theorem ofJson_payload (payload : Json) :
    JsValue.ofJson FloatLiteral.nearestDouble (.object (safePublicEventPayload order payload)) =
      JsValue.exactly (.object (safePublicEventPayload order payload)) := by
  apply JsValue.ofJson_object_congr
  intro member present
  rcases mem_safePublicEventPayload order present with ⟨text, equal⟩ | ⟨count, equal, small⟩
  · rw [equal]
    rfl
  · rw [equal]
    exact JsValue.ofJson_integer (by omega)

theorem ofJson_eventObject (exact : ExactNumbers event) :
    JsValue.ofJson FloatLiteral.nearestDouble (eventObject order event) =
      JsValue.exactly (eventObject order event) := by
  apply JsValue.ofJson_object_congr
  intro member present
  simp only [List.mem_cons, List.not_mem_nil, or_false] at present
  rcases present with rfl | rfl | rfl | rfl | rfl | rfl | rfl
  · exact JsValue.ofJson_integer exact.1
  · rfl
  · exact JsValue.ofJson_integer exact.2
  · rfl
  · rfl
  · exact ofJson_payload order _
  · rfl

/-- The browser reads the object that was serialised. -/
theorem parse?_eventObject (exact : ExactNumbers event) :
    JsValue.parse? (JsonText.write (eventObject order event)) =
      some (JsValue.exactly (eventObject order event)) := by
  have accepted : JsValue.standard (eventObject order event) = true := by
    simp [eventObject, JsValue.standard, JsValue.standardMembers, standard_payload]
  rw [JsValue.parse?_write accepted, ofJson_eventObject order exact]

theorem exactly_eventObject (event : AgentEvent) : ∃ members,
    JsValue.exactly (eventObject order event) = .object members ∧
      members.lookup "ticket_sequence" = some (.number event.ticketSequence) := by
  have distinct : ["ticket_sequence", "run_id", "run_sequence", "event_type", "status",
      "payload", "created_at"].Nodup := by
    decide
  rw [JsValue.exactly, eventObject, JsValue.ofJson_object]
  · exact ⟨_, rfl, rfl⟩
  · exact distinct

/-- Of the three lines of an event, the last holds the data. -/
theorem find?_dataLine (single : '\n' ∉ event.eventType.toList) :
    ((eventLines order event).splitOn '\n').find? (dataLabel.isPrefixOf ·) =
      some (dataLabel ++ JsonText.write (eventObject order event)) := by
  have number := JsonText.newline_notMem_of_number
    (JsonText.writeInteger_number event.ticketSequence)
  have data := JsonText.newline_notMem_write (eventObject order event)
  rw [eventLines, List.splitOn_append_cons_self_of_not_mem (by simp [number, idLabel]),
    List.splitOn_append_cons_self_of_not_mem (by simp [single, eventLabel]),
    List.splitOn_eq_singleton (by simp [data, dataLabel])]
  simp [idLabel, eventLabel, dataLabel, List.isPrefixOf]

end

namespace StreamClient

variable {client : StreamClient} {order : StringFieldOrder}

theorem handleFrame_heartbeat : client.handleFrame heartbeatLine = some client := by
  have silent : (heartbeatLine.splitOn '\n').find? (dataLabel.isPrefixOf ·) = none := by
    decide
  rw [handleFrame, silent]

theorem handleFrame_event {event : AgentEvent} (single : '\n' ∉ event.eventType.toList)
    (exact : ExactNumbers event) (later : client.cursor < event.ticketSequence) :
    client.handleFrame (eventLines order event) =
      some { cursor := event.ticketSequence,
             handled := client.handled ++ [JsValue.exactly (eventObject order event)] } := by
  obtain ⟨members, equal, sequence⟩ := exactly_eventObject order event
  have payload : (dataLabel ++ JsonText.write (eventObject order event)).drop 6 =
      JsonText.write (eventObject order event) := rfl
  rw [handleFrame, find?_dataLine order single]
  dsimp only
  rw [payload, parse?_eventObject order exact, equal]
  simp [JsValue.property?, sequence, later]

theorem handleFrames_append {early : List (List Char)} (late : List (List Char))
    {middle : StreamClient} (calm : client.handleFrames early = (middle, true)) :
    client.handleFrames (early ++ late) = middle.handleFrames late := by
  induction early generalizing client with
  | nil =>
      cases calm
      rfl
  | cons frame frames induction =>
      rw [List.cons_append, handleFrames]
      rw [handleFrames] at calm
      split at calm
      · cases calm
      · exact induction calm

theorem handleFrames_of_append {early late : List (List Char)} {final : StreamClient}
    (calm : client.handleFrames (early ++ late) = (final, true)) :
    ∃ middle, client.handleFrames early = (middle, true) := by
  induction early generalizing client with
  | nil => exact ⟨client, rfl⟩
  | cons frame frames induction =>
      rw [List.cons_append, handleFrames] at calm
      rw [handleFrames]
      split at calm
      · cases calm
      · exact induction calm

/-- Frames over which the loop throws nothing may as well be handled together. -/
theorem readStream_eq {chunks : List (List UInt8)} {reader : FrameReader}
    {final : StreamClient}
    (calm : client.handleFrames (reader.readAll chunks) = (final, true)) :
    client.readStream reader chunks = final := by
  induction chunks generalizing client reader with
  | nil =>
      cases calm
      rfl
  | cons chunk chunks induction =>
      have frames : reader.readAll (chunk :: chunks) =
          (reader.read chunk).2 ++ (reader.read chunk).1.readAll chunks := rfl
      rw [frames] at calm
      obtain ⟨middle, early⟩ := handleFrames_of_append calm
      rw [handleFrames_append _ early] at calm
      have step : client.readStream reader (chunk :: chunks) =
          match client.handleFrames (reader.read chunk).2 with
          | (last, true) => last.readStream (reader.read chunk).1 chunks
          | (last, false) => last := rfl
      rw [step, early]
      exact induction calm

/-! ## One connection -/

variable {scope : StreamScope} {log : List AgentEvent}

/-- The items of a connection bring the events past the cursor, in order, and each is
handled. -/
theorem handleFrames_items (increasing : Resumption.Increasing AgentEvent.ticketSequence log)
    (single : ∀ event ∈ log, '\n' ∉ event.eventType.toList)
    (exact : ∀ event ∈ log, ExactNumbers event) {items : List StreamItem}
    (next : items.filterMap StreamItem.event? <+:
      Resumption.remaining AgentEvent.ticketSequence log client.cursor) :
    client.handleFrames (items.map (StreamItem.body order)) =
      ({ cursor := Resumption.advance AgentEvent.ticketSequence client.cursor
           (items.filterMap StreamItem.event?),
         handled := client.handled ++ (items.filterMap StreamItem.event?).map
           fun event => JsValue.exactly (eventObject order event) }, true) := by
  induction items generalizing client with
  | nil => simp [handleFrames, Resumption.advance]
  | cons item items induction =>
      cases item with
      | heartbeat =>
          have same := induction next
          rw [List.map_cons, handleFrames, StreamItem.body, handleFrame_heartbeat]
          exact same
      | event row =>
          obtain ⟨rest, whole⟩ := next
          have split : Resumption.remaining AgentEvent.ticketSequence log client.cursor =
              row :: (items.filterMap StreamItem.event? ++ rest) := whole.symm
          obtain ⟨later, tail⟩ := Resumption.remaining_of_cons increasing split
          have present : row ∈ Resumption.remaining AgentEvent.ticketSequence log
              client.cursor := by
            rw [split]
            exact List.mem_cons_self
          have member : row ∈ log := List.mem_of_mem_filter present
          rw [List.map_cons, handleFrames, StreamItem.body,
            handleFrame_event (single row member) (exact row member) later]
          dsimp only
          rw [induction (by rw [tail]; exact List.prefix_append _ _)]
          simp [StreamItem.event?, Resumption.advance]

/-- A connection handles the first of the items that the server sends, and among them all
that arrived in full. -/
theorem readStream_connection
    (increasing : Resumption.Increasing AgentEvent.ticketSequence log)
    (single : ∀ event ∈ log, '\n' ∉ event.eventType.toList)
    (exact : ∀ event ∈ log, ExactNumbers event) {queries : List StreamQuery}
    (visible : SeesPrefix scope log queries) {chunks : List (List UInt8)}
    (carried : chunks.flatten <+: JsonText.utf8
      ((eventStream scope client.cursor queries).flatMap (StreamItem.text order))) :
    ∃ items, items <+: eventStream scope client.cursor queries ∧
      client.readStream {} chunks =
        { cursor := Resumption.advance AgentEvent.ticketSequence client.cursor
            (items.filterMap StreamItem.event?),
          handled := client.handled ++ (items.filterMap StreamItem.event?).map
            fun event => JsValue.exactly (eventObject order event) } ∧
      ∀ complete, complete <+: eventStream scope client.cursor queries →
        JsonText.utf8 (complete.flatMap (StreamItem.text order)) <+: chunks.flatten →
          complete <+: items := by
  have sent := eventStream_startsWith increasing visible client.cursor
  have lines : ∀ row ∈ (eventStream scope client.cursor queries).filterMap StreamItem.event?,
      '\n' ∉ row.eventType.toList := by
    intro row member
    exact single row (List.mem_of_mem_filter (sent.subset member))
  have frames := framesOf_prefix carried
  rw [StreamItem.framesOf_text order _ lines, List.prefix_iff_eq_take,
    ← List.map_take] at frames
  refine ⟨(eventStream scope client.cursor queries).take (framesOf chunks.flatten).length,
    List.take_prefix _ _, ?_, ?_⟩
  · apply readStream_eq
    rw [FrameReader.readAll_eq, frames, List.length_map, List.length_take]
    have shorter : min (framesOf chunks.flatten).length
        (eventStream scope client.cursor queries).length = (framesOf chunks.flatten).length := by
      have counted := congrArg List.length frames
      rw [List.length_map, List.length_take] at counted
      exact counted.symm
    rw [shorter]
    apply handleFrames_items increasing single exact
    exact ((List.take_prefix _ _).filterMap _).trans sent
  · intro complete early arrived
    have whole := framesOf_prefix arrived
    rw [StreamItem.framesOf_text order _ fun row member =>
      lines row ((early.filterMap _).subset member)] at whole
    rw [List.prefix_take_iff]
    apply And.intro early
    simpa using whole.length_le

end StreamClient

/-! ## Every connection -/

/-- What has been handled when a client has come so far from its first cursor. -/
def HandledSince (log : List AgentEvent) (start : Int) (client : StreamClient) : Prop :=
  ∃ read, Resumption.remaining AgentEvent.ticketSequence log start =
      read ++ Resumption.remaining AgentEvent.ticketSequence log client.cursor ∧
    client.cursor = Resumption.advance AgentEvent.ticketSequence start read ∧
    List.Forall₂ Carries client.handled read

section

variable {scope : StreamScope} {log : List AgentEvent} {start : Int}

theorem HandledSince.cursor_bounds {client : StreamClient}
    (increasing : Resumption.Increasing AgentEvent.ticketSequence log)
    (exact : ∀ event ∈ log, ExactNumbers event) (lower : 0 ≤ start) (upper : start ≤ 2 ^ 53)
    (handled : HandledSince log start client) :
    0 ≤ client.cursor ∧ client.cursor ≤ 2 ^ 53 := by
  obtain ⟨read, split, reached, _⟩ := handled
  have grown := (Resumption.le_advance increasing split).1
  rw [← reached] at grown
  apply And.intro (Int.le_trans lower grown)
  rw [reached]
  rcases Resumption.advance_cases AgentEvent.ticketSequence start read with
    same | ⟨event, member, equal⟩
  · omega
  · have present : event ∈ Resumption.remaining AgentEvent.ticketSequence log start := by
      rw [split]
      exact List.mem_append_left _ member
    have bound := (exact event (List.mem_of_mem_filter present)).1
    omega

theorem HandledSince.follows {before after : StreamClient}
    (increasing : Resumption.Increasing AgentEvent.ticketSequence log)
    (single : ∀ event ∈ log, '\n' ∉ event.eventType.toList)
    (exact : ∀ event ∈ log, ExactNumbers event) (lower : 0 ≤ start) (upper : start ≤ 2 ^ 53)
    (attempt : Follows scope log before after) (handled : HandledSince log start before) :
    HandledSince log start after := by
  cases attempt with
  | failed => exact handled
  | @connected order cursor queries chunks accepted visible carried =>
      obtain ⟨nonnegative, small⟩ := handled.cursor_bounds increasing exact lower upper
      rw [StreamClient.lastEventId, lastEventCursor_writeInteger nonnegative small] at accepted
      cases accepted
      obtain ⟨items, early, result, _⟩ :=
        StreamClient.readStream_connection increasing single exact visible carried
      obtain ⟨read, split, reached, carries⟩ := handled
      have sent := (early.filterMap StreamItem.event?).trans
        (eventStream_startsWith increasing visible before.cursor)
      obtain ⟨rest, whole⟩ := sent
      rw [result]
      refine ⟨read ++ items.filterMap StreamItem.event?, ?_, ?_, ?_⟩
      · dsimp only
        rw [Resumption.remaining_advance increasing whole.symm, List.append_assoc, whole, split]
      · dsimp only
        rw [Resumption.advance_append, ← reached]
      · apply List.rel_append carries
        rw [List.forall₂_map_left_iff]
        exact List.forall₂_same.mpr fun event _ => ⟨order, rfl⟩

end

/-- Whatever the chunks, the pages, the heartbeats and the reconnections, a client has
handled the events between its first cursor and its cursor, each once and in order, and as
they were serialised. The server takes its cursor back, and of what it then sends every
event that arrives in full is handled. -/
theorem ticketStream_delivers {scope : StreamScope} {log : List AgentEvent}
    (increasing : Resumption.Increasing AgentEvent.ticketSequence log)
    (single : ∀ event ∈ log, '\n' ∉ event.eventType.toList)
    (exact : ∀ event ∈ log, ExactNumbers event) {initial final : StreamClient}
    (lower : 0 ≤ initial.cursor) (upper : initial.cursor ≤ 2 ^ 53)
    (fresh : initial.handled = [])
    (followed : Relation.ReflTransGen (Follows scope log) initial final) :
    List.Forall₂ Carries final.handled (log.filter fun event =>
        initial.cursor < event.ticketSequence ∧ event.ticketSequence ≤ final.cursor) ∧
      lastEventCursor (some final.lastEventId) = some final.cursor ∧
      ∀ order queries chunks, SeesPrefix scope log queries →
        chunks.flatten <+: JsonText.utf8
          ((eventStream scope final.cursor queries).flatMap (StreamItem.text order)) →
        ∀ complete, complete <+: eventStream scope final.cursor queries →
          JsonText.utf8 (complete.flatMap (StreamItem.text order)) <+: chunks.flatten →
          ∀ event ∈ complete.filterMap StreamItem.event?,
            event.ticketSequence ≤ (final.readStream {} chunks).cursor := by
  have begun : HandledSince log initial.cursor initial := by
    refine ⟨[], rfl, rfl, ?_⟩
    rw [fresh]
    exact .nil
  have handled : HandledSince log initial.cursor final := by
    apply Run.preserves _ followed begun
    intro before after attempt before
    exact before.follows increasing single exact lower upper attempt
  have bounds := handled.cursor_bounds increasing exact lower upper
  obtain ⟨read, split, reached, carries⟩ := handled
  refine ⟨?_, lastEventCursor_writeInteger bounds.1 bounds.2, ?_⟩
  · rw [← Resumption.read_eq increasing split reached]
    exact carries
  · intro order queries chunks visible carried complete early arrived event member
    obtain ⟨items, sent, result, all⟩ :=
      StreamClient.readStream_connection increasing single exact visible carried
    have present := ((all complete early arrived).filterMap StreamItem.event?).subset member
    obtain ⟨rest, whole⟩ := (sent.filterMap StreamItem.event?).trans
      (eventStream_startsWith increasing visible final.cursor)
    rw [result]
    exact (Resumption.le_advance increasing whole.symm).2 event present

/-! ### One connection in two chunks -/

def streamedEvent (sequence : Int) : AgentEvent where
  id := "event-" ++ toString sequence
  tenantId := "tenant-1"
  runId := "run-1"
  ticketId := "ticket-1"
  customerId := "customer-1"
  sequence := sequence
  ticketSequence := sequence
  runSequence := 1
  jobId := none
  stepIndex := 0
  toolRound := 0
  eventType := "response_generated"
  status := "completed"
  visibility := "customer"
  toolCallId := none
  payload := ⟨.object [("outcome", .string "answered")], by
    simp [Json.UniqueKeys, Json.MembersUniqueKeys]⟩
  payloadHash := ""
  previousEventId := none
  parentEventHash := ""
  eventHash := ""
  eventSchemaVersion := "v1"
  canonicalizationVersion := "v1"
  eventHashSchemaVersion := "v1"
  correlationId := "request-1"
  causationId := none
  idempotencyId := none
  deliveryGeneration := none
  fencingToken := none
  createdAt := ⟨⟨63919670400000000, Instant.july2026_inRange⟩, none⟩

def streamedScope : StreamScope where
  ticketId := "ticket-1"
  customerId := some "customer-1"

def listedOrder : StringFieldOrder :=
  ⟨publicEventStringFields, .refl _⟩

/-- The database shows the customer some events of the ticket. -/
def streamedQuery (events : List AgentEvent) : StreamQuery where
  tickets := [{ id := "ticket-1", tenantId := "tenant-1", customerId := "customer-1" }]
  rows := events
  heartbeatDue := true

def streamedBytes (events : List AgentEvent) : List UInt8 :=
  JsonText.utf8 ((eventStream streamedScope 0 [streamedQuery events]).flatMap
    (StreamItem.text listedOrder))

example : (({ cursor := 0 } : StreamClient).readStream {}
    [(streamedBytes [streamedEvent 3, streamedEvent 7]).take 300,
      (streamedBytes [streamedEvent 3, streamedEvent 7]).drop 300]).handled.length = 2 := by
  decide +kernel

theorem ticketStream_delivers_two :
    Relation.ReflTransGen (Follows streamedScope [streamedEvent 3, streamedEvent 7])
        { cursor := 0 }
        (({ cursor := 0 } : StreamClient).readStream {}
          [streamedBytes [streamedEvent 3, streamedEvent 7]]) ∧
      List.Forall₂ Carries
        (({ cursor := 0 } : StreamClient).readStream {}
          [streamedBytes [streamedEvent 3, streamedEvent 7]]).handled
        [streamedEvent 3, streamedEvent 7] := by
  have visible : SeesPrefix streamedScope [streamedEvent 3, streamedEvent 7]
      [streamedQuery [streamedEvent 3, streamedEvent 7]] := by
    intro query member
    rw [List.mem_singleton] at member
    rw [member]
    have whole : visibleLog "ticket-1" [streamedEvent 3, streamedEvent 7] =
        [streamedEvent 3, streamedEvent 7] := by
      decide +kernel
    exact whole ▸ List.prefix_refl _
  have followed : Relation.ReflTransGen
      (Follows streamedScope [streamedEvent 3, streamedEvent 7]) { cursor := 0 }
      (({ cursor := 0 } : StreamClient).readStream {}
        [streamedBytes [streamedEvent 3, streamedEvent 7]]) := by
    apply Relation.ReflTransGen.single
    apply Follows.connected (lastEventCursor_writeInteger (le_refl 0) (by decide)) visible
    rw [List.flatten_singleton]
    exact List.prefix_refl _
  apply And.intro followed
  have increasing : Resumption.Increasing AgentEvent.ticketSequence
      [streamedEvent 3, streamedEvent 7] := by
    rw [Resumption.Increasing]
    decide
  have delivered := (ticketStream_delivers increasing (by decide +kernel)
    (by intro event member; rw [ExactNumbers]; revert event; decide +kernel)
    (le_refl 0) (by decide) rfl followed).1
  have reached : (({ cursor := 0 } : StreamClient).readStream {}
      [streamedBytes [streamedEvent 3, streamedEvent 7]]).cursor = 7 := by
    decide +kernel
  rw [reached] at delivered
  have both : ([streamedEvent 3, streamedEvent 7].filter fun event =>
      0 < event.ticketSequence ∧ event.ticketSequence ≤ 7) =
        [streamedEvent 3, streamedEvent 7] := by
    decide +kernel
  rw [← both]
  exact delivered

/-- Past 2^53 two sequence numbers can be one number to the client: everything arrives and
the second event is never handled. -/
theorem ticketStream_drops_inexact :
    Resumption.Increasing AgentEvent.ticketSequence
        [streamedEvent (2 ^ 53), streamedEvent (2 ^ 53 + 1)] ∧
      (eventStream streamedScope 0
        [streamedQuery [streamedEvent (2 ^ 53), streamedEvent (2 ^ 53 + 1)]]).filterMap
          StreamItem.event? = [streamedEvent (2 ^ 53), streamedEvent (2 ^ 53 + 1)] ∧
      ¬List.Forall₂ Carries
        (({ cursor := 0 } : StreamClient).readStream {}
          [streamedBytes [streamedEvent (2 ^ 53), streamedEvent (2 ^ 53 + 1)]]).handled
        [streamedEvent (2 ^ 53), streamedEvent (2 ^ 53 + 1)] := by
  refine ⟨?_, ?_, ?_⟩
  · rw [Resumption.Increasing]
    decide
  · decide +kernel
  · intro all
    exact absurd all.length_eq (by decide +kernel)

/-! ## The log that is written -/

theorem EventLogInvariant.visibleLog_eq {database : Database}
    (invariant : EventLogInvariant database) (ticketId : String) :
    visibleLog ticketId database.events =
      (database.ticketLog ticketId).filter fun event => event.visibility = "customer" := by
  have ordered := Table.pairwise_of_map_eq_consecutive (invariant.ticketNumbers ticketId)
  rw [visibleLog, ← (ordered.filter _).insertionSort_eq, Database.ticketLog, List.filter_filter]
  simp only [Bool.decide_and, Bool.and_comm]

/-- Whatever runs and tickets events are appended to, what a query may see of a ticket is in
increasing order, and a later query sees it in front. -/
theorem appended_visibleLog (redactPii : PyText → PyText) (initial database : Database)
    (empty : initial.events = [])
    (reached : Relation.ReflTransGen (Appends redactPii) initial database) (ticketId : String) :
    Resumption.Increasing AgentEvent.ticketSequence (visibleLog ticketId database.events) ∧
      ∀ later, Relation.ReflTransGen (Appends redactPii) database later →
        visibleLog ticketId database.events <+: visibleLog ticketId later.events := by
  have invariant := EventLogInvariant.reached redactPii empty reached
  apply And.intro
  · rw [invariant.visibleLog_eq]
    apply List.Pairwise.filter
    have numbered := congrArg (List.Pairwise (· < ·)) (invariant.ticketNumbers ticketId)
    rw [List.pairwise_map, Table.consecutive, List.pairwise_map] at numbered
    exact numbered.mpr (List.pairwise_lt_range.imp fun less => by omega)
  · intro later further
    rw [invariant.visibleLog_eq,
      (EventLogInvariant.reached redactPii empty (reached.trans further)).visibleLog_eq]
    apply List.IsPrefix.filter
    induction further with
    | refl => exact List.prefix_rfl
    | tail _ last induction =>
        rcases last with ⟨request, event, returned⟩
        rw [ticketLog_append (appendEvent_frame redactPii returned).1]
        exact induction.trans (List.prefix_append _ _)

/-- Two runs write for the customer in turn. -/
theorem appended_visibleLog_interleaved :
    (visibleLog "ticket_1" appendExampleFirst.events).map AgentEvent.runId = ["run_1"] ∧
      (visibleLog "ticket_1" appendExampleSecond.events).map AgentEvent.runId =
        ["run_1", "run_2"] ∧
      Resumption.Increasing AgentEvent.ticketSequence
        (visibleLog "ticket_1" appendExampleSecond.events) ∧
      visibleLog "ticket_1" appendExampleFirst.events <+:
        visibleLog "ticket_1" appendExampleSecond.events := by
  have first : Appends id appendExample appendExampleFirst :=
    ⟨appendExampleRequest "run_1" "event_1", _, rfl⟩
  have second : Appends id appendExampleFirst appendExampleSecond :=
    ⟨appendExampleRequest "run_2" "event_2", _, rfl⟩
  have early := appended_visibleLog id appendExample appendExampleFirst rfl (.single first)
    "ticket_1"
  have late := appended_visibleLog id appendExample appendExampleSecond rfl
    ((Relation.ReflTransGen.single first).tail second) "ticket_1"
  exact ⟨by decide +kernel, by decide +kernel, late.1, early.2 _ (.single second)⟩

end SupportGuard
