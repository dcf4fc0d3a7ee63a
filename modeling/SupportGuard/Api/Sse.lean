import SupportGuard.Database.Rows
import SupportGuard.Foundation.PyConversion
import SupportGuard.Foundation.Resumption
import SupportGuard.Foundation.TextStream

/-! # The ticket event stream

`api/sse.py`: the customer's events of a ticket as server-sent events. A connection asks
the database again and again for the events past its cursor, at most 256 at a time. -/

namespace SupportGuard

open Foundation

/-! ## Public events -/

def publicEventStringFields : List String :=
  ["action_type", "freshness_status", "route", "tool_name"]

/-- An order in which the set of these fields is walked. -/
abbrev StringFieldOrder : Type :=
  { fields : List String // fields.Perm publicEventStringFields }

def publicEventOutcomes : List String :=
  ["answered", "completed", "executed", "failed", "needs_clarification", "proposed",
    "refused", "rejected", "resolved", "stopped", "withdrawn"]

def publicProjectionStatuses : List String :=
  ["approved", "executed", "executing", "failed", "manual_takeover_legacy", "pending",
    "rejected", "stale", "verification_pending", "withdrawn"]

/-- The member of a field that holds an admissible text. -/
def publicText (payload : Json) (admissible : String → Bool) (key : String) :
    Option (String × Json) :=
  match payload.get? key with
  | some (.string text) => if admissible text then some (key, .string text) else none
  | _ => none

def publicSourceCount (payload : Json) : Option (String × Json) :=
  match payload.get? "source_count" with
  | some (.integer count) =>
      if 0 ≤ count ∧ count ≤ 100 then some ("source_count", .integer count) else none
  | _ => none

/-- `_safe_public_event_payload`. -/
def safePublicEventPayload (order : StringFieldOrder) (payload : Json) :
    List (String × Json) :=
  order.val.filterMap
      (publicText payload fun text => 0 < text.length && text.length ≤ 64) ++
    ((publicText payload (· ∈ publicEventOutcomes) "outcome").toList ++
      ((publicText payload (· ∈ publicProjectionStatuses) "projection_status").toList ++
        (publicSourceCount payload).toList))

/-! ## Encoding -/

/-- The object that `encode_event` serialises. -/
def eventObject (order : StringFieldOrder) (event : AgentEvent) : Json :=
  .object
    [("ticket_sequence", .integer event.ticketSequence),
      ("run_id", .string event.runId),
      ("run_sequence", .integer event.runSequence),
      ("event_type", .string event.eventType),
      ("status", .string event.status),
      ("payload", .object (safePublicEventPayload order event.payload.value)),
      ("created_at", .string event.createdAt.isoformat)]

def idLabel : List Char := ['i', 'd', ':', ' ']

def eventLabel : List Char := ['e', 'v', 'e', 'n', 't', ':', ' ']

def dataLabel : List Char := ['d', 'a', 't', 'a', ':', ' ']

/-- The lines of a frame, without the blank line that ends it. -/
def eventLines (order : StringFieldOrder) (event : AgentEvent) : List Char :=
  (idLabel ++ JsonText.writeInteger event.ticketSequence) ++ '\n' ::
    ((eventLabel ++ event.eventType.toList) ++ '\n' ::
      (dataLabel ++ JsonText.write (eventObject order event)))

def encodeEvent (order : StringFieldOrder) (event : AgentEvent) : List Char :=
  eventLines order event ++ ['\n', '\n']

/-! ## The loop -/

/-- The comment that keeps a connection alive. -/
def heartbeatLine : List Char :=
  [':', ' ', 'h', 'e', 'a', 'r', 't', 'b', 'e', 'a', 't']

inductive StreamItem
  | event (row : AgentEvent)
  | heartbeat

namespace StreamItem

/-- What an item says, without the blank line that ends it. -/
def body (order : StringFieldOrder) : StreamItem → List Char
  | .event row => eventLines order row
  | .heartbeat => heartbeatLine

/-- What `event_stream` yields. -/
def text (order : StringFieldOrder) : StreamItem → List Char
  | .event row => encodeEvent order row
  | .heartbeat => heartbeatLine ++ ['\n', '\n']

def event? : StreamItem → Option AgentEvent
  | .event row => some row
  | .heartbeat => none

theorem text_eq (order : StringFieldOrder) (item : StreamItem) :
    item.text order = item.body order ++ ['\n', '\n'] := by
  cases item <;> rfl

end StreamItem

/-- The rows a customer may see of a ticket, in the order of their sequence. -/
def visibleLog (ticketId : String) (rows : List AgentEvent) : List AgentEvent :=
  (rows.filter fun row => row.ticketId = ticketId ∧ row.visibility = "customer").insertionSort
    fun left right => left.ticketSequence ≤ right.ticketSequence

/-- What the database holds when the loop asks it, and whether the last heartbeat is then
fifteen seconds old. -/
structure StreamQuery where
  tickets : List SupportTicket
  rows : List AgentEvent
  heartbeatDue : Bool

structure StreamScope where
  ticketId : String
  customerId : Option String

/-- `visible_events`; none for a ticket that is not the customer's. -/
def visibleEvents (scope : StreamScope) (query : StreamQuery) (after : Int) (limit : Nat) :
    Option (List AgentEvent) :=
  match query.tickets.find? (·.id = scope.ticketId) with
  | none => none
  | some ticket =>
      if some ticket.customerId = scope.customerId then
        some ((((query.rows.filter fun row => row.ticketId = scope.ticketId ∧
          after < row.ticketSequence ∧ row.visibility = "customer").insertionSort
            fun left right => left.ticketSequence ≤ right.ticketSequence)).take limit)
      else none

/-- `event_stream`: a turn of the loop per query. A ticket that is gone ends the stream. -/
def eventStream (scope : StreamScope) : Int → List StreamQuery → List StreamItem
  | _, [] => []
  | cursor, query :: queries =>
      match visibleEvents scope query cursor 256 with
      | none => []
      | some events =>
          events.map .event ++ ((if query.heartbeatDue then [.heartbeat] else []) ++
            eventStream scope (Resumption.advance AgentEvent.ticketSequence cursor events)
              queries)

/-! ## Opening a stream -/

/-- The cursor that `stream_ticket_events` takes from `Last-Event-ID`; none when it answers
that the header is invalid. -/
def lastEventCursor (header : Option (List Char)) : Option Int :=
  match header with
  | none | some [] => some 0
  | some text => (textInt? text).map (max 0)

section

variable {value : Nat}

theorem toDigits_isDigit :
    ∀ character ∈ Nat.toDigits 10 value, character.isDigit = true := by
  intro character member
  exact Nat.isDigit_of_mem_toDigits (by decide) (by decide) member

theorem digit_bounds {character : Char} (digit : character.isDigit = true) :
    48 ≤ character.toNat ∧ character.toNat ≤ 57 := by
  simpa [Char.isDigit, UInt32.le_iff_toNat_le] using digit

theorem decimalDigit?_isDigit {character : Char} (digit : character.isDigit = true) :
    decimalDigit? character = some (character.toNat - 48) := by
  have bounds := digit_bounds digit
  rw [decimalDigit?, decimalZeros, List.find?_cons_of_pos (by simp; omega)]
  rfl

theorem literalDigits?_isDigit {text : List Char} (nonempty : text ≠ [])
    (digits : ∀ character ∈ text, character.isDigit = true) :
    literalDigits? text = some (text.map fun character => character.toNat - 48) := by
  induction text with
  | nil => exact absurd rfl nonempty
  | cons digit rest induction =>
      have first := decimalDigit?_isDigit (digits digit List.mem_cons_self)
      cases rest with
      | nil => rw [literalDigits?, first]; rfl
      | cons next later =>
          have later_digits := induction (List.cons_ne_nil next later)
            fun character member => digits character (List.mem_cons_of_mem digit member)
          rw [literalDigits?.eq_4, first, later_digits]
          · rfl
          · exact nofun
          · intro others underscore
            rw [(List.cons.inj underscore).1] at digits
            exact absurd (digits '_' (by simp)) (by decide)

theorem stripSpace_isDigit {text : List Char}
    (digits : ∀ character ∈ text, character.isDigit = true) : stripSpace text = text := by
  have kept : ∀ items : List Char, (∀ character ∈ items, character.isDigit = true) →
      items.dropWhile isTextSpace = items := by
    intro items digits
    rw [List.dropWhile_eq_self_iff]
    intro nonempty
    have bounds := digit_bounds (digits _ (List.getElem_mem nonempty))
    simp [isTextSpace]
    omega
  rw [stripSpace, kept text digits, kept text.reverse, List.reverse_reverse]
  intro character member
  exact digits character (List.mem_reverse.mp member)

theorem textInt?_toDigits (short : (Nat.toDigits 10 value).length ≤ maxStrDigits) :
    textInt? (Nat.toDigits 10 value) = some (value : Int) := by
  have read : unsignedInt? (Nat.toDigits 10 value) = some value := by
    rw [unsignedInt?, literalDigits?_isDigit Nat.toDigits_ne_nil toDigits_isDigit,
      Option.bind_some, List.length_map, if_neg (by omega), List.foldl_map]
    conv_rhs => rw [← @Nat.ofDigitChars_ten_toDigits value, Nat.ofDigitChars_eq_foldl]
    simp only [Nat.mul_comm]
    rfl
  rw [textInt?, stripSpace_isDigit toDigits_isDigit]
  split
  · next digits equal =>
      exact absurd (toDigits_isDigit '-' (by rw [equal]; exact List.mem_cons_self)) (by decide)
  · next digits equal =>
      exact absurd (toDigits_isDigit '+' (by rw [equal]; exact List.mem_cons_self)) (by decide)
  · rw [read]
    rfl

end

/-- The header that names a cursor opens the stream at it. -/
theorem lastEventCursor_writeInteger {cursor : Int} (start : 0 ≤ cursor)
    (short : cursor ≤ 2 ^ 53) :
    lastEventCursor (some (JsonText.writeInteger cursor)) = some cursor := by
  obtain ⟨value, rfl⟩ := Int.eq_ofNat_of_zero_le start
  have length : (Nat.toDigits 10 value).length ≤ maxStrDigits := by
    apply Nat.le_trans ((Nat.length_toDigits_le_iff (by decide) (by decide)).mpr _)
      (by decide : 16 ≤ maxStrDigits)
    omega
  have read := textInt?_toDigits length
  have written : JsonText.writeInteger (value : Int) = Nat.toDigits 10 value := rfl
  rw [written]
  unfold lastEventCursor
  split
  · next missing => cases missing
  · next empty => exact absurd (Option.some.inj empty) Nat.toDigits_ne_nil
  · next text _ equal =>
      cases equal
      simp [read]

/-! ## Frames -/

theorem StreamItem.isFrame_body (order : StringFieldOrder) (item : StreamItem)
    (single : ∀ row ∈ item.event?, '\n' ∉ row.eventType.toList) :
    IsFrame (item.body order) := by
  cases item with
  | heartbeat => exact IsFrame.line (by decide : '\n' ∉ heartbeatLine)
  | event row =>
      have number := JsonText.newline_notMem_of_number
        (JsonText.writeInteger_number row.ticketSequence)
      have name := single row rfl
      have data := JsonText.newline_notMem_write (eventObject order row)
      apply IsFrame.cons
      · simp [number, idLabel]
      · apply IsFrame.cons
        · simp [name, eventLabel]
        · apply IsFrame.line
          simp [data, dataLabel]
        · simp [dataLabel]
        · simp [dataLabel]
      · simp [eventLabel]
      · simp [eventLabel]

/-- An item opens with a letter or a colon. -/
theorem StreamItem.head_body (order : StringFieldOrder) (item : StreamItem) :
    ∃ first rest, item.body order = first :: rest ∧ first ≠ '\uFEFF' := by
  cases item with
  | event row => exact ⟨'i', _, rfl, by decide⟩
  | heartbeat => exact ⟨':', _, rfl, by decide⟩

/-- Whatever bytes arrive complete the bodies of the items sent first. -/
theorem StreamItem.framesOf_text (order : StringFieldOrder) (items : List StreamItem)
    (single : ∀ row ∈ items.filterMap StreamItem.event?, '\n' ∉ row.eventType.toList) :
    framesOf (JsonText.utf8 (items.flatMap (StreamItem.text order))) =
      items.map (StreamItem.body order) := by
  have joined : items.flatMap (StreamItem.text order) =
      (items.map (StreamItem.body order)).flatMap (· ++ ['\n', '\n']) := by
    rw [List.flatMap_map]
    congr 1
    funext item
    exact text_eq order item
  rw [joined]
  apply framesOf_utf8
  · intro body member
    obtain ⟨item, present, rfl⟩ := List.mem_map.mp member
    apply isFrame_body
    intro row event
    exact single row (List.mem_filterMap.mpr ⟨item, present, event⟩)
  · cases items with
    | nil => simp
    | cons item rest =>
        obtain ⟨first, tail, equal, plain⟩ := head_body order item
        rw [List.map_cons, List.flatMap_cons, equal]
        simpa using plain

/-! ## Pages -/

/-- Selecting past a cursor and sorting is sorting and reading on from the cursor. -/
theorem selected_eq (ticketId : String) (rows : List AgentEvent) (after : Int)
    (increasing : Resumption.Increasing AgentEvent.ticketSequence (visibleLog ticketId rows)) :
    ((rows.filter fun row => row.ticketId = ticketId ∧ after < row.ticketSequence ∧
        row.visibility = "customer").insertionSort
          fun left right => left.ticketSequence ≤ right.ticketSequence) =
      Resumption.remaining AgentEvent.ticketSequence (visibleLog ticketId rows) after := by
  have selected : (rows.filter fun row => row.ticketId = ticketId ∧
      after < row.ticketSequence ∧ row.visibility = "customer") =
        Resumption.remaining AgentEvent.ticketSequence (rows.filter fun row =>
          row.ticketId = ticketId ∧ row.visibility = "customer") after := by
    rw [Resumption.remaining, List.filter_filter]
    apply List.filter_congr
    intro row _
    rw [← Bool.decide_and, decide_eq_decide]
    tauto
  have permuted : (Resumption.remaining AgentEvent.ticketSequence
      (visibleLog ticketId rows) after).Perm
        ((rows.filter fun row => row.ticketId = ticketId ∧ after < row.ticketSequence ∧
          row.visibility = "customer").insertionSort
            fun left right => left.ticketSequence ≤ right.ticketSequence) := by
    apply List.Perm.trans _ (List.perm_insertionSort _ _).symm
    rw [selected]
    exact (List.perm_insertionSort _ _).filter _
  apply List.Perm.eq_of_pairwise _ (List.pairwise_insertionSort _ _) _ permuted.symm
  · intro early late earlyMember lateMember less more
    have earlyLog := (List.mem_filter.mp (permuted.symm.subset earlyMember)).1
    have lateLog := (List.mem_filter.mp lateMember).1
    exact increasing.injective earlyLog lateLog (Int.le_antisymm less more)
  · exact (increasing.filter _).imp fun less => Int.le_of_lt less

theorem visibleEvents_eq {scope : StreamScope} {query : StreamQuery} {after : Int}
    {limit : Nat} {events : List AgentEvent}
    (increasing : Resumption.Increasing AgentEvent.ticketSequence
      (visibleLog scope.ticketId query.rows))
    (found : visibleEvents scope query after limit = some events) :
    events = (Resumption.remaining AgentEvent.ticketSequence
      (visibleLog scope.ticketId query.rows) after).take limit := by
  unfold visibleEvents at found
  split at found
  · cases found
  · split at found
    · cases found
      rw [selected_eq _ _ _ increasing]
    · cases found

/-- Every query sees a part of the log: its events become visible in order. -/
def SeesPrefix (scope : StreamScope) (log : List AgentEvent) (queries : List StreamQuery) :
    Prop :=
  ∀ query ∈ queries, visibleLog scope.ticketId query.rows <+: log

/-- A connection sends the events past its cursor, from the first on. -/
theorem eventStream_startsWith {scope : StreamScope} {log : List AgentEvent}
    (increasing : Resumption.Increasing AgentEvent.ticketSequence log)
    {queries : List StreamQuery} (visible : SeesPrefix scope log queries) (cursor : Int) :
    (eventStream scope cursor queries).filterMap StreamItem.event? <+:
      Resumption.remaining AgentEvent.ticketSequence log cursor := by
  induction queries generalizing cursor with
  | nil => exact List.nil_prefix
  | cons query queries induction =>
      have seen := visible query List.mem_cons_self
      have later := induction fun other present => visible other (List.mem_cons_of_mem _ present)
      rw [eventStream]
      split
      · exact List.nil_prefix
      · next events found =>
          have page := visibleEvents_eq (increasing.sublist seen.sublist) found
          have early : events <+: Resumption.remaining AgentEvent.ticketSequence log cursor := by
            rw [page]
            exact (List.take_prefix _ _).trans (Resumption.remaining_prefix seen cursor)
          obtain ⟨rest, whole⟩ := early
          have next := later (Resumption.advance AgentEvent.ticketSequence cursor events)
          rw [Resumption.remaining_advance increasing whole.symm] at next
          have silent : (if query.heartbeatDue then [StreamItem.heartbeat] else []).filterMap
              StreamItem.event? = [] := by
            split <;> rfl
          have sent : (events.map StreamItem.event).filterMap StreamItem.event? = events := by
            rw [List.filterMap_map]
            exact List.filterMap_some
          rw [List.filterMap_append, List.filterMap_append, sent, silent, List.nil_append,
            ← whole]
          exact (List.prefix_append_right_inj events).mpr next

end SupportGuard
