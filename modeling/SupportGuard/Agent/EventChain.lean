import Mathlib.Data.List.Chain
import SupportGuard.Database.Rows
import SupportGuard.Foundation.Fallible
import SupportGuard.Foundation.HashChain
import SupportGuard.Foundation.JsonText
import SupportGuard.Foundation.Sha256
import SupportGuard.Foundation.Table

/-! # The event chain of a ticket

`agent/persistence.py`: the envelope and the hash of an event, and the check of
a ticket's persisted events. -/

namespace SupportGuard

open Foundation Fallible

def genesisEventHash : String :=
  "0000000000000000000000000000000000000000000000000000000000000000"

def eventSchemaVersion : String := "support-ticket-event.v1"

def canonicalizationVersion : String := "json-sort-keys.v1"

def eventHashSchemaVersion : String := "event-hash.v1"

inductive EventRaise
  | runtimeError (message : String)
  | canonicalEventHeadConflict (message : String)
  | unicodeEncodeError
  | overflowError (message : String)
  | integrityError (constraint : String)
deriving DecidableEq

/-! ## Hashes -/

def payloadBytes (payload : Json) : List UInt8 :=
  JsonText.utf8 (JsonText.encode payload)

def eventPayloadHash (payload : Json) : String :=
  Sha256.hexDigest (payloadBytes payload)

def canonicalCreatedAt (value : DateTime) : Except EventRaise String :=
  match value.instant? with
  | some instant => .ok instant.isoformat
  | none => .error (.overflowError "date value out of range")

def envelopeMembers (event : AgentEvent) (createdAt : String) : List (String × Json) :=
  [("aggregate_type", .string "SupportTicket"),
    ("aggregate_id", .string event.ticketId),
    ("tenant_id", .string event.tenantId),
    ("customer_id", .string event.customerId),
    ("event_id", .string event.id),
    ("ticket_sequence", .integer event.ticketSequence),
    ("run_id", .string event.runId),
    ("run_sequence", .integer event.runSequence),
    ("job_id", Json.optionalText event.jobId),
    ("delivery_generation", Json.optionalInteger event.deliveryGeneration),
    ("fencing_token", Json.optionalInteger event.fencingToken),
    ("step_index", .integer event.stepIndex),
    ("tool_round", .integer event.toolRound),
    ("event_type", .string event.eventType),
    ("status", .string event.status),
    ("visibility", .string event.visibility),
    ("tool_call_id", Json.optionalText event.toolCallId),
    ("payload_hash", .string event.payloadHash),
    ("previous_event_id", Json.optionalText event.previousEventId),
    ("correlation_id", .string event.correlationId),
    ("causation_id", Json.optionalText event.causationId),
    ("idempotency_id", Json.optionalText event.idempotencyId),
    ("created_at", .string createdAt),
    ("event_schema_version", .string event.eventSchemaVersion),
    ("canonicalization_version", .string event.canonicalizationVersion)]

def eventEnvelope (event : AgentEvent) : Except EventRaise Json := do
  let createdAt ← canonicalCreatedAt event.createdAt
  .ok (.object (envelopeMembers event createdAt))

/-- What is hashed for an event: the hash version, the envelope and the hash of
the event before it. -/
def eventMessage (version : String) (envelope : Json) (previousEventHash : String) :
    List UInt8 :=
  JsonText.utf8
    (version.toList ++ JsonText.encode envelope ++ previousEventHash.toList)

def eventHash (event : AgentEvent) (previousEventHash : String) :
    Except EventRaise String := do
  let envelope ← eventEnvelope event
  .ok (Sha256.hexDigest
    (eventMessage event.eventHashSchemaVersion envelope previousEventHash))

/-! ## Verification -/

def ticketSequenceLe (left right : AgentEvent) : Prop :=
  left.ticketSequence ≤ right.ticketSequence

instance : DecidableRel ticketSequenceLe :=
  fun left right => inferInstanceAs (Decidable (left.ticketSequence ≤ right.ticketSequence))

/-- The events of a ticket in the order of their ticket sequence. -/
def ticketEvents (events : List AgentEvent) (ticketId : String) : List AgentEvent :=
  (events.filter fun event => event.ticketId = ticketId).insertionSort ticketSequenceLe

/-- The variables of the verification loop: the expected sequence number, and the
hash, id and run of the event before. -/
structure ChainCursor where
  expectedSequence : Int := 1
  parentHash : String := genesisEventHash
  parentId : Option String := none
  parentRunId : Option String := none

def verifyEvent (cursor : ChainCursor) (event : AgentEvent) :
    Except EventRaise ChainCursor := do
  let expectedHash ← eventHash event cursor.parentHash
  let expectedParentId :=
    if cursor.parentRunId = some event.runId then cursor.parentId else none
  refuseWhen (event.ticketSequence ≠ cursor.expectedSequence ∨
      event.parentEventHash ≠ cursor.parentHash ∨
      event.previousEventId ≠ expectedParentId ∨
      event.payloadHash ≠ eventPayloadHash event.payload.value ∨
      event.eventSchemaVersion ≠ eventSchemaVersion ∨
      event.canonicalizationVersion ≠ canonicalizationVersion ∨
      event.eventHashSchemaVersion ≠ eventHashSchemaVersion ∨
      event.correlationId ≠ event.runId ∨
      event.eventHash ≠ expectedHash)
    (.runtimeError "ticket_event_chain_invalid")
  .ok
    { expectedSequence := cursor.expectedSequence + 1
      parentHash := event.eventHash
      parentId := some event.id
      parentRunId := some event.runId }

def verifyEvents (cursor : ChainCursor) : List AgentEvent → Except EventRaise ChainCursor
  | [] => .ok cursor
  | event :: rest => do
      let next ← verifyEvent cursor event
      verifyEvents next rest

def verifyTicketEventChain (events : List AgentEvent) (ticketId : String) :
    Except EventRaise String :=
  match ticketEvents events ticketId with
  | [] => .error (.runtimeError "ticket_event_chain_empty")
  | event :: rest => do
      let final ← verifyEvents {} (event :: rest)
      .ok final.parentHash

/-! ## The envelope identifies the event -/

/-- The envelope of an event as a list of members, with the created-at text the
envelope uses. -/
structure SealedEvent where
  event : AgentEvent
  createdAt : String
  canonical : canonicalCreatedAt event.createdAt = .ok createdAt

namespace SealedEvent

def members (record : SealedEvent) : List (String × Json) :=
  envelopeMembers record.event record.createdAt

def message (record : SealedEvent) (previousEventHash : String) : List UInt8 :=
  eventMessage eventHashSchemaVersion (.object record.members) previousEventHash

theorem eventEnvelope_eq (record : SealedEvent) :
    eventEnvelope record.event = .ok (.object record.members) := by
  rw [eventEnvelope, record.canonical]
  rfl

theorem members_keys (left right : SealedEvent) :
    left.members.map Prod.fst = right.members.map Prod.fst :=
  rfl

theorem members_nodup_keys (record : SealedEvent) :
    (record.members.map Prod.fst).Nodup := by
  show (["aggregate_type", "aggregate_id", "tenant_id", "customer_id", "event_id",
    "ticket_sequence", "run_id", "run_sequence", "job_id", "delivery_generation",
    "fencing_token", "step_index", "tool_round", "event_type", "status", "visibility",
    "tool_call_id", "payload_hash", "previous_event_id", "correlation_id",
    "causation_id", "idempotency_id", "created_at", "event_schema_version",
    "canonicalization_version"] : List String).Nodup
  decide

/-- Every envelope field is a scalar, so sorting only reorders the fields. -/
theorem sortMembers_members (record : SealedEvent) :
    Json.sortMembers record.members = record.members := by
  have optionalTextSort (text : Option String) :
      (Json.optionalText text).sortKeys = Json.optionalText text := by
    cases text <;> rfl
  have optionalIntegerSort (value : Option Int) :
      (Json.optionalInteger value).sortKeys = Json.optionalInteger value := by
    cases value <;> rfl
  simp only [members, envelopeMembers, Json.sortMembers, Json.sortKeys,
    optionalTextSort, optionalIntegerSort]

/-- Equal messages have equal envelopes and follow equal hashes: the text of the
envelope ends where its object closes. -/
theorem message_injective (left : SealedEvent) (leftParent : String)
    (right : SealedEvent) (rightParent : String)
    (equal : left.message leftParent = right.message rightParent) :
    left.members = right.members ∧ leftParent = rightParent := by
  rw [message, message, eventMessage, eventMessage,
    JsonText.utf8_injective.eq_iff] at equal
  simp only [List.append_assoc, List.append_cancel_left_eq, JsonText.encode,
    Json.sortKeys] at equal
  rcases JsonText.write_object_append_injective equal with ⟨sorted, parents⟩
  refine ⟨?_, String.toList_inj.mp parents⟩
  rw [sortMembers_members, sortMembers_members] at sorted
  apply Json.eq_of_insertionSort_eq sorted (members_keys left right)
  exact members_nodup_keys left

end SealedEvent

/-! ## Tamper evidence -/

/-- The messages that verification hashes for a list of events: each payload,
and each event behind the hash of the one before it. -/
def chainMessages : String → List AgentEvent → List (List UInt8)
  | _, [] => []
  | parentHash, event :: rest =>
      payloadBytes event.payload.value ::
        ((match eventEnvelope event with
          | .ok envelope =>
              [eventMessage event.eventHashSchemaVersion envelope parentHash]
          | .error _ => []) ++
          chainMessages event.eventHash rest)

def verificationMessages (events : List AgentEvent) (ticketId : String) :
    List (List UInt8) :=
  chainMessages genesisEventHash (ticketEvents events ticketId)

/-- What the checks on one event establish. -/
structure LinkedEvent (cursor : ChainCursor) (event : AgentEvent) : Prop where
  ticketSequence : event.ticketSequence = cursor.expectedSequence
  parentEventHash : event.parentEventHash = cursor.parentHash
  previousEventId : event.previousEventId =
    if cursor.parentRunId = some event.runId then cursor.parentId else none
  payloadHash : event.payloadHash = eventPayloadHash event.payload.value
  eventSchemaVersion : event.eventSchemaVersion = SupportGuard.eventSchemaVersion
  canonicalizationVersion :
    event.canonicalizationVersion = SupportGuard.canonicalizationVersion
  eventHashSchemaVersion :
    event.eventHashSchemaVersion = SupportGuard.eventHashSchemaVersion
  correlationId : event.correlationId = event.runId
  eventHash : SupportGuard.eventHash event cursor.parentHash = .ok event.eventHash

def ChainCursor.after (cursor : ChainCursor) (event : AgentEvent) : ChainCursor where
  expectedSequence := cursor.expectedSequence + 1
  parentHash := event.eventHash
  parentId := some event.id
  parentRunId := some event.runId

variable {event : AgentEvent}

theorem verifyEvent_eq_ok_iff {cursor next : ChainCursor} :
    verifyEvent cursor event = .ok next ↔
      LinkedEvent cursor event ∧ next = cursor.after event := by
  simp only [verifyEvent, bind_eq_ok_iff, refuseWhen_eq_ok_iff, exists_const, not_or,
    not_not, ne_eq]
  constructor
  · intro accepted
    rcases accepted with ⟨expectedHash, hashed, checks, built⟩
    rcases checks with ⟨sequence, parent, previous, payload, schema, canonical, version,
      correlation, hash⟩
    cases built
    exact ⟨⟨sequence, parent, previous, payload, schema, canonical, version, correlation,
      hash ▸ hashed⟩, rfl⟩
  · intro accepted
    rcases accepted with ⟨linked, rfl⟩
    exact ⟨event.eventHash, linked.eventHash, ⟨linked.ticketSequence,
      linked.parentEventHash, linked.previousEventId, linked.payloadHash,
      linked.eventSchemaVersion, linked.canonicalizationVersion,
      linked.eventHashSchemaVersion, linked.correlationId, rfl⟩, rfl⟩

/-- The cursor behind a list of events. -/
def ChainCursor.behind (cursor : ChainCursor) (events : List AgentEvent) : ChainCursor :=
  events.foldl ChainCursor.after cursor

@[simp] theorem ChainCursor.behind_nil (cursor : ChainCursor) : cursor.behind [] = cursor :=
  rfl

theorem ChainCursor.behind_append_singleton (cursor : ChainCursor)
    (events : List AgentEvent) (event : AgentEvent) :
    cursor.behind (events ++ [event]) = (cursor.behind events).after event := by
  simp [ChainCursor.behind]

theorem ChainCursor.behind_expectedSequence (cursor : ChainCursor)
    (events : List AgentEvent) :
    (cursor.behind events).expectedSequence =
      cursor.expectedSequence + events.length := by
  induction events using List.reverseRecOn with
  | nil => simp
  | append_singleton rest last induction =>
      rw [behind_append_singleton, after, induction]
      simp
      omega

variable {events : List AgentEvent}

/-- A list is verified exactly when each event is linked to those before it. -/
theorem verifyEvents_append_singleton {cursor final : ChainCursor} :
    verifyEvents cursor (events ++ [event]) = .ok final ↔
      verifyEvents cursor events = .ok (cursor.behind events) ∧
        LinkedEvent (cursor.behind events) event ∧
        final = cursor.behind (events ++ [event]) := by
  induction events generalizing cursor with
  | nil =>
      simp only [List.nil_append, verifyEvents, bind_eq_ok_iff, verifyEvent_eq_ok_iff,
        Except.ok.injEq, true_and, ChainCursor.behind_nil]
      constructor
      · intro verified
        rcases verified with ⟨_, ⟨linked, rfl⟩, rfl⟩
        exact ⟨linked, rfl⟩
      · intro verified
        rcases verified with ⟨linked, rfl⟩
        exact ⟨_, ⟨linked, rfl⟩, rfl⟩
  | cons head tail induction =>
      simp only [List.cons_append, verifyEvents, bind_eq_ok_iff, verifyEvent_eq_ok_iff,
        induction]
      constructor
      · intro verified
        rcases verified with ⟨_, ⟨linked, rfl⟩, checked, last, equal⟩
        exact ⟨⟨_, ⟨linked, rfl⟩, checked⟩, last, equal⟩
      · intro verified
        rcases verified with ⟨⟨_, ⟨linked, rfl⟩, checked⟩, last, equal⟩
        exact ⟨_, ⟨linked, rfl⟩, checked, last, equal⟩

/-- In a verified list, the events are numbered from the cursor on. -/
theorem verifyEvents_ticketSequence {cursor final : ChainCursor}
    (verified : verifyEvents cursor events = .ok final) :
    final = cursor.behind events ∧
      events.map AgentEvent.ticketSequence =
        Table.consecutive cursor.expectedSequence events.length := by
  induction events using List.reverseRecOn generalizing final with
  | nil =>
      cases verified
      exact ⟨rfl, rfl⟩
  | append_singleton rest last induction =>
      rcases verifyEvents_append_singleton.mp verified with ⟨earlier, linked, equal⟩
      refine ⟨equal, ?_⟩
      rw [List.map_append, (induction earlier).2, List.length_append,
        List.length_singleton, Table.consecutive_succ, List.map_singleton,
        linked.ticketSequence, ChainCursor.behind_expectedSequence]

/-- In a verified list, each event is linked to the one right before it. -/
theorem verifyEvents_previousEventId {final : ChainCursor}
    (verified : verifyEvents {} events = .ok final) :
    (∀ first ∈ events.head?, first.previousEventId = none) ∧
      events.IsChain fun before event => event.previousEventId =
        if before.runId = event.runId then some before.id else none := by
  induction events using List.reverseRecOn generalizing final with
  | nil => simp
  | append_singleton rest last induction =>
      rcases verifyEvents_append_singleton.mp verified with ⟨earlier, linked, _⟩
      have previous := linked.previousEventId
      have chained := induction earlier
      cases rest using List.reverseRecOn with
      | nil => simpa using previous
      | append_singleton front before =>
          rw [ChainCursor.behind_append_singleton] at previous
          simp only [ChainCursor.after, Option.some.injEq] at previous
          refine ⟨?_, ?_⟩
          · intro first member
            rw [List.head?_append_of_ne_nil _ (by simp)] at member
            exact chained.1 first member
          · apply List.IsChain.append chained.2 (.singleton last)
            intro left leftLast right rightFirst
            simp only [List.getLast?_concat, Option.mem_def, Option.some.injEq] at leftLast
            simp only [List.head?_cons, Option.mem_def, Option.some.injEq] at rightFirst
            subst leftLast rightFirst
            exact previous

/-- A linked event has an envelope, and its hash is that of its message. -/
theorem LinkedEvent.sealed {cursor : ChainCursor} (linked : LinkedEvent cursor event) :
    ∃ record : SealedEvent, record.event = event ∧
      event.eventHash = Sha256.hexDigest (record.message cursor.parentHash) := by
  rcases bind_eq_ok_iff.mp linked.eventHash with ⟨envelope, enveloped, digest⟩
  rcases bind_eq_ok_iff.mp enveloped with ⟨createdAt, canonical, built⟩
  cases built
  rw [Except.ok.injEq, linked.eventHashSchemaVersion] at digest
  exact ⟨⟨event, createdAt, canonical⟩, rfl, digest.symm⟩

/-- A verified list of events is a hash chain over its envelopes. -/
theorem verifyEvents_eq_ok {cursor final : ChainCursor}
    (verified : verifyEvents cursor events = .ok final) :
    ∃ records : List SealedEvent, records.map SealedEvent.event = events ∧
      (∀ event ∈ events, event.payloadHash = eventPayloadHash event.payload.value) ∧
      final.parentHash =
        HashChain.head Sha256.hexDigest SealedEvent.message cursor.parentHash records ∧
      HashChain.messages Sha256.hexDigest SealedEvent.message cursor.parentHash records ⊆
        chainMessages cursor.parentHash events := by
  induction events generalizing cursor with
  | nil =>
      cases verified
      exact ⟨[], rfl, by simp, rfl, by simp [HashChain.messages]⟩
  | cons event rest induction =>
      rcases bind_eq_ok_iff.mp verified with ⟨next, checked, following⟩
      rcases verifyEvent_eq_ok_iff.mp checked with ⟨linked, rfl⟩
      rcases linked.sealed with ⟨record, rfl, hash⟩
      rcases induction following with ⟨records, mapped, payloads, heads, occurs⟩
      refine ⟨record :: records, by rw [List.map_cons, mapped], ?_, ?_, ?_⟩
      · intro event member
        rcases List.mem_cons.mp member with equal | later
        · rw [equal]
          exact linked.payloadHash
        · exact payloads event later
      · rw [heads, ChainCursor.after, hash]
        rfl
      · rw [HashChain.messages, ← hash]
        intro message member
        rcases List.mem_cons.mp member with equal | later
        · rw [chainMessages, record.eventEnvelope_eq, linked.eventHashSchemaVersion, equal]
          simp [SealedEvent.message]
        · rw [chainMessages]
          exact List.mem_cons_of_mem _ (List.mem_append_right _ (occurs later))

theorem verifyTicketEventChain_eq_ok {ticketId head : String}
    (verified : verifyTicketEventChain events ticketId = .ok head) :
    ∃ final, verifyEvents {} (ticketEvents events ticketId) = .ok final ∧
      final.parentHash = head := by
  unfold verifyTicketEventChain at verified
  split at verified
  · cases verified
  · rename_i event rest selected
    rw [selected]
    rcases bind_eq_ok_iff.mp verified with ⟨final, checked, equal⟩
    cases equal
    exact ⟨final, checked, rfl⟩

theorem payloadBytes_mem_chainMessages (member : event ∈ events) (parentHash : String) :
    payloadBytes event.payload.value ∈ chainMessages parentHash events := by
  induction events generalizing parentHash with
  | nil => cases member
  | cons head tail induction =>
      rw [chainMessages]
      rcases List.mem_cons.mp member with equal | later
      · rw [equal]
        exact List.mem_cons_self
      · exact List.mem_cons_of_mem _ (List.mem_append_right _ (induction later _))

/-- Two verified lists of one ticket's events with the same head hash agree event
by event, on the envelope and on the payload as a JSON value, unless the hash
collides on the messages that verifying them hashes, or maps one of them to the
genesis value. -/
theorem verifyTicketEventChain_tamperEvident (left right : List AgentEvent)
    (ticketId head : String)
    (leftVerified : verifyTicketEventChain left ticketId = .ok head)
    (rightVerified : verifyTicketEventChain right ticketId = .ok head)
    (collisionFree : HashChain.CollisionFree Sha256.hexDigest
      (verificationMessages left ticketId ++ verificationMessages right ticketId))
    (avoidsGenesis : HashChain.Avoids Sha256.hexDigest genesisEventHash
      (verificationMessages left ticketId ++ verificationMessages right ticketId)) :
    List.Forall₂
      (fun leftEvent rightEvent =>
        (∃ envelope, eventEnvelope leftEvent = .ok envelope ∧
          eventEnvelope rightEvent = .ok envelope) ∧
        leftEvent.payload.value.Same rightEvent.payload.value)
      (ticketEvents left ticketId) (ticketEvents right ticketId) := by
  rcases verifyTicketEventChain_eq_ok leftVerified with
    ⟨leftFinal, leftChecked, leftEqual⟩
  rcases verifyTicketEventChain_eq_ok rightVerified with
    ⟨rightFinal, rightChecked, rightEqual⟩
  rcases verifyEvents_eq_ok leftChecked with
    ⟨leftRecords, leftMapped, leftPayloads, leftHead, leftOccurs⟩
  rcases verifyEvents_eq_ok rightChecked with
    ⟨rightRecords, rightMapped, rightPayloads, rightHead, rightOccurs⟩
  have agree := HashChain.forall₂_of_head_eq SealedEvent.message_injective
    collisionFree avoidsGenesis leftRecords rightRecords
    (List.Subset.trans leftOccurs (List.subset_append_left _ _))
    (List.Subset.trans rightOccurs (List.subset_append_right _ _))
    (leftHead.symm.trans (leftEqual.trans (rightEqual.symm.trans rightHead)))
  rw [← leftMapped] at leftPayloads
  rw [← rightMapped] at rightPayloads
  rw [← leftMapped, ← rightMapped, List.forall₂_map_left_iff, List.forall₂_map_right_iff]
  apply HashChain.forall₂_of_mem agree
  intro leftRecord leftMember rightRecord rightMember members
  have leftEventMember : leftRecord.event ∈ leftRecords.map SealedEvent.event :=
    List.mem_map_of_mem leftMember
  have rightEventMember : rightRecord.event ∈ rightRecords.map SealedEvent.event :=
    List.mem_map_of_mem rightMember
  refine ⟨⟨_, leftRecord.eventEnvelope_eq, members ▸ rightRecord.eventEnvelope_eq⟩, ?_⟩
  have payloadHashes : leftRecord.event.payloadHash = rightRecord.event.payloadHash := by
    simp only [SealedEvent.members, envelopeMembers, List.cons.injEq, Prod.mk.injEq,
      Json.string.injEq, true_and] at members
    tauto
  rw [leftPayloads _ leftEventMember, rightPayloads _ rightEventMember] at payloadHashes
  have bytes := collisionFree _
    (List.mem_append_left _ (payloadBytes_mem_chainMessages
      (leftMapped ▸ leftEventMember) genesisEventHash)) _
    (List.mem_append_right _ (payloadBytes_mem_chainMessages
      (rightMapped ▸ rightEventMember) genesisEventHash)) payloadHashes
  rw [payloadBytes, payloadBytes, JsonText.utf8_injective.eq_iff] at bytes
  exact (JsonText.encode_eq_iff_same leftRecord.event.payload.uniqueKeys
    rightRecord.event.payload.uniqueKeys).mp bytes

/-! Two events of a ticket, stored in either order and with their payload in either key order. -/

def firstHash : String :=
  "ad79b4ff7de4d32adb71b07f09cb9c6353aa5b510d58cb010a84b90131e12400"

def secondHash : String :=
  "206aeced5c7fafbb26c0647ceccb886b1d55edf65f8c82a079c3e79c34e954df"

def exampleEvent (payload : JsonDocument) : AgentEvent where
  id := "event_1"
  tenantId := "tenant"
  runId := "run_1"
  ticketId := "ticket_1"
  customerId := "customer"
  sequence := 1
  ticketSequence := 1
  runSequence := 1
  jobId := none
  stepIndex := 0
  toolRound := 0
  eventType := "run_started"
  status := "completed"
  visibility := "customer"
  toolCallId := none
  payload := payload
  payloadHash := "43258cff783fe7036d8a43033f830adfc60ec037382473548ac742b888292777"
  previousEventId := none
  parentEventHash := genesisEventHash
  eventHash := firstHash
  eventSchemaVersion := eventSchemaVersion
  canonicalizationVersion := canonicalizationVersion
  eventHashSchemaVersion := eventHashSchemaVersion
  correlationId := "run_1"
  causationId := none
  idempotencyId := none
  deliveryGeneration := none
  fencingToken := none
  createdAt := ⟨⟨63919670400000000, Instant.july2026_inRange⟩, none⟩

/-- The event of the run behind it. -/
def followingEvent (payload : JsonDocument) : AgentEvent :=
  { exampleEvent payload with
    id := "event_2"
    sequence := 2
    ticketSequence := 2
    runSequence := 2
    previousEventId := some "event_1"
    parentEventHash := firstHash
    eventHash := secondHash }

def ascendingPayload : JsonDocument where
  value := .object [("a", .integer 1), ("b", .integer 2)]
  uniqueKeys := ⟨by decide, trivial, trivial, trivial⟩

def descendingPayload : JsonDocument where
  value := .object [("b", .integer 2), ("a", .integer 1)]
  uniqueKeys := ⟨by decide, trivial, trivial, trivial⟩

def exampleMessage : List UInt8 :=
  SealedEvent.message ⟨exampleEvent ascendingPayload, _, rfl⟩ genesisEventHash

def followingMessage : List UInt8 :=
  SealedEvent.message ⟨followingEvent ascendingPayload, _, rfl⟩ firstHash

theorem examplePayload_hash :
    Sha256.hexDigest (payloadBytes ascendingPayload.value) =
      "43258cff783fe7036d8a43033f830adfc60ec037382473548ac742b888292777" := by
  decide +kernel

theorem exampleMessage_hash : Sha256.hexDigest exampleMessage = firstHash := by
  decide +kernel

theorem followingMessage_hash : Sha256.hexDigest followingMessage = secondHash := by
  decide +kernel

theorem descendingPayload_bytes :
    payloadBytes descendingPayload.value = payloadBytes ascendingPayload.value := by
  decide +kernel

variable {payload : JsonDocument}

theorem exampleEvents_verified {rows : List AgentEvent}
    (selected : ticketEvents rows "ticket_1" = [exampleEvent payload, followingEvent payload])
    (bytes : payloadBytes payload.value = payloadBytes ascendingPayload.value) :
    verifyTicketEventChain rows "ticket_1" = .ok secondHash := by
  have payloadHashed : (exampleEvent payload).payloadHash = eventPayloadHash payload.value := by
    rw [eventPayloadHash, bytes, examplePayload_hash]
    rfl
  have firstHashed : eventHash (exampleEvent payload) genesisEventHash =
      .ok (Sha256.hexDigest exampleMessage) := rfl
  have secondHashed : eventHash (followingEvent payload) firstHash =
      .ok (Sha256.hexDigest followingMessage) := rfl
  rw [exampleMessage_hash] at firstHashed
  rw [followingMessage_hash] at secondHashed
  have first : LinkedEvent {} (exampleEvent payload) :=
    ⟨rfl, rfl, rfl, payloadHashed, rfl, rfl, rfl, rfl, firstHashed⟩
  have second : LinkedEvent (ChainCursor.after {} (exampleEvent payload))
      (followingEvent payload) :=
    ⟨rfl, rfl, rfl, payloadHashed, rfl, rfl, rfl, rfl, secondHashed⟩
  have behind := verifyEvent_eq_ok_iff.mpr ⟨second, rfl⟩
  simp only [verifyTicketEventChain, selected, verifyEvents, bind_eq_ok_iff]
  exact ⟨_, ⟨_, verifyEvent_eq_ok_iff.mpr ⟨first, rfl⟩, _, behind, rfl⟩, rfl⟩

theorem exampleEvents_messages {rows : List AgentEvent}
    (selected : ticketEvents rows "ticket_1" = [exampleEvent payload, followingEvent payload])
    (bytes : payloadBytes payload.value = payloadBytes ascendingPayload.value) :
    verificationMessages rows "ticket_1" =
      [payloadBytes ascendingPayload.value, exampleMessage,
        payloadBytes ascendingPayload.value, followingMessage] := by
  rw [verificationMessages, selected, ← bytes]
  rfl

theorem verifyTicketEventChain_tamperEvident_reordered :
    List.Forall₂
      (fun leftEvent rightEvent =>
        (∃ envelope, eventEnvelope leftEvent = .ok envelope ∧
          eventEnvelope rightEvent = .ok envelope) ∧
        leftEvent.payload.value.Same rightEvent.payload.value)
      (ticketEvents [exampleEvent ascendingPayload, followingEvent ascendingPayload] "ticket_1")
      (ticketEvents [followingEvent descendingPayload, exampleEvent descendingPayload]
        "ticket_1") := by
  apply verifyTicketEventChain_tamperEvident _ _ _ _ (exampleEvents_verified rfl rfl)
    (exampleEvents_verified rfl descendingPayload_bytes)
  · rw [exampleEvents_messages rfl rfl, exampleEvents_messages rfl descendingPayload_bytes]
    simp [HashChain.CollisionFree, examplePayload_hash, exampleMessage_hash,
      followingMessage_hash, firstHash, secondHash]
  · rw [exampleEvents_messages rfl rfl, exampleEvents_messages rfl descendingPayload_bytes]
    simp [HashChain.Avoids, examplePayload_hash, exampleMessage_hash, followingMessage_hash,
      firstHash, secondHash, genesisEventHash]

end SupportGuard
