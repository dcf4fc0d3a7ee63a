import SupportGuard.Contracts.CanonicalJson
import SupportGuard.Services.Attempts

/-! # The tool ledger

`ToolLedger` of `services/tool_ledger.py`: the tool calls of one decision form a turn
group, each call ends in one observation, and a later lease can take an open group
over. -/

namespace SupportGuard

open Foundation Program

/-! ## Rows -/

namespace Database

def updateTurnGroup (database : Database) (turnId : String)
    (change : TurnGroup → TurnGroup) : Database :=
  { database with turnGroups := Table.update TurnGroup.id turnId change database.turnGroups }

def updateInvocation (database : Database) (invocationId : String)
    (change : ToolInvocation → ToolInvocation) : Database :=
  { database with
    invocations := Table.update ToolInvocation.id invocationId change database.invocations }

/-- The invocations of a turn group, by their ordinal. -/
def invocationsOf (database : Database) (turnId : String) : List ToolInvocation :=
  (database.invocations.filter fun invocation => invocation.turnGroupId = turnId).insertionSort
    fun left right => left.ordinal ≤ right.ordinal

def nextDecisionOrdinal (database : Database) (runId : String) : Int :=
  ((database.turnGroups.filter fun turn => turn.runId = runId).map
    TurnGroup.decisionOrdinal).max?.getD 0 + 1

end Database

def insertTurnGroup (turn : TurnGroup) : Program Database RuntimeRaise Unit := do
  let database ← reads id
  refuseWhen (database.turnGroups.any fun other => other.id = turn.id)
    (.integrityError "turn_groups_pkey")
  refuseWhen (database.turnGroups.any fun other =>
      other.runId = turn.runId && other.decisionOrdinal = turn.decisionOrdinal)
    (.integrityError "uq_turn_group_run_decision")
  modify fun database => { database with turnGroups := database.turnGroups ++ [turn] }

def insertInvocation (invocation : ToolInvocation) : Program Database RuntimeRaise Unit := do
  let database ← reads id
  refuseWhen (database.invocations.any fun other => other.id = invocation.id)
    (.integrityError "tool_invocations_pkey")
  refuseWhen (database.invocations.any fun other =>
      other.turnGroupId = invocation.turnGroupId && other.ordinal = invocation.ordinal)
    (.integrityError "uq_invocation_turn_ordinal")
  modify fun database =>
    { database with invocations := database.invocations ++ [invocation] }

def insertInvocations : List ToolInvocation → Program Database RuntimeRaise Unit
  | [] => pure ()
  | invocation :: rest => do
      insertInvocation invocation
      insertInvocations rest

def insertObservation (observation : ToolObservation) :
    Program Database RuntimeRaise Unit := do
  let database ← reads id
  refuseWhen (database.observations.any fun other => other.id = observation.id)
    (.integrityError "tool_observations_pkey")
  refuseWhen (database.observations.any fun other =>
      other.invocationId = observation.invocationId)
    (.integrityError "uq_tool_observation_invocation")
  modify fun database =>
    { database with observations := database.observations ++ [observation] }

def canonicalHash (value : PyValue) : Except RuntimeRaise String :=
  (canonicalJsonHash value).mapError fun raised => .valueError raised.message

/-! ## Opening a turn -/

/-- A tool call of a decision, with the identifiers drawn for it. -/
structure InvocationSpec where
  providerToolCallId : String
  toolName : String
  arguments : PyValue
  ordinal : Int
  argumentsHash : Option String := none
  invocationId : String
  logicalId : String

/-- The arguments of `open_turn`, and the identifier it draws. The hashes a context
manifest may name are texts. -/
structure TurnRequest where
  segmentId : String
  toolRound : Int
  decision : PyValue
  contextManifest : PyValue
  injectedToolSchemaHash : Option String := none
  visibleToolSchemaHash : Option String := none
  calls : List InvocationSpec
  turnId : String

def buildInvocation (lease : JobLease) (request : TurnRequest) (call : InvocationSpec) :
    Except RuntimeRaise ToolInvocation := do
  let argumentsHash ←
    if missing call.argumentsHash then canonicalHash call.arguments
    else .ok (call.argumentsHash.getD "")
  .ok
    { id := call.invocationId
      tenantId := lease.tenantId
      runId := lease.runId
      jobId := lease.jobId
      turnGroupId := request.turnId
      segmentId := request.segmentId
      fencingToken := lease.fencingToken
      providerToolCallId := call.providerToolCallId
      logicalInvocationId := call.logicalId
      ordinal := call.ordinal
      toolName := call.toolName
      argumentsHash }

def buildInvocations (lease : JobLease) (request : TurnRequest) :
    List InvocationSpec → Except RuntimeRaise (List ToolInvocation)
  | [] => .ok []
  | call :: rest => do
      let invocation ← buildInvocation lease request call
      let invocations ← buildInvocations lease request rest
      .ok (invocation :: invocations)

/-- The hash of the registered tool schemas is used when the manifest names none. -/
def visibleSchemaHash (registryHash : String) (request : TurnRequest) : String :=
  if missing request.injectedToolSchemaHash = false then
    request.injectedToolSchemaHash.getD ""
  else if missing request.visibleToolSchemaHash = false then
    request.visibleToolSchemaHash.getD ""
  else registryHash

def openTurn (registryHash : String) (lease : JobLease) (request : TurnRequest) :
    Program Database RuntimeRaise (TurnGroup × List ToolInvocation) := do
  let _ ← assertFence lease
  refuseWhen (request.calls = []) (.runtimeConflict "empty_tool_turn")
  let database ← reads id
  let schemaHash := visibleSchemaHash registryHash request
  refuseWhen (schemaHash.length ≠ 64)
    (.runtimeConflict "visible_tool_schema_hash_invalid")
  let decisionHash ← ofExcept (canonicalHash request.decision)
  let contextHash ← ofExcept (canonicalHash request.contextManifest)
  let turn : TurnGroup :=
    { id := request.turnId
      tenantId := lease.tenantId
      runId := lease.runId
      jobId := lease.jobId
      segmentId := request.segmentId
      fencingToken := lease.fencingToken
      decisionOrdinal := database.nextDecisionOrdinal lease.runId
      toolRound := request.toolRound
      expectedInvocations := request.calls.length
      decisionHash
      contextHash
      toolSchemaHash := schemaHash }
  insertTurnGroup turn
  let invocations ← ofExcept (buildInvocations lease request request.calls)
  insertInvocations invocations
  pure (turn, invocations)

/-! ## One invocation -/

def markExecuting (lease : JobLease) (invocationId : String) :
    Program Database RuntimeRaise ToolInvocation := do
  let _ ← assertFence lease
  let database ← reads id
  let invocation ← require
    (Table.find ToolInvocation.id database.invocations invocationId)
    (.runtimeConflict "invocation_not_executable")
  refuseWhen (invocation.fencingToken ≠ lease.fencingToken ∨
      invocation.lifecycle ∉ [.received, .validated, .authorized])
    (.runtimeConflict "invocation_not_executable")
  modify fun database => database.updateInvocation invocation.id fun row =>
    { row with lifecycle := .executing }
  pure { invocation with lifecycle := .executing }

/-- The number of the next physical send of an invocation, of which there are two. -/
def nextTransportOrdinal (lease : JobLease) (invocationId : String) :
    Program Database RuntimeRaise (Option Int) := do
  let _ ← assertFence lease
  let database ← reads id
  let invocation ← require
    (Table.find ToolInvocation.id database.invocations invocationId)
    (.runtimeConflict "transport_ordinal_scope_mismatch")
  refuseWhen (invocation.tenantId ≠ lease.tenantId ∨ invocation.runId ≠ lease.runId ∨
      invocation.jobId ≠ lease.jobId ∨ invocation.fencingToken ≠ lease.fencingToken ∨
      invocation.lifecycle = .terminal)
    (.runtimeConflict "transport_ordinal_scope_mismatch")
  let current := ((database.transports.filter fun transport =>
    transport.invocationId = invocation.id).map ToolTransportAttempt.transportOrdinal).max?.getD 0
  pure (if current < 2 then some (current + 1) else none)

/-- The members of an `ObservationEnvelope` that a replay compares. -/
structure ObservationEnvelope where
  runId : String
  toolCallId : String
  toolName : String

/-- The call a replay expects to find. -/
structure ReplayRequest where
  turnId : String
  providerToolCallId : String
  toolName : String
  argumentsHash : String

def ReplayRequest.matches (request : ReplayRequest) (lease : JobLease) (turn : TurnGroup)
    (invocation : ToolInvocation) : Bool :=
  turn.id = invocation.turnGroupId && turn.tenantId = lease.tenantId &&
    turn.runId = lease.runId && turn.jobId = lease.jobId &&
    turn.fencingToken = lease.fencingToken && invocation.tenantId = lease.tenantId &&
    invocation.runId = lease.runId && invocation.jobId = lease.jobId &&
    invocation.providerToolCallId = request.providerToolCallId &&
    invocation.toolName = request.toolName &&
    invocation.argumentsHash = request.argumentsHash

/-- The stored payload as it was before an intent was added to it. -/
def replayedPayload : Json → Option Json
  | .object members =>
      some (.object (members.filter fun member => member.1 ≠ "trusted_retrieval_intent"))
  | _ => none

/-- Return a stored result instead of sending the call again; none while the call is
pending. -/
def replayTerminalObservation (validateEnvelope : Json → Option ObservationEnvelope)
    (lease : JobLease) (invocationId : String) (request : ReplayRequest) :
    Program Database RuntimeRaise (Option (ToolObservation × ObservationEnvelope)) := do
  let _ ← assertFence lease
  let database ← reads id
  let mismatch := RuntimeRaise.runtimeConflict "terminal_observation_replay_scope_mismatch"
  let turn ← require (Table.find TurnGroup.id database.turnGroups request.turnId) mismatch
  let invocation ← require
    (Table.find ToolInvocation.id database.invocations invocationId) mismatch
  refuseWhen (request.matches lease turn invocation = false) mismatch
  if invocation.lifecycle ≠ .terminal then
    refuseWhen (invocation.fencingToken ≠ lease.fencingToken)
      (.runtimeConflict "pending_invocation_fence_mismatch")
    pure none
  else
    let row ← require (database.observations.find? fun row =>
        row.invocationId = invocation.id && row.tenantId = lease.tenantId &&
          row.runId = lease.runId && row.jobId = lease.jobId)
      (.runtimeConflict "terminal_observation_missing")
    let envelope ← require ((replayedPayload row.payload).bind validateEnvelope)
      (.runtimeConflict "terminal_observation_payload_invalid")
    let digest ← ofExcept (canonicalHash (.ofJson row.payload))
    refuseWhen (digest ≠ row.contentHash ∨ envelope.runId ≠ lease.runId ∨
        envelope.toolCallId ≠ request.providerToolCallId ∨
        envelope.toolName ≠ request.toolName)
      (.runtimeConflict "terminal_observation_replay_integrity_mismatch")
    pure (some (row, envelope))

/-- What the ledger keeps of an observation: the fields it copies, and the dump it
hashes and stores. -/
structure Observation where
  toolName : String
  status : String
  attemptIndex : Int
  dump : List (PyKey × PyValue)

/-- The dump, with the trusted intent when there is one. -/
def observationPayload (observation : Observation)
    (trustedRetrievalIntent : Option PyValue) : Except RuntimeRaise PyValue :=
  match trustedRetrievalIntent with
  | none => .ok (.dict observation.dump)
  | some intent => do
      Fallible.refuseWhen (observation.toolName ≠ "search_knowledge")
        (.runtimeConflict "trusted_retrieval_intent_tool_mismatch")
      .ok (.dict (assign observation.dump
        (.string (PyText.ofString "trusted_retrieval_intent")) intent))

/-- The stored tree and its hash. -/
def observationContent (payload : PyValue) : Except RuntimeRaise (Json × String) := do
  let tree ← (project "$" payload).mapError fun raised => .valueError raised.message
  let digest ← canonicalHash payload
  .ok (tree, digest)

def terminalize (lease : JobLease) (invocationId outcome : String)
    (observation : Observation) (trustedRetrievalIntent : Option PyValue)
    (observationId : String) : Program Database RuntimeRaise ToolObservation := do
  let _ ← assertFence lease
  let database ← reads id
  let invocation ← require
    (Table.find ToolInvocation.id database.invocations invocationId)
    (.runtimeConflict "invocation_fence_mismatch")
  refuseWhen (invocation.fencingToken ≠ lease.fencingToken)
    (.runtimeConflict "invocation_fence_mismatch")
  let payload ← ofExcept (observationPayload observation trustedRetrievalIntent)
  let (tree, digest) ← ofExcept (observationContent payload)
  match database.observations.find? fun row => row.invocationId = invocation.id with
  | some existing =>
      refuseWhen (existing.contentHash ≠ digest ∨ invocation.outcome ≠ some outcome)
        (.runtimeConflict "terminal_observation_conflict")
      pure existing
  | none =>
      refuseWhen (invocation.lifecycle = .terminal)
        (.runtimeConflict "terminal_observation_missing")
      let row : ToolObservation :=
        { id := observationId
          tenantId := lease.tenantId
          runId := lease.runId
          jobId := lease.jobId
          invocationId := invocation.id
          segmentId := invocation.segmentId
          fencingToken := lease.fencingToken
          status := observation.status
          attemptIndex := observation.attemptIndex
          contentHash := digest
          payload := tree }
      insertObservation row
      modify fun database => database.updateInvocation invocation.id fun row =>
        { row with lifecycle := .terminal, outcome := some outcome }
      pure row

/-! ## Ending a turn -/

/-- The invocations of a turn group with their observations: an outer join. -/
def Database.turnCounts (database : Database) (turnId : String) : Nat × Nat :=
  let joined := (database.invocations.filter fun row => row.turnGroupId = turnId).map
    fun row => (database.observations.filter fun other => other.invocationId = row.id).length
  ((joined.map fun count => max 1 count).sum, joined.sum)

def closeTurn (lease : JobLease) (turnId : String) :
    Program Database RuntimeRaise TurnGroup := do
  let _ ← assertFence lease
  let database ← reads id
  let turn ← require (Table.find TurnGroup.id database.turnGroups turnId)
    (.runtimeConflict "turn_group_fence_mismatch")
  refuseWhen (turn.fencingToken ≠ lease.fencingToken)
    (.runtimeConflict "turn_group_fence_mismatch")
  refuseWhen (database.turnCounts turn.id ≠
      (turn.expectedInvocations, turn.expectedInvocations))
    (.runtimeConflict "turn_group_incomplete")
  modify fun database => database.updateTurnGroup turn.id fun row =>
    { row with status := .closed }
  pure { turn with status := .closed }

/-- The started attempts whose invocation is still pending. -/
def Database.overtakenAttempts (database : Database) (pendingIds : List String) :
    List String :=
  (database.attempts.filter fun attempt =>
    attempt.status = .started && attempt.logicalInvocationId.any (· ∈ pendingIds)).map
    AgentCallAttempt.id

def overtakeAttempts (attemptIds : List String) (database : Database) : Database :=
  { database with
    attempts := database.attempts.map fun attempt =>
      if attempt.id ∈ attemptIds then
        { attempt with status := .unknown, errorCode := some "fence_takeover" }
      else attempt
    transports := database.transports.map fun transport =>
      if transport.agentCallAttemptId ∈ attemptIds ∧ transport.status = .reserved then
        { transport with status := .unknown, errorCode := some "fence_takeover" }
      else transport }

/-- Move the pending invocations of a turn group under a newer fence. -/
def refenceInvocations (lease : JobLease) (turnId : String) (database : Database) :
    Database :=
  { database with
    invocations := database.invocations.map fun invocation =>
      if invocation.turnGroupId = turnId ∧ invocation.lifecycle ≠ .terminal then
        { invocation with
          fencingToken := lease.fencingToken
          jobId := lease.jobId
          lifecycle := if invocation.lifecycle = .executing then .authorized
            else invocation.lifecycle }
      else invocation }

def takeover (lease : JobLease) (turnId : String) :
    Program Database RuntimeRaise (TurnGroup × List String) := do
  let _ ← assertFence lease
  let database ← reads id
  let turn ← require (Table.find TurnGroup.id database.turnGroups turnId)
    (.runtimeConflict "turn_group_takeover_scope_mismatch")
  refuseWhen (turn.runId ≠ lease.runId ∨ turn.jobId ≠ lease.jobId)
    (.runtimeConflict "turn_group_takeover_scope_mismatch")
  refuseWhen (turn.status ≠ .open ∧ turn.status ≠ .completing)
    (.runtimeConflict "turn_group_not_takeoverable")
  refuseWhen (lease.fencingToken ≤ turn.fencingToken)
    (.runtimeConflict "turn_group_takeover_fence_not_newer")
  let pendingIds := ((database.invocationsOf turn.id).filter fun invocation =>
    invocation.lifecycle ≠ .terminal).map ToolInvocation.id
  modify (overtakeAttempts (database.overtakenAttempts pendingIds))
  modify (refenceInvocations lease turn.id)
  modify fun database => database.updateTurnGroup turn.id fun row =>
    { row with fencingToken := lease.fencingToken, jobId := lease.jobId }
  pure ({ turn with fencingToken := lease.fencingToken, jobId := lease.jobId }, pendingIds)

/-! ## Aborting a turn -/

/-- The observation that stands in for an interrupted call. -/
structure AbortedCall where
  toolName : String
  toolCallId : String
  ticketId : String
  runId : String
  attemptIndex : Int
  errorCode : String
  observedAt : Instant

section

variable (dumpAborted : AbortedCall → List (PyKey × PyValue))

def abortInvocation (lease : JobLease) (ticketId reason : String) (now : Instant)
    (invocation : ToolInvocation) (observationId : String) :
    Program Database RuntimeRaise Unit := do
  let database ← reads id
  let attempts := (database.attempts.filter fun attempt =>
    attempt.logicalInvocationId = some invocation.id).length
  let call : AbortedCall :=
    { toolName := invocation.toolName
      toolCallId := invocation.providerToolCallId
      ticketId
      runId := lease.runId
      attemptIndex := max 1 attempts
      errorCode := reason
      observedAt := now }
  let _ ← terminalize lease invocation.id "cancelled"
    { toolName := call.toolName
      status := "unavailable"
      attemptIndex := call.attemptIndex
      dump := dumpAborted call } none observationId
  pure ()

/-- End every invocation that is not terminal yet, in order. -/
def abortInvocations (lease : JobLease) (ticketId reason : String) (now : Instant)
    (draw : String → String) : List ToolInvocation → Program Database RuntimeRaise Unit
  | [] => pure ()
  | invocation :: rest => do
      onlyIf (invocation.lifecycle ≠ .terminal)
        (abortInvocation dumpAborted lease ticketId reason now invocation
          (draw invocation.id))
      abortInvocations lease ticketId reason now draw rest

def abortPending (lease : JobLease) (turnId ticketId reason : String) (now : Instant)
    (draw : String → String) : Program Database RuntimeRaise TurnGroup := do
  let _ ← assertFence lease
  let database ← reads id
  let turn ← require (Table.find TurnGroup.id database.turnGroups turnId)
    (.runtimeConflict "turn_group_abort_fence_mismatch")
  refuseWhen (turn.fencingToken ≠ lease.fencingToken)
    (.runtimeConflict "turn_group_abort_fence_mismatch")
  abortInvocations dumpAborted lease ticketId reason now draw
    (database.invocationsOf turn.id)
  modify fun database => database.updateTurnGroup turn.id fun row =>
    { row with status := .aborted }
  pure { turn with status := .aborted }

end

end SupportGuard
