import SupportGuard.Services.RuntimeJobs

/-! # Attempts

`AttemptLedger` of `services/attempts.py`: every call to a provider or a tool is
reserved before it is made, within the budget of its run, and finished once. The
provenance kept beside an attempt is not read here and is left out. -/

namespace SupportGuard

open Foundation Program

/-! ## Rows -/

def maxLlmCalls : Nat := 6

def maxToolAttempts : Nat := 6

def maxToolRounds : Int := 2

namespace Database

def updateAttempt (database : Database) (attemptId : String)
    (change : AgentCallAttempt → AgentCallAttempt) : Database :=
  { database with
    attempts := Table.update AgentCallAttempt.id attemptId change database.attempts }

def updateTransport (database : Database) (transportId : String)
    (change : ToolTransportAttempt → ToolTransportAttempt) : Database :=
  { database with
    transports := Table.update ToolTransportAttempt.id transportId change
      database.transports }

/-- The attempts of one kind that a run has made. -/
def attemptsOf (database : Database) (runId : String) (kind : CallKind) :
    List AgentCallAttempt :=
  database.attempts.filter fun attempt => attempt.runId = runId && attempt.callKind = kind

def nextOrdinal (database : Database) (runId : String) (kind : CallKind) : Nat :=
  ((database.attemptsOf runId kind).map AgentCallAttempt.ordinal).max?.getD 0 + 1

end Database

def insertAttempt (attempt : AgentCallAttempt) : Program Database RuntimeRaise Unit := do
  let database ← reads id
  refuseWhen (database.attempts.any fun other => other.id = attempt.id)
    (.integrityError "agent_call_attempts_pkey")
  refuseWhen (database.attempts.any fun other =>
      other.runId = attempt.runId && other.callKind = attempt.callKind &&
        other.ordinal = attempt.ordinal)
    (.integrityError "uq_attempt_run_kind_ordinal")
  modify fun database => { database with attempts := database.attempts ++ [attempt] }

def insertTransport (transport : ToolTransportAttempt) :
    Program Database RuntimeRaise Unit := do
  let database ← reads id
  refuseWhen (database.transports.any fun other => other.id = transport.id)
    (.integrityError "tool_transport_attempts_pkey")
  refuseWhen (database.transports.any fun other =>
      other.agentCallAttemptId = transport.agentCallAttemptId)
    (.integrityError "uq_transport_agent_call_attempt")
  refuseWhen (database.transports.any fun other =>
      other.invocationId = transport.invocationId &&
        other.transportOrdinal = transport.transportOrdinal)
    (.integrityError "uq_transport_invocation_ordinal")
  modify fun database => { database with transports := database.transports ++ [transport] }

/-! ## Reserving -/

/-- The arguments of `reserve`, and the identifiers it draws. -/
structure AttemptRequest where
  kind : String
  logicalInvocationId : Option String := none
  transportOrdinal : Option Int := none
  repairOfAttemptId : Option String := none
  attemptId : String
  transportId : String

structure ReservedAttempt where
  id : String
  kind : CallKind
  ordinal : Nat
  logicalInvocationId : Option String := none
  transportOrdinal : Option Int := none
  transportAttemptId : Option String := none

/-- A repair repairs a failed call of the same job, and a run repairs once. -/
def checkRepair (lease : JobLease) (request : AttemptRequest) :
    Program Database RuntimeRaise Unit := do
  let database ← reads id
  let original ← require
    (Table.find AgentCallAttempt.id database.attempts (request.repairOfAttemptId.getD ""))
    (.runtimeConflict "structure_repair_origin_invalid")
  refuseWhen (original.runId ≠ lease.runId ∨ original.jobId ≠ lease.jobId ∨
      original.callKind ≠ .llm ∨ original.status ≠ .failed)
    (.runtimeConflict "structure_repair_origin_invalid")
  refuseWhen (database.attemptsOf lease.runId .structureRepair ≠ [])
    (.runtimeConflict "structure_repair_already_used")

def spendLlmCall (run : AgentRun) : Program Database RuntimeRaise Unit := do
  refuseWhen (maxLlmCalls ≤ run.llmCalls) (.runtimeConflict "llm_budget_exhausted")
  modify fun database => database.updateRun run.id fun row =>
    { row with llmCalls := row.llmCalls + 1 }

def spendToolAttempt (lease : JobLease) (kind : CallKind) (request : AttemptRequest)
    (run : AgentRun) : Program Database RuntimeRaise Unit := do
  let database ← reads id
  let invocationId ← require request.logicalInvocationId
    (.valueError "tool attempt requires logical_invocation_id")
  let invocation ← require (Table.find ToolInvocation.id database.invocations invocationId)
    (.runtimeConflict "tool_invocation_not_reservable")
  refuseWhen (invocation.runId ≠ lease.runId ∨ invocation.jobId ≠ lease.jobId ∨
      invocation.fencingToken ≠ lease.fencingToken ∨ invocation.lifecycle = .terminal)
    (.runtimeConflict "tool_invocation_not_reservable")
  refuseWhen (kind = .readMcp ∧ request.transportOrdinal.all fun ordinal => ordinal < 1)
    (.valueError "read_mcp attempt requires positive transport_ordinal")
  refuseWhen (kind = .toolPreflight ∧ request.transportOrdinal.isSome)
    (.valueError "tool_preflight cannot reserve transport")
  refuseWhen (maxToolAttempts ≤ run.toolAttempts) (.runtimeConflict "tool_budget_exhausted")
  modify fun database => database.updateRun run.id fun row =>
    { row with toolAttempts := row.toolAttempts + 1 }

/-- Take one call of the given kind out of the budget of the run. -/
def spend (lease : JobLease) (kind : CallKind) (request : AttemptRequest)
    (run : AgentRun) : Program Database RuntimeRaise Unit :=
  match kind with
  | .llm | .structureRepair => spendLlmCall run
  | .readMcp | .toolPreflight => spendToolAttempt lease kind request run

/-- Record a reserved call, and its transport when it has one. -/
def recordAttempt (lease : JobLease) (kind : CallKind) (request : AttemptRequest) :
    Program Database RuntimeRaise ReservedAttempt := do
  let database ← reads id
  let ordinal := database.nextOrdinal lease.runId kind
  insertAttempt
    { id := request.attemptId
      tenantId := lease.tenantId
      runId := lease.runId
      jobId := lease.jobId
      fencingToken := lease.fencingToken
      callKind := kind
      ordinal
      logicalInvocationId := request.logicalInvocationId
      transportOrdinal := request.transportOrdinal }
  let reserved : ReservedAttempt :=
    { id := request.attemptId
      kind
      ordinal
      logicalInvocationId := request.logicalInvocationId
      transportOrdinal := request.transportOrdinal }
  if kind = .readMcp then
    let missingIdentity := RuntimeRaise.runtimeConflict "transport_identity_missing"
    let invocationId ← require request.logicalInvocationId missingIdentity
    let transportOrdinal ← require request.transportOrdinal missingIdentity
    insertTransport
      { id := request.transportId
        tenantId := lease.tenantId
        runId := lease.runId
        jobId := lease.jobId
        invocationId
        agentCallAttemptId := request.attemptId
        fencingToken := lease.fencingToken
        transportOrdinal }
    pure { reserved with transportAttemptId := some request.transportId }
  else pure reserved

def reserve (lease : JobLease) (request : AttemptRequest) :
    Program Database RuntimeRaise ReservedAttempt := do
  let _ ← assertFence lease
  let named := CallKind.ofText? request.kind
  refuseWhen (named = some .structureRepair ∧ missing request.repairOfAttemptId)
    (.valueError "structure repair requires repair_of_attempt_id")
  refuseWhen (named ≠ some .structureRepair ∧ request.repairOfAttemptId.isSome)
    (.valueError "repair_of_attempt_id is only valid for structure repair")
  let database ← reads id
  let run ← require (Table.find AgentRun.id database.runs lease.runId)
    (.runtimeConflict "run_not_found")
  onlyIf (named = some .structureRepair) (checkRepair lease request)
  let kind ← require named (.valueError ("unknown attempt kind: " ++ request.kind))
  spend lease kind request run
  recordAttempt lease kind request

def reserveToolRound (lease : JobLease) : Program Database RuntimeRaise Int := do
  let _ ← assertFence lease
  let database ← reads id
  let run ← require (Table.find AgentRun.id database.runs lease.runId)
    (.runtimeConflict "run_not_found")
  refuseWhen (maxToolRounds ≤ run.toolRounds)
    (.runtimeConflict "tool_round_budget_exhausted")
  modify fun database => database.updateRun run.id fun row =>
    { row with toolRounds := row.toolRounds + 1 }
  pure (run.toolRounds + 1)

/-! ## Structured error paths -/

def isIdentifierStart (character : Char) : Bool :=
  character.isAlpha || character == '_'

/-- `[A-Za-z_][A-Za-z0-9_]*`. -/
def isIdentifier : List Char → Bool
  | [] => false
  | head :: tail => isIdentifierStart head &&
      tail.all fun character => isIdentifierStart character || character.isDigit

def isDigits (text : List Char) : Bool :=
  text ≠ [] && text.all Char.isDigit

/-- The place of an error: the whole value, or a dotted path into it. -/
def isErrorPlace (place : List Char) : Bool :=
  place = ['$'] ||
    match place.splitOn '.' with
    | [] => false
    | head :: tail => isIdentifier head &&
        tail.all fun segment => isIdentifier segment || isDigits segment

def isErrorDetail (detail : List Char) : Bool :=
  detail ≠ [] && detail.all fun character =>
    character.isAlphanum || character ∈ ['_', '.', ' ', '-']

/-- `_SAFE_STRUCTURED_ERROR_PATH`. No part of a match holds a colon, so a text matches in
one way at most. -/
def isSafeErrorPath (path : String) : Bool :=
  match path.toList.splitOn ':' with
  | [place, code] => isErrorPlace place && isIdentifier code
  | [place, code, detail] => isErrorPlace place && isIdentifier code && isErrorDetail detail
  | _ => false

example : isSafeErrorPath "items.0.name:missing:field required" = true := by decide

example : isSafeErrorPath "items..name:missing" = false := by decide

/-! ## Finishing -/

/-- The outcomes an attempt can be finished with. -/
def AttemptStatus.ofOutcome? (text : String) : Option AttemptStatus :=
  if text = "succeeded" then some .succeeded
  else if text = "failed" then some .failed
  else if text = "unknown" then some .unknown
  else none

def AttemptStatus.transport : AttemptStatus → TransportStatus
  | .started => .reserved
  | .succeeded => .succeeded
  | .failed => .failed
  | .unknown => .unknown

/-- The arguments of `finish`. -/
structure AttemptOutcome where
  status : String
  promptTokens : Int := 0
  completionTokens : Int := 0
  latencyMs : Option Int := none
  errorCode : Option String := none
  providerTransportAttempts : Option Int := none
  transportLifecycle : Option (List (String × Json)) := none
  structuredErrorPaths : Option (List String) := none

def CallKind.isProvider : CallKind → Bool
  | .llm | .structureRepair => true
  | .readMcp | .toolPreflight => false

def checkErrorPaths (kind : CallKind) (status : AttemptStatus) (paths : List String) :
    Program Database RuntimeRaise Unit := do
  refuseWhen (status ≠ .failed ∨ kind.isProvider = false)
    (.valueError "structured error paths require a failed Provider attempt")
  refuseWhen (paths = [] ∨ 12 < paths.length)
    (.valueError "structured error paths must contain between 1 and 12 items")
  refuseWhen (paths.any fun path => 200 < path.length || !isSafeErrorPath path)
    (.valueError "invalid structured error path")

def checkTransportAttempts (kind : CallKind) (count : Int) :
    Program Database RuntimeRaise Unit := do
  refuseWhen (kind.isProvider = false)
    (.valueError "provider transport attempts require an LLM attempt")
  refuseWhen (count ≠ 1 ∧ count ≠ 2)
    (.valueError "provider transport attempts exceed the bounded retry contract")

/-- Python's `==` between a JSON value and an integer. A float that equals an integer is
spelled with a trailing `.0`. -/
def equalsInteger (value : Json) (number : Int) : Bool :=
  match value with
  | .integer other => other = number
  | .bool flag => (if flag then 1 else 0) = number
  | .float literal => literal.text = (toString number).toList ++ ['.', '0']
  | _ => false

/-- What a transport reports about itself has to agree with the lease and the
reservation, as far as it reports it. -/
def lifecycleAgrees (lease : JobLease) (reserved : ReservedAttempt)
    (lifecycle : List (String × Json)) : Bool :=
  let agrees (name : String) (expected : Json → Bool) := (lifecycle.lookup name).all expected
  agrees "tenant_id" (· = .string lease.tenantId) &&
    agrees "run_id" (· = .string lease.runId) &&
    agrees "job_id" (· = .string lease.jobId) &&
    agrees "fencing_token" (equalsInteger · lease.fencingToken) &&
    agrees "tool_attempt_id" (· = .string reserved.id) &&
    agrees "transport_attempt_id" (· = Json.optionalText reserved.transportAttemptId) &&
    agrees "transport_ordinal" fun value => match reserved.transportOrdinal with
      | none => value = .null
      | some ordinal => equalsInteger value ordinal

def checkLifecycle (lease : JobLease) (reserved : ReservedAttempt)
    (lifecycle : List (String × Json)) : Program Database RuntimeRaise Unit := do
  refuseWhen (lifecycle.lookup "schema_version" ≠
      some (.string "mcp-transport-lifecycle.v1"))
    (.valueError "invalid MCP transport lifecycle schema")
  refuseWhen (lifecycle.any fun member =>
      member.1 ∈ ["prompt", "payload", "arguments", "secret", "api_key"])
    (.valueError "MCP transport lifecycle contains forbidden fields")
  refuseWhen (lifecycleAgrees lease reserved lifecycle = false)
    (.runtimeConflict "mcp_transport_lifecycle_identity_mismatch")

def finishTransport (lease : JobLease) (reserved : ReservedAttempt)
    (status : AttemptStatus) (outcome : AttemptOutcome) (transportId : String) :
    Program Database RuntimeRaise Unit := do
  let database ← reads id
  let transport ← require
    (Table.find ToolTransportAttempt.id database.transports transportId)
    (.runtimeConflict "transport_attempt_not_active")
  refuseWhen (transport.status ≠ .reserved ∧ transport.status ≠ .executing)
    (.runtimeConflict "transport_attempt_not_active")
  modify fun database => database.updateTransport transport.id fun row =>
    { row with status := status.transport, errorCode := outcome.errorCode }
  whenSome outcome.transportLifecycle (checkLifecycle lease reserved)

def finish (lease : JobLease) (reserved : ReservedAttempt) (outcome : AttemptOutcome) :
    Program Database RuntimeRaise Unit := do
  let _ ← assertFence lease
  let database ← reads id
  let attempt ← require (Table.find AgentCallAttempt.id database.attempts reserved.id)
    (.runtimeConflict "attempt_not_started")
  refuseWhen (attempt.status ≠ .started) (.runtimeConflict "attempt_not_started")
  let status ← require (AttemptStatus.ofOutcome? outcome.status)
    (.valueError "invalid attempt outcome")
  whenSome outcome.structuredErrorPaths (checkErrorPaths reserved.kind status)
  -- The attempt is written before the remaining checks, which may still raise.
  modify fun database => database.updateAttempt attempt.id fun row =>
    { row with
      status
      promptTokens := max 0 outcome.promptTokens
      completionTokens := max 0 outcome.completionTokens
      latencyMs := outcome.latencyMs
      errorCode := outcome.errorCode }
  whenSome outcome.providerTransportAttempts (checkTransportAttempts reserved.kind)
  whenSome reserved.transportAttemptId (finishTransport lease reserved status outcome)

end SupportGuard
