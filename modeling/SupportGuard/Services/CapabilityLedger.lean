import SupportGuard.Services.ToolLedger

/-! # The ledger of policy capabilities

`services/capability_ledger.py`: a capability is reserved before it is called, and the row
of its invocation converges to the one result that the call or a reconciliation leaves.
The call itself is `mcp/action_server.py`. -/

namespace SupportGuard

open Foundation Program

/-! ## Tables -/

inductive CapabilityStatus
  | reserved
  | executing
  | succeeded
  | failed
  | denied
  | unknown
deriving DecidableEq, Repr

structure PolicyCapabilityInvocation where
  id : String
  tenantId : String
  runId : String
  jobId : String
  segmentId : String
  fencingToken : Nat
  capabilityName : String
  sequence : Nat
  causalDecisionHash : String
  observationBindingHash : String
  effectIdentity : String
  status : CapabilityStatus
  errorCode : Option String := none
  completedAt : Option Instant := none
deriving DecidableEq

structure PolicyCapabilityAttempt where
  id : String
  tenantId : String
  runId : String
  jobId : String
  invocationId : String
  fencingToken : Nat
  ordinal : Nat
  status : CapabilityStatus
  errorCode : Option String := none
  completedAt : Option Instant := none
deriving DecidableEq

structure PolicyCapabilityResult where
  id : String
  tenantId : String
  runId : String
  jobId : String
  invocationId : String
  effectIdentity : String
  status : CapabilityStatus
  payloadHash : String
  payload : Json
  reconciledAt : Option Instant := none

/-- An effect that a call has committed. -/
structure CapabilityEffect where
  invocationId : String
  payload : Json

/-- The tables of the ledger beside the other tables, and the effects. -/
structure CapabilityStore where
  base : Database
  invocations : List PolicyCapabilityInvocation := []
  attempts : List PolicyCapabilityAttempt := []
  results : List PolicyCapabilityResult := []
  effects : List CapabilityEffect := []

/-- `ProposalCausalDecisionV2` and `EscalationCausalDecisionV2`, with what `model_dump`
gives. -/
structure CausalDecision where
  capabilityName : String
  observationBindingHash : String
  dump : PyValue

structure ReservedCapability where
  id : String
  capabilityName : String
  sequence : Nat
  causalDecisionHash : String
  causalDecision : CausalDecision
  observationBindingHash : String
  effectIdentity : String
  attemptId : String
  attemptOrdinal : Nat

/-- The identifiers that an operation draws. -/
structure CapabilityDraws where
  invocationId : String
  attemptId : String
  resultId : String

namespace CapabilityStore

def result? (store : CapabilityStore) (invocationId : String) : Option PolicyCapabilityResult :=
  Table.find PolicyCapabilityResult.invocationId store.results invocationId

def updateInvocation (store : CapabilityStore) (id : String)
    (change : PolicyCapabilityInvocation → PolicyCapabilityInvocation) : CapabilityStore :=
  { store with
    invocations := Table.update PolicyCapabilityInvocation.id id change store.invocations }

/-- The attempts of an invocation, or one of them, end. -/
def updateAttempts (store : CapabilityStore) (ends : PolicyCapabilityAttempt → Bool)
    (change : PolicyCapabilityAttempt → PolicyCapabilityAttempt) : CapabilityStore :=
  { store with
    attempts := store.attempts.map fun attempt => if ends attempt then change attempt else attempt }

end CapabilityStore

/-! ## Writing -/

def insertCapability (row : PolicyCapabilityInvocation) :
    Program CapabilityStore RuntimeRaise Unit := do
  let store ← reads id
  refuseWhen (store.invocations.any fun other => other.id = row.id)
    (.integrityError "policy_capability_invocations_pkey")
  refuseWhen (store.invocations.any fun other => other.runId = row.runId &&
      other.segmentId = row.segmentId && other.sequence = row.sequence)
    (.integrityError "uq_policy_capability_sequence")
  refuseWhen (store.invocations.any fun other => other.tenantId = row.tenantId &&
      other.effectIdentity = row.effectIdentity)
    (.integrityError "uq_policy_capability_effect")
  modify fun store => { store with invocations := store.invocations ++ [row] }

def insertCapabilityAttempt (row : PolicyCapabilityAttempt) :
    Program CapabilityStore RuntimeRaise Unit := do
  let store ← reads id
  refuseWhen (store.attempts.any fun other => other.id = row.id)
    (.integrityError "policy_capability_attempts_pkey")
  refuseWhen (store.attempts.any fun other => other.invocationId = row.invocationId &&
      other.ordinal = row.ordinal)
    (.integrityError "uq_capability_attempt_ordinal")
  modify fun store => { store with attempts := store.attempts ++ [row] }

def insertResult (row : PolicyCapabilityResult) : Program CapabilityStore RuntimeRaise Unit := do
  let store ← reads id
  refuseWhen (store.results.any fun other => other.id = row.id)
    (.integrityError "policy_capability_results_pkey")
  refuseWhen (store.results.any fun other => other.invocationId = row.invocationId)
    (.integrityError "uq_capability_result_invocation")
  refuseWhen (store.results.any fun other => other.tenantId = row.tenantId &&
      other.effectIdentity = row.effectIdentity)
    (.integrityError "uq_capability_result_effect")
  modify fun store => { store with results := store.results ++ [row] }

/-- `assert_fence` on the tables of the runtime. -/
def assertCapabilityFence (lease : JobLease) : Program CapabilityStore RuntimeRaise RuntimeJob :=
  onPart CapabilityStore.base (fun store base => { store with base }) (assertFence lease)

def capabilityHash (value : PyValue) : Program CapabilityStore RuntimeRaise String :=
  ofExcept (canonicalHash value)

/-- An attempt succeeds or fails with its invocation. -/
def attemptOutcome (status : CapabilityStatus) : CapabilityStatus :=
  if status = .succeeded then .succeeded else .failed

/-! ## The operations -/

namespace PolicyCapabilityLedger

def effectIdentityValue (lease : JobLease) (segmentId capabilityName decisionHash
    bindingHash : String) : PyValue :=
  PyValue.ofJson (.object [("tenant_id", .string lease.tenantId), ("run_id", .string lease.runId),
    ("segment_id", .string segmentId), ("capability_name", .string capabilityName),
    ("causal_decision_hash", .string decisionHash),
    ("observation_binding_hash", .string bindingHash)])

def reserve (draws : CapabilityDraws) (lease : JobLease) (segmentId capabilityName : String)
    (causalDecision : CausalDecision) (observationBinding : PyValue) :
    Program CapabilityStore RuntimeRaise ReservedCapability := do
  let _ ← assertCapabilityFence lease
  refuseWhen (causalDecision.capabilityName ≠ capabilityName)
    (.runtimeConflict "policy_capability_decision_name_mismatch")
  let decisionHash ← capabilityHash causalDecision.dump
  let bindingHash ← capabilityHash observationBinding
  refuseWhen (causalDecision.observationBindingHash ≠ bindingHash)
    (.runtimeConflict "policy_capability_observation_binding_mismatch")
  let effectIdentity ← capabilityHash
    (effectIdentityValue lease segmentId capabilityName decisionHash bindingHash)
  let store ← reads id
  refuseWhen (store.invocations.any fun row => row.tenantId = lease.tenantId &&
      row.effectIdentity = effectIdentity)
    (.runtimeConflict "policy_capability_already_reserved")
  let current := (store.invocations.filter fun row => row.runId = lease.runId &&
    row.segmentId = segmentId).map PolicyCapabilityInvocation.sequence
  let row : PolicyCapabilityInvocation :=
    { id := draws.invocationId
      tenantId := lease.tenantId
      runId := lease.runId
      jobId := lease.jobId
      segmentId
      fencingToken := lease.fencingToken
      capabilityName
      sequence := current.max?.getD 0 + 1
      causalDecisionHash := decisionHash
      observationBindingHash := bindingHash
      effectIdentity
      status := .reserved }
  insertCapability row
  insertCapabilityAttempt
    { id := draws.attemptId
      tenantId := lease.tenantId
      runId := lease.runId
      jobId := lease.jobId
      invocationId := row.id
      fencingToken := lease.fencingToken
      ordinal := 1
      status := .reserved }
  pure
    { id := row.id
      capabilityName := row.capabilityName
      sequence := row.sequence
      causalDecisionHash := row.causalDecisionHash
      causalDecision
      observationBindingHash := row.observationBindingHash
      effectIdentity := row.effectIdentity
      attemptId := draws.attemptId
      attemptOrdinal := 1 }

/-- The row takes a status, and some attempts with it. -/
def conclude (invocationId : String) (status attemptStatus : CapabilityStatus)
    (errorCode : Option String) (ends : PolicyCapabilityAttempt → Bool) :
    Program CapabilityStore RuntimeRaise Unit :=
  modify fun store =>
    (store.updateAttempts ends fun attempt =>
      { attempt with
        status := attemptStatus, errorCode, completedAt := some store.base.clock }).updateInvocation
      invocationId fun row =>
        { row with status, errorCode, completedAt := some store.base.clock }

def isActive (status : CapabilityStatus) : Bool :=
  status ∈ [.reserved, .executing]

/-- `payload or {"error_code": error_code}`. -/
def resultPayload (payload : Option Json) (errorCode : Option String) : Json :=
  match payload.filter Json.truthy with
  | some payload => payload
  | none => .object [("error_code", errorCode.elim .null .string)]

def finish (draws : CapabilityDraws) (lease : JobLease) (reserved : ReservedCapability)
    (status : CapabilityStatus) (errorCode : Option String) (payload : Option Json)
    (reconciled : Bool) : Program CapabilityStore RuntimeRaise (Option PolicyCapabilityResult) := do
  let _ ← assertCapabilityFence lease
  let store ← reads id
  let row ← require ((Table.find PolicyCapabilityInvocation.id store.invocations
      reserved.id).filter fun row =>
        isActive row.status && row.fencingToken = lease.fencingToken)
    (.runtimeConflict "policy_capability_not_active")
  refuseWhen (isActive status) (.valueError "invalid policy capability outcome")
  let _ ← require ((Table.find PolicyCapabilityAttempt.id store.attempts
      reserved.attemptId).filter fun attempt => isActive attempt.status)
    (.runtimeConflict "policy_capability_attempt_not_active")
  let resultHash ← capabilityHash (PyValue.ofJson (resultPayload payload errorCode))
  match store.result? reserved.id with
  | some existing => do
      refuseWhen (existing.effectIdentity ≠ reserved.effectIdentity)
        (.runtimeConflict "policy_capability_result_conflict")
      refuseWhen (status ≠ .unknown ∧
          (existing.status ≠ status ∨ existing.payloadHash ≠ resultHash))
        (.runtimeConflict "policy_capability_result_conflict")
      conclude row.id existing.status (attemptOutcome existing.status) none
        (·.id = reserved.attemptId)
      pure (some existing)
  | none =>
      if status = .unknown then do
        conclude row.id .unknown .unknown errorCode (·.id = reserved.attemptId)
        pure none
      else do
        let result : PolicyCapabilityResult :=
          { id := draws.resultId
            tenantId := lease.tenantId
            runId := lease.runId
            jobId := lease.jobId
            invocationId := row.id
            effectIdentity := row.effectIdentity
            status
            payloadHash := resultHash
            payload := resultPayload payload errorCode
            reconciledAt := if reconciled then some store.base.clock else none }
        insertResult result
        conclude row.id status (attemptOutcome status) errorCode (·.id = reserved.attemptId)
        pure (some result)

def reconcileUnknown (draws : CapabilityDraws) (lease : JobLease) (invocationId : String)
    (status : CapabilityStatus) (payload : Json) :
    Program CapabilityStore RuntimeRaise PolicyCapabilityResult := do
  let _ ← assertCapabilityFence lease
  refuseWhen (status ∉ [.succeeded, .failed, .denied])
    (.valueError "invalid reconciled capability outcome")
  let store ← reads id
  let row ← require ((Table.find PolicyCapabilityInvocation.id store.invocations
      invocationId).filter fun row => row.runId = lease.runId && row.jobId = lease.jobId &&
        row.status = .unknown)
    (.runtimeConflict "policy_capability_not_reconcilable")
  let payloadHash ← capabilityHash (PyValue.ofJson payload)
  match store.result? row.id with
  | some existing => do
      refuseWhen (existing.status ≠ status ∨ existing.payloadHash ≠ payloadHash)
        (.runtimeConflict "policy_capability_reconciliation_conflict")
      conclude row.id status (attemptOutcome status) none (·.invocationId = row.id)
      pure existing
  | none => do
      let result : PolicyCapabilityResult :=
        { id := draws.resultId
          tenantId := lease.tenantId
          runId := lease.runId
          jobId := lease.jobId
          invocationId := row.id
          effectIdentity := row.effectIdentity
          status
          payloadHash
          payload
          reconciledAt := some store.base.clock }
      insertResult result
      conclude row.id status (attemptOutcome status) none (·.invocationId = row.id)
      pure result

/-- The receipt of an effect that was not applied. -/
def unprovable (effectIdentity : String) : Json :=
  .object [("error_code", .string "capability_effect_unprovable"),
    ("effect_status", .string "not_applied"), ("resolution", .string "failed"),
    ("effect_identity", .string effectIdentity)]

/-- The result of an invocation, under the effect that its row names. -/
def receipt? (store : CapabilityStore) (row : PolicyCapabilityInvocation) :
    Option PolicyCapabilityResult :=
  (store.result? row.id).filter fun result => result.effectIdentity = row.effectIdentity

def reconcileUnknownEffect (draws : CapabilityDraws) (lease : JobLease) (invocationId : String) :
    Program CapabilityStore RuntimeRaise PolicyCapabilityResult := do
  let _ ← assertCapabilityFence lease
  let store ← reads id
  let row ← require ((Table.find PolicyCapabilityInvocation.id store.invocations
      invocationId).filter fun row => row.status = .unknown)
    (.runtimeConflict "policy_capability_not_reconcilable")
  match receipt? store row with
  | some receipt => reconcileUnknown draws lease row.id receipt.status receipt.payload
  | none => reconcileUnknown draws lease row.id .failed (unprovable row.effectIdentity)

def reconcileStaleActiveEffect (draws : CapabilityDraws) (lease : JobLease)
    (invocationId : String) : Program CapabilityStore RuntimeRaise PolicyCapabilityResult := do
  let _ ← assertCapabilityFence lease
  let store ← reads id
  let row ← require ((Table.find PolicyCapabilityInvocation.id store.invocations
      invocationId).filter fun row => row.tenantId = lease.tenantId &&
        row.runId = lease.runId && row.jobId = lease.jobId &&
        row.fencingToken < lease.fencingToken && row.status ∈ [.reserved, .executing, .unknown])
    (.runtimeConflict "policy_capability_stale_takeover_not_allowed")
  match receipt? store row with
  | some result => do
      conclude row.id result.status (attemptOutcome result.status) none (·.invocationId = row.id)
      pure result
  | none => do
      let payload := unprovable row.effectIdentity
      let payloadHash ← capabilityHash (PyValue.ofJson payload)
      let result : PolicyCapabilityResult :=
        { id := draws.resultId
          tenantId := row.tenantId
          runId := row.runId
          jobId := row.jobId
          invocationId := row.id
          effectIdentity := row.effectIdentity
          status := .failed
          payloadHash
          payload
          reconciledAt := some store.base.clock }
      insertResult result
      conclude row.id .failed .failed none (·.invocationId = row.id)
      pure result

end PolicyCapabilityLedger

/-! ## The call -/

/-- A call of the Action MCP: the row and its attempt are marked, the effect takes place and
its result is recorded, or nothing of it happens. -/
def invokeCapability (draws : CapabilityDraws) (invocationId attemptId : String) (payload : Json) :
    Program CapabilityStore RuntimeRaise Unit := do
  let store ← reads id
  let row ← require (Table.find PolicyCapabilityInvocation.id store.invocations invocationId)
    (.runtimeConflict "policy_capability_not_active")
  let payloadHash ← capabilityHash (PyValue.ofJson payload)
  insertResult
    { id := draws.resultId
      tenantId := row.tenantId
      runId := row.runId
      jobId := row.jobId
      invocationId := row.id
      effectIdentity := row.effectIdentity
      status := .succeeded
      payloadHash
      payload }
  modify fun store =>
    let marked := (store.updateAttempts
      (fun attempt => attempt.id = attemptId && attempt.status = .reserved)
      fun attempt => { attempt with status := .executing }).updateInvocation row.id fun row =>
        { row with status := if row.status = .reserved then .executing else row.status }
    { marked with effects := store.effects ++ [{ invocationId := row.id, payload }] }

end SupportGuard
