import SupportGuard.Services.CapabilityLedger
import SupportGuard.Services.TicketLane

/-! # Effects and receipts

Leases of one job take turns, the calls commit in between, and any of them may stop at any
point. What the ledger says of an effect stays what happened to it. -/

namespace SupportGuard

open Foundation Program

/-- The statuses of a result. -/
def CapabilityStatus.isFinal (status : CapabilityStatus) : Bool :=
  status ∈ [.succeeded, .failed, .denied]

/-- The effect that a result vouches for. -/
def PolicyCapabilityResult.effect? (result : PolicyCapabilityResult) : Option CapabilityEffect :=
  if result.status = .succeeded then
    some { invocationId := result.invocationId, payload := result.payload }
  else none

/-! ## What an operation can do to the ledger -/

/-- One operation: a new row, or an invocation that moves on, with at most one new result. -/
inductive ReceiptsChange (tenantId : String) (before after : CapabilityStore) : Prop
  | reserved (row : PolicyCapabilityInvocation) (tenant : row.tenantId = tenantId)
      (new : ∀ other ∈ before.invocations, other.tenantId = row.tenantId →
        other.effectIdentity ≠ row.effectIdentity)
      (isOpen : row.status = .reserved)
      (rows : after.invocations = before.invocations ++ [row])
      (results : after.results = before.results)
      (effects : after.effects = before.effects)
  | moved (invocationId : String)
      (change : PolicyCapabilityInvocation → PolicyCapabilityInvocation)
      (added : Option PolicyCapabilityResult)
      (keeps : ∀ row, (change row).id = row.id ∧ (change row).tenantId = row.tenantId ∧
        (change row).effectIdentity = row.effectIdentity)
      (new : ∀ result ∈ added, ∀ other ∈ before.results,
        other.invocationId ≠ result.invocationId)
      (rows : after.invocations =
        Table.update PolicyCapabilityInvocation.id invocationId change before.invocations)
      (results : after.results = before.results ++ added.toList)
      (effects : after.effects =
        before.effects ++ added.toList.filterMap PolicyCapabilityResult.effect?)
      (agrees : ∀ row, (change row).status.isFinal → (change row).status = row.status ∨
        ∃ result ∈ after.results, result.invocationId = invocationId ∧
          result.status = (change row).status)

/-- Each invocation has at most one result, every ended row agrees with its own, and the
effects are those that the results vouch for. -/
structure ReceiptsSound (tenantId : String) (store : CapabilityStore) : Prop where
  tenant : ∀ row ∈ store.invocations, row.tenantId = tenantId
  reservedOnce : (store.invocations.map PolicyCapabilityInvocation.effectIdentity).Nodup
  resultOnce : (store.results.map PolicyCapabilityResult.invocationId).Nodup
  agrees : ∀ row ∈ store.invocations, row.status.isFinal → ∃ result ∈ store.results,
    result.invocationId = row.id ∧ result.status = row.status
  vouched : store.effects = store.results.filterMap PolicyCapabilityResult.effect?

namespace ReceiptsChange

variable {tenantId : String} {before after : CapabilityStore}

theorem results_prefix (change : ReceiptsChange tenantId before after) :
    before.results <+: after.results := by
  cases change with
  | reserved row _ _ _ _ results _ => exact results ▸ List.prefix_rfl
  | moved _ _ added _ _ _ results _ _ =>
      rw [results]
      exact List.prefix_append _ _

theorem sound_reserved {row : PolicyCapabilityInvocation} (sound : ReceiptsSound tenantId before)
    (tenant : row.tenantId = tenantId)
    (new : ∀ other ∈ before.invocations, other.tenantId = row.tenantId →
      other.effectIdentity ≠ row.effectIdentity)
    (isOpen : row.status = .reserved) (rows : after.invocations = before.invocations ++ [row])
    (results : after.results = before.results) (effects : after.effects = before.effects) :
    ReceiptsSound tenantId after where
  tenant := by
    intro other member
    rw [rows, List.mem_append, List.mem_singleton] at member
    rcases member with old | rfl
    · exact sound.tenant other old
    · exact tenant
  reservedOnce := by
    rw [rows, List.map_append, List.map_singleton]
    apply List.nodup_append.mpr
    refine ⟨sound.reservedOnce, List.nodup_singleton _, ?_⟩
    intro identity old other added
    rcases List.mem_map.mp old with ⟨known, member, rfl⟩
    rw [List.mem_singleton.mp added]
    exact new known member ((sound.tenant known member).trans tenant.symm)
  resultOnce := by
    rw [results]
    exact sound.resultOnce
  agrees := by
    intro other member final
    rw [rows, List.mem_append, List.mem_singleton] at member
    rw [results]
    rcases member with old | rfl
    · exact sound.agrees other old final
    · rw [isOpen] at final
      cases final
  vouched := by
    rw [effects, results]
    exact sound.vouched

theorem sound (change : ReceiptsChange tenantId before after)
    (sound : ReceiptsSound tenantId before) : ReceiptsSound tenantId after := by
  have grows := change.results_prefix
  cases change with
  | reserved row tenant new isOpen rows results effects =>
      exact sound_reserved sound tenant new isOpen rows results effects
  | moved invocationId change added keeps new rows results effects agrees =>
      constructor
      · intro row member
        rw [rows, Table.mem_update] at member
        rcases member with ⟨old, _⟩ | ⟨old, member, _, rfl⟩
        · exact sound.tenant row old
        · exact (keeps old).2.1.trans (sound.tenant old member)
      · have same : after.invocations.map PolicyCapabilityInvocation.effectIdentity =
            before.invocations.map PolicyCapabilityInvocation.effectIdentity := by
          rw [rows, Table.update, List.map_map]
          apply List.map_congr_left
          intro row _
          show PolicyCapabilityInvocation.effectIdentity (ite _ _ _) = _
          split
          · exact (keeps row).2.2
          · rfl
        rw [same]
        exact sound.reservedOnce
      · rw [results]
        cases added with
        | none =>
            rw [Option.toList_none, List.append_nil]
            exact sound.resultOnce
        | some result =>
            rw [List.map_append]
            apply List.nodup_append.mpr
            refine ⟨sound.resultOnce, List.nodup_singleton _, ?_⟩
            intro id old other addedId
            rcases List.mem_map.mp old with ⟨known, member, rfl⟩
            rw [List.mem_singleton.mp addedId]
            exact new result rfl known member
      · intro row member final
        rw [rows, Table.mem_update] at member
        rcases member with ⟨old, _⟩ | ⟨old, member, named, rfl⟩
        · rcases sound.agrees row old final with ⟨result, known, agree⟩
          exact ⟨result, grows.subset known, agree⟩
        · rcases agrees old final with unchanged | ⟨result, known, resultNamed, status⟩
          · rw [unchanged] at final ⊢
            rcases sound.agrees old member final with ⟨result, known, agree⟩
            rw [(keeps old).1]
            exact ⟨result, grows.subset known, agree⟩
          · rw [(keeps old).1, named]
            exact ⟨result, known, resultNamed, status⟩
      · rw [effects, results, List.filterMap_append, sound.vouched]

/-- An invocation takes a status, and with it at most one result that is no success. -/
theorem ended {invocationId : String} {status : CapabilityStatus} {errorCode : Option String}
    {completedAt : Option Instant} (added : Option PolicyCapabilityResult)
    (rows : after.invocations = Table.update PolicyCapabilityInvocation.id invocationId
      (fun row => { row with status, errorCode, completedAt }) before.invocations)
    (results : after.results = before.results ++ added.toList)
    (effects : after.effects = before.effects)
    (noSuccess : ∀ result ∈ added, result.status ≠ .succeeded)
    (new : ∀ result ∈ added, ∀ other ∈ before.results,
      other.invocationId ≠ result.invocationId)
    (agrees : status.isFinal → ∃ result ∈ after.results,
      result.invocationId = invocationId ∧ result.status = status) :
    ReceiptsChange tenantId before after := by
  apply moved invocationId (fun row => { row with status, errorCode, completedAt }) added
    (fun _ => ⟨rfl, rfl, rfl⟩) new rows results
  · have silent : added.toList.filterMap PolicyCapabilityResult.effect? = [] := by
      apply List.filterMap_eq_nil_iff.mpr
      intro result member
      exact if_neg (noSuccess result (Option.mem_toList.mp member))
    rw [silent, List.append_nil, effects]
  · intro _ final
    exact Or.inr (agrees final)

end ReceiptsChange

/-! ## The operations -/

/-- The fence only reads. -/
theorem returns_fence_bind {α : Type} {lease : JobLease} {before after : CapabilityStore}
    {next : RuntimeJob → Program CapabilityStore RuntimeRaise α} {result : α}
    (returned : (assertCapabilityFence lease >>= next).Returns before result after) :
    ∃ job, (next job).Returns before result after := by
  rcases returns_bind.mp returned with ⟨job, middle, asserted, rest⟩
  rw [assertCapabilityFence, returns_onPart] at asserted
  rcases asserted with ⟨base, fenced, equal⟩
  rw [(assertFence_returns.mp fenced).2] at equal
  rw [equal] at rest
  exact ⟨job, rest⟩

theorem insertCapability_returns {row : PolicyCapabilityInvocation}
    {before after : CapabilityStore}
    (returned : (insertCapability row).Returns before () after) :
    (∀ other ∈ before.invocations, other.tenantId = row.tenantId →
      other.effectIdentity ≠ row.effectIdentity) ∧
    after = { before with invocations := before.invocations ++ [row] } := by
  simp only [insertCapability, returns_readsId_bind, returns_refuseWhen_bind,
    returns_modify] at returned
  rcases returned with ⟨_, _, new, equal⟩
  refine ⟨?_, equal⟩
  intro other member tenant same
  apply new
  simp only [List.any_eq_true, Bool.and_eq_true, decide_eq_true_eq]
  exact ⟨other, member, tenant, same⟩

theorem insertCapabilityAttempt_returns {row : PolicyCapabilityAttempt}
    {before after : CapabilityStore}
    (returned : (insertCapabilityAttempt row).Returns before () after) :
    after = { before with attempts := before.attempts ++ [row] } := by
  simp only [insertCapabilityAttempt, returns_readsId_bind, returns_refuseWhen_bind,
    returns_modify] at returned
  exact returned.2.2

theorem insertResult_returns {row : PolicyCapabilityResult} {before after : CapabilityStore}
    (returned : (insertResult row).Returns before () after) :
    (∀ other ∈ before.results, other.invocationId ≠ row.invocationId) ∧
    after = { before with results := before.results ++ [row] } := by
  simp only [insertResult, returns_readsId_bind, returns_refuseWhen_bind,
    returns_modify] at returned
  rcases returned with ⟨_, new, _, equal⟩
  refine ⟨?_, equal⟩
  intro other member same
  apply new
  simp only [List.any_eq_true, decide_eq_true_eq]
  exact ⟨other, member, same⟩

theorem result?_eq_some {store : CapabilityStore} {invocationId : String}
    {result : PolicyCapabilityResult} (found : store.result? invocationId = some result) :
    result ∈ store.results ∧ result.invocationId = invocationId :=
  Table.find_mem found

namespace PolicyCapabilityLedger

variable {tenantId : String} {before after : CapabilityStore} {draws : CapabilityDraws}
  {lease : JobLease}

theorem reserve_changes {segmentId capabilityName : String} {causalDecision : CausalDecision}
    {observationBinding : PyValue} {reserved : ReservedCapability}
    (returned : (reserve draws lease segmentId capabilityName causalDecision
      observationBinding).Returns before reserved after) :
    ReceiptsChange lease.tenantId before after := by
  rcases returns_fence_bind returned with ⟨job, returned⟩
  simp only [returns_refuseWhen_bind, capabilityHash, returns_ofExcept_bind,
    returns_readsId_bind] at returned
  rcases returned with ⟨_, decisionHash, _, bindingHash, _, _, effectIdentity, _, _, returned⟩
  rcases returns_bind.mp returned with ⟨⟨⟩, inserted, insertion, returned⟩
  rcases returns_bind.mp returned with ⟨⟨⟩, attempted, attempting, returned⟩
  rcases insertCapability_returns insertion with ⟨new, insertedEqual⟩
  have attemptedEqual := insertCapabilityAttempt_returns attempting
  rw [insertedEqual] at attemptedEqual
  rw [(returns_pure.mp returned).2, attemptedEqual]
  exact .reserved _ rfl new rfl rfl rfl rfl

variable {invocationId : String}

/-- A final status is that of a result that is already there. -/
theorem conclude_known {status attemptStatus : CapabilityStatus} {errorCode : Option String}
    {ends : PolicyCapabilityAttempt → Bool} (known : status.isFinal → ∃ result ∈ before.results,
      result.invocationId = invocationId ∧ result.status = status)
    (concluded : (conclude invocationId status attemptStatus errorCode ends).Returns
      before () after) : ReceiptsChange tenantId before after := by
  rw [conclude, returns_modify] at concluded
  apply ReceiptsChange.ended none (by rw [concluded]; rfl)
  · rw [concluded, Option.toList_none, List.append_nil]
    rfl
  · rw [concluded]
    rfl
  · exact fun _ absent => by cases absent
  · exact fun _ absent => by cases absent
  · intro final
    rw [concluded]
    exact known final

variable {result : PolicyCapabilityResult}

/-- A first result that is no success is recorded with the status of its invocation. -/
theorem conclude_failed {attemptStatus : CapabilityStatus} {errorCode : Option String}
    {ends : PolicyCapabilityAttempt → Bool} (named : result.invocationId = invocationId)
    (noSuccess : result.status ≠ .succeeded) {middle : CapabilityStore}
    (inserted : (insertResult result).Returns before () middle)
    (concluded : (conclude invocationId result.status attemptStatus errorCode ends).Returns
      middle () after) : ReceiptsChange tenantId before after := by
  rcases insertResult_returns inserted with ⟨new, insertedEqual⟩
  rw [conclude, returns_modify, insertedEqual] at concluded
  apply ReceiptsChange.ended (some result) (by rw [concluded]; rfl)
  · rw [concluded]
    rfl
  · rw [concluded]
    rfl
  · intro other member
    rw [← Option.mem_some.mp member]
    exact noSuccess
  · intro other member
    rw [← Option.mem_some.mp member]
    exact new
  · intro _
    rw [concluded]
    exact ⟨result, List.mem_append_right _ (List.mem_singleton_self _), named, rfl⟩

/-- A success is reported only where the ledger already has it. -/
theorem finish_changes {reserved : ReservedCapability} {status : CapabilityStatus}
    {errorCode : Option String} {payload : Option Json} {reconciled : Bool}
    {result : Option PolicyCapabilityResult}
    (reported : status = .succeeded → ∃ known, before.result? reserved.id = some known)
    (returned : (finish draws lease reserved status errorCode payload reconciled).Returns
      before result after) : ReceiptsChange tenantId before after := by
  rcases returns_fence_bind returned with ⟨job, returned⟩
  simp only [returns_readsId_bind, returns_require_bind, returns_refuseWhen_bind, capabilityHash,
    returns_ofExcept_bind] at returned
  rcases returned with ⟨row, found, _, attempt, _, resultHash, _, returned⟩
  have named : row.id = reserved.id := by
    rcases Option.filter_eq_some_iff.mp found with ⟨found, _⟩
    exact (Table.find_mem found).2
  split at returned
  · rename_i existing present
    simp only [returns_refuseWhen_bind] at returned
    rcases returned with ⟨_, _, returned⟩
    rcases returns_bind.mp returned with ⟨⟨⟩, concluded, concluding, returned⟩
    rw [(returns_pure.mp returned).2]
    rcases result?_eq_some present with ⟨known, resultNamed⟩
    exact conclude_known (fun _ => ⟨existing, known, resultNamed.trans named.symm, rfl⟩) concluding
  · rename_i absent
    split at returned
    · rcases returns_bind.mp returned with ⟨⟨⟩, concluded, concluding, returned⟩
      rw [(returns_pure.mp returned).2]
      exact conclude_known (fun final => by cases final) concluding
    · rcases returns_bind.mp returned with ⟨⟨⟩, inserted, inserting, returned⟩
      rcases returns_bind.mp returned with ⟨⟨⟩, concluded, concluding, returned⟩
      rw [(returns_pure.mp returned).2]
      refine conclude_failed rfl ?_ inserting concluding
      intro success
      rcases reported success with ⟨known, present⟩
      rw [absent] at present
      cases present

theorem reconcileUnknown_changes {status : CapabilityStatus} {payload : Json}
    (reported : status = .succeeded → ∃ known, before.result? invocationId = some known)
    (returned : (reconcileUnknown draws lease invocationId status payload).Returns
      before result after) : ReceiptsChange tenantId before after := by
  rcases returns_fence_bind returned with ⟨job, returned⟩
  simp only [returns_readsId_bind, returns_require_bind, returns_refuseWhen_bind, capabilityHash,
    returns_ofExcept_bind] at returned
  rcases returned with ⟨_, row, found, payloadHash, _, returned⟩
  have named : row.id = invocationId := by
    rcases Option.filter_eq_some_iff.mp found with ⟨found, _⟩
    exact (Table.find_mem found).2
  split at returned
  · rename_i existing present
    simp only [returns_refuseWhen_bind, not_or, not_not] at returned
    rcases returned with ⟨⟨sameStatus, _⟩, returned⟩
    rcases returns_bind.mp returned with ⟨⟨⟩, concluded, concluding, returned⟩
    rw [(returns_pure.mp returned).2]
    rw [← sameStatus] at concluding
    rcases result?_eq_some present with ⟨known, resultNamed⟩
    exact conclude_known (fun _ => ⟨existing, known, resultNamed, rfl⟩) concluding
  · rename_i absent
    rcases returns_bind.mp returned with ⟨⟨⟩, inserted, inserting, returned⟩
    rcases returns_bind.mp returned with ⟨⟨⟩, concluded, concluding, returned⟩
    rw [(returns_pure.mp returned).2]
    refine conclude_failed rfl ?_ inserting concluding
    intro success
    rcases reported success with ⟨known, present⟩
    rw [← named, absent] at present
    cases present

theorem receipt?_eq_some {row : PolicyCapabilityInvocation} {receipt : PolicyCapabilityResult}
    (found : receipt? before row = some receipt) : before.result? row.id = some receipt :=
  (Option.filter_eq_some_iff.mp found).1

theorem reconcileUnknownEffect_changes
    (returned : (reconcileUnknownEffect draws lease invocationId).Returns
      before result after) : ReceiptsChange tenantId before after := by
  rcases returns_fence_bind returned with ⟨job, returned⟩
  simp only [returns_readsId_bind, returns_require_bind] at returned
  rcases returned with ⟨row, _, returned⟩
  split at returned
  · rename_i receipt found
    exact reconcileUnknown_changes (fun _ => ⟨receipt, receipt?_eq_some found⟩) returned
  · apply reconcileUnknown_changes _ returned
    intro success
    cases success

theorem reconcileStaleActiveEffect_changes
    (returned : (reconcileStaleActiveEffect draws lease invocationId).Returns
      before result after) : ReceiptsChange tenantId before after := by
  rcases returns_fence_bind returned with ⟨job, returned⟩
  simp only [returns_readsId_bind, returns_require_bind, capabilityHash] at returned
  rcases returned with ⟨row, _, returned⟩
  split at returned
  · rename_i receipt found
    rcases returns_bind.mp returned with ⟨⟨⟩, concluded, concluding, returned⟩
    rw [(returns_pure.mp returned).2]
    rcases result?_eq_some (receipt?_eq_some found) with ⟨known, named⟩
    exact conclude_known (fun _ => ⟨receipt, known, named, rfl⟩) concluding
  · simp only [returns_ofExcept_bind] at returned
    rcases returned with ⟨payloadHash, _, returned⟩
    rcases returns_bind.mp returned with ⟨⟨⟩, inserted, inserting, returned⟩
    rcases returns_bind.mp returned with ⟨⟨⟩, concluded, concluding, returned⟩
    rw [(returns_pure.mp returned).2]
    refine conclude_failed rfl ?_ inserting concluding
    intro success
    cases success

end PolicyCapabilityLedger

/-- A call leaves its effect and the result that vouches for it together. -/
theorem invokeCapability_changes {tenantId : String} {before after : CapabilityStore}
    {draws : CapabilityDraws} {invocationId attemptId : String} {payload : Json}
    (returned : (invokeCapability draws invocationId attemptId payload).Returns
      before () after) : ReceiptsChange tenantId before after := by
  simp only [invokeCapability, returns_readsId_bind, returns_require_bind, capabilityHash,
    returns_ofExcept_bind] at returned
  rcases returned with ⟨row, found, payloadHash, _, returned⟩
  rcases returns_bind.mp returned with ⟨⟨⟩, inserted, inserting, returned⟩
  rcases insertResult_returns inserting with ⟨new, insertedEqual⟩
  rw [returns_modify, insertedEqual] at returned
  refine .moved row.id
    (fun row => { row with status := if row.status = .reserved then .executing else row.status })
    (some _) (fun _ => ⟨rfl, rfl, rfl⟩) ?_ (by rw [returned]; rfl) (by rw [returned]; rfl)
    (by rw [returned]; rfl) ?_
  · intro result member
    rw [← Option.mem_some.mp member]
    exact new
  · intro row final
    left
    by_cases isOpen : row.status = .reserved
    · simp only [isOpen, if_true] at final
      cases final
    · simp only [isOpen, if_false]

/-! ## Runs -/

/-- A job with its run and tenant. -/
structure LeasedJob where
  tenantId : String
  runId : String
  jobId : String
deriving DecidableEq

def JobLease.leasedJob (lease : JobLease) : LeasedJob where
  tenantId := lease.tenantId
  runId := lease.runId
  jobId := lease.jobId

/-- What happens between two states. An operation that raises, or a process that stops in
the middle of one, is rolled back and is no step. -/
inductive CapabilityStep (job : LeasedJob) : CapabilityStore → CapabilityStore → Prop
  | runtime (before : CapabilityStore) (base : Database) :
      CapabilityStep job before { before with base }
  | reserve {before after : CapabilityStore} (draws : CapabilityDraws) (lease : JobLease)
      (own : lease.leasedJob = job) (segmentId capabilityName : String)
      (causalDecision : CausalDecision) (observationBinding : PyValue)
      (reserved : ReservedCapability)
      (returned : (PolicyCapabilityLedger.reserve draws lease segmentId capabilityName
        causalDecision observationBinding).Returns before reserved after) :
      CapabilityStep job before after
  | finish {before after : CapabilityStore} (draws : CapabilityDraws) (lease : JobLease)
      (own : lease.leasedJob = job) (reserved : ReservedCapability) (status : CapabilityStatus)
      (errorCode : Option String) (payload : Option Json) (reconciled : Bool)
      (result : Option PolicyCapabilityResult)
      -- The worker says `succeeded` only with what a committed call has answered.
      (reported : status = .succeeded → ∃ effect ∈ before.effects,
        effect.invocationId = reserved.id ∧ payload = some effect.payload)
      (returned : (PolicyCapabilityLedger.finish draws lease reserved status errorCode payload
        reconciled).Returns before result after) :
      CapabilityStep job before after
  | reconcileUnknownEffect {before after : CapabilityStore} (draws : CapabilityDraws)
      (lease : JobLease) (own : lease.leasedJob = job) (invocationId : String)
      (result : PolicyCapabilityResult)
      (returned : (PolicyCapabilityLedger.reconcileUnknownEffect draws lease
        invocationId).Returns before result after) :
      CapabilityStep job before after
  | reconcileStaleActiveEffect {before after : CapabilityStore} (draws : CapabilityDraws)
      (lease : JobLease) (own : lease.leasedJob = job) (invocationId : String)
      (result : PolicyCapabilityResult)
      (returned : (PolicyCapabilityLedger.reconcileStaleActiveEffect draws lease
        invocationId).Returns before result after) :
      CapabilityStep job before after
  | invoke {before after : CapabilityStore} (draws : CapabilityDraws)
      (invocationId attemptId : String) (payload : Json)
      (returned : (invokeCapability draws invocationId attemptId payload).Returns before ()
        after) :
      CapabilityStep job before after

namespace ReceiptsSound

variable {tenantId : String} {store : CapabilityStore}

theorem empty (invocations : store.invocations = []) (results : store.results = [])
    (effects : store.effects = []) : ReceiptsSound tenantId store where
  tenant := by
    rw [invocations]
    intro row member
    cases member
  reservedOnce := by
    rw [invocations]
    exact List.nodup_nil
  resultOnce := by
    rw [results]
    exact List.nodup_nil
  agrees := by
    rw [invocations]
    intro row member
    cases member
  vouched := by
    rw [effects, results]
    rfl

theorem result?_of_mem (sound : ReceiptsSound tenantId store) {result : PolicyCapabilityResult}
    (member : result ∈ store.results) : store.result? result.invocationId = some result :=
  Table.find_of_mem sound.resultOnce member

theorem effect_iff (sound : ReceiptsSound tenantId store) (invocationId : String) :
    (∃ effect ∈ store.effects, effect.invocationId = invocationId) ↔
      ∃ result, store.result? invocationId = some result ∧ result.status = .succeeded := by
  rw [sound.vouched]
  constructor
  · intro ⟨effect, member, named⟩
    rcases List.mem_filterMap.mp member with ⟨result, known, vouches⟩
    rw [PolicyCapabilityResult.effect?] at vouches
    split at vouches
    · rename_i succeeded
      cases vouches
      refine ⟨result, ?_, succeeded⟩
      rw [← named]
      exact sound.result?_of_mem known
    · cases vouches
  · intro ⟨result, found, succeeded⟩
    rcases result?_eq_some found with ⟨known, named⟩
    refine ⟨{ invocationId := result.invocationId, payload := result.payload }, ?_, named⟩
    exact List.mem_filterMap.mpr ⟨result, known, if_pos succeeded⟩

/-- No invocation takes effect twice. -/
theorem effectOnce (sound : ReceiptsSound tenantId store) :
    (store.effects.map CapabilityEffect.invocationId).Nodup := by
  rw [sound.vouched]
  have part : ((store.results.filterMap PolicyCapabilityResult.effect?).map
      CapabilityEffect.invocationId).Sublist
        (store.results.map PolicyCapabilityResult.invocationId) := by
    induction store.results with
    | nil => exact List.Sublist.refl _
    | cons result rest induction =>
        rw [List.filterMap_cons, List.map_cons, PolicyCapabilityResult.effect?]
        by_cases succeeded : result.status = .succeeded
        · rw [if_pos succeeded]
          exact induction.cons_cons _
        · rw [if_neg succeeded]
          exact induction.cons _
  exact sound.resultOnce.sublist part

end ReceiptsSound

namespace CapabilityStep

variable {job : LeasedJob} {before after : CapabilityStore}

theorem changes (step : CapabilityStep job before after)
    (sound : ReceiptsSound job.tenantId before) :
    ReceiptsSound job.tenantId after ∧ before.results <+: after.results := by
  suffices same : (after.invocations = before.invocations ∧ after.results = before.results ∧
      after.effects = before.effects) ∨ ReceiptsChange job.tenantId before after by
    rcases same with ⟨rows, results, effects⟩ | change
    · constructor
      · constructor
        · rw [rows]
          exact sound.tenant
        · rw [rows]
          exact sound.reservedOnce
        · rw [results]
          exact sound.resultOnce
        · rw [rows, results]
          exact sound.agrees
        · rw [effects, results]
          exact sound.vouched
      · exact results ▸ List.prefix_rfl
    · exact ⟨change.sound sound, change.results_prefix⟩
  cases step with
  | runtime base =>
      exact Or.inl ⟨rfl, rfl, rfl⟩
  | reserve draws lease own segmentId capabilityName causalDecision binding reserved returned =>
      rw [← own]
      exact Or.inr (PolicyCapabilityLedger.reserve_changes returned)
  | finish draws lease own reserved status errorCode payload reconciled result reported
      returned =>
      apply Or.inr (PolicyCapabilityLedger.finish_changes _ returned)
      intro success
      rcases reported success with ⟨effect, committed, named, _⟩
      rcases (sound.effect_iff reserved.id).mp ⟨effect, committed, named⟩ with ⟨known, found, _⟩
      exact ⟨known, found⟩
  | reconcileUnknownEffect draws lease own invocationId result returned =>
      exact Or.inr (PolicyCapabilityLedger.reconcileUnknownEffect_changes returned)
  | reconcileStaleActiveEffect draws lease own invocationId result returned =>
      exact Or.inr (PolicyCapabilityLedger.reconcileStaleActiveEffect_changes returned)
  | invoke draws invocationId attemptId payload returned =>
      exact Or.inr (invokeCapability_changes returned)

end CapabilityStep

theorem receiptsSound_run {job : LeasedJob} {initial final : CapabilityStore}
    (reached : Relation.ReflTransGen (CapabilityStep job) initial final)
    (sound : ReceiptsSound job.tenantId initial) : ReceiptsSound job.tenantId final :=
  Run.preserves (fun _ _ step sound => (step.changes sound).1) reached sound

theorem results_prefix_run {job : LeasedJob} {initial final : CapabilityStore}
    (reached : Relation.ReflTransGen (CapabilityStep job) initial final)
    (sound : ReceiptsSound job.tenantId initial) : initial.results <+: final.results := by
  induction reached with
  | refl => exact List.prefix_rfl
  | tail earlier last induction =>
      exact induction.trans (last.changes (receiptsSound_run earlier sound)).2

/-- From an empty ledger: each invocation has at most one result, which stays; a row that has
ended agrees with its result; effects and successful results are the same, once each; and no
effect is reserved twice. -/
theorem capabilityLedger_converges {job : LeasedJob} {initial middle final : CapabilityStore}
    (invocations : initial.invocations = []) (results : initial.results = [])
    (effects : initial.effects = [])
    (begun : Relation.ReflTransGen (CapabilityStep job) initial middle)
    (continued : Relation.ReflTransGen (CapabilityStep job) middle final) :
    (middle.results.map PolicyCapabilityResult.invocationId).Nodup ∧
    (∀ result ∈ middle.results, final.result? result.invocationId = some result) ∧
    (∀ row ∈ middle.invocations, row.status ∈ [.succeeded, .failed, .denied] →
      ∃ result, middle.result? row.id = some result ∧ result.status = row.status) ∧
    (∀ invocationId, (∃ effect ∈ middle.effects, effect.invocationId = invocationId) ↔
      ∃ result, middle.result? invocationId = some result ∧ result.status = .succeeded) ∧
    (middle.effects.map CapabilityEffect.invocationId).Nodup ∧
    (middle.invocations.map PolicyCapabilityInvocation.effectIdentity).Nodup := by
  have sound := receiptsSound_run begun (ReceiptsSound.empty invocations results effects)
  refine ⟨sound.resultOnce, ?_, ?_, sound.effect_iff, sound.effectOnce, sound.reservedOnce⟩
  · intro result member
    have kept := (results_prefix_run continued sound).subset member
    exact (receiptsSound_run continued sound).result?_of_mem kept
  · intro row member ended
    rcases sound.agrees row member (decide_eq_true ended) with ⟨result, known, named, status⟩
    refine ⟨result, ?_, status⟩
    rw [← named]
    exact sound.result?_of_mem known

/-! A call answers, the answer is lost, and the worker reports that it does not know. -/

def leasedStore : CapabilityStore where
  base :=
    { tickets := [{ id := "ticket_1", tenantId := "acme", customerId := "customer" }]
      runs :=
        [{ id := "run"
           tenantId := "acme"
           ticketId := "ticket_1"
           customerId := "customer"
           activeJobId := some "job"
           activeFencingToken := some 1 }]
      jobs :=
        [{ id := "job"
           tenantId := "acme"
           ticketId := "ticket_1"
           runId := "run"
           dispatchSequence := 1
           approvalId := none
           kind := .agentStart
           status := .leased
           availableAt := ⟨0, Instant.first_inRange⟩
           leaseOwner := some "worker"
           leaseExpiresAt := some ⟨30000000, Instant.halfMinute_inRange⟩
           fencingToken := 1
           createdAt := ⟨0, Instant.first_inRange⟩ }] }

def capabilityLease : JobLease where
  jobId := "job"
  runId := "run"
  tenantId := "acme"
  owner := "worker"
  fencingToken := 1
  expiresAt := ⟨30000000, Instant.halfMinute_inRange⟩

def capabilityDraws : CapabilityDraws where
  invocationId := "invocation"
  attemptId := "attempt"
  resultId := "result"

def emptyBindingHash : String :=
  match canonicalHash (.list []) with
  | .ok hash => hash
  | .error _ => ""

def reserveOnce : Program CapabilityStore RuntimeRaise ReservedCapability :=
  PolicyCapabilityLedger.reserve capabilityDraws capabilityLease "segment" "propose_refund"
    { capabilityName := "propose_refund"
      observationBindingHash := emptyBindingHash
      dump := .dict [] }
    (.list [])

/-- The reservation, the call whose answer is lost, and the report of the worker. -/
def lostAnswer : Program CapabilityStore RuntimeRaise (Option PolicyCapabilityResult) := do
  let reserved ← reserveOnce
  invokeCapability capabilityDraws reserved.id reserved.attemptId (.object [])
  PolicyCapabilityLedger.finish capabilityDraws capabilityLease reserved .unknown none none false

theorem lostAnswer_run {result : Option PolicyCapabilityResult} {final : CapabilityStore}
    (returned : lostAnswer.Returns leasedStore result final) :
    Relation.ReflTransGen (CapabilityStep capabilityLease.leasedJob) leasedStore final := by
  rcases returns_bind.mp returned with ⟨reserved, opened, reserving, returned⟩
  rcases returns_bind.mp returned with ⟨⟨⟩, called, calling, finishing⟩
  have first : CapabilityStep capabilityLease.leasedJob leasedStore opened :=
    .reserve _ _ rfl _ _ _ _ _ reserving
  have second : CapabilityStep capabilityLease.leasedJob opened called :=
    .invoke _ _ _ _ calling
  have third : CapabilityStep capabilityLease.leasedJob called final :=
    .finish _ _ rfl _ _ _ _ _ _ (fun h => by cases h) finishing
  exact ((Relation.ReflTransGen.single first).tail second).tail third

theorem lostAnswer_statuses :
    (lostAnswer leasedStore).1.isOk = true ∧
      (lostAnswer leasedStore).2.invocations.map PolicyCapabilityInvocation.status =
        [.succeeded] ∧
      (lostAnswer leasedStore).2.effects.length = 1 := by
  decide +kernel

theorem capabilityLedger_converges_lostAnswer :
    ∃ final, Relation.ReflTransGen (CapabilityStep capabilityLease.leasedJob) leasedStore final ∧
      final.invocations.map PolicyCapabilityInvocation.status = [.succeeded] ∧
      final.effects.length = 1 ∧
      (final.results.map PolicyCapabilityResult.invocationId).Nodup := by
  rcases lostAnswer_statuses with ⟨ran, statuses, once⟩
  rcases returns_of_isOk ran with ⟨result, returned⟩
  have run := lostAnswer_run returned
  refine ⟨_, run, statuses, once, ?_⟩
  exact (capabilityLedger_converges rfl rfl rfl run .refl).1

end SupportGuard
