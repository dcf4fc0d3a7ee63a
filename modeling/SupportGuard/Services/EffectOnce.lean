import SupportGuard.Services.ActionExecution
import SupportGuard.Services.ApprovalOutcomes

/-! # Effects happen once

An execution changes a business resource only together with the action that records the
change and the approval that it uses up. -/

namespace SupportGuard

open Foundation Program

/-! ## What executions are about -/

namespace Database

def executed (database : Database) (approvalId : String) : Bool :=
  (Table.find ApprovalRequest.id database.approvals approvalId).any fun approval =>
    approval.status = .executed

/-- The resources, the actions on them, and the approvals the actions use up. -/
structure EffectView where
  actions : List BusinessAction
  billing : List BillingRecord
  apiKeys : List ApiKeyMetadata
  subscriptions : List Subscription
  executed : String → Bool
  approvalIds : List String

def effectView (database : Database) : EffectView where
  actions := database.actions
  billing := database.billing
  apiKeys := database.apiKeys
  subscriptions := database.subscriptions
  executed := database.executed
  approvalIds := database.approvals.map ApprovalRequest.id

/-- The primary keys of the tables. -/
structure EffectView.PrimaryKeys (view : EffectView) : Prop where
  approvals : view.approvalIds.Nodup
  billing : (view.billing.map BillingRecord.id).Nodup
  apiKeys : (view.apiKeys.map ApiKeyMetadata.id).Nodup
  subscriptions : (view.subscriptions.map Subscription.id).Nodup

end Database

open Database (EffectView)

/-! ## Calls without an effect -/

section Frames

variable {ε α : Type} {before after : Database}

theorem WritesOnly.keepsEffects {tables : List DatabaseTable} {program : Program Database ε α}
    (writes : WritesOnly tables program)
    (apart : ∀ table ∈ [DatabaseTable.approvals, .actions, .billing, .apiKeys, .subscriptions],
      table ∉ tables) : Keeps Database.effectView program := by
  intro database
  have approvals : _ = _ := writes database .approvals (apart _ (by simp))
  have actions : _ = _ := writes database .actions (apart _ (by simp))
  have billing : _ = _ := writes database .billing (apart _ (by simp))
  have apiKeys : _ = _ := writes database .apiKeys (apart _ (by simp))
  have subscriptions : _ = _ := writes database .subscriptions (apart _ (by simp))
  have executed : (program database).2.executed = database.executed := by
    funext approvalId
    simp only [Database.executed, approvals]
  simp only [Database.effectView, approvals, actions, billing, apiKeys, subscriptions, executed]

variable {change : ApprovalRequest → ApprovalRequest}

theorem Database.executed_updateApproval (database : Database) (approvalId : String)
    (keeps : ∀ row, (change row).id = row.id) :
    (database.updateApproval approvalId change).executed =
      Function.update database.executed approvalId
        ((Table.find ApprovalRequest.id database.approvals approvalId).any
          fun row => (change row).status = .executed) := by
  funext other
  by_cases same : other = approvalId
  · subst same
    simp only [executed, updateApproval, Table.find_update_self keeps, Function.update_self,
      Option.any_map]
  · rw [Function.update_of_ne same]
    simp only [executed, updateApproval, Table.find_update_of_ne keeps same]

theorem Database.effectView_updateApproval (database : Database) (approvalId : String)
    (keeps : ∀ row, (change row).id = row.id) :
    (database.updateApproval approvalId change).effectView =
      { database.effectView with
        executed := (database.updateApproval approvalId change).executed } := by
  simp only [effectView, EffectView.mk.injEq, true_and]
  exact ⟨rfl, rfl, rfl, rfl, Table.map_update keeps _⟩

theorem Database.effectView_updateApproval_executed {database : Database} {approvalId : String}
    (present : approvalId ∈ database.approvals.map ApprovalRequest.id)
    (keeps : ∀ row, (change row).id = row.id) (executes : ∀ row, (change row).status = .executed) :
    (database.updateApproval approvalId change).effectView =
      { database.effectView with
        executed := Function.update database.executed approvalId true } := by
  rw [effectView_updateApproval database approvalId keeps,
    executed_updateApproval database approvalId keeps]
  cases found : Table.find ApprovalRequest.id database.approvals approvalId with
  | none =>
      rcases List.mem_map.mp present with ⟨row, member, same⟩
      exact absurd same (Table.find_eq_none.mp found row member)
  | some row => simp [executes]

theorem Database.effectView_updateApproval_same {database : Database} {approvalId : String}
    (keeps : ∀ row, (change row).id = row.id) (same : ∀ row, (change row).status = row.status) :
    (database.updateApproval approvalId change).effectView = database.effectView := by
  rw [effectView_updateApproval database approvalId keeps,
    executed_updateApproval database approvalId keeps]
  simp only [same]
  exact congrArg (fun executed => { database.effectView with executed })
    (Function.update_eq_self approvalId database.executed)

/-- An approval that was not executed moves to another status that is not either. -/
theorem transition_keepsEffects {approval : ApprovalRequest}
    {toStatus expectedStatus : ApprovalStatus} {expectedVersion : Option Int} {changed : Bool}
    (unexecuted : before.executed approval.id = false) (other : toStatus ≠ .executed)
    (returned : (transition approval toStatus expectedStatus expectedVersion).Returns before
      changed after) : after.effectView = before.effectView := by
  rw [transition] at returned
  split at returned
  · rw [(returns_pure.mp returned).2]
  · have rest := (returns_refuseWhen_bind.mp returned).2
    have rest := (returns_refuseWhen_bind.mp rest).2
    have rest := (returns_refuseWhen_bind.mp rest).2
    have rest := (returns_refuseWhen_bind.mp rest).2
    rcases returns_bind.mp rest with ⟨_, written, writes, last⟩
    rw [(returns_pure.mp last).2, returns_modify.mp writes, Database.effectView_updateApproval,
      Database.executed_updateApproval]
    · simp [other, unexecuted, Database.effectView]
    · exact fun _ => rfl
    · exact fun _ => rfl

theorem staleSiblings_keepsEffects {siblings : List ApprovalRequest} {result : Unit}
    (unexecuted : ∀ sibling ∈ siblings, before.executed sibling.id = false)
    (returned : (staleSiblings siblings).Returns before result after) :
    after.effectView = before.effectView := by
  induction siblings generalizing before with
  | nil => rw [(returns_pure.mp returned).2]
  | cons sibling rest induction =>
      rcases returns_bind.mp returned with ⟨_, middle, moves, returned⟩
      have moved := transition_keepsEffects (unexecuted sibling (by simp)) (by decide) moves
      rw [← moved]
      apply induction _ returned
      intro other member
      have same : middle.executed = before.executed :=
        congrArg EffectView.executed moved
      rw [same]
      exact unexecuted other (List.mem_cons_of_mem _ member)

theorem writesOnly_retireProposalsFor (approval : ApprovalRequest) (resourceId : String) :
    WritesOnly [.proposals] (retireProposalsFor approval resourceId) := by
  apply writesOnly_modify .proposals (by decide)
  intro database table other
  cases table <;> first | rfl | exact absurd rfl other

theorem writesOnly_publishReconciliation (redactPii : PyText → PyText)
    (draws : ExecutionDraws) (approval : ApprovalRequest) (reason : String) (run : AgentRun) :
    WritesOnly [.events, .tickets, .runs]
      (publishReconciliation redactPii draws approval reason run) := by
  apply writesOnly_bind (writesOnly_reads _)
  intro database
  apply writesOnly_bind (writesOnly_require _ _)
  intro decision
  apply writesOnly_refuseWhen_bind
  exact writesOnly_forgetResult (writesOnly_mapError (writesOnly_appendEvent redactPii _))

/-- An approval that is marked stale was not executed. -/
theorem markStale_keepsEffects {redactPii : PyText → PyText} {draws : ExecutionDraws}
    {approval : ApprovalRequest} {resourceId reason : String} {result : ActionResult}
    (present : Table.find ApprovalRequest.id before.approvals approval.id = some approval)
    (returned : (markStale redactPii draws approval resourceId reason).Returns before result
      after) : result.status = "stale" ∧ after.effectView = before.effectView := by
  rcases returns_bind.mp returned with ⟨_, moved, moves, rest⟩
  rcases returns_bind.mp rest with ⟨_, retired, retires, rest⟩
  rw [returns_readsId_bind] at rest
  rcases returns_bind.mp rest with ⟨_, published, publishes, last⟩
  rcases returns_pure.mp last with ⟨rfl, rfl⟩
  have sameMoved : moved.effectView = before.effectView := by
    by_cases executed : approval.status = .executed
    · -- Nothing leaves the status of an approval that was executed.
      rw [transition, if_neg (by rw [executed]; decide)] at moves
      have rest := (returns_refuseWhen_bind.mp moves).2
      have rest := (returns_refuseWhen_bind.mp rest).2
      have active := (returns_refuseWhen_bind.mp rest).1
      rw [executed] at active
      exact absurd rfl active
    · apply transition_keepsEffects _ (by decide) moves
      simp [Database.executed, present, executed]
  have sameRetired : retired.effectView = moved.effectView :=
    ((writesOnly_onlyIf _ (writesOnly_retireProposal _)).keepsEffects (by decide)).returns
      retires
  have samePublished : after.effectView = retired.effectView :=
    ((writesOnly_whenSome _ fun run =>
      writesOnly_publishReconciliation redactPii draws approval reason run).keepsEffects
        (by decide)).returns publishes
  exact ⟨rfl, by rw [samePublished, sameRetired, sameMoved]⟩

end Frames

/-! ## Checks -/

section Checks

variable {ν : Type*} {view : Database → ν}

theorem keeps_validateRevision (approval : ApprovalRequest) (proposal : ProposalRecord)
    (revision : ApprovalActionRevision) :
    Keeps view (validateRevision approval proposal revision) := by
  apply keeps_ite (keeps_refuseWhen _ _)
  apply keeps_refuseWhen_bind
  apply keeps_bind (keeps_ofExcept _)
  intro hash
  exact keeps_refuseWhen _ _

theorem keeps_validateObservation (approval : ApprovalRequest)
    (revision : ApprovalActionRevision) (tool resourceField resourceId : String)
    (item : List (String × Json)) :
    Keeps view (validateObservation approval revision tool resourceField resourceId item) := by
  apply keeps_bind (keeps_reads _)
  intro database
  apply keeps_bind (keeps_require _ _)
  intro observation
  apply keeps_ite _ (keeps_refuseWhen _ _)
  apply keeps_bind (keeps_ofExcept _)
  intro data
  apply keeps_refuseWhen_bind
  apply keeps_bind (keeps_ofExcept _)
  intro version
  exact keeps_refuseWhen _ _

theorem keeps_validateExecutionBinding (approval : ApprovalRequest)
    (revision : ApprovalActionRevision) :
    Keeps view (validateExecutionBinding approval revision) := by
  apply keeps_bind (keeps_reads _)
  intro database
  apply keeps_bind (keeps_require _ _)
  intro proposal
  apply keeps_refuseWhen_bind
  apply keeps_bind (keeps_validateRevision approval proposal revision)
  intro _
  apply keeps_bind (keeps_require _ _)
  intro actionType
  apply keeps_bind (keeps_ofExcept _)
  intro items
  apply keeps_bind (keeps_ofExcept _)
  intro business
  split
  · apply keeps_bind (keeps_validateObservation _ _ _ _ _ _)
    intro _
    apply keeps_bind (keeps_validateObservation _ _ _ _ _ _)
    intro _
    exact keeps_pure _
  · exact keeps_raise _

theorem keeps_executionBindingStale (approval : ApprovalRequest) (decision : HumanDecision)
    (revision : ApprovalActionRevision) :
    Keeps view (executionBindingStale approval decision revision) := by
  apply keeps_rescue _ fun _ => keeps_pure _
  apply keeps_bind (keeps_assertActiveApproverScope _ _)
  intro _
  apply keeps_bind (keeps_validateExecutionBinding approval revision)
  intro _
  exact keeps_pure _

theorem keeps_assertMutationEnabled (tenantId actionType : String) :
    Keeps view (assertMutationEnabled tenantId actionType) :=
  keeps_bind (keeps_reads _) fun _ => keeps_refuseWhen _ _

theorem keeps_approvedRevision (approval : ApprovalRequest) :
    Keeps view (approvedRevision approval) := by
  apply keeps_bind (keeps_reads _)
  intro database
  apply keeps_bind (keeps_require _ _)
  intro decision
  apply keeps_bind (keeps_require _ _)
  intro revision
  apply keeps_refuseWhen_bind
  exact keeps_pure _

theorem keeps_resourceIdOf (approval : ApprovalRequest) (revision : ApprovalActionRevision) :
    Keeps view (resourceIdOf approval revision) := by
  apply keeps_bind (keeps_require _ _)
  intro actionType
  apply keeps_refuseWhen_bind
  exact keeps_pure _

end Checks

/-! ## Calls with an effect -/

def BusinessAction.effectKey (action : BusinessAction) : String × String × String × Int :=
  (action.tenantId, action.actionType, action.resourceId, action.resourceVersion)

variable {action : BusinessAction}

theorem actionFor?_eq_none {database : Database} :
    database.actionFor? action.tenantId action.actionType action.resourceId
        action.resourceVersion = none ↔
      ∀ other ∈ database.actions, other.effectKey ≠ action.effectKey := by
  simp [Database.actionFor?, BusinessAction.effectKey]

/-- How a row of a resource changes. -/
inductive ResourceChange
  | billing (before after : BillingRecord)
  | apiKey (before after : ApiKeyMetadata)
  | subscription (before after : Subscription)

/-- The change is the one that the action records: it starts from the version the action
names and advances it by one. -/
def ResourceChange.RecordedBy (action : BusinessAction) : ResourceChange → Prop
  | .billing before after =>
      action.actionType = "refund" ∧ before.tenantId = action.tenantId ∧
        before.id = action.resourceId ∧ before.version = action.resourceVersion ∧
        before.status = "charged" ∧
        after = { before with status := "refunded", version := before.version + 1 }
  | .apiKey before after =>
      action.actionType = "api_key_revocation" ∧ before.tenantId = action.tenantId ∧
        before.keyId = action.resourceId ∧ before.version = action.resourceVersion ∧
        before.status = "active" ∧
        after = { before with status := "revoked", version := before.version + 1 }
  | .subscription before after =>
      action.actionType = "entitlement_change" ∧ before.tenantId = action.tenantId ∧
        before.id = action.resourceId ∧ before.version = action.resourceVersion ∧
        ∃ plan rpmLimit concurrencyLimit,
          after =
            { before with plan, rpmLimit, concurrencyLimit, version := before.version + 1 }

/-- The one row of the resources that a change is about. -/
def ResourceChange.Applies (change : ResourceChange) (before after : EffectView) : Prop :=
  match change with
  | .billing old new =>
      old ∈ before.billing ∧
        after =
          { before with
            billing := Table.update BillingRecord.id old.id (fun _ => new) before.billing }
  | .apiKey old new =>
      old ∈ before.apiKeys ∧
        after =
          { before with
            apiKeys := Table.update ApiKeyMetadata.id old.id (fun _ => new) before.apiKeys }
  | .subscription old new =>
      old ∈ before.subscriptions ∧
        after =
          { before with
            subscriptions :=
              Table.update Subscription.id old.id (fun _ => new) before.subscriptions }

/-- One row of a resource changes, and a new action records it. -/
structure EffectBy (action : BusinessAction) (before after : EffectView) : Prop where
  newEffect : ∀ other ∈ before.actions, other.effectKey ≠ action.effectKey
  newId : ∀ other ∈ before.actions, other.id ≠ action.id
  changes : ∃ (change : ResourceChange) (changed : EffectView),
    change.RecordedBy action ∧ change.Applies before changed ∧
      after = { changed with actions := before.actions ++ [action] }

section Effects

variable {before after : Database}

variable {action : BusinessAction}

theorem insertAction_returns {result : Unit}
    (returned : (insertAction action).Returns before result after) :
    (∀ other ∈ before.actions, other.effectKey ≠ action.effectKey) ∧
      (∀ other ∈ before.actions, other.id ≠ action.id) ∧
      after = { before with actions := before.actions ++ [action] } := by
  rcases returns_refuseWhen_bind.mp (returns_readsId_bind.mp returned) with ⟨newId, rest⟩
  have rest := (returns_refuseWhen_bind.mp rest).2
  rcases returns_refuseWhen_bind.mp rest with ⟨newEffect, rest⟩
  have rest := (returns_refuseWhen_bind.mp rest).2
  rw [Bool.not_eq_true, Option.isSome_eq_false_iff, Option.isNone_iff_eq_none] at newEffect
  exact ⟨actionFor?_eq_none.mp newEffect, by simpa using newId, returns_modify.mp rest⟩

variable {result : ActionResult}

/-- A change of a resource that is committed with its action. -/
theorem commitEffect_returns {change : Database → Database} {row : ResourceChange}
    (sameActions : (change before).actions = before.actions)
    (applies : row.Applies before.effectView (change before).effectView)
    (recorded : row.RecordedBy action)
    (returned : (commitEffect change action).Returns before result after) :
    result.status = "succeeded" ∧ result.businessActionId = some action.id ∧
      EffectBy action before.effectView after.effectView := by
  rcases returns_bind.mp returned with ⟨_, changed, changes, rest⟩
  rcases returns_bind.mp rest with ⟨_, inserted, inserts, last⟩
  rcases returns_pure.mp last with ⟨rfl, rfl⟩
  rw [returns_modify.mp changes] at inserts
  rcases insertAction_returns inserts with ⟨newEffect, newId, rfl⟩
  rw [sameActions] at newEffect newId
  refine ⟨rfl, rfl, newEffect, newId, row, _, recorded, applies, ?_⟩
  simp only [Database.effectView, sameActions]
  rfl

theorem EffectBy.approvals_eq {before after : EffectView} (effect : EffectBy action before after) :
    after.executed = before.executed ∧ after.approvalIds = before.approvalIds := by
  rcases effect.changes with ⟨change, changed, _, applies, rfl⟩
  cases change with
  | billing =>
      rcases applies with ⟨_, rfl⟩
      exact ⟨rfl, rfl⟩
  | apiKey =>
      rcases applies with ⟨_, rfl⟩
      exact ⟨rfl, rfl⟩
  | subscription =>
      rcases applies with ⟨_, rfl⟩
      exact ⟨rfl, rfl⟩

variable {approval : ApprovalRequest}

theorem siblingRefunds_unexecuted {billing : BillingRecord}
    (distinct : (before.approvals.map ApprovalRequest.id).Nodup) {sibling : ApprovalRequest}
    (member : sibling ∈ before.siblingRefunds approval billing) :
    before.executed sibling.id = false := by
  rcases List.mem_filter.mp member with ⟨present, selected⟩
  simp only [Bool.and_eq_true, decide_eq_true_eq] at selected
  rw [Database.executed, Table.find_of_mem distinct present]
  simp [selected.1.1.2]

variable {revision : ApprovalActionRevision} {draws : ExecutionDraws} {resourceId : String}

theorem buildAction_eq_ok {result : List (String × Json)}
    (built : buildAction draws approval revision resourceId result = .ok action) :
    action.tenantId = approval.tenantId ∧ action.actionType = approval.actionType ∧
      action.resourceId = resourceId ∧ action.resourceVersion = revision.resourceVersion ∧
      action.approvalId = approval.id := by
  unfold buildAction at built
  cases hashed : effectIdentity approval revision resourceId with
  | error raised => simp [hashed, bind, Except.bind] at built
  | ok identity =>
      simp only [hashed, bind, Except.bind, Except.ok.injEq] at built
      subst built
      exact ⟨rfl, rfl, rfl, rfl, rfl⟩

theorem update_eq_of_nodup {Row : Type} {key : Row → String} {table : List Row} {old : Row}
    (distinct : (table.map key).Nodup) (member : old ∈ table) (change : Row → Row) :
    Table.update key (key old) change table =
      Table.update key (key old) (fun _ => change old) table := by
  apply List.map_congr_left
  intro row rowMember
  split
  · rename_i same
    rw [List.inj_on_of_nodup_map distinct rowMember member same]
  · rfl

/-- An effect is performed, or the approval is marked stale and nothing else happens. -/
def Performs (approval : ApprovalRequest) (before : Database) (result : ActionResult)
    (after : Database) : Prop :=
  result.status = "stale" ∧ after.effectView = before.effectView ∨
    result.status = "succeeded" ∧ ∃ action : BusinessAction,
      result.businessActionId = some action.id ∧ action.approvalId = approval.id ∧
        EffectBy action before.effectView after.effectView

theorem refundSnapshotValid_iff {proposal : Option ProposalRecord} {billing : BillingRecord}
    {evaluation : RefundPairEvaluation}
    (valid : refundSnapshotValid approval revision proposal billing evaluation = true) :
    billing.status = "charged" ∧ billing.version = revision.resourceVersion := by
  simp only [refundSnapshotValid, Bool.and_eq_true, decide_eq_true_eq] at valid
  exact ⟨valid.1.1.1.1.1.2, valid.1.1.1.1.2⟩

theorem evaluateBillingRefundPair_eq_ok {database : Database}
    {tenantId customerId billingRecordId : String} {now : Instant} {billing : BillingRecord}
    {evaluation : RefundPairEvaluation}
    (evaluated : evaluateBillingRefundPair database tenantId customerId billingRecordId now =
      .ok (some (billing, evaluation))) :
    billing ∈ database.billing ∧ billing.tenantId = tenantId ∧ billing.id = billingRecordId := by
  unfold evaluateBillingRefundPair at evaluated
  split at evaluated
  · cases evaluated
  · rename_i target found
    dsimp only at evaluated
    generalize evaluateRefundPair _ _ _ = outcome at evaluated
    cases outcome with
    | error raised => cases evaluated
    | ok pair =>
        cases evaluated
        have selected := List.find?_some found
        simp only [Bool.and_eq_true, decide_eq_true_eq] at selected
        exact ⟨List.mem_of_find?_eq_some found, selected.1.1, selected.2⟩

variable {redactPii : PyText → PyText}

theorem refund_returns (keys : before.effectView.PrimaryKeys)
    (present : Table.find ApprovalRequest.id before.approvals approval.id = some approval)
    (kind : approval.actionType = "refund")
    (returned : (refund redactPii draws approval revision resourceId).Returns before result
      after) : Performs approval before result after := by
  unfold refund at returned
  rw [returns_readsId_bind, returns_ofExcept_bind] at returned
  rcases returned with ⟨evaluated, isEvaluated, rest⟩
  dsimp only at rest
  split at rest
  · exact .inl (markStale_keepsEffects present rest)
  · rename_i billing evaluation found
    right
    rcases Option.filter_eq_some_iff.mp found with ⟨isSome, valid⟩
    rw [isSome] at isEvaluated
    rcases evaluateBillingRefundPair_eq_ok isEvaluated with ⟨charge, owner, identified⟩
    rcases refundSnapshotValid_iff valid with ⟨charged, current⟩
    rcases returns_ofExcept_bind.mp rest with ⟨action, built, rest⟩
    rcases returns_bind.mp rest with ⟨committed, effected, commits, rest⟩
    rcases returns_bind.mp rest with ⟨_, staled, stales, last⟩
    rcases returns_pure.mp last with ⟨rfl, rfl⟩
    rcases buildAction_eq_ok built with ⟨tenant, actionType, resource, version, approvalId⟩
    have applies : ResourceChange.Applies
        (.billing billing { billing with status := "refunded", version := billing.version + 1 })
        before.effectView (markRefunded billing before).effectView := by
      refine ⟨charge, ?_⟩
      exact congrArg (fun rows => { before.effectView with billing := rows })
        (update_eq_of_nodup keys.billing charge _)
    rcases commitEffect_returns rfl applies
        ⟨actionType.trans kind, owner.trans tenant.symm, identified.trans resource.symm,
          current.trans version.symm, charged, rfl⟩ commits with
      ⟨succeeded, identifier, effect⟩
    have sameStaled : after.effectView = effected.effectView := by
      apply staleSiblings_keepsEffects _ stales
      intro sibling member
      have same : effected.executed = before.executed := effect.approvals_eq.1
      rw [same]
      exact siblingRefunds_unexecuted keys.approvals member
    rw [← sameStaled] at effect
    exact ⟨succeeded, action, identifier, approvalId, effect⟩

theorem revokeKey_returns (keys : before.effectView.PrimaryKeys)
    (present : Table.find ApprovalRequest.id before.approvals approval.id = some approval)
    (kind : approval.actionType = "api_key_revocation")
    (returned : (revokeKey redactPii draws approval revision resourceId).Returns before result
      after) : Performs approval before result after := by
  unfold revokeKey at returned
  rw [returns_readsId_bind] at returned
  split at returned
  · exact .inl (markStale_keepsEffects present returned)
  · rename_i key found
    right
    rcases Option.filter_eq_some_iff.mp found with ⟨isKey, valid⟩
    have selected := List.find?_some isKey
    simp only [Bool.and_eq_true, decide_eq_true_eq] at selected valid
    have issued : key ∈ before.apiKeys := List.mem_of_find?_eq_some isKey
    rcases returns_ofExcept_bind.mp returned with ⟨action, built, commits⟩
    rcases buildAction_eq_ok built with ⟨tenant, actionType, resource, version, approvalId⟩
    have applies : ResourceChange.Applies
        (.apiKey key { key with status := "revoked", version := key.version + 1 })
        before.effectView (markRevoked key before).effectView := by
      refine ⟨issued, ?_⟩
      exact congrArg (fun rows => { before.effectView with apiKeys := rows })
        (update_eq_of_nodup keys.apiKeys issued _)
    rcases commitEffect_returns rfl applies
        ⟨actionType.trans kind, selected.1.1.trans tenant.symm, selected.2.trans resource.symm,
          valid.1.2.trans version.symm, valid.1.1, rfl⟩ commits with
      ⟨succeeded, identifier, effect⟩
    exact ⟨succeeded, action, identifier, approvalId, effect⟩

theorem changeEntitlement_returns (keys : before.effectView.PrimaryKeys)
    (present : Table.find ApprovalRequest.id before.approvals approval.id = some approval)
    (kind : approval.actionType = "entitlement_change")
    (returned : (changeEntitlement redactPii draws approval revision resourceId).Returns before
      result after) : Performs approval before result after := by
  unfold changeEntitlement at returned
  rw [returns_readsId_bind] at returned
  split at returned
  · exact .inl (markStale_keepsEffects present returned)
  · rename_i subscription found
    rcases Option.filter_eq_some_iff.mp found with ⟨isSubscription, valid⟩
    have selected := List.find?_some isSubscription
    simp only [Bool.and_eq_true, decide_eq_true_eq] at selected valid
    have subscribed : subscription ∈ before.subscriptions :=
      List.mem_of_find?_eq_some isSubscription
    dsimp only at returned
    rcases returns_ofExcept_bind.mp returned with ⟨target, _, rest⟩
    rcases returns_ofExcept_bind.mp rest with ⟨stale, _, rest⟩
    cases stale with
    | some reason => exact .inl (markStale_keepsEffects present rest)
    | none =>
        right
        rcases returns_ofExcept_bind.mp rest with ⟨rpmLimit, _, rest⟩
        rcases returns_ofExcept_bind.mp rest with ⟨concurrencyLimit, _, rest⟩
        rcases returns_ofExcept_bind.mp rest with ⟨action, built, commits⟩
        rcases buildAction_eq_ok built with
          ⟨tenant, actionType, resource, version, approvalId⟩
        generalize ((target.lookup "plan").map Json.toStr).getD subscription.plan = plan
          at commits
        have applies : ResourceChange.Applies
            (.subscription subscription { subscription with
              plan, rpmLimit, concurrencyLimit, version := subscription.version + 1 })
            before.effectView
            (markEntitled subscription plan rpmLimit concurrencyLimit before).effectView := by
          refine ⟨subscribed, ?_⟩
          exact congrArg (fun rows => { before.effectView with subscriptions := rows })
            (update_eq_of_nodup keys.subscriptions subscribed _)
        rcases commitEffect_returns rfl applies
            ⟨actionType.trans kind, selected.1.1.trans tenant.symm,
              selected.2.trans resource.symm, valid.trans version.symm, _, _, _, rfl⟩
            commits with
          ⟨succeeded, identifier, effect⟩
        exact ⟨succeeded, action, identifier, approvalId, effect⟩

theorem performEffect_returns (keys : before.effectView.PrimaryKeys)
    (present : Table.find ApprovalRequest.id before.approvals approval.id = some approval)
    (returned : (performEffect redactPii draws approval revision resourceId).Returns before
      result after) : Performs approval before result after := by
  unfold performEffect ActionType.ofText? at returned
  by_cases isRefund : approval.actionType = "refund"
  · rw [if_pos isRefund] at returned
    exact refund_returns keys present isRefund returned
  · by_cases isRevocation : approval.actionType = "api_key_revocation"
    · rw [if_neg isRefund, if_pos isRevocation] at returned
      exact revokeKey_returns keys present isRevocation returned
    · by_cases isChange : approval.actionType = "entitlement_change"
      · rw [if_neg isRefund, if_neg isRevocation, if_pos isChange] at returned
        exact changeEntitlement_returns keys present isChange returned
      · rw [if_neg isRefund, if_neg isRevocation, if_neg isChange] at returned
        exact absurd returned returns_raise

/-- An effect is bound to its decision in the action that records it. -/
theorem bindActionEvent_returns {decision : HumanDecision} {result : Unit}
    (returned : (bindActionEvent redactPii draws approval decision action).Returns before result
      after) :
    ∃ change : BusinessAction → BusinessAction,
      (∀ row, (change row).id = row.id ∧ (change row).effectKey = row.effectKey ∧
        (change row).approvalId = row.approvalId) ∧
      after.effectView =
        { before.effectView with
          actions := Table.update BusinessAction.id action.id change before.actions } := by
  have rest := (returns_refuseWhen_bind.mp returned).2
  rw [returns_readsId_bind] at rest
  rcases returns_require_bind.mp rest with ⟨run, _, rest⟩
  rcases returns_bind.mp rest with ⟨event, logged, appends, writes⟩
  have same : logged.effectView = before.effectView :=
    ((writesOnly_mapError (writesOnly_appendEvent redactPii _)).keepsEffects (by decide)).returns
      appends
  have sameActions : logged.actions = before.actions := congrArg EffectView.actions same
  rw [returns_modify.mp writes, ← same, ← sameActions]
  refine ⟨_, ?_, rfl⟩
  intro row
  exact ⟨rfl, rfl, rfl⟩

theorem EffectBy.rebind {before after : EffectView} {change : BusinessAction → BusinessAction}
    (effect : EffectBy action before after)
    (keeps : ∀ row, (change row).id = row.id ∧ (change row).effectKey = row.effectKey ∧
      (change row).approvalId = row.approvalId) :
    EffectBy (change action) before
      { after with
        actions := Table.update BusinessAction.id action.id change after.actions } := by
  rcases effect with ⟨newEffect, newId, row, changed, recorded, applies, rfl⟩
  rcases keeps action with ⟨sameId, sameKey, _⟩
  refine ⟨?_, ?_, row, changed, ?_, applies, ?_⟩
  · rw [sameKey]
    exact newEffect
  · rw [sameId]
    exact newId
  · simp only [BusinessAction.effectKey, Prod.mk.injEq] at sameKey
    rcases sameKey with ⟨tenant, actionType, resource, version⟩
    cases row with
    | billing => simpa only [ResourceChange.RecordedBy, tenant, actionType, resource, version]
        using recorded
    | apiKey => simpa only [ResourceChange.RecordedBy, tenant, actionType, resource, version]
        using recorded
    | subscription => simpa only [ResourceChange.RecordedBy, tenant, actionType, resource,
        version] using recorded
  · have others : Table.update BusinessAction.id action.id change before.actions =
        before.actions := by
      rw [Table.update]
      conv_rhs => rw [← List.map_id before.actions]
      apply List.map_congr_left
      intro other member
      rw [if_neg (newId other member)]
      rfl
    have last : Table.update BusinessAction.id action.id change [action] = [change action] := by
      simp [Table.update]
    simp only [Table.update, List.map_append] at others last ⊢
    rw [others, last]

/-- The approval is used up. -/
theorem consumeApproval_returns {result : Unit} (approved : approval.status = .approved)
    (present : approval.id ∈ before.approvals.map ApprovalRequest.id)
    (returned : (consumeApproval draws approval).Returns before result after) :
    after.effectView =
      { before.effectView with
        executed := Function.update before.executed approval.id true } := by
  rcases returns_bind.mp returned with ⟨_, moved, moves, writes⟩
  rw [transition, if_neg (by rw [approved]; decide)] at moves
  have rest := (returns_refuseWhen_bind.mp moves).2
  have rest := (returns_refuseWhen_bind.mp rest).2
  have rest := (returns_refuseWhen_bind.mp rest).2
  have rest := (returns_refuseWhen_bind.mp rest).2
  rcases returns_bind.mp rest with ⟨_, written, changes, last⟩
  rw [returns_modify.mp writes, (returns_pure.mp last).2, returns_modify.mp changes]
  rw [Database.effectView_updateApproval_same,
    Database.effectView_updateApproval_executed present]
  all_goals exact fun _ => rfl

/-- What an execution of an approval does. -/
inductive Executes (approvalId : String) (before : EffectView) : EffectView → Prop
  | nothing : Executes approvalId before before
  /-- The action was there before; the approval is used up now. -/
  | reconciles (existing : BusinessAction) (member : existing ∈ before.actions)
      (same : existing.approvalId = approvalId)
      (unexecuted : before.executed approvalId = false) :
      Executes approvalId before
        { before with executed := Function.update before.executed approvalId true }
  | takesEffect (action : BusinessAction) (effected : EffectView)
      (same : action.approvalId = approvalId)
      (unexecuted : before.executed approvalId = false)
      (effect : EffectBy action before effected) :
      Executes approvalId before
        { effected with executed := Function.update before.executed approvalId true }

theorem reconcileAction_returns {decision : HumanDecision} {existing : BusinessAction}
    (present : Table.find ApprovalRequest.id before.approvals approval.id = some approval)
    (member : existing ∈ before.actions)
    (returned : (reconcileAction draws approval decision revision resourceId existing).Returns
      before result after) :
    Executes approval.id before.effectView after.effectView := by
  rcases returns_refuseWhen_bind.mp returned with ⟨bound, rest⟩
  rcases returns_ofExcept_bind.mp rest with ⟨identity, _, rest⟩
  have rest := (returns_refuseWhen_bind.mp rest).2
  have rest := (returns_refuseWhen_bind.mp rest).2
  rcases returns_bind.mp rest with ⟨_, consumed, consumes, rest⟩
  rcases returns_bind.mp rest with ⟨_, retired, retires, last⟩
  rw [(returns_pure.mp last).2]
  have sameRetired : retired.effectView = consumed.effectView :=
    ((writesOnly_onlyIf _ (writesOnly_retireProposal _)).keepsEffects (by decide)).returns
      retires
  rw [sameRetired]
  rw [returns_onlyIf] at consumes
  split at consumes
  · rename_i approved
    simp only [not_or, not_not] at bound
    rw [consumeApproval_returns approved (List.mem_map_of_mem (Table.find_mem present).1)
      consumes]
    apply Executes.reconciles existing member bound.2.2.1
    simp [Database.effectView, Database.executed, present, approved]
  · rw [consumes]
    exact .nothing

theorem executeNew_returns {decision : HumanDecision} (keys : before.effectView.PrimaryKeys)
    (present : Table.find ApprovalRequest.id before.approvals approval.id = some approval)
    (returned : (executeNew redactPii draws approval decision revision resourceId).Returns
      before result after) :
    Executes approval.id before.effectView after.effectView := by
  have unchanged : ∀ {resourceId reason : String} {result : ActionResult} {after : Database},
      (markStale redactPii draws approval resourceId reason).Returns before result after →
        Executes approval.id before.effectView after.effectView := by
    intro resourceId reason result after returned
    rw [(markStale_keepsEffects present returned).2]
    exact .nothing
  have checking : Keeps (fun database => database)
      (executionBindingStale approval decision revision) :=
    keeps_executionBindingStale approval decision revision
  have enabling : Keeps (fun database => database)
      (assertMutationEnabled approval.tenantId approval.actionType) :=
    keeps_assertMutationEnabled approval.tenantId approval.actionType
  rcases returns_bind.mp returned with ⟨stale, checked, checks, rest⟩
  rw [checking.returns checks] at rest
  split at rest
  · exact unchanged rest
  · rcases returns_bind.mp rest with ⟨_, enabled, enables, rest⟩
    rw [enabling.returns enables] at rest
    rcases returns_refuseWhen_bind.mp rest with ⟨executable, rest⟩
    rcases returns_ofExcept_bind.mp rest with ⟨hash, _, rest⟩
    split at rest
    · exact unchanged rest
    · rcases returns_bind.mp rest with ⟨performed, effected, performs, rest⟩
      rcases performEffect_returns keys present performs with
        ⟨stale, same⟩ | ⟨succeeded, action, identifier, approvalId, effect⟩
      · rw [if_pos stale] at rest
        rw [(returns_pure.mp rest).2, same]
        exact .nothing
      · rw [if_neg (by rw [succeeded]; decide), returns_readsId_bind] at rest
        rcases returns_require_bind.mp rest with ⟨found, isFound, rest⟩
        rcases returns_bind.mp rest with ⟨_, bound, binds, rest⟩
        rcases returns_bind.mp rest with ⟨_, consumed, consumes, rest⟩
        rcases returns_bind.mp rest with ⟨_, retired, retires, last⟩
        rw [(returns_pure.mp last).2]
        have sameId : found.id = action.id := by
          rw [(Table.find_mem isFound).2, identifier]
          rfl
        rcases bindActionEvent_returns binds with ⟨change, keeps, boundView⟩
        rw [sameId] at boundView
        have rebound := effect.rebind keeps
        have approvedStatus : approval.status = .approved :=
          not_not.mp (not_or.mp executable).1
        have boundApprovals : bound.executed = before.executed ∧
            bound.approvals.map ApprovalRequest.id =
              before.approvals.map ApprovalRequest.id := by
          have sameExecuted : bound.executed = effected.executed :=
            congrArg EffectView.executed boundView
          have sameIds : bound.approvals.map ApprovalRequest.id =
              effected.approvals.map ApprovalRequest.id :=
            congrArg EffectView.approvalIds boundView
          rw [sameExecuted, sameIds]
          exact effect.approvals_eq
        have consumedView : consumed.effectView = _ :=
          consumeApproval_returns approvedStatus (by
            rw [boundApprovals.2]
            exact List.mem_map_of_mem (Table.find_mem present).1) consumes
        have retiredView : retired.effectView = consumed.effectView :=
          ((writesOnly_retireProposalsFor approval resourceId).keepsEffects
            (by decide)).returns retires
        rw [retiredView, consumedView, boundView, boundApprovals.1]
        apply Executes.takesEffect (change action)
          { effected.effectView with
            actions := Table.update BusinessAction.id action.id change effected.actions }
        · rw [(keeps action).2.2, approvalId]
        · simp [Database.effectView, Database.executed, present, approvedStatus]
        · exact rebound

theorem execute_returns {lease : JobLease} {approvalId : String}
    (keys : before.effectView.PrimaryKeys)
    (returned : (RuntimeActionExecutor.execute redactPii draws lease approvalId).Returns before
      result after) :
    Executes approvalId before.effectView after.effectView := by
  have fencing : Keeps (fun database => database) (assertFence lease) := keeps_assertFence lease
  rcases returns_bind.mp returned with ⟨_, fenced, fences, rest⟩
  rw [fencing.returns fences, returns_readsId_bind] at rest
  rcases returns_require_bind.mp rest with ⟨approval, isApproval, rest⟩
  have found := (Option.filter_eq_some_iff.mp isApproval).1
  have identified : approval.id = approvalId := (Table.find_mem found).2
  rw [← identified] at found ⊢
  have selecting : Keeps (fun database => database) (approvedRevision approval) :=
    keeps_approvedRevision approval
  rcases returns_bind.mp rest with ⟨approved, selected, selects, rest⟩
  rcases approved with ⟨decision, revision⟩
  rw [selecting.returns selects] at rest
  have naming : Keeps (fun database => database) (resourceIdOf approval revision) :=
    keeps_resourceIdOf approval revision
  rcases returns_bind.mp rest with ⟨resourceId, named, names, rest⟩
  rw [naming.returns names] at rest
  split at rest
  · rename_i existing isExisting
    exact reconcileAction_returns found (List.mem_of_find?_eq_some isExisting) rest
  · exact executeNew_returns keys found rest

end Effects

/-! ## Histories -/

/-- The rows of a table that differ. -/
def changedRows {Row : Type} [DecidableEq Row] (before after : List Row) : List (Row × Row) :=
  (before.zip after).filter fun rows => rows.1 ≠ rows.2

theorem changedRows_self {Row : Type} [DecidableEq Row] (rows : List Row) :
    changedRows rows rows = [] := by
  induction rows with
  | nil => rfl
  | cons head tail induction => simpa [changedRows] using induction

theorem changedRows_update {Row : Type} [DecidableEq Row] {key : Row → String}
    {rows : List Row} {old new : Row} (distinct : (rows.map key).Nodup) (member : old ∈ rows)
    (differs : old ≠ new) :
    changedRows rows (Table.update key (key old) (fun _ => new) rows) = [(old, new)] := by
  induction rows with
  | nil => cases member
  | cons head tail induction =>
      rw [List.map_cons, List.nodup_cons] at distinct
      rcases List.mem_cons.mp member with same | member
      · subst same
        have others : Table.update key (key old) (fun _ => new) tail = tail := by
          rw [Table.update]
          conv_rhs => rw [← List.map_id tail]
          apply List.map_congr_left
          intro row rowMember
          have other : key row ≠ key old := fun equal =>
            distinct.1 (equal ▸ List.mem_map_of_mem rowMember)
          rw [if_neg other]
          rfl
        have rest := changedRows_self tail
        rw [Table.update, List.map_cons, if_pos rfl, ← Table.update, others]
        simp only [changedRows, List.zip_cons_cons] at rest ⊢
        rw [List.filter_cons_of_pos (by simpa using differs), rest]
      · have other : key head ≠ key old := fun equal =>
          distinct.1 (equal ▸ List.mem_map_of_mem member)
        have rest := induction distinct.2 member
        rw [Table.update, List.map_cons, if_neg other, ← Table.update]
        simp only [changedRows, List.zip_cons_cons] at rest ⊢
        rw [List.filter_cons_of_neg (by simp), rest]

/-- Every row of a resource that differs. Executions neither add nor remove such rows. -/
def resourceChanges (before after : EffectView) : List ResourceChange :=
  (changedRows before.billing after.billing).map (fun rows => .billing rows.1 rows.2) ++
    (changedRows before.apiKeys after.apiKeys).map (fun rows => .apiKey rows.1 rows.2) ++
    (changedRows before.subscriptions after.subscriptions).map
      fun rows => .subscription rows.1 rows.2

theorem resourceChanges_of_applies {change : ResourceChange} {before after changed : EffectView}
    (keys : before.PrimaryKeys) (recorded : change.RecordedBy action)
    (applies : change.Applies before changed) (billing : after.billing = changed.billing)
    (apiKeys : after.apiKeys = changed.apiKeys)
    (subscriptions : after.subscriptions = changed.subscriptions) :
    resourceChanges before after = [change] := by
  rw [resourceChanges, billing, apiKeys, subscriptions]
  cases change with
  | billing old new =>
      rcases applies with ⟨member, rfl⟩
      have differs : old ≠ new := by
        rw [recorded.2.2.2.2.2]
        intro equal
        have := congrArg BillingRecord.version equal
        simp at this
      simp [changedRows_update keys.billing member differs, changedRows_self]
  | apiKey old new =>
      rcases applies with ⟨member, rfl⟩
      have differs : old ≠ new := by
        rw [recorded.2.2.2.2.2]
        intro equal
        have := congrArg ApiKeyMetadata.version equal
        simp at this
      simp [changedRows_update keys.apiKeys member differs, changedRows_self]
  | subscription old new =>
      rcases applies with ⟨member, rfl⟩
      have differs : old ≠ new := by
        rcases recorded.2.2.2.2 with ⟨plan, rpmLimit, concurrencyLimit, rfl⟩
        intro equal
        have := congrArg Subscription.version equal
        simp at this
      simp [changedRows_update keys.subscriptions member differs, changedRows_self]

/-- A database, and the changes of resources that executions have made in it. -/
structure ActionHistory where
  database : Database
  changes : List ResourceChange := []

/-- The other work of the services: approvals come and go, but no resource changes, no
action is recorded, and no approval is executed. -/
structure Untouched (before after : EffectView) : Prop where
  actions : after.actions = before.actions
  billing : after.billing = before.billing
  apiKeys : after.apiKeys = before.apiKeys
  subscriptions : after.subscriptions = before.subscriptions
  executed : after.executed = before.executed
  keys : after.PrimaryKeys

/-- One execution, as a transaction of its own, or other work. -/
inductive ActionStep (redactPii : PyText → PyText) : ActionHistory → ActionHistory → Prop
  | executes (history : ActionHistory) (draws : ExecutionDraws) (lease : JobLease)
      (approvalId : String) (database : Database)
      (reached : database =
        (atomically (RuntimeActionExecutor.execute redactPii draws lease approvalId)
          history.database).2) :
      ActionStep redactPii history
        { database
          changes := history.changes ++
            resourceChanges history.database.effectView database.effectView }
  | elsewhere (history : ActionHistory) (database : Database)
      (untouched : Untouched history.database.effectView database.effectView) :
      ActionStep redactPii history { history with database }

/-! ## The invariant -/

/-- The charge that a change refunds. -/
def ResourceChange.refunded? : ResourceChange → Option String
  | .billing before after =>
      if before.status = "charged" ∧ after.status = "refunded" then some before.id else none
  | .apiKey _ _ | .subscription _ _ => none

def EffectView.actionsOf (view : EffectView) (approvalId : String) : List BusinessAction :=
  view.actions.filter fun action => action.approvalId = approvalId

/-- What holds between executions. -/
structure ConsistentEffects (view : EffectView) (changes : List ResourceChange) : Prop where
  keys : view.PrimaryKeys
  effects : (view.actions.map BusinessAction.effectKey).Nodup
  recorded : List.Forall₂ (fun action change => ResourceChange.RecordedBy action change)
    view.actions changes
  executed : ∀ approvalId, (EffectView.actionsOf view approvalId).length =
    if view.executed approvalId then 1 else 0
  refunded : (changes.filterMap ResourceChange.refunded?).Nodup
  rows : ∀ charge ∈ changes.filterMap ResourceChange.refunded?,
    ∃ row ∈ view.billing, row.id = charge ∧ row.status = "refunded"

theorem ConsistentEffects.of_untouched {before after : EffectView}
    {changes : List ResourceChange} (consistent : ConsistentEffects before changes)
    (untouched : Untouched before after) : ConsistentEffects after changes := by
  constructor
  · exact untouched.keys
  · rw [untouched.actions]
    exact consistent.effects
  · rw [untouched.actions]
    exact consistent.recorded
  · intro approvalId
    rw [EffectView.actionsOf, untouched.actions, untouched.executed]
    exact consistent.executed approvalId
  · exact consistent.refunded
  · rw [untouched.billing]
    exact consistent.rows

/-- A changed row leaves the primary keys as they were. -/
theorem ResourceChange.Applies.keys {change : ResourceChange} {before after : EffectView}
    (recorded : change.RecordedBy action) (applies : change.Applies before after)
    (keys : before.PrimaryKeys) :
    after.PrimaryKeys := by
  have replaced : ∀ {Row : Type} {key : Row → String} {rows : List Row} {old new : Row},
      key new = key old →
        (Table.update key (key old) (fun _ => new) rows).map key = rows.map key := by
    intro Row key rows old new same
    rw [Table.update, List.map_map]
    apply List.map_congr_left
    intro row _
    simp only [Function.comp_apply]
    split
    · rename_i found
      rw [same, found]
    · rfl
  cases change with
  | billing old new =>
      rcases applies with ⟨_, rfl⟩
      refine ⟨keys.approvals, ?_, keys.apiKeys, keys.subscriptions⟩
      rw [replaced (by rw [recorded.2.2.2.2.2])]
      exact keys.billing
  | apiKey old new =>
      rcases applies with ⟨_, rfl⟩
      refine ⟨keys.approvals, keys.billing, ?_, keys.subscriptions⟩
      rw [replaced (by rw [recorded.2.2.2.2.2])]
      exact keys.apiKeys
  | subscription old new =>
      rcases applies with ⟨_, rfl⟩
      rcases recorded.2.2.2.2 with ⟨plan, rpmLimit, concurrencyLimit, same⟩
      refine ⟨keys.approvals, keys.billing, keys.apiKeys, ?_⟩
      rw [replaced (by rw [same])]
      exact keys.subscriptions

/-- A refund is the first one of its charge, and the charge stays refunded. -/
theorem ResourceChange.Applies.refunds {change : ResourceChange} {before after : EffectView}
    {charges : List String} (recorded : change.RecordedBy action)
    (applies : change.Applies before after) (keys : before.PrimaryKeys) (distinct : charges.Nodup)
    (rows : ∀ charge ∈ charges, ∃ row ∈ before.billing, row.id = charge ∧
      row.status = "refunded") :
    (charges ++ change.refunded?.toList).Nodup ∧
      ∀ charge ∈ charges ++ change.refunded?.toList,
        ∃ row ∈ after.billing, row.id = charge ∧ row.status = "refunded" := by
  cases change with
  | billing old new =>
      rcases applies with ⟨member, rfl⟩
      rcases recorded with ⟨_, _, _, _, charged, rfl⟩
      have absent : old.id ∉ charges := by
        intro earlier
        rcases rows old.id earlier with ⟨row, rowMember, same, refunded⟩
        rw [List.inj_on_of_nodup_map keys.billing rowMember member same, charged] at refunded
        exact absurd refunded (by decide)
      have refunds : refunded? (.billing old
          { old with status := "refunded", version := old.version + 1 }) = some old.id := by
        simp [refunded?, charged]
      rw [refunds, Option.toList_some]
      constructor
      · rw [← List.concat_eq_append]
        exact distinct.concat absent
      · intro charge chargeMember
        rcases List.mem_append.mp chargeMember with earlier | last
        · rcases rows charge earlier with ⟨row, rowMember, rfl, refunded⟩
          refine ⟨row, Table.mem_update.mpr (.inl ⟨rowMember, ?_⟩), rfl, refunded⟩
          exact fun same => absent (same ▸ earlier)
        · rw [List.mem_singleton.mp last]
          exact ⟨_, Table.mem_update.mpr (.inr ⟨old, member, rfl, rfl⟩), rfl, rfl⟩
  | apiKey old new =>
      rcases applies with ⟨_, rfl⟩
      simpa [refunded?] using ⟨distinct, rows⟩
  | subscription old new =>
      rcases applies with ⟨_, rfl⟩
      simpa [refunded?] using ⟨distinct, rows⟩

theorem Executes.consistent {approvalId : String} {before after : EffectView}
    {changes : List ResourceChange} (executes : Executes approvalId before after)
    (consistent : ConsistentEffects before changes) :
    ConsistentEffects after (changes ++ resourceChanges before after) := by
  cases executes with
  | nothing =>
      simp only [resourceChanges, changedRows_self, List.map_nil, List.append_nil]
      exact consistent
  | reconciles existing member same unexecuted =>
      -- An approval with an action is executed already.
      have none := consistent.executed approvalId
      rw [unexecuted] at none
      have absent := List.filter_eq_nil_iff.mp (List.eq_nil_of_length_eq_zero none)
      exact absurd (by simpa using same) (absent existing member)
  | takesEffect action effected same unexecuted effect =>
      rcases effect with ⟨newEffect, newId, change, changed, recorded, applies, rfl⟩
      have refunds := applies.refunds recorded consistent.keys consistent.refunded
        consistent.rows
      have appended : (changes ++ [change]).filterMap ResourceChange.refunded? =
          changes.filterMap ResourceChange.refunded? ++ change.refunded?.toList := by
        rw [List.filterMap_append]
        cases refunds : change.refunded? <;> simp [refunds]
      have changedKeys := applies.keys recorded consistent.keys
      rw [resourceChanges_of_applies consistent.keys recorded applies]
      case billing => rfl
      case apiKeys => rfl
      case subscriptions => rfl
      constructor
      · exact ⟨changedKeys.approvals, changedKeys.billing, changedKeys.apiKeys,
          changedKeys.subscriptions⟩
      · rw [List.map_append, List.map_singleton, ← List.concat_eq_append]
        apply consistent.effects.concat
        intro earlier
        rcases List.mem_map.mp earlier with ⟨other, otherMember, equal⟩
        exact newEffect other otherMember equal
      · exact List.rel_append consistent.recorded (.cons recorded .nil)
      · intro wanted
        have earlier := consistent.executed wanted
        simp only [EffectView.actionsOf] at earlier ⊢
        rw [List.filter_append, List.length_append, earlier]
        by_cases isThis : wanted = approvalId
        · subst isThis
          simp [unexecuted, same]
        · have other : action.approvalId ≠ wanted := fun equal => isThis (equal ▸ same)
          simp [Function.update_of_ne isThis, other]
      · rw [appended]
        exact refunds.1
      · rw [appended]
        exact refunds.2

theorem ActionStep.consistent {redactPii : PyText → PyText} {before after : ActionHistory}
    (step : ActionStep redactPii before after)
    (consistent : ConsistentEffects before.database.effectView before.changes) :
    ConsistentEffects after.database.effectView after.changes := by
  cases step with
  | executes draws lease approvalId database reached =>
      subst reached
      apply Executes.consistent _ consistent
      · exact approvalId
      · rcases atomically_cases (RuntimeActionExecutor.execute redactPii draws lease approvalId)
          before.database with ⟨result, final, returned, equal⟩ | ⟨_, equal⟩
        · rw [equal]
          exact execute_returns consistent.keys returned
        · rw [equal]
          exact .nothing
  | elsewhere database untouched => exact consistent.of_untouched untouched

/-! ## Effect once -/

/-- Each action records one change of its resource, each approval that was executed has
one action, and nothing is refunded twice. -/
structure EffectsOnce (history : ActionHistory) : Prop where
  effects : (history.database.actions.map BusinessAction.effectKey).Nodup
  recorded : List.Forall₂ (fun action change => ResourceChange.RecordedBy action change)
    history.database.actions history.changes
  executed : ∀ approvalId, history.database.executed approvalId = true ↔
    (history.database.actions.filter fun action =>
      action.approvalId = approvalId).length = 1
  refunded : (history.changes.filterMap ResourceChange.refunded?).Nodup

theorem ConsistentEffects.initially {history : ActionHistory}
    (keys : history.database.effectView.PrimaryKeys) (noActions : history.database.actions = [])
    (noChanges : history.changes = [])
    (unexecuted : ∀ approvalId, history.database.executed approvalId = false) :
    ConsistentEffects history.database.effectView history.changes := by
  rw [noChanges]
  constructor
  · exact keys
  · simp [Database.effectView, noActions]
  · simp [Database.effectView, noActions]
  · intro approvalId
    simp [EffectView.actionsOf, Database.effectView, noActions, unexecuted]
  · simp
  · simp

/-- Whatever executions are tried, on whatever approvals and under whatever leases, every
effect happens once. -/
theorem effects_happenOnce (redactPii : PyText → PyText) {initial reached : ActionHistory}
    (keys : initial.database.effectView.PrimaryKeys) (noActions : initial.database.actions = [])
    (noChanges : initial.changes = [])
    (unexecuted : ∀ approvalId, initial.database.executed approvalId = false)
    (run : Relation.ReflTransGen (ActionStep redactPii) initial reached) :
    EffectsOnce reached := by
  have steps : ∀ before after, ActionStep redactPii before after →
      ConsistentEffects before.database.effectView before.changes →
        ConsistentEffects after.database.effectView after.changes :=
    fun _ _ step => step.consistent
  have consistent := Run.preserves steps run
    (ConsistentEffects.initially keys noActions noChanges unexecuted)
  refine ⟨consistent.effects, consistent.recorded, ?_, consistent.refunded⟩
  intro approvalId
  have count := consistent.executed approvalId
  simp only [EffectView.actionsOf] at count
  have sameActions : reached.database.effectView.actions = reached.database.actions := rfl
  have sameExecuted : reached.database.effectView.executed = reached.database.executed := rfl
  rw [sameActions, sameExecuted] at count
  rw [count]
  cases reached.database.executed approvalId <;> simp

/-- What is done for an approval that was executed leaves the effects as they are. -/
theorem Executes.eq_of_executed {approvalId : String} {before after : EffectView}
    (executes : Executes approvalId before after) (executed : before.executed approvalId = true) :
    after = before := by
  cases executes with
  | nothing => rfl
  | reconciles existing member same unexecuted => cases executed.symm.trans unexecuted
  | takesEffect action effected same unexecuted effect => cases executed.symm.trans unexecuted

def revocationPayload : List (String × Json) :=
  [("api_key_id", .string "key"), ("fingerprint", .string "fingerprint")]

def revocationHash : String :=
  (actionHash revocationPayload).toOption.getD ""

def revocationRead (invocationId toolName : String) : ToolInvocation where
  id := invocationId
  tenantId := "acme"
  runId := "run"
  jobId := "job"
  turnGroupId := "turn"
  segmentId := "segment"
  fencingToken := 1
  providerToolCallId := "call"
  logicalInvocationId := "call"
  ordinal := 0
  toolName := toolName
  argumentsHash := "arguments"
  lifecycle := .terminal
  outcome := some "succeeded"

def revocationObservation (invocationId : String) (payload : List (String × Json)) :
    ToolObservation where
  id := invocationId
  tenantId := "acme"
  runId := "run"
  jobId := "job"
  invocationId := invocationId
  segmentId := "segment"
  fencingToken := 1
  status := "ok"
  attemptIndex := 1
  contentHash := "content"
  payload := .object payload

def revocationBinding (invocationId toolName : String) : Json :=
  .object
    [("observation_id", .string invocationId), ("invocation_id", .string invocationId),
      ("observation_content_hash", .string "content"), ("turn_group_id", .string "turn"),
      ("tool_name", .string toolName), ("status", .string "ok"),
      ("resource_id", .string "key"), ("resource_version", .integer 1),
      ("source_refs", .array [.string "chunk"])]

/-- A key whose revocation is approved, and the job that resumes the run under a lease. -/
def approvedRevocation : ActionHistory where
  database :=
    { tickets := [{ id := "ticket", tenantId := "acme", customerId := "customer" }]
      runs :=
        [{ id := "run", tenantId := "acme", ticketId := "ticket", customerId := "customer",
           activeJobId := some "job", activeFencingToken := some 1 }]
      jobs :=
        [{ id := "job", tenantId := "acme", ticketId := "ticket", runId := "run",
           dispatchSequence := 1, approvalId := some "approval", kind := .approvalResume,
           status := .leased, leaseOwner := some "worker", fencingToken := 1,
           leaseExpiresAt := some ⟨60000000, Instant.minute_inRange⟩,
           availableAt := ⟨0, Instant.first_inRange⟩,
           createdAt := ⟨0, Instant.first_inRange⟩ }]
      approvals :=
        [{ id := "approval", tenantId := "acme", ticketId := "ticket", customerId := "customer",
           runId := "run", proposalId := "proposal", actionType := "api_key_revocation",
           resourceType := "api_key_id", resourceId := "key", actionPayload := .null,
           businessVersion := 1, idempotencyKey := "request", status := .approved,
           selectedRevisionId := some "revision" }]
      proposals :=
        [{ id := "proposal", tenantId := "acme", actionType := "api_key_revocation",
           resourceId := "key", status := .bound, runId := "run", resourceVersion := 1,
           actionPayload := revocationPayload, actionHash := revocationHash,
           observationBinding := [revocationBinding "1" "query_api_key_metadata",
             revocationBinding "2" "search_knowledge"] }]
      revisions :=
        [{ id := "revision", tenantId := "acme", approvalId := "approval",
           proposalId := "proposal", snapshotId := "snapshot", revisionNumber := 0,
           actionPayload := revocationPayload, actionHash := revocationHash,
           resourceVersion := 1, createdByRef := "agent", revisionReason := "proposed" }]
      decisions :=
        [{ id := "decision", tenantId := "acme", approvalId := "approval",
           actionRevisionId := some "revision", actorId := "approver", decision := "approve",
           reason := "confirmed", actionHash := some revocationHash,
           decisionHash := some "decided", canonicalEventId := none, canonicalEventHash := none,
           createdAt := ⟨0, Instant.first_inRange⟩ }]
      turnGroups :=
        [{ id := "turn", tenantId := "acme", runId := "run", jobId := "job",
           segmentId := "segment", fencingToken := 1, decisionOrdinal := 1, toolRound := 1,
           expectedInvocations := 2, decisionHash := "decision", contextHash := "context",
           toolSchemaHash := "schema", status := .closed }]
      invocations := [revocationRead "1" "query_api_key_metadata",
        revocationRead "2" "search_knowledge"]
      observations :=
        [revocationObservation "1"
          [("data", .object [("api_key_id", .string "key"), ("version", .integer 1)])],
          revocationObservation "2" [("source_refs", .array [.string "chunk"])]]
      memberships :=
        [{ tenantId := "acme", userId := "approver", role := "support_approver",
           status := "active" }]
      approverScopes := [{ userId := "approver", tenantId := "acme" }]
      killSwitches :=
        [{ tenantId := "acme", actionType := "api_key_revocation", enabled := true }]
      apiKeys :=
        [{ id := "row", tenantId := "acme", customerId := "customer", keyId := "key",
           fingerprint := "fingerprint", status := "active", version := 1 }] }

def revocationLease : JobLease where
  jobId := "job"
  runId := "run"
  tenantId := "acme"
  owner := "worker"
  fencingToken := 1
  expiresAt := ⟨60000000, Instant.minute_inRange⟩

def revocationDraws (actionId eventId : String) : ExecutionDraws where
  actionId := actionId
  eventId := eventId
  now := ⟨0, Instant.first_inRange⟩

def revocationExecuted (draws : ExecutionDraws) (history : ActionHistory) : ActionHistory :=
  let database := (atomically (RuntimeActionExecutor.execute (fun text => text) draws
    revocationLease "approval") history.database).2
  { database
    changes := history.changes ++
      resourceChanges history.database.effectView database.effectView }

theorem revocationExecuted_step (draws : ExecutionDraws) (history : ActionHistory) :
    ActionStep (fun text => text) history (revocationExecuted draws history) :=
  .executes history draws revocationLease "approval" _ rfl

theorem revocationExecuted_same (draws : ExecutionDraws) {history : ActionHistory}
    (keys : history.database.effectView.PrimaryKeys)
    (executed : history.database.executed "approval" = true) :
    (revocationExecuted draws history).database.effectView = history.database.effectView := by
  rcases atomically_cases (RuntimeActionExecutor.execute (fun text => text) draws revocationLease
    "approval") history.database with ⟨result, final, returned, equal⟩ | ⟨_, equal⟩
  · rw [revocationExecuted, equal]
    exact (execute_returns keys returned).eq_of_executed executed
  · rw [revocationExecuted, equal]

/-- What an execution shows: the key, the actions, and whether the approval is used up. -/
def revocationReport (history : ActionHistory) : List (String × Int) × Nat × Bool :=
  (history.database.apiKeys.map fun key => (key.status, key.version),
    history.database.actions.length, history.database.executed "approval")

def revokedOnce : ActionHistory :=
  revocationExecuted (revocationDraws "action" "event") approvedRevocation

theorem revokedOnce_report : revocationReport revokedOnce = ([("revoked", 2)], 1, true) := by
  decide +kernel

/-- An execution revokes the key, and its repetition changes nothing more. -/
theorem effects_happenOnce_retried :
    ∃ twice,
      ActionStep (fun text => text) approvedRevocation revokedOnce ∧
        ActionStep (fun text => text) revokedOnce twice ∧
        revocationReport revokedOnce = ([("revoked", 2)], 1, true) ∧
        twice.database.effectView = revokedOnce.database.effectView ∧ EffectsOnce twice := by
  have keys : approvedRevocation.database.effectView.PrimaryKeys := by
    constructor <;> decide
  have unexecuted : ∀ approvalId,
      approvedRevocation.database.executed approvalId = false := by
    intro approvalId
    by_cases same : "approval" = approvalId
    · subst same
      decide
    · simp [Database.executed, Table.find, approvedRevocation, same]
  have first : ActionStep (fun text => text) approvedRevocation revokedOnce :=
    revocationExecuted_step (revocationDraws "action" "event") approvedRevocation
  have again := revocationExecuted_step (revocationDraws "retry" "later") revokedOnce
  have consistent := first.consistent (.initially keys rfl rfl unexecuted)
  have report := revokedOnce_report
  simp only [revocationReport, Prod.mk.injEq] at report
  have same := revocationExecuted_same (revocationDraws "retry" "later") consistent.keys
    report.2.2
  exact ⟨_, first, again, revokedOnce_report, same,
    effects_happenOnce _ keys rfl rfl unexecuted ((Relation.ReflTransGen.single first).tail again)⟩

end SupportGuard
