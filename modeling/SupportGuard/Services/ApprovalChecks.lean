import SupportGuard.Database.RefundPairSnapshot
import SupportGuard.Foundation.PyConversion
import SupportGuard.Services.Idempotency

/-! # Checks of an approval

What a decision and its execution have in common: the scope of an approver, the edits an
action allows, and the pair of charges behind a refund. -/

namespace SupportGuard

open Foundation Program

/-! ## Approvers -/

/-- `assert_active_approver_scope`. -/
def assertActiveApproverScope (tenantId actorId : String) :
    Program Database RuntimeRaise Unit := do
  let database ← reads id
  let membership := database.memberships.any fun membership =>
    membership.tenantId = tenantId && membership.userId = actorId &&
      membership.role = "support_approver" && membership.status = "active"
  let approver := database.approverScopes.any fun approver =>
    approver.userId = actorId && approver.tenantId = tenantId
  refuseWhen (membership = false ∨ approver = false)
    (.runtimeConflict "approver_scope_invalid")

/-! ## Edits -/

def maxTargetConcurrency : Int := 1000000

def stripped (text : String) : String :=
  String.ofList (stripSpace text.toList)

/-- The dictionary has one key. -/
def onlyKey (members : List (String × Json)) (key : String) : Bool :=
  !members.isEmpty && members.all fun member => member.1 = key

def requiredText : Option Json → Option String
  | some (.string text) => if stripped text = "" then none else some (stripped text)
  | _ => none

def requiredTargetConcurrency : Option Json → Option Int
  | some (.integer value) =>
      if 1 ≤ value ∧ value ≤ maxTargetConcurrency then some value else none
  | _ => none

/-- `apply_approval_edit`; none where the edit is not allowed. -/
def applyApprovalEdit (actionType : String) (basePayload editedPayload : List (String × Json)) :
    Option (List (String × Json)) :=
  if actionType = "refund" then
    if onlyKey editedPayload "refund_reason" then
      (requiredText (editedPayload.lookup "refund_reason")).map fun reason =>
        assign basePayload "refund_reason" (.string reason)
    else none
  else if actionType = "entitlement_change" then
    if onlyKey editedPayload "target_concurrency" then
      match basePayload.lookup "change_type", basePayload.lookup "target" with
      | some (.string "quota_change"), some (.object target) =>
          if onlyKey target "concurrency_limit" then
            (requiredTargetConcurrency (editedPayload.lookup "target_concurrency")).map
              fun limit =>
                assign basePayload "target" (.object [("concurrency_limit", .integer limit)])
          else none
      | _, _ => none
    else none
  else none

/-- `action_hash`. -/
def actionHash (payload : List (String × Json)) : Except RuntimeRaise String :=
  canonicalHash (PyValue.ofJson (.object payload))

/-! ## Refund pairs -/

def RefundRaise.toRuntime : RefundRaise → RuntimeRaise
  | .canonicalJsonError error => .valueError error.message
  | .overflowError _ => .overflowError

/-- `lock_and_evaluate_billing_refund_pair`. -/
def evaluateBillingRefundPair (database : Database) (tenantId customerId billingRecordId : String)
    (now : Instant) : Except RuntimeRaise (Option (BillingRecord × RefundPairEvaluation)) :=
  match findBillingRecord database.billing tenantId customerId billingRecordId with
  | none => .ok none
  | some target =>
      let original :=
        if missing target.duplicateOf then none
        else findOriginal database.billing tenantId customerId target
      match evaluateRefundPair target.facts (original.map BillingRecord.facts)
          ⟨now, some ⟨0, UtcOffset.utc_bounded⟩⟩ with
      | .ok evaluation => .ok (some (target, evaluation))
      | .error raised => .error raised.toRuntime

/-- `refund_pair_matches_proposal`. -/
def refundPairMatchesProposal (evaluation : RefundPairEvaluation) (proposal : ProposalRecord) :
    Bool :=
  evaluation.eligible && !missing evaluation.pairHash &&
    match evaluation.original with
    | none => false
    | some original =>
        proposal.refundOriginalResourceId = some original.billingRecordId &&
          proposal.refundOriginalVersion = some original.version &&
          proposal.refundPairHash = evaluation.pairHash

end SupportGuard
