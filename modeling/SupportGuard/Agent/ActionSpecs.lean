import SupportGuard.Services.ConversationActionState

/-! # Action contracts

`actions/service.py`: what an action needs observed before it can be proposed, where each
argument of a proposal comes from, and which observations end it. Only the members that the
ledger of obligations and the assembler of proposals read are here. -/

namespace SupportGuard

open Foundation

/-! ## Specifications -/

def ActionType.text : ActionType → String
  | .refund => "refund"
  | .apiKeyRevocation => "api_key_revocation"
  | .entitlementChange => "entitlement_change"

inductive ObligationKind
  | resource
  | knowledge
  | usage
deriving DecidableEq, Repr

structure EvidenceObligationSpec where
  obligationId : String
  kind : ObligationKind
  capabilities : List String
  requiredDataFields : List String := []
  requiredTruthyDataFields : List String := []
  resourceRefArgument : Option String := none
  observedResourceField : Option String := none
  allowedResourceStatuses : List String := []
  requireFreshness : Bool := true
  allowedDocumentKeys : List String := []
  allowedDocumentTypes : List String := []
  allowedSectionTerms : List String := []
  minimumVersion : Option String := none
  truthyRequired : ∀ field ∈ requiredTruthyDataFields, field ∈ requiredDataFields := by decide
  searchOnly : kind = .knowledge → capabilities = ["search_knowledge"] := by decide

/-- Only a field that is observed names an obligation. -/
inductive ProposalFieldSource
  | admission
  | observation (obligationId : String)
  | requestReason
deriving DecidableEq

def ProposalFieldSource.obligationId? : ProposalFieldSource → Option String
  | .observation obligationId => some obligationId
  | .admission | .requestReason => none

structure ProposalFieldBinding where
  targetField : String
  source : ProposalFieldSource
  sourcePath : String

inductive TerminalOutcomeClass
  | actionIneligible
  | resourceNotAvailable
deriving DecidableEq, Repr

/-- The shape of a rule: which observation it is about, and the fields it compares. -/
inductive TerminalOutcomePredicate
  | observationStatusIn (values : List String)
  | resourceStatusNotAllowed
  | observationFieldFalsy (field : String)
  | admissionNotInObservation (path : List String) (field : String)
  | admissionEqualsObservation (path : List String) (field : String)
deriving DecidableEq

/-- A business state in which an admitted action ends. Paths are split at their dots. -/
structure TerminalOutcomeRule where
  outcomeCode : String
  terminalClass : TerminalOutcomeClass := .actionIneligible
  obligationId : String
  predicate : TerminalOutcomePredicate
  publicObservationFields : List String := []
  publicAdmissionPaths : List (List String) := []
  customerMessageKey : String
  recommendedNextStep : String
  requireBusinessSource : Bool := true

structure ActionSpec where
  actionType : ActionType
  obligations : List EvidenceObligationSpec
  proposalFields : List ProposalFieldBinding
  terminalOutcomes : List TerminalOutcomeRule
  uniqueObligations : (obligations.map EvidenceObligationSpec.obligationId).Nodup
  uniqueTargets : (proposalFields.map ProposalFieldBinding.targetField).Nodup
  knownObligations : ∀ field ∈ proposalFields, ∀ obligationId ∈ field.source.obligationId?,
    obligationId ∈ obligations.map EvidenceObligationSpec.obligationId

def billingRecordCurrent : EvidenceObligationSpec where
  obligationId := "billing_record_current"
  kind := .resource
  capabilities := ["query_billing_record"]
  requiredDataFields :=
    ["billing_record_id", "amount", "currency", "status", "charged_at",
      "service_period_start", "service_period_end", "duplicate_of", "version",
      "original_billing_record_id", "original_amount", "original_currency",
      "original_status", "original_charged_at", "original_service_period_start",
      "original_service_period_end", "original_version", "duplicate_pair_eligible",
      "refund_pair_hash"]
  requiredTruthyDataFields :=
    ["duplicate_of", "original_billing_record_id", "duplicate_pair_eligible",
      "refund_pair_hash"]
  resourceRefArgument := some "billing_record_id"
  observedResourceField := some "billing_record_id"
  allowedResourceStatuses := ["charged"]

def apiKeyMetadataCurrent : EvidenceObligationSpec where
  obligationId := "api_key_metadata_current"
  kind := .resource
  capabilities := ["query_api_key_metadata"]
  requiredDataFields := ["api_key_id", "fingerprint", "status", "version", "last_used_summary"]
  resourceRefArgument := some "api_key_ref"
  observedResourceField := some "api_key_id"
  allowedResourceStatuses := ["active"]

def subscriptionCurrent : EvidenceObligationSpec where
  obligationId := "subscription_current"
  kind := .resource
  capabilities := ["query_subscription"]
  requiredDataFields :=
    ["subscription_id", "plan", "status", "rpm_limit", "concurrency_limit",
      "catalog_eligibility", "version"]
  observedResourceField := some "subscription_id"
  allowedResourceStatuses := ["active"]

/-- The policy an action rests on, and the documents that state it. -/
def policyCurrent (obligationId : String) (documentKeys documentTypes sectionTerms : List String)
    (minimumVersion : String) : EvidenceObligationSpec where
  obligationId
  kind := .knowledge
  capabilities := ["search_knowledge"]
  requiredDataFields := ["evidence", "index_version"]
  requireFreshness := false
  allowedDocumentKeys := documentKeys
  allowedDocumentTypes := documentTypes
  allowedSectionTerms := sectionTerms
  minimumVersion := some minimumVersion
  truthyRequired _ member := absurd member List.not_mem_nil
  searchOnly _ := rfl

def refundPolicyCurrent : EvidenceObligationSpec :=
  policyCurrent "refund_policy_current" ["billing-refunds-v3"] ["official_policy"]
    ["退款", "重复扣费", "审批"] "3.1"

def apiKeyRevocationPolicyCurrent : EvidenceObligationSpec :=
  policyCurrent "api_key_revocation_policy_current"
    ["api-key-incident-v1", "authentication-security-v3"] ["security_policy"]
    ["撤销", "密钥", "Secret", "轮换"] "1.0"

def entitlementPolicyCurrent : EvidenceObligationSpec :=
  policyCurrent "entitlement_policy_current" ["entitlement-changes-v1"] ["official_policy"]
    ["配额", "套餐", "目标", "审批"] "1.0"

/-! ## Ends -/

/-- The resource was not found. -/
def resourceNotAvailable (outcomeCode obligationId recommendedNextStep : String) :
    TerminalOutcomeRule where
  outcomeCode
  terminalClass := .resourceNotAvailable
  obligationId
  predicate := .observationStatusIn ["not_found"]
  customerMessageKey := outcomeCode
  recommendedNextStep
  requireBusinessSource := false

/-- The resource is in no status that the action accepts. -/
def statusNotActionable (outcomeCode obligationId resourceField recommendedNextStep : String) :
    TerminalOutcomeRule where
  outcomeCode
  obligationId
  predicate := .resourceStatusNotAllowed
  publicObservationFields := [resourceField, "status"]
  customerMessageKey := outcomeCode
  recommendedNextStep

/-- The subscription already has the value that is asked for. -/
def targetNoop (outcomeCode field : String) : TerminalOutcomeRule where
  outcomeCode
  obligationId := "subscription_current"
  predicate := .admissionEqualsObservation ["target", field] field
  publicObservationFields := ["subscription_id", field]
  publicAdmissionPaths := [["change_type"], ["target", field]]
  customerMessageKey := "entitlement_target_noop"
  recommendedNextStep := "choose_different_target"

def refundOutcomes : List TerminalOutcomeRule :=
  [resourceNotAvailable "refund_resource_not_available" "billing_record_current"
      "verify_billing_reference",
    statusNotActionable "refund_status_not_actionable" "billing_record_current"
      "billing_record_id" "review_existing_refund",
    { outcomeCode := "refund_duplicate_relation_unconfirmed"
      obligationId := "billing_record_current"
      predicate := .observationFieldFalsy "duplicate_pair_eligible"
      publicObservationFields :=
        ["billing_record_id", "status", "duplicate_of", "duplicate_pair_eligible"]
      customerMessageKey := "refund_duplicate_relation_unconfirmed"
      recommendedNextStep := "verify_duplicate_billing_reference" }]

def apiKeyRevocationOutcomes : List TerminalOutcomeRule :=
  [resourceNotAvailable "api_key_resource_not_available" "api_key_metadata_current"
      "verify_key_reference",
    statusNotActionable "api_key_status_not_actionable" "api_key_metadata_current" "api_key_id"
      "review_key_status"]

def entitlementOutcomes : List TerminalOutcomeRule :=
  [resourceNotAvailable "subscription_resource_not_available" "subscription_current"
      "verify_subscription",
    statusNotActionable "subscription_status_not_actionable" "subscription_current"
      "subscription_id" "restore_or_review_subscription",
    { outcomeCode := "entitlement_target_unsupported"
      obligationId := "subscription_current"
      predicate := .admissionNotInObservation ["change_type"] "catalog_eligibility"
      publicObservationFields := ["subscription_id", "catalog_eligibility"]
      publicAdmissionPaths := [["change_type"]]
      customerMessageKey := "entitlement_target_unsupported"
      recommendedNextStep := "choose_supported_change_type" },
    targetNoop "entitlement_plan_target_noop" "plan",
    targetNoop "entitlement_rpm_target_noop" "rpm_limit",
    targetNoop "entitlement_concurrency_target_noop" "concurrency_limit"]

/-! ## Arguments -/

def observedField (targetField obligationId : String) : ProposalFieldBinding where
  targetField
  source := .observation obligationId
  sourcePath := targetField

def admittedField (targetField : String) : ProposalFieldBinding where
  targetField
  source := .admission
  sourcePath := targetField

def reasonField (targetField : String) : ProposalFieldBinding where
  targetField
  source := .requestReason
  sourcePath := "request_reason"

/-- `ACTION_SPECS`. -/
def actionSpec : ActionType → ActionSpec
  | .refund =>
      { actionType := .refund
        obligations := [billingRecordCurrent, refundPolicyCurrent]
        proposalFields :=
          [observedField "billing_record_id" "billing_record_current",
            reasonField "refund_reason"]
        terminalOutcomes := refundOutcomes
        uniqueObligations := by decide
        uniqueTargets := by decide
        knownObligations := by decide }
  | .apiKeyRevocation =>
      { actionType := .apiKeyRevocation
        obligations := [apiKeyMetadataCurrent, apiKeyRevocationPolicyCurrent]
        proposalFields :=
          [observedField "api_key_id" "api_key_metadata_current", reasonField "reason"]
        terminalOutcomes := apiKeyRevocationOutcomes
        uniqueObligations := by decide
        uniqueTargets := by decide
        knownObligations := by decide }
  | .entitlementChange =>
      { actionType := .entitlementChange
        obligations := [subscriptionCurrent, entitlementPolicyCurrent]
        proposalFields :=
          [observedField "subscription_id" "subscription_current",
            admittedField "change_type", admittedField "target", reasonField "reason"]
        terminalOutcomes := entitlementOutcomes
        uniqueObligations := by decide
        uniqueTargets := by decide
        knownObligations := by decide }

end SupportGuard
