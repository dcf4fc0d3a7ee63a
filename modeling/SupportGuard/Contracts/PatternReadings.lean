import SupportGuard.Contracts.ActionPreconditions
import SupportGuard.Foundation.RegexReading

/-! # The patterns of the admission, read

Each pattern of `contracts/action_preconditions.py` with its characters, for evaluations. -/

namespace SupportGuard

open Foundation Regex

namespace AdmissionPattern

def billingIdRead : Reading billingId :=
  ⟨_, compile_reads (by
    unfold billingIdPattern
    repeat first | apply reads_cons String.toList_ofList | exact reads_nil)⟩

def apiKeyRefRead : Reading apiKeyRef :=
  ⟨_, compile_reads (by
    repeat first | apply reads_cons String.toList_ofList | exact reads_nil)⟩

def refundActionRead : Reading refundAction :=
  ⟨_, compile_reads (by
    repeat first | apply reads_cons String.toList_ofList | exact reads_nil)⟩

def actionRequestCueRead : Reading actionRequestCue :=
  ⟨_, compile_reads (by
    repeat first | apply reads_cons String.toList_ofList | exact reads_nil)⟩

def keyDomainRead : Reading keyDomain :=
  ⟨_, compile_reads (by
    repeat first | apply reads_cons String.toList_ofList | exact reads_nil)⟩

def keyRevocationRead : Reading keyRevocation :=
  ⟨_, compile_reads (by
    repeat first | apply reads_cons String.toList_ofList | exact reads_nil)⟩

def keyRevocationNegatedRead : Reading keyRevocationNegated :=
  ⟨_, compile_reads (by
    repeat first | apply reads_cons String.toList_ofList | exact reads_nil)⟩

def entitlementDomainRead : Reading entitlementDomain :=
  ⟨_, compile_reads (by
    repeat first | apply reads_cons String.toList_ofList | exact reads_nil)⟩

def entitlementChangeRead : Reading entitlementChange :=
  ⟨_, compile_reads (by
    repeat first | apply reads_cons String.toList_ofList | exact reads_nil)⟩

def entitlementChangeNegatedRead : Reading entitlementChangeNegated :=
  ⟨_, compile_reads (by
    repeat first | apply reads_cons String.toList_ofList | exact reads_nil)⟩

def concurrencyTargetRead : Reading concurrencyTarget :=
  ⟨_, compile_reads (by
    repeat first | apply reads_cons String.toList_ofList | exact reads_nil)⟩

def rpmTargetRead : Reading rpmTarget :=
  ⟨_, compile_reads (by
    repeat first | apply reads_cons String.toList_ofList | exact reads_nil)⟩

def planTargetRead : Reading planTarget :=
  ⟨_, compile_reads (by
    repeat first | apply reads_cons String.toList_ofList | exact reads_nil)⟩

def duplicateChargeActionRead : Reading duplicateChargeAction :=
  ⟨_, compile_reads (by
    repeat first | apply reads_cons String.toList_ofList | exact reads_nil)⟩

def duplicateBillingRelationZhRead : Reading duplicateBillingRelationZh :=
  ⟨_, compile_reads (by
    unfold billingIdPattern
    repeat first | apply reads_cons String.toList_ofList | exact reads_nil)⟩

def duplicateBillingRelationEnRead : Reading duplicateBillingRelationEn :=
  ⟨_, compile_reads (by
    unfold billingIdPattern
    repeat first | apply reads_cons String.toList_ofList | exact reads_nil)⟩

def refundContextContinuationRead : Reading refundContextContinuation :=
  ⟨_, compile_reads (by
    repeat first | apply reads_cons String.toList_ofList | exact reads_nil)⟩

def actionClauseBoundaryRead : Reading actionClauseBoundary :=
  ⟨_, compile_reads (by
    repeat first | apply reads_cons String.toList_ofList | exact reads_nil)⟩

def actionCoordinatedContinuationRead : Reading actionCoordinatedContinuation :=
  ⟨_, compile_reads (by
    repeat first | apply reads_cons String.toList_ofList | exact reads_nil)⟩

def actionInformationalRead : Reading actionInformational :=
  ⟨_, compile_reads (by
    repeat first | apply reads_cons String.toList_ofList | exact reads_nil)⟩

def refundActionNegatedRead : Reading refundActionNegated :=
  ⟨_, compile_reads (by
    repeat first | apply reads_cons String.toList_ofList | exact reads_nil)⟩

def refundInformationalRead : Reading refundInformational :=
  ⟨_, compile_reads (by
    repeat first | apply reads_cons String.toList_ofList | exact reads_nil)⟩

end AdmissionPattern

/-- What a definition evaluates. -/
structure Evaluated {Value : Type} (value : Value) where
  read : Value
  same : value = read

open AdmissionPattern in
def admissionRead : Evaluated @resolveActionAdmissionV2 :=
  ⟨_, by
    delta resolveActionAdmissionV2 safeImmediateDomainContinuation continues actionIntents
      requestsAction refundActionRequested keyActionRequested entitlementActionRequested
      explicitActionRequested positiveActionClauseSpans positiveSpans positiveSpans._f
      positiveClause clauseSpans keyGrammar entitlementGrammar refundRequestedIn
      refundRequestedIn._f clauses refundDisqualified duplicateChargeRequested consideredMessages
      refundContinuationBlocked actionFields refundFields apiKeyFields actionFieldSpans
      entitlementFields entitlementTargets
    rw [billingIdRead.same, refundActionRead.same, refundActionNegatedRead.same,
      refundInformationalRead.same, duplicateChargeActionRead.same, actionRequestCueRead.same,
      actionClauseBoundaryRead.same, keyDomainRead.same, entitlementDomainRead.same,
      refundContextContinuationRead.same, keyRevocationRead.same, keyRevocationNegatedRead.same,
      entitlementChangeRead.same, entitlementChangeNegatedRead.same, actionInformationalRead.same,
      actionCoordinatedContinuationRead.same, concurrencyTargetRead.same, rpmTargetRead.same,
      planTargetRead.same, apiKeyRefRead.same]⟩

end SupportGuard
