import SupportGuard.Agent.ProposalAssembler
import SupportGuard.Contracts.AdmissionTotality

/-! # Preconditions that are missing

`contracts/action_preconditions.py`: before a message is classified, an explicit request that
lacks a field is answered with a question. The concurrency that a customer asks for is checked
against the schema of a target here, and a number outside of its bounds raises. -/

namespace SupportGuard

open Foundation Fallible

/-! ## The request that lacks a field -/

/-- `ActionAdmission`, the first version of an admission. -/
structure ActionAdmissionV1 where
  actionType : ActionType
  issueType : String
  missingFields : List String
  extractedArguments : List (String × Json) := []
  clarificationQuestion : String

inductive PreconditionError
  | reading (error : AdmissionError)
  | invalidTarget
  | emptyTarget
deriving DecidableEq

section Preconditions

variable (tables : TextTables)

/-- What the customer has said in an item of the conversation. -/
def historyTurn (item : ConversationItem) : Except AdmissionError (Option (List Char)) := do
  let customer ← fromCustomer item
  match (item.lookup "content").filter Json.truthy with
  | some content => return if customer then some (tables.str content) else none
  | none => return none

/-- `_customer_history`, the last six items. -/
def customerHistory (recent : List ConversationItem) : Except AdmissionError (List Char) := do
  let turns ← (recent.drop (recent.length - 6)).mapM (historyTurn tables)
  return List.intercalate ['\n'] (turns.flatMap Option.toList)

def continuationSurface (history current : List Char) : List Char :=
  stripSpace (history ++ '\n' :: current)

def refundIntent (history current : List Char) : Bool :=
  refundActionRequested tables current ||
    !refundContinuationBlocked tables current && refundActionRequested tables history &&
      searches tables AdmissionPattern.billingId current

def keyIntent (history current : List Char) : Bool :=
  keyActionRequested tables false current ||
    keyActionRequested tables false history &&
      searches tables AdmissionPattern.apiKeyRef current

def entitlementIntent (history current : List Char) : Bool :=
  entitlementActionRequested tables false current ||
    entitlementActionRequested tables false history &&
      searches tables AdmissionPattern.concurrencyTarget current

/-- `int(target_match.group(1))`. -/
def targetLimit (surface : List Char) (found : RegexMatch) : Except AdmissionError Int := do
  readInteger (← groupText surface found 1)

/-- The check of the number that a target match has found. -/
def checkTarget (surface : List Char) (found : RegexMatch) :
    Except PreconditionError (Option ActionAdmissionV1) := do
  let limit ← (targetLimit surface found).mapError .reading
  match validateEntitlementTarget (.string "quota_change")
      [("concurrency_limit", .integer limit)] with
  | none => throw .invalidTarget
  | some [] => throw .emptyTarget
  | some _ => return none

def resolveMissingActionPreconditions (currentTurn : List Char)
    (recent : List ConversationItem) :
    Except PreconditionError (Option ActionAdmissionV1) := do
  let current := stripSpace currentTurn
  let history ← (customerHistory tables recent).mapError .reading
  let surface := continuationSurface history current
  if refundIntent tables history current && !searches tables AdmissionPattern.billingId surface
  then return some {
    actionType := .refund
    issueType := "billing_refund"
    missingFields := ["billing_record_id"]
    clarificationQuestion := "请提供需要退款的账单 ID（Billing ID / 账单编号，例如 bill_...）。" }
  else if keyIntent tables history current &&
    !searches tables AdmissionPattern.apiKeyRef surface
  then return some {
    actionType := .apiKeyRevocation
    issueType := "credential_security"
    missingFields := ["api_key_ref"]
    clarificationQuestion :=
      "请提供要撤销的 API Key 引用（Key Reference，例如 key_...）；不要发送完整密钥。" }
  else if entitlementIntent tables history current then
    match AdmissionPattern.concurrencyTarget.search tables.isWord surface with
    | none => return some {
        actionType := .entitlementChange
        issueType := "entitlement_change"
        missingFields := ["target.concurrency_limit"]
        clarificationQuestion := "请提供希望调整到的具体并发上限目标值（例如 40）。" }
    | some found => checkTarget surface found
  else return none

/-! ## The number that is checked -/

/-- The customer asks for another entitlement, no other request of the turn lacks its
reference, and the first concurrency that is named is this one. -/
structure ChecksLimit (history current : List Char) (limit : Int) : Prop where
  asked : entitlementIntent tables history current = true
  billed : refundIntent tables history current = true →
    searches tables AdmissionPattern.billingId (continuationSurface history current) = true
  keyed : keyIntent tables history current = true →
    searches tables AdmissionPattern.apiKeyRef (continuationSurface history current) = true
  named : ∃ found, AdmissionPattern.concurrencyTarget.search tables.isWord
      (continuationSurface history current) = some found ∧
    targetLimit (continuationSurface history current) found = .ok limit

variable {tables}

theorem targetLimit_returns {surface : List Char} {found : RegexMatch}
    (searched : AdmissionPattern.concurrencyTarget.search tables.isWord surface = some found) :
    ∃ limit, targetLimit surface found = .ok limit := by
  have number := concurrencyTarget_readsNumber
  rcases Regex.span_of_readsField (readsField_of_readsNumber number)
    (Regex.search_of searched) with ⟨span, chosen, _, _, field⟩
  have captured : found.span 1 = some span := by
    cases taking : found.span 1 with
    | none =>
        rw [List.findSome?_cons, taking] at chosen
        cases chosen
    | some other =>
        rw [List.findSome?_cons, taking] at chosen
        exact chosen
  rcases readInteger_returns number field with ⟨limit, read⟩
  rw [targetLimit, groupText, captured]
  exact ⟨limit, read⟩

theorem checkTarget_returns_iff {surface : List Char} {found : RegexMatch} {limit : Int}
    (read : targetLimit surface found = .ok limit) :
    (∃ admission, checkTarget surface found = .ok admission) ↔ 1 ≤ limit ∧ limit ≤ 100000 := by
  have valid := @validateQuotaTarget_single _ _ limit
    (List.mem_cons_of_mem ("rpm_limit", (10000000 : Int)) List.mem_cons_self)
  simp only [checkTarget, read, Except.mapError, bind, Except.bind, validateEntitlementTarget,
    if_true, valid]
  by_cases within : 1 ≤ limit ∧ limit ≤ 100000
  · rw [if_pos within]
    exact ⟨fun _ => within, fun _ => ⟨none, rfl⟩⟩
  · rw [if_neg within]
    constructor
    · intro returned
      rcases returned with ⟨_, impossible⟩
      cases impossible
    · exact fun inside => absurd inside within

theorem historyTurn_returns {item : ConversationItem} (hashable : RoleHashable item) :
    ∃ turn, historyTurn tables item = .ok turn := by
  rcases hashable with ⟨customer, heard⟩
  rw [historyTurn]
  apply bind_returns heard
  split <;> exact ⟨_, rfl⟩

theorem customerHistory_returns {recent : List ConversationItem}
    (hashable : ∀ item ∈ recent, RoleHashable item) :
    ∃ history, customerHistory tables recent = .ok history := by
  rw [customerHistory]
  have turns : ∃ turns, (recent.drop (recent.length - 6)).mapM (historyTurn tables) =
      .ok turns := by
    apply mapM_returns
    intro item among
    exact historyTurn_returns (hashable item (List.mem_of_mem_drop among))
  exact bind_returns turns.choose_spec ⟨_, rfl⟩

theorem resolveMissingActionPreconditions_returns_iff {currentTurn history : List Char}
    {recent : List ConversationItem} (heard : customerHistory tables recent = .ok history) :
    (∃ admission, resolveMissingActionPreconditions tables currentTurn recent =
      .ok admission) ↔
      ∀ limit, ChecksLimit tables history (stripSpace currentTurn) limit →
        1 ≤ limit ∧ limit ≤ 100000 := by
  rw [resolveMissingActionPreconditions, heard]
  simp only [Except.mapError, bind, Except.bind]
  split
  · next refund =>
      rw [Bool.and_eq_true, Bool.not_eq_true'] at refund
      constructor
      · intro _ limit checks
        rw [checks.billed refund.1] at refund
        cases refund.2
      · exact fun _ => ⟨_, rfl⟩
  split
  · next key =>
      rw [Bool.and_eq_true, Bool.not_eq_true'] at key
      constructor
      · intro _ limit checks
        rw [checks.keyed key.1] at key
        cases key.2
      · exact fun _ => ⟨_, rfl⟩
  next refund key =>
  split
  · next asked =>
      split
      · next absent =>
          constructor
          · intro _ limit checks
            rcases checks.named with ⟨found, searched, _⟩
            rw [absent] at searched
            cases searched
          · exact fun _ => ⟨_, rfl⟩
      · next found searched =>
          rcases targetLimit_returns searched with ⟨limit, read⟩
          rw [checkTarget_returns_iff read]
          constructor
          · intro within other checks
            rcases checks.named with ⟨own, ownSearched, ownRead⟩
            rw [searched] at ownSearched
            cases ownSearched
            rw [read] at ownRead
            cases ownRead
            exact within
          · intro bounded
            apply bounded limit
            exact {
              asked
              billed := by simpa using refund
              keyed := by simpa using key
              named := ⟨found, searched, read⟩ }
  · next silent =>
      constructor
      · intro _ limit checks
        exact absurd checks.asked silent
      · exact fun _ => ⟨_, rfl⟩

end Preconditions

def entitlementRequest : AdmissionRequest where
  requestedAction := some .entitlementChange
  issueType := some "entitlement_change"
  tenantId := "tenant"
  customerId := "customer"
  currentMessageId := "m1".toList
  turnGroupId := "turn"

def limitTurn : List Char := "please set limit to 0".toList

section Evaluation

open AdmissionPattern

theorem limitTurn_asked :
    entitlementIntent plainTables [] (stripSpace limitTurn) = true := by
  delta entitlementIntent entitlementActionRequested explicitActionRequested
    positiveActionClauseSpans positiveSpans positiveSpans._f positiveClause clauseSpans
    entitlementGrammar
  rw [concurrencyTargetRead.same, entitlementDomainRead.same, entitlementChangeRead.same,
    entitlementChangeNegatedRead.same, actionInformationalRead.same, actionRequestCueRead.same,
    actionCoordinatedContinuationRead.same, actionClauseBoundaryRead.same]
  decide +kernel

theorem limitTurn_noRefund : refundIntent plainTables [] (stripSpace limitTurn) = false := by
  delta refundIntent refundActionRequested refundContinuationBlocked refundRequestedIn
    refundRequestedIn._f clauses refundDisqualified duplicateChargeRequested
  rw [billingIdRead.same, refundActionRead.same, refundActionNegatedRead.same,
    refundInformationalRead.same, duplicateChargeActionRead.same, actionRequestCueRead.same,
    actionClauseBoundaryRead.same]
  decide +kernel

theorem limitTurn_noKey : keyIntent plainTables [] (stripSpace limitTurn) = false := by
  delta keyIntent keyActionRequested explicitActionRequested positiveActionClauseSpans
    positiveSpans positiveSpans._f positiveClause clauseSpans keyGrammar
  rw [apiKeyRefRead.same, keyDomainRead.same, keyRevocationRead.same,
    keyRevocationNegatedRead.same, actionInformationalRead.same, actionRequestCueRead.same,
    actionCoordinatedContinuationRead.same, actionClauseBoundaryRead.same]
  decide +kernel

theorem limitTurn_named :
    (concurrencyTarget.search plainTables.isWord
      (continuationSurface [] (stripSpace limitTurn))).any (fun found => decide
        (targetLimit (continuationSurface [] (stripSpace limitTurn)) found = .ok 0)) = true := by
  rw [concurrencyTargetRead.same]
  decide +kernel

end Evaluation

theorem limitTurn_checksLimit : ChecksLimit plainTables [] (stripSpace limitTurn) 0 where
  asked := limitTurn_asked
  billed := by
    intro refund
    rw [limitTurn_noRefund] at refund
    cases refund
  keyed := by
    intro key
    rw [limitTurn_noKey] at key
    cases key
  named := by
    obtain ⟨found, searched, read⟩ := (Option.any_eq_true _ _).mp limitTurn_named
    exact ⟨found, searched, of_decide_eq_true read⟩

end SupportGuard
