import SupportGuard.Agent.ActionSpecs
import SupportGuard.Contracts.AdmissionGrounds
import SupportGuard.Foundation.TextToken

/-! # Questions about the state of an action

`agent/conversation_semantics.py`: which action of the conversation a question about a status,
a reason or a progress is about. The message names it by its resource, or it is the one that
was spoken of last. -/

namespace SupportGuard

open Foundation Fallible

namespace ConversationSemantics

/-! ## Patterns -/

namespace QueryPattern

def workflowReference : Regex :=
  .compile [
    r"(?:申请|审批|操作|处理|执行|退款|", r"退费|撤销|吊销|",
    r"配额|套餐|订阅|api\s*key|", r"转入人工|人工队列|",
    r"这个|这项|那项|它|",
    r"\bapproval\b|", r"\brefund\b|", r"\bwithdraw\b|", r"\brevoke\b|",
    r"\bthis\b|\bthat\b|\bit\b)"]

def terminalWord : List String :=
  [r"(?:拒绝|没通过|没有通过|未通过|失败|", r"没成功|没有成功|未成功|失效|过期|撤回|",
    r"没有执行|未执行|denied|", r"declined|", r"reject(?:ed)?|", r"fail(?:ed|ure)?|",
    r"stale|invalidated|", r"expired|withdrawn|", r"not executed)"]

def reasonWord : List String :=
  [r"(?:为什么|为何|原因|怎么回事|怎么会|", r"怎么就|why|reason)"]

def reasonTrigger : Regex :=
  .compile (reasonWord ++ [r".{0,32}"] ++ terminalWord ++ [r"|"] ++ terminalWord ++
    [r".{0,32}"] ++ reasonWord)

def bareRejectionReason : Regex :=
  .compile ([r"[\s，,。.!！？?]*", r"(?:(?:为什么|为何).{0,12}"] ++ terminalWord ++
    [r"|why\s+(?:(?:was|did|", r"is)\s+)?", r"(?:it\s+)?"] ++ terminalWord ++
    [r")", r".{0,4}[\s，,。.!！？?]*"])

def progress : Regex :=
  .compile [
    r"(?:进度|处理到哪|执行到哪|还要多久|", r"什么时候完成|",
    r"什么时候到账|正在执行|仍在处理|", r"后来怎么样|后续怎么样)",
    r"|\b(?:progress|", r"how long|", r"still processing|", r"in progress|",
    r"where is it now|", r"what happened next)\b"]

def continuity : Regex :=
  .compile [
    r"(?:还|仍然?|", r"现在).{0,8}(?:能|", r"可以).{0,8}继续.{0,16}",
    r"(?:查询|咨询|提问|问问题|查看|了解)",
    r"|(?:can|", r"may)\s+i\s+(?:still\s+)?",
    r"(?:ask|query|check|", r"view|", r"continue\s+(?:asking|", r"the\s+conversation))"]

def status : Regex :=
  .compile [
    r"(?:申请|审批|操作|处理|执行|退款|", r"退费|撤销|吊销|",
    r"配额|套餐|变更|这个|这项|那项|它)",
    r".{0,24}(?:状态|进度|结果|", r"怎么样了|如何了|到哪了|",
    r"完成了吗|成功了吗|生效了吗|到账了吗|通过了吗|",
    r"拒绝了|失败了|撤回了|执行了吗|后来呢|现在呢)",
    r"|(?:状态|进度|结果).{0,18}",
    r"(?:申请|审批|操作|处理|执行|退款|", r"撤销|变更)",
    r"|(?:转入人工|人工队列|", r"manual takeover).{0,18}",
    r"(?:什么意思|状态|怎么回事)",
    r"|\b(?:status|progress|", r"result|", r"was it executed|",
    r"did it execute|", r"was it approved|", r"what happened|",
    r"where does it stand|", r"how did it end)\b"]

def refund : Regex :=
  .compile [r"(?:退款|退费|\brefund\b)"]

def apiKeyRevocation : Regex :=
  .compile [
    r"(?:api\s*key|密钥|", r"凭证).{0,16}(?:撤销|吊销|禁用|", r"作废)",
    r"|(?:撤销|吊销|禁用|", r"作废).{0,16}(?:api\s*key|", r"密钥|凭证)",
    r"|\b(?:revoke|", r"disable).{0,12}(?:api\s*key|", r"key)\b"]

def entitlementChange : Regex :=
  .compile [
    r"(?:配额|并发|套餐|", r"订阅).{0,16}(?:调整|变更|申请|", r"审批|执行)",
    r"|(?:调整|", r"变更).{0,16}(?:配额|并发|套餐|", r"订阅)",
    r"|\b(?:quota|plan|", r"subscription|", r"concurrency).{0,16}",
    r"(?:change|adjust|", r"approval)\b"]

def statusHints : List (Regex × ProjectionStatus) :=
  [(.compile [r"(?:拒绝|没通过|没有通过|未通过|", r"\b(?:reject|denied|", r"declined))"], .rejected),
    (.compile [r"(?:撤回|\bwithdraw)"], .withdrawn),
    (.compile [r"(?:失效|过期|\bstale)"], .stale),
    (.compile [r"(?:核验|无法确认|verification)"], .verificationPending),
    (.compile [r"(?:失败|\bfailed?\b)"], .failed),
    (.compile [r"(?:已执行|执行完成|已完成|已生效|", r"已到账|\bexecuted\b|", r"\bcompleted\b)"],
      .executed),
    (.compile [r"(?:正在执行|\bexecuting\b)"], .executing),
    (.compile [r"(?:待审批|等待审批|\bpending\b)"], .pending)]

/-- The one pattern that minds the case of letters. -/
def identifier : Regex :=
  .compile [
    r"(?<![A-Za-z0-9_.:-])",
    r"([A-Za-z][A-Za-z0-9]*(?:[_:-][A-Za-z0-9]+)+)",
    r"(?![A-Za-z0-9_.:-])"]

end QueryPattern

/-! ## Resources -/

def isIdentifierCharacter (character : Char) : Bool :=
  [.range 'A' 'Z', .range 'a' 'z', .range '0' '9', .character '_', .character '.',
    .character ':', .character '-'].any (ClassItem.holds character)

/-- The neighbour of a reference: the end of the text, or no character of an identifier. -/
def isReferenceEdge (neighbour : Option Char) : Bool :=
  !neighbour.any isIdentifierCharacter

def isSeparator (character : Char) : Bool :=
  character = '_' || character = ':' || character = '-'

/-- `re.split(r"[_:-]", text, maxsplit=1)[0]`. -/
def resourceNamespace (text : List Char) : List Char :=
  text.takeWhile fun character => !isSeparator character

/-- Letters outside ASCII are in no class of a pattern that minds the case. -/
def asciiOnly (text : List Char) : List Char :=
  text.map fun character => if character.toNat < 128 then character else '\u0000'

def fixedNamespaces : List (List Char) :=
  ["bill".toList, "billing".toList, "invoice".toList, "key".toList, "apikey".toList,
    "subscription".toList, "sub".toList, "entitlement".toList]

def genericTokens : List (List Char) :=
  ["api_key".toList, "api-key".toList, "concurrency_limit_exceeded".toList]

section

-- What the interpreter knows of characters; the last one tells which letters `re.I` takes for
-- one another.
variable (tables : TextTables) (sameLetter : Char → Char → Bool)

/-- `contains_exact_resource_reference`. -/
def containsExactResourceReference (message : List Char) (resourceId : String) : Bool :=
  resourceId ≠ "" &&
    TextToken.find sameLetter isReferenceEdge isReferenceEdge resourceId.toList none message

/-- `_explicit_action_resource_references`. -/
def explicitActionResourceReferences (message : List Char)
    (projections : List ConversationActionStateV1) : List (List Char) :=
  let namespaces := (projections.filter fun item => item.resourceId.toList.any isSeparator).map
    (fun item => tables.casefold (resourceNamespace item.resourceId.toList)) ++ fixedNamespaces
  let identifiers := (QueryPattern.identifier.finditer tables.isWord (asciiOnly message) 0
    message.length).map fun found => textSlice message found.start found.stop
  (identifiers.filter fun identifier =>
    decide (tables.casefold identifier ∉ genericTokens) &&
      decide (tables.casefold (resourceNamespace identifier) ∈ namespaces)).dedup

/-! ## What is asked -/

inductive QueryKind
  | reason
  | progress
  | continuity
  | status
deriving DecidableEq

/-- `_action_query_kind`. -/
def actionQueryKind (text : List Char) (resourceReference hasRecentActionReferent : Bool) :
    Option QueryKind :=
  let workflowReference := resourceReference || searches tables QueryPattern.workflowReference text
  let reasonTrigger := searches tables QueryPattern.reasonTrigger text
  let bareRejectionReason := QueryPattern.bareRejectionReason.fullmatches tables.isWord text
  if reasonTrigger && (workflowReference || bareRejectionReason) then some .reason
  else if workflowReference && searches tables QueryPattern.progress text then some .progress
  else if (hasRecentActionReferent || workflowReference) &&
      searches tables QueryPattern.continuity text then some .continuity
  else if searches tables QueryPattern.status text then some .status
  else none

/-- `_requested_action_types`. -/
def requestedActionTypes (text : List Char) : List ActionType :=
  [(QueryPattern.refund, ActionType.refund),
    (QueryPattern.apiKeyRevocation, .apiKeyRevocation),
    (QueryPattern.entitlementChange, .entitlementChange)].filterMap fun (pattern, actionType) =>
      if searches tables pattern text then some actionType else none

/-- `_hinted_projection_statuses`: no hint, or one status. -/
def hintedProjectionStatuses (text : List Char) : List ProjectionStatus :=
  ((QueryPattern.statusHints.find? fun hint => searches tables hint.1 text).map Prod.snd).toList

/-! ## What is answered -/

/-- A choice that is offered; the reference of a credential is hidden. -/
structure ActionOption where
  actionType : ActionType
  resourceType : String
  projectionStatus : ProjectionStatus
  resourceReferenceHidden : Bool
  resourceId : Option String
deriving DecidableEq

inductive QueryResolution
  | unresolved (reasonCode : String) (requestedActionTypes : List String)
      (requestedResourceReferences : Option (List String))
  | ambiguous (candidateOptions : List ActionOption)
  | selected (approvalId : String)
deriving DecidableEq

structure ActionQuery where
  schemaVersion : String := "conversation-action-state-query.v1"
  resolution : QueryResolution
  queryKind : QueryKind
  grantsActionAuthority : Bool := false
deriving DecidableEq

/-- `sorted` of a set of texts. -/
def sortedTexts (texts : List String) : List String :=
  texts.insertionSort (· ≤ ·)

/-- `_unresolved_action_query`. -/
def unresolvedActionQuery (queryKind : QueryKind) (reasonCode : String)
    (requestedActionTypes : List ActionType)
    (requestedResourceReferences : Option (List (List Char)) := none) : ActionQuery where
  resolution := .unresolved reasonCode (sortedTexts (requestedActionTypes.map ActionType.text))
    (requestedResourceReferences.map fun references =>
      sortedTexts (references.map String.ofList))
  queryKind

/-- `_initial_action_candidates`: the candidates, or the answer without any. -/
def initialActionCandidates (resourceMatches : List ConversationActionStateV1)
    (explicitResourceReferences : List (List Char)) (requestedActionTypes : List ActionType)
    (recentActionApprovalId : Option String) (projections : List ConversationActionStateV1)
    (queryKind : QueryKind) : Except ActionQuery (List ConversationActionStateV1) :=
  if resourceMatches ≠ [] then
    let candidates :=
      if requestedActionTypes ≠ [] then
        resourceMatches.filter fun item => item.actionType ∈ requestedActionTypes
      else resourceMatches
    if candidates = [] then
      .error (unresolvedActionQuery queryKind "resource_action_type_mismatch"
        requestedActionTypes (some explicitResourceReferences))
    else .ok candidates
  else if explicitResourceReferences ≠ [] then
    .error (unresolvedActionQuery queryKind "resource_not_in_current_action_state"
      requestedActionTypes (some explicitResourceReferences))
  else match recentActionApprovalId.filter (· ≠ "") with
    | none =>
        .error (unresolvedActionQuery queryKind "action_referent_missing" requestedActionTypes)
    | some referent =>
        let referentMatches := projections.filter fun item => item.approvalId = referent
        if referentMatches = [] then
          .error (unresolvedActionQuery queryKind "action_referent_not_in_current_state"
            requestedActionTypes)
        else if requestedActionTypes ≠ [] ∧
            referentMatches.all fun item => item.actionType ∉ requestedActionTypes then
          .error (unresolvedActionQuery queryKind "action_referent_action_type_mismatch"
            requestedActionTypes)
        else
          .ok (referentMatches.filter fun item =>
            requestedActionTypes = [] || decide (item.actionType ∈ requestedActionTypes))

/-- Texts in the order of a tuple of them. -/
def tupleLe : List String → List String → Bool
  | [], _ => true
  | _ :: _, [] => false
  | left :: lefts, right :: rights =>
      left < right || (left = right && tupleLe lefts rights)

def optionOf (item : ConversationActionStateV1) : ActionOption where
  actionType := item.actionType
  resourceType := item.resourceType
  projectionStatus := item.projectionStatus
  resourceReferenceHidden := item.actionType = .apiKeyRevocation
  resourceId := if item.actionType = .apiKeyRevocation then none else some item.resourceId

def optionKey (item : ConversationActionStateV1) : List String :=
  [item.actionType.text, item.resourceType, item.resourceId, item.approvalId]

/-- `_ambiguous_action_options`. -/
def ambiguousActionOptions (candidates : List ConversationActionStateV1) : List ActionOption :=
  ((candidates.insertionSort fun left right => tupleLe (optionKey left) (optionKey right)).take
    5).map optionOf

/-- What a hint at a status leaves of several candidates. -/
def hintedCandidates (hinted : List ProjectionStatus)
    (candidates : List ConversationActionStateV1) : List ConversationActionStateV1 :=
  let statusCandidates := candidates.filter fun item => item.projectionStatus ∈ hinted
  if 1 < candidates.length ∧ hinted ≠ [] ∧ statusCandidates ≠ [] then statusCandidates
  else candidates

/-- The answer once the candidates are known. -/
def answerOf (queryKind : QueryKind) (candidates : List ConversationActionStateV1) :
    ActionQuery :=
  match candidates with
  | [item] => { resolution := .selected item.approvalId, queryKind }
  | _ => { resolution := .ambiguous (ambiguousActionOptions candidates), queryKind }

/-- The actions whose resource the text has exactly. -/
def resourceMatches (text : List Char) (projections : List ConversationActionStateV1) :
    List ConversationActionStateV1 :=
  projections.filter fun item => containsExactResourceReference sameLetter text item.resourceId

def hasReference (text : List Char) (projections : List ConversationActionStateV1) : Bool :=
  resourceMatches sameLetter text projections ≠ [] ||
    explicitActionResourceReferences tables text projections ≠ []

/-- The answer to a question of a kind. -/
def resolveKind (text : List Char) (projections : List ConversationActionStateV1)
    (recentActionApprovalId : Option String) (queryKind : QueryKind) : ActionQuery :=
  match initialActionCandidates (resourceMatches sameLetter text projections)
      (explicitActionResourceReferences tables text projections)
      (requestedActionTypes tables text) recentActionApprovalId projections queryKind with
  | .error unresolved => unresolved
  | .ok candidates =>
      answerOf queryKind (hintedCandidates (hintedProjectionStatuses tables text) candidates)

/-- `resolve_action_state_query` on a message and actions that have been read. -/
def resolveProjections (text : List Char) (projections : List ConversationActionStateV1)
    (recentActionApprovalId : Option String) : Option ActionQuery :=
  (actionQueryKind tables text (hasReference tables sameLetter text projections)
    recentActionApprovalId.isSome).map
      (resolveKind tables sameLetter text projections recentActionApprovalId)

/-- `" ".join(message.strip().split())`. -/
def messageText (message : List Char) : List Char :=
  normalized (stripSpace message)

variable {Action : Type} (modelValidate : Action → Except ProjectionRaise ConversationActionStateV1)

/-- `resolve_action_state_query`. -/
def resolveActionStateQuery (message : List Char) (currentActions : List Action)
    (recentActionApprovalId : Option String) : Except ProjectionRaise (Option ActionQuery) :=
  if messageText message = [] ∨ currentActions.isEmpty then .ok none
  else do
    let projections ← currentActions.mapM modelValidate
    .ok (resolveProjections tables sameLetter (messageText message) projections
      recentActionApprovalId)

end

/-! ## What a reference is -/

section

variable {tables : TextTables} {sameLetter : Char → Char → Bool} {text : List Char}

/-- The resource occurs in the text, whatever the case of its letters. -/
def Occurs (sameLetter : Char → Char → Bool) (resourceId : String) (text : List Char) : Prop :=
  TextToken.Stands sameLetter (fun _ => true) (fun _ => true) resourceId.toList text

theorem containsExactResourceReference_iff {resourceId : String} :
    containsExactResourceReference sameLetter text resourceId = true ↔
      resourceId ≠ "" ∧ TextToken.Stands sameLetter isReferenceEdge isReferenceEdge
        resourceId.toList text := by
  rw [containsExactResourceReference, Bool.and_eq_true, decide_eq_true_eq,
    TextToken.find_iff_stands]

theorem occurs_of_contains {resourceId : String}
    (contains : containsExactResourceReference sameLetter text resourceId = true) :
    Occurs sameLetter resourceId text :=
  (containsExactResourceReference_iff.mp contains).2.weaken (fun _ _ => rfl) (fun _ _ => rfl)

/-- Sentence punctuation, with its full-width forms. -/
def isSentencePunctuation (character : Char) : Bool :=
  character ∈ [',', '.', '?', '!', ';', ':', '，', '。', '？', '！', '；', '：', '、']

/-- The neighbour of a token: the end of the text, whitespace or sentence punctuation. -/
def isTokenEdge (neighbour : Option Char) : Bool :=
  neighbour.all fun character => isTextSpace character || isSentencePunctuation character

/-- The text has the resource of one of the actions as a token. -/
def NamesResource (sameLetter : Char → Char → Bool) (text : List Char)
    (projections : List ConversationActionStateV1) : Prop :=
  ∃ item ∈ projections, item.resourceId ≠ "" ∧
    TextToken.Stands sameLetter isTokenEdge isTokenEdge item.resourceId.toList text

/-! ## Where the answer comes from -/

variable {projections : List ConversationActionStateV1} {referent : Option String}

theorem actionQueryKind_of_reference {recent other : Bool} :
    actionQueryKind tables text true recent = actionQueryKind tables text true other := by
  simp only [actionQueryKind, Bool.true_or, Bool.or_true]

variable {queryKind : QueryKind} {references : List (List Char)} {types : List ActionType}

theorem initialActionCandidates_of_matches {resourceMatches : List ConversationActionStateV1}
    {other : Option String} (found : resourceMatches ≠ []) :
    initialActionCandidates resourceMatches references types referent projections queryKind =
      initialActionCandidates resourceMatches references types other projections queryKind := by
  simp only [initialActionCandidates, if_pos found]

theorem initialActionCandidates_subset {resourceMatches candidates : List ConversationActionStateV1}
    (found : resourceMatches ≠ [])
    (initial : initialActionCandidates resourceMatches references types referent projections
      queryKind = .ok candidates) : candidates ⊆ resourceMatches := by
  rw [initialActionCandidates, if_pos found] at initial
  dsimp only at initial
  have part : (if types ≠ [] then
      resourceMatches.filter fun item => item.actionType ∈ types
    else resourceMatches) ⊆ resourceMatches := by
    split
    · exact List.filter_sublist.subset
    · exact List.Subset.refl _
  generalize (if types ≠ [] then
      resourceMatches.filter fun item => item.actionType ∈ types
    else resourceMatches) = chosen at initial part
  by_cases none : chosen = []
  · rw [if_pos none] at initial
    cases initial
  · rw [if_neg none] at initial
    cases initial
    exact part

/-- Without candidates nothing is selected. -/
theorem initialActionCandidates_error {resourceMatches : List ConversationActionStateV1}
    {unresolved : ActionQuery}
    (initial : initialActionCandidates resourceMatches references types referent projections
      queryKind = .error unresolved) (approvalId : String) :
    unresolved.resolution ≠ .selected approvalId := by
  have refused {reason : String} {named : Option (List (List Char))}
      (same : Except.error (unresolvedActionQuery queryKind reason types named) =
        (Except.error unresolved : Except ActionQuery (List ConversationActionStateV1))) :
      unresolved.resolution ≠ .selected approvalId := by
    cases same
    intro selected
    cases selected
  unfold initialActionCandidates at initial
  split at initial
  · dsimp only at initial
    generalize (if types ≠ [] then
        resourceMatches.filter fun item => item.actionType ∈ types
      else resourceMatches) = chosen at initial
    by_cases none : chosen = []
    · rw [if_pos none] at initial
      exact refused initial
    · rw [if_neg none] at initial
      cases initial
  · split at initial
    · exact refused initial
    · split at initial
      · exact refused initial
      · dsimp only at initial
        split at initial
        · exact refused initial
        · split at initial
          · exact refused initial
          · cases initial

variable {candidates : List ConversationActionStateV1}

theorem initialActionCandidates_without_referent :
    initialActionCandidates [] references types none projections queryKind ≠ .ok candidates := by
  intro initial
  rw [initialActionCandidates, if_neg (not_not.mpr rfl)] at initial
  split at initial
  · cases initial
  · cases initial

theorem hintedCandidates_subset {hinted : List ProjectionStatus} :
    hintedCandidates hinted candidates ⊆ candidates := by
  dsimp only [hintedCandidates]
  split
  · exact List.filter_sublist.subset
  · exact List.Subset.refl _

variable {approvalId : String}

theorem answerOf_selected
    (selected : (answerOf queryKind candidates).resolution = .selected approvalId) :
    ∃ item ∈ candidates, item.approvalId = approvalId := by
  unfold answerOf at selected
  split at selected
  · rename_i item
    injection selected with same
    exact ⟨item, List.mem_singleton_self item, same⟩
  · cases selected

theorem resolveKind_selected
    (selected : (resolveKind tables sameLetter text projections referent queryKind).resolution =
      .selected approvalId) :
    ∃ candidates, initialActionCandidates (resourceMatches sameLetter text projections)
        (explicitActionResourceReferences tables text projections)
        (requestedActionTypes tables text) referent projections queryKind = .ok candidates ∧
      ∃ item ∈ candidates, item.approvalId = approvalId := by
  rw [resolveKind] at selected
  cases initial : initialActionCandidates (resourceMatches sameLetter text projections)
    (explicitActionResourceReferences tables text projections)
    (requestedActionTypes tables text) referent projections queryKind with
  | error unresolved =>
      rw [initial] at selected
      exact absurd selected (initialActionCandidates_error initial approvalId)
  | ok candidates =>
      rw [initial] at selected
      rcases answerOf_selected selected with ⟨item, chosen, same⟩
      exact ⟨candidates, rfl, item, hintedCandidates_subset chosen, same⟩

theorem resolveProjections_selected {answer : ActionQuery}
    (answered : resolveProjections tables sameLetter text projections referent = some answer)
    (selected : answer.resolution = .selected approvalId) :
    ∃ queryKind candidates,
      initialActionCandidates (resourceMatches sameLetter text projections)
        (explicitActionResourceReferences tables text projections)
        (requestedActionTypes tables text) referent projections queryKind = .ok candidates ∧
      ∃ item ∈ candidates, item.approvalId = approvalId := by
  rcases Option.map_eq_some_iff.mp answered with ⟨queryKind, _, rfl⟩
  exact ⟨queryKind, resolveKind_selected selected⟩

/-- Where the text has a resource exactly, the referent plays no part. -/
theorem resolveProjections_of_matches {other : Option String}
    (found : resourceMatches sameLetter text projections ≠ []) :
    resolveProjections tables sameLetter text projections other =
      resolveProjections tables sameLetter text projections referent := by
  have reference : hasReference tables sameLetter text projections = true := by
    rw [hasReference, decide_eq_true found, Bool.true_or]
  have same : resolveKind tables sameLetter text projections other =
      resolveKind tables sameLetter text projections referent := by
    funext queryKind
    rw [resolveKind, resolveKind, initialActionCandidates_of_matches found]
  rw [resolveProjections, resolveProjections, reference, same, actionQueryKind_of_reference]

theorem resolveProjections_iff {answer : ActionQuery}
    (answered : resolveProjections tables sameLetter text projections referent = some answer)
    (selected : answer.resolution = .selected approvalId) :
    (NamesResource sameLetter text projections →
      (∃ item ∈ projections, item.approvalId = approvalId ∧
        Occurs sameLetter item.resourceId text) ∧
      ∀ other, resolveProjections tables sameLetter text projections other =
        resolveProjections tables sameLetter text projections referent) ↔
    (NamesResource sameLetter text projections → ∃ item ∈ projections,
      containsExactResourceReference sameLetter text item.resourceId = true) := by
  constructor
  · intro answers named
    by_contra missed
    have unmatched : resourceMatches sameLetter text projections = [] := by
      apply List.filter_eq_nil_iff.mpr
      intro item member contains
      exact missed ⟨item, member, contains⟩
    have alone := ((answers named).2 none).trans answered
    rcases resolveProjections_selected alone selected with ⟨queryKind, candidates, initial, _⟩
    rw [unmatched] at initial
    exact initialActionCandidates_without_referent initial
  · intro found named
    rcases found named with ⟨resource, member, contains⟩
    have matching : resourceMatches sameLetter text projections ≠ [] :=
      List.ne_nil_of_mem (List.mem_filter.mpr ⟨member, contains⟩)
    constructor
    · rcases resolveProjections_selected answered selected with
        ⟨queryKind, candidates, initial, item, chosen, same⟩
      have inMatches := initialActionCandidates_subset matching initial chosen
      rcases List.mem_filter.mp inMatches with ⟨inProjections, exact_⟩
      exact ⟨item, inProjections, same, occurs_of_contains exact_⟩
    · intro other
      exact resolveProjections_of_matches matching

variable {Action : Type} {modelValidate : Action → Except ProjectionRaise ConversationActionStateV1}

theorem resolveActionStateQuery_eq {message : List Char} {currentActions : List Action}
    {answer : ActionQuery} (read : currentActions.mapM modelValidate = .ok projections)
    (answered : resolveActionStateQuery tables sameLetter modelValidate message currentActions
      referent = .ok (some answer)) (other : Option String) :
    resolveActionStateQuery tables sameLetter modelValidate message currentActions other =
      .ok (resolveProjections tables sameLetter (messageText message) projections other) := by
  unfold resolveActionStateQuery at answered ⊢
  split at answered
  · cases answered
  · rename_i present
    rw [if_neg present, read]
    rfl

/-- A question is answered about a resource that the message names, and not by the referent,
just when the message has one of the resources exactly. -/
theorem resolveActionStateQuery_iff {message : List Char} {currentActions : List Action}
    {answer : ActionQuery} {approvalId : String}
    (read : currentActions.mapM modelValidate = .ok projections)
    (answered : resolveActionStateQuery tables sameLetter modelValidate message currentActions
      referent = .ok (some answer))
    (selected : answer.resolution = .selected approvalId) :
    (NamesResource sameLetter (messageText message) projections →
      (∃ item ∈ projections, item.approvalId = approvalId ∧
        Occurs sameLetter item.resourceId (messageText message)) ∧
      ∀ other,
        resolveActionStateQuery tables sameLetter modelValidate message currentActions other =
        resolveActionStateQuery tables sameLetter modelValidate message currentActions
          referent) ↔
    (NamesResource sameLetter (messageText message) projections → ∃ item ∈ projections,
      containsExactResourceReference sameLetter (messageText message) item.resourceId = true) := by
  have same := resolveActionStateQuery_eq read answered
  have found : resolveProjections tables sameLetter (messageText message) projections referent =
      some answer :=
    Except.ok.inj ((same referent).symm.trans answered)
  simp only [same, Except.ok.injEq]
  exact resolveProjections_iff found selected

end

/-! Two actions, of which the message names the first. -/

def sameAscii (left right : Char) : Bool :=
  left.toLower = right.toLower

def pendingAction (approvalId resourceId : String) : ActionStateFields where
  approvalId
  originRunId := "run"
  originTurnId := "turn"
  actionType := .refund
  resourceType := "billing_record"
  resourceId
  resourceVersion := 1
  approvalStatus := .pending
  projectionStatus := .pending
  statusVersion := 1
  actionable := true
  allowedCustomerActions := [.withdraw]
  decisionClass := .none
  customerSafeReasonCode := customerSafeReasonCode .pending
  executionState := executionState .pending
  businessActionId := none
  createdAt := ⟨⟨63919670400000000, Instant.july2026_inRange⟩, none⟩
  updatedAt := ⟨⟨63919670400000000, Instant.july2026_inRange⟩, none⟩
  sourceEventId := none
  sourceEventHash := none

theorem pendingAction_valid (approvalId resourceId : String) :
    (pendingAction approvalId resourceId).refusal? = none := by
  rfl

def twoActions : List ActionStateFields :=
  [pendingAction "a1" "bill_1", pendingAction "a2" "bill_2"]

def twoProjections : List ConversationActionStateV1 :=
  [⟨pendingAction "a1" "bill_1", pendingAction_valid "a1" "bill_1"⟩,
    ⟨pendingAction "a2" "bill_2", pendingAction_valid "a2" "bill_2"⟩]

theorem twoActions_read : twoActions.mapM ActionStateFields.validate = .ok twoProjections := by
  rfl

theorem answer_of_any {outcome : Except ProjectionRaise (Option ActionQuery)}
    {approvalId : String}
    (holds : (outcome.toOption.any fun answer => answer.any fun query =>
      query.resolution = .selected approvalId) = true) :
    ∃ query, outcome = .ok (some query) ∧ query.resolution = .selected approvalId := by
  rcases ok_of_any holds with ⟨answer, returned, answered⟩
  rw [Option.any_eq_true] at answered
  rcases answered with ⟨query, same, selected⟩
  subst same
  exact ⟨query, returned, of_decide_eq_true selected⟩

def plainQuestion : List Char :=
  "why it fails bill_1".toList

def stopQuestion : List Char :=
  "why it fails bill_1.".toList

theorem twoAnswers :
    ((resolveActionStateQuery plainTables sameAscii ActionStateFields.validate plainQuestion
      twoActions (some "a2")).toOption.any fun answer => answer.any fun query =>
        query.resolution = .selected "a1") = true ∧
    ((resolveActionStateQuery plainTables sameAscii ActionStateFields.validate stopQuestion
      twoActions (some "a2")).toOption.any fun answer => answer.any fun query =>
        query.resolution = .selected "a2") = true := by
  decide +kernel

theorem resolveActionStateQuery_iff_named :
    ∃ answer, resolveActionStateQuery plainTables sameAscii ActionStateFields.validate
        plainQuestion twoActions (some "a2") = .ok (some answer) ∧
      ((NamesResource sameAscii (messageText plainQuestion) twoProjections →
        (∃ item ∈ twoProjections, item.approvalId = "a1" ∧
          Occurs sameAscii item.resourceId (messageText plainQuestion)) ∧
        ∀ other, resolveActionStateQuery plainTables sameAscii ActionStateFields.validate
            plainQuestion twoActions other =
          resolveActionStateQuery plainTables sameAscii ActionStateFields.validate
            plainQuestion twoActions (some "a2")) ↔
      (NamesResource sameAscii (messageText plainQuestion) twoProjections →
        ∃ item ∈ twoProjections, containsExactResourceReference sameAscii
          (messageText plainQuestion) item.resourceId = true)) := by
  rcases answer_of_any twoAnswers.1 with ⟨answer, answered, selected⟩
  exact ⟨answer, answered, resolveActionStateQuery_iff twoActions_read answered selected⟩

/-- With a full stop behind the reference the question is answered about the other action. -/
theorem resolveActionStateQuery_stop :
    ∃ answer, resolveActionStateQuery plainTables sameAscii ActionStateFields.validate
        stopQuestion twoActions (some "a2") = .ok (some answer) ∧
      answer.resolution = .selected "a2" ∧
      NamesResource sameAscii (messageText stopQuestion) twoProjections ∧
      ¬∃ item ∈ twoProjections, item.approvalId = "a2" ∧
        Occurs sameAscii item.resourceId (messageText stopQuestion) := by
  rcases answer_of_any twoAnswers.2 with ⟨answer, answered, selected⟩
  refine ⟨answer, answered, selected, ?_, ?_⟩
  · refine ⟨_, List.mem_cons_self, by decide, ?_⟩
    apply TextToken.find_iff_stands.mp
    decide +kernel
  · intro occurs
    rcases occurs with ⟨item, member, approval, stands⟩
    have found := TextToken.find_iff_stands.mpr stands
    have absent : ∀ item ∈ twoProjections, item.approvalId = "a2" →
        TextToken.find sameAscii (fun _ => true) (fun _ => true) item.resourceId.toList none
          (messageText stopQuestion) = false := by
      decide +kernel
    rw [absent item member approval] at found
    cases found

end ConversationSemantics

end SupportGuard
