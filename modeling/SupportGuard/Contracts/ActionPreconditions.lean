import SupportGuard.Foundation.Fallible
import SupportGuard.Foundation.Regex
import SupportGuard.Foundation.Sha256

/-! # Admission of high-risk actions

`contracts/action_preconditions.py`: an action that the plan asks for is admitted only when
messages of the customer ask for it and name its resource or its target. Texts are lists of
characters, and spans count characters. -/

namespace SupportGuard

open Foundation Fallible

inductive ActionType
  | refund
  | apiKeyRevocation
  | entitlementChange
deriving DecidableEq, Repr

def ActionType.ofText? (text : String) : Option ActionType :=
  if text = "refund" then some .refund
  else if text = "api_key_revocation" then some .apiKeyRevocation
  else if text = "entitlement_change" then some .entitlementChange
  else none

/-- What the interpreter knows of texts beside the characters themselves: `str.isalnum` of one
character, `str.casefold`, and `str` of a decoded value. -/
structure TextTables where
  isAlphanumeric : Char → Bool
  casefold : List Char → List Char
  str : Json → List Char

/-- `\w`. -/
def TextTables.isWord (tables : TextTables) (character : Char) : Bool :=
  tables.isAlphanumeric character || character = '_'

/-! ## Patterns -/

namespace AdmissionPattern

def billingIdPattern : String :=
  r"\bbill[-_][a-z0-9](?:[a-z0-9._:-]{0,61}[a-z0-9])?(?![A-Za-z0-9_-])"

def billingId : Regex :=
  .compile [billingIdPattern]

def apiKeyRef : Regex :=
  .compile [r"\bkey[-_][a-z0-9][a-z0-9._:-]{1,126}\b"]

def refundAction : Regex :=
  .compile [
    r"(?:帮我|请|我要|我想|申请|发起|给我|处理).{0,12}(?:退款|退费)",
    r"|(?:退款|退费)(?:吧|。|！|!|$)",
    r"|(?:please\s+)?(?:refund|reimburse)",
    r"(?:\s+me|\s+this|\s+the(?:\s+[a-z0-9_-]+)?|\s+bill[-_][a-z0-9._:-]+|[.!]?$)"]

def actionRequestCue : Regex :=
  .compile [
    r"(?:帮我|麻烦|我要|我想|我需要|我希望|",
    r"(?:^|[\s，,。；;！!])把|",
    r"(?:^|[\s，,。；;！!])请(?!问)|立即|继续(?:处理)?|",
    r"按.{0,12}(?:政策|流程|规则)|please|\bi\s+(?:want|need)\b)"]

def keyDomain : Regex :=
  .compile [r"(?:api\s*key|key\s*reference|密钥|凭证|\bkey[-_][a-z0-9][a-z0-9._:-]{1,126}\b)"]

def keyRevocation : Regex :=
  .compile [r"(?:撤销|禁用|作废|吊销|revoke|disable|invalidate)"]

def keyRevocationNegated : Regex :=
  .compile [
    r"(?:不要|无需|不需要|不想|不希望|不必|禁止|别|先别|先不|暂不|拒绝).{0,16}",
    r"(?:撤销|禁用|作废|吊销|revoke|disable|invalidate)",
    r"|(?:do\s+not|don['’]?t|no\s+need\s+to|must\s+not|should\s+not|never|",
    r"refuse\s+to).{0,24}(?:revoke|disable|invalidate)"]

def entitlementDomain : Regex :=
  .compile [r"(?:并发|配额|额度|上限|套餐|订阅|concurrency|quota|limit|plan|subscription)"]

def entitlementChange : Regex :=
  .compile [
    r"(?:提高|提升|调整|修改|改为|改成|设置|增加|扩容|raise|increase|change|set|",
    r"adjust|upgrade)"]

def entitlementChangeNegated : Regex :=
  .compile [
    r"(?:不要|无需|不需要|不想|不希望|不必|禁止|别|先别|先不|暂不|拒绝).{0,16}",
    r"(?:提高|提升|调整|修改|改为|改成|设置|增加|扩容|raise|increase|change|set|",
    r"adjust|upgrade)",
    r"|(?:do\s+not|don['’]?t|no\s+need\s+to|must\s+not|should\s+not|never|",
    r"refuse\s+to).{0,24}(?:raise|increase|change|set|adjust|upgrade)"]

def concurrencyTarget : Regex :=
  .compile [
    r"(?:(?:调整到|调整为|提升到|提高到|增加到|改为|改成|设置为|上限为|",
    r"target(?:\s+is)?|\bto)",
    r"|(?:目标\s*)?(?:并发|concurrency)(?:\s*(?:上限|limit))?\s*(?:是|为))",
    r"\s*[:：]?\s*(\d{1,6})\b"]

def rpmTarget : Regex :=
  .compile [
    r"(?:rpm|每分钟请求(?:数|上限)?).{0,12}",
    r"(?:调整到|调整为|提升到|提高到|增加到|改为|改成|设置为|上限为|to)",
    r"\s*[:：]?\s*(\d{1,7})\b",
    r"|(?:调整到|调整为|提升到|提高到|增加到|改为|改成|设置为)",
    r"\s*[:：]?\s*(\d{1,7})",
    r"\s*(?:rpm|每分钟请求)"]

def planTarget : Regex :=
  .compile [
    r"(?:套餐|plan).{0,12}(?:改为|改成|升级到|切换到|change\s+to|upgrade\s+to)",
    r"\s*[:：]?\s*([a-z][a-z0-9_-]{1,31})",
    r"|(?:改为|改成|升级到|切换到|change\s+to|upgrade\s+to)",
    r"\s*[:：]?\s*([a-z][a-z0-9_-]{1,31})\s*(?:套餐|plan)"]

def duplicateChargeAction : Regex :=
  .compile [
    r"(?:重复扣费|重复收费|duplicate\s+charge).{0,24}",
    r"(?:按.{0,6}政策处理|处理|退款|refund)"]

def duplicateBillingRelationZh : Regex :=
  .compile [
    r"(?P<duplicate>",
    billingIdPattern,
    r")\s*(?:是|为)\s*",
    r"(?P<original>",
    billingIdPattern,
    r")\s*的(?:一笔|一条)?(?:重复扣费|重复收费)"]

def duplicateBillingRelationEn : Regex :=
  .compile [
    r"(?P<duplicate>",
    billingIdPattern,
    r")\s+is\s+(?:a\s+)?duplicate(?:\s+charge)?\s+of\s+",
    r"(?P<original>",
    billingIdPattern,
    r")"]

def refundContextContinuation : Regex :=
  .compile [
    r"(?:如果|若|确认(?:是|为)?|这笔|该笔|这条|该条|它|就按|",
    r"\bif\b|\bif\s+confirmed\b|\bthis\s+(?:charge|bill)\b|\bthat\s+(?:charge|bill)\b)"]

def actionClauseBoundary : Regex :=
  .compile [r"[，,。；;！!？?\n]+|(?:但是|不过|然而|而是|随后|然后)|\b(?:but|however|instead|then)\b"]

def actionCoordinatedContinuation : Regex :=
  .compile [r"^(?:同时|并且|以及|还要|也要)|^(?:and|also)\b"]

def actionInformational : Regex :=
  .compile [
    r"(?:我想|想|希望|需要)?(?:知道|了解|询问|确认).{0,20}",
    r"(?:会有?什么|有何|是否会|会不会|可能有).{0,12}(?:影响|后果|风险)",
    r"|(?:撤销|禁用|作废|吊销|提高|提升|调整|修改|改为|改成|设置|增加|扩容)",
    r".{0,24}(?:会有?什么|有何|是否会|会不会|可能有).{0,12}(?:影响|后果|风险)",
    r"|(?:what|which).{0,16}(?:impact|effect|risk|consequence)",
    r"|(?:what\s+(?:happens|would\s+happen)|how\s+would).{0,40}",
    r"(?:revoke|disable|invalidate|raise|increase|change|set|adjust|upgrade)",
    r"|(?:revoke|disable|invalidate|raise|increase|change|set|adjust|upgrade)",
    r".{0,32}(?:what\s+(?:impact|effect)|how\s+would|would\s+.*(?:affect|impact))"]

def refundActionNegated : Regex :=
  .compile [
    r"(?:不要|不用|无需|不需要|不想|不希望|不必|禁止|别|暂不|先不|拒绝)",
    r".{0,24}(?:退款|退费)",
    r"|(?:do\s+not|don['’]?t|no\s+need\s+to|must\s+not|should\s+not)",
    r".{0,32}(?:refund|reimburse)",
    r"|\bno\s+(?:refund|reimbursement)\b"]

def refundInformational : Regex :=
  .compile [
    r"(?:只|仅)(?:想|需要|需)?(?:说明|解释|介绍|了解|查询|查看|咨询|知道)",
    r"|(?:请问|想了解|想知道|说明|解释|介绍|查询|查看|咨询)",
    r".{0,28}(?:退款|退费|重复扣费|重复收费)",
    r"|(?:如何|怎么|怎样|为什么|什么是).{0,24}(?:退款|退费|重复扣费|重复收费)",
    r"|(?:退款|退费|重复扣费|重复收费).{0,32}",
    r"(?:是什么|有哪些|如何|怎么|怎样|为什么|需要什么|什么条件|什么流程|吗|呢)",
    r"|(?:only|just)\s+(?:explain|describe|show|tell|check|review|understand)",
    r"|(?:explain|describe|what|why|how|whether|can\s+i|could\s+i)",
    r".{0,48}(?:refund|reimburse|duplicate\s+charge)",
    r"|(?:refund|reimburse|duplicate\s+charge).{0,48}",
    r"(?:policy|process|rules?|criteria|eligibility|steps?|status).{0,24}",
    r"(?:what|why|how|which|can|could|\?)"]

end AdmissionPattern

/-! ## Accepted messages -/

inductive AdmissionError
  | unhashableRole
  | noGroup
  | notAnInteger
  | invalidSpan
deriving DecidableEq

structure AcceptedMessage where
  messageId : List Char
  content : List Char
  contentHash : String
deriving DecidableEq

def contentHash (content : List Char) : String :=
  Sha256.hexDigest (JsonText.utf8 content)

def scopeHash (tenantId customerId : String) : String :=
  Sha256.hexDigest (JsonText.utf8 (JsonText.encodeAscii
    (.object [("customer_id", .string customerId), ("tenant_id", .string tenantId)])))

/-- A dictionary of `recent_conversation`. -/
abbrev ConversationItem := List (String × Json)

/-- `item.get("role") in {"customer", "user"}`; a list or a dictionary has no hash. -/
def fromCustomer (item : ConversationItem) : Except AdmissionError Bool :=
  match item.lookup "role" with
  | some (.string role) => return role = "customer" || role = "user"
  | some (.array _) | some (.object _) => throw .unhashableRole
  | _ => return false

section Admission

variable (tables : TextTables)

def itemContent (item : ConversationItem) : List Char :=
  stripSpace (tables.str ((item.lookup "content").getD (.string "")))

/-- The first of the two identities that is not empty, or one made of the place. -/
def itemMessageId (index : Nat) (item : ConversationItem) : List Char :=
  match ((item.lookup "message_id").filter Json.truthy).or
      ((item.lookup "id").filter Json.truthy) with
  | some identity => tables.str identity
  | none => "accepted-message-".toList ++ (toString index).toList

def acceptItem (currentMessageId : List Char) (index : Nat) (item : ConversationItem) :
    Except AdmissionError (Option AcceptedMessage) := do
  let customer ← fromCustomer item
  let content := itemContent tables item
  let messageId := itemMessageId tables index item
  if customer = false ∨ content = [] ∨ messageId = currentMessageId then return none
  else return some { messageId, content, contentHash := contentHash content }

def acceptItems (currentMessageId : List Char) :
    Nat → List ConversationItem → Except AdmissionError (List AcceptedMessage)
  | _, [] => return []
  | index, item :: later => do
      let first ← acceptItem tables currentMessageId index item
      let rest ← acceptItems currentMessageId (index + 1) later
      return first.toList ++ rest

def currentMessage (currentTurn currentMessageId : List Char) : AcceptedMessage :=
  let current := stripSpace currentTurn
  { messageId := currentMessageId, content := current, contentHash := contentHash current }

/-- `_accepted_messages` without the current turn, which comes last: five at most. -/
def precedingMessages (currentMessageId : List Char) (recent : List ConversationItem) :
    Except AdmissionError (List AcceptedMessage) := do
  let accepted ← acceptItems tables currentMessageId 0 recent
  return accepted.drop (accepted.length - 5)

/-! ## Clauses -/

abbrev Span := Nat × Nat

def searches (regex : Regex) (text : List Char) : Bool :=
  regex.found tables.isWord text

/-- `text.split()`. -/
def splitWords (text : List Char) : List (List Char) :=
  (text.splitOnP isTextSpace).filter (· ≠ [])

/-- `" ".join(text.split())`. -/
def normalized (text : List Char) : List Char :=
  List.intercalate [' '] (splitWords text)

def clauseSpans (content : List Char) : List Span :=
  let boundaries := AdmissionPattern.actionClauseBoundary.finditer tables.isWord content 0
    content.length
  let starts := 0 :: boundaries.map (·.stop)
  let stops := boundaries.map (·.start) ++ [content.length]
  (starts.zip stops).filter fun span => span.1 < span.2

/-- The patterns of an action that needs a domain, a verb and a request. -/
structure ActionGrammar where
  domain : Regex
  action : Regex
  negatedAction : Regex

def keyGrammar : ActionGrammar where
  domain := AdmissionPattern.keyDomain
  action := AdmissionPattern.keyRevocation
  negatedAction := AdmissionPattern.keyRevocationNegated

def entitlementGrammar : ActionGrammar where
  domain := AdmissionPattern.entitlementDomain
  action := AdmissionPattern.entitlementChange
  negatedAction := AdmissionPattern.entitlementChangeNegated

/-- Whether the clause authorizes the action, given that an earlier one has asked. -/
def positiveClause (grammar : ActionGrammar) (clause : List Char) (priorRequestCue : Bool) :
    Bool :=
  clause ≠ [] && !searches tables grammar.negatedAction clause &&
    !searches tables AdmissionPattern.actionInformational clause &&
    searches tables grammar.action clause &&
    (searches tables AdmissionPattern.actionRequestCue clause ||
      priorRequestCue && searches tables AdmissionPattern.actionCoordinatedContinuation clause)

def positiveSpans (grammar : ActionGrammar) (content : List Char) :
    Bool → List Span → List Span
  | _, [] => []
  | priorRequestCue, span :: later =>
      let clause := stripSpace (textSlice content span.1 span.2)
      let asks := clause ≠ [] && searches tables AdmissionPattern.actionRequestCue clause
      let rest := positiveSpans grammar content (priorRequestCue || asks) later
      if positiveClause tables grammar clause priorRequestCue then span :: rest else rest

/-- `_positive_action_clause_spans`. -/
def positiveActionClauseSpans (grammar : ActionGrammar) (domainContext : Bool)
    (content : List Char) : List Span :=
  let text := normalized content
  if text = [] ∨ (domainContext = false ∧ searches tables grammar.domain text = false) then []
  else positiveSpans tables grammar content false (clauseSpans tables content)

def explicitActionRequested (grammar : ActionGrammar) (domainContext : Bool)
    (content : List Char) : Bool :=
  positiveActionClauseSpans tables grammar domainContext content ≠ []

def keyActionRequested (domainContext : Bool) (content : List Char) : Bool :=
  explicitActionRequested tables keyGrammar domainContext content

def entitlementActionRequested (domainContext : Bool) (content : List Char) : Bool :=
  explicitActionRequested tables entitlementGrammar domainContext content

/-! ## Refund requests -/

def refundDisqualified (clause : List Char) : Bool :=
  searches tables AdmissionPattern.refundActionNegated clause ||
    searches tables AdmissionPattern.refundInformational clause

def duplicateChargeRequested (text : List Char) : Bool :=
  searches tables AdmissionPattern.duplicateChargeAction text &&
    searches tables AdmissionPattern.actionRequestCue text

/-- The loop over the clauses; with none that asks, the short form counts unless a clause has
ruled it out. -/
def refundRequestedIn (text : List Char) : Bool → List (List Char) → Bool
  | disqualified, [] => !disqualified && duplicateChargeRequested tables text
  | disqualified, rawClause :: later =>
      let clause := stripSpace rawClause
      if clause = [] then refundRequestedIn text disqualified later
      else if refundDisqualified tables clause then refundRequestedIn text true later
      else if searches tables AdmissionPattern.refundAction clause ∨
          duplicateChargeRequested tables clause then true
      else refundRequestedIn text disqualified later

def clauses (text : List Char) : List (List Char) :=
  AdmissionPattern.actionClauseBoundary.splitText tables.isWord text

def refundActionRequested (content : List Char) : Bool :=
  let text := normalized content
  text ≠ [] && refundRequestedIn tables text false (clauses tables text)

def refundContinuationBlocked (content : List Char) : Bool :=
  let text := normalized content
  text ≠ [] && (clauses tables text).any fun clause =>
    stripSpace clause ≠ [] && refundDisqualified tables clause

/-! ## Intents -/

/-- A domain that the message before gives, for a request of the last message. -/
def continues (continuation : Option ActionType) (context current : List Char) :
    ActionType → Bool
  | .refund => false
  | .apiKeyRevocation => continuation = some .apiKeyRevocation &&
      searches tables AdmissionPattern.keyDomain context && keyActionRequested tables true current
  | .entitlementChange => continuation = some .entitlementChange &&
      searches tables AdmissionPattern.entitlementDomain context &&
        entitlementActionRequested tables true current

def requestsAction (content : List Char) : ActionType → Bool
  | .refund => refundActionRequested tables content
  | .apiKeyRevocation => keyActionRequested tables false content
  | .entitlementChange => entitlementActionRequested tables false content

/-- `_action_intents` of messages that end with the current one. -/
def actionIntents (messages : List AcceptedMessage) (continuation : Option ActionType)
    (context current : List Char) : List ActionType :=
  [.refund, .apiKeyRevocation, .entitlementChange].filter fun action =>
    messages.any (fun message => requestsAction tables message.content action) ||
      continues tables continuation context current action

/-- `_safe_immediate_domain_continuation`. -/
def safeImmediateDomainContinuation (requestedAction : Option ActionType)
    (current previous : List Char) : Option ActionType :=
  match requestedAction with
  | some action =>
      if continues tables (some action) previous current action then some action else none
  | none => none

/-! ## Fields -/

/-- `AdmissionFieldSource`, whose schema asks for a positive end. -/
structure AdmissionFieldSource where
  fieldName : String
  messageId : List Char
  contentHash : String
  spanStart : Nat
  spanEnd : Nat
  spanEnd_pos : 0 < spanEnd
deriving DecidableEq

def fieldSource (fieldName : String) (message : AcceptedMessage) (span : Span) :
    Except AdmissionError AdmissionFieldSource :=
  if positive : 0 < span.2 then
    return {
      fieldName
      messageId := message.messageId
      contentHash := message.contentHash
      spanStart := span.1
      spanEnd := span.2
      spanEnd_pos := positive }
  else throw .invalidSpan

abbrev FieldMatch := List Char × AdmissionFieldSource

/-- The first of the groups that has taken part gives the value. -/
def fieldMatch (fieldName : String) (groups : List Nat) (message : AcceptedMessage)
    (found : RegexMatch) : Except AdmissionError FieldMatch :=
  match groups.findSome? found.span with
  | none => throw .noGroup
  | some span => do
      let source ← fieldSource fieldName message span
      return (textSlice message.content span.1 span.2, source)

abbrev AllowedSpans := List (List Char × List Span)

/-- `_action_field_spans`: fields come from clauses that neither negate the action nor ask
about it. -/
def actionFieldSpans (grammar : ActionGrammar) (domainContext : Bool)
    (messages : List AcceptedMessage) : AllowedSpans :=
  let neutral := fun text => !searches tables grammar.negatedAction text &&
    !searches tables AdmissionPattern.actionInformational text
  messages.map fun message =>
    let content := message.content
    let spans :=
      if explicitActionRequested tables grammar domainContext content then
        (clauseSpans tables content).filter fun span =>
          neutral (textSlice content span.1 span.2)
      else if neutral content then [(0, content.length)]
      else []
    (message.messageId, spans)

/-- A later message of the same identity takes the place of an earlier one. -/
def spansOf (allowed : Option AllowedSpans) (message : AcceptedMessage) : List Span :=
  match allowed with
  | none => [(0, message.content.length)]
  | some allowed => (allowed.reverse.lookup message.messageId).getD []

/-- `_matches`; the name of the field is known here already. -/
def fieldMatches (fieldName : String) (regex : Regex) (groups : List Nat)
    (allowed : Option AllowedSpans) (messages : List AcceptedMessage) :
    Except AdmissionError (List FieldMatch) := do
  let matched ← messages.mapM fun message => do
    let found := (spansOf allowed message).flatMap fun span =>
      regex.finditer tables.isWord message.content span.1 span.2
    found.mapM (fieldMatch fieldName groups message)
  return matched.flatten

/-- The first one of every key, in order. -/
def firstByKey {Entry Key : Type} [DecidableEq Key] (key : Entry → Key) :
    List Entry → List Entry
  | [] => []
  | entry :: later =>
      entry :: (firstByKey key later).filter fun other => key other ≠ key entry

/-- `_unique_matches`. -/
def uniqueMatches (normalize : Bool) (found : List FieldMatch) : List FieldMatch :=
  firstByKey (fun entry => if normalize then tables.casefold entry.1 else entry.1) found

structure DuplicateRelation where
  duplicate : FieldMatch
  original : List Char

def groupText (content : List Char) (found : RegexMatch) (index : Nat) :
    Except AdmissionError (List Char) :=
  match found.span index with
  | none => throw .noGroup
  | some span => return textSlice content span.1 span.2

def billingRelations (messages : List AcceptedMessage) :
    Except AdmissionError (List DuplicateRelation) := do
  let relations ← messages.mapM fun message => do
    let found := [AdmissionPattern.duplicateBillingRelationZh,
      AdmissionPattern.duplicateBillingRelationEn].flatMap fun regex =>
        regex.finditer tables.isWord message.content 0 message.content.length
    found.mapM fun relation => do
      let duplicate ← fieldMatch "billing_record_id" [1] message relation
      let original ← groupText message.content relation 2
      return { duplicate, original : DuplicateRelation }
  return relations.flatten

instance lawfulBEq_listChar : LawfulBEq (List Char) := inferInstance

/-- `_duplicate_relation_refund_target`; `references` are all the billing records named. -/
def duplicateRelationRefundTarget (references : List FieldMatch)
    (messages : List AcceptedMessage) : Except AdmissionError (Option FieldMatch) := do
  match ← billingRelations tables messages with
  | [relation] =>
      let named := [tables.casefold relation.duplicate.1, tables.casefold relation.original]
      let referenced := references.map fun reference => tables.casefold reference.1
      if (∀ name ∈ named, name ∈ referenced) ∧ ∀ name ∈ referenced, name ∈ named then
        return some relation.duplicate
      else return none
  | _ => return none

/-! ## The resolution -/

inductive AdmissionStatus
  | none
  | missing
  | admitted
  | mismatch
deriving DecidableEq, Repr

inductive AdmissionReason
  | actionIntentAmbiguous
  | noHighRiskAction
  | planOmitsExplicitAction
  | planWithoutCustomerAction
  | plannedActionMismatch
  | issueTypeMismatch
  | resourceRefAmbiguous
  | targetAmbiguous
  | plannedTargetMismatch
  | requiredActionFieldsMissing
  | actionRequestAdmitted
deriving DecidableEq

structure ActionAdmissionV2 where
  status : AdmissionStatus
  plannedAction : Option ActionType
  actionType : Option ActionType := none
  issueType : Option String
  missingFields : List String := []
  extractedArguments : List (String × Json) := []
  fieldSources : List AdmissionFieldSource := []
  sourceMessageIds : List (List Char)
  requestReason : Option (List Char)
  tenantId : String
  customerId : String
  scopeHash : String
  classificationVersion : String
  currentMessageId : List Char
  turnGroupId : String
  reasonCode : AdmissionReason
  clarificationQuestion : Option String := none
deriving DecidableEq

/-- The arguments of `resolve_action_admission_v2` beside the conversation. -/
structure AdmissionRequest where
  requestedAction : Option ActionType
  issueType : Option String
  tenantId : String
  customerId : String
  currentMessageId : List Char
  turnGroupId : String
  classificationVersion : String := "classification.v1"
  requestedConcurrencyLimit : Option Int := none
  continuationAction : Option ActionType := none

/-- The plan names an action, and the run continues that one. -/
def AdmissionRequest.continuesPlan (request : AdmissionRequest) : Bool :=
  request.continuationAction.isSome && request.continuationAction = request.requestedAction

/-- The fields that every admission of these messages has. -/
def admission (request : AdmissionRequest) (messages : List AcceptedMessage)
    (current : AcceptedMessage) (status : AdmissionStatus) (reasonCode : AdmissionReason) :
    ActionAdmissionV2 where
  status
  plannedAction := request.requestedAction
  issueType := request.issueType
  sourceMessageIds := messages.map (·.messageId)
  requestReason := if current.content = [] then none else some current.content
  tenantId := request.tenantId
  customerId := request.customerId
  scopeHash := scopeHash request.tenantId request.customerId
  classificationVersion := request.classificationVersion
  currentMessageId := request.currentMessageId
  turnGroupId := request.turnGroupId
  reasonCode

def issueTypeOf : ActionType → String
  | .refund => "billing_refund"
  | .apiKeyRevocation => "credential_security"
  | .entitlementChange => "entitlement_change"

def missingQuestion : ActionType → String
  | .refund => "请提供需要退款的账单 ID（Billing ID / 账单编号，例如 bill_...）。"
  | .apiKeyRevocation =>
      "请提供要撤销的 API Key 引用（Key Reference，例如 key_...）；不要发送完整密钥。"
  | .entitlementChange => "请提供具体并发上限目标值、RPM 上限或目标套餐；系统不会猜测目标值。"

/-- What the customer wants the subscription to become. -/
inductive EntitlementTarget
  | concurrencyLimit (value : Int)
  | rpmLimit (value : Int)
  | plan (name : List Char)
deriving DecidableEq

namespace EntitlementTarget

def changeType : EntitlementTarget → String
  | .plan _ => "plan_change"
  | _ => "quota_change"

def toJson : EntitlementTarget → Json
  | .concurrencyLimit value => .object [("concurrency_limit", .integer value)]
  | .rpmLimit value => .object [("rpm_limit", .integer value)]
  | .plan name => .object [("plan", .string (String.ofList name))]

def concurrency? : EntitlementTarget → Option Int
  | .concurrencyLimit value => some value
  | _ => none

end EntitlementTarget

/-- `int(value)`. -/
def readInteger (text : List Char) : Except AdmissionError Int :=
  match textInt? text with
  | some value => return value
  | none => throw .notAnInteger

def numericTargets (make : Int → EntitlementTarget) (found : List FieldMatch) :
    Except AdmissionError (List (EntitlementTarget × AdmissionFieldSource)) :=
  found.mapM fun entry => do return (make (← readInteger entry.1), entry.2)

/-- The targets that the messages name, the first source of each. -/
def entitlementTargets (allowed : AllowedSpans) (messages : List AcceptedMessage) :
    Except AdmissionError (List (EntitlementTarget × AdmissionFieldSource)) := do
  let concurrency ← fieldMatches tables "target.concurrency_limit"
    AdmissionPattern.concurrencyTarget [1] (some allowed) messages
  let concurrencyLimits ← numericTargets .concurrencyLimit
    (uniqueMatches tables false concurrency)
  let rpm ← fieldMatches tables "target.rpm_limit" AdmissionPattern.rpmTarget [1, 2]
    (some allowed) messages
  let rpmLimits ← numericTargets .rpmLimit (uniqueMatches tables false rpm)
  let plans ← fieldMatches tables "target.plan" AdmissionPattern.planTarget [1, 2]
    (some allowed) messages
  let planTargets := (uniqueMatches tables true plans).map fun entry =>
    (EntitlementTarget.plan entry.1, entry.2)
  return firstByKey (·.1) (concurrencyLimits ++ rpmLimits ++ planTargets)

/-- What the messages say about the fields of an action. -/
inductive FieldResolution
  | missing (field : String)
  | resolved (arguments : List (String × Json)) (source : AdmissionFieldSource)
  | mismatch (reason : AdmissionReason) (question : String)

def referenceArguments (field : String) (reference : FieldMatch) : FieldResolution :=
  .resolved [(field, .string (String.ofList reference.1))] reference.2

def refundFields (messages : List AcceptedMessage) : Except AdmissionError FieldResolution := do
  let found ← fieldMatches tables "billing_record_id" AdmissionPattern.billingId [0] none messages
  match uniqueMatches tables true found with
  | [] => return .missing "billing_record_id"
  | [reference] => return referenceArguments "billing_record_id" reference
  | references =>
      match ← duplicateRelationRefundTarget tables references messages with
      | some target => return referenceArguments "billing_record_id" target
      | none =>
          return .mismatch .resourceRefAmbiguous
            "检测到多个账单 ID，请明确本次只处理哪一个账单。"

def apiKeyFields (domainContext : Bool) (messages : List AcceptedMessage) :
    Except AdmissionError FieldResolution := do
  let allowed := actionFieldSpans tables keyGrammar domainContext messages
  let found ← fieldMatches tables "api_key_ref" AdmissionPattern.apiKeyRef [0] (some allowed)
    messages
  match uniqueMatches tables true found with
  | [] => return .missing "api_key_ref"
  | [reference] => return referenceArguments "api_key_ref" reference
  | _ =>
      return .mismatch .resourceRefAmbiguous
        "检测到多个 API Key 引用，请明确本次只撤销哪一个引用。"

def entitlementFields (requestedConcurrencyLimit : Option Int) (domainContext : Bool)
    (messages : List AcceptedMessage) : Except AdmissionError FieldResolution := do
  let allowed := actionFieldSpans tables entitlementGrammar domainContext messages
  match ← entitlementTargets tables allowed messages with
  | [] => return .missing "target"
  | [(target, source)] =>
      if requestedConcurrencyLimit.isSome ∧
          target.concurrency? ≠ requestedConcurrencyLimit then
        return .mismatch .plannedTargetMismatch
          "客户给出的并发目标与当前计划不一致，请重新确认目标值。"
      else
        return .resolved
          [("change_type", .string target.changeType), ("target", target.toJson)] source
  | _ =>
      return .mismatch .targetAmbiguous
        "检测到多个不同目标值，请明确本次只采用一个配额或套餐目标。"

def actionFields (request : AdmissionRequest) (trustedContinuation : Option ActionType)
    (context : List Char) (messages : List AcceptedMessage) (parsed : ActionType) :
    Except AdmissionError FieldResolution :=
  let domainContext := fun domain =>
    trustedContinuation = some parsed && searches tables domain context
  match parsed with
  | .refund => refundFields tables messages
  | .apiKeyRevocation => apiKeyFields tables (domainContext AdmissionPattern.keyDomain) messages
  | .entitlementChange =>
      entitlementFields tables request.requestedConcurrencyLimit
        (domainContext AdmissionPattern.entitlementDomain) messages

/-- The messages that the action and its fields may come from. -/
def consideredMessages (request : AdmissionRequest) (preceding : List AcceptedMessage)
    (current : AcceptedMessage) (currentIntents : List ActionType) :
    Except AdmissionError (List AcceptedMessage) := do
  let previous := preceding.drop (preceding.length - 1)
  let found ← fieldMatches tables "x" AdmissionPattern.billingId [0] none previous
  let contextualRefund := request.requestedAction = some .refund &&
    currentIntents = [.refund] &&
    !searches tables AdmissionPattern.billingId current.content &&
    searches tables AdmissionPattern.refundContextContinuation current.content &&
    (uniqueMatches tables true found).length = 1
  let currentBlocksContinuation := request.requestedAction = some .refund &&
    refundContinuationBlocked tables current.content
  if contextualRefund then return previous ++ [current]
  else if currentIntents ≠ [] ∨ request.continuesPlan = false ∨ currentBlocksContinuation then
    return [current]
  else return preceding ++ [current]

/-- `resolve_action_admission_v2`. -/
def resolveActionAdmissionV2 (currentTurn : List Char) (recent : List ConversationItem)
    (request : AdmissionRequest) : Except AdmissionError ActionAdmissionV2 := do
  let preceding ← precedingMessages tables request.currentMessageId recent
  let current := currentMessage currentTurn request.currentMessageId
  let context := ((preceding.getLast?).map (·.content)).getD []
  let trustedContinuation :=
    if request.continuesPlan then request.continuationAction
    else if context ≠ [] then
      safeImmediateDomainContinuation tables request.requestedAction current.content context
    else none
  let currentIntents :=
    actionIntents tables [current] trustedContinuation context current.content
  let messages ← consideredMessages tables request preceding current currentIntents
  let intents := actionIntents tables messages trustedContinuation context current.content
  let result := admission request messages current
  let mismatch := fun actionType reason question =>
    { result .mismatch reason with actionType, clarificationQuestion := some question }
  match intents, request.requestedAction with
  | _ :: _ :: _, _ =>
      return mismatch none .actionIntentAmbiguous
        "当前消息同时包含多种高风险操作，请一次只确认一种操作。"
  | [], none => return result .none .noHighRiskAction
  | [parsed], none =>
      return mismatch (some parsed) .planOmitsExplicitAction
        "我识别到高风险操作意图，但当前计划不一致；请明确要执行的操作。"
  | [], some requested =>
      return mismatch (some requested) .planWithoutCustomerAction
        "当前计划包含高风险操作，但客户消息未明确授权该操作；请明确确认。"
  | [parsed], some requested =>
      if parsed ≠ requested then
        return mismatch (some parsed) .plannedActionMismatch
          "客户请求与当前操作计划不一致，请重新确认要执行的操作。"
      else if request.issueType ≠ some (issueTypeOf parsed) then
        return mismatch (some parsed) .issueTypeMismatch
          "请求类型与操作类型不一致，请补充说明要处理的问题。"
      else
        let fields ← actionFields tables request trustedContinuation context messages parsed
        match fields with
        | .mismatch reason question => return mismatch (some parsed) reason question
        | .missing field =>
            return { result .missing .requiredActionFieldsMissing with
              actionType := some parsed
              missingFields := [field]
              clarificationQuestion := some (missingQuestion parsed) }
        | .resolved arguments source =>
            return { result .admitted .actionRequestAdmitted with
              actionType := some parsed
              extractedArguments := arguments
              fieldSources := [source] }

end Admission

end SupportGuard
