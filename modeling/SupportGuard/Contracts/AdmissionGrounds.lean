import SupportGuard.Contracts.PatternReadings

/-! # The grounds of an admission

Every resource and every target of an admitted action is read off a message of the customer,
and the other messages of the conversation are not heard. -/

namespace SupportGuard

open Foundation Fallible

section Grounds

variable {tables : TextTables}

/-! ## Accepted messages -/

/-- The message is one of the last five that the customer has sent before, those that are
empty or the current one left out. -/
structure Precedes (tables : TextTables) (currentMessageId : List Char)
    (recent : List ConversationItem) (message : AcceptedMessage) : Prop where
  sent : ∃ index item later, recent[index]? = some item ∧ fromCustomer item = .ok true ∧
    message.messageId = itemMessageId tables index item ∧
    message.content = itemContent tables item ∧
    acceptItems tables currentMessageId (index + 1) (recent.drop (index + 1)) = .ok later ∧
    later.length < 5
  hash : message.contentHash = contentHash message.content

variable {currentMessageId : List Char} {message : AcceptedMessage}

theorem acceptItem_eq_some {index : Nat} {item : ConversationItem}
    (accepted : acceptItem tables currentMessageId index item = .ok (some message)) :
    fromCustomer item = .ok true ∧ message.messageId = itemMessageId tables index item ∧
      message.content = itemContent tables item ∧
      message.contentHash = contentHash message.content := by
  simp only [acceptItem, bind_eq_ok_iff] at accepted
  obtain ⟨customer, heard, accepted⟩ := accepted
  split at accepted
  · cases accepted
  · next taken =>
    cases accepted
    have customer_eq : customer = true := by
      simpa using fun no => taken (.inl no)
    exact ⟨customer_eq ▸ heard, rfl, rfl, rfl⟩

/-- The induction is on the conversation from the place on that is read next. -/
theorem acceptItems_last {recent items : List ConversationItem} {index : Nat}
    {accepted : List AcceptedMessage}
    (read : acceptItems tables currentMessageId index items = .ok accepted)
    (rest : recent.drop index = items) (member : message ∈ accepted.drop (accepted.length - 5)) :
    Precedes tables currentMessageId recent message := by
  induction items generalizing index accepted with
  | nil =>
      cases read
      exact absurd member (by simp)
  | cons item later induction =>
      simp only [acceptItems, bind_eq_ok_iff] at read
      obtain ⟨first, taken, others, laterRead, accepted_eq⟩ := read
      cases accepted_eq
      have there : recent[index]? = some item := by
        rw [← List.head?_drop, rest]
        rfl
      have rest' : recent.drop (index + 1) = later := by
        rw [← List.tail_drop, rest]
        rfl
      cases first with
      | none => exact induction laterRead rest' member
      | some first =>
          simp only [Option.toList_some, List.singleton_append, List.length_cons] at member
          by_cases five : others.length < 5
          · rw [Nat.sub_eq_zero_of_le (by omega), List.drop_zero, List.mem_cons] at member
            obtain same | old := member
            · subst same
              obtain ⟨heard, identity, content, hash⟩ := acceptItem_eq_some taken
              refine ⟨⟨index, item, others, there, heard, identity, content, ?_, five⟩, hash⟩
              rw [rest']
              exact laterRead
            · apply induction laterRead rest'
              rwa [Nat.sub_eq_zero_of_le (by omega), List.drop_zero]
          · have shift : others.length + 1 - 5 = (others.length - 5) + 1 := by omega
            rw [shift, List.drop_succ_cons] at member
            exact induction laterRead rest' member

theorem precedingMessages_precede {recent : List ConversationItem}
    {preceding : List AcceptedMessage}
    (read : precedingMessages tables currentMessageId recent = .ok preceding) :
    ∀ message ∈ preceding, Precedes tables currentMessageId recent message := by
  simp only [precedingMessages, bind_eq_ok_iff] at read
  obtain ⟨accepted, acceptedRead, preceding_eq⟩ := read
  cases preceding_eq
  intro message member
  exact acceptItems_last acceptedRead List.drop_zero member

/-! ## Fields -/

/-- The text stands in one of the messages where the source says. -/
def GroundedIn (messages : List AcceptedMessage) (text : List Char)
    (source : AdmissionFieldSource) : Prop :=
  ∃ message ∈ messages, source.messageId = message.messageId ∧
    source.contentHash = message.contentHash ∧
    text = textSlice message.content source.spanStart source.spanEnd

theorem fieldSource_eq_ok {fieldName : String} {span : Span} {source : AdmissionFieldSource}
    (made : fieldSource fieldName message span = .ok source) :
    source.messageId = message.messageId ∧ source.contentHash = message.contentHash ∧
      source.spanStart = span.1 ∧ source.spanEnd = span.2 := by
  unfold fieldSource at made
  split at made
  · cases made
    exact ⟨rfl, rfl, rfl, rfl⟩
  · cases made

variable {messages : List AcceptedMessage}

theorem fieldMatch_grounded {fieldName : String} {groups : List Nat} {found : RegexMatch}
    {entry : FieldMatch} (member : message ∈ messages)
    (matched : fieldMatch fieldName groups message found = .ok entry) :
    GroundedIn messages entry.1 entry.2 := by
  unfold fieldMatch at matched
  split at matched
  · cases matched
  · rw [bind_eq_ok_iff] at matched
    obtain ⟨source, made, entry_eq⟩ := matched
    cases entry_eq
    obtain ⟨identity, hash, starts, ends⟩ := fieldSource_eq_ok made
    exact ⟨message, member, identity, hash, by rw [starts, ends]⟩

theorem fieldMatches_grounded {fieldName : String} {regex : Regex} {groups : List Nat}
    {allowed : Option AllowedSpans} {found : List FieldMatch}
    (matched : fieldMatches tables fieldName regex groups allowed messages = .ok found) :
    ∀ entry ∈ found, GroundedIn messages entry.1 entry.2 := by
  simp only [fieldMatches, bind_eq_ok_iff] at matched
  obtain ⟨all, mapped, found_eq⟩ := matched
  cases found_eq
  intro entry member
  obtain ⟨some, someMember, inside⟩ := List.mem_flatten.1 member
  obtain ⟨message, messageMember, mappedMessage⟩ := mem_of_mapM mapped someMember
  obtain ⟨place, _, matchedPlace⟩ := mem_of_mapM mappedMessage inside
  exact fieldMatch_grounded messageMember matchedPlace

theorem mem_of_mem_firstByKey {Entry Key : Type} [DecidableEq Key] {key : Entry → Key}
    {entry : Entry} : ∀ {entries : List Entry}, entry ∈ firstByKey key entries → entry ∈ entries
  | first :: later, member => by
      rw [firstByKey, List.mem_cons] at member
      obtain same | rest := member
      · exact same ▸ List.mem_cons_self
      · exact List.mem_cons_of_mem _ (mem_of_mem_firstByKey (List.mem_filter.1 rest).1)

theorem exists_mem_firstByKey {Entry Key : Type} [DecidableEq Key] (key : Entry → Key)
    {entry : Entry} :
    ∀ {entries : List Entry}, entry ∈ entries →
      ∃ kept ∈ firstByKey key entries, key kept = key entry
  | first :: later, member => by
      rw [firstByKey]
      by_cases same : key entry = key first
      · exact ⟨first, List.mem_cons_self, same.symm⟩
      · rcases List.mem_cons.mp member with here | rest
        · exact absurd (congrArg key here) same
        · rcases exists_mem_firstByKey key rest with ⟨kept, among, equal⟩
          have other : key kept ≠ key first := fun clash => same (equal.symm.trans clash)
          exact ⟨kept, List.mem_cons_of_mem _
            (List.mem_filter.mpr ⟨among, decide_eq_true other⟩), equal⟩

/-- Each key is kept. -/
theorem firstByKey_key_iff {Entry Key : Type} [DecidableEq Key] (key : Entry → Key)
    {entries : List Entry} {wanted : Key} :
    (∃ entry ∈ firstByKey key entries, key entry = wanted) ↔
      ∃ entry ∈ entries, key entry = wanted := by
  constructor
  · intro kept
    rcases kept with ⟨entry, member, same⟩
    exact ⟨entry, mem_of_mem_firstByKey member, same⟩
  · intro present
    rcases present with ⟨entry, member, same⟩
    rcases exists_mem_firstByKey key member with ⟨kept, among, equal⟩
    exact ⟨kept, among, equal.trans same⟩

theorem uniqueMatches_grounded {normalize : Bool} {found : List FieldMatch}
    (grounded : ∀ entry ∈ found, GroundedIn messages entry.1 entry.2) :
    ∀ entry ∈ uniqueMatches tables normalize found, GroundedIn messages entry.1 entry.2 :=
  fun entry member => grounded entry (mem_of_mem_firstByKey member)

theorem duplicateRelationRefundTarget_grounded {references : List FieldMatch} {target : FieldMatch}
    (resolved : duplicateRelationRefundTarget tables references messages = .ok (some target)) :
    GroundedIn messages target.1 target.2 := by
  simp only [duplicateRelationRefundTarget, bind_eq_ok_iff] at resolved
  obtain ⟨relations, related, resolved⟩ := resolved
  split at resolved
  · next relation =>
    split at resolved
    · cases resolved
      simp only [billingRelations, bind_eq_ok_iff] at related
      obtain ⟨all, mapped, relations_eq⟩ := related
      have member : relation ∈ all.flatten := by
        rw [Except.ok.inj relations_eq]
        exact List.mem_singleton_self relation
      obtain ⟨some, someMember, inside⟩ := List.mem_flatten.1 member
      obtain ⟨message, messageMember, mappedMessage⟩ := mem_of_mapM mapped someMember
      obtain ⟨place, _, matchedPlace⟩ := mem_of_mapM mappedMessage inside
      simp only [bind_eq_ok_iff] at matchedPlace
      obtain ⟨duplicate, matched, original, _, relation_eq⟩ := matchedPlace
      cases relation_eq
      exact fieldMatch_grounded messageMember matched
    · cases resolved
  · cases resolved

/-! ## Arguments -/

/-- The arguments name the text, or the number that it is. -/
inductive ArgumentsFrom (text : List Char) : List (String × Json) → Prop
  | billingRecord :
      ArgumentsFrom text [("billing_record_id", .string (String.ofList text))]
  | apiKey : ArgumentsFrom text [("api_key_ref", .string (String.ofList text))]
  | concurrencyLimit {value : Int} (read : textInt? text = some value) :
      ArgumentsFrom text [("change_type", .string "quota_change"),
        ("target", .object [("concurrency_limit", .integer value)])]
  | rpmLimit {value : Int} (read : textInt? text = some value) :
      ArgumentsFrom text [("change_type", .string "quota_change"),
        ("target", .object [("rpm_limit", .integer value)])]
  | plan : ArgumentsFrom text [("change_type", .string "plan_change"),
      ("target", .object [("plan", .string (String.ofList text))])]

/-- What is resolved has its grounds in the messages. -/
def FieldResolution.Grounded (messages : List AcceptedMessage) : FieldResolution → Prop
  | .resolved arguments source =>
      ∃ text, GroundedIn messages text source ∧ ArgumentsFrom text arguments
  | .missing _ => True
  | .mismatch _ _ => True

variable {fields : FieldResolution}

theorem refundFields_grounded (resolved : refundFields tables messages = .ok fields) :
    fields.Grounded messages := by
  simp only [refundFields, bind_eq_ok_iff] at resolved
  obtain ⟨found, matched, resolved⟩ := resolved
  have grounded : ∀ entry ∈ uniqueMatches tables true found, GroundedIn messages entry.1 entry.2 :=
    uniqueMatches_grounded (fieldMatches_grounded matched)
  split at resolved
  · cases resolved
    trivial
  · next reference unique =>
    cases resolved
    rw [unique] at grounded
    exact ⟨reference.1, grounded reference List.mem_cons_self, .billingRecord⟩
  · rw [bind_eq_ok_iff] at resolved
    obtain ⟨target, targeted, resolved⟩ := resolved
    cases target with
    | none =>
        cases resolved
        trivial
    | some target =>
        cases resolved
        exact ⟨target.1, duplicateRelationRefundTarget_grounded targeted, .billingRecord⟩

theorem apiKeyFields_grounded {domainContext : Bool}
    (resolved : apiKeyFields tables domainContext messages = .ok fields) :
    fields.Grounded messages := by
  simp only [apiKeyFields, bind_eq_ok_iff] at resolved
  obtain ⟨found, matched, resolved⟩ := resolved
  have grounded : ∀ entry ∈ uniqueMatches tables true found, GroundedIn messages entry.1 entry.2 :=
    uniqueMatches_grounded (fieldMatches_grounded matched)
  split at resolved
  · cases resolved
    trivial
  · next reference unique =>
    cases resolved
    rw [unique] at grounded
    exact ⟨reference.1, grounded reference List.mem_cons_self, .apiKey⟩
  · cases resolved
    trivial

/-- The text that a target was read from. -/
inductive TargetFrom (text : List Char) : EntitlementTarget → Prop
  | concurrencyLimit {value : Int} (read : textInt? text = some value) :
      TargetFrom text (.concurrencyLimit value)
  | rpmLimit {value : Int} (read : textInt? text = some value) : TargetFrom text (.rpmLimit value)
  | plan : TargetFrom text (.plan text)

theorem TargetFrom.arguments {text : List Char} {target : EntitlementTarget}
    (from_ : TargetFrom text target) :
    ArgumentsFrom text [("change_type", .string target.changeType), ("target", target.toJson)] := by
  cases from_ with
  | concurrencyLimit read => exact .concurrencyLimit read
  | rpmLimit read => exact .rpmLimit read
  | plan => exact .plan

theorem readInteger_eq_ok {text : List Char} {value : Int}
    (read : readInteger text = .ok value) : textInt? text = some value := by
  unfold readInteger at read
  split at read
  · next found =>
    cases read
    exact found
  · cases read

/-- Numbers that are read off grounded texts are grounded. -/
theorem numericTargets_grounded {make : Int → EntitlementTarget} {found : List FieldMatch}
    {targets : List (EntitlementTarget × AdmissionFieldSource)}
    (makes : ∀ text value, textInt? text = some value → TargetFrom text (make value))
    (grounded : ∀ entry ∈ found, GroundedIn messages entry.1 entry.2)
    (read : numericTargets make found = .ok targets) :
    ∀ entry ∈ targets, ∃ text, GroundedIn messages text entry.2 ∧ TargetFrom text entry.1 := by
  intro entry member
  obtain ⟨place, placeMember, readPlace⟩ := mem_of_mapM read member
  simp only [bind_eq_ok_iff] at readPlace
  obtain ⟨value, readValue, entry_eq⟩ := readPlace
  cases entry_eq
  exact ⟨place.1, grounded place placeMember, makes place.1 value (readInteger_eq_ok readValue)⟩

theorem entitlementTargets_grounded {allowed : AllowedSpans}
    {targets : List (EntitlementTarget × AdmissionFieldSource)}
    (resolved : entitlementTargets tables allowed messages = .ok targets) :
    ∀ entry ∈ targets, ∃ text, GroundedIn messages text entry.2 ∧ TargetFrom text entry.1 := by
  simp only [entitlementTargets, bind_eq_ok_iff] at resolved
  obtain ⟨concurrency, concurrencyFound, concurrencyLimits, concurrencyRead, rpm, rpmFound,
    rpmLimits, rpmRead, plans, plansFound, targets_eq⟩ := resolved
  cases targets_eq
  intro entry member
  rw [List.append_assoc] at member
  obtain first | later := List.mem_append.1 (mem_of_mem_firstByKey member)
  · exact numericTargets_grounded (fun text value => .concurrencyLimit)
      (uniqueMatches_grounded (fieldMatches_grounded concurrencyFound)) concurrencyRead entry first
  obtain second | third := List.mem_append.1 later
  · exact numericTargets_grounded (fun text value => .rpmLimit)
      (uniqueMatches_grounded (fieldMatches_grounded rpmFound)) rpmRead entry second
  · obtain ⟨place, placeMember, entry_eq⟩ := List.mem_map.1 third
    subst entry_eq
    have grounded := uniqueMatches_grounded (fieldMatches_grounded plansFound) place placeMember
    exact ⟨place.1, grounded, .plan⟩

theorem entitlementFields_grounded {requestedConcurrencyLimit : Option Int} {domainContext : Bool}
    (resolved : entitlementFields tables requestedConcurrencyLimit domainContext messages =
      .ok fields) : fields.Grounded messages := by
  simp only [entitlementFields, bind_eq_ok_iff] at resolved
  obtain ⟨targets, targeted, resolved⟩ := resolved
  have grounded := entitlementTargets_grounded targeted
  split at resolved
  · cases resolved
    trivial
  · next target source =>
    split at resolved
    · cases resolved
      trivial
    · cases resolved
      obtain ⟨text, found, from_⟩ := grounded (target, source) List.mem_cons_self
      exact ⟨text, found, from_.arguments⟩
  · cases resolved
    trivial

theorem actionFields_grounded {request : AdmissionRequest} {trustedContinuation : Option ActionType}
    {context : List Char} {parsed : ActionType}
    (resolved : actionFields tables request trustedContinuation context messages parsed =
      .ok fields) : fields.Grounded messages := by
  cases parsed with
  | refund => exact refundFields_grounded resolved
  | apiKeyRevocation => exact apiKeyFields_grounded resolved
  | entitlementChange => exact entitlementFields_grounded resolved

/-! ## The resolution -/

theorem consideredMessages_subset {request : AdmissionRequest}
    {preceding messages : List AcceptedMessage} {current : AcceptedMessage}
    {currentIntents : List ActionType}
    (considered : consideredMessages tables request preceding current currentIntents =
      .ok messages) :
    ∀ message ∈ messages, message ∈ preceding ∨ message = current := by
  simp only [consideredMessages, bind_eq_ok_iff] at considered
  obtain ⟨found, _, considered⟩ := considered
  intro message member
  split at considered
  · cases considered
    obtain before | last := List.mem_append.1 member
    · exact .inl (List.mem_of_mem_drop before)
    · exact .inr (List.mem_singleton.1 last)
  · split at considered
    · cases considered
      exact .inr (List.mem_singleton.1 member)
    · cases considered
      obtain before | last := List.mem_append.1 member
      · exact .inl before
      · exact .inr (List.mem_singleton.1 last)

/-- The text stands where the source says, in a message that the admission names: the current
turn, or one of the last five messages of the customer before it. -/
def GroundedInConversation (tables : TextTables) (currentTurn : List Char)
    (recent : List ConversationItem) (currentMessageId : List Char)
    (result : ActionAdmissionV2) (text : List Char) (source : AdmissionFieldSource) : Prop :=
  ∃ message : AcceptedMessage,
    (message = currentMessage currentTurn currentMessageId ∨
      Precedes tables currentMessageId recent message) ∧
    message.messageId ∈ result.sourceMessageIds ∧ source.messageId = message.messageId ∧
    source.contentHash = contentHash message.content ∧
    text = textSlice message.content source.spanStart source.spanEnd

theorem resolveActionAdmissionV2_admitted {currentTurn : List Char}
    {recent : List ConversationItem} {request : AdmissionRequest} {result : ActionAdmissionV2}
    (resolved : resolveActionAdmissionV2 tables currentTurn recent request = .ok result)
    (admitted : result.status = .admitted) :
    ∃ text source, result.fieldSources = [source] ∧
      GroundedInConversation tables currentTurn recent request.currentMessageId result text
        source ∧
      ArgumentsFrom text result.extractedArguments := by
  simp only [resolveActionAdmissionV2, bind_eq_ok_iff] at resolved
  obtain ⟨preceding, read, messages, considered, resolved⟩ := resolved
  split at resolved
  · cases resolved
    cases admitted
  · cases resolved
    cases admitted
  · cases resolved
    cases admitted
  · cases resolved
    cases admitted
  · next parsed requested _ _ =>
    split at resolved
    · cases resolved
      cases admitted
    split at resolved
    · cases resolved
      cases admitted
    rw [bind_eq_ok_iff] at resolved
    obtain ⟨fields, extracted, resolved⟩ := resolved
    have grounded := actionFields_grounded extracted
    cases fields with
    | missing field =>
        cases resolved
        cases admitted
    | mismatch reason question =>
        cases resolved
        cases admitted
    | resolved arguments source =>
        cases resolved
        obtain ⟨text, ⟨message, member, identity, hash, text_eq⟩, from_⟩ := grounded
        refine ⟨text, source, rfl, ⟨message, ?_, ?_, identity, ?_, text_eq⟩, from_⟩
        · obtain before | last := consideredMessages_subset considered message member
          · exact .inr (precedingMessages_precede read message before)
          · exact .inl last
        · exact List.mem_map_of_mem member
        · rw [hash]
          obtain before | last := consideredMessages_subset considered message member
          · exact (precedingMessages_precede read message before).hash
          · rw [last]
            rfl

/-- Two items that are the same, or are both of someone else than the customer. -/
def SameToCustomer (item other : ConversationItem) : Prop :=
  item = other ∨ fromCustomer item = .ok false ∧ fromCustomer other = .ok false

theorem acceptItem_congr {index : Nat} {item other : ConversationItem}
    (same : SameToCustomer item other) :
    acceptItem tables currentMessageId index item =
      acceptItem tables currentMessageId index other := by
  obtain equal | ⟨first, second⟩ := same
  · rw [equal]
  · simp [acceptItem, first, second, bind, Except.bind]

theorem acceptItems_congr {recent other : List ConversationItem}
    (same : List.Forall₂ SameToCustomer recent other) (index : Nat) :
    acceptItems tables currentMessageId index recent =
      acceptItems tables currentMessageId index other := by
  induction same generalizing index with
  | nil => rfl
  | cons first _ induction =>
      simp only [acceptItems]
      rw [acceptItem_congr first, induction]

/-- Only the customer is heard. -/
theorem resolveActionAdmissionV2_congr {currentTurn : List Char}
    {recent other : List ConversationItem} (request : AdmissionRequest)
    (same : List.Forall₂ SameToCustomer recent other) :
    resolveActionAdmissionV2 tables currentTurn recent request =
      resolveActionAdmissionV2 tables currentTurn other request := by
  simp only [resolveActionAdmissionV2, precedingMessages, acceptItems_congr same]

theorem resolveActionAdmissionV2_grounded (tables : TextTables) (currentTurn : List Char)
    (recent : List ConversationItem) (request : AdmissionRequest) :
    (∀ result, resolveActionAdmissionV2 tables currentTurn recent request = .ok result →
      result.status = .admitted →
      ∃ text source, result.fieldSources = [source] ∧
        GroundedInConversation tables currentTurn recent request.currentMessageId result text
          source ∧
        ArgumentsFrom text result.extractedArguments) ∧
    ∀ other, List.Forall₂ SameToCustomer recent other →
      resolveActionAdmissionV2 tables currentTurn other request =
        resolveActionAdmissionV2 tables currentTurn recent request := by
  constructor
  · intro result resolved admitted
    exact resolveActionAdmissionV2_admitted resolved admitted
  · intro other same
    exact (resolveActionAdmissionV2_congr request same).symm

end Grounds

/-- The tables on ASCII letters and the common Chinese characters, with texts as they are. -/
def plainTables : TextTables where
  isAlphanumeric character := character.isAlphanum ||
    (0x4E00 ≤ character.toNat && character.toNat ≤ 0x9FFF)
  casefold := List.map Char.toLower
  str value := value.toStr.toList

def refundRequest : AdmissionRequest where
  requestedAction := some .refund
  issueType := some "billing_refund"
  tenantId := "tenant"
  customerId := "customer"
  currentMessageId := "m2".toList
  turnGroupId := "turn"

def refundTurn : List Char := "refund bill_1".toList

def refundConversation : List ConversationItem :=
  [[("role", .string "assistant"), ("content", .string "bill_7?")]]

def otherConversation : List ConversationItem :=
  [[("role", .string "assistant"), ("content", .string "bill_8!")]]

theorem refundTurn_admitted :
    (resolveActionAdmissionV2 plainTables refundTurn refundConversation
      refundRequest).toOption.any (fun result => decide (result.status = .admitted) &&
        decide (result.actionType = some .refund)) = true := by
  rw [admissionRead.same]
  decide +kernel

theorem resolveActionAdmissionV2_grounded_refund :
    ∃ result, resolveActionAdmissionV2 plainTables refundTurn refundConversation refundRequest =
        .ok result ∧ result.status = .admitted ∧
      (∃ text source, result.fieldSources = [source] ∧
        GroundedInConversation plainTables refundTurn refundConversation
          refundRequest.currentMessageId result text source ∧
        ArgumentsFrom text result.extractedArguments) ∧
      resolveActionAdmissionV2 plainTables refundTurn otherConversation refundRequest =
        .ok result := by
  have grounds := resolveActionAdmissionV2_grounded plainTables refundTurn refundConversation
    refundRequest
  obtain ⟨result, resolved, admits⟩ := ok_of_any refundTurn_admitted
  have status : result.status = .admitted :=
    of_decide_eq_true (Bool.and_eq_true_iff.mp admits).1
  refine ⟨result, resolved, status, grounds.1 result resolved status, ?_⟩
  rw [← resolved]
  apply grounds.2
  exact .cons (.inr ⟨by decide, by decide⟩) .nil

end SupportGuard
