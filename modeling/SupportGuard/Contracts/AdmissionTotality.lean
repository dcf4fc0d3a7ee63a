import SupportGuard.Contracts.AdmissionGrounds
import SupportGuard.Foundation.RegexDerivation

/-! # Admission reads every text

The fields that the patterns find are there, are not empty and are numbers where they have to
be, so the resolution of an admission fails on no text of a customer. -/

namespace SupportGuard

open Foundation Fallible

/-! ## Fields -/

/-- The text is a field as the pattern finds it. -/
abbrev IsField (tables : TextTables) (regex : Regex) (groups : List Nat) (text : List Char) :
    Prop :=
  Regex.Take (regex.standing groups) tables.isWord text

section Fields

variable {tables : TextTables} {regex : Regex} {groups : List Nat}

theorem fieldMatch_returns (fieldName : String) {message : AcceptedMessage} {found : RegexMatch}
    {stop : Nat} (reads : regex.readsField groups = true)
    (matched : found.Of tables.isWord regex (message.content.take stop)) :
    ∃ entry, fieldMatch fieldName groups message found = .ok entry ∧
      IsField tables regex groups entry.1 := by
  rcases Regex.span_of_readsField reads matched with ⟨span, chosen, nonempty, within, taken⟩
  have positive : 0 < span.2 := by omega
  have short : span.2 ≤ stop :=
    Nat.le_trans within (List.length_take_le stop message.content)
  rw [textSlice_take short] at taken
  rw [fieldMatch, chosen]
  simp only [fieldSource, dif_pos positive]
  exact ⟨_, rfl, taken⟩

theorem fieldMatches_return (tables : TextTables) (fieldName : String)
    (allowed : Option AllowedSpans) (messages : List AcceptedMessage)
    (reads : regex.readsField groups = true) :
    ∃ found, fieldMatches tables fieldName regex groups allowed messages = .ok found ∧
      ∀ entry ∈ found, IsField tables regex groups entry.1 := by
  have each : ∀ message ∈ messages, ∃ entries,
      (((spansOf allowed message).flatMap fun span =>
        regex.finditer tables.isWord message.content span.1 span.2).mapM
          (fieldMatch fieldName groups message) = .ok entries) := by
    intro message _
    apply mapM_returns
    intro place among
    rcases List.mem_flatMap.mp among with ⟨span, _, found⟩
    rcases fieldMatch_returns fieldName reads (Regex.finditer_of found) with
      ⟨entry, matched, _⟩
    exact ⟨entry, matched⟩
  rcases mapM_returns each with ⟨all, mapped⟩
  have returned : fieldMatches tables fieldName regex groups allowed messages =
      .ok all.flatten := by
    rw [fieldMatches, mapped]
    rfl
  refine ⟨all.flatten, returned, ?_⟩
  intro entry member
  rcases List.mem_flatten.mp member with ⟨entries, among, inside⟩
  rcases mem_of_mapM mapped among with ⟨message, _, matchedMessage⟩
  rcases mem_of_mapM matchedMessage inside with ⟨place, there, matchedPlace⟩
  rcases List.mem_flatMap.mp there with ⟨span, _, found⟩
  rcases fieldMatch_returns fieldName reads (Regex.finditer_of found) with
    ⟨other, matched, field⟩
  rw [matched] at matchedPlace
  cases matchedPlace
  exact field

/-- The groups hold decimal digits, and not too many of them. -/
def readsNumber (regex : Regex) (groups : List Nat) : Bool :=
  regex.readsField groups && (regex.standing groups).all fun body =>
    0 < body.shortest && body.takesOnly (· = .digit) && body.longest.any (· ≤ 7)

theorem readInteger_returns {text : List Char} (reads : readsNumber regex groups = true)
    (field : IsField tables regex groups text) :
    ∃ value : Nat, readInteger text = .ok (value : Int) := by
  rw [readsNumber, Bool.and_eq_true, List.all_eq_true] at reads
  have bodies := reads.2
  simp only [Bool.and_eq_true, decide_eq_true_eq] at bodies
  have long : 1 ≤ text.length := field.least fun body among => (bodies body among).1.1
  have short : text.length ≤ 7 := field.greatest fun body among => by
    rcases (Option.any_eq_true _ _).mp (bodies body among).2 with ⟨most, bounded, small⟩
    exact ⟨most, bounded, of_decide_eq_true small⟩
  have digits : ∀ character ∈ text, (decimalDigit? character).isSome = true := by
    intro character among
    rcases field.held (fun body member => (bodies body member).1.2) character among with
      ⟨item, digit, held⟩
    rw [of_decide_eq_true digit] at held
    exact held
  have nonempty : text ≠ [] := List.ne_nil_of_length_pos long
  have allowed : text.length ≤ maxStrDigits := Nat.le_trans short (by decide)
  rcases textInt?_digits nonempty digits allowed with ⟨value, read⟩
  exact ⟨value, by rw [readInteger, read]; rfl⟩

end Fields

/-! ## The patterns of the fields -/

/-- The fields that the patterns read. Both records of a duplicate charge take part in the
relation. -/
theorem fieldPatterns_read :
    (AdmissionPattern.billingId.readsField [0] && AdmissionPattern.apiKeyRef.readsField [0] &&
      readsNumber AdmissionPattern.concurrencyTarget [1] &&
      readsNumber AdmissionPattern.rpmTarget [1, 2] &&
      AdmissionPattern.planTarget.readsField [1, 2] &&
      [AdmissionPattern.duplicateBillingRelationZh,
        AdmissionPattern.duplicateBillingRelationEn].all fun regex =>
          regex.readsField [1] && regex.captures [2]) = true := by
  rw [AdmissionPattern.billingIdRead.same, AdmissionPattern.apiKeyRefRead.same,
    AdmissionPattern.concurrencyTargetRead.same, AdmissionPattern.rpmTargetRead.same,
    AdmissionPattern.planTargetRead.same, AdmissionPattern.duplicateBillingRelationZhRead.same,
    AdmissionPattern.duplicateBillingRelationEnRead.same]
  decide +kernel

theorem billingId_readsField : AdmissionPattern.billingId.readsField [0] = true := by
  have read := fieldPatterns_read
  simp only [Bool.and_eq_true] at read
  exact read.1.1.1.1.1

theorem apiKeyRef_readsField : AdmissionPattern.apiKeyRef.readsField [0] = true := by
  have read := fieldPatterns_read
  simp only [Bool.and_eq_true] at read
  exact read.1.1.1.1.2

theorem concurrencyTarget_readsNumber :
    readsNumber AdmissionPattern.concurrencyTarget [1] = true := by
  have read := fieldPatterns_read
  simp only [Bool.and_eq_true] at read
  exact read.1.1.1.2

theorem rpmTarget_readsNumber : readsNumber AdmissionPattern.rpmTarget [1, 2] = true := by
  have read := fieldPatterns_read
  simp only [Bool.and_eq_true] at read
  exact read.1.1.2

theorem planTarget_readsField : AdmissionPattern.planTarget.readsField [1, 2] = true := by
  have read := fieldPatterns_read
  simp only [Bool.and_eq_true] at read
  exact read.1.2

theorem duplicateBillingRelation_readsField :
    ∀ regex ∈ [AdmissionPattern.duplicateBillingRelationZh,
        AdmissionPattern.duplicateBillingRelationEn],
      regex.readsField [1] = true ∧ regex.captures [2] = true := by
  intro regex member
  have read := fieldPatterns_read
  rw [Bool.and_eq_true] at read
  have both := List.all_eq_true.mp read.2 regex member
  rw [Bool.and_eq_true] at both
  exact both

theorem readsField_of_readsNumber {regex : Regex} {groups : List Nat}
    (reads : readsNumber regex groups = true) : regex.readsField groups = true := by
  rw [readsNumber, Bool.and_eq_true] at reads
  exact reads.1

/-! ## The resolution -/

section Resolution

variable (tables : TextTables)

theorem mem_of_mem_uniqueMatches (normalize : Bool) {found : List FieldMatch}
    {entry : FieldMatch} (member : entry ∈ uniqueMatches tables normalize found) :
    entry ∈ found :=
  mem_of_mem_firstByKey member

theorem billingRelations_return (messages : List AcceptedMessage) :
    ∃ relations, billingRelations tables messages = .ok relations := by
  rw [billingRelations]
  apply bind_returns (Classical.choose_spec (mapM_returns ?_))
  · exact ⟨_, rfl⟩
  · intro message _
    apply mapM_returns
    intro relation among
    rcases List.mem_flatMap.mp among with ⟨regex, one, found⟩
    have matched := Regex.finditer_of found
    have patterns := duplicateBillingRelation_readsField regex one
    rcases fieldMatch_returns "billing_record_id" patterns.1 matched with
      ⟨duplicate, made, _⟩
    apply bind_returns made
    have numbered : 0 ∉ [2] := by decide
    rcases RegexMatch.findSome?_span numbered (matched.derived.captured patterns.2) with
      ⟨index, span, chosen, _⟩
    have original : relation.span 2 = some span := by
      cases taking : relation.span 2 with
      | none =>
          rw [List.findSome?_cons, taking] at chosen
          cases chosen
      | some other =>
          rw [List.findSome?_cons, taking] at chosen
          exact chosen
    rw [groupText, original]
    exact ⟨_, rfl⟩

theorem duplicateRelationRefundTarget_returns (references : List FieldMatch)
    (messages : List AcceptedMessage) :
    ∃ target, duplicateRelationRefundTarget tables references messages = .ok target := by
  rcases billingRelations_return tables messages with ⟨relations, related⟩
  rw [duplicateRelationRefundTarget]
  apply bind_returns related
  split
  · dsimp only
    split <;> exact ⟨_, rfl⟩
  · exact ⟨_, rfl⟩

theorem refundFields_return (messages : List AcceptedMessage) :
    ∃ fields, refundFields tables messages = .ok fields := by
  rcases fieldMatches_return tables "billing_record_id" none messages
    billingId_readsField with ⟨found, matched, _⟩
  rw [refundFields]
  apply bind_returns matched
  split
  · exact ⟨_, rfl⟩
  · exact ⟨_, rfl⟩
  · rcases duplicateRelationRefundTarget_returns tables (uniqueMatches tables true found)
      messages with ⟨target, resolved⟩
    apply bind_returns resolved
    split <;> exact ⟨_, rfl⟩

theorem apiKeyFields_return (domainContext : Bool) (messages : List AcceptedMessage) :
    ∃ fields, apiKeyFields tables domainContext messages = .ok fields := by
  rcases fieldMatches_return tables "api_key_ref"
    (some (actionFieldSpans tables keyGrammar domainContext messages)) messages
    apiKeyRef_readsField with ⟨found, matched, _⟩
  rw [apiKeyFields]
  apply bind_returns matched
  split <;> exact ⟨_, rfl⟩

theorem numericTargets_return {regex : Regex} {groups : List Nat}
    (reads : readsNumber regex groups = true) (make : Int → EntitlementTarget)
    {found : List FieldMatch} (fields : ∀ entry ∈ found, IsField tables regex groups entry.1) :
    ∃ targets, numericTargets make found = .ok targets := by
  apply mapM_returns
  intro entry among
  rcases readInteger_returns reads (fields entry among) with ⟨value, read⟩
  exact bind_returns read ⟨_, rfl⟩

theorem entitlementTargets_return (allowed : AllowedSpans) (messages : List AcceptedMessage) :
    ∃ targets, entitlementTargets tables allowed messages = .ok targets := by
  rw [entitlementTargets]
  rcases fieldMatches_return tables "target.concurrency_limit" (some allowed)
    messages (readsField_of_readsNumber concurrencyTarget_readsNumber) with
    ⟨concurrency, concurrencyFound, concurrencyFields⟩
  apply bind_returns concurrencyFound
  rcases numericTargets_return tables concurrencyTarget_readsNumber .concurrencyLimit
    (fun entry among => concurrencyFields entry
      (mem_of_mem_uniqueMatches tables false among)) with ⟨limits, read⟩
  apply bind_returns read
  rcases fieldMatches_return tables "target.rpm_limit" (some allowed) messages
    (readsField_of_readsNumber rpmTarget_readsNumber) with ⟨rpm, rpmFound, rpmFields⟩
  apply bind_returns rpmFound
  rcases numericTargets_return tables rpmTarget_readsNumber .rpmLimit
    (fun entry among => rpmFields entry
      (mem_of_mem_uniqueMatches tables false among)) with ⟨rpmLimits, rpmRead⟩
  apply bind_returns rpmRead
  rcases fieldMatches_return tables "target.plan" (some allowed) messages
    planTarget_readsField with ⟨plans, plansFound, _⟩
  exact bind_returns plansFound ⟨_, rfl⟩

theorem entitlementFields_return (requestedConcurrencyLimit : Option Int) (domainContext : Bool)
    (messages : List AcceptedMessage) :
    ∃ fields, entitlementFields tables requestedConcurrencyLimit domainContext messages =
      .ok fields := by
  rcases entitlementTargets_return tables
    (actionFieldSpans tables entitlementGrammar domainContext messages) messages with
    ⟨targets, named⟩
  rw [entitlementFields]
  apply bind_returns named
  split
  · exact ⟨_, rfl⟩
  · split <;> exact ⟨_, rfl⟩
  · exact ⟨_, rfl⟩

theorem actionFields_return (request : AdmissionRequest) (trustedContinuation : Option ActionType)
    (context : List Char) (messages : List AcceptedMessage) (parsed : ActionType) :
    ∃ fields, actionFields tables request trustedContinuation context messages parsed =
      .ok fields := by
  cases parsed with
  | refund => exact refundFields_return tables messages
  | apiKeyRevocation => exact apiKeyFields_return tables _ messages
  | entitlementChange => exact entitlementFields_return tables _ _ messages

theorem consideredMessages_return (request : AdmissionRequest)
    (preceding : List AcceptedMessage) (current : AcceptedMessage)
    (currentIntents : List ActionType) :
    ∃ messages, consideredMessages tables request preceding current currentIntents =
      .ok messages := by
  rcases fieldMatches_return tables "x" none
    (preceding.drop (preceding.length - 1)) billingId_readsField with ⟨found, matched, _⟩
  rw [consideredMessages]
  apply bind_returns matched
  dsimp only
  split
  · exact ⟨_, rfl⟩
  · split <;> exact ⟨_, rfl⟩

/-- The role of the item is a value that a set can be asked about. -/
def RoleHashable (item : ConversationItem) : Prop :=
  ∃ customer, fromCustomer item = .ok customer

theorem acceptItem_returns_iff (currentMessageId : List Char) (index : Nat)
    {item : ConversationItem} :
    (∃ accepted, acceptItem tables currentMessageId index item = .ok accepted) ↔
      RoleHashable item := by
  constructor
  · intro returns
    rcases returns with ⟨accepted, returned⟩
    rw [acceptItem, bind_eq_ok_iff] at returned
    rcases returned with ⟨customer, heard, _⟩
    exact ⟨customer, heard⟩
  · intro hashable
    rcases hashable with ⟨customer, heard⟩
    rw [acceptItem]
    apply bind_returns heard
    dsimp only
    split <;> exact ⟨_, rfl⟩

theorem acceptItems_return_iff (currentMessageId : List Char) (index : Nat)
    {recent : List ConversationItem} :
    (∃ accepted, acceptItems tables currentMessageId index recent = .ok accepted) ↔
      ∀ item ∈ recent, RoleHashable item := by
  induction recent generalizing index with
  | nil => exact ⟨fun _ item among => absurd among List.not_mem_nil, fun _ => ⟨[], rfl⟩⟩
  | cons item later induction =>
      rw [List.forall_mem_cons, ← acceptItem_returns_iff tables currentMessageId index,
        ← induction (index + 1)]
      constructor
      · intro returns
        rcases returns with ⟨accepted, returned⟩
        simp only [acceptItems, bind_eq_ok_iff] at returned
        rcases returned with ⟨first, taken, rest, others, _⟩
        exact ⟨⟨first, taken⟩, rest, others⟩
      · intro both
        rcases both with ⟨⟨first, taken⟩, rest, others⟩
        rw [acceptItems]
        exact bind_returns taken (bind_returns others ⟨_, rfl⟩)

/-- The resolution fails on no text; a role that cannot be hashed is all that stops it. -/
theorem resolveActionAdmissionV2_returns_iff (currentTurn : List Char)
    (recent : List ConversationItem) (request : AdmissionRequest) :
    (∃ result, resolveActionAdmissionV2 tables currentTurn recent request = .ok result) ↔
      ∀ item ∈ recent, RoleHashable item := by
  rw [← acceptItems_return_iff tables request.currentMessageId 0]
  constructor
  · intro returns
    rcases returns with ⟨result, returned⟩
    simp only [resolveActionAdmissionV2, precedingMessages, bind_eq_ok_iff] at returned
    rcases returned with ⟨preceding, ⟨accepted, read, _⟩, _⟩
    exact ⟨accepted, read⟩
  · intro accepts
    rcases accepts with ⟨accepted, read⟩
    have preceding : precedingMessages tables request.currentMessageId recent =
        .ok (accepted.drop (accepted.length - 5)) := by
      rw [precedingMessages, read]
      rfl
    rw [resolveActionAdmissionV2]
    apply bind_returns preceding
    dsimp only
    apply bind_returns (consideredMessages_return tables _ _ _ _).choose_spec
    split
    · exact ⟨_, rfl⟩
    · exact ⟨_, rfl⟩
    · exact ⟨_, rfl⟩
    · exact ⟨_, rfl⟩
    · split
      · exact ⟨_, rfl⟩
      split
      · exact ⟨_, rfl⟩
      · apply bind_returns (actionFields_return tables _ _ _ _ _).choose_spec
        split <;> exact ⟨_, rfl⟩

end Resolution

end SupportGuard
